import CallTree.Proofs.ReadData

/-!
# Reading what was written

A value that was written as a log line is read back from it, with the entries of its mappings in the
order in which they were written (`read_write`). Not all values are: a double is written by its
digits, tuples come back as lists, and keys that are no texts as texts. `Legible` says which values
are, and that keys are distinct belongs to it, since of two entries with one key the reader keeps
the later.

`ReadsAs cs v` says that characters are read as a value wherever they stand: with any offset, in
front of anything that can stand behind a value, and with a bound for the recursion that is at least
their number. Each layer is shown for its pieces (a digit, an escape, an item, an entry), and for
what they make by induction along the pieces.
-/

namespace CallTree.Json

open CallTree.Report CallTree.Value CallTree.Decimal CallTree.Text

/-! ## Texts -/

/-- Whether an escape stands for a character: by a letter, or by the number of the character. -/
def standsFor (c : Char) : List Char → Bool
  | ['\\', e] => e != 'u' && escaped? e == some c
  | ['\\', 'u', x, y, z, w] => hex4? x y z w == some c.toNat
  | _ => false

theorem standsFor_escapeChar {c : Char} (h : isVerbatim c = false) :
    standsFor c (escapeChar false c) = true := by
  by_cases hlow : c.toNat < 0x20
  · exact forall_char_lt (P := fun c ↦ standsFor c (escapeChar false c) = true) (by decide) hlow
  · simp only [isVerbatim, Nat.not_lt.mp hlow, decide_true, Bool.true_and, Bool.and_eq_false_iff,
      bne_eq_false_iff_eq] at h
    rcases h with rfl | rfl <;> decide

theorem toNat_lt_of_not_isVerbatim {c : Char} (h : isVerbatim c = false) : c.toNat < 128 := by
  simp only [isVerbatim, Bool.and_eq_false_iff, decide_eq_false_iff_not, bne_eq_false_iff_eq] at h
  rcases h with (h | rfl) | rfl
  · omega
  · decide
  · decide

/-- Where no half of a pair was read before, a number of the ASCII range is its character. -/
theorem pushNumber_toNat {c : Char} (h : c.toNat < 128) (acc : List Char) :
    pushNumber none c.toNat acc = c :: acc ∧ isHighHalf c.toNat = false := by
  have hhigh : isHighHalf c.toNat = false := by
    simp only [isHighHalf, Bool.and_eq_false_iff, decide_eq_false_iff_not]
    omega
  have hlow : isLowHalf c.toNat = false := by
    simp only [isLowHalf, Bool.and_eq_false_iff, decide_eq_false_iff_not]
    omega
  refine ⟨?_, hhigh⟩
  rw [pushNumber, charOf, hhigh, hlow, Char.ofNat_toNat]
  rfl

theorem readString_verbatim {c : Char} (h : isVerbatim c = true) (start pos : Nat)
    (acc cs : List Char) :
    readString start pos none acc (c :: cs) = readString start (pos + 1) none (c :: acc) cs := by
  simp only [isVerbatim, Bool.and_eq_true, decide_eq_true_eq, bne_iff_ne, ne_eq] at h
  obtain ⟨⟨hlow, hquote⟩, hslash⟩ := h
  rw [readString]
  · exact if_neg (Nat.not_lt.mpr hlow)
  · exact hquote
  · exact fun _ _ _ _ _ h _ ↦ hslash h
  · exact fun _ h _ ↦ hslash h
  · exact fun h _ ↦ hslash h
  · exact fun _ _ h _ ↦ hslash h

theorem readString_letter {c e : Char} (hu : e ≠ 'u') (he : escaped? e = some c) (start pos : Nat)
    (acc cs : List Char) :
    readString start pos none acc ('\\' :: e :: cs) =
      readString start (pos + 2) none (c :: acc) cs := by
  rw [readString]
  · rw [he]
  · exact fun _ _ _ _ _ h _ ↦ hu h
  · exact hu

theorem readString_number {c x y z w : Char} (h : hex4? x y z w = some c.toNat)
    (hc : c.toNat < 128) (start pos : Nat) (acc : List Char) {cs : List Char} (hcs : cs ≠ []) :
    readString start pos none acc ('\\' :: 'u' :: x :: y :: z :: w :: cs) =
      readString start (pos + 6) none (c :: acc) cs := by
  obtain ⟨hpush, hhigh⟩ := pushNumber_toNat hc acc
  rw [readString, h]
  simp [hpush, hhigh, hcs]

/-- One character of a text. -/
theorem readString_escapeChar (start pos : Nat) (acc : List Char) (c : Char) {cs : List Char}
    (hcs : cs ≠ []) :
    readString start pos none acc (escapeChar false c ++ cs) =
      readString start (pos + (escapeChar false c).length) none (c :: acc) cs := by
  cases hc : isVerbatim c with
  | true =>
    rw [escapeChar_of_isVerbatim hc]
    exact readString_verbatim hc start pos acc cs
  | false =>
    have hstands := standsFor_escapeChar hc
    generalize escapeChar false c = es at hstands
    rw [standsFor.eq_def] at hstands
    split at hstands
    · rw [Bool.and_eq_true, bne_iff_ne, beq_iff_eq] at hstands
      exact readString_letter hstands.1 hstands.2 start pos acc cs
    · rw [beq_iff_eq] at hstands
      exact readString_number hstands (toNat_lt_of_not_isVerbatim hc) start pos acc hcs
    · cases hstands

/-- A text behind its opening quote. -/
theorem readString_written (start pos : Nat) (acc s rest : List Char) :
    readString start pos none acc (written s ++ '"' :: rest) =
      .ok (acc.reverse ++ s, pos + (written s).length + 1, rest) := by
  induction s generalizing pos acc with
  | nil =>
    rw [List.append_nil]
    rfl
  | cons c s ih =>
    rw [written_cons, List.append_assoc, readString_escapeChar start pos acc c (by simp), ih]
    simp [Nat.add_assoc]

/-! ## Whole numbers -/

/-- What may stand behind a value: nothing, a comma or a closing bracket. -/
def Stops (rest : List Char) : Prop := ∀ c ∈ rest.head?, c = ',' ∨ c = ']' ∨ c = '\x7d'

theorem stops_nil : Stops [] := by simp [Stops]

theorem stops_cons {c : Char} (h : c = ',' ∨ c = ']' ∨ c = '\x7d') (rest : List Char) :
    Stops (c :: rest) := by
  simpa [Stops] using h

theorem takeDigits_append {ds rest : List Char} (hds : ∀ c ∈ ds, c.isDigit = true)
    (hrest : Stops rest) : takeDigits (ds ++ rest) = (ds.filterMap asciiDigit?, rest) := by
  have hend : rest.takeWhile Char.isDigit = [] ∧ rest.dropWhile Char.isDigit = rest := by
    cases rest with
    | nil => exact ⟨rfl, rfl⟩
    | cons c rest =>
      have hc : c.isDigit = false := by
        rcases hrest c rfl with rfl | rfl | rfl <;> decide
      simp [hc]
  rw [takeDigits, List.takeWhile_append_of_pos hds, List.dropWhile_append_of_pos hds, hend.1,
    hend.2, List.append_nil]

theorem takeFraction_of_stops {rest : List Char} (h : Stops rest) :
    takeFraction rest = ([], rest) := by
  cases rest with
  | nil => rfl
  | cons c rest => rcases h c rfl with rfl | rfl | rfl <;> rfl

theorem takePower_of_stops {rest : List Char} (h : Stops rest) :
    takePower rest = (none, rest) := by
  cases rest with
  | nil => rfl
  | cons c rest => rcases h c rfl with rfl | rfl | rfl <;> rfl

/-- The digits of a number stand for it. -/
theorem ofDigits_toDigits (n : Nat) :
    ofDigits 10 ((Nat.toDigits 10 n).filterMap asciiDigit?) = n := by
  have hdigits : (Nat.toDigits 10 n).filterMap asciiDigit? =
      (Nat.toDigits 10 n).map fun c ↦ c.toNat - '0'.toNat := by
    rw [← List.filterMap_eq_map]
    refine List.filterMap_congr fun c hc ↦ ?_
    rw [asciiDigit?, if_pos (Nat.isDigit_of_mem_toDigits (by decide) (by decide) hc)]
    rfl
  rw [ofDigits, hdigits, List.foldl_map, ← Nat.ofDigitChars_eq_foldl,
    Nat.ofDigitChars_ten_toDigits]

/-- Only zero is written with a zero in front. -/
theorem head?_toDigits {n : Nat} (h : n ≠ 0) : (Nat.toDigits 10 n).head? ≠ some '0' := by
  induction n using Nat.strongRecOn with
  | _ n ih =>
    rw [Nat.toDigits_eq_if (by decide)]
    split
    · next hlt =>
      interval_cases n <;> simp_all [Nat.digitChar]
    · next hle =>
      rw [List.head?_append_of_ne_nil _ Nat.toDigits_ne_nil]
      exact ih (n / 10) (by omega) (by omega)

theorem takeWhole_toDigits (n : Nat) {rest : List Char} (hrest : Stops rest) :
    takeWhole (Nat.toDigits 10 n ++ rest) =
      ((Nat.toDigits 10 n).filterMap asciiDigit?, rest) := by
  by_cases hn : n = 0
  · subst hn
    rfl
  · rw [takeWhole]
    · refine takeDigits_append (fun c hc ↦ ?_) hrest
      exact Nat.isDigit_of_mem_toDigits (by decide) (by decide) hc
    · intro cs hcs
      have hhead : (Nat.toDigits 10 n ++ rest).head? = (Nat.toDigits 10 n).head? :=
        List.head?_append_of_ne_nil _ Nat.toDigits_ne_nil
      rw [hcs] at hhead
      exact head?_toDigits hn hhead.symm

/-- A whole number has no more digits than are read. -/
def ReadsWhole (n : Int) : Prop := (Nat.toDigits 10 n.natAbs).length ≤ maxWholeDigits

theorem readsWhole_iff {n : Int} : ReadsWhole n ↔ isLong n = false := by
  rw [isLong, decide_eq_false_iff_not, Nat.not_lt]
  exact Iff.rfl

/-- What is read of a number whose digits are known. -/
theorem readNumber_of_takeWhole (neg : Bool) {cs rest : List Char} {whole : List Nat} {k : Nat}
    (hwhole : takeWhole cs = (whole, rest)) (hne : whole ≠ [])
    (hlength : whole.length ≤ maxWholeDigits) (hrest : Stops rest)
    (hsign : ∀ tail, cs ≠ '-' :: tail)
    (hk : (if neg then '-' :: cs else cs).length = k + rest.length) (pos : Nat) :
    readNumber pos (if neg then '-' :: cs else cs) =
      .ok (.int (if neg then -(ofDigits 10 whole : Int) else ofDigits 10 whole),
        pos + k, rest) := by
  have hstop : (if neg then '-' :: cs else cs).length - rest.length = k := by omega
  obtain ⟨d, ds, rfl⟩ := List.exists_cons_of_ne_nil hne
  cases neg with
  | false =>
    rw [if_neg Bool.false_ne_true] at hstop ⊢
    rw [readNumber, hwhole]
    · simpa [takeFraction_of_stops hrest, takePower_of_stops hrest, hstop] using hlength
    · exact hsign
  | true =>
    rw [if_pos rfl] at hstop ⊢
    rw [readNumber, hwhole]
    simp only [takeFraction_of_stops hrest, takePower_of_stops hrest, hstop]
    simpa using hlength

theorem toList_toString_int (n : Int) :
    (toString n).toList =
      if n < 0 then '-' :: Nat.toDigits 10 n.natAbs else Nat.toDigits 10 n.natAbs := by
  cases n with
  | ofNat m =>
    show (String.ofList (Nat.toDigits 10 m)).toList = _
    rw [String.toList_ofList, if_neg (by simp)]
    rfl
  | negSucc m =>
    show ("-" ++ String.ofList (Nat.toDigits 10 (m + 1))).toList = _
    rw [if_pos (Int.negSucc_lt_zero m)]
    simp

theorem readNumber_int {n : Int} (h : ReadsWhole n) (pos : Nat) {rest : List Char}
    (hrest : Stops rest) :
    readNumber pos ((toString n).toList ++ rest) =
      .ok (.int n, pos + (toString n).toList.length, rest) := by
  have hwhole := takeWhole_toDigits n.natAbs hrest
  have hlength : ((Nat.toDigits 10 n.natAbs).filterMap asciiDigit?).length ≤ maxWholeDigits :=
    (List.length_filterMap_le _ _).trans h
  -- the first of the digits is one, so that there is some digit, and no sign in front of it
  obtain ⟨c, cs, hcons⟩ := List.exists_cons_of_ne_nil (@Nat.toDigits_ne_nil n.natAbs 10)
  have hc : c.isDigit = true :=
    Nat.isDigit_of_mem_toDigits (by decide) (by decide) (hcons ▸ List.mem_cons_self)
  have hne : (Nat.toDigits 10 n.natAbs).filterMap asciiDigit? ≠ [] := by
    simp [hcons, asciiDigit?, hc]
  have hsign : ∀ tail, Nat.toDigits 10 n.natAbs ++ rest ≠ '-' :: tail := by
    intro tail htail
    rw [hcons, List.cons_append, List.cons.injEq] at htail
    rw [htail.1] at hc
    exact absurd hc (by decide)
  rw [toList_toString_int]
  by_cases hneg : n < 0
  · have habs : -(n.natAbs : Int) = n := by omega
    have hread := readNumber_of_takeWhole true (k := (Nat.toDigits 10 n.natAbs).length + 1)
      hwhole hne hlength hrest hsign (by simp; omega) pos
    rw [if_pos rfl, if_pos rfl, ofDigits_toDigits, habs] at hread
    rw [if_pos hneg]
    exact hread
  · have habs : (n.natAbs : Int) = n := by omega
    have hread := readNumber_of_takeWhole false (k := (Nat.toDigits 10 n.natAbs).length)
      hwhole hne hlength hrest hsign (by simp) pos
    rw [if_neg Bool.false_ne_true, if_neg Bool.false_ne_true, ofDigits_toDigits, habs] at hread
    rw [if_neg hneg]
    exact hread

/-! ## Values -/

/-- Entries sorted by key. -/
def sorted {α : Type} (es : List (Value × α)) : List (Value × α) :=
  es.mergeSort fun e f ↦ (keyLe? e.1 f.1).getD true

mutual

/-- A value with the entries of its mappings sorted by key, at every depth. -/
def sortKeys : Value → Value
  | .list xs => .list (sortKeysAll xs)
  | .map es => .map (sorted (sortKeysIn es))
  | v => v

/-- The values of a list with sorted mappings. -/
def sortKeysAll : List Value → List Value
  | [] => []
  | x :: xs => sortKeys x :: sortKeysAll xs

/-- The entries of a mapping with sorted mappings in them. -/
def sortKeysIn : List (Value × Value) → List (Value × Value)
  | [] => []
  | (k, v) :: es => (k, sortKeys v) :: sortKeysIn es

end

theorem sortKeysAll_eq_map (xs : List Value) : sortKeysAll xs = xs.map sortKeys := by
  induction xs with
  | nil => rfl
  | cons x xs ih => rw [sortKeysAll, ih, List.map_cons]

theorem sortKeysIn_eq_map (es : List (Value × Value)) :
    sortKeysIn es = es.map fun e ↦ (e.1, sortKeys e.2) := by
  induction es with
  | nil => rfl
  | cons e es ih => rw [sortKeysIn, ih, List.map_cons]

/-- A value that is read back as it is: null, a truth value, a whole number that is not too long, a
text, a list of such values, or a mapping of distinct texts to such values. -/
inductive Legible : Value → Prop where
  | null : Legible .null
  | bool (b : Bool) : Legible (.bool b)
  | int {n : Int} (h : ReadsWhole n) : Legible (.int n)
  | str (s : String) : Legible (.str s)
  | list {xs : List Value} (h : ∀ x ∈ xs, Legible x) : Legible (.list xs)
  | map {es : List (Value × Value)} (htexts : TextKeys es) (hdistinct : (es.map Prod.fst).Nodup)
      (h : ∀ e ∈ es, Legible e.2) : Legible (.map es)

/-- Whether the character is neither a gap, nor the end of a list or mapping, nor the mark of a byte
order. -/
def opensValue (c : Char) : Bool :=
  !isGap c && c != ']' && c != '\x7d' && c != Char.ofNat 0xfeff

/-- Characters begin as a value does. -/
def Opens (cs : List Char) : Prop := ∃ c tail, cs = c :: tail ∧ opensValue c = true

/-- Characters are read as a value wherever they stand. -/
structure ReadsAs (cs : List Char) (v : Value) : Prop where
  opens : Opens cs
  reads : ∀ {fuel rest}, cs.length ≤ fuel → Stops rest → ∀ pos,
    readValue fuel pos (cs ++ rest) = .ok (v, pos + cs.length, rest)

theorem opens_cons {c : Char} (h : opensValue c = true) (cs : List Char) : Opens (c :: cs) :=
  ⟨c, cs, rfl, h⟩

theorem Opens.append {cs : List Char} (h : Opens cs) (rest : List Char) : Opens (cs ++ rest) := by
  obtain ⟨c, tail, rfl, hc⟩ := h
  exact opens_cons hc (tail ++ rest)

theorem Opens.skip_eq {cs : List Char} (h : Opens cs) (pos : Nat) : skip pos cs = (pos, cs) := by
  obtain ⟨c, tail, rfl, hc⟩ := h
  simp only [opensValue, Bool.and_eq_true, Bool.not_eq_true'] at hc
  rw [skip, hc.1.1.1, if_neg Bool.false_ne_true]

theorem Opens.skip_blank {cs : List Char} (h : Opens cs) (pos : Nat) :
    skip pos (' ' :: cs) = (pos + 1, cs) := h.skip_eq (pos + 1)

/-- What is read in one step, with the rest of the text as it is. -/
theorem readsAs_of_succ {c : Char} {tail : List Char} {v : Value} (hc : opensValue c = true)
    (h : ∀ {fuel rest}, (c :: tail).length ≤ fuel + 1 → Stops rest → ∀ pos,
      readValue (fuel + 1) pos (c :: tail ++ rest) = .ok (v, pos + (c :: tail).length, rest)) :
    ReadsAs (c :: tail) v := by
  refine ⟨opens_cons hc tail, fun {fuel rest} hfuel hrest ↦ ?_⟩
  cases fuel with
  | zero => exact absurd hfuel (by simp)
  | succ fuel => exact h hfuel hrest

theorem readsAs_null : ReadsAs "null".toList .null :=
  readsAs_of_succ (by decide) fun _ _ _ ↦ rfl

theorem readsAs_bool (b : Bool) : ReadsAs (if b then "true" else "false").toList (.bool b) := by
  cases b with
  | true => exact readsAs_of_succ (by decide) fun _ _ _ ↦ rfl
  | false => exact readsAs_of_succ (by decide) fun _ _ _ ↦ rfl

/-- A text in its quotes, in front of anything. -/
theorem readString_writeString (s : String) (pos : Nat) (rest : List Char) :
    ∃ tail, writeString false s ++ rest = '"' :: tail ∧
      readString pos (pos + 1) none [] tail =
        .ok (s.toList, pos + (writeString false s).length, rest) := by
  refine ⟨written s.toList ++ '"' :: rest, by simp [writeString, written], ?_⟩
  have hlength : pos + 1 + (written s.toList).length + 1 = pos + (writeString false s).length := by
    show _ = pos + ('"' :: (written s.toList ++ ['"'])).length
    simp only [List.length_cons, List.length_append, List.length_nil]
    omega
  rw [readString_written, hlength]
  rfl

theorem readsAs_str (s : String) : ReadsAs (writeString false s) (.str s) := by
  refine readsAs_of_succ (by decide) fun {fuel rest} _ _ pos ↦ ?_
  obtain ⟨tail, htail, hread⟩ := readString_writeString s pos rest
  show readValue (fuel + 1) pos (writeString false s ++ rest) = _
  rw [htail, readValue, hread]
  show Except.ok (Value.str (String.ofList s.toList), _, rest) = _
  rw [String.ofList_toList]
  rfl

/-- What begins with a digit, or with a sign and a digit, is read as a number. -/
theorem readValue_eq_readNumber {c : Char} {cs : List Char}
    (h : c.isDigit = true ∨ c = '-' ∧ ∃ d ds, cs = d :: ds ∧ d.isDigit = true) (fuel pos : Nat) :
    readValue (fuel + 1) pos (c :: cs) = readNumber pos (c :: cs) := by
  have hne : ∀ {d : Char} {ds : List Char}, d.isDigit = false → d ≠ '-' → c :: cs ≠ d :: ds := by
    intro d ds hd hsign heq
    obtain ⟨rfl, -⟩ := List.cons.inj heq
    rcases h with h | ⟨h, -⟩
    · exact Bool.false_ne_true (hd.symm.trans h)
    · exact hsign h
  rw [readValue]
  · exact fun _ ↦ hne (by decide) (by decide)
  · exact fun _ ↦ hne (by decide) (by decide)
  · exact fun _ ↦ hne (by decide) (by decide)
  · exact fun _ ↦ hne (by decide) (by decide)
  · exact fun _ ↦ hne (by decide) (by decide)
  · exact fun _ ↦ hne (by decide) (by decide)
  · exact fun _ ↦ hne (by decide) (by decide)
  · exact fun _ ↦ hne (by decide) (by decide)
  · -- behind the sign of infinity there is no digit
    intro rest heq
    obtain ⟨rfl, rfl⟩ := List.cons.inj heq
    rcases h with h | ⟨-, d, ds, heq, hd⟩
    · exact absurd h (by decide)
    · rw [← (List.cons.inj heq).1] at hd
      exact absurd hd (by decide)

theorem opensValue_of_isDigit {c : Char} (h : c.isDigit = true) : opensValue c = true := by
  have hne : ∀ d : Char, d.isDigit = false → (c == d) = false := by
    intro d hd
    rw [beq_eq_false_iff_ne]
    rintro rfl
    exact Bool.false_ne_true (hd.symm.trans h)
  simp [opensValue, isGap, bne, hne ' ' (by decide), hne '\t' (by decide), hne '\n' (by decide),
    hne '\r' (by decide), hne ']' (by decide), hne '\x7d' (by decide),
    hne (Char.ofNat 0xfeff) (by decide)]

theorem readsAs_int {n : Int} (h : ReadsWhole n) : ReadsAs (toString n).toList (.int n) := by
  obtain ⟨c, cs, hcons⟩ := List.exists_cons_of_ne_nil (@Nat.toDigits_ne_nil n.natAbs 10)
  have hc : c.isDigit = true :=
    Nat.isDigit_of_mem_toDigits (by decide) (by decide) (hcons ▸ List.mem_cons_self)
  -- the text of the number begins with a digit, or with a sign and a digit
  have hstart : ∃ d ds, (toString n).toList = d :: ds ∧ opensValue d = true ∧
      ∀ rest, d.isDigit = true ∨ d = '-' ∧ ∃ e es, ds ++ rest = e :: es ∧ e.isDigit = true := by
    rw [toList_toString_int, hcons]
    split
    · exact ⟨'-', c :: cs, rfl, by decide, fun rest ↦ Or.inr ⟨rfl, c, cs ++ rest, rfl, hc⟩⟩
    · exact ⟨c, cs, rfl, opensValue_of_isDigit hc, fun rest ↦ Or.inl hc⟩
  obtain ⟨d, ds, htext, hd, hdigit⟩ := hstart
  rw [htext]
  refine readsAs_of_succ hd fun {fuel rest} _ hrest pos ↦ ?_
  rw [List.cons_append, readValue_eq_readNumber (hdigit rest), ← List.cons_append, ← htext]
  exact readNumber_int h pos hrest

/-! ## Items and entries -/

section

variable {fuel pos stop : Nat} {cs rest : List Char} {v : Value}

theorem readItems_last {acc : List Value}
    (h : readValue fuel pos cs = .ok (v, stop, ']' :: rest)) :
    readItems (fuel + 1) acc pos cs = .ok (.list (v :: acc).reverse, stop + 1, rest) := by
  rw [readItems, h]
  rfl

theorem readItems_next {acc : List Value}
    (h : readValue fuel pos cs = .ok (v, stop, ',' :: ' ' :: rest)) (hrest : Opens rest) :
    readItems (fuel + 1) acc pos cs = readItems fuel (v :: acc) (stop + 2) rest := by
  have hcomma : skip stop (',' :: ' ' :: rest) = (stop, ',' :: ' ' :: rest) := rfl
  rw [readItems, h]
  simp only [bind, Except.bind, hcomma, hrest.skip_blank]

/-- An entry as it is written. -/
def entryChars (k : String) (cs : List Char) : List Char :=
  writeString false k ++ ':' :: ' ' :: cs

theorem opens_entryChars (k : String) (cs : List Char) : Opens (entryChars k cs) :=
  opens_cons (by decide) _

/-- The key and the value of an entry. -/
theorem reads_entryChars (k : String) (hv : ReadsAs cs v) (hfuel : cs.length ≤ fuel)
    (hrest : Stops rest) (pos : Nat) :
    ∃ tail stop, entryChars k cs ++ rest = '"' :: tail ∧
      readString pos (pos + 1) none [] tail = .ok (k.toList, stop, ':' :: ' ' :: (cs ++ rest)) ∧
      readValue fuel (stop + 2) (cs ++ rest) =
        .ok (v, pos + (entryChars k cs).length, rest) := by
  obtain ⟨tail, htail, hread⟩ := readString_writeString k pos (':' :: ' ' :: (cs ++ rest))
  refine ⟨tail, _, ?_, hread, ?_⟩
  · rw [← htail, entryChars, List.append_assoc]
    rfl
  · have hlength : (entryChars k cs).length = (writeString false k).length + 2 + cs.length := by
      simp only [entryChars, List.length_append, List.length_cons]
      omega
    rw [hv.reads hfuel hrest, hlength, ← Nat.add_assoc, ← Nat.add_assoc]

theorem readEntries_last (k : String) {acc : List (Value × Value)} (hv : ReadsAs cs v)
    (hfuel : cs.length ≤ fuel) :
    readEntries (fuel + 1) acc pos (entryChars k cs ++ '\x7d' :: rest) =
      .ok (.map (put (.str k) v acc), pos + (entryChars k cs).length + 1, rest) := by
  obtain ⟨tail, stop, htail, hkey, hvalue⟩ :=
    reads_entryChars k hv hfuel (stops_cons (Or.inr (Or.inr rfl)) rest) pos
  have hcolon : ∀ next, skip stop (':' :: next) = (stop, ':' :: next) := fun _ ↦ rfl
  rw [htail, readEntries, hkey]
  simp only [bind, Except.bind, hcolon, (hv.opens.append _).skip_blank, hvalue,
    String.ofList_toList]
  rfl

theorem readEntries_next (k : String) {acc : List (Value × Value)} (hv : ReadsAs cs v)
    (hfuel : cs.length ≤ fuel) (hrest : Opens rest) :
    readEntries (fuel + 1) acc pos (entryChars k cs ++ ',' :: ' ' :: rest) =
      readEntries fuel (put (.str k) v acc) (pos + (entryChars k cs).length + 2) rest := by
  obtain ⟨tail, stop, htail, hkey, hvalue⟩ :=
    reads_entryChars k hv hfuel (stops_cons (Or.inl rfl) (' ' :: rest)) pos
  have hcolon : ∀ next, skip stop (':' :: next) = (stop, ':' :: next) := fun _ ↦ rfl
  have hcomma : ∀ stop next, skip stop (',' :: next) = (stop, ',' :: next) := fun _ _ ↦ rfl
  rw [htail, readEntries, hkey]
  simp only [bind, Except.bind, hcolon, (hv.opens.append _).skip_blank, hvalue, hcomma,
    hrest.skip_blank, String.ofList_toList]

end

/-! ## Lists and mappings -/

theorem separate_cons_cons (x y : List Char) (xs : List (List Char)) :
    separate (x :: y :: xs) = x ++ ',' :: ' ' :: separate (y :: xs) := rfl

theorem length_separate_cons_cons (x y : List Char) (xs : List (List Char)) :
    (separate (x :: y :: xs)).length = x.length + 2 + (separate (y :: xs)).length := by
  simp only [separate_cons_cons, List.length_append, List.length_cons]
  omega

theorem opens_separate {x : List Char} (h : Opens x) (xs : List (List Char)) :
    Opens (separate (x :: xs)) := by
  cases xs with
  | nil => exact h
  | cons y ys => exact h.append _

section

variable {f : Value → List Char} {g : Value → Value}

/-- The items of a list, up to its end. -/
theorem readItems_separate {x : Value} {xs : List Value} (h : ∀ y ∈ x :: xs, ReadsAs (f y) (g y))
    {acc : List Value} {fuel pos : Nat} {rest : List Char}
    (hfuel : (separate ((x :: xs).map f)).length < fuel) :
    readItems fuel acc pos (separate ((x :: xs).map f) ++ ']' :: rest) =
      .ok (.list (acc.reverse ++ (x :: xs).map g),
        pos + (separate ((x :: xs).map f)).length + 1, rest) := by
  induction xs generalizing x acc fuel pos with
  | nil =>
    obtain ⟨fuel, rfl⟩ := Nat.exists_eq_add_one_of_ne_zero (Nat.ne_zero_of_lt hfuel)
    have hread := (h x List.mem_cons_self).reads (Nat.lt_succ_iff.mp hfuel)
      (stops_cons (Or.inr (Or.inl rfl)) rest) pos
    show readItems (fuel + 1) acc pos (f x ++ ']' :: rest) = _
    rw [readItems_last hread, List.reverse_cons]
    rfl
  | cons y ys ih =>
    obtain ⟨fuel, rfl⟩ := Nat.exists_eq_add_one_of_ne_zero (Nat.ne_zero_of_lt hfuel)
    obtain ⟨hx, hys⟩ := List.forall_mem_cons.mp h
    rw [List.map_cons, List.map_cons, length_separate_cons_cons, ← List.map_cons] at hfuel ⊢
    have hnext : Opens (separate ((y :: ys).map f) ++ ']' :: rest) :=
      (opens_separate (hys y List.mem_cons_self).opens (ys.map f)).append _
    have hle : (f x).length ≤ fuel := by omega
    have hread := hx.reads hle
      (stops_cons (Or.inl rfl) (' ' :: (separate ((y :: ys).map f) ++ ']' :: rest))) pos
    rw [List.map_cons, separate_cons_cons, ← List.map_cons, List.append_assoc, List.cons_append,
      List.cons_append, readItems_next hread hnext, ih hys (by omega), List.reverse_cons,
      List.append_assoc]
    simp [Nat.add_assoc]

/-- An entry with a text as its key. -/
def entryOf (f : Value → List Char) (e : Value × Value) : List Char :=
  entryChars e.1.plainText (f e.2)

theorem length_lt_length_entryOf (e : Value × Value) : (f e.2).length < (entryOf f e).length := by
  simp only [entryOf, entryChars, List.length_append, List.length_cons]
  omega

/-- The entries of a mapping, up to its end. -/
theorem readEntries_separate {e : Value × Value} {es : List (Value × Value)}
    (htexts : TextKeys (e :: es)) (h : ∀ d ∈ e :: es, ReadsAs (f d.2) (g d.2))
    {acc : List (Value × Value)} {fuel pos : Nat} {rest : List Char}
    (hfuel : (separate ((e :: es).map (entryOf f))).length < fuel) :
    readEntries fuel acc pos (separate ((e :: es).map (entryOf f)) ++ '\x7d' :: rest) =
      .ok (.map ((e :: es).foldl (fun ds d ↦ put d.1 (g d.2) ds) acc),
        pos + (separate ((e :: es).map (entryOf f))).length + 1, rest) := by
  induction es generalizing e acc fuel pos with
  | nil =>
    obtain ⟨fuel, rfl⟩ := Nat.exists_eq_add_one_of_ne_zero (Nat.ne_zero_of_lt hfuel)
    obtain ⟨k, v⟩ := e
    obtain ⟨s, rfl⟩ := htexts (k, v) List.mem_cons_self
    have hle : (f v).length ≤ fuel :=
      Nat.lt_succ_iff.mp ((length_lt_length_entryOf (.str s, v)).trans hfuel)
    exact readEntries_last s (h (.str s, v) List.mem_cons_self) hle
  | cons d ds ih =>
    obtain ⟨fuel, rfl⟩ := Nat.exists_eq_add_one_of_ne_zero (Nat.ne_zero_of_lt hfuel)
    obtain ⟨k, v⟩ := e
    obtain ⟨⟨s, rfl⟩, hkeys⟩ := List.forall_mem_cons.mp htexts
    obtain ⟨hv, hds⟩ := List.forall_mem_cons.mp h
    rw [List.map_cons, List.map_cons, length_separate_cons_cons, ← List.map_cons] at hfuel ⊢
    have hnext : Opens (separate ((d :: ds).map (entryOf f)) ++ '\x7d' :: rest) :=
      (opens_separate (opens_entryChars _ _) (ds.map (entryOf f))).append _
    have hlt : (f v).length < (entryOf f (.str s, v)).length := length_lt_length_entryOf (.str s, v)
    have hle : (f v).length ≤ fuel := by omega
    rw [List.map_cons, separate_cons_cons, ← List.map_cons, List.append_assoc, List.cons_append,
      List.cons_append]
    refine (readEntries_next s hv hle hnext).trans ?_
    rw [ih hkeys hds (by omega)]
    simp only [entryOf, plainText, Nat.add_assoc]
    rfl

theorem readValue_bracket {cs : List Char} (h : Opens cs) (fuel pos : Nat) :
    readValue (fuel + 1) pos ('[' :: cs) = readItems fuel [] (pos + 1) cs := by
  rw [readValue, h.skip_eq]
  obtain ⟨c, tail, rfl, hc⟩ := h
  split
  · next heq =>
    obtain ⟨rfl, -⟩ := List.cons.inj (Prod.mk.inj heq).2
    exact absurd hc (by decide)
  · next heq =>
    obtain ⟨rfl, rfl⟩ := Prod.mk.inj heq
    rfl

theorem readValue_brace {cs : List Char} (h : Opens cs) (fuel pos : Nat) :
    readValue (fuel + 1) pos ('\x7b' :: cs) = readEntries fuel [] (pos + 1) cs := by
  rw [readValue, h.skip_eq]
  obtain ⟨c, tail, rfl, hc⟩ := h
  split
  · next heq =>
    obtain ⟨rfl, -⟩ := List.cons.inj (Prod.mk.inj heq).2
    exact absurd hc (by decide)
  · next heq =>
    obtain ⟨rfl, rfl⟩ := Prod.mk.inj heq
    rfl

theorem readsAs_list {xs : List Value} (h : ∀ x ∈ xs, ReadsAs (f x) (g x)) :
    ReadsAs ('[' :: (separate (xs.map f) ++ [']'])) (.list (xs.map g)) := by
  refine readsAs_of_succ (by decide) fun {fuel rest} hfuel _ pos ↦ ?_
  cases xs with
  | nil => rfl
  | cons x xs =>
    have hopens : Opens (separate ((x :: xs).map f) ++ ']' :: rest) :=
      (opens_separate (h x List.mem_cons_self).opens (xs.map f)).append _
    simp only [List.length_cons, List.length_append, List.length_nil] at hfuel ⊢
    rw [List.cons_append, List.append_assoc, List.singleton_append, readValue_bracket hopens,
      readItems_separate h (by omega), List.reverse_nil, List.nil_append]
    simp only [Nat.add_assoc, Nat.add_comm 1]

/-- With distinct keys every entry is put behind the ones before it. -/
theorem foldl_put_map {es : List (Value × Value)} (htexts : TextKeys es)
    (hdistinct : (es.map Prod.fst).Nodup) :
    es.foldl (fun ds d ↦ put d.1 (g d.2) ds) [] = es.map fun e ↦ (e.1, g e.2) := by
  have hkeys : TextKeys (es.map fun e ↦ (e.1, g e.2)) := List.forall_mem_map.mpr htexts
  have hnodup : ((es.map fun e ↦ (e.1, g e.2)).map Prod.fst).Nodup := by
    rw [List.map_map]
    exact hdistinct
  have hfold := Entries.ofPairs_of_nodup tells_isText hkeys hnodup
  rw [Entries.ofPairs, List.foldl_map] at hfold
  exact hfold

theorem readsAs_map {es : List (Value × Value)} (htexts : TextKeys es)
    (hdistinct : (es.map Prod.fst).Nodup) (h : ∀ e ∈ es, ReadsAs (f e.2) (g e.2)) :
    ReadsAs ('\x7b' :: (separate (es.map (entryOf f)) ++ ['\x7d']))
      (.map (es.map fun e ↦ (e.1, g e.2))) := by
  refine readsAs_of_succ (by decide) fun {fuel rest} hfuel _ pos ↦ ?_
  cases es with
  | nil => rfl
  | cons e es =>
    have hopens : Opens (separate ((e :: es).map (entryOf f)) ++ '\x7d' :: rest) :=
      (opens_separate (opens_entryChars _ _) (es.map (entryOf f))).append _
    simp only [List.length_cons, List.length_append, List.length_nil] at hfuel ⊢
    rw [List.cons_append, List.append_assoc, List.singleton_append, readValue_brace hopens,
      readEntries_separate htexts h (by omega),
      foldl_put_map htexts hdistinct]
    simp only [Nat.add_assoc, Nat.add_comm 1]

end

/-! ## Written values -/

theorem mapM_eq_ok_map {ε α β : Type} {f : α → Except ε β} {g : α → β} {xs : List α}
    (h : ∀ x ∈ xs, f x = .ok (g x)) : xs.mapM f = .ok (xs.map g) := by
  induction xs with
  | nil => rfl
  | cons x xs ih =>
    obtain ⟨hx, hxs⟩ := List.forall_mem_cons.mp h
    rw [List.mapM_cons, hx, ih hxs]
    rfl

/-- Entries are sorted by their keys alone. -/
theorem map_sorted {α β : Type} (f : α → β) (es : List (Value × α)) :
    ((sorted es).map fun e ↦ (e.1, f e.2)) = sorted (es.map fun e ↦ (e.1, f e.2)) :=
  List.map_mergeSort fun _ _ _ _ ↦ rfl

theorem mem_sorted {α : Type} {e : Value × α} {es : List (Value × α)} :
    e ∈ sorted es ↔ e ∈ es := List.mem_mergeSort

theorem sorted_perm {α : Type} (es : List (Value × α)) : (sorted es).Perm es :=
  List.mergeSort_perm es _

theorem sortKeys_map (es : List (Value × Value)) :
    sortKeys (.map es) = .map ((sorted es).map fun e ↦ (e.1, sortKeys e.2)) := by
  rw [sortKeys, sortKeysIn_eq_map, map_sorted]

section

variable {f : Value → List Char}

/-- What is written of a list, when its items are known. -/
theorem writeChars_list {xs : List Value} (h : ∀ x ∈ xs, writeChars .log x = .ok (f x)) :
    writeChars .log (.list xs) = .ok ('[' :: (separate (xs.map f) ++ [']'])) := by
  rw [writeChars, writeAll_eq_mapM, mapM_eq_ok_map h]
  rfl

theorem writeValues_eq_ok {es : List (Value × Value)}
    (h : ∀ e ∈ es, writeChars .log e.2 = .ok (f e.2)) :
    writeValues .log es = .ok (es.map fun e ↦ (e.1, f e.2)) := by
  induction es with
  | nil => rfl
  | cons e es ih =>
    obtain ⟨he, hes⟩ := List.forall_mem_cons.mp h
    rw [writeValues, he, ih hes]
    rfl

/-- What is written of a mapping, when its values are known. -/
theorem writeChars_map {es : List (Value × Value)} (htexts : TextKeys es)
    (h : ∀ e ∈ es, writeChars .log e.2 = .ok (f e.2)) :
    writeChars .log (.map es) =
      .ok ('\x7b' :: (separate ((sorted es).map (entryOf f)) ++ ['\x7d'])) := by
  have hkeys : ∀ e ∈ es.map fun e ↦ (e.1, f e.2), IsText e.1 := List.forall_mem_map.mpr htexts
  have hentries : (sorted (es.map fun e ↦ (e.1, f e.2))).mapM (writeEntry .log) =
      .ok ((sorted es).map (entryOf f)) := by
    rw [← map_sorted, List.mapM_map]
    refine mapM_eq_ok_map fun e he ↦ ?_
    obtain ⟨s, hs⟩ := htexts e (mem_sorted.mp he)
    rw [Function.comp_apply, hs, entryOf, hs]
    rfl
  rw [writeChars, writeValues_eq_ok h]
  show (sortEntries _ >>= _) = _
  rw [sortEntries_eq_ok hkeys]
  show (List.mapM (writeEntry .log) (sorted _) >>= _) = _
  rw [hentries]
  rfl

end

/-- The characters of a value that can be written. -/
def chars (v : Value) : List Char := (writeChars .log v).toOption.getD []

/-- It is enough to know what is written of a value. -/
theorem readsAs_chars_of_eq {v : Value} {cs : List Char} (hwrite : writeChars .log v = .ok cs)
    (hread : ReadsAs cs (sortKeys v)) :
    writeChars .log v = .ok (chars v) ∧ ReadsAs (chars v) (sortKeys v) := by
  have hchars : chars v = cs := by
    rw [chars, hwrite]
    rfl
  rw [hchars]
  exact ⟨hwrite, hread⟩

/-- A legible value can be written, and what is written is read as the value with sorted keys. -/
theorem readsAs_chars {v : Value} (h : Legible v) :
    writeChars .log v = .ok (chars v) ∧ ReadsAs (chars v) (sortKeys v) := by
  induction h with
  | null => exact readsAs_chars_of_eq rfl readsAs_null
  | bool b =>
    refine readsAs_chars_of_eq ?_ (readsAs_bool b)
    cases b <;> rfl
  | int h => exact readsAs_chars_of_eq rfl (readsAs_int h)
  | str s => exact readsAs_chars_of_eq rfl (readsAs_str s)
  | @list xs _ ih =>
    refine readsAs_chars_of_eq (writeChars_list fun x hx ↦ (ih x hx).1) ?_
    rw [sortKeys, sortKeysAll_eq_map]
    exact readsAs_list fun x hx ↦ (ih x hx).2
  | @map es htexts hdistinct _ ih =>
    -- the entries are sorted before they are written, and read in the order in which they stand
    refine readsAs_chars_of_eq (writeChars_map htexts fun e he ↦ (ih e he).1) ?_
    rw [sortKeys_map]
    refine readsAs_map (fun e he ↦ htexts e (mem_sorted.mp he)) ?_
      fun e he ↦ (ih e (mem_sorted.mp he)).2
    exact ((sorted_perm es).map Prod.fst).nodup_iff.mpr hdistinct

theorem Opens.head?_ne {cs : List Char} (h : Opens cs) : cs.head? ≠ some (Char.ofNat 0xfeff) := by
  obtain ⟨c, tail, rfl, hc⟩ := h
  simp only [opensValue, Bool.and_eq_true, bne_iff_ne, ne_eq] at hc
  exact fun heq ↦ hc.2 (Option.some.inj heq)

theorem readChars_of_readsAs {cs : List Char} {v : Value} (h : ReadsAs cs v) :
    readChars cs = .ok v := by
  have hfuel : cs.length ≤ 2 * cs.length + 2 := by omega
  have hread := h.reads hfuel stops_nil 0
  rw [List.append_nil] at hread
  rw [readChars, if_neg (by simpa using h.opens.head?_ne), h.opens.skip_eq]
  simp only [hread]
  rfl

/-- A legible value is read back from its line, with its entries in the order of their keys. -/
theorem read_write {v : Value} (h : Legible v) :
    ∃ cs, writeChars .log v = .ok cs ∧ read (String.ofList cs) = .ok (sortKeys v) := by
  obtain ⟨hwrite, hread⟩ := readsAs_chars h
  refine ⟨chars v, hwrite, ?_⟩
  rw [read, String.toList_ofList]
  exact readChars_of_readsAs hread

theorem Legible.hasLong_eq_false {v : Value} (h : Legible v) : v.hasLong = false := by
  induction h with
  | @int n h =>
    rw [hasLong]
    exact readsWhole_iff.mp h
  | list _ ih => exact hasLong_list_iff.mpr ih
  | map htexts _ _ ih =>
    refine hasLong_map_iff.mpr fun e he ↦ ⟨?_, ih e he⟩
    obtain ⟨s, hs⟩ := htexts e he
    rw [hs]
    rfl
  | _ => rfl

/-! ## Sorted keys -/

theorem equalAll_map {xs : List Value} {g : Value → Value} (h : ∀ x ∈ xs, (g x).equal x = true) :
    equalAll (xs.map g) xs = true := by
  induction xs with
  | nil => rw [List.map_nil, equalAll]
  | cons x xs ih =>
    obtain ⟨hx, hxs⟩ := List.forall_mem_cons.mp h
    rw [List.map_cons, equalAll, hx, ih hxs]
    rfl

theorem entriesIn_of_forall {es fs : List (Value × Value)}
    (h : ∀ e ∈ es, ∃ f ∈ fs, e.1.equal f.1 = true ∧ e.2.equal f.2 = true) :
    entriesIn es fs = true := by
  induction es with
  | nil => rw [entriesIn]
  | cons e es ih =>
    obtain ⟨⟨f, hf, hkey, hvalue⟩, hes⟩ := List.forall_mem_cons.mp h
    rw [entriesIn, ih hes, Bool.and_true]
    exact List.any_eq_true.mpr ⟨f, hf, by rw [hkey, hvalue]; rfl⟩

/-- The order of the entries does not matter for equality. -/
theorem equal_sortKeys {v : Value} (h : Legible v) : (sortKeys v).equal v = true := by
  induction h with
  | null => simp [sortKeys, equal]
  | bool b => simp [sortKeys, equal, quantity?, Quantity.equal]
  | int _ => simp [sortKeys, equal, quantity?, Quantity.equal]
  | str s => simp [sortKeys, equal]
  | list _ ih =>
    rw [sortKeys, sortKeysAll_eq_map, equal]
    exact equalAll_map ih
  | @map es htexts _ _ ih =>
    rw [sortKeys_map, equal, List.length_map, (sorted_perm es).length_eq, beq_self_eq_true,
      Bool.true_and]
    refine entriesIn_of_forall (List.forall_mem_map.mpr fun e he ↦ ?_)
    have hmem : e ∈ es := mem_sorted.mp he
    obtain ⟨s, hs⟩ := htexts e hmem
    refine ⟨e, hmem, ?_, ih e hmem⟩
    rw [hs, str_equal_str, beq_self_eq_true]

end CallTree.Json
