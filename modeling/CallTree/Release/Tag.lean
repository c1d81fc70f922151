import CallTree.Text.Digit

/-!
# Release tags

A stable release is tagged by the letter `v` and a version of three numerals with points between
them. A numeral is a zero alone, or digits that do not start with a zero.
-/

namespace CallTree.Release

/-- Whether characters are a numeral. Behind its first digit, all digits of the class are taken. -/
def isNumeral (digits : Text.DigitClass) : List Char → Bool
  | [] => false
  | c :: cs => (c == '0' && cs.isEmpty) || ('1' ≤ c && c ≤ '9' && cs.all digits.holds)

/-- Whether characters are the given number of numerals, with points between them. -/
def areNumerals (digits : Text.DigitClass) : Nat → List Char → Bool
  | 0, _ => false
  | 1, cs => isNumeral digits cs
  | n + 1, cs =>
    match cs.span (· != '.') with
    | (part, '.' :: rest) => isNumeral digits part && areNumerals digits n rest
    | _ => false

/-- The version of a release tag. -/
def version? (digits : Text.DigitClass) (tag : String) : Option String :=
  match tag.toList with
  | 'v' :: cs => if areNumerals digits 3 cs then some (String.ofList cs) else none
  | _ => none

end CallTree.Release
