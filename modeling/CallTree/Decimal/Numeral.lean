import CallTree.Decimal.Binary
import CallTree.Text.Blank
import CallTree.Text.Digit

/-!
# Numerals in text

Whole and decimal numbers as people and services write them: blanks around, a sign, digits of any
script, and single underscores between digits. Decimal numerals may have a fraction and an
exponent, and the words for infinity and for no number count as well.
-/

namespace CallTree.Decimal

open CallTree.Text

/-- The longest whole numeral that is read or written. -/
def maxWholeDigits : Nat := 4300

/-- Whether a whole number has more digits than are written. -/
def isLong (n : Int) : Bool := decide (maxWholeDigits < (Nat.toDigits 10 n.natAbs).length)

/-- The text with the digits of every script written as ASCII digits. -/
def asciiDigits (cs : List Char) : List Char :=
  cs.map fun c ↦ match digitValue? c with
    | some d => Char.ofNat (48 + d)
    | none => c

/-- Whether the character is a blank around a numeral: the information separators are none. -/
def isNumeralBlank (c : Char) : Bool := isBlank c && !(28 ≤ c.toNat && c.toNat ≤ 31)

/-- The list without the blanks at its two ends. -/
def trimNumeral (cs : List Char) : List Char :=
  ((cs.dropWhile isNumeralBlank).reverse.dropWhile isNumeralBlank).reverse

/-- The sign in front, and the rest. -/
def takeSign : List Char → Bool × List Char
  | '-' :: cs => (true, cs)
  | '+' :: cs => (false, cs)
  | cs => (false, cs)

/-- Drops underscores that stand between two digits; `none` when one stands elsewhere. The first
argument tells whether the character before is a digit. -/
def dropUnderscores (afterDigit : Bool) : List Char → Option (List Char)
  | [] => some []
  | '_' :: c :: cs =>
    if afterDigit && c.isDigit then (dropUnderscores true cs).map (c :: ·) else none
  | '_' :: [] => none
  | c :: cs => (dropUnderscores c.isDigit cs).map (c :: ·)

/-- The digits at the front, and the rest. -/
def takeDigits (cs : List Char) : List Nat × List Char :=
  ((cs.takeWhile Char.isDigit).filterMap asciiDigit?, cs.dropWhile Char.isDigit)

/-- A number of decimal digits with an exponent, put into the nearest double. Exponents that are
out of reach for any double are not worked out. -/
def ofDecimal (neg : Bool) (ds : List Nat) (exponent : Int) : Float :=
  let ds := ds.dropWhile (· == 0)
  let n := ofDigits 10 ds
  let point : Int := (ds.length : Int) + exponent
  if n == 0 then nearest neg 0 1
  else if point > 310 then infinity neg
  else if point < -330 then nearest neg 0 1
  else if exponent < 0 then nearest neg n (tenTo (-exponent).toNat)
  else nearest neg (n * tenTo exponent.toNat) 1

/-- An exponent part after the mantissa; the whole text has to be used up. -/
def takeExponent : List Char → Option Int
  | [] => some 0
  | c :: cs =>
    if c == 'e' || c == 'E' then
      let (neg, cs) := takeSign cs
      match takeDigits cs with
      | ([], _) => none
      | (ds, []) => some (if neg then -(ofDigits 10 ds : Int) else ofDigits 10 ds)
      | _ => none
    else none

/-- A decimal numeral without blanks, underscores and sign. -/
def magnitude? (neg : Bool) (cs : List Char) : Option Float :=
  let word := cs.map Char.toLower
  if word == "inf".toList || word == "infinity".toList then some (infinity neg)
  else if word == "nan".toList then some notANumber
  else
    let (whole, rest) := takeDigits cs
    let (fraction, rest) := match rest with
      | '.' :: rest => takeDigits rest
      | _ => ([], rest)
    if whole.isEmpty && fraction.isEmpty then none
    else (takeExponent rest).map fun e ↦
      ofDecimal neg (whole ++ fraction) (e - (fraction.length : Int))

/-- A decimal numeral with blanks around. -/
def floatOfChars? (cs : List Char) : Option Float := do
  let cs ← dropUnderscores false (asciiDigits (trimNumeral cs))
  let (neg, cs) := takeSign cs
  magnitude? neg cs

/-- A whole numeral with blanks around; `none` also when it has too many digits. -/
def intOfChars? (cs : List Char) : Option Int := do
  let (neg, cs) := takeSign (asciiDigits (trimNumeral cs))
  let cs ← dropUnderscores false cs
  match takeDigits cs with
  | ([], _) => none
  | (ds, []) =>
    if ds.length > maxWholeDigits then none
    else some (if neg then -(ofDigits 10 ds : Int) else ofDigits 10 ds)
  | _ => none

end CallTree.Decimal
