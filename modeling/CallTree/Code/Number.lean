import CallTree.Decimal.Numeral
import CallTree.Text.Identifier
import CallTree.Value.Basic

/-!
# Numbers in code

Whole numbers in several bases, decimal numbers and imaginary numbers. Single underscores may stand
between digits.
-/

namespace CallTree.Code

open CallTree.Text CallTree.Decimal

/-- The digits at the front, with single underscores between them. -/
def takeGroups (digit? : Char → Option Nat) : List Char → List Nat × List Char
  | '_' :: c :: cs =>
    match digit? c with
    | some d =>
      let (ds, rest) := takeGroups digit? cs
      (d :: ds, rest)
    | none => ([], '_' :: c :: cs)
  | c :: cs =>
    match digit? c with
    | some d =>
      let (ds, rest) := takeGroups digit? cs
      (d :: ds, rest)
    | none => ([], c :: cs)
  | [] => ([], [])

/-- Digits that do not start with an underscore. -/
def takeNumeral (digit? : Char → Option Nat) : List Char → List Nat × List Char
  | '_' :: cs => ([], '_' :: cs)
  | cs => takeGroups digit? cs

/-- A digit of a base up to sixteen. -/
def baseDigit? (base : Nat) (c : Char) : Option Nat := (hexDigit? c).filter (· < base)

/-- The base that a letter after a leading zero announces. -/
def baseOf? (c : Char) : Option Nat :=
  if c == 'x' || c == 'X' then some 16
  else if c == 'o' || c == 'O' then some 8
  else if c == 'b' || c == 'B' then some 2
  else none

/-- The exponent at the front, if there is one. -/
def takeExponent : List Char → Option Int × List Char
  | c :: cs =>
    if c == 'e' || c == 'E' then
      let (neg, rest) := takeSign cs
      match takeNumeral asciiDigit? rest with
      | ([], _) => (none, c :: cs)
      | (ds, rest) => (some (if neg then -(ofDigits 10 ds : Int) else ofDigits 10 ds), rest)
    else (none, c :: cs)
  | [] => (none, [])

/-- The fraction at the front, if there is a point. -/
def takeFraction : List Char → Option (List Nat) × List Char
  | '.' :: cs =>
    let (ds, rest) := takeNumeral asciiDigit? cs
    (some ds, rest)
  | cs => (none, cs)

/-- A decimal number; a mark at its end makes it imaginary. -/
def readDecimal (cs : List Char) : Option (Value × List Char) :=
  let (whole, rest) := takeNumeral asciiDigit? cs
  let (fraction, rest) := takeFraction rest
  let (power, rest) := takeExponent rest
  let digits := whole ++ fraction.getD []
  let x := ofDecimal false digits (power.getD 0 - ((fraction.getD []).length : Int))
  if digits.isEmpty then none
  else match rest with
    | 'j' :: rest => some (.complex 0.0 x, rest)
    | 'J' :: rest => some (.complex 0.0 x, rest)
    | rest =>
      if fraction.isSome || power.isSome then some (.float x, rest)
      else if whole.head? == some 0 && whole.any (· != 0) then none
      else if whole.length > maxWholeDigits then none
      else some (.int (ofDigits 10 whole), rest)

/-- The words that may follow a number without a gap. -/
def wordsBehindNumbers : List String := ["and", "else", "for", "if", "in", "is", "not", "or"]

/-- Whether what follows a number would be a part of it. -/
def runsOn (cs : List Char) : Bool :=
  match cs with
  | c :: _ => isIdentifierPart c && !wordsBehindNumbers.any fun w ↦ w.toList.isPrefixOf cs
  | [] => false

/-- A number in front of the text. -/
def readNumber (cs : List Char) : Option (Value × List Char) := do
  let (v, rest) ← match cs with
    | '0' :: c :: tail =>
      match baseOf? c with
      | some base =>
        match takeGroups (baseDigit? base) tail with
        | ([], _) => none
        | (ds, rest) => some (.int (ofDigits base ds), rest)
      | none => readDecimal cs
    | _ => readDecimal cs
  if runsOn rest then none else return (v, rest)

end CallTree.Code
