import CallTree.Code.Number
import CallTree.Json.Read
import CallTree.Text.CharName

/-!
# Quoted texts

Texts and bytes in one or three quotes of either kind. A backslash starts an escape: a control
character, a number in base eight or sixteen, or the name of a character in braces.
-/

namespace CallTree.Code

open CallTree.Text CallTree.Decimal

/-- The kind of a quoted text. -/
structure QuoteStyle where
  raw : Bool
  bytes : Bool
  /-- Whether the text has fields that are filled in. -/
  formatted : Bool
  quote : Char
  triple : Bool

/-- The kind that letters in front of a quote announce: raw, of bytes, with fields. -/
def quoteMarks? (letters : List Char) : Option (Bool × Bool × Bool) :=
  match String.ofList (letters.map Char.toLower) with
  | "" => some (false, false, false)
  | "u" => some (false, false, false)
  | "r" => some (true, false, false)
  | "b" => some (false, true, false)
  | "br" => some (true, true, false)
  | "rb" => some (true, true, false)
  | "f" => some (false, false, true)
  | "fr" => some (true, false, true)
  | "rf" => some (true, false, true)
  | _ => none

/-- The start of a quoted text, with its kind. -/
def openQuote? (cs : List Char) : Option (QuoteStyle × List Char) :=
  match cs.dropWhile Char.isAlpha with
  | q :: rest =>
    if q == '"' || q == '\x27' then do
      let (raw, bytes, formatted) ← quoteMarks? (cs.takeWhile Char.isAlpha)
      if rest.take 2 == [q, q] then return (⟨raw, bytes, formatted, q, true⟩, rest.drop 2)
      else return (⟨raw, bytes, formatted, q, false⟩, rest)
    else none
  | [] => none

/-- Splits off the body of a quoted text at its closing quote; `acc` holds what was read of the
body, last character first. A backslash keeps the character after it from closing the text. -/
def splitQuoted (style : QuoteStyle) (acc : List Char) :
    List Char → Option (List Char × List Char)
  | [] => none
  | '\\' :: c :: cs => splitQuoted style (c :: '\\' :: acc) cs
  | c :: cs =>
    if c == style.quote then
      if !style.triple then some (acc.reverse, cs)
      else if cs.take 2 == [c, c] then some (acc.reverse, cs.drop 2)
      else splitQuoted style (c :: acc) cs
    else if c == '\n' && !style.triple then none
    else splitQuoted style (c :: acc) cs

/-- The characters that stand for themselves or for a control character after a backslash. -/
def simpleEscape? : Char → Option Nat
  | '\\' => some 92
  | '\x27' => some 39
  | '"' => some 34
  | 'a' => some 7
  | 'b' => some 8
  | 'f' => some 12
  | 'n' => some 10
  | 'r' => some 13
  | 't' => some 9
  | 'v' => some 11
  | _ => none

/-- The number of hexadecimal digits that the escape of a letter has. -/
def escapeWidth? (bytes : Bool) (c : Char) : Option Nat :=
  if c == 'x' then some 2
  else if c == 'u' && !bytes then some 4
  else if c == 'U' && !bytes then some 8
  else none

/-- The character named between braces, and the rest. -/
def readNamedChar : List Char → Option (Nat × List Char)
  | '\x7b' :: cs =>
    match cs.dropWhile (· != '\x7d') with
    | _ :: rest => (charOfName? (cs.takeWhile (· != '\x7d'))).map (·, rest)
    | [] => none
  | _ => none

/-- The number that the text behind a backslash stands for, and the rest; `none` in place of the
number if nothing is put in. An unknown escape is the backslash itself. -/
def readEscape (bytes : Bool) : List Char → Option (Option Nat × List Char)
  | [] => none
  | '\n' :: cs => some (none, cs)
  | c :: cs =>
    match simpleEscape? c with
    | some n => some (some n, cs)
    | none =>
      match escapeWidth? bytes c with
      | some width => do
        let ds ← (cs.take width).mapM hexDigit?
        if ds.length < width || ofDigits 16 ds > 0x10ffff then none
        return (some (ofDigits 16 ds), cs.drop width)
      | none =>
        let octal := ((c :: cs).take 3).takeWhile fun c ↦ (baseDigit? 8 c).isSome
        if !octal.isEmpty then
          let n := ofDigits 8 (octal.filterMap (baseDigit? 8))
          some (some (if bytes then n % 256 else n), (c :: cs).drop octal.length)
        else if c == 'N' && !bytes then (readNamedChar cs).map fun (n, rest) ↦ (some n, rest)
        else some (some 92, c :: cs)

/-- The character numbers of the body of a quoted text; the count bounds the recursion. -/
def unescape (bytes : Bool) : Nat → List Char → Option (List Nat)
  | _, [] => some []
  | 0, _ => none
  | fuel + 1, '\\' :: cs => do
    let (n, rest) ← readEscape bytes cs
    return n.toList ++ (← unescape bytes fuel rest)
  | fuel + 1, c :: cs => do return c.toNat :: (← unescape bytes fuel cs)

/-- The character numbers of a quoted text behind its opening quote, and the rest. -/
def readQuoted (style : QuoteStyle) (cs : List Char) : Option (List Nat × List Char) := do
  let (body, rest) ← splitQuoted style [] cs
  if style.bytes && body.any (fun c ↦ c.toNat ≥ 0x80) then none
  if style.raw then return (body.map Char.toNat, rest)
  else return (← unescape style.bytes body.length body, rest)

/-- The value of the character numbers of a quoted text. -/
def quotedValue (bytes : Bool) (ns : List Nat) : Value :=
  if bytes then .bytes (ns.map UInt8.ofNat) else .str (String.ofList (ns.map Json.charOf))

end CallTree.Code
