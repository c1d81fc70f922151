import CallTree.Value.Basic
import CallTree.Decimal.Numeral
import CallTree.Decimal.Shortest
import CallTree.Text.Printable

/-!
# Values as readers see them

The text of a value in messages and prompts: texts in quotes with escapes, lists in brackets,
tuples in parentheses, mappings and sets in braces. A text is quoted with apostrophes, unless it
holds an apostrophe and no double quote. A value with a whole number that is too long to be written
(`hasLong`) is refused by those who need its text.
-/

namespace CallTree.Value

open CallTree.Text CallTree.Decimal

/-- The digit of a number below sixteen. -/
def hexChar (n : Nat) : Char := Char.ofNat (if n < 10 then 48 + n else 87 + n)

/-- The lowest `width` hexadecimal digits of a number. -/
def hexText : Nat → Nat → List Char
  | 0, _ => []
  | width + 1, n => hexText width (n / 16) ++ [hexChar (n % 16)]

/-- The quote for a text. -/
def quoteFor (cs : List Char) : Char :=
  if cs.contains '\x27' && !cs.contains '"' then '"' else '\x27'

/-- One character of a quoted text. -/
def quoteChar (quote c : Char) : List Char :=
  if c == quote || c == '\\' then ['\\', c]
  else if c == '\t' then ['\\', 't']
  else if c == '\n' then ['\\', 'n']
  else if c == '\r' then ['\\', 'r']
  else if isPrintable c then [c]
  else if c.toNat < 0x100 then '\\' :: 'x' :: hexText 2 c.toNat
  else if c.toNat < 0x10000 then '\\' :: 'u' :: hexText 4 c.toNat
  else '\\' :: 'U' :: hexText 8 c.toNat

/-- A text in quotes. -/
def quoted (s : String) : String :=
  let cs := s.toList
  let q := quoteFor cs
  String.ofList (q :: (cs.flatMap (quoteChar q) ++ [q]))

/-- One byte of a quoted byte text. -/
def quoteByte (quote : Char) (b : UInt8) : List Char :=
  let c := Char.ofNat b.toNat
  if b.toNat < 0x7f then
    if b.toNat < 0x20 && c != '\t' && c != '\n' && c != '\r' then '\\' :: 'x' :: hexText 2 b.toNat
    else quoteChar quote c
  else '\\' :: 'x' :: hexText 2 b.toNat

/-- Bytes in quotes. -/
def quotedBytes (bs : List UInt8) : String :=
  let q := quoteFor (bs.map fun b ↦ Char.ofNat b.toNat)
  String.ofList ('b' :: q :: (bs.flatMap (quoteByte q) ++ [q]))

/-- A part of a complex number, without an empty fraction. -/
def partText (x : Float) : String :=
  let s := plain.float x
  if s.endsWith ".0" then String.ofList (s.toList.take (s.length - 2)) else s

/-- A complex number. -/
def complexText (re im : Float) : String :=
  let i := partText im
  if re.toBits == 0 then i ++ "j"
  else "(" ++ partText re ++ (if i.startsWith "-" then i else "+" ++ i) ++ "j)"

mutual

/-- The text of a value, with quotes around texts. -/
def display : Value → String
  | .null => "None"
  | .bool b => if b then "True" else "False"
  | .int n => toString n
  | .float x => plain.float x
  | .complex re im => complexText re im
  | .ellipsis => "Ellipsis"
  | .str s => quoted s
  | .bytes bs => quotedBytes bs
  | .list xs => "[" ++ ", ".intercalate (displayAll xs) ++ "]"
  | .tuple [x] => "(" ++ x.display ++ ",)"
  | .tuple xs => "(" ++ ", ".intercalate (displayAll xs) ++ ")"
  | .set [] => "set()"
  | .set xs => "\x7b" ++ ", ".intercalate (displayAll xs) ++ "\x7d"
  | .map es => "\x7b" ++ ", ".intercalate (displayEntries es) ++ "\x7d"
  | .member v => v.display
  | .closure params _ _ _ => "<function of " ++ ", ".intercalate params ++ ">"

/-- The texts of the values in a list. -/
def displayAll : List Value → List String
  | [] => []
  | x :: xs => x.display :: displayAll xs

/-- The texts of the entries of a mapping. -/
def displayEntries : List (Value × Value) → List String
  | [] => []
  | (k, v) :: es => (k.display ++ ": " ++ v.display) :: displayEntries es

end

mutual

/-- Whether a whole number in a value is too long to be written. -/
def hasLong : Value → Bool
  | .int n => isLong n
  | .list xs => anyLong xs
  | .tuple xs => anyLong xs
  | .set xs => anyLong xs
  | .map es => anyLongEntry es
  | .member v => v.hasLong
  | _ => false

/-- Whether a value of a list has such a number. -/
def anyLong : List Value → Bool
  | [] => false
  | x :: xs => x.hasLong || anyLong xs

/-- Whether a key or a value of a mapping has such a number. -/
def anyLongEntry : List (Value × Value) → Bool
  | [] => false
  | (k, v) :: es => k.hasLong || v.hasLong || anyLongEntry es

end

/-- The text of a value, where a text stands for itself. -/
def plainText : Value → String
  | .str s => s
  | v => v.display

end CallTree.Value
