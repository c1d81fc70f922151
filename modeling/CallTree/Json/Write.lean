import CallTree.Value.Equal
import CallTree.Value.Display

/-!
# Writing JSON text

Values as JSON on one line, with a comma and a blank between items and a colon and a blank behind
keys. A style says whether characters past the ASCII range are escaped, whether the entries of a
mapping are sorted by key, and whether a value that JSON does not know is written as its text.
-/

namespace CallTree.Json

open CallTree.Decimal CallTree.Value

/-- How JSON text is written. -/
structure Style where
  /-- Escape all characters outside the printable ASCII range. -/
  ascii : Bool
  /-- Sort the entries of mappings by key. -/
  sorted : Bool
  /-- Write values that JSON does not know as their text. -/
  lenient : Bool

/-- Entries in their own order, ASCII only, JSON data only. -/
def Style.compact : Style := ⟨true, false, false⟩

/-- The style of log lines: sorted keys, text as it is, anything can be written. -/
def Style.log : Style := ⟨false, true, true⟩

/-- Why a value cannot be written. -/
inductive WriteFault where
  /-- The value is no JSON data. -/
  | notData
  /-- A key is neither text nor a number, a truth value or null. -/
  | badKey
  /-- The keys of a mapping have no common order. -/
  | unsortable
  /-- A whole number has too many digits. -/
  | longNumeral
  deriving DecidableEq, Repr

/-- The escape of a character by its number. -/
def unicodeEscape (n : Nat) : List Char := '\\' :: 'u' :: hexText 4 n

/-- One character of a string. -/
def escapeChar (ascii : Bool) (c : Char) : List Char :=
  if c == '"' then ['\\', '"']
  else if c == '\\' then ['\\', '\\']
  else if c == '\n' then ['\\', 'n']
  else if c == '\r' then ['\\', 'r']
  else if c == '\t' then ['\\', 't']
  else if c == '\x0c' then ['\\', 'f']
  else if c == '\x08' then ['\\', 'b']
  else if c.toNat < 0x20 then unicodeEscape c.toNat
  else if !ascii || c.toNat < 0x7f then [c]
  else if c.toNat < 0x10000 then unicodeEscape c.toNat
  else
    let n := c.toNat - 0x10000
    unicodeEscape (0xd800 + n / 0x400) ++ unicodeEscape (0xdc00 + n % 0x400)

/-- A string in double quotes. -/
def writeString (ascii : Bool) (s : String) : List Char :=
  '"' :: (s.toList.flatMap (escapeChar ascii) ++ ['"'])

/-- The items of a list or mapping with commas between them. -/
def separate : List (List Char) → List Char
  | [] => []
  | [x] => x
  | x :: xs => x ++ ',' :: ' ' :: separate xs

/-- A key as the text it is written as. -/
def keyText : Value → Except WriteFault String
  | .str s => .ok s
  | .float x => .ok (inJson.float x)
  | .bool b => .ok (if b then "true" else "false")
  | .null => .ok "null"
  | .int n => .ok (toString n)
  | _ => .error .badKey

/-- The order of two keys; `none` when they have no common order. -/
def keyLe? : Value → Value → Option Bool
  | .str s, .str t => some (decide (s ≤ t))
  | v, w => match v.quantity?, w.quantity? with
    | some (.whole m), some (.whole n) => some (m ≤ n)
    | some (.whole m), some (.double y) => some (compareInt m y != some .gt)
    | some (.double x), some (.whole n) => some (compareInt n x != some .lt)
    | some (.double x), some (.double y) => some (x ≤ y)
    | _, _ => none

/-- The entries of a mapping sorted by key. -/
def sortEntries {α : Type} (es : List (Value × α)) : Except WriteFault (List (Value × α)) :=
  if es.all (fun e ↦ es.all fun f ↦ (keyLe? e.1 f.1).isSome) || es.length ≤ 1 then
    .ok (es.mergeSort fun e f ↦ (keyLe? e.1 f.1).getD true)
  else .error .unsortable

/-- One entry of a mapping, its value already written. -/
def writeEntry (style : Style) (e : Value × List Char) : Except WriteFault (List Char) := do
  return writeString style.ascii (← keyText e.1) ++ ':' :: ' ' :: e.2

/-- A value that JSON does not know. -/
def writeOther (style : Style) (v : Value) : Except WriteFault (List Char) :=
  if style.lenient then .ok (writeString style.ascii v.plainText) else .error .notData

mutual

/-- A value as JSON. -/
def writeChars (style : Style) : Value → Except WriteFault (List Char)
  | .null => .ok "null".toList
  | .bool true => .ok "true".toList
  | .bool false => .ok "false".toList
  | .int n => .ok (toString n).toList
  | .float x => .ok (inJson.float x).toList
  | .str s => .ok (writeString style.ascii s)
  | .list xs => do return '[' :: (separate (← writeAll style xs) ++ [']'])
  | .tuple xs => do return '[' :: (separate (← writeAll style xs) ++ [']'])
  | .map es => do
    let es ← writeValues style es
    let es ← if style.sorted then sortEntries es else .ok es
    return '\x7b' :: (separate (← es.mapM (writeEntry style)) ++ ['\x7d'])
  | .complex re im => writeOther style (.complex re im)
  | .ellipsis => writeOther style .ellipsis
  | .bytes bs => writeOther style (.bytes bs)
  | .set xs => writeOther style (.set xs)
  | .member v => writeOther style (.member v)
  | .closure params tool args names => writeOther style (.closure params tool args names)

/-- The values of a list as JSON. -/
def writeAll (style : Style) : List Value → Except WriteFault (List (List Char))
  | [] => .ok []
  | x :: xs => do return (← writeChars style x) :: (← writeAll style xs)

/-- The entries of a mapping with their values as JSON. -/
def writeValues (style : Style) :
    List (Value × Value) → Except WriteFault (List (Value × List Char))
  | [] => .ok []
  | (k, v) :: es => do return (k, ← writeChars style v) :: (← writeValues style es)

end

/-- A text, unless a value that it is made from has a whole number that is too long. -/
def unlessLong (v : Value) (text : Except WriteFault (List Char)) : Except WriteFault String :=
  if v.hasLong then .error .longNumeral else text.map String.ofList

/-- A value as JSON text. -/
def write (style : Style) (v : Value) : Except WriteFault String :=
  unlessLong v (writeChars style v)

end CallTree.Json
