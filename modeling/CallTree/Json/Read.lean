import CallTree.Value.Equal
import CallTree.Decimal.Numeral

/-!
# Reading JSON text

A reader for JSON with three liberties: the names for infinity and for no number are accepted,
whole numbers may have any size up to a limit on their digits, and of two entries with one key the
later replaces the earlier in its place. A text that is not JSON is answered by what was missing
and where: the offset in characters, with line and column counted from one.

The reader works on lists of characters together with the offset of their first character. Its
recursion is bounded by a count that is larger than any text can use up, so it reads texts of any
length and depth. Half of a pair that stands for one character is no character by itself and can
not be part of a text: where it stands alone, the replacement character is read.
-/

namespace CallTree.Json

open CallTree.Text CallTree.Decimal

/-- What is wrong with a text that is not JSON. -/
inductive Complaint where
  | value
  | propertyName
  | colon
  | comma
  | unterminated
  | control
  | escape
  | codePoint
  | extra
  | byteOrderMark
  deriving DecidableEq, Repr

/-- The wording of a complaint. -/
def Complaint.text : Complaint → String
  | .value => "Expecting value"
  | .propertyName => "Expecting property name enclosed in double quotes"
  | .colon => "Expecting ':' delimiter"
  | .comma => "Expecting ',' delimiter"
  | .unterminated => "Unterminated string starting at"
  | .control => "Invalid control character at"
  | .escape => "Invalid \\escape"
  | .codePoint => "Invalid \\uXXXX escape"
  | .extra => "Extra data"
  | .byteOrderMark => "Unexpected UTF-8 BOM (decode using utf-8-sig)"

/-- Why a text could not be read. -/
inductive ReadFault where
  /-- The text is not JSON. -/
  | malformed (what : Complaint) (offset : Nat)
  /-- A whole number has more digits than are read. -/
  | longNumeral (digits : Nat)
  deriving DecidableEq, Repr

/-- What a part of the reader gives: a result, the offset behind it and the rest of the text. -/
abbrev Read (α : Type) := α × Nat × List Char

/-- Whether JSON passes over the character between its parts. -/
def isGap (c : Char) : Bool := c == ' ' || c == '\t' || c == '\n' || c == '\r'

/-- Passes over gaps. -/
def skip (pos : Nat) : List Char → Nat × List Char
  | c :: cs => if isGap c then skip (pos + 1) cs else (pos, c :: cs)
  | [] => (pos, [])

/-- The character after a backslash stands for. -/
def escaped? : Char → Option Char
  | '"' => some '"'
  | '\\' => some '\\'
  | '/' => some '/'
  | 'b' => some '\x08'
  | 'f' => some '\x0c'
  | 'n' => some '\n'
  | 'r' => some '\r'
  | 't' => some '\t'
  | _ => none

/-- The number of four hexadecimal digits. -/
def hex4? (a b c d : Char) : Option Nat := do
  return ofDigits 16 [← hexDigit? a, ← hexDigit? b, ← hexDigit? c, ← hexDigit? d]

/-- Whether a number is the first half of a pair that stands for one character. -/
def isHighHalf (n : Nat) : Bool := 0xd800 ≤ n && n ≤ 0xdbff

/-- Whether a number is the second half of a pair that stands for one character. -/
def isLowHalf (n : Nat) : Bool := 0xdc00 ≤ n && n ≤ 0xdfff

/-- The character of a number; a half that stands alone has none and is replaced. -/
def charOf (n : Nat) : Char :=
  if isHighHalf n || isLowHalf n then Char.ofNat 0xfffd else Char.ofNat n

/-- The character that two halves stand for. -/
def pairChar (high low : Nat) : Char :=
  Char.ofNat (0x10000 + (high - 0xd800) * 0x400 + (low - 0xdc00))

/-- What was read of a string with one more number put in, last character first: a second half
joins the first half right before it. -/
def pushNumber (high : Option Nat) (n : Nat) (acc : List Char) : List Char :=
  match high with
  | some h => if isLowHalf n then pairChar h n :: acc.tail else charOf n :: acc
  | none => charOf n :: acc

/-- The rest of a string that was opened at offset `start`; `high` is the first half of a pair when
one was just read, and `acc` holds what was read, last character first. -/
def readString (start pos : Nat) (high : Option Nat) (acc : List Char) :
    List Char → Except ReadFault (Read (List Char))
  | [] => .error (.malformed .unterminated start)
  | '"' :: cs => .ok (acc.reverse, pos + 1, cs)
  | '\\' :: 'u' :: a :: b :: c :: d :: cs =>
    match hex4? a b c d with
    | none => .error (.malformed .codePoint (pos + 1))
    | some n =>
      if cs.isEmpty then .error (.malformed .codePoint (pos + 1))
      else readString start (pos + 6) (if isHighHalf n then some n else none)
        (pushNumber high n acc) cs
  | '\\' :: 'u' :: _ => .error (.malformed .codePoint (pos + 1))
  | '\\' :: [] => .error (.malformed .unterminated start)
  | '\\' :: c :: cs =>
    match escaped? c with
    | some e => readString start (pos + 2) none (e :: acc) cs
    | none => .error (.malformed .escape pos)
  | c :: cs =>
    if c.toNat < 0x20 then .error (.malformed .control pos)
    else readString start (pos + 1) none (c :: acc) cs
  termination_by structural cs => cs

/-- The fraction of a number: a point and at least one digit. -/
def takeFraction : List Char → List Nat × List Char
  | '.' :: cs => match takeDigits cs with
    | ([], _) => ([], '.' :: cs)
    | r => r
  | cs => ([], cs)

/-- The exponent of a number: a mark, perhaps a sign, and at least one digit. -/
def takePower : List Char → Option Int × List Char
  | c :: cs =>
    if c == 'e' || c == 'E' then
      let (neg, rest) := takeSign cs
      match takeDigits rest with
      | ([], _) => (none, c :: cs)
      | (ds, rest) => (some (if neg then -(ofDigits 10 ds : Int) else ofDigits 10 ds), rest)
    else (none, c :: cs)
  | [] => (none, [])

/-- The digits before the point: a zero alone, or digits that do not start with zero. -/
def takeWhole : List Char → List Nat × List Char
  | '0' :: cs => ([0], cs)
  | cs => takeDigits cs

/-- A number. -/
def readNumber (pos : Nat) (cs : List Char) : Except ReadFault (Read Value) :=
  let (neg, rest) := match cs with
    | '-' :: rest => (true, rest)
    | _ => (false, cs)
  match takeWhole rest with
  | ([], _) => .error (.malformed .value pos)
  | (whole, rest) =>
    let (fraction, rest) := takeFraction rest
    let (power, rest) := takePower rest
    let stop := pos + (cs.length - rest.length)
    if fraction.isEmpty && power.isNone then
      if whole.length > maxWholeDigits then .error (.longNumeral whole.length)
      else
        let n : Int := ofDigits 10 whole
        .ok (.int (if neg then -n else n), stop, rest)
    else
      let x := ofDecimal neg (whole ++ fraction) (power.getD 0 - (fraction.length : Int))
      .ok (.float x, stop, rest)

mutual

/-- One value. The first argument bounds the recursion. -/
def readValue : Nat → Nat → List Char → Except ReadFault (Read Value)
  | 0, pos, _ => .error (.malformed .value pos)
  | fuel + 1, pos, cs =>
    match cs with
    | '"' :: rest => do
      let (s, pos, rest) ← readString pos (pos + 1) none [] rest
      return (.str (String.ofList s), pos, rest)
    | '\x7b' :: rest =>
      match skip (pos + 1) rest with
      | (pos, '\x7d' :: rest) => .ok (.map [], pos + 1, rest)
      | (pos, rest) => readEntries fuel [] pos rest
    | '[' :: rest =>
      match skip (pos + 1) rest with
      | (pos, ']' :: rest) => .ok (.list [], pos + 1, rest)
      | (pos, rest) => readItems fuel [] pos rest
    | 'n' :: 'u' :: 'l' :: 'l' :: rest => .ok (.null, pos + 4, rest)
    | 't' :: 'r' :: 'u' :: 'e' :: rest => .ok (.bool true, pos + 4, rest)
    | 'f' :: 'a' :: 'l' :: 's' :: 'e' :: rest => .ok (.bool false, pos + 5, rest)
    | 'N' :: 'a' :: 'N' :: rest => .ok (.float notANumber, pos + 3, rest)
    | 'I' :: 'n' :: 'f' :: 'i' :: 'n' :: 'i' :: 't' :: 'y' :: rest =>
      .ok (.float (infinity false), pos + 8, rest)
    | '-' :: 'I' :: 'n' :: 'f' :: 'i' :: 'n' :: 'i' :: 't' :: 'y' :: rest =>
      .ok (.float (infinity true), pos + 9, rest)
    | _ => readNumber pos cs

/-- The items of a list from the next one on; `acc` holds the ones before, last one first. -/
def readItems : Nat → List Value → Nat → List Char → Except ReadFault (Read Value)
  | 0, _, pos, _ => .error (.malformed .value pos)
  | fuel + 1, acc, pos, cs => do
    let (v, pos, cs) ← readValue fuel pos cs
    match skip pos cs with
    | (pos, ']' :: cs) => return (.list (v :: acc).reverse, pos + 1, cs)
    | (pos, ',' :: cs) =>
      let (pos, cs) := skip (pos + 1) cs
      readItems fuel (v :: acc) pos cs
    | (pos, _) => .error (.malformed .comma pos)

/-- The entries of a mapping from the next one on; `acc` holds the ones before. -/
def readEntries : Nat → List (Value × Value) → Nat → List Char → Except ReadFault (Read Value)
  | 0, _, pos, _ => .error (.malformed .value pos)
  | fuel + 1, acc, pos, cs =>
    match cs with
    | '"' :: cs => do
      let (k, pos, cs) ← readString pos (pos + 1) none [] cs
      match skip pos cs with
      | (pos, ':' :: cs) =>
        let (pos, cs) := skip (pos + 1) cs
        let (v, pos, cs) ← readValue fuel pos cs
        let acc := Value.put (.str (String.ofList k)) v acc
        match skip pos cs with
        | (pos, '\x7d' :: cs) => return (.map acc, pos + 1, cs)
        | (pos, ',' :: cs) =>
          let (pos, cs) := skip (pos + 1) cs
          readEntries fuel acc pos cs
        | (pos, _) => .error (.malformed .comma pos)
      | (pos, _) => .error (.malformed .colon pos)
    | _ => .error (.malformed .propertyName pos)

end

/-- Reads a whole text. -/
def readChars (cs : List Char) : Except ReadFault Value :=
  if cs.head? == some (Char.ofNat 0xfeff) then .error (.malformed .byteOrderMark 0)
  else
    let (pos, rest) := skip 0 cs
    match readValue (2 * cs.length + 2) pos rest with
    | .error e => .error e
    | .ok (v, pos, rest) =>
      match skip pos rest with
      | (_, []) => .ok v
      | (pos, _) => .error (.malformed .extra pos)

/-- Reads a whole text. -/
def read (s : String) : Except ReadFault Value := readChars s.toList

/-- The line of an offset and the column in it, both counted from one. -/
def position (s : String) (offset : Nat) : Nat × Nat :=
  let before := s.toList.take offset
  (before.count '\n' + 1, (before.reverse.takeWhile (· != '\n')).length + 1)

/-- What is reported about a text that could not be read. -/
def ReadFault.message (text : String) : ReadFault → String
  | .malformed what offset =>
    let (line, column) := position text offset
    what.text ++ ": line " ++ toString line ++ " column " ++ toString column ++
      " (char " ++ toString offset ++ ")"
  | .longNumeral digits =>
    "Exceeds the limit (" ++ toString maxWholeDigits ++
      " digits) for integer string conversion: value has " ++ toString digits ++
      " digits; use sys.set_int_max_str_digits() to increase the limit"

end CallTree.Json
