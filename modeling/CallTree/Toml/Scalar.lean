import CallTree.Decimal.Numeral
import CallTree.Toml.Table

/-!
# Names, texts and numbers in documents

The parts of the reader work on the characters that are left. A fault tells how many characters
were left where it was found, so that its place can be worked out from the whole document.
-/

namespace CallTree.Toml

open CallTree.Text CallTree.Decimal

/-- Why a document could not be read. -/
inductive Fault where
  /-- A complaint, with the number of characters left where it was found. -/
  | malformed (what : Complaint) (left : Nat)
  /-- A whole number has more digits than are read. -/
  | longNumeral (digits : Nat)
  deriving DecidableEq, Repr

/-- What a part of the reader gives: a result and what is left. -/
abbrev Read (α : Type) := α × List Char

/-- A complaint about the place where the given characters are left. -/
def complain {α : Type} (what : Complaint) (rest : List Char) : Except Fault α :=
  .error (.malformed what rest.length)

/-! ## Gaps -/

/-- Whether the character is a blank within a line. -/
def isBlank (c : Char) : Bool := c == ' ' || c == '\t'

/-- Whether the character is a blank or a line feed. -/
def isGap (c : Char) : Bool := isBlank c || c == '\n'

/-- Whether a character may not stand within a line. -/
def isControl (c : Char) : Bool := (c.toNat < 0x20 && c != '\t') || c.toNat == 0x7f

/-- What is left after blanks. -/
def afterBlanks (cs : List Char) : List Char := cs.dropWhile isBlank

/-- What is left after the rest of a comment: the end of its line. -/
def afterRemark : List Char → Except Fault (List Char)
  | [] => .ok []
  | c :: cs =>
    if c == '\n' then .ok (c :: cs)
    else if isControl c then complain (.invalid c) (c :: cs)
    else afterRemark cs

/-- What is left after a comment, if there is one. -/
def afterComment : List Char → Except Fault (List Char)
  | '#' :: cs => afterRemark cs
  | cs => .ok cs

/-- What is left after blanks, line feeds and comments. -/
def afterGaps (inComment : Bool) : List Char → Except Fault (List Char)
  | [] => .ok []
  | c :: cs =>
    if c == '\n' then afterGaps false cs
    else if inComment then
      if isControl c then complain (.invalid c) (c :: cs) else afterGaps true cs
    else if isBlank c then afterGaps false cs
    else if c == '#' then afterGaps true cs
    else .ok (c :: cs)

/-! ## Texts -/

/-- Splits characters before the first place where a mark stands. -/
def splitAt? (mark : List Char) : List Char → Option (List Char × List Char)
  | [] => none
  | c :: cs =>
    if mark.isPrefixOf (c :: cs) then some ([], c :: cs)
    else (splitAt? mark cs).map fun (before, after) ↦ (c :: before, after)

/-- The characters up to a mark, which is passed over. -/
def literalUntil (mark : String) (isIllegal : Char → Bool) (cs : List Char) :
    Except Fault (Read (List Char)) :=
  match splitAt? mark.toList cs with
  | none => complain (.missing mark) []
  | some (before, after) =>
    match before.dropWhile (!isIllegal ·) with
    | [] => .ok (before, after.drop mark.length)
    | c :: more => complain (.invalid c) (c :: more ++ after)

/-- The character that an escape of one letter stands for. -/
def escaped? : Char → Option Char
  | 'b' => some '\x08'
  | 't' => some '\t'
  | 'n' => some '\n'
  | 'f' => some '\x0c'
  | 'r' => some '\r'
  | '"' => some '"'
  | '\\' => some '\\'
  | _ => none

/-- The character that hexadecimal digits stand for; `rest` is left behind them. -/
def hexChar (digits rest : List Char) : Except Fault Char :=
  match digits.mapM hexDigit? with
  | none => complain .hex (digits ++ rest)
  | some ds =>
    let n := ofDigits 16 ds
    if n < 0xd800 || (0xe000 ≤ n && n < 0x110000) then .ok (Char.ofNat n)
    else complain .codePoint rest

/-- What is passed over after a backslash at the end of a line. -/
inductive Trim where
  /-- Nothing is passed over. -/
  | none
  /-- Only blanks may stand before the end of the line. -/
  | toLineEnd
  /-- Blanks and empty lines are passed over. -/
  | gaps
  deriving DecidableEq, Repr

/-- The rest of a quoted text; `acc` holds what was read, last character first. -/
def readQuoted (lines : Bool) (trim : Trim) (acc : List Char) :
    List Char → Except Fault (Read (List Char))
  | [] => complain .unterminated []
  | '\\' :: 'U' :: a :: b :: c :: d :: e :: f :: g :: h :: cs =>
    if trim = .toLineEnd then
      complain .escape ('\\' :: 'U' :: a :: b :: c :: d :: e :: f :: g :: h :: cs)
    else do
      let x ← hexChar [a, b, c, d, e, f, g, h] cs
      readQuoted lines .none (x :: acc) cs
  | '\\' :: 'u' :: a :: b :: c :: d :: cs =>
    if trim = .toLineEnd then complain .escape ('\\' :: 'u' :: a :: b :: c :: d :: cs)
    else do
      let x ← hexChar [a, b, c, d] cs
      readQuoted lines .none (x :: acc) cs
  | '\\' :: c :: cs =>
    if trim = .toLineEnd then complain .escape ('\\' :: c :: cs)
    else if lines && isBlank c then readQuoted lines .toLineEnd acc cs
    else if lines && c == '\n' then readQuoted lines .gaps acc cs
    else if c == 'u' || c == 'U' then complain .hex cs
    else
      match escaped? c with
      | some x => readQuoted lines .none (x :: acc) cs
      | none => complain .escape cs
  | c :: cs =>
    if trim = .toLineEnd then
      if isBlank c then readQuoted lines .toLineEnd acc cs
      else if c == '\n' then readQuoted lines .gaps acc cs
      else complain .escape (c :: cs)
    else if trim = .gaps && isGap c then readQuoted lines .gaps acc cs
    else if c == '\\' then complain .escape []
    else if c == '"' then
      if !lines then .ok (acc.reverse, cs)
      else if cs.take 2 == ['"', '"'] then .ok (acc.reverse, cs.drop 2)
      else readQuoted lines .none (c :: acc) cs
    else if isControl c && !(lines && c == '\n') then complain (.illegal c) (c :: cs)
    else readQuoted lines .none (c :: acc) cs
  termination_by structural cs => cs

/-- Up to two further quotes right behind the three that close a text of several lines. -/
def takeQuotes (quote : Char) (cs : List Char) : List Char × List Char :=
  let more := (cs.take 2).takeWhile (· == quote)
  (more, cs.drop more.length)

/-- A text of several lines, from behind its opening quotes; a line feed there is passed over. -/
def readLines (quote : Char) (cs : List Char) : Except Fault (Read String) := do
  let cs := match cs with
    | '\n' :: cs => cs
    | cs => cs
  let (s, cs) ← if quote == '"' then readQuoted true .none [] cs
    else literalUntil (String.ofList [quote, quote, quote]) (fun c ↦ isControl c && c != '\n') cs
  let (more, cs) := takeQuotes quote cs
  return (String.ofList (s ++ more), cs)

/-- A text of one line, from behind its opening quote. -/
def readLine (quote : Char) (cs : List Char) : Except Fault (Read String) := do
  let (s, cs) ← if quote == '"' then readQuoted false .none [] cs
    else literalUntil (String.singleton quote) isControl cs
  return (String.ofList s, cs)

/-! ## Names -/

/-- Whether a character may stand in a name without quotes. -/
def isBare (c : Char) : Bool := c.isAlphanum || c == '-' || c == '_'

/-- One name of a path. -/
def readName (cs : List Char) : Except Fault (Read String) :=
  match cs with
  | c :: rest =>
    if isBare c then .ok (String.ofList (cs.takeWhile isBare), cs.dropWhile isBare)
    else if c == '\x27' || c == '"' then readLine c rest
    else complain .key cs
  | [] => complain .key cs

/-- A path: names with points between them. The first argument bounds the number of names. -/
def readNames : Nat → List Char → Except Fault (Read Path)
  | 0, cs => complain .key cs
  | fuel + 1, cs => do
    let (name, cs) ← readName cs
    match afterBlanks cs with
    | '.' :: cs =>
      let (names, cs) ← readNames fuel (afterBlanks cs)
      return (name :: names, cs)
    | cs => return ([name], cs)

/-- A path and the blanks behind it. -/
def readPath (cs : List Char) : Except Fault (Read Path) := readNames (cs.length + 1) cs

/-! ## Numbers -/

/-- Further digits, each perhaps behind an underscore, and the rest. -/
def moreDigits (digit? : Char → Option Nat) : List Char → List Nat × List Char
  | [] => ([], [])
  | '_' :: c :: cs =>
    match digit? c with
    | some d => let (ds, rest) := moreDigits digit? cs; (d :: ds, rest)
    | none => ([], '_' :: c :: cs)
  | c :: cs =>
    match digit? c with
    | some d => let (ds, rest) := moreDigits digit? cs; (d :: ds, rest)
    | none => ([], c :: cs)

/-- Digits with single underscores between them, and the rest. -/
def takeRun (digit? : Char → Option Nat) : List Char → List Nat × List Char
  | [] => ([], [])
  | c :: cs =>
    match digit? c with
    | some d => let (ds, rest) := moreDigits digit? cs; (d :: ds, rest)
    | none => ([], c :: cs)

/-- A digit below a bound. -/
def digitBelow? (bound : Nat) (c : Char) : Option Nat :=
  (hexDigit? c).filter (· < bound)

/-- The letter behind the zero of a number that is not decimal, with its base. -/
def baseOf? : Char → Option Nat
  | 'x' => some 16
  | 'o' => some 8
  | 'b' => some 2
  | _ => none

/-- A whole number in another base than ten. -/
def based? : List Char → Option (Int × List Char)
  | '0' :: c :: cs => do
    let base ← baseOf? c
    match takeRun (digitBelow? base) cs with
    | ([], _) => none
    | (ds, rest) => some (Int.ofNat (ofDigits base ds), rest)
  | _ => none

/-- The digits before the point: a zero alone, or digits that do not start with zero. -/
def takeWhole : List Char → List Nat × List Char
  | '0' :: cs => ([0], cs)
  | cs => takeRun asciiDigit? cs

/-- A point with digits behind it. -/
def takeFraction : List Char → List Nat × List Char
  | '.' :: cs =>
    match takeRun asciiDigit? cs with
    | ([], _) => ([], '.' :: cs)
    | r => r
  | cs => ([], cs)

/-- A power of ten. -/
def takePower : List Char → Option Int × List Char
  | [] => (none, [])
  | c :: cs =>
    if c == 'e' || c == 'E' then
      let (neg, rest) := takeSign cs
      match takeRun asciiDigit? rest with
      | ([], _) => (none, c :: cs)
      | (ds, rest) => (some (if neg then -(ofDigits 10 ds : Int) else ofDigits 10 ds), rest)
    else (none, c :: cs)

/-- A decimal number. -/
def decimal? (cs : List Char) : Option (Except Fault (Read Item)) :=
  let (neg, rest) := takeSign cs
  match takeWhole rest with
  | ([], _) => none
  | (whole, rest) =>
    let (fraction, rest) := takeFraction rest
    let (power, rest) := takePower rest
    if fraction.isEmpty && power.isNone then
      if whole.length > maxWholeDigits then some (.error (.longNumeral whole.length))
      else
        let n : Int := ofDigits 10 whole
        some (.ok (.whole (if neg then -n else n), rest))
    else
      let x := ofDecimal neg (whole ++ fraction) (power.getD 0 - (fraction.length : Int))
      some (.ok (.decimal x, rest))

/-- Infinity, or no number. -/
def special? (cs : List Char) : Option (Item × List Char) :=
  let (neg, rest) := takeSign cs
  if "inf".toList.isPrefixOf rest then some (.decimal (infinity neg), rest.drop 3)
  else if "nan".toList.isPrefixOf rest then some (.decimal notANumber, rest.drop 3)
  else none

/-- A moment or a number. -/
def readPlain (cs : List Char) : Except Fault (Read Item) :=
  match moment? cs with
  | some (m, rest) => if m.exists then .ok (.moment m, rest) else complain .day cs
  | none =>
    match based? cs with
    | some (n, rest) => .ok (.whole n, rest)
    | none =>
      match decimal? cs with
      | some r => r
      | none =>
        match special? cs with
        | some r => .ok r
        | none => complain .value cs

end CallTree.Toml
