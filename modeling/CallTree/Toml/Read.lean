import CallTree.Described
import CallTree.Toml.Scalar

/-!
# Reading documents of settings

A document is read statement by statement: an entry of the table that is open, a header that opens
a table, or a header that adds a table to an array. A header may open a table once; a table made by
the path of an entry may not be opened at all after the next header; and the insides of arrays and
tables written in one piece stay as they are.
-/

namespace CallTree.Toml

/-! ## Marks on paths -/

/-- What is no longer allowed below or at a path. -/
inductive Rule where
  /-- The table there was opened. -/
  | opened
  /-- What is there was written in one piece. -/
  | fixed
  deriving DecidableEq, Repr

/-- A rule at a path; a deep one holds for all paths below as well. -/
structure Mark where
  path : Path
  rule : Rule
  deep : Bool
  deriving DecidableEq, Repr

/-- Whether a mark holds at a path. -/
def Mark.holdsAt (rule : Rule) (path : Path) (m : Mark) : Bool :=
  m.rule = rule && (m.path == path || (m.deep && m.path.isPrefixOf path))

/-- Whether a rule holds at a path. -/
def marked (marks : List Mark) (rule : Rule) (path : Path) : Bool :=
  marks.any (Mark.holdsAt rule path)

/-- The marks that are not at a path or below it. -/
def unmark (path : Path) (marks : List Mark) : List Mark :=
  marks.filter fun m ↦ !path.isPrefixOf m.path

/-! ## Items -/

/-- A complaint of a table, put where the given characters are left. -/
def placed {α : Type} (rest : List Char) : Except Complaint α → Except Fault α
  | .ok a => .ok a
  | .error what => complain what rest

mutual

/-- One item. The first argument bounds the recursion. -/
def readItem : Nat → List Char → Except Fault (Read Item)
  | 0, cs => complain .value cs
  | fuel + 1, cs =>
    match cs with
    | '"' :: '"' :: '"' :: rest => do
      let (s, rest) ← readLines '"' rest
      return (.text s, rest)
    | '"' :: rest => do
      let (s, rest) ← readLine '"' rest
      return (.text s, rest)
    | '\x27' :: '\x27' :: '\x27' :: rest => do
      let (s, rest) ← readLines '\x27' rest
      return (.text s, rest)
    | '\x27' :: rest => do
      let (s, rest) ← readLine '\x27' rest
      return (.text s, rest)
    | 't' :: 'r' :: 'u' :: 'e' :: rest => .ok (.truth true, rest)
    | 'f' :: 'a' :: 'l' :: 's' :: 'e' :: rest => .ok (.truth false, rest)
    | '[' :: rest => do
      match ← afterGaps false rest with
      | ']' :: rest => return (.array [], rest)
      | rest => readArray fuel [] rest
    | '\x7b' :: rest =>
      match afterBlanks rest with
      | '\x7d' :: rest => .ok (.table [], rest)
      | rest => readInline fuel [] [] rest
    | _ => readPlain cs

/-- The items of an array from the next one on; `acc` holds the ones before, last one first. -/
def readArray : Nat → List Item → List Char → Except Fault (Read Item)
  | 0, _, cs => complain .value cs
  | fuel + 1, acc, cs => do
    let (item, cs) ← readItem fuel cs
    match ← afterGaps false cs with
    | ']' :: cs => return (.array (item :: acc).reverse, cs)
    | ',' :: cs =>
      match ← afterGaps false cs with
      | ']' :: cs => return (.array (item :: acc).reverse, cs)
      | cs => readArray fuel (item :: acc) cs
    | cs => complain .unclosedArray cs

/-- The entries of a table in one piece from the next one on, given the table and the marks so
far. -/
def readInline : Nat → Table → List Mark → List Char → Except Fault (Read Item)
  | 0, _, _, cs => complain .value cs
  | fuel + 1, table, marks, cs => do
    let (path, item, cs) ← readEntry fuel cs
    if marked marks .fixed path then
      complain (.fixed path) cs
    else
      let name := path.getLast?.getD ""
      let table ← placed cs
        (table.within false (Table.insertNew name item (.repeated name)) path.dropLast)
      match afterBlanks cs with
      | '\x7d' :: cs => return (.table table, cs)
      | ',' :: cs =>
        let marks := if item.isNest then ⟨path, .fixed, true⟩ :: marks else marks
        readInline fuel table marks (afterBlanks cs)
      | cs => complain .unclosedTable cs

/-- A path and its item. -/
def readEntry : Nat → List Char → Except Fault (Path × Item × List Char)
  | 0, cs => complain .value cs
  | fuel + 1, cs => do
    match ← readPath cs with
    | (path, '=' :: cs) =>
      let (item, cs) ← readItem fuel (afterBlanks cs)
      return (path, item, cs)
    | (_, cs) => complain .equals cs

end

/-! ## Statements -/

/-- A document that is being read. -/
structure Draft where
  /-- All that was read. -/
  table : Table
  /-- The marks in force. -/
  marks : List Mark
  /-- Paths that the next header marks as opened. -/
  pending : List Path
  /-- The path of the table that is open. -/
  header : Path

/-- The paths that lead to a path below a header, without the whole path. -/
def steps (header : Path) : Path → List Path
  | [] => []
  | [_] => []
  | name :: path => (header ++ [name]) :: steps (header ++ [name]) path

/-- Puts an entry into the open table. -/
def Draft.enter (d : Draft) (path : Path) (item : Item) : Except Complaint Draft := do
  let between := steps d.header path
  if let some p := between.find? (marked d.marks .opened) then
    throw (.redefined p)
  let parent := d.header ++ path.dropLast
  if marked d.marks .fixed parent then
    throw (.fixed parent)
  let name := path.getLast?.getD ""
  let table ← d.table.within true (Table.insertNew name item .overwritten) parent
  let marks := if item.isNest then ⟨d.header ++ path, .fixed, true⟩ :: d.marks else d.marks
  return ⟨table, marks, d.pending ++ between, d.header⟩

/-- The draft with the pending paths marked. -/
def Draft.settle (d : Draft) : Draft :=
  { d with marks := d.pending.map (⟨·, .opened, false⟩) ++ d.marks, pending := [] }

/-- Opens a table. -/
def Draft.openTable (d : Draft) (path : Path) : Except Complaint Draft := do
  if marked d.marks .opened path || marked d.marks .fixed path then
    throw (.declaredTwice path)
  let table ← d.table.within true pure path
  return ⟨table, ⟨path, .opened, false⟩ :: d.marks, d.pending, path⟩

/-- Adds a table to an array of tables and opens it. What was marked below is free again. -/
def Draft.openInArray (d : Draft) (path : Path) : Except Complaint Draft := do
  if marked d.marks .fixed path then
    throw (.fixed path)
  let table ← d.table.within true (Table.extendArray (path.getLast?.getD "")) path.dropLast
  return ⟨table, ⟨path, .opened, false⟩ :: unmark path d.marks, d.pending, path⟩

/-- A header, from behind its first bracket. -/
def readHeader (d : Draft) : List Char → Except Fault (Read Draft)
  | '[' :: cs => do
    let (path, cs) ← readPath (afterBlanks cs)
    let d ← placed cs (d.settle.openInArray path)
    match cs with
    | ']' :: ']' :: cs => return (d, cs)
    | cs => complain .arrayTableEnd cs
  | cs => do
    let (path, cs) ← readPath (afterBlanks cs)
    let d ← placed cs (d.settle.openTable path)
    match cs with
    | ']' :: cs => return (d, cs)
    | cs => complain .tableEnd cs

/-- What stands on a line before a comment. -/
def readStatement (d : Draft) (cs : List Char) : Except Fault (Read Draft) :=
  match cs with
  | c :: rest =>
    if isBare c || c == '"' || c == '\x27' then do
      let (path, item, cs) ← readEntry (2 * cs.length + 2) cs
      let d ← placed cs (d.enter path item)
      return (d, afterBlanks cs)
    else if c == '[' then do
      let (d, cs) ← readHeader d rest
      return (d, afterBlanks cs)
    else if c == '#' then .ok (d, cs)
    else complain .statement cs
  | [] => .ok (d, [])

/-- The statements from the next one on. The first argument bounds their number. -/
def readStatements : Nat → Draft → List Char → Except Fault Draft
  | 0, d, _ => .ok d
  | fuel + 1, d, cs =>
    match afterBlanks cs with
    | [] => .ok d
    | '\n' :: cs => readStatements fuel d cs
    | cs => do
      let (d, cs) ← readStatement d cs
      match ← afterComment cs with
      | [] => return d
      | '\n' :: cs => readStatements fuel d cs
      | cs => complain .lineEnd cs

/-! ## Documents -/

/-- Where a fault was found: line and column from one, or the end of the document. -/
def placeText (cs : List Char) (left : Nat) : String :=
  if left == 0 then "end of document"
  else
    let before := cs.take (cs.length - left)
    let line := before.count '\n' + 1
    let column := (before.reverse.takeWhile (· != '\n')).length + 1
    s!"line {line}, column {column}"

/-- Why a document could not be read, in words. -/
structure ReadFault where
  /-- Whether the document breaks a rule of the format; otherwise a number in it is too long. -/
  isMalformed : Bool
  /-- The wording. -/
  text : String
  deriving DecidableEq, Repr

instance : Described ReadFault where
  label f := if f.isMalformed then "TOMLDecodeError" else "ValueError"
  wording? _ := none

/-- The fault in words. -/
def Fault.inDocument (cs : List Char) : Fault → ReadFault
  | .malformed what left => ⟨true, what.text ++ " (at " ++ placeText cs left ++ ")"⟩
  | .longNumeral digits =>
    ⟨false, "Exceeds the limit (4300 digits) for integer string conversion: value has " ++
      toString digits ++ " digits; use sys.set_int_max_str_digits() to increase the limit"⟩

/-- Carriage returns before line feeds dropped. -/
def dropReturns : List Char → List Char
  | '\r' :: '\n' :: cs => '\n' :: dropReturns cs
  | c :: cs => c :: dropReturns cs
  | [] => []

/-- Reads a whole document. -/
def read (s : String) : Except ReadFault Table :=
  let cs := dropReturns s.toList
  match readStatements (cs.length + 1) ⟨[], [], [], []⟩ cs with
  | .ok d => .ok d.table
  | .error e => .error (e.inDocument cs)

end CallTree.Toml
