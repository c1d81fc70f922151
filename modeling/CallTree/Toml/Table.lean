import CallTree.Toml.Moment
import CallTree.Value.Display

/-!
# Tables of settings

A document of settings is a table: names in the order in which they were given, each with an item.
Items are scalars, arrays and tables again. A path of names leads from a table to a nested one; on
its way it makes the tables that are missing and enters an array of tables at its last table.
-/

namespace CallTree.Toml

/-- What a name in a document stands for. -/
inductive Item where
  | text (s : String)
  | whole (n : Int)
  | decimal (x : Float)
  | truth (b : Bool)
  | moment (m : Moment)
  | array (items : List Item)
  | table (entries : List (String × Item))

/-- Names with their items, in the order given. -/
abbrev Table := List (String × Item)

/-- A path of names. -/
abbrev Path := List String

/-- The text of a path in messages. -/
def Path.shown (path : Path) : String := (Value.tuple (path.map .str)).display

mutual

/-- The item as a value; a moment is its text. -/
def Item.toValue : Item → Value
  | .text s => .str s
  | .whole n => .int n
  | .decimal x => .float x
  | .truth b => .bool b
  | .moment m => .str m.text
  | .array items => .list (itemValues items)
  | .table entries => .map (entryValues entries)

/-- The items as values. -/
def itemValues : List Item → List Value
  | [] => []
  | i :: is => i.toValue :: itemValues is

/-- The entries of a table as entries of a mapping. -/
def entryValues : List (String × Item) → List (Value × Value)
  | [] => []
  | (k, i) :: es => (.str k, i.toValue) :: entryValues es

end

/-- The text of an item, where a text stands for itself. -/
def Item.plainText (i : Item) : String := i.toValue.plainText

/-- Whether the item holds other items. -/
def Item.isNest : Item → Bool
  | .array _ => true
  | .table _ => true
  | _ => false

/-! ## What can be wrong -/

/-- What is wrong with a document. -/
inductive Complaint where
  | statement
  | lineEnd
  | missing (mark : String)
  | invalid (c : Char)
  | declaredTwice (path : Path)
  | overwritten
  | tableEnd
  | arrayTableEnd
  | fixed (path : Path)
  | redefined (path : Path)
  | equals
  | key
  | unclosedArray
  | unclosedTable
  | repeated (name : String)
  | escape
  | hex
  | codePoint
  | unterminated
  | illegal (c : Char)
  | day
  | value
  deriving DecidableEq, Repr

/-- The wording of a complaint. -/
def Complaint.text : Complaint → String
  | .statement => "Invalid statement"
  | .lineEnd => "Expected newline or end of document after a statement"
  | .missing mark => "Expected " ++ Value.quoted mark
  | .invalid c => "Found invalid character " ++ Value.quoted (String.singleton c)
  | .declaredTwice path => "Cannot declare " ++ path.shown ++ " twice"
  | .overwritten => "Cannot overwrite a value"
  | .tableEnd => "Expected ']' at the end of a table declaration"
  | .arrayTableEnd => "Expected ']]' at the end of an array declaration"
  | .fixed path => "Cannot mutate immutable namespace " ++ path.shown
  | .redefined path => "Cannot redefine namespace " ++ path.shown
  | .equals => "Expected '=' after a key in a key/value pair"
  | .key => "Invalid initial character for a key part"
  | .unclosedArray => "Unclosed array"
  | .unclosedTable => "Unclosed inline table"
  | .repeated name => "Duplicate inline table key " ++ Value.quoted name
  | .escape => "Unescaped '\\' in a string"
  | .hex => "Invalid hex value"
  | .codePoint => "Escaped character is not a Unicode scalar value"
  | .unterminated => "Unterminated string"
  | .illegal c => "Illegal character " ++ Value.quoted (String.singleton c)
  | .day => "Invalid date or datetime"
  | .value => "Invalid value"

/-! ## Changing a nested table -/

/-- The table with the item of a name that it has replaced. -/
def Table.replace (name : String) (item : Item) (t : Table) : Table :=
  t.map fun (k, i) ↦ if k == name then (k, item) else (k, i)

/-- Changes the table that a path leads to. Arrays of tables are entered only if `enter` holds. -/
def Table.within (enter : Bool) (change : Table → Except Complaint Table) :
    Path → Table → Except Complaint Table
  | [], t => change t
  | name :: path, t =>
    match t.lookup name with
    | none => do
      let inner ← Table.within enter change path []
      return t ++ [(name, .table inner)]
    | some (.table inner) => do
      let inner ← Table.within enter change path inner
      return t.replace name (.table inner)
    | some (.array items) =>
      if enter then
        match items.getLast? with
        | some (.table inner) => do
          let inner ← Table.within enter change path inner
          return t.replace name (.array (items.dropLast ++ [.table inner]))
        | _ => .error .overwritten
      else .error .overwritten
    | some _ => .error .overwritten

/-- Puts an item under a name that the table does not have. -/
def Table.insertNew (name : String) (item : Item) (taken : Complaint) (t : Table) :
    Except Complaint Table :=
  if (t.lookup name).isSome then .error taken else .ok (t ++ [(name, item)])

/-- Adds an empty table to the array of tables under a name. -/
def Table.extendArray (name : String) (t : Table) : Except Complaint Table :=
  match t.lookup name with
  | none => .ok (t ++ [(name, .array [.table []])])
  | some (.array items) => .ok (t.replace name (.array (items ++ [.table []])))
  | some _ => .error .overwritten

end CallTree.Toml
