import CallTree.Tree.Basic

/-!
# Values

Values are what leaves hold, tools take and return, and events carry: the data of JSON, the further
kinds that a literal in a tool's text result may have, and closures. A closure is a lambda together
with the bindings it was made in; it is the only value that holds a program, and running a program
never looks inside it.

A mapping keeps its entries in the order in which they were put in.
-/

namespace CallTree

/-- A value. -/
inductive Value where
  | null
  | bool (b : Bool)
  | int (n : Int)
  | float (x : Float)
  | complex (re im : Float)
  | ellipsis
  | str (s : String)
  | bytes (bs : List UInt8)
  | list (items : List Value)
  | tuple (items : List Value)
  | set (items : List Value)
  | map (entries : List (Value × Value))
  /-- A member of an enumeration, which stands for a value. -/
  | member (value : Value)
  /-- A lambda with the bindings of the place where it was made. -/
  | closure (params : List String) (tool : String) (args : List (Node Value))
      (names : List (String × Value))

/-- A program tree with values at its leaves. -/
abbrev Tree := Node Value

/-- Values bound to names; the newest binding of a name stands first. -/
abbrev Bindings := List (String × Value)

instance : Inhabited Value := ⟨.null⟩

namespace Value

/-- A mapping with texts as keys. -/
def record (fields : List (String × Value)) : Value :=
  .map (fields.map fun (k, v) ↦ (.str k, v))

/-- A list of texts. -/
def texts (ss : List String) : Value := .list (ss.map .str)

/-- A text, or null. -/
def text? : Option String → Value
  | some s => .str s
  | none => .null

/-- Whether a value is null. -/
def isNull : Value → Bool
  | .null => true
  | _ => false

/-- Whether a value counts as true in a condition: null, zeros and everything empty do not. -/
def truthy : Value → Bool
  | .null => false
  | .bool b => b
  | .int n => n != 0
  | .float x => x != 0.0
  | .complex re im => re != 0.0 || im != 0.0
  | .str s => s != ""
  | .bytes bs => !bs.isEmpty
  | .list xs => !xs.isEmpty
  | .tuple xs => !xs.isEmpty
  | .set xs => !xs.isEmpty
  | .map es => !es.isEmpty
  | .ellipsis => true
  | .member _ => true
  | .closure _ _ _ _ => true

mutual

/-- Whether a value may be a key of a mapping or a member of a set. -/
def isKey : Value → Bool
  | .list _ => false
  | .set _ => false
  | .map _ => false
  | .tuple xs => areKeys xs
  | _ => true

/-- Whether all values of a list may be keys. -/
def areKeys : List Value → Bool
  | [] => true
  | x :: xs => x.isKey && areKeys xs

end

/-- The entry of a mapping under a text. -/
def entry? (key : String) : List (Value × Value) → Option Value
  | [] => none
  | (.str k, v) :: es => if k = key then some v else entry? key es
  | _ :: es => entry? key es

/-- What a mapping holds under a text; `none` also for a value that is no mapping. -/
def get? (v : Value) (key : String) : Option Value :=
  match v with
  | .map es => entry? key es
  | _ => none

/-- A text value. -/
def str? : Value → Option String
  | .str s => some s
  | _ => none

/-- A truth value. -/
def bool? : Value → Option Bool
  | .bool b => some b
  | _ => none

/-- A whole number. -/
def int? : Value → Option Int
  | .int n => some n
  | _ => none

/-- A list. -/
def list? : Value → Option (List Value)
  | .list xs => some xs
  | _ => none

end Value

/-- The value bound to a name. -/
def Bindings.get? (names : Bindings) (name : String) : Option Value := names.lookup name

/-- The bindings with further ones added one after another. -/
def Bindings.extend (names : Bindings) (new : List (String × Value)) : Bindings :=
  new.foldl (fun ns kv ↦ kv :: ns) names

end CallTree
