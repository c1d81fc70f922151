import CallTree.Decimal.Binary
import CallTree.Entries
import CallTree.Value.Basic

/-!
# Equality of values

Numbers are equal when they stand for the same quantity, whatever their kind, and truth values
count as the numbers zero and one. Lists and tuples are compared item by item, mappings and sets
without regard to order. A number that is not a number equals nothing.
-/

namespace CallTree.Value

/-- A number: whole, or a double with an imaginary part. -/
inductive Quantity where
  | whole (n : Int)
  | double (x : Float)
  | complex (re im : Float)

/-- The number a value stands for. -/
def quantity? : Value → Option Quantity
  | .bool b => some (.whole (if b then 1 else 0))
  | .int n => some (.whole n)
  | .float x => some (.double x)
  | .complex re im => some (.complex re im)
  | _ => none

/-- Whether a whole number equals a double. -/
def wholeEqual (n : Int) (x : Float) : Bool := Decimal.compareInt n x == some .eq

/-- Whether two numbers are the same quantity. -/
def Quantity.equal : Quantity → Quantity → Bool
  | .whole m, .whole n => m == n
  | .whole m, .double x => wholeEqual m x
  | .double x, .whole n => wholeEqual n x
  | .double x, .double y => x == y
  | .complex re im, .whole n => im == 0.0 && wholeEqual n re
  | .whole n, .complex re im => im == 0.0 && wholeEqual n re
  | .complex re im, .double y => im == 0.0 && re == y
  | .double x, .complex re im => im == 0.0 && x == re
  | .complex re im, .complex re' im' => re == re' && im == im'

mutual

/-- Whether two values are equal. -/
def equal : Value → Value → Bool
  | .null, .null => true
  | .ellipsis, .ellipsis => true
  | .str s, .str t => s == t
  | .bytes s, .bytes t => s == t
  | .list xs, .list ys => equalAll xs ys
  | .tuple xs, .tuple ys => equalAll xs ys
  | .set xs, .set ys => xs.length == ys.length && allIn xs ys
  | .map es, .map fs => es.length == fs.length && entriesIn es fs
  | .member v, .member w => v.equal w
  | v, w => match v.quantity?, w.quantity? with
    | some p, some q => p.equal q
    | _, _ => false

/-- Whether two lists of values are equal item by item. -/
def equalAll : List Value → List Value → Bool
  | [], [] => true
  | x :: xs, y :: ys => x.equal y && equalAll xs ys
  | _, _ => false

/-- Whether each value of the first list equals some value of the second. -/
def allIn : List Value → List Value → Bool
  | [], _ => true
  | x :: xs, ys => ys.any (fun y ↦ x.equal y) && allIn xs ys

/-- Whether each entry of the first mapping has an equal one in the second. -/
def entriesIn : List (Value × Value) → List (Value × Value) → Bool
  | [], _ => true
  | (k, v) :: es, fs => fs.any (fun f ↦ k.equal f.1 && v.equal f.2) && entriesIn es fs

end

/-- A mapping's entries with a value put under a key: an equal key keeps its place, a new one goes
to the end. -/
abbrev put (key value : Value) (es : List (Value × Value)) : List (Value × Value) :=
  Entries.put equal key value es

/-- A mapping's entries from a list of pairs, in which a later pair replaces an earlier one. -/
abbrev ofPairs (pairs : List (Value × Value)) : List (Value × Value) := Entries.ofPairs equal pairs

/-- A set's members, each once. -/
def distinct (xs : List Value) : List Value :=
  xs.foldl (fun ys x ↦ if ys.any (·.equal x) then ys else ys ++ [x]) []

end CallTree.Value
