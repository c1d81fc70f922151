/-!
# Entries with keys

Lists of keys with values, in which a key has one place. When two keys are the same is up to whoever
keeps the entries: tools are kept by name, the entries of a mapping by keys that are equal as
values.
-/

namespace CallTree.Entries

variable {α β : Type}

/-- Entries with a value put in; the value of the same key is replaced in its place. -/
def put (same : α → α → Bool) (key : α) (value : β) : List (α × β) → List (α × β)
  | [] => [(key, value)]
  | (k, v) :: es => if same k key then (k, value) :: es else (k, v) :: put same key value es

/-- The entries of a list of pairs, in which a later pair replaces an earlier one. -/
def ofPairs (same : α → α → Bool) (pairs : List (α × β)) : List (α × β) :=
  pairs.foldl (fun es kv ↦ put same kv.1 kv.2 es) []

end CallTree.Entries
