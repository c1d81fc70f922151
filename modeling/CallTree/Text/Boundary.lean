/-!
# Character classes by their boundaries

A class of characters is given by the code points at which membership changes, in ascending order:
the first boundary opens the class, the second closes it, and so on. A code point is inside the
class when an odd number of boundaries lie at or below it.
-/

namespace CallTree.Text

/-- Whether the code point lies inside the class with the given boundaries. -/
def inside : List Nat → Nat → Bool
  | [], _ => false
  | b :: bs, n => if n < b then false else !inside bs n

end CallTree.Text
