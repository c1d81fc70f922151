/-!
# Blank characters

The white space of Unicode text, with the four information separators counted in. Trimming text
and the gap in a credential of the form "bearer token" use this class.
-/

namespace CallTree.Text

/-- Whether the character is white space. -/
def isBlank (c : Char) : Bool :=
  let n := c.toNat
  (9 ≤ n && n ≤ 13) || (28 ≤ n && n ≤ 32) || n == 0x85 || n == 0xa0 || n == 0x1680 ||
  (0x2000 ≤ n && n ≤ 0x200a) || n == 0x2028 || n == 0x2029 || n == 0x202f || n == 0x205f ||
  n == 0x3000

/-- The list without the blanks at its two ends. -/
def trimList (cs : List Char) : List Char :=
  ((cs.dropWhile isBlank).reverse.dropWhile isBlank).reverse

/-- The text without the blanks at its two ends. -/
def trim (s : String) : String := String.ofList (trimList s.toList)

/-- Whether the text holds blanks only. -/
def isBlankText (s : String) : Bool := s.toList.all isBlank

/-- A text that is there and not empty. -/
def filled? : Option String → Option String
  | some s => if s = "" then none else some s
  | none => none

end CallTree.Text
