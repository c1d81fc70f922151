import CallTree.Text.Blank

/-!
# Lines of a text

A line ends at a line feed, a carriage return, the two together, or one of the further characters
that stand for the end of a line or a page. The end of the text ends a line only if the line is not
empty.
-/

namespace CallTree.Text

/-- Whether a character ends a line. -/
def endsLine (c : Char) : Bool :=
  let n := c.toNat
  (0x0a ≤ n && n ≤ 0x0d) || (0x1c ≤ n && n ≤ 0x1e) || n == 0x85 || n == 0x2028 || n == 0x2029

/-- The lines of the rest of a text, given the line so far in reverse and whether a carriage return
stands just before. -/
def linesFrom (line : List Char) (afterReturn : Bool) : List Char → List String
  | [] => if line.isEmpty then [] else [String.ofList line.reverse]
  | c :: cs =>
    if afterReturn && c == '\n' then linesFrom line false cs
    else if endsLine c then String.ofList line.reverse :: linesFrom [] (c == '\r') cs
    else linesFrom (c :: line) false cs

/-- The lines of a text, without what ends them. -/
def lines (s : String) : List String := linesFrom [] false s.toList

end CallTree.Text
