import CallTree.Text.Identifier

/-!
# Gaps and words of code

Blanks and comments may stand between the parts of a code text; line ends only inside brackets.
-/

namespace CallTree.Code

open CallTree.Text

/-- Passes over blanks, comments and joined lines; line ends are passed over only inside brackets.
The second argument tells whether a comment is going on. -/
def skipGap (inside : Bool) : Bool → List Char → List Char
  | _, [] => []
  | true, '\n' :: cs => if inside then skipGap inside false cs else '\n' :: cs
  | true, _ :: cs => skipGap inside true cs
  | false, '#' :: cs => skipGap inside true cs
  | false, '\\' :: '\n' :: cs => skipGap inside false cs
  | false, c :: cs =>
    if c == ' ' || c == '\t' || c == '\x0c' || (inside && c == '\n') then skipGap inside false cs
    else c :: cs

/-- The text with every kind of line end written as a line feed. -/
def unifyLines : List Char → List Char
  | '\r' :: '\n' :: cs => '\n' :: unifyLines cs
  | '\r' :: cs => '\n' :: unifyLines cs
  | c :: cs => c :: unifyLines cs
  | [] => []

/-- Whether a line holds nothing but blanks and a comment. -/
def isIdleLine (line : List Char) : Bool :=
  match line.dropWhile (fun c ↦ c == ' ' || c == '\t' || c == '\x0c') with
  | [] => true
  | c :: _ => c == '#'

/-- Passes over idle lines in front; `none` if the first line of the expression is indented. The
count bounds the number of lines. -/
def skipLines : Nat → List Char → Option (List Char)
  | 0, cs => some cs
  | fuel + 1, cs =>
    if isIdleLine (cs.takeWhile (· != '\n')) && cs.contains '\n' then
      skipLines fuel ((cs.dropWhile (· != '\n')).drop 1)
    else match cs with
      | ' ' :: _ => none
      | '\t' :: _ => none
      | _ => some cs

/-- The word in front of a text, and the rest. -/
def word? (cs : List Char) : Option (String × List Char) :=
  match cs with
  | c :: _ =>
    if isIdentifierStart c then
      some (String.ofList (cs.takeWhile isIdentifierPart), cs.dropWhile isIdentifierPart)
    else none
  | [] => none

/-- What follows a certain word in front of a text. -/
def behindWord? (word : String) (cs : List Char) : Option (List Char) :=
  match word? cs with
  | some (w, rest) => if w == word then some rest else none
  | none => none

/-- The name in front of a text, and the rest. -/
def name? (cs : List Char) : Option (String × List Char) :=
  match word? cs with
  | some (w, rest) => if reservedWords.contains w then none else some (w, rest)
  | none => none

end CallTree.Code
