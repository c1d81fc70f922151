/-!
# Fields of quoted texts

A quoted text may have fields in braces: an expression, then perhaps signs that tell how its value
is written out. The expression ends before the first such sign outside of brackets and quotes.
-/

namespace CallTree.Code

/-- How far the expression of a field has been scanned. -/
structure FieldScan where
  /-- How many characters are to be passed over. -/
  passing : Nat := 0
  /-- The quote that is open, and whether it is tripled. -/
  quote : Option (Char × Bool) := none
  /-- The closing marks that are due, the next one first. -/
  due : List Char := []

/-- What a character does to a scan. -/
inductive FieldStep where
  | goOn (scan : FieldScan)
  /-- The expression ends before the character. -/
  | stop
  | malformed

/-- The mark that closes a bracket. -/
def closing? (c : Char) : Option Char :=
  if c == '(' then some ')' else if c == '[' then some ']' else if c == '\x7b' then some '\x7d'
  else none

/-- Goes on inside a quote. -/
def FieldScan.inQuote (s : FieldScan) (quote : Char) (triple : Bool) (c : Char) (rest : List Char) :
    FieldStep :=
  if c != quote then .goOn s
  else if !triple then .goOn { s with quote := none }
  else if rest.take 2 == [quote, quote] then .goOn { s with quote := none, passing := 2 }
  else .goOn s

/-- Goes on outside of brackets and quotes. -/
def FieldScan.outside (s : FieldScan) (c : Char) (rest : List Char) : FieldStep :=
  if ['!', '=', '<', '>'].contains c && rest.head? == some '=' then .goOn { s with passing := 1 }
  else if ['!', ':', '=', '\x7d'].contains c then .stop
  else if [')', ']'].contains c then .malformed
  else .goOn s

/-- Goes on inside a bracket with its closing mark and those behind it. -/
def FieldScan.inBracket (s : FieldScan) (mark : Char) (marks : List Char) (c : Char) : FieldStep :=
  if c == mark then .goOn { s with due := marks }
  else if [')', ']', '\x7d'].contains c then .malformed
  else .goOn s

/-- Goes on with a character, given what is behind it. -/
def FieldScan.step (s : FieldScan) (c : Char) (rest : List Char) : FieldStep :=
  if 0 < s.passing then .goOn { s with passing := s.passing - 1 }
  else if c == '\\' then .malformed
  else
    match s.quote with
    | some (quote, triple) => s.inQuote quote triple c rest
    | none =>
      if c == '"' || c == '\x27' then
        if rest.take 2 == [c, c] then .goOn { s with quote := some (c, true), passing := 2 }
        else .goOn { s with quote := some (c, false) }
      else
        match closing? c, s.due with
        | some mark, due => .goOn { s with due := mark :: due }
        | none, due =>
          if c == '#' then .malformed
          else
            match due with
            | [] => s.outside c rest
            | mark :: marks => s.inBracket mark marks c

/-- Cuts off the expression of a field; `acc` holds what was read, last character first. -/
def splitField (s : FieldScan) (acc : List Char) : List Char → Option (List Char × List Char)
  | [] => none
  | c :: cs =>
    match s.step c cs with
    | .goOn s => splitField s (c :: acc) cs
    | .stop => some (acc.reverse, c :: cs)
    | .malformed => none

/-- What follows the sign that shows the expression of a field itself. -/
def behindEcho : List Char → List Char
  | '=' :: rest => rest.dropWhile fun c ↦ c == ' ' || c == '\t' || c == '\n' || c == '\x0c'
  | cs => cs

/-- What follows the sign for how a value is written out. -/
def behindConversion? : List Char → Option (List Char)
  | '!' :: c :: rest => if ['s', 'r', 'a'].contains c then some rest else none
  | '!' :: [] => none
  | cs => some cs

end CallTree.Code
