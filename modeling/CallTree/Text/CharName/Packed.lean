/-!
# Packed names of characters

The names of characters with consecutive code points are kept in one text. Names are written in
capital letters, digits, hyphens and spaces. In front of each stands a mark: a small letter from `a`
to `l` tells how many words it has in common with the name before it, none for `a`, one for `b`, and
so on. Those words are left out. The mark `z` stands for a whole name, the one before it with the
number or the letter at its end moved on by one. All other characters are short for the most
frequent words. Line ends between names mean nothing.
-/

namespace CallTree.Text.CharName

/-- The packed names of characters, the first code point of which is `first`. -/
structure Run where
  first : Nat
  packed : String

/-- Characters that are short for words. -/
def abbreviations : List (Char × String) := [
  ('!', "LETTER"), ('$', "WITH"), ('%', "CAPITAL"), ('&', "SMALL"), ('(', "FORM"),
  (')', "ARROW"), ('*', "SIGN"), ('+', "RIGHT"), (',', "ABOVE"), ('.', "ISOLATED"),
  ('/', "RIGHTWARDS"), (':', "DOUBLE"), (';', "LEFT"), ('<', "BELOW"), ('=', "FINAL"),
  ('>', "AND"), ('?', "VERTICAL"), ('^', "LEFTWARDS"), ('_', "INITIAL"), ('|', "THREE"),
  ('~', "TRIANGLE-HEADED"), ('m', "STROKE"), ('n', "SYMBOL"), ('o', "BLACK"), ('p', "HORIZONTAL"),
  ('q', "WHITE"), ('r', "MARK"), ('s', "MIDDLE"), ('t', "HUNDRED"), ('u', "DOWNWARDS"),
  ('v', "THOUSAND"), ('w', "BRACKET"), ('x', "CIRCUMFLEX"), ('y', "HEAVY")]

/-- What a character of a packed name stands for. -/
def spelledOut (c : Char) : List Char :=
  match abbreviations.lookup c with
  | some word => word.toList
  | none => [c]

/-- Whether a name starts with the character. -/
def isMark (c : Char) : Bool := ('a' ≤ c && c ≤ 'l') || c == 'z'

/-- The entries of a packed text: the mark, and the words that follow. -/
def entries (cs : List Char) : List (Char × List Char) :=
  (cs.foldr (fun c (word, done) ↦
    if isMark c then ([], (c, word) :: done)
    else if c == '\n' then (word, done)
    else (spelledOut c ++ word, done)) (([] : List Char), ([] : List (Char × List Char)))).2

/-- The first words of a name, each with the space behind it. -/
def firstWords : Nat → List Char → List Char
  | _, [] => []
  | 0, _ => []
  | n + 1, c :: cs => c :: firstWords (if c == ' ' then n else n + 1) cs

/-- A name, last character first, with the number or letter at its end moved on by one. -/
def movedOn : List Char → List Char
  | [] => []
  | '9' :: cs => '0' :: movedOn cs
  | c :: cs => Char.ofNat (c.toNat + 1) :: cs

/-- The name of an entry; `last` is the name before it. -/
def nameOf (last : List Char) (mark : Char) (words : List Char) : List Char :=
  if mark == 'z' then (movedOn last.reverse).reverse
  else firstWords (mark.toNat - 'a'.toNat) last ++ words

/-- Looks for a name in entries; `code` is the code point of the first one, and `last` the name
before it. -/
def findEntry (name : List Char) : Nat → List Char → List (Char × List Char) → Option Nat
  | _, _, [] => none
  | code, last, (mark, words) :: es =>
    let this := nameOf last mark words
    if this == name then some code else findEntry name (code + 1) this es

/-- The code point that has the name in a run. -/
def Run.find? (name : List Char) (r : Run) : Option Nat :=
  findEntry name r.first [] (entries r.packed.toList)

end CallTree.Text.CharName
