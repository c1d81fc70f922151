import CallTree.Code.Gap

/-!
# Operators between expressions

Operators are taken from the front of a text. How tightly they bind does not matter here: an
expression with operators has a value only if it is one sum or difference.
-/

namespace CallTree.Code

/-- An operator between two expressions. -/
structure Operator where
  /-- Of a sum or a difference, whether it is a difference. -/
  sum : Option Bool := none
  /-- Whether it joins truth values, so that a negation may follow. -/
  logical : Bool := false

/-- What follows a sign that a text starts with. -/
def behindSign? (cs : List Char) (sign : String) : Option (List Char) :=
  if sign.toList.isPrefixOf cs then some (cs.drop sign.length) else none

/-- The signs of operators on numbers other than sums and differences, longer ones first. -/
def numberSigns : List String := ["**", "//", "<<", ">>", "*", "/", "%", "@", "&", "^", "|"]

/-- The signs of comparisons, longer ones first. -/
def comparisonSigns : List String := ["==", "!=", "<=", ">=", "<", ">"]

/-- The signs that join an operator with an assignment. -/
def updateSigns : List String :=
  ["**=", "//=", "<<=", ">>=", "+=", "-=", "*=", "/=", "%=", "@=", "&=", "^=", "|="]

/-- The operator that is a word or two, and the rest. -/
def wordOperator? (inside : Bool) (cs : List Char) : Option (Operator × List Char) :=
  match word? cs with
  | some ("and", rest) => some (⟨none, true⟩, rest)
  | some ("or", rest) => some (⟨none, true⟩, rest)
  | some ("in", rest) => some ({}, rest)
  | some ("is", rest) => some ({}, (behindWord? "not" (skipGap inside false rest)).getD rest)
  | some ("not", rest) => (behindWord? "in" (skipGap inside false rest)).map ({}, ·)
  | _ => none

/-- The operator that is a sign, and the rest. -/
def signOperator? (logic : Bool) (cs : List Char) : Option (Operator × List Char) :=
  match cs with
  | '+' :: rest => some (⟨some false, false⟩, rest)
  | '-' :: rest => some (⟨some true, false⟩, rest)
  | _ =>
    ((numberSigns.findSome? (behindSign? cs)).or
      (if logic then comparisonSigns.findSome? (behindSign? cs) else none)).map ({}, ·)

/-- The operator in front of a text, and the rest; comparisons and logical operators only if they
are asked for. A sign that is joined with an assignment is no operator. -/
def operator? (inside logic : Bool) (cs : List Char) : Option (Operator × List Char) :=
  if (updateSigns.findSome? (behindSign? cs)).isSome then none
  else (signOperator? logic cs).or (if logic then wordOperator? inside cs else none)

end CallTree.Code
