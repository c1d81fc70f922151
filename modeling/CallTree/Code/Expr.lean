import CallTree.Value.Basic

/-!
# Expressions

What the text of an expression is taken apart into. Expressions that are no literals are kept only
so far as their place matters: of most it is enough to know that they are well formed, and whether
they can stand where a value is taken up.
-/

namespace CallTree.Code

/-- An expression. -/
inductive Expr where
  | atom (v : Value)
  /-- A name, which has no value. -/
  | name (s : String)
  | signed (neg : Bool) (e : Expr)
  | sum (left : Expr) (neg : Bool) (right : Expr)
  | list (items : List Expr)
  | tuple (items : List Expr)
  | set (items : List Expr)
  | map (entries : List (Expr × Expr))
  /-- An item that stands for several; `target` tells whether it can take up values. -/
  | starred (target : Bool)
  /-- An expression without a value; `target` tells whether it can take up a value. -/
  | other (target : Bool)

mutual

/-- Whether an expression can take up a value. -/
def Expr.isTarget : Expr → Bool
  | .name _ => true
  | .list es => areTargets es
  | .tuple es => areTargets es
  | .starred target => target
  | .other target => target
  | _ => false

/-- Whether all of some expressions can take up values. -/
def areTargets : List Expr → Bool
  | [] => true
  | e :: es => e.isTarget && areTargets es

end

/-- An expression with others joined to it by operators, which are told apart only for sums and
differences: `some true` is a difference. -/
def Expr.joined (first : Expr) : List (Option Bool × Expr) → Expr
  | [] => first
  | [(some neg, e)] => .sum first neg e
  | _ => .other false

/-- The expression that a call gives: only the empty set has a value. -/
def Expr.called (noArguments : Bool) : Expr → Expr
  | .name "set" => if noArguments then .set [] else .other false
  | _ => .other false

/-- The expression that items with commas between them are; `comma` tells whether one stands behind
the last. -/
def Expr.ofItems (es : List Expr) (comma : Bool) : Expr :=
  match es, comma with
  | [e], false => e
  | es, _ => .tuple es

/-- What stands between two brackets. -/
inductive Contents where
  /-- Items; `comma` tells whether one stands behind the last. -/
  | items (es : List Expr) (comma : Bool)
  /-- One item with clauses that tell what it is worked out for. -/
  | clauses

end CallTree.Code
