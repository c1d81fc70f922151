import CallTree.Described
import CallTree.Tree.Form
import CallTree.Value.Display

/-!
# The rules of programs

A program is accepted when every node keeps its local rule. A call of a tool whose parameters are
known has as many arguments. The parameters of a lambda are distinct, each one names a leaf of the
body, and every null leaf of the body is named by one of them; leaves below nested lambdas and
programs do not count. The lambda of a map or filter has one parameter, that of a reduce two.

The check walks the tree from the root, each node before its children, and gives the first reason
it meets.
-/

namespace CallTree

/-- Why a program is not accepted. -/
inductive Reason where
  /-- A call has another number of arguments than its tool has parameters. -/
  | argumentCount (tool : String) (expected : List String) (got : Nat)
  /-- Two parameters of a lambda have one name. -/
  | repeatedParam
  /-- Parameters that name no leaf, and names of null leaves that are no parameters. -/
  | binding (missing nulls : List String)
  /-- The lambda of a list operation has the wrong number of parameters. -/
  | paramCount (op : ListOp)
  deriving DecidableEq, Repr

/-- The number of parameters of the lambda of a list operation. -/
def ListOp.arity : ListOp → Nat
  | .map => 1
  | .filter => 1
  | .reduce => 2

/-- A list of names in a message. -/
def namesText (names : List String) : String := (Value.texts names).display

/-- The wording of a reason. -/
def Reason.text : Reason → String
  | .argumentCount tool expected got =>
    "Function '" ++ tool ++ "' expects " ++ toString expected.length ++ " positional params (" ++
      namesText expected ++ "), got " ++ toString got ++ "."
  | .repeatedParam => "Lambda parameter names must be unique."
  | .binding missing nulls =>
    let params := if missing.isEmpty then [] else
      ["params " ++ namesText missing ++ " are not referenced by name in the body"]
    let holes := if nulls.isEmpty then [] else
      ["null placeholders " ++ namesText nulls ++ " do not match a lambda param"]
    "Invalid lambda binding: " ++ "; ".intercalate (params ++ holes) ++ "."
  | .paramCount .reduce => "Reduce lambda must declare exactly 2 params."
  | .paramCount op => op.title ++ " lambda must declare exactly 1 param."

mutual

/-- The leaves that a lambda binds: those of its body, except below nested lambdas and programs. -/
def boundLeaves : Tree → List (String × Value)
  | .value name literal => [(name, literal)]
  | .call _ args => boundLeavesAll args
  | .cond test yes none => boundLeaves test ++ boundLeaves yes
  | .cond test yes (some no) => boundLeaves test ++ boundLeaves yes ++ boundLeaves no
  | .over _ _ _ _ items => boundLeaves items
  | .program _ _ => []
  | .lambda _ _ _ => []
  | .bare => []

/-- The leaves that a lambda binds in the trees of a list. -/
def boundLeavesAll : List Tree → List (String × Value)
  | [] => []
  | t :: ts => boundLeaves t ++ boundLeavesAll ts

end

/-- A list of names in order, each once. -/
def sortedNames (names : List String) : List String :=
  (names.mergeSort (fun s t ↦ decide (s ≤ t))).eraseDups

/-- The known parameters of tools. -/
abbrev Signatures := List (String × List String)

/-- The rule of a call. -/
def checkCall (known : Signatures) (tool : String) (count : Nat) : Except Reason Unit :=
  match known.lookup tool with
  | some expected =>
    if expected.length = count then .ok () else .error (.argumentCount tool expected count)
  | none => .ok ()

/-- The rule of a lambda, given the leaves of its body. -/
def checkLambda (params : List String) (leaves : List (String × Value)) : Except Reason Unit :=
  if !decide params.Nodup then .error .repeatedParam
  else
    let missing := params.filter fun p ↦ !leaves.any (·.1 == p)
    let nulls := sortedNames
      ((leaves.filter fun l ↦ l.2.isNull && !params.contains l.1).map Prod.fst)
    if missing.isEmpty && nulls.isEmpty then .ok () else .error (.binding missing nulls)

/-- The rule of a list operation. -/
def checkOver (op : ListOp) (params : List String) : Except Reason Unit :=
  if params.length = op.arity then .ok () else .error (.paramCount op)

mutual

/-- Checks a tree; `known` holds the tools whose parameters are known. -/
def check (known : Signatures) : Tree → Except Reason Unit
  | .value _ _ => .ok ()
  | .call tool args => do
    checkCall known tool args.length
    checkAll known args
  | .program _ body => checkAll known body
  | .cond test yes none => do
    check known test
    check known yes
  | .cond test yes (some no) => do
    check known test
    check known yes
    check known no
  | .lambda params tool args => do
    checkLambda params (boundLeavesAll args)
    checkCall known tool args.length
    checkAll known args
  | .over op params tool args items => do
    checkOver op params
    checkLambda params (boundLeavesAll args)
    checkCall known tool args.length
    checkAll known args
    check known items
  | .bare => .ok ()

/-- Checks the trees of a list in order. -/
def checkAll (known : Signatures) : List Tree → Except Reason Unit
  | [] => .ok ()
  | t :: ts => do
    check known t
    checkAll known ts

end

/-! ## Reading and checking -/

/-- Why a value is not a program. -/
inductive ParseFault where
  /-- The value does not have the form of a program. -/
  | shape
  /-- The program breaks a rule. -/
  | rule (reason : Reason)
  deriving DecidableEq, Repr

/-- How it is put that a value is not a program. Whoever compares values with a schema words this in
a way of their own. -/
abbrev Account := Value → ParseFault → String

/-- The account that gives the reason of a broken rule and nothing else. -/
def Account.reasons : Account
  | _, .shape => ""
  | _, .rule reason => reason.text

/-- A value that was refused as a program, with the account given of it. -/
structure Refusal where
  fault : ParseFault
  account : String
  deriving DecidableEq, Repr

instance : Described Refusal where
  label _ := "ValueError"
  wording? r := some ("Failed to parse AST: " ++ r.account)

/-- Whether a tree is a program made of nodes of particular kinds only. -/
def Node.isWellShaped (t : Tree) : Bool := t.isProgram && !t.nodes.any Node.isBare

/-- Reads a program and checks its rules. -/
def parseWith (known : Signatures) (v : Value) : Except ParseFault Tree :=
  match Node.ofValue? v with
  | none => .error .shape
  | some t =>
    if t.isWellShaped then
      match check known t with
      | .ok () => .ok t
      | .error reason => .error (.rule reason)
    else .error .shape

/-- Reads a program and checks its rules, no tool's parameters being known. -/
def parse (v : Value) : Except ParseFault Tree := parseWith [] v

/-- Reads a program and checks its rules, with an account of a value that is none. -/
def parseOrRefuse (account : Account) (v : Value) : Except Refusal Tree :=
  (parse v).mapError fun f ↦ ⟨f, account v f⟩

/-- One program, or a list of what was read in turn. -/
inductive Parsed where
  | tree (t : Tree)
  | many (items : List Parsed)

mutual

/-- Reads a program, or a list of programs and of further lists. -/
def parseNested : Value → Except ParseFault Parsed
  | .list vs => do return .many (← parseNestedAll vs)
  | v => do return .tree (← parse v)

/-- Reads the members of a list of programs and lists. -/
def parseNestedAll : List Value → Except ParseFault (List Parsed)
  | [] => .ok []
  | v :: vs => do
    let p ← parseNested v
    let ps ← parseNestedAll vs
    return p :: ps

end

end CallTree
