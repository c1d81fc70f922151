import CallTree.Code.Read

/-!
# Statements

Plain statements, one or more to a line: expressions, assignments of several kinds, and the few that
start with a word of their own. Whether values may be awaited is not asked. Statements that hold
others are not known.
-/

namespace CallTree.Code

/-- Whether an expression is an item that stands for several. -/
def Expr.isStarred : Expr → Bool
  | .starred _ => true
  | _ => false

/-- Whether an expression can be the value of a statement. -/
def Expr.isWhole (e : Expr) : Bool := !e.isStarred

/-- Whether an expression can be assigned to: of the items of a list, one may take up several
values. -/
def Expr.isAssignable (e : Expr) : Bool :=
  e.isTarget && e.isWhole &&
  match e with
  | .list es => (es.filter Expr.isStarred).length ≤ 1
  | .tuple es => (es.filter Expr.isStarred).length ≤ 1
  | _ => true

/-- Whether an expression is a name or a part of a value. -/
def Expr.isPlace : Expr → Bool
  | .name _ => true
  | .other target => target
  | _ => false

/-- What follows the sign of an assignment. -/
def behindAssignment? : List Char → Option (List Char)
  | '=' :: '=' :: _ => none
  | '=' :: rest => some (trimmed 0 rest)
  | _ => none

/-- A list of expressions as one. -/
def readWhole (limit : Nat) (cs : List Char) : Option (Read Expr) := do
  let ((es, comma), rest) ← readList limit true limit cs
  return (.ofItems es comma, rest)

/-- What follows the value that is assigned. -/
def readAssigned (limit : Nat) (cs : List Char) : Option (List Char) := do
  let (e, rest) ← readWhole limit cs
  if e.isWhole then return rest else none

/-- What follows an expression, or assignments to one after another; the second argument bounds
their number. -/
def readAssignments (limit : Nat) : Nat → List Char → Option (List Char)
  | 0, _ => none
  | fuel + 1, cs => do
    let (e, rest) ← readWhole limit cs
    match behindAssignment? rest with
    | some rest => if e.isAssignable then readAssignments limit fuel rest else none
    | none => if e.isWhole then return rest else none

/-- What follows a statement that starts with an expression. -/
def readPlain (limit : Nat) (cs : List Char) : Option (List Char) := do
  let (e, rest) ← readWhole limit cs
  match updateSigns.findSome? (behindSign? rest), rest with
  | some rest, _ => if e.isPlace then readAssigned limit (trimmed 0 rest) else none
  | none, ':' :: rest =>
    if e.isPlace then
      let (_, rest) ← readChoice limit 0 (trimmed 0 rest)
      match behindAssignment? rest with
      | some rest => readAssigned limit rest
      | none => return rest
    else none
  | none, _ => readAssignments limit limit cs

/-! ## Imports -/

/-- What follows a name made of several with points between them; the first argument bounds their
number. -/
def readPath : Nat → List Char → Option (List Char)
  | 0, _ => none
  | fuel + 1, cs => do
    let (_, rest) ← name? cs
    match trimmed 0 rest with
    | '.' :: rest => readPath fuel (trimmed 0 rest)
    | rest => return rest

/-- What follows another name that is given, if there is one. -/
def readAlias (depth : Nat) (cs : List Char) : Option (List Char) :=
  match behindWord? "as" cs with
  | some rest => (name? (trimmed depth rest)).map fun (_, rest) ↦ trimmed depth rest
  | none => some cs

/-- What follows a list of modules. -/
def readModules : Nat → List Char → Option (List Char)
  | 0, _ => none
  | fuel + 1, cs => do
    let rest ← readAlias 0 (← readPath cs.length cs)
    match rest with
    | ',' :: rest => readModules fuel (trimmed 0 rest)
    | rest => return rest

/-- What follows a list of names to import; inside parentheses a comma may end it. -/
def readImports (depth : Nat) : Nat → List Char → Option (List Char)
  | 0, _ => none
  | fuel + 1, cs => do
    let (_, rest) ← name? cs
    let rest ← readAlias depth (trimmed depth rest)
    match rest with
    | ',' :: rest =>
      let rest := trimmed depth rest
      if depth != 0 && rest.head? == some ')' then return rest
      else readImports depth fuel rest
    | rest => return rest

/-- What follows the module that names are imported from, and those names. -/
def readFrom (cs : List Char) : Option (List Char) := do
  let inner := cs.dropWhile fun c ↦ c == '.' || c == ' '
  let rest ←
    match behindWord? "import" inner with
    | some rest => if cs.head? == some '.' then some rest else none
    | none => (readPath inner.length inner).bind (behindWord? "import")
  match trimmed 0 rest with
  | '*' :: rest => return trimmed 0 rest
  | '(' :: rest =>
    let rest ← closed? ')' (← readImports 1 rest.length (trimmed 1 rest))
    return trimmed 0 rest
  | rest => readImports 0 rest.length rest

/-! ## Statements and lines -/

/-- What follows a word with an expression, and perhaps another behind a sign or word. -/
def readOneOrTwo (limit : Nat) (second? : List Char → Option (List Char)) (cs : List Char) :
    Option (List Char) := do
  let (_, rest) ← readChoice limit 0 cs
  match second? rest with
  | some rest => (readChoice limit 0 (trimmed 0 rest)).map Prod.snd
  | none => return rest

/-- What follows a statement. -/
def readStatement (limit : Nat) (cs : List Char) : Option (List Char) :=
  match word? cs with
  | some ("pass", rest) => some (trimmed 0 rest)
  | some ("import", rest) => readModules limit (trimmed 0 rest)
  | some ("from", rest) => readFrom (trimmed 0 rest)
  | some ("assert", rest) => readOneOrTwo limit (closed? ',') (trimmed 0 rest)
  | some ("raise", rest) =>
    let rest := trimmed 0 rest
    if endsList rest then some rest else readOneOrTwo limit (behindWord? "from") rest
  | some ("del", rest) => do
    let ((es, _), rest) ← readList limit false limit (trimmed 0 rest)
    if areTargets es then return rest else none
  | _ => readPlain limit cs

/-- Whether the statements of a line and of those behind it are well formed. A line that starts with
a blank is not, unless it holds no statement. The second argument bounds the number of
statements. -/
def areStatements (limit : Nat) : Nat → Bool → List Char → Bool
  | 0, _, _ => false
  | fuel + 1, fresh, cs =>
    if isIdleLine (cs.takeWhile (· != '\n')) then
      match cs.dropWhile (· != '\n') with
      | _ :: rest => areStatements limit fuel true rest
      | [] => true
    else if fresh && cs.head?.any (fun c ↦ c == ' ' || c == '\t') then false
    else
      match readStatement limit (trimmed 0 cs) with
      | some [] => true
      | some ('\n' :: rest) => areStatements limit fuel true rest
      | some (';' :: rest) => areStatements limit fuel false rest
      | _ => false

/-- Whether a text is made of statements. -/
def isWellFormed (s : String) : Bool :=
  let cs := unifyLines s.toList
  areStatements (readLimit cs) (cs.length + 1) true cs

end CallTree.Code
