import CallTree.Code.Expr
import CallTree.Code.Field
import CallTree.Code.Operator
import CallTree.Code.Quoted

/-!
# Reading expressions

The reader takes a text apart into an expression. It knows the whole notation of expressions, since
a text is well formed or not as a whole: operators, choices, functions, calls, parts, clauses that
work an item out for many values, and quoted texts with fields. Of an expression that is no literal
it only keeps that it is well formed.

Readers work on lists of characters from which gaps in front are taken off, and give the rest of
the list in the same way. They count the brackets that are open, as line ends are gaps inside
brackets. Their recursion is bounded by a count that is larger than any text can use up.
-/

namespace CallTree.Code

open CallTree.Text

/-- The deepest nesting of brackets. -/
def maxDepth : Nat := 200

/-- What a reader gives: a result and the rest of the text. -/
abbrev Read (α : Type) := α × List Char

/-- Takes off gaps. -/
def trimmed (depth : Nat) (cs : List Char) : List Char := skipGap (depth != 0) false cs

/-- What follows a bracket that a text starts with. -/
def closed? (close : Char) : List Char → Option (List Char)
  | c :: rest => if c == close then some rest else none
  | [] => none

/-- What follows a name and a sign that gives it a value in an expression. -/
def behindNaming? (depth : Nat) (cs : List Char) : Option (List Char) := do
  let (_, rest) ← name? cs
  match trimmed depth rest with
  | ':' :: '=' :: rest => return trimmed depth rest
  | _ => none

/-- What follows the name of an argument and its sign. -/
def behindArgument? (depth : Nat) (cs : List Char) : Option (List Char) := do
  let (_, rest) ← name? cs
  match trimmed depth rest with
  | '=' :: '=' :: _ => none
  | '=' :: rest => return trimmed depth rest
  | _ => none

/-- What follows the words that start a clause. -/
def behindFor? (depth : Nat) (cs : List Char) : Option (List Char) :=
  ((behindWord? "for" cs).or do
    let rest ← behindWord? "async" cs
    behindWord? "for" (trimmed depth rest)).map (trimmed depth)

/-- Which arguments may follow in a call. -/
structure Arguments where
  /-- Whether none came before. -/
  first : Bool := true
  /-- Whether arguments with names came before. -/
  named : Bool := false
  /-- Whether a mapping of arguments came before. -/
  spread : Bool := false

/-- Which parameters may follow in a function. -/
structure Parameters where
  /-- Whether none came before. -/
  first : Bool := true
  /-- Whether a parameter has a default. -/
  defaults : Bool := false
  /-- Whether the parameters by position only have ended. -/
  slash : Bool := false
  /-- Whether the parameters by position have ended. -/
  star : Bool := false
  /-- Whether a parameter has to follow. -/
  pending : Bool := false

/-! ## Expressions -/

mutual

/-- An expression whose value may be given a name. -/
def readNamed : Nat → Nat → List Char → Option (Read Expr)
  | 0, _, _ => none
  | fuel + 1, depth, cs =>
    match behindNaming? depth cs with
    | some rest => do
      let (_, rest) ← readChoice fuel depth rest
      return (.other false, rest)
    | none => readChoice fuel depth cs

/-- A function, a choice or a chain. -/
def readChoice : Nat → Nat → List Char → Option (Read Expr)
  | 0, _, _ => none
  | fuel + 1, depth, cs =>
    match behindWord? "lambda" cs with
    | some rest => do
      let rest ← readParameters fuel depth {} (trimmed depth rest)
      let (_, rest) ← readChoice fuel depth rest
      return (.other false, rest)
    | none => do
      let (e, rest) ← readChain fuel depth true cs
      match behindWord? "if" rest with
      | none => return (e, rest)
      | some rest =>
        let (_, rest) ← readChain fuel depth true (trimmed depth rest)
        let rest ← behindWord? "else" rest
        let (_, rest) ← readChoice fuel depth (trimmed depth rest)
        return (.other false, rest)

/-- Operands joined by operators; negations, comparisons and logical operators only if `logic`. -/
def readChain : Nat → Nat → Bool → List Char → Option (Read Expr)
  | 0, _, _, _ => none
  | fuel + 1, depth, logic, cs =>
    match if logic then behindWord? "not" cs else none with
    | some rest => do
      let (_, rest) ← readChain fuel depth logic (trimmed depth rest)
      return (.other false, rest)
    | none => do
      let (first, rest) ← readOperand fuel depth cs
      let (more, rest) ← readJoined fuel depth logic rest
      return (first.joined more, rest)

/-- Operators with their second operands. -/
def readJoined : Nat → Nat → Bool → List Char → Option (Read (List (Option Bool × Expr)))
  | 0, _, _, _ => none
  | fuel + 1, depth, logic, cs =>
    match operator? (depth != 0) logic cs with
    | none => some ([], cs)
    | some (o, rest) =>
      if o.logical then do
        let (e, rest) ← readChain fuel depth logic (trimmed depth rest)
        return ([(none, e)], rest)
      else do
        let (e, rest) ← readOperand fuel depth (trimmed depth rest)
        let (more, rest) ← readJoined fuel depth logic rest
        return ((o.sum, e) :: more, rest)

/-- An operand with the signs in front of it. -/
def readOperand : Nat → Nat → List Char → Option (Read Expr)
  | 0, _, _ => none
  | fuel + 1, depth, cs =>
    match cs with
    | '+' :: rest => do
      let (e, rest) ← readOperand fuel depth (trimmed depth rest)
      return (.signed false e, rest)
    | '-' :: rest => do
      let (e, rest) ← readOperand fuel depth (trimmed depth rest)
      return (.signed true e, rest)
    | '~' :: rest => do
      let (_, rest) ← readOperand fuel depth (trimmed depth rest)
      return (.other false, rest)
    | _ =>
      match behindWord? "await" cs with
      | some rest => do
        let (_, rest) ← readPrimary fuel depth (trimmed depth rest)
        return (.other false, rest)
      | none => readPrimary fuel depth cs

/-- An atom with calls and parts behind it. -/
def readPrimary : Nat → Nat → List Char → Option (Read Expr)
  | 0, _, _ => none
  | fuel + 1, depth, cs => do
    let (e, rest) ← readAtom fuel depth cs
    readTrailers fuel depth e rest

/-- The calls and parts behind an expression. -/
def readTrailers : Nat → Nat → Expr → List Char → Option (Read Expr)
  | 0, _, _, _ => none
  | fuel + 1, depth, e, cs =>
    match cs with
    | '.' :: rest => do
      let (_, rest) ← name? (trimmed depth rest)
      readTrailers fuel depth (.other true) (trimmed depth rest)
    | '(' :: rest =>
      if depth ≥ maxDepth then none
      else do
        let (noArguments, rest) ← readArguments fuel (depth + 1) {} (trimmed (depth + 1) rest)
        readTrailers fuel depth (e.called noArguments) (trimmed depth rest)
    | '[' :: rest =>
      if depth ≥ maxDepth then none
      else do
        let rest ← readSlices fuel (depth + 1) (trimmed (depth + 1) rest)
        readTrailers fuel depth (.other true) (trimmed depth rest)
    | _ => some (e, cs)

/-- A number, a quoted text, a word or what stands in brackets. -/
def readAtom : Nat → Nat → List Char → Option (Read Expr)
  | 0, _, _ => none
  | fuel + 1, depth, cs =>
    match cs with
    | '(' :: rest =>
      if depth ≥ maxDepth then none
      else do
        let (e, rest) ← readGroup fuel (depth + 1) (trimmed (depth + 1) rest)
        return (e, trimmed depth rest)
    | '[' :: rest =>
      if depth ≥ maxDepth then none
      else do
        let (contents, rest) ← readItems fuel (depth + 1) ']' true (trimmed (depth + 1) rest)
        match contents with
        | .items es _ => return (.list es, trimmed depth rest)
        | .clauses => return (.other false, trimmed depth rest)
    | '\x7b' :: rest =>
      if depth ≥ maxDepth then none
      else do
        let (e, rest) ← readBraces fuel (depth + 1) (trimmed (depth + 1) rest)
        return (e, trimmed depth rest)
    | '.' :: '.' :: '.' :: rest => some (.atom .ellipsis, trimmed depth rest)
    | _ =>
      match openQuote? cs with
      | some (style, _) => do
        let ((ns, formatted), rest) ← readQuotes fuel depth style.bytes cs
        return (if formatted then .other false else .atom (quotedValue style.bytes ns), rest)
      | none =>
        match word? cs with
        | some ("None", rest) => some (.atom .null, trimmed depth rest)
        | some ("True", rest) => some (.atom (.bool true), trimmed depth rest)
        | some ("False", rest) => some (.atom (.bool false), trimmed depth rest)
        | some _ => (name? cs).map fun (s, rest) ↦ (.name s, trimmed depth rest)
        | none => (readNumber cs).map fun (v, rest) ↦ (.atom v, trimmed depth rest)

/-- An item between brackets. -/
def readItem : Nat → Nat → List Char → Option (Read Expr)
  | 0, _, _ => none
  | fuel + 1, depth, cs =>
    match cs with
    | '*' :: rest => do
      let (e, rest) ← readChain fuel depth false (trimmed depth rest)
      return (.starred e.isTarget, rest)
    | _ => readNamed fuel depth cs

/-- The items up to the closing mark; `first` tells whether none came before. -/
def readItems : Nat → Nat → Char → Bool → List Char → Option (Read Contents)
  | 0, _, _, _, _ => none
  | fuel + 1, depth, close, first, cs =>
    match closed? close cs with
    | some rest => some (.items [] false, rest)
    | none => do
      let (e, rest) ← readItem fuel depth cs
      match e, behindFor? depth rest with
      | .starred _, some _ => none
      | _, some _ =>
        if first then
          let rest ← closed? close (← readClauses fuel depth rest)
          return (.clauses, rest)
        else none
      | _, none =>
        match rest with
        | ',' :: rest =>
          let (contents, rest) ← readItems fuel depth close false (trimmed depth rest)
          match contents with
          | .items es _ => return (.items (e :: es) true, rest)
          | .clauses => none
        | rest => return (.items [e] false, ← closed? close rest)

/-- What stands between parentheses: several items, or one expression. -/
def readGroup : Nat → Nat → List Char → Option (Read Expr)
  | 0, _, _ => none
  | fuel + 1, depth, cs =>
    match behindWord? "yield" cs with
    | some rest => do
      let rest ← readYielded fuel depth (trimmed depth rest)
      return (.other false, rest)
    | none => do
      let (contents, rest) ← readItems fuel depth ')' true cs
      match contents with
      | .clauses => return (.other false, rest)
      | .items [.starred _] false => none
      | .items [e] false => return (e, rest)
      | .items es _ => return (.tuple es, rest)

/-- What is handed out, up to the closing parenthesis. -/
def readYielded : Nat → Nat → List Char → Option (List Char)
  | 0, _, _ => none
  | fuel + 1, depth, cs =>
    match closed? ')' cs, behindWord? "from" cs with
    | some rest, _ => some rest
    | none, some rest => do
      let (_, rest) ← readChoice fuel depth (trimmed depth rest)
      closed? ')' rest
    | none, none => readHanded fuel depth cs

/-- The items that are handed out, up to the closing parenthesis. -/
def readHanded : Nat → Nat → List Char → Option (List Char)
  | 0, _, _ => none
  | fuel + 1, depth, cs => do
    let (_, rest) ← match cs with
      | '*' :: rest => readChain fuel depth false (trimmed depth rest)
      | _ => readChoice fuel depth cs
    match rest with
    | ',' :: rest =>
      let rest := trimmed depth rest
      (closed? ')' rest).or (readHanded fuel depth rest)
    | rest => closed? ')' rest

/-- What stands between braces: a mapping or a set. -/
def readBraces : Nat → Nat → List Char → Option (Read Expr)
  | 0, _, _ => none
  | fuel + 1, depth, cs =>
    match cs with
    | '\x7d' :: rest => some (.map [], rest)
    | '*' :: '*' :: _ => do
      let (es, rest) ← readEntries fuel depth cs
      return (.map es, rest)
    | _ => do
      let (e, rest) ← readItem fuel depth cs
      match e, rest with
      | .starred _, ':' :: _ => none
      | _, ':' :: rest =>
        if (behindNaming? depth cs).isSome then none
        else
          let (v, rest) ← readChoice fuel depth (trimmed depth rest)
          match behindFor? depth rest, rest with
          | some _, _ =>
            let rest ← closed? '\x7d' (← readClauses fuel depth rest)
            return (.other false, rest)
          | none, ',' :: rest =>
            let (es, rest) ← readEntries fuel depth (trimmed depth rest)
            return (.map ((e, v) :: es), rest)
          | none, rest => return (.map [(e, v)], ← closed? '\x7d' rest)
      | _, _ =>
        let (contents, rest) ← readItems fuel depth '\x7d' true cs
        match contents with
        | .items es _ => return (.set es, rest)
        | .clauses => return (.other false, rest)

/-- The entries of a mapping up to the closing brace. -/
def readEntries : Nat → Nat → List Char → Option (Read (List (Expr × Expr)))
  | 0, _, _ => none
  | fuel + 1, depth, cs =>
    match closed? '\x7d' cs with
    | some rest => some ([], rest)
    | none => do
      let (entry, rest) ← readEntry fuel depth cs
      match rest with
      | ',' :: rest =>
        let (es, rest) ← readEntries fuel depth (trimmed depth rest)
        return (entry :: es, rest)
      | rest => return ([entry], ← closed? '\x7d' rest)

/-- An entry of a mapping, or another mapping whose entries are put in. -/
def readEntry : Nat → Nat → List Char → Option (Read (Expr × Expr))
  | 0, _, _ => none
  | fuel + 1, depth, cs =>
    match cs with
    | '*' :: '*' :: rest => do
      let (_, rest) ← readChain fuel depth false (trimmed depth rest)
      return ((.other false, .other false), rest)
    | _ => do
      let (k, rest) ← readChoice fuel depth cs
      let rest ← closed? ':' rest
      let (v, rest) ← readChoice fuel depth (trimmed depth rest)
      return ((k, v), rest)

/-- The clauses behind an item. -/
def readClauses : Nat → Nat → List Char → Option (List Char)
  | 0, _, _ => none
  | fuel + 1, depth, cs => do
    let rest ← readTargets fuel depth (← behindFor? depth cs)
    let (_, rest) ← readChain fuel depth true rest
    let rest ← readConditions fuel depth rest
    match behindFor? depth rest with
    | some _ => readClauses fuel depth rest
    | none => return rest

/-- What takes up values in a clause, with the word behind it. -/
def readTargets : Nat → Nat → List Char → Option (List Char)
  | 0, _, _ => none
  | fuel + 1, depth, cs => do
    let cs := match cs with
      | '*' :: rest => trimmed depth rest
      | cs => cs
    let (e, rest) ← readPrimary fuel depth cs
    if !e.isTarget then none
    match rest with
    | ',' :: rest =>
      let rest := trimmed depth rest
      match behindWord? "in" rest with
      | some rest => return trimmed depth rest
      | none => readTargets fuel depth rest
    | rest => return trimmed depth (← behindWord? "in" rest)

/-- The conditions of a clause. -/
def readConditions : Nat → Nat → List Char → Option (List Char)
  | 0, _, _ => none
  | fuel + 1, depth, cs =>
    match behindWord? "if" cs with
    | some rest => do
      let (_, rest) ← readChain fuel depth true (trimmed depth rest)
      readConditions fuel depth rest
    | none => some cs

/-- The arguments of a call up to the closing parenthesis, and whether there are none. -/
def readArguments : Nat → Nat → Arguments → List Char → Option (Read Bool)
  | 0, _, _, _ => none
  | fuel + 1, depth, before, cs =>
    match closed? ')' cs with
    | some rest => some (before.first, rest)
    | none => do
      let (now, rest) ← readArgument fuel depth before cs
      match rest with
      | ',' :: rest => readArguments fuel depth now (trimmed depth rest)
      | rest => return (false, ← closed? ')' rest)

/-- An argument of a call, and which may follow. -/
def readArgument : Nat → Nat → Arguments → List Char → Option (Read Arguments)
  | 0, _, _, _ => none
  | fuel + 1, depth, before, cs =>
    match cs, behindArgument? depth cs with
    | '*' :: '*' :: rest, _ => do
      let (_, rest) ← readChoice fuel depth (trimmed depth rest)
      return (⟨false, true, true⟩, rest)
    | '*' :: rest, _ => do
      if before.spread then none
      let (_, rest) ← readChoice fuel depth (trimmed depth rest)
      return ({ before with first := false }, rest)
    | _, some rest => do
      let (_, rest) ← readChoice fuel depth rest
      return (⟨false, true, before.spread⟩, rest)
    | _, none => do
      if before.named then none
      let (_, rest) ← readNamed fuel depth cs
      match behindFor? depth rest with
      | some _ =>
        let rest ← readClauses fuel depth rest
        if before.first && (closed? ')' rest).isSome then return (⟨false, true, true⟩, rest)
        else none
      | none => return ({ before with first := false }, rest)

/-- The parts that are asked for, up to the closing bracket. -/
def readSlices : Nat → Nat → List Char → Option (List Char)
  | 0, _, _ => none
  | fuel + 1, depth, cs => do
    let rest ← readSlice fuel depth cs
    match rest with
    | ',' :: rest =>
      let rest := trimmed depth rest
      (closed? ']' rest).or (readSlices fuel depth rest)
    | rest => closed? ']' rest

/-- A part that is asked for: by one expression, or by its bounds. -/
def readSlice : Nat → Nat → List Char → Option (List Char)
  | 0, _, _ => none
  | fuel + 1, depth, cs =>
    match cs with
    | ':' :: rest => readBounds fuel depth 2 (trimmed depth rest)
    | '*' :: rest => do
      let (_, rest) ← readChoice fuel depth (trimmed depth rest)
      return rest
    | _ => do
      let (_, rest) ← readNamed fuel depth cs
      match rest, behindNaming? depth cs with
      | ':' :: rest, none => readBounds fuel depth 2 (trimmed depth rest)
      | rest, _ => return rest

/-- The bounds behind a colon, of which at most `count` may follow. -/
def readBounds : Nat → Nat → Nat → List Char → Option (List Char)
  | 0, _, _, _ => none
  | fuel + 1, depth, count, cs => do
    let rest ← match cs with
      | ',' :: _ => some cs
      | ']' :: _ => some cs
      | ':' :: _ => some cs
      | _ => (readChoice fuel depth cs).map Prod.snd
    match rest, count with
    | ':' :: rest, count + 2 => readBounds fuel depth (count + 1) (trimmed depth rest)
    | rest, _ => return rest

/-- The parameters of a function up to the colon. -/
def readParameters : Nat → Nat → Parameters → List Char → Option (List Char)
  | 0, _, _, _ => none
  | fuel + 1, depth, before, cs =>
    match cs with
    | ':' :: rest => if before.pending then none else some (trimmed depth rest)
    | '*' :: '*' :: rest => do
      if before.pending then none
      let (_, rest) ← name? (trimmed depth rest)
      match trimmed depth rest with
      | ',' :: rest => (closed? ':' (trimmed depth rest)).map (trimmed depth)
      | rest => (closed? ':' rest).map (trimmed depth)
    | _ => do
      let (now, rest) ← readParameter fuel depth before cs
      match rest with
      | ',' :: rest => readParameters fuel depth now (trimmed depth rest)
      | ':' :: _ => readParameters fuel depth now rest
      | _ => none

/-- A parameter of a function or a mark between parameters, and which may follow. -/
def readParameter : Nat → Nat → Parameters → List Char → Option (Read Parameters)
  | 0, _, _, _ => none
  | fuel + 1, depth, before, cs =>
    match cs with
    | '/' :: rest =>
      if before.first || before.slash || before.star then none
      else some ({ before with slash := true }, trimmed depth rest)
    | '*' :: rest =>
      if before.star then none
      else
        match name? (trimmed depth rest) with
        | some (_, rest) => some ({ before with first := false, star := true }, trimmed depth rest)
        | none =>
          some ({ before with first := false, star := true, pending := true }, trimmed depth rest)
    | _ =>
      match behindArgument? depth cs with
      | some rest => do
        let (_, rest) ← readChoice fuel depth rest
        return ({ before with first := false, defaults := true, pending := false }, rest)
      | none => do
        let (_, rest) ← name? cs
        if before.defaults && !before.star then none
        return ({ before with first := false, pending := false }, trimmed depth rest)

/-- Quoted texts that follow each other, joined, and whether one has fields; all are texts or all
are bytes. -/
def readQuotes : Nat → Nat → Bool → List Char → Option (Read (List Nat × Bool))
  | 0, _, _, _ => none
  | fuel + 1, depth, bytes, cs =>
    match openQuote? cs with
    | none => some (([], false), cs)
    | some (style, body) => do
      if style.bytes != bytes then none
      let (ns, rest) ←
        if style.formatted then readFormatted fuel style body else readQuoted style body
      let ((more, formatted), rest) ← readQuotes fuel depth bytes (trimmed depth rest)
      return ((ns ++ more, style.formatted || formatted), rest)

/-- A quoted text with fields behind its opening quote; its characters are not known. -/
def readFormatted : Nat → QuoteStyle → List Char → Option (Read (List Nat))
  | 0, _, _ => none
  | fuel + 1, style, cs => do
    let (text, rest) ← splitQuoted style [] cs
    let left ← readFields fuel style.raw 0 text
    if left.isEmpty then return ([], rest) else none

/-- The rest of a text with fields: all of it, or what lies inside the field that is open. -/
def readFields : Nat → Bool → Nat → List Char → Option (List Char)
  | 0, _, _, _ => none
  | fuel + 1, raw, level, cs =>
    match cs with
    | [] => some []
    | '\x7b' :: rest =>
      match level, rest with
      | 0, '\x7b' :: rest => readFields fuel raw level rest
      | _, _ => do
        let rest ← readField fuel raw level rest
        readFields fuel raw level rest
    | '\x7d' :: rest =>
      match level, rest with
      | 0, '\x7d' :: rest => readFields fuel raw level rest
      | 0, _ => none
      | _, _ => some cs
    | '\\' :: rest =>
      if raw then readFields fuel raw level rest
      else do
        let (_, rest) ← readEscape false rest
        readFields fuel raw level rest
    | _ :: rest => readFields fuel raw level rest

/-- A field behind its opening brace: an expression, and how it is written out. -/
def readField : Nat → Bool → Nat → List Char → Option (List Char)
  | 0, _, _, _ => none
  | fuel + 1, raw, level, cs => do
    if level ≥ 2 then none
    let (text, rest) ← splitField {} [] cs
    if (trimmed 1 text).isEmpty then none
    let (_, left) ← readAtom fuel 0 ('(' :: text ++ [')'])
    if !left.isEmpty then none
    let rest ← behindConversion? (behindEcho rest)
    match rest with
    | ':' :: rest => closed? '\x7d' (← readFields fuel raw (level + 1) rest)
    | rest => closed? '\x7d' rest

end

/-! ## Whole texts -/

/-- Whether a list of expressions outside of brackets ends here. -/
def endsList : List Char → Bool
  | [] => true
  | c :: _ => c == '\n' || c == ';' || c == '='

/-- The expressions of a list outside of brackets, and whether a comma stands behind the last;
`stars` tells whether items may stand for several. The first argument bounds the recursion inside
expressions, and the third that along the list. -/
def readList (limit : Nat) (stars : Bool) : Nat → List Char → Option (Read (List Expr × Bool))
  | 0, _ => none
  | fuel + 1, cs => do
    let (e, rest) ← match cs with
      | '*' :: _ => if stars then readItem limit 0 cs else none
      | _ => readChoice limit 0 cs
    match rest with
    | ',' :: rest =>
      let rest := trimmed 0 rest
      if endsList rest then return (([e], true), rest)
      else
        let ((es, _), rest) ← readList limit stars fuel rest
        return ((e :: es, true), rest)
    | rest => return (([e], false), rest)

/-- A bound for the recursion on a text: every character is passed by fewer readers than this
counts. -/
def readLimit (cs : List Char) : Nat := 16 * (cs.length + 1)

/-- The expression that a text is. -/
def readExpr (cs : List Char) : Option Expr := do
  if cs.contains (Char.ofNat 0) then none
  let cs ← skipLines cs.length (unifyLines cs)
  let ((es, comma), rest) ← readList (readLimit cs) false (readLimit cs) (trimmed 0 cs)
  if (skipGap true false rest).isEmpty then return .ofItems es comma else none

end CallTree.Code
