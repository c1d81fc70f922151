import CallTree.Decimal.Numeral
import CallTree.Value.Display

/-!
# Arguments of commands

A command takes options only. An option is named in full or by the beginning of its long name, if
no other option begins like that; what it takes stands in the next argument or behind an equals
sign. Of an option given twice the last counts. Arguments are first told apart, so that an option
that could be several is refused before anything else, and then taken from left to right.

After `--` nothing is an option. What looks like a negative number, and what has a space in it, is
no option either, unless it is the name of one.
-/

namespace CallTree.Command

/-- What an option takes. -/
inductive Intake where
  | nothing
  | text
  | number
  deriving DecidableEq, Repr

/-- An option of a command. The last of its names is the long one. -/
structure Opt where
  names : List String
  intake : Intake
  required : Bool := false
  deriving DecidableEq, Repr

/-- What was given for an option. -/
inductive Given where
  | present
  | text (s : String)
  | number (x : Float)

/-- Why arguments are refused. -/
inductive UsageFault where
  | ambiguous (argument : String) (names : List String)
  | noArgument (opt : Opt)
  | unusedArgument (opt : Opt) (argument : String)
  | notNumber (opt : Opt) (argument : String)
  | missing (opts : List Opt)
  | unrecognized (arguments : List String)
  deriving DecidableEq, Repr

/-- The names of an option in messages. -/
def Opt.shown (o : Opt) : String := "/".intercalate o.names

/-- The long name of an option. -/
def Opt.long (o : Opt) : String := o.names.getLast?.getD ""

/-- What is said about refused arguments. -/
def UsageFault.text : UsageFault → String
  | .ambiguous argument names =>
    "ambiguous option: " ++ argument ++ " could match " ++ ", ".intercalate names
  | .noArgument o => "argument " ++ o.shown ++ ": expected one argument"
  | .unusedArgument o argument =>
    "argument " ++ o.shown ++ ": ignored explicit argument " ++ Value.quoted argument
  | .notNumber o argument =>
    "argument " ++ o.shown ++ ": invalid float value: " ++ Value.quoted argument
  | .missing opts =>
    "the following arguments are required: " ++ ", ".intercalate (opts.map Opt.shown)
  | .unrecognized arguments => "unrecognized arguments: " ++ " ".intercalate arguments

/-- The option that asks for help. -/
def helpOpt : Opt := ⟨["-h", "--help"], .nothing, false⟩

/-! ## Telling arguments apart -/

/-- What is attached to the name of an option in one argument. -/
structure Attached where
  /-- Whether an equals sign stands before it. -/
  byEquals : Bool
  text : List Char

/-- What an argument is. -/
inductive Word where
  | plain
  /-- The mark after which nothing is an option. -/
  | mark
  | known (opt : Opt) (name : String) (attached : Option Attached)
  | unknown

/-- All names with their options. -/
def namesOf (opts : List Opt) : List (String × Opt) :=
  opts.flatMap fun o ↦ o.names.map (·, o)

/-- Splits characters at the first equals sign. -/
def splitEquals (cs : List Char) : List Char × Option (List Char) :=
  match cs.span (· != '=') with
  | (name, '=' :: text) => (name, some text)
  | (name, _) => (name, none)

/-- Whether characters are digits with a minus sign in front, perhaps with a point before the last
of them. A line feed may follow. -/
def isNegativeNumber (cs : List Char) : Bool :=
  match cs with
  | '-' :: cs =>
    let cs := if cs.getLast? == some '\n' then cs.dropLast else cs
    match cs.span Text.isDigit with
    | (_ :: _, []) => true
    | (_, '.' :: (c :: more)) => (c :: more).all Text.isDigit
    | _ => false
  | _ => false

/-- The options that an argument may begin the name of, with what is attached. -/
def candidates (names : List (String × Opt)) (cs : List Char) :
    List (String × Opt × Option Attached) :=
  match cs with
  | '-' :: '-' :: _ =>
    let (start, text) := splitEquals cs
    (names.filter fun (n, _) ↦ start.isPrefixOf n.toList).map fun (n, o) ↦
      (n, o, text.map (⟨true, ·⟩))
  | a :: b :: text =>
    names.filterMap fun (n, o) ↦
      if n.toList == [a, b] then some (n, o, some ⟨false, text⟩)
      else if cs.isPrefixOf n.toList then some (n, o, none)
      else none
  | _ => []

/-- Tells what an argument is that starts with a minus sign and is no name. -/
def classifyOther (names : List (String × Opt)) (arg : String) : Except UsageFault Word :=
  match candidates names arg.toList with
  | [(n, o, attached)] => .ok (.known o n attached)
  | [] =>
    if isNegativeNumber arg.toList || arg.toList.contains ' ' then .ok .plain else .ok .unknown
  | several => .error (.ambiguous arg (several.map (·.1)))

/-- Tells what an argument is. -/
def classify (names : List (String × Opt)) (arg : String) : Except UsageFault Word :=
  if arg.toList.head? != some '-' then .ok .plain
  else
    match names.lookup arg with
    | some o => .ok (.known o arg none)
    | none =>
      if arg == "-" then .ok .plain
      else
        match splitEquals arg.toList with
        | (name, some text) =>
          match names.lookup (String.ofList name) with
          | some o => .ok (.known o (String.ofList name) (some ⟨true, text⟩))
          | none => classifyOther names arg
        | _ => classifyOther names arg

/-- Tells all arguments apart. -/
def classifyAll (names : List (String × Opt)) :
    List String → Except UsageFault (List (String × Word))
  | [] => .ok []
  | arg :: args =>
    if arg == "--" then .ok ((arg, .mark) :: args.map (·, .plain))
    else do
      let w ← classify names arg
      let ws ← classifyAll names args
      return (arg, w) :: ws

/-! ## Taking them -/

/-- What the arguments of a command give. -/
structure Arguments where
  given : List (String × Given) := []
  /-- Arguments that belong to no option. -/
  extra : List String := []

/-- How taking the arguments can end early. -/
inductive Halt where
  | refused (fault : UsageFault)
  | help

/-- What an option makes of a text. -/
def Opt.take (o : Opt) (s : String) : Except UsageFault Given :=
  match o.intake with
  | .number =>
    match Decimal.floatOfChars? s.toList with
    | some x => .ok (.number x)
    | none => .error (.notNumber o s)
  | _ => .ok (.text s)

/-- Refuses what is attached to an option that takes nothing. Short names may follow a short name
in one argument; behind the first that is unknown nothing is looked at. -/
def refuseAttached (names : List (String × Opt)) (o : Opt) (short : Bool) (byEquals : Bool) :
    List Char → Except UsageFault Unit
  | [] => if byEquals then .error (.unusedArgument o "") else .ok ()
  | c :: text =>
    if !short || byEquals || c == '-' then
      .error (.unusedArgument o (String.ofList (c :: text)))
    else
      match names.lookup (String.ofList ['-', c]) with
      | none => .ok ()
      | some next =>
        match text with
        | [] => .ok ()
        | '=' :: text => refuseAttached names next true true text
        | text => refuseAttached names next true false text

/-- The arguments with something given for an option. -/
def Arguments.give (a : Arguments) (o : Opt) (g : Given) : Arguments :=
  { a with given := (o.long, g) :: a.given }

/-- Takes the arguments one after another. -/
def takeAll (names : List (String × Opt)) (a : Arguments) :
    List (String × Word) → Except Halt Arguments
  | [] => .ok a
  | (_, .known o name (some attached)) :: rest =>
    if o.intake = .nothing then
      match refuseAttached names o (name.length == 2) attached.byEquals attached.text with
      | .error e => .error (.refused e)
      | .ok () =>
        if o = helpOpt then .error .help else takeAll names (a.give o .present) rest
    else
      match o.take (String.ofList attached.text) with
      | .error e => .error (.refused e)
      | .ok g => takeAll names (a.give o g) rest
  | (_, .known o _ none) :: rest =>
    if o = helpOpt then .error .help
    else if o.intake = .nothing then takeAll names (a.give o .present) rest
    else
      match rest with
      | (value, .plain) :: rest =>
        match o.take value with
        | .error e => .error (.refused e)
        | .ok g => takeAll names (a.give o g) rest
      | _ => .error (.refused (.noArgument o))
  | (arg, _) :: rest => takeAll names { a with extra := a.extra ++ [arg] } rest

/-- Whether an option was given. -/
def Arguments.has (a : Arguments) (o : Opt) : Bool := (a.given.lookup o.long).isSome

/-- The text given for an option. -/
def Arguments.text? (a : Arguments) (o : Opt) : Option String :=
  match a.given.lookup o.long with
  | some (.text s) => some s
  | _ => none

/-- The number given for an option. -/
def Arguments.number? (a : Arguments) (o : Opt) : Option Float :=
  match a.given.lookup o.long with
  | some (.number x) => some x
  | _ => none

/-- Reads the arguments of a command that has the given options besides the one for help. -/
def readArguments (opts : List Opt) (args : List String) : Except Halt Arguments := do
  let names := namesOf (helpOpt :: opts)
  let words ← (classifyAll names args).mapError .refused
  let a ← takeAll names {} words
  match opts.filter fun o ↦ o.required && !a.has o with
  | [] =>
    if a.extra.isEmpty then return a else throw (.refused (.unrecognized a.extra))
  | absent => throw (.refused (.missing absent))

end CallTree.Command
