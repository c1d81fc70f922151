import CallTree.Command.Arguments

/-!
# Help texts of commands

A help text shows how a command is called, what it is for, and its options. The first part is cut
into lines at the width of a terminal, and its further lines start below the first option.
-/

namespace CallTree.Command

/-- A command: its name, what it is for, and its options besides the one for help. -/
structure Form where
  name : String
  about : String
  opts : List Opt

/-- The width of lines. -/
def lineWidth : Nat := 78

/-- How far texts on options are set in at most. -/
def helpColumn : Nat := 24

/-- The word for what an option takes. -/
def Opt.placeholder (o : Opt) : String :=
  String.ofList ((o.long.toList.drop 2).map fun c ↦ if c == '-' then '_' else c.toUpper)

/-- A name of an option with what it takes. -/
def Opt.call (o : Opt) (name : String) : String :=
  if o.intake = .nothing then name else name ++ " " ++ o.placeholder

/-- An option in the line that shows how a command is called. -/
def Opt.usage (o : Opt) : String :=
  let call := o.call (o.names.head?.getD "")
  if o.required then call else "[" ++ call ++ "]"

/-- Blanks. -/
def blanks (n : Nat) : String := String.ofList (List.replicate n ' ')

/-- Parts in lines of a width; `line` is the current line and `start` begins the further ones. -/
def fillLines (width : Nat) (start line : String) : List String → List String
  | [] => [line]
  | part :: parts =>
    if line.length + 1 + part.length > width && line != start then
      line :: fillLines width start (start ++ " " ++ part) parts
    else fillLines width start (line ++ " " ++ part) parts

/-- How a command is called. -/
def Form.usage (f : Form) : String :=
  let first := "usage: " ++ f.name
  "\n".intercalate
    (fillLines lineWidth (blanks first.length) first ((helpOpt :: f.opts).map Opt.usage))

/-- An option in the list of options. -/
def Opt.entry (o : Opt) : String := ", ".intercalate (o.names.map o.call)

/-- The line of the option for help, whose text starts in a column. -/
def helpLine (column : Nat) : String :=
  let entry := "  " ++ helpOpt.entry
  entry ++ blanks (column - entry.length) ++ "show this help message and exit"

/-- The help text of a command. -/
def Form.help (f : Form) : String :=
  let widths := (helpOpt :: f.opts).map fun o ↦ o.entry.length + 4
  let column := min helpColumn (widths.foldl max 0)
  "\n".intercalate ([f.usage, "", f.about, "", "options:", helpLine column] ++
    f.opts.map fun o ↦ "  " ++ o.entry)

end CallTree.Command
