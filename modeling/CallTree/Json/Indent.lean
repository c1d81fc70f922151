import CallTree.Json.Write

/-!
# Writing JSON on several lines

Values as JSON with one item or entry to a line, each level indented by two more blanks. Empty lists
and mappings stay on one line.
-/

namespace CallTree.Json

open CallTree.Value

/-- A new line with its indentation. -/
def newLine (depth : Nat) : List Char := '\n' :: List.replicate (2 * depth) ' '

/-- Written items on lines of their own. -/
def lines (depth : Nat) (opening closing : Char) (items : List (List Char)) : List Char :=
  if items.isEmpty then [opening, closing]
  else
    let inner := newLine (depth + 1)
    opening :: (inner ++ List.intercalate (',' :: inner) items) ++ newLine depth ++ [closing]

mutual

/-- A value as JSON on several lines. -/
def indentChars (style : Style) (depth : Nat) : Value → Except WriteFault (List Char)
  | .list xs => do return lines depth '[' ']' (← indentAll style (depth + 1) xs)
  | .tuple xs => do return lines depth '[' ']' (← indentAll style (depth + 1) xs)
  | .map es => do return lines depth '\x7b' '\x7d' (← indentEntries style (depth + 1) es)
  | v => writeChars style v

/-- The values of a list as JSON on several lines. -/
def indentAll (style : Style) (depth : Nat) : List Value → Except WriteFault (List (List Char))
  | [] => .ok []
  | x :: xs => do return (← indentChars style depth x) :: (← indentAll style depth xs)

/-- The entries of a mapping as JSON on several lines. -/
def indentEntries (style : Style) (depth : Nat) :
    List (Value × Value) → Except WriteFault (List (List Char))
  | [] => .ok []
  | (k, v) :: es => do
    let written ← writeEntry style (k, ← indentChars style depth v)
    return written :: (← indentEntries style depth es)

end

/-- A value as JSON text on several lines, entries in their own order and text as it is. -/
def writeIndented (v : Value) : Except WriteFault String :=
  unlessLong v (indentChars ⟨false, false, false⟩ 0 v)

end CallTree.Json
