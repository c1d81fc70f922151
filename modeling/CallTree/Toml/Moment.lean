import CallTree.Text.Digit

/-!
# Dates and times

A moment is a date, a time of day, or both together with the distance from universal time if one
is given. Fractions of a second are kept to the microsecond.
-/

namespace CallTree.Toml

open CallTree.Text

/-- A day of the calendar. -/
structure Date where
  year : Nat
  month : Nat
  day : Nat
  deriving DecidableEq, Repr

/-- A time of day. -/
structure TimeOfDay where
  hour : Nat
  minute : Nat
  second : Nat
  micros : Nat
  deriving DecidableEq, Repr

/-- A date, a time of day, or both with the minutes ahead of universal time. -/
inductive Moment where
  | date (d : Date)
  | clock (t : TimeOfDay)
  | both (d : Date) (t : TimeOfDay) (ahead : Option Int)
  deriving DecidableEq, Repr

/-! ## Writing -/

/-- A number with zeros in front up to a width. -/
def padded (width n : Nat) : String :=
  let ds := toString n
  String.ofList (List.replicate (width - ds.length) '0') ++ ds

/-- Year, month and day. -/
def Date.text (d : Date) : String :=
  padded 4 d.year ++ "-" ++ padded 2 d.month ++ "-" ++ padded 2 d.day

/-- Hours, minutes and seconds, and the microseconds if there are any. -/
def TimeOfDay.text (t : TimeOfDay) : String :=
  padded 2 t.hour ++ ":" ++ padded 2 t.minute ++ ":" ++ padded 2 t.second ++
    (if t.micros == 0 then "" else "." ++ padded 6 t.micros)

/-- A distance from universal time. -/
def aheadText (minutes : Int) : String :=
  (if minutes < 0 then "-" else "+") ++ padded 2 (minutes.natAbs / 60) ++ ":" ++
    padded 2 (minutes.natAbs % 60)

/-- The text of a moment. -/
def Moment.text : Moment → String
  | .date d => d.text
  | .clock t => t.text
  | .both d t ahead => d.text ++ " " ++ t.text ++ (ahead.map aheadText).getD ""

/-! ## Calendar -/

/-- Whether a year has a leap day. -/
def isLeap (year : Nat) : Bool := year % 4 == 0 && (year % 100 != 0 || year % 400 == 0)

/-- The number of days of a month. -/
def daysIn (year month : Nat) : Nat :=
  if month == 2 then if isLeap year then 29 else 28
  else if [4, 6, 9, 11].contains month then 30 else 31

/-- Whether the day exists. -/
def Date.exists (d : Date) : Bool := 1 ≤ d.year && d.day ≤ daysIn d.year d.month

/-- Whether the day of a moment exists. -/
def Moment.exists : Moment → Bool
  | .date d => d.exists
  | .clock _ => true
  | .both d _ _ => d.exists

/-! ## Reading -/

/-- Two digits whose number lies in the given range, and the rest. -/
def twoDigits? (low high : Nat) : List Char → Option (Nat × List Char)
  | a :: b :: cs => do
    let n := ofDigits 10 [← asciiDigit? a, ← asciiDigit? b]
    if low ≤ n && n ≤ high then some (n, cs) else none
  | _ => none

/-- One character, and the rest. -/
def expected? (c : Char) : List Char → Option (List Char)
  | d :: cs => if d == c then some cs else none
  | [] => none

/-- Year, month and day at the front, and the rest. -/
def date? (cs : List Char) : Option (Date × List Char) := do
  let (century, cs) ← twoDigits? 0 99 cs
  let (year, cs) ← twoDigits? 0 99 cs
  let (month, cs) ← twoDigits? 1 12 (← expected? '-' cs)
  let (day, cs) ← twoDigits? 1 31 (← expected? '-' cs)
  return (⟨100 * century + year, month, day⟩, cs)

/-- A fraction of a second in microseconds; further digits are passed over. -/
def takeMicros : List Char → Nat × List Char
  | '.' :: cs =>
    match (cs.takeWhile Char.isDigit).filterMap asciiDigit? with
    | [] => (0, '.' :: cs)
    | ds => (ofDigits 10 ((ds ++ List.replicate 6 0).take 6), cs.dropWhile Char.isDigit)
  | cs => (0, cs)

/-- A time of day at the front, and the rest. -/
def clock? (cs : List Char) : Option (TimeOfDay × List Char) := do
  let (hour, cs) ← twoDigits? 0 23 cs
  let (minute, cs) ← twoDigits? 0 59 (← expected? ':' cs)
  let (second, cs) ← twoDigits? 0 59 (← expected? ':' cs)
  let (micros, cs) := takeMicros cs
  return (⟨hour, minute, second, micros⟩, cs)

/-- Hours and minutes of a distance from universal time, in minutes. -/
def span? (cs : List Char) : Option (Nat × List Char) := do
  let (hours, cs) ← twoDigits? 0 23 cs
  let (minutes, cs) ← twoDigits? 0 59 (← expected? ':' cs)
  return (60 * hours + minutes, cs)

/-- The distance from universal time, if one is given. -/
def takeAhead (cs : List Char) : Option Int × List Char :=
  match cs with
  | c :: rest =>
    if c == 'Z' || c == 'z' then (some 0, rest)
    else if c == '+' then
      match span? rest with
      | some (n, rest) => (some (n : Int), rest)
      | none => (none, cs)
    else if c == '-' then
      match span? rest with
      | some (n, rest) => (some (-(n : Int)), rest)
      | none => (none, cs)
    else (none, cs)
  | [] => (none, [])

/-- A moment at the front, and the rest; whether its day exists is not asked. -/
def moment? (cs : List Char) : Option (Moment × List Char) :=
  match date? cs with
  | some (d, rest) =>
    match rest with
    | c :: after =>
      if c == 'T' || c == 't' || c == ' ' then
        match clock? after with
        | some (t, after) =>
          let (ahead, after) := takeAhead after
          some (.both d t ahead, after)
        | none => some (.date d, rest)
      else some (.date d, rest)
    | [] => some (.date d, rest)
  | none => (clock? cs).map fun (t, rest) ↦ (.clock t, rest)

end CallTree.Toml
