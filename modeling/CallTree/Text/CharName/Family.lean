import CallTree.Text.Boundary
import CallTree.Text.Digit

/-!
# Names that follow a rule

Ideographs and a few other characters are named after their code points. The syllables of Hangul are
named by spelling them out: an initial, a vowel and a final, of which the first and the last may be
silent.
-/

namespace CallTree.Text.CharName

/-- A text without what it starts with, if it starts with that. -/
def after? (start : String) (cs : List Char) : Option (List Char) :=
  if start.toList.isPrefixOf cs then some (cs.drop start.length) else none

/-! ## Names by code point -/

/-- The number of capital hexadecimal digits; their count has to be four or five. -/
def codePoint? (cs : List Char) : Option Nat :=
  if (cs.length == 4 || cs.length == 5) && !cs.any Char.isLower then
    (cs.mapM hexDigit?).map (ofDigits 16)
  else none

/-- Code points at which "is a unified ideograph" changes. -/
def unifiedBounds : List Nat := [
  0x3400, 0x4dc0, 0x4e00, 0xa000, 0x20000, 0x2a6e0, 0x2a700, 0x2b73a, 0x2b740, 0x2b81e, 0x2b820,
  0x2cea2, 0x2ceb0, 0x2ebe1, 0x30000, 0x3134b, 0x31350, 0x323b0]

/-- How the names of unified ideographs start. -/
def unifiedStart : String := "CJK UNIFIED IDEOGRAPH-"

/-- Further families of characters that are named by their code points: how the names start, and
the code points at which membership changes. -/
def families : List (String × List Nat) := [
  ("CJK COMPATIBILITY IDEOGRAPH-", [0xf900, 0xfa6e, 0xfa70, 0xfada, 0x2f800, 0x2fa1e]),
  ("KHITAN SMALL SCRIPT CHARACTER-", [0x18b00, 0x18cd6]),
  ("NUSHU CHARACTER-", [0x1b170, 0x1b2fc])]

/-- The member of a family that has the name. The code point is written without a leading zero. -/
def ofFamily? (name : List Char) (family : String × List Nat) : Option Nat := do
  let digits ← after? family.1 name
  if digits.head? == some '0' then none
  (codePoint? digits).filter (inside family.2)

/-! ## Syllables of Hangul -/

/-- The initials of syllables. -/
def initials : List String := [
  "G", "GG", "N", "D", "DD", "R", "M", "B", "BB", "S", "SS", "", "J", "JJ", "C", "K", "T", "P", "H"]

/-- The vowels of syllables. -/
def vowels : List String := [
  "A", "AE", "YA", "YAE", "EO", "E", "YEO", "YE", "O", "WA", "WAE", "OE", "YO", "U", "WEO", "WE",
  "WI", "YU", "EU", "YI", "I"]

/-- The finals of syllables. -/
def finals : List String := [
  "", "G", "GG", "GS", "N", "NJ", "NH", "D", "L", "LG", "LM", "LB", "LS", "LT", "LP", "LH", "M",
  "B", "BS", "S", "SS", "NG", "J", "C", "K", "T", "P", "H"]

/-- The place of the longest of the parts that a text starts with, and the rest of the text. -/
def longestPart? (parts : List String) (cs : List Char) : Option (Nat × List Char) :=
  parts.zipIdx.foldl (fun best (part, i) ↦
    match after? part cs with
    | none => best
    | some rest =>
      match best with
      | none => some (i, rest)
      | some (j, far) => if rest.length < far.length then some (i, rest) else some (j, far))
    none

/-- How the names of syllables start. -/
def syllableStart : String := "HANGUL SYLLABLE "

/-- The code point of the syllable that is spelled out. -/
def syllable? (cs : List Char) : Option Nat := do
  let (i, cs) ← longestPart? initials cs
  let (v, cs) ← longestPart? vowels cs
  let (f, cs) ← longestPart? finals cs
  if cs.isEmpty then return 0xac00 + (i * vowels.length + v) * finals.length + f else none

end CallTree.Text.CharName
