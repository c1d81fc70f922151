import CallTree.Text.CharName.Aliases
import CallTree.Text.CharName.Alphabets
import CallTree.Text.CharName.Ancient
import CallTree.Text.CharName.EastAsia
import CallTree.Text.CharName.Family
import CallTree.Text.CharName.Forms
import CallTree.Text.CharName.Notations
import CallTree.Text.CharName.Pictures
import CallTree.Text.CharName.Syllabaries
import CallTree.Text.CharName.Symbols

/-!
# Characters by name

Looking a character up by its name. Capital and small letters are the same, except in the names of
unified ideographs and of syllables, which are written in capitals.
-/

namespace CallTree.Text

namespace CharName

/-- The names that are listed. -/
def listed : List Run :=
  alphabets ++ syllabaries ++ symbols ++ eastAsia ++ forms ++ ancient ++ notations ++ pictures ++
    aliases

end CharName

open CharName in
/-- The code point of the character with the name. -/
def charOfName? (name : List Char) : Option Nat :=
  match after? syllableStart name, after? unifiedStart name with
  | some spelling, _ => syllable? spelling
  | none, some digits => (codePoint? digits).filter (inside unifiedBounds)
  | none, none =>
    let name := name.map Char.toUpper
    (families.findSome? (ofFamily? name)).or (listed.findSome? (Run.find? name))

end CallTree.Text
