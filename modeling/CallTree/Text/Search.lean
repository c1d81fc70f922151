/-!
# Texts within texts
-/

namespace CallTree.Text

/-- Whether some characters occur in others, one after another. -/
def occursInList (part : List Char) : List Char → Bool
  | [] => part.isEmpty
  | c :: cs => part.isPrefixOf (c :: cs) || occursInList part cs

/-- Whether a text occurs in another. -/
def occursIn (part whole : String) : Bool := occursInList part.toList whole.toList

end CallTree.Text
