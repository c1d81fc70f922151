/-!
# Line feeds

Files may end their lines with a line feed, a carriage return, or both together. Once read, all of
them are line feeds.
-/

namespace CallTree.Text

/-- The characters with every end of a line as a line feed; `afterReturn` tells whether a carriage
return stands just before. -/
def feedsFrom (afterReturn : Bool) : List Char → List Char
  | [] => []
  | c :: cs =>
    if c == '\r' then '\n' :: feedsFrom true cs
    else if afterReturn && c == '\n' then feedsFrom false cs
    else c :: feedsFrom false cs

/-- The text with every end of a line as a line feed. -/
def withLineFeeds (s : String) : String := String.ofList (feedsFrom false s.toList)

end CallTree.Text
