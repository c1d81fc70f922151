import CallTree.Text.Blank
import CallTree.Text.Case
import CallTree.Value.Display
import CallTree.Value.Equal

/-!
# Redaction

Before a value goes into a log or a trace, credentials are blanked, and unless content is allowed,
so is what users and models wrote. What counts is the key of a mapping: its name in lower case with
dashes as underscores, or the part of it behind an underscore. Texts that stand elsewhere are
searched for two shapes of secrets: keys that start with `sk-`, and bearer tokens.

The secrets in a text are replaced from left to right, each taken as long as possible; first all
keys, then all tokens.
-/

namespace CallTree.Report

open CallTree.Text

/-- What stands in place of something blanked. -/
def redacted : String := "[REDACTED]"

/-- The keys of credentials. -/
def credentialKeys : List String :=
  ["api_key", "apikey", "authorization", "cookie", "password", "secret", "token"]

/-- The keys of what users and models wrote. -/
def contentKeys : List String :=
  ["actual", "arguments", "ast", "completion", "content", "error", "expected", "input", "messages",
    "output", "prompt", "query", "question", "request", "response", "result"]

/-- A key's name in the form in which it is compared. -/
def normalKey (name : String) : List Char :=
  (lower name).toList.map fun c ↦ if c == '-' then '_' else c

/-- Whether a normal key is one of the keys, or ends with an underscore and one of them. -/
def matchesKey (key : List Char) (keys : List String) : Bool :=
  keys.any fun k ↦ key == k.toList || ('_' :: k.toList).isSuffixOf key

/-! ## Secrets in texts -/

/-- The characters of a secret key. -/
def isKeyChar (c : Char) : Bool := c.isAlphanum || c == '_' || c == '-'

/-- The characters of a bearer token; letters without regard to case, which takes in four more. -/
def isTokenChar (c : Char) : Bool :=
  c.isAlphanum || c == '.' || c == '_' || c == '~' || c == '+' || c == '/' || c == '=' ||
  c == '-' || c.toNat == 0x130 || c.toNat == 0x131 || c.toNat == 0x17f || c.toNat == 0x212a

/-- The length of the secret key at the front of a text, zero if there is none. -/
def keyLength : List Char → Nat
  | 's' :: 'k' :: '-' :: cs =>
    let n := (cs.takeWhile isKeyChar).length
    if 8 ≤ n then n + 3 else 0
  | _ => 0

/-- The word in front of a bearer token. -/
def bearerWord : List Char := ['b', 'e', 'a', 'r', 'e', 'r']

/-- The length of the bearer token at the front of a text, with its word; zero if there is none. -/
def bearerLength (cs : List Char) : Nat :=
  if (cs.take 6).map Char.toLower == bearerWord then
    let rest := cs.drop 6
    let blanks := (rest.takeWhile isBlank).length
    let token := ((rest.drop blanks).takeWhile isTokenChar).length
    if blanks == 0 || token == 0 then 0 else 6 + blanks + token
  else 0

/-- Replaces matches from left to right; the second argument counts the characters of a match that
are still to be dropped. -/
def replaceMatches (length : List Char → Nat) : Nat → List Char → List Char
  | _, [] => []
  | skip + 1, _ :: cs => replaceMatches length skip cs
  | 0, c :: cs =>
    match length (c :: cs) with
    | 0 => c :: replaceMatches length 0 cs
    | n + 1 => redacted.toList ++ replaceMatches length n cs

/-- A text without its secrets. -/
def scrub (s : String) : String :=
  String.ofList (replaceMatches bearerLength 0 (replaceMatches keyLength 0 s.toList))

/-! ## Values -/

mutual

/-- A value without credentials, and without content unless it is allowed. -/
def redact (allowContent : Bool) : Value → Value
  | .map es => .map (Value.ofPairs (redactEntries allowContent es))
  | .member v => v
  | .list xs => .list (redactAll allowContent xs)
  | .tuple xs => .list (redactAll allowContent xs)
  | .str s => .str (scrub s)
  | v => v

/-- The values of a list, redacted. -/
def redactAll (allowContent : Bool) : List Value → List Value
  | [] => []
  | x :: xs => redact allowContent x :: redactAll allowContent xs

/-- The entries of a mapping, redacted, with texts as keys. -/
def redactEntries (allowContent : Bool) : List (Value × Value) → List (Value × Value)
  | [] => []
  | (k, v) :: es =>
    let name := k.plainText
    let key := normalKey name
    let new :=
      if matchesKey key credentialKeys then .str redacted
      else if !allowContent && matchesKey key contentKeys then
        (if v.isNull then .null else .str redacted)
      else redact allowContent v
    (.str name, new) :: redactEntries allowContent es

end

/-! ## Keys -/

/-- Whether what stands under a key is blanked whatever it is. -/
def hidesUnder (allowContent : Bool) (key : Value) : Bool :=
  let key := normalKey key.plainText
  matchesKey key credentialKeys || !allowContent && matchesKey key contentKeys

mutual

/-- Whether redaction meets a key with a whole number that is too long to be written. -/
def hasLongKey (allowContent : Bool) : Value → Bool
  | .map es => anyLongKey allowContent es
  | .list xs => anyHasLongKey allowContent xs
  | .tuple xs => anyHasLongKey allowContent xs
  | _ => false

/-- Whether it meets one in a list of values. -/
def anyHasLongKey (allowContent : Bool) : List Value → Bool
  | [] => false
  | x :: xs => hasLongKey allowContent x || anyHasLongKey allowContent xs

/-- Whether it meets one in the entries of a mapping. -/
def anyLongKey (allowContent : Bool) : List (Value × Value) → Bool
  | [] => false
  | (k, v) :: es =>
    k.hasLong || !hidesUnder allowContent k && hasLongKey allowContent v ||
      anyLongKey allowContent es

end

end CallTree.Report
