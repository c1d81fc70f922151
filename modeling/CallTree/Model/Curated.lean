import CallTree.Benchmark.Offline
import CallTree.Model.Transport

/-!
# Transports with curated answers

A transport that answers the last question of a user with the program of the offline case that asks
it. It has no answers in parts.
-/

namespace CallTree

/-- The programs of cases by their questions. Of two cases with one question the later one
counts. -/
def curatedAnswers (cases : List OfflineCase) : Except Fault (Registry String) := do
  return Registry.ofList (← cases.mapM fun c ↦ do return (c.question, ← c.text))

/-- The messages of a request, the last one first. -/
def messagesBackwards (request : Request) : Except Fault (List Value) :=
  match request.lookup "messages" with
  | none => .ok []
  | some (.list ms) => .ok ms.reverse
  | some (.tuple ms) => .ok ms.reverse
  | some (.map es) => .ok (es.map Prod.fst).reverse
  | some (.str s) => .ok (s.toList.map fun c ↦ .str (String.singleton c))
  | some _ => .error .wrongKind

/-- The content of the first message of a user. -/
def firstQuestion : List Value → Except Fault Value
  | [] => .error .nothingFound
  | .map es :: ms =>
    match Value.entry? "role" es with
    | some (.str "user") =>
      match Value.entry? "content" es with
      | some v => .ok v
      | none => .error .noSuchKey
    | _ => firstQuestion ms
  | _ :: _ => .error .noSuchOperation

/-- The answer to a question. -/
def curatedAnswer (answers : Registry String) (question : Value) : Except Fault String :=
  match question with
  | .str s =>
    match answers.lookup s with
    | some text => .ok text
    | none => .error .noSuchKey
  | v => .error (if v.isKey then .noSuchKey else .wrongKind)

/-- The transport with curated answers. -/
def curatedTransport (answers : Registry String) : Transport Unit where
  complete request s :=
    let answer := do curatedAnswer answers (← firstQuestion (← messagesBackwards request))
    (answer.map some, s)
  stream _ s := (⟨[], .ok ()⟩, s)

end CallTree
