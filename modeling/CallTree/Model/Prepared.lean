import CallTree.Model.Client

/-!
# Transports and clients with prepared answers

For rehearsals: answers that are given one after another, whatever is asked, and a record of the
requests. When the answers run out, every exchange fails.
-/

namespace CallTree

/-- A prepared answer of a transport. -/
inductive PreparedAnswer where
  | text (s : String)
  | failure (fault : Fault)
  /-- No answer comes. -/
  | silence
  | parts (delivery : Delivery)

/-- The state of a rehearsal: the answers still to come, the requests so far, and the tokens that
will be reported. -/
structure Rehearsal (α : Type) where
  coming : List α
  requests : List Request := []
  usages : List Usage := []

/-- The next answer. -/
def Rehearsal.next {α : Type} (r : Rehearsal α) (request : Request) : Option α × Rehearsal α :=
  match r.coming with
  | [] => (none, { r with requests := r.requests ++ [request] })
  | a :: rest => (some a, { r with coming := rest, requests := r.requests ++ [request] })

/-- The tokens that are reported next. -/
def Rehearsal.takeUsage {α : Type} (r : Rehearsal α) : Usage × Rehearsal α :=
  match r.usages with
  | [] => ({}, r)
  | u :: us => (u, { r with usages := us })

/-- The whole answer that a prepared answer gives. -/
def PreparedAnswer.whole : Option PreparedAnswer → Except Fault (Option String)
  | some (.text s) => .ok (some s)
  | some .silence => .ok none
  | some (.failure e) => .error e
  | some (.parts _) => .error .wrongKind
  | none => .error .outOfRange

/-- The parts that a prepared answer gives. -/
def PreparedAnswer.delivery : Option PreparedAnswer → Delivery
  | some (.parts d) => d
  | some (.failure e) => ⟨[], .error e⟩
  | some (.text _) => ⟨[], .error .wrongKind⟩
  | some .silence => ⟨[], .error .timedOut⟩
  | none => ⟨[], .error .outOfRange⟩

/-- The transport with prepared answers. -/
def preparedTransport : Transport (Rehearsal PreparedAnswer) where
  complete request r :=
    let (a, r) := r.next request
    (PreparedAnswer.whole a, r)
  stream request r :=
    let (a, r) := r.next request
    (PreparedAnswer.delivery a, r)

/-- A prepared answer of a client. -/
inductive PreparedReply where
  | completion (c : Completion)
  | failure (fault : Fault)
  | parts (answer : PartialCompletions)

/-- The completion that a prepared reply gives. -/
def PreparedReply.whole : Option PreparedReply → Except Fault Completion
  | some (.completion c) => .ok c
  | some (.failure e) => .error e
  | some (.parts _) => .error .wrongKind
  | none => .error .outOfRange

/-- The parts that a prepared reply gives. -/
def PreparedReply.inParts : Option PreparedReply → PartialCompletions
  | some (.parts d) => d
  | some (.failure e) => ⟨[], .error e⟩
  | some (.completion _) => ⟨[], .error .wrongKind⟩
  | none => ⟨[], .error .outOfRange⟩

/-- The client with prepared replies. -/
def preparedClient : Client (Rehearsal PreparedReply) where
  complete request r :=
    let (a, r) := r.next request
    (PreparedReply.whole a, r)
  stream request r :=
    let (a, r) := r.next request
    (PreparedReply.inParts a, r)

end CallTree
