import CallTree.Model.Prepared
import CallTree.Proofs.Conversations
import CallTree.Proofs.LogLines
import CallTree.Tool.Toolbox

/-!
# What events tell of a conversation

The events of a conversation carry requests, answers and failures, all of it content, which is
blanked before an event is sent out. What is left is the course of the conversation: for each
request whether its reply was a program, another text or a failure, how long it took, and the time
limit.

Two conversations are not compared with each other but both with an outline of events, which is made
from the configuration, the readings of the clock and the kinds of the replies (`outline`). One
exchange reads the clock twice and leaves the two events of its outline, up to content
(`complete_run`). `converse_logs` follows the loop by induction on the repairs that are left.
Whatever has the same outline is sent out alike, and each event of an outline can be sent out.
-/

namespace CallTree

open Report

variable {σ θ τ ε α β : Type}

/-! ## Readings of a clock -/

/-- The state of a clock after a number of readings. -/
def Clock.after {κ : Type} (c : Clock κ τ) : Nat → τ → τ
  | 0, s => s
  | n + 1, s => c.after n (c.now s).2

/-- The reading of a clock after a number of others. -/
def Clock.reading {κ : Type} (c : Clock κ τ) (n : Nat) (s : τ) : κ := (c.now (c.after n s)).1

/-! ## Kinds of replies -/

/-- What a reply is: a program, a text that is no program, a failure, or called off. -/
inductive ReplyKind where
  | valid
  | invalid
  | failed
  | cancelled
  deriving DecidableEq, Repr

/-- The kind of a reply. No reply in time is a failure. Any account will do to tell whether a text
is a program. -/
def Reply.kind : Reply → ReplyKind
  | .ok (some text) =>
    match judge .reasons text with
    | .ok _ => .valid
    | .error _ => .invalid
  | .ok none => .failed
  | .error .cancelled => .cancelled
  | .error _ => .failed

/-- What an event says of a reply: the answer, or what went wrong. -/
def Reply.content : Reply → Value
  | .ok (some text) => .str text
  | .ok none => .str (summary Fault.timedOut)
  | .error e => .str (summary e)

/-- The name of the event after a reply. -/
def ReplyKind.closing : ReplyKind → String
  | .valid => "model.request.completed"
  | .invalid => "model.request.completed"
  | .failed => "model.request.failed"
  | .cancelled => "model.request.cancelled"

/-- The attributes of that event that are content. -/
def ReplyKind.details (content : Value) : ReplyKind → List (String × Value)
  | .valid => [("response", content)]
  | .invalid => [("response", content)]
  | .failed => [("error", content)]
  | .cancelled => []

/-! ## Outlines -/

/-- The event before a request. -/
def startedEvent (limit : Option Value.Number) (request : Value) : Event :=
  ⟨"model.request.started", [("request", request), ("timeout", numberOrNull limit)]⟩

/-- The event after a reply. -/
def closingEvent (k : ReplyKind) (started finished : Float) (content : Value) : Event :=
  ⟨k.closing, ("latency_ms", elapsed started finished) :: k.details content⟩

/-- The event before an answer is sent back. -/
def retryEvent (attempt : Nat) (content : Value) : Event :=
  ⟨"model.response.validation_retry", [("attempt", .int (attempt + 1)), ("error", content)]⟩

/-- What stands in an outline for content. -/
def blank : Value := .str redacted

/-- The events of one exchange without its content. -/
def exchangeOutline (limit : Option Value.Number) (reading : Nat → Float) (k : ReplyKind) :
    List Event :=
  [startedEvent limit blank, closingEvent k (reading 0) (reading 1) blank]

/-- The events of a conversation without its content, from the kinds of its replies. -/
def outline (limit : Option Value.Number) : Nat → (Nat → Float) → List ReplyKind → List Event
  | _, _, [] => []
  | _, reading, [k] => exchangeOutline limit reading k
  | attempt, reading, k :: k' :: ks =>
    exchangeOutline limit reading k ++ retryEvent attempt blank ::
      outline limit (attempt + 1) (fun i ↦ reading (i + 2)) (k' :: ks)

/-! ## Events that are sent out alike -/

/-- What comes of sending an event out without content, and whether it has a number that is too
long. -/
def Report.Event.sending (e : Event) : Except Fault (String × Record) × Bool :=
  (emit false e, e.isLong false)

theorem sending_eq_of_alike {name : String} {as bs : List (String × Value)}
    (hnames : as.map Prod.fst = bs.map Prod.fst)
    (h : Alike hidesContent (.record as) (.record bs)) :
    Event.sending ⟨name, as⟩ = Event.sending ⟨name, bs⟩ := by
  have hreserved : ∀ cs : List (String × Value),
      (cs.any fun a ↦ reservedNames.contains a.1) =
        (cs.map Prod.fst).any reservedNames.contains := by
    intro cs
    rw [List.any_map]
    rfl
  have hrecord : Event.record false ⟨name, as⟩ = Event.record false ⟨name, bs⟩ := by
    rw [Event.record, Event.record, redact_eq_of_alike blanksAlike_hidesContent h]
  have hkeys := hasLongKey_eq_of_alike hides_hidesContent h
  rw [Event.sending, Event.sending, emit, emit, Event.isLong, Event.isLong, hreserved, hreserved,
    hnames, hrecord, hkeys]

/-- Content under a key of content may be exchanged unless it is null. -/
theorem hidesContent_of_ne_null {key : String} (hkey : NamedBy contentKeys (.str key))
    {item item' : Value} (h : item ≠ .null) (h' : item' ≠ .null) :
    hidesContent (.str key) item item' :=
  Or.inr ⟨hkey, iff_of_false h h'⟩

theorem namedBy_error : NamedBy contentKeys (.str "error") := matchesKey_iff.mp (by cbv)

theorem namedBy_request : NamedBy contentKeys (.str "request") := matchesKey_iff.mp (by cbv)

theorem namedBy_response : NamedBy contentKeys (.str "response") := matchesKey_iff.mp (by cbv)

theorem blank_ne_null : blank ≠ .null := by
  rintro ⟨⟩

theorem Reply.content_ne_null (reply : Reply) : reply.content ≠ .null := by
  rcases reply with e | _ | text <;> rintro ⟨⟩

section

variable {content : Value} (hcontent : content ≠ .null)

include hcontent

theorem sending_startedEvent (limit : Option Value.Number) :
    (startedEvent limit content).sending = (startedEvent limit blank).sending :=
  sending_eq_of_alike rfl (.map (.hidden
    (hidesContent_of_ne_null namedBy_request hcontent blank_ne_null) (.seen (.same _) .nil)))

theorem sending_closingEvent (k : ReplyKind) (started finished : Float) :
    (closingEvent k started finished content).sending =
      (closingEvent k started finished blank).sending := by
  have hresponse := hidesContent_of_ne_null namedBy_response hcontent blank_ne_null
  have herror := hidesContent_of_ne_null namedBy_error hcontent blank_ne_null
  cases k with
  | valid => exact sending_eq_of_alike rfl (.map (.seen (.same _) (.hidden hresponse .nil)))
  | invalid => exact sending_eq_of_alike rfl (.map (.seen (.same _) (.hidden hresponse .nil)))
  | failed => exact sending_eq_of_alike rfl (.map (.seen (.same _) (.hidden herror .nil)))
  | cancelled => rfl

theorem sending_retryEvent (attempt : Nat) :
    (retryEvent attempt content).sending = (retryEvent attempt blank).sending :=
  sending_eq_of_alike rfl (.map (.seen (.same _) (.hidden
    (hidesContent_of_ne_null namedBy_error hcontent blank_ne_null) .nil)))

end

/-! ## One exchange -/

theorem bind_run {x : Effect σ ε τ α} {f : α → Effect σ ε τ β} {s s' s'' : σ} {a : α}
    {r : Except ε β} {t t' : List τ} (hx : x s = ⟨.ok a, s', t⟩) (hf : f a s' = ⟨r, s'', t'⟩) :
    (x >>= f) s = ⟨r, s'', t ++ t'⟩ := by
  rw [Effect.bind_of_ok (a := a) (by rw [hx]), hx, hf]

theorem failedExchange_run (sv : Services σ θ τ) (started : Float) (e : Fault) (w : World σ θ τ) :
    failedExchange (α := α) sv "model.request" started [] e w =
      ⟨.error e, { w with clock := (sv.clock.now w.clock).2 },
        [closingEvent (Reply.kind (.error e)) started (sv.clock.now w.clock).1
          (.str (summary e))]⟩ := by
  cases e <;> rfl

/-- What an exchange does: the clock is read before and after it, and there is an event each
time. -/
theorem complete_run {sv : Services σ θ τ} {request : Request} {w : World σ θ τ} {reply : Reply}
    {s : θ} (h : sv.transport.complete request w.transport = (reply, s))
    (limit : Option Value.Number) :
    complete sv request limit w =
      ⟨reply.answer, ⟨w.provider, s, sv.clock.after 2 w.clock⟩,
        [startedEvent limit (.record request),
          closingEvent reply.kind (sv.clock.reading 0 w.clock) (sv.clock.reading 1 w.clock)
            reply.content]⟩ := by
  have hask : ∀ clock, (Effect.settle (Flow.askTransport (sv.transport.complete request)) :
      Flow σ θ τ Fault Reply) ⟨w.provider, w.transport, clock⟩ =
      ⟨.ok reply, ⟨w.provider, s, clock⟩, []⟩ := by
    intro clock
    simp only [Effect.settle, Flow.askTransport, h]
  -- the trace in the parts that the steps contribute: clock, event, transport, end
  show complete sv request limit w = ⟨_, _, [] ++ ([_] ++ ([] ++ [_]))⟩
  refine bind_run rfl (bind_run rfl ?_)
  refine bind_run (hask _) ?_
  rcases reply with e | _ | text
  · exact failedExchange_run sv _ e _
  · exact failedExchange_run sv _ .timedOut _
  · rw [Reply.kind, closingEvent]
    cases judge .reasons text <;> rfl

/-- An answer that is rejected with some account of it is invalid. -/
theorem Reply.kind_of_error {account : Account} {text : String} {r : Rejection}
    (h : judge account text = .error r) : Reply.kind (.ok (some text)) = .invalid := by
  rw [Reply.kind]
  cases hjudge : judge .reasons text with
  | error _ => rfl
  | ok found =>
    rw [judge_eq_ok_iff.mpr (judge_eq_ok_iff.mp hjudge)] at h
    cases h

/-! ## The loop -/

/-- What a flow adds to the record of exchanges, and which events it has, up to content. -/
structure Flow.Logs (x : Flow σ (θ × List Exchange) τ ε α) (w : World σ (θ × List Exchange) τ)
    (exchanges : List Exchange) (events : List Event) : Prop where
  record : (x w).state.transport.2 = w.transport.2 ++ exchanges
  trace : (x w).trace.map Event.sending = events.map Event.sending

namespace Flow.Logs

variable {x : Flow σ (θ × List Exchange) τ ε α} {f : α → Flow σ (θ × List Exchange) τ ε β}
  {w : World σ (θ × List Exchange) τ} {exchanges : List Exchange} {events : List Event}

/-- A flow without exchanges and events. -/
theorem quiet (hstate : (x w).state.transport = w.transport) (htrace : (x w).trace = []) :
    Logs x w [] [] :=
  ⟨by rw [hstate, List.append_nil], by rw [htrace]⟩

theorem bind_ok {after : List Exchange} {later : List Event} {a : α}
    (hx : Logs x w exchanges events) (ha : (x w).result = .ok a)
    (hf : Logs (f a) (x w).state after later) :
    Logs (x >>= f) w (exchanges ++ after) (events ++ later) := by
  constructor
  · rw [Effect.bind_of_ok ha, hf.record, hx.record, List.append_assoc]
  · rw [Effect.bind_of_ok ha, List.map_append, List.map_append, hx.trace, hf.trace]

/-- What comes after the last exchange without events. -/
theorem bind_ok_quiet {a : α} (hx : Logs x w exchanges events) (ha : (x w).result = .ok a)
    (hf : Logs (f a) (x w).state [] []) : Logs (x >>= f) w exchanges events := by
  have h := hx.bind_ok ha hf
  rwa [List.append_nil, List.append_nil] at h

theorem bind_error {e : ε} (hx : Logs x w exchanges events) (he : (x w).result = .error e) :
    Logs (x >>= f) w exchanges events := by
  have hrun := Effect.bind_of_error (f := f) he
  exact ⟨by rw [hrun]; exact hx.record, by rw [hrun]; exact hx.trace⟩

theorem failingAs {δ : Type} (hx : Logs x w exchanges events) (g : ε → δ) :
    Logs (Effect.failingAs g x) w exchanges events :=
  ⟨hx.record, hx.trace⟩

theorem note {e e' : Event} (h : e.sending = e'.sending)
    (w : World σ (θ × List Exchange) τ) :
    Logs (ε := ε) (Flow.emit e.name e.attributes) w [] [e'] :=
  ⟨(List.append_nil _).symm, congrArg ([·]) h⟩

end Flow.Logs

/-- The kinds of the replies in a record. -/
def kinds (exchanges : List Exchange) : List ReplyKind := exchanges.map fun e ↦ e.reply.kind

/-- One exchange has the events of its outline. -/
theorem complete_logs (sv : Services σ θ τ) (request : Request) (limit : Option Value.Number)
    (w : World σ (θ × List Exchange) τ) :
    ∃ reply : Reply, (complete sv.recording request limit w).result = reply.answer ∧
      (complete sv.recording request limit w).state.clock = sv.clock.after 2 w.clock ∧
      Flow.Logs (complete sv.recording request limit) w [⟨request, reply⟩]
        (exchangeOutline limit (fun i ↦ sv.clock.reading i w.clock) reply.kind) := by
  rcases hreply : sv.transport.complete request w.transport.1 with ⟨reply, s⟩
  have hrecording : sv.recording.transport.complete request w.transport =
      (reply, s, w.transport.2 ++ [⟨request, reply⟩]) := by
    simp only [Services.recording, Transport.recording, hreply]
  have hrun := complete_run hrecording limit
  refine ⟨reply, by rw [hrun], by rw [hrun]; rfl, by rw [hrun], ?_⟩
  have hstarted : (startedEvent limit (.record request)).sending =
      (startedEvent limit blank).sending :=
    sending_startedEvent (by rintro ⟨⟩) limit
  have hclosing := sending_closingEvent (Reply.content_ne_null reply) (Reply.kind reply)
    (sv.clock.reading 0 w.clock) (sv.clock.reading 1 w.clock)
  rw [hrun]
  simp only [exchangeOutline, List.map_cons, List.map_nil]
  rw [hstarted]
  exact congrArg (fun e ↦ [_, e]) hclosing

/-- **The loop has the events of an outline**, and the replies before the last one are texts that
are no programs. -/
theorem converse_logs (account : Account) (sv : Services σ θ τ) (c : Config)
    (offers : List Value) (attempt n : Nat) (messages : List Message)
    (w : World σ (θ × List Exchange) τ) :
    ∃ exchanges, exchanges ≠ [] ∧ (∀ k ∈ (kinds exchanges).dropLast, k = .invalid) ∧
      Flow.Logs (converse account sv.recording c offers attempt n messages) w exchanges
        (outline c.timeout attempt (fun i ↦ sv.clock.reading i w.clock) (kinds exchanges)) := by
  -- the clock of the next turn is two readings further, which is how the outline goes on
  induction n using Nat.strong_induction_on generalizing attempt messages w with
  | h n ih =>
    obtain ⟨reply, hresult, hclock, hlogs⟩ :=
      complete_logs sv (programRequest c offers messages) c.timeout w
    have hturn := hlogs.failingAs GenerationFault.raised
    have hresult := congrArg (Except.mapError GenerationFault.raised) hresult
    have hsingle : ∀ e : Exchange, ∀ k ∈ (kinds [e]).dropLast, k = .invalid :=
      fun e k hk ↦ absurd hk List.not_mem_nil
    rw [converse.eq_def]
    rcases reply with f | _ | text
    · exact ⟨_, List.cons_ne_nil _ _, hsingle _, hturn.bind_error hresult⟩
    · exact ⟨_, List.cons_ne_nil _ _, hsingle _, hturn.bind_error hresult⟩
    cases hjudge : judge account text with
    | ok found =>
      refine ⟨_, List.cons_ne_nil _ _, hsingle _, hturn.bind_ok_quiet hresult ?_⟩
      simp only [hjudge]
      exact .quiet rfl rfl
    | error r =>
      have hinvalid := Reply.kind_of_error hjudge
      cases n with
      | zero =>
        refine ⟨_, List.cons_ne_nil _ _, hsingle _, hturn.bind_ok_quiet hresult ?_⟩
        simp only [hjudge]
        exact .quiet rfl rfl
      | succ n =>
        obtain ⟨exchanges, hne, hshape, hrest⟩ := ih n n.lt_succ_self (attempt + 1)
          (messages ++ repairMessages text r) (complete sv.recording
            (programRequest c offers messages) c.timeout w).state
        obtain ⟨e, exchanges, rfl⟩ := List.exists_cons_of_ne_nil hne
        have hretry : (retryEvent attempt (.str (summary r))).sending =
            (retryEvent attempt blank).sending :=
          sending_retryEvent (by rintro ⟨⟩) attempt
        refine ⟨_ :: e :: exchanges, List.cons_ne_nil _ _, ?_, hturn.bind_ok hresult ?_⟩
        · exact List.forall_mem_cons.mpr ⟨hinvalid, hshape⟩
        · simp only [hjudge]
          rw [hclock] at hrest
          exact (Flow.Logs.note hretry _).bind_ok rfl hrest

/-! ## Before and after the loop -/

namespace Flow

/-- A flow that has no part in a conversation: it leaves the transport and the clock as they are,
and there are no events. -/
structure Silent (x : Flow σ θ τ ε α) : Prop where
  transport : ∀ w, (x w).state.transport = w.transport
  clock : ∀ w, (x w).state.clock = w.clock
  trace : ∀ w, (x w).trace = []

theorem Silent.failingAs {δ : Type} {x : Flow σ θ τ ε α} (hx : Silent x) (g : ε → δ) :
    Silent (Effect.failingAs g x) :=
  ⟨hx.transport, hx.clock, hx.trace⟩

theorem Silent.bind {x : Flow σ θ τ ε α} {f : α → Flow σ θ τ ε β} (hx : Silent x)
    (hf : ∀ a, Silent (f a)) : Silent (x >>= f) := by
  have hrun : ∀ w, ((x >>= f) w).state.transport = w.transport ∧
      ((x >>= f) w).state.clock = w.clock ∧ ((x >>= f) w).trace = [] := by
    intro w
    cases hresult : (x w).result with
    | error e =>
      rw [Effect.bind_of_error hresult]
      exact ⟨hx.transport w, hx.clock w, hx.trace w⟩
    | ok a =>
      rw [Effect.bind_of_ok hresult, hx.trace, (hf a).trace]
      exact ⟨((hf a).transport _).trans (hx.transport w), ((hf a).clock _).trans (hx.clock w), rfl⟩
  exact ⟨fun w ↦ (hrun w).1, fun w ↦ (hrun w).2.1, fun w ↦ (hrun w).2.2⟩

theorem silent_done (a : α) : Silent (Effect.done a : Flow σ θ τ ε α) :=
  ⟨fun _ ↦ rfl, fun _ ↦ rfl, fun _ ↦ rfl⟩

theorem silent_ofExcept (r : Except ε α) : Silent (Effect.ofExcept r : Flow σ θ τ ε α) := by
  cases r <;> exact ⟨fun _ ↦ rfl, fun _ ↦ rfl, fun _ ↦ rfl⟩

theorem silent_askProvider (x : Attempt σ ε α) : Silent (askProvider x : Flow σ θ τ ε α) :=
  ⟨fun _ ↦ rfl, fun _ ↦ rfl, fun _ ↦ rfl⟩

/-- In whatever world a flow starts, its events have an outline, and the replies before the last one
are texts that are no programs. -/
def Outlined (c : Config) (clock : Clock Float τ) (x : Flow σ (θ × List Exchange) τ ε α) : Prop :=
  ∀ w, ∃ exchanges, (∀ k ∈ (kinds exchanges).dropLast, k = .invalid) ∧
    Logs x w exchanges
      (outline c.timeout 0 (fun i ↦ clock.reading i w.clock) (kinds exchanges))

section

variable {c : Config} {clock : Clock Float τ} {x : Flow σ (θ × List Exchange) τ ε α}
  {f : α → Flow σ (θ × List Exchange) τ ε β}

theorem Silent.bind_outlined (hx : Silent x) (hf : ∀ a, Outlined c clock (f a)) :
    Outlined c clock (x >>= f) := by
  intro w
  have hquiet : Logs x w [] [] := .quiet (hx.transport w) (hx.trace w)
  cases hresult : (x w).result with
  | error e => exact ⟨[], fun k hk ↦ absurd hk List.not_mem_nil, hquiet.bind_error hresult⟩
  | ok a =>
    obtain ⟨exchanges, hshape, hlogs⟩ := hf a (x w).state
    rw [hx.clock] at hlogs
    exact ⟨exchanges, hshape, hquiet.bind_ok hresult hlogs⟩

theorem Outlined.bind_silent (hx : Outlined c clock x) (hf : ∀ a, Silent (f a)) :
    Outlined c clock (x >>= f) := by
  intro w
  obtain ⟨exchanges, hshape, hlogs⟩ := hx w
  refine ⟨exchanges, hshape, ?_⟩
  cases hresult : (x w).result with
  | error e => exact hlogs.bind_error hresult
  | ok a => exact hlogs.bind_ok_quiet hresult (.quiet ((hf a).transport _) ((hf a).trace _))

end

end Flow

theorem generate_outlined (g : Generator σ θ τ) (query : String) :
    Flow.Outlined g.config g.services.clock (g.recording.generate query) := by
  refine ((Flow.silent_askProvider _).failingAs _).bind_outlined fun tools ↦ ?_
  refine (Flow.silent_ofExcept _).bind_outlined fun offers ↦ ?_
  refine Flow.Outlined.bind_silent (fun w ↦ ?_) fun found ↦ ?_
  · obtain ⟨exchanges, -, hshape, hlogs⟩ := converse_logs g.account g.services g.config offers 0
      g.config.retries (openingMessages g.history query) w
    exact ⟨exchanges, hshape, hlogs⟩
  · exact (Flow.silent_ofExcept _).bind fun t ↦ Flow.silent_done _

theorem answer_outlined (g : Generator σ θ τ) (query : String) :
    Flow.Outlined g.config g.services.clock (g.recording.answer query .tree) := by
  refine Flow.Outlined.bind_silent (fun w ↦ ?_) fun found ↦ Flow.silent_done _
  obtain ⟨exchanges, hshape, hlogs⟩ := generate_outlined g query w
  exact ⟨exchanges, hshape, hlogs.failingAs _⟩

/-- With a record or without, the events are the same. -/
theorem trace_recording (g : Generator σ θ τ) (query : String) (kind : ResponseKind)
    (w : World σ θ τ) :
    (g.recording.answer query kind (w.recording [])).trace = (g.answer query kind w).trace := by
  rcases generate_records g query w with ⟨f, -, hgenerate⟩ |
    ⟨offers, rejected, exchanges, outcome, -, hgenerate, -⟩
  · obtain ⟨s, h⟩ := answer_records hgenerate kind
    rw [h.record]
  · obtain ⟨s, h⟩ := answer_records hgenerate kind
    rw [h.record]

/-! ## Sending an outline out -/

/-- An event that is sent out under its name, unless a number of it is too long to be written. -/
def Sendable (e : Event) : Prop :=
  ∃ sent, emit false e = (if e.isLong false then .error .badValue else .ok sent) ∧
    e.name = sent.2.name

theorem sendable_of_data {e : Event}
    (h : ∀ a ∈ e.attributes, a.1 ∉ reservedNames ∧ Data (fun _ ↦ True) a.2) : Sendable e := by
  have hrecord : Data (fun _ ↦ True) (.record e.attributes) := by
    refine .map (fun _ _ ↦ trivial) fun f hf ↦ ?_
    obtain ⟨a, ha, rfl⟩ := List.mem_map.mp hf
    exact (h a ha).2
  obtain ⟨line, hemit, -⟩ := exists_emit_eq (fun a ha ↦ (h a ha).1) hrecord false
  exact ⟨_, hemit, rfl⟩

theorem data_numberOrNull (limit : Option Value.Number) :
    Data (fun _ ↦ True) (numberOrNull limit) := by
  rcases limit with _ | n | x
  · exact .null
  · exact .int n
  · exact .float x

theorem sendable_startedEvent (limit : Option Value.Number) :
    Sendable (startedEvent limit blank) := by
  refine sendable_of_data (List.forall_mem_cons.mpr ⟨⟨by simp [reservedNames], .str _⟩, ?_⟩)
  exact List.forall_mem_singleton.mpr ⟨by simp [reservedNames], data_numberOrNull limit⟩

theorem sendable_closingEvent (k : ReplyKind) (started finished : Float) :
    Sendable (closingEvent k started finished blank) := by
  refine sendable_of_data (List.forall_mem_cons.mpr ⟨⟨by simp [reservedNames], .float _⟩, ?_⟩)
  cases k with
  | valid => exact List.forall_mem_singleton.mpr ⟨by simp [reservedNames], .str _⟩
  | invalid => exact List.forall_mem_singleton.mpr ⟨by simp [reservedNames], .str _⟩
  | failed => exact List.forall_mem_singleton.mpr ⟨by simp [reservedNames], .str _⟩
  | cancelled => exact fun a ha ↦ absurd ha List.not_mem_nil

theorem sendable_retryEvent (attempt : Nat) : Sendable (retryEvent attempt blank) := by
  refine sendable_of_data (List.forall_mem_cons.mpr ⟨⟨by simp [reservedNames], .int _⟩, ?_⟩)
  exact List.forall_mem_singleton.mpr ⟨by simp [reservedNames], .str _⟩

theorem sendable_outline (limit : Option Value.Number) (attempt : Nat) (reading : Nat → Float)
    (ks : List ReplyKind) : ∀ e ∈ outline limit attempt reading ks, Sendable e := by
  have hexchange : ∀ reading k, ∀ e ∈ exchangeOutline limit reading k, Sendable e := by
    intro reading k
    exact List.forall_mem_cons.mpr ⟨sendable_startedEvent limit,
      List.forall_mem_singleton.mpr (sendable_closingEvent k _ _)⟩
  fun_induction outline limit attempt reading ks with
  | case1 => exact fun e he ↦ absurd he List.not_mem_nil
  | case2 _ reading k => exact hexchange reading k
  | case3 attempt reading k k' ks ih =>
    exact List.forall_mem_append.mpr ⟨hexchange reading k,
      List.forall_mem_cons.mpr ⟨sendable_retryEvent attempt, ih⟩⟩

theorem isLong_of_le {m n : Nat} (h : m ≤ n) (hn : Decimal.isLong n = false) :
    Decimal.isLong m = false :=
  isLong_eq_false_iff.mpr (h.trans_lt (isLong_eq_false_iff.mp hn))

/-- The metadata of a conversation is short if its time limit and the number of its replies are. -/
theorem isLong_outline {limit : Option Value.Number} (hlimit : (numberOrNull limit).hasLong = false)
    {attempt : Nat} (reading : Nat → Float) {ks : List ReplyKind}
    (hcount : Decimal.isLong (attempt + ks.length : Nat) = false) :
    ∀ e ∈ outline limit attempt reading ks, e.isLong false = false := by
  have hshort : hasLongKey false (numberOrNull limit) = false ∧
      (redact false (numberOrNull limit)).hasLong = false := by
    rcases limit with _ | n | x
    · exact ⟨rfl, rfl⟩
    · exact ⟨rfl, hlimit⟩
    · exact ⟨rfl, rfl⟩
  have hstarted : (startedEvent limit blank).isLong false = false :=
    isLong_eq_false (List.forall_mem_cons.mpr ⟨⟨rfl, rfl⟩, List.forall_mem_singleton.mpr hshort⟩)
  have hclosing : ∀ k x y, (closingEvent k x y blank).isLong false = false := by
    intro k x y
    refine isLong_eq_false (List.forall_mem_cons.mpr ⟨⟨rfl, rfl⟩, fun a ha ↦ ?_⟩)
    cases k with
    | cancelled => exact absurd ha List.not_mem_nil
    | _ =>
      obtain rfl := List.mem_singleton.mp ha
      exact ⟨rfl, rfl⟩
  fun_induction outline limit attempt reading ks with
  | case1 => exact fun e he ↦ absurd he List.not_mem_nil
  | case2 =>
    exact List.forall_mem_cons.mpr ⟨hstarted, List.forall_mem_singleton.mpr (hclosing _ _ _)⟩
  | case3 attempt reading k k' ks ih =>
    simp only [List.length_cons] at hcount ih
    have hnext : Decimal.isLong (attempt + 1 : Nat) = false := isLong_of_le (by omega) hcount
    have hretry : (retryEvent attempt blank).isLong false = false :=
      isLong_eq_false (List.forall_mem_cons.mpr ⟨⟨rfl, hnext⟩,
        List.forall_mem_singleton.mpr ⟨rfl, rfl⟩⟩)
    exact List.forall_mem_cons.mpr ⟨hstarted, List.forall_mem_cons.mpr ⟨hclosing _ _ _,
      List.forall_mem_cons.mpr ⟨hretry, ih (isLong_of_le (by omega) hcount)⟩⟩⟩

/-- The names of the events of a conversation: two for each reply, and one between a reply and the
next request. -/
def eventNames (ks : List ReplyKind) : List String :=
  List.intercalate ["model.response.validation_retry"]
    (ks.map fun k ↦ ["model.request.started", k.closing])

theorem eventNames_cons_cons (k k' : ReplyKind) (ks : List ReplyKind) :
    eventNames (k :: k' :: ks) =
      "model.request.started" :: k.closing :: "model.response.validation_retry" ::
        eventNames (k' :: ks) := rfl

theorem map_name_outline (limit : Option Value.Number) (attempt : Nat) (reading : Nat → Float)
    (ks : List ReplyKind) : (outline limit attempt reading ks).map Event.name = eventNames ks := by
  fun_induction outline limit attempt reading ks with
  | case1 => rfl
  | case2 => rfl
  | case3 attempt reading k k' ks ih =>
    rw [List.map_append, List.map_cons, ih, eventNames_cons_cons]
    rfl

/-- Where only the last reply may be something else than a text that is no program, nothing comes
after a failure. -/
theorem eq_nil_of_eventNames_eq {ks : List ReplyKind} (hshape : ∀ k ∈ ks.dropLast, k = .invalid)
    {before after : List String}
    (h : eventNames ks = before ++ "model.request.failed" :: after) : after = [] := by
  induction ks generalizing before with
  | nil => simp [eventNames] at h
  | cons k ks ih =>
    cases ks with
    | nil =>
      have h : ["model.request.started", k.closing] = before ++ "model.request.failed" :: after := h
      have hlength := congrArg List.length h
      rcases before with _ | ⟨first, before⟩
      · simp at h
      · simp at hlength
        exact List.length_eq_zero_iff.mp (by omega)
    | cons k' ks =>
      obtain ⟨rfl, hrest⟩ := List.forall_mem_cons.mp hshape
      rw [eventNames_cons_cons] at h
      -- the three names of the first attempt are none of a failure, so they are all before it
      rcases before with _ | ⟨_, _ | ⟨_, _ | ⟨_, before⟩⟩⟩
      · simp at h
      · simp [ReplyKind.closing] at h
      · simp [ReplyKind.closing] at h
      · simp only [List.cons_append, List.cons.injEq] at h
        exact ih hrest h.2.2.2

theorem mapM_emit_eq (es : List Event) :
    es.mapM (emit false) = (es.map Event.sending).mapM Prod.fst := by
  rw [List.mapM_map]
  rfl

theorem any_isLong_eq (es : List Event) :
    es.any (Event.isLong false) = (es.map Event.sending).any Prod.snd := by
  rw [List.any_map]
  rfl

/-- Events that can be sent out are sent out one after another under their names, unless a number is
too long. -/
theorem exists_mapM_emit {es : List Event} (h : ∀ e ∈ es, Sendable e) :
    ∃ sent, es.mapM (emit false) =
        (if es.any (Event.isLong false) then .error .badValue else .ok sent) ∧
      sent.map (fun s ↦ s.2.name) = es.map Event.name := by
  induction es with
  | nil => exact ⟨[], rfl, rfl⟩
  | cons e es ih =>
    obtain ⟨⟨s, hs, hname⟩, hes⟩ := List.forall_mem_cons.mp h
    obtain ⟨sent, hsent, hnames⟩ := ih hes
    refine ⟨s :: sent, ?_, by rw [List.map_cons, List.map_cons, hname, hnames]⟩
    rw [List.mapM_cons, hs, hsent, List.any_cons]
    cases e.isLong false with
    | true => rfl
    | false => cases es.any (Event.isLong false) <;> rfl

/-- A run without content sends out the outline of its events. -/
theorem trace_outlined (g : Generator σ θ τ) (query : String) (w : World σ θ τ) :
    (g.answer query .tree w).trace.map Event.sending =
        (outline g.config.timeout 0 (fun i ↦ g.services.clock.reading i w.clock)
          (kinds (g.exchanges query .tree w))).map Event.sending ∧
      ∀ k ∈ (kinds (g.exchanges query .tree w)).dropLast, k = .invalid := by
  obtain ⟨exchanges, hshape, hlogs⟩ := answer_outlined g query (w.recording [])
  have hexchanges : g.exchanges query .tree w = exchanges := hlogs.record
  rw [hexchanges, ← trace_recording]
  exact ⟨hlogs.trace, hshape⟩

/-- **Events carry metadata only.** Two runs with the same configuration and the same readings of
the clock, whose replies are of the same kinds one by one, send out the same lines and records,
whatever was asked, shown and answered. A number among the metadata that is too long to be written
would be in the way of that, but there is none where the time limit is short and so is the number of
replies. The names of the events follow from the kinds alone: a start and an end for each reply,
and one more between a reply and the next request. Only after a text that is no program there is a
next request, and nothing comes after a failure. -/
theorem events_of_kinds {σ' θ' τ' : Type} (g : Generator σ θ τ) (g' : Generator σ' θ' τ')
    (query query' : String) (w : World σ θ τ) (w' : World σ' θ' τ') (hconfig : g.config = g'.config)
    (hclock : ∀ i, g.services.clock.reading i w.clock = g'.services.clock.reading i w'.clock)
    (hkinds : kinds (g.exchanges query .tree w) =
      kinds (g'.exchanges query' .tree w')) :
    ∃ sent, (g.answer query .tree w).trace.mapM (emit false) =
        (if (g.answer query .tree w).trace.any (Event.isLong false) then .error .badValue
          else .ok sent) ∧
      (g'.answer query' .tree w').trace.mapM (emit false) =
        (g.answer query .tree w).trace.mapM (emit false) ∧
      ((numberOrNull g.config.timeout).hasLong = false →
        Decimal.isLong (kinds (g.exchanges query .tree w)).length = false →
        (g.answer query .tree w).trace.any (Event.isLong false) = false) ∧
      sent.map (fun s ↦ s.2.name) = eventNames (kinds (g.exchanges query .tree w)) ∧
      (∀ k ∈ (kinds (g.exchanges query .tree w)).dropLast, k = .invalid) ∧
      ∀ before after, sent.map (fun s ↦ s.2.name) = before ++ "model.request.failed" :: after →
        after = [] := by
  obtain ⟨htrace, hshape⟩ := trace_outlined g query w
  obtain ⟨htrace', -⟩ := trace_outlined g' query' w'
  have hreadings : (fun i ↦ g.services.clock.reading i w.clock) =
      fun i ↦ g'.services.clock.reading i w'.clock := funext hclock
  obtain ⟨sent, hsent, hnames⟩ := exists_mapM_emit (sendable_outline g.config.timeout 0
    (fun i ↦ g.services.clock.reading i w.clock) (kinds (g.exchanges query .tree w)))
  rw [map_name_outline] at hnames
  refine ⟨sent, ?_, ?_, fun hlimit hcount ↦ ?_, hnames, hshape, fun before after h ↦ ?_⟩
  · rw [mapM_emit_eq, any_isLong_eq, htrace, ← mapM_emit_eq, ← any_isLong_eq, hsent]
  · rw [mapM_emit_eq, mapM_emit_eq, htrace, htrace', hconfig, hreadings, hkinds]
  · rw [any_isLong_eq, htrace, ← any_isLong_eq]
    rw [← Nat.zero_add (kinds _).length] at hcount
    have hshort := isLong_outline hlimit
      (fun i ↦ g.services.clock.reading i w.clock) hcount
    exact List.any_eq_false.mpr fun e he ↦ Bool.eq_false_iff.mp (hshort e he)
  · rw [hnames] at h
    exact eq_nil_of_eventNames_eq hshape h

/-- A generator with prepared answers, no tools and room for one repair. -/
def rehearsed (history : List Message) :
    Generator (Option (Registry Value)) (Rehearsal PreparedAnswer) (List Float) where
  services := ⟨Toolbox.provider { tools := [] }, preparedTransport, .prepared 0.0⟩
  config := { model := "small", retries := 1 }
  account := .reasons
  history := history

/-- A world in which answers are given one after another. -/
def answering (answers : List PreparedAnswer) :
    World (Option (Registry Value)) (Rehearsal PreparedAnswer) (List Float) :=
  ⟨none, { coming := answers }, [0.5, 1.5, 2.5, 4.5]⟩

/-- The text of a program that is one leaf. -/
def leafText (name : String) : String :=
  "\x7b\"type\": \"program\", \"mode\": \"single\", \"body\": " ++
  "[\x7b\"type\": \"value\", \"name\": \"" ++ name ++ "\", \"value\": true\x7d]\x7d"

theorem events_of_kinds_rehearsed :
    kinds ((rehearsed []).exchanges "Is it so?" .tree
      (answering [.text "Yes.", .text (leafText "yes")])) = [.invalid, .valid] ∧
    ∃ sent, ((rehearsed []).answer "Is it so?" .tree
        (answering [.text "Yes.", .text (leafText "yes")])).trace.mapM (emit false) = .ok sent ∧
      ((rehearsed [⟨"user", "Hello"⟩]).answer "And now?" .tree
        (answering [.text "[]", .text (leafText "now")])).trace.mapM (emit false) = .ok sent ∧
      sent.map (fun s ↦ s.2.name) =
        ["model.request.started", "model.request.completed", "model.response.validation_retry",
          "model.request.started", "model.request.completed"] := by
  have hkinds : kinds ((rehearsed []).exchanges "Is it so?" .tree
      (answering [.text "Yes.", .text (leafText "yes")])) = [.invalid, .valid] := by
    decide +kernel
  have hkinds' : kinds ((rehearsed [⟨"user", "Hello"⟩]).exchanges "And now?" .tree
      (answering [.text "[]", .text (leafText "now")])) = [.invalid, .valid] := by
    decide +kernel
  obtain ⟨sent, htrace, htrace', hshort, hnames, -, -⟩ := events_of_kinds (rehearsed [])
    (rehearsed [⟨"user", "Hello"⟩]) "Is it so?" "And now?"
    (answering [.text "Yes.", .text (leafText "yes")])
    (answering [.text "[]", .text (leafText "now")]) rfl (fun _ ↦ rfl) (hkinds.trans hkinds'.symm)
  rw [hkinds] at hshort hnames
  rw [hshort rfl (by decide +kernel)] at htrace
  exact ⟨hkinds, sent, htrace, htrace'.trans htrace, hnames⟩

end CallTree
