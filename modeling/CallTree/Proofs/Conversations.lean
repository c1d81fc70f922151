import CallTree.Model.Response
import CallTree.Proofs.Effects

/-!
# Conversations with a model

A model is asked for a program, and asked again when its answer is no program. What was sent to it
cannot be read off the response, so the transport is replaced by one that keeps a record of its
exchanges and otherwise does the same (`Generator.recording`). `Flow.Records` says that a flow and
its recorded copy do not differ in anything but the record, and what was recorded.

`Conversation` says what a record has to look like, without the loop: which requests there are, what
each of them holds, and which reply ends it. `converse_conversation` shows this of the loop, by
induction on the number of repairs that are left. `answer_conversation` puts the choice of tools
before it and the use of the program after it.
-/

namespace CallTree

variable {σ θ τ ε α β : Type}

/-! ## Records of exchanges -/

/-- What comes back for a request: an answer, nothing in time, or a failure. -/
abbrev Reply := Except Fault (Option String)

/-- A request and what came back for it. -/
structure Exchange where
  request : Request
  reply : Reply

/-- A transport that keeps a record of its exchanges. -/
def Transport.recording (t : Transport θ) : Transport (θ × List Exchange) where
  complete request := fun (s, record) ↦
    let (reply, s) := t.complete request s
    (reply, s, record ++ [⟨request, reply⟩])
  stream request := fun (s, record) ↦
    let (delivery, s) := t.stream request s
    (delivery, s, record)

/-- The same services with a transport that keeps a record. -/
def Services.recording (sv : Services σ θ τ) : Services σ (θ × List Exchange) τ where
  provider := sv.provider
  transport := sv.transport.recording
  clock := sv.clock

/-- A generator with such services. -/
def Generator.recording (g : Generator σ θ τ) : Generator σ (θ × List Exchange) τ where
  services := g.services.recording
  config := g.config
  account := g.account
  history := g.history
  select := g.select
  prune := g.prune

/-- A world in which some exchanges were recorded. -/
def World.recording (w : World σ θ τ) (record : List Exchange) : World σ (θ × List Exchange) τ :=
  ⟨w.provider, (w.transport, record), w.clock⟩

namespace Flow

/-- What is known of a flow that starts in a world: its result, the state it leaves the provider in,
and that with a recording transport it does the same and adds some exchanges to the record. -/
structure Records (x' : Flow σ (θ × List Exchange) τ ε α) (x : Flow σ θ τ ε α) (w : World σ θ τ)
    (exchanges : List Exchange) (result : Except ε α) (s : σ) : Prop where
  result : (x w).result = result
  provider : (x w).state.provider = s
  record : ∀ record, x' (w.recording record) =
    ⟨(x w).result, (x w).state.recording (record ++ exchanges), (x w).trace⟩

namespace Records

variable {x' : Flow σ (θ × List Exchange) τ ε α} {x : Flow σ θ τ ε α}
  {f' : α → Flow σ (θ × List Exchange) τ ε β} {f : α → Flow σ θ τ ε β} {w : World σ θ τ}
  {exchanges : List Exchange} {s : σ}

/-- A flow that makes no exchange. -/
theorem quiet {r : Except ε α} (hr : (x w).result = r) (hs : (x w).state.provider = s)
    (h : ∀ record, x' (w.recording record) =
      ⟨(x w).result, (x w).state.recording record, (x w).trace⟩) : Records x' x w [] r s :=
  ⟨hr, hs, fun record ↦ by rw [List.append_nil, h record]⟩

theorem done (a : α) (hw : w.provider = s) :
    Records (ε := ε) (Effect.done a) (Effect.done a) w [] (.ok a) s :=
  quiet rfl hw fun _ ↦ rfl

theorem fail (e : ε) (hw : w.provider = s) :
    Records (α := α) (Effect.fail e) (Effect.fail e) w [] (.error e) s :=
  quiet rfl hw fun _ ↦ rfl

theorem emit (name : String) (attributes : List (String × Value)) (hw : w.provider = s) :
    Records (ε := ε) (Flow.emit name attributes) (Flow.emit name attributes) w [] (.ok ()) s :=
  quiet rfl hw fun _ ↦ rfl

theorem now (sv : Services σ θ τ) (hw : w.provider = s) :
    Records (ε := ε) (Flow.now sv.recording) (Flow.now sv) w [] (.ok (sv.clock.now w.clock).1) s :=
  quiet rfl hw fun _ ↦ rfl

theorem bind_ok {after : List Exchange} {a : α} {r : Except ε β} {s' : σ}
    (hx : Records x' x w exchanges (.ok a) s)
    (hf : (x w).state.provider = s → Records (f' a) (f a) (x w).state after r s') :
    Records (x' >>= f') (x >>= f) w (exchanges ++ after) r s' := by
  have hf := hf hx.provider
  have hrun := Effect.bind_of_ok (f := f) hx.result
  refine ⟨by rw [hrun]; exact hf.result, by rw [hrun]; exact hf.provider, fun record ↦ ?_⟩
  have hrun' := hx.record record
  rw [hrun, Effect.bind_of_ok (a := a) (by rw [hrun', hx.result]), hrun']
  simp only [hf.record, List.append_assoc]

/-- What comes after the last exchange. -/
theorem bind_ok_nil {a : α} {r : Except ε β} {s' : σ} (hx : Records x' x w exchanges (.ok a) s)
    (hf : (x w).state.provider = s → Records (f' a) (f a) (x w).state [] r s') :
    Records (x' >>= f') (x >>= f) w exchanges r s' := by
  rw [← List.append_nil exchanges]
  exact hx.bind_ok hf

theorem bind_error {e : ε} (hx : Records x' x w exchanges (.error e) s) :
    Records (x' >>= f') (x >>= f) w exchanges (.error e) s := by
  have hrun := Effect.bind_of_error (f := f) hx.result
  refine ⟨by rw [hrun], by rw [hrun]; exact hx.provider, fun record ↦ ?_⟩
  have hrun' := hx.record record
  rw [hrun, Effect.bind_of_error (e := e) (by rw [hrun', hx.result]), hrun']

theorem failingAs {δ : Type} {r : Except ε α} (hx : Records x' x w exchanges r s) (g : ε → δ) :
    Records (Effect.failingAs g x') (Effect.failingAs g x) w exchanges (r.mapError g) s :=
  ⟨congrArg (Except.mapError g) hx.result, hx.provider, fun record ↦ by
    rw [Effect.failingAs, hx.record record, Effect.failingAs]⟩

end Records

end Flow

/-- The answer that a reply brings, or the failure. -/
def Reply.answer : Reply → Except Fault String
  | .ok (some text) => .ok text
  | .ok none => .error .timedOut
  | .error e => .error e

theorem failedExchange_records (sv : Services σ θ τ) (topic : String) (started : Float)
    (details : List (String × Value)) (e : Fault) {w : World σ θ τ} {s : σ}
    (hw : w.provider = s) :
    Flow.Records (failedExchange (α := α) sv.recording topic started details e)
      (failedExchange sv topic started details e) w [] (.error e) s := by
  cases e <;> exact .quiet rfl hw fun _ ↦ rfl

/-- An exchange gives what the reply brings. -/
theorem complete_records (sv : Services σ θ τ) (request : Request) (limit : Option Value.Number)
    {w : World σ θ τ} {s : σ} (hw : w.provider = s) :
    Flow.Records (complete sv.recording request limit) (complete sv request limit) w
      [⟨request, (sv.transport.complete request w.transport).1⟩]
      (Reply.answer (sv.transport.complete request w.transport).1) s := by
  have hask : ∀ clock, Flow.Records (ε := Fault)
      (Effect.settle (Flow.askTransport (sv.recording.transport.complete request)))
      (Effect.settle (Flow.askTransport (sv.transport.complete request)))
      ⟨w.provider, w.transport, clock⟩
      [⟨request, (sv.transport.complete request w.transport).1⟩]
      (.ok (sv.transport.complete request w.transport).1) s :=
    fun clock ↦ ⟨rfl, hw, fun _ ↦ rfl⟩
  refine (Flow.Records.now sv hw).bind_ok fun hw ↦ (Flow.Records.emit _ _ hw).bind_ok fun _ ↦ ?_
  -- neither the clock nor the event has touched the transport
  show Flow.Records _ _ ⟨w.provider, w.transport, (sv.clock.now w.clock).2⟩ ([_] ++ []) _ _
  rcases hreply : (sv.transport.complete request w.transport).1 with e | _ | text
  · rw [hreply] at hask
    exact (hask _).bind_ok fun hw ↦ failedExchange_records sv _ _ _ _ hw
  · rw [hreply] at hask
    exact (hask _).bind_ok fun hw ↦ failedExchange_records sv _ _ _ _ hw
  · rw [hreply] at hask
    exact (hask _).bind_ok fun hw ↦ (Flow.Records.now sv hw).bind_ok fun hw ↦
      (Flow.Records.emit _ _ hw).bind_ok fun hw ↦ .done text hw

/-! ## Answers -/

/-- An answer that is no program, with what is wrong: it cannot be read, what it holds is no
mapping, or the mapping is no program and some account is given of that. -/
inductive Invalid (account : Account) : String → Rejection → Prop where
  | notJson {text : String} {f : Json.ReadFault} (h : Json.read text = .error f) :
      Invalid account text (.notJson f text)
  | notMapping {text : String} {v : Value} (h : Json.read text = .ok v) (hv : ∀ es, v ≠ .map es) :
      Invalid account text .notMapping
  | notProgram {text : String} {es : List (Value × Value)} {f : ParseFault}
      (h : Json.read text = .ok (.map es)) (hp : parse (.map es) = .error f) :
      Invalid account text (.notProgram ⟨f, account (.map es) f⟩)

/-- An answer that is a program, with the mapping that it holds. -/
structure Valid (text : String) (v : Value) (t : Tree) : Prop where
  read : Json.read text = .ok v
  mapping : ∃ es, v = .map es
  parsed : parse v = .ok t

theorem isMapping_iff {v : Value} : v.isMapping = true ↔ ∃ es, v = .map es := by
  cases v <;> simp [Value.isMapping]

/-- The judgement on an answer says whether it is a program. -/
theorem judge_cases (account : Account) (text : String) :
    (∃ v t, judge account text = .ok (v, t) ∧ Valid text v t) ∨
      ∃ r, judge account text = .error r ∧ Invalid account text r := by
  rw [judge]
  cases hread : Json.read text with
  | error f => exact Or.inr ⟨_, rfl, .notJson hread⟩
  | ok v =>
    by_cases hmap : v.isMapping = true
    · obtain ⟨es, rfl⟩ := isMapping_iff.mp hmap
      cases hparse : parse (.map es) with
      | error f =>
        refine Or.inr ⟨_, ?_, .notProgram hread hparse⟩
        simp only [parseOrRefuse, hparse]
        rfl
      | ok t =>
        refine Or.inl ⟨_, t, ?_, hread, ⟨es, rfl⟩, hparse⟩
        simp only [parseOrRefuse, hparse]
        rfl
    · refine Or.inr ⟨.notMapping, if_neg hmap, .notMapping hread fun es hes ↦ ?_⟩
      exact hmap (isMapping_iff.mpr ⟨es, hes⟩)

/-- Whether an answer is a program does not depend on the account that is given of it. -/
theorem judge_eq_ok_iff {account : Account} {text : String} {v : Value} {t : Tree} :
    judge account text = .ok (v, t) ↔ Valid text v t := by
  constructor
  · intro h
    obtain ⟨v', t', hjudge, hvalid⟩ | ⟨r, hjudge, -⟩ := judge_cases account text
    · obtain ⟨rfl, rfl⟩ := Prod.mk.inj (Except.ok.inj (hjudge.symm.trans h))
      exact hvalid
    · rw [hjudge] at h
      cases h
  · intro h
    obtain ⟨es, rfl⟩ := h.mapping
    rw [judge]
    simp only [h.read, parseOrRefuse, h.parsed]
    rfl

/-! ## What a conversation is -/

/-- How a conversation ends with the reply to the last request, after a number of answers was sent
back: with a program, with a failure of the transport, or with an answer that is no program when
there are no repairs left. -/
inductive Ending (account : Account) (budget count : Nat) :
    Reply → Except GenerationFault (Value × Tree) → Prop where
  | valid {text : String} {v : Value} {t : Tree} (h : Valid text v t) :
      Ending account budget count (.ok (some text)) (.ok (v, t))
  | failed (f : Fault) : Ending account budget count (.error f) (.error (.raised f))
  | timedOut : Ending account budget count (.ok none) (.error (.raised .timedOut))
  | exhausted {text : String} {r : Rejection} (h : Invalid account text r)
      (hcount : count = budget) :
      Ending account budget count (.ok (some text)) (.error (.rejected r))

/-- An exchange asks for a program with some messages. -/
def Exchange.Asks (e : Exchange) (c : Config) (offers : List Value) (messages : List Message) :
    Prop :=
  e.request = programRequest c offers messages ∧
    e.request.lookup "messages" = some (.list (messages.map Message.toValue))

/-- A conversation that begins with some messages and has room for a number of repairs. The answers
that were sent back are all no programs, and each of them is followed by what is wrong with it in
all later requests. The reply to the last request ends the conversation. -/
structure Conversation (account : Account) (c : Config) (offers : List Value) (budget : Nat)
    (opening : List Message) (rejected : List (String × Rejection)) (exchanges : List Exchange)
    (outcome : Except GenerationFault (Value × Tree)) : Prop where
  invalid : ∀ a ∈ rejected, Invalid account a.1 a.2
  bounded : rejected.length ≤ budget
  asked : ∀ (i : Nat) (e : Exchange), exchanges[i]? = some e → e.Asks c offers
    (opening ++ (rejected.take i).flatMap fun a ↦ [⟨"assistant", a.1⟩, ⟨"user",
      "The JSON AST failed validation. Return a corrected, complete program JSON object only. " ++
      "Validation error: " ++ wording a.2⟩])
  ended : ∃ reply, exchanges.map Exchange.reply = rejected.map (fun a ↦ .ok (some a.1)) ++ [reply] ∧
    Ending account budget rejected.length reply outcome

theorem asks_programRequest (c : Config) (offers : List Value) (messages : List Message)
    (reply : Reply) :
    Exchange.Asks ⟨programRequest c offers messages, reply⟩ c offers messages :=
  ⟨rfl, rfl⟩

section

variable {account : Account} {c : Config} {offers : List Value} {budget : Nat}
  {opening : List Message} {rejected : List (String × Rejection)} {exchanges : List Exchange}
  {e : Exchange} {outcome : Except GenerationFault (Value × Tree)}

theorem Ending.succ {count : Nat} {reply : Reply} (h : Ending account budget count reply outcome) :
    Ending account (budget + 1) (count + 1) reply outcome := by
  cases h with
  | valid h => exact .valid h
  | failed f => exact .failed f
  | timedOut => exact .timedOut
  | exhausted h hcount => exact .exhausted h (congrArg (· + 1) hcount)

/-- A conversation of one exchange. -/
theorem Conversation.single (he : e.Asks c offers opening)
    (hend : Ending account budget 0 e.reply outcome) :
    Conversation account c offers budget opening [] [e] outcome where
  invalid a ha := absurd ha List.not_mem_nil
  bounded := Nat.zero_le _
  asked i e' hi := by
    obtain ⟨rfl, rfl⟩ : i = 0 ∧ e = e' := by
      cases i with
      | zero => exact ⟨rfl, Option.some.inj hi⟩
      | succ i => cases hi
    rwa [List.take_nil, List.flatMap_nil, List.append_nil]
  ended := ⟨e.reply, rfl, hend⟩

/-- An exchange before a conversation that begins with its answer being sent back. -/
theorem Conversation.cons {text : String} {r : Rejection} (he : e.Asks c offers opening)
    (htext : e.reply = .ok (some text)) (hr : Invalid account text r)
    (h : Conversation account c offers budget (opening ++ repairMessages text r) rejected exchanges
      outcome) :
    Conversation account c offers (budget + 1) opening ((text, r) :: rejected) (e :: exchanges)
      outcome where
  invalid := List.forall_mem_cons.mpr ⟨hr, h.invalid⟩
  bounded := Nat.succ_le_succ h.bounded
  asked i e' hi := by
    cases i with
    | zero =>
      obtain rfl := Option.some.inj hi
      rwa [List.take_zero, List.flatMap_nil, List.append_nil]
    | succ i =>
      have hasked := h.asked i e' hi
      rwa [List.append_assoc] at hasked
  ended := by
    obtain ⟨reply, hreplies, hend⟩ := h.ended
    refine ⟨reply, ?_, hend.succ⟩
    rw [List.map_cons, List.map_cons, List.cons_append, htext, hreplies]

end

/-! ## The loop -/

/-- **The loop is a conversation**, with as much room as there are repairs. The provider has no part
in it. -/
theorem converse_conversation (account : Account) (sv : Services σ θ τ) (c : Config)
    (offers : List Value) (attempt n : Nat) (messages : List Message)
    {w : World σ θ τ} {s : σ} (hw : w.provider = s) :
    ∃ rejected exchanges outcome,
      Flow.Records (converse account sv.recording c offers attempt n messages)
        (converse account sv c offers attempt n messages) w exchanges outcome s ∧
      Conversation account c offers n messages rejected exchanges outcome := by
  -- one turn is the same whether or not repairs are left, and only then does the number matter
  induction n using Nat.strong_induction_on generalizing attempt messages w with
  | h n ih =>
    have hturn := (complete_records sv (programRequest c offers messages) c.timeout hw).failingAs
      GenerationFault.raised
    have hasks := asks_programRequest c offers messages
    rw [converse.eq_def account sv.recording, converse.eq_def account sv]
    rcases hreply : (sv.transport.complete (programRequest c offers messages) w.transport).1 with
      f | _ | text
    · rw [hreply] at hturn
      exact ⟨[], _, _, hturn.bind_error, .single (hasks _) (.failed f)⟩
    · rw [hreply] at hturn
      exact ⟨[], _, _, hturn.bind_error, .single (hasks _) .timedOut⟩
    rw [hreply] at hturn
    obtain ⟨v, t, hjudge, hvalid⟩ | ⟨r, hjudge, hinvalid⟩ := judge_cases account text
    · refine ⟨[], _, .ok (v, t), hturn.bind_ok fun hw ↦ ?_, .single (hasks _) (.valid hvalid)⟩
      simp only [hjudge]
      exact .done (v, t) hw
    cases n with
    | zero =>
      refine ⟨[], _, .error (.rejected r), hturn.bind_ok fun hw ↦ ?_,
        .single (hasks _) (.exhausted hinvalid rfl)⟩
      simp only [hjudge]
      exact .fail (GenerationFault.rejected r) hw
    | succ n =>
      obtain ⟨rejected, exchanges, outcome, hrest, hconv⟩ := ih n n.lt_succ_self (attempt + 1)
        (messages ++ repairMessages text r)
        (Flow.Records.emit (ε := GenerationFault) "model.response.validation_retry"
          [("attempt", .int (attempt + 1)), ("error", .str (summary r))] hturn.provider).provider
      refine ⟨(text, r) :: rejected, _, outcome, hturn.bind_ok fun hw ↦ ?_,
        hconv.cons (hasks _) rfl hinvalid⟩
      simp only [hjudge]
      exact (Flow.Records.emit _ _ hw).bind_ok fun _ ↦ hrest

/-! ## Before and after the loop -/

/-- Messages that are put behind the prompt one by one, the last of them first, stand between the
prompt and the question in their order. -/
theorem openingMessages_eq (history : List Message) (query : String) :
    openingMessages history query =
      ⟨"system", systemPrompt⟩ :: history ++ [⟨"user", query⟩] := by
  rw [openingMessages, List.foldl_reverse]
  induction history with
  | nil => rfl
  | cons m history ih =>
    rw [List.foldr_cons, ih]
    rfl

namespace Generator

/-- The tools that a model is shown for a question. -/
def offers (g : Generator σ θ τ) (query : String) : Attempt σ Fault (List Value) := fun s ↦
  match g.select g.services.provider query s with
  | (.ok tools, s) => (tools.mapM toolOffer, s)
  | (.error f, s) => (.error f, s)

/-- The outcome of a conversation, with what is done to a program before it is used. -/
def pruned (g : Generator σ θ τ) :
    Except GenerationFault (Value × Tree) → Except GenerationFault (Value × Tree)
  | .error f => .error f
  | .ok (v, t) =>
    match g.prune t with
    | .error f => .error (.raised f)
    | .ok t => .ok (v, t)

/-- The response that is made from a program, or from running it on a state of the provider. -/
def respond (g : Generator σ θ τ) (query : String) (kind : ResponseKind) (s : σ) :
    Except GenerationFault (Value × Tree) → Except AnswerFault Response
  | .error f => .error (.generation f)
  | .ok (v, t) =>
    match kind with
    | .tree => .ok ⟨query, .tree, .tree t, some v⟩
    | .walk =>
      match (run g.services.provider t s).result with
      | .ok x => .ok ⟨query, .walk, .value x, some v⟩
      | .error e => .error (.evaluation e)

/-- The exchanges with the model in the course of answering a question. -/
def exchanges (g : Generator σ θ τ) (query : String) (kind : ResponseKind) (w : World σ θ τ) :
    List Exchange :=
  (g.recording.answer query kind (w.recording [])).state.transport.2

end Generator

theorem askProvider_records (x : Attempt σ ε α) (w : World σ θ τ) :
    Flow.Records (Flow.askProvider x) (Flow.askProvider x) w [] (x w.provider).1
      (x w.provider).2 :=
  .quiet rfl rfl fun _ ↦ rfl

theorem evalInWorld_records (sv : Services σ θ τ) (t : Tree) {w : World σ θ τ} {s : σ}
    (hw : w.provider = s) :
    Flow.Records (ε := ε) (evalInWorld sv.recording t) (evalInWorld sv t) w []
      (.ok (run sv.provider t s).result) (run sv.provider t s).state := by
  subst hw
  exact .quiet rfl rfl fun _ ↦ rfl

theorem ofExcept_records (r : Except ε α) {w : World σ θ τ} {s : σ} (hw : w.provider = s) :
    Flow.Records (Effect.ofExcept r) (Effect.ofExcept r) w [] r s := by
  cases r with
  | error e => exact .fail e hw
  | ok a => exact .done a hw

theorem prune_records (g : Generator σ θ τ) (v : Value) (t : Tree) {w : World σ θ τ} {s : σ}
    (hw : w.provider = s) :
    Flow.Records
      (Effect.ofExcept ((g.prune t).mapError GenerationFault.raised) >>= fun t ↦ pure (v, t))
      (Effect.ofExcept ((g.prune t).mapError GenerationFault.raised) >>= fun t ↦ pure (v, t)) w []
      (g.pruned (.ok (v, t))) s := by
  rw [Generator.pruned]
  cases g.prune t with
  | error f => exact (ofExcept_records (.error (GenerationFault.raised f)) hw).bind_error
  | ok t' => exact (ofExcept_records (.ok t') hw).bind_ok fun hw ↦ .done (v, t') hw

/-- Without tools to show there is no conversation, and with them there is one. -/
theorem generate_records (g : Generator σ θ τ) (query : String) (w : World σ θ τ) :
    (∃ f, (g.offers query w.provider).1 = .error f ∧
      Flow.Records (g.recording.generate query) (g.generate query) w [] (.error (.raised f))
        (g.offers query w.provider).2) ∨
    ∃ offers rejected exchanges outcome, (g.offers query w.provider).1 = .ok offers ∧
      Flow.Records (g.recording.generate query) (g.generate query) w exchanges (g.pruned outcome)
        (g.offers query w.provider).2 ∧
      Conversation g.account g.config offers g.config.retries
        (openingMessages g.history query) rejected exchanges outcome := by
  have hask := (askProvider_records (g.select g.services.provider query) w).failingAs
    GenerationFault.raised
  rw [Generator.offers]
  rcases hselect : g.select g.services.provider query w.provider with ⟨f | tools, s⟩
  · rw [hselect] at hask
    exact Or.inl ⟨f, rfl, hask.bind_error⟩
  rw [hselect] at hask
  cases hoffers : tools.mapM toolOffer with
  | error f =>
    refine Or.inl ⟨f, hoffers, hask.bind_ok fun hw ↦ ?_⟩
    rw [hoffers]
    exact (ofExcept_records (.error (GenerationFault.raised f)) hw).bind_error
  | ok offers =>
    obtain ⟨rejected, exchanges, outcome, hloop, hconv⟩ := converse_conversation g.account
      g.services g.config offers 0 g.config.retries (openingMessages g.history query) hask.provider
    refine Or.inr ⟨offers, rejected, exchanges, outcome, hoffers, hask.bind_ok fun hw ↦ ?_, hconv⟩
    rw [hoffers]
    refine (ofExcept_records (.ok offers) hw).bind_ok fun _ ↦ ?_
    cases outcome with
    | error f => exact hloop.bind_error
    | ok found =>
      obtain ⟨v, t⟩ := found
      exact hloop.bind_ok_nil fun hw ↦ prune_records g v t hw

/-- The response is made from what generation gives, without further exchanges. -/
theorem answer_records {g : Generator σ θ τ} {query : String} {w : World σ θ τ}
    {exchanges : List Exchange} {outcome : Except GenerationFault (Value × Tree)} {s : σ}
    (h : Flow.Records (g.recording.generate query) (g.generate query) w exchanges outcome s)
    (kind : ResponseKind) :
    ∃ s', Flow.Records (g.recording.answer query kind) (g.answer query kind) w exchanges
      (g.respond query kind s outcome) s' := by
  have hgenerate := h.failingAs AnswerFault.generation
  cases outcome with
  | error f => exact ⟨s, hgenerate.bind_error⟩
  | ok found =>
    obtain ⟨v, t⟩ := found
    cases kind with
    | tree => exact ⟨s, hgenerate.bind_ok_nil fun hw ↦ .done _ hw⟩
    | walk =>
      refine ⟨(run g.services.provider t s).state, hgenerate.bind_ok_nil fun hw ↦ ?_⟩
      have heval := evalInWorld_records (ε := AnswerFault) g.services t hw
      rw [Generator.respond]
      cases hrun : (run g.services.provider t s).result with
      | error e =>
        rw [hrun] at heval
        exact heval.bind_ok fun hw ↦ .fail _ hw
      | ok x =>
        rw [hrun] at heval
        exact heval.bind_ok fun hw ↦ .done _ hw

/-- **Answering is a bounded and faithful conversation.** If there are no tools to show, nothing is
sent. Otherwise the requests are those of a conversation that opens with the prompt, the history in
its order and the question, and has room for as many repairs as the configuration says. The response
is made from the program of the last answer, which comes with the mapping it was read from; what
ended the conversation otherwise is the failure. -/
theorem answer_conversation (g : Generator σ θ τ) (query : String) (kind : ResponseKind)
    (w : World σ θ τ) :
    g.recording.answer query kind (w.recording []) = ⟨(g.answer query kind w).result,
      (g.answer query kind w).state.recording (g.exchanges query kind w),
      (g.answer query kind w).trace⟩ ∧
    ((∃ f, (g.offers query w.provider).1 = .error f ∧ g.exchanges query kind w = [] ∧
      (g.answer query kind w).result = .error (.generation (.raised f))) ∨
    ∃ offers rejected outcome, (g.offers query w.provider).1 = .ok offers ∧
      Conversation g.account g.config offers g.config.retries
        (⟨"system", systemPrompt⟩ :: g.history ++ [⟨"user", query⟩]) rejected
        (g.exchanges query kind w) outcome ∧
      (g.answer query kind w).result =
        g.respond query kind (g.offers query w.provider).2 (g.pruned outcome)) := by
  have hexchanges : ∀ {exchanges result s},
      Flow.Records (g.recording.answer query kind) (g.answer query kind) w exchanges result s →
      g.exchanges query kind w = exchanges := by
    intro exchanges result s h
    rw [Generator.exchanges, h.record]
    rfl
  rcases generate_records g query w with ⟨f, hoffers, hgenerate⟩ |
    ⟨offers, rejected, exchanges, outcome, hoffers, hgenerate, hconv⟩
  · obtain ⟨s', h⟩ := answer_records hgenerate kind
    rw [hexchanges h]
    exact ⟨h.record [], Or.inl ⟨f, hoffers, rfl, h.result⟩⟩
  · obtain ⟨s', h⟩ := answer_records hgenerate kind
    rw [openingMessages_eq] at hconv
    rw [hexchanges h]
    exact ⟨h.record [], Or.inr ⟨offers, rejected, outcome, hoffers, hconv, h.result⟩⟩

end CallTree
