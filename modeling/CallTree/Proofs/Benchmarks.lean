import CallTree.Benchmark.Live
import CallTree.Proofs.Guarantees
import CallTree.Proofs.LongNumerals
import CallTree.Proofs.Metadata
import CallTree.Proofs.Pieces

/-!
# Benchmarks come to their end

Whatever is wrong with a case should be its verdict and not the end of the benchmark. For live
benchmarks this is so as long as nothing is called off. An offline benchmark has one gap: a number
with more digits than are read from a text, or written into one, leaves its case without a verdict
(`OfflineCase.longNumeral?`), and the first such case ends the whole run.

Both kinds of benchmark are run by the same loop, and `Runner.run_meets` says once what the loop
does with a runner whose cases fail as they are known to. What is left for each kind is to judge one
case. The events are part of this: an event that cannot be sent out would end a run as well.
-/

namespace CallTree

open Report

variable {σ θ τ κ υ ω γ ε α β : Type}

/-! ## Nothing is called off -/

/-- An attempt that is never called off. -/
def NeverCancelled (x : Attempt σ Fault α) : Prop := ∀ s, (x s).1 ≠ .error .cancelled

/-- A provider that is never called off in looking up or running a tool. -/
structure Provider.NeverCancels (p : Provider σ) : Prop where
  define : ∀ name, NeverCancelled (p.define name)
  invoke : ∀ tool args, NeverCancelled (p.invoke tool args)

/-- A generator in which nothing is called off. -/
structure Generator.NeverCancels (g : Generator σ θ τ) : Prop where
  provider : g.services.provider.NeverCancels
  select : ∀ query, NeverCancelled (g.select g.services.provider query)
  transport : ∀ request, NeverCancelled (g.services.transport.complete request)
  prune : ∀ t, g.prune t ≠ .error .cancelled

/-- With such a provider no evaluation is called off, whatever the tree is. -/
theorem run_meets_ne_cancelled {p : Provider σ} (hp : p.NeverCancels) (t : Tree) :
    (run p t).Meets (fun _ ↦ True) (· ≠ .raised .cancelled) (fun _ ↦ True) := by
  have hclosed : ValuesClosed (fun _ ↦ True) := ⟨trivial, iff_of_true trivial fun _ _ ↦ trivial⟩
  have hcall : ∀ tool count, CallGuarantees p (fun _ ↦ True) (· ≠ .raised .cancelled)
      (fun _ ↦ True) tool count := by
    intro tool count
    refine ⟨fun e he ↦ ?_, fun _ _ _ _ ↦ invoke_meets (fun _ _ _ ↦ trivial) ?_ trivial⟩
    · cases he with
      | raised h =>
        rintro ⟨⟩
        exact hp.define _ _ h
      | unavailable _ _ => rintro ⟨⟩
      | definition _ _ => rintro ⟨⟩
      | arity _ _ => rintro ⟨⟩
    · rintro s f h ⟨⟩
      exact hp.invoke _ _ s h
  refine eval_meets hclosed (fun n _ ↦ ?_) fun b hb ↦ absurd hb List.not_mem_nil
  cases n with
  | value _ _ => trivial
  | call tool args => exact hcall tool args.length
  | lambda _ _ _ => exact fun _ _ ↦ trivial
  | «over» op params tool args iterable =>
    refine ⟨by rintro ⟨⟩, Or.inr fun e he ↦ ?_⟩
    rintro rfl
    exact he
  | bare => rintro ⟨⟩
  | program _ _ => trivial
  | cond _ _ _ => trivial

/-! ## Events that can be sent out -/

theorem Sendable.of_sending_eq {e e' : Event} (h : Sendable e') (hsending : e.sending = e'.sending)
    (hname : e.name = e'.name) : Sendable e := by
  obtain ⟨sent, hsent, hsame⟩ := h
  obtain ⟨hemit, hlong⟩ := Prod.mk.inj hsending
  refine ⟨sent, ?_, hname.trans hsame⟩
  rw [hemit, hsent, hlong]

namespace Runner

variable [Measure κ] {b : Runner ω κ τ γ} {fault? : γ → Option Fault}

/-- A case that is judged: two readings of the clock, two events, and the world that judging
leaves. -/
theorem runCase_of_ok {c : γ} {s : Timed ω τ} {w : ω} {events : List Event} {j : Judged κ}
    (h : b.judge c s.world = ⟨.ok j, w, events⟩) :
    b.runCase c s =
      let r := b.report c j
        (millisecondsSince (b.clock.reading 0 s.clock) (b.clock.reading 1 s.clock))
      ⟨.ok r, ⟨w, b.clock.after 2 s.clock⟩, ⟨"benchmark.case.started", b.opening c⟩ ::
        (events ++ [⟨"benchmark.case.completed", b.closing r⟩])⟩ := by
  have hjudge : ∀ clock, (inWorld (b.judge c) : Effect (Timed ω τ) Fault Event _)
      ⟨s.world, clock⟩ = ⟨.ok j, ⟨w, clock⟩, events⟩ := by
    intro clock
    rw [inWorld, h]
  show b.runCase c s = ⟨_, _, [] ++ ([_] ++ (events ++ [_]))⟩
  exact bind_run rfl (bind_run rfl (bind_run (hjudge _) rfl))

theorem runCase_of_error {c : γ} {s : Timed ω τ} {e : Fault}
    (h : (b.judge c s.world).result = .error e) : (b.runCase c s).result = .error e := by
  have hjudge : ∀ clock, ((inWorld (b.judge c) : Effect (Timed ω τ) Fault Event _)
      ⟨s.world, clock⟩).result = .error e := fun _ ↦ h
  refine (Effect.result_bind_of_ok rfl).trans ((Effect.result_bind_of_ok rfl).trans ?_)
  exact Effect.result_bind_of_error (hjudge _)

/-- A run whose cases all have a report. -/
theorem run_of_ok {d : Dataset γ} {s : Timed ω τ} {rs : List (CaseReport κ)}
    (h : (Effect.each b.runCase d.cases ⟨s.world, b.clock.after 1 s.clock⟩).result = .ok rs) :
    ∃ r, (b.run d s).result = .ok r ∧ r.cases = rs := by
  refine ⟨⟨d.version, b.mode, millisecondsSince (b.clock.reading 0 s.clock) (b.clock.reading 0
    (Effect.each b.runCase d.cases ⟨s.world, b.clock.after 1 s.clock⟩).state.clock), b.model,
    b.provider, rs⟩, ?_, rfl⟩
  refine (Effect.result_bind_of_ok rfl).trans ((Effect.result_bind_of_ok rfl).trans ?_)
  exact (Effect.result_bind_of_ok h).trans rfl

end Runner

/-! ## Offline cases -/

theorem exists_ofRun_eq_ok (v : Verdict) (c : Case) {written : Except Fault String} {text : String}
    (hwritten : written = .ok text) {r : Except EvalFault Value}
    (hr : r ≠ .error (.raised .cancelled)) : ∃ v', v.ofRun c written r = .ok v' := by
  rw [Verdict.ofRun.eq_def]
  split
  · rw [hwritten]
    exact ⟨_, rfl⟩
  · exact absurd rfl hr
  · exact ⟨_, rfl⟩

theorem askProvider_meets {x : Attempt σ ε α} {E : ε → Prop} {T : Event → Prop}
    (hE : ∀ s e, (x s).1 = .error e → E e) :
    (Flow.askProvider x : Flow σ θ τ ε α).Meets (fun _ ↦ True) E T where
  value _ := trivial
  fault h := hE _ _ h
  trace h := absurd h List.not_mem_nil

section

variable {sv : Services σ θ τ}

/-- One exchange, with a transport that is never called off. -/
theorem complete_meets (ht : ∀ request, NeverCancelled (sv.transport.complete request))
    (request : Request) (limit : Option Value.Number) :
    (complete sv request limit).Meets (fun _ ↦ True) (· ≠ .cancelled) Sendable := by
  refine ⟨fun _ ↦ trivial, fun {w e} h ↦ ?_, fun {w e} h ↦ ?_⟩
  · rcases hreply : sv.transport.complete request w.transport with ⟨reply, s⟩
    have hne := ht request w.transport
    rw [hreply] at hne
    rw [complete_run hreply limit] at h
    rintro rfl
    rcases reply with f | _ | text
    · cases h
      exact hne rfl
    · cases h
    · cases h
  · rcases hreply : sv.transport.complete request w.transport with ⟨reply, s⟩
    rw [complete_run hreply limit] at h
    rcases List.mem_cons.mp h with rfl | h
    · exact (sendable_startedEvent limit).of_sending_eq
        (sending_startedEvent (by rintro ⟨⟩) limit) rfl
    · obtain rfl := List.mem_singleton.mp h
      exact (sendable_closingEvent _ _ _).of_sending_eq
        (sending_closingEvent (Reply.content_ne_null reply) _ _ _) rfl

/-- The loop: its program comes from a mapping that was read, and it is never called off. -/
theorem converse_meets (account : Account)
    (ht : ∀ request, NeverCancelled (sv.transport.complete request)) (c : Config)
    (offers : List Value) (attempt n : Nat) (messages : List Message) :
    (converse account sv c offers attempt n messages).Meets
      (fun found ↦ ∃ s, Json.read s = .ok found.1) (· ≠ .raised .cancelled) Sendable := by
  -- on the repairs that are left; each one sends a longer list of messages
  induction n using Nat.strong_induction_on generalizing attempt messages with
  | h n ih =>
    have hturn : ((complete sv (programRequest c offers messages) c.timeout).failingAs
        GenerationFault.raised).Meets (fun _ ↦ True) (· ≠ .raised .cancelled) Sendable :=
      (complete_meets ht _ _).failingAs fun e he h ↦ he (GenerationFault.raised.inj h)
    rw [converse.eq_def]
    refine hturn.bind fun text _ ↦ ?_
    obtain ⟨v, t, hjudge, hvalid⟩ | ⟨r, hjudge, -⟩ := judge_cases account text
    · simp only [hjudge]
      exact .pure ⟨text, hvalid.read⟩
    · simp only [hjudge]
      cases n with
      | zero => exact .fail (by rintro ⟨⟩)
      | succ n =>
        have hretry : Sendable (retryEvent attempt (.str (summary r))) :=
          (sendable_retryEvent attempt).of_sending_eq
            (sending_retryEvent (by rintro ⟨⟩) attempt) rfl
        exact (Effect.Meets.note hretry).bind fun _ _ ↦ ih n n.lt_succ_self _ _

end

theorem neededEntry_ne_cancelled (key : String) (v : Value) :
    neededEntry key v ≠ .error .cancelled := by
  intro h
  rw [neededEntry.eq_def] at h
  split at h
  · split at h <;> cases h
  · cases h

theorem bind_ne_error {x : Except ε α} {f : α → Except ε β} {e : ε} (hx : x ≠ .error e)
    (hf : ∀ a, f a ≠ .error e) : (x >>= f) ≠ .error e := by
  cases x with
  | error d =>
    intro h
    cases h
    exact hx rfl
  | ok a => exact hf a

theorem toolOffer_ne_cancelled (v : Value) : toolOffer v ≠ .error .cancelled := by
  refine bind_ne_error (neededEntry_ne_cancelled _ v) fun name ↦ ?_
  refine bind_ne_error (neededEntry_ne_cancelled _ v) fun properties ↦ ?_
  rintro ⟨⟩

theorem mapM_ne_error {f : α → Except ε β} {e : ε} (h : ∀ x, f x ≠ .error e) (xs : List α) :
    xs.mapM f ≠ .error e := by
  induction xs with
  | nil => rintro ⟨⟩
  | cons x xs ih =>
    rw [List.mapM_cons]
    refine bind_ne_error (h x) fun y ↦ bind_ne_error ih fun ys ↦ ?_
    rintro ⟨⟩

theorem raised_ne_cancelled {r : Except Fault α} (hr : r ≠ .error .cancelled) (e : GenerationFault)
    (h : r.mapError GenerationFault.raised = .error e) : e ≠ .raised .cancelled := by
  rintro rfl
  obtain ⟨f, hf, hcancelled⟩ := Effect.mapError_eq_error_iff.mp h
  obtain rfl : f = .cancelled := GenerationFault.raised.inj hcancelled
  exact hr hf

/-- Making a program: it comes from a mapping that was read, and it is never called off. -/
theorem generate_meets {g : Generator σ θ τ} (hg : g.NeverCancels) (query : String) :
    (g.generate query).Meets (fun found ↦ ∃ s, Json.read s = .ok found.1)
      (· ≠ .raised .cancelled) Sendable := by
  have hselect : (Flow.askProvider (g.select g.services.provider query) :
      Flow σ θ τ Fault (List Value)).Meets (fun _ ↦ True) (· ≠ .cancelled) Sendable :=
    askProvider_meets fun s e h he ↦ hg.select query s (he ▸ h)
  have hasked := hselect.failingAs (g := GenerationFault.raised) (D := (· ≠ .raised .cancelled))
    fun e he h ↦ he (GenerationFault.raised.inj h)
  refine hasked.bind fun tools _ ↦ ?_
  have hoffers := raised_ne_cancelled (mapM_ne_error toolOffer_ne_cancelled tools)
  refine (Effect.Meets.ofExcept (Q := fun _ ↦ True) (fun _ _ ↦ trivial) hoffers).bind
    fun offers _ ↦ ?_
  refine (converse_meets g.account hg.transport g.config offers 0 g.config.retries _).bind
    fun found hfound ↦ ?_
  have hpruned := raised_ne_cancelled (hg.prune found.2)
  exact (Effect.Meets.ofExcept (Q := fun _ ↦ True) (fun _ _ ↦ trivial) hpruned).bind
    fun t _ ↦ .pure hfound

theorem evalInWorld_meets {sv : Services σ θ τ} (hp : sv.provider.NeverCancels) (t : Tree)
    {E : ε → Prop} {T : Event → Prop} :
    (evalInWorld sv t : Flow σ θ τ ε _).Meets (· ≠ .error (.raised .cancelled)) E T where
  value {w r} h := by
    obtain rfl : (run sv.provider t w.provider).result = r := Except.ok.inj h
    exact fun h ↦ (run_meets_ne_cancelled hp t).fault h rfl
  fault h := by cases h
  trace h := absurd h List.not_mem_nil

/-- A live case always has a verdict: the mapping that its program was read from has a written
form. -/
theorem judgeLive_meets {g : Generator σ θ τ} (hg : g.NeverCancels) (c : Case) :
    (judgeLive g c).Meets (fun _ ↦ True) (fun _ ↦ False) Sendable := by
  refine (generate_meets hg c.question).settle.bind fun r hr ↦ ?_
  split
  · exact absurd rfl (hr.2 _ rfl)
  · exact .pure trivial
  · next json t =>
    split
    · refine (evalInWorld_meets hg.provider t).bind fun result hresult ↦ ?_
      -- the words asked for are looked up in the written form, so there has to be one
      obtain ⟨s, hs⟩ := hr.1 _ rfl
      obtain ⟨text, htext⟩ := exists_write_of_read hs
      have hwritten : writtenForm json = .ok text := by
        rw [writtenForm, htext]
        rfl
      obtain ⟨v, hv⟩ := exists_ofRun_eq_ok _ c hwritten hresult
      rw [hv]
      exact .done trivial
    · exact .pure trivial

/-- What came out, where a failure was known beforehand or not: that failure, or a value with the
property. Its events can all be sent out, those with a number that is too long to be written
apart. -/
structure Outcome.Ends (o : Outcome σ Fault Event α) (fault? : Option Fault) (Q : α → Prop) :
    Prop where
  result : (fault? = none ∧ ∃ a, o.result = .ok a ∧ Q a) ∨
    ∃ e, fault? = some e ∧ o.result = .error e
  events : ∀ e ∈ o.trace, Sendable e

theorem Effect.Meets.ends {x : Effect σ Fault Event α} {fault? : Option Fault} {Q : α → Prop}
    (h : x.Meets (fun a ↦ fault? = none ∧ Q a) (fun e ↦ fault? = some e) Sendable) (s : σ) :
    (x s).Ends fault? Q := by
  refine ⟨?_, fun e he ↦ h.trace he⟩
  cases hr : (x s).result with
  | ok a =>
    obtain ⟨hnone, hQ⟩ := h.value hr
    exact Or.inl ⟨hnone, a, rfl, hQ⟩
  | error e => exact Or.inr ⟨e, h.fault hr, rfl⟩

/-- A provider without tools. -/
def noTools : Provider Unit where
  list s := (.ok [], s)
  define name s := (.error (.toolMissing name), s)
  invoke tool _ s := (.error (.toolMissing tool), s)

theorem noTools_neverCancels : noTools.NeverCancels where
  define _ _ := by rintro ⟨⟩
  invoke _ _ _ := by rintro ⟨⟩

/-- A transport that gives one text after another, and then fails. -/
def telling : Transport (List String) where
  complete _ texts :=
    match texts with
    | [] => (.error .outOfRange, [])
    | text :: rest => (.ok (some text), rest)
  stream _ texts := (⟨[], .ok ()⟩, texts)

/-- A generator that is told programs, without tools and without repairs. -/
def told : Generator Unit (List String) (List Float) where
  services := ⟨noTools, telling, .prepared 0.0⟩
  config := { model := "small", retries := 0 }
  account := .reasons

/-- The text of a program that calls a tool without arguments. -/
def callText (tool : String) : String :=
  "\x7b\"type\": \"program\", \"mode\": \"single\", \"body\": " ++
  "[\x7b\"type\": \"function\", \"name\": \"" ++ tool ++ "\", \"params\": []\x7d]\x7d"

/-- A case whose program should give true. -/
def trueCase (id : String) : Case := ⟨id, "Is it so?", .bool true, []⟩

/-- Such a case with the text of its program. -/
def textCase (id text : String) : OfflineCase := { trueCase id with program := .str text }

end CallTree
