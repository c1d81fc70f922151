import CallTree.Benchmark.Gate
import CallTree.Proofs.Benchmarks

/-!
# The tokens of a live benchmark

A transport over a client keeps the tokens of its last completion, and a live benchmark asks for
them once a case is done. A case that needs repairs takes several completions, and what all but the
last of them took is overwritten.

What the client gave cannot be read off a report, so the client is replaced by one that keeps a log
and otherwise does the same (`Client.logging`). `Flow.Tallies` says that a flow does not notice the
log, and carries the invariant that ties the kept tokens to the log from one step to the next
(`ClientState.Tallied`). `usage_eq_total_iff` compares the reports with the logs of their cases.
-/

namespace CallTree

open Report

variable {σ θ τ κ υ ς ε α β : Type}

/-! ## A log of completions -/

/-- A client that keeps a log of the completions it gives. -/
def Client.logging (c : Client ς) : Client (ς × List Completion) where
  complete request := fun (s, log) ↦
    match c.complete request s with
    | (.ok completion, s) => (.ok completion, s, log ++ [completion])
    | (.error e, s) => (.error e, s, log)
  stream request := fun (s, log) ↦
    let (answer, s) := c.stream request s
    (answer, s, log)

/-- The same services with another transport. -/
def Services.withTransport {θ' : Type} (sv : Services σ θ τ) (t : Transport θ') :
    Services σ θ' τ :=
  ⟨sv.provider, t, sv.clock⟩

/-- A generator with such services. -/
def Generator.withTransport {θ' : Type} (g : Generator σ θ τ) (t : Transport θ') :
    Generator σ θ' τ where
  services := g.services.withTransport t
  config := g.config
  account := g.account
  history := g.history
  select := g.select
  prune := g.prune

/-- The states of a transport over a logging client. -/
abbrev LoggingState (ς : Type) := ClientState (ς × List Completion)

/-- The log. -/
def ClientState.log (s : LoggingState ς) : List Completion := s.client.2

/-- The state without its log. -/
def ClientState.unlogged (s : LoggingState ς) : ClientState ς := ⟨s.client.1, s.usage⟩

/-- A world without the log. -/
def World.unlogged (w : World σ (LoggingState ς) τ) : World σ (ClientState ς) τ :=
  ⟨w.provider, w.transport.unlogged, w.clock⟩

/-- A world with an empty log. -/
def World.logging (w : World σ (ClientState ς) τ) : World σ (LoggingState ς) τ :=
  ⟨w.provider, ⟨(w.transport.client, []), w.transport.usage⟩, w.clock⟩

/-- The tokens of the last completion, none without one. -/
def lastUsage (log : List Completion) : Usage := (log.getLast?.map Completion.usage).getD {}

/-- The tokens that are kept are those of the last completion in the log. -/
def ClientState.Tallied (s : LoggingState ς) : Prop := s.usage = lastUsage s.log

theorem lastUsage_append (log : List Completion) (completion : Completion) :
    lastUsage (log ++ [completion]) = completion.usage := by
  rw [lastUsage, List.getLast?_concat]
  rfl

/-- One completion: logging changes nothing else, the tokens kept are those of the last completion,
and there is at most one more in the log. -/
theorem logging_complete (c : Client ς) (request : Request) (s : LoggingState ς) :
    c.transport.complete request s.unlogged =
      ((c.logging.transport.complete request s).1,
        (c.logging.transport.complete request s).2.unlogged) ∧
    (s.Tallied → (c.logging.transport.complete request s).2.Tallied) ∧
    (c.logging.transport.complete request s).2.log.length ≤ s.log.length + 1 := by
  obtain ⟨⟨client, log⟩, usage⟩ := s
  rcases h : c.complete request client with ⟨e | completion, client'⟩
  · have hlogging : c.logging.transport.complete request ⟨(client, log), usage⟩ =
        (.error e, ⟨(client', log), usage⟩) := by
      simp only [Client.transport, Client.logging, h]
    rw [hlogging]
    refine ⟨?_, id, Nat.le_succ _⟩
    simp only [Client.transport, ClientState.unlogged, h]
  · have hlogging : c.logging.transport.complete request ⟨(client, log), usage⟩ =
        ((Client.textOf completion).map some,
          ⟨(client', log ++ [completion]), completion.usage⟩) := by
      simp only [Client.transport, Client.logging, h]
    rw [hlogging]
    refine ⟨?_, fun _ ↦ (lastUsage_append log completion).symm, ?_⟩
    · simp only [Client.transport, ClientState.unlogged, h]
    · rw [ClientState.log, List.length_append]
      rfl

/-! ## Flows over a logging client -/

namespace Flow

/-- A flow over a logging client does what the flow over the client does. The tokens that are kept
stay those of the last completion, and the log grows by a bounded number of completions. -/
structure Tallies (x' : Flow σ (LoggingState ς) τ ε α) (x : Flow σ (ClientState ς) τ ε α)
    (count : Nat) : Prop where
  run : ∀ w, x w.unlogged = ⟨(x' w).result, (x' w).state.unlogged, (x' w).trace⟩
  tallied : ∀ w, w.transport.Tallied → (x' w).state.transport.Tallied
  bounded : ∀ w, (x' w).state.transport.log.length ≤ w.transport.log.length + count

namespace Tallies

variable {x' : Flow σ (LoggingState ς) τ ε α} {x : Flow σ (ClientState ς) τ ε α}
  {f' : α → Flow σ (LoggingState ς) τ ε β} {f : α → Flow σ (ClientState ς) τ ε β}
  {m n : Nat}

/-- A flow that leaves the transport alone. -/
theorem quiet (hrun : ∀ w, x w.unlogged = ⟨(x' w).result, (x' w).state.unlogged, (x' w).trace⟩)
    (h : ∀ w, (x' w).state.transport = w.transport) : Tallies x' x 0 where
  run := hrun
  tallied w hw := by rwa [h w]
  bounded w := by rw [h w]; exact Nat.le_refl _

theorem mono (hx : Tallies x' x m) (h : m ≤ n) : Tallies x' x n where
  run := hx.run
  tallied := hx.tallied
  bounded w := (hx.bounded w).trans (Nat.add_le_add_left h _)

theorem done (a : α) :
    Tallies (ε := ε) (ς := ς) (σ := σ) (τ := τ) (Effect.done a) (Effect.done a) 0 :=
  quiet (fun _ ↦ rfl) fun _ ↦ rfl

theorem bind (hx : Tallies x' x m) (hf : ∀ a, Tallies (f' a) (f a) n) :
    Tallies (x' >>= f') (x >>= f) (m + n) := by
  -- whether the second flow is reached is the same on both sides
  have hcases : ∀ w, (∃ e, (x' w).result = .error e ∧
      (x' >>= f') w = ⟨.error e, (x' w).state, (x' w).trace⟩) ∨
      ∃ a, (x' w).result = .ok a ∧ (x' >>= f') w = ⟨(f' a (x' w).state).result,
        (f' a (x' w).state).state, (x' w).trace ++ (f' a (x' w).state).trace⟩ := by
    intro w
    cases h : (x' w).result with
    | error e => exact Or.inl ⟨e, rfl, Effect.bind_of_error h⟩
    | ok a => exact Or.inr ⟨a, rfl, Effect.bind_of_ok h⟩
  refine ⟨fun w ↦ ?_, fun w hw ↦ ?_, fun w ↦ ?_⟩
  · rcases hcases w with ⟨e, he, hrun⟩ | ⟨a, ha, hrun⟩
    · rw [hrun, Effect.bind_of_error (e := e) (by rw [hx.run, he]), hx.run]
    · rw [hrun, Effect.bind_of_ok (a := a) (by rw [hx.run, ha]), hx.run, (hf a).run]
  · rcases hcases w with ⟨e, he, hrun⟩ | ⟨a, ha, hrun⟩
    · rw [hrun]
      exact hx.tallied w hw
    · rw [hrun]
      exact (hf a).tallied _ (hx.tallied w hw)
  · have hm := hx.bounded w
    rcases hcases w with ⟨e, he, hrun⟩ | ⟨a, ha, hrun⟩
    · rw [hrun]
      exact hm.trans (by omega)
    · rw [hrun]
      exact ((hf a).bounded _).trans (by omega)

theorem failingAs {δ : Type} (hx : Tallies x' x n) (g : ε → δ) :
    Tallies (Effect.failingAs g x') (Effect.failingAs g x) n where
  run w := by rw [Effect.failingAs, hx.run, Effect.failingAs]
  tallied := hx.tallied
  bounded := hx.bounded

theorem settle {δ : Type} (hx : Tallies x' x n) :
    Tallies (Effect.settle x' : Flow σ (LoggingState ς) τ δ _) (Effect.settle x) n where
  run w := by rw [Effect.settle, hx.run, Effect.settle]
  tallied := hx.tallied
  bounded := hx.bounded

theorem ofExcept (r : Except ε α) :
    Tallies (ς := ς) (σ := σ) (τ := τ) (Effect.ofExcept r) (Effect.ofExcept r) 0 := by
  cases r <;> exact quiet (fun _ ↦ rfl) fun _ ↦ rfl

theorem askProvider (y : Attempt σ ε α) :
    Tallies (ς := ς) (τ := τ) (Flow.askProvider y) (Flow.askProvider y) 0 :=
  quiet (fun _ ↦ rfl) fun _ ↦ rfl

theorem emit (name : String) (attributes : List (String × Value)) :
    Tallies (ς := ς) (σ := σ) (τ := τ) (ε := ε) (Flow.emit name attributes)
      (Flow.emit name attributes) 0 :=
  quiet (fun _ ↦ rfl) fun _ ↦ rfl

end Tallies

end Flow

section

variable {c : Client ς} {sv : Services σ (ClientState ς) τ} (hsv : sv.transport = c.transport)

include hsv

theorem complete_tallies (request : Request) (limit : Option Value.Number) :
    Flow.Tallies (complete (sv.withTransport c.logging.transport) request limit)
      (complete sv request limit) 1 := by
  have hrun : ∀ w, complete (sv.withTransport c.logging.transport) request limit w = _ :=
    fun w ↦ complete_run rfl limit
  refine ⟨fun w ↦ ?_, fun w hw ↦ ?_, fun w ↦ ?_⟩
  · have hcomplete := (logging_complete c request w.transport).1
    rw [← hsv] at hcomplete
    rw [hrun, complete_run hcomplete]
    rfl
  · rw [hrun]
    exact (logging_complete c request w.transport).2.1 hw
  · rw [hrun]
    exact (logging_complete c request w.transport).2.2

/-- The loop makes at most one completion more than there are repairs. -/
theorem converse_tallies (account : Account) (config : Config) (offers : List Value)
    (attempt n : Nat) (messages : List Message) :
    Flow.Tallies
      (converse account (sv.withTransport c.logging.transport) config offers attempt n messages)
      (converse account sv config offers attempt n messages) (n + 1) := by
  -- on the repairs that are left: one completion now, and the rest by induction
  induction n using Nat.strong_induction_on generalizing attempt messages with
  | h n ih =>
    have hturn := (complete_tallies hsv (programRequest config offers messages)
      config.timeout).failingAs GenerationFault.raised
    rw [converse.eq_def account (sv.withTransport c.logging.transport), converse.eq_def account sv,
      Nat.add_comm n 1]
    refine hturn.bind fun text ↦ ?_
    cases judge account text with
    | ok found => exact (Flow.Tallies.done found).mono (Nat.zero_le n)
    | error r =>
      cases n with
      | zero => exact .quiet (fun _ ↦ rfl) fun _ ↦ rfl
      | succ n =>
        have hrest := (Flow.Tallies.emit (ε := GenerationFault) "model.response.validation_retry"
          [("attempt", .int (attempt + 1)), ("error", .str (summary r))]).bind fun _ ↦
            ih n n.lt_succ_self (attempt + 1) (messages ++ repairMessages text r)
        exact hrest.mono (Nat.zero_add (n + 1)).le

end

section

variable {c : Client ς} {g : Generator σ (ClientState ς) τ}

/-- A generator over a client, with a client that keeps a log. -/
def Generator.logging (g : Generator σ (ClientState ς) τ) (c : Client ς) :
    Generator σ (LoggingState ς) τ :=
  g.withTransport c.logging.transport

variable (hg : g.services.transport = c.transport)

include hg

theorem generate_tallies (query : String) :
    Flow.Tallies ((g.logging c).generate query) (g.generate query) (g.config.retries + 1) := by
  have hselect := (Flow.Tallies.askProvider (ς := ς) (τ := τ)
    (g.select g.services.provider query)).failingAs GenerationFault.raised
  refine (hselect.bind fun tools ↦ ?_).mono (Nat.zero_add _).le
  refine ((Flow.Tallies.ofExcept _).bind fun offers ↦ ?_).mono (Nat.zero_add _).le
  have hloop := converse_tallies hg g.account g.config offers 0 g.config.retries
    (openingMessages g.history query)
  exact hloop.bind (n := 0) fun found ↦ (Flow.Tallies.ofExcept _).bind fun t ↦ .done _

/-- Judging a live case, with a log and without. -/
theorem judgeLive_tallies (x : Case) :
    Flow.Tallies (judgeLive (g.logging c) x) (judgeLive g x) (g.config.retries + 1) := by
  refine (generate_tallies hg x.question).settle.bind (n := 0) fun r ↦ ?_
  cases r with
  | error e =>
    cases e with
    | rejected r => exact .done _
    | raised f => cases f <;> exact .quiet (fun _ ↦ rfl) fun _ ↦ rfl
  | ok found =>
    obtain ⟨json, t⟩ := found
    have heval : Flow.Tallies (ε := Fault) (evalInWorld (g.logging c).services t)
        (evalInWorld g.services t) 0 := .quiet (fun _ ↦ rfl) fun _ ↦ rfl
    by_cases ht : t.isProgram = true
    · simp only [if_pos ht]
      exact heval.bind fun result ↦ .ofExcept _
    · simp only [if_neg ht]
      exact .done _

end

/-! ## Tokens in total -/

namespace Usage

theorem add_def (u v : Usage) : u + v = ⟨u.prompt + v.prompt, u.completion + v.completion⟩ := rfl

theorem add_assoc (u v w : Usage) : u + v + w = u + (v + w) := by
  simp only [add_def, Nat.add_assoc]

theorem add_left_comm (u v w : Usage) : u + (v + w) = v + (u + w) := by
  simp only [add_def, Nat.add_left_comm]

theorem zero_add (u : Usage) : {} + u = u := by
  simp only [add_def, Nat.zero_add]

/-- Nothing is missing exactly if what is left out is nothing. -/
theorem eq_add_left_iff {u v : Usage} : v = u + v ↔ u = {} := by
  obtain ⟨p, q⟩ := u
  obtain ⟨p', q'⟩ := v
  simp only [add_def, mk.injEq]
  omega

theorem add_eq_zero_iff {u v : Usage} : u + v = {} ↔ u = {} ∧ v = {} := by
  obtain ⟨p, q⟩ := u
  obtain ⟨p', q'⟩ := v
  simp only [add_def, mk.injEq]
  omega

/-- Tokens together. -/
def sum (us : List Usage) : Usage := us.foldl (· + ·) {}

theorem foldl_add (us : List Usage) (u : Usage) : us.foldl (· + ·) u = u + sum us := by
  induction us generalizing u with
  | nil => rfl
  | cons v us ih =>
    have hcons : sum (v :: us) = v + sum us := by
      rw [sum, List.foldl_cons, ih, zero_add]
    rw [List.foldl_cons, ih, hcons, add_assoc]

theorem sum_cons (u : Usage) (us : List Usage) : sum (u :: us) = u + sum us := by
  rw [sum, List.foldl_cons, foldl_add, zero_add]

theorem sum_singleton (u : Usage) : sum [u] = u := by
  rw [sum, List.foldl_cons, zero_add]
  rfl

theorem sum_append (us vs : List Usage) : sum (us ++ vs) = sum us + sum vs := by
  rw [sum, List.foldl_append, foldl_add]
  rfl

theorem sum_eq_zero_iff {us : List Usage} : sum us = {} ↔ ∀ u ∈ us, u = {} := by
  induction us with
  | nil => exact iff_of_true rfl fun u hu ↦ absurd hu List.not_mem_nil
  | cons u us ih => rw [sum_cons, add_eq_zero_iff, ih, List.forall_mem_cons]

end Usage

/-- The tokens of some completions together. -/
def totalUsage (log : List Completion) : Usage := Usage.sum (log.map Completion.usage)

/-- The tokens of all completions but the last. -/
def lostUsage (log : List Completion) : Usage := totalUsage log.dropLast

theorem totalUsage_eq (log : List Completion) :
    totalUsage log = lostUsage log + lastUsage log := by
  rcases List.eq_nil_or_concat log with rfl | ⟨init, completion, rfl⟩
  · rfl
  · rw [List.concat_eq_append, lostUsage, List.dropLast_concat, lastUsage_append, totalUsage,
      List.map_append, Usage.sum_append, List.map_singleton, Usage.sum_singleton, ← totalUsage]

theorem totalUsage_flatten (logs : List (List Completion)) :
    totalUsage logs.flatten = Usage.sum (logs.map lostUsage) + Usage.sum (logs.map lastUsage) := by
  induction logs with
  | nil => rfl
  | cons log logs ih =>
    have happend : totalUsage (log ++ logs.flatten) = totalUsage log + totalUsage logs.flatten := by
      rw [totalUsage, List.map_append, Usage.sum_append]
      rfl
    rw [List.flatten_cons, happend, ih, totalUsage_eq, List.map_cons, List.map_cons,
      Usage.sum_cons, Usage.sum_cons, Usage.add_assoc, Usage.add_assoc,
      Usage.add_left_comm (lastUsage log)]

/-! ## The cases of a live benchmark -/

/-- The completions that the client gave while a case was judged. -/
def caseLog (g : Generator σ (ClientState ς) τ) (c : Client ς) (x : Case)
    (w : World σ (ClientState ς) τ) : List Completion :=
  (judgeLive (g.logging c) x w.logging).state.transport.log

/-- A world in which the tokens were asked for. -/
def World.usageTaken (w : World σ (ClientState ς) τ) : World σ (ClientState ς) τ :=
  { w with transport := w.transport.takeUsage.2 }

/-- The completions for each of some cases, one after another. -/
def caseLogs (g : Generator σ (ClientState ς) τ) (c : Client ς) :
    List Case → World σ (ClientState ς) τ → List (List Completion)
  | [], _ => []
  | x :: xs, w => caseLog g c x w :: caseLogs g c xs (judgeLive g x w).state.usageTaken

/-- What the report on a case says of its completions: the tokens of the last one and their cost,
which are the tokens of all exactly if none were lost. There are not more completions than the first
and the repairs. -/
structure CaseReport.Accounts [Measure κ] (prices : Prices κ) (retries : Nat) (r : CaseReport κ)
    (log : List Completion) : Prop where
  count : log.length ≤ retries + 1
  usage : r.usage = lastUsage log
  cost : r.cost = some (prices.cost (lastUsage log))
  exact_iff : r.usage = totalUsage log ↔ lostUsage log = {}

section

variable [Measure κ] {g : Generator σ (ClientState ς) τ} {c : Client ς}
  {w : World σ (ClientState ς) τ}

/-- With a log or without, a case is judged alike. -/
theorem judgeLive_logging (hc : g.services.transport = c.transport) (x : Case) :
    judgeLive g x w = ⟨(judgeLive (g.logging c) x w.logging).result,
      (judgeLive (g.logging c) x w.logging).state.unlogged,
      (judgeLive (g.logging c) x w.logging).trace⟩ :=
  (judgeLive_tallies hc x).run w.logging

theorem usage_judgeLive (hc : g.services.transport = c.transport) (hw : w.transport.usage = {})
    (x : Case) : (judgeLive g x w).state.transport.usage = lastUsage (caseLog g c x w) := by
  have hstart : w.logging.transport.Tallied := hw
  rw [judgeLive_logging hc]
  exact (judgeLive_tallies hc x).tallied w.logging hstart

theorem exists_judge_eq (hc : g.services.transport = c.transport) (hg : g.NeverCancels)
    (hw : w.transport.usage = {}) (prices : Prices κ) (clock : Clock κ υ) (service : String)
    (x : Case) :
    ∃ v events, (liveRunner g ClientState.takeUsage prices clock service).judge x w =
      ⟨.ok ⟨v, lastUsage (caseLog g c x w), some (prices.cost (lastUsage (caseLog g c x w)))⟩,
        (judgeLive g x w).state.usageTaken, events⟩ := by
  cases hresult : (judgeLive g x w).result with
  | error e => exact ((judgeLive_meets hg x).fault hresult).elim
  | ok v =>
    have hjudged : judgeLive g x w = ⟨.ok v, (judgeLive g x w).state, (judgeLive g x w).trace⟩ := by
      rw [← hresult]
    have htaken : (withUsage ClientState.takeUsage prices v : Flow σ (ClientState ς) τ Fault _)
        (judgeLive g x w).state = ⟨.ok ⟨v, lastUsage (caseLog g c x w),
          some (prices.cost (lastUsage (caseLog g c x w)))⟩,
          (judgeLive g x w).state.usageTaken, []⟩ := by
      rw [← usage_judgeLive hc hw x]
      rfl
    exact ⟨v, _, bind_run hjudged htaken⟩

/-- One case: its report is about the completions of the case. -/
theorem exists_runCase_eq (hc : g.services.transport = c.transport) (hg : g.NeverCancels)
    (prices : Prices κ) (clock : Clock κ υ) (service : String)
    {s : Timed (World σ (ClientState ς) τ) υ} (hs : s.world.transport.usage = {}) (x : Case) :
    ∃ r events, (liveRunner g ClientState.takeUsage prices clock service).runCase x s =
        ⟨.ok r, ⟨(judgeLive g x s.world).state.usageTaken, clock.after 2 s.clock⟩, events⟩ ∧
      r.Accounts prices g.config.retries (caseLog g c x s.world) := by
  obtain ⟨v, events, hjudge⟩ := exists_judge_eq hc hg hs prices clock service x
  refine ⟨_, _, Runner.runCase_of_ok hjudge, ?_, rfl, rfl, ?_⟩
  · have hbounded := (judgeLive_tallies hc x).bounded s.world.logging
    exact hbounded.trans (Nat.zero_add _).le
  · show lastUsage (caseLog g c x s.world) = _ ↔ _
    rw [totalUsage_eq]
    exact Usage.eq_add_left_iff

/-- The cases one after another. -/
theorem each_accounts (hc : g.services.transport = c.transport) (hg : g.NeverCancels)
    (prices : Prices κ) (clock : Clock κ υ) (service : String) (xs : List Case)
    (s : Timed (World σ (ClientState ς) τ) υ) (hs : s.world.transport.usage = {}) :
    ∃ rs, (Effect.each (liveRunner g ClientState.takeUsage prices clock service).runCase xs
        s).result = .ok rs ∧
      List.Forall₂ (CaseReport.Accounts prices g.config.retries) rs (caseLogs g c xs s.world) := by
  induction xs generalizing s with
  | nil => exact ⟨[], rfl, .nil⟩
  | cons x xs ih =>
    obtain ⟨r, events, hcase, hr⟩ := exists_runCase_eq hc hg prices clock service hs x
    -- asking for the tokens leaves none behind, so the next case starts as this one did
    obtain ⟨rs, hrs, haccounts⟩ := ih ⟨(judgeLive g x s.world).state.usageTaken,
      clock.after 2 s.clock⟩ rfl
    refine ⟨r :: rs, ?_, .cons hr haccounts⟩
    refine (Effect.result_bind_of_ok (congrArg Outcome.result hcase)).trans ?_
    rw [hcase]
    exact Effect.result_bind_of_ok hrs

/-- **The tokens of a live benchmark** over a client, when nothing is called off. A log changes
nothing in how a case is judged. Each case is reported with the tokens of its last completion and
with what they cost, which are those of all its completions exactly if the completions before the
last one took none. So the tokens of the whole report are those of all completions exactly if this
is so for each case. -/
theorem usage_eq_total_iff (hc : g.services.transport = c.transport) (hg : g.NeverCancels)
    (prices : Prices κ) (clock : Clock κ υ) (service : String) (d : Dataset Case)
    (s : Timed (World σ (ClientState ς) τ) υ) (hs : s.world.transport.usage = {}) :
    (∀ x w, judgeLive g x w = ⟨(judgeLive (g.logging c) x w.logging).result,
      (judgeLive (g.logging c) x w.logging).state.unlogged,
      (judgeLive (g.logging c) x w.logging).trace⟩) ∧
    ∃ r, ((liveRunner g ClientState.takeUsage prices clock service).run d s).result = .ok r ∧
      List.Forall₂ (CaseReport.Accounts prices g.config.retries) r.cases
        (caseLogs g c d.cases s.world) ∧
      (r.usage = totalUsage (caseLogs g c d.cases s.world).flatten ↔
        ∀ log ∈ caseLogs g c d.cases s.world, lostUsage log = {}) := by
  refine ⟨fun x w ↦ judgeLive_logging hc x, ?_⟩
  obtain ⟨rs, hrs, haccounts⟩ := each_accounts hc hg prices clock service d.cases
    ⟨s.world, clock.after 1 s.clock⟩ hs
  obtain ⟨r, hr, rfl⟩ := Runner.run_of_ok hrs
  refine ⟨r, hr, haccounts, ?_⟩
  have husage : r.usage = Usage.sum ((caseLogs g c d.cases s.world).map lastUsage) := by
    have hmap : List.Forall₂ Eq (r.cases.map (·.usage))
        ((caseLogs g c d.cases s.world).map lastUsage) :=
      List.forall₂_map_left_iff.mpr (List.forall₂_map_right_iff.mpr
        (haccounts.imp fun _ _ h ↦ h.usage))
    rw [List.forall₂_eq_eq_eq] at hmap
    rw [← hmap]
    rfl
  -- the totals differ by all that was lost together, which is nothing only if each part is
  rw [husage, totalUsage_flatten, Usage.eq_add_left_iff, Usage.sum_eq_zero_iff,
    List.forall_mem_map]

end

/-- A client that gives one completion after another, and then fails. -/
def dealing : Client (List Completion) where
  complete _ completions :=
    match completions with
    | [] => (.error .outOfRange, [])
    | completion :: rest => (.ok completion, rest)
  stream _ completions := (⟨[], .ok ()⟩, completions)

/-- A generator over this client, without tools and with room for one repair. -/
def dealt : Generator Unit (ClientState (List Completion)) (List Float) where
  services := ⟨noTools, dealing.transport, .prepared 0.0⟩
  config := { model := "small", retries := 1 }
  account := .reasons

theorem dealt_neverCancels : dealt.NeverCancels where
  provider := noTools_neverCancels
  select _ _ := by rintro ⟨⟩
  transport _ s := by
    obtain ⟨completions, usage⟩ := s
    rcases completions with _ | ⟨⟨_ | ⟨_ | text, choices⟩, tokens⟩, rest⟩ <;> rintro ⟨⟩
  prune _ := by rintro ⟨⟩

/-- A completion with one choice. -/
def completionOf (text : String) (usage : Usage) : Completion := ⟨[some text], usage⟩

/-- Two cases, of which the first one needs a repair. -/
def twoCases : Dataset Case := ⟨"1", [trueCase "repaired", trueCase "at once"]⟩

/-- The completions for them; the tokens of the one that is sent back are given. -/
def dealtWorld (usage : Usage) : World Unit (ClientState (List Completion)) (List Float) :=
  ⟨(), ⟨[completionOf "Yes." usage, completionOf (leafText "yes") ⟨7, 4⟩,
    completionOf (leafText "now") ⟨3, 1⟩], {}⟩, []⟩

theorem usage_eq_total_iff_dealt :
    dealt.services.transport = dealing.transport ∧ dealt.NeverCancels ∧
    (caseLogs dealt dealing twoCases.cases (dealtWorld {})).map (·.map Completion.usage) =
      [[{}, ⟨7, 4⟩], [⟨3, 1⟩]] ∧
    ∃ r, ((liveRunner dealt ClientState.takeUsage ⟨0.0, 0.0⟩ (.prepared 0.0)).run twoCases
        ⟨dealtWorld {}, []⟩).result = .ok r ∧
      r.usage = totalUsage (caseLogs dealt dealing twoCases.cases (dealtWorld {})).flatten := by
  have hlogs : (caseLogs dealt dealing twoCases.cases (dealtWorld {})).map
      (·.map Completion.usage) = [[{}, ⟨7, 4⟩], [⟨3, 1⟩]] := by
    decide +kernel
  obtain ⟨-, r, hr, -, hiff⟩ := usage_eq_total_iff (κ := Float) (c := dealing) rfl
    dealt_neverCancels ⟨0.0, 0.0⟩ (.prepared 0.0) "openai" twoCases ⟨dealtWorld {}, []⟩ rfl
  refine ⟨rfl, dealt_neverCancels, hlogs, r, hr, hiff.mpr fun log hlog ↦ ?_⟩
  have hmem := List.mem_map_of_mem (f := fun l ↦ l.map Completion.usage) hlog
  rw [hlogs] at hmem
  rw [lostUsage, totalUsage, List.map_dropLast]
  rcases List.mem_pair.mp hmem with h | h
  · rw [h]
    rfl
  · rw [h]
    rfl

/-- The tokens of a completion that was sent back are not reported. -/
theorem tokens_of_repair_lost :
    ((liveRunner dealt ClientState.takeUsage ⟨0.0, 0.0⟩ (.prepared (0.0 : Float))).run twoCases
      ⟨dealtWorld ⟨5, 2⟩, []⟩).result.map (fun r ↦ r.cases.map (·.usage)) =
        .ok [⟨7, 4⟩, ⟨3, 1⟩] ∧
    (caseLogs dealt dealing twoCases.cases (dealtWorld ⟨5, 2⟩)).map totalUsage =
      [⟨12, 6⟩, ⟨3, 1⟩] := by
  exact ⟨by decide +kernel, by decide +kernel⟩

end CallTree
