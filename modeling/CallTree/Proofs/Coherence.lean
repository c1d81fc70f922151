import CallTree.Proofs.Gate
import CallTree.Proofs.Verdicts

/-!
# Reports on cases are coherent

The report on a case has five flags, a category and an error, and they are set in different places.
Judging a case has only a few exits, though. It stops where the program is read, checked or run, and
then the flags of what comes later are down, and there is a category and an error. Or the program
has run to its end, and then there is no error, and a category only if the answer is wrong or the
words asked for are missing. `Verdict.Exit` lists these exits for both kinds of benchmark; what the
parts of a report have to do with each other (`Coherent`) is read off from the list.

A live case has one more way to stop, where what the model has made is not a program as a whole.
A mapping that is accepted is always a program, so this can come about only by what is done to the
program before it is used (`judgeLive_stops_or_runs`, `isProgram_of_generate`).
-/

namespace CallTree

open Report

variable {σ θ τ κ υ ω γ : Type}

/-! ## Coherence -/

/-- How far a case came, its category and its error agree with each other. -/
structure Coherent (checks : Checks) (failure : Option FailureKind) (error : Option String) :
    Prop where
  passed : failure = none ↔ checks.passed = true
  correctness : failure = some .correctness ↔ checks.executed = true ∧ checks.passed = false
  error : error.isSome = true ↔
    ∃ kind ∈ [FailureKind.parse, .schema, .execution, .provider], failure = some kind
  valid : checks.executed = true → checks.valid = true
  parsed : checks.valid = true → checks.parsed = true
  executed : checks.correct = true ∨ checks.toolsUsed = true → checks.executed = true

/-- A measure is zero or more. -/
def Measure.AtLeastZero [Measure κ] (x : κ) : Prop :=
  x = Measure.ofCount 0 ∨ Measure.less (Measure.ofCount 0) x = true

/-- Where judging a case can stop, with the checks that the case has passed there. -/
inductive StopsAt : Checks → FailureKind → Prop where
  /-- There is no program to look at. -/
  | making {kind : FailureKind} (h : kind ∈ [FailureKind.parse, .schema, .provider]) :
      StopsAt {} kind
  | reading : StopsAt { parsed := true } .schema
  | running : StopsAt { parsed := true, valid := true } .execution

/-- The verdict on a case that stopped somewhere. -/
inductive Verdict.Stopped : Verdict → Prop where
  | of {ε : Type} [Described ε] {v : Verdict} {checks : Checks} {kind : FailureKind} (cause : ε)
      (hv : v.checks = checks) (h : StopsAt checks kind) : Stopped (v.failed kind cause)

/-- What is known of a case when its program is run. -/
structure Verdict.Running (v : Verdict) : Prop where
  checks : v.checks = { parsed := true, valid := true }
  failure : v.failure = none
  error : v.error = none

theorem running_parsed_valid : (({} : Verdict).parsed.valid).Running := ⟨rfl, rfl, rfl⟩

/-- The exits of judging a case. -/
inductive Verdict.Exit : Verdict → Prop where
  | stopped {v : Verdict} (h : v.Stopped) : Exit v
  | compared {v : Verdict} (c : Case) (written : String) (actual : Value) (h : v.Running) :
      Exit ((v.executed actual).compared c written)

theorem coherent_failed {ε : Type} [Described ε] {v : Verdict} {checks : Checks}
    {kind : FailureKind} (cause : ε) (hv : v.checks = checks)
    (hkind : kind ∈ [FailureKind.parse, .schema, .execution, .provider])
    (hvalid : checks.valid = true → checks.parsed = true) (hexecuted : checks.executed = false)
    (hcorrect : checks.correct = false) (hused : checks.toolsUsed = false) :
    Coherent (v.failed kind cause).checks (v.failed kind cause).failure
      (v.failed kind cause).error := by
  show Coherent v.checks (some kind) (some (summary cause))
  rw [hv]
  have hpassed : checks.passed = false := by
    rw [Checks.passed, hcorrect, Bool.and_false, Bool.false_and]
  refine ⟨?_, ?_, ?_, ?_, hvalid, ?_⟩
  · rw [hpassed]
    exact iff_of_false (Option.some_ne_none kind) Bool.false_ne_true
  · rw [hexecuted]
    refine iff_of_false (fun h ↦ ?_) fun h ↦ Bool.false_ne_true h.1
    rw [Option.some.inj h] at hkind
    exact absurd hkind (by decide)
  · exact iff_of_true rfl ⟨kind, hkind, rfl⟩
  · rw [hexecuted]
    exact fun h ↦ absurd h Bool.false_ne_true
  · rw [hcorrect, hused]
    rintro (h | h) <;> exact absurd h Bool.false_ne_true

theorem coherent_compared {v : Verdict} (hv : v.Running) (c : Case) (written : String)
    (actual : Value) :
    Coherent ((v.executed actual).compared c written).checks
      ((v.executed actual).compared c written).failure
      ((v.executed actual).compared c written).error := by
  simp only [Verdict.compared, Verdict.executed, hv.checks, hv.failure, hv.error]
  have hpassed : ∀ correct used : Bool,
      (⟨true, true, true, correct, used⟩ : Checks).passed = (correct && used) := by
    intro correct used
    rw [Checks.passed, Bool.true_and, Bool.true_and, Bool.true_and]
  refine ⟨?_, ?_, ?_, fun _ ↦ rfl, fun _ ↦ rfl, fun _ ↦ rfl⟩
  · rw [hpassed]
    split <;> simp [*]
  · rw [hpassed]
    split <;> simp [*]
  · split <;> simp

theorem Verdict.Exit.coherent {v : Verdict} (h : v.Exit) : Coherent v.checks v.failure v.error := by
  cases h with
  | stopped h =>
    obtain ⟨cause, hv, h⟩ := h
    cases h with
    | making hkind =>
      have hmore : ∀ k ∈ [FailureKind.parse, .schema, .provider],
          k ∈ [FailureKind.parse, .schema, .execution, .provider] := by decide
      exact coherent_failed cause hv (hmore _ hkind) (fun h ↦ h) rfl rfl rfl
    | reading => exact coherent_failed cause hv (by decide) (fun _ ↦ rfl) rfl rfl rfl
    | running => exact coherent_failed cause hv (by decide) (fun _ ↦ rfl) rfl rfl rfl
  | compared c written actual hv => exact coherent_compared hv c written actual

/-- What stopped for the form of its program was not found valid before. -/
theorem Verdict.Exit.valid_eq_false {v : Verdict} (h : v.Exit) (hkind : v.failure = some .schema) :
    v.checks.valid = false := by
  cases h with
  | stopped h =>
    obtain ⟨cause, hv, h⟩ := h
    cases h with
    | making _ => exact congrArg Checks.valid hv
    | reading => exact congrArg Checks.valid hv
    | running => cases hkind
  | compared c written actual hv =>
    simp only [Verdict.compared, Verdict.executed, hv.failure] at hkind
    split at hkind <;> cases hkind

/-! ## The exits of both kinds of benchmark -/

theorem exit_of_ofRun {v v' : Verdict} (hv : v.Running) {c : Case}
    {written : Except Fault String} {r : Except EvalFault Value}
    (h : v.ofRun c written r = .ok v') : v'.Exit := by
  rw [Verdict.ofRun.eq_def] at h
  split at h
  · next actual =>
    rcases written with f | text
    · cases h
    · obtain rfl := Except.ok.inj h
      exact .compared c text actual hv
  · cases h
  · next e _ =>
    obtain rfl := Except.ok.inj h
    exact .stopped (.of e hv.checks .running)

/-- An offline case stops before it has a program, or its program is run. -/
theorem judgeOffline_stops_or_runs {account : Account} {p : Provider σ} {c : OfflineCase} {s : σ}
    {v : Verdict} (h : (judgeOffline account p c s).1 = .ok v) :
    v.Stopped ∨ ∃ text form t, c.text = .ok text ∧ Json.read text = .ok form ∧
      programOf account form = .ok t ∧
      ({} : Verdict).parsed.valid.ofRun c.toCase (.ok text) (run p t s).result = .ok v := by
  rw [judgeOffline] at h
  split at h
  · cases h
  · next e _ _ =>
    obtain rfl := Except.ok.inj h
    exact Or.inl (.of e rfl (.making (by decide)))
  · next text htext =>
    rw [judgeText] at h
    split at h
    · cases h
    · next f _ _ =>
      obtain rfl := Except.ok.inj h
      exact Or.inl (.of (Fault.notJson f text) rfl (.making (by decide)))
    · next form hread =>
      split at h
      · next f _ =>
        obtain rfl := Except.ok.inj h
        exact Or.inl (.of f rfl .reading)
      · next t ht => exact Or.inr ⟨text, form, t, htext, hread, ht, h⟩

theorem judgeOffline_exit {account : Account} {p : Provider σ} {c : OfflineCase} {s : σ}
    {v : Verdict} (h : (judgeOffline account p c s).1 = .ok v) : v.Exit := by
  rcases judgeOffline_stops_or_runs h with hstopped | ⟨text, form, t, -, -, -, hrun⟩
  · exact .stopped hstopped
  · exact exit_of_ofRun running_parsed_valid hrun

theorem GenerationFault.kind_mem (e : GenerationFault) :
    e.kind ∈ [FailureKind.parse, .schema, .provider] := by
  rw [GenerationFault.kind.eq_def]
  split
  · decide
  · decide
  · decide
  · split <;> decide

/-- A live case stops before it has a program, or its program is run, unless what was made is not a
program as a whole. -/
theorem judgeLive_stops_or_runs {g : Generator σ θ τ} {c : Case} {w : World σ θ τ} {v : Verdict}
    (h : (judgeLive g c w).result = .ok v) :
    v.Stopped ∨ ∃ json t, (g.generate c.question w).result = .ok (json, t) ∧
      (t.isProgram = true ∧ ({} : Verdict).parsed.valid.ofRun c (writtenForm json)
          (run g.services.provider t (g.generate c.question w).state.provider).result = .ok v ∨
        t.isProgram = false ∧
          v = ({} : Verdict).parsed.valid.failed .schema TreeFault.notProgram) := by
  cases hmade : (g.generate c.question w).result with
  | error e =>
    refine Or.inl ?_
    by_cases he : e = .raised .cancelled
    · rw [he] at hmade
      have hfail : (judgeLive g c w).result = .error .cancelled :=
        (Effect.result_bind_of_ok (congrArg Except.ok hmade)).trans rfl
      rw [hfail] at h
      cases h
    · rw [judgeLive_of_error hmade he] at h
      obtain rfl := Except.ok.inj h
      exact .of e rfl (.making e.kind_mem)
  | ok found =>
    obtain ⟨json, t⟩ := found
    by_cases ht : t.isProgram = true
    · rw [judgeLive_of_program hmade ht] at h
      exact Or.inr ⟨json, t, rfl, Or.inl ⟨ht, h⟩⟩
    · have hstop : (judgeLive g c w).result =
          .ok (({} : Verdict).parsed.valid.failed .schema TreeFault.notProgram) := by
        refine (Effect.result_bind_of_ok (congrArg Except.ok hmade)).trans ?_
        simp only [if_neg ht]
        rfl
      rw [hstop] at h
      refine Or.inr ⟨json, t, rfl, Or.inr ⟨Bool.eq_false_of_not_eq_true ht, ?_⟩⟩
      exact (Except.ok.inj h).symm

/-- What a model has made was read from a valid answer, and pruned. -/
theorem exists_valid_of_generate {g : Generator σ θ τ} {query : String} {w : World σ θ τ}
    {json : Value} {t : Tree} (h : (g.generate query w).result = .ok (json, t)) :
    ∃ text u, Valid text json u ∧ g.prune u = .ok t := by
  rcases generate_records g query w with ⟨f, -, hrecords⟩ |
    ⟨offers, rejected, exchanges, outcome, -, hrecords, hconversation⟩
  · rw [hrecords.result] at h
    cases h
  · rw [hrecords.result, Generator.pruned.eq_def] at h
    split at h
    · cases h
    · next v u =>
      split at h
      · cases h
      · next t' hpruned =>
        obtain ⟨rfl, rfl⟩ := Prod.mk.inj (Except.ok.inj h)
        obtain ⟨reply, -, hending⟩ := hconversation.ended
        cases hending with
        | valid hvalid => exact ⟨_, u, hvalid, hpruned⟩

/-- What a model has made is a program, unless something else is made of it. -/
theorem isProgram_of_generate {g : Generator σ θ τ}
    (hprune : ∀ t u, t.isProgram = true → g.prune t = .ok u → u.isProgram = true) {query : String}
    {w : World σ θ τ} {json : Value} {t : Tree}
    (h : (g.generate query w).result = .ok (json, t)) : t.isProgram = true := by
  obtain ⟨text, u, hvalid, hpruned⟩ := exists_valid_of_generate h
  have hshape := (parse_eq_ok_iff.mp hvalid.parsed).2.1
  exact hprune u t (isWellShaped_iff.mp hshape).1 hpruned

/-! ## Reports -/

/-- The report on a case shows its verdict, and a latency that is not negative. -/
theorem exists_verdict_of_runCase [Measure κ] {b : Runner ω κ τ γ} {c : γ} {s : Timed ω τ}
    {r : CaseReport κ} (h : (b.runCase c s).result = .ok r) :
    ∃ j, (b.judge c s.world).result = .ok j ∧ r.checks = j.verdict.checks ∧
      r.failure = j.verdict.failure ∧ r.error = j.verdict.error ∧
      Measure.AtLeastZero r.latency := by
  have hlatency : ∀ x : κ, Measure.AtLeastZero (Measure.positivePart x) := by
    intro x
    rw [Measure.positivePart, Measure.larger]
    split
    · next hx => exact Or.inr hx
    · exact Or.inl rfl
  rcases hjudge : b.judge c s.world with ⟨e | j, w, events⟩
  · rw [Runner.runCase_of_error (e := e) (by rw [hjudge])] at h
    cases h
  · rw [Runner.runCase_of_ok hjudge] at h
    obtain rfl := Except.ok.inj h
    exact ⟨j, rfl, rfl, rfl, rfl, hlatency _⟩

theorem judgeOffline_of_judge [Measure κ] {account : Account} {p : Provider σ} {clock : Clock κ υ}
    {model provider : String} {c : OfflineCase} {s : σ} {j : Judged κ}
    (h : ((offlineRunner account p clock model provider).judge c s).result = .ok j) :
    (judgeOffline account p c s).1 = .ok j.verdict := by
  have hmap : (judgeOffline account p c s).1.map (fun v ↦ ({ verdict := v } : Judged κ)) = .ok j :=
    h
  obtain ⟨v, hv, rfl⟩ := exists_eq_ok_of_map hmap
  exact hv

theorem judgeLive_of_judge [Measure κ] {g : Generator σ θ τ} {takeUsage : θ → Usage × θ}
    {prices : Prices κ} {clock : Clock κ υ} {service : String} {c : Case} {w : World σ θ τ}
    {j : Judged κ} (h : ((liveRunner g takeUsage prices clock service).judge c w).result = .ok j) :
    (judgeLive g c w).result = .ok j.verdict := by
  cases hjudge : (judgeLive g c w).result with
  | error e =>
    have hfail := Effect.result_bind_of_error (f := withUsage takeUsage prices) hjudge
    rw [show ((liveRunner g takeUsage prices clock service).judge c w).result = _ from hfail] at h
    cases h
  | ok v =>
    have hgo := Effect.result_bind_of_ok (f := withUsage takeUsage prices) hjudge
    rw [show ((liveRunner g takeUsage prices clock service).judge c w).result = _ from hgo] at h
    rw [← Except.ok.inj h]

/-- **Reports are coherent**, on every case of both kinds of benchmark, and their latencies are not
negative whatever the clock says. What a model has made is a program as a whole, unless pruning
makes something else of it, which leaves programs as they are where nothing else is asked for. So a
report that blames the form of the program never calls it valid. -/
theorem reports_coherent [Measure κ] :
    (∀ (account : Account) (p : Provider σ) (clock : Clock κ υ) (model provider : String)
      (c : OfflineCase) (s : Timed σ υ) (r : CaseReport κ),
      ((offlineRunner account p clock model provider).runCase c s).result = .ok r →
        Coherent r.checks r.failure r.error ∧ Measure.AtLeastZero r.latency) ∧
    ∀ (g : Generator σ θ τ) (takeUsage : θ → Usage × θ) (prices : Prices κ) (clock : Clock κ υ)
      (service : String),
      (∀ (c : Case) (w : Timed (World σ θ τ) υ) (r : CaseReport κ),
        ((liveRunner g takeUsage prices clock service).runCase c w).result = .ok r →
          Coherent r.checks r.failure r.error ∧ Measure.AtLeastZero r.latency) ∧
      ((∀ t u, t.isProgram = true → g.prune t = .ok u → u.isProgram = true) →
        (∀ (query : String) (w : World σ θ τ) (json : Value) (t : Tree),
          (g.generate query w).result = .ok (json, t) → t.isProgram = true) ∧
        ∀ (c : Case) (w : Timed (World σ θ τ) υ) (r : CaseReport κ),
          ((liveRunner g takeUsage prices clock service).runCase c w).result = .ok r →
            r.failure = some .schema → r.checks.valid = false) := by
  refine ⟨fun account p clock model provider c s r hr ↦ ?_, fun g takeUsage prices clock service ↦
    ⟨fun c w r hr ↦ ?_, fun hprune ↦ ⟨fun query w json t h ↦ isProgram_of_generate hprune h,
      fun c w r hr hschema ↦ ?_⟩⟩⟩
  · obtain ⟨j, hjudge, hchecks, hfailure, herror, hlatency⟩ := exists_verdict_of_runCase hr
    rw [hchecks, hfailure, herror]
    exact ⟨(judgeOffline_exit (judgeOffline_of_judge hjudge)).coherent, hlatency⟩
  · obtain ⟨j, hjudge, hchecks, hfailure, herror, hlatency⟩ := exists_verdict_of_runCase hr
    rw [hchecks, hfailure, herror]
    refine ⟨?_, hlatency⟩
    rcases judgeLive_stops_or_runs (judgeLive_of_judge hjudge) with
      hstopped | ⟨json, t, -, ⟨-, hrun⟩ | ⟨-, hv⟩⟩
    · exact (Verdict.Exit.stopped hstopped).coherent
    · exact (exit_of_ofRun running_parsed_valid hrun).coherent
    · rw [hv]
      exact coherent_failed TreeFault.notProgram rfl (by decide) (fun _ ↦ rfl) rfl rfl rfl
  · obtain ⟨j, hjudge, hchecks, hfailure, -, -⟩ := exists_verdict_of_runCase hr
    rw [hfailure] at hschema
    rw [hchecks]
    rcases judgeLive_stops_or_runs (judgeLive_of_judge hjudge) with
      hstopped | ⟨json, t, hmade, ⟨-, hrun⟩ | ⟨ht, -⟩⟩
    · exact (Verdict.Exit.stopped hstopped).valid_eq_false hschema
    · exact (exit_of_ofRun running_parsed_valid hrun).valid_eq_false hschema
    · rw [isProgram_of_generate hprune hmade] at ht
      cases ht

theorem reports_coherent_told :
    (∃ r, ((offlineRunner .reasons noTools (.prepared (0 : ℚ))).runCase
        (textCase "call" (callText "ask")) ⟨(), [5, 3]⟩).result = .ok r ∧
      r.failure = some .execution ∧ r.latency = 0 ∧
      Coherent r.checks r.failure r.error ∧ Measure.AtLeastZero r.latency) ∧
    (∃ r, ((liveRunner told (fun texts ↦ ({}, texts)) ⟨0, 0⟩ (.prepared (0 : ℚ))).runCase
        (trueCase "list") ⟨⟨(), ["[]"], []⟩, [3, 5]⟩).result = .ok r ∧
      r.failure = some .schema ∧ r.latency = 2000 ∧ r.checks.valid = false ∧
      Coherent r.checks r.failure r.error ∧ Measure.AtLeastZero r.latency) ∧
    (∀ t u, t.isProgram = true → told.prune t = .ok u → u.isProgram = true) ∧
    ∃ json t, (told.generate "Is it so?" ⟨(), [leafText "yes"], []⟩).result = .ok (json, t) ∧
      t.isProgram = true := by
  have hprune : ∀ t u, t.isProgram = true → told.prune t = .ok u → u.isProgram = true := by
    rintro t _ ht ⟨⟩
    exact ht
  obtain ⟨hoffline, hlive⟩ :=
    reports_coherent (σ := Unit) (θ := List String) (τ := List Float) (υ := List ℚ) (κ := ℚ)
  refine ⟨?_, ?_, hprune, ?_⟩
  · have hshown : (((offlineRunner .reasons noTools (.prepared (0 : ℚ))).runCase
        (textCase "call" (callText "ask")) ⟨(), [5, 3]⟩).result.map
          fun r ↦ (r.failure, r.latency)) = .ok (some .execution, 0) := by decide +kernel
    obtain ⟨r, hr, hparts⟩ := exists_eq_ok_of_map hshown
    obtain ⟨hfailure, hlatency⟩ := Prod.mk.inj hparts
    exact ⟨r, hr, hfailure, hlatency, hoffline _ _ _ _ _ _ _ r hr⟩
  · obtain ⟨hcoherent, hpruned⟩ :=
      hlive told (fun texts ↦ ({}, texts)) ⟨0, 0⟩ (.prepared (0 : ℚ)) "openai"
    have hshown : (((liveRunner told (fun texts ↦ ({}, texts)) ⟨0, 0⟩ (.prepared (0 : ℚ))).runCase
        (trueCase "list") ⟨⟨(), ["[]"], []⟩, [3, 5]⟩).result.map
          fun r ↦ (r.failure, r.latency)) = .ok (some .schema, 2000) := by decide +kernel
    obtain ⟨r, hr, hparts⟩ := exists_eq_ok_of_map hshown
    obtain ⟨hfailure, hlatency⟩ := Prod.mk.inj hparts
    exact ⟨r, hr, hfailure, hlatency, (hpruned hprune).2 _ _ r hr hfailure, hcoherent _ _ r hr⟩
  · have hpruned := (hlive told (fun texts ↦ ({}, texts)) ⟨0, 0⟩ (.prepared (0 : ℚ)) "openai").2
    have hshown : ((told.generate "Is it so?" ⟨(), [leafText "yes"], []⟩).result.map
        fun _ ↦ ()) = .ok () := by decide +kernel
    obtain ⟨⟨json, t⟩, hmade, -⟩ := exists_eq_ok_of_map hshown
    exact ⟨json, t, hmade, (hpruned hprune).1 _ _ json t hmade⟩

end CallTree
