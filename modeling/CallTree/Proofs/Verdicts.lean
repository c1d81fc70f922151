import CallTree.Proofs.Accepted
import CallTree.Proofs.Benchmarks

/-!
# The verdict on a text

One text can be the program of an offline case, and the answer of a model in a live case. Two
functions judge it: `judgeText` sets the checks of a verdict stage by stage, `judgeLive` only after
a program was made. A standing is what both say of the case, without times, tokens and wordings.

A text is not JSON, has a numeral that is too long, is no program or is a program (`text_cases`),
and for each of these there is one lemma about either function. `standing_eq_iff_judgedAlike` puts
them next to each other.
-/

namespace CallTree

open Report

variable {σ θ τ κ υ ω γ : Type}

/-! ## Standings -/

/-- How far a case came and where it failed. -/
abbrev Standing := Checks × Option FailureKind

/-- The standing in a verdict. -/
def Verdict.standing (v : Verdict) : Standing := (v.checks, v.failure)

/-- The standing in the report on a case. -/
def CaseReport.standing (r : CaseReport κ) : Standing := (r.checks, r.failure)

/-- The standing of a case that is run, unless it has no verdict. -/
def Runner.standing [Measure κ] (b : Runner ω κ τ γ) (c : γ) (s : Timed ω τ) :
    Except Fault Standing :=
  (b.runCase c s).result.map CaseReport.standing

/-- Times and events have no part in a standing. -/
theorem Runner.standing_eq [Measure κ] (b : Runner ω κ τ γ) (c : γ) (s : Timed ω τ) :
    b.standing c s = (b.judge c s.world).result.map fun j ↦ j.verdict.standing := by
  rw [standing]
  rcases h : b.judge c s.world with ⟨e | j, w, events⟩
  · rw [runCase_of_error (e := e) (by rw [h])]
    rfl
  · rw [runCase_of_ok h]
    rfl

/-! ## Live cases with one exchange -/

section

variable {g : Generator σ θ τ} {c : Case} {w : World σ θ τ}

theorem judgeLive_of_error {e : GenerationFault} (h : (g.generate c.question w).result = .error e)
    (he : e ≠ .raised .cancelled) :
    (judgeLive g c w).result = .ok (({} : Verdict).failed e.kind e) := by
  refine (Effect.result_bind_of_ok (congrArg Except.ok h)).trans ?_
  cases e with
  | rejected r => rfl
  | raised f => cases f <;> first | exact absurd rfl he | rfl

theorem judgeLive_of_program {json : Value} {t : Tree}
    (h : (g.generate c.question w).result = .ok (json, t)) (ht : t.isProgram = true) :
    (judgeLive g c w).result = ({} : Verdict).parsed.valid.ofRun c (writtenForm json)
      (run g.services.provider t (g.generate c.question w).state.provider).result := by
  refine (Effect.result_bind_of_ok (congrArg Except.ok h)).trans ?_
  simp only [if_pos ht]
  refine (Effect.result_bind_of_ok rfl).trans ?_
  show (Effect.ofExcept (({} : Verdict).parsed.valid.ofRun c (writtenForm json)
    (run g.services.provider t (g.generate c.question w).state.provider).result) _).result = _
  cases ({} : Verdict).parsed.valid.ofRun c (writtenForm json)
    (run g.services.provider t (g.generate c.question w).state.provider).result <;> rfl

/-- One exchange without repairs. -/
theorem converse_once {account : Account} {sv : Services σ θ τ} {config : Config}
    {offers : List Value} {attempt : Nat} {messages : List Message} {text : String}
    (h : (sv.transport.complete (programRequest config offers messages) w.transport).1 =
      .ok (some text)) :
    (converse account sv config offers attempt 0 messages w).result =
      (judge account text).mapError .rejected := by
  rcases hreply : sv.transport.complete (programRequest config offers messages) w.transport with
    ⟨reply, s⟩
  rw [hreply] at h
  subst h
  have hcomplete : ((complete sv (programRequest config offers messages) config.timeout).failingAs
      GenerationFault.raised w).result = .ok text := by
    rw [Effect.failingAs, complete_run hreply config.timeout]
    rfl
  rw [converse.eq_def]
  refine (Effect.result_bind_of_ok hcomplete).trans ?_
  cases judge account text <;> rfl

theorem generate_of_offers_error {query : String} {f : Fault}
    (h : (g.offers query w.provider).1 = .error f) :
    (g.generate query w).result = .error (.raised f) := by
  rcases generate_records g query w with ⟨f', hf, hrecords⟩ | ⟨offers, _, _, _, hoffers, -, -⟩
  · obtain rfl : f' = f := Except.error.inj (hf.symm.trans h)
    exact hrecords.result
  · rw [h] at hoffers
    cases hoffers

theorem provider_generate (query : String) :
    (g.generate query w).state.provider = (g.offers query w.provider).2 := by
  rcases generate_records g query w with ⟨_, -, hrecords⟩ | ⟨_, _, _, _, -, hrecords, -⟩
  · exact hrecords.provider
  · exact hrecords.provider

/-- A generator that asks once, gets a text and takes the program in it as it is. -/
structure Generator.AsksOnce (g : Generator σ θ τ) (w : World σ θ τ) (text : String) : Prop where
  retries : g.config.retries = 0
  prune : ∀ t, g.prune t = .ok t
  answer : ∀ request, (g.services.transport.complete request w.transport).1 = .ok (some text)

/-- Such a generator gives the judgement on the text. -/
theorem generate_of_asksOnce {query text : String} {offers : List Value} (h : g.AsksOnce w text)
    (hoffers : (g.offers query w.provider).1 = .ok offers) :
    (g.generate query w).result = (judge g.account text).mapError .rejected := by
  rw [Generator.offers] at hoffers
  rcases hselect : g.select g.services.provider query w.provider with ⟨f | tools, s⟩
  · rw [hselect] at hoffers
    cases hoffers
  rw [hselect] at hoffers
  have hoffers : tools.mapM toolOffer = .ok offers := hoffers
  have hasked : (Flow.askProvider (g.select g.services.provider query) : Flow σ θ τ _ _).failingAs
      GenerationFault.raised w = ⟨.ok tools, ⟨s, w.transport, w.clock⟩, []⟩ := by
    rw [Effect.failingAs, Flow.askProvider, hselect]
    rfl
  refine (Effect.result_bind_of_ok (a := tools) (by rw [hasked])).trans ?_
  rw [hasked, hoffers]
  refine (Effect.result_bind_of_ok (a := offers) rfl).trans ?_
  rw [h.retries]
  have hloop : (converse g.account g.services g.config offers 0 0 (openingMessages g.history query)
      ⟨s, w.transport, w.clock⟩).result = (judge g.account text).mapError .rejected :=
    converse_once (h.answer _)
  cases hjudge : judge g.account text with
  | error r =>
    rw [hjudge] at hloop
    exact Effect.result_bind_of_error hloop
  | ok found =>
    rw [hjudge] at hloop
    refine (Effect.result_bind_of_ok hloop).trans ?_
    simp only [h.prune]
    rfl

end

/-! ## What a text is -/

/-- A text that is not JSON. -/
def Malformed (text : String) : Prop :=
  ∃ what offset, Json.read text = .error (.malformed what offset)

/-- A text that is JSON and no program. -/
def NoProgram (text : String) : Prop := ∃ v, Json.read text = .ok v ∧ ∀ t, ¬ Valid text v t

/-- A text is not JSON, has a numeral that is too long, is no program, or is a program. -/
theorem text_cases (text : String) :
    Malformed text ∨ (∃ n, Json.read text = .error (.longNumeral n)) ∨ NoProgram text ∨
      ∃ v t, Valid text v t := by
  cases hread : Json.read text with
  | error f =>
    cases f with
    | malformed what offset => exact Or.inl ⟨what, offset, hread⟩
    | longNumeral n => exact Or.inr (Or.inl ⟨n, rfl⟩)
  | ok v =>
    by_cases hvalid : ∃ t, Valid text v t
    · exact Or.inr (Or.inr (Or.inr ⟨v, hvalid⟩))
    · exact Or.inr (Or.inr (Or.inl ⟨v, hread, fun t ht ↦ hvalid ⟨t, ht⟩⟩))

/-- Both judgements on a text that is no program say so. -/
theorem exists_error_of_noProgram (account : Account) {text : String} {v : Value}
    (hread : Json.read text = .ok v) (h : ∀ t, ¬ Valid text v t) :
    (∃ f, programOf account v = .error f) ∧
      ∃ r, judge account text = .error r ∧ (GenerationFault.rejected r).kind = .schema := by
  obtain ⟨v', t, -, hvalid⟩ | ⟨r, hjudge, hinvalid⟩ := judge_cases account text
  · obtain rfl : v = v' := Except.ok.inj (hread.symm.trans hvalid.read)
    exact absurd hvalid (h t)
  · cases hinvalid with
    | notJson hf =>
      rw [hread] at hf
      cases hf
    | @notMapping v' hread' hv =>
      obtain rfl : v = v' := Except.ok.inj (hread.symm.trans hread')
      refine ⟨⟨.notMapping, ?_⟩, _, hjudge, rfl⟩
      cases v with
      | map es => exact absurd rfl (hv es)
      | _ => rfl
    | @notProgram es f hread' hparse =>
      obtain rfl : v = .map es := Except.ok.inj (hread.symm.trans hread')
      refine ⟨⟨.rejected ⟨f, account (.map es) f⟩, ?_⟩, _, hjudge, rfl⟩
      rw [programOf, parseOrRefuse, hparse]
      rfl

theorem programOf_of_valid {account : Account} {text : String} {v : Value} {t : Tree}
    (h : Valid text v t) : programOf account v = .ok t := by
  obtain ⟨es, rfl⟩ := h.mapping
  rw [programOf, parseOrRefuse, h.parsed]
  rfl

/-! ## The standings of a text -/

/-- Where no words are asked for, the written form of a program has no part in the standing. -/
theorem standing_ofRun {v : Verdict} {c : Case} (hc : c.mustUse = []) (text text' : String)
    (r : Except EvalFault Value) :
    (v.ofRun c (.ok text) r).map Verdict.standing =
      (v.ofRun c (.ok text') r).map Verdict.standing := by
  have hused : ∀ written, usesAll c.mustUse written = true := by
    intro written
    rw [hc]
    rfl
  cases r with
  | error e =>
    cases e with
    | raised f => cases f <;> rfl
    | _ => rfl
  | ok actual =>
    rw [Verdict.ofRun, Verdict.ofRun]
    simp only [Except.map, Verdict.compared, hused]

/-- A case whose program was run has come past reading it. -/
theorem standing_ofRun_ne (c : Case) (text : String) (r : Except EvalFault Value)
    (failure : Option FailureKind) :
    (({} : Verdict).parsed.valid.ofRun c (.ok text) r).map Verdict.standing ≠
      .ok ({}, failure) := by
  have hchecks : ∀ {checks : Checks} {f : Option FailureKind}, checks.parsed = true →
      (Except.ok (checks, f) : Except Fault Standing) ≠ .ok ({}, failure) := by
    rintro _ _ hparsed ⟨⟩
    cases hparsed
  cases r with
  | error e =>
    cases e with
    | raised f =>
      cases f with
      | cancelled => rintro ⟨⟩
      | _ => exact hchecks rfl
    | _ => exact hchecks rfl
  | ok v => exact hchecks rfl

section

variable [Measure κ] {account : Account} {p : Provider σ} {clock : Clock κ τ}
  {model provider : String} {c : Case} {text : String} {s : Timed σ τ}

theorem standing_offline :
    (offlineRunner account p clock model provider).standing ⟨c, .str text⟩ s =
      (judgeText account p c text {} s.world).1.map Verdict.standing := by
  rw [Runner.standing_eq]
  show Except.map _ (Except.map _ (judgeText account p c text {} s.world).1) = _
  cases (judgeText account p c text {} s.world).1 <;> rfl

theorem offline_of_malformed (h : Malformed text) :
    (offlineRunner account p clock model provider).standing ⟨c, .str text⟩ s =
      .ok ({}, some .parse) := by
  obtain ⟨what, offset, hread⟩ := h
  rw [standing_offline, judgeText]
  simp only [hread]
  rfl

theorem offline_of_longNumeral {n : Nat} (h : Json.read text = .error (.longNumeral n)) :
    (offlineRunner account p clock model provider).standing ⟨c, .str text⟩ s =
      .error (.notJson (.longNumeral n) text) := by
  rw [standing_offline, judgeText]
  simp only [h]
  rfl

theorem offline_of_noProgram (h : NoProgram text) :
    (offlineRunner account p clock model provider).standing ⟨c, .str text⟩ s =
      .ok ({ parsed := true }, some .schema) := by
  obtain ⟨v, hread, hv⟩ := h
  obtain ⟨⟨f, hf⟩, -⟩ := exists_error_of_noProgram account hread hv
  rw [standing_offline, judgeText]
  simp only [hread, hf]
  rfl

theorem offline_of_valid {v : Value} {t : Tree} (h : Valid text v t) :
    (offlineRunner account p clock model provider).standing ⟨c, .str text⟩ s =
      (({} : Verdict).parsed.valid.ofRun c (.ok text) (run p t s.world).result).map
        Verdict.standing := by
  rw [standing_offline, judgeText]
  simp only [h.read, programOf_of_valid h]

end

section

variable [Measure κ] {g : Generator σ θ τ} {takeUsage : θ → Usage × θ} {prices : Prices κ}
  {clock : Clock κ υ} {service : String} {c : Case} {text : String} {s : Timed (World σ θ τ) υ}

theorem standing_live : (liveRunner g takeUsage prices clock service).standing c s =
    (judgeLive g c s.world).result.map Verdict.standing := by
  rw [Runner.standing_eq]
  cases h : (judgeLive g c s.world).result with
  | error e =>
    rw [show ((liveRunner g takeUsage prices clock service).judge c s.world).result = .error e from
      Effect.result_bind_of_error h]
    rfl
  | ok v =>
    rw [show ((liveRunner g takeUsage prices clock service).judge c s.world).result = _ from
      Effect.result_bind_of_ok h]
    rfl

/-- Without tools to show, a live case fails before there is a text. -/
theorem live_of_offers_error {f : Fault} (h : (g.offers c.question s.world.provider).1 = .error f)
    (hf : f ≠ .cancelled) :
    (liveRunner g takeUsage prices clock service).standing c s =
      .ok ({}, some (GenerationFault.raised f).kind) := by
  have hne : GenerationFault.raised f ≠ .raised .cancelled :=
    fun h ↦ hf (GenerationFault.raised.inj h)
  rw [standing_live, judgeLive_of_error (generate_of_offers_error h) hne]
  rfl

variable {offers : List Value} (hg : g.AsksOnce s.world text)
  (hoffers : (g.offers c.question s.world.provider).1 = .ok offers)

include hg hoffers

theorem live_of_rejected {r : Rejection} (h : judge g.account text = .error r) :
    (liveRunner g takeUsage prices clock service).standing c s =
      .ok ({}, some (GenerationFault.rejected r).kind) := by
  have hgenerate : (g.generate c.question s.world).result = .error (.rejected r) := by
    rw [generate_of_asksOnce hg hoffers, h]
    rfl
  rw [standing_live, judgeLive_of_error hgenerate (by rintro ⟨⟩)]
  rfl

theorem live_of_malformed (h : Malformed text) :
    (liveRunner g takeUsage prices clock service).standing c s = .ok ({}, some .parse) := by
  obtain ⟨what, offset, hread⟩ := h
  have hjudge : judge g.account text = .error (.notJson (.malformed what offset) text) := by
    rw [judge, hread]
  exact live_of_rejected hg hoffers hjudge

theorem live_of_longNumeral {n : Nat} (h : Json.read text = .error (.longNumeral n)) :
    (liveRunner g takeUsage prices clock service).standing c s = .ok ({}, some .schema) := by
  have hjudge : judge g.account text = .error (.notJson (.longNumeral n) text) := by
    rw [judge, h]
  exact live_of_rejected hg hoffers hjudge

theorem live_of_noProgram (h : NoProgram text) :
    (liveRunner g takeUsage prices clock service).standing c s = .ok ({}, some .schema) := by
  obtain ⟨v, hread, hv⟩ := h
  obtain ⟨-, r, hjudge, hkind⟩ := exists_error_of_noProgram g.account hread hv
  rw [live_of_rejected hg hoffers hjudge, hkind]

theorem live_of_valid {v : Value} {t : Tree} (h : Valid text v t) (hc : c.mustUse = []) :
    (liveRunner g takeUsage prices clock service).standing c s =
      (({} : Verdict).parsed.valid.ofRun c (.ok text) (run g.services.provider t
        (g.offers c.question s.world.provider).2).result).map Verdict.standing := by
  have hgenerate : (g.generate c.question s.world).result = .ok (v, t) := by
    rw [generate_of_asksOnce hg hoffers, judge_eq_ok_iff.mpr h]
    rfl
  have hprogram : t.isProgram = true :=
    (isWellShaped_iff.mp (parse_eq_ok_iff.mp h.parsed).2.1).1
  -- the live case looks at the mapping written anew, not at the text it was read from
  obtain ⟨written, hwritten⟩ := exists_write_of_read h.read
  have hform : writtenForm v = .ok written := by
    rw [writtenForm, hwritten]
    rfl
  rw [standing_live, judgeLive_of_program hgenerate hprogram, provider_generate, hform]
  exact standing_ofRun hc _ _ _

end

/-! ## The two kinds of benchmark -/

/-- The texts that both kinds of benchmark judge alike, from what came of showing the tools. -/
inductive JudgedAlike (text : String) : Except Fault (List Value) → Prop where
  | malformed {offers : List Value} (h : Malformed text) : JudgedAlike text (.ok offers)
  | program {offers : List Value} {v : Value} {t : Tree} (h : Valid text v t) :
      JudgedAlike text (.ok offers)
  /-- Both fail in reading something, if not the same thing. -/
  | unlisted {f : Fault} (h : Malformed text) (hf : (GenerationFault.raised f).kind = .parse) :
      JudgedAlike text (.error f)

theorem Malformed.read_ne {text : String} (h : Malformed text) :
    (∀ v, Json.read text ≠ .ok v) ∧ ∀ n, Json.read text ≠ .error (.longNumeral n) := by
  obtain ⟨what, offset, hread⟩ := h
  rw [hread]
  constructor
  · rintro _ ⟨⟩
  · rintro _ ⟨⟩

section

variable [Measure κ] {account : Account} {g : Generator σ θ τ} {takeUsage : θ → Usage × θ}
  {prices : Prices κ} {clock : Clock κ υ} {model provider service : String} {c : Case}
  {text : String} {s : Timed σ υ} {w : Timed (World σ θ τ) υ}

theorem standing_eq_iff_of_error {f : Fault}
    (hf : (g.offers c.question w.world.provider).1 = .error f) (hne : f ≠ .cancelled) :
    (offlineRunner account g.services.provider clock model provider).standing ⟨c, .str text⟩ s =
        (liveRunner g takeUsage prices clock service).standing c w ↔
      JudgedAlike text (.error f) := by
  rw [live_of_offers_error hf hne]
  constructor
  · intro h
    rcases text_cases text with hm | ⟨n, hn⟩ | hno | ⟨v, t, hv⟩
    · rw [offline_of_malformed hm] at h
      have hkind := (Prod.mk.inj (Except.ok.inj h)).2
      exact .unlisted hm (Option.some.inj hkind).symm
    · rw [offline_of_longNumeral hn] at h
      cases h
    · rw [offline_of_noProgram hno] at h
      cases h
    · rw [offline_of_valid hv] at h
      exact absurd h (standing_ofRun_ne c text _ _)
  · intro h
    cases h with
    | unlisted hm hkind => rw [offline_of_malformed hm, hkind]

theorem standing_eq_iff_of_ok {offers : List Value} (hg : g.AsksOnce w.world text)
    (hoffers : (g.offers c.question w.world.provider).1 = .ok offers) (hc : c.mustUse = [])
    (hstates : ∀ v t, Valid text v t → (run g.services.provider t s.world).result =
      (run g.services.provider t (g.offers c.question w.world.provider).2).result) :
    (offlineRunner account g.services.provider clock model provider).standing ⟨c, .str text⟩ s =
        (liveRunner g takeUsage prices clock service).standing c w ↔
      JudgedAlike text (.ok offers) := by
  have halike : JudgedAlike text (.ok offers) ↔ Malformed text ∨ ∃ v t, Valid text v t := by
    constructor
    · intro h
      cases h with
      | malformed hm => exact Or.inl hm
      | program hv => exact Or.inr ⟨_, _, hv⟩
    · rintro (hm | ⟨v, t, hv⟩)
      · exact .malformed hm
      · exact .program hv
  rw [halike]
  -- only for a program does it matter in which states the provider is
  rcases text_cases text with hm | ⟨n, hn⟩ | hno | ⟨v, t, hv⟩
  · rw [offline_of_malformed hm, live_of_malformed hg hoffers hm]
    exact iff_of_true rfl (Or.inl hm)
  · rw [offline_of_longNumeral hn, live_of_longNumeral hg hoffers hn]
    refine iff_of_false (by rintro ⟨⟩) ?_
    rintro (hm | ⟨v, t, hv⟩)
    · exact hm.read_ne.2 n hn
    · rw [hv.read] at hn
      cases hn
  · rw [offline_of_noProgram hno, live_of_noProgram hg hoffers hno]
    refine iff_of_false (by rintro ⟨⟩) ?_
    obtain ⟨v, hread, hnot⟩ := hno
    rintro (hm | ⟨v', t, hv⟩)
    · exact hm.read_ne.1 v hread
    · obtain rfl : v = v' := Except.ok.inj (hread.symm.trans hv.read)
      exact hnot t hv
  · rw [offline_of_valid hv, live_of_valid hg hoffers hv hc, hstates v t hv]
    exact iff_of_true rfl (Or.inr ⟨v, t, hv⟩)

/-- **When both kinds of benchmark judge a text alike.** A text is given as the program of an
offline case, and is the only answer to the question of a live case. Where the tools could be shown,
both cases come equally far and fail in the same place exactly if the text is not JSON or is a
program. A text that is JSON and no program fails in the same place, but only the offline case
counts as parsed; a text with a numeral that is too long has a verdict only in the live case. -/
theorem standing_eq_iff_judgedAlike (hg : g.AsksOnce w.world text) (hc : c.mustUse = [])
    (hlisting : (g.offers c.question w.world.provider).1 ≠ .error .cancelled)
    (hstates : ∀ v t, Valid text v t → (run g.services.provider t s.world).result =
      (run g.services.provider t (g.offers c.question w.world.provider).2).result) :
    ((offlineRunner account g.services.provider clock model provider).standing ⟨c, .str text⟩ s =
        (liveRunner g takeUsage prices clock service).standing c w ↔
      JudgedAlike text (g.offers c.question w.world.provider).1) ∧
    ∀ offers, (g.offers c.question w.world.provider).1 = .ok offers →
      (NoProgram text →
        (offlineRunner account g.services.provider clock model provider).standing ⟨c, .str text⟩ s =
          .ok ({ parsed := true }, some .schema) ∧
        (liveRunner g takeUsage prices clock service).standing c w = .ok ({}, some .schema)) ∧
      ∀ n, Json.read text = .error (.longNumeral n) →
        (offlineRunner account g.services.provider clock model provider).standing ⟨c, .str text⟩ s =
          .error (.notJson (.longNumeral n) text) ∧
        (liveRunner g takeUsage prices clock service).standing c w = .ok ({}, some .schema) := by
  refine ⟨?_, fun offers hoffers ↦ ⟨fun hno ↦ ?_, fun n hn ↦ ?_⟩⟩
  · cases hoffers : (g.offers c.question w.world.provider).1 with
    | error f =>
      rw [hoffers] at hlisting
      exact standing_eq_iff_of_error hoffers fun hf ↦ hlisting (congrArg Except.error hf)
    | ok offers => exact standing_eq_iff_of_ok hg hoffers hc hstates
  · exact ⟨offline_of_noProgram hno, live_of_noProgram hg hoffers hno⟩
  · exact ⟨offline_of_longNumeral hn, live_of_longNumeral hg hoffers hn⟩

end

/-- The standing of a text that is given. -/
def givenStanding (text : String) : Except Fault Standing :=
  (offlineRunner .reasons noTools (.prepared (0.0 : Float))).standing
    ⟨trueCase "text", .str text⟩ ⟨(), []⟩

/-- The standing of a text that a generator is told. -/
def toldStanding (g : Generator Unit (List String) (List Float)) (text : String) :
    Except Fault Standing :=
  (liveRunner g (fun texts ↦ ({}, texts)) ⟨0.0, 0.0⟩ (.prepared (0.0 : Float))).standing
    (trueCase "text") ⟨⟨(), [text], []⟩, []⟩

theorem told_asksOnce (text : String) : told.AsksOnce ⟨(), [text], []⟩ text :=
  ⟨rfl, fun _ ↦ rfl, fun _ ↦ rfl⟩

theorem standing_eq_iff_judgedAlike_callText :
    told.AsksOnce ⟨(), [callText "ask"], []⟩ (callText "ask") ∧ (trueCase "text").mustUse = [] ∧
      (told.offers "Is it so?" ()).1 = .ok [] ∧ JudgedAlike (callText "ask") (.ok []) ∧
      givenStanding (callText "ask") = toldStanding told (callText "ask") := by
  have halike : JudgedAlike (callText "ask") (.ok []) := by
    obtain ⟨v, t, -, hv⟩ | ⟨r, hjudge, -⟩ :=
      judge_cases .reasons (callText "ask")
    · exact .program hv
    · have hvalid : (judge .reasons (callText "ask")).isOk = true := by decide +kernel
      rw [hjudge] at hvalid
      cases hvalid
  have hiff : givenStanding (callText "ask") = toldStanding told (callText "ask") ↔
      JudgedAlike (callText "ask") (told.offers "Is it so?" ()).1 :=
    (standing_eq_iff_judgedAlike (w := ⟨⟨(), [callText "ask"], []⟩, []⟩) (told_asksOnce _) rfl
      (by rintro ⟨⟩) fun _ _ _ ↦ rfl).1
  exact ⟨told_asksOnce _, rfl, rfl, halike, hiff.mpr halike⟩

/-- Texts that the two kinds of benchmark judge differently. -/
theorem texts_judged_differently :
    (givenStanding "[]" = .ok ({ parsed := true }, some .schema) ∧
      toldStanding told "[]" = .ok ({}, some .schema)) ∧
    (givenStanding "\x7b\x7d" = .ok ({ parsed := true }, some .schema) ∧
      toldStanding told "\x7b\x7d" = .ok ({}, some .schema)) ∧
    (givenStanding longNumeralText = .error (.notJson (.longNumeral 4301) longNumeralText) ∧
      toldStanding told longNumeralText = .ok ({}, some .schema)) ∧
    (givenStanding (leafText "yes") = .ok (⟨true, true, true, true, true⟩, none) ∧
      toldStanding { told with select := noSelector } (leafText "yes") =
        .ok ({}, some .provider)) := by
  refine ⟨⟨by decide +kernel, by decide +kernel⟩, ⟨by decide +kernel, by decide +kernel⟩,
    ⟨offline_of_longNumeral read_longNumeralText, ?_⟩, ⟨by decide +kernel, by decide +kernel⟩⟩
  exact live_of_longNumeral (told_asksOnce longNumeralText) rfl read_longNumeralText

end CallTree
