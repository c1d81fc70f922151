import CallTree.Proofs.Gate

/-!
# The criteria of the gate

The gate compares rates, means and sums. What it decides can be said of the cases alone: which of
them meet a quality, how long they took and what they used (`Criterion.Holds`). A rate is a number
of cases divided by the number of all cases, and a mean latency is a total divided by the same
number. Both results have as many cases once their case ids agree, so that the divisor can be
multiplied out; if there are no cases at all, everything is zero and no criterion is violated by
results with tolerances that are not negative (`div_le_div_add_iff`).

The issues of a comparison name the violated criteria, in a fixed order and each once. The criteria
of identity come first, and if one of them is violated the others are not looked at
(`gate_iff_criteria`).
-/

namespace CallTree

/-! ## Criteria -/

/-- A criterion of the gate. -/
inductive Criterion where
  | version
  | mode
  | model
  | provider
  | caseIds
  | quality (q : Quality)
  | totalLatency
  | largestLatency
  | promptTokens
  | completionTokens
  | cost
  deriving DecidableEq, Repr

namespace Criterion

/-- The criteria of identity, in the order of issues. -/
def identities : List Criterion := [version, mode, model, provider, caseIds]

/-- The criteria of quality and of resources, in the order of issues. -/
def measured : List Criterion :=
  Quality.all.map quality ++
    [totalLatency, largestLatency, promptTokens, completionTokens, cost]

/-- The kind and the name under which an issue shows a criterion. -/
def name : Criterion → IssueKind × String
  | version => (.identity, "dataset_version")
  | mode => (.identity, "mode")
  | model => (.identity, "model")
  | provider => (.identity, "provider")
  | caseIds => (.identity, "case_ids")
  | quality q => (.quality, q.metric)
  | totalLatency => (.latency, "mean_latency_ms")
  | largestLatency => (.latency, "max_latency_ms")
  | promptTokens => (.tokens, "prompt_tokens")
  | completionTokens => (.tokens, "completion_tokens")
  | cost => (.cost, "estimated_cost_usd")

/-- An amount is within the limit that a baseline, a share of it and an allowance set. -/
def Within (baseline current ratio absolute : ℚ) : Prop :=
  current ≤ baseline * (1 + ratio) + absolute

instance (baseline current ratio absolute : ℚ) :
    Decidable (Within baseline current ratio absolute) :=
  inferInstanceAs (Decidable (_ ≤ _))

/-- What a criterion asks of the cases of two results. Only the total latency has an allowance for
each case; the largest latency of no cases is zero. -/
def Holds (baseline current : RunReport ℚ) (t : Tolerances ℚ) : Criterion → Prop
  | version => baseline.version = current.version
  | mode => baseline.mode = current.mode
  | model => baseline.model = current.model
  | provider => baseline.provider = current.provider
  | caseIds => baseline.cases.map (·.id) = current.cases.map (·.id)
  | quality q =>
    (baseline.cases.countP fun c ↦ q.met c.checks : ℚ) - t.drop q * current.cases.length ≤
      (current.cases.countP fun c ↦ q.met c.checks : ℚ)
  | totalLatency => Within (baseline.cases.map (·.latency)).sum (current.cases.map (·.latency)).sum
      t.latencyRatio (t.meanLatencyAbsolute * current.cases.length)
  | largestLatency => Within ((baseline.cases.map (·.latency)).max?.getD 0)
      ((current.cases.map (·.latency)).max?.getD 0) t.latencyRatio t.maxLatencyAbsolute
  | promptTokens => Within (baseline.cases.map fun c ↦ (c.usage.prompt : ℚ)).sum
      (current.cases.map fun c ↦ (c.usage.prompt : ℚ)).sum (t.tokenRatio.getD 0) t.tokenAbsolute
  | completionTokens => Within (baseline.cases.map fun c ↦ (c.usage.completion : ℚ)).sum
      (current.cases.map fun c ↦ (c.usage.completion : ℚ)).sum (t.tokenRatio.getD 0)
      t.tokenAbsolute
  | cost => Within (baseline.cases.map (·.costOrZero)).sum (current.cases.map (·.costOrZero)).sum
      t.costRatio t.costAbsolute

instance (baseline current : RunReport ℚ) (t : Tolerances ℚ) (c : Criterion) :
    Decidable (c.Holds baseline current t) :=
  match c with
  | version | model | provider => inferInstanceAs (Decidable ((_ : String) = _))
  | mode => inferInstanceAs (Decidable ((_ : RunMode) = _))
  | caseIds => inferInstanceAs (Decidable ((_ : List String) = _))
  | quality _ => inferInstanceAs (Decidable ((_ : ℚ) ≤ _))
  | totalLatency | largestLatency | promptTokens | completionTokens | cost =>
    inferInstanceAs (Decidable (Within _ _ _ _))

/-- The criteria of a list that two results violate. -/
def violated (baseline current : RunReport ℚ) (t : Tolerances ℚ) (cs : List Criterion) :
    List Criterion :=
  cs.filter fun c ↦ decide (¬ c.Holds baseline current t)

end Criterion

/-! ## From rates and means to counts and totals -/

/-- A divisor is multiplied out. If it is zero, so is what is divided, and the allowance is what is
left. -/
theorem div_le_div_add_iff {x y a : ℚ} {n : ℕ} (hx : n = 0 → x = 0) (hy : n = 0 → y = 0)
    (ha : 0 ≤ a) : x / n ≤ y / n + a ↔ x ≤ y + a * n := by
  by_cases hn : n = 0
  · rw [hx hn, hy hn, hn]
    simpa using ha
  · have hpos : (0 : ℚ) < n := Nat.cast_pos.mpr (Nat.pos_of_ne_zero hn)
    rw [div_le_iff₀ hpos, add_mul, div_mul_cancel₀ y hpos.ne']

theorem Measure.largest_eq_max? (xs : List ℚ) : Measure.largest xs = xs.max?.getD 0 := by
  cases xs with
  | nil => rfl
  | cons x xs =>
    have hlarger : (Measure.larger : ℚ → ℚ → ℚ) = max := by
      funext x y
      exact Measure.larger_eq_max x y
    rw [Measure.largest, hlarger, List.max?_cons', Option.getD_some]

section

variable {baseline current : RunReport ℚ} {t : Tolerances ℚ}

theorem RunReport.SameIdentity.length_eq (h : baseline.SameIdentity current) :
    baseline.cases.length = current.cases.length := by
  have hids := congrArg List.length h.cases
  rwa [RunReport.caseIds, RunReport.caseIds, List.length_map, List.length_map] at hids

theorem sameIdentity_iff_holds :
    baseline.SameIdentity current ↔ ∀ c ∈ Criterion.identities, c.Holds baseline current t := by
  simp only [Criterion.identities, List.forall_mem_cons, Criterion.Holds]
  constructor
  · rintro ⟨hversion, hmode, hmodel, hprovider, hcases⟩
    exact ⟨hversion, hmode, hmodel, hprovider, hcases, List.forall_mem_nil _⟩
  · rintro ⟨hversion, hmode, hmodel, hprovider, hcases, -⟩
    exact ⟨hversion, hmode, hmodel, hprovider, hcases⟩

theorem rate_le_iff_holds (hlength : baseline.cases.length = current.cases.length)
    (ht : t.NonNeg) (q : Quality) :
    baseline.metrics.rate q - t.drop q ≤ current.metrics.rate q ↔
      (Criterion.quality q).Holds baseline current t := by
  have hcount : ∀ r : RunReport ℚ, r.cases.length = 0 → (r.count q : ℚ) = 0 := by
    intro r hr
    rw [RunReport.count, List.length_eq_zero_iff.mp hr, List.countP_nil, Nat.cast_zero]
  rw [RunReport.rate_eq, RunReport.rate_eq, hlength, sub_le_iff_le_add,
    div_le_div_add_iff (fun h ↦ hcount baseline (hlength.trans h)) (hcount current) (ht.drop q),
    ← sub_le_iff_le_add]
  rfl

theorem meanLatency_le_iff_holds (hlength : baseline.cases.length = current.cases.length)
    (ht : t.NonNeg) :
    current.metrics.meanLatency ≤
        baseline.metrics.meanLatency * (1 + t.latencyRatio) + t.meanLatencyAbsolute ↔
      Criterion.totalLatency.Holds baseline current t := by
  have hsum : ∀ r : RunReport ℚ, r.cases.length = 0 → (r.cases.map (·.latency)).sum = 0 := by
    intro r hr
    rw [List.length_eq_zero_iff.mp hr, List.map_nil, List.sum_nil]
  have hlimit : current.cases.length = 0 →
      (baseline.cases.map (·.latency)).sum * (1 + t.latencyRatio) = 0 := by
    intro h
    rw [hsum baseline (hlength.trans h), zero_mul]
  rw [RunReport.meanLatency_eq, RunReport.meanLatency_eq, hlength, div_mul_eq_mul_div,
    div_le_div_add_iff (hsum current) hlimit ht.meanLatencyAbsolute]
  rfl

theorem maxLatency_le_iff_holds :
    current.metrics.maxLatency ≤
        baseline.metrics.maxLatency * (1 + t.latencyRatio) + t.maxLatencyAbsolute ↔
      Criterion.largestLatency.Holds baseline current t := by
  have hmax : ∀ r : RunReport ℚ, r.metrics.maxLatency = (r.cases.map (·.latency)).max?.getD 0 :=
    fun r ↦ Measure.largest_eq_max? _
  rw [hmax, hmax]
  rfl

theorem prompt_le_iff_holds :
    (current.metrics.usage.prompt : ℚ) ≤
        baseline.metrics.usage.prompt * (1 + t.tokenRatio.getD 0) + t.tokenAbsolute ↔
      Criterion.promptTokens.Holds baseline current t := by
  rw [Criterion.Holds, ← baseline.usage_eq.1, ← current.usage_eq.1]
  rfl

theorem completion_le_iff_holds :
    (current.metrics.usage.completion : ℚ) ≤
        baseline.metrics.usage.completion * (1 + t.tokenRatio.getD 0) + t.tokenAbsolute ↔
      Criterion.completionTokens.Holds baseline current t := by
  rw [Criterion.Holds, ← baseline.usage_eq.2, ← current.usage_eq.2]
  rfl

theorem cost_le_iff_holds :
    current.metrics.cost ≤ baseline.metrics.cost * (1 + t.costRatio) + t.costAbsolute ↔
      Criterion.cost.Holds baseline current t := by
  rw [RunReport.cost_eq, RunReport.cost_eq]
  rfl

end

/-! ## The names of issues -/

/-- The kind and the metric that an issue names. -/
def Issue.name {κ : Type} (i : Issue κ) : IssueKind × String := (i.kind, i.metric)

/-- There is at most one issue, and it has a given name. -/
def Single {κ : Type} (issues : List (Issue κ)) (n : IssueKind × String) : Prop :=
  ∀ i ∈ issues, issues = [i] ∧ i.name = n

theorem single_ite {κ : Type} {violated : Prop} [Decidable violated] (i : Issue κ) :
    Single (if violated then [i] else []) i.name := by
  intro j hj
  split at hj
  · next hv =>
    obtain rfl := List.mem_singleton.mp hj
    exact ⟨if_pos hv, rfl⟩
  · exact absurd hj List.not_mem_nil

/-- A single issue is there when what it watches over does not hold. -/
theorem Single.map_name {κ : Type} {issues : List (Issue κ)} {n : IssueKind × String}
    (h : Single issues n) {P : Prop} [Decidable P] (hnil : issues = [] ↔ P) :
    issues.map Issue.name = if P then [] else [n] := by
  cases issues with
  | nil => rw [if_pos (hnil.mp rfl), List.map_nil]
  | cons i rest =>
    obtain ⟨hsingle, hname⟩ := h i List.mem_cons_self
    have hP : ¬ P := fun hP ↦ absurd (hnil.mpr hP) (List.cons_ne_nil i rest)
    rw [if_neg hP, hsingle, List.map_singleton, hname]

theorem single_identityIssue (metric baseline current : String) :
    Single (identityIssue metric baseline current : List (Issue ℚ)) (.identity, metric) := by
  rw [identityIssue, ← ite_not]
  exact single_ite _

theorem single_caseIssue (baseline current : List String) :
    Single (caseIssue baseline current : List (Issue ℚ)) (.identity, "case_ids") := by
  rw [caseIssue, ← ite_not]
  exact single_ite _

theorem single_measureIssue (kind : IssueKind) (metric : String)
    (baseline current ratio absolute : ℚ) :
    Single (measureIssue kind metric baseline current ratio absolute) (kind, metric) :=
  single_ite _

theorem single_tokenIssue (metric : String) (baseline current : Nat) (t : Tolerances ℚ) :
    Single (tokenIssue metric baseline current t) (.tokens, metric) := by
  rw [tokenIssue]
  split
  · exact single_ite _
  · exact single_ite _

namespace Criterion

variable {baseline current : RunReport ℚ} {t : Tolerances ℚ}

/-- The names of the violated criteria of a list, one criterion after another. -/
theorem map_name_violated (cs : List Criterion) :
    (violated baseline current t cs).map name =
      cs.flatMap fun c ↦ if c.Holds baseline current t then [] else [c.name] := by
  induction cs with
  | nil => rfl
  | cons c cs ih =>
    rw [List.flatMap_cons, ← ih, violated, List.filter_cons]
    by_cases h : c.Holds baseline current t
    · rw [if_neg (by simpa using h), if_pos h]
      rfl
    · rw [if_pos (by simpa using h), if_neg h]
      rfl

theorem violated_eq_nil_iff {cs : List Criterion} :
    violated baseline current t cs = [] ↔ ∀ c ∈ cs, c.Holds baseline current t := by
  rw [violated, List.filter_eq_nil_iff]
  refine forall₂_congr fun c _ ↦ ?_
  rw [decide_eq_true_eq, not_not]

theorem map_name_identityIssues :
    (identityIssues baseline current).map Issue.name =
      (violated baseline current t identities).map name := by
  rw [map_name_violated, identityIssues]
  simp only [List.map_append, identities, List.flatMap_cons, List.flatMap_nil, List.append_nil,
    List.append_assoc]
  rw [(single_identityIssue _ _ _).map_name identityIssue_eq_nil_iff,
    (single_identityIssue _ _ _).map_name (identityIssue_eq_nil_iff.trans RunMode.word_inj),
    (single_identityIssue _ _ _).map_name identityIssue_eq_nil_iff,
    (single_identityIssue _ _ _).map_name identityIssue_eq_nil_iff,
    (single_caseIssue _ _).map_name caseIssue_eq_nil_iff]
  rfl

theorem map_name_metricIssues (hlength : baseline.cases.length = current.cases.length)
    (ht : t.NonNeg) :
    (metricIssues baseline.metrics current.metrics t).map Issue.name =
      (violated baseline current t measured).map name := by
  have hqualities : (Quality.all.flatMap
      (qualityIssue baseline.metrics current.metrics t)).map Issue.name =
      (Quality.all.map quality).flatMap fun c ↦
        if c.Holds baseline current t then [] else [c.name] := by
    rw [List.map_flatMap, List.flatMap_map]
    refine List.flatMap_congr fun q _ ↦ ?_
    exact (single_ite _).map_name
      (qualityIssue_eq_nil_iff.trans (rate_le_iff_holds hlength ht q))
  rw [map_name_violated, metricIssues, measured, List.flatMap_append]
  simp only [List.map_append, List.flatMap_cons, List.flatMap_nil, List.append_nil,
    List.append_assoc]
  rw [hqualities,
    (single_measureIssue _ _ _ _ _ _).map_name
      (measureIssue_eq_nil_iff.trans (meanLatency_le_iff_holds hlength ht)),
    (single_measureIssue _ _ _ _ _ _).map_name
      (measureIssue_eq_nil_iff.trans maxLatency_le_iff_holds),
    (single_tokenIssue _ _ _ _).map_name (tokenIssue_eq_nil_iff.trans prompt_le_iff_holds),
    (single_tokenIssue _ _ _ _).map_name (tokenIssue_eq_nil_iff.trans completion_le_iff_holds),
    (single_measureIssue _ _ _ _ _ _).map_name (measureIssue_eq_nil_iff.trans cost_le_iff_holds)]
  rfl

end Criterion

/-! ## The verdict -/

section

variable {baseline current : RunReport ℚ} {t : Tolerances ℚ}

theorem Criterion.mem_identities_or_measured (c : Criterion) :
    c ∈ Criterion.identities ∨ c ∈ Criterion.measured := by
  cases c with
  | quality q => cases q <;> decide
  | _ => decide

/-- **The gate is its criteria.** Let a result be compared with a baseline in exact arithmetic and
with tolerances that are not negative. The gate is passed exactly when all criteria hold of the
cases. The issues name exactly the violated criteria, in order and each once: those of identity if
one of them is violated, and else those of quality and of resources. -/
theorem gate_iff_criteria (ht : t.NonNeg) :
    ((current.against baseline t).passed = true ↔
      ∀ c : Criterion, c.Holds baseline current t) ∧
    (current.against baseline t).issues.map Issue.name =
      (Criterion.violated baseline current t
        (if ∀ c ∈ Criterion.identities, c.Holds baseline current t then Criterion.measured
          else Criterion.identities)).map Criterion.name := by
  by_cases hidentity : ∀ c ∈ Criterion.identities, c.Holds baseline current t
  · have hsame : baseline.SameIdentity current := sameIdentity_iff_holds.mpr hidentity
    have hnone : identityIssues baseline current = [] := identityIssues_eq_nil_iff.mpr hsame
    have hnames := Criterion.map_name_metricIssues hsame.length_eq ht
    have hissues : (current.against baseline t).issues =
        metricIssues baseline.metrics current.metrics t := if_pos (by rw [hnone]; rfl)
    refine ⟨?_, by rw [hissues, hnames, if_pos hidentity]⟩
    rw [passed_iff, ← metricIssues_eq_nil_iff, and_iff_right hsame,
      ← List.map_eq_nil_iff (f := Issue.name), hnames, List.map_eq_nil_iff,
      Criterion.violated_eq_nil_iff]
    constructor
    · intro h c
      exact c.mem_identities_or_measured.elim (hidentity c) (h c)
    · exact fun h c _ ↦ h c
  · have hsome : identityIssues baseline current ≠ [] := fun h ↦
      hidentity (sameIdentity_iff_holds.mp (identityIssues_eq_nil_iff.mp h))
    have hissues : (current.against baseline t).issues = identityIssues baseline current :=
      if_neg (by rwa [List.isEmpty_iff])
    refine ⟨iff_of_false ?_ fun h ↦ hidentity fun c _ ↦ h c, ?_⟩
    · exact fun h ↦ hidentity (sameIdentity_iff_holds.mp (passed_iff.mp h).1)
    · rw [hissues, Criterion.map_name_identityIssues, if_neg hidentity]

end

/-- A result that passes; one that is too slow and did not use its tools, with four issues; and the
same under another model, of which nothing but the model is said. -/
theorem gate_iff_criteria_pairReport :
    (tolerating 0 (1/2)).NonNeg ∧
    (∀ c : Criterion,
      c.Holds (pairReport 4 6 (1/3) true) (pairReport 5 9 (1/2) true) (tolerating 0 (1/2))) ∧
    ((pairReport 9 9 (1/2) false).against (pairReport 4 6 (1/3) true)
        (tolerating 0 (1/2))).issues.map Issue.name =
      [(.quality, "pass_rate"), (.quality, "required_tools_rate"), (.latency, "mean_latency_ms"),
        (.latency, "max_latency_ms")] ∧
    (({ pairReport 9 9 (1/2) false with model := "n" } : RunReport ℚ).against
        (pairReport 4 6 (1/3) true) (tolerating 0 (1/2))).issues.map Issue.name =
      [(.identity, "model")] := by
  have ht : (tolerating 0 (1/2)).NonNeg := by
    constructor <;> simp [tolerating]
  refine ⟨ht, (gate_iff_criteria ht).1.mp (by decide +kernel), ?_, ?_⟩
  · rw [(gate_iff_criteria ht).2]
    decide +kernel
  · rw [(gate_iff_criteria ht).2]
    decide +kernel

end CallTree
