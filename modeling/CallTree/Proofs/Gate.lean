import Mathlib
import CallTree.Benchmark.Gate

/-!
# The gate in exact arithmetic

The gate is stated over any kind of number. Over rational numbers nothing is rounded, and its
verdict is a list of inequalities between the metrics of the two results (`passed_iff`): rates may
not fall below a difference, amounts may not exceed a product with an allowance on top.

## Monotonicity

A result that is at least as good case by case has metrics that are at least as good
(`Improves.metrics`): its rates are not lower, and its mean and largest latency, its tokens and its
cost are not higher. The limits move the right way with the tolerances, since the amounts of a
baseline are not negative. So a gate that is passed stays passed when the tolerances grow or the
result gets better, and no result fails against itself (`passed_monotone`).
-/

namespace CallTree

/-- Rational numbers; nothing is rounded but what is shown. -/
instance : Measure ℚ where
  ofCount n := n
  less x y := decide (x < y)
  countAbove n x := decide (x < n)
  shown x := .float (Decimal.nearest (decide (x < 0)) x.num.natAbs x.den)

namespace Measure

@[simp] theorem ofCount_rat (n : Nat) : (ofCount n : ℚ) = n := rfl

theorem less_rat (x y : ℚ) : less x y = decide (x < y) := rfl

theorem countAbove_rat (n : Nat) (x : ℚ) : countAbove n x = decide (x < n) := rfl

theorem total_eq_sum (xs : List ℚ) : total xs = xs.sum := by
  rw [List.sum_eq_foldl]
  rfl

theorem larger_eq_max (x y : ℚ) : larger x y = max x y := by
  rw [larger, less_rat]
  by_cases h : x < y
  · rw [if_pos (decide_eq_true h), max_eq_right h.le]
  · rw [if_neg (by simpa using h), max_eq_left (not_lt.mp h)]

theorem largest_mono {xs ys : List ℚ} (h : List.Forall₂ (· ≤ ·) xs ys) :
    largest xs ≤ largest ys := by
  have hfold : ∀ {xs ys : List ℚ} {x y : ℚ}, x ≤ y → List.Forall₂ (· ≤ ·) xs ys →
      xs.foldl larger x ≤ ys.foldl larger y := by
    intro xs ys x y hxy hs
    induction hs generalizing x y with
    | nil => exact hxy
    | cons h _ ih =>
      rw [List.foldl_cons, List.foldl_cons, larger_eq_max, larger_eq_max]
      exact ih (max_le_max hxy h)
  cases h with
  | nil => exact le_rfl
  | cons h hs => exact hfold h hs

theorem largest_nonneg {xs : List ℚ} (h : ∀ x ∈ xs, 0 ≤ x) : 0 ≤ largest xs := by
  have hfold : ∀ (xs : List ℚ) {x : ℚ}, 0 ≤ x → 0 ≤ xs.foldl larger x := by
    intro xs
    induction xs with
    | nil => exact fun hx ↦ hx
    | cons y xs ih =>
      intro x hx
      rw [List.foldl_cons, larger_eq_max]
      exact ih (le_max_of_le_left hx)
  cases xs with
  | nil => exact le_rfl
  | cons x xs => exact hfold xs (h x List.mem_cons_self)

end Measure

/-! ## The verdict as inequalities -/

/-- The metrics of a result are within the limits that a baseline and tolerances set. Tokens without
a share may grow by their allowance only, as with a share of zero. -/
structure Metrics.Within (before now : Metrics ℚ) (t : Tolerances ℚ) : Prop where
  rate : ∀ q, before.rate q - t.drop q ≤ now.rate q
  meanLatency : now.meanLatency ≤
    before.meanLatency * (1 + t.latencyRatio) + t.meanLatencyAbsolute
  maxLatency : now.maxLatency ≤ before.maxLatency * (1 + t.latencyRatio) + t.maxLatencyAbsolute
  prompt : (now.usage.prompt : ℚ) ≤
    before.usage.prompt * (1 + t.tokenRatio.getD 0) + t.tokenAbsolute
  completion : (now.usage.completion : ℚ) ≤
    before.usage.completion * (1 + t.tokenRatio.getD 0) + t.tokenAbsolute
  cost : now.cost ≤ before.cost * (1 + t.costRatio) + t.costAbsolute

/-- Two results have the same identity. -/
structure RunReport.SameIdentity {κ : Type} (baseline current : RunReport κ) : Prop where
  version : baseline.version = current.version
  mode : baseline.mode = current.mode
  model : baseline.model = current.model
  provider : baseline.provider = current.provider
  cases : baseline.caseIds = current.caseIds

theorem RunMode.word_inj {m m' : RunMode} : m.word = m'.word ↔ m = m' := by
  cases m <;> cases m' <;> decide

/-- There is no issue if the criterion that it stands for is not violated. -/
theorem issue_eq_nil_iff {ι : Type} {violated : Prop} [Decidable violated] {i : ι} :
    (if violated then [i] else []) = [] ↔ ¬ violated := by
  split <;> simp [*]

section

variable {κ : Type}

theorem identityIssue_eq_nil_iff {metric baseline current : String} :
    (identityIssue metric baseline current : List (Issue κ)) = [] ↔ baseline = current := by
  rw [identityIssue]
  split <;> simp [*]

theorem caseIssue_eq_nil_iff {baseline current : List String} :
    (caseIssue baseline current : List (Issue κ)) = [] ↔ baseline = current := by
  rw [caseIssue]
  split <;> simp [*]

theorem identityIssues_eq_nil_iff {baseline current : RunReport κ} :
    identityIssues baseline current = [] ↔ baseline.SameIdentity current := by
  simp only [identityIssues, List.append_eq_nil_iff, identityIssue_eq_nil_iff,
    caseIssue_eq_nil_iff, RunMode.word_inj]
  constructor
  · rintro ⟨⟨⟨⟨hversion, hmode⟩, hmodel⟩, hprovider⟩, hcases⟩
    exact ⟨hversion, hmode, hmodel, hprovider, hcases⟩
  · rintro ⟨hversion, hmode, hmodel, hprovider, hcases⟩
    exact ⟨⟨⟨⟨hversion, hmode⟩, hmodel⟩, hprovider⟩, hcases⟩

end

theorem qualityIssue_eq_nil_iff {before now : Metrics ℚ} {t : Tolerances ℚ} {q : Quality} :
    qualityIssue before now t q = [] ↔ before.rate q - t.drop q ≤ now.rate q := by
  simp only [qualityIssue, issue_eq_nil_iff, Measure.less_rat, decide_eq_true_eq, not_lt]

theorem amountLimit_rat (before ratio absolute : ℚ) :
    amountLimit before ratio absolute = before * (1 + ratio) + absolute := by
  rw [amountLimit, Measure.ofCount_rat, Nat.cast_one]

theorem measureIssue_eq_nil_iff {kind : IssueKind} {metric : String}
    {before now ratio absolute : ℚ} :
    measureIssue kind metric before now ratio absolute = [] ↔
      now ≤ before * (1 + ratio) + absolute := by
  simp only [measureIssue, amountLimit_rat, issue_eq_nil_iff, Measure.less_rat,
    decide_eq_true_eq, not_lt]

/-- Whole numbers without a share and measures with one set the same kind of limit. -/
theorem tokenIssue_eq_nil_iff {metric : String} {before now : Nat} {t : Tolerances ℚ} :
    tokenIssue metric before now t = [] ↔
      (now : ℚ) ≤ before * (1 + t.tokenRatio.getD 0) + t.tokenAbsolute := by
  rw [tokenIssue]
  cases t.tokenRatio with
  | none =>
    rw [issue_eq_nil_iff, not_lt, Option.getD_none, add_zero, mul_one]
    exact_mod_cast Iff.rfl
  | some ratio =>
    simp only [amountLimit_rat, Measure.ofCount_rat, issue_eq_nil_iff, Measure.countAbove_rat,
      decide_eq_true_eq, not_lt, Option.getD_some]

theorem metricIssues_eq_nil_iff {before now : Metrics ℚ} {t : Tolerances ℚ} :
    metricIssues before now t = [] ↔ before.Within now t := by
  have hrates : Quality.all.flatMap (qualityIssue before now t) = [] ↔
      ∀ q, before.rate q - t.drop q ≤ now.rate q := by
    rw [List.flatMap_eq_nil_iff]
    constructor
    · intro h q
      have hq : q ∈ Quality.all := by cases q <;> decide
      exact qualityIssue_eq_nil_iff.mp (h q hq)
    · exact fun h q _ ↦ qualityIssue_eq_nil_iff.mpr (h q)
  simp only [metricIssues, List.append_eq_nil_iff, hrates, measureIssue_eq_nil_iff,
    tokenIssue_eq_nil_iff]
  constructor
  · rintro ⟨⟨⟨⟨⟨hrate, hmean⟩, hmax⟩, hprompt⟩, hcompletion⟩, hcost⟩
    exact ⟨hrate, hmean, hmax, hprompt, hcompletion, hcost⟩
  · rintro ⟨hrate, hmean, hmax, hprompt, hcompletion, hcost⟩
    exact ⟨⟨⟨⟨⟨hrate, hmean⟩, hmax⟩, hprompt⟩, hcompletion⟩, hcost⟩

/-- The gate is passed by a result of the same identity whose metrics are within the limits. -/
theorem passed_iff {baseline current : RunReport ℚ} {t : Tolerances ℚ} :
    (current.against baseline t).passed = true ↔
      baseline.SameIdentity current ∧ baseline.metrics.Within current.metrics t := by
  rw [← identityIssues_eq_nil_iff, ← metricIssues_eq_nil_iff]
  simp only [Comparison.passed, RunReport.against, Bool.and_eq_true, List.isEmpty_iff]
  constructor
  · rintro ⟨hidentity, hissues⟩
    rw [if_pos hidentity] at hissues
    exact ⟨hidentity, hissues⟩
  · rintro ⟨hidentity, hissues⟩
    rw [if_pos hidentity]
    exact ⟨hidentity, hissues⟩

/-! ## Better results and larger tolerances -/

/-- What a case took is not negative. -/
structure CaseReport.NonNeg (c : CaseReport ℚ) : Prop where
  latency : 0 ≤ c.latency
  cost : 0 ≤ c.costOrZero

/-- A case did at least as well as another: it came at least as far, and took at most as much. -/
structure CaseReport.Improves (better c : CaseReport ℚ) : Prop where
  parsed : c.checks.parsed → better.checks.parsed
  valid : c.checks.valid → better.checks.valid
  executed : c.checks.executed → better.checks.executed
  correct : c.checks.correct → better.checks.correct
  toolsUsed : c.checks.toolsUsed → better.checks.toolsUsed
  latency : better.latency ≤ c.latency
  prompt : better.usage.prompt ≤ c.usage.prompt
  completion : better.usage.completion ≤ c.usage.completion
  cost : better.costOrZero ≤ c.costOrZero

/-- A result of the same identity as another did at least as well in each case. -/
structure RunReport.Improves (better r : RunReport ℚ) : Prop where
  identity : r.SameIdentity better
  cases : List.Forall₂ CaseReport.Improves better.cases r.cases

/-- Tolerances are not negative. -/
structure Tolerances.NonNeg (t : Tolerances ℚ) : Prop where
  drop : ∀ q, 0 ≤ t.drop q
  latencyRatio : 0 ≤ t.latencyRatio
  meanLatencyAbsolute : 0 ≤ t.meanLatencyAbsolute
  maxLatencyAbsolute : 0 ≤ t.maxLatencyAbsolute
  tokenRatio : 0 ≤ t.tokenRatio.getD 0
  costRatio : 0 ≤ t.costRatio
  costAbsolute : 0 ≤ t.costAbsolute

/-- Tolerances are each at most as large as others. -/
structure Tolerances.AtMost (t t' : Tolerances ℚ) : Prop where
  drop : ∀ q, t.drop q ≤ t'.drop q
  latencyRatio : t.latencyRatio ≤ t'.latencyRatio
  meanLatencyAbsolute : t.meanLatencyAbsolute ≤ t'.meanLatencyAbsolute
  maxLatencyAbsolute : t.maxLatencyAbsolute ≤ t'.maxLatencyAbsolute
  tokenRatio : t.tokenRatio.getD 0 ≤ t'.tokenRatio.getD 0
  tokenAbsolute : t.tokenAbsolute ≤ t'.tokenAbsolute
  costRatio : t.costRatio ≤ t'.costRatio
  costAbsolute : t.costAbsolute ≤ t'.costAbsolute

theorem CaseReport.Improves.met {better c : CaseReport ℚ} (h : better.Improves c) (q : Quality)
    (hq : q.met c.checks = true) : q.met better.checks = true := by
  cases q with
  | pass =>
    simp only [Quality.met, Checks.passed, Bool.and_eq_true] at hq ⊢
    obtain ⟨⟨⟨⟨hparsed, hvalid⟩, hexecuted⟩, hcorrect⟩, hused⟩ := hq
    exact ⟨⟨⟨⟨h.parsed hparsed, h.valid hvalid⟩, h.executed hexecuted⟩, h.correct hcorrect⟩,
      h.toolsUsed hused⟩
  | parse => exact h.parsed hq
  | schema => exact h.valid hq
  | execution => exact h.executed hq
  | correctness => exact h.correct hq
  | requiredTools => exact h.toolsUsed hq

/-! ## Sums over cases -/

/-- What is at most as large in each case is so in the sum. -/
theorem sum_map_le_of_forall₂ {ι : Type} {R : ι → ι → Prop} {f : ι → ℚ} {xs ys : List ι}
    (h : List.Forall₂ R xs ys) (hf : ∀ x y, R x y → f x ≤ f y) :
    (xs.map f).sum ≤ (ys.map f).sum := by
  induction h with
  | nil => exact le_rfl
  | cons hxy _ ih =>
    rw [List.map_cons, List.map_cons, List.sum_cons, List.sum_cons]
    exact add_le_add (hf _ _ hxy) ih

theorem countP_le_of_forall₂ {ι : Type} {R : ι → ι → Prop} {f : ι → Bool} {xs ys : List ι}
    (h : List.Forall₂ R xs ys) (hf : ∀ x y, R x y → f y = true → f x = true) :
    ys.countP f ≤ xs.countP f := by
  induction h with
  | nil => exact le_rfl
  | @cons x y xs ys hxy _ ih =>
    rw [List.countP_cons, List.countP_cons]
    by_cases hy : f y = true
    · rw [if_pos hy, if_pos (hf x y hxy hy)]
      exact Nat.add_le_add_right ih 1
    · rw [if_neg hy]
      exact Nat.le_add_right_of_le ih

/-- The tokens of both kinds are summed up separately. -/
theorem RunReport.usage_eq (r : RunReport ℚ) :
    (r.usage.prompt : ℚ) = (r.cases.map fun c ↦ (c.usage.prompt : ℚ)).sum ∧
      (r.usage.completion : ℚ) = (r.cases.map fun c ↦ (c.usage.completion : ℚ)).sum := by
  have hfold : ∀ (us : List Usage) (u : Usage),
      ((us.foldl (· + ·) u).prompt : ℚ) = u.prompt + (us.map fun v ↦ (v.prompt : ℚ)).sum ∧
      ((us.foldl (· + ·) u).completion : ℚ) =
        u.completion + (us.map fun v ↦ (v.completion : ℚ)).sum := by
    intro us
    induction us with
    | nil => intro u; simp
    | cons v us ih =>
      intro u
      have hadd : ((u + v).prompt : ℚ) = u.prompt + v.prompt ∧
          ((u + v).completion : ℚ) = u.completion + v.completion := by
        exact ⟨Nat.cast_add _ _, Nat.cast_add _ _⟩
      rw [List.foldl_cons, (ih (u + v)).1, (ih (u + v)).2, hadd.1, hadd.2]
      simp only [List.map_cons, List.sum_cons, add_assoc, and_self]
  obtain ⟨hprompt, hcompletion⟩ := hfold (r.cases.map (·.usage)) {}
  rw [List.map_map] at hprompt hcompletion
  exact ⟨hprompt.trans (by simp [Function.comp_def]),
    hcompletion.trans (by simp [Function.comp_def])⟩

/-- Of no cases everything is zero, as is every quotient by zero. -/
theorem perCases_eq_div (x : ℚ) (n : ℕ) :
    (if n = 0 then Measure.ofCount 0 else x / Measure.ofCount n) = x / n := by
  by_cases h : n = 0
  · rw [if_pos h, h, Measure.ofCount_rat, Nat.cast_zero, div_zero]
  · rw [if_neg h, Measure.ofCount_rat]

theorem RunReport.meanLatency_eq (r : RunReport ℚ) :
    r.metrics.meanLatency = (r.cases.map (·.latency)).sum / r.cases.length := by
  rw [← Measure.total_eq_sum]
  exact perCases_eq_div _ r.cases.length

theorem RunReport.rate_eq (r : RunReport ℚ) (q : Quality) :
    r.metrics.rate q = (r.count q : ℚ) / r.cases.length :=
  perCases_eq_div _ r.cases.length

theorem RunReport.cost_eq (r : RunReport ℚ) :
    r.metrics.cost = (r.cases.map (·.costOrZero)).sum := Measure.total_eq_sum _

/-! ## Metrics -/

/-- The metrics of a result are at least as good as those of another. -/
structure Metrics.Improves (better m : Metrics ℚ) : Prop where
  rate : ∀ q, m.rate q ≤ better.rate q
  meanLatency : better.meanLatency ≤ m.meanLatency
  maxLatency : better.maxLatency ≤ m.maxLatency
  prompt : (better.usage.prompt : ℚ) ≤ m.usage.prompt
  completion : (better.usage.completion : ℚ) ≤ m.usage.completion
  cost : better.cost ≤ m.cost

/-- The amounts among metrics are not negative. -/
structure Metrics.NonNeg (m : Metrics ℚ) : Prop where
  meanLatency : 0 ≤ m.meanLatency
  maxLatency : 0 ≤ m.maxLatency
  cost : 0 ≤ m.cost

/-- Doing at least as well in each case makes every metric at least as good. -/
theorem RunReport.Improves.metrics {better r : RunReport ℚ} (h : better.Improves r) :
    better.metrics.Improves r.metrics := by
  have hlength : better.cases.length = r.cases.length := h.cases.length_eq
  have hlength_nonneg : (0 : ℚ) ≤ r.cases.length := Nat.cast_nonneg _
  refine ⟨fun q ↦ ?_, ?_, ?_, ?_, ?_, ?_⟩
  · have hcount : r.count q ≤ better.count q :=
      countP_le_of_forall₂ h.cases fun x y hxy ↦ hxy.met q
    rw [rate_eq, rate_eq, hlength]
    exact div_le_div_of_nonneg_right (Nat.cast_le.mpr hcount) hlength_nonneg
  · rw [meanLatency_eq, meanLatency_eq, hlength]
    refine div_le_div_of_nonneg_right ?_ hlength_nonneg
    exact sum_map_le_of_forall₂ h.cases fun x y hxy ↦ hxy.latency
  · have hlatencies : List.Forall₂ (· ≤ ·) (better.cases.map (·.latency))
        (r.cases.map (·.latency)) := by
      rw [List.forall₂_map_left_iff, List.forall₂_map_right_iff]
      exact h.cases.imp fun x y hxy ↦ hxy.latency
    exact Measure.largest_mono hlatencies
  · show (better.usage.prompt : ℚ) ≤ r.usage.prompt
    rw [better.usage_eq.1, r.usage_eq.1]
    exact sum_map_le_of_forall₂ h.cases fun x y hxy ↦ Nat.cast_le.mpr hxy.prompt
  · show (better.usage.completion : ℚ) ≤ r.usage.completion
    rw [better.usage_eq.2, r.usage_eq.2]
    exact sum_map_le_of_forall₂ h.cases fun x y hxy ↦ Nat.cast_le.mpr hxy.completion
  · rw [cost_eq, cost_eq]
    exact sum_map_le_of_forall₂ h.cases fun x y hxy ↦ hxy.cost

theorem RunReport.metrics_nonneg {r : RunReport ℚ} (h : ∀ c ∈ r.cases, c.NonNeg) :
    r.metrics.NonNeg := by
  have hlatencies : ∀ x ∈ r.cases.map (·.latency), 0 ≤ x := by
    rw [List.forall_mem_map]
    exact fun c hc ↦ (h c hc).latency
  refine ⟨?_, Measure.largest_nonneg hlatencies, ?_⟩
  · rw [meanLatency_eq]
    exact div_nonneg (List.sum_nonneg hlatencies) (Nat.cast_nonneg _)
  · rw [cost_eq]
    refine List.sum_nonneg ?_
    rw [List.forall_mem_map]
    exact fun c hc ↦ (h c hc).cost

/-! ## Limits -/

/-- The limit of an amount grows with its tolerances. -/
theorem limit_le_limit {before ratio ratio' absolute absolute' : ℚ} (hbefore : 0 ≤ before)
    (hratio : ratio ≤ ratio') (habsolute : absolute ≤ absolute') :
    before * (1 + ratio) + absolute ≤ before * (1 + ratio') + absolute' := by
  gcongr

/-- An amount is within the limit that it sets itself. -/
theorem le_limit {before ratio absolute : ℚ} (hbefore : 0 ≤ before) (hratio : 0 ≤ ratio)
    (habsolute : 0 ≤ absolute) : before ≤ before * (1 + ratio) + absolute := by
  have h := limit_le_limit hbefore hratio habsolute
  rwa [add_zero, add_zero, mul_one] at h

namespace Metrics.Within

variable {before now better : Metrics ℚ} {t t' : Tolerances ℚ}

theorem mono_tolerances (h : before.Within now t) (hbefore : before.NonNeg) (ht : t.AtMost t') :
    before.Within now t' where
  rate q := le_trans (sub_le_sub_left (ht.drop q) _) (h.rate q)
  meanLatency := h.meanLatency.trans
    (limit_le_limit hbefore.meanLatency ht.latencyRatio ht.meanLatencyAbsolute)
  maxLatency := h.maxLatency.trans
    (limit_le_limit hbefore.maxLatency ht.latencyRatio ht.maxLatencyAbsolute)
  prompt := h.prompt.trans
    (limit_le_limit (Nat.cast_nonneg _) ht.tokenRatio (Nat.cast_le.mpr ht.tokenAbsolute))
  completion := h.completion.trans
    (limit_le_limit (Nat.cast_nonneg _) ht.tokenRatio (Nat.cast_le.mpr ht.tokenAbsolute))
  cost := h.cost.trans (limit_le_limit hbefore.cost ht.costRatio ht.costAbsolute)

theorem mono_metrics (h : before.Within now t) (hbetter : better.Improves now) :
    before.Within better t where
  rate q := (h.rate q).trans (hbetter.rate q)
  meanLatency := hbetter.meanLatency.trans h.meanLatency
  maxLatency := hbetter.maxLatency.trans h.maxLatency
  prompt := hbetter.prompt.trans h.prompt
  completion := hbetter.completion.trans h.completion
  cost := hbetter.cost.trans h.cost

theorem refl (hnow : now.NonNeg) (ht : t.NonNeg) : now.Within now t where
  rate q := sub_le_self _ (ht.drop q)
  meanLatency := le_limit hnow.meanLatency ht.latencyRatio ht.meanLatencyAbsolute
  maxLatency := le_limit hnow.maxLatency ht.latencyRatio ht.maxLatencyAbsolute
  prompt := le_limit (Nat.cast_nonneg _) ht.tokenRatio (Nat.cast_nonneg _)
  completion := le_limit (Nat.cast_nonneg _) ht.tokenRatio (Nat.cast_nonneg _)
  cost := le_limit hnow.cost ht.costRatio ht.costAbsolute

end Metrics.Within

theorem RunReport.SameIdentity.trans {κ : Type} {r r' r'' : RunReport κ} (h : r.SameIdentity r')
    (h' : r'.SameIdentity r'') : r.SameIdentity r'' where
  version := h.version.trans h'.version
  mode := h.mode.trans h'.mode
  model := h.model.trans h'.model
  provider := h.provider.trans h'.provider
  cases := h.cases.trans h'.cases

/-- **The gate is monotone.** Let a result be compared with a baseline in exact arithmetic, nothing
that was measured or tolerated being negative. If the gate is passed, it is passed with any
tolerances that are each at least as large, and by any result of the same identity that did at least
as well in each case. And the result passes against itself. -/
theorem passed_monotone {baseline current : RunReport ℚ} {t : Tolerances ℚ}
    (hbaseline : ∀ c ∈ baseline.cases, c.NonNeg) (hcurrent : ∀ c ∈ current.cases, c.NonNeg)
    (ht : t.NonNeg) :
    ((current.against baseline t).passed = true →
      (∀ t', t.AtMost t' → (current.against baseline t').passed = true) ∧
      ∀ better : RunReport ℚ, better.Improves current →
        (better.against baseline t).passed = true) ∧
    (current.against current t).passed = true := by
  refine ⟨fun hpassed ↦ ?_, ?_⟩
  · obtain ⟨hidentity, hwithin⟩ := passed_iff.mp hpassed
    refine ⟨fun t' ht' ↦ passed_iff.mpr ⟨hidentity, ?_⟩, fun better hbetter ↦ passed_iff.mpr ?_⟩
    · exact hwithin.mono_tolerances (RunReport.metrics_nonneg hbaseline) ht'
    · exact ⟨hidentity.trans hbetter.identity, hwithin.mono_metrics hbetter.metrics⟩
  · refine passed_iff.mpr ⟨⟨rfl, rfl, rfl, rfl, rfl⟩, ?_⟩
    exact Metrics.Within.refl (RunReport.metrics_nonneg hcurrent) ht

/-- The result of two cases, of which the second took some time, tokens and money and may have
failed to use its tools. -/
def pairReport (latency : ℚ) (tokens : Nat) (cost : ℚ) (toolsUsed : Bool) : RunReport ℚ where
  version := "1.0"
  duration := latency
  model := "m"
  provider := "p"
  cases := [
    { id := "first", question := "", expected := .null, checks := ⟨true, true, true, true, true⟩,
      latency := 1, model := "m", provider := "p" },
    { id := "second", question := "", expected := .null,
      checks := ⟨true, true, true, true, toolsUsed⟩, latency := latency, usage := ⟨tokens, tokens⟩,
      cost := some cost, model := "m", provider := "p" }]

/-- Tolerances that let amounts grow by a share, and rates drop. -/
def tolerating (drop share : ℚ) : Tolerances ℚ where
  drop _ := drop
  latencyRatio := share
  meanLatencyAbsolute := 0
  maxLatencyAbsolute := 0
  tokenRatio := some share
  tokenAbsolute := 1
  costRatio := share
  costAbsolute := 0

/-- A slower and a faster result; a result without the tools shows that the gate can fail. -/
theorem passed_monotone_pairReport :
    ((pairReport 5 9 (1/2) true).against (pairReport 4 6 (1/3) true) (tolerating 0 (1/2))).passed =
      true ∧
    ((pairReport 5 9 (1/2) true).against (pairReport 4 6 (1/3) true) (tolerating (1/4) 2)).passed =
      true ∧
    ((pairReport 3 8 (1/3) true).against (pairReport 4 6 (1/3) true) (tolerating 0 (1/2))).passed =
      true ∧
    ((pairReport 5 9 (1/2) true).against (pairReport 5 9 (1/2) true) (tolerating 0 (1/2))).passed =
      true ∧
    ((pairReport 5 9 (1/2) false).against (pairReport 4 6 (1/3) true) (tolerating 0 (1/2))).passed =
      false := by
  have hpassed : ((pairReport 5 9 (1/2) true).against (pairReport 4 6 (1/3) true)
      (tolerating 0 (1/2))).passed = true := by decide +kernel
  have hnonneg : ∀ {latency cost : ℚ} {tokens : Nat}, 0 ≤ latency → 0 ≤ cost →
      ∀ c ∈ (pairReport latency tokens cost true).cases, c.NonNeg := by
    intro latency cost tokens hlatency hcost
    refine List.forall_mem_cons.mpr ⟨⟨zero_le_one, le_rfl⟩, List.forall_mem_singleton.mpr ?_⟩
    exact ⟨hlatency, hcost⟩
  have htolerances : (tolerating 0 (1/2)).NonNeg := by
    constructor <;> simp [tolerating]
  have hlarger : (tolerating 0 (1/2)).AtMost (tolerating (1/4) 2) := by
    constructor <;> norm_num [tolerating]
  have hbetter : (pairReport 3 8 (1/3) true).Improves (pairReport 5 9 (1/2) true) := by
    refine ⟨⟨rfl, rfl, rfl, rfl, rfl⟩, .cons ?_ (.cons ?_ .nil)⟩
    · exact ⟨id, id, id, id, id, le_rfl, le_rfl, le_rfl, le_rfl⟩
    · exact ⟨id, id, id, id, id, by decide +kernel, by decide, by decide, by decide +kernel⟩
  obtain ⟨hmono, hself⟩ := @passed_monotone (pairReport 4 6 (1/3) true) (pairReport 5 9 (1/2) true)
    (tolerating 0 (1/2)) (hnonneg (by norm_num) (by norm_num))
    (hnonneg (by norm_num) (by norm_num)) htolerances
  exact ⟨hpassed, (hmono hpassed).1 _ hlarger, (hmono hpassed).2 _ hbetter, hself,
    by decide +kernel⟩

end CallTree
