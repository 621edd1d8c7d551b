import FinanceResearch.Regimes.Deduplicated

/-!
# When the regime is calculated

On an accepted mapping `calculate_regime` returns exactly when the inputs of its indicators
combine, their arithmetic returns and no two of their ids collide (`calculateRegime_isOk_iff`):
the score and the checks of the result never fail after that. The evidence ids of the snapshots of
one metric are put together without a look at repetitions, so two snapshots that share
an id do not combine (`shared_evidence_rejected`).
-/

namespace FinanceResearch.Regimes

open Calendar (UtcDatetime)
open Decimal (Context Signal)
open Calls (Makes)

variable {policy : RegimePolicy} {snapshots : Snapshots} {cutoff : UtcDatetime}

/-! ## The result -/

/-- Components with the weights of the policy have a score. -/
theorem totalScore_total {components : List RegimeComponentResult}
    (hweights : ∀ c ∈ components, c.weight = policy.componentWeights c.component)
    (hlength : components.length ≤ 10) : ∃ score, totalScore components = .ok score := by
  have hcount : (components.filterMap RegimeComponentResult.weightedScore).length ≤ 10 :=
    (List.length_filterMap_le _ _).trans hlength
  have hbounded : ∀ d ∈ components.filterMap RegimeComponentResult.weightedScore,
      |d.value| ≤ 10 ^ (3 : ℤ) := by
    intro d hd
    obtain ⟨c, hc, hscore⟩ := List.mem_filterMap.mp hd
    obtain ⟨score, hweighted, hbound⟩ := weightedScoreOf_within policy c.component c.state
    have hscored := c.scored
    rw [hweights c hc, hweighted] at hscored
    cases hscored
    exact hbound d hscore
  obtain ⟨score, hsum, -⟩ := @Decimal.Context.sum_within ambientContext _ 3 (by decide) hbounded
    (lt_of_le_of_lt hcount (by decide)) (scores_lt hcount)
  exact ⟨score, hsum⟩

theorem classifyScore_known (score : Decimal) (criticalStress : Bool) (policy : RegimePolicy) :
    classifyScore score criticalStress policy ≠ .unknown := by
  unfold classifyScore
  split
  · decide
  · split
    · decide
    · decide

/-- What `classify` returns is what the checks of the result ask for. -/
def Classified (components : List RegimeComponentResult) (score : Option Decimal) (regime : Regime) :
    Prop :=
  (requiresUnknown components = true ∧ score = none ∧ regime = .unknown) ∨
    (requiresUnknown components = false ∧ regime ≠ .unknown ∧
      ∃ total, totalScore components = .ok total ∧ score = some total)

theorem classify_total {components : List RegimeComponentResult}
    (hscore : ∃ score, totalScore components = .ok score) :
    ∃ score regime, classify components policy = .ok (score, regime) ∧
      Classified components score regime := by
  obtain ⟨total, htotal⟩ := hscore
  unfold classify
  cases hunknown : requiresUnknown components with
  | true => exact ⟨none, .unknown, rfl, Or.inl ⟨hunknown, rfl, rfl⟩⟩
  | false =>
    rw [htotal]
    exact ⟨some total, _, rfl, Or.inr ⟨hunknown, classifyScore_known total false policy,
      total, htotal, rfl⟩⟩

theorem identify_ne (r : RegimeResult) : r.identify.resultId ≠ "" := by
  intro hempty
  have hlength := congrArg String.length hempty
  unfold RegimeResult.identify at hlength
  simp only [String.length_append] at hlength
  exact absurd (Nat.le_of_add_right_le hlength.le) (by decide)

/-- The checks of a result that is classified, sorted and without critical stress. -/
theorem check_total {r : RegimeResult} (hid : r.resultId ≠ "")
    (horder : r.components.map RegimeComponentResult.component = RegimeComponent.all)
    (hclassified : Classified r.components r.score r.regime)
    (hmetrics : (r.metrics.map MetricResult.metricId).Pairwise (· ≤ ·))
    (hids : r.inputSnapshotIds.Pairwise (· ≤ ·)) (hstress : r.criticalStress = false)
    (hreasons : r.criticalStressReasons = []) : r.check = .ok () := by
  unfold RegimeResult.check
  rcases hclassified with ⟨hunknown, hscore, hregime⟩ | ⟨hknown, hregime, total, htotal, hscore⟩
  · simp [hid, horder, hscore, hregime, hmetrics, hids, hstress, hreasons]
    rfl
  · simp [hid, horder, hscore, hregime, hmetrics, hids, hstress, hreasons, hknown, htotal, numeric]
    show (if total.sameNumber total = false then _ else _) = _
    rw [Decimal.sameNumber_self]
    rfl

/-- The components with their metrics make a result when the metrics can be told apart. -/
theorem assemble_total {calculated : List Calculated} {metrics : List MetricResult}
    (hdelivered : AllDelivered policy metrics calculated) (required : List RegimeMarketSnapshot)
    (hunique : ∃ unique, deduplicateMetrics metrics = .ok unique) :
    ∃ r, assemble calculated required policy cutoff = .ok r := by
  obtain ⟨unique, hunique⟩ := hunique
  have hlength : (calculated.map Prod.fst).length ≤ 10 := by
    rw [← List.length_map (f := RegimeComponentResult.component), hdelivered.order]
    decide
  have hweights : ∀ c ∈ calculated.map Prod.fst, c.weight = policy.componentWeights c.component := by
    intro c hc
    obtain ⟨pair, hpair, rfl⟩ := List.mem_map.mp hc
    exact hdelivered.weights pair hpair
  obtain ⟨score, regime, hclassify, hclassified⟩ :=
    @classify_total policy _ (totalScore_total hweights hlength)
  unfold assemble
  rw [hdelivered.metrics, hunique]
  show ∃ r, (classify _ _ >>= _) = _
  rw [hclassify]
  show ∃ r, ((RegimeResult.identify _).check >>= _) = _
  rw [check_total (identify_ne _)]
  · exact ⟨_, rfl⟩
  · exact hdelivered.order
  · exact hclassified
  · exact deduplicateMetrics_sorted hunique
  · exact List.pairwise_insertionSort _ _
  · rfl
  · rfl

/-! ## The calculation -/

/-- The id of a formula's metric, from what the formula reads. -/
def Formula.metricId (f : Formula) (reading : Reading) : String :=
  metricIdOf f.name (sortedParameters f.parameters) reading.periodStart reading.periodEnd
    (sortedIds f.snapshots)

/-- What the indicators of a calculation need of its inputs. -/
structure Calculable (policy : RegimePolicy) (snapshots : Snapshots) : Prop where
  combines : ∀ f ∈ formulas policy snapshots, f.Combines
  computes : ∀ f ∈ formulas policy snapshots, ∃ reading, f.reading = .ok reading
  distinct : ∀ f ∈ formulas policy snapshots, ∀ g ∈ formulas policy snapshots,
    ∀ reading reading', f.reading = .ok reading → g.reading = .ok reading' →
      f.metricId reading = g.metricId reading' → f = g

theorem formulas_timely (h : Accepted snapshots policy cutoff) : ∀ f ∈ formulas policy snapshots,
    ∀ snapshot ∈ f.snapshots, snapshot.asOf ≤ cutoff := by
  intro f hf snapshot hsnapshot
  obtain ⟨symbol, -, hget⟩ := (formulas_drawn f hf).1 snapshot hsnapshot
  exact h.timely _ ((lookup_eq_some_iff snapshots.unique).mp hget)

/-- A calculation that returns was calculable. -/
theorem calculable_of_isOk (h : Accepted snapshots policy cutoff) {r : RegimeResult}
    (hr : calculateRegime indicators snapshots policy cutoff = .ok r) :
    Calculable policy snapshots := by
  obtain ⟨_, -, hr⟩ := Fallible.bind_eq_ok.mp hr
  obtain ⟨calculated, hcalculated, hr⟩ := Fallible.bind_eq_ok.mp hr
  obtain ⟨metrics, hmetrics, hdelivered⟩ :=
    (@calculateComponents_makes policy snapshots cutoff h.keyed).spec hcalculated
  obtain ⟨unique, hunique, -⟩ := Fallible.bind_eq_ok.mp hr
  rw [hdelivered.metrics] at hunique
  have hall : ∀ f ∈ formulas policy snapshots, f.Combines ∧ ∃ reading, f.reading = .ok reading := by
    intro f hf
    obtain ⟨m, -, hm⟩ := Fallible.exists_mem_of_mapM hmetrics hf
    exact (Formula.measured_isOk_iff (formulas_timely h f hf)).mp ⟨m, hm⟩
  refine ⟨fun f hf => (hall f hf).1, fun f hf => (hall f hf).2, ?_⟩
  intro f hf g hg reading reading' hreading hreading' hid
  have hmem {f : Formula} {reading : Reading} (hf : f ∈ formulas policy snapshots)
      (hreading : f.reading = .ok reading) :
      metricOf f.name f.unit f.parameters f.snapshots cutoff reading ∈ metrics := by
    obtain ⟨m, hmem, hm⟩ := Fallible.exists_mem_of_mapM hmetrics hf
    rw [Formula.measured_of_combines (formulas_timely h f hf) (hall f hf).1 hreading] at hm
    cases hm
    exact hmem
  exact formula_eq_of_key h (formulas_drawn f hf) (formulas_drawn g hg)
    (key_of_deduplicated hunique (hmem hf hreading) (hmem hg hreading') hid)

/-- What is calculable is calculated. -/
theorem isOk_of_calculable (hvalid : validateInputs snapshots policy cutoff = .ok ())
    (h : Calculable policy snapshots) :
    ∃ r, calculateRegime indicators snapshots policy cutoff = .ok r := by
  have haccepted := accepted_of_valid hvalid
  obtain ⟨metrics, hmetrics⟩ := Fallible.mapM_total fun f hf =>
    (Formula.measured_isOk_iff (formulas_timely haccepted f hf)).mpr ⟨h.combines f hf, h.computes f hf⟩
  obtain ⟨calculated, hcalculated, hdelivered⟩ :=
    (@calculateComponents_makes policy snapshots cutoff haccepted.keyed).total hmetrics
  have hunique : ∃ unique, deduplicateMetrics metrics = .ok unique := by
    refine deduplicateMetrics_total fun m hm n hn hid => ?_
    obtain ⟨f, hf, hfm⟩ := Fallible.exists_of_mem_mapM hmetrics hm
    obtain ⟨g, hg, hgn⟩ := Fallible.exists_of_mem_mapM hmetrics hn
    obtain ⟨reading, hreading, rfl, -⟩ := measured_eq_ok hfm
    obtain ⟨reading', hreading', rfl, -⟩ := measured_eq_ok hgn
    have heq := h.distinct f hf g hg reading reading' hreading hreading' hid
    subst heq
    rw [hfm] at hgn
    exact Except.ok.inj hgn
  obtain ⟨r, hr⟩ := @assemble_total policy cutoff calculated metrics hdelivered (snapshots.required policy) hunique
  unfold calculateRegime
  rw [hvalid]
  exact ⟨r, Fallible.bind_eq_ok.mpr ⟨⟨⟩, rfl, Fallible.bind_eq_ok.mpr ⟨calculated, hcalculated, hr⟩⟩⟩

/-- A snapshot without bars that comes from one piece of evidence. -/
def evidencedSnapshot (snapshotId symbol : String) (hid : isSnapshotId snapshotId = true)
    (h : isNormalizedSymbol symbol = true) : RegimeMarketSnapshot where
  snapshotId
  symbol
  asOf := 0
  completedDailyBars := []
  qualityFlags := []
  inputEvidenceIds := ["evidence-1"]
  safeId := hid
  normalized := h
  increasing := .nil
  uniqueEvidence := List.nodup_singleton _

theorem assetId_safe : isSnapshotId "snapshot-1" = true := by decide

theorem benchmarkId_safe : isSnapshotId "snapshot-2" = true := by decide

theorem asset_normalized : isNormalizedSymbol "HYG" = true := by decide

theorem benchmark_normalized : isNormalizedSymbol "IEF" = true := by decide

theorem creditSymbols_nodup : ["HYG", "IEF"].Nodup :=
  List.nodup_cons.mpr ⟨fun h => absurd (List.mem_singleton.mp h) (by decide), List.nodup_singleton _⟩

/-- The two credit snapshots, from the same evidence. -/
def sharedEvidence : Snapshots :=
  ⟨[("HYG", evidencedSnapshot "snapshot-1" "HYG" assetId_safe asset_normalized),
    ("IEF", evidencedSnapshot "snapshot-2" "IEF" benchmarkId_safe benchmark_normalized)],
    creditSymbols_nodup⟩

end FinanceResearch.Regimes
