import FinanceResearch.Lib.Calls
import FinanceResearch.Lib.Magnitudes
import FinanceResearch.Regimes.Indicators

/-!
# The indicators that a regime is calculated from

`formulas` lists the indicators that the five components call, in their order, from the policy and
the snapshots that are there. Each component returns exactly when its calls do, with their metrics
(`calculateComponents_makes`): what is done with the metrics cannot fail, since an available average
has bars under it and the weights are far within the exponents of the context.
-/

namespace FinanceResearch.Regimes

open Calendar (Date UtcDatetime)
open Decimal (Context Signal)
open Calls (Makes calls_call makes_foldlM makes_none)

section Formulas

variable (policy : RegimePolicy) (snapshots : Snapshots)

/-! ## The calls -/

/-- The calls of `observeTrend`. -/
def trendFormulas (snapshot : RegimeMarketSnapshot) : List Formula :=
  [.sma snapshot policy.shortSmaWindow, .sma snapshot policy.longSmaWindow,
    .smaSlope snapshot policy.shortSmaWindow policy.slopeLookback]

/-- The calls of `broadTrend`. -/
def broadTrendFormulas : List Formula :=
  (([policy.broadBenchmark, policy.broadGrowth].mapM snapshots.get?).getD []).flatMap
    (trendFormulas policy)

/-- The calls of `countSector`. -/
def sectorFormulas (symbol : String) : List Formula :=
  (snapshots.get? symbol).toList.flatMap fun snapshot =>
    [.sma snapshot policy.shortSmaWindow,
      .smaSlope snapshot policy.shortSmaWindow policy.slopeLookback]

/-- The calls of `assetReturn`. -/
def assetFormulas (symbol : String) : List Formula :=
  (snapshots.get? symbol).toList.flatMap fun asset =>
    (snapshots.get? policy.broadBenchmark).toList.map fun benchmark =>
      .relativeReturn asset benchmark policy.relativeReturnWindow

/-- The baskets are complete. -/
def BasketsComplete : Prop :=
  (policy.cyclicalSymbols.filterMap snapshots.get?).length = policy.cyclicalSymbols.length ∧
    (policy.defensiveSymbols.filterMap snapshots.get?).length = policy.defensiveSymbols.length

instance : Decidable (BasketsComplete policy snapshots) := inferInstanceAs (Decidable (_ ∧ _))

/-- The comparison of the baskets. -/
def basketFormula : Formula :=
  .equalWeight (inOrder (policy.cyclicalSymbols.filterMap snapshots.get?))
    (inOrder (policy.defensiveSymbols.filterMap snapshots.get?)) policy.relativeReturnWindow

/-- The calls of `basketReturn`. -/
def basketFormulas : List Formula :=
  if BasketsComplete policy snapshots then [basketFormula policy snapshots] else []

/-- The calls of `volatilityStress`. -/
def volatilityFormulas : List Formula :=
  (snapshots.get? policy.broadBenchmark).toList.flatMap fun snapshot =>
    [.realizedVolatility snapshot policy.realizedVolatilityWindow,
      .atrPercent snapshot policy.atrWindow,
      .realizedVolatilityPercentile snapshot policy.realizedVolatilityWindow
        policy.percentileHistory,
      .atrPercentile snapshot policy.atrWindow policy.percentileHistory]

/-- The calls of `creditCrossAsset`. -/
def creditFormulas : List Formula :=
  (snapshots.get? policy.creditAssetSymbol).toList.flatMap fun asset =>
    (snapshots.get? policy.creditBenchmarkSymbol).toList.flatMap fun benchmark =>
      [.relativeReturn asset benchmark policy.relativeReturnWindow,
        .sma asset policy.shortSmaWindow,
        .smaSlope asset policy.shortSmaWindow policy.slopeLookback]

/-- The indicators that the components call. -/
def formulas : List Formula :=
  broadTrendFormulas policy snapshots ++ policy.sectorSymbols.flatMap (sectorFormulas policy snapshots) ++
    ([policy.broadGrowth, policy.smallCapSymbol].flatMap (assetFormulas policy snapshots) ++
      basketFormulas policy snapshots) ++
    volatilityFormulas policy snapshots ++ creditFormulas policy snapshots

end Formulas

/-! ## The indicators of a policy -/

variable {policy : RegimePolicy} {snapshots : Snapshots} {cutoff : UtcDatetime}
  {snapshot asset benchmark : RegimeMarketSnapshot} {window lookback history : Nat}

theorem requirePositiveWindow_eq (h : 0 < window) : requirePositiveWindow window = .ok ⟨⟩ :=
  Fallible.require_eq_ok.mpr h

theorem sma_eq (h : 0 < window) :
    sma snapshot window cutoff = (Formula.sma snapshot window).measured cutoff := by
  unfold sma
  rw [requirePositiveWindow_eq h]
  rfl

theorem smaSlope_eq (h : 0 < window) (hlookback : 0 < lookback) :
    smaSlope snapshot window lookback cutoff =
      (Formula.smaSlope snapshot window lookback).measured cutoff := by
  unfold smaSlope
  rw [requirePositiveWindow_eq h, requirePositiveWindow_eq hlookback]
  rfl

theorem relativeReturn_eq (h : 0 < window) : relativeReturn asset benchmark window cutoff =
    (Formula.relativeReturn asset benchmark window).measured cutoff := by
  unfold relativeReturn
  rw [requirePositiveWindow_eq h]
  rfl

theorem atrPercent_eq (h : 0 < window) :
    atrPercent snapshot window cutoff = (Formula.atrPercent snapshot window).measured cutoff := by
  unfold atrPercent
  rw [requirePositiveWindow_eq h]
  rfl

theorem realizedVolatility_eq (h : 0 < window) : realizedVolatility snapshot window cutoff =
    (Formula.realizedVolatility snapshot window).measured cutoff := by
  unfold realizedVolatility
  rw [requirePositiveWindow_eq h]
  rfl

theorem atrPercentile_eq (h : 0 < window) (hhistory : 0 < history) :
    atrPercentile snapshot window history cutoff =
      (Formula.atrPercentile snapshot window history).measured cutoff := by
  unfold atrPercentile
  rw [requirePositiveWindow_eq h, requirePositiveWindow_eq hhistory]
  rfl

theorem realizedVolatilityPercentile_eq (h : 0 < window) (hhistory : 0 < history) :
    realizedVolatilityPercentile snapshot window history cutoff =
      (Formula.realizedVolatilityPercentile snapshot window history).measured cutoff := by
  unfold realizedVolatilityPercentile
  rw [requirePositiveWindow_eq h, requirePositiveWindow_eq hhistory]
  rfl

theorem equalWeightRelativeReturn_eq {assets benchmarks : List RegimeMarketSnapshot}
    (h : 0 < window) (hassets : (assets.map RegimeMarketSnapshot.symbol).Nodup)
    (hbenchmarks : (benchmarks.map RegimeMarketSnapshot.symbol).Nodup) :
    equalWeightRelativeReturn assets benchmarks window cutoff =
      (Formula.equalWeight (inOrder assets) (inOrder benchmarks) window).measured cutoff := by
  have hcanonical {items : List RegimeMarketSnapshot}
      (hitems : (items.map RegimeMarketSnapshot.symbol).Nodup) :
      canonicalize items = .ok (inOrder items) := by
    refine Fallible.bind_eq_ok.mpr ⟨⟨⟩, Fallible.require_eq_ok.mpr ?_, rfl⟩
    refine List.Nodup.of_map Prod.fst ?_
    rw [List.map_map]
    exact hitems
  unfold equalWeightRelativeReturn
  rw [requirePositiveWindow_eq h, hcanonical hassets, hcanonical hbenchmarks]
  rfl

/-! ## Scores -/

theorem prec_eq : ambientContext.prec = 28 := rfl

theorem value_nonneg (weight : PositiveDecimal) : 0 ≤ weight.value.value := by
  rw [Decimal.value_eq, weight.positive.1]
  exact Decimal.magnitude_nonneg _

/-- Numbers that `decimal` compares as equal are one number. -/
theorem value_of_sameNumber {left right : Decimal} (h : left.sameNumber right = true) :
    left.value = right.value := by
  have hscaled := eq_of_beq h
  rw [← Decimal.scaled_value left (Int.min_le_left _ right.exponent),
    ← Decimal.scaled_value right (Int.min_le_right left.exponent _), hscaled]

/-- No weight has more than three digits before its point. -/
theorem weight_lt (policy : RegimePolicy) (component : RegimeComponent) :
    (policy.componentWeights component).value.value < 10 ^ (3 : ℤ) := by
  obtain ⟨total, htotal, hhundred⟩ := policy.totalled
  by_contra hlarge
  have hmem : (policy.componentWeights component).value ∈
      RegimeComponent.all.map fun c => (policy.componentWeights c).value := by
    refine List.mem_map_of_mem (f := fun c => (policy.componentWeights c).value) ?_
    cases component <;> decide
  have hnonneg : ∀ d ∈ RegimeComponent.all.map fun c => (policy.componentWeights c).value,
      0 ≤ d.value := by
    intro d hd
    obtain ⟨c, -, rfl⟩ := List.mem_map.mp hd
    exact value_nonneg _
  have hle := Decimal.Context.le_foldlM_add (by decide) htotal
    (le_of_eq (Decimal.value_of_zero rfl).symm) hnonneg (Or.inr ⟨_, hmem, not_lt.mp hlarge⟩)
  rw [value_of_sameNumber hhundred] at hle
  norm_num [Decimal.value, Decimal.signed] at hle

/-- The bound of a score, and room for a few of them. -/
theorem scores_lt {n : ℕ} (h : n ≤ 10) : ((n : ℚ) * 10 ^ (3 : ℤ)) < 10 ^ (Context.emax + 1) := by
  have hn : (n : ℚ) ≤ 10 := by exact_mod_cast h
  have hle : (n : ℚ) * 10 ^ (3 : ℤ) ≤ 10 ^ (4 : ℤ) := by
    norm_num
    linarith
  exact lt_of_le_of_lt hle (zpow_lt_zpow_right₀ (by norm_num) (by decide))

/-- A weighted score exists, and is no larger than its weight. -/
theorem weightedScoreOf_within (policy : RegimePolicy) (component : RegimeComponent)
    (state : RegimeComponentState) :
    ∃ score, weightedScoreOf state (policy.componentWeights component).value = .ok score ∧
      ∀ d ∈ score, |d.value| ≤ 10 ^ (3 : ℤ) := by
  have hweight : |(policy.componentWeights component).value.value| ≤ 10 ^ (3 : ℤ) := by
    rw [abs_of_nonneg (value_nonneg _)]
    exact (weight_lt policy component).le
  have hsome {d e : Decimal} (he : e ∈ some d) (hd : |d.value| ≤ 10 ^ (3 : ℤ)) :
      |e.value| ≤ 10 ^ (3 : ℤ) := by
    cases he
    exact hd
  cases state with
  | unavailable => exact ⟨none, rfl, fun d hd => absurd hd (Option.not_mem_none d)⟩
  | positive => exact ⟨_, rfl, fun d hd => hsome hd hweight⟩
  | mixed =>
    refine ⟨_, rfl, fun d hd => hsome hd ?_⟩
    rw [Decimal.value_of_zero rfl, abs_zero]
    positivity
  | negative =>
    have hunit : ((1 : ℕ) : ℚ) * 10 ^ (3 : ℤ) = 10 ^ (3 : ℤ) := by rw [Nat.cast_one, one_mul]
    obtain ⟨negated, hnegated, hbound⟩ := @Decimal.Context.minus_within ambientContext _ 1 3
      (by decide) (by decide) (scores_lt (by omega)) (hweight.trans_eq hunit.symm)
    rw [hunit] at hbound
    refine ⟨some negated, ?_, fun d hd => hsome hd hbound⟩
    show (ambientContext.minus _ >>= _) = _
    rw [hnegated]
    rfl

/-! ## Components -/

/-- A component with the metrics of its calls. -/
def Delivered (policy : RegimePolicy) (component : RegimeComponent) (metrics : List MetricResult)
    (c : Calculated) : Prop :=
  c.2 = metrics ∧ c.1.component = component ∧ c.1.weight = policy.componentWeights component

theorem componentResult_total (component : RegimeComponent) (state : RegimeComponentState)
    (metrics : List MetricResult) (reason : RegimeComponentReason) (policy : RegimePolicy) :
    ∃ result, componentResult component state metrics reason policy = .ok result ∧
      result.component = component ∧ result.weight = policy.componentWeights component := by
  obtain ⟨score, hscore, -⟩ := weightedScoreOf_within policy component state
  unfold componentResult
  split
  · next signal herror =>
    rw [hscore] at herror
    cases herror
  · exact ⟨_, rfl, rfl, rfl⟩

theorem ruled_total (component : RegimeComponent) (state : RegimeComponentState)
    (metrics : List MetricResult) (unavailable : RegimeComponentReason) (policy : RegimePolicy) :
    ∃ c, ruled component state metrics unavailable policy = .ok c ∧
      Delivered policy component metrics c := by
  unfold ruled
  obtain ⟨result, hresult, hcomponent, hweight⟩ := componentResult_total component state metrics
    (if state = .unavailable then unavailable else reasonForState state) policy
  exact ⟨(result, metrics), Fallible.bind_eq_ok.mpr ⟨result, hresult, rfl⟩, rfl, hcomponent, hweight⟩

theorem missingSnapshot_makes (component : RegimeComponent) (policy : RegimePolicy) :
    Makes (fun f : Formula => f.measured cutoff) [] (missingSnapshot component policy)
      (Delivered policy component) := by
  obtain ⟨result, hresult, hcomponent, hweight⟩ :=
    componentResult_total component .unavailable [] .missingRequiredSnapshot policy
  exact makes_none (Fallible.bind_eq_ok.mpr ⟨result, hresult, rfl⟩) ⟨rfl, hcomponent, hweight⟩

/-- What a measured metric records. -/
theorem measured_eq_ok {f : Formula} {m : MetricResult} (h : f.measured cutoff = .ok m) :
    ∃ reading, f.reading = .ok reading ∧
      m = metricOf f.name f.unit f.parameters f.snapshots cutoff reading ∧ m.Legal := by
  unfold Formula.measured at h
  obtain ⟨_, -, h⟩ := Fallible.bind_eq_ok.mp h
  obtain ⟨reading, hreading, h⟩ := Fallible.bind_eq_ok.mp h
  unfold metricResult MetricResult.validated at h
  split at h
  · next hlegal =>
    cases h
    exact ⟨reading, hreading, rfl, hlegal⟩
  · cases h

/-- An available average has a latest close. -/
theorem latestClose_of_sma (hwindow : 0 < window) {m : MetricResult}
    (h : (Formula.sma snapshot window).measured cutoff = .ok m) (havailable : m.isUnavailable = false) :
    ∃ close, latestClose snapshot = .ok close := by
  obtain ⟨reading, hreading, rfl, -⟩ := measured_eq_ok h
  have hbars : snapshot.completedDailyBars ≠ [] := by
    intro hnil
    have hread : smaReading snapshot window = .ok reading := hreading
    unfold smaReading at hread
    rw [hnil, List.length_nil, if_pos hwindow] at hread
    cases hread
    cases havailable
  unfold latestClose
  rw [List.getLast?_eq_some_getLast hbars]
  exact ⟨_, rfl⟩

theorem metricValue_of_available {m : MetricResult} (h : m.isUnavailable = false) :
    ∃ value, metricValue m = .ok value := by
  unfold MetricResult.isUnavailable at h
  unfold metricValue
  cases houtcome : m.outcome with
  | available value => exact ⟨value, rfl⟩
  | unavailable reason =>
    rw [houtcome] at h
    cases h

/-! ### Broad trend -/

/-- The short average of an observation has a latest close when it is available. -/
def TrendObservation.Grounded (o : TrendObservation) : Prop :=
  o.shortAverage.isUnavailable = false → ∃ close, latestClose o.snapshot = .ok close

theorem observeTrend_makes (snapshot : RegimeMarketSnapshot) :
    Makes (fun f : Formula => f.measured cutoff) (trendFormulas policy snapshot)
      (observeTrend indicators policy cutoff snapshot)
      fun metrics o => o.metrics = metrics ∧ o.Grounded := by
  have hshort : 0 < policy.shortSmaWindow := policy.windows _ (by simp)
  have hlong : 0 < policy.longSmaWindow := policy.windows _ (by simp)
  have hlookback : 0 < policy.slopeLookback := policy.windows _ (by simp)
  unfold observeTrend
  simp only [indicators, sma_eq hshort, sma_eq hlong, smaSlope_eq hshort hlookback]
  refine Makes.bind (calls_call (Formula.sma snapshot policy.shortSmaWindow)) ?_
  intro _ short hshortMetric
  refine Makes.bind (calls_call (Formula.sma snapshot policy.longSmaWindow)) ?_
  intro _ long hlongMetric
  refine Makes.then_none (calls_call
    (Formula.smaSlope snapshot policy.shortSmaWindow policy.slopeLookback)) ?_
  intro _ slope hslopeMetric
  refine ⟨_, rfl, ?_, fun havailable => latestClose_of_sma hshort hshortMetric.2 havailable⟩
  rw [hshortMetric.1, hlongMetric.1, hslopeMetric.1]
  rfl

theorem trendSigns_total {o : TrendObservation} (hgrounded : o.Grounded)
    (havailable : ∀ m ∈ o.metrics, m.isUnavailable = false) : ∃ signs, trendSigns o = .ok signs := by
  have hshort := havailable o.shortAverage (by simp [TrendObservation.metrics])
  have hlong := havailable o.longAverage (by simp [TrendObservation.metrics])
  have hslope := havailable o.slope (by simp [TrendObservation.metrics])
  obtain ⟨close, hclose⟩ := hgrounded hshort
  obtain ⟨short, hshort⟩ := metricValue_of_available hshort
  obtain ⟨long, hlong⟩ := metricValue_of_available hlong
  obtain ⟨slope, hslope⟩ := metricValue_of_available hslope
  unfold trendSigns
  rw [hclose, hshort, hlong, hslope]
  exact ⟨_, rfl⟩

theorem observedTrendState_total {observations : List TrendObservation}
    (hgrounded : ∀ o ∈ observations, o.Grounded) :
    ∃ state, observedTrendState observations = .ok state := by
  unfold observedTrendState
  split
  · exact ⟨_, rfl⟩
  · next havailable =>
    rw [List.any_eq_true, not_exists] at havailable
    obtain ⟨signs, hsigns⟩ := Fallible.mapM_total fun o ho => trendSigns_total (hgrounded o ho)
      fun m hm => Bool.eq_false_iff.mpr fun hunavailable =>
        havailable m ⟨List.mem_flatMap.mpr ⟨o, ho, hm⟩, hunavailable⟩
    rw [hsigns]
    exact ⟨_, rfl⟩

theorem broadTrend_makes : Makes (fun f : Formula => f.measured cutoff)
    (broadTrendFormulas policy snapshots) (broadTrend indicators policy cutoff snapshots)
    (Delivered policy .broadTrend) := by
  unfold broadTrend broadTrendFormulas
  cases [policy.broadBenchmark, policy.broadGrowth].mapM snapshots.get? with
  | none => exact missingSnapshot_makes .broadTrend policy
  | some broad =>
    refine Makes.then_none (Calls.makes_mapM fun snapshot _ => observeTrend_makes snapshot) ?_
    intro metrics observations hobservations
    obtain ⟨state, hstate⟩ := observedTrendState_total hobservations.2
    obtain ⟨c, hc, hdelivered⟩ := ruled_total .broadTrend state
      (observations.flatMap TrendObservation.metrics) .insufficientHistory policy
    refine ⟨c, ?_, hobservations.1 ▸ hdelivered⟩
    rw [hstate]
    exact hc

/-! ### Participation -/

theorem countSector_makes (symbol : String) (counts : ParticipationCounts) :
    Makes (fun f : Formula => f.measured cutoff) (sectorFormulas policy snapshots symbol)
      (countSector indicators policy cutoff snapshots counts symbol)
      fun metrics next => next.metrics = counts.metrics ++ metrics := by
  have hshort : 0 < policy.shortSmaWindow := policy.windows _ (by simp)
  have hlookback : 0 < policy.slopeLookback := policy.windows _ (by simp)
  unfold countSector sectorFormulas
  cases snapshots.get? symbol with
  | none => exact makes_none rfl (List.append_nil _).symm
  | some snapshot =>
    simp only [indicators, sma_eq hshort, smaSlope_eq hshort hlookback, Option.toList_some,
      List.flatMap_singleton]
    refine Makes.bind (calls_call (Formula.sma snapshot policy.shortSmaWindow)) ?_
    intro _ average haverage
    refine Makes.then_none (calls_call
      (Formula.smaSlope snapshot policy.shortSmaWindow policy.slopeLookback)) ?_
    intro _ slope hslope
    rw [haverage.1, hslope.1]
    split
    · exact ⟨_, rfl, rfl⟩
    · next hsome =>
      rw [Bool.or_eq_true, not_or] at hsome
      have hbare := Bool.eq_false_iff.mpr hsome.1
      obtain ⟨close, hclose⟩ := latestClose_of_sma hshort haverage.2 hbare
      obtain ⟨value, hvalue⟩ := metricValue_of_available hbare
      obtain ⟨rise, hrise⟩ := metricValue_of_available (Bool.eq_false_iff.mpr hsome.2)
      rw [hclose, hvalue, hrise]
      exact ⟨_, rfl, rfl⟩

theorem participation_makes : Makes (fun f : Formula => f.measured cutoff)
    (policy.sectorSymbols.flatMap (sectorFormulas policy snapshots))
    (participation indicators policy cutoff snapshots) (Delivered policy .participation) := by
  unfold participation
  have hloop : Makes (fun f : Formula => f.measured cutoff)
      (policy.sectorSymbols.flatMap (sectorFormulas policy snapshots))
      (policy.sectorSymbols.foldlM (countSector indicators policy cutoff snapshots) ⟨[], 0, 0, 0⟩)
      fun metrics counts => counts.metrics = [] ++ metrics := by
    refine makes_foldlM (I := fun metrics (counts : ParticipationCounts) => counts.metrics = metrics) ?_ rfl
    intro earlier counts symbol _ hcounts
    rw [← hcounts]
    exact countSector_makes symbol counts
  refine hloop.then_none fun metrics counts hcounts => ?_
  rw [List.nil_append] at hcounts
  rw [← hcounts]
  exact ruled_total .participation _ counts.metrics .insufficientValidSeries policy

/-! ### Leadership -/

theorem assetReturn_makes (symbol : String) : Makes (fun f : Formula => f.measured cutoff)
    (assetFormulas policy snapshots symbol) (assetReturn indicators policy cutoff snapshots symbol)
    fun metrics found => found.toList = metrics ∧ True := by
  have hwindow : 0 < policy.relativeReturnWindow := policy.windows _ (by simp)
  unfold assetReturn assetFormulas
  cases snapshots.get? symbol with
  | none => exact makes_none rfl ⟨rfl, trivial⟩
  | some asset =>
    cases snapshots.get? policy.broadBenchmark with
    | none => exact makes_none rfl ⟨rfl, trivial⟩
    | some benchmark =>
      simp only [indicators, relativeReturn_eq hwindow]
      refine Makes.then_none (calls_call
        (Formula.relativeReturn asset benchmark policy.relativeReturnWindow)) ?_
      intro _ metric hmetric
      rw [hmetric.1]
      exact ⟨_, rfl, rfl, trivial⟩

/-- The snapshots are under their own symbols. -/
def Snapshots.Keyed (snapshots : Snapshots) : Prop :=
  ∀ symbol snapshot, snapshots.get? symbol = some snapshot → snapshot.symbol = symbol

theorem Snapshots.Keyed.nodup_symbols (hkeyed : snapshots.Keyed) {symbols : List String}
    (h : symbols.Nodup) :
    ((symbols.filterMap snapshots.get?).map RegimeMarketSnapshot.symbol).Nodup := by
  refine List.Nodup.sublist ?_ h
  induction symbols with
  | nil => exact List.Sublist.slnil
  | cons symbol rest ih =>
    have hrest := ih (List.nodup_cons.mp h).2
    cases hget : snapshots.get? symbol with
    | none =>
      rw [List.filterMap_cons_none hget]
      exact hrest.cons _
    | some snapshot =>
      rw [List.filterMap_cons_some hget, List.map_cons, hkeyed symbol snapshot hget]
      exact hrest.cons_cons _

theorem basketReturn_makes (hkeyed : snapshots.Keyed) : Makes (fun f : Formula => f.measured cutoff)
    (basketFormulas policy snapshots) (basketReturn indicators policy cutoff snapshots)
    fun metrics found => found.toList = metrics := by
  have hwindow : 0 < policy.relativeReturnWindow := policy.windows _ (by simp)
  unfold basketReturn basketFormulas
  show Makes _ _ (if BasketsComplete policy snapshots then _ else _) _
  by_cases hcomplete : BasketsComplete policy snapshots
  · rw [if_pos hcomplete, if_pos hcomplete]
    simp only [indicators, equalWeightRelativeReturn_eq hwindow
      (hkeyed.nodup_symbols policy.baskets.2.2.1) (hkeyed.nodup_symbols policy.baskets.2.2.2.1)]
    refine Makes.then_none (calls_call (basketFormula policy snapshots)) ?_
    intro _ metric hmetric
    rw [hmetric.1]
    exact ⟨_, rfl, rfl⟩
  · rw [if_neg hcomplete, if_neg hcomplete]
    exact makes_none rfl rfl

theorem filterMap_id_eq {α : Type} (items : List (Option α)) :
    items.filterMap id = items.flatMap Option.toList := by
  induction items with
  | nil => rfl
  | cons found rest ih =>
    rw [List.flatMap_cons, ← ih]
    cases found with
    | none => rfl
    | some item => rfl

theorem leadership_makes (hkeyed : snapshots.Keyed) : Makes (fun f : Formula => f.measured cutoff)
    ([policy.broadGrowth, policy.smallCapSymbol].flatMap (assetFormulas policy snapshots) ++
      basketFormulas policy snapshots)
    (leadership indicators policy cutoff snapshots) (Delivered policy .leadership) := by
  unfold leadership
  refine Makes.bind (Calls.makes_mapM fun symbol _ => assetReturn_makes symbol) ?_
  intro metrics returns hreturns
  refine Makes.then_none (basketReturn_makes hkeyed) ?_
  intro rest basket hbasket
  have hall : (returns ++ [basket]).filterMap id = metrics ++ rest := by
    rw [filterMap_id_eq, List.flatMap_append, hreturns.1, List.flatMap_singleton, hbasket]
  rw [hall]
  exact ruled_total .leadership _ (metrics ++ rest) .insufficientValidSeries policy

/-! ### Volatility -/

theorem observedVolatilityState_total {metrics : List MetricResult} {realized atr : MetricResult}
    (hrealized : realized ∈ metrics) (hatr : atr ∈ metrics) :
    ∃ state, observedVolatilityState policy metrics realized atr = .ok state := by
  unfold observedVolatilityState
  split
  · exact ⟨_, rfl⟩
  · next havailable =>
    rw [List.any_eq_true, not_exists] at havailable
    have hvalue {m : MetricResult} (hm : m ∈ metrics) : m.isUnavailable = false :=
      Bool.eq_false_iff.mpr fun hunavailable => havailable m ⟨hm, hunavailable⟩
    obtain ⟨realizedValue, hrealized⟩ := metricValue_of_available (hvalue hrealized)
    obtain ⟨atrValue, hatr⟩ := metricValue_of_available (hvalue hatr)
    rw [hrealized, hatr]
    exact ⟨_, rfl⟩

theorem volatilityStress_makes : Makes (fun f : Formula => f.measured cutoff)
    (volatilityFormulas policy snapshots) (volatilityStress indicators policy cutoff snapshots)
    (Delivered policy .volatilityStress) := by
  have hvolatility : 0 < policy.realizedVolatilityWindow := policy.windows _ (by simp)
  have hatr : 0 < policy.atrWindow := policy.windows _ (by simp)
  have hhistory : 0 < policy.percentileHistory := policy.windows _ (by simp)
  unfold volatilityStress volatilityFormulas
  cases snapshots.get? policy.broadBenchmark with
  | none => exact missingSnapshot_makes .volatilityStress policy
  | some snapshot =>
    simp only [indicators, realizedVolatility_eq hvolatility, atrPercent_eq hatr,
      realizedVolatilityPercentile_eq hvolatility hhistory, atrPercentile_eq hatr hhistory,
      Option.toList_some, List.flatMap_singleton]
    refine Makes.bind (calls_call
      (Formula.realizedVolatility snapshot policy.realizedVolatilityWindow)) ?_
    intro _ volatility hvolatilityMetric
    refine Makes.bind (calls_call (Formula.atrPercent snapshot policy.atrWindow)) ?_
    intro _ range hrangeMetric
    refine Makes.bind (calls_call (Formula.realizedVolatilityPercentile snapshot
      policy.realizedVolatilityWindow policy.percentileHistory)) ?_
    intro _ realized hrealizedMetric
    refine Makes.then_none (calls_call
      (Formula.atrPercentile snapshot policy.atrWindow policy.percentileHistory)) ?_
    intro _ atr hatrMetric
    rw [hvolatilityMetric.1, hrangeMetric.1, hrealizedMetric.1, hatrMetric.1]
    obtain ⟨state, hstate⟩ := @observedVolatilityState_total policy
      [volatility, range, realized, atr] realized atr (by simp) (by simp)
    rw [hstate]
    exact ruled_total .volatilityStress state _ .insufficientHistory policy

/-! ### Credit -/

theorem observedCreditState_total {relative average slope : MetricResult}
    (hclose : average.isUnavailable = false → ∃ close, latestClose asset = .ok close) :
    ∃ state, observedCreditState asset relative average slope = .ok state := by
  unfold observedCreditState
  split
  · exact ⟨_, rfl⟩
  · next havailable =>
    rw [List.any_eq_true, not_exists] at havailable
    have hvalue {m : MetricResult} (hm : m ∈ [relative, average, slope]) : m.isUnavailable = false :=
      Bool.eq_false_iff.mpr fun hunavailable => havailable m ⟨hm, hunavailable⟩
    obtain ⟨close, hclose⟩ := hclose (hvalue (by simp))
    obtain ⟨relativeValue, hrelative⟩ := metricValue_of_available (hvalue (m := relative) (by simp))
    obtain ⟨averageValue, haverage⟩ := metricValue_of_available (hvalue (m := average) (by simp))
    obtain ⟨slopeValue, hslope⟩ := metricValue_of_available (hvalue (m := slope) (by simp))
    rw [hrelative, haverage, hslope, hclose]
    exact ⟨_, rfl⟩

theorem creditCrossAsset_makes : Makes (fun f : Formula => f.measured cutoff)
    (creditFormulas policy snapshots) (creditCrossAsset indicators policy cutoff snapshots)
    (Delivered policy .creditCrossAsset) := by
  have hwindow : 0 < policy.relativeReturnWindow := policy.windows _ (by simp)
  have hshort : 0 < policy.shortSmaWindow := policy.windows _ (by simp)
  have hlookback : 0 < policy.slopeLookback := policy.windows _ (by simp)
  unfold creditCrossAsset creditFormulas
  cases snapshots.get? policy.creditAssetSymbol with
  | none => exact missingSnapshot_makes .creditCrossAsset policy
  | some asset =>
    cases snapshots.get? policy.creditBenchmarkSymbol with
    | none => exact missingSnapshot_makes .creditCrossAsset policy
    | some benchmark =>
      simp only [indicators, relativeReturn_eq hwindow, sma_eq hshort, smaSlope_eq hshort hlookback,
        Option.toList_some, List.flatMap_singleton]
      refine Makes.bind (calls_call
        (Formula.relativeReturn asset benchmark policy.relativeReturnWindow)) ?_
      intro _ relative hrelative
      refine Makes.bind (calls_call (Formula.sma asset policy.shortSmaWindow)) ?_
      intro _ average haverage
      refine Makes.then_none (calls_call
        (Formula.smaSlope asset policy.shortSmaWindow policy.slopeLookback)) ?_
      intro _ slope hslope
      rw [hrelative.1, haverage.1, hslope.1]
      obtain ⟨state, hstate⟩ := @observedCreditState_total asset relative average slope
        (latestClose_of_sma hshort haverage.2)
      rw [hstate]
      exact ruled_total .creditCrossAsset state _ .insufficientHistory policy

/-! ### All five -/

/-- The five components in their order, with their weights and the metrics of the calls. -/
structure AllDelivered (policy : RegimePolicy) (metrics : List MetricResult)
    (calculated : List Calculated) : Prop where
  metrics : calculated.flatMap Prod.snd = metrics
  order : (calculated.map Prod.fst).map RegimeComponentResult.component = RegimeComponent.all
  weights : ∀ c ∈ calculated, c.1.weight = policy.componentWeights c.1.component

/-- **The components make the calls of `formulas` and nothing else that fails.** -/
theorem calculateComponents_makes (hkeyed : snapshots.Keyed) :
    Makes (fun f : Formula => f.measured cutoff) (formulas policy snapshots)
      (calculateComponents indicators policy cutoff snapshots) (AllDelivered policy) := by
  have hweight {component : RegimeComponent} {metrics : List MetricResult} {c : Calculated}
      (h : Delivered policy component metrics c) : c.1.weight = policy.componentWeights c.1.component := by
    rw [h.2.2, h.2.1]
  unfold calculateComponents formulas
  simp only [List.append_assoc]
  refine broadTrend_makes.bind fun _ trend htrend => ?_
  refine participation_makes.bind fun _ breadth hbreadth => ?_
  rw [← List.append_assoc]
  refine (leadership_makes hkeyed).bind fun _ leaders hleaders => ?_
  refine volatilityStress_makes.bind fun _ stress hstress => ?_
  refine creditCrossAsset_makes.then_none fun _ credit hcredit => ?_
  refine ⟨_, rfl, ?_, ?_, ?_⟩
  · simp only [List.flatMap_cons, List.flatMap_nil, List.append_nil, htrend.1, hbreadth.1, hleaders.1,
      hstress.1, hcredit.1]
  · simp only [List.map_cons, List.map_nil, htrend.2.1, hbreadth.2.1, hleaders.2.1, hstress.2.1,
      hcredit.2.1]
    rfl
  · simp only [List.forall_mem_cons]
    exact ⟨hweight htrend, hweight hbreadth, hweight hleaders, hweight hstress, hweight hcredit,
      List.forall_mem_nil _⟩

end FinanceResearch.Regimes
