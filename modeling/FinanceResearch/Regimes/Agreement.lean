import FinanceResearch.Regimes.Calculation
import FinanceResearch.Lib.Dicts

/-!
# What the regime depends on

Two mappings of snapshots that agree on the required symbols have the same
regime result: each component looks up required symbols only, and the IDs and flags of
the result are sorted, so the order of a mapping does not show.
-/

namespace FinanceResearch.Regimes

open Calendar (UtcDatetime)

/-! ## Required symbols -/

namespace RegimePolicy

variable {policy : RegimePolicy} {symbol : String}

theorem mem_requiredSymbols : symbol ∈ policy.requiredSymbols ↔
    symbol ∈ [policy.broadBenchmark, policy.broadGrowth, policy.smallCapSymbol,
      policy.creditAssetSymbol, policy.creditBenchmarkSymbol] ++ policy.sectorSymbols ++
        policy.cyclicalSymbols ++ policy.defensiveSymbols := by
  unfold requiredSymbols
  rw [(List.perm_insertionSort _ _).mem_iff, List.mem_eraseDups]

theorem broadBenchmark_required : policy.broadBenchmark ∈ policy.requiredSymbols :=
  mem_requiredSymbols.mpr (by simp)

theorem broadGrowth_required : policy.broadGrowth ∈ policy.requiredSymbols :=
  mem_requiredSymbols.mpr (by simp)

theorem smallCap_required : policy.smallCapSymbol ∈ policy.requiredSymbols :=
  mem_requiredSymbols.mpr (by simp)

theorem creditAsset_required : policy.creditAssetSymbol ∈ policy.requiredSymbols :=
  mem_requiredSymbols.mpr (by simp)

theorem creditBenchmark_required : policy.creditBenchmarkSymbol ∈ policy.requiredSymbols :=
  mem_requiredSymbols.mpr (by simp)

theorem sector_required (h : symbol ∈ policy.sectorSymbols) : symbol ∈ policy.requiredSymbols :=
  mem_requiredSymbols.mpr (by simp [h])

theorem cyclical_required (h : symbol ∈ policy.cyclicalSymbols) :
    symbol ∈ policy.requiredSymbols :=
  mem_requiredSymbols.mpr (by simp [h])

theorem defensive_required (h : symbol ∈ policy.defensiveSymbols) :
    symbol ∈ policy.requiredSymbols :=
  mem_requiredSymbols.mpr (by simp [h])

end RegimePolicy

/-- Two mappings have the same snapshots for the required symbols. -/
def Snapshots.Agree (policy : RegimePolicy) (s t : Snapshots) : Prop :=
  ∀ symbol ∈ policy.requiredSymbols, s.get? symbol = t.get? symbol

/-! ## The components -/

section Calculators

variable (indicators : Indicators) {policy : RegimePolicy} (cutoff : UtcDatetime)
  {s t : Snapshots} (h : s.Agree policy t)

include h

theorem broadTrend_agree :
    broadTrend indicators policy cutoff s = broadTrend indicators policy cutoff t := by
  have hbroad : [policy.broadBenchmark, policy.broadGrowth].mapM s.get?
      = [policy.broadBenchmark, policy.broadGrowth].mapM t.get? := by
    simp only [List.mapM_cons, List.mapM_nil, h _ RegimePolicy.broadBenchmark_required,
      h _ RegimePolicy.broadGrowth_required]
  unfold broadTrend
  rw [hbroad]

theorem countSector_agree (counts : ParticipationCounts) {symbol : String}
    (hsymbol : symbol ∈ policy.sectorSymbols) :
    countSector indicators policy cutoff s counts symbol
      = countSector indicators policy cutoff t counts symbol := by
  unfold countSector
  rw [h _ (RegimePolicy.sector_required hsymbol)]

theorem participation_agree :
    participation indicators policy cutoff s = participation indicators policy cutoff t := by
  unfold participation
  rw [Fallible.foldlM_congr fun counts symbol hsymbol => countSector_agree indicators cutoff h counts hsymbol]

theorem assetReturn_agree {symbol : String} (hsymbol : symbol ∈ policy.requiredSymbols) :
    assetReturn indicators policy cutoff s symbol
      = assetReturn indicators policy cutoff t symbol := by
  unfold assetReturn
  rw [h _ hsymbol, h _ RegimePolicy.broadBenchmark_required]

theorem basketReturn_agree :
    basketReturn indicators policy cutoff s = basketReturn indicators policy cutoff t := by
  have hcyclical : policy.cyclicalSymbols.filterMap s.get?
      = policy.cyclicalSymbols.filterMap t.get? :=
    List.filterMap_congr fun symbol hmem => h _ (RegimePolicy.cyclical_required hmem)
  have hdefensive : policy.defensiveSymbols.filterMap s.get?
      = policy.defensiveSymbols.filterMap t.get? :=
    List.filterMap_congr fun symbol hmem => h _ (RegimePolicy.defensive_required hmem)
  unfold basketReturn
  rw [hcyclical, hdefensive]

theorem leadership_agree :
    leadership indicators policy cutoff s = leadership indicators policy cutoff t := by
  unfold leadership
  simp only [List.mapM_cons, List.mapM_nil, basketReturn_agree indicators cutoff h,
    assetReturn_agree indicators cutoff h RegimePolicy.broadGrowth_required,
    assetReturn_agree indicators cutoff h RegimePolicy.smallCap_required]

theorem volatilityStress_agree :
    volatilityStress indicators policy cutoff s = volatilityStress indicators policy cutoff t := by
  unfold volatilityStress
  rw [h _ RegimePolicy.broadBenchmark_required]

theorem creditCrossAsset_agree :
    creditCrossAsset indicators policy cutoff s = creditCrossAsset indicators policy cutoff t := by
  unfold creditCrossAsset
  rw [h _ RegimePolicy.creditAsset_required, h _ RegimePolicy.creditBenchmark_required]

theorem calculateComponents_agree :
    calculateComponents indicators policy cutoff s
      = calculateComponents indicators policy cutoff t := by
  unfold calculateComponents
  rw [broadTrend_agree indicators cutoff h, participation_agree indicators cutoff h,
    leadership_agree indicators cutoff h, volatilityStress_agree indicators cutoff h,
    creditCrossAsset_agree indicators cutoff h]

end Calculators

/-! ## The snapshots of the result -/

/-- With unique keys the entry of a key is what the lookup finds. -/
theorem lookup_eq_some_iff {α : Type} {symbol : String} {value : α} :
    ∀ {items : List (String × α)}, (items.map Prod.fst).Nodup →
      (items.lookup symbol = some value ↔ (symbol, value) ∈ items)
  | [], _ => by simp
  | (key, first) :: rest, hunique => by
    rw [List.map_cons, List.nodup_cons] at hunique
    rw [List.lookup_cons, List.mem_cons]
    by_cases hkey : symbol = key
    · subst hkey
      have hnot : (symbol, value) ∉ rest := fun hmem =>
        hunique.1 (List.mem_map.mpr ⟨_, hmem, rfl⟩)
      simp [hnot, eq_comm]
    · have hbeq : (symbol == key) = false := beq_false_of_ne hkey
      simp [hbeq, hkey, lookup_eq_some_iff hunique.2]

/-- The entries of the required symbols are those of any mapping that agrees, up to order. -/
theorem Snapshots.Agree.entries {policy : RegimePolicy} {s t : Snapshots} (h : s.Agree policy t) :
    (s.items.filter fun entry => entry.1 ∈ policy.requiredSymbols).Perm
      (t.items.filter fun entry => entry.1 ∈ policy.requiredSymbols) := by
  have hnodup : ∀ u : Snapshots,
      (u.items.filter fun entry => entry.1 ∈ policy.requiredSymbols).Nodup := fun u =>
    (List.Nodup.of_map _ u.unique).filter _
  rw [List.perm_ext_iff_of_nodup (hnodup s) (hnodup t)]
  intro entry
  rw [List.mem_filter, List.mem_filter]
  refine and_congr_left ?_
  intro hrequired
  have hsame := h entry.1 (of_decide_eq_true hrequired)
  rw [← lookup_eq_some_iff s.unique, ← lookup_eq_some_iff t.unique]
  show s.get? entry.1 = some entry.2 ↔ t.get? entry.1 = some entry.2
  rw [hsame]

theorem Snapshots.Agree.required {policy : RegimePolicy} {s t : Snapshots}
    (h : s.Agree policy t) : (s.required policy).Perm (t.required policy) :=
  h.entries.map Prod.snd

theorem inputSnapshotIds_perm {xs ys : List RegimeMarketSnapshot} (h : xs.Perm ys) :
    inputSnapshotIds xs = inputSnapshotIds ys :=
  List.Perm.eq_of_pairwise (fun _ _ _ _ hle hge => le_antisymm hle hge)
    (List.pairwise_insertionSort _ _) (List.pairwise_insertionSort _ _)
    (((List.perm_insertionSort _ _).trans (h.map _)).trans (List.perm_insertionSort _ _).symm)

theorem sortedSet_perm {xs ys : List String} (h : xs.Perm ys) : sortedSet xs = sortedSet ys := by
  have hdups : xs.eraseDups.Perm ys.eraseDups := by
    rw [List.perm_ext_iff_of_nodup (Dicts.nodup_eraseDups _ _ (Nat.le_refl _))
      (Dicts.nodup_eraseDups _ _ (Nat.le_refl _))]
    intro text
    rw [List.mem_eraseDups, List.mem_eraseDups, h.mem_iff]
  exact List.Perm.eq_of_pairwise (fun _ _ _ _ hle hge => le_antisymm hle hge)
    (List.pairwise_insertionSort _ _) (List.pairwise_insertionSort _ _)
    (((List.perm_insertionSort _ _).trans hdups).trans (List.perm_insertionSort _ _).symm)

theorem assemble_perm {xs ys : List RegimeMarketSnapshot} (h : xs.Perm ys)
    (calculated : List Calculated) (policy : RegimePolicy) (cutoff : UtcDatetime) :
    assemble calculated xs policy cutoff = assemble calculated ys policy cutoff := by
  have hflags : inputQualityFlags xs = inputQualityFlags ys :=
    sortedSet_perm (h.flatMap_right _)
  unfold assemble
  rw [inputSnapshotIds_perm h, hflags]

/-- Accepted mappings that agree on the required symbols give the same result, whatever else
they contain and in whatever order. -/
theorem calculateRegime_agree (indicators : Indicators) (policy : RegimePolicy)
    (cutoff : UtcDatetime) (s t : Snapshots) (hs : validateInputs s policy cutoff = .ok ())
    (ht : validateInputs t policy cutoff = .ok ())
    (h : ∀ symbol ∈ policy.requiredSymbols, s.get? symbol = t.get? symbol) :
    calculateRegime indicators s policy cutoff = calculateRegime indicators t policy cutoff := by
  have hagree : s.Agree policy t := h
  unfold calculateRegime
  rw [hs, ht, calculateComponents_agree indicators cutoff hagree]
  simp only [assemble_perm hagree.required]

/-! ## A policy, and mappings that agree on it -/

def samplePolicy : RegimePolicy where
  version := "regime-policy-v1"
  broadBenchmark := "SPY"
  broadGrowth := "QQQ"
  smallCapSymbol := "IWM"
  creditAssetSymbol := "HYG"
  creditBenchmarkSymbol := "IEF"
  sectorSymbols := ["XLB", "XLC", "XLE", "XLF", "XLI", "XLK", "XLP", "XLRE", "XLU", "XLV", "XLY"]
  cyclicalSymbols := ["XLI", "XLY"]
  defensiveSymbols := ["XLP", "XLU"]
  shortSmaWindow := 50
  longSmaWindow := 200
  slopeLookback := 20
  relativeReturnWindow := 63
  atrWindow := 14
  realizedVolatilityWindow := 20
  percentileHistory := 252
  participationPositiveMinimum := 7
  participationNegativeMaximum := 4
  participationMinimumValid := 8
  leadershipVoteThreshold := 2
  leadershipMinimumValid := 2
  volatilityPositiveMaximum := ⟨false, 60, 0⟩
  volatilityNegativeMinimum := ⟨false, 85, 0⟩
  permissiveThreshold := ⟨false, 30, 0⟩
  defensiveThreshold := ⟨true, 30, 0⟩
  componentWeights := fun _ => ⟨⟨false, 20, 0⟩, by decide⟩
  versioned := by decide
  sectors := by decide
  baskets := by simp [List.Disjoint]
  normalized := by decide
  primary := by decide
  totalled := ⟨⟨false, 100, 0⟩, by decide⟩
  windows := by decide
  participation := by decide
  leadership := by decide
  volatility := by decide
  thresholds := by decide

/-- A snapshot without bars. -/
def sampleSnapshot (symbol : String) (h : isNormalizedSymbol symbol = true) :
    RegimeMarketSnapshot where
  snapshotId := "snapshot-1"
  symbol
  asOf := 0
  completedDailyBars := []
  qualityFlags := ["partial"]
  inputEvidenceIds := []
  safeId := by decide
  normalized := h
  increasing := .nil
  uniqueEvidence := .nil

/-- Indicators that no component calls on the mappings below. -/
def sampleIndicators : Indicators where
  sma _ _ _ := .error .indexError
  smaSlope _ _ _ _ := .error .indexError
  relativeReturn _ _ _ _ := .error .indexError
  equalWeightRelativeReturn _ _ _ _ := .error .indexError
  realizedVolatility _ _ _ := .error .indexError
  atrPercent _ _ _ := .error .indexError
  realizedVolatilityPercentile _ _ _ _ := .error .indexError
  atrPercentile _ _ _ _ := .error .indexError

def sampleSnapshots : Snapshots :=
  ⟨[("IWM", sampleSnapshot "IWM" (by decide))], by decide⟩

/-- The same with a symbol that no policy requires before it. -/
def widerSnapshots : Snapshots :=
  ⟨[("ZM", sampleSnapshot "ZM" (by decide)), ("IWM", sampleSnapshot "IWM" (by decide))],
    by decide⟩

theorem sampleSnapshots_agree : ∀ symbol ∈ samplePolicy.requiredSymbols,
    sampleSnapshots.get? symbol = widerSnapshots.get? symbol := by
  intro symbol hmem
  have hne : symbol ≠ "ZM" := by
    intro heq
    subst heq
    exact absurd (RegimePolicy.mem_requiredSymbols.mp hmem) (by decide)
  show [_].lookup symbol = [_, _].lookup symbol
  simp [List.lookup_cons, beq_false_of_ne hne]

theorem calculateRegime_agree_sample :
    calculateRegime sampleIndicators sampleSnapshots samplePolicy 0
      = calculateRegime sampleIndicators widerSnapshots samplePolicy 0 :=
  calculateRegime_agree sampleIndicators samplePolicy 0 sampleSnapshots widerSnapshots
    (by decide +kernel) (by decide +kernel) sampleSnapshots_agree

end FinanceResearch.Regimes
