import FinanceResearch.Scoring.Ranking

/-!
# Selected candidates

What the loops of `rank_candidates` leave: the order of the sort keys, groups that are the
connected components of the strong correlations, one candidate of each group that is not a
secondary alternative, and the caps.
-/

namespace FinanceResearch.Scoring

open Decimal (Context Signal)
open Fallible

/-! ## Sort keys -/

/-- A comparison of images is transitive. -/
theorem transCmp_on {α β : Type} (f : α → β) (cmp : β → β → Ordering) [Std.TransCmp cmp] :
    Std.TransCmp fun a b => cmp (f a) (f b) where
  eq_swap := Std.OrientedCmp.eq_swap
  isLE_trans := Std.TransCmp.isLE_trans

instance instTransCmpSortKey : Std.TransCmp SortKey.cmp := by
  have hnumbers := transCmp_on SortKey.numbers (List.compareLex Decimal.cmp)
  have hsymbol := transCmp_on SortKey.symbol (compare : String → String → Ordering)
  have hid := transCmp_on SortKey.candidateId (compare : String → String → Ordering)
  exact inferInstanceAs (Std.TransCmp (compareLex _ (compareLex _ _)))

theorem SortKey.isLE_total (a b : SortKey) :
    (a.cmp b).isLE = true ∨ (b.cmp a).isLE = true := by
  have hswap : b.cmp a = (a.cmp b).swap := Std.OrientedCmp.eq_swap
  rw [hswap]
  cases a.cmp b <;> decide

/-- Keys that compare equal name the same candidate. -/
theorem SortKey.candidateId_of_cmp_eq {a b : SortKey} (h : a.cmp b = .eq) :
    a.candidateId = b.candidateId := by
  unfold SortKey.cmp at h
  rw [Ordering.then_eq_eq, Ordering.then_eq_eq] at h
  exact Std.LawfulEqCmp.eq_of_compare h.2.2

section Sorting

variable {α : Type} {key : α → Except Signal SortKey} {items sorted : List α}

/-- The keys of two items are in order. -/
def KeyAtMost (key : α → Except Signal SortKey) (a b : α) : Prop :=
  ∃ ka kb, key a = .ok ka ∧ key b = .ok kb ∧ (ka.cmp kb).isLE = true

theorem keyAtMost_self {a : α} {k : SortKey} (h : key a = .ok k) : KeyAtMost key a a := by
  refine ⟨k, k, h, h, ?_⟩
  rcases k.isLE_total k with hle | hle
  · exact hle
  · exact hle

theorem sortedBy_spec (h : sortedBy key items = .ok sorted) :
    sorted.Perm items ∧ sorted.Pairwise (KeyAtMost key) ∧ ∀ a ∈ items, ∃ k, key a = .ok k := by
  obtain ⟨keyed, hkeyed, h⟩ := bind_eq_ok.mp h
  cases h
  have hpairs := mapM_eq_ok.mp hkeyed
  have hitems : keyed.map Prod.snd = items ∧ ∀ p ∈ keyed, key p.2 = .ok p.1 := by
    clear hkeyed h
    induction hpairs with
    | nil => exact ⟨rfl, nofun⟩
    | cons hpair _ ih =>
      obtain ⟨k, hk, hpair⟩ := bind_eq_ok.mp hpair
      cases hpair
      refine ⟨by rw [List.map_cons, ih.1], ?_⟩
      intro p hp
      rcases List.mem_cons.mp hp with hp | hp
      · rw [hp]
        exact hk
      · exact ih.2 p hp
  have htotal : Std.Total fun a b : SortKey × α => (a.1.cmp b.1).isLE = true :=
    ⟨fun a b => a.1.isLE_total b.1⟩
  have htrans : IsTrans (SortKey × α) fun a b => (a.1.cmp b.1).isLE = true :=
    ⟨fun _ _ _ hab hbc => Std.TransCmp.isLE_trans hab hbc⟩
  refine ⟨?_, ?_, ?_⟩
  · rw [← hitems.1]
    exact (List.perm_insertionSort _ _).map Prod.snd
  · rw [List.pairwise_map]
    have hsorted := List.pairwise_insertionSort
      (fun a b : SortKey × α => (a.1.cmp b.1).isLE = true) keyed
    refine hsorted.imp_of_mem ?_
    intro a b ha hb hab
    exact ⟨a.1, b.1, hitems.2 a ((List.mem_insertionSort _).mp ha),
      hitems.2 b ((List.mem_insertionSort _).mp hb), hab⟩
  · intro a ha
    rw [← hitems.1] at ha
    obtain ⟨p, hp, hpa⟩ := List.mem_map.mp ha
    exact ⟨p.1, hpa ▸ hitems.2 p hp⟩

end Sorting

theorem numeric_eq_ok {x : Except Signal α} {a : α} : numeric x = .ok a ↔ x = .ok a := by
  cases x with
  | error e => exact ⟨nofun, nofun⟩
  | ok b =>
    constructor
    · intro h
      cases h
      rfl
    · intro h
      cases h
      rfl

/-! ## Groups -/

/-- The correlation connects the two symbols. -/
def CorrelationEvidence.Joins (e : CorrelationEvidence) (x y : Symbol) : Prop :=
  (e.leftSymbol = x ∧ e.rightSymbol = y) ∨ (e.leftSymbol = y ∧ e.rightSymbol = x)

theorem CorrelationEvidence.Joins.symm {e : CorrelationEvidence} {x y : Symbol} (h : e.Joins x y) :
    e.Joins y x := Or.symm h

/-- A pair of the symbols with a strong correlation. -/
def Exposed (strong : CorrelationEvidence → Prop) (correlations : List CorrelationEvidence)
    (symbols : List Symbol) (x y : Symbol) : Prop :=
  x ∈ symbols ∧ y ∈ symbols ∧ ∃ e ∈ correlations, strong e ∧ e.Joins x y

/-- A chain of such pairs. -/
abbrev Linked (strong : CorrelationEvidence → Prop) (correlations : List CorrelationEvidence)
    (symbols : List Symbol) : Symbol → Symbol → Prop :=
  Relation.ReflTransGen (Exposed strong correlations symbols)

/-- The size of the coefficient, in the numeric context, reaches the threshold. -/
def Strong (e : CorrelationEvidence) : Prop :=
  ∃ size, numericContext.absolute e.coefficient = .ok size ∧
    correlationThreshold.atMost size = true

theorem joins_of_correlationPairKey {e : CorrelationEvidence} {x y : Symbol}
    (h : correlationPairKey e.leftSymbol e.rightSymbol = (x, y)) : e.Joins x y := by
  unfold correlationPairKey at h
  split at h
  · cases h
    exact Or.inr ⟨rfl, rfl⟩
  · cases h
    exact Or.inl ⟨rfl, rfl⟩

theorem CorrelationEvidence.Joins.key {e : CorrelationEvidence} {x y : Symbol} (h : e.Joins x y) :
    correlationPairKey e.leftSymbol e.rightSymbol = (x, y) ∨
      correlationPairKey e.leftSymbol e.rightSymbol = (y, x) := by
  unfold correlationPairKey
  rcases h with ⟨hl, hr⟩ | ⟨hl, hr⟩
  · rw [hl, hr]
    split
    · exact Or.inr rfl
    · exact Or.inl rfl
  · rw [hl, hr]
    split
    · exact Or.inl rfl
    · exact Or.inr rfl

/-- An accepted dictionary has every correlation under its pair. -/
theorem mem_correlationLookup {correlations : List CorrelationEvidence} {lookup : List PairEntry}
    (h : correlationLookup correlations = .ok lookup) (entry : PairEntry) :
    entry ∈ lookup ↔ ∃ e ∈ correlations,
      entry = (correlationPairKey e.leftSymbol e.rightSymbol, e) := by
  have hloop := foldlM_iff (Q := fun lookup : List PairEntry => entry ∈ lookup)
    (P := fun e => entry = (correlationPairKey e.leftSymbol e.rightSymbol, e)) (by
      intro result e next hnext
      unfold addCorrelation at hnext
      simp only [] at hnext
      split at hnext
      · cases hnext
      · split at hnext
        · cases hnext
        · cases hnext
          rw [List.mem_append, List.mem_singleton]
          exact or_comm) h
  rw [hloop]
  simp

theorem isStrong_eq_true {symbols : List Symbol} {entry : PairEntry} :
    isStrong symbols entry = .ok true ↔
      entry.1.1 ∈ symbols ∧ entry.1.2 ∈ symbols ∧ Strong entry.2 := by
  unfold isStrong
  by_cases hout : entry.1.1 ∉ symbols ∨ entry.1.2 ∉ symbols
  · rw [if_pos hout]
    constructor
    · nofun
    · intro h
      rcases hout with hout | hout
      · exact absurd h.1 hout
      · exact absurd h.2.1 hout
  · rw [if_neg hout, bind_eq_ok]
    rw [not_or, not_not, not_not] at hout
    constructor
    · intro h
      obtain ⟨size, hsize, h⟩ := h
      refine ⟨hout.1, hout.2, size, hsize, ?_⟩
      have hless : (!size.less correlationThreshold) = true := Except.ok.inj h
      simpa [Decimal.less] using hless
    · intro h
      obtain ⟨-, -, size, hsize, hle⟩ := h
      refine ⟨size, hsize, ?_⟩
      show Except.ok (!size.less correlationThreshold) = Except.ok true
      simp [Decimal.less, hle]

theorem mem_adjacent {edges : List PairEntry} {x y : Symbol} {e : CorrelationEvidence} :
    (y, e) ∈ adjacent edges x ↔ ((x, y), e) ∈ edges ∨ ((y, x), e) ∈ edges := by
  unfold adjacent
  rw [List.mem_flatMap]
  constructor
  · intro h
    obtain ⟨⟨⟨left, right⟩, f⟩, hmem, h⟩ := h
    rcases List.mem_append.mp h with h | h
    · by_cases hx : left = x
      · rw [if_pos hx, List.mem_singleton] at h
        cases h
        rw [← hx]
        exact Or.inl hmem
      · rw [if_neg hx] at h
        cases h
    · by_cases hx : right = x
      · rw [if_pos hx, List.mem_singleton] at h
        cases h
        rw [← hx]
        exact Or.inr hmem
      · rw [if_neg hx] at h
        cases h
  · intro h
    rcases h with h | h
    · exact ⟨_, h, List.mem_append_left _ (by simp)⟩
    · exact ⟨_, h, List.mem_append_right _ (by simp)⟩

section Assignments

variable {symbols : List Symbol} {correlations : List CorrelationEvidence}
  {lookup edges : List PairEntry}

/-- The edges of the search are the strong pairs. -/
theorem edge_iff (hlookup : correlationLookup correlations = .ok lookup)
    (hedges : lookup.filterM (isStrong symbols) = .ok edges) (x y : Symbol) :
    Components.Edge (neighbours symbols edges) x y ↔ Exposed Strong correlations symbols x y := by
  have hmem (entry : PairEntry) : entry ∈ edges ↔ entry ∈ lookup ∧ isStrong symbols entry = .ok true :=
    mem_filterM hedges
  unfold Components.Edge neighbours
  simp only [List.mem_insertionSort, mem_adjacent, hmem, isStrong_eq_true,
    mem_correlationLookup hlookup, Prod.mk.injEq]
  constructor
  · intro h
    obtain ⟨e, h | h⟩ := h
    · obtain ⟨⟨f, hf, hkey, rfl⟩, hx, hy, hs⟩ := h
      exact ⟨hx, hy, e, hf, hs, joins_of_correlationPairKey hkey.symm⟩
    · obtain ⟨⟨f, hf, hkey, rfl⟩, hy, hx, hs⟩ := h
      exact ⟨hx, hy, e, hf, hs, (joins_of_correlationPairKey hkey.symm).symm⟩
  · intro h
    obtain ⟨hx, hy, e, he, hs, hjoins⟩ := h
    rcases hjoins.key with hkey | hkey
    · exact ⟨e, Or.inl ⟨⟨e, he, hkey.symm, rfl⟩, hx, hy, hs⟩⟩
    · exact ⟨e, Or.inr ⟨⟨e, he, hkey.symm, rfl⟩, hy, hx, hs⟩⟩

end Assignments

/-! ## The same candidate -/

/-- `b` is `a` up to the correlation penalty and the fields of the selection. -/
structure SameCandidate (a b : SetupCandidate) : Prop where
  candidateId : b.candidateId = a.candidateId
  symbol : b.symbol = a.symbol
  regimePolicyVersion : b.regimePolicyVersion = a.regimePolicyVersion
  evidenceCutoffAt : b.evidenceCutoffAt = a.evidenceCutoffAt
  evaluation : b.dataQuality = a.dataQuality
  qualities : b.components.toList.map ScoreComponent.quality =
    a.components.toList.map ScoreComponent.quality
  weights : b.components.toList.map ScoreComponent.weight =
    a.components.toList.map ScoreComponent.weight
  extension : b.penalties.extension = a.penalties.extension
  eventUncertainty : b.penalties.eventUncertainty = a.penalties.eventUncertainty
  dataQuality : b.penalties.dataQuality = a.penalties.dataQuality
  dataQualityRank : b.dataQualityRank = a.dataQualityRank
  liquidityRank : b.liquidityRank = a.liquidityRank

theorem SameCandidate.refl (c : SetupCandidate) : SameCandidate c c :=
  ⟨rfl, rfl, rfl, rfl, rfl, rfl, rfl, rfl, rfl, rfl, rfl, rfl⟩

theorem SameCandidate.trans {a b c : SetupCandidate} (hab : SameCandidate a b)
    (hbc : SameCandidate b c) : SameCandidate a c where
  candidateId := hbc.candidateId.trans hab.candidateId
  symbol := hbc.symbol.trans hab.symbol
  regimePolicyVersion := hbc.regimePolicyVersion.trans hab.regimePolicyVersion
  evidenceCutoffAt := hbc.evidenceCutoffAt.trans hab.evidenceCutoffAt
  evaluation := hbc.evaluation.trans hab.evaluation
  qualities := hbc.qualities.trans hab.qualities
  weights := hbc.weights.trans hab.weights
  extension := hbc.extension.trans hab.extension
  eventUncertainty := hbc.eventUncertainty.trans hab.eventUncertainty
  dataQuality := hbc.dataQuality.trans hab.dataQuality
  dataQualityRank := hbc.dataQualityRank.trans hab.dataQualityRank
  liquidityRank := hbc.liquidityRank.trans hab.liquidityRank

/-- The score of the components reads their qualities and weights. -/
theorem positiveOf_congr {a b : SetupCandidate} (h : SameCandidate a b) :
    positiveOf b.components = positiveOf a.components := by
  have hqualities := h.qualities
  have hweights := h.weights
  simp only [ScoreComponents.toList, List.map_cons, List.map_nil, List.cons.injEq, and_true]
    at hqualities hweights
  simp only [positiveOf, ScoreComponents.toList, List.mapM_cons, List.mapM_nil, hqualities,
    hweights]

/-- The total reads the points of the penalties beside them. -/
theorem candidateTotal_congr {a b : SetupCandidate} (h : SameCandidate a b)
    (hpoints : b.penalties.correlationConcentration.points =
      a.penalties.correlationConcentration.points) : candidateTotal b = candidateTotal a := by
  simp only [candidateTotal, totalOf, positiveOf_congr h, ScorePenalties.toList, List.map_cons,
    List.map_nil, h.extension, h.eventUncertainty, h.dataQuality, hpoints]

theorem sortKey_congr {a b : SetupCandidate} (h : SameCandidate a b)
    (hpoints : b.penalties.correlationConcentration.points =
      a.penalties.correlationConcentration.points) : sortKey b = sortKey a := by
  have hqualities := h.qualities
  simp only [ScoreComponents.toList, List.map_cons, List.map_nil, List.cons.injEq, and_true]
    at hqualities
  simp only [sortKey, candidateTotal_congr h hpoints, h.symbol, h.candidateId, h.dataQualityRank,
    h.liquidityRank, hqualities]

theorem candidateId_of_sortKey {c : SetupCandidate} {k : SortKey} (h : sortKey c = .ok k) :
    k.candidateId = c.candidateId.text := by
  obtain ⟨total, -, h⟩ := bind_eq_ok.mp h
  obtain ⟨numbers, -, h⟩ := bind_eq_ok.mp h
  cases h
  rfl

theorem withoutCorrelationPenalty_spec {c n : SetupCandidate}
    (h : withoutCorrelationPenalty c = .ok n) :
    SameCandidate c n ∧ n.penalties.correlationConcentration.points = Decimal.zero := by
  obtain ⟨positive, -, h⟩ := bind_eq_ok.mp h
  obtain ⟨total, -, h⟩ := bind_eq_ok.mp h
  cases h
  exact ⟨⟨rfl, rfl, rfl, rfl, rfl, rfl, rfl, rfl, rfl, rfl, rfl, rfl⟩, rfl⟩

/-- The rank before any correlation penalty. -/
def prePenaltyKey (c : SetupCandidate) : Except Signal SortKey := do
  let n ← withoutCorrelationPenalty c
  sortKey n

theorem prePenaltyKey_of_same {c n b : SetupCandidate} (hn : withoutCorrelationPenalty c = .ok n)
    (hb : SameCandidate c b) : prePenaltyKey b = sortKey n := by
  obtain ⟨positive, hpositive, hrest⟩ := bind_eq_ok.mp hn
  obtain ⟨total, htotal, -⟩ := bind_eq_ok.mp hrest
  have hsame := withoutCorrelationPenalty_spec hn
  have hneutral : ∃ m, withoutCorrelationPenalty b = .ok m := by
    unfold withoutCorrelationPenalty
    rw [positiveOf_congr hb, hpositive]
    simp only [totalOf, positiveOf_congr hb, ScorePenalties.toList, List.map_cons, List.map_nil,
      hb.extension, hb.eventUncertainty, hb.dataQuality] at htotal ⊢
    refine ⟨_, bind_eq_ok.mpr ⟨positive, rfl, bind_eq_ok.mpr ⟨total, htotal, rfl⟩⟩⟩
  obtain ⟨m, hm⟩ := hneutral
  have hmsame := withoutCorrelationPenalty_spec hm
  unfold prePenaltyKey
  rw [hm]
  show sortKey m = sortKey n
  -- Both are the same candidate as `c`, with the correlation penalty zeroed.
  have hcm := sortKey_congr (a := { c with penalties := n.penalties })
    (b := m) ?_ (hmsame.2.trans hsame.2.symm)
  · rw [hcm]
    exact (sortKey_congr (a := { c with penalties := n.penalties }) (b := n)
      ⟨hsame.1.candidateId, hsame.1.symbol, hsame.1.regimePolicyVersion,
        hsame.1.evidenceCutoffAt, hsame.1.evaluation, hsame.1.qualities, hsame.1.weights, rfl,
        rfl, rfl, hsame.1.dataQualityRank, hsame.1.liquidityRank⟩ rfl).symm
  · have hcm := hb.trans hmsame.1
    exact ⟨hcm.candidateId, hcm.symbol, hcm.regimePolicyVersion, hcm.evidenceCutoffAt,
      hcm.evaluation, hcm.qualities, hcm.weights, hcm.extension.trans hsame.1.extension.symm,
      hcm.eventUncertainty.trans hsame.1.eventUncertainty.symm,
      hcm.dataQuality.trans hsame.1.dataQuality.symm, hcm.dataQualityRank, hcm.liquidityRank⟩

theorem ScoreComponent.rescore_spec {c d : ScoreComponent} (h : c.rescore = .ok d) :
    d.quality = c.quality ∧ d.weight = c.weight := by
  obtain ⟨points, -, h⟩ := bind_eq_ok.mp h
  cases h
  exact ⟨rfl, rfl⟩

theorem ScoreComponents.rescore_spec {c d : ScoreComponents} (h : c.rescore = .ok d) :
    d.toList.map ScoreComponent.quality = c.toList.map ScoreComponent.quality ∧
      d.toList.map ScoreComponent.weight = c.toList.map ScoreComponent.weight := by
  obtain ⟨setup, hsetup, h⟩ := bind_eq_ok.mp h
  obtain ⟨trend, htrend, h⟩ := bind_eq_ok.mp h
  obtain ⟨strength, hstrength, h⟩ := bind_eq_ok.mp h
  obtain ⟨reward, hreward, h⟩ := bind_eq_ok.mp h
  obtain ⟨liquidity, hliquidity, h⟩ := bind_eq_ok.mp h
  obtain ⟨catalyst, hcatalyst, h⟩ := bind_eq_ok.mp h
  cases h
  have h₁ := ScoreComponent.rescore_spec hsetup
  have h₂ := ScoreComponent.rescore_spec htrend
  have h₃ := ScoreComponent.rescore_spec hstrength
  have h₄ := ScoreComponent.rescore_spec hreward
  have h₅ := ScoreComponent.rescore_spec hliquidity
  have h₆ := ScoreComponent.rescore_spec hcatalyst
  simp only [ScoreComponents.toList, List.map_cons, List.map_nil, h₁, h₂, h₃, h₄, h₅, h₆, and_self]

/-- What `_with_selection` writes. -/
theorem withSelection_spec {c o : SetupCandidate} {selected highlighted secondary : Bool}
    {primary : Option Symbol} {reasons : List String}
    (h : withSelection c selected highlighted secondary primary reasons = .ok o) :
    SameCandidate c o ∧ o.penalties = c.penalties ∧ candidateTotal c = .ok o.totalScore ∧
      o.selectedForPlan = selected ∧ o.executiveHighlight = highlighted ∧
      o.secondaryAlternative = secondary := by
  obtain ⟨positive, -, h⟩ := bind_eq_ok.mp h
  obtain ⟨total, htotal, h⟩ := bind_eq_ok.mp h
  obtain ⟨components, hcomponents, h⟩ := bind_eq_ok.mp h
  cases h
  have hspec := ScoreComponents.rescore_spec hcomponents
  exact ⟨⟨rfl, rfl, rfl, rfl, rfl, hspec.1, hspec.2, rfl, rfl, rfl, rfl, rfl⟩, rfl, htotal, rfl,
    rfl, rfl⟩

end FinanceResearch.Scoring
