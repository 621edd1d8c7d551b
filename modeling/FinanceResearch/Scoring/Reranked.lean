import FinanceResearch.Scoring.Ranked

/-!
# Ranking again

`rank_candidates` reads of a candidate what no ranking writes (`rankCandidates_core`), and of
a correlation nothing that tells its two symbols apart (`rankCandidates_oriented`). The sort
keys name the candidates and a dictionary holds one correlation of a pair, so the order of
the arguments is lost in the first sort and in the search of the groups. What it returns is
then the same for every arrangement, and for what it has returned before.
-/

namespace FinanceResearch.Scoring

open Decimal (Context Signal)
open Fallible Pointwise

/-! ## What ranking reads of a candidate -/

/-- The component without its points. -/
def ScoreComponent.unscored (c : ScoreComponent) : ScoreComponent := { c with points := Decimal.zero }

def ScoreComponents.unscored (c : ScoreComponents) : ScoreComponents where
  setupQuality := c.setupQuality.unscored
  trendQuality := c.trendQuality.unscored
  relativeStrength := c.relativeStrength.unscored
  rewardRiskQuality := c.rewardRiskQuality.unscored
  liquidityQuality := c.liquidityQuality.unscored
  catalystEvidenceQuality := c.catalystEvidenceQuality.unscored

/-- The penalties before the correlations are reviewed. -/
def ScorePenalties.cleared (p : ScorePenalties) : ScorePenalties :=
  { p with
    correlationConcentration :=
      { points := Decimal.zero
        reason := "Duplicate-exposure review has not applied a penalty"
        evidenceIds := noEvidence } }

namespace SetupCandidate

/-- The candidate without the points of its components. -/
def unscored (c : SetupCandidate) : SetupCandidate :=
  { c with components := c.components.unscored }

/-- The candidate without anything a ranking writes. -/
def core (c : SetupCandidate) : SetupCandidate :=
  { c with
    components := c.components.unscored
    penalties := c.penalties.cleared
    positiveScore := Decimal.zero
    totalScore := Decimal.zero
    selectedForPlan := false
    executiveHighlight := false
    secondaryAlternative := false
    primarySymbol := none
    selectionReasons := [] }

end SetupCandidate

theorem ScoreComponent.unscored_eq {a b : ScoreComponent} (hquality : b.quality = a.quality)
    (hweight : b.weight = a.weight) : b.unscored = a.unscored := by
  cases a
  cases b
  cases hquality
  cases hweight
  rfl

/-- Rankings of the same candidate read the same. -/
theorem SameCandidate.core {a b : SetupCandidate} (h : SameCandidate a b) : b.core = a.core := by
  have hqualities := h.qualities
  have hweights := h.weights
  simp only [ScoreComponents.toList, List.map_cons, List.map_nil, List.cons.injEq, and_true]
    at hqualities hweights
  obtain ⟨hq₁, hq₂, hq₃, hq₄, hq₅, hq₆⟩ := hqualities
  obtain ⟨hw₁, hw₂, hw₃, hw₄, hw₅, hw₆⟩ := hweights
  simp only [SetupCandidate.core, ScoreComponents.unscored, h.candidateId, h.symbol,
    h.regimePolicyVersion, h.evidenceCutoffAt, h.evaluation, h.extension, h.eventUncertainty,
    h.dataQuality, ScorePenalties.cleared, h.dataQualityRank, h.liquidityRank, ScoreComponent.unscored_eq hq₁ hw₁,
    ScoreComponent.unscored_eq hq₂ hw₂, ScoreComponent.unscored_eq hq₃ hw₃,
    ScoreComponent.unscored_eq hq₄ hw₄, ScoreComponent.unscored_eq hq₅ hw₅,
    ScoreComponent.unscored_eq hq₆ hw₆]

theorem positiveOf_unscored (c : ScoreComponents) : positiveOf c.unscored = positiveOf c := rfl

theorem totalOf_unscored (c : ScoreComponents) (penalties : ScorePenalties) :
    totalOf c.unscored penalties = totalOf c penalties := rfl

theorem sortKey_unscored (c : SetupCandidate) : sortKey c.unscored = sortKey c := rfl

theorem rescore_unscored (c : ScoreComponents) : c.unscored.rescore = c.rescore := rfl

theorem withSelection_unscored (c : SetupCandidate) (selected highlighted secondary : Bool)
    (primary : Option Symbol) (reasons : List String) :
    withSelection c.unscored selected highlighted secondary primary reasons =
      withSelection c selected highlighted secondary primary reasons := rfl

theorem withoutCorrelationPenalty_core (c : SetupCandidate) :
    withoutCorrelationPenalty c.core =
      (withoutCorrelationPenalty c).map SetupCandidate.unscored := by
  show (positiveOf c.components >>= fun positive =>
      totalOf c.components c.penalties.cleared >>= fun total => Except.ok _) =
    Except.map _ (positiveOf c.components >>= fun positive =>
      totalOf c.components c.penalties.cleared >>= fun total => Except.ok _)
  cases positiveOf c.components with
  | error signal => rfl
  | ok positive =>
    cases totalOf c.components c.penalties.cleared with
    | error signal => rfl
    | ok total => rfl

/-! ## The stages read the core -/

theorem sortedBy_map {α β : Type} {key : β → Except Signal SortKey} (i : α → β)
    (items : List α) : sortedBy key (items.map i) =
      (sortedBy (fun a => key (i a)) items).map (List.map i) := by
  have hkeyed := mapM_natural (f := fun a => do
      let k ← key (i a)
      pure (k, a))
    (g := fun b => do
      let k ← key b
      pure (k, b)) (i := i) (j := fun p => (p.1, i p.2)) (by
      intro a
      cases key (i a) with
      | error e => rfl
      | ok k => rfl) items
  unfold sortedBy
  rw [hkeyed]
  cases items.mapM fun a => do
      let k ← key (i a)
      pure (k, a) with
  | error e => rfl
  | ok keyed =>
    show Except.ok _ = Except.ok _
    have hsort := List.map_insertionSort
      (r := fun a b : SortKey × α => (a.1.cmp b.1).isLE = true)
      (s := fun a b : SortKey × β => (a.1.cmp b.1).isLE = true)
      (fun p : SortKey × α => (p.1, i p.2)) keyed (fun _ _ _ _ => Iff.rfl)
    rw [← hsort, List.map_map, List.map_map]
    rfl

/-- The entry without the points of its components. -/
def Prepared.unscored (p : Prepared) : Prepared := { p with candidate := p.candidate.unscored }

theorem prepare_unscored (groups : Groups) : ∀ (candidates : List SetupCandidate)
    (seen : List Symbol), prepare groups (candidates.map SetupCandidate.unscored) seen =
      (prepare groups candidates seen).map (List.map Prepared.unscored) := by
  intro candidates
  induction candidates with
  | nil => exact fun _ => rfl
  | cons c rest ih =>
    intro seen
    have hsymbol : c.unscored.symbol = c.symbol := rfl
    rw [List.map_cons]
    unfold prepare
    rw [hsymbol]
    cases groups.root c.symbol with
    | none => rfl
    | some primary =>
      show (if c.symbol = primary ∧ primary ∉ seen then _ else _) =
        Except.map _ (if c.symbol = primary ∧ primary ∉ seen then _ else _)
      by_cases hfirst : c.symbol = primary ∧ primary ∉ seen
      · rw [if_pos hfirst, if_pos hfirst, ih]
        cases prepare groups rest (primary :: seen) with
        | error e => rfl
        | ok prepared => rfl
      · rw [if_neg hfirst, if_neg hfirst, ih]
        show (numeric (totalOf c.components (correlationPenalties c (groups.via c.symbol))) >>= _) =
          Except.map _ (numeric (totalOf c.components
            (correlationPenalties c (groups.via c.symbol))) >>= _)
        cases numeric (totalOf c.components (correlationPenalties c (groups.via c.symbol))) with
        | error e => rfl
        | ok total =>
          show (Except.map _ (prepare groups rest seen) >>= _) =
            Except.map _ (prepare groups rest seen >>= _)
          cases prepare groups rest seen with
          | error e => rfl
          | ok prepared => rfl

theorem select_unscored (limit : Option Decimal) : ∀ (entries : List Prepared)
    (selected highlighted : Nat), select limit (entries.map Prepared.unscored) selected highlighted =
      select limit entries selected highlighted := by
  intro entries
  induction entries with
  | nil => exact fun _ _ => rfl
  | cons p rest ih =>
    intro selected highlighted
    rw [List.map_cons]
    unfold select
    simp only [ih]
    rfl

theorem checkArguments_core (candidates : List SetupCandidate) (resultVersion policyVersion : String)
    (correlations : List CorrelationEvidence) :
    checkArguments (candidates.map SetupCandidate.core) resultVersion policyVersion correlations =
      checkArguments candidates resultVersion policyVersion correlations := by
  have hexists (P : SetupCandidate → Prop) :
      (∃ c ∈ candidates.map SetupCandidate.core, P c) ↔ ∃ c ∈ candidates, P c.core := by
    simp only [List.mem_map, exists_exists_and_eq_and]
  unfold checkArguments
  simp only [hexists]
  rfl

/-- The stages after the first sort. -/
def rankSorted (regime : Regime) (correlations : List CorrelationEvidence)
    (sorted : List SetupCandidate) : Except RankError (List SetupCandidate) := do
  let lookup ← correlationLookup correlations
  let groups ← numeric (correlationGroupAssignments (sorted.map SetupCandidate.symbol) lookup)
  let prepared ← prepare groups sorted []
  let ordered ← numeric (sortedBy (fun p => sortKey p.candidate) prepared)
  numeric (select (threshold regime) ordered 0 0)

theorem rankSorted_unscored (regime : Regime) (correlations : List CorrelationEvidence)
    (sorted : List SetupCandidate) :
    rankSorted regime correlations (sorted.map SetupCandidate.unscored) =
      rankSorted regime correlations sorted := by
  unfold rankSorted
  rw [List.map_map]
  show (correlationLookup correlations >>= fun lookup =>
    numeric (correlationGroupAssignments (sorted.map SetupCandidate.symbol) lookup) >>= _) = _
  refine bind_congr fun lookup => bind_congr fun groups => ?_
  rw [prepare_unscored]
  cases prepare groups sorted [] with
  | error e => rfl
  | ok prepared =>
    show (numeric (sortedBy _ (prepared.map Prepared.unscored)) >>= _) = _
    rw [sortedBy_map]
    show (numeric (Except.map _ (sortedBy (fun p => sortKey p.candidate) prepared)) >>= _) =
      (numeric (sortedBy (fun p => sortKey p.candidate) prepared) >>= _)
    cases sortedBy (fun p => sortKey p.candidate) prepared with
    | error signal => rfl
    | ok ordered => exact congrArg numeric (select_unscored _ ordered 0 0)

/-- **Ranking reads the core of a candidate**, also where it raises. -/
theorem rankCandidates_core (candidates : List SetupCandidate) (regime : Regime)
    (resultVersion policyVersion : String) (correlations : List CorrelationEvidence) :
    rankCandidates (candidates.map SetupCandidate.core) regime resultVersion policyVersion
        correlations =
      rankCandidates candidates regime resultVersion policyVersion correlations := by
  unfold rankCandidates
  rw [checkArguments_core, mapM_natural withoutCorrelationPenalty_core]
  refine bind_congr fun _ => ?_
  cases candidates.mapM withoutCorrelationPenalty with
  | error signal => rfl
  | ok normalized =>
    show (numeric (sortedBy sortKey (normalized.map SetupCandidate.unscored)) >>=
        rankSorted regime correlations) =
      (numeric (sortedBy sortKey normalized) >>= rankSorted regime correlations)
    rw [sortedBy_map]
    show (numeric (Except.map _ (sortedBy sortKey normalized)) >>= _) = _
    cases sortedBy sortKey normalized with
    | error signal => rfl
    | ok sorted => exact rankSorted_unscored regime correlations sorted

/-! ## What ranking reads of a correlation -/

namespace CorrelationEvidence

/-- The correlation with its symbols in the order of the key of its pair. -/
def oriented (e : CorrelationEvidence) : CorrelationEvidence :=
  { e with
    leftSymbol := (correlationPairKey e.leftSymbol e.rightSymbol).1
    rightSymbol := (correlationPairKey e.leftSymbol e.rightSymbol).2 }

/-- The correlation with its symbols the other way round. -/
def swap (e : CorrelationEvidence) : CorrelationEvidence :=
  { e with leftSymbol := e.rightSymbol, rightSymbol := e.leftSymbol }

end CorrelationEvidence

theorem eq_of_symbol_text {x y : Symbol} (h : x.text = y.text) : x = y := by
  cases x
  cases y
  cases h
  rfl

theorem correlationPairKey_ordered (left right : Symbol) :
    ¬ (correlationPairKey left right).2.text < (correlationPairKey left right).1.text := by
  unfold correlationPairKey
  by_cases h : right.text < left.text
  · rw [if_pos h]
    exact String.lt_asymm h
  · rw [if_neg h]
    exact h

theorem correlationPairKey_of_ordered {left right : Symbol} (h : ¬ right.text < left.text) :
    correlationPairKey left right = (left, right) := if_neg h

/-- A pair has one key. -/
theorem correlationPairKey_comm (left right : Symbol) :
    correlationPairKey right left = correlationPairKey left right := by
  unfold correlationPairKey
  by_cases h : right.text < left.text
  · rw [if_pos h, if_neg (String.lt_asymm h)]
  · rw [if_neg h]
    by_cases h' : left.text < right.text
    · rw [if_pos h']
    · have hsame : left = right := eq_of_symbol_text (String.le_antisymm h h')
      rw [if_neg h', hsame]

theorem oriented_key (e : CorrelationEvidence) :
    correlationPairKey e.oriented.leftSymbol e.oriented.rightSymbol =
      correlationPairKey e.leftSymbol e.rightSymbol :=
  correlationPairKey_of_ordered (correlationPairKey_ordered e.leftSymbol e.rightSymbol)

theorem oriented_swap (e : CorrelationEvidence) : e.swap.oriented = e.oriented := by
  have hkey : correlationPairKey e.swap.leftSymbol e.swap.rightSymbol =
    correlationPairKey e.leftSymbol e.rightSymbol := correlationPairKey_comm _ _
  simp only [CorrelationEvidence.oriented, hkey]
  rfl

theorem oriented_distinct (e : CorrelationEvidence) :
    e.oriented.leftSymbol = e.oriented.rightSymbol ↔ e.leftSymbol = e.rightSymbol := by
  show (correlationPairKey e.leftSymbol e.rightSymbol).1 =
    (correlationPairKey e.leftSymbol e.rightSymbol).2 ↔ _
  unfold correlationPairKey
  by_cases h : e.rightSymbol.text < e.leftSymbol.text
  · rw [if_pos h]
    exact eq_comm
  · rw [if_neg h]

/-- A symbol is one of the pair. -/
theorem oriented_names (e : CorrelationEvidence) (x : Symbol) :
    (x = e.oriented.leftSymbol ∨ x = e.oriented.rightSymbol) ↔
      (x = e.leftSymbol ∨ x = e.rightSymbol) := by
  show (x = (correlationPairKey e.leftSymbol e.rightSymbol).1 ∨
    x = (correlationPairKey e.leftSymbol e.rightSymbol).2) ↔ _
  unfold correlationPairKey
  by_cases h : e.rightSymbol.text < e.leftSymbol.text
  · rw [if_pos h]
    exact or_comm
  · rw [if_neg h]

/-- The entry with its correlation oriented. -/
def orientEntry (entry : PairEntry) : PairEntry := (entry.1, entry.2.oriented)

theorem checkArguments_oriented (candidates : List SetupCandidate)
    (resultVersion policyVersion : String) (correlations : List CorrelationEvidence) :
    checkArguments candidates resultVersion policyVersion
        (correlations.map CorrelationEvidence.oriented) =
      checkArguments candidates resultVersion policyVersion correlations := by
  have hexists (P : CorrelationEvidence → Prop) :
      (∃ e ∈ correlations.map CorrelationEvidence.oriented, P e) ↔
        ∃ e ∈ correlations, P e.oriented := by
    simp only [List.mem_map, exists_exists_and_eq_and]
  unfold checkArguments
  simp only [hexists, oriented_names]
  rfl

theorem addCorrelation_oriented (result : List PairEntry) (e : CorrelationEvidence) :
    addCorrelation (result.map orientEntry) e.oriented =
      (addCorrelation result e).map (List.map orientEntry) := by
  have hkeys : (result.map orientEntry).map Prod.fst = result.map Prod.fst := by
    rw [List.map_map]
    rfl
  unfold addCorrelation
  simp only [oriented_key, oriented_distinct, hkeys]
  by_cases hsame : e.leftSymbol = e.rightSymbol
  · rw [if_pos hsame, if_pos hsame]
    rfl
  · rw [if_neg hsame, if_neg hsame]
    by_cases hkey : correlationPairKey e.leftSymbol e.rightSymbol ∈ result.map Prod.fst
    · rw [if_pos hkey, if_pos hkey]
      rfl
    · rw [if_neg hkey, if_neg hkey]
      show Except.ok _ = Except.ok _
      rw [List.map_append]
      rfl

theorem correlationLookup_oriented (correlations : List CorrelationEvidence) :
    correlationLookup (correlations.map CorrelationEvidence.oriented) =
      (correlationLookup correlations).map (List.map orientEntry) := by
  have hloop : ∀ (rest : List CorrelationEvidence) (result : List PairEntry),
      (rest.map CorrelationEvidence.oriented).foldlM addCorrelation (result.map orientEntry) =
        (rest.foldlM addCorrelation result).map (List.map orientEntry) := by
    intro rest
    induction rest with
    | nil => exact fun _ => rfl
    | cons e rest ih =>
      intro result
      rw [List.map_cons, List.foldlM_cons, List.foldlM_cons, addCorrelation_oriented]
      cases addCorrelation result e with
      | error error => rfl
      | ok next => exact ih next
  exact hloop correlations []

theorem adjacent_oriented (edges : List PairEntry) (x : Symbol) :
    adjacent (edges.map orientEntry) x =
      (adjacent edges x).map fun edge => (edge.1, edge.2.oriented) := by
  unfold adjacent
  rw [List.flatMap_map, List.map_flatMap]
  congr 1
  funext entry
  rw [List.map_append]
  show (if entry.1.1 = x then _ else _) ++ (if entry.1.2 = x then _ else _) = _
  by_cases hleft : entry.1.1 = x
  · by_cases hright : entry.1.2 = x
    · simp only [if_pos hleft, if_pos hright]
      rfl
    · simp only [if_pos hleft, if_neg hright]
      rfl
  · by_cases hright : entry.1.2 = x
    · simp only [if_neg hleft, if_pos hright]
      rfl
    · simp only [if_neg hleft, if_neg hright]
      rfl

theorem neighbours_oriented (symbols : List Symbol) (edges : List PairEntry) (x : Symbol) :
    neighbours symbols (edges.map orientEntry) x =
      (neighbours symbols edges x).map fun edge => (edge.1, edge.2.oriented) := by
  unfold neighbours
  rw [adjacent_oriented]
  exact (List.map_insertionSort
    (r := fun a b : Symbol × CorrelationEvidence => rankAtMost symbols a.1 b.1)
    (s := fun a b : Symbol × CorrelationEvidence => rankAtMost symbols a.1 b.1)
    (fun edge => (edge.1, edge.2.oriented)) _ fun _ _ _ _ => Iff.rfl).symm

theorem correlationGroupAssignments_oriented (symbols : List Symbol) (lookup : List PairEntry) :
    correlationGroupAssignments symbols (lookup.map orientEntry) =
      (correlationGroupAssignments symbols lookup).map
        (Components.State.map CorrelationEvidence.oriented) := by
  unfold correlationGroupAssignments
  rw [filterM_map]
  show (Except.map _ (lookup.filterM (isStrong symbols)) >>= _) = _
  cases lookup.filterM (isStrong symbols) with
  | error signal => rfl
  | ok edges =>
    have hnext : neighbours symbols (edges.map orientEntry) =
        fun x => (neighbours symbols edges x).map fun edge => (edge.1, edge.2.oriented) :=
      funext (neighbours_oriented symbols edges)
    show Except.ok (Components.label (neighbours symbols (edges.map orientEntry)) symbols) = _
    rw [hnext, Components.label_map]
    rfl

theorem prepare_oriented (groups : Groups) : ∀ (candidates : List SetupCandidate)
    (seen : List Symbol), prepare (groups.map CorrelationEvidence.oriented) candidates seen =
      prepare groups candidates seen := by
  intro candidates
  induction candidates with
  | nil => exact fun _ => rfl
  | cons c rest ih =>
    intro seen
    have hpenalties : correlationPenalties c
        ((groups.map CorrelationEvidence.oriented).via c.symbol) =
          correlationPenalties c (groups.via c.symbol) := by
      show correlationPenalties c ((groups.via c.symbol).map CorrelationEvidence.oriented) = _
      cases groups.via c.symbol with
      | none => rfl
      | some e => rfl
    unfold prepare
    simp only [ih, hpenalties]
    rfl

/-- **Ranking does not read which symbol of a correlation is the left one**, also where it
raises. -/
theorem rankCandidates_oriented (candidates : List SetupCandidate) (regime : Regime)
    (resultVersion policyVersion : String) (correlations : List CorrelationEvidence) :
    rankCandidates candidates regime resultVersion policyVersion
        (correlations.map CorrelationEvidence.oriented) =
      rankCandidates candidates regime resultVersion policyVersion correlations := by
  unfold rankCandidates
  rw [checkArguments_oriented, correlationLookup_oriented]
  refine bind_congr fun _ => bind_congr fun normalized => bind_congr fun sorted => ?_
  cases correlationLookup correlations with
  | error error => rfl
  | ok lookup =>
    show (numeric (correlationGroupAssignments (sorted.map SetupCandidate.symbol)
      (lookup.map orientEntry)) >>= _) =
        (numeric (correlationGroupAssignments (sorted.map SetupCandidate.symbol) lookup) >>= _)
    rw [correlationGroupAssignments_oriented]
    cases correlationGroupAssignments (sorted.map SetupCandidate.symbol) lookup with
    | error signal => rfl
    | ok groups =>
      show (prepare (groups.map CorrelationEvidence.oriented) sorted [] >>= _) =
        (prepare groups sorted [] >>= _)
      rw [prepare_oriented]

/-! ## Other orders of the arguments -/

theorem checkArguments_perm {candidates candidates' : List SetupCandidate}
    {correlations correlations' : List CorrelationEvidence} (hcandidates : candidates'.Perm candidates)
    (hcorrelations : correlations'.Perm correlations) (resultVersion policyVersion : String) :
    checkArguments candidates' resultVersion policyVersion correlations' =
      checkArguments candidates resultVersion policyVersion correlations := by
  unfold checkArguments
  simp only [hcandidates.mem_iff, hcorrelations.mem_iff]

/-- Keys that differ leave one sorted list. -/
theorem sortedBy_perm {α : Type} {key : α → Except Signal SortKey} {items items' sorted : List α}
    (h : sortedBy key items = .ok sorted) (hperm : items'.Perm items)
    (hkeys : ∀ a ∈ items, ∀ b ∈ items, KeyAtMost key a b → KeyAtMost key b a → a = b) :
    sortedBy key items' = .ok sorted := by
  obtain ⟨hsorted, hordered, hkeyed⟩ := sortedBy_spec h
  have hok : ∃ keyed, (items'.mapM fun item => do
      let k ← key item
      pure (k, item)) = .ok keyed := by
    refine mapM_total fun a ha => ?_
    obtain ⟨k, hk⟩ := hkeyed a (hperm.mem_iff.mp ha)
    exact ⟨(k, a), bind_eq_ok.mpr ⟨k, hk, rfl⟩⟩
  obtain ⟨keyed, hkeyed'⟩ := hok
  have hother : ∃ sorted', sortedBy key items' = .ok sorted' :=
    ⟨_, bind_eq_ok.mpr ⟨keyed, hkeyed', rfl⟩⟩
  obtain ⟨sorted', h'⟩ := hother
  obtain ⟨hsorted', hordered', -⟩ := sortedBy_spec h'
  have hsame : sorted' = sorted := by
    refine ((hsorted'.trans hperm).trans hsorted.symm).eq_of_pairwise ?_ hordered' hordered
    intro a b ha hb hab hba
    exact hkeys a ((hsorted'.trans hperm).mem_iff.mp ha) b (hsorted.mem_iff.mp hb) hab hba
  rw [h', hsame]

/-- Candidates with one key are one candidate. -/
theorem eq_of_keyAtMost {candidates : List SetupCandidate}
    (hids : (candidates.map SetupCandidate.candidateId).Nodup) {a b : SetupCandidate}
    (ha : a ∈ candidates) (hb : b ∈ candidates) (hab : KeyAtMost sortKey a b)
    (hba : KeyAtMost sortKey b a) : a = b := by
  obtain ⟨ka, kb, hka, hkb, hle⟩ := hab
  obtain ⟨kb', ka', hkb', hka', hle'⟩ := hba
  obtain rfl : ka = ka' := Except.ok.inj (hka.symm.trans hka')
  obtain rfl : kb = kb' := Except.ok.inj (hkb.symm.trans hkb')
  have hcmp : ka.cmp kb = .eq := by
    have hswap : kb.cmp ka = (ka.cmp kb).swap := Std.OrientedCmp.eq_swap
    rw [hswap] at hle'
    cases h : ka.cmp kb with
    | eq => rfl
    | lt =>
      rw [h] at hle'
      cases hle'
    | gt =>
      rw [h] at hle
      cases hle
  have hid := SortKey.candidateId_of_cmp_eq hcmp
  rw [candidateId_of_sortKey hka, candidateId_of_sortKey hkb] at hid
  exact List.inj_on_of_nodup_map hids ha hb (Identifier.eq_of_text hid)

/-- An accepted dictionary holds each correlation, and each pair once. -/
theorem correlationLookup_eq_ok {correlations : List CorrelationEvidence}
    {lookup : List PairEntry} : correlationLookup correlations = .ok lookup ↔
      (∀ e ∈ correlations, e.leftSymbol ≠ e.rightSymbol) ∧
      (correlations.map fun e => correlationPairKey e.leftSymbol e.rightSymbol).Nodup ∧
      lookup = correlations.map fun e => (correlationPairKey e.leftSymbol e.rightSymbol, e) := by
  have hloop : ∀ (rest : List CorrelationEvidence) (result : List PairEntry),
      rest.foldlM addCorrelation result = .ok lookup ↔
        (∀ e ∈ rest, e.leftSymbol ≠ e.rightSymbol ∧
          correlationPairKey e.leftSymbol e.rightSymbol ∉ result.map Prod.fst) ∧
        (rest.map fun e => correlationPairKey e.leftSymbol e.rightSymbol).Nodup ∧
        lookup = result ++ rest.map fun e => (correlationPairKey e.leftSymbol e.rightSymbol, e) := by
    intro rest
    induction rest with
    | nil =>
      intro result
      constructor
      · intro h
        cases h
        exact ⟨nofun, .nil, (List.append_nil _).symm⟩
      · intro h
        rw [h.2.2, List.map_nil, List.append_nil]
        rfl
    | cons e rest ih =>
      intro result
      rw [List.foldlM_cons, List.forall_mem_cons, List.map_cons, List.map_cons, List.nodup_cons]
      unfold addCorrelation
      simp only []
      by_cases hsame : e.leftSymbol = e.rightSymbol
      · rw [if_pos hsame]
        exact ⟨nofun, fun h => absurd hsame h.1.1.1⟩
      · by_cases hkey : correlationPairKey e.leftSymbol e.rightSymbol ∈ result.map Prod.fst
        · rw [if_neg hsame, if_pos hkey]
          exact ⟨nofun, fun h => absurd hkey h.1.1.2⟩
        · rw [if_neg hsame, if_neg hkey]
          show rest.foldlM addCorrelation (result ++ [_]) = .ok lookup ↔ _
          rw [ih, List.append_assoc, List.map_append, List.map_singleton]
          simp only [List.mem_append, List.mem_singleton, not_or]
          constructor
          · intro h
            obtain ⟨hrest, hnodup, hlookup⟩ := h
            refine ⟨⟨⟨hsame, hkey⟩, fun f hf => ⟨(hrest f hf).1, (hrest f hf).2.1⟩⟩, ⟨?_, hnodup⟩,
              hlookup⟩
            intro hmem
            obtain ⟨f, hf, hfe⟩ := List.mem_map.mp hmem
            exact (hrest f hf).2.2 hfe
          · intro h
            obtain ⟨⟨-, hrest⟩, ⟨hnew, hnodup⟩, hlookup⟩ := h
            refine ⟨fun f hf => ⟨(hrest f hf).1, (hrest f hf).2, ?_⟩, hnodup, hlookup⟩
            intro hfe
            exact hnew (List.mem_map.mpr ⟨f, hf, hfe⟩)
  have hall := hloop correlations []
  simp only [List.map_nil, List.not_mem_nil, not_false_eq_true, and_true, List.nil_append] at hall
  exact hall

/-- The dictionary of the correlations in another order. -/
theorem correlationLookup_perm {correlations correlations' : List CorrelationEvidence}
    {lookup : List PairEntry} (h : correlationLookup correlations = .ok lookup)
    (hperm : correlations'.Perm correlations) :
    ∃ lookup', correlationLookup correlations' = .ok lookup' ∧ lookup'.Perm lookup := by
  obtain ⟨hdistinct, hnodup, rfl⟩ := correlationLookup_eq_ok.mp h
  refine ⟨_, correlationLookup_eq_ok.mpr ⟨?_, ?_, rfl⟩, hperm.map _⟩
  · exact fun e he => hdistinct e (hperm.mem_iff.mp he)
  · exact ((hperm.map _).nodup_iff).mpr hnodup

/-- A dictionary with one entry for a pair, whose key is in order. -/
structure PairDict (edges : List PairEntry) : Prop where
  unique : (edges.map Prod.fst).Nodup
  ordered : ∀ entry ∈ edges, ¬ entry.1.2.text < entry.1.1.text

theorem pairDict_of_lookup {correlations : List CorrelationEvidence} {lookup : List PairEntry}
    (h : correlationLookup correlations = .ok lookup) : PairDict lookup := by
  obtain ⟨-, hnodup, rfl⟩ := correlationLookup_eq_ok.mp h
  refine ⟨?_, ?_⟩
  · rw [List.map_map]
    exact hnodup
  · intro entry hentry
    obtain ⟨e, -, rfl⟩ := List.mem_map.mp hentry
    exact correlationPairKey_ordered _ _

theorem PairDict.sublist {edges lookup : List PairEntry} (h : PairDict lookup)
    (hsub : edges.Sublist lookup) : PairDict edges :=
  ⟨h.unique.sublist (hsub.map Prod.fst), fun entry hentry => h.ordered entry (hsub.subset hentry)⟩

/-- Two symbols have one edge. -/
theorem PairDict.adjacent_unique {edges : List PairEntry} (h : PairDict edges) {x y : Symbol}
    {e f : CorrelationEvidence} (he : (y, e) ∈ adjacent edges x) (hf : (y, f) ∈ adjacent edges x) :
    e = f := by
  have hkey {k k' : Symbol × Symbol} (hk : (k, e) ∈ edges) (hk' : (k', f) ∈ edges)
      (hsame : k = k') : e = f :=
    (Prod.mk.inj (List.inj_on_of_nodup_map h.unique hk hk' hsame)).2
  have hself {p q : Symbol} {d d' : CorrelationEvidence} (hpq : ((p, q), d) ∈ edges)
      (hqp : ((q, p), d') ∈ edges) : p = q :=
    eq_of_symbol_text (String.le_antisymm (h.ordered _ hpq) (h.ordered _ hqp))
  rcases mem_adjacent.mp he with he | he
  · rcases mem_adjacent.mp hf with hf | hf
    · exact hkey he hf rfl
    · refine hkey he hf ?_
      rw [hself he hf]
  · rcases mem_adjacent.mp hf with hf | hf
    · refine hkey he hf ?_
      rw [hself he hf]
    · exact hkey he hf rfl

/-- The order of the search. -/
theorem rankAtMost_total (symbols : List Symbol) (x y : Symbol) :
    rankAtMost symbols x y ∨ rankAtMost symbols y x := by
  unfold rankAtMost
  rcases Nat.lt_trichotomy (symbols.idxOf x) (symbols.idxOf y) with h | h | h
  · exact Or.inl (Or.inl h)
  · rcases String.le_total x.text y.text with ht | ht
    · exact Or.inl (Or.inr ⟨h, ht⟩)
    · exact Or.inr (Or.inr ⟨h.symm, ht⟩)
  · exact Or.inr (Or.inl h)

theorem rankAtMost_trans {symbols : List Symbol} {x y z : Symbol} (hxy : rankAtMost symbols x y)
    (hyz : rankAtMost symbols y z) : rankAtMost symbols x z := by
  unfold rankAtMost at hxy hyz ⊢
  rcases hxy with hxy | ⟨hxy, ht⟩
  · rcases hyz with hyz | ⟨hyz, -⟩
    · exact Or.inl (by omega)
    · exact Or.inl (by omega)
  · rcases hyz with hyz | ⟨hyz, ht'⟩
    · exact Or.inl (by omega)
    · exact Or.inr ⟨hxy.trans hyz, String.le_trans ht ht'⟩

theorem eq_of_rankAtMost {symbols : List Symbol} {x y : Symbol} (hxy : rankAtMost symbols x y)
    (hyx : rankAtMost symbols y x) : x = y := by
  unfold rankAtMost at hxy hyx
  rcases hxy with hxy | ⟨hxy, ht⟩
  · rcases hyx with hyx | ⟨hyx, -⟩
    · omega
    · omega
  · rcases hyx with hyx | ⟨-, ht'⟩
    · omega
    · exact eq_of_symbol_text (String.le_antisymm ht ht')

/-- The search does not see the order of the dictionary. -/
theorem neighbours_perm {symbols : List Symbol} {edges edges' : List PairEntry}
    (h : PairDict edges) (hperm : edges'.Perm edges) (x : Symbol) :
    neighbours symbols edges' x = neighbours symbols edges x := by
  have htotal : Std.Total fun a b : Symbol × CorrelationEvidence => rankAtMost symbols a.1 b.1 :=
    ⟨fun a b => rankAtMost_total symbols a.1 b.1⟩
  have htrans : IsTrans (Symbol × CorrelationEvidence) fun a b => rankAtMost symbols a.1 b.1 :=
    ⟨fun _ _ _ hab hbc => rankAtMost_trans hab hbc⟩
  have hadjacent : (adjacent edges' x).Perm (adjacent edges x) := hperm.flatMap_right _
  refine (((List.perm_insertionSort _ _).trans hadjacent).trans
    (List.perm_insertionSort _ _).symm).eq_of_pairwise ?_ (List.pairwise_insertionSort _ _)
      (List.pairwise_insertionSort _ _)
  intro a b ha hb hab hba
  have ha' := (List.mem_insertionSort _).mp ha
  have hb' := (List.mem_insertionSort _).mp hb
  have hsymbol := eq_of_rankAtMost hab hba
  obtain ⟨y, e⟩ := a
  obtain ⟨z, f⟩ := b
  obtain rfl : y = z := hsymbol
  rw [h.adjacent_unique (hadjacent.mem_iff.mp ha') hb']

theorem correlationGroupAssignments_perm {symbols : List Symbol} {lookup lookup' : List PairEntry}
    {groups : Groups} (h : correlationGroupAssignments symbols lookup = .ok groups)
    (hdict : PairDict lookup) (hperm : lookup'.Perm lookup) :
    correlationGroupAssignments symbols lookup' = .ok groups := by
  obtain ⟨edges, hedges, h⟩ := bind_eq_ok.mp h
  cases h
  obtain ⟨edges', hedges', hperm'⟩ := filterM_perm hedges hperm
  have hsub : edges.Sublist lookup := by
    rw [(filterM_eq_ok.mp hedges).2]
    exact List.filter_sublist
  have hnext : neighbours symbols edges' = neighbours symbols edges :=
    funext (neighbours_perm (hdict.sublist hsub) hperm')
  refine bind_eq_ok.mpr ⟨edges', hedges', ?_⟩
  rw [hnext]
  rfl

theorem normalized_candidateIds {candidates normalized : List SetupCandidate}
    (h : List.Forall₂ (fun c n => withoutCorrelationPenalty c = .ok n) candidates normalized) :
    normalized.map SetupCandidate.candidateId = candidates.map SetupCandidate.candidateId := by
  induction h with
  | nil => rfl
  | cons hc _ ih =>
    rw [List.map_cons, List.map_cons, ih, (withoutCorrelationPenalty_spec hc).1.candidateId]

/-- An accepted ranking of the same arguments in another order. -/
theorem rankCandidates_perm {candidates candidates' : List SetupCandidate} {regime : Regime}
    {resultVersion policyVersion : String} {correlations correlations' : List CorrelationEvidence}
    {output : List SetupCandidate}
    (h : rankCandidates candidates regime resultVersion policyVersion correlations = .ok output)
    (hids : (candidates.map SetupCandidate.candidateId).Nodup)
    (hcandidates : candidates'.Perm candidates) (hcorrelations : correlations'.Perm correlations) :
    rankCandidates candidates' regime resultVersion policyVersion correlations' = .ok output := by
  obtain ⟨_, hchecked, h⟩ := bind_eq_ok.mp h
  obtain ⟨normalized, hnormalized, h⟩ := bind_eq_ok.mp h
  obtain ⟨sorted, hsorted, h⟩ := bind_eq_ok.mp h
  obtain ⟨lookup, hlookup, h⟩ := bind_eq_ok.mp h
  obtain ⟨groups, hgroups, h⟩ := bind_eq_ok.mp h
  rw [numeric_eq_ok] at hnormalized hsorted hgroups
  obtain ⟨normalized', hnormalized', hperm⟩ := mapM_perm hnormalized hcandidates
  have hids' : (normalized.map SetupCandidate.candidateId).Nodup := by
    rwa [normalized_candidateIds (mapM_eq_ok.mp hnormalized)]
  have hsorted' := sortedBy_perm hsorted hperm
    fun a ha b hb hab hba => eq_of_keyAtMost hids' ha hb hab hba
  obtain ⟨lookup', hlookup', hdict⟩ := correlationLookup_perm hlookup hcorrelations
  have hgroups' := correlationGroupAssignments_perm hgroups (pairDict_of_lookup hlookup) hdict
  refine bind_eq_ok.mpr ⟨⟨⟩, ?_, bind_eq_ok.mpr ⟨normalized', numeric_eq_ok.mpr hnormalized',
    bind_eq_ok.mpr ⟨sorted, numeric_eq_ok.mpr hsorted', bind_eq_ok.mpr ⟨lookup', hlookup',
      bind_eq_ok.mpr ⟨groups, numeric_eq_ok.mpr hgroups', h⟩⟩⟩⟩⟩
  rw [checkArguments_perm hcandidates hcorrelations]
  exact hchecked

/-! ## Coherent scores -/

theorem require_eq_ok {condition : Prop} [Decidable condition] {message : String} :
    require condition message = .ok ⟨⟩ ↔ condition := by
  unfold require
  by_cases h : condition
  · rw [if_pos h]
    exact ⟨fun _ => h, fun _ => rfl⟩
  · rw [if_neg h]
    exact ⟨nofun, fun hc => absurd hc h⟩

/-- The rank of the data quality is the one the data quality gives. -/
def SetupCandidate.RankFrozen (c : SetupCandidate) : Prop :=
  ∃ rank, Scoring.dataQualityRank c.dataQuality c.symbol = .ok rank ∧
    c.dataQualityRank.sameNumber rank = true

theorem rankFrozen_of_coherent {c : SetupCandidate} (h : c.coherentScore = .ok ⟨⟩) :
    c.RankFrozen := by
  obtain ⟨_, _, h⟩ := bind_eq_ok.mp h
  obtain ⟨_, _, h⟩ := bind_eq_ok.mp h
  obtain ⟨_, _, h⟩ := bind_eq_ok.mp h
  obtain ⟨_, _, h⟩ := bind_eq_ok.mp h
  obtain ⟨_, _, h⟩ := bind_eq_ok.mp h
  obtain ⟨rank, hrank, h⟩ := bind_eq_ok.mp h
  obtain ⟨_, hsame, _⟩ := bind_eq_ok.mp h
  exact ⟨rank, hrank, require_eq_ok.mp hsame⟩

theorem SameCandidate.rankFrozen {a b : SetupCandidate} (h : SameCandidate a b)
    (ha : a.RankFrozen) : b.RankFrozen := by
  unfold SetupCandidate.RankFrozen
  rwa [h.evaluation, h.symbol, h.dataQualityRank]

theorem ScoreComponent.rescore_points {c d : ScoreComponent} (h : c.rescore = .ok d) :
    numericContext.multiply c.quality c.weight = .ok d.points := by
  obtain ⟨points, hpoints, h⟩ := bind_eq_ok.mp h
  cases h
  exact hpoints

/-- The points after a ranking are the products its score adds up. -/
theorem ScoreComponents.rescore_points {c d : ScoreComponents} (h : c.rescore = .ok d) :
    (c.toList.mapM fun c => numericContext.multiply c.quality c.weight) =
      .ok (d.toList.map ScoreComponent.points) := by
  obtain ⟨setup, hsetup, h⟩ := bind_eq_ok.mp h
  obtain ⟨trend, htrend, h⟩ := bind_eq_ok.mp h
  obtain ⟨strength, hstrength, h⟩ := bind_eq_ok.mp h
  obtain ⟨reward, hreward, h⟩ := bind_eq_ok.mp h
  obtain ⟨liquidity, hliquidity, h⟩ := bind_eq_ok.mp h
  obtain ⟨catalyst, hcatalyst, h⟩ := bind_eq_ok.mp h
  cases h
  exact mapM_eq_ok.mpr (.cons (ScoreComponent.rescore_points hsetup)
    (.cons (ScoreComponent.rescore_points htrend) (.cons (ScoreComponent.rescore_points hstrength)
      (.cons (ScoreComponent.rescore_points hreward)
        (.cons (ScoreComponent.rescore_points hliquidity)
          (.cons (ScoreComponent.rescore_points hcatalyst) .nil))))))

/-- What `_with_selection` returns is coherent, as far as its arguments are. -/
theorem withSelection_coherent {c o : SetupCandidate} {selected highlighted secondary : Bool}
    {primary : Option Symbol} {reasons : List String}
    (h : withSelection c selected highlighted secondary primary reasons = .ok o)
    (hrank : o.RankFrozen) (hprimary : secondary = true → primary ≠ none)
    (hreasons : selected = true → reasons = []) : o.coherentScore = .ok ⟨⟩ := by
  obtain ⟨positive, hpositive, h⟩ := bind_eq_ok.mp h
  obtain ⟨total, htotal, h⟩ := bind_eq_ok.mp h
  obtain ⟨components, hcomponents, h⟩ := bind_eq_ok.mp h
  cases h
  obtain ⟨rank, hrank, hsame⟩ := hrank
  obtain ⟨points, hpoints, hsum⟩ := bind_eq_ok.mp hpositive
  rw [ScoreComponents.rescore_points hcomponents] at hpoints
  cases hpoints
  obtain ⟨positive', hpositive', htotal⟩ := bind_eq_ok.mp htotal
  obtain rfl : positive = positive' := Except.ok.inj (hpositive.symm.trans hpositive')
  obtain ⟨penaltyTotal, hpenalty, htotal⟩ := bind_eq_ok.mp htotal
  obtain ⟨difference, hdifference, htotal⟩ := bind_eq_ok.mp htotal
  cases htotal
  have harithmetic {x : Except Signal Decimal} {d : Decimal} (hx : x = .ok d) :
      x.mapError ScoreError.arithmetic = .ok d := by
    rw [hx]
    rfl
  refine bind_eq_ok.mpr ⟨positive, harithmetic hsum, bind_eq_ok.mpr ⟨penaltyTotal,
    harithmetic hpenalty, bind_eq_ok.mpr ⟨⟨⟩, require_eq_ok.mpr ?_, bind_eq_ok.mpr ⟨difference,
      harithmetic hdifference, bind_eq_ok.mpr ⟨⟨⟩, require_eq_ok.mpr ?_, bind_eq_ok.mpr ⟨rank, hrank,
        bind_eq_ok.mpr ⟨⟨⟩, require_eq_ok.mpr hsame, bind_eq_ok.mpr ⟨⟨⟩, require_eq_ok.mpr hprimary,
          require_eq_ok.mpr hreasons⟩⟩⟩⟩⟩⟩⟩⟩
  · exact Decimal.sameNumber_self positive
  · exact Decimal.sameNumber_self difference.atLeastZero

/-- A secondary entry has the root of its group. -/
theorem prepare_primary {groups : Groups} : ∀ {candidates : List SetupCandidate}
    {seen : List Symbol} {prepared : List Prepared}, prepare groups candidates seen = .ok prepared →
    ∀ p ∈ prepared, p.secondary = true → p.primarySymbol ≠ none := by
  intro candidates
  induction candidates with
  | nil =>
    intro seen prepared h p hp
    cases h
    cases hp
  | cons c rest ih =>
    intro seen prepared h p hp
    unfold prepare at h
    cases hroot : groups.root c.symbol with
    | none =>
      rw [hroot] at h
      cases h
    | some primary =>
      rw [hroot] at h
      simp only [] at h
      by_cases hfirst : c.symbol = primary ∧ primary ∉ seen
      · rw [if_pos hfirst] at h
        obtain ⟨tail, htail, h⟩ := bind_eq_ok.mp h
        cases h
        rcases List.mem_cons.mp hp with hp | hp
        · rw [hp]
          intro hsecondary
          cases hsecondary
        · exact ih htail p hp
      · rw [if_neg hfirst] at h
        obtain ⟨total, -, h⟩ := bind_eq_ok.mp h
        obtain ⟨tail, htail, h⟩ := bind_eq_ok.mp h
        cases h
        rcases List.mem_cons.mp hp with hp | hp
        · rw [hp]
          intro _ hprimary
          cases hprimary
        · exact ih htail p hp

/-- Every output is a selection of its entry, which is selected for no reason against it. -/
theorem exists_selection {limit : Option Decimal} : ∀ {entries : List Prepared}
    {selected highlighted : Nat} {output : List SetupCandidate},
    select limit entries selected highlighted = .ok output → ∀ o ∈ output, ∃ p ∈ entries,
      ∃ selected highlighted reasons, withSelection p.candidate selected highlighted p.secondary
        p.primarySymbol reasons = .ok o ∧ (selected = true → reasons = []) := by
  intro entries
  induction entries with
  | nil =>
    intro selected highlighted output h o ho
    cases h
    cases ho
  | cons p rest ih =>
    intro selected highlighted output h o ho
    unfold select at h
    obtain ⟨reasons, hreasons, h⟩ := bind_eq_ok.mp h
    obtain ⟨first, hfirst, h⟩ := bind_eq_ok.mp h
    obtain ⟨outputs, houtputs, h⟩ := bind_eq_ok.mp h
    cases h
    rcases List.mem_cons.mp ho with ho | ho
    · rw [ho]
      refine ⟨p, List.mem_cons_self, _, _, _, hfirst, ?_⟩
      intro hselected
      have hnil : reasons = [] := List.isEmpty_iff.mp (Bool.and_eq_true_iff.mp hselected).1
      rw [hselected, hnil]
      rfl
    · obtain ⟨q, hq, hrest⟩ := ih houtputs o ho
      exact ⟨q, List.mem_cons_of_mem _ hq, hrest⟩

theorem RankingRun.coherent {candidates output : List SetupCandidate} {limit : Option Decimal}
    {correlations : List CorrelationEvidence} {s : Stages}
    (h : RankingRun candidates limit correlations output s)
    (hcandidates : ∀ c ∈ candidates, c.coherentScore = .ok ⟨⟩) :
    ∀ o ∈ output, o.coherentScore = .ok ⟨⟩ := by
  intro o ho
  obtain ⟨arranged, hperm, hall⟩ := h.permutation
  obtain ⟨c, hc, hsame⟩ := exists_left hall ho
  have hrank := hsame.rankFrozen (rankFrozen_of_coherent (hcandidates c (hperm.mem_iff.mp hc)))
  obtain ⟨p, hp, selected, highlighted, reasons, hselection, hreasons⟩ :=
    exists_selection h.output o ho
  exact withSelection_coherent hselection hrank
    (prepare_primary h.prepared p (h.ordered.mem_iff.mp hp)) hreasons

/-! ## The whole property -/

/-- The correlations in another order, some of them the other way round. -/
def Rearranged (correlations correlations' : List CorrelationEvidence) : Prop :=
  ∃ turned, List.Forall₂ (fun e f => f = e ∨ f = e.swap) correlations turned ∧
    correlations'.Perm turned

theorem Rearranged.oriented {correlations correlations' : List CorrelationEvidence}
    (h : Rearranged correlations correlations') :
    (correlations'.map CorrelationEvidence.oriented).Perm
      (correlations.map CorrelationEvidence.oriented) := by
  obtain ⟨turned, hturned, hperm⟩ := h
  have hsame : turned.map CorrelationEvidence.oriented =
      correlations.map CorrelationEvidence.oriented := by
    clear hperm
    induction hturned with
    | nil => rfl
    | cons hef _ ih =>
      rw [List.map_cons, List.map_cons, ih]
      rcases hef with hef | hef
      · rw [hef]
      · rw [hef, oriented_swap]
  rw [← hsame]
  exact hperm.map _

/-- **A ranking is the same for every order of its arguments and for its own result**, and
what it returns is coherent. -/
theorem rankCandidates_stable {candidates : List SetupCandidate} {regime : Regime}
    {resultVersion policyVersion : String} {correlations : List CorrelationEvidence}
    {output : List SetupCandidate}
    (h : rankCandidates candidates regime resultVersion policyVersion correlations = .ok output)
    (hids : (candidates.map SetupCandidate.candidateId).Nodup)
    (hcoherent : ∀ c ∈ candidates, c.coherentScore = .ok ⟨⟩) :
    (∀ candidates' correlations', candidates'.Perm candidates →
      Rearranged correlations correlations' →
        rankCandidates candidates' regime resultVersion policyVersion correlations' = .ok output) ∧
      rankCandidates output regime resultVersion policyVersion correlations = .ok output ∧
      ∀ o ∈ output, o.coherentScore = .ok ⟨⟩ := by
  obtain ⟨s, hrun⟩ := exists_rankingRun h
  refine ⟨?_, ?_, hrun.coherent hcoherent⟩
  · intro candidates' correlations' hcandidates hcorrelations
    rw [← rankCandidates_oriented] at h ⊢
    exact rankCandidates_perm h hids hcandidates hcorrelations.oriented
  · -- The output has the cores of the candidates, in another order.
    obtain ⟨arranged, hperm, hall⟩ := hrun.permutation
    have hcores : output.map SetupCandidate.core = arranged.map SetupCandidate.core := by
      clear hrun h hperm
      induction hall with
      | nil => rfl
      | cons hsame _ ih => rw [List.map_cons, List.map_cons, ih, hsame.core]
    have hids' : ((candidates.map SetupCandidate.core).map SetupCandidate.candidateId).Nodup := by
      rw [List.map_map]
      exact hids
    rw [← rankCandidates_core] at h ⊢
    rw [hcores]
    exact rankCandidates_perm h hids' (hperm.map _) (.refl _)

/-- Two candidates with a strong correlation. -/
theorem rankCandidates_stable_sample : ∃ output,
    rankCandidates sampleCandidates .permissive "1" "1" [sampleCorrelation] = .ok output ∧
      rankCandidates sampleCandidates.reverse .permissive "1" "1" [sampleCorrelation.swap] =
        .ok output ∧
      rankCandidates output .permissive "1" "1" [sampleCorrelation] = .ok output ∧
      ∀ o ∈ output, o.coherentScore = .ok ⟨⟩ := by
  obtain ⟨output, h, -⟩ := sampleCandidates_ranked
  obtain ⟨hsame, hagain, hcoherent⟩ :=
    rankCandidates_stable h sampleCandidates_nodup (by decide)
  refine ⟨output, h, hsame _ _ (List.reverse_perm _) ⟨[sampleCorrelation.swap], ?_, .refl _⟩,
    hagain, hcoherent⟩
  exact .cons (Or.inr rfl) .nil

end FinanceResearch.Scoring
