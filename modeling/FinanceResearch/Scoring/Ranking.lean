import FinanceResearch.Domain.Policies
import FinanceResearch.Lib.Components
import FinanceResearch.Lib.DecimalContext
import FinanceResearch.Lib.Fallible
import FinanceResearch.Quality.Evaluation

/-!
# Ranking and selection

`rank_candidates` of `domain/scoring.py`: the order of the scored candidates, the groups
of correlated exposure, and the candidates selected for a plan.

Mirroring notes vs the source:
- `coherent_score` admits only the canonical order of the components and penalties, so
  they are fields here and the tuple is `toList`.
- Records have the fields that ranking or `coherent_score` reads or writes.
- Every decimal operation is made in `NUMERIC_CONTEXT`; the comparisons are exact.
-/

namespace FinanceResearch.Scoring

open Calendar (UtcDatetime)
open Decimal (Context Signal)

/-- `NUMERIC_CONTEXT`. -/
def numericContext : Context := ⟨28, Decimal.precision_positive⟩

/-- `PLAN_CAP`. -/
def planCap : Nat := 5

/-- `HIGHLIGHT_CAP`. -/
def highlightCap : Nat := 3

/-- `CORRELATION_THRESHOLD`. -/
def correlationThreshold : Decimal := ⟨false, 90, -2⟩

/-! ## Candidates -/

structure ScoreComponent where
  quality : Decimal
  weight : Decimal
  points : Decimal
  fraction : Decimal.zero.atMost quality = true ∧ quality.atMost Decimal.one = true
  weighted : Decimal.zero.atMost weight = true

structure ScorePenalty where
  points : Decimal
  reason : String
  evidenceIds : EvidenceIds

/-- `components`, in the order of `ScoreComponentName`. -/
structure ScoreComponents where
  setupQuality : ScoreComponent
  trendQuality : ScoreComponent
  relativeStrength : ScoreComponent
  rewardRiskQuality : ScoreComponent
  liquidityQuality : ScoreComponent
  catalystEvidenceQuality : ScoreComponent

def ScoreComponents.toList (c : ScoreComponents) : List ScoreComponent :=
  [c.setupQuality, c.trendQuality, c.relativeStrength, c.rewardRiskQuality, c.liquidityQuality,
   c.catalystEvidenceQuality]

/-- `penalties`, in the order of `PenaltyName`. -/
structure ScorePenalties where
  extension : ScorePenalty
  eventUncertainty : ScorePenalty
  correlationConcentration : ScorePenalty
  dataQuality : ScorePenalty

def ScorePenalties.toList (p : ScorePenalties) : List ScorePenalty :=
  [p.extension, p.eventUncertainty, p.correlationConcentration, p.dataQuality]

structure SetupCandidate where
  candidateId : Identifier
  symbol : Symbol
  regimePolicyVersion : String
  evidenceCutoffAt : UtcDatetime
  dataQuality : DataQualityResult
  components : ScoreComponents
  penalties : ScorePenalties
  positiveScore : Decimal
  totalScore : Decimal
  dataQualityRank : Decimal
  liquidityRank : Decimal
  selectedForPlan : Bool
  executiveHighlight : Bool
  secondaryAlternative : Bool
  primarySymbol : Option Symbol
  selectionReasons : List String

structure CorrelationEvidence where
  leftSymbol : Symbol
  rightSymbol : Symbol
  coefficient : Decimal
  evidenceIds : EvidenceIds
  observedAt : UtcDatetime
  exposureDescription : BoundedText 1 500
  bounded : (Decimal.mk true 1 0).atMost coefficient = true ∧ coefficient.atMost Decimal.one = true

/-! ## The validator of a candidate -/

/-- What `coherent_score` raises; `KeyError` is for a status that is no key of `symbol_rank`. -/
inductive ScoreError where
  | valueError (message : String)
  | keyError (status : PlanStatus)
  | arithmetic (signal : Signal)
  deriving DecidableEq

/-- `raise ValueError(message)` unless the condition holds. -/
def require (condition : Prop) [Decidable condition] (message : String) : Except ScoreError Unit :=
  if condition then pure () else throw (.valueError message)

/-- `global_rank`. -/
def globalRank : DataQualityStatus → Decimal
  | .pass => Decimal.one
  | .degraded => ⟨false, 5, -1⟩
  | .fail => Decimal.zero

/-- `symbol_rank`. -/
def symbolRank : PlanStatus → Except ScoreError Decimal
  | .draft => .ok Decimal.one
  | .reviewRequired => .ok ⟨false, 5, -1⟩
  | .blocked => .ok Decimal.zero
  | .expired => .error (.keyError .expired)

/-- `_data_quality_rank`. -/
def dataQualityRank (dataQuality : DataQualityResult) (symbol : Symbol) :
    Except ScoreError Decimal := do
  let rank ← symbolRank (dataQuality.symbolPlanStatus symbol.text)
  (numericContext.multiply (globalRank dataQuality.status) rank).mapError .arithmetic

/-- `coherent_score`. -/
def SetupCandidate.coherentScore (c : SetupCandidate) : Except ScoreError Unit := do
  let positive ← (numericContext.sum (c.components.toList.map ScoreComponent.points)).mapError
    .arithmetic
  let penaltyTotal ← (numericContext.sum (c.penalties.toList.map ScorePenalty.points)).mapError
    .arithmetic
  require (c.positiveScore.sameNumber positive = true)
    "positive score must equal component points"
  let difference ← (numericContext.subtract positive penaltyTotal).mapError .arithmetic
  require (c.totalScore.sameNumber difference.atLeastZero = true)
    "total score must equal positive score less visible penalties"
  let rank ← FinanceResearch.Scoring.dataQualityRank c.dataQuality c.symbol
  require (c.dataQualityRank.sameNumber rank = true)
    "data quality rank must match frozen data quality"
  require (c.secondaryAlternative = true → c.primarySymbol ≠ none)
    "secondary alternatives require a primary symbol"
  require (c.selectedForPlan = true → c.selectionReasons = [])
    "selected candidates must not carry rejection reasons"

/-! ## Scores -/

/-- `_candidate_positive`, of the components. -/
def positiveOf (components : ScoreComponents) : Except Signal Decimal := do
  let products ← components.toList.mapM fun c => numericContext.multiply c.quality c.weight
  numericContext.sum products

/-- `_candidate_total`, of the components and penalties. -/
def totalOf (components : ScoreComponents) (penalties : ScorePenalties) :
    Except Signal Decimal := do
  let positive ← positiveOf components
  let penalty ← numericContext.sum (penalties.toList.map ScorePenalty.points)
  let difference ← numericContext.subtract positive penalty
  pure difference.atLeastZero

/-- `_candidate_total`. -/
def candidateTotal (c : SetupCandidate) : Except Signal Decimal := totalOf c.components c.penalties

/-- The tuple `_sort_key` returns. -/
structure SortKey where
  numbers : List Decimal
  symbol : String
  candidateId : String

/-- Tuples compare by their first difference. -/
def SortKey.cmp (a b : SortKey) : Ordering :=
  (List.compareLex Decimal.cmp a.numbers b.numbers).then
    ((compare a.symbol b.symbol).then (compare a.candidateId b.candidateId))

/-- `_sort_key`. -/
def sortKey (c : SetupCandidate) : Except Signal SortKey := do
  let total ← candidateTotal c
  let numbers ← [total, c.components.setupQuality.quality, c.components.relativeStrength.quality,
    c.components.rewardRiskQuality.quality, c.dataQualityRank, c.liquidityRank].mapM
      numericContext.minus
  pure ⟨numbers, c.symbol.text, c.candidateId.text⟩

/-- `sorted(items, key=..)`. -/
def sortedBy {α : Type} (key : α → Except Signal SortKey) (items : List α) :
    Except Signal (List α) := do
  let keyed ← items.mapM fun item => do
    let k ← key item
    pure (k, item)
  pure ((keyed.insertionSort fun a b => (a.1.cmp b.1).isLE = true).map Prod.snd)

/-- `()` as evidence. -/
def noEvidence : EvidenceIds := ⟨[], by decide⟩

/-- `_without_correlation_penalty`. -/
def withoutCorrelationPenalty (c : SetupCandidate) : Except Signal SetupCandidate := do
  let penalties : ScorePenalties := { c.penalties with
    correlationConcentration :=
      { points := Decimal.zero
        reason := "Duplicate-exposure review has not applied a penalty"
        evidenceIds := noEvidence } }
  let positive ← positiveOf c.components
  let total ← totalOf c.components penalties
  pure { c with
    penalties
    positiveScore := positive
    totalScore := total
    selectedForPlan := false
    executiveHighlight := false
    secondaryAlternative := false
    primarySymbol := none
    selectionReasons := [] }

/-- `component.model_copy(update={"points": component.quality * component.weight})`. -/
def ScoreComponent.rescore (c : ScoreComponent) : Except Signal ScoreComponent := do
  let points ← numericContext.multiply c.quality c.weight
  pure { c with points }

/-- All components with the points of their quality and weight. -/
def ScoreComponents.rescore (c : ScoreComponents) : Except Signal ScoreComponents := do
  let setupQuality ← c.setupQuality.rescore
  let trendQuality ← c.trendQuality.rescore
  let relativeStrength ← c.relativeStrength.rescore
  let rewardRiskQuality ← c.rewardRiskQuality.rescore
  let liquidityQuality ← c.liquidityQuality.rescore
  let catalystEvidenceQuality ← c.catalystEvidenceQuality.rescore
  pure { setupQuality, trendQuality, relativeStrength, rewardRiskQuality, liquidityQuality,
         catalystEvidenceQuality }

/-- `_with_selection`, with the penalties the candidate has. -/
def withSelection (c : SetupCandidate) (selected highlighted secondary : Bool)
    (primary : Option Symbol) (reasons : List String) : Except Signal SetupCandidate := do
  let positive ← positiveOf c.components
  let total ← totalOf c.components c.penalties
  let components ← c.components.rescore
  pure { c with
    components
    positiveScore := positive
    totalScore := total
    selectedForPlan := selected
    executiveHighlight := highlighted
    secondaryAlternative := secondary
    primarySymbol := primary
    selectionReasons := reasons }

/-- `_threshold`. -/
def threshold : Regime → Option Decimal
  | .permissive => some ⟨false, 70, 0⟩
  | .neutral => some ⟨false, 80, 0⟩
  | .defensive => none
  | .unknown => none

/-! ## Exposure groups -/

/-- What `rank_candidates` raises. -/
inductive RankError where
  | valueError (message : String)
  | keyError (symbol : Symbol)
  | arithmetic (signal : Signal)
  deriving DecidableEq

/-- An operation on decimals among the others. -/
def numeric {α : Type} (x : Except Signal α) : Except RankError α := x.mapError .arithmetic

/-- `_correlation_pair_key`. -/
def correlationPairKey (left right : Symbol) : Symbol × Symbol :=
  if right.text < left.text then (right, left) else (left, right)

/-- An entry of the dictionary of correlations. -/
abbrev PairEntry := (Symbol × Symbol) × CorrelationEvidence

/-- The body of the loop of `_correlation_lookup`. -/
def addCorrelation (result : List PairEntry) (correlation : CorrelationEvidence) :
    Except RankError (List PairEntry) :=
  let key := correlationPairKey correlation.leftSymbol correlation.rightSymbol
  if correlation.leftSymbol = correlation.rightSymbol then
    throw (.valueError "correlation pair must contain distinct symbols")
  else if key ∈ result.map Prod.fst then
    throw (.valueError "duplicate unordered correlation pair")
  else pure (result ++ [(key, correlation)])

/-- `_correlation_lookup`. -/
def correlationLookup (correlations : List CorrelationEvidence) :
    Except RankError (List PairEntry) :=
  correlations.foldlM addCorrelation []

/-- The entry is between two of the symbols and reaches the threshold. -/
def isStrong (symbols : List Symbol) (entry : PairEntry) : Except Signal Bool :=
  if entry.1.1 ∉ symbols ∨ entry.1.2 ∉ symbols then pure false
  else do
    let size ← numericContext.absolute entry.2.coefficient
    pure !(size.less correlationThreshold)

/-- `adjacency[symbol]`. -/
def adjacent (edges : List PairEntry) (symbol : Symbol) : List (Symbol × CorrelationEvidence) :=
  edges.flatMap fun entry =>
    (if entry.1.1 = symbol then [(entry.1.2, entry.2)] else []) ++
      if entry.1.2 = symbol then [(entry.1.1, entry.2)] else []

/-- `(symbol_rank[symbol], symbol)`, in order. -/
def rankAtMost (symbols : List Symbol) (a b : Symbol) : Prop :=
  symbols.idxOf a < symbols.idxOf b ∨ (symbols.idxOf a = symbols.idxOf b ∧ a.text ≤ b.text)

instance (symbols : List Symbol) (a b : Symbol) : Decidable (rankAtMost symbols a b) :=
  inferInstanceAs (Decidable (_ ∨ _))

/-- The edges of a symbol, in the order of the search. -/
def neighbours (symbols : List Symbol) (edges : List PairEntry) (symbol : Symbol) :
    List (Symbol × CorrelationEvidence) :=
  (adjacent edges symbol).insertionSort fun a b => rankAtMost symbols a.1 b.1

/-- `primary_by_symbol` and `connecting_evidence`. -/
abbrev Groups := Components.State Symbol CorrelationEvidence

/-- `_correlation_group_assignments`, of the symbols in ranking order. -/
def correlationGroupAssignments (symbols : List Symbol) (lookup : List PairEntry) :
    Except Signal Groups := do
  let edges ← lookup.filterM (isStrong symbols)
  pure (Components.label (neighbours symbols edges) symbols)

/-- `_correlation_penalties`. -/
def correlationPenalties (c : SetupCandidate) (correlation : Option CorrelationEvidence) :
    ScorePenalties :=
  { c.penalties with
    correlationConcentration :=
      match correlation with
      | none =>
        { points := ⟨false, 10, 0⟩
          reason := "Duplicate symbol exposure"
          evidenceIds := noEvidence }
      | some correlation =>
        { points := ⟨false, 10, 0⟩
          reason := correlation.exposureDescription.val
          evidenceIds := correlation.evidenceIds } }

/-- An entry of `prepared`. -/
structure Prepared where
  candidate : SetupCandidate
  secondary : Bool
  primarySymbol : Option Symbol

/-- The loop that penalizes all but the first candidate of each group; `seen` is
`seen_group_primaries`. -/
def prepare (groups : Groups) : List SetupCandidate → List Symbol → Except RankError (List Prepared)
  | [], _ => pure []
  | c :: rest, seen =>
    match groups.root c.symbol with
    | none => throw (.keyError c.symbol)
    | some primary =>
      if c.symbol = primary ∧ primary ∉ seen then do
        let prepared ← prepare groups rest (primary :: seen)
        pure (⟨c, false, none⟩ :: prepared)
      else do
        let penalties := correlationPenalties c (groups.via c.symbol)
        let total ← numeric (totalOf c.components penalties)
        let prepared ← prepare groups rest seen
        pure (⟨{ c with penalties, totalScore := total }, true, some primary⟩ :: prepared)

/-! ## Selection -/

/-- The reasons the regime and the score give. -/
def scoreReasons (limit : Option Decimal) (c : SetupCandidate) : Except Signal (List String) :=
  match limit with
  | none => pure ["REGIME_BLOCK"]
  | some limit => do
    let total ← candidateTotal c
    pure (if total.less limit then ["SCORE_BELOW_THRESHOLD"] else [])

/-- The reasons found before the caps are looked at. -/
def rejectionReasons (limit : Option Decimal) (p : Prepared) : Except Signal (List String) := do
  let score ← scoreReasons limit p.candidate
  pure (score ++ if p.secondary then ["DUPLICATE_EXPOSURE"] else [])

/-- The last loop, with the counts of selected and highlighted candidates so far. -/
def select (limit : Option Decimal) : List Prepared → (selected highlighted : Nat) →
    Except Signal (List SetupCandidate)
  | [], _, _ => pure []
  | p :: rest, selected, highlighted => do
    let reasons ← rejectionReasons limit p
    let admitted := reasons.isEmpty
    let isSelected := admitted && decide (selected < planCap)
    let isHighlighted := isSelected && decide (highlighted < highlightCap)
    let reasons := if admitted && !isSelected then ["PLAN_CAP"] else reasons
    let output ← withSelection p.candidate isSelected isHighlighted p.secondary p.primarySymbol
      reasons.eraseDups
    let outputs ← select limit rest (selected + isSelected.toNat)
      (highlighted + isHighlighted.toNat)
    pure (output :: outputs)

/-- The checks of the arguments. -/
def checkArguments (candidates : List SetupCandidate) (resultVersion policyVersion : String)
    (correlations : List CorrelationEvidence) : Except RankError Unit :=
  if resultVersion ≠ policyVersion then
    throw (.valueError "regime result and policy versions must match")
  else if ∃ c ∈ candidates, c.regimePolicyVersion ≠ policyVersion then
    throw (.valueError "candidate regime policy versions must match the regime policy")
  else if ∃ correlation ∈ correlations, ∃ c ∈ candidates,
      (c.symbol = correlation.leftSymbol ∨ c.symbol = correlation.rightSymbol) ∧
        c.evidenceCutoffAt < correlation.observedAt then
    throw (.valueError "correlation evidence must not be after candidate cutoff")
  else pure ()

/-- `rank_candidates`, of a regime result of `resultVersion` and the regime policy of
`policyVersion`. -/
def rankCandidates (candidates : List SetupCandidate) (regime : Regime)
    (resultVersion policyVersion : String) (correlations : List CorrelationEvidence) :
    Except RankError (List SetupCandidate) := do
  checkArguments candidates resultVersion policyVersion correlations
  let normalized ← numeric (candidates.mapM withoutCorrelationPenalty)
  let sorted ← numeric (sortedBy sortKey normalized)
  let lookup ← correlationLookup correlations
  let groups ← numeric (correlationGroupAssignments (sorted.map SetupCandidate.symbol) lookup)
  let prepared ← prepare groups sorted []
  let ordered ← numeric (sortedBy (fun p => sortKey p.candidate) prepared)
  numeric (select (threshold regime) ordered 0 0)

end FinanceResearch.Scoring
