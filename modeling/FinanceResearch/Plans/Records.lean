import FinanceResearch.Config.Serialized
import FinanceResearch.Quality.Evaluation
import FinanceResearch.Scoring.Ranking

/-!
# Plans

The records of `domain/plans.py` and `domain/sizing.py`, with what their validators
check. A plan is a plain record here: `model_copy` makes plans without validating them.

Mirroring notes vs the source:
- The fields of a plan that are validated by their type alone have that type.
- The records a candidate is made of are those the plan is built from; a candidate that
  nothing was checked of is admitted.
-/

namespace FinanceResearch.Plans

open Calendar (UtcDatetime)
open Decimal (Context Signal)

/-- `_CONTEXT`. -/
def context : Context := ⟨28, Decimal.precision_positive⟩

/-- What building a plan raises. -/
inductive PlanError where
  | validation (message : String)
  | valueError (message : String)
  | runtimeError (message : String)
  | overflow
  | arithmetic (signal : Signal)
  deriving DecidableEq, Repr

def numeric {α : Type} (x : Except Signal α) : Except PlanError α := x.mapError .arithmetic

/-- `raise ValueError(message)` in a validator. -/
def refuse (condition : Prop) [Decidable condition] (message : String) : Except PlanError Unit :=
  if condition then throw (.validation message) else pure ()

theorem refuse_eq_ok {condition : Prop} [Decidable condition] {message : String} :
    refuse condition message = .ok ⟨⟩ ↔ ¬ condition := by
  rw [refuse]
  by_cases h : condition
  · rw [if_pos h]
    exact ⟨nofun, fun hn => absurd h hn⟩
  · rw [if_neg h]
    exact ⟨fun _ => h, fun _ => rfl⟩

/-! ## Inputs -/

inductive SetupType where
  | breakoutContinuation | trendPullback
  deriving DecidableEq, Repr

def SetupType.value : SetupType → String
  | .breakoutContinuation => "BREAKOUT_CONTINUATION"
  | .trendPullback => "TREND_PULLBACK"

structure GateResult where
  gateId : Identifier
  status : GateStatus
  reasonCode : Identifier
  message : BoundedText 1 500
  evidenceIds : EvidenceIds
  capability : Capability
  ruleVersion : String
  deriving DecidableEq

structure EventAssessment where
  planStatus : PlanStatus
  gates : List GateResult
  eventRisks : List String
  noTradeConditions : List String
  qualityFlags : List String
  deriving DecidableEq

structure CapabilityState extends FinanceResearch.CapabilityState where
  evidenceIds : EvidenceIds

structure CalculatedPrice extends PriceObservation where
  inputEvidenceIds : EvidenceIds
  metricIds : List String
  policyVersion : String
  formulaVersion : String
  evidenceCutoffAt : UtcDatetime

structure EntryZone where
  lower : CalculatedPrice
  upper : CalculatedPrice
  inOrder : lower.value.value.atMost upper.value.value = true

structure TargetScenario where
  price : CalculatedPrice
  rewardToRisk : PositiveDecimal

structure PlanLevels where
  entryZone : EntryZone
  candidateStop : CalculatedPrice
  supportReference : CalculatedPrice
  targetScenarios : List TargetScenario

structure ScoreComponent where
  name : String
  quality : Decimal
  calculation : BoundedText 1 500
  metricIds : List Identifier
  evidenceIds : EvidenceIds
  evidenceCutoffAt : UtcDatetime
  weight : Decimal
  points : Decimal
  formulaVersion : String

structure ScorePenalty where
  name : String
  points : Decimal
  reason : BoundedText 1 500
  evidenceIds : EvidenceIds
  evidenceCutoffAt : UtcDatetime
  formulaVersion : String

structure SetupCandidate where
  candidateId : Identifier
  symbol : Symbol
  setupType : SetupType
  policyHash : String
  regimePolicyVersion : String
  evidenceCutoffAt : UtcDatetime
  levels : PlanLevels
  entryCondition : String
  invalidationCondition : String
  eventAssessment : EventAssessment
  dataQuality : DataQualityResult
  components : List ScoreComponent
  penalties : List ScorePenalty
  positiveScore : Decimal
  totalScore : Decimal
  planStatus : PlanStatus
  selectedForPlan : Bool

/-! ## Sizing -/

inductive SizingStatus where
  | available | sizingUnavailable
  deriving DecidableEq, Repr

structure PositionSizing where
  status : SizingStatus
  unavailableReasons : List String := []
  planningCapitalUsd : Option Decimal := none
  maxRiskPerTradePct : Option Decimal := none
  regimeRiskMultiplier : Option Decimal := none
  maxPositionPct : Option Decimal := none
  entryReferencePrice : Option Decimal := none
  candidateStopPrice : Option Decimal := none
  baseRiskBudget : Option Decimal := none
  adjustedRiskBudget : Option Decimal := none
  riskPerUnit : Option Decimal := none
  unitsByRisk : Option Decimal := none
  unitsByPositionCap : Option Decimal := none
  suggestedUnits : Option Decimal := none
  estimatedPlanRiskPct : Option Decimal := none
  estimatedPostPlanHeatPct : Option Decimal := none
  calculatedAt : UtcDatetime
  quantityIncrement : Option PositiveDecimal := none

/-- `coherent_status`. -/
def PositionSizing.coherentStatus (sizing : PositionSizing) : Except PlanError Unit :=
  match sizing.status with
  | .available => do
    refuse (sizing.unavailableReasons ≠ [] ∨ ¬ sizing.suggestedUnits.any Decimal.zero.less = true)
      "available sizing requires positive units and no unavailable reasons"
    refuse (none ∈ [sizing.baseRiskBudget, sizing.adjustedRiskBudget, sizing.riskPerUnit,
      sizing.unitsByRisk, sizing.unitsByPositionCap])
      "available sizing requires every intermediate"
  | .sizingUnavailable =>
    refuse (sizing.unavailableReasons = [] ∨ sizing.suggestedUnits.isSome = true)
      "unavailable sizing requires reasons and no suggested units"

/-- `PositionSizing(..)`. -/
def PositionSizing.validated (sizing : PositionSizing) : Except PlanError PositionSizing := do
  sizing.coherentStatus
  pure sizing

/-- A sizing with the reasons it is not available for. -/
def PositionSizing.withheld (sizing : PositionSizing) (reasons : List String) : PositionSizing :=
  { sizing with
    status := .sizingUnavailable
    unavailableReasons := reasons
    suggestedUnits := none }

/-! ## Plans -/

structure PlanScoreBreakdown where
  components : List ScoreComponent
  penalties : List ScorePenalty
  positiveScore : Decimal
  totalScore : Decimal

structure PlanTargetScenario where
  price : CalculatedPrice
  distance : PositiveDecimal
  potentialReward : PositiveDecimal
  rMultiple : PositiveDecimal

structure TradePlanDraft where
  planId : Identifier
  runId : Identifier
  candidateId : Identifier
  symbol : Symbol
  instrumentName : BoundedText 1 256
  watchlistRole : Config.WatchlistRole
  setupType : SetupType
  planStatus : PlanStatus
  generatedAt : UtcDatetime
  evidenceCutoffAt : UtcDatetime
  validFrom : UtcDatetime
  expiresAt : UtcDatetime
  marketRegime : Regime
  candidateScore : Decimal
  scoreBreakdown : PlanScoreBreakdown
  thesis : BoundedText 1 1000
  counterThesis : BoundedText 1 1000
  catalysts : List String
  eventRisks : List String
  entryCondition : BoundedText 1 1000
  entryZone : EntryZone
  invalidationCondition : BoundedText 1 1000
  candidateStop : CalculatedPrice
  targetScenarios : List PlanTargetScenario
  riskPerUnit : PositiveDecimal
  rewardRiskByTarget : List Decimal
  positionSizing : PositionSizing
  noTradeConditions : List String
  supportingEvidence : List Identifier
  counterEvidence : List Identifier
  dataQualityFlags : List Identifier
  reviewChecklist : List String
  gateResults : List GateResult
  capabilityStates : List CapabilityState
  setupPolicyVersion : String
  riskPolicyVersion : String
  regimePolicyVersion : String
  currentPriceFreshnessSeconds : Option Nat
  stopFreshnessSeconds : Option Nat
  expiryReasons : List Identifier
  effectiveExpiryAt : Option UtcDatetime

/-- `not text.strip()`. -/
def isBlank (u : CharacterDatabase) (text : String) : Bool := text.toList.all u.isSpace

/-- `_NUMERIC_ONLY.fullmatch(text)`. -/
def isNumericOnly (u : CharacterDatabase) (text : String) : Bool :=
  let isDigit := fun c => (u.decimal c).isSome
  let start := text.toList.dropWhile u.isSpace
  let unsigned := if start.head?.any (fun c => c == '$' || c == '+' || c == '-') then start.tail
    else start
  let rest := unsigned.dropWhile isDigit
  let fraction := rest.tail.takeWhile isDigit
  let tail := if rest.head? = some '.' ∧ fraction ≠ [] then rest.tail.dropWhile isDigit else rest
  unsigned.head?.any isDigit && tail.all u.isSpace

namespace TradePlanDraft

variable (u : CharacterDatabase) (plan : TradePlanDraft)

/-- The constraints on the fields that are not those of their types. -/
def fields : Except PlanError Unit := do
  refuse (plan.targetScenarios = []) "target_scenarios must not be empty"
  refuse (plan.rewardRiskByTarget = []) "reward_risk_by_target must not be empty"
  refuse (plan.noTradeConditions = []) "no_trade_conditions must not be empty"
  refuse (plan.supportingEvidence = []) "supporting_evidence must not be empty"
  refuse (plan.reviewChecklist = []) "review_checklist must not be empty"
  refuse (plan.currentPriceFreshnessSeconds = some 0 ∨ plan.stopFreshnessSeconds = some 0)
    "freshness limits must be positive"

/-- The checks of `valid_conditional_plan` that read the status and the sizing. -/
def statusChecks : Except PlanError Unit := do
  refuse (plan.expiresAt ≤ plan.validFrom ∨ plan.generatedAt < plan.evidenceCutoffAt)
    "plan requires ordered generation, validity, and expiry times"
  refuse (plan.planStatus = .expired ∧ plan.effectiveExpiryAt = none)
    "expired plans require an effective expiry timestamp"
  refuse (plan.planStatus ≠ .expired ∧ plan.effectiveExpiryAt ≠ none)
    "only expired plans may have an effective expiry timestamp"
  refuse (plan.effectiveExpiryAt.any (fun t => !(decide (plan.validFrom ≤ t) &&
    decide (t ≤ plan.expiresAt))) = true) "effective expiry must be within plan validity"
  refuse ((plan.planStatus = .blocked ∨ plan.planStatus = .expired) ∧
    plan.positionSizing.status ≠ .sizingUnavailable)
    "blocked and expired plans cannot expose available sizing"

/-- The checks of one target and its ratio. -/
def targetChecks (target : PlanTargetScenario) (ratio : Decimal) : Except PlanError Unit := do
  let upper := plan.entryZone.upper.value.value
  refuse (target.price.value.value.atMost upper = true) "long targets must exceed the entry zone"
  let distance ← numeric (context.subtract target.price.value.value upper)
  refuse (¬ target.distance.value.sameNumber distance = true)
    "target distance must use upper entry reference"
  refuse (¬ target.potentialReward.value.sameNumber target.distance.value = true ∨
    ¬ target.rMultiple.value.sameNumber ratio = true)
    "target reward and R multiple must match calculated values"
  let expected ← numeric (context.divide target.distance.value plan.riskPerUnit.value)
  refuse (¬ ratio.sameNumber expected = true) "target R multiple must match risk per unit"

/-- The other checks of `valid_conditional_plan`. -/
def contentChecks : Except PlanError Unit := do
  refuse (isNumericOnly u plan.entryCondition.val = true)
    "entry condition must contain a conditional trigger"
  refuse (isBlank u plan.counterThesis.val = true ∨ isBlank u plan.invalidationCondition.val = true)
    "counter-thesis and invalidation are required"
  refuse (plan.noTradeConditions.any (isBlank u) = true) "no-trade conditions must be nonblank"
  refuse (plan.entryZone.lower.value.value.atMost plan.candidateStop.value.value = true)
    "analytical stop must be below long entry zone"
  let risk ← numeric (context.subtract plan.entryZone.upper.value.value
    plan.candidateStop.value.value)
  refuse (¬ plan.riskPerUnit.value.sameNumber risk = true)
    "risk per unit must use the upper entry reference"
  refuse (plan.targetScenarios.length ≠ plan.rewardRiskByTarget.length)
    "every target requires a reward-risk value"
  forM (plan.targetScenarios.zip plan.rewardRiskByTarget) fun pair =>
    plan.targetChecks pair.1 pair.2

/-- All that pydantic checks of a plan. -/
def validate : Except PlanError Unit := do
  plan.fields
  plan.statusChecks
  plan.contentChecks u

end TradePlanDraft

end FinanceResearch.Plans
