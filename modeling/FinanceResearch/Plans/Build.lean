import FinanceResearch.Plans.Sizing
import FinanceResearch.Plans.Windows

/-!
# Building a plan

`build_trade_plan` of `domain/plans.py`: a validated draft, its size, and the two copies
that change its status and its sizing without validating them again.

Mirroring notes vs the source:
- The arguments are one record, with the calendar `_plan_calendar()` gives.
-/

namespace FinanceResearch.Plans

open Calendar (Date UtcDatetime)

structure PlanInput where
  candidate : SetupCandidate
  run : RunContext
  watchlistItem : Config.WatchlistItem
  regime : Regimes.RegimeResult
  eventAssessment : EventAssessment
  gates : List GateResult
  currentPrice : Option PriceObservation
  capabilityStates : List CapabilityState
  setupPolicy : Config.SetupPolicy
  riskPolicy : RiskPolicy
  generatedAt : UtcDatetime

/-- The loop of `_expiry_time`; a day after the last date raises `OverflowError`. -/
def expiryLoop (calendar : TradingCalendar) : Nat → UtcDatetime → Nat → Except PlanError UtcDatetime
  | _, current, 0 => pure current
  | 0, _, _ + 1 => throw .overflow
  | days + 1, current, remaining + 1 =>
    let next := current + Calendar.microsPerDay
    match Calendar.dateOf next with
    | none => throw .overflow
    | some date =>
      match calendar.isTradingDay date with
      | .error message => throw (.runtimeError message)
      | .ok true => expiryLoop calendar days next remaining
      | .ok false => expiryLoop calendar days next (remaining + 1)

/-- The microseconds of `datetime.max`. -/
def maxDatetime : UtcDatetime := 253402300799999999

/-- `_expiry_time`. -/
def expiryTime (calendar : TradingCalendar) (start : UtcDatetime) (sessions : Nat) :
    Except PlanError UtcDatetime :=
  expiryLoop calendar ((maxDatetime - start) / Calendar.microsPerDay).toNat start sessions

/-- `positive_seconds`. -/
def positiveSeconds (fields : List (String × Json)) (key : String) : Option Nat :=
  match fields.lookup key with
  | some (.int value) => if 0 < value then some value.toNat else none
  | _ => none

/-- `_frozen_price_freshness`. -/
def frozenPriceFreshness (run : RunContext) : Option Nat × Option Nat :=
  match run.configurationSnapshot.policies.bind fun policies => policies.get? "source" with
  | some (.obj source) =>
    if source.lookup "version" = some (.str run.configurationSnapshot.sourcePolicyVersion) then
      match source.lookup "freshness_by_data_type" with
      | some (.obj freshness) =>
        (positiveSeconds freshness "market_current_price",
          positiveSeconds freshness "market_daily_bars")
      | _ => (none, none)
    else (none, none)
  | _ => (none, none)

/-- The capabilities a plan cannot do without. -/
def planCapabilities : List Capability := [.planDraftAvailable, .positionSizingAvailable]

/-- Every member of `Capability`. -/
def allCapabilities : List Capability :=
  [.marketSummaryAvailable, .regimeClassificationAvailable, .watchlistMetricsAvailable,
   .eventRiskCheckAvailable, .setupDetectionAvailable, .planDraftAvailable,
   .positionSizingAvailable, .portfolioHeatCheckAvailable]

/-- What makes `_status` block. -/
def blocks (candidate : SetupCandidate) (event : EventAssessment) (gates : List GateResult)
    (states : List CapabilityState) (risk : RiskPolicy) (regime : Regime) : Bool :=
  candidate.planStatus = .blocked || event.planStatus = .blocked ||
    candidate.dataQuality.status = .fail || gates.any (fun gate => gate.status = .block) ||
    states.any (fun state => !state.available && planCapabilities.contains state.capability) ||
    risk.maxTotalPortfolioHeatPct.isNone || regime = .defensive || regime = .unknown

/-- What makes `_status` ask for a review. -/
def asksReview (candidate : SetupCandidate) (event : EventAssessment) (gates : List GateResult)
    (states : List CapabilityState) (risk : RiskPolicy) : Bool :=
  candidate.planStatus = .reviewRequired || event.planStatus = .reviewRequired ||
    gates.any (fun gate => gate.status = .warning) || states.any (fun state => !state.available) ||
    risk.existingPortfolioHeatPct.isNone

/-- `_status`. -/
def statusOf (candidate : SetupCandidate) (event : EventAssessment) (gates : List GateResult)
    (states : List CapabilityState) (risk : RiskPolicy) (regime : Regime) : PlanStatus :=
  if blocks candidate event gates states risk regime then .blocked
  else if asksReview candidate event gates states risk then .reviewRequired
  else .draft

/-- `raise ValueError(message)`. -/
def reject (condition : Prop) [Decidable condition] (message : String) : Except PlanError Unit :=
  if condition then throw (.valueError message) else pure ()

/-- A text of a bounded field. -/
def bounded (shortest longest : Nat) (text : String) :
    Except PlanError (BoundedText shortest longest) :=
  if h : shortest ≤ text.length ∧ text.length ≤ longest then pure ⟨text, h⟩
  else throw (.validation "text length")

/-- A text of an `Identifier` field. -/
def identifier (text : String) : Except PlanError Identifier :=
  if h : Identifier.IsLegal text then pure ⟨text, h⟩ else throw (.validation "identifier")

/-- A number of a field that is greater than zero. -/
def greaterThanZero (d : Decimal) : Except PlanError PositiveDecimal :=
  if h : d.negative = false ∧ d.coefficient ≠ 0 then pure ⟨d, h⟩
  else throw (.validation "greater than zero")

namespace PlanInput

variable (calendar : TradingCalendar) (u : CharacterDatabase) (input : PlanInput)

/-- `gate_results`. -/
def gateResults : List GateResult :=
  (input.candidate.eventAssessment.gates ++ input.gates).eraseDups

/-- `_status`, of the arguments. -/
def initialStatus : PlanStatus :=
  statusOf input.candidate input.eventAssessment input.gateResults input.capabilityStates
    input.riskPolicy input.regime.regime

/-- The status of the draft: late or degraded, it asks for a review. -/
def draftStatus (lateReview : Bool) : PlanStatus :=
  if input.initialStatus = .draft ∧
      (lateReview = true ∨ input.run.dataQualityStatus = .degraded) then .reviewRequired
  else input.initialStatus

/-- The checks before the plan is built: the evidence cutoff and the window. -/
def checked : Except PlanError (UtcDatetime × RunWindowDecision) := do
  reject (input.candidate.selectedForPlan = false) "candidate must be selected for a plan"
  reject (input.candidate.symbol ≠ input.watchlistItem.symbol)
    "candidate and watchlist symbol differ"
  reject (input.watchlistItem.role ≠ .satelliteEligible)
    "only SATELLITE_ELIGIBLE watchlist items may receive plans"
  let cutoff ← match input.run.evidenceCutoffAt with
    | none => throw (.valueError "evidence cutoff has not been frozen")
    | some cutoff => pure cutoff
  reject (input.generatedAt < input.run.invokedAt ∨ input.generatedAt < cutoff)
    "generated_at cannot predate the run or evidence cutoff"
  reject (input.run.deliveryStatus = .missedWindow)
    "run window forbids a plan after a missed premarket run"
  let invocation := if input.run.deliveryStatus = .manual then InvocationType.manual else .scheduled
  let window ← (resolveRunWindow input.generatedAt calendar input.run.runId.marketDate
    invocation).mapError .runtimeError
  reject (window.shouldRun = false ∨ window.allowNormalPlan = false)
    ("run window forbids a normal plan (missed or delayed): " ++ window.reasonCode)
  reject (input.run.dataQualityStatus = .fail) "failed run data quality cannot create a plan"
  reject (input.candidate.eventAssessment ≠ input.eventAssessment)
    "event assessment differs from selected candidate"
  reject (input.candidate.policyHash ≠
    Config.canonicalModelHash (input.setupPolicy.toJson u))
    "setup policy differs from selected candidate"
  reject (input.candidate.regimePolicyVersion ≠ input.regime.policyVersion)
    "regime policy differs from selected candidate"
  reject (input.candidate.evidenceCutoffAt ≠ cutoff) "candidate and run evidence cutoffs differ"
  reject (input.currentPrice.any (fun price => cutoff < price.retrievedAt) = true)
    "current price is after the evidence cutoff"
  reject (input.capabilityStates.length ≠ allCapabilities.length ∨
    ¬ ∀ c ∈ allCapabilities, c ∈ input.capabilityStates.map fun state => state.capability)
    "capability states must cover each Product A capability exactly once"
  pure (cutoff, window)

/-- One of `targets`. -/
def planTarget (entry perUnit : Decimal) (target : TargetScenario) :
    Except PlanError PlanTargetScenario := do
  let distance ← numeric (context.subtract target.price.value.value entry)
  let ratio ← numeric (context.divide distance perUnit)
  let distance ← greaterThanZero distance
  let ratio ← greaterThanZero ratio
  pure { price := target.price, distance, potentialReward := distance, rMultiple := ratio }

/-- `evidence`. -/
def evidence (targets : List PlanTargetScenario) : List Identifier :=
  let levels := input.candidate.levels
  ([levels.entryZone.lower.evidenceId, levels.entryZone.upper.evidenceId,
    levels.candidateStop.evidenceId] ++ targets.map (fun target => target.price.evidenceId) ++
    input.candidate.components.flatMap fun component => component.evidenceIds.ids).eraseDups

/-- `flags`. -/
def flags : List String :=
  let levels := input.candidate.levels
  (input.candidate.dataQuality.globalReasonCodes.codes.map ErrorCode.value ++
    input.eventAssessment.qualityFlags ++
    ([levels.entryZone.upper, levels.candidateStop].flatMap fun level =>
      level.qualityFlags.flags.map Identifier.text) ++
    reasonIf (input.riskPolicy.existingPortfolioHeatPct = none)
      "PORTFOLIO_HEAT_UNAVAILABLE").eraseDups

/-- `checklist`. -/
def checklist (lateReview : Bool) : List String :=
  ["Independent human review of evidence, conditions, and risk policy"] ++
    reasonIf (lateReview = true) "Confirm sufficient time remains for independent review" ++
    reasonIf (input.riskPolicy.existingPortfolioHeatPct = none)
      "Verify current portfolio heat manually" ++
    (input.gateResults.filter fun gate => gate.status = .warning).map fun gate => gate.message.val

/-- `no_trade_conditions`. -/
def noTradeConditions : List String :=
  (input.eventAssessment.noTradeConditions ++
    ["Do not proceed if the conditional entry trigger or evidence gates fail"]).eraseDups

/-- The sizing of a draft. -/
def pendingSizing : PositionSizing where
  status := .sizingUnavailable
  unavailableReasons := ["CALCULATION_PENDING"]
  calculatedAt := input.generatedAt

/-- `draft`, validated. -/
def draft (cutoff : UtcDatetime) (lateReview : Bool) : Except PlanError TradePlanDraft := do
  let candidate := input.candidate
  let entry := candidate.levels.entryZone.upper.value.value
  let perUnit ← numeric (context.subtract entry candidate.levels.candidateStop.value.value)
  reject (perUnit.atMost Decimal.zero = true) "candidate stop must be below long entry reference"
  let targets ← candidate.levels.targetScenarios.mapM (planTarget entry perUnit)
  let planId ← identifier (input.run.runId.text ++ "-" ++ candidate.candidateId.text)
  let runId ← identifier input.run.runId.text
  let instrumentName ← bounded 1 256 candidate.symbol.text
  let expiresAt ← expiryTime calendar input.generatedAt input.setupPolicy.planLifetimeSessions
  let thesis ← bounded 1 1000
    ("Conditional " ++ candidate.setupType.value ++ " hypothesis: " ++ candidate.entryCondition)
  let counterThesis ← bounded 1 1000
    ("The hypothesis weakens if " ++ candidate.invalidationCondition)
  let entryCondition ← bounded 1 1000 candidate.entryCondition
  let invalidationCondition ← bounded 1 1000 candidate.invalidationCondition
  let riskPerUnit ← greaterThanZero perUnit
  let dataQualityFlags ← input.flags.mapM identifier
  let plan : TradePlanDraft := {
    planId
    runId
    candidateId := candidate.candidateId
    symbol := candidate.symbol
    instrumentName
    watchlistRole := input.watchlistItem.role
    setupType := candidate.setupType
    planStatus := input.draftStatus lateReview
    generatedAt := input.generatedAt
    evidenceCutoffAt := cutoff
    validFrom := input.generatedAt
    expiresAt
    marketRegime := input.regime.regime
    candidateScore := candidate.totalScore
    scoreBreakdown := {
      components := candidate.components
      penalties := candidate.penalties
      positiveScore := candidate.positiveScore
      totalScore := candidate.totalScore }
    thesis
    counterThesis
    catalysts := []
    eventRisks := input.eventAssessment.eventRisks
    entryCondition
    entryZone := candidate.levels.entryZone
    invalidationCondition
    candidateStop := candidate.levels.candidateStop
    targetScenarios := targets
    riskPerUnit
    rewardRiskByTarget := targets.map fun target => target.rMultiple.value
    positionSizing := input.pendingSizing
    noTradeConditions := input.noTradeConditions
    supportingEvidence := input.evidence targets
    counterEvidence :=
      (candidate.penalties.flatMap fun penalty => penalty.evidenceIds.ids).eraseDups
    dataQualityFlags
    reviewChecklist := input.checklist lateReview
    gateResults := input.gateResults
    capabilityStates := input.capabilityStates
    setupPolicyVersion := input.setupPolicy.version
    riskPolicyVersion := input.riskPolicy.version
    regimePolicyVersion := input.regime.policyVersion
    currentPriceFreshnessSeconds := (frozenPriceFreshness input.run).1
    stopFreshnessSeconds := (frozenPriceFreshness input.run).2
    expiryReasons := []
    effectiveExpiryAt := none }
  plan.validate u
  pure plan

/-- The estimated heat is over the limit of the policy. -/
def heatExceeded (risk : RiskPolicy) (sizing : PositionSizing) : Bool :=
  match sizing.estimatedPostPlanHeatPct, risk.maxTotalPortfolioHeatPct with
  | some heat, some limit => limit.value.less heat
  | _, _ => false

/-- The reasons the sizing capability adds. -/
def capabilityReasons (sizing : PositionSizing) (state : CapabilityState) : List String :=
  let reasons := (sizing.unavailableReasons ++ state.reasonCodes.map ErrorCode.value).eraseDups
  if reasons = [] then ["SIZING_UNAVAILABLE"] else reasons

/-- The first override: the sizing capability. -/
def capabilityOverride (state : CapabilityState) (sizing : PositionSizing) : PositionSizing :=
  if state.available = false then sizing.withheld (capabilityReasons sizing state) else sizing

/-- The status and the sizing at the end. -/
def conclude (status : PlanStatus) (state : CapabilityState) (sizing : PositionSizing) :
    PlanStatus × PositionSizing :=
  let status := if state.available = false then .blocked else status
  let sizing := capabilityOverride state sizing
  if sizing.status = .sizingUnavailable then (.blocked, sizing)
  else if heatExceeded input.riskPolicy sizing then
    (.blocked, sizing.withheld ["PORTFOLIO_HEAT_LIMIT_EXCEEDED"])
  else (status, sizing)

/-- `next(state for state in states if ..)`. -/
def sizingCapability : Except PlanError CapabilityState :=
  match input.capabilityStates.find? fun state => state.capability = .positionSizingAvailable with
  | some state => pure state
  | none => throw (.runtimeError "StopIteration")

/-- `build_trade_plan`. -/
def buildTradePlan : Except PlanError TradePlanDraft := do
  let decided ← input.checked calendar u
  let draft ← input.draft calendar u decided.1 decided.2.forceReviewRequired
  let sizing ← calculatePositionSizing draft input.riskPolicy input.regime.regime
    input.currentPrice input.generatedAt
  let state ← input.sizingCapability
  let outcome := input.conclude draft.planStatus state sizing
  pure { draft with planStatus := outcome.1, positionSizing := outcome.2 }

end PlanInput

end FinanceResearch.Plans
