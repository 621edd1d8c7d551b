import FinanceResearch.Domain.Policies
import FinanceResearch.Lib.DecimalContext
import FinanceResearch.Lib.Fallible

/-!
# The regime calculation

`calculate_regime` of `domain/regime.py`: five components from the snapshots of the
policy's symbols, their weighted score, and the result with the hash of its content.

The calculation is parametric in the indicators (`Indicators`): each is a function of the
snapshots it is given, a window and the cutoff, and nothing else is used of them.

Mirroring notes vs the source:
- Sums and signs of weights are made in the ambient context, which is the default one.
- The mapping of snapshots is a list of entries in its iteration order.
- The symbols of `radar_universe` that no component reads are left out of the policy.
-/

namespace FinanceResearch.Regimes

open Calendar (Date UtcDatetime)
open Decimal (Context Signal)

/-- `getcontext()`. -/
def ambientContext : Context := ⟨28, Decimal.precision_positive⟩

/-! ## Snapshots and metrics -/

structure DailyBar where
  sessionDate : Date
  opened : PositiveDecimal
  high : PositiveDecimal
  low : PositiveDecimal
  close : PositiveDecimal
  volume : Option Nat
  prices : PricesConsistent opened high low close

/-- `[A-Z][A-Z0-9.-]*`. -/
def isNormalizedSymbol (text : String) : Bool :=
  text.toList.head?.any Char.isUpper &&
    text.toList.all fun c => c.isUpper || c.isDigit || c == '.' || c == '-'

/-- `[A-Za-z0-9][A-Za-z0-9._:-]*`. -/
def isSnapshotId (text : String) : Bool :=
  text.toList.head?.any Char.isAlphanum &&
    text.toList.all fun c => c.isAlphanum || c == '.' || c == '_' || c == ':' || c == '-'

structure RegimeMarketSnapshot where
  snapshotId : String
  symbol : String
  asOf : UtcDatetime
  completedDailyBars : List DailyBar
  qualityFlags : List String
  inputEvidenceIds : List String
  safeId : isSnapshotId snapshotId = true
  normalized : isNormalizedSymbol symbol = true
  increasing : (completedDailyBars.map DailyBar.sessionDate).IsChain Date.Before
  uniqueEvidence : inputEvidenceIds.Nodup

inductive MetricDirection where
  | up | flat | down | notApplicable
  deriving DecidableEq, Repr

def MetricDirection.value : MetricDirection → String
  | .up => "up"
  | .flat => "flat"
  | .down => "down"
  | .notApplicable => "not_applicable"

inductive MetricUnavailableReason where
  | insufficientHistory | missingInput | misalignedDates
  deriving DecidableEq, Repr

def MetricUnavailableReason.value : MetricUnavailableReason → String
  | .insufficientHistory => "insufficient_history"
  | .missingInput => "missing_input"
  | .misalignedDates => "misaligned_dates"

/-- `status`, `value` and `unavailable_reason` of a metric: it has one of the two. -/
inductive MetricOutcome where
  | available (value : Decimal)
  | unavailable (reason : MetricUnavailableReason)
  deriving DecidableEq

structure MetricResult where
  metricId : String
  name : MetricName
  outcome : MetricOutcome
  unit : MetricUnit
  direction : MetricDirection
  parameters : List (String × String)
  periodStart : Option Date
  periodEnd : Option Date
  formulaVersion : String
  inputSnapshotIds : List String
  calculatedAt : UtcDatetime
  qualityFlags : List String
  inputEvidenceIds : List String
  deriving DecidableEq

/-- `left == right`: values are equal as numbers. -/
def MetricOutcome.same : MetricOutcome → MetricOutcome → Bool
  | .available left, .available right => left.sameNumber right
  | .unavailable left, .unavailable right => left = right
  | _, _ => false

/-- `left == right`. -/
def MetricResult.same (left right : MetricResult) : Bool :=
  left.outcome.same right.outcome && decide ({ left with outcome := right.outcome } = right)

/-- `status is MetricStatus.UNAVAILABLE`. -/
def MetricResult.isUnavailable (metric : MetricResult) : Bool :=
  match metric.outcome with
  | .available _ => false
  | .unavailable _ => true

/-- What the calculation raises. -/
inductive RegimeError where
  | invalidMarketData (message : String)
  | valueError (message : String)
  | indexError
  | arithmetic (signal : Signal)
  deriving DecidableEq, Repr

def numeric {α : Type} (x : Except Signal α) : Except RegimeError α := x.mapError .arithmetic

/-- `_metric_value`. -/
def metricValue (metric : MetricResult) : Except RegimeError Decimal :=
  match metric.outcome with
  | .available value => .ok value
  | .unavailable _ => .error (.valueError "available metric value required")

/-- `snapshot.completed_daily_bars[-1].close`. -/
def latestClose (snapshot : RegimeMarketSnapshot) : Except RegimeError Decimal :=
  match snapshot.completedDailyBars.getLast? with
  | some bar => .ok bar.close.value
  | none => .error .indexError

/-- The functions of `domain/indicators.py` that the calculation calls. -/
structure Indicators where
  sma : RegimeMarketSnapshot → (window : Nat) → UtcDatetime → Except RegimeError MetricResult
  smaSlope : RegimeMarketSnapshot → (window lookback : Nat) → UtcDatetime →
    Except RegimeError MetricResult
  relativeReturn : (asset benchmark : RegimeMarketSnapshot) → (window : Nat) → UtcDatetime →
    Except RegimeError MetricResult
  equalWeightRelativeReturn : (assets benchmarks : List RegimeMarketSnapshot) → (window : Nat) →
    UtcDatetime → Except RegimeError MetricResult
  realizedVolatility : RegimeMarketSnapshot → (window : Nat) → UtcDatetime →
    Except RegimeError MetricResult
  atrPercent : RegimeMarketSnapshot → (window : Nat) → UtcDatetime →
    Except RegimeError MetricResult
  realizedVolatilityPercentile : RegimeMarketSnapshot → (window history : Nat) → UtcDatetime →
    Except RegimeError MetricResult
  atrPercentile : RegimeMarketSnapshot → (window history : Nat) → UtcDatetime →
    Except RegimeError MetricResult

/-! ## Policy -/

inductive RegimeComponent where
  | broadTrend | participation | leadership | volatilityStress | creditCrossAsset
  deriving DecidableEq, Repr

def RegimeComponent.value : RegimeComponent → String
  | .broadTrend => "broad_trend"
  | .participation => "participation"
  | .leadership => "leadership"
  | .volatilityStress => "volatility_stress"
  | .creditCrossAsset => "credit_cross_asset"

def RegimeComponent.all : List RegimeComponent :=
  [.broadTrend, .participation, .leadership, .volatilityStress, .creditCrossAsset]

structure RegimePolicy where
  version : String
  /-- The two `broad_symbols`. -/
  broadBenchmark : String
  broadGrowth : String
  smallCapSymbol : String
  creditAssetSymbol : String
  creditBenchmarkSymbol : String
  sectorSymbols : List String
  cyclicalSymbols : List String
  defensiveSymbols : List String
  shortSmaWindow : Nat
  longSmaWindow : Nat
  slopeLookback : Nat
  relativeReturnWindow : Nat
  atrWindow : Nat
  realizedVolatilityWindow : Nat
  percentileHistory : Nat
  participationPositiveMinimum : Nat
  participationNegativeMaximum : Nat
  participationMinimumValid : Nat
  leadershipVoteThreshold : Nat
  leadershipMinimumValid : Nat
  volatilityPositiveMaximum : Decimal
  volatilityNegativeMinimum : Decimal
  permissiveThreshold : Decimal
  defensiveThreshold : Decimal
  componentWeights : RegimeComponent → PositiveDecimal
  versioned : version ≠ ""
  sectors : sectorSymbols.length = 11 ∧ sectorSymbols.Nodup
  baskets : cyclicalSymbols ≠ [] ∧ defensiveSymbols ≠ [] ∧ cyclicalSymbols.Nodup ∧
    defensiveSymbols.Nodup ∧ cyclicalSymbols ⊆ sectorSymbols ∧ defensiveSymbols ⊆ sectorSymbols ∧
    cyclicalSymbols.Disjoint defensiveSymbols
  normalized : ∀ symbol ∈ [broadBenchmark, broadGrowth, smallCapSymbol, creditAssetSymbol,
    creditBenchmarkSymbol] ++ sectorSymbols, isNormalizedSymbol symbol = true
  primary : [broadBenchmark, broadGrowth, smallCapSymbol, creditAssetSymbol,
    creditBenchmarkSymbol].Nodup
  totalled : ∃ total, ambientContext.sum
    (RegimeComponent.all.map fun c => (componentWeights c).value) = .ok total ∧
      total.sameNumber ⟨false, 100, 0⟩ = true
  windows : ∀ window ∈ [shortSmaWindow, longSmaWindow, slopeLookback, relativeReturnWindow,
    atrWindow, realizedVolatilityWindow, percentileHistory], 0 < window
  participation : participationNegativeMaximum < participationPositiveMinimum ∧
    participationPositiveMinimum ≤ 11 ∧ 1 ≤ participationMinimumValid ∧
      participationMinimumValid ≤ 11
  leadership : 1 ≤ leadershipVoteThreshold ∧ leadershipVoteThreshold ≤ 3 ∧
    1 ≤ leadershipMinimumValid ∧ leadershipMinimumValid ≤ 3
  volatility : Decimal.zero.atMost volatilityPositiveMaximum = true ∧
    volatilityPositiveMaximum.less volatilityNegativeMinimum = true ∧
      volatilityNegativeMinimum.atMost ⟨false, 100, 0⟩ = true
  thresholds : defensiveThreshold.less permissiveThreshold = true

/-- `required_symbols`. -/
def RegimePolicy.requiredSymbols (policy : RegimePolicy) : List String :=
  ([policy.broadBenchmark, policy.broadGrowth, policy.smallCapSymbol, policy.creditAssetSymbol,
    policy.creditBenchmarkSymbol] ++ policy.sectorSymbols ++ policy.cyclicalSymbols ++
      policy.defensiveSymbols).eraseDups.insertionSort fun a b => a ≤ b

/-- A mapping of snapshots, in its iteration order. -/
structure Snapshots where
  items : List (String × RegimeMarketSnapshot)
  unique : (items.map Prod.fst).Nodup

/-- `snapshots.get(symbol)`. -/
def Snapshots.get? (snapshots : Snapshots) (symbol : String) : Option RegimeMarketSnapshot :=
  snapshots.items.lookup symbol

/-! ## Component results -/

inductive RegimeComponentState where
  | positive | mixed | negative | unavailable
  deriving DecidableEq, Repr

def RegimeComponentState.value : RegimeComponentState → String
  | .positive => "positive"
  | .mixed => "mixed"
  | .negative => "negative"
  | .unavailable => "unavailable"

inductive RegimeComponentReason where
  | positiveRuleMatched | negativeRuleMatched | mixedSignals | missingRequiredSnapshot
  | insufficientHistory | insufficientValidSeries
  deriving DecidableEq, Repr

def RegimeComponentReason.value : RegimeComponentReason → String
  | .positiveRuleMatched => "positive_rule_matched"
  | .negativeRuleMatched => "negative_rule_matched"
  | .mixedSignals => "mixed_signals"
  | .missingRequiredSnapshot => "missing_required_snapshot"
  | .insufficientHistory => "insufficient_history"
  | .insufficientValidSeries => "insufficient_valid_series"

/-- `_weighted_score`. -/
def weightedScoreOf (state : RegimeComponentState) (weight : Decimal) :
    Except Signal (Option Decimal) :=
  match state with
  | .unavailable => pure none
  | .positive => pure (some weight)
  | .negative => do
    let negated ← ambientContext.minus weight
    pure (some negated)
  | .mixed => pure (some Decimal.zero)

/-- `_reason_for_state`. -/
def reasonForState : RegimeComponentState → RegimeComponentReason
  | .positive => .positiveRuleMatched
  | .negative => .negativeRuleMatched
  | .mixed => .mixedSignals
  | .unavailable => .mixedSignals

structure RegimeComponentResult where
  component : RegimeComponent
  state : RegimeComponentState
  weight : PositiveDecimal
  weightedScore : Option Decimal
  metricIds : List String
  reasonCode : RegimeComponentReason
  qualityFlags : List String
  scored : weightedScoreOf state weight.value = .ok weightedScore
  sortedIds : metricIds.Pairwise (· ≤ ·)

/-- `sorted(set(flags))`. -/
def sortedSet (texts : List String) : List String :=
  texts.eraseDups.insertionSort fun a b => a ≤ b

/-- `_component_result`. -/
def componentResult (component : RegimeComponent) (state : RegimeComponentState)
    (metrics : List MetricResult) (reason : RegimeComponentReason) (policy : RegimePolicy) :
    Except RegimeError RegimeComponentResult :=
  match h : weightedScoreOf state (policy.componentWeights component).value with
  | .error signal => .error (.arithmetic signal)
  | .ok score => .ok {
      component
      state
      weight := policy.componentWeights component
      weightedScore := score
      metricIds := (metrics.map MetricResult.metricId).insertionSort fun a b => a ≤ b
      reasonCode := reason
      qualityFlags := sortedSet (metrics.flatMap MetricResult.qualityFlags)
      scored := h
      sortedIds := List.pairwise_insertionSort _ _ }

/-- A component with its metrics. -/
abbrev Calculated := RegimeComponentResult × List MetricResult

/-- A component that lacks a snapshot. -/
def missingSnapshot (component : RegimeComponent) (policy : RegimePolicy) :
    Except RegimeError Calculated := do
  let result ← componentResult component .unavailable [] .missingRequiredSnapshot policy
  pure (result, [])

/-- A component whose state follows from its metrics. -/
def ruled (component : RegimeComponent) (state : RegimeComponentState)
    (metrics : List MetricResult) (unavailable : RegimeComponentReason) (policy : RegimePolicy) :
    Except RegimeError Calculated := do
  let reason := if state = .unavailable then unavailable else reasonForState state
  let result ← componentResult component state metrics reason policy
  pure (result, metrics)

section Calculators

variable (indicators : Indicators) (policy : RegimePolicy) (cutoff : UtcDatetime)

/-! ### Broad trend -/

/-- The three metrics of one broad-market snapshot. -/
structure TrendObservation where
  snapshot : RegimeMarketSnapshot
  shortAverage : MetricResult
  longAverage : MetricResult
  slope : MetricResult

def TrendObservation.metrics (o : TrendObservation) : List MetricResult :=
  [o.shortAverage, o.longAverage, o.slope]

def observeTrend (snapshot : RegimeMarketSnapshot) : Except RegimeError TrendObservation := do
  let shortAverage ← indicators.sma snapshot policy.shortSmaWindow cutoff
  let longAverage ← indicators.sma snapshot policy.longSmaWindow cutoff
  let slope ← indicators.smaSlope snapshot policy.shortSmaWindow policy.slopeLookback cutoff
  pure { snapshot, shortAverage, longAverage, slope }

/-- The latest close against the averages, and the sign of the slope. -/
structure TrendSigns where
  aboveShort : Bool
  belowShort : Bool
  aboveLong : Bool
  belowLong : Bool
  rising : Bool
  falling : Bool

def trendSigns (o : TrendObservation) : Except RegimeError TrendSigns := do
  let close ← latestClose o.snapshot
  let short ← metricValue o.shortAverage
  let long ← metricValue o.longAverage
  let slope ← metricValue o.slope
  pure {
    aboveShort := short.less close
    belowShort := close.less short
    aboveLong := long.less close
    belowLong := close.less long
    rising := Decimal.zero.less slope
    falling := slope.less Decimal.zero }

/-- `positive`, `negative` or neither. -/
def trendState (signs : List TrendSigns) : RegimeComponentState :=
  if signs.all fun s => s.aboveShort && s.aboveLong && s.rising then .positive
  else if (signs.all fun s => s.belowShort && s.falling) && signs.any TrendSigns.belowLong then
    .negative
  else .mixed

/-- The state of the observations, of which some may be unavailable. -/
def observedTrendState (observations : List TrendObservation) :
    Except RegimeError RegimeComponentState :=
  if (observations.flatMap TrendObservation.metrics).any MetricResult.isUnavailable then
    pure .unavailable
  else do
    let signs ← observations.mapM trendSigns
    pure (trendState signs)

/-- `_broad_trend`. -/
def broadTrend (snapshots : Snapshots) : Except RegimeError Calculated :=
  match [policy.broadBenchmark, policy.broadGrowth].mapM snapshots.get? with
  | none => missingSnapshot .broadTrend policy
  | some broad => do
    let observations ← broad.mapM (observeTrend indicators policy cutoff)
    let state ← observedTrendState observations
    ruled .broadTrend state (observations.flatMap TrendObservation.metrics) .insufficientHistory
      policy

/-! ### Participation -/

/-- The counts of `_participation`. -/
structure ParticipationCounts where
  metrics : List MetricResult
  validSeries : Nat
  aboveSma : Nat
  aboveRisingSma : Nat

/-- The body of the loop over the sectors. -/
def countSector (snapshots : Snapshots) (counts : ParticipationCounts) (symbol : String) :
    Except RegimeError ParticipationCounts :=
  match snapshots.get? symbol with
  | none => pure counts
  | some snapshot => do
    let average ← indicators.sma snapshot policy.shortSmaWindow cutoff
    let slope ← indicators.smaSlope snapshot policy.shortSmaWindow policy.slopeLookback cutoff
    let metrics := counts.metrics ++ [average, slope]
    if average.isUnavailable || slope.isUnavailable then pure { counts with metrics }
    else do
      let close ← latestClose snapshot
      let value ← metricValue average
      let rise ← metricValue slope
      let above := value.less close
      pure {
        metrics
        validSeries := counts.validSeries + 1
        aboveSma := counts.aboveSma + above.toNat
        aboveRisingSma := counts.aboveRisingSma + (above && Decimal.zero.less rise).toNat }

/-- `_participation_state`. -/
def participationState (counts : ParticipationCounts) : RegimeComponentState :=
  if counts.validSeries < policy.participationMinimumValid then .unavailable
  else if policy.participationPositiveMinimum ≤ counts.aboveRisingSma then .positive
  else if counts.aboveSma ≤ policy.participationNegativeMaximum then .negative
  else .mixed

/-- `_participation`. -/
def participation (snapshots : Snapshots) : Except RegimeError Calculated := do
  let counts ← policy.sectorSymbols.foldlM (countSector indicators policy cutoff snapshots)
    ⟨[], 0, 0, 0⟩
  ruled .participation (participationState policy counts) counts.metrics .insufficientValidSeries
    policy

/-! ### Leadership -/

/-- The value of a metric, if it is available. -/
def observed (metric : MetricResult) : Option Decimal :=
  match metric.outcome with
  | .available value => some value
  | .unavailable _ => none

/-- The metric of one asset against the benchmark, if both snapshots are there. -/
def assetReturn (snapshots : Snapshots) (symbol : String) :
    Except RegimeError (Option MetricResult) :=
  match snapshots.get? symbol, snapshots.get? policy.broadBenchmark with
  | some asset, some benchmark => do
    let metric ← indicators.relativeReturn asset benchmark policy.relativeReturnWindow cutoff
    pure (some metric)
  | _, _ => pure none

/-- The metric of the cyclical basket against the defensive one, if all are there. -/
def basketReturn (snapshots : Snapshots) : Except RegimeError (Option MetricResult) :=
  let cyclical := policy.cyclicalSymbols.filterMap snapshots.get?
  let defensive := policy.defensiveSymbols.filterMap snapshots.get?
  if cyclical.length = policy.cyclicalSymbols.length ∧
      defensive.length = policy.defensiveSymbols.length then do
    let metric ← indicators.equalWeightRelativeReturn cyclical defensive
      policy.relativeReturnWindow cutoff
    pure (some metric)
  else pure none

/-- `_leadership_state`, of the available observations. -/
def leadershipState (available : List Decimal) : RegimeComponentState :=
  if available.length < policy.leadershipMinimumValid then .unavailable
  else if policy.leadershipVoteThreshold ≤ (available.filter (Decimal.zero.less ·)).length then
    .positive
  else if policy.leadershipVoteThreshold ≤ (available.filter (·.less Decimal.zero)).length then
    .negative
  else .mixed

/-- `_leadership`. -/
def leadership (snapshots : Snapshots) : Except RegimeError Calculated := do
  let returns ← [policy.broadGrowth, policy.smallCapSymbol].mapM
    (assetReturn indicators policy cutoff snapshots)
  let basket ← basketReturn indicators policy cutoff snapshots
  let metrics := (returns ++ [basket]).filterMap id
  ruled .leadership (leadershipState policy (metrics.filterMap observed)) metrics
    .insufficientValidSeries policy

/-! ### Volatility -/

/-- `_volatility_state`. -/
def volatilityState (realizedPercentile atrPercentile : Decimal) : RegimeComponentState :=
  if realizedPercentile.atMost policy.volatilityPositiveMaximum &&
      atrPercentile.atMost policy.volatilityPositiveMaximum then .positive
  else if policy.volatilityNegativeMinimum.atMost realizedPercentile ||
      policy.volatilityNegativeMinimum.atMost atrPercentile then .negative
  else .mixed

/-- The state of the four volatility metrics, of which the last two are percentiles. -/
def observedVolatilityState (metrics : List MetricResult) (realized atr : MetricResult) :
    Except RegimeError RegimeComponentState :=
  if metrics.any MetricResult.isUnavailable then pure .unavailable
  else do
    let realizedPercentile ← metricValue realized
    let atrPercentile ← metricValue atr
    pure (volatilityState policy realizedPercentile atrPercentile)

/-- `_volatility_stress`. -/
def volatilityStress (snapshots : Snapshots) : Except RegimeError Calculated :=
  match snapshots.get? policy.broadBenchmark with
  | none => missingSnapshot .volatilityStress policy
  | some snapshot => do
    let volatility ← indicators.realizedVolatility snapshot policy.realizedVolatilityWindow cutoff
    let range ← indicators.atrPercent snapshot policy.atrWindow cutoff
    let realized ← indicators.realizedVolatilityPercentile snapshot
      policy.realizedVolatilityWindow policy.percentileHistory cutoff
    let atr ← indicators.atrPercentile snapshot policy.atrWindow policy.percentileHistory cutoff
    let metrics := [volatility, range, realized, atr]
    let state ← observedVolatilityState policy metrics realized atr
    ruled .volatilityStress state metrics .insufficientHistory policy

/-! ### Credit -/

/-- The state of the three credit metrics. -/
def observedCreditState (asset : RegimeMarketSnapshot) (relative average slope : MetricResult) :
    Except RegimeError RegimeComponentState :=
  if [relative, average, slope].any MetricResult.isUnavailable then pure .unavailable
  else do
    let relativeValue ← metricValue relative
    let averageValue ← metricValue average
    let slopeValue ← metricValue slope
    let close ← latestClose asset
    pure (if Decimal.zero.less relativeValue && averageValue.less close &&
        Decimal.zero.less slopeValue then .positive
      else if relativeValue.less Decimal.zero && close.less averageValue &&
        slopeValue.less Decimal.zero then .negative
      else .mixed)

/-- `_credit_cross_asset`. -/
def creditCrossAsset (snapshots : Snapshots) : Except RegimeError Calculated :=
  match snapshots.get? policy.creditAssetSymbol, snapshots.get? policy.creditBenchmarkSymbol with
  | some asset, some benchmark => do
    let relative ← indicators.relativeReturn asset benchmark policy.relativeReturnWindow cutoff
    let average ← indicators.sma asset policy.shortSmaWindow cutoff
    let slope ← indicators.smaSlope asset policy.shortSmaWindow policy.slopeLookback cutoff
    let state ← observedCreditState asset relative average slope
    ruled .creditCrossAsset state [relative, average, slope] .insufficientHistory policy
  | _, _ => missingSnapshot .creditCrossAsset policy

end Calculators

/-! ## The result -/

/-- The body of the loop of `_validate_inputs`, with the IDs of the required snapshots
seen so far. -/
def validateEntry (required : List String) (cutoff : UtcDatetime) (seen : List String)
    (entry : String × RegimeMarketSnapshot) : Except RegimeError (List String) :=
  if entry.1 ≠ entry.1.toUpper ∨ entry.1 ≠ entry.2.symbol then
    throw (.invalidMarketData "snapshot mapping keys must be uppercase contained symbols")
  else if cutoff < entry.2.asOf then
    throw (.invalidMarketData "snapshot as_of cannot be later than cutoff_at")
  else if entry.1 ∈ required then
    if entry.2.snapshotId ∈ seen then
      throw (.invalidMarketData "required snapshots must have unique snapshot IDs")
    else pure (entry.2.snapshotId :: seen)
  else pure seen

/-- `_validate_inputs`. -/
def validateInputs (snapshots : Snapshots) (policy : RegimePolicy) (cutoff : UtcDatetime) :
    Except RegimeError Unit := do
  let _ ← snapshots.items.foldlM (validateEntry policy.requiredSymbols cutoff) []
  pure ()

/-- The body of the loop of `_deduplicate_metrics`. -/
def addMetric (byId : List MetricResult) (metric : MetricResult) :
    Except RegimeError (List MetricResult) :=
  match byId.find? fun existing => existing.metricId = metric.metricId with
  | none => pure (byId ++ [metric])
  | some existing =>
    if existing.same metric then
      pure (byId.map fun old => if old.metricId = metric.metricId then metric else old)
    else throw (.valueError "metric ID collision between unequal results")

/-- `_deduplicate_metrics`. -/
def deduplicateMetrics (metrics : List MetricResult) : Except RegimeError (List MetricResult) := do
  let byId ← metrics.foldlM addMetric []
  pure (byId.insertionSort fun a b => a.metricId ≤ b.metricId)

/-- `classify_score`. -/
def classifyScore (score : Decimal) (criticalStress : Bool) (policy : RegimePolicy) : Regime :=
  if criticalStress || score.atMost policy.defensiveThreshold then .defensive
  else if policy.permissiveThreshold.atMost score then .permissive
  else .neutral

structure RegimeResult where
  resultId : String
  regime : Regime
  score : Option Decimal
  components : List RegimeComponentResult
  metrics : List MetricResult
  criticalStress : Bool
  criticalStressReasons : List String
  policyVersion : String
  calculatedAt : UtcDatetime
  inputSnapshotIds : List String
  qualityFlags : List String
  unavailableReasons : List String

/-- A text, or `null`. -/
def optionText (text : Option String) : Json := (text.map Json.str).getD .null

def texts (items : List String) : Json := .arr (items.map Json.str)

/-- A component in the payload of `_result_id`. -/
def RegimeComponentResult.payload (c : RegimeComponentResult) : Json :=
  .obj [("component", .str c.component.value), ("metric_ids", texts c.metricIds),
    ("quality_flags", texts c.qualityFlags), ("reason", .str c.reasonCode.value),
    ("state", .str c.state.value), ("weight", .str c.weight.value.text),
    ("weighted_score", optionText (c.weightedScore.map Decimal.text))]

/-- A metric in the payload of `_result_id`. -/
def MetricResult.payload (m : MetricResult) : Json :=
  let outcome : List (String × Json) :=
    match m.outcome with
    | .available value =>
      [("status", .str "available"), ("unavailable_reason", .null), ("value", .str value.text)]
    | .unavailable reason =>
      [("status", .str "unavailable"), ("unavailable_reason", .str reason.value), ("value", .null)]
  .obj ([("metric_id", .str m.metricId), ("name", .str m.name.value), ("unit", .str m.unit.value),
    ("direction", .str m.direction.value),
    ("parameters", .arr (m.parameters.map fun p => .arr [.str p.1, .str p.2])),
    ("period_start", optionText (m.periodStart.map Date.isoformat)),
    ("period_end", optionText (m.periodEnd.map Date.isoformat)),
    ("formula_version", .str m.formulaVersion), ("input_snapshot_ids", texts m.inputSnapshotIds),
    ("calculated_at", .str (Calendar.isoformat m.calculatedAt)),
    ("quality_flags", texts m.qualityFlags)] ++ outcome)

/-- The payload of `_result_id`. -/
def RegimeResult.payload (r : RegimeResult) : Json :=
  .obj [("calculated_at", .str (Calendar.isoformat r.calculatedAt)),
    ("components", .arr (r.components.map RegimeComponentResult.payload)),
    ("critical_stress", .bool r.criticalStress),
    ("critical_stress_reasons", texts r.criticalStressReasons),
    ("formula_version", .str "regime-v1"), ("input_snapshot_ids", texts r.inputSnapshotIds),
    ("metrics", .arr (r.metrics.map MetricResult.payload)),
    ("policy_version", .str r.policyVersion), ("quality_flags", texts r.qualityFlags),
    ("regime", .str r.regime.value), ("score", optionText (r.score.map Decimal.text)),
    ("unavailable_reasons", texts r.unavailableReasons)]

/-- `_result_id`: the hash of everything but itself. -/
def RegimeResult.identify (r : RegimeResult) : RegimeResult :=
  { r with
    resultId := "regime-" ++
      String.ofList ((sha256 (encode r.payload.dumps)).toList.take 24) }

/-- The unavailable components. -/
def unavailable (components : List RegimeComponentResult) : List RegimeComponentResult :=
  components.filter fun c => c.state = .unavailable

/-- Too little is available for a score. -/
def requiresUnknown (components : List RegimeComponentResult) : Bool :=
  (components.head?.any fun c => c.state = .unavailable) ||
    decide (2 ≤ (unavailable components.tail).length)

/-- The sum of the available weighted scores. -/
def totalScore (components : List RegimeComponentResult) : Except Signal Decimal :=
  ambientContext.sum (components.filterMap RegimeComponentResult.weightedScore)

/-- `score` and `regime`. -/
def classify (components : List RegimeComponentResult) (policy : RegimePolicy) :
    Except RegimeError (Option Decimal × Regime) :=
  if requiresUnknown components then pure (none, .unknown)
  else do
    let score ← numeric (totalScore components)
    pure (some score, classifyScore score false policy)

/-- `RegimeResult.__post_init__`, for the result's own fields. -/
def RegimeResult.check (r : RegimeResult) : Except RegimeError Unit := do
  if r.resultId = "" then throw (.valueError "result_id must not be empty")
  if r.regime = .unknown ∧ r.score.isSome = true then
    throw (.valueError "UNKNOWN regime must not expose a numeric score")
  if r.regime ≠ .unknown ∧ r.score = none then
    throw (.valueError "known regimes require a numeric score")
  if r.components.map RegimeComponentResult.component ≠ RegimeComponent.all then
    throw (.valueError "regime components must use canonical order")
  if requiresUnknown r.components = true ∧ r.regime ≠ .unknown then
    throw (.valueError ("component availability requires UNKNOWN when broad trend is unavailable " ++
      "or at least two other components are unavailable"))
  if r.regime ≠ .unknown then
    let expected ← numeric (totalScore r.components)
    if ¬ r.score.any (fun score => score.sameNumber expected) = true then
      throw (.valueError "regime score must equal the sum of available component weighted scores")
  if ¬ (r.metrics.map MetricResult.metricId).Pairwise (· ≤ ·) then
    throw (.valueError "regime metrics must be sorted by metric ID")
  if ¬ r.inputSnapshotIds.Pairwise (· ≤ ·) then
    throw (.valueError "regime input snapshot IDs must be sorted")
  if r.criticalStress ≠ !r.criticalStressReasons.isEmpty then
    throw (.valueError "critical stress and reasons must be set together")
  if r.criticalStress = true ∧ r.regime ≠ .defensive ∧ r.regime ≠ .unknown then
    throw (.valueError "critical stress requires DEFENSIVE or UNKNOWN regime")

/-- The entries of the required symbols, in the order of the mapping. -/
def Snapshots.required (snapshots : Snapshots) (policy : RegimePolicy) :
    List RegimeMarketSnapshot :=
  (snapshots.items.filter fun entry => entry.1 ∈ policy.requiredSymbols).map Prod.snd

/-- `input_snapshot_ids`. -/
def inputSnapshotIds (snapshots : List RegimeMarketSnapshot) : List String :=
  (snapshots.map RegimeMarketSnapshot.snapshotId).insertionSort fun a b => a ≤ b

/-- `quality_flags`. -/
def inputQualityFlags (snapshots : List RegimeMarketSnapshot) : List String :=
  sortedSet (snapshots.flatMap RegimeMarketSnapshot.qualityFlags)

/-- `unavailable_reasons`. -/
def unavailableReasons (components : List RegimeComponentResult) : List String :=
  ((unavailable components).map fun c => c.component.value ++ ":" ++ c.reasonCode.value)
    |>.insertionSort fun a b => a ≤ b

/-- The five components with their metrics. -/
def calculateComponents (indicators : Indicators) (policy : RegimePolicy) (cutoff : UtcDatetime)
    (snapshots : Snapshots) : Except RegimeError (List Calculated) := do
  let trend ← broadTrend indicators policy cutoff snapshots
  let breadth ← participation indicators policy cutoff snapshots
  let leaders ← leadership indicators policy cutoff snapshots
  let stress ← volatilityStress indicators policy cutoff snapshots
  let credit ← creditCrossAsset indicators policy cutoff snapshots
  pure [trend, breadth, leaders, stress, credit]

/-- The result of the components and of the snapshots of the required symbols. -/
def assemble (calculated : List Calculated) (required : List RegimeMarketSnapshot)
    (policy : RegimePolicy) (cutoff : UtcDatetime) : Except RegimeError RegimeResult := do
  let components := calculated.map Prod.fst
  let metrics ← deduplicateMetrics (calculated.flatMap Prod.snd)
  let (score, regime) ← classify components policy
  let result : RegimeResult := {
    resultId := ""
    regime
    score
    components
    metrics
    criticalStress := false
    criticalStressReasons := []
    policyVersion := policy.version
    calculatedAt := cutoff
    inputSnapshotIds := inputSnapshotIds required
    qualityFlags := inputQualityFlags required
    unavailableReasons := unavailableReasons components }
  result.identify.check
  pure result.identify

/-- `calculate_regime`. -/
def calculateRegime (indicators : Indicators) (snapshots : Snapshots) (policy : RegimePolicy)
    (cutoff : UtcDatetime) : Except RegimeError RegimeResult := do
  validateInputs snapshots policy cutoff
  let calculated ← calculateComponents indicators policy cutoff snapshots
  assemble calculated (snapshots.required policy) policy cutoff

end FinanceResearch.Regimes
