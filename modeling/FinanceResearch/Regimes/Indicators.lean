import FinanceResearch.Lib.DecimalRoots
import FinanceResearch.Regimes.Calculation

/-!
# Indicators

`domain/indicators.py`: the metrics that the regime is calculated from, and the checks a
`MetricResult` makes of them.

Mirroring notes vs the source:
- An indicator is what it reads off its snapshots (`reading`), recorded the same way for all
  (`measured`); `_unavailable` is the recording of a reading without a value.
- `localcontext()` with its precision set to 28 is the ambient context, which has it.
- The texts that a metric holds are checked by its fields; that its parameters and snapshot
  ids are sorted needs no check after `sorted`, and its decimals are finite.
- A negative window is not represented; a window of zero is refused as the source does.
- `str(window)` has more than the 256 characters of a parameter long before it fails.
-/

namespace FinanceResearch.Regimes

open Calendar (Date UtcDatetime)
open Decimal (Context Signal)

/-- `items[-count:]`, of a positive count. -/
def lastOf {α : Type} (count : Nat) (items : List α) : List α := items.drop (items.length - count)

/-- `Decimal(n)`. -/
def decimalOf (n : Nat) : Decimal := ⟨false, n, 0⟩

/-! ## Metrics -/

/-- `_direction`. -/
def directionOf (value : Decimal) : MetricDirection :=
  if Decimal.zero.less value then .up else if value.less Decimal.zero then .down else .flat

/-- The payload of `_metric_id`. -/
def metricPayload (name : MetricName) (parameters : List (String × String))
    (periodStart periodEnd : Option Date) (inputSnapshotIds : List String) : Json :=
  .obj [("formula_version", .str "indicators-v1"), ("input_snapshot_ids", texts inputSnapshotIds),
    ("name", .str name.value),
    ("parameters", .arr (parameters.map fun p => .arr [.str p.1, .str p.2])),
    ("period_end", optionText (periodEnd.map Date.isoformat)),
    ("period_start", optionText (periodStart.map Date.isoformat))]

/-- `_metric_id`. -/
def metricIdOf (name : MetricName) (parameters : List (String × String))
    (periodStart periodEnd : Option Date) (inputSnapshotIds : List String) : String :=
  "metric-" ++ String.ofList ((sha256 (encode
    (metricPayload name parameters periodStart periodEnd inputSnapshotIds).dumps)).toList.take 24)

/-- At most `bound` distinct identifiers. -/
def DistinctIds (bound : Nat) (ids : List String) : Prop :=
  ids.length ≤ bound ∧ ids.Nodup ∧ ∀ id ∈ ids, Identifier.IsLegal id

instance (bound : Nat) (ids : List String) : Decidable (DistinctIds bound ids) :=
  inferInstanceAs (Decidable (_ ∧ _ ∧ _))

/-- What `MetricResult` checks of its fields and in `__post_init__`. -/
def MetricResult.Legal (m : MetricResult) : Prop :=
  m.metricId ≠ "" ∧
  (m.parameters.length ≤ 64 ∧ ∀ p ∈ m.parameters,
    Identifier.IsLegal p.1 ∧ 1 ≤ p.2.length ∧ p.2.length ≤ 256) ∧
  DistinctIds 256 m.inputSnapshotIds ∧ DistinctIds 256 m.inputEvidenceIds ∧
  DistinctIds 64 m.qualityFlags ∧
  ∀ start ∈ m.periodStart, ∀ finish ∈ m.periodEnd, ¬ finish.Before start

instance (m : MetricResult) : Decidable m.Legal :=
  inferInstanceAs (Decidable (_ ∧ _ ∧ _ ∧ _ ∧ _ ∧ _))

/-- `MetricResult(..)`. -/
def MetricResult.validated (m : MetricResult) : Except RegimeError MetricResult :=
  if m.Legal then .ok m else .error (.valueError "metric result")

/-- The order of pairs of texts. -/
def pairAtMost (a b : String × String) : Prop := a.1 < b.1 ∨ (a.1 = b.1 ∧ a.2 ≤ b.2)

instance (a b : String × String) : Decidable (pairAtMost a b) := inferInstanceAs (Decidable (_ ∨ _))

/-- `_input_evidence_ids`. -/
def evidenceIdsOf (snapshots : List RegimeMarketSnapshot) : List String :=
  snapshots.flatMap RegimeMarketSnapshot.inputEvidenceIds

/-- What an indicator finds. -/
structure Reading where
  outcome : MetricOutcome
  direction : MetricDirection
  periodStart : Option Date
  periodEnd : Option Date

/-- The reading of `_unavailable`. -/
def unavailableReading (reason : MetricUnavailableReason) : Reading :=
  ⟨.unavailable reason, .notApplicable, none, none⟩

/-- `sorted_parameters`. -/
def sortedParameters (parameters : List (String × String)) : List (String × String) :=
  parameters.insertionSort pairAtMost

/-- `sorted_snapshot_ids`. -/
def sortedIds (snapshots : List RegimeMarketSnapshot) : List String :=
  (snapshots.map RegimeMarketSnapshot.snapshotId).insertionSort fun a b => a ≤ b

/-- The record of `_result`, of the snapshots a metric was computed from. -/
def metricOf (name : MetricName) (unit : MetricUnit) (parameters : List (String × String))
    (snapshots : List RegimeMarketSnapshot) (cutoffAt : UtcDatetime) (reading : Reading) :
    MetricResult where
  metricId := metricIdOf name (sortedParameters parameters) reading.periodStart reading.periodEnd
    (sortedIds snapshots)
  name := name
  outcome := reading.outcome
  unit := unit
  direction := reading.direction
  parameters := sortedParameters parameters
  periodStart := reading.periodStart
  periodEnd := reading.periodEnd
  formulaVersion := "indicators-v1"
  inputSnapshotIds := sortedIds snapshots
  calculatedAt := cutoffAt
  qualityFlags := sortedSet (snapshots.flatMap RegimeMarketSnapshot.qualityFlags)
  inputEvidenceIds := evidenceIdsOf snapshots

/-- `_result`. -/
def metricResult (name : MetricName) (unit : MetricUnit) (parameters : List (String × String))
    (snapshots : List RegimeMarketSnapshot) (cutoffAt : UtcDatetime) (reading : Reading) :
    Except RegimeError MetricResult :=
  (metricOf name unit parameters snapshots cutoffAt reading).validated

/-- `_require_positive_window`. -/
def requirePositiveWindow (window : Nat) : Except RegimeError Unit :=
  Fallible.require (0 < window) (.valueError "indicator windows must be positive integers")

/-- `_require_snapshots_at_or_before_cutoff`. -/
def requireAtOrBeforeCutoff (snapshots : List RegimeMarketSnapshot) (cutoffAt : UtcDatetime) :
    Except RegimeError Unit :=
  Fallible.require (∀ snapshot ∈ snapshots, snapshot.asOf ≤ cutoffAt)
    (.invalidMarketData "snapshot as_of cannot be later than cutoff_at")

/-! ## Averages -/

/-- The closes of the bars. -/
def closes (bars : List DailyBar) : List Decimal := bars.map fun bar => bar.close.value

/-- `sum(values, Decimal(0)) / Decimal(window)`. -/
def average (values : List Decimal) (window : Nat) : Except Signal Decimal := do
  let total ← ambientContext.sum values
  ambientContext.divide total (decimalOf window)

/-- The first and the last session of the bars. -/
def firstSession (bars : List DailyBar) : Option Date := bars.head?.map DailyBar.sessionDate

def lastSession (bars : List DailyBar) : Option Date := bars.getLast?.map DailyBar.sessionDate

def smaReading (snapshot : RegimeMarketSnapshot) (window : Nat) : Except RegimeError Reading :=
  let bars := lastOf window snapshot.completedDailyBars
  if snapshot.completedDailyBars.length < window then
    pure (unavailableReading .insufficientHistory)
  else do
    let value ← numeric (average (closes bars) window)
    pure ⟨.available value, .notApplicable, firstSession bars, lastSession bars⟩

/-- The value of `sma_slope`, of `window + lookback` bars. -/
def slopeValue (bars : List DailyBar) (window : Nat) : Except Signal Decimal := do
  let previous ← average (closes (bars.take window)) window
  let current ← average (closes (lastOf window bars)) window
  ambientContext.subtract current previous

def smaSlopeReading (snapshot : RegimeMarketSnapshot) (window lookback : Nat) :
    Except RegimeError Reading :=
  let bars := lastOf (window + lookback) snapshot.completedDailyBars
  if snapshot.completedDailyBars.length < window + lookback then
    pure (unavailableReading .insufficientHistory)
  else do
    let value ← numeric (slopeValue bars window)
    pure ⟨.available value, directionOf value, firstSession bars, lastSession bars⟩

/-! ## Returns -/

/-- `last / first - Decimal(1)`. -/
def returnOf (last first : Decimal) : Except Signal Decimal := do
  let ratio ← ambientContext.divide last first
  ambientContext.subtract ratio Decimal.one

/-- `bars[-1].close / bars[0].close - Decimal(1)`. -/
def simpleReturn (bars : List DailyBar) : Except RegimeError Decimal :=
  match bars.head?, bars.getLast? with
  | some first, some last => numeric (returnOf last.close.value first.close.value)
  | _, _ => throw .indexError

/-- The sessions of the bars. -/
def sessionsOf (bars : List DailyBar) : List Date := bars.map DailyBar.sessionDate

def relativeReturnReading (asset benchmark : RegimeMarketSnapshot) (window : Nat) :
    Except RegimeError Reading :=
  let assetBars := lastOf (window + 1) asset.completedDailyBars
  let benchmarkBars := lastOf (window + 1) benchmark.completedDailyBars
  if ∃ snapshot ∈ [asset, benchmark], snapshot.completedDailyBars.length < window + 1 then
    pure (unavailableReading .insufficientHistory)
  else if sessionsOf assetBars ≠ sessionsOf benchmarkBars then
    pure (unavailableReading .misalignedDates)
  else do
    let assetReturn ← simpleReturn assetBars
    let benchmarkReturn ← simpleReturn benchmarkBars
    let value ← numeric (ambientContext.subtract assetReturn benchmarkReturn)
    pure ⟨.available value, directionOf value, firstSession assetBars, lastSession assetBars⟩

/-- `basket_return`. -/
def basketValue (items : List RegimeMarketSnapshot) (window : Nat) : Except RegimeError Decimal := do
  let returns ← items.mapM fun snapshot =>
    simpleReturn (lastOf (window + 1) snapshot.completedDailyBars)
  numeric (average returns returns.length)

def equalWeightReading (assets benchmarks : List RegimeMarketSnapshot) (window : Nat) :
    Except RegimeError Reading :=
  let dates := ((assets ++ benchmarks).map fun snapshot =>
    sessionsOf (lastOf (window + 1) snapshot.completedDailyBars)).headD []
  if assets = [] ∨ benchmarks = [] then pure (unavailableReading .missingInput)
  else if ∃ snapshot ∈ assets ++ benchmarks, snapshot.completedDailyBars.length < window + 1 then
    pure (unavailableReading .insufficientHistory)
  else if ∃ snapshot ∈ (assets ++ benchmarks).tail,
      sessionsOf (lastOf (window + 1) snapshot.completedDailyBars) ≠ dates then
    pure (unavailableReading .misalignedDates)
  else do
    let assetReturn ← basketValue assets window
    let benchmarkReturn ← basketValue benchmarks window
    let value ← numeric (ambientContext.subtract assetReturn benchmarkReturn)
    pure ⟨.available value, directionOf value, dates.head?, dates.getLast?⟩

/-! ## Ranges -/

/-- The true range of a bar after the previous one. -/
def trueRange (previous current : DailyBar) : Except Signal Decimal := do
  let span ← ambientContext.subtract current.high.value current.low.value
  let up ← ambientContext.subtract current.high.value previous.close.value
  let rise ← ambientContext.absolute up
  let down ← ambientContext.subtract current.low.value previous.close.value
  let fall ← ambientContext.absolute down
  pure (Decimal.greatest [span, rise, fall])

/-- `_atr_percent_value`. -/
def atrPercentValue (bars : List DailyBar) (window : Nat) : Except RegimeError Decimal := do
  let ranges ← numeric ((bars.zip bars.tail).mapM fun pair => trueRange pair.1 pair.2)
  let averageTrueRange ← numeric (average (lastOf window ranges) window)
  match bars.getLast? with
  | some last => numeric (ambientContext.divide averageTrueRange last.close.value)
  | none => throw .indexError

def atrPercentReading (snapshot : RegimeMarketSnapshot) (window : Nat) : Except RegimeError Reading :=
  let bars := lastOf (window + 1) snapshot.completedDailyBars
  if snapshot.completedDailyBars.length < window + 1 then
    pure (unavailableReading .insufficientHistory)
  else do
    let value ← atrPercentValue bars window
    pure ⟨.available value, .notApplicable, firstSession bars.tail, lastSession bars⟩

/-! ## Volatility -/

/-- `Decimal(252)`. -/
def tradingDays : Decimal := decimalOf 252

/-- The square of a distance from the mean. -/
def squaredDistance (mean value : Decimal) : Except Signal Decimal := do
  let distance ← ambientContext.subtract value mean
  ambientContext.square distance

/-- `_realized_volatility_value`. -/
def realizedVolatilityValue (bars : List DailyBar) (window : Nat) : Except Signal Decimal := do
  let all ← (bars.zip bars.tail).mapM fun pair => returnOf pair.2.close.value pair.1.close.value
  let returns := lastOf window all
  let mean ← average returns window
  let squares ← returns.mapM (squaredDistance mean)
  let variance ← average squares window
  let deviation ← ambientContext.squareRoot variance
  let year ← ambientContext.squareRoot tradingDays
  ambientContext.multiply deviation year

def realizedVolatilityReading (snapshot : RegimeMarketSnapshot) (window : Nat) :
    Except RegimeError Reading :=
  let bars := lastOf (window + 1) snapshot.completedDailyBars
  if snapshot.completedDailyBars.length < window + 1 then
    pure (unavailableReading .insufficientHistory)
  else do
    let value ← numeric (realizedVolatilityValue bars window)
    pure ⟨.available value, .notApplicable, firstSession bars, lastSession bars⟩

/-! ## Percentiles -/

/-- `percentile_rank`, of a current value and the preceding ones. -/
def percentileRank (current : Decimal) (history : List Decimal) : Except RegimeError Decimal := do
  Fallible.require (history ≠ []) (.valueError "percentile history must not be empty")
  numeric (do
    let less := (history.filter fun value => value.less current).length
    let equal := (history.filter fun value => value.sameNumber current).length
    let half ← ambientContext.multiply ⟨false, 5, -1⟩ (decimalOf equal)
    let rank ← ambientContext.add (decimalOf less) half
    let hundredfold ← ambientContext.multiply (decimalOf 100) rank
    ambientContext.divide hundredfold (decimalOf history.length))

/-- The values of a formula over the windows of the bars, the last against the ones before it. -/
def rollingRank (value : List DailyBar → Except RegimeError Decimal) (bars : List DailyBar)
    (window history : Nat) : Except RegimeError Decimal := do
  let rolling ← (List.range (history + 1)).mapM fun offset =>
    value ((bars.drop offset).take (window + 1))
  match rolling.getLast? with
  | some current => percentileRank current rolling.dropLast
  | none => throw .indexError

/-- `atr_percentile` and `realized_volatility_percentile`, of the formula that is ranked. -/
def percentileReading (value : List DailyBar → Except RegimeError Decimal)
    (snapshot : RegimeMarketSnapshot) (window history : Nat) : Except RegimeError Reading :=
  let bars := lastOf (window + history + 1) snapshot.completedDailyBars
  if snapshot.completedDailyBars.length < window + history + 1 then
    pure (unavailableReading .insufficientHistory)
  else do
    let rank ← rollingRank value bars window history
    pure ⟨.available rank, .notApplicable, firstSession bars, lastSession bars⟩

/-! ## The indicators -/

/-- An indicator with its arguments. -/
inductive Formula where
  | sma (snapshot : RegimeMarketSnapshot) (window : Nat)
  | smaSlope (snapshot : RegimeMarketSnapshot) (window lookback : Nat)
  | relativeReturn (asset benchmark : RegimeMarketSnapshot) (window : Nat)
  | equalWeight (assets benchmarks : List RegimeMarketSnapshot) (window : Nat)
  | atrPercent (snapshot : RegimeMarketSnapshot) (window : Nat)
  | realizedVolatility (snapshot : RegimeMarketSnapshot) (window : Nat)
  | atrPercentile (snapshot : RegimeMarketSnapshot) (window history : Nat)
  | realizedVolatilityPercentile (snapshot : RegimeMarketSnapshot) (window history : Nat)

namespace Formula

/-- `name`. -/
def name : Formula → MetricName
  | sma .. => .sma
  | smaSlope .. => .smaSlope
  | relativeReturn .. => .relativeReturn
  | equalWeight .. => .equalWeightRelativeReturn
  | atrPercent .. => .atrPercent
  | realizedVolatility .. => .realizedVolatility
  | atrPercentile .. => .atrPercentile
  | realizedVolatilityPercentile .. => .realizedVolatilityPercentile

/-- `unit`. -/
def unit : Formula → MetricUnit
  | sma .. | smaSlope .. => .price
  | relativeReturn .. | equalWeight .. | atrPercent .. | realizedVolatility .. => .decimal
  | atrPercentile .. | realizedVolatilityPercentile .. => .percentile0To100

/-- `",".join(snapshot.symbol for snapshot in snapshots)`. -/
def joined (snapshots : List RegimeMarketSnapshot) : String :=
  Text.join "," (snapshots.map RegimeMarketSnapshot.symbol)

/-- `parameters`. -/
def parameters : Formula → List (String × String)
  | sma _ window | atrPercent _ window => [("window", toString window)]
  | smaSlope _ window lookback => [("lookback", toString lookback), ("window", toString window)]
  | relativeReturn asset benchmark window => [("asset_symbol", asset.symbol),
      ("benchmark_symbol", benchmark.symbol), ("window", toString window)]
  | equalWeight assets benchmarks window => [("asset_symbols", joined assets),
      ("benchmark_symbols", joined benchmarks), ("window", toString window)]
  | realizedVolatility _ window => [("annualization", "252"), ("window", toString window)]
  | atrPercentile _ window history => [("history_window", toString history),
      ("window", toString window)]
  | realizedVolatilityPercentile _ window history => [("annualization", "252"),
      ("history_window", toString history), ("window", toString window)]

/-- `snapshots`. -/
def snapshots : Formula → List RegimeMarketSnapshot
  | sma snapshot _ | smaSlope snapshot _ _ | atrPercent snapshot _ | realizedVolatility snapshot _
  | atrPercentile snapshot _ _ | realizedVolatilityPercentile snapshot _ _ => [snapshot]
  | relativeReturn asset benchmark _ => [asset, benchmark]
  | equalWeight assets benchmarks _ => assets ++ benchmarks

/-- What the formula finds. -/
def reading : Formula → Except RegimeError Reading
  | sma snapshot window => smaReading snapshot window
  | smaSlope snapshot window lookback => smaSlopeReading snapshot window lookback
  | relativeReturn asset benchmark window => relativeReturnReading asset benchmark window
  | equalWeight assets benchmarks window => equalWeightReading assets benchmarks window
  | atrPercent snapshot window => atrPercentReading snapshot window
  | realizedVolatility snapshot window => realizedVolatilityReading snapshot window
  | atrPercentile snapshot window history =>
    percentileReading (atrPercentValue · window) snapshot window history
  | realizedVolatilityPercentile snapshot window history =>
    percentileReading (fun bars => numeric (realizedVolatilityValue bars window)) snapshot window
      history

/-- The metric of a formula. -/
def measured (f : Formula) (cutoffAt : UtcDatetime) : Except RegimeError MetricResult := do
  requireAtOrBeforeCutoff f.snapshots cutoffAt
  let reading ← f.reading
  metricResult f.name f.unit f.parameters f.snapshots cutoffAt reading

end Formula

/-- `sma`. -/
def sma (snapshot : RegimeMarketSnapshot) (window : Nat) (cutoffAt : UtcDatetime) :
    Except RegimeError MetricResult := do
  requirePositiveWindow window
  (Formula.sma snapshot window).measured cutoffAt

/-- `sma_slope`. -/
def smaSlope (snapshot : RegimeMarketSnapshot) (window lookback : Nat) (cutoffAt : UtcDatetime) :
    Except RegimeError MetricResult := do
  requirePositiveWindow window
  requirePositiveWindow lookback
  (Formula.smaSlope snapshot window lookback).measured cutoffAt

/-- `relative_return`. -/
def relativeReturn (asset benchmark : RegimeMarketSnapshot) (window : Nat)
    (cutoffAt : UtcDatetime) : Except RegimeError MetricResult := do
  requirePositiveWindow window
  (Formula.relativeReturn asset benchmark window).measured cutoffAt

/-- A basket in the order of its symbols and ids. -/
def inOrder (items : List RegimeMarketSnapshot) : List RegimeMarketSnapshot :=
  items.insertionSort fun a b => pairAtMost (a.symbol, a.snapshotId) (b.symbol, b.snapshotId)

/-- `canonicalize`. -/
def canonicalize (items : List RegimeMarketSnapshot) :
    Except RegimeError (List RegimeMarketSnapshot) := do
  Fallible.require (items.map fun snapshot => (snapshot.symbol, snapshot.snapshotId)).Nodup
    (.invalidMarketData "equal-weight baskets cannot contain duplicate snapshot identities")
  pure (inOrder items)

/-- `equal_weight_relative_return`. -/
def equalWeightRelativeReturn (assets benchmarks : List RegimeMarketSnapshot) (window : Nat)
    (cutoffAt : UtcDatetime) : Except RegimeError MetricResult := do
  requirePositiveWindow window
  let canonicalAssets ← canonicalize assets
  let canonicalBenchmarks ← canonicalize benchmarks
  (Formula.equalWeight canonicalAssets canonicalBenchmarks window).measured cutoffAt

/-- `atr_percent`. -/
def atrPercent (snapshot : RegimeMarketSnapshot) (window : Nat) (cutoffAt : UtcDatetime) :
    Except RegimeError MetricResult := do
  requirePositiveWindow window
  (Formula.atrPercent snapshot window).measured cutoffAt

/-- `realized_volatility`. -/
def realizedVolatility (snapshot : RegimeMarketSnapshot) (window : Nat) (cutoffAt : UtcDatetime) :
    Except RegimeError MetricResult := do
  requirePositiveWindow window
  (Formula.realizedVolatility snapshot window).measured cutoffAt

/-- `atr_percentile`. -/
def atrPercentile (snapshot : RegimeMarketSnapshot) (window history : Nat) (cutoffAt : UtcDatetime) :
    Except RegimeError MetricResult := do
  requirePositiveWindow window
  requirePositiveWindow history
  (Formula.atrPercentile snapshot window history).measured cutoffAt

/-- `realized_volatility_percentile`. -/
def realizedVolatilityPercentile (snapshot : RegimeMarketSnapshot) (window history : Nat)
    (cutoffAt : UtcDatetime) : Except RegimeError MetricResult := do
  requirePositiveWindow window
  requirePositiveWindow history
  (Formula.realizedVolatilityPercentile snapshot window history).measured cutoffAt

/-- The functions of the module. -/
def indicators : Indicators where
  sma := sma
  smaSlope := smaSlope
  relativeReturn := relativeReturn
  equalWeightRelativeReturn := equalWeightRelativeReturn
  realizedVolatility := realizedVolatility
  atrPercent := atrPercent
  realizedVolatilityPercentile := realizedVolatilityPercentile
  atrPercentile := atrPercentile

end FinanceResearch.Regimes
