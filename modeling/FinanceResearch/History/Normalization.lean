import FinanceResearch.Lib.Dicts
import FinanceResearch.Lib.Fallible
import FinanceResearch.Lib.Sha256
import FinanceResearch.Quality.Evaluation
import FinanceResearch.Regimes.Calculation

/-!
# Historical bars

`normalize_alpaca_daily_bars` of `adapters/alpaca.py` with the records of
`market_data/historical.py`: the bars of each requested symbol, or the reason why there are none.

Mirroring notes vs the source:
- The time zone database is a parameter: the date in New York, none for an `OverflowError`.
- A `float` is what Python reads off it: the text it prints and, where it is one, its integer.
- What the record's types admit has its type here; `AttributeError`, `TypeError`, `ValueError` and
  `InvalidMarketDataError`, which one clause catches, are one refusal.
- A mapping is the list of its entries.
-/

namespace FinanceResearch.History

open Calendar (Date UtcDatetime)
open Regimes (DailyBar isNormalizedSymbol)

theorem dailyBar_eq_iff {a b : DailyBar} : a = b ↔ a.sessionDate = b.sessionDate ∧
    a.opened = b.opened ∧ a.high = b.high ∧ a.low = b.low ∧ a.close = b.close ∧ a.volume = b.volume := by
  cases a
  cases b
  simp only [Regimes.DailyBar.mk.injEq]

instance : DecidableEq DailyBar := fun _ _ => decidable_of_iff' _ dailyBar_eq_iff

/-! ## Records -/

inductive MarketDataFeed where
  | iex | sip
  deriving DecidableEq, Repr

def MarketDataFeed.value : MarketDataFeed → String
  | .iex => "iex"
  | .sip => "sip"

inductive MarketDataCoverage where
  | singleExchange | consolidatedUs
  deriving DecidableEq, Repr

def MarketDataCoverage.value : MarketDataCoverage → String
  | .singleExchange => "single_exchange"
  | .consolidatedUs => "consolidated_us"

inductive BarAdjustment where
  | raw | split | dividend | all
  deriving DecidableEq, Repr

def BarAdjustment.value : BarAdjustment → String
  | .raw => "raw"
  | .split => "split"
  | .dividend => "dividend"
  | .all => "all"

/-- `coverage_for_feed`. -/
def coverageForFeed : MarketDataFeed → MarketDataCoverage
  | .iex => .singleExchange
  | .sip => .consolidatedUs

/-- The text of a finite float, as `Decimal(str(value))` reads it: one place behind the point or no
zero at the end, and an exponent from `1e+16` on. -/
structure FloatText where
  value : Decimal
  printed : (value.exponent = -1 ∧ value.coefficient < 10 ^ 17) ∨
    (value.exponent < -1 ∧ value.coefficient % 10 ≠ 0) ∨
    (0 ≤ value.exponent ∧ value.coefficient % 10 ≠ 0 ∧
      10 ^ 16 ≤ value.coefficient * 10 ^ value.exponent.toNat)

/-- A value where a `float` is expected. -/
inductive PyFloat where
  | other
  | nonFinite
  | finite (text : FloatText) (integer : Option Int)

/-- `record.timestamp`: `aware none` is one that has no UTC time within the years 1 to 9999. -/
inductive RecordTime where
  | other
  | aware (utc : Option UtcDatetime)

/-- `AlpacaDailyBarRecord`. -/
structure AlpacaDailyBarRecord where
  symbol : String
  timestamp : RecordTime
  opened : PyFloat
  high : PyFloat
  low : PyFloat
  close : PyFloat
  volume : PyFloat

/-- An entry of a sequence of records. -/
inductive ProviderRecord where
  | other
  | bar (record : AlpacaDailyBarRecord)

/-- `HistoricalDailyBarsRequest`; its other checks are made again for the provenance. -/
structure HistoricalDailyBarsRequest where
  symbols : List String
  startAt : UtcDatetime
  endAt : UtcDatetime
  expectedSessions : List Date
  completedThroughSession : Date
  feed : MarketDataFeed
  adjustment : BarAdjustment
  evidenceCutoffAt : UtcDatetime
  canonical : symbols ≠ [] ∧ symbols.Pairwise (· < ·) ∧
    ∀ symbol ∈ symbols, isNormalizedSymbol symbol = true
  increasing : expectedSessions.Pairwise Date.Before
  completed : expectedSessions.getLast? = some completedThroughSession

structure DailyBarObservation where
  sourceTimestamp : UtcDatetime
  bar : DailyBar
  deriving DecidableEq

structure HistoricalBarsProvenance where
  provider : String
  feed : MarketDataFeed
  coverage : MarketDataCoverage
  adjustment : BarAdjustment
  requestedStartAt : UtcDatetime
  requestedEndAt : UtcDatetime
  retrievedAt : UtcDatetime
  evidenceCutoffAt : UtcDatetime
  completedThroughSession : Date
  adapterVersion : String
  deriving DecidableEq

structure HistoricalDailyBars where
  schemaVersion : String
  historyId : String
  symbol : String
  currency : String
  observations : List DailyBarObservation
  provenance : HistoricalBarsProvenance
  qualityFlags : List String
  deriving DecidableEq

structure HistoricalBarsFailure where
  schemaVersion : String
  symbol : String
  reason : HistoricalBarsUnavailableReason
  provenance : HistoricalBarsProvenance
  missingSessions : List Date
  qualityFlags : List String
  deriving DecidableEq

/-- `HistoricalBarsOutcome`. -/
inductive HistoricalBarsOutcome where
  | available (history : HistoricalDailyBars)
  | unavailable (failure : HistoricalBarsFailure)
  deriving DecidableEq

/-- What is raised: a refusal that the loop catches, or an `OverflowError`. -/
inductive MarketDataError where
  | refused (message : String)
  | overflow
  deriving DecidableEq, Repr

/-! ## One record -/

/-- `_price`. -/
def price : PyFloat → Except MarketDataError Decimal
  | .finite text _ => pure text.value
  | _ => throw (.refused "Alpaca bar prices must be finite floats")

/-- `_volume`. -/
def volume : PyFloat → Except MarketDataError Nat
  | .finite _ (some (.ofNat n)) => pure n
  | _ => throw (.refused "Alpaca bar volume must be a finite non-negative integer value")

/-- `DailyBar`, with its checks. -/
def dailyBar (sessionDate : Date) (opened high low close : Decimal) (volume : Nat) :
    Except MarketDataError DailyBar :=
  if hprices : (opened.negative = false ∧ opened.coefficient ≠ 0) ∧
      (high.negative = false ∧ high.coefficient ≠ 0) ∧ (low.negative = false ∧ low.coefficient ≠ 0) ∧
      (close.negative = false ∧ close.coefficient ≠ 0) then
    if h : (low.atMost opened = true ∧ opened.atMost high = true) ∧
        (low.atMost close = true ∧ close.atMost high = true) then
      pure ⟨sessionDate, ⟨opened, hprices.1⟩, ⟨high, hprices.2.1⟩, ⟨low, hprices.2.2.1⟩,
        ⟨close, hprices.2.2.2⟩, some volume, ⟨h.1, h.2⟩⟩
    else throw (.refused "daily-bar open and close must be within low and high")
  else throw (.refused "daily-bar prices must be positive and finite")

/-- A conversion that may leave the years 1 to 9999. -/
def converted {α : Type} : Option α → Except MarketDataError α
  | some value => pure value
  | none => throw .overflow

section Normalization

variable (newYorkDate : UtcDatetime → Option Date)

/-- `_normalize_record`, with `create_daily_bar_observation`. -/
def normalizeRecord (symbol : String) : ProviderRecord → Except MarketDataError DailyBarObservation
  | .other => throw (.refused "Alpaca bar symbol does not match the requested symbol")
  | .bar record => do
    Fallible.require (record.symbol = symbol)
      (.refused "Alpaca bar symbol does not match the requested symbol")
    match record.timestamp with
    | .other => throw (.refused "Alpaca bar timestamp must be timezone-aware")
    | .aware utc =>
      let sourceTimestamp ← converted utc
      let opened ← price record.opened
      let high ← price record.high
      let low ← price record.low
      let close ← price record.close
      let traded ← volume record.volume
      let sessionDate ← converted (newYorkDate sourceTimestamp)
      let bar ← dailyBar sessionDate opened high low close traded
      pure ⟨sourceTimestamp, bar⟩

/-- `existing == observation`: dates, times and volumes, and the prices as numbers. -/
def sameObservation (left right : DailyBarObservation) : Bool :=
  decide (left.sourceTimestamp = right.sourceTimestamp) &&
    decide (left.bar.sessionDate = right.bar.sessionDate) &&
    left.bar.opened.value.sameNumber right.bar.opened.value &&
    left.bar.high.value.sameNumber right.bar.high.value &&
    left.bar.low.value.sameNumber right.bar.low.value &&
    left.bar.close.value.sameNumber right.bar.close.value &&
    decide (left.bar.volume = right.bar.volume)

/-- The loop over the observations, which stops at the first conflict; the flag says whether an exact
duplicate was met. -/
def collectSessions : List DailyBarObservation → List DailyBarObservation → Bool →
    Option (List DailyBarObservation × Bool)
  | [], bySession, duplicateRemoved => some (bySession, duplicateRemoved)
  | observation :: rest, bySession, duplicateRemoved =>
    match bySession.find? fun existing => existing.bar.sessionDate = observation.bar.sessionDate with
    | none => collectSessions rest (bySession ++ [observation]) duplicateRemoved
    | some existing =>
      if sameObservation existing observation then collectSessions rest bySession true else none

/-! ## Histories and failures -/

/-- `_decimal_text`, of a number that is not zero. -/
def decimalText (value : Decimal) : String :=
  let text := value.fixed.toList
  if text.contains '.' then
    String.ofList (((text.reverse.dropWhile (· = '0')).dropWhile (· = '.')).reverse)
  else value.fixed

/-- `_history_id`. -/
def historyId (symbol currency : String) (observations : List DailyBarObservation)
    (provenance : HistoricalBarsProvenance) (qualityFlags : List String) : String :=
  let payload := Json.obj [
    ("adapter_version", .str provenance.adapterVersion),
    ("adjustment", .str provenance.adjustment.value),
    ("completed_through_session", .str provenance.completedThroughSession.isoformat),
    ("coverage", .str provenance.coverage.value),
    ("currency", .str currency),
    ("evidence_cutoff_at", .str (Calendar.isoformat provenance.evidenceCutoffAt)),
    ("feed", .str provenance.feed.value),
    ("normalizer_version", .str "historical-normalizer-v1"),
    ("observations", .arr (observations.map fun observation => .obj [
      ("close", .str (decimalText observation.bar.close.value)),
      ("high", .str (decimalText observation.bar.high.value)),
      ("low", .str (decimalText observation.bar.low.value)),
      ("open", .str (decimalText observation.bar.opened.value)),
      ("session_date", .str observation.bar.sessionDate.isoformat),
      ("source_timestamp", .str (Calendar.isoformat observation.sourceTimestamp)),
      ("volume", match observation.bar.volume with
        | some volume => .int volume
        | none => .null)])),
    ("provider", .str provenance.provider),
    ("quality_flags", .arr (qualityFlags.map .str)),
    ("requested_end_at", .str (Calendar.isoformat provenance.requestedEndAt)),
    ("requested_start_at", .str (Calendar.isoformat provenance.requestedStartAt)),
    ("retrieved_at", .str (Calendar.isoformat provenance.retrievedAt)),
    ("schema_version", .str "historical-daily-bars-v1"),
    ("symbol", .str symbol)]
  "history-" ++ String.ofList ((sha256 (encode payload.dumps)).toList.take 24)

/-- `[A-Z][A-Z0-9_]*`. -/
def isQualityFlag (flag : String) : Bool :=
  flag.toList.head?.any Char.isUpper && flag.toList.all fun c => c.isUpper || c.isDigit || c == '_'

/-- `_require_quality_flags`. -/
def FlagsLegal (flags : List String) : Prop :=
  flags.Pairwise (· < ·) ∧ ∀ flag ∈ flags, isQualityFlag flag = true

instance (flags : List String) : Decidable (FlagsLegal flags) :=
  inferInstanceAs (Decidable (_ ∧ _))

/-- What `HistoricalDailyBars` checks of the values that `create` gives it. -/
structure HistoryLegal (symbol : String) (observations : List DailyBarObservation)
    (provenance : HistoricalBarsProvenance) (qualityFlags : List String) : Prop where
  normalized : isNormalizedSymbol symbol = true
  available : observations ≠ []
  increasing : observations.Pairwise fun a b => a.bar.sessionDate.Before b.bar.sessionDate
  complete : (observations.map fun observation => observation.bar.sessionDate).getLast? =
    some provenance.completedThroughSession
  observed : ∀ observation ∈ observations, observation.sourceTimestamp ≤ provenance.retrievedAt ∧
    observation.sourceTimestamp ≤ provenance.evidenceCutoffAt
  within : ∀ observation ∈ observations,
    provenance.requestedStartAt ≤ observation.sourceTimestamp ∧
      observation.sourceTimestamp ≤ provenance.requestedEndAt
  flags : FlagsLegal qualityFlags

instance (symbol : String) (observations : List DailyBarObservation)
    (provenance : HistoricalBarsProvenance) (qualityFlags : List String) :
    Decidable (HistoryLegal symbol observations provenance qualityFlags) :=
  decidable_of_iff (isNormalizedSymbol symbol = true ∧ observations ≠ [] ∧
    (observations.Pairwise fun a b => a.bar.sessionDate.Before b.bar.sessionDate) ∧
    (observations.map fun observation => observation.bar.sessionDate).getLast? =
      some provenance.completedThroughSession ∧
    (∀ observation ∈ observations, observation.sourceTimestamp ≤ provenance.retrievedAt ∧
      observation.sourceTimestamp ≤ provenance.evidenceCutoffAt) ∧
    (∀ observation ∈ observations, provenance.requestedStartAt ≤ observation.sourceTimestamp ∧
      observation.sourceTimestamp ≤ provenance.requestedEndAt) ∧ FlagsLegal qualityFlags)
    ⟨fun ⟨a, b, c, d, e, f, g⟩ => ⟨a, b, c, d, e, f, g⟩,
      fun ⟨a, b, c, d, e, f, g⟩ => ⟨a, b, c, d, e, f, g⟩⟩

/-- The history that `create` builds. -/
def historyOf (symbol : String) (observations : List DailyBarObservation)
    (provenance : HistoricalBarsProvenance) (qualityFlags : List String) : HistoricalDailyBars where
  schemaVersion := "historical-daily-bars-v1"
  historyId := historyId symbol "USD" observations provenance qualityFlags
  symbol := symbol
  currency := "USD"
  observations := observations
  provenance := provenance
  qualityFlags := qualityFlags

/-- `HistoricalDailyBars.create`. -/
def createHistory (symbol : String) (observations : List DailyBarObservation)
    (provenance : HistoricalBarsProvenance) (qualityFlags : List String) :
    Except MarketDataError HistoricalDailyBars := do
  Fallible.require (HistoryLegal symbol observations provenance qualityFlags)
    (.refused "historical daily bars")
  pure (historyOf symbol observations provenance qualityFlags)

/-- The failure that `_failure` builds. -/
def failureOf (symbol : String) (reason : HistoricalBarsUnavailableReason)
    (provenance : HistoricalBarsProvenance) (missingSessions : List Date) (qualityFlags : List String) :
    HistoricalBarsOutcome :=
  .unavailable ⟨"historical-bars-failure-v1", symbol, reason, provenance, missingSessions, qualityFlags⟩

/-- `_failure`, with the checks of `HistoricalBarsFailure`. -/
def failure (symbol : String) (reason : HistoricalBarsUnavailableReason)
    (provenance : HistoricalBarsProvenance) (missingSessions : List Date) (qualityFlags : List String) :
    Except MarketDataError HistoricalBarsOutcome := do
  Fallible.require (isNormalizedSymbol symbol = true)
    (.refused "symbols must be normalized uppercase ASCII")
  Fallible.require (missingSessions.Pairwise Date.Before)
    (.refused "missing sessions must be sorted and unique")
  Fallible.require (FlagsLegal qualityFlags) (.refused "quality flags must be sorted and unique")
  pure (failureOf symbol reason provenance missingSessions qualityFlags)

/-! ## One symbol -/

/-- `tuple(sorted(set(flags)))`. -/
def sortedFlags (flags : List String) : List String := flags.eraseDups.insertionSort (· ≤ ·)

/-- `_base_quality_flags`. -/
def baseQualityFlags (feed : MarketDataFeed) (adjustment : BarAdjustment) : List String :=
  [match adjustment with
    | .raw => "ADJUSTMENT_RAW"
    | .split => "ADJUSTMENT_SPLIT"
    | .dividend => "ADJUSTMENT_DIVIDEND"
    | .all => "ADJUSTMENT_ALL",
   match feed with
    | .iex => "FEED_IEX_SINGLE_EXCHANGE"
    | .sip => "FEED_SIP_CONSOLIDATED_US",
   "SOURCE_ORDER_NORMALIZED"].insertionSort (· ≤ ·)

/-- `quality_flags`. -/
def qualityFlags (request : HistoricalDailyBarsRequest) (duplicateRemoved : Bool) : List String :=
  sortedFlags (baseQualityFlags request.feed request.adjustment ++
    if duplicateRemoved then ["EXACT_DUPLICATE_REMOVED"] else [])

/-- `dates`. -/
def sessions (observations : List DailyBarObservation) : List Date :=
  observations.map fun observation => observation.bar.sessionDate

/-- The observations in the order of their sessions. -/
def ordered (observations : List DailyBarObservation) : List DailyBarObservation :=
  observations.insertionSort fun a b => a.bar.sessionDate.order ≤ b.bar.sessionDate.order

/-- `missing_sessions`. -/
def missing (request : HistoricalDailyBarsRequest) (observations : List DailyBarObservation) :
    List Date :=
  request.expectedSessions.filter fun session => session ∉ sessions observations

/-- The exits behind the loop. -/
def settle (request : HistoricalDailyBarsRequest) (provenance : HistoricalBarsProvenance)
    (symbol : String) (observations : List DailyBarObservation) (duplicateRemoved : Bool) :
    Except MarketDataError HistoricalBarsOutcome :=
  let flags := qualityFlags request duplicateRemoved
  if ∃ session ∈ sessions observations, request.completedThroughSession.Before session then
    failure symbol .futureOrIncompleteBar provenance [] flags
  else if ∃ session ∈ sessions observations, session ∉ request.expectedSessions then
    failure symbol .malformedBar provenance [] flags
  else if (sessions observations).getLast?.any fun session =>
      decide (session.Before request.completedThroughSession) then
    failure symbol .stale provenance (missing request observations) flags
  else if missing request observations ≠ [] then
    failure symbol .missingExpectedSession provenance (missing request observations) flags
  else
    match createHistory symbol observations provenance flags with
    | .ok history => pure (.available history)
    | .error (.refused _) => failure symbol .malformedBar provenance [] flags
    | .error .overflow => throw .overflow

/-- The body of the loop over the symbols. -/
def outcomeOf (request : HistoricalDailyBarsRequest) (provenance : HistoricalBarsProvenance)
    (symbol : String) (records : List ProviderRecord) :
    Except MarketDataError HistoricalBarsOutcome :=
  let baseFlags := baseQualityFlags request.feed request.adjustment
  if records = [] then failure symbol .noData provenance request.expectedSessions baseFlags
  else
    match records.mapM (normalizeRecord newYorkDate symbol) with
    | .error .overflow => throw .overflow
    | .error (.refused _) => failure symbol .malformedBar provenance [] baseFlags
    | .ok normalized =>
      match collectSessions normalized [] false with
      | none => failure symbol .duplicateConflict provenance [] baseFlags
      | some (bySession, duplicateRemoved) =>
        settle request provenance symbol (ordered bySession) duplicateRemoved

/-! ## All symbols -/

/-- `_provenance`. -/
def provenanceOf (request : HistoricalDailyBarsRequest) (retrievedAt : UtcDatetime) :
    Except MarketDataError HistoricalBarsProvenance := do
  Fallible.require (request.startAt ≤ request.endAt)
    (.refused "requested_start_at cannot be after requested_end_at")
  Fallible.require (request.endAt ≤ request.evidenceCutoffAt)
    (.refused "requested_end_at cannot be after evidence cutoff")
  Fallible.require (request.endAt ≤ retrievedAt)
    (.refused "requested_end_at cannot be after retrieved_at")
  let cutoffDate ← converted (newYorkDate request.evidenceCutoffAt)
  Fallible.require (request.completedThroughSession.Before cutoffDate)
    (.refused "completed-through session must be earlier than the cutoff market date for the premarket slice")
  Fallible.require (retrievedAt ≤ request.evidenceCutoffAt)
    (.refused "retrieved_at cannot be after evidence cutoff")
  pure {
    provider := "alpaca"
    feed := request.feed
    coverage := coverageForFeed request.feed
    adjustment := request.adjustment
    requestedStartAt := request.startAt
    requestedEndAt := request.endAt
    retrievedAt := retrievedAt
    evidenceCutoffAt := request.evidenceCutoffAt
    completedThroughSession := request.completedThroughSession
    adapterVersion := "alpaca-daily-bars-v1" }

/-- `records_by_symbol.get(symbol, ())`. -/
def recordsOf (recordsBySymbol : List (String × List ProviderRecord)) (symbol : String) :
    List ProviderRecord :=
  (recordsBySymbol.lookup symbol).getD []

/-- `normalize_alpaca_daily_bars`. -/
def normalizeAlpacaDailyBars (recordsBySymbol : List (String × List ProviderRecord))
    (request : HistoricalDailyBarsRequest) (retrievedAt : UtcDatetime) :
    Except MarketDataError (List HistoricalBarsOutcome) := do
  Fallible.require (∀ symbol ∈ recordsBySymbol.map Prod.fst, symbol ∈ request.symbols)
    (.refused "Alpaca response contains unrequested symbols")
  let provenance ← provenanceOf newYorkDate request retrievedAt
  request.symbols.mapM fun symbol =>
    outcomeOf newYorkDate request provenance symbol (recordsOf recordsBySymbol symbol)

end Normalization

end FinanceResearch.History
