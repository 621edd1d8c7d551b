import FinanceResearch.Domain.Models
import FinanceResearch.Lib.Decimal

/-!
# Research packets

The frozen input of synthesis, `domain/packets.py`, with the records of
`models.py`, `metrics.py`, `plans.py`, `scoring.py` and `setups.py` it holds and
the vocabularies of `enums.py` they use. A constrained text is a structure with
its constraint, so a record holds legal values only.

Mirroring notes vs the source:
- Records have the fields that validation, rendering and publication read. What
  pydantic serializes, the other fields included, is the packet's `content`; the
  two identity fields are computed from it, which is what
  `_verify_identity_and_size` admits.
- Decimals are finite: the models refuse the others.
- A tuple has at most `sys.maxsize` items.
-/

namespace FinanceResearch

open Calendar (UtcDatetime)

/-! ## Constrained texts -/

/-- `sys.maxsize`, the greatest length of a sequence. -/
def maxSize : Nat := 2 ^ 63 - 1

/-- `Annotated[str, Field(min_length=shortest, max_length=longest)]`. -/
abbrev BoundedText (shortest longest : Nat) :=
  { text : String // shortest ≤ text.length ∧ text.length ≤ longest }

/-- `^[A-Za-z0-9][A-Za-z0-9_.:-]*$`, at most 128 characters. -/
def Identifier.IsLegal (text : String) : Prop :=
  text.length ≤ 128 ∧ text.toList.head?.any Char.isAlphanum = true ∧
    ∀ c ∈ text.toList, c.isAlphanum = true ∨ c ∈ ['_', '.', ':', '-']

instance (text : String) : Decidable (Identifier.IsLegal text) :=
  have : Decidable (∀ c ∈ text.toList, c.isAlphanum = true ∨ c ∈ ['_', '.', ':', '-']) :=
    List.decidableBAll _ _
  inferInstanceAs (Decidable (_ ∧ _ ∧ _))

/-- A property of all characters of a text, decided character by character. -/
theorem forall_mem_of_all {p : Char → Prop} [DecidablePred p] {text : List Char}
    (h : text.all (fun c => decide (p c)) = true) : ∀ c ∈ text, p c := by
  intro c hc
  exact of_decide_eq_true (List.all_eq_true.mp h c hc)

structure Identifier where
  text : String
  legal : Identifier.IsLegal text
  deriving DecidableEq

theorem Identifier.eq_of_text {p q : Identifier} (h : p.text = q.text) : p = q := by
  cases p
  cases q
  cases h
  rfl

/-- `[A-Z0-9]*([.-][A-Z0-9]+)*$`. -/
def Symbol.isTail : List Char → Bool
  | [] => true
  | c :: rest =>
    if c.isUpper || c.isDigit then isTail rest
    else (c == '.' || c == '-') && rest.head?.any (fun d => d.isUpper || d.isDigit) && isTail rest

/-- `Symbol`: `^[A-Z][A-Z0-9]*([.-][A-Z0-9]+)*$`, at most 16 characters. -/
structure Symbol where
  text : String
  legal : text.length ≤ 16 ∧ text.toList.head?.any Char.isUpper = true ∧
    Symbol.isTail text.toList = true
  deriving DecidableEq

/-! ## Vocabularies -/

inductive Capability where
  | marketSummaryAvailable | regimeClassificationAvailable | watchlistMetricsAvailable
  | eventRiskCheckAvailable | setupDetectionAvailable | planDraftAvailable
  | positionSizingAvailable | portfolioHeatCheckAvailable
  deriving DecidableEq, Repr

def Capability.value : Capability → String
  | .marketSummaryAvailable => "MARKET_SUMMARY_AVAILABLE"
  | .regimeClassificationAvailable => "REGIME_CLASSIFICATION_AVAILABLE"
  | .watchlistMetricsAvailable => "WATCHLIST_METRICS_AVAILABLE"
  | .eventRiskCheckAvailable => "EVENT_RISK_CHECK_AVAILABLE"
  | .setupDetectionAvailable => "SETUP_DETECTION_AVAILABLE"
  | .planDraftAvailable => "PLAN_DRAFT_AVAILABLE"
  | .positionSizingAvailable => "POSITION_SIZING_AVAILABLE"
  | .portfolioHeatCheckAvailable => "PORTFOLIO_HEAT_CHECK_AVAILABLE"

inductive Coverage where
  | singleExchange | consolidated | unknown
  deriving DecidableEq, Repr

def Coverage.value : Coverage → String
  | .singleExchange => "single_exchange"
  | .consolidated => "consolidated"
  | .unknown => "unknown"

inductive Session where
  | preMarket | regular | postMarket | completedSession
  deriving DecidableEq, Repr

def Session.value : Session → String
  | .preMarket => "PRE_MARKET"
  | .regular => "REGULAR"
  | .postMarket => "POST_MARKET"
  | .completedSession => "COMPLETED_SESSION"

/-- `instrument_type`. -/
inductive InstrumentType where
  | commonStock | etf | other | unknown
  deriving DecidableEq, Repr

def InstrumentType.value : InstrumentType → String
  | .commonStock => "COMMON_STOCK"
  | .etf => "ETF"
  | .other => "OTHER"
  | .unknown => "UNKNOWN"

/-- `materiality` of an event. -/
inductive Materiality where
  | low | medium | high | unknown
  deriving DecidableEq, Repr

def Materiality.value : Materiality → String
  | .low => "LOW"
  | .medium => "MEDIUM"
  | .high => "HIGH"
  | .unknown => "UNKNOWN"

inductive GateStatus where
  | pass | warning | block
  deriving DecidableEq, Repr

def GateStatus.value : GateStatus → String
  | .pass => "PASS"
  | .warning => "WARNING"
  | .block => "BLOCK"

inductive PlanStatus where
  | draft | reviewRequired | blocked | expired
  deriving DecidableEq, Repr

def PlanStatus.value : PlanStatus → String
  | .draft => "DRAFT"
  | .reviewRequired => "REVIEW_REQUIRED"
  | .blocked => "BLOCKED"
  | .expired => "EXPIRED"

inductive MetricName where
  | sma | smaSlope | relativeReturn | atrPercent | atrPercentile | realizedVolatility
  | realizedVolatilityPercentile | percentileRank | equalWeightRelativeReturn
  deriving DecidableEq, Repr

def MetricName.value : MetricName → String
  | .sma => "sma"
  | .smaSlope => "sma_slope"
  | .relativeReturn => "relative_return"
  | .atrPercent => "atr_percent"
  | .atrPercentile => "atr_percentile"
  | .realizedVolatility => "realized_volatility"
  | .realizedVolatilityPercentile => "realized_volatility_percentile"
  | .percentileRank => "percentile_rank"
  | .equalWeightRelativeReturn => "equal_weight_relative_return"

inductive MetricUnit where
  | price | decimal | percentile0To100
  deriving DecidableEq, Repr

def MetricUnit.value : MetricUnit → String
  | .price => "price"
  | .decimal => "decimal"
  | .percentile0To100 => "percentile_0_to_100"

/-! ## Market records -/

/-- `Currency`: `^[A-Z]{3}$`. -/
structure Currency where
  text : String
  legal : text.length = 3 ∧ text.toList.all Char.isUpper = true
  deriving DecidableEq

/-- `PositiveDecimal`. -/
structure PositiveDecimal where
  value : Decimal
  positive : value.negative = false ∧ value.coefficient ≠ 0
  deriving DecidableEq

/-- `QualityFlags`. -/
structure QualityFlags where
  flags : List Identifier
  legal : flags.length ≤ 64 ∧ flags.Nodup
  deriving DecidableEq

/-- `EvidenceIds`. -/
structure EvidenceIds where
  ids : List Identifier
  legal : ids.length ≤ 256 ∧ ids.Nodup
  deriving DecidableEq

structure SourceObservation where
  observationId : Identifier
  provider : Identifier
  sourceUrl : Option String
  sourceHashSha256 : String
  observedAt : UtcDatetime
  retrievedAt : UtcDatetime
  contentType : BoundedText 1 128
  excerpt : BoundedText 0 8192
  persistenceAllowed : Bool
  qualityFlags : QualityFlags
  ordered : observedAt ≤ retrievedAt
  deriving DecidableEq

structure InstrumentIdentity where
  instrumentId : Identifier
  symbol : Symbol
  name : BoundedText 1 256
  instrumentType : InstrumentType
  primaryExchange : Option Identifier
  listingCountry : Option String
  currency : Currency
  isActive : Option Bool
  isLeveraged : Option Bool
  isInverse : Option Bool
  isOtc : Option Bool
  deriving DecidableEq

structure PriceObservation where
  instrumentId : Identifier
  value : PositiveDecimal
  currency : Currency
  session : Session
  provider : Identifier
  feed : Identifier
  coverage : Coverage
  observedAt : UtcDatetime
  retrievedAt : UtcDatetime
  evidenceId : Identifier
  qualityFlags : QualityFlags
  ordered : observedAt ≤ retrievedAt
  deriving DecidableEq

/-- The checks both kinds of bars make of their prices. -/
structure PricesConsistent (opened high low close : PositiveDecimal) : Prop where
  opened : low.value.atMost opened.value = true ∧ opened.value.atMost high.value = true
  closed : low.value.atMost close.value = true ∧ close.value.atMost high.value = true

structure CompletedDailyBar where
  instrumentId : Identifier
  sessionDate : Calendar.Date
  sourceTimestamp : UtcDatetime
  opened : PositiveDecimal
  high : PositiveDecimal
  low : PositiveDecimal
  close : PositiveDecimal
  volume : Option Nat
  session : Session
  provider : Identifier
  feed : Identifier
  coverage : Coverage
  adjustment : Identifier
  retrievedAt : UtcDatetime
  evidenceCutoffAt : UtcDatetime
  evidenceId : Identifier
  qualityFlags : QualityFlags
  completed : session = .completedSession
  prices : PricesConsistent opened high low close
  ordered : sourceTimestamp ≤ retrievedAt ∧ sourceTimestamp ≤ evidenceCutoffAt
  deriving DecidableEq

structure CurrentSessionBar where
  instrumentId : Identifier
  session : Session
  startAt : UtcDatetime
  endAt : UtcDatetime
  opened : PositiveDecimal
  high : PositiveDecimal
  low : PositiveDecimal
  close : PositiveDecimal
  volume : Option Nat
  provider : Identifier
  feed : Identifier
  coverage : Coverage
  retrievedAt : UtcDatetime
  evidenceId : Identifier
  qualityFlags : QualityFlags
  current : session ≠ .completedSession
  prices : PricesConsistent opened high low close
  ordered : startAt ≤ endAt ∧ endAt ≤ retrievedAt
  deriving DecidableEq

structure MarketSnapshot where
  instrument : InstrumentIdentity
  latestPrice : Option PriceObservation
  completedDailyBars : List CompletedDailyBar
  currentSessionBars : List CurrentSessionBar
  sourceObservations : List SourceObservation
  qualityFlags : QualityFlags
  priceMatches : ∀ price ∈ latestPrice, price.instrumentId = instrument.instrumentId
  barsMatch : ∀ bar ∈ completedDailyBars, bar.instrumentId = instrument.instrumentId
  currentMatch : ∀ bar ∈ currentSessionBars, bar.instrumentId = instrument.instrumentId
  increasing : (completedDailyBars.map CompletedDailyBar.sessionDate).IsChain Calendar.Date.Before
  uniqueSources : (sourceObservations.map SourceObservation.observationId).Nodup
  sourced : latestPrice.isSome = true ∨ completedDailyBars ≠ [] ∨ currentSessionBars ≠ [] →
    sourceObservations ≠ []

structure EventRecord where
  eventId : Identifier
  eventType : Identifier
  subjectSymbol : Option Symbol
  eventTime : UtcDatetime
  verified : Bool
  materiality : Materiality
  supportingEvidenceIds : EvidenceIds
  conflictEvidenceIds : EvidenceIds

/-! ## Records -/

structure EvidenceItem where
  evidenceId : Identifier
  source : SourceObservation
  authorityTier : Nat
  tierBounded : 1 ≤ authorityTier ∧ authorityTier ≤ 255
  instrumentId : Option Identifier
  eventTime : Option UtcDatetime
  publishedTime : Option UtcDatetime
  structuredFields : FrozenMap Json
  citationLabel : BoundedText 1 256

/-- `source.source_url`. -/
def EvidenceItem.sourceUrl (item : EvidenceItem) : Option String := item.source.sourceUrl

structure MetricResult where
  metricId : String
  name : MetricName
  value : Option Decimal
  unit : MetricUnit
  inputEvidenceIds : List Identifier

structure GateResult where
  gateId : Identifier
  status : GateStatus
  reasonCode : Identifier
  message : BoundedText 1 500

structure SetupCandidate where
  symbol : Symbol
  planStatus : PlanStatus

structure CandidateExclusion where
  symbol : Symbol
  reasonCodes : List Identifier
  excluded : reasonCodes ≠ []

structure CalculatedPrice where
  value : Decimal
  currency : String

structure EntryZone where
  lower : CalculatedPrice
  upper : CalculatedPrice

structure PositionSizing where
  suggestedUnits : Option Decimal

structure TradePlanDraft where
  planId : Identifier
  symbol : Symbol
  instrumentName : BoundedText 1 256
  planStatus : PlanStatus
  candidateScore : Decimal
  thesis : BoundedText 1 1000
  counterThesis : BoundedText 1 1000
  catalysts : List String
  eventRisks : List String
  entryCondition : BoundedText 1 1000
  entryZone : EntryZone
  candidateStop : CalculatedPrice
  riskPerUnit : Decimal
  invalidationCondition : BoundedText 1 1000
  positionSizing : PositionSizing
  noTradeConditions : List String
  counterEvidence : List Identifier
  reviewChecklist : List String
  gateResults : List GateResult
  expiresAt : UtcDatetime
  effectiveExpiryAt : Option UtcDatetime
  expiryConsistent : effectiveExpiryAt.isSome = true ↔ planStatus = .expired

/-- The free texts of a plan. -/
def TradePlanDraft.texts (plan : TradePlanDraft) : List String :=
  [plan.instrumentName.val, plan.thesis.val, plan.counterThesis.val, plan.entryCondition.val,
    plan.invalidationCondition.val] ++ plan.catalysts ++ plan.eventRisks ++
    plan.noTradeConditions ++ plan.reviewChecklist ++
    plan.gateResults.map fun gate => gate.message.val

structure CapabilityState where
  capability : Capability
  available : Bool
  reasonCodes : List ErrorCode
  unique : reasonCodes.Nodup
  disabledRequiresReason : available = false → reasonCodes ≠ []

structure ResearchPacket where
  run : RunContext
  /-- `run_id` is a bounded field of the run context. -/
  runIdBounded : run.runId.text.length ≤ 128
  cutoffFrozen : run.evidenceCutoffAt.isSome = true
  evidence : List EvidenceItem
  market : FrozenMap MarketSnapshot
  events : List EventRecord
  metrics : List MetricResult
  gates : List GateResult
  candidates : List SetupCandidate
  candidateExclusions : List CandidateExclusion
  deterministicPlanInputs : List TradePlanDraft
  capabilityStates : List CapabilityState
  sized : candidates.length ≤ maxSize ∧ candidateExclusions.length ≤ maxSize ∧
    capabilityStates.length ≤ maxSize
  /-- `model_dump(mode="json")` without the two identity fields. -/
  content : List (String × Json)

/-! ## Identity -/

/-- `canonical_sha256`. -/
def ResearchPacket.canonicalSha256 (packet : ResearchPacket) : String :=
  sha256 (encode (Json.obj packet.content).dumps)

theorem isAlphanum_of_isHex {c : Char} (h : Sha256.isHex c = true) : c.isAlphanum = true := by
  simp only [Sha256.isHex, Bool.or_eq_true, Bool.and_eq_true, decide_eq_true_eq] at h
  rcases h with h | h
  · have hdigit : c.isDigit = true := by
      show (decide (c ≥ '0') && decide (c ≤ '9')) = true
      simpa using h
    show (c.isAlpha || c.isDigit) = true
    rw [hdigit, Bool.or_true]
  · have hlower : c.isLower = true := by
      show (decide (c ≥ 'a') && decide (c ≤ 'z')) = true
      simpa using And.intro h.1 (le_trans h.2 (by decide : 'f' ≤ 'z'))
    show (c.isUpper || c.isLower || c.isDigit) = true
    rw [hlower, Bool.or_true, Bool.true_or]

/-- Hexadecimal digits after a legal beginning. -/
theorem Identifier.isLegal_hex {start suffix : String}
    (hlength : start.length + suffix.length ≤ 128)
    (hhead : start.toList.head?.any Char.isAlphanum = true)
    (hstart : ∀ c ∈ start.toList, c.isAlphanum = true ∨ c ∈ ['_', '.', ':', '-'])
    (hsuffix : ∀ c ∈ suffix.toList, Sha256.isHex c = true) :
    Identifier.IsLegal (start ++ suffix) := by
  refine ⟨?_, ?_, ?_⟩
  · rw [String.length_append]
    exact hlength
  · rw [String.toList_append]
    cases hs : start.toList with
    | nil => simp [hs] at hhead
    | cons c rest => simpa [hs] using hhead
  · intro c hc
    rw [String.toList_append, List.mem_append] at hc
    rcases hc with hc | hc
    · exact hstart c hc
    · exact Or.inl (isAlphanum_of_isHex (hsuffix c hc))

/-- `packet_id`. -/
def ResearchPacket.packetId (packet : ResearchPacket) : Identifier where
  text := "packet-" ++ packet.canonicalSha256
  legal := by
    refine Identifier.isLegal_hex ?_ (by decide) (forall_mem_of_all (by decide)) (Sha256.sha256_hex _)
    rw [← String.length_toList, ← String.length_toList, ResearchPacket.canonicalSha256,
      Sha256.sha256_length]
    decide

/-! ## Run identifiers -/

theorem isAlphanum_of_isDigit {c : Char} (h : c.isDigit = true) : c.isAlphanum = true := by
  simp [Char.isAlphanum, h]

theorem isoformat_toList (d : Calendar.Date) :
    ∀ c ∈ d.isoformat.toList, c.isDigit = true ∨ c = '-' := by
  intro c hc
  simp only [Calendar.Date.isoformat, String.toList_ofList, List.mem_append, List.mem_cons] at hc
  rcases hc with (hc | rfl | hc) | rfl | hc
  · exact Or.inl (Numerals.isDigit_of_mem_padded hc)
  · exact Or.inr rfl
  · exact Or.inl (Numerals.isDigit_of_mem_padded hc)
  · exact Or.inr rfl
  · exact Or.inl (Numerals.isDigit_of_mem_padded hc)

/-- A run ID of bounded length is an `Identifier`. -/
theorem RunId.text_isLegal (r : RunId) (h : r.text.length ≤ 128) : Identifier.IsLegal r.text := by
  have htext : r.text.toList = "premarket-".toList ++ r.marketDate.isoformat.toList ++
      "-r".toList ++ Nat.toDigits 10 r.revision := by
    simp [RunId.text, Nat.repr, toString]
  have hstart : ∀ c ∈ "premarket-".toList, c.isAlphanum = true ∨ c ∈ ['_', '.', ':', '-'] :=
    forall_mem_of_all (by decide)
  have hmiddle : ∀ c ∈ "-r".toList, c.isAlphanum = true ∨ c ∈ ['_', '.', ':', '-'] :=
    forall_mem_of_all (by decide)
  refine ⟨h, by rw [htext]; rfl, ?_⟩
  intro c hc
  simp only [htext, List.mem_append] at hc
  rcases hc with ((hc | hc) | hc) | hc
  · exact hstart c hc
  · rcases isoformat_toList _ c hc with hc | rfl
    · exact Or.inl (isAlphanum_of_isDigit hc)
    · exact Or.inr (by decide)
  · exact hmiddle c hc
  · exact Or.inl (isAlphanum_of_isDigit
      (Nat.isDigit_of_mem_toDigits (by decide) (by decide) hc))

/-- `packet.run.run_id`. -/
def ResearchPacket.runId (packet : ResearchPacket) : Identifier :=
  ⟨packet.run.runId.text, packet.run.runId.text_isLegal packet.runIdBounded⟩

end FinanceResearch
