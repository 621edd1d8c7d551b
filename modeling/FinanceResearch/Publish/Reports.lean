import FinanceResearch.Brief.Renderer

/-!
# The deterministic reports

`application/reduced_report.py` and `application/operational_report.py`: what is published
without a draft. Both are functions of the packet, or of the run, and of a closed reason.
-/

namespace FinanceResearch

open Calendar (UtcDatetime)

/-! ## The reduced report -/

/-- `ReducedReportReason`. -/
inductive ReducedReportReason where
  | synthesisUnavailable | synthesisTimeout | validationRepairExhausted
  deriving DecidableEq, Repr

def ReducedReportReason.value : ReducedReportReason → String
  | .synthesisUnavailable => "SYNTHESIS_UNAVAILABLE"
  | .synthesisTimeout => "SYNTHESIS_TIMEOUT"
  | .validationRepairExhausted => "VALIDATION_REPAIR_EXHAUSTED"

/-- One value `_market_source_lines` groups: its key, and when it was observed and
retrieved. -/
structure MarketSource where
  symbol : String
  kind : String
  provider : String
  feed : String
  coverage : String
  session : String
  observedStart : UtcDatetime
  observedEnd : UtcDatetime
  retrievedAt : UtcDatetime

/-- The key of the group. -/
def MarketSource.key (s : MarketSource) : List String :=
  [s.symbol, s.kind, s.provider, s.feed, s.coverage, s.session]

/-- The values of one snapshot. -/
def snapshotSources (snapshot : MarketSnapshot) : List MarketSource :=
  let symbol := snapshot.instrument.symbol.text
  (snapshot.latestPrice.toList.map fun price =>
    ⟨symbol, "latest price", price.provider.text, price.feed.text, price.coverage.value,
      price.session.value, price.observedAt, price.observedAt, price.retrievedAt⟩) ++
  (snapshot.completedDailyBars.map fun bar =>
    ⟨symbol, "completed daily bars", bar.provider.text, bar.feed.text, bar.coverage.value,
      bar.session.value, bar.sourceTimestamp, bar.sourceTimestamp, bar.retrievedAt⟩) ++
  snapshot.currentSessionBars.map fun bar =>
    ⟨symbol, "current-session bars", bar.provider.text, bar.feed.text, bar.coverage.value,
      bar.session.value, bar.startAt, bar.endAt, bar.retrievedAt⟩

/-- `coverage_notes`. -/
def coverageNote (coverage : String) : String :=
  if coverage = "consolidated" then "U.S. consolidated coverage"
  else if coverage = "single_exchange" then "one exchange only"
  else if coverage = "unknown" then "coverage is unknown"
  else "coverage is unverified"

/-- `_timestamp_range`. -/
def timestampRange (start stop : UtcDatetime) : String :=
  if start = stop then Calendar.isoformat start
  else Calendar.isoformat start ++ " through " ++ Calendar.isoformat stop

/-- `min` and `max` of times that are there. -/
def earliestTime (times : List UtcDatetime) : UtcDatetime := times.min?.getD 0

def latestTime (times : List UtcDatetime) : UtcDatetime := times.max?.getD 0

/-- The line of one group. -/
def marketSourceLine (u : CharacterDatabase) (group : List MarketSource) (s : MarketSource) :
    String :=
  "- Market-data source: " ++ inlineText u s.symbol ++ " " ++ inlineText u s.kind ++
    "; provider=" ++ inlineText u s.provider ++ "; feed=" ++ inlineText u s.feed ++
    "; coverage=" ++ inlineText u s.coverage ++ " (" ++ coverageNote s.coverage ++ ")" ++
    "; session=" ++ inlineText u s.session ++
    "; observed_at=" ++ timestampRange (earliestTime (group.map MarketSource.observedStart))
      (latestTime (group.map MarketSource.observedEnd)) ++
    "; retrieved_at=" ++ timestampRange (earliestTime (group.map MarketSource.retrievedAt))
      (latestTime (group.map MarketSource.retrievedAt)) ++ "."

/-- `_market_source_lines`. -/
def marketSourceLines (u : CharacterDatabase) (packet : ResearchPacket) : List String :=
  let sources := packet.market.items.flatMap fun entry => snapshotSources entry.2
  let keys := ((sources.map MarketSource.key).eraseDups).insertionSort fun a b => a ≤ b
  keys.flatMap fun key =>
    let group := sources.filter fun s => s.key = key
    group.head?.toList.map (marketSourceLine u group)

/-- `"yes"` or `"no"`. -/
def yesNo (flag : Bool) : String := if flag then "yes" else "no"

/-- `", ".join(_inline_text(item) for item in ids)`. -/
def inlineIds (u : CharacterDatabase) (ids : List Identifier) : String :=
  Text.join ", " (ids.map fun id => inlineText u id.text)

/-- `_event_conflict_lines`. -/
def eventConflictLines (u : CharacterDatabase) (packet : ResearchPacket) : List String :=
  let ordered := packet.events.insertionSort fun a b => a.eventId.text ≤ b.eventId.text
  (ordered.filter fun event => event.conflictEvidenceIds.ids ≠ []).map fun event =>
    "- Source conflict: " ++ inlineText u event.eventId.text ++
      "; event_type=" ++ inlineText u event.eventType.text ++
      "; subject=" ++
        inlineText u ((event.subjectSymbol.map Symbol.text).getD "market-wide") ++
      "; event_time=" ++ Calendar.isoformat event.eventTime ++
      "; materiality=" ++ inlineText u event.materiality.value ++
      "; verified=" ++ yesNo event.verified ++
      "; supporting evidence=" ++
        (if event.supportingEvidenceIds.ids = [] then "none"
          else inlineIds u event.supportingEvidenceIds.ids) ++
      "; conflicting evidence=" ++ inlineIds u event.conflictEvidenceIds.ids ++ "."

/-- `warnings`. -/
def reducedWarnings (u : CharacterDatabase) (packet : ResearchPacket) : List String :=
  (packet.gates.map fun gate =>
    "- " ++ inlineText u gate.gateId.text ++ ": " ++ gate.status.value ++ " (" ++
      inlineText u gate.reasonCode.text ++ ") — " ++ inlineText u gate.message.val) ++
  ((packet.capabilityStates.filter fun state => !state.available).map fun state =>
    "- Disabled capability: " ++ state.capability.value ++ " (" ++
      Text.join ", " (state.reasonCodes.map ErrorCode.value) ++ ")") ++
  marketSourceLines u packet ++ eventConflictLines u packet

def reducedCandidates (u : CharacterDatabase) (packet : ResearchPacket) : List String :=
  packet.candidates.map fun candidate =>
    "- " ++ inlineText u candidate.symbol.text ++ ": " ++ candidate.planStatus.value

def reducedPlanLines (u : CharacterDatabase) (packet : ResearchPacket) : List String :=
  packet.deterministicPlanInputs.map fun plan =>
    "- " ++ inlineText u plan.planId.text ++ " (" ++ inlineText u plan.symbol.text ++
      "): BLOCKED for reduced-report review; frozen status " ++ plan.planStatus.value

def reducedExclusions (u : CharacterDatabase) (packet : ResearchPacket) : List String :=
  packet.candidateExclusions.map fun item =>
    "- " ++ inlineText u item.symbol.text ++ ": " ++ inlineIds u item.reasonCodes

def reducedProvenance (u : CharacterDatabase) (packet : ResearchPacket) : List String :=
  packet.evidence.map fun item =>
    "- " ++ inlineText u item.evidenceId.text ++ ": " ++ inlineText u item.source.provider.text

/-- `section_content`. -/
def reducedContent (u : CharacterDatabase) (packet : ResearchPacket) :
    ReportSection → List String
  | .runStatus => ["- Data quality: " ++ packet.run.dataQualityStatus.value ++ "; delivery: " ++
      packet.run.deliveryStatus.value ++ "."]
  | .watchlistPriorities | .watchlistDashboard => reducedCandidates u packet
  | .tradePlanDrafts => reducedPlanLines u packet
  | .dataWarnings | .dataQualityLimitations => reducedWarnings u packet
  | .blockedExcludedCandidates => reducedExclusions u packet
  | .evidenceIndex => reducedProvenance u packet
  | .methodologyRiskNotice =>
    ["- Research only. Human review is required before any decision."]
  | _ => []

/-- One section. -/
def reducedSection (u : CharacterDatabase) (packet : ResearchPacket) (s : ReportSection) :
    List String :=
  let content := (limitationLines packet s).map (Line.text u) ++ reducedContent u packet s
  ["### " ++ s.value, ""] ++
    (if content = [] then ["- No deterministic reduced content."] else content) ++ [""]

/-- The frozen cutoff of a packet. -/
def ResearchPacket.cutoff (packet : ResearchPacket) : UtcDatetime :=
  packet.run.evidenceCutoffAt.get packet.cutoffFrozen

/-- `render_reduced_report_base`, as text. -/
def reducedReportBase (u : CharacterDatabase) (packet : ResearchPacket) : String :=
  let lines :=
    ["# Premarket Research Brief",
      "",
      "Brief origin: DETERMINISTIC_REDUCED",
      "Market date: " ++ packet.run.runId.marketDate.isoformat,
      "Run ID: " ++ packet.run.runId.text,
      "Execution status: " ++ packet.run.executionStatus.value,
      "Data quality status: " ++ packet.run.dataQualityStatus.value,
      "Delivery status: " ++ packet.run.deliveryStatus.value,
      "Evidence cutoff: " ++ Calendar.isoformat packet.cutoff] ++
    ["", "## Executive Brief", ""] ++ executiveSections.flatMap (reducedSection u packet) ++
    ["", "## Detailed Report", ""] ++ detailedSections.flatMap (reducedSection u packet)
  Text.rstrip u (Text.join "\n" lines) ++ "\n"

/-- `render_reduced_report_base`. -/
def renderReducedReportBase (u : CharacterDatabase) (packet : ResearchPacket) : Bytes :=
  encode (reducedReportBase u packet)

/-- `text.replace(old, new, 1)`, of a text that is not empty. -/
def replaceFirst (old new : List Char) : List Char → List Char
  | [] => []
  | c :: rest =>
    if old.isPrefixOf (c :: rest) then new ++ (c :: rest).drop old.length
    else c :: replaceFirst old new rest

example : replaceFirst "ab".toList "x".toList "cabab".toList = "cxab".toList := by decide

/-- `render_reduced_report`. -/
def renderReducedReport (u : CharacterDatabase) (packet : ResearchPacket)
    (reason : ReducedReportReason) : String :=
  let rendered := replaceFirst "Brief origin: DETERMINISTIC_REDUCED\n".toList
    ("Brief origin: DETERMINISTIC_REDUCED\nFallback reason: " ++ reason.value ++ "\n").toList
    (reducedReportBase u packet).toList
  String.ofList (replaceFirst
    ("Execution status: " ++ packet.run.executionStatus.value ++ "\n").toList
    "Execution status: PUBLISHED\n".toList rendered)

/-! ## The operational report -/

/-- The text of the report, from what it takes of the run. -/
def operationalReportText (r : RunId) (quality : DataQualityStatus) (delivery : DeliveryStatus)
    (reason : ErrorCode) : String :=
  "# Premarket Operational Report\n" ++
  "\n" ++
  "Brief origin: OPERATIONAL\n" ++
  "Run ID: " ++ r.text ++ "\n" ++
  "Market date: " ++ r.marketDate.isoformat ++ "\n" ++
  "Execution status: " ++ ExecutionStatus.published.value ++ "\n" ++
  "Data quality status: " ++ quality.value ++ "\n" ++
  "Delivery status: " ++ delivery.value ++ "\n" ++
  "Failure code: " ++ reason.value ++ "\n" ++
  "\n" ++
  "No market conclusion or trade plan is available.\n" ++
  "Human review is required before any decision.\n"

/-- `render_operational_report`. -/
def renderOperationalReport (run : RunContext) (reason : ErrorCode) : String :=
  operationalReportText run.runId run.dataQualityStatus run.deliveryStatus reason

end FinanceResearch
