import FinanceResearch.Plans.Records

/-!
# The event overlay

`assess_event_risk` of `domain/events.py`: gates for the macro calendar, for conflicting
sources, for evidence retrieved late, and for earnings, halts and unverified events.

Mirroring notes vs the source:
- What `_utc` and the strict enum check has its type here.
- `projections` is the list of the projections, each under its own event id.
- The gates of one event are requested first (`requests`) and built in their order; what an event
  adds to the flags and the risks does not depend on a gate.
- Gate messages are literals of legal length. Identifiers are ASCII.
-/

namespace FinanceResearch.Events

open Calendar (UtcDatetime)
open Plans (EventAssessment)

/-- What the overlay raises: its own checks, or a validator of a record it builds. -/
inductive EventError where
  | valueError (message : String)
  | validation (record : String)
  deriving DecidableEq, Repr

/-- `EventEvidenceProjection`. -/
structure EventEvidenceProjection where
  eventId : Identifier
  retrievedAt : UtcDatetime
  supportingAuthorityTier : Nat
  conflictingAuthorityTier : Option Nat
  supportingBounded : 1 ≤ supportingAuthorityTier ∧ supportingAuthorityTier ≤ 255
  conflictingBounded : ∀ tier ∈ conflictingAuthorityTier, 1 ≤ tier ∧ tier ≤ 255

/-- The arguments of `assess_event_risk`. -/
structure EventInput where
  instrument : InstrumentIdentity
  events : List EventRecord
  planExpiresAt : UtcDatetime
  evidenceCutoffAt : UtcDatetime
  sourceHealth : List SourceHealth
  eventEvidence : List EventEvidenceProjection
  unverifiedMaterialStatus : PlanStatus

/-- `_CONSERVATIVE_MATERIALITY`. -/
def conservativeMateriality : List Materiality := [.medium, .high, .unknown]

/-- `_MACRO_TYPES`. -/
def macroTypes : List String := ["FED", "FOMC", "CPI", "PPI", "EMPLOYMENT", "GDP", "MACRO"]

/-- The types that block an instrument whatever else is known. -/
def blockingTypes : List String := ["HALT", "CORPORATE_ACTION", "IDENTITY_UNCERTAIN"]

/-- `text.lower()`, of an identifier. -/
def lower (text : String) : String := String.ofList (text.toList.map Char.toLower)

/-- `text.upper()`, of an identifier. -/
def upper (text : String) : String := String.ofList (text.toList.map Char.toUpper)

/-- `event.event_type.upper()`. -/
def eventType (event : EventRecord) : String := upper event.eventType.text

/-! ## Gates -/

/-- The arguments of one call of `_gate`. -/
structure GateRequest where
  status : GateStatus
  reason : ErrorCode
  message : BoundedText 1 500

/-- `_gate`, with the checks of `GateResult`. -/
def gate (request : GateRequest) (evidenceIds : List Identifier) : Except EventError Plans.GateResult :=
  if h : Identifier.IsLegal ("event-" ++ lower request.reason.value) ∧
      Identifier.IsLegal request.reason.value ∧ evidenceIds.length ≤ 256 ∧ evidenceIds.Nodup then
    pure {
      gateId := ⟨"event-" ++ lower request.reason.value, h.1⟩
      status := request.status
      reasonCode := ⟨request.reason.value, h.2.1⟩
      message := request.message
      evidenceIds := ⟨evidenceIds, h.2.2⟩
      capability := .planDraftAvailable
      ruleVersion := "r5-events-1" }
  else throw (.validation "GateResult")

/-- A macro calendar. -/
def isMacroCalendar (health : SourceHealth) : Bool :=
  Text.contains health.provider.text "macro" ||
    ["federal_reserve", "fed", "bls", "bea"].contains health.provider.text

/-- `_macro_unavailable`. -/
def macroUnavailable (sourceHealth : List SourceHealth) : Bool :=
  sourceHealth.any fun health => !health.available && health.required && isMacroCalendar health

/-- `_has_required_macro_health`. -/
def hasRequiredMacroHealth (sourceHealth : List SourceHealth) : Bool :=
  sourceHealth.any fun health => health.required && isMacroCalendar health

/-- The gate for a missing macro calendar. -/
def healthRequest (input : EventInput) : Option GateRequest :=
  if hasRequiredMacroHealth input.sourceHealth then none
  else some ⟨.block, .configurationInvalid,
    ⟨"required macro calendar health is missing", by decide⟩⟩

/-- The gate for a macro calendar that does not answer. -/
def macroRequest (input : EventInput) : Option GateRequest :=
  if macroUnavailable input.sourceHealth then
    some ⟨.block, .providerUnavailable, ⟨"required macro calendar is unavailable", by decide⟩⟩
  else none

/-! ## One event -/

/-- `tuple(dict.fromkeys((*event.supporting_evidence_ids, *event.conflict_evidence_ids)))`. -/
def evidenceIds (event : EventRecord) : List Identifier :=
  (event.supportingEvidenceIds.ids ++ event.conflictEvidenceIds.ids).eraseDups

/-- `unresolved`. -/
def unresolved (projection : Option EventEvidenceProjection) : Bool :=
  match projection with
  | none => true
  | some projection =>
    match projection.conflictingAuthorityTier with
    | none => true
    | some tier => decide (tier ≤ projection.supportingAuthorityTier)

/-- The gate for a conflict that is not resolved. -/
def conflictRequest (event : EventRecord) (projection : Option EventEvidenceProjection) :
    Option GateRequest :=
  if event.conflictEvidenceIds.ids ≠ [] ∧ event.materiality ∈ conservativeMateriality ∧
      unresolved projection = true then
    some ⟨.block, .sourceConflict,
      ⟨"material unresolved source conflict requires resolution", by decide⟩⟩
  else none

/-- `event_projection is not None and event_projection.retrieved_at > evidence_cutoff_at`. -/
def late (input : EventInput) (projection : Option EventEvidenceProjection) : Bool :=
  projection.any fun projection => decide (input.evidenceCutoffAt < projection.retrievedAt)

/-- The gate for evidence retrieved late. -/
def cutoffRequest (input : EventInput) (projection : Option EventEvidenceProjection) :
    Option GateRequest :=
  if late input projection then
    some ⟨.block, .evidenceCutoffViolation,
      ⟨"post-cutoff evidence requires a new revision", by decide⟩⟩
  else none

/-- The gate of the `if`, `elif`, `elif`. -/
def kindRequest (input : EventInput) (event : EventRecord) : Option GateRequest :=
  if eventType event = "EARNINGS" ∧ event.verified = true ∧
      input.evidenceCutoffAt ≤ event.eventTime ∧ event.eventTime ≤ input.planExpiresAt then
    some ⟨.block, .unsupportedInstrument,
      ⟨"verified earnings fall inside plan lifetime", by decide⟩⟩
  else if eventType event ∈ blockingTypes then
    some ⟨.block, .unsupportedInstrument,
      ⟨"halt, corporate action, or identity uncertainty blocks the instrument", by decide⟩⟩
  else if event.verified = false ∧ event.materiality ∈ conservativeMateriality then
    if input.unverifiedMaterialStatus = .blocked then
      some ⟨.block, .providerNoData,
        ⟨"unverified material event is blocked by source policy", by decide⟩⟩
    else
      some ⟨.warning, .providerNoData, ⟨"unverified material event requires review", by decide⟩⟩
  else none

/-- `projections.get(event.event_id)`. -/
def projectionOf (projections : List EventEvidenceProjection) (event : EventRecord) :
    Option EventEvidenceProjection :=
  projections.find? fun projection => projection.eventId = event.eventId

/-- The gates of one event, in the order of the code. -/
def requests (input : EventInput) (projections : List EventEvidenceProjection) (event : EventRecord) :
    List GateRequest :=
  (conflictRequest event (projectionOf projections event)).toList ++
    (cutoffRequest input (projectionOf projections event)).toList ++ (kindRequest input event).toList

/-- What one event adds to the flags. -/
def eventFlags (input : EventInput) (projections : List EventEvidenceProjection)
    (event : EventRecord) : List String :=
  (if event.conflictEvidenceIds.ids ≠ [] then [ErrorCode.sourceConflict.value] else []) ++
    (if late input (projectionOf projections event) then [ErrorCode.evidenceCutoffViolation.value]
    else [])

/-- The event is a risk of its own. -/
def isRisk (event : EventRecord) : Bool :=
  decide (eventType event ∈ macroTypes ∧ event.materiality = .high)

/-! ## The overlay -/

/-- `relevant_events`. -/
def relevantEvents (input : EventInput) : List EventRecord :=
  input.events.filter fun event =>
    event.subjectSymbol = none ∨ event.subjectSymbol = some input.instrument.symbol

/-- The body of the loop over the projections. -/
def addProjection (supplied : List Identifier) (projections : List EventEvidenceProjection)
    (projection : EventEvidenceProjection) : Except EventError (List EventEvidenceProjection) := do
  Fallible.require (projection.eventId ∈ supplied) (.valueError "unknown event evidence projection")
  Fallible.require (projection.eventId ∉ projections.map EventEvidenceProjection.eventId)
    (.valueError "duplicate event evidence projection")
  pure (projections ++ [projection])

/-- The status that the gates ask for. -/
def statusOf (statuses : List GateStatus) : PlanStatus :=
  if .block ∈ statuses then .blocked
  else if .warning ∈ statuses then .reviewRequired
  else .draft

/-- `EventAssessment._consistent_status`. -/
def consistentStatus (assessment : EventAssessment) : Except EventError EventAssessment := do
  let statuses := assessment.gates.map Plans.GateResult.status
  Fallible.require (assessment.planStatus ∈ [.draft, .reviewRequired, .blocked])
    (.validation "EventAssessment")
  Fallible.require (¬ (assessment.planStatus = .draft ∧ (.block ∈ statuses ∨ .warning ∈ statuses)))
    (.validation "EventAssessment")
  Fallible.require
    (¬ (assessment.planStatus = .reviewRequired ∧ (.block ∈ statuses ∨ .warning ∉ statuses)))
    (.validation "EventAssessment")
  Fallible.require (¬ (assessment.planStatus = .blocked ∧ .block ∉ statuses))
    (.validation "EventAssessment")
  pure assessment

/-- `assess_event_risk`. -/
def assessEventRisk (input : EventInput) : Except EventError EventAssessment := do
  Fallible.require (input.evidenceCutoffAt < input.planExpiresAt)
    (.valueError "plan expiry must follow evidence cutoff")
  Fallible.require (input.events.map EventRecord.eventId).Nodup (.valueError "duplicate event id")
  let healthGates ← (healthRequest input).toList.mapM fun request => gate request []
  let projections ← input.eventEvidence.foldlM
    (addProjection (input.events.map EventRecord.eventId)) []
  Fallible.require (∀ event ∈ relevantEvents input,
      event.supportingEvidenceIds.ids ≠ [] ∨ event.conflictEvidenceIds.ids ≠ [] →
        event.eventId ∈ projections.map EventEvidenceProjection.eventId)
    (.valueError "missing event evidence projection")
  Fallible.require (input.unverifiedMaterialStatus ∈ [.reviewRequired, .blocked])
    (.valueError "unverified material status must require review or block")
  let macroGates ← (macroRequest input).toList.mapM fun request => gate request []
  let eventGates ← (relevantEvents input).mapM fun event =>
    (requests input projections event).mapM fun request => gate request (evidenceIds event)
  let gates := healthGates ++ macroGates ++ eventGates.flatten
  let risks := ((relevantEvents input).filter isRisk).map fun event => event.eventId.text
  consistentStatus {
    planStatus := statusOf (gates.map Plans.GateResult.status)
    gates := gates
    eventRisks := risks.eraseDups
    noTradeConditions := risks.eraseDups
    qualityFlags := ((relevantEvents input).flatMap (eventFlags input projections)).eraseDups }

end FinanceResearch.Events
