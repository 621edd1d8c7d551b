import FinanceResearch.Events.Overlay
import FinanceResearch.Lib.Groups
import Mathlib.Data.Prod.Lex

/-!
# Merging event providers

`CompositeEventProvider.collect_events` of `adapters/events.py`: the providers are
asked one after the other, a provider that raises becomes a health entry and a
failure, and the records of one type, subject and time become one event.

Mirroring notes vs the source:
- A provider is its id and what it answers to a request: a collection, or an
  exception of a type. `isinstance(value, EventCollection)` has its type here.
- `provider_id` is any string; the records of a provider that raises need an
  `Identifier`, and their validation is what escapes the loop.
- `same` is `==` of two evidence items, which compares their JSON values as Python
  does. Equality of the other records is that of their fields.
- A Python set is a list here; each one is sorted or counted.
- `min` raises on an empty sequence; a group has a first record.
-/

namespace FinanceResearch.Events

open Calendar (UtcDatetime)

deriving instance DecidableEq for EventRecord

/-! ## Providers -/

/-- `EventCollection`. -/
structure EventCollection where
  provider : Identifier
  events : List EventRecord
  evidence : List EvidenceItem
  sourceObservations : List SourceObservation
  sourceHealth : List SourceHealth
  failures : List ProviderFailure

/-- The arguments of `collect_events`. -/
structure EventRequest where
  symbols : List String
  start : UtcDatetime
  stop : UtcDatetime
  cutoffAt : UtcDatetime

/-- An `EventProvider`; an exception is named by its type. -/
structure EventProvider where
  providerId : String
  collectEvents : EventRequest → Except String EventCollection

/-- What the composite raises: a validator of a record it builds, or `min`. -/
inductive CompositeError where
  | validation (record : String)
  | emptySequence
  deriving DecidableEq, Repr

theorem failureMessage_bounded (errorType : String) :
    0 ≤ (String.ofList (("event provider failed: " ++ errorType).toList.take 256)).length ∧
      (String.ofList (("event provider failed: " ++ errorType).toList.take 256)).length ≤ 256 := by
  rw [String.length_ofList]
  exact ⟨Nat.zero_le _, List.length_take_le _ _⟩

/-- `f"event provider failed: {type(error).__name__}"[:256]`. -/
def failureMessage (errorType : String) : BoundedText 0 256 :=
  ⟨String.ofList (("event provider failed: " ++ errorType).toList.take 256),
    failureMessage_bounded errorType⟩

/-- `SourceHealth` of a provider that raised. -/
def healthOf (provider : Identifier) (errorType : String) : SourceHealth where
  provider := provider
  available := false
  required := false
  emptyValid := false
  errorCode := some .internalError
  message := failureMessage errorType
  emptyAvailable := fun h => h
  unavailableCoded := ⟨fun _ => rfl, fun _ => rfl⟩

/-- `ProviderFailure` of a provider that raised. -/
def failureOf (provider : Identifier) (errorType : String) : ProviderFailure where
  provider := provider
  symbol := none
  errorCode := .internalError
  retryable := false
  message := failureMessage errorType

/-- The lists of the first loop. -/
structure Collected where
  collections : List EventCollection
  sourceHealth : List SourceHealth
  failures : List ProviderFailure

/-- The body of the loop over the providers. -/
def askProvider (request : EventRequest) (state : Collected) (provider : EventProvider) :
    Except CompositeError Collected :=
  match provider.collectEvents request with
  | .ok value => pure {
      collections := state.collections ++ [value]
      sourceHealth := state.sourceHealth ++ value.sourceHealth
      failures := state.failures ++ value.failures }
  | .error errorType =>
    if h : Identifier.IsLegal provider.providerId then
      pure { state with
        sourceHealth := state.sourceHealth ++ [healthOf ⟨provider.providerId, h⟩ errorType]
        failures := state.failures ++ [failureOf ⟨provider.providerId, h⟩ errorType] }
    else throw (.validation "SourceHealth")

/-! ## One merged event -/

/-- The key of `grouped`. -/
abbrev Occurrence := Identifier × Option Symbol × UtcDatetime

/-- `(event.event_type, event.subject_symbol, event.event_time)`. -/
def occurrenceOf (event : EventRecord) : Occurrence :=
  (event.eventType, event.subjectSymbol, event.eventTime)

/-- `materiality_rank`. -/
def materialityRank : Materiality → Nat
  | .unknown => 0
  | .low => 1
  | .medium => 2
  | .high => 3

/-- `min(records, key=lambda record: record.event_id)` from the first record on. -/
def firstRecord (first : EventRecord) (rest : List EventRecord) : EventRecord :=
  rest.foldl (fun best record => if record.eventId.text < best.eventId.text then record else best) first

/-- `max((record.materiality for record in records), key=…)` from the first record on. -/
def maxMateriality (first : EventRecord) (rest : List EventRecord) : Materiality :=
  rest.foldl
    (fun best record =>
      if materialityRank best < materialityRank record.materiality then record.materiality else best)
    first.materiality

/-- `tuple(sorted(set(ids)))`. -/
def sortedIds (ids : List Identifier) : List Identifier :=
  Groups.sortedOn Identifier.text ids.eraseDups

/-- `supporting_ids`. -/
def supportingIds (records : List EventRecord) : List Identifier :=
  sortedIds (records.flatMap fun record => record.supportingEvidenceIds.ids)

/-- `len(competing_values) > 1`. -/
def competing (records : List EventRecord) : Bool :=
  decide (1 < (Dicts.keys (fun record => (record.verified, record.materiality)) records).length)

/-- `tuple(sorted(conflict_ids))`. -/
def conflictIds (records : List EventRecord) : List Identifier :=
  sortedIds ((records.flatMap fun record => record.conflictEvidenceIds.ids) ++
    if competing records then supportingIds records else [])

/-- An `EvidenceIds` field of the record. -/
def evidenceIdsOf (ids : List Identifier) : Except CompositeError EvidenceIds :=
  if h : ids.length ≤ 256 ∧ ids.Nodup then pure ⟨ids, h⟩ else throw (.validation "EventRecord")

/-- The event of one group. -/
def mergedEvent (group : Occurrence × List EventRecord) : Except CompositeError EventRecord := do
  match group.2.eraseDups with
  | [] => throw .emptySequence
  | first :: rest =>
    let records := first :: rest
    let supporting ← evidenceIdsOf (supportingIds records)
    let conflicts ← evidenceIdsOf (conflictIds records)
    pure {
      eventId := (firstRecord first rest).eventId
      eventType := group.1.1
      subjectSymbol := group.1.2.1
      eventTime := group.1.2.2
      verified := records.any EventRecord.verified
      materiality := maxMateriality first rest
      supportingEvidenceIds := supporting
      conflictEvidenceIds := conflicts }

/-! ## The collection -/

/-- `(event.event_time, event.event_type, event.event_id)`. -/
def eventKey (event : EventRecord) : UtcDatetime ×ₗ String ×ₗ String :=
  toLex (event.eventTime, toLex (event.eventType.text, event.eventId.text))

/-- `(item.provider, item.error_code.value if item.error_code else "", item.message)`. -/
def healthKey (health : SourceHealth) : String ×ₗ String ×ₗ String :=
  toLex (health.provider.text, toLex ((health.errorCode.map ErrorCode.value).getD "", health.message.val))

/-- `(item.provider, item.symbol or "", item.error_code.value, item.message)`. -/
def failureKey (failure : ProviderFailure) : String ×ₗ String ×ₗ String ×ₗ String :=
  toLex (failure.provider.text, toLex ((failure.symbol.map Symbol.text).getD "",
    toLex (failure.errorCode.value, failure.message.val)))

theorem composite_legal : Identifier.IsLegal "composite" := by decide

/-- `CompositeEventProvider.provider_id`. -/
def compositeId : Identifier := ⟨"composite", composite_legal⟩

/-- `CompositeEventProvider.collect_events`. -/
def collectEvents (same : EvidenceItem → EvidenceItem → Bool) (providers : List EventProvider)
    (request : EventRequest) : Except CompositeError EventCollection := do
  let collected ← providers.foldlM (askProvider request) ⟨[], [], []⟩
  let evidence := Groups.keptOf same (collected.collections.flatMap EventCollection.evidence)
  let observations := (collected.collections.flatMap EventCollection.sourceObservations).eraseDups
  let grouped := Groups.grouped occurrenceOf (collected.collections.flatMap EventCollection.events)
  let events ← grouped.mapM mergedEvent
  pure {
    provider := compositeId
    events := Groups.sortedOn eventKey events
    evidence := Groups.sortedOn (fun item => item.evidenceId.text) evidence
    sourceObservations := Groups.sortedOn (fun item => item.observationId.text) observations
    sourceHealth := Groups.sortedOn healthKey collected.sourceHealth
    failures := Groups.sortedOn failureKey collected.failures }

end FinanceResearch.Events
