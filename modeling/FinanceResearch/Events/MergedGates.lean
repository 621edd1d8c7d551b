import FinanceResearch.Events.Merging
import FinanceResearch.Events.Monotone

/-!
# Merging does not weaken the overlay

`assess_event_risk` on the events of a composite is at least as strict as on any one
record that a provider reported, under the projection of the event it was merged into
(`collectEvents_no_weaker`). Two things only can soften a record, and both are named:
`materiality_rank` puts UNKNOWN below LOW, so an unknown materiality beside a low one
counts as low; and a record that another source verified needs no review, unless the
sources' evidence is in a conflict that nothing resolves.
-/

namespace FinanceResearch.Events

open Calendar (UtcDatetime)

/-- The overlay's arguments with one record only, under the projection of `merged`. -/
def alone (input : EventInput) (record merged : EventRecord) : EventInput :=
  { input with
    events := [record]
    eventEvidence := ((projectionOf input.eventEvidence merged).map fun projection =>
      { projection with eventId := record.eventId }).toList }

/-- The record asks for a review that its merged event need not ask for. -/
def Reviewed (input : EventInput) (record merged : EventRecord) : Prop :=
  record.verified = false ∧ record.materiality ∈ conservativeMateriality ∧
    eventType record ∉ blockingTypes ∧ merged.verified = true ∧
    ¬ (eventType record = "EARNINGS" ∧
      input.evidenceCutoffAt ≤ record.eventTime ∧ record.eventTime ≤ input.planExpiresAt)

/-- What merging must not have done to the record. -/
structure NotSoftened (input : EventInput) (record merged : EventRecord) : Prop where
  materiality : record.materiality = .unknown → merged.materiality ≠ .low
  review : Reviewed input record merged →
    (merged.supportingEvidenceIds.ids ≠ [] ∨ merged.conflictEvidenceIds.ids ≠ []) ∧
      unresolved (projectionOf input.eventEvidence merged) = true

variable {input : EventInput} {record merged : EventRecord} {records : List EventRecord}

theorem projectionOf_alone : projectionOf (alone input record merged).eventEvidence record =
    (projectionOf input.eventEvidence merged).map fun projection =>
      { projection with eventId := record.eventId } := by
  unfold alone projectionOf
  cases input.eventEvidence.find? fun projection => projection.eventId = merged.eventId with
  | none => rfl
  | some projection => simp [List.find?]

theorem unresolved_alone : unresolved (projectionOf (alone input record merged).eventEvidence record) =
    unresolved (projectionOf input.eventEvidence merged) := by
  rw [projectionOf_alone]
  cases projectionOf input.eventEvidence merged with
  | none => rfl
  | some projection => rfl

theorem late_alone : late (alone input record merged) (projectionOf (alone input record merged).eventEvidence record) =
    late input (projectionOf input.eventEvidence merged) := by
  rw [projectionOf_alone]
  cases projectionOf input.eventEvidence merged with
  | none => rfl
  | some projection => rfl

/-- Merging keeps a conservative materiality, unless it turns an unknown one into a low one. -/
theorem Merges.conservative (h : Merges records merged) (hrecord : record ∈ records)
    (hlow : record.materiality = .unknown → merged.materiality ≠ .low)
    (hmaterial : record.materiality ∈ conservativeMateriality) :
    merged.materiality ∈ conservativeMateriality := by
  have hrank := h.material.2 record hrecord
  cases hm : merged.materiality with
  | low =>
    rw [hm] at hrank hlow
    cases hr : record.materiality with
    | low =>
      rw [hr] at hmaterial
      exact absurd hmaterial (by decide)
    | medium =>
      rw [hr] at hrank
      exact absurd hrank (by decide)
    | high =>
      rw [hr] at hrank
      exact absurd hrank (by decide)
    | unknown => exact absurd rfl (hlow hr)
  | medium => decide
  | high => decide
  | unknown => decide

theorem Merges.kind (h : Merges records merged) (hrecord : record ∈ records) :
    eventType merged = eventType record ∧ merged.eventTime = record.eventTime ∧
      merged.subjectSymbol = record.subjectSymbol := by
  have hsame := h.same record hrecord
  unfold occurrenceOf at hsame
  refine ⟨?_, ?_, ?_⟩
  · exact congrArg (fun key : Occurrence => upper key.1.text) hsame.symm
  · exact congrArg (fun key : Occurrence => key.2.2) hsame.symm
  · exact congrArg (fun key : Occurrence => key.2.1) hsame.symm

/-- A record that some source verified and this one did not is in a conflict about all evidence
that is cited. -/
theorem Merges.conflicting (h : Merges records merged) (hrecord : record ∈ records)
    (hopen : record.verified = false) (hverified : merged.verified = true)
    (hcites : merged.supportingEvidenceIds.ids ≠ [] ∨ merged.conflictEvidenceIds.ids ≠ []) :
    merged.conflictEvidenceIds.ids ≠ [] := by
  rcases hcites with hcites | hcites
  · obtain ⟨other, hother, hknown⟩ := h.verified.mp hverified
    obtain ⟨id, hid⟩ := List.exists_mem_of_ne_nil _ hcites
    have hdisagree : Disagree record other := by
      refine Or.inl ?_
      rw [hopen, hknown]
      decide
    exact List.ne_nil_of_mem ((h.conflicts.2 id).mpr
      (Or.inr ⟨⟨record, hrecord, other, hother, hdisagree⟩, (h.supporting.2 id).mp hid⟩))
  · exact hcites

/-- Verified earnings inside the plan lifetime block. -/
theorem kindRequest_earnings {event : EventRecord} (h : eventType event = "EARNINGS" ∧ event.verified = true ∧
    input.evidenceCutoffAt ≤ event.eventTime ∧ event.eventTime ≤ input.planExpiresAt) :
    ∃ request ∈ kindRequest input event, request.status = .block := by
  unfold kindRequest
  rw [if_pos h]
  exact ⟨_, rfl, rfl⟩

/-- A halt, a corporate action and a doubt about the identity block. -/
theorem kindRequest_blocking {event : EventRecord} (h : eventType event ∈ blockingTypes) :
    ∃ request ∈ kindRequest input event, request.status = .block := by
  unfold kindRequest
  by_cases hearnings : eventType event = "EARNINGS" ∧ event.verified = true ∧
      input.evidenceCutoffAt ≤ event.eventTime ∧ event.eventTime ≤ input.planExpiresAt
  · rw [if_pos hearnings]
    exact ⟨_, rfl, rfl⟩
  · rw [if_neg hearnings, if_pos h]
    exact ⟨_, rfl, rfl⟩

/-- A material conflict that nothing resolves blocks. -/
theorem conflictRequest_blocks {event : EventRecord} {projection : Option EventEvidenceProjection}
    (h : event.conflictEvidenceIds.ids ≠ [] ∧ event.materiality ∈ conservativeMateriality ∧
      unresolved projection = true) :
    ∃ request ∈ conflictRequest event projection, request.status = .block := by
  unfold conflictRequest
  rw [if_pos h]
  exact ⟨_, rfl, rfl⟩

/-- **The gates of a record are covered by those of its merged event.** -/
theorem Merges.covered (h : Merges records merged) (hrecord : record ∈ records)
    (hkept : NotSoftened input record merged) :
    ∀ request ∈ requests (alone input record merged) (alone input record merged).eventEvidence record,
      ∃ other ∈ requests input input.eventEvidence merged,
        other.status = request.status ∨ other.status = .block := by
  obtain ⟨htype, htime, -⟩ := h.kind hrecord
  intro request hrequest
  rcases mem_requests.mp hrequest with hrequest | hrequest | hrequest
  · have hcovered : Covered
        (conflictRequest record (projectionOf (alone input record merged).eventEvidence record))
        (conflictRequest merged (projectionOf input.eventEvidence merged)) := by
      refine covered_ite ?_ _
      rw [unresolved_alone]
      rintro ⟨hids, hmaterial, hunresolved⟩
      obtain ⟨id, hid⟩ := List.exists_mem_of_ne_nil _ hids
      refine ⟨?_, h.conservative hrecord hkept.materiality hmaterial, hunresolved⟩
      exact List.ne_nil_of_mem ((h.conflicts.2 id).mpr (Or.inl ⟨record, hrecord, hid⟩))
    obtain ⟨other, hother, hstatus⟩ := hcovered request hrequest
    exact ⟨other, mem_requests.mpr (Or.inl hother), hstatus⟩
  · have hcovered : Covered
        (cutoffRequest (alone input record merged) (projectionOf (alone input record merged).eventEvidence record))
        (cutoffRequest input (projectionOf input.eventEvidence merged)) := by
      refine covered_ite ?_ _
      rw [late_alone]
      exact id
    obtain ⟨other, hother, hstatus⟩ := hcovered request hrequest
    exact ⟨other, mem_requests.mpr (Or.inr (Or.inl hother)), hstatus⟩
  · have hkind : (∃ other ∈ kindRequest input merged, other.status = request.status ∨ other.status = .block) →
        ∃ other ∈ requests input input.eventEvidence merged,
          other.status = request.status ∨ other.status = .block := by
      rintro ⟨other, hother, hstatus⟩
      exact ⟨other, mem_requests.mpr (Or.inr (Or.inr hother)), hstatus⟩
    have hask : kindRequest (alone input record merged) record = some request := hrequest
    unfold kindRequest at hask
    by_cases hearnings : eventType merged = "EARNINGS" ∧ merged.verified = true ∧
        input.evidenceCutoffAt ≤ merged.eventTime ∧ merged.eventTime ≤ input.planExpiresAt
    · -- verified earnings inside the plan lifetime block whatever this record says
      obtain ⟨other, hother, hblock⟩ := kindRequest_earnings hearnings
      exact hkind ⟨other, hother, Or.inr hblock⟩
    · have hrecordEarnings : ¬ (eventType record = "EARNINGS" ∧ record.verified = true ∧
          (alone input record merged).evidenceCutoffAt ≤ record.eventTime ∧
          record.eventTime ≤ (alone input record merged).planExpiresAt) := by
        rintro ⟨hkindIs, hverified, hinside⟩
        exact hearnings ⟨htype.trans hkindIs, h.verified.mpr ⟨record, hrecord, hverified⟩, htime ▸ hinside⟩
      rw [if_neg hrecordEarnings] at hask
      by_cases hblocking : eventType record ∈ blockingTypes
      · have hstill : eventType merged ∈ blockingTypes := htype ▸ hblocking
        obtain ⟨other, hother, hblock⟩ := @kindRequest_blocking input merged hstill
        exact hkind ⟨other, hother, Or.inr hblock⟩
      · rw [if_neg hblocking] at hask
        by_cases hopen : record.verified = false ∧ record.materiality ∈ conservativeMateriality
        · rw [if_pos hopen] at hask
          have hmaterial := h.conservative hrecord hkept.materiality hopen.2
          by_cases hverified : merged.verified = true
          · -- another source verified it: the disagreement is what blocks
            have hreviewed : Reviewed input record merged := by
              refine ⟨hopen.1, hopen.2, hblocking, hverified, ?_⟩
              rintro ⟨hkindIs, hinside⟩
              exact hearnings ⟨htype.trans hkindIs, hverified, htime ▸ hinside⟩
            obtain ⟨hcites, hunresolved⟩ := hkept.review hreviewed
            have hconflicts := h.conflicting hrecord hopen.1 hverified hcites
            obtain ⟨other, hother, hblock⟩ := conflictRequest_blocks ⟨hconflicts, hmaterial, hunresolved⟩
            exact ⟨other, mem_requests.mpr (Or.inl hother), Or.inr hblock⟩
          · have hstill : merged.verified = false := by simpa using hverified
            refine hkind ⟨request, ?_, Or.inl rfl⟩
            show kindRequest input merged = some request
            unfold kindRequest
            rw [if_neg hearnings, if_neg (htype ▸ hblocking), if_pos ⟨hstill, hmaterial⟩]
            exact hask
        · rw [if_neg hopen] at hask
          cases hask

/-- **Merging never weakens the overlay**: on the events of a composite it is at least as strict as
on any record of any provider alone, unless merging has softened that record. -/
theorem collectEvents_no_weaker {same : EvidenceItem → EvidenceItem → Bool}
    {providers : List EventProvider} {request : EventRequest} {collection : EventCollection}
    (hcollect : collectEvents same providers request = .ok collection) {input : EventInput}
    (hevents : input.events = collection.events) {record merged : EventRecord}
    (hreported : record ∈ reported request providers) (hmerged : merged ∈ collection.events)
    (hoccurrence : occurrenceOf merged = occurrenceOf record) (hkept : NotSoftened input record merged)
    {single all : Plans.EventAssessment}
    (hsingle : assessEventRisk (alone input record merged) = .ok single)
    (hall : assessEventRisk input = .ok all) :
    strictness single.planStatus ≤ strictness all.planStatus := by
  have hmerges := (collectEvents_keeps hcollect).merges merged hmerged
  have hrecord : record ∈ recordsOf (reported request providers) (occurrenceOf merged) :=
    mem_recordsOf.mpr ⟨hreported, hoccurrence.symm⟩
  rw [(assessEventRisk_spec hsingle).2.2, (assessEventRisk_spec hall).2.2]
  apply strictness_statusOf_mono
  intro status hstatus
  obtain ⟨request, hrequest, rfl⟩ := List.mem_map.mp hstatus
  have hcovered : ∃ other ∈ wanted input, other.status = request.status ∨ other.status = .block := by
    unfold wanted at hrequest ⊢
    simp only [List.mem_append, List.mem_flatMap] at hrequest ⊢
    rcases hrequest with (hrequest | hrequest) | ⟨event, hevent, hrequest⟩
    · exact ⟨request, Or.inl (Or.inl hrequest), Or.inl rfl⟩
    · exact ⟨request, Or.inl (Or.inr hrequest), Or.inl rfl⟩
    · obtain ⟨honly, hrelevant⟩ := List.mem_filter.mp hevent
      have hevent : event = record := List.mem_singleton.mp honly
      subst hevent
      obtain ⟨other, hother, hstatus⟩ := hmerges.covered hrecord hkept request hrequest
      refine ⟨other, Or.inr ⟨merged, ?_, hother⟩, hstatus⟩
      unfold relevantEvents
      rw [List.mem_filter, (hmerges.kind hrecord).2.2, hevents]
      exact ⟨hmerged, hrelevant⟩
  obtain ⟨other, hother, hstatus⟩ := hcovered
  exact ⟨other.status, List.mem_map_of_mem hother, hstatus⟩

/-! ## A source that verifies what another reported -/

theorem noIds_legal : ([] : List Identifier).length ≤ 256 ∧ ([] : List Identifier).Nodup :=
  ⟨Nat.zero_le _, List.nodup_nil⟩

/-- Reported by the first source, and not verified. -/
def unverifiedRecord : EventRecord := { sampleEvent oneId with conflictEvidenceIds := ⟨[], noIds_legal⟩ }

def sampleSources : List EventProvider :=
  [⟨"first", fun _ => .ok ⟨compositeId, [unverifiedRecord], [], [], [], []⟩⟩,
    ⟨"second", fun _ => .ok ⟨compositeId, [{ unverifiedRecord with verified := true }], [], [], [], []⟩⟩]

def sampleEventRequest : EventRequest := ⟨[], 0, 2, 0⟩

/-- The sources disagree, so the evidence is in conflict. -/
def sampleMerged : EventRecord := { sampleEvent oneId with verified := true }

theorem sampleSources_collected : collectEvents (fun _ _ => false) sampleSources sampleEventRequest =
    .ok ⟨compositeId, [sampleMerged], [], [], [], []⟩ := rfl

def mergedInput : EventInput := { sampleInput oneId with events := [sampleMerged] }

theorem sample_notSoftened : NotSoftened mergedInput unverifiedRecord sampleMerged where
  materiality := fun h => absurd h (by decide)
  review := fun _ => ⟨Or.inl (List.cons_ne_nil _ _), rfl⟩

theorem collectEvents_no_weaker_disputed : ∃ single all,
    assessEventRisk (alone mergedInput unverifiedRecord sampleMerged) = .ok single ∧
      assessEventRisk mergedInput = .ok all ∧ single.planStatus = .reviewRequired ∧
      strictness single.planStatus ≤ strictness all.planStatus := by
  have hsingle : ∃ single, assessEventRisk (alone mergedInput unverifiedRecord sampleMerged) = .ok single ∧
      single.planStatus = .reviewRequired := ⟨_, rfl, rfl⟩
  have hall : ∃ all, assessEventRisk mergedInput = .ok all := ⟨_, rfl⟩
  obtain ⟨single, hsingle, hstatus⟩ := hsingle
  obtain ⟨all, hall⟩ := hall
  exact ⟨single, all, hsingle, hall, hstatus, collectEvents_no_weaker sampleSources_collected rfl
    List.mem_cons_self List.mem_cons_self rfl sample_notSoftened hsingle hall⟩

end FinanceResearch.Events
