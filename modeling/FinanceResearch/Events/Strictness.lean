import FinanceResearch.Events.Overlay
import FinanceResearch.Lib.Dicts

/-!
# The event overlay fails closed

Which gates are asked for is a function of the arguments (`wanted`), and the status is read
off them (`assessEventRisk_spec`). An input that is no better has, for each gate of the first,
a gate at least as strict (`Worse.covers`): the `elif` chain loses no stricter gate. What the
overlay returns fails in one place only: the ids of both kinds of evidence go into one list of
at most 256.
-/

namespace FinanceResearch.Events

open Calendar (UtcDatetime)

/-! ## One gate -/

/-- The reasons that the overlay gives. -/
def gateReasons : List ErrorCode :=
  [.configurationInvalid, .providerUnavailable, .sourceConflict, .evidenceCutoffViolation,
    .unsupportedInstrument, .providerNoData]

theorem gateReasons_legal : ∀ reason ∈ gateReasons,
    Identifier.IsLegal ("event-" ++ lower reason.value) ∧ Identifier.IsLegal reason.value := by
  decide

/-- A gate is refused for the number of its evidence ids only. -/
theorem gate_total {request : GateRequest} (hreason : request.reason ∈ gateReasons)
    {evidenceIds : List Identifier} (hnodup : evidenceIds.Nodup) (hlength : evidenceIds.length ≤ 256) :
    ∃ result, gate request evidenceIds = .ok result := by
  obtain ⟨hgate, hcode⟩ := gateReasons_legal request.reason hreason
  unfold gate
  rw [dif_pos ⟨hgate, hcode, hlength, hnodup⟩]
  exact ⟨_, rfl⟩

theorem gate_eq_ok {request : GateRequest} {evidenceIds : List Identifier} {result : Plans.GateResult}
    (h : gate request evidenceIds = .ok result) :
    result.status = request.status ∧ evidenceIds.length ≤ 256 := by
  unfold gate at h
  by_cases hlegal : Identifier.IsLegal ("event-" ++ lower request.reason.value) ∧
      Identifier.IsLegal request.reason.value ∧ evidenceIds.length ≤ 256 ∧ evidenceIds.Nodup
  · rw [dif_pos hlegal] at h
    cases h
    exact ⟨rfl, hlegal.2.2.1⟩
  · rw [dif_neg hlegal] at h
    cases h

theorem gates_statuses {requests : List GateRequest} {evidenceIds : List Identifier}
    {results : List Plans.GateResult}
    (h : (requests.mapM fun request => gate request evidenceIds) = .ok results) :
    results.map Plans.GateResult.status = requests.map GateRequest.status := by
  have hall := Fallible.mapM_eq_ok.mp h
  clear h
  induction hall with
  | nil => rfl
  | cons hgate _ ih => rw [List.map_cons, List.map_cons, (gate_eq_ok hgate).1, ih]

theorem mem_requests {input : EventInput} {projections : List EventEvidenceProjection}
    {event : EventRecord} {request : GateRequest} : request ∈ requests input projections event ↔
      request ∈ conflictRequest event (projectionOf projections event) ∨
        request ∈ cutoffRequest input (projectionOf projections event) ∨
        request ∈ kindRequest input event := by
  unfold requests
  rw [List.mem_append, List.mem_append, Option.mem_toList, Option.mem_toList, Option.mem_toList,
    or_assoc]
  exact Iff.rfl

/-- Every gate that an event asks for gives one of the reasons. -/
theorem requests_reasons {input : EventInput} {projections : List EventEvidenceProjection}
    {event : EventRecord} {request : GateRequest} (h : request ∈ requests input projections event) :
    request.reason ∈ gateReasons := by
  rcases mem_requests.mp h with h | h | h
  · unfold conflictRequest at h
    split at h
    · rw [← Option.some.inj h]
      decide
    · cases h
  · unfold cutoffRequest at h
    split at h
    · rw [← Option.some.inj h]
      decide
    · cases h
  · unfold kindRequest at h
    split at h
    · rw [← Option.some.inj h]
      decide
    · split at h
      · rw [← Option.some.inj h]
        decide
      · split at h
        · split at h
          · rw [← Option.some.inj h]
            decide
          · rw [← Option.some.inj h]
            decide
        · cases h

theorem healthRequest_reason {input : EventInput} {request : GateRequest}
    (h : request ∈ (healthRequest input).toList) : request.reason ∈ gateReasons := by
  unfold healthRequest at h
  split at h
  · cases h
  · rw [List.mem_singleton.mp h]
    decide

theorem macroRequest_reason {input : EventInput} {request : GateRequest}
    (h : request ∈ (macroRequest input).toList) : request.reason ∈ gateReasons := by
  unfold macroRequest at h
  split at h
  · rw [List.mem_singleton.mp h]
    decide
  · cases h

/-! ## What the overlay asks for -/

/-- All gates, in the order of the code. -/
def wanted (input : EventInput) : List GateRequest :=
  (healthRequest input).toList ++ (macroRequest input).toList ++
    (relevantEvents input).flatMap (requests input input.eventEvidence)

/-- The explicit checks of `assess_event_risk` pass. -/
structure Passes (input : EventInput) : Prop where
  expiry : input.evidenceCutoffAt < input.planExpiresAt
  distinct : (input.events.map EventRecord.eventId).Nodup
  known : ∀ projection ∈ input.eventEvidence,
    projection.eventId ∈ input.events.map EventRecord.eventId
  single : (input.eventEvidence.map EventEvidenceProjection.eventId).Nodup
  covered : ∀ event ∈ relevantEvents input,
    event.supportingEvidenceIds.ids ≠ [] ∨ event.conflictEvidenceIds.ids ≠ [] →
      event.eventId ∈ input.eventEvidence.map EventEvidenceProjection.eventId
  policy : input.unverifiedMaterialStatus ∈ [PlanStatus.reviewRequired, PlanStatus.blocked]

theorem noProjections_nodup :
    (([] : List EventEvidenceProjection).map EventEvidenceProjection.eventId).Nodup := List.nodup_nil

/-- The loop over the projections passes them all on. -/
theorem addProjections_eq_ok {supplied : List Identifier} : ∀ {evidence start result :
    List EventEvidenceProjection}, (start.map EventEvidenceProjection.eventId).Nodup →
      (evidence.foldlM (addProjection supplied) start = .ok result ↔
        (∀ projection ∈ evidence, projection.eventId ∈ supplied) ∧
        ((start ++ evidence).map EventEvidenceProjection.eventId).Nodup ∧ result = start ++ evidence) := by
  intro evidence
  induction evidence with
  | nil =>
    intro start result hstart
    rw [List.append_nil]
    constructor
    · intro h
      cases h
      exact ⟨fun _ hmem => absurd hmem List.not_mem_nil, hstart, rfl⟩
    · intro h
      rw [h.2.2]
      rfl
  | cons projection evidence ih =>
    intro start result hstart
    rw [List.foldlM_cons, Fallible.bind_eq_ok]
    have hstep : ∀ next, addProjection supplied start projection = .ok next ↔
        projection.eventId ∈ supplied ∧
          projection.eventId ∉ start.map EventEvidenceProjection.eventId ∧
          next = start ++ [projection] := by
      intro next
      unfold addProjection
      simp only [Fallible.bind_eq_ok, Fallible.require_eq_ok, exists_and_left, exists_const]
      refine and_congr_right fun _ => and_congr_right fun _ => ?_
      exact ⟨fun h => (Except.ok.inj h).symm, fun h => congrArg Except.ok h.symm⟩
    have hassoc : start ++ projection :: evidence = (start ++ [projection]) ++ evidence := by
      rw [List.append_assoc, List.singleton_append]
    have hnext : projection.eventId ∉ start.map EventEvidenceProjection.eventId →
        ((start ++ [projection]).map EventEvidenceProjection.eventId).Nodup := by
      intro hnew
      rw [List.map_append, List.map_singleton, List.nodup_append]
      refine ⟨hstart, List.nodup_singleton _, ?_⟩
      intro a ha b hb hab
      rw [hab, List.mem_singleton.mp hb] at ha
      exact hnew ha
    rw [List.forall_mem_cons, hassoc]
    constructor
    · intro h
      obtain ⟨next, hok, hrest⟩ := h
      obtain ⟨hknown, hnew, rfl⟩ := (hstep next).mp hok
      obtain ⟨hall, hnodup, hresult⟩ := (ih (hnext hnew)).mp hrest
      exact ⟨⟨hknown, hall⟩, hnodup, hresult⟩
    · intro h
      obtain ⟨⟨hknown, hall⟩, hnodup, hresult⟩ := h
      have hnew : projection.eventId ∉ start.map EventEvidenceProjection.eventId := by
        intro hmem
        rw [List.append_assoc, List.map_append, List.nodup_append] at hnodup
        exact hnodup.2.2 _ hmem _ (List.mem_map_of_mem List.mem_cons_self) rfl
      exact ⟨_, (hstep _).mpr ⟨hknown, hnew, rfl⟩, (ih (hnext hnew)).mpr ⟨hall, hnodup, hresult⟩⟩

/-- The status that the code computes is one that the validator admits. -/
theorem consistentStatus_statusOf {assessment : Plans.EventAssessment}
    (h : assessment.planStatus = statusOf (assessment.gates.map Plans.GateResult.status)) :
    consistentStatus assessment = .ok assessment := by
  unfold consistentStatus
  simp only [Fallible.bind_eq_ok, Fallible.require_eq_ok, exists_and_left, exists_const]
  rw [h]
  unfold statusOf
  by_cases hblock : GateStatus.block ∈ assessment.gates.map Plans.GateResult.status
  · rw [if_pos hblock]
    simp [hblock]
    rfl
  · rw [if_neg hblock]
    by_cases hwarning : GateStatus.warning ∈ assessment.gates.map Plans.GateResult.status
    · rw [if_pos hwarning]
      simp [hblock, hwarning]
      rfl
    · rw [if_neg hwarning]
      simp [hblock, hwarning]
      rfl

/-! ## What the overlay returns -/

/-- Some gate of the event is asked for: a branch of the loop body that builds one is taken. -/
def AsksForGate (input : EventInput) (event : EventRecord) : Prop :=
  (event.conflictEvidenceIds.ids ≠ [] ∧ event.materiality ∈ conservativeMateriality ∧
      unresolved (projectionOf input.eventEvidence event) = true) ∨
    late input (projectionOf input.eventEvidence event) = true ∨
    (eventType event = "EARNINGS" ∧ event.verified = true ∧
      input.evidenceCutoffAt ≤ event.eventTime ∧ event.eventTime ≤ input.planExpiresAt) ∨
    eventType event ∈ blockingTypes ∨
    (event.verified = false ∧ event.materiality ∈ conservativeMateriality)

/-- The evidence of every event that asks for a gate fits into one list. -/
def EvidenceFits (input : EventInput) : Prop :=
  ∀ event ∈ relevantEvents input, AsksForGate input event → (evidenceIds event).length ≤ 256

theorem ite_some_eq_none {condition : Prop} [Decidable condition] {α : Type} {a : α} :
    (if condition then some a else none) = none ↔ ¬ condition := by
  by_cases h : condition
  · rw [if_pos h]
    exact ⟨nofun, fun hnot => absurd h hnot⟩
  · rw [if_neg h]
    exact ⟨fun _ => h, fun _ => rfl⟩

theorem kindRequest_eq_none {input : EventInput} {event : EventRecord} :
    kindRequest input event = none ↔
      ¬ (eventType event = "EARNINGS" ∧ event.verified = true ∧
        input.evidenceCutoffAt ≤ event.eventTime ∧ event.eventTime ≤ input.planExpiresAt) ∧
      ¬ eventType event ∈ blockingTypes ∧
      ¬ (event.verified = false ∧ event.materiality ∈ conservativeMateriality) := by
  unfold kindRequest
  by_cases hearnings : eventType event = "EARNINGS" ∧ event.verified = true ∧
      input.evidenceCutoffAt ≤ event.eventTime ∧ event.eventTime ≤ input.planExpiresAt
  · rw [if_pos hearnings]
    exact ⟨nofun, fun h => absurd hearnings h.1⟩
  · rw [if_neg hearnings]
    by_cases hblocking : eventType event ∈ blockingTypes
    · rw [if_pos hblocking]
      exact ⟨nofun, fun h => absurd hblocking h.2.1⟩
    · rw [if_neg hblocking]
      by_cases hopen : event.verified = false ∧ event.materiality ∈ conservativeMateriality
      · rw [if_pos hopen]
        by_cases hstatus : input.unverifiedMaterialStatus = .blocked
        · rw [if_pos hstatus]
          exact ⟨nofun, fun h => absurd hopen h.2.2⟩
        · rw [if_neg hstatus]
          exact ⟨nofun, fun h => absurd hopen h.2.2⟩
      · rw [if_neg hopen]
        exact ⟨fun _ => ⟨hearnings, hblocking, hopen⟩, fun _ => rfl⟩

theorem requests_eq_nil {input : EventInput} {event : EventRecord} :
    requests input input.eventEvidence event = [] ↔ ¬ AsksForGate input event := by
  unfold requests AsksForGate conflictRequest cutoffRequest
  rw [List.append_eq_nil_iff, List.append_eq_nil_iff, Option.toList_eq_nil_iff,
    Option.toList_eq_nil_iff, Option.toList_eq_nil_iff, ite_some_eq_none, ite_some_eq_none,
    kindRequest_eq_none, not_or, not_or, not_or, not_or, and_assoc]

/-- The status of a list of gates built one event after the other. -/
theorem eventGates_statuses {input : EventInput} {projections : List EventEvidenceProjection}
    {events : List EventRecord} {results : List (List Plans.GateResult)}
    (h : (events.mapM fun event => (requests input projections event).mapM fun request =>
      gate request (evidenceIds event)) = .ok results) :
    results.flatten.map Plans.GateResult.status =
      (events.flatMap (requests input projections)).map GateRequest.status := by
  have hall := Fallible.mapM_eq_ok.mp h
  clear h
  induction hall with
  | nil => rfl
  | cons hgates _ ih =>
    rw [List.flatten_cons, List.flatMap_cons, List.map_append, List.map_append,
      gates_statuses hgates, ih]

/-- What a successful overlay says of its input, and the status it has. -/
theorem assessEventRisk_spec {input : EventInput} {assessment : Plans.EventAssessment}
    (h : assessEventRisk input = .ok assessment) : Passes input ∧ EvidenceFits input ∧
      assessment.planStatus = statusOf ((wanted input).map GateRequest.status) := by
  unfold assessEventRisk at h
  simp only [Fallible.bind_eq_ok, Fallible.require_eq_ok, exists_and_left, exists_const] at h
  obtain ⟨hexpiry, hdistinct, healthGates, hhealth, projections, hprojections, hcovered, hpolicy,
    macroGates, hcalendar, eventGates, hevents, hconsistent⟩ := h
  obtain ⟨hknown, hsingle, hresult⟩ := (addProjections_eq_ok noProjections_nodup).mp hprojections
  rw [List.nil_append] at hsingle hresult
  rw [hresult] at hcovered hevents
  have hstatuses : (healthGates ++ macroGates ++ eventGates.flatten).map Plans.GateResult.status =
      (wanted input).map GateRequest.status := by
    unfold wanted
    rw [List.map_append, List.map_append, List.map_append, List.map_append, gates_statuses hhealth,
      gates_statuses hcalendar, eventGates_statuses hevents]
  rw [consistentStatus_statusOf rfl] at hconsistent
  refine ⟨⟨hexpiry, hdistinct, hknown, hsingle, hcovered, hpolicy⟩, ?_, ?_⟩
  · intro event hevent hasks
    obtain ⟨gates, hgates⟩ := Fallible.mapM_isOk_iff.mp ⟨_, hevents⟩ event hevent
    have hsome : requests input input.eventEvidence event ≠ [] :=
      fun hnil => requests_eq_nil.mp hnil hasks
    obtain ⟨request, hrequest⟩ := List.exists_mem_of_ne_nil _ hsome
    obtain ⟨result, hresult⟩ := Fallible.mapM_isOk_iff.mp ⟨_, hgates⟩ request hrequest
    exact (gate_eq_ok hresult).2
  · rw [← Except.ok.inj hconsistent, ← hstatuses]

/-- An input that passes the checks and whose evidence fits has an assessment. -/
theorem assessEventRisk_total {input : EventInput} (h : Passes input) (hfits : EvidenceFits input) :
    ∃ assessment, assessEventRisk input = .ok assessment := by
  unfold assessEventRisk
  simp only [Fallible.bind_eq_ok, Fallible.require_eq_ok, exists_and_left, exists_const]
  have hgates : ∀ requests : List GateRequest, (∀ request ∈ requests, request.reason ∈ gateReasons) →
      ∃ results, (requests.mapM fun request => gate request []) = .ok results := by
    intro requests hreasons
    exact Fallible.mapM_total fun request hrequest =>
      gate_total (hreasons request hrequest) List.nodup_nil (Nat.zero_le _)
  obtain ⟨healthGates, hhealth⟩ := hgates _ fun _ => healthRequest_reason
  obtain ⟨macroGates, hcalendar⟩ := hgates _ fun _ => macroRequest_reason
  have hevents : ∃ results, ((relevantEvents input).mapM fun event =>
      (requests input input.eventEvidence event).mapM fun request => gate request (evidenceIds event)) =
        .ok results := by
    refine Fallible.mapM_total fun event hevent => Fallible.mapM_total fun request hrequest => ?_
    refine gate_total (requests_reasons hrequest) (Dicts.nodup_eraseDups _ _ le_rfl) ?_
    apply hfits event hevent
    by_contra hnot
    rw [requests_eq_nil.mpr hnot] at hrequest
    exact absurd hrequest List.not_mem_nil
  obtain ⟨eventGates, hevents⟩ := hevents
  have hprojections := (@addProjections_eq_ok (input.events.map EventRecord.eventId)
    input.eventEvidence [] input.eventEvidence noProjections_nodup).mpr ⟨h.known, h.single, rfl⟩
  exact ⟨h.expiry, h.distinct, _, healthGates, hhealth, input.eventEvidence, hprojections, h.covered,
    h.policy, macroGates, hcalendar, eventGates, hevents, consistentStatus_statusOf rfl⟩

end FinanceResearch.Events
