import Mathlib.Data.List.FinRange
import Mathlib.Data.List.ProdSigma
import FinanceResearch.Events.Strictness
import FinanceResearch.Quality.Monotone
import FinanceResearch.Setups.Liquidity

/-!
# A stricter input has no weaker status

`Strengthened` names the single changes that make an input stricter. Each of them makes the
input `Worse` than the first in one general sense, event by event and projection by projection,
and a worse input asks for gates at least as strict (`Worse.covers`).
-/

namespace FinanceResearch.Events

open Calendar (UtcDatetime)

/-! ## Changes -/

/-- The evidence with a projection for the event, or as it was. -/
def AddsProjection (event : EventRecord) (old new : List EventEvidenceProjection) : Prop :=
  new = old ∨ ∃ before after projection, old = before ++ after ∧
    new = before ++ projection :: after ∧ projection.eventId = event.eventId

/-- The second input is the first with one thing made stricter. -/
inductive Strengthened : EventInput → EventInput → Prop
  | addEvent {input : EventInput} {before after : List EventRecord} (event : EventRecord)
      {evidence : List EventEvidenceProjection} (h : input.events = before ++ after)
      (hevidence : AddsProjection event input.eventEvidence evidence) :
      Strengthened input
        { input with events := before ++ event :: after, eventEvidence := evidence }
  | unverify {input : EventInput} {before after : List EventRecord} {event : EventRecord}
      (h : input.events = before ++ event :: after) (hverified : event.verified = true)
      (hkind : eventType event ≠ "EARNINGS") :
      Strengthened input
        { input with events := before ++ { event with verified := false } :: after }
  | raiseMateriality {input : EventInput} {before after : List EventRecord} {event : EventRecord}
      (materiality : Materiality) (h : input.events = before ++ event :: after)
      (hlow : event.materiality = .low) :
      Strengthened input
        { input with events := before ++ { event with materiality := materiality } :: after }
  | retrieveLate {input : EventInput} {before after : List EventEvidenceProjection}
      {projection : EventEvidenceProjection} {retrievedAt : UtcDatetime}
      (h : input.eventEvidence = before ++ projection :: after)
      (hlate : input.evidenceCutoffAt < retrievedAt) :
      Strengthened input
        { input with
          eventEvidence := before ++ { projection with retrievedAt := retrievedAt } :: after }
  | lowerTier {input : EventInput} {before after : List EventEvidenceProjection}
      {projection changed : EventEvidenceProjection} {tier lower : Nat}
      (h : input.eventEvidence = before ++ projection :: after)
      (hid : changed.eventId = projection.eventId)
      (hretrieved : changed.retrievedAt = projection.retrievedAt)
      (hsupporting : changed.supportingAuthorityTier = projection.supportingAuthorityTier)
      (htier : projection.conflictingAuthorityTier = some tier)
      (hlower : changed.conflictingAuthorityTier = some lower) (hle : lower ≤ tier) :
      Strengthened input { input with eventEvidence := before ++ changed :: after }
  | losesCalendar {input : EventInput} {before after : List SourceHealth} {health worse : SourceHealth}
      (h : input.sourceHealth = before ++ health :: after) (hcalendar : isMacroCalendar health = true)
      (hrequired : health.required = true) (hprovider : worse.provider = health.provider)
      (hsame : worse.required = health.required) (hdown : worse.available = false) :
      Strengthened input { input with sourceHealth := before ++ worse :: after }

/-- `DRAFT < REVIEW_REQUIRED < BLOCKED`. -/
def strictness : PlanStatus → Nat
  | .draft => 0
  | .reviewRequired => 1
  | .blocked => 2
  | .expired => 3

/-! ## Worse inputs -/

/-- The same event, no better known and no less material. -/
structure EventAtMost (event worse : EventRecord) : Prop where
  eventId : worse.eventId = event.eventId
  eventType : worse.eventType = event.eventType
  subject : worse.subjectSymbol = event.subjectSymbol
  time : worse.eventTime = event.eventTime
  conflicts : worse.conflictEvidenceIds = event.conflictEvidenceIds
  material : event.materiality ∈ conservativeMateriality → worse.materiality ∈ conservativeMateriality
  verified : worse.verified = event.verified ∨
    worse.verified = false ∧ Events.eventType event ≠ "EARNINGS"

theorem EventAtMost.refl (event : EventRecord) : EventAtMost event event :=
  ⟨rfl, rfl, rfl, rfl, rfl, id, Or.inl rfl⟩

/-- A projection that resolves no more and is no earlier. -/
structure ProjectionAtMost (input : EventInput) (projection worse : Option EventEvidenceProjection) :
    Prop where
  unresolved : unresolved projection = true → Events.unresolved worse = true
  late : late input projection = true → Events.late input worse = true

theorem ProjectionAtMost.refl (input : EventInput) (projection : Option EventEvidenceProjection) :
    ProjectionAtMost input projection projection := ⟨id, id⟩

/-- An input none of whose parts is better. -/
structure Worse (old new : EventInput) : Prop where
  instrument : new.instrument = old.instrument
  expiry : new.planExpiresAt = old.planExpiresAt
  cutoff : new.evidenceCutoffAt = old.evidenceCutoffAt
  policy : new.unverifiedMaterialStatus = old.unverifiedMaterialStatus
  health : hasRequiredMacroHealth new.sourceHealth = true → hasRequiredMacroHealth old.sourceHealth = true
  down : macroUnavailable old.sourceHealth = true → macroUnavailable new.sourceHealth = true
  events : ∀ event ∈ old.events, ∃ worse ∈ new.events, EventAtMost event worse
  projections : ∀ event ∈ old.events, ProjectionAtMost old (projectionOf old.eventEvidence event)
    (projectionOf new.eventEvidence event)

/-! ## Gates of a worse input -/

/-- For every gate of the first there is one of the second that is as strict. -/
def Covered (old new : Option GateRequest) : Prop :=
  ∀ request ∈ old, ∃ other ∈ new, other.status = request.status ∨ other.status = .block

theorem covered_ite {p q : Prop} [Decidable p] [Decidable q] (h : p → q) (request : GateRequest) :
    Covered (if p then some request else none) (if q then some request else none) := by
  intro other hother
  by_cases hp : p
  · rw [if_pos hp] at hother
    rw [if_pos (h hp)]
    exact ⟨other, hother, Or.inl rfl⟩
  · rw [if_neg hp] at hother
    cases hother

theorem projectionOf_congr {projections : List EventEvidenceProjection} {event worse : EventRecord}
    (h : worse.eventId = event.eventId) : projectionOf projections worse = projectionOf projections event := by
  unfold projectionOf
  rw [h]

theorem conflictRequest_covered {input : EventInput} {event worse : EventRecord}
    {projection other : Option EventEvidenceProjection} (hevent : EventAtMost event worse)
    (hprojection : ProjectionAtMost input projection other) :
    Covered (conflictRequest event projection) (conflictRequest worse other) := by
  refine covered_ite ?_ _
  intro h
  rw [hevent.conflicts]
  exact ⟨h.1, hevent.material h.2.1, hprojection.unresolved h.2.2⟩

theorem cutoffRequest_covered {old new : EventInput} (hcutoff : new.evidenceCutoffAt = old.evidenceCutoffAt)
    {projection other : Option EventEvidenceProjection}
    (hprojection : ProjectionAtMost old projection other) :
    Covered (cutoffRequest old projection) (cutoffRequest new other) := by
  refine covered_ite ?_ _
  intro h
  have hlate := hprojection.late h
  unfold late at hlate ⊢
  rw [hcutoff]
  exact hlate

/-- The chain of `if` and `elif` loses no gate: an event that leaves the branch of earnings was
verified, and only an event of another type is made unverified. -/
theorem kindRequest_covered {old new : EventInput} (hworse : Worse old new)
    {event worse : EventRecord} (hevent : EventAtMost event worse) :
    Covered (kindRequest old event) (kindRequest new worse) := by
  have htype : eventType worse = eventType event := congrArg (fun kind : Identifier => upper kind.text) hevent.eventType
  intro request hrequest
  unfold kindRequest at hrequest ⊢
  rw [htype, hworse.cutoff, hworse.expiry, hworse.policy, hevent.time]
  by_cases hearnings : eventType event = "EARNINGS" ∧ event.verified = true ∧
      old.evidenceCutoffAt ≤ event.eventTime ∧ event.eventTime ≤ old.planExpiresAt
  · rw [if_pos hearnings] at hrequest
    have hverified : worse.verified = true :=
      (hevent.verified.resolve_right fun h => h.2 hearnings.1).trans hearnings.2.1
    rw [hverified, if_pos ⟨hearnings.1, rfl, hearnings.2.2⟩]
    exact ⟨request, hrequest, Or.inl rfl⟩
  · rw [if_neg hearnings] at hrequest
    by_cases hinside : eventType event = "EARNINGS" ∧ worse.verified = true ∧
        old.evidenceCutoffAt ≤ event.eventTime ∧ event.eventTime ≤ old.planExpiresAt
    · rw [if_pos hinside]
      exact ⟨_, rfl, Or.inr rfl⟩
    · rw [if_neg hinside]
      by_cases hblocking : eventType event ∈ blockingTypes
      · rw [if_pos hblocking] at hrequest ⊢
        exact ⟨request, hrequest, Or.inl rfl⟩
      · rw [if_neg hblocking] at hrequest ⊢
        by_cases hopen : event.verified = false ∧ event.materiality ∈ conservativeMateriality
        · rw [if_pos hopen] at hrequest
          have hstill : worse.verified = false := by
            rcases hevent.verified with h | h
            · rw [h, hopen.1]
            · exact h.1
          rw [if_pos ⟨hstill, hevent.material hopen.2⟩]
          exact ⟨request, hrequest, Or.inl rfl⟩
        · rw [if_neg hopen] at hrequest
          cases hrequest

/-- **A worse input asks for gates at least as strict.** -/
theorem Worse.covers {old new : EventInput} (h : Worse old new) : ∀ request ∈ wanted old,
    ∃ other ∈ wanted new, other.status = request.status ∨ other.status = .block := by
  intro request hrequest
  unfold wanted at hrequest ⊢
  simp only [List.mem_append, Option.mem_toList, List.mem_flatMap] at hrequest ⊢
  rcases hrequest with (hrequest | hrequest) | hrequest
  · have hcovered : Covered (healthRequest old) (healthRequest new) := by
      unfold healthRequest
      intro other hother
      by_cases hold : hasRequiredMacroHealth old.sourceHealth = true
      · rw [if_pos hold] at hother
        cases hother
      · rw [if_neg hold] at hother
        rw [if_neg (mt h.health hold)]
        exact ⟨other, hother, Or.inl rfl⟩
    obtain ⟨other, hother, hstatus⟩ := hcovered request hrequest
    exact ⟨other, Or.inl (Or.inl hother), hstatus⟩
  · have hcovered : Covered (macroRequest old) (macroRequest new) := covered_ite h.down _
    obtain ⟨other, hother, hstatus⟩ := hcovered request hrequest
    exact ⟨other, Or.inl (Or.inr hother), hstatus⟩
  · obtain ⟨event, hevent, hrequest⟩ := hrequest
    obtain ⟨hmem, hrelevant⟩ := List.mem_filter.mp hevent
    obtain ⟨worse, hworse, hatmost⟩ := h.events event hmem
    have hkept : worse ∈ relevantEvents new := by
      unfold relevantEvents
      rw [List.mem_filter, hatmost.subject, h.instrument]
      exact ⟨hworse, hrelevant⟩
    have hprojection := h.projections event hmem
    rw [← @projectionOf_congr new.eventEvidence event worse hatmost.eventId] at hprojection
    have hrequests : ∃ other ∈ requests new new.eventEvidence worse,
        other.status = request.status ∨ other.status = .block := by
      rcases mem_requests.mp hrequest with hrequest | hrequest | hrequest
      · obtain ⟨other, hother, hstatus⟩ := conflictRequest_covered hatmost hprojection request hrequest
        exact ⟨other, mem_requests.mpr (Or.inl hother), hstatus⟩
      · obtain ⟨other, hother, hstatus⟩ := cutoffRequest_covered h.cutoff hprojection request hrequest
        exact ⟨other, mem_requests.mpr (Or.inr (Or.inl hother)), hstatus⟩
      · obtain ⟨other, hother, hstatus⟩ := kindRequest_covered h hatmost request hrequest
        exact ⟨other, mem_requests.mpr (Or.inr (Or.inr hother)), hstatus⟩
    obtain ⟨other, hother, hstatus⟩ := hrequests
    exact ⟨other, Or.inr ⟨worse, hkept, hother⟩, hstatus⟩

theorem strictness_statusOf_mono {old new : List GateStatus}
    (h : ∀ status ∈ old, ∃ other ∈ new, other = status ∨ other = .block) :
    strictness (statusOf old) ≤ strictness (statusOf new) := by
  unfold statusOf
  by_cases hblock : GateStatus.block ∈ new
  · rw [if_pos hblock]
    split
    · exact le_rfl
    · split
      · decide
      · decide
  · have hnone : ∀ status ∈ old, status ∈ new := by
      intro status hstatus
      obtain ⟨other, hother, hsame⟩ := h status hstatus
      rcases hsame with hsame | hsame
      · exact hsame ▸ hother
      · exact absurd (hsame ▸ hother) hblock
    rw [if_neg hblock, if_neg (mt (hnone _) hblock)]
    by_cases hwarning : GateStatus.warning ∈ old
    · rw [if_pos hwarning, if_pos (hnone _ hwarning)]
    · rw [if_neg hwarning]
      exact Nat.zero_le _

/-! ## Each change makes the input worse -/

theorem exists_of_replaced {α : Type} {R : α → α → Prop} (hrefl : ∀ a, R a a) {before after : List α}
    {item changed : α} (h : R item changed) :
    ∀ a ∈ before ++ item :: after, ∃ b ∈ before ++ changed :: after, R a b := by
  intro a ha
  rcases List.mem_append.mp ha with ha | ha
  · exact ⟨a, List.mem_append_left _ ha, hrefl a⟩
  · rcases List.mem_cons.mp ha with ha | ha
    · rw [ha]
      exact ⟨changed, List.mem_append_right _ List.mem_cons_self, h⟩
    · exact ⟨a, List.mem_append_right _ (List.mem_cons_of_mem _ ha), hrefl a⟩

/-- A projection changed under its id changes what is found in one place only. -/
theorem projectionOf_replaced {input : EventInput} {before after : List EventEvidenceProjection}
    {projection changed : EventEvidenceProjection} (hid : changed.eventId = projection.eventId)
    (h : ProjectionAtMost input (some projection) (some changed)) (event : EventRecord) :
    ProjectionAtMost input (projectionOf (before ++ projection :: after) event)
      (projectionOf (before ++ changed :: after) event) := by
  unfold projectionOf
  rw [List.find?_append, List.find?_append, List.find?_cons, List.find?_cons, hid]
  cases before.find? fun projection => projection.eventId = event.eventId with
  | some found => exact .refl input _
  | none =>
    rw [Option.none_or, Option.none_or]
    by_cases hevent : projection.eventId = event.eventId
    · rw [decide_eq_true hevent]
      exact h
    · rw [decide_eq_false hevent]
      exact .refl input _

theorem unresolved_some {projection : EventEvidenceProjection} {tier : Nat}
    (h : projection.conflictingAuthorityTier = some tier) :
    unresolved (some projection) = decide (tier ≤ projection.supportingAuthorityTier) := by
  unfold unresolved
  simp only [h]

/-- A projection of another event is not found. -/
theorem projectionOf_inserted {before after : List EventEvidenceProjection}
    {projection : EventEvidenceProjection} {event : EventRecord}
    (h : projection.eventId ≠ event.eventId) :
    projectionOf (before ++ projection :: after) event = projectionOf (before ++ after) event := by
  unfold projectionOf
  rw [List.find?_append, List.find?_append, List.find?_cons, decide_eq_false h]

theorem any_replaced {α : Type} {p : α → Bool} {before after : List α} {item changed : α}
    (h : p item = true → p changed = true) (hany : (before ++ item :: after).any p = true) :
    (before ++ changed :: after).any p = true := by
  rw [List.any_append, List.any_cons, Bool.or_eq_true, Bool.or_eq_true] at hany ⊢
  rcases hany with hany | hany | hany
  · exact Or.inl hany
  · exact Or.inr (Or.inl (h hany))
  · exact Or.inr (Or.inr hany)

/-- Every change makes the input worse, when the changed input still has each event once. -/
theorem Strengthened.worse {old new : EventInput} (h : Strengthened old new)
    (hdistinct : (new.events.map EventRecord.eventId).Nodup) : Worse old new := by
  have hsame : ∀ event ∈ old.events, ∃ worse ∈ old.events, EventAtMost event worse :=
    fun event hevent => ⟨event, hevent, .refl event⟩
  have hfound : ∀ event ∈ old.events, ProjectionAtMost old (projectionOf old.eventEvidence event)
      (projectionOf old.eventEvidence event) := fun _ _ => .refl old _
  cases h with
  | @addEvent before after event evidence h hevidence =>
    refine ⟨rfl, rfl, rfl, rfl, id, id, ?_, ?_⟩
    · intro other hother
      rw [h, List.mem_append] at hother
      refine ⟨other, ?_, .refl other⟩
      rcases hother with hother | hother
      · exact List.mem_append_left _ hother
      · exact List.mem_append_right _ (List.mem_cons_of_mem _ hother)
    · intro other hother
      rcases hevidence with hevidence | hevidence
      · rw [hevidence]
        exact .refl old _
      · obtain ⟨first, last, projection, hold, hnew, hid⟩ := hevidence
        have hne : projection.eventId ≠ other.eventId := by
          rw [hid]
          intro heq
          have hperm : (before ++ event :: after).Perm (event :: (before ++ after)) :=
            List.perm_middle
          have hnodup := (hperm.map EventRecord.eventId).nodup_iff.mp hdistinct
          rw [List.map_cons, List.nodup_cons, heq, ← h] at hnodup
          exact hnodup.1 (List.mem_map_of_mem hother)
        show ProjectionAtMost old (projectionOf old.eventEvidence other) (projectionOf evidence other)
        rw [hnew, projectionOf_inserted hne, ← hold]
        exact .refl old _
  | @unverify before after event h hverified hkind =>
    refine ⟨rfl, rfl, rfl, rfl, id, id, ?_, hfound⟩
    rw [h]
    exact exists_of_replaced EventAtMost.refl ⟨rfl, rfl, rfl, rfl, rfl, id, Or.inr ⟨rfl, hkind⟩⟩
  | @raiseMateriality before after event materiality h hlow =>
    refine ⟨rfl, rfl, rfl, rfl, id, id, ?_, hfound⟩
    rw [h]
    refine exists_of_replaced EventAtMost.refl ⟨rfl, rfl, rfl, rfl, rfl, ?_, Or.inl rfl⟩
    intro hmaterial
    rw [hlow] at hmaterial
    exact absurd hmaterial (by decide)
  | @retrieveLate before after projection retrievedAt h hlate =>
    refine ⟨rfl, rfl, rfl, rfl, id, id, hsame, ?_⟩
    intro event _
    rw [h]
    have hchanged : ProjectionAtMost old (some projection)
        (some { projection with retrievedAt := retrievedAt }) := by
      refine ⟨id, fun _ => ?_⟩
      unfold late
      rw [Option.any_some, decide_eq_true_iff]
      exact hlate
    have hid : ({ projection with retrievedAt := retrievedAt } : EventEvidenceProjection).eventId =
      projection.eventId := rfl
    exact projectionOf_replaced hid hchanged event
  | @lowerTier before after projection changed tier lower h hid hretrieved hsupporting htier hlower hle =>
    refine ⟨rfl, rfl, rfl, rfl, id, id, hsame, ?_⟩
    intro event _
    rw [h]
    refine projectionOf_replaced hid ⟨?_, ?_⟩ event
    · rw [unresolved_some htier, unresolved_some hlower, decide_eq_true_iff, decide_eq_true_iff,
        hsupporting]
      exact hle.trans
    · unfold late
      rw [Option.any_some, Option.any_some, hretrieved]
      exact id
  | @losesCalendar before after health worse h hcalendar hrequired hprovider hdownrequired hdown =>
    have hworse : isMacroCalendar worse = true := by
      unfold isMacroCalendar at hcalendar ⊢
      rw [hprovider]
      exact hcalendar
    refine ⟨rfl, rfl, rfl, rfl, ?_, ?_, hsame, hfound⟩
    · rw [h]
      refine any_replaced fun _ => ?_
      rw [hrequired, hcalendar]
      rfl
    · rw [h]
      refine any_replaced fun _ => ?_
      rw [hdown, hdownrequired, hrequired, hworse]
      rfl

/-- **Strictness never falls** under a change that makes the input stricter. -/
theorem strictness_mono {old new : EventInput} (h : Strengthened old new)
    {assessment other : Plans.EventAssessment} (hold : assessEventRisk old = .ok assessment)
    (hnew : assessEventRisk new = .ok other) :
    strictness assessment.planStatus ≤ strictness other.planStatus := by
  obtain ⟨-, -, hstatus⟩ := assessEventRisk_spec hold
  obtain ⟨hpasses, -, hother⟩ := assessEventRisk_spec hnew
  rw [hstatus, hother]
  apply strictness_statusOf_mono
  intro status hmem
  obtain ⟨request, hrequest, rfl⟩ := List.mem_map.mp hmem
  obtain ⟨covering, hcovering, hsame⟩ := (h.worse hpasses.distinct).covers request hrequest
  exact ⟨covering.status, List.mem_map_of_mem hcovering, hsame⟩

/-- **The overlay is total and fails closed exactly where the evidence fits**: an input that passes
the checks has an assessment that no stricter input weakens, unless an event that asks for a gate
has over 256 evidence ids, supporting and conflicting together. -/
theorem assessEventRisk_iff (input : EventInput) (h : Passes input) :
    (∃ assessment, assessEventRisk input = .ok assessment ∧
      ∀ stricter, Strengthened input stricter → ∀ other, assessEventRisk stricter = .ok other →
        strictness assessment.planStatus ≤ strictness other.planStatus) ↔ EvidenceFits input := by
  constructor
  · intro hassessed
    obtain ⟨assessment, hok, -⟩ := hassessed
    exact (assessEventRisk_spec hok).2.1
  · intro hfits
    obtain ⟨assessment, hok⟩ := assessEventRisk_total h hfits
    exact ⟨assessment, hok, fun _ hstricter _ hother => strictness_mono hstricter hok hother⟩

/-! ## A crowded event -/

def letter (i : Fin 16) : Char := Char.ofNat (97 + i.val)

/-- An evidence id of two letters. -/
def pairId (i j : Fin 16) : Identifier where
  text := String.ofList [letter i, letter j]
  legal := by
    have hletter : ∀ i : Fin 16, (letter i).isAlphanum = true := by decide
    unfold Identifier.IsLegal
    rw [String.length_ofList, String.toList_ofList]
    refine ⟨?_, hletter i, ?_⟩
    · show 2 ≤ 128
      decide
    intro c hc
    rcases List.mem_cons.mp hc with hc | hc
    · exact Or.inl (hc ▸ hletter i)
    · exact Or.inl (List.mem_singleton.mp hc ▸ hletter j)

theorem pairId_injective : Function.Injective fun p : Fin 16 × Fin 16 => pairId p.1 p.2 := by
  intro p q h
  have hletters : ∀ i j : Fin 16, letter i = letter j → i = j := by decide
  have htexts : [letter p.1, letter p.2] = [letter q.1, letter q.2] :=
    String.ofList_injective (congrArg Identifier.text h)
  rw [List.cons.injEq, List.cons.injEq] at htexts
  exact Prod.ext (hletters _ _ htexts.1) (hletters _ _ htexts.2.1)

/-- As many evidence ids as a field takes. -/
def manyIds : EvidenceIds where
  ids := (List.finRange 16 ×ˢ List.finRange 16).map fun p => pairId p.1 p.2
  legal := by
    rw [List.length_map, List.length_product, List.length_finRange]
    exact ⟨le_rfl, ((List.nodup_finRange 16).product (List.nodup_finRange 16)).map pairId_injective⟩

theorem manyIds_length : manyIds.ids.length = 256 := by
  unfold manyIds
  rw [List.length_map, List.length_product, List.length_finRange]

theorem eventName_legal : Identifier.IsLegal "event-1" := by decide

theorem calendarName_legal : Identifier.IsLegal "bls" := by decide

theorem tierOne_legal : 1 ≤ 1 ∧ 1 ≤ 255 := by decide

def oneId : EvidenceIds := ⟨[⟨"z", by decide⟩], Nat.le_of_ble_eq_true rfl, List.nodup_singleton _⟩

/-- An event that is not verified, with the evidence that is given. -/
def sampleEvent (supporting : EvidenceIds) : EventRecord where
  eventId := ⟨"event-1", eventName_legal⟩
  eventType := ⟨"MERGER", by decide⟩
  subjectSymbol := none
  eventTime := 1
  verified := false
  materiality := .high
  supportingEvidenceIds := supporting
  conflictEvidenceIds := oneId

def sampleProjection : EventEvidenceProjection where
  eventId := ⟨"event-1", eventName_legal⟩
  retrievedAt := 0
  supportingAuthorityTier := 1
  conflictingAuthorityTier := none
  supportingBounded := tierOne_legal
  conflictingBounded := fun _ h => absurd h (Option.not_mem_none _)

def sampleInput (supporting : EvidenceIds) : EventInput where
  instrument := Setups.sampleInstrument
  events := [sampleEvent supporting]
  planExpiresAt := 2
  evidenceCutoffAt := 0
  sourceHealth := [answered ⟨"bls", calendarName_legal⟩]
  eventEvidence := [sampleProjection]
  unverifiedMaterialStatus := .reviewRequired

theorem sampleInput_passes (supporting : EvidenceIds) : Passes (sampleInput supporting) where
  expiry := by
    show (0 : Int) < 2
    decide
  distinct := List.nodup_singleton _
  known := by
    intro projection hprojection
    rw [List.mem_singleton.mp hprojection]
    exact List.mem_singleton_self _
  single := List.nodup_singleton _
  covered := by
    intro event hevent _
    have hevent : event ∈ (sampleInput supporting).events := List.mem_of_mem_filter hevent
    rw [List.mem_singleton.mp hevent]
    exact List.mem_singleton_self _
  policy := List.mem_cons_self

/-- **256 ids that support an event and one against it** are legal, and the gate for the event is
refused by its own record. -/
theorem assessEventRisk_refuses_evidence :
    ¬ ∀ input, Passes input → ∃ assessment, assessEventRisk input = .ok assessment := by
  intro hclaim
  obtain ⟨assessment, hok⟩ := hclaim _ (sampleInput_passes manyIds)
  have hfits := (assessEventRisk_spec hok).2.1 (sampleEvent manyIds) List.mem_cons_self
    (Or.inr (Or.inr (Or.inr (Or.inr ⟨rfl, by decide⟩))))
  have hnodup : (manyIds.ids ++ oneId.ids).Nodup := by
    rw [List.nodup_append]
    refine ⟨manyIds.legal.2, oneId.legal.2, ?_⟩
    intro a ha b hb hab
    obtain ⟨p, -, hp⟩ := List.mem_map.mp ha
    have htext : (pairId p.1 p.2).text = "z" := by
      rw [show pairId p.1 p.2 = b from hp.trans hab, List.mem_singleton.mp hb]
    have hlength : (pairId p.1 p.2).text.length = 1 := by
      rw [htext]
      rfl
    rw [show (pairId p.1 p.2).text = String.ofList [letter p.1, letter p.2] from rfl,
      String.length_ofList] at hlength
    exact absurd hlength (by simp)
  have hlength : (evidenceIds (sampleEvent manyIds)).length = 257 := by
    show (manyIds.ids ++ oneId.ids).eraseDups.length = 257
    rw [Dicts.eraseDups_of_nodup hnodup, List.length_append, manyIds_length]
    rfl
  rw [hlength] at hfits
  exact absurd hfits (by decide)

theorem assessEventRisk_iff_sample : Passes (sampleInput oneId) ∧
    ((∃ assessment, assessEventRisk (sampleInput oneId) = .ok assessment ∧
      ∀ stricter, Strengthened (sampleInput oneId) stricter →
        ∀ other, assessEventRisk stricter = .ok other →
          strictness assessment.planStatus ≤ strictness other.planStatus) ↔
      EvidenceFits (sampleInput oneId)) :=
  ⟨sampleInput_passes oneId, assessEventRisk_iff (sampleInput oneId) (sampleInput_passes oneId)⟩

end FinanceResearch.Events
