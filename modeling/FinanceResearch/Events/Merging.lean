import FinanceResearch.Events.Composite

/-!
# What merging keeps

What the composite makes of the records of one occurrence is fixed by which records
there are, not by their order (`Merges`, `Merges.unique`), and every answer of a
provider is in the collection (`Keeps`). So the collection is the same for every
order of the providers, but for the order of equal keys and for which of several
equal evidence items is kept.
-/

namespace FinanceResearch.Events

open Calendar (UtcDatetime)

/-! ## The records of an occurrence -/

/-- Two records are of different opinion. -/
def Disagree (record other : EventRecord) : Prop :=
  record.verified ≠ other.verified ∨ record.materiality ≠ other.materiality

/-- What one event says of the records it is merged from. -/
structure Merges (records : List EventRecord) (merged : EventRecord) : Prop where
  same : ∀ record ∈ records, occurrenceOf record = occurrenceOf merged
  eventId : (∃ record ∈ records, record.eventId = merged.eventId) ∧
    ∀ record ∈ records, merged.eventId.text ≤ record.eventId.text
  verified : merged.verified = true ↔ ∃ record ∈ records, record.verified = true
  material : (∃ record ∈ records, record.materiality = merged.materiality) ∧
    ∀ record ∈ records, materialityRank record.materiality ≤ materialityRank merged.materiality
  supporting : merged.supportingEvidenceIds.ids.Pairwise (fun a b => a.text ≤ b.text) ∧
    ∀ id, id ∈ merged.supportingEvidenceIds.ids ↔
      ∃ record ∈ records, id ∈ record.supportingEvidenceIds.ids
  conflicts : merged.conflictEvidenceIds.ids.Pairwise (fun a b => a.text ≤ b.text) ∧
    ∀ id, id ∈ merged.conflictEvidenceIds.ids ↔
      (∃ record ∈ records, id ∈ record.conflictEvidenceIds.ids) ∨
        (∃ record ∈ records, ∃ other ∈ records, Disagree record other) ∧
          ∃ record ∈ records, id ∈ record.supportingEvidenceIds.ids

theorem materialityRank_injective {m m' : Materiality} (h : materialityRank m = materialityRank m') :
    m = m' := by
  cases m <;> cases m' <;> first | rfl | cases h

/-- A sorted field is fixed by its members. -/
theorem evidenceIds_ext {a b : EvidenceIds} (ha : a.ids.Pairwise fun x y => x.text ≤ y.text)
    (hb : b.ids.Pairwise fun x y => x.text ≤ y.text) (hmem : ∀ id, id ∈ a.ids ↔ id ∈ b.ids) : a = b := by
  have hperm : a.ids.Perm b.ids := (List.perm_ext_iff_of_nodup a.legal.2 b.legal.2).mpr hmem
  have hids : a.ids = b.ids := by
    refine hperm.eq_of_pairwise ?_ ha hb
    intro x y _ _ hxy hyx
    exact Identifier.eq_of_text (le_antisymm hxy hyx)
  obtain ⟨ids, legal⟩ := a
  cases hids
  rfl

/-- **The records of an occurrence have one merged event**, whatever their order. -/
theorem Merges.unique {records other : List EventRecord} {merged merged' : EventRecord}
    (h : Merges records merged) (h' : Merges other merged')
    (hmem : ∀ record, record ∈ records ↔ record ∈ other) : merged = merged' := by
  obtain ⟨record, hrecord, hid⟩ := h.eventId.1
  obtain ⟨record', hrecord', hid'⟩ := h'.eventId.1
  have hoccurrence : occurrenceOf merged = occurrenceOf merged' :=
    (h.same record hrecord).symm.trans (h'.same record ((hmem record).mp hrecord))
  have heventId : merged.eventId = merged'.eventId := by
    apply Identifier.eq_of_text
    apply le_antisymm
    · rw [← hid']
      exact h.eventId.2 record' ((hmem record').mpr hrecord')
    · rw [← hid]
      exact h'.eventId.2 record ((hmem record).mp hrecord)
  have hverified : merged.verified = merged'.verified := by
    rw [Bool.eq_iff_iff, h.verified, h'.verified]
    simp only [hmem]
  have hmaterial : merged.materiality = merged'.materiality := by
    obtain ⟨most, hmost, hrank⟩ := h.material.1
    obtain ⟨most', hmost', hrank'⟩ := h'.material.1
    apply materialityRank_injective
    apply Nat.le_antisymm
    · rw [← hrank]
      exact h'.material.2 most ((hmem most).mp hmost)
    · rw [← hrank']
      exact h.material.2 most' ((hmem most').mpr hmost')
  have hsupporting : merged.supportingEvidenceIds = merged'.supportingEvidenceIds := by
    apply evidenceIds_ext h.supporting.1 h'.supporting.1
    intro id
    rw [h.supporting.2, h'.supporting.2]
    simp only [hmem]
  have hconflicts : merged.conflictEvidenceIds = merged'.conflictEvidenceIds := by
    apply evidenceIds_ext h.conflicts.1 h'.conflicts.1
    intro id
    rw [h.conflicts.2, h'.conflicts.2]
    simp only [hmem]
  cases merged
  cases merged'
  unfold occurrenceOf at hoccurrence
  cases hoccurrence
  cases heventId
  cases hverified
  cases hmaterial
  cases hsupporting
  cases hconflicts
  rfl

/-! ## `min` and `max` -/

theorem firstRecord_spec (rest : List EventRecord) : ∀ first : EventRecord,
    firstRecord first rest ∈ first :: rest ∧
      ∀ record ∈ first :: rest, (firstRecord first rest).eventId.text ≤ record.eventId.text := by
  induction rest with
  | nil =>
    intro first
    refine ⟨List.mem_singleton_self first, ?_⟩
    intro record hrecord
    rw [List.mem_singleton.mp hrecord]
    exact le_refl _
  | cons record rest ih =>
    intro first
    show firstRecord (if record.eventId.text < first.eventId.text then record else first) rest ∈ _ ∧
      ∀ other ∈ first :: record :: rest,
        (firstRecord (if record.eventId.text < first.eventId.text then record else first) rest).eventId.text ≤
          other.eventId.text
    obtain ⟨hmem, hle⟩ := ih (if record.eventId.text < first.eventId.text then record else first)
    have hbest := hle _ List.mem_cons_self
    by_cases hless : record.eventId.text < first.eventId.text
    · rw [if_pos hless] at hmem hle hbest ⊢
      refine ⟨List.mem_cons_of_mem _ hmem, ?_⟩
      intro other hother
      rcases List.mem_cons.mp hother with rfl | hother
      · exact le_trans hbest (le_of_lt hless)
      · exact hle other hother
    · rw [if_neg hless] at hmem hle hbest ⊢
      refine ⟨?_, ?_⟩
      · rcases List.mem_cons.mp hmem with hfirst | hrest
        · rw [hfirst]
          exact List.mem_cons_self
        · exact List.mem_cons_of_mem _ (List.mem_cons_of_mem _ hrest)
      · intro other hother
        rcases List.mem_cons.mp hother with rfl | hother
        · exact hbest
        · rcases List.mem_cons.mp hother with rfl | hother
          · exact le_trans hbest (not_lt.mp hless)
          · exact hle other (List.mem_cons_of_mem _ hother)

theorem foldl_max_spec (rest : List EventRecord) : ∀ best : Materiality,
    let most := rest.foldl (fun best record =>
      if materialityRank best < materialityRank record.materiality then record.materiality else best) best
    (most = best ∨ ∃ record ∈ rest, record.materiality = most) ∧
      materialityRank best ≤ materialityRank most ∧
      ∀ record ∈ rest, materialityRank record.materiality ≤ materialityRank most := by
  induction rest with
  | nil =>
    intro best
    exact ⟨Or.inl rfl, Nat.le_refl _, fun _ h => absurd h List.not_mem_nil⟩
  | cons record rest ih =>
    intro best
    obtain ⟨hfrom, hbest, hrest⟩ := ih
      (if materialityRank best < materialityRank record.materiality then record.materiality else best)
    rw [List.foldl_cons]
    by_cases hless : materialityRank best < materialityRank record.materiality
    · rw [if_pos hless] at hfrom hbest hrest ⊢
      refine ⟨Or.inr ?_, Nat.le_trans (Nat.le_of_lt hless) hbest, ?_⟩
      · rcases hfrom with hfrom | ⟨other, hother, hmost⟩
        · exact ⟨record, List.mem_cons_self, hfrom.symm⟩
        · exact ⟨other, List.mem_cons_of_mem _ hother, hmost⟩
      · intro other hother
        rcases List.mem_cons.mp hother with rfl | hother
        · exact hbest
        · exact hrest other hother
    · rw [if_neg hless] at hfrom hbest hrest ⊢
      refine ⟨?_, hbest, ?_⟩
      · rcases hfrom with hfrom | ⟨other, hother, hmost⟩
        · exact Or.inl hfrom
        · exact Or.inr ⟨other, List.mem_cons_of_mem _ hother, hmost⟩
      · intro other hother
        rcases List.mem_cons.mp hother with rfl | hother
        · exact Nat.le_trans (Nat.not_lt.mp hless) hbest
        · exact hrest other hother

theorem maxMateriality_spec (first : EventRecord) (rest : List EventRecord) :
    (∃ record ∈ first :: rest, record.materiality = maxMateriality first rest) ∧
      ∀ record ∈ first :: rest,
        materialityRank record.materiality ≤ materialityRank (maxMateriality first rest) := by
  obtain ⟨hfrom, hfirst, hrest⟩ := foldl_max_spec rest first.materiality
  refine ⟨?_, ?_⟩
  · rcases hfrom with hfrom | ⟨record, hrecord, hmost⟩
    · exact ⟨first, List.mem_cons_self, hfrom.symm⟩
    · exact ⟨record, List.mem_cons_of_mem _ hrecord, hmost⟩
  · intro record hrecord
    rcases List.mem_cons.mp hrecord with rfl | hrecord
    · exact hfirst
    · exact hrest record hrecord

/-! ## The merged event -/

theorem sortedIds_spec (ids : List Identifier) :
    (sortedIds ids).Nodup ∧ (sortedIds ids).Pairwise (fun a b => a.text ≤ b.text) ∧
      ∀ id, id ∈ sortedIds ids ↔ id ∈ ids := by
  refine ⟨?_, Groups.sortedOn_pairwise _ _, ?_⟩
  · exact (Groups.sortedOn_perm _ _).nodup_iff.mpr (Dicts.nodup_eraseDups _ _ le_rfl)
  · intro id
    rw [sortedIds, Groups.mem_sortedOn, List.mem_eraseDups]

theorem mem_supportingIds {records : List EventRecord} {id : Identifier} :
    id ∈ supportingIds records ↔ ∃ record ∈ records, id ∈ record.supportingEvidenceIds.ids := by
  rw [supportingIds, (sortedIds_spec _).2.2, List.mem_flatMap]

/-- Two items of a list that has more than one distinct item. -/
theorem one_lt_eraseDups {α : Type} [DecidableEq α] {items : List α} :
    1 < items.eraseDups.length ↔ ∃ a ∈ items, ∃ b ∈ items, a ≠ b := by
  have hnodup : items.eraseDups.Nodup := Dicts.nodup_eraseDups _ _ le_rfl
  constructor
  · intro h
    cases herase : items.eraseDups with
    | nil =>
      rw [herase] at h
      exact absurd h (Nat.not_lt_zero 1)
    | cons a rest =>
      cases rest with
      | nil =>
        rw [herase, List.length_singleton] at h
        exact absurd h (Nat.lt_irrefl 1)
      | cons b rest =>
        rw [herase] at hnodup
        have hne : a ≠ b := fun heq => (List.nodup_cons.mp hnodup).1 (heq ▸ List.mem_cons_self)
        refine ⟨a, ?_, b, ?_, hne⟩
        · rw [← List.mem_eraseDups, herase]
          exact List.mem_cons_self
        · rw [← List.mem_eraseDups, herase]
          exact List.mem_cons_of_mem _ List.mem_cons_self
  · rintro ⟨a, ha, b, hb, hne⟩
    rw [← List.mem_eraseDups] at ha hb
    cases herase : items.eraseDups with
    | nil =>
      rw [herase] at ha
      exact absurd ha List.not_mem_nil
    | cons first rest =>
      cases rest with
      | nil =>
        rw [herase] at ha hb
        exact absurd ((List.mem_singleton.mp ha).trans (List.mem_singleton.mp hb).symm) hne
      | cons second rest =>
        rw [List.length_cons, List.length_cons]
        omega

theorem competing_iff {records : List EventRecord} :
    competing records = true ↔ ∃ record ∈ records, ∃ other ∈ records, Disagree record other := by
  rw [competing, decide_eq_true_iff, Dicts.keys, one_lt_eraseDups]
  constructor
  · rintro ⟨_, ha, _, hb, hne⟩
    obtain ⟨record, hrecord, rfl⟩ := List.mem_map.mp ha
    obtain ⟨other, hother, rfl⟩ := List.mem_map.mp hb
    refine ⟨record, hrecord, other, hother, ?_⟩
    by_contra hagree
    exact hne (by simpa [Disagree] using hagree)
  · rintro ⟨record, hrecord, other, hother, hdisagree⟩
    refine ⟨_, List.mem_map_of_mem hrecord, _, List.mem_map_of_mem hother, ?_⟩
    intro heq
    rcases hdisagree with h | h
    · exact h (congrArg Prod.fst heq)
    · exact h (congrArg Prod.snd heq)

theorem mem_conflictIds {records : List EventRecord} {id : Identifier} :
    id ∈ conflictIds records ↔ (∃ record ∈ records, id ∈ record.conflictEvidenceIds.ids) ∨
      (∃ record ∈ records, ∃ other ∈ records, Disagree record other) ∧
        ∃ record ∈ records, id ∈ record.supportingEvidenceIds.ids := by
  rw [conflictIds, (sortedIds_spec _).2.2, List.mem_append, List.mem_flatMap, ← competing_iff,
    ← mem_supportingIds]
  by_cases hcompeting : competing records = true
  · rw [if_pos hcompeting]
    simp only [hcompeting, true_and]
  · rw [if_neg hcompeting]
    simp [hcompeting]

/-- The evidence of the records fits into one event. -/
def Fits (records : List EventRecord) : Prop :=
  (supportingIds records).length ≤ 256 ∧ (conflictIds records).length ≤ 256

theorem evidenceIdsOf_eq_ok {ids : List Identifier} (hnodup : ids.Nodup) {result : EvidenceIds} :
    evidenceIdsOf ids = .ok result ↔ ids.length ≤ 256 ∧ result.ids = ids := by
  unfold evidenceIdsOf
  by_cases hlegal : ids.length ≤ 256 ∧ ids.Nodup
  · rw [dif_pos hlegal]
    constructor
    · intro h
      cases h
      exact ⟨hlegal.1, rfl⟩
    · rintro ⟨-, rfl⟩
      rfl
  · rw [dif_neg hlegal]
    constructor
    · intro h
      cases h
    · rintro ⟨hlength, -⟩
      exact absurd ⟨hlength, hnodup⟩ hlegal

theorem sortedIds_congr {ids other : List Identifier} (h : ∀ id, id ∈ ids ↔ id ∈ other) :
    sortedIds ids = sortedIds other := by
  refine Groups.sortedOn_eq_of_perm _ ?_ fun a _ b _ hab => Identifier.eq_of_text hab
  refine (List.perm_ext_iff_of_nodup (Dicts.nodup_eraseDups _ _ le_rfl)
    (Dicts.nodup_eraseDups _ _ le_rfl)).mpr fun id => ?_
  rw [List.mem_eraseDups, List.mem_eraseDups, h]

/-- Which records there are decides whether their evidence fits. -/
theorem fits_congr {records other : List EventRecord} (h : ∀ record, record ∈ records ↔ record ∈ other) :
    Fits records ↔ Fits other := by
  have hsupporting : supportingIds records = supportingIds other := by
    apply sortedIds_congr
    intro id
    simp only [List.mem_flatMap, h]
  have hcompeting : competing records = competing other := by
    rw [Bool.eq_iff_iff, competing_iff, competing_iff]
    simp only [h]
  have hconflicts : conflictIds records = conflictIds other := by
    unfold conflictIds
    rw [hcompeting, hsupporting]
    apply sortedIds_congr
    intro id
    simp only [List.mem_append, List.mem_flatMap, h]
  unfold Fits
  rw [hsupporting, hconflicts]

theorem mergedEvent_eq_ok {key : Occurrence} {records : List EventRecord} {merged : EventRecord} :
    mergedEvent (key, records) = .ok merged ↔ ∃ first rest, records.eraseDups = first :: rest ∧
      ∃ supporting, evidenceIdsOf (supportingIds (first :: rest)) = .ok supporting ∧
        ∃ conflicts, evidenceIdsOf (conflictIds (first :: rest)) = .ok conflicts ∧
          merged = ⟨(firstRecord first rest).eventId, key.1, key.2.1, key.2.2,
            (first :: rest).any EventRecord.verified, maxMateriality first rest, supporting, conflicts⟩ := by
  unfold mergedEvent
  cases records.eraseDups with
  | nil =>
    constructor
    · intro h
      cases h
    · rintro ⟨first, rest, h, -⟩
      cases h
  | cons first rest =>
    simp only [Fallible.bind_eq_ok]
    constructor
    · rintro ⟨supporting, hsupporting, conflicts, hconflicts, h⟩
      cases h
      exact ⟨first, rest, rfl, supporting, hsupporting, conflicts, hconflicts, rfl⟩
    · rintro ⟨_, _, h, supporting, hsupporting, conflicts, hconflicts, rfl⟩
      cases h
      exact ⟨supporting, hsupporting, conflicts, hconflicts, rfl⟩

/-- **What merging makes of one group.** -/
theorem mergedEvent_merges {key : Occurrence} {records : List EventRecord} {merged : EventRecord}
    (hkey : ∀ record ∈ records, occurrenceOf record = key) (h : mergedEvent (key, records) = .ok merged) :
    Merges records merged := by
  obtain ⟨first, rest, hdups, supporting, hsupporting, conflicts, hconflicts, rfl⟩ :=
    mergedEvent_eq_ok.mp h
  have hmem : ∀ record, record ∈ first :: rest ↔ record ∈ records := by
    intro record
    rw [← hdups, List.mem_eraseDups]
  have hsupportingIds : supporting.ids = supportingIds (first :: rest) :=
    ((evidenceIdsOf_eq_ok (sortedIds_spec _).1).mp hsupporting).2
  have hconflictIds : conflicts.ids = conflictIds (first :: rest) :=
    ((evidenceIdsOf_eq_ok (sortedIds_spec _).1).mp hconflicts).2
  obtain ⟨hfirst, hleast⟩ := firstRecord_spec rest first
  obtain ⟨hfrom, hmost⟩ := maxMateriality_spec first rest
  refine ⟨hkey, ⟨⟨_, (hmem _).mp hfirst, rfl⟩, ?_⟩, ?_, ⟨?_, ?_⟩, ⟨?_, ?_⟩, ⟨?_, ?_⟩⟩
  · intro record hrecord
    exact hleast record ((hmem record).mpr hrecord)
  · show (first :: rest).any EventRecord.verified = true ↔ _
    rw [List.any_eq_true]
    simp only [hmem]
  · obtain ⟨record, hrecord, hsame⟩ := hfrom
    exact ⟨record, (hmem record).mp hrecord, hsame⟩
  · intro record hrecord
    exact hmost record ((hmem record).mpr hrecord)
  · show supporting.ids.Pairwise _
    rw [hsupportingIds]
    exact (sortedIds_spec _).2.1
  · intro id
    show id ∈ supporting.ids ↔ _
    rw [hsupportingIds, mem_supportingIds]
    simp only [hmem]
  · show conflicts.ids.Pairwise _
    rw [hconflictIds]
    exact (sortedIds_spec _).2.1
  · intro id
    show id ∈ conflicts.ids ↔ _
    rw [hconflictIds, mem_conflictIds]
    simp only [hmem]

/-- A group has a merged event exactly when its evidence fits. -/
theorem mergedEvent_isOk {key : Occurrence} {records : List EventRecord} (hne : records ≠ []) :
    (∃ merged, mergedEvent (key, records) = .ok merged) ↔ Fits records := by
  cases hdups : records.eraseDups with
  | nil =>
    obtain ⟨record, hrecord⟩ := List.exists_mem_of_ne_nil records hne
    rw [← List.mem_eraseDups, hdups] at hrecord
    exact absurd hrecord List.not_mem_nil
  | cons first rest =>
    have hmem : ∀ record, record ∈ first :: rest ↔ record ∈ records := by
      intro record
      rw [← hdups, List.mem_eraseDups]
    rw [← fits_congr hmem]
    constructor
    · rintro ⟨merged, h⟩
      obtain ⟨_, _, heq, supporting, hsupporting, conflicts, hconflicts, -⟩ := mergedEvent_eq_ok.mp h
      cases hdups.symm.trans heq
      exact ⟨((evidenceIdsOf_eq_ok (sortedIds_spec _).1).mp hsupporting).1,
        ((evidenceIdsOf_eq_ok (sortedIds_spec _).1).mp hconflicts).1⟩
    · rintro ⟨hsupporting, hconflicts⟩
      exact ⟨_, mergedEvent_eq_ok.mpr ⟨first, rest, hdups,
        ⟨_, hsupporting, (sortedIds_spec _).1⟩, (evidenceIdsOf_eq_ok (sortedIds_spec _).1).mpr
          ⟨hsupporting, rfl⟩,
        ⟨_, hconflicts, (sortedIds_spec _).1⟩, (evidenceIdsOf_eq_ok (sortedIds_spec _).1).mpr
          ⟨hconflicts, rfl⟩, rfl⟩⟩

/-! ## The answers -/

/-- What the providers returned. -/
def answers (request : EventRequest) (providers : List EventProvider) : List EventCollection :=
  providers.filterMap fun provider => (provider.collectEvents request).toOption

/-- All records that the providers report. -/
def reported (request : EventRequest) (providers : List EventProvider) : List EventRecord :=
  (answers request providers).flatMap EventCollection.events

/-- The health that one provider adds. -/
def healthFrom (request : EventRequest) (provider : EventProvider) : List SourceHealth :=
  match provider.collectEvents request with
  | .ok value => value.sourceHealth
  | .error errorType =>
    if h : Identifier.IsLegal provider.providerId then [healthOf ⟨provider.providerId, h⟩ errorType]
    else []

/-- The failures that one provider adds. -/
def failuresFrom (request : EventRequest) (provider : EventProvider) : List ProviderFailure :=
  match provider.collectEvents request with
  | .ok value => value.failures
  | .error errorType =>
    if h : Identifier.IsLegal provider.providerId then [failureOf ⟨provider.providerId, h⟩ errorType]
    else []

/-- A provider that raises has an id to record the failure under. -/
def Recordable (request : EventRequest) (provider : EventProvider) : Prop :=
  (∃ value, provider.collectEvents request = .ok value) ∨ Identifier.IsLegal provider.providerId

theorem askProvider_eq_ok {request : EventRequest} {state next : Collected} {provider : EventProvider} :
    askProvider request state provider = .ok next ↔ Recordable request provider ∧
      next = ⟨state.collections ++ (provider.collectEvents request).toOption.toList,
        state.sourceHealth ++ healthFrom request provider,
        state.failures ++ failuresFrom request provider⟩ := by
  unfold askProvider Recordable healthFrom failuresFrom
  cases provider.collectEvents request with
  | ok value =>
    constructor
    · intro h
      cases h
      exact ⟨Or.inl ⟨value, rfl⟩, rfl⟩
    · rintro ⟨-, rfl⟩
      rfl
  | error errorType =>
    by_cases hlegal : Identifier.IsLegal provider.providerId
    · simp only [dif_pos hlegal]
      constructor
      · intro h
        cases h
        refine ⟨Or.inr hlegal, ?_⟩
        rw [Except.toOption, Option.toList_none, List.append_nil]
      · rintro ⟨-, rfl⟩
        show Except.ok _ = Except.ok _
        rw [Except.toOption, Option.toList_none, List.append_nil]
    · simp only [dif_neg hlegal]
      constructor
      · intro h
        cases h
      · rintro ⟨hvalue | hvalue, -⟩
        · obtain ⟨value, hvalue⟩ := hvalue
          cases hvalue
        · exact absurd hvalue hlegal

theorem askProviders_eq_ok {request : EventRequest} : ∀ {providers : List EventProvider}
    {state final : Collected}, providers.foldlM (askProvider request) state = .ok final ↔
      (∀ provider ∈ providers, Recordable request provider) ∧
        final = ⟨state.collections ++ answers request providers,
          state.sourceHealth ++ providers.flatMap (healthFrom request),
          state.failures ++ providers.flatMap (failuresFrom request)⟩
  | [], state, final => by
    constructor
    · intro h
      cases h
      refine ⟨fun _ hmem => absurd hmem List.not_mem_nil, ?_⟩
      simp [answers]
    · rintro ⟨-, rfl⟩
      simp [answers]
      rfl
  | provider :: rest, state, final => by
    have hanswers : answers request (provider :: rest) =
        (provider.collectEvents request).toOption.toList ++ answers request rest := by
      unfold answers
      rw [List.filterMap_cons]
      cases (provider.collectEvents request).toOption with
      | none => rfl
      | some value => rfl
    rw [List.foldlM_cons, Fallible.bind_eq_ok, List.forall_mem_cons, hanswers, List.flatMap_cons,
      List.flatMap_cons]
    constructor
    · rintro ⟨next, hnext, hrest⟩
      obtain ⟨hone, rfl⟩ := askProvider_eq_ok.mp hnext
      obtain ⟨hall, rfl⟩ := askProviders_eq_ok.mp hrest
      refine ⟨⟨hone, hall⟩, ?_⟩
      simp only [List.append_assoc]
    · rintro ⟨⟨hone, hall⟩, rfl⟩
      refine ⟨_, askProvider_eq_ok.mpr ⟨hone, rfl⟩, askProviders_eq_ok.mpr ⟨hall, ?_⟩⟩
      simp only [List.append_assoc]

/-! ## The collection -/

/-- The records of one occurrence. -/
def recordsOf (records : List EventRecord) (key : Occurrence) : List EventRecord :=
  records.filter fun record => occurrenceOf record = key

theorem mem_recordsOf {records : List EventRecord} {key : Occurrence} {record : EventRecord} :
    record ∈ recordsOf records key ↔ record ∈ records ∧ occurrenceOf record = key := by
  rw [recordsOf, List.mem_filter, decide_eq_true_iff]

/-- What a collection keeps of the answers. -/
structure Keeps (same : EvidenceItem → EvidenceItem → Bool) (providers : List EventProvider)
    (request : EventRequest) (collection : EventCollection) : Prop where
  /-- There is one event for each occurrence that is reported. -/
  found : ∀ record ∈ reported request providers,
    ∃ merged ∈ collection.events, occurrenceOf merged = occurrenceOf record
  merges : ∀ merged ∈ collection.events,
    Merges (recordsOf (reported request providers) (occurrenceOf merged)) merged
  distinct : (collection.events.map occurrenceOf).Nodup
  sorted : collection.events.Pairwise fun a b => eventKey a ≤ eventKey b
  evidence : (∀ item ∈ collection.evidence,
      item ∈ (answers request providers).flatMap EventCollection.evidence) ∧
    ∀ item ∈ (answers request providers).flatMap EventCollection.evidence,
      ∃ held ∈ collection.evidence, held = item ∨ same item held = true
  observations : collection.sourceObservations.Nodup ∧
    ∀ observation, observation ∈ collection.sourceObservations ↔
      observation ∈ (answers request providers).flatMap EventCollection.sourceObservations
  health : collection.sourceHealth.Perm (providers.flatMap (healthFrom request))
  failures : collection.failures.Perm (providers.flatMap (failuresFrom request))

variable {same : EvidenceItem → EvidenceItem → Bool} {providers : List EventProvider}
  {request : EventRequest} {collection : EventCollection}

theorem mem_groups {records : List EventRecord} {group : Occurrence × List EventRecord}
    (h : group ∈ Groups.grouped occurrenceOf records) :
    group.2 = recordsOf records group.1 ∧ group.2 ≠ [] := by
  obtain ⟨⟨record, hrecord, hkey⟩, hitems⟩ := (Groups.mem_grouped occurrenceOf).mp h
  refine ⟨hitems, ?_⟩
  rw [hitems]
  exact List.ne_nil_of_mem (List.mem_filter.mpr ⟨hrecord, decide_eq_true hkey⟩)

/-- The events of the groups, group by group. -/
theorem mergedEvents_spec {records : List EventRecord} {events : List EventRecord}
    (h : (Groups.grouped occurrenceOf records).mapM mergedEvent = .ok events) :
    (∀ record ∈ records, ∃ merged ∈ events, occurrenceOf merged = occurrenceOf record) ∧
      (∀ merged ∈ events, Merges (recordsOf records (occurrenceOf merged)) merged) ∧
      (events.map occurrenceOf).Nodup := by
  have hall := Fallible.mapM_eq_ok.mp h
  have hone : ∀ group ∈ Groups.grouped occurrenceOf records, ∀ merged,
      mergedEvent group = .ok merged → occurrenceOf merged = group.1 ∧ Merges (recordsOf records group.1) merged := by
    intro group hgroup merged hmerged
    obtain ⟨hitems, hne⟩ := mem_groups hgroup
    have hmerges : Merges (recordsOf records group.1) merged := by
      have hok : mergedEvent (group.1, recordsOf records group.1) = .ok merged := by
        rw [← hitems]
        exact hmerged
      exact mergedEvent_merges (fun record hrecord => (mem_recordsOf.mp hrecord).2) hok
    obtain ⟨record, hrecord⟩ := List.exists_mem_of_ne_nil _ (hitems ▸ hne)
    exact ⟨(hmerges.same record hrecord).symm.trans (mem_recordsOf.mp hrecord).2, hmerges⟩
  have hkeys : events.map occurrenceOf = (Groups.grouped occurrenceOf records).map Prod.fst := by
    clear h
    generalize Groups.grouped occurrenceOf records = groups at hall hone
    induction hall with
    | nil => rfl
    | @cons group merged groups rest hmerged _ ih =>
      rw [List.map_cons, List.map_cons, (hone group List.mem_cons_self merged hmerged).1,
        ih fun other hother => hone other (List.mem_cons_of_mem _ hother)]
  refine ⟨?_, ?_, ?_⟩
  · intro record hrecord
    have hmem : occurrenceOf record ∈ events.map occurrenceOf := by
      rw [hkeys]
      exact List.mem_map.mpr ⟨(occurrenceOf record, recordsOf records (occurrenceOf record)),
        (Groups.mem_grouped occurrenceOf).mpr ⟨⟨record, hrecord, rfl⟩, rfl⟩, rfl⟩
    obtain ⟨merged, hmerged, hkey⟩ := List.mem_map.mp hmem
    exact ⟨merged, hmerged, hkey⟩
  · intro merged hmerged
    obtain ⟨group, hgroup, hok⟩ := Fallible.exists_of_mem_mapM h hmerged
    obtain ⟨hkey, hmerges⟩ := hone group hgroup merged hok
    rw [hkey]
    exact hmerges
  · rw [hkeys]
    exact Groups.nodup_grouped occurrenceOf records

theorem collectEvents_eq_ok : collectEvents same providers request = .ok collection ↔
    (∀ provider ∈ providers, Recordable request provider) ∧
      ∃ events, (Groups.grouped occurrenceOf (reported request providers)).mapM mergedEvent = .ok events ∧
        collection = {
          provider := compositeId
          events := Groups.sortedOn eventKey events
          evidence := Groups.sortedOn (fun item => item.evidenceId.text)
            (Groups.keptOf same ((answers request providers).flatMap EventCollection.evidence))
          sourceObservations := Groups.sortedOn (fun item => item.observationId.text)
            ((answers request providers).flatMap EventCollection.sourceObservations).eraseDups
          sourceHealth := Groups.sortedOn healthKey (providers.flatMap (healthFrom request))
          failures := Groups.sortedOn failureKey (providers.flatMap (failuresFrom request)) } := by
  unfold collectEvents
  rw [Fallible.bind_eq_ok]
  constructor
  · rintro ⟨collected, hcollected, h⟩
    obtain ⟨hall, rfl⟩ := askProviders_eq_ok.mp hcollected
    simp only [List.nil_append, Fallible.bind_eq_ok] at h
    obtain ⟨events, hevents, h⟩ := h
    cases h
    exact ⟨hall, events, hevents, rfl⟩
  · rintro ⟨hall, events, hevents, rfl⟩
    refine ⟨_, askProviders_eq_ok.mpr ⟨hall, rfl⟩, ?_⟩
    simp only [List.nil_append, Fallible.bind_eq_ok]
    exact ⟨events, hevents, rfl⟩

theorem collectEvents_keeps (h : collectEvents same providers request = .ok collection) :
    Keeps same providers request collection := by
  obtain ⟨-, events, hevents, rfl⟩ := collectEvents_eq_ok.mp h
  obtain ⟨hfound, hmerges, hdistinct⟩ := mergedEvents_spec hevents
  have hperm : (Groups.sortedOn eventKey events).Perm events := Groups.sortedOn_perm _ _
  refine ⟨?_, ?_, ?_, Groups.sortedOn_pairwise _ _, ⟨?_, ?_⟩, ⟨?_, ?_⟩, Groups.sortedOn_perm _ _,
    Groups.sortedOn_perm _ _⟩
  · intro record hrecord
    obtain ⟨merged, hmerged, hkey⟩ := hfound record hrecord
    exact ⟨merged, hperm.mem_iff.mpr hmerged, hkey⟩
  · intro merged hmerged
    exact hmerges merged (hperm.mem_iff.mp hmerged)
  · exact (hperm.map occurrenceOf).nodup_iff.mpr hdistinct
  · intro item hitem
    exact Groups.mem_keptOf ((Groups.mem_sortedOn _).mp hitem)
  · intro item hitem
    obtain ⟨held, hheld, hsame⟩ := @Groups.keepNew_covers _ same _ [] item hitem
    exact ⟨held, (Groups.mem_sortedOn _).mpr hheld, hsame⟩
  · exact (Groups.sortedOn_perm _ _).nodup_iff.mpr (Dicts.nodup_eraseDups _ _ le_rfl)
  · intro observation
    rw [Groups.mem_sortedOn, List.mem_eraseDups]

/-- When the composite returns a collection. -/
def Collectable (providers : List EventProvider) (request : EventRequest) : Prop :=
  (∀ provider ∈ providers, Recordable request provider) ∧
    ∀ record ∈ reported request providers,
      Fits (recordsOf (reported request providers) (occurrenceOf record))

theorem mergedEvents_isOk {records : List EventRecord} :
    (∃ events, (Groups.grouped occurrenceOf records).mapM mergedEvent = .ok events) ↔
      ∀ record ∈ records, Fits (recordsOf records (occurrenceOf record)) := by
  rw [Fallible.mapM_isOk_iff]
  constructor
  · intro h record hrecord
    have hgroup : (occurrenceOf record, recordsOf records (occurrenceOf record)) ∈
        Groups.grouped occurrenceOf records :=
      (Groups.mem_grouped occurrenceOf).mpr ⟨⟨record, hrecord, rfl⟩, rfl⟩
    exact (mergedEvent_isOk (mem_groups hgroup).2).mp (h _ hgroup)
  · intro h group hgroup
    obtain ⟨hitems, hne⟩ := mem_groups hgroup
    obtain ⟨record, hrecord⟩ := List.exists_mem_of_ne_nil _ hne
    rw [hitems] at hrecord
    obtain ⟨hmem, hkey⟩ := mem_recordsOf.mp hrecord
    have hone := h record hmem
    rw [hkey, ← hitems] at hone
    exact (mergedEvent_isOk hne).mpr hone

theorem collectEvents_isOk :
    (∃ collection, collectEvents same providers request = .ok collection) ↔
      Collectable providers request := by
  unfold Collectable
  rw [← mergedEvents_isOk]
  constructor
  · rintro ⟨collection, h⟩
    obtain ⟨hall, events, hevents, -⟩ := collectEvents_eq_ok.mp h
    exact ⟨hall, events, hevents⟩
  · rintro ⟨hall, events, hevents⟩
    exact ⟨_, collectEvents_eq_ok.mpr ⟨hall, events, hevents, rfl⟩⟩

/-- **The composite returns a collection exactly when it can record every failing provider and no
occurrence cites more than 256 items, and then nothing that a provider answered is lost**: there
is one event for each occurrence, merged from all its records, and all evidence, observations,
health entries and failures are kept. -/
theorem collectEvents_lossless (same : EvidenceItem → EvidenceItem → Bool)
    (providers : List EventProvider) (request : EventRequest) :
    ((∃ collection, collectEvents same providers request = .ok collection) ↔
      Collectable providers request) ∧
      ∀ collection, collectEvents same providers request = .ok collection →
        Keeps same providers request collection :=
  ⟨collectEvents_isOk, fun _ h => collectEvents_keeps h⟩

/-! ## The order of the providers -/

theorem answers_perm {other : List EventProvider} (h : providers.Perm other) :
    (answers request providers).Perm (answers request other) := h.filterMap _

theorem reported_perm {other : List EventProvider} (h : providers.Perm other) :
    (reported request providers).Perm (reported request other) := (answers_perm h).flatMap_right _

theorem mem_recordsOf_congr {other : List EventProvider} (h : providers.Perm other) {key : Occurrence}
    {record : EventRecord} : record ∈ recordsOf (reported request providers) key ↔
      record ∈ recordsOf (reported request other) key := by
  rw [mem_recordsOf, mem_recordsOf, (reported_perm h).mem_iff]

theorem collectable_perm {other : List EventProvider} (h : providers.Perm other)
    (hcollectable : Collectable providers request) : Collectable other request := by
  refine ⟨fun provider hprovider => hcollectable.1 provider (h.mem_iff.mpr hprovider), ?_⟩
  intro record hrecord
  refine (fits_congr fun _ => mem_recordsOf_congr h).mp ?_
  exact hcollectable.2 record ((reported_perm h).mem_iff.mpr hrecord)

/-- An event of one order is an event of the other. -/
theorem Keeps.events_subset {other : List EventProvider} {collection' : EventCollection}
    (hperm : providers.Perm other) (h : Keeps same providers request collection)
    (h' : Keeps same other request collection') :
    ∀ merged ∈ collection.events, merged ∈ collection'.events := by
  intro merged hmerged
  have hmerges := h.merges merged hmerged
  obtain ⟨record, hrecord, -⟩ := hmerges.eventId.1
  obtain ⟨hreported, hkey⟩ := mem_recordsOf.mp hrecord
  obtain ⟨merged', hmerged', hkey'⟩ := h'.found record ((reported_perm hperm).mem_iff.mp hreported)
  have hsame : merged = merged' := by
    refine hmerges.unique (h'.merges merged' hmerged') ?_
    intro other
    rw [hkey', hkey]
    exact mem_recordsOf_congr hperm
  rw [hsame]
  exact hmerged'

/-- **The order of the providers does not matter**: every order of them fails, or every order
returns the same events, observations, health entries and failures, and of the evidence the same
items up to `==`. The events come in the same order too, unless two of them share time, type and
id. -/
theorem collectEvents_order_free (same : EvidenceItem → EvidenceItem → Bool)
    {providers other : List EventProvider} (hperm : providers.Perm other) (request : EventRequest) :
    ((∃ collection, collectEvents same providers request = .ok collection) ↔
      ∃ collection, collectEvents same other request = .ok collection) ∧
      ∀ collection collection', collectEvents same providers request = .ok collection →
        collectEvents same other request = .ok collection' →
        collection.events.Perm collection'.events ∧
          ((collection.events.map eventKey).Nodup → collection.events = collection'.events) ∧
          collection.sourceObservations.Perm collection'.sourceObservations ∧
          collection.sourceHealth.Perm collection'.sourceHealth ∧
          collection.failures.Perm collection'.failures ∧
          ∀ item ∈ collection.evidence, ∃ held ∈ collection'.evidence, held = item ∨ same item held = true := by
  refine ⟨?_, ?_⟩
  · rw [collectEvents_isOk, collectEvents_isOk]
    exact ⟨collectable_perm hperm, collectable_perm hperm.symm⟩
  · intro collection collection' hok hok'
    have h := collectEvents_keeps hok
    have h' := collectEvents_keeps hok'
    have hevents : collection.events.Perm collection'.events := by
      refine (List.perm_ext_iff_of_nodup h.distinct.of_map h'.distinct.of_map).mpr fun merged => ?_
      exact ⟨h.events_subset hperm h' merged, h'.events_subset hperm.symm h merged⟩
    refine ⟨hevents, ?_, ?_, ?_, ?_, ?_⟩
    · intro hkeys
      refine hevents.eq_of_pairwise ?_ h.sorted h'.sorted
      intro a b ha hb hab hba
      exact List.inj_on_of_nodup_map hkeys ha (hevents.mem_iff.mpr hb) (le_antisymm hab hba)
    · refine (List.perm_ext_iff_of_nodup h.observations.1 h'.observations.1).mpr fun observation => ?_
      rw [h.observations.2, h'.observations.2, ((answers_perm hperm).flatMap_right _).mem_iff]
    · exact (h.health.trans (hperm.flatMap_right _)).trans h'.health.symm
    · exact (h.failures.trans (hperm.flatMap_right _)).trans h'.failures.symm
    · intro item hitem
      exact h'.evidence.2 item (((answers_perm hperm).flatMap_right _).mem_iff.mp (h.evidence.1 item hitem))

/-- A source that raises, and one that answers with a failure of its own. -/
def failingSources : List EventProvider :=
  [⟨"composite", fun _ => .error "TimeoutError"⟩,
    ⟨"filings", fun _ => .ok ⟨compositeId, [], [], [], [], [failureOf compositeId "ValueError"]⟩⟩]

theorem collectEvents_order_free_failing : ∃ collection collection',
    collectEvents (fun _ _ => false) failingSources ⟨[], 0, 2, 0⟩ = .ok collection ∧
      collectEvents (fun _ _ => false) failingSources.reverse ⟨[], 0, 2, 0⟩ = .ok collection' ∧
      collection.failures.length = 2 ∧ collection.failures.Perm collection'.failures := by
  have hperm : failingSources.Perm failingSources.reverse := (List.reverse_perm _).symm
  have hok : ∃ collection, collectEvents (fun _ _ => false) failingSources ⟨[], 0, 2, 0⟩ = .ok collection ∧
      collection.failures.length = 2 := ⟨_, rfl, by decide⟩
  have hok' : ∃ collection, collectEvents (fun _ _ => false) failingSources.reverse ⟨[], 0, 2, 0⟩ =
      .ok collection := ⟨_, rfl⟩
  obtain ⟨collection, hok, hboth⟩ := hok
  obtain ⟨collection', hok'⟩ := hok'
  obtain ⟨-, -, -, -, hfailures, -⟩ :=
    (collectEvents_order_free (fun _ _ => false) hperm ⟨[], 0, 2, 0⟩).2 collection collection' hok hok'
  exact ⟨collection, collection', hok, hok', hboth, hfailures⟩

end FinanceResearch.Events
