import FinanceResearch.Brief.Findings

/-!
# Drafts without findings

What the checks leave of a draft when none of them reports: one lemma for each
fact that rendering, publication or review relies on.
-/

namespace FinanceResearch

@[simp] theorem flag_eq_nil {condition : Prop} [Decidable condition] {finding : Finding} :
    flag condition finding = [] ↔ ¬ condition := by
  unfold flag
  split <;> simp_all

variable {u : CharacterDatabase} {packet : ResearchPacket} {draft : ResearchBriefDraft}

/-! ## The groups of checks -/

/-- None of the checks reports. -/
def Passes (u : CharacterDatabase) (packet : ResearchPacket) (draft : ResearchBriefDraft) : Prop :=
  findings u packet draft = []

theorem Passes.run (h : Passes u packet draft) : runFindings packet draft = [] := by
  simp only [Passes, findings, List.append_eq_nil_iff] at h
  exact h.1.1.1.1.1

theorem Passes.executive (h : Passes u packet draft) :
    sectionFindings "/executive_sections" draft.executiveSections executiveSections = [] := by
  simp only [Passes, findings, List.append_eq_nil_iff] at h
  exact h.1.1.1.1.2

theorem Passes.detailed (h : Passes u packet draft) :
    sectionFindings "/detailed_sections" draft.detailedSections detailedSections = [] := by
  simp only [Passes, findings, List.append_eq_nil_iff] at h
  exact h.1.1.1.2

theorem Passes.inDraft (h : Passes u packet draft) : draftFindings u packet draft = [] := by
  simp only [Passes, findings, List.append_eq_nil_iff] at h
  exact h.1.2

theorem Passes.graph (h : Passes u packet draft) : graphFindings draft.claims = [] := by
  have hdraft := h.inDraft
  simp only [draftFindings, List.append_eq_nil_iff] at hdraft
  exact hdraft.1.1.1

theorem Passes.narrative (h : Passes u packet draft) {narrative : PlanNarrative}
    (hn : narrative ∈ draft.planNarratives) :
    narrativeFindings u packet draft.claims narrative = [] := by
  have hdraft := h.inDraft
  simp only [draftFindings, List.append_eq_nil_iff, List.flatMap_eq_nil_iff] at hdraft
  exact hdraft.1.1.2 narrative hn

theorem Passes.warnings (h : Passes u packet draft) : warningFindings u packet draft = [] := by
  have hdraft := h.inDraft
  simp only [draftFindings, List.append_eq_nil_iff] at hdraft
  exact hdraft.1.2

theorem Passes.claim (h : Passes u packet draft) {claim : Claim} (hc : claim ∈ draft.claims) :
    claimFindings u packet draft claim = [] := by
  have hdraft := h.inDraft
  simp only [draftFindings, List.append_eq_nil_iff, List.flatMap_eq_nil_iff] at hdraft
  exact hdraft.2 claim hc

/-! ## Identity and sections -/

theorem Passes.runId_eq (h : Passes u packet draft) : draft.runId = packet.runId := by
  have hrun := h.run
  simp only [runFindings, List.append_eq_nil_iff, flag_eq_nil, not_not] at hrun
  exact hrun.1

theorem Passes.statuses_eq (h : Passes u packet draft) :
    packet.run.executionStatus = draft.executionStatus ∧
      packet.run.dataQualityStatus = draft.dataQualityStatus ∧
      packet.run.deliveryStatus = draft.deliveryStatus := by
  have hrun := h.run
  simp only [runFindings, List.append_eq_nil_iff, flag_eq_nil, not_not, Prod.mk.injEq] at hrun
  exact hrun.2

/-- The sections are the expected ones: a draft that has others lacks one, or has them
in another order. -/
theorem sections_of_sectionFindings {pointer : String} {sections : List ReportSectionClaims}
    {expected : List ReportSection} (h : sectionFindings pointer sections expected = []) :
    sections.map ReportSectionClaims.reportSection = expected := by
  by_contra hne
  simp only [sectionFindings, if_neg hne, List.append_eq_nil_iff, flag_eq_nil, not_or,
    not_not] at h
  exact h.2.1 h.1

theorem Passes.executive_eq (h : Passes u packet draft) :
    draft.executiveSections.map ReportSectionClaims.reportSection = executiveSections :=
  sections_of_sectionFindings h.executive

theorem Passes.detailed_eq (h : Passes u packet draft) :
    draft.detailedSections.map ReportSectionClaims.reportSection = detailedSections :=
  sections_of_sectionFindings h.detailed

theorem exists_section {sections : List ReportSectionClaims} {expected : List ReportSection}
    (h : sections.map ReportSectionClaims.reportSection = expected) {s : ReportSection}
    (hs : s ∈ expected) : ∃ item ∈ sections, item.reportSection = s := by
  rw [← h] at hs
  exact List.mem_map.mp hs

/-! ## The claim graph -/

/-- No claim ID is used twice. -/
theorem nodup_of_duplicateClaims {claims : List Claim} (h : duplicateClaims claims = []) :
    (claims.map Claim.claimId).Nodup := by
  simp only [duplicateClaims, List.flatMap_eq_nil_iff, flag_eq_nil] at h
  rw [List.nodup_iff_pairwise_ne, List.pairwise_iff_getElem]
  intro i j hi hj hij heq
  rw [List.length_map] at hi hj
  simp only [List.getElem_map] at heq
  have hmem : (claims[j], j) ∈ claims.zipIdx := by
    rw [List.mem_zipIdx_iff_getElem?]
    exact List.getElem?_eq_getElem hj
  refine h _ hmem ?_
  rw [List.mem_map]
  exact ⟨claims[i], List.mem_take_iff_getElem.mpr ⟨i, by omega, rfl⟩, heq⟩

theorem Passes.nodup (h : Passes u packet draft) : (draft.claims.map Claim.claimId).Nodup := by
  have hgraph := h.graph
  simp only [graphFindings, List.append_eq_nil_iff] at hgraph
  exact nodup_of_duplicateClaims hgraph.1.1

theorem mem_claimIds {claims : List Claim} {id : Identifier} :
    id ∈ claimIds claims ↔ ∃ claim ∈ claims, claim.claimId = id := by
  simp [claimIds]

theorem Passes.supports_known (h : Passes u packet draft) {claim : Claim}
    (hc : claim ∈ draft.claims) {id : Identifier} (hid : id ∈ claim.supportsClaimIds) :
    id ∈ claimIds draft.claims := by
  have hgraph := h.graph
  simp only [graphFindings, List.append_eq_nil_iff, missingSupportFindings,
    List.flatMap_eq_nil_iff, flag_eq_nil, not_not] at hgraph
  obtain ⟨index, hindex⟩ := List.getElem?_of_mem hc
  have hmissing := hgraph.1.2 (claim, index) (List.mem_zipIdx_iff_getElem?.mpr hindex)
  simp only [missingSupports, List.filter_eq_nil_iff, decide_eq_true_eq, not_not] at hmissing
  exact hmissing id hid

/-- With claims of different IDs, a claim is the one found under its ID. -/
theorem find?_of_nodup {claims : List Claim} (hnodup : (claims.map Claim.claimId).Nodup)
    {claim : Claim} (hc : claim ∈ claims) :
    claims.find? (fun c => c.claimId = claim.claimId) = some claim := by
  induction claims with
  | nil => cases hc
  | cons c rest ih =>
    rw [List.map_cons, List.nodup_cons] at hnodup
    rcases List.mem_cons.mp hc with rfl | hc
    · rw [List.find?_cons_of_pos (by simp)]
    · have hne : ¬ c.claimId = claim.claimId := by
        intro heq
        exact hnodup.1 (heq ▸ List.mem_map_of_mem hc)
      rw [List.find?_cons_of_neg (by simpa using hne)]
      exact ih hnodup.2 hc

theorem claimById_of_mem {claims : List Claim} (hnodup : (claims.map Claim.claimId).Nodup)
    {claim : Claim} (hc : claim ∈ claims) : claimById claims claim.claimId = some claim :=
  find?_of_nodup hnodup hc

/-- With claims of different IDs, the first and the last claim of an ID are one. -/
theorem get?_eq_claimById {claims : List Claim} (hnodup : (claims.map Claim.claimId).Nodup)
    (id : Identifier) : Dicts.get? Claim.claimId claims id = claimById claims id := by
  cases hid : claimById claims id with
  | none =>
    rw [Dicts.get?_eq_none]
    rintro ⟨claim, hc, rfl⟩
    rw [claimById_of_mem hnodup hc] at hid
    cases hid
  | some claim =>
    obtain ⟨hc, rfl⟩ := claimById_mem hid
    have hreverse : (claims.reverse.map Claim.claimId).Nodup := by
      rw [List.map_reverse]
      exact List.nodup_reverse.mpr hnodup
    exact find?_of_nodup hreverse (List.mem_reverse.mpr hc)

/-! ## Narratives and warnings -/

/-- A narrative repeats claims of its plan. -/
theorem Passes.narrative_spec (h : Passes u packet draft) {narrative : PlanNarrative}
    (hn : narrative ∈ draft.planNarratives) :
    (∃ concrete, narrativeClaims draft.claims narrative = some concrete ∧
      narrative.text.val = narrativeText concrete ∧
      ∀ claim ∈ concrete, claim.planId = some narrative.planId) ∧
    (packet.planById narrative.planId).isSome = true ∧
    (Patterns.imperative u).search narrative.text.val = false := by
  have hfound := h.narrative hn
  simp only [narrativeFindings, List.append_eq_nil_iff, flag_eq_nil] at hfound
  obtain ⟨⟨hclaims, hplan⟩, hlanguage⟩ := hfound
  refine ⟨?_, by simpa [Option.isSome_iff_ne_none] using hplan, by simpa using hlanguage⟩
  cases hconcrete : narrativeClaims draft.claims narrative with
  | none => simp [hconcrete] at hclaims
  | some concrete =>
    simp only [hconcrete, List.append_eq_nil_iff, flag_eq_nil, not_not, not_exists, not_and,
      ne_eq] at hclaims
    exact ⟨concrete, rfl, hclaims.1, hclaims.2⟩

/-- The claims of a narrative are known, and are what its IDs name. -/
theorem mem_narrativeClaims {claims concrete : List Claim} {narrative : PlanNarrative}
    (h : narrativeClaims claims narrative = some concrete) :
    (∀ id ∈ narrative.claimIds, id ∈ claimIds claims) ∧
      ∀ claim, claim ∈ concrete ↔
        ∃ id ∈ narrative.claimIds, claimById claims id = some claim := by
  unfold narrativeClaims at h
  generalize narrative.claimIds = ids at h
  induction ids generalizing concrete with
  | nil =>
    cases h
    simp
  | cons first rest ih =>
    rw [List.mapM_cons] at h
    cases hid : claimById claims first with
    | none => simp [hid] at h
    | some claim₀ =>
    cases hrest : rest.mapM (claimById claims) with
    | none => simp [hid, hrest] at h
    | some others =>
    simp only [hid, hrest, Option.bind_eq_bind, Option.bind_some, Option.pure_def,
      Option.some.injEq] at h
    subst h
    obtain ⟨hknown, hmem⟩ := ih hrest
    constructor
    · intro id hin
      rcases List.mem_cons.mp hin with rfl | hin
      · rw [← isSome_claimById, hid]
        rfl
      · exact hknown id hin
    · intro claim
      rw [List.mem_cons, hmem]
      simp only [List.mem_cons, exists_eq_or_imp, hid, Option.some.injEq]
      constructor
      · rintro (rfl | hin)
        · exact Or.inl rfl
        · exact Or.inr hin
      · rintro (rfl | hin)
        · exact Or.inl rfl
        · exact Or.inr hin

/-- A warning repeats a gate message or a claim. -/
theorem Passes.warning_spec (h : Passes u packet draft) {warning : BoundedText 0 1000}
    (hw : warning ∈ draft.dataWarnings) :
    warning.val ∈ packetWarnings packet draft ∧
      (Patterns.imperative u).search warning.val = false := by
  have hfound := h.warnings
  simp only [warningFindings, List.flatMap_eq_nil_iff, List.append_eq_nil_iff, flag_eq_nil,
    not_not, Bool.not_eq_true] at hfound
  obtain ⟨index, hindex⟩ := List.getElem?_of_mem hw
  exact hfound (warning, index) (List.mem_zipIdx_iff_getElem?.mpr hindex)

/-! ## Claims -/

section Claims

variable {claim : Claim}

theorem Passes.references (h : Passes u packet draft) (hc : claim ∈ draft.claims) :
    claim.claimId ∈ referenced draft ∧
      (∀ id ∈ claim.evidenceIds ++ claim.counterEvidenceIds,
        (packet.evidenceById id).isSome = true) ∧
      ∀ id ∈ claim.metricIds, (packet.metricById id).isSome = true := by
  have hfound := h.claim hc
  simp only [claimFindings, List.append_eq_nil_iff, referenceFindings, flag_eq_nil,
    not_not] at hfound
  obtain ⟨⟨hreferenced, hevidence⟩, hmetrics⟩ := hfound.1.1.1.1.1.1.1.1.1
  simp only [unknownEvidence, unknownMetrics, List.filter_eq_nil_iff,
    Option.isNone_iff_eq_none] at hevidence hmetrics
  exact ⟨hreferenced, fun id hid => Option.isSome_iff_ne_none.mpr (hevidence id hid),
    fun id hid => Option.isSome_iff_ne_none.mpr (hmetrics id hid)⟩

/-- A plan a claim names is a plan of the packet. -/
theorem Passes.plan_known (h : Passes u packet draft) (hc : claim ∈ draft.claims)
    (hplan : claim.planId.isSome = true) : ∃ plan, planOf packet claim = some plan := by
  have hfound := h.claim hc
  simp only [claimFindings, List.append_eq_nil_iff, basisFindings, flag_eq_nil] at hfound
  have hknown := hfound.1.1.1.1.1.1.1.1.2.2
  rw [← Option.isSome_iff_exists, planOf]
  cases hsome : (claim.planId.bind packet.planById) with
  | some plan => rfl
  | none => exact absurd ⟨hplan, by rw [hsome]; rfl⟩ hknown

theorem Passes.keepsExpiry (h : Passes u packet draft) (hc : claim ∈ draft.claims)
    {plan : TradePlanDraft} (hplan : planOf packet claim = some plan) : KeepsExpiry plan claim := by
  have hfound := h.claim hc
  simp only [claimFindings, List.append_eq_nil_iff, hplan, Option.map_some, Option.getD_some,
    planFindings, flag_eq_nil, not_not] at hfound
  exact hfound.1.1.1.1.1.1.1.2.1.2

theorem Passes.language (h : Passes u packet draft) (hc : claim ∈ draft.claims) :
    (Patterns.imperative u).search claim.text.val = false ∧
      ∀ url ∈ (Patterns.urlText u).findAll claim.text.val, url ∈ citedUrls packet claim := by
  have hfound := h.claim hc
  simp only [claimFindings, List.append_eq_nil_iff, languageFindings, flag_eq_nil, not_exists,
    not_and, not_not, Bool.not_eq_true] at hfound
  exact ⟨hfound.1.1.2.1.1, hfound.1.1.2.2⟩

theorem Passes.numbers (h : Passes u packet draft) (hc : claim ∈ draft.claims) :
    (numericTokens u claim ≠ [] ∨ claim.numericValue.isSome = true →
      IsBound u packet draft.claims claim) ∧
    ∀ token ∈ numericTokens u claim, ¬ IsOtherNumber u claim token := by
  have hfound := h.claim hc
  simp only [claimFindings, List.append_eq_nil_iff, numericFindings, List.flatMap_eq_nil_iff,
    flag_eq_nil] at hfound
  obtain ⟨hvalue, htokens⟩ := hfound.1.2
  refine ⟨fun hnumeric => ?_, htokens⟩
  rw [if_pos hnumeric, List.append_eq_nil_iff] at hvalue
  have hbound := hvalue.1
  simpa using hbound

end Claims

end FinanceResearch
