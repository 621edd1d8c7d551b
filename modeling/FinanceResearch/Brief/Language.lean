import FinanceResearch.Brief.Rendered

/-!
# Prohibited language in a report

The validator searches claim texts, narratives and warnings for imperative
language; an invalidation it compares with the plan's, so that of a claim without
a plan is not searched. `no_imperative_iff` says that this is the only gap.
-/

namespace FinanceResearch

variable {u : CharacterDatabase} {packet : ResearchPacket} {draft : ResearchBriefDraft}

/-- A text copied verbatim from a deterministic plan. -/
def FromPlan (packet : ResearchPacket) (text : String) : Prop :=
  ∃ plan ∈ packet.deterministicPlanInputs, text ∈ plan.texts

/-- No match of `_IMPERATIVE`, unless the text is a plan's. -/
def NoImperative (u : CharacterDatabase) (packet : ResearchPacket) (text : String) : Prop :=
  (Patterns.imperative u).search text = false ∨ FromPlan packet text

theorem not_imperative_empty : (Patterns.imperative u).search "" = false := by
  simp [Patterns.imperative, Patterns.phrase, Patterns.pair, Regex.search, Regex.searchFrom,
    Regex.all, Regex.any, Regex.letters, Regex.wordBoundary, Regex.ends]

/-- The invalidation of a claim with a plan is the plan's. -/
theorem Passes.invalidation_fromPlan (h : Passes u packet draft) {claim : Claim}
    (hc : claim ∈ draft.claims) (hplan : claim.planId.isSome = true) {text : BoundedText 0 1000}
    (htext : text ∈ claim.invalidation) : FromPlan packet text.val := by
  obtain ⟨plan, hplan⟩ := h.plan_known hc hplan
  have hkeeps := (h.keepsExpiry hc hplan).1
  rw [Option.mem_def.mp htext, Option.map_some, Option.some.injEq] at hkeeps
  obtain ⟨id, -, hid⟩ := Option.bind_eq_some_iff.mp hplan
  exact ⟨plan, Dicts.mem_of_get? hid, by simp [TradePlanDraft.texts, hkeeps]⟩

/-- **Nothing a report prints of the draft has imperative language, exactly when no
invalidation of a claim without a plan has.** -/
theorem no_imperative_iff {validation : ValidationReport} {report : String}
    (h : renderMarkdownReport u packet draft validation = .ok report) :
    (∀ t, Prints u packet draft validation t → NoImperative u packet t.text) ↔
      ∀ claim ∈ draft.claims, claim.planId = none → ∀ text ∈ claim.invalidation,
        NoImperative u packet text.val := by
  have hpasses := passes_of_verifyReport (render_eq_ok.mp h).1
  constructor
  · intro hall claim hc _ text htext
    by_cases hempty : text.val = ""
    · exact Or.inl (by rw [hempty]; exact not_imperative_empty)
    · exact hall (.invalidation claim text.val) ((prints_iff h).mpr
        ⟨hc, hempty, by rw [Option.mem_def.mp htext]; rfl⟩)
  · intro hall t ht
    have hprinted := (prints_iff h).mp ht
    cases t with
    | claimText claim => exact Or.inl (hpasses.language hprinted.1).1
    | invalidation claim text =>
      obtain ⟨hc, -, htext⟩ := hprinted
      obtain ⟨value, hvalue, rfl⟩ := Option.map_eq_some_iff.mp htext
      cases hplan : claim.planId with
      | none => exact hall claim hc hplan value hvalue
      | some id => exact Or.inr (hpasses.invalidation_fromPlan hc (by rw [hplan]; rfl) hvalue)
    | narrative item => exact Or.inl (hpasses.narrative_spec hprinted).2.2
    | warning text =>
      obtain ⟨warning, hw, rfl⟩ := List.mem_map.mp hprinted
      exact Or.inl (hpasses.warning_spec hw).2

/-! ## A draft that passes -/

/-- Where that evidence was observed. -/
def trendSource (id : Identifier) : SourceObservation :=
  { observationId := id
    provider := id
    sourceUrl := none
    sourceHashSha256 := "0000000000000000000000000000000000000000000000000000000000000000"
    observedAt := 0
    retrievedAt := 0
    contentType := ⟨"text/plain", by decide⟩
    excerpt := ⟨"", by decide⟩
    persistenceAllowed := true
    qualityFlags := ⟨[], by simp⟩
    ordered := le_refl _ }

/-- Evidence on the field `trend`. -/
def trendEvidence (id : Identifier) : EvidenceItem :=
  { evidenceId := id
    source := trendSource id
    authorityTier := 1
    tierBounded := by decide
    instrumentId := none
    eventTime := none
    publishedTime := none
    structuredFields := ⟨[("field", .str "trend")], by simp, by decide⟩
    citationLabel := ⟨"Trend", by decide⟩ }

/-- A packet with two items of evidence. -/
def trendPacket : ResearchPacket :=
  samplePacket [trendEvidence ⟨"e1", by decide⟩, trendEvidence ⟨"e2", by decide⟩] []

/-- A hypothesis on that evidence, without a plan. -/
def trendHypothesis (text : BoundedText 1 2000) (invalidation : BoundedText 0 1000) : Claim :=
  { claimId := claimOne
    claimType := .hypothesis
    text := text
    subjectSymbol := none
    field := some ⟨"trend", by decide⟩
    timeStart := none
    timeEnd := none
    evidenceIds := [⟨"e1", by decide⟩]
    metricIds := []
    counterEvidenceIds := [⟨"e2", by decide⟩]
    supportsClaimIds := []
    numericValue := none
    unit := none
    invalidation := some invalidation
    expiresAt := some 0
    planId := none
    planStatus := none
    uniqueRelations := by simp
    timesOrdered := no_times
    sized := by decide }

/-- The draft of that hypothesis alone. -/
def trendDraft (text : BoundedText 1 2000) (invalidation : BoundedText 0 1000) :
    ResearchBriefDraft := sampleDraft trendPacket (trendHypothesis text invalidation)

/-- A draft without findings is valid, and rendered if its sections name known claims. -/
theorem Passes.rendered (h : Passes u packet draft) (hsections : SectionsKnown draft)
    {attempt : Nat} (hattempt : attempt ∈ [1, 2, 3]) :
    ∃ validation report, validateResearchBrief u packet draft attempt = .ok validation ∧
      renderMarkdownReport u packet draft validation = .ok report := by
  have hfit : TextsFit u packet draft := by
    refine findings_fit.mp ?_
    rw [show findings u packet draft = [] from h]
    exact nofun
  obtain ⟨validation, hvalidation, hreports⟩ := validate_ok hattempt hfit
  obtain ⟨report, hreport⟩ :=
    (render_isOk_iff hvalidation (hreports.valid.mpr h)).mpr hsections
  exact ⟨validation, report, hvalidation, hreport⟩

theorem passes_of_isEmpty (h : (findings u packet draft).isEmpty = true) :
    Passes u packet draft := List.isEmpty_iff.mp h

/-- On a draft whose invalidation is a plain sentence, nothing printed is imperative. -/
theorem no_imperative_sample :
    let draft := trendDraft ⟨"It may hold.", by decide⟩ ⟨"A close below.", by decide⟩
    ∃ validation, (∀ t, Prints .ascii trendPacket draft validation t →
        NoImperative .ascii trendPacket t.text) ↔
      ∀ claim ∈ draft.claims, claim.planId = none → ∀ text ∈ claim.invalidation,
        NoImperative .ascii trendPacket text.val := by
  intro draft
  have hpasses : Passes .ascii trendPacket draft := passes_of_isEmpty (by decide)
  obtain ⟨validation, report, -, hreport⟩ :=
    hpasses.rendered (by decide) (List.mem_cons_self : 1 ∈ [1, 2, 3])
  exact ⟨validation, no_imperative_iff hreport⟩

/-- A hypothesis may be invalidated by an order to sell, and the report says so. -/
theorem prints_imperative :
    ¬ ∀ (u : CharacterDatabase) (packet : ResearchPacket) (draft : ResearchBriefDraft)
      (validation : ValidationReport) (report : String),
      renderMarkdownReport u packet draft validation = .ok report →
        ∀ t, Prints u packet draft validation t → NoImperative u packet t.text := by
  intro hall
  let text : BoundedText 0 1000 := ⟨"Sell now.", by decide⟩
  let draft := trendDraft ⟨"It may hold.", by decide⟩ text
  have hpasses : Passes .ascii trendPacket draft := passes_of_isEmpty (by decide)
  obtain ⟨validation, report, -, hreport⟩ :=
    hpasses.rendered (by decide) (List.mem_cons_self : 1 ∈ [1, 2, 3])
  have hprinted : Printed draft (.invalidation (trendHypothesis ⟨"It may hold.", by decide⟩ text)
      "Sell now.") := ⟨List.mem_cons_self, by simp, rfl⟩
  rcases hall .ascii trendPacket draft validation report hreport _
      ((prints_iff hreport).mpr hprinted) with hclean | ⟨plan, hplan, -⟩
  · revert hclean
    decide
  · cases hplan

end FinanceResearch
