import FinanceResearch.Brief.Renderer
import FinanceResearch.Brief.Totality
import FinanceResearch.Brief.Valid

/-!
# What a report prints

`reportLines_isOk_iff` says when rendering does not raise: every claim ID it looks
up is known. `mem_reportLines` says which texts of the draft the lines hold. Both
are about any draft; `render_ok_iff` and `Printed` put the validator's checks on top.
-/

namespace FinanceResearch

variable {u : CharacterDatabase} {packet : ResearchPacket} {draft : ResearchBriefDraft}
  {claims : List Claim}

/-! ## Looking claims up -/

theorem has_claimId {id : Identifier} :
    Dicts.Has Claim.claimId claims id ↔ id ∈ claimIds claims := mem_claimIds.symm

theorem claimAt_eq_ok {id : Identifier} {claim : Claim} :
    claimAt claims id = .ok claim ↔ Dicts.get? Claim.claimId claims id = some claim := by
  unfold claimAt
  split
  next c hc => rw [hc, Except.ok.injEq, Option.some.injEq]
  next hnone =>
    rw [hnone]
    constructor
    · intro h
      cases h
    · intro h
      cases h

theorem claimAt_isOk_iff {id : Identifier} :
    (∃ claim, claimAt claims id = .ok claim) ↔ id ∈ claimIds claims := by
  rw [← has_claimId, ← Dicts.isSome_get?, Option.isSome_iff_exists]
  exact exists_congr fun _ => claimAt_eq_ok

theorem claimLine_isOk_iff {id : Identifier} :
    (∃ line, claimLine claims id = .ok line) ↔ id ∈ claimIds claims := by
  rw [← claimAt_isOk_iff]
  unfold claimLine
  constructor
  · rintro ⟨line, h⟩
    obtain ⟨claim, hclaim, -⟩ := Fallible.map_eq_ok.mp h
    exact ⟨claim, hclaim⟩
  · rintro ⟨claim, h⟩
    exact ⟨lineOf claim, Fallible.map_eq_ok.mpr ⟨claim, h, rfl⟩⟩

/-! ## When rendering returns -/

/-- The claim IDs of the sections are known. -/
def SectionsKnown (draft : ResearchBriefDraft) : Prop :=
  ∀ s ∈ draft.executiveSections ++ draft.detailedSections,
    ∀ id ∈ s.claimIds, id ∈ claimIds draft.claims

instance (draft : ResearchBriefDraft) : Decidable (SectionsKnown draft) :=
  inferInstanceAs (Decidable (∀ s ∈ _, ∀ id ∈ _, id ∈ _))

/-- The claim IDs that narratives lead to are known. -/
def NarrativesKnown (draft : ResearchBriefDraft) : Prop :=
  ∀ narrative ∈ draft.planNarratives,
    ∀ id ∈ narrativeClaimIds draft.claims narrative ++ narrative.claimIds,
      id ∈ claimIds draft.claims

theorem narrativeLines_isOk_iff {narrative : PlanNarrative} :
    (∃ lines, narrativeLines claims narrative = .ok lines) ↔
      ∀ id ∈ narrativeClaimIds claims narrative ++ narrative.claimIds, id ∈ claimIds claims := by
  constructor
  · rintro ⟨lines, h⟩
    obtain ⟨visited, hvisited, h⟩ := Fallible.bind_eq_ok.mp h
    obtain ⟨named, hnamed, -⟩ := Fallible.bind_eq_ok.mp h
    intro id hid
    rw [← claimAt_isOk_iff]
    rcases List.mem_append.mp hid with hid | hid
    · obtain ⟨claim, -, hclaim⟩ := Fallible.exists_mem_of_mapM hvisited hid
      exact ⟨claim, hclaim⟩
    · obtain ⟨claim, -, hclaim⟩ := Fallible.exists_mem_of_mapM hnamed hid
      exact ⟨claim, hclaim⟩
  · intro h
    have hall : ∀ id ∈ narrativeClaimIds claims narrative ++ narrative.claimIds,
        ∃ claim, claimAt claims id = .ok claim := fun id hid => claimAt_isOk_iff.mpr (h id hid)
    obtain ⟨visited, hvisited⟩ :=
      Fallible.mapM_total fun id hid => hall id (List.mem_append_left _ hid)
    obtain ⟨named, hnamed⟩ :=
      Fallible.mapM_total fun id hid => hall id (List.mem_append_right _ hid)
    exact ⟨_, Fallible.bind_eq_ok.mpr ⟨visited, hvisited,
      Fallible.bind_eq_ok.mpr ⟨named, hnamed, rfl⟩⟩⟩

theorem planNarrativeLines_isOk_iff :
    (∃ lines, planNarrativeLines draft = .ok lines) ↔ NarrativesKnown draft := by
  constructor
  · rintro ⟨lines, h⟩ narrative hn
    obtain ⟨blocks, hblocks, -⟩ := Fallible.bind_eq_ok.mp h
    obtain ⟨block, -, hblock⟩ := Fallible.exists_mem_of_mapM hblocks hn
    exact narrativeLines_isOk_iff.mp ⟨block, hblock⟩
  · intro h
    obtain ⟨blocks, hblocks⟩ := Fallible.mapM_total fun narrative hn =>
      narrativeLines_isOk_iff.mpr (h narrative hn)
    exact ⟨blocks.flatten, Fallible.bind_eq_ok.mpr ⟨blocks, hblocks, rfl⟩⟩

theorem mapM_claimLine_isOk_iff {ids : List Identifier} :
    (∃ lines, ids.mapM (claimLine claims) = .ok lines) ↔ ∀ id ∈ ids, id ∈ claimIds claims := by
  rw [Fallible.mapM_isOk_iff]
  exact forall₂_congr fun _ _ => claimLine_isOk_iff

theorem executiveLines_isOk_iff {s : ReportSectionClaims} :
    (∃ lines, executiveLines packet draft s = .ok lines) ↔
      ∀ id ∈ s.claimIds, id ∈ claimIds draft.claims := by
  rw [← mapM_claimLine_isOk_iff]
  constructor
  · rintro ⟨lines, h⟩
    obtain ⟨claims, hclaims, -⟩ := Fallible.bind_eq_ok.mp h
    exact ⟨claims, hclaims⟩
  · rintro ⟨claims, hclaims⟩
    exact ⟨_, Fallible.bind_eq_ok.mpr ⟨claims, hclaims, rfl⟩⟩

theorem detailedLines_isOk_iff {s : ReportSectionClaims} :
    (∃ lines, detailedLines packet draft s = .ok lines) ↔
      (∀ id ∈ s.claimIds, id ∈ claimIds draft.claims) ∧
        (s.reportSection = .tradePlanDrafts → NarrativesKnown draft) := by
  rw [← mapM_claimLine_isOk_iff]
  constructor
  · rintro ⟨lines, h⟩
    obtain ⟨claims, hclaims, h⟩ := Fallible.bind_eq_ok.mp h
    obtain ⟨narratives, hnarratives, -⟩ := Fallible.bind_eq_ok.mp h
    refine ⟨⟨claims, hclaims⟩, fun hplans => planNarrativeLines_isOk_iff.mp ⟨narratives, ?_⟩⟩
    rwa [narrativesOf, if_pos hplans] at hnarratives
  · rintro ⟨⟨claims, hclaims⟩, hknown⟩
    have hnarratives : ∃ narratives, narrativesOf draft s.reportSection = .ok narratives := by
      unfold narrativesOf
      split
      next hplans => exact planNarrativeLines_isOk_iff.mpr (hknown hplans)
      next => exact ⟨[], rfl⟩
    obtain ⟨narratives, hnarratives⟩ := hnarratives
    exact ⟨_, Fallible.bind_eq_ok.mpr ⟨claims, hclaims,
      Fallible.bind_eq_ok.mpr ⟨narratives, hnarratives, rfl⟩⟩⟩

/-- Rendering raises exactly when it looks up an unknown claim. -/
theorem reportLines_isOk_iff :
    (∃ lines, reportLines packet draft = .ok lines) ↔
      SectionsKnown draft ∧
        ((∃ s ∈ draft.detailedSections, s.reportSection = .tradePlanDrafts) →
          NarrativesKnown draft) := by
  constructor
  · rintro ⟨lines, h⟩
    obtain ⟨executive, hexecutive, h⟩ := Fallible.bind_eq_ok.mp h
    obtain ⟨detailed, hdetailed, -⟩ := Fallible.bind_eq_ok.mp h
    have hsections : ∀ s ∈ draft.detailedSections, (∀ id ∈ s.claimIds, id ∈ claimIds draft.claims) ∧
        (s.reportSection = .tradePlanDrafts → NarrativesKnown draft) := by
      intro s hs
      obtain ⟨lines, -, hlines⟩ := Fallible.exists_mem_of_mapM hdetailed hs
      exact detailedLines_isOk_iff.mp ⟨lines, hlines⟩
    refine ⟨fun s hs => ?_, fun ⟨s, hs, hplans⟩ => (hsections s hs).2 hplans⟩
    rcases List.mem_append.mp hs with hs | hs
    · obtain ⟨lines, -, hlines⟩ := Fallible.exists_mem_of_mapM hexecutive hs
      exact executiveLines_isOk_iff.mp ⟨lines, hlines⟩
    · exact (hsections s hs).1
  · rintro ⟨hsections, hnarratives⟩
    obtain ⟨executive, hexecutive⟩ := Fallible.mapM_total fun s hs =>
      executiveLines_isOk_iff.mpr (hsections s (List.mem_append_left _ hs))
    obtain ⟨detailed, hdetailed⟩ := Fallible.mapM_total fun s hs =>
      detailedLines_isOk_iff.mpr ⟨hsections s (List.mem_append_right _ hs),
        fun hplans => hnarratives ⟨s, hs, hplans⟩⟩
    exact ⟨_, Fallible.bind_eq_ok.mpr ⟨executive, hexecutive,
      Fallible.bind_eq_ok.mpr ⟨detailed, hdetailed, rfl⟩⟩⟩

/-! ## Valid drafts -/

/-- A narrative of a draft without findings leads to known claims only. -/
theorem Passes.narrativesKnown (h : Passes u packet draft) : NarrativesKnown draft := by
  intro narrative hn
  obtain ⟨⟨concrete, hconcrete, -⟩, -⟩ := h.narrative_spec hn
  have hnamed := (mem_narrativeClaims hconcrete).1
  have hsupports : ∀ id, ∀ next ∈ supportsAt draft.claims id, next ∈ claimIds draft.claims := by
    intro id next hnext
    unfold supportsAt at hnext
    cases hid : Dicts.get? Claim.claimId draft.claims id with
    | none => simp [hid] at hnext
    | some claim =>
      rw [hid] at hnext
      exact h.supports_known (Dicts.mem_of_get? hid) hnext
  intro id hid
  rcases List.mem_append.mp hid with hid | hid
  · obtain ⟨start, hstart, hreach⟩ :=
      Worklist.reaches_of_mem_collect (fun _ _ => List.Perm.refl _) _ _ _ _ hid
    rcases Relation.ReflTransGen.cases_tail hreach with rfl | ⟨last, -, hlast⟩
    · exact hnamed _ hstart
    · exact hsupports last id hlast
  · exact hnamed id hid

theorem verifyReport_eq_ok {validation : ValidationReport} :
    verifyReport u packet draft validation = .ok () ↔
      validation.isValid = true ∧ draft.runId = packet.runId ∧
        validateResearchBrief u packet draft validation.validationAttempt = .ok validation := by
  unfold verifyReport
  constructor
  · intro h
    split at h
    · cases h
    next hvalid =>
    split at h
    · cases h
    next hmatch =>
    split at h
    · cases h
    next verified hverified =>
    split at h
    · cases h
    next hsame =>
    rw [not_not] at hsame
    subst hsame
    simp only [not_or, not_not] at hmatch
    exact ⟨by simpa using hvalid, hmatch.1, hverified⟩
  · rintro ⟨hvalid, hrun, hverified⟩
    have hreports := (validate_spec hverified).2
    rw [if_neg (by simp [hvalid]), if_neg (by
      simp [hrun, hreports.runId, hreports.packetId, hreports.packetSha256]), hverified]
    simp

/-- What `render_markdown_report` accepts. -/
theorem render_eq_ok {validation : ValidationReport} {text : String} :
    renderMarkdownReport u packet draft validation = .ok text ↔
      verifyReport u packet draft validation = .ok () ∧
        ∃ lines, reportLines packet draft = .ok lines ∧ finishLines u lines = text := by
  unfold renderMarkdownReport renderLines
  rw [Fallible.map_eq_ok]
  constructor
  · rintro ⟨lines, h, htext⟩
    obtain ⟨_, hverify, hlines⟩ := Fallible.bind_eq_ok.mp h
    exact ⟨hverify, lines, hlines, htext⟩
  · rintro ⟨hverify, lines, hlines, htext⟩
    exact ⟨lines, Fallible.bind_eq_ok.mpr ⟨(), hverify, hlines⟩, htext⟩

/-- The report of a valid attempt passes the renderer's checks. -/
theorem verifyReport_of_valid {attempt : Nat} {report : ValidationReport}
    (h : validateResearchBrief u packet draft attempt = .ok report)
    (hvalid : report.isValid = true) :
    Passes u packet draft ∧ verifyReport u packet draft report = .ok () := by
  have hreports := (validate_spec h).2
  have hpasses : Passes u packet draft := hreports.valid.mp hvalid
  exact ⟨hpasses, verifyReport_eq_ok.mpr ⟨hvalid, hpasses.runId_eq,
    by rw [hreports.validationAttempt]; exact h⟩⟩

/-- What the renderer accepts has no findings. -/
theorem passes_of_verifyReport {validation : ValidationReport}
    (h : verifyReport u packet draft validation = .ok ()) : Passes u packet draft := by
  obtain ⟨hvalid, -, hverified⟩ := verifyReport_eq_ok.mp h
  exact (verifyReport_of_valid hverified hvalid).1

/-- **A valid draft is rendered exactly when its sections name known claims.** -/
theorem render_isOk_iff {attempt : Nat} {report : ValidationReport}
    (h : validateResearchBrief u packet draft attempt = .ok report)
    (hvalid : report.isValid = true) :
    (∃ text, renderMarkdownReport u packet draft report = .ok text) ↔ SectionsKnown draft := by
  obtain ⟨hpasses, hverify⟩ := verifyReport_of_valid h hvalid
  constructor
  · rintro ⟨text, htext⟩
    obtain ⟨-, lines, hlines, -⟩ := render_eq_ok.mp htext
    exact (reportLines_isOk_iff.mp ⟨lines, hlines⟩).1
  · intro hsections
    obtain ⟨lines, hlines⟩ :=
      reportLines_isOk_iff.mpr ⟨hsections, fun _ => hpasses.narrativesKnown⟩
    exact ⟨finishLines u lines, render_eq_ok.mpr ⟨hverify, lines, hlines, rfl⟩⟩

/-! ## What the lines hold -/

/-- A text of the draft is in one of the lines. -/
def Holds (lines : List Line) (t : DraftText) : Prop := ∃ line ∈ lines, Span.inline t ∈ line

variable {t : DraftText}

@[simp] theorem not_holds_nil : ¬ Holds [] t := by simp [Holds]

@[simp] theorem holds_cons {line : Line} {lines : List Line} :
    Holds (line :: lines) t ↔ .inline t ∈ line ∨ Holds lines t := by simp [Holds]

@[simp] theorem holds_append {l m : List Line} : Holds (l ++ m) t ↔ Holds l t ∨ Holds m t := by
  simp [Holds, or_and_right, exists_or]

@[simp] theorem holds_flatten {blocks : List (List Line)} :
    Holds blocks.flatten t ↔ ∃ block ∈ blocks, Holds block t := by
  constructor
  · rintro ⟨line, hline, ht⟩
    obtain ⟨block, hblock, hline⟩ := List.mem_flatten.mp hline
    exact ⟨block, hblock, line, hline, ht⟩
  · rintro ⟨block, hblock, line, hline, ht⟩
    exact ⟨line, List.mem_flatten.mpr ⟨block, hblock, hline⟩, ht⟩

@[simp] theorem not_mem_ownLine {text : String} : ¬ Span.inline t ∈ ownLine text := by
  simp [ownLine]

@[simp] theorem mem_nested {line : Line} : Span.inline t ∈ nested line ↔ Span.inline t ∈ line := by
  simp [nested]

@[simp] theorem holds_map_nested {lines : List Line} :
    Holds (lines.map nested) t ↔ Holds lines t := by simp [Holds]

/-- Lines of the renderer's own words hold no text of the draft. -/
theorem not_holds_own {α : Type} {items : List α} {text : α → String} :
    ¬ Holds (items.map fun item => ownLine (text item)) t := by simp [Holds]

theorem mem_joinLines : ∀ {lines : List Line}, Span.inline t ∈ joinLines lines ↔ Holds lines t
  | [] => by simp [joinLines]
  | [line] => by simp [joinLines]
  | line :: next :: rest => by
    have ih : Span.inline t ∈ joinLines (next :: rest) ↔ Holds (next :: rest) t := mem_joinLines
    rw [joinLines, List.intercalate_cons_cons, List.mem_append, List.mem_append, ← joinLines, ih,
      holds_cons]
    simp

/-- A claim's context holds its invalidation, unless it is empty. -/
theorem holds_claimContextLines {claim : Claim} :
    Holds (claimContextLines claim) t ↔
      ∃ text ∈ claim.invalidation, text.val ≠ "" ∧ t = .invalidation claim text.val := by
  have hcounter : ¬ Holds (if claim.counterEvidenceIds = [] then []
      else [ownLine ("Counter-evidence: " ++ bracketed claim.counterEvidenceIds)]) t := by
    split <;> simp
  unfold claimContextLines
  simp only [holds_append, not_holds_own, hcounter, false_or, or_false]
  simp [Holds, and_assoc]

theorem mem_lineOf {claim : Claim} :
    Span.inline t ∈ lineOf claim ↔ t = .claimText claim ∨ Holds (claimContextLines claim) t := by
  have hsuffix : ¬ Span.inline t ∈ (if claim.evidenceIds ++ claim.metricIds = [] then []
      else ownLine (" " ++ bracketed (claim.evidenceIds ++ claim.metricIds))) := by
    split <;> simp
  unfold lineOf
  rw [mem_joinLines, holds_cons, holds_map_nested, List.mem_append]
  simp only [hsuffix, or_false, List.mem_cons, reduceCtorEq, Span.inline.injEq, List.not_mem_nil,
    false_or]

/-- What the claims of a section contribute. -/
theorem holds_claimLines {ids : List Identifier} {lines : List Line}
    (h : ids.mapM (claimLine claims) = .ok lines) :
    Holds lines t ↔ ∃ id ∈ ids, ∃ claim, Dicts.get? Claim.claimId claims id = some claim ∧
      (t = .claimText claim ∨ Holds (claimContextLines claim) t) := by
  constructor
  · rintro ⟨line, hline, ht⟩
    obtain ⟨id, hid, hlineOf⟩ := Fallible.exists_of_mem_mapM h hline
    obtain ⟨claim, hclaim, rfl⟩ := Fallible.map_eq_ok.mp hlineOf
    exact ⟨id, hid, claim, claimAt_eq_ok.mp hclaim, mem_lineOf.mp ht⟩
  · rintro ⟨id, hid, claim, hclaim, ht⟩
    obtain ⟨line, hline, hlineOf⟩ := Fallible.exists_mem_of_mapM h hid
    obtain ⟨claim', hclaim', rfl⟩ := Fallible.map_eq_ok.mp hlineOf
    rw [claimAt_eq_ok, hclaim, Option.some.injEq] at hclaim'
    subst hclaim'
    exact ⟨lineOf claim, hline, mem_lineOf.mpr ht⟩

/-- What a narrative contributes. -/
theorem holds_narrativeLines {narrative : PlanNarrative} {lines : List Line}
    (h : narrativeLines claims narrative = .ok lines) :
    Holds lines t ↔ t = .narrative narrative ∨
      ∃ id ∈ narrative.claimIds, ∃ claim, Dicts.get? Claim.claimId claims id = some claim ∧
        Holds (claimContextLines claim) t := by
  obtain ⟨visited, -, h⟩ := Fallible.bind_eq_ok.mp h
  obtain ⟨named, hnamed, h⟩ := Fallible.bind_eq_ok.mp h
  cases h
  rw [holds_cons]
  refine or_congr (by simp) ?_
  rw [List.flatMap, holds_flatten]
  constructor
  · rintro ⟨block, hblock, ht⟩
    obtain ⟨claim, hclaim, rfl⟩ := List.mem_map.mp hblock
    obtain ⟨id, hid, hat⟩ := Fallible.exists_of_mem_mapM hnamed hclaim
    exact ⟨id, hid, claim, claimAt_eq_ok.mp hat, holds_map_nested.mp ht⟩
  · rintro ⟨id, hid, claim, hclaim, ht⟩
    obtain ⟨claim', hmem, hat⟩ := Fallible.exists_mem_of_mapM hnamed hid
    rw [claimAt_eq_ok, hclaim, Option.some.injEq] at hat
    subst hat
    exact ⟨_, List.mem_map_of_mem hmem, holds_map_nested.mpr ht⟩

theorem not_holds_emptyNotice {s : ReportSectionClaims} {limitations others : List Line} :
    ¬ Holds (emptyNotice s limitations others) t := by
  unfold emptyNotice
  split <;> simp

theorem not_holds_heading {s : ReportSection} : ¬ Holds (heading s) t := by simp [heading]

theorem holds_warningLines :
    Holds (warningLines draft) t ↔ ∃ warning ∈ draft.dataWarnings, t = .warning warning.val := by
  simp [warningLines, Holds, eq_comm]

theorem holds_executiveLines {s : ReportSectionClaims} {lines : List Line}
    (h : executiveLines packet draft s = .ok lines) :
    Holds lines t ↔
      (∃ id ∈ s.claimIds, ∃ claim, Dicts.get? Claim.claimId draft.claims id = some claim ∧
        (t = .claimText claim ∨ Holds (claimContextLines claim) t)) ∨
      s.reportSection = .dataWarnings ∧
        ∃ warning ∈ draft.dataWarnings, t = .warning warning.val := by
  obtain ⟨claims, hclaims, h⟩ := Fallible.bind_eq_ok.mp h
  cases h
  simp only [holds_append, not_holds_heading, limitationLines, not_holds_own, holds_claimLines hclaims,
    not_holds_emptyNotice, holds_cons, not_mem_ownLine, not_holds_nil, false_or, or_false]
  refine or_congr Iff.rfl ?_
  split
  next hs => simp [hs, holds_append, holds_warningLines, disabledLines, not_holds_own]
  next hs => simp [hs]

theorem holds_detailedLines {s : ReportSectionClaims} {lines : List Line}
    (h : detailedLines packet draft s = .ok lines) :
    Holds lines t ↔
      (∃ id ∈ s.claimIds, ∃ claim, Dicts.get? Claim.claimId draft.claims id = some claim ∧
        (t = .claimText claim ∨ Holds (claimContextLines claim) t)) ∨
      s.reportSection = .tradePlanDrafts ∧ ∃ narrative ∈ draft.planNarratives,
        t = .narrative narrative ∨ ∃ id ∈ narrative.claimIds, ∃ claim,
          Dicts.get? Claim.claimId draft.claims id = some claim ∧
            Holds (claimContextLines claim) t := by
  obtain ⟨claims, hclaims, h⟩ := Fallible.bind_eq_ok.mp h
  obtain ⟨narratives, hnarratives, h⟩ := Fallible.bind_eq_ok.mp h
  cases h
  have hdisabled : ¬ Holds (if s.reportSection = .dataQualityLimitations then disabledLines draft
      else []) t := by
    split
    · exact not_holds_own
    · exact not_holds_nil
  simp only [holds_append, not_holds_heading, limitationLines, not_holds_own,
    holds_claimLines hclaims, hdisabled, not_holds_emptyNotice, holds_cons, not_mem_ownLine,
    not_holds_nil, false_or, or_false]
  refine or_congr Iff.rfl ?_
  unfold narrativesOf at hnarratives
  split at hnarratives
  next hs =>
    obtain ⟨blocks, hblocks, h⟩ := Fallible.bind_eq_ok.mp hnarratives
    cases h
    rw [holds_flatten]
    constructor
    · rintro ⟨block, hblock, ht⟩
      obtain ⟨narrative, hn, hlines⟩ := Fallible.exists_of_mem_mapM hblocks hblock
      exact ⟨hs, narrative, hn, (holds_narrativeLines hlines).mp ht⟩
    · rintro ⟨-, narrative, hn, ht⟩
      obtain ⟨block, hblock, hlines⟩ := Fallible.exists_mem_of_mapM hblocks hn
      exact ⟨block, hblock, (holds_narrativeLines hlines).mpr ht⟩
  next hs =>
    cases hnarratives
    simp [hs]

/-! ## What an accepted draft prints -/

/-- The report prints the text. -/
def Prints (u : CharacterDatabase) (packet : ResearchPacket) (draft : ResearchBriefDraft)
    (validation : ValidationReport) (t : DraftText) : Prop :=
  ∃ lines, renderLines u packet draft validation = .ok lines ∧ Holds lines t

/-- The sections name the claim. -/
def InSection (draft : ResearchBriefDraft) (id : Identifier) : Prop :=
  ∃ s ∈ draft.executiveSections ++ draft.detailedSections, id ∈ s.claimIds

/-- The texts of the draft that its report prints: the claims its sections name, the
invalidation of every claim, all narratives and all warnings. -/
def Printed (draft : ResearchBriefDraft) : DraftText → Prop
  | .claimText claim => claim ∈ draft.claims ∧ InSection draft claim.claimId
  | .invalidation claim text => claim ∈ draft.claims ∧ text ≠ "" ∧
      claim.invalidation.map Subtype.val = some text
  | .narrative item => item ∈ draft.planNarratives
  | .warning text => text ∈ draft.dataWarnings.map Subtype.val

/-- What the claims of the sections hold. -/
def SectionTexts (draft : ResearchBriefDraft) (t : DraftText) : Prop :=
  ∃ s ∈ draft.executiveSections ++ draft.detailedSections, ∃ id ∈ s.claimIds, ∃ claim,
    Dicts.get? Claim.claimId draft.claims id = some claim ∧
      (t = .claimText claim ∨ Holds (claimContextLines claim) t)

/-- What the narratives hold. -/
def NarrativeTexts (draft : ResearchBriefDraft) (t : DraftText) : Prop :=
  ∃ narrative ∈ draft.planNarratives, t = .narrative narrative ∨ ∃ id ∈ narrative.claimIds,
    ∃ claim, Dicts.get? Claim.claimId draft.claims id = some claim ∧
      Holds (claimContextLines claim) t

theorem holds_reportLines {lines : List Line} (h : reportLines packet draft = .ok lines) :
    Holds lines t ↔ SectionTexts draft t ∨
      ((∃ s ∈ draft.executiveSections, s.reportSection = .dataWarnings) ∧
        ∃ warning ∈ draft.dataWarnings, t = .warning warning.val) ∨
      (∃ s ∈ draft.detailedSections, s.reportSection = .tradePlanDrafts) ∧
        NarrativeTexts draft t := by
  obtain ⟨executive, hexecutive, h⟩ := Fallible.bind_eq_ok.mp h
  obtain ⟨detailed, hdetailed, h⟩ := Fallible.bind_eq_ok.mp h
  cases h
  have htitle : ¬ Holds (titleLines packet draft) t := by simp [titleLines]
  simp only [holds_append, htitle, holds_cons, not_mem_ownLine, not_holds_nil, holds_flatten,
    false_or, or_false]
  constructor
  · rintro (⟨block, hblock, ht⟩ | ⟨block, hblock, ht⟩)
    · obtain ⟨s, hs, hlines⟩ := Fallible.exists_of_mem_mapM hexecutive hblock
      rcases (holds_executiveLines hlines).mp ht with hclaim | ⟨hwarnings, hwarning⟩
      · exact Or.inl ⟨s, List.mem_append_left _ hs, hclaim⟩
      · exact Or.inr (Or.inl ⟨⟨s, hs, hwarnings⟩, hwarning⟩)
    · obtain ⟨s, hs, hlines⟩ := Fallible.exists_of_mem_mapM hdetailed hblock
      rcases (holds_detailedLines hlines).mp ht with hclaim | ⟨hplans, hnarrative⟩
      · exact Or.inl ⟨s, List.mem_append_right _ hs, hclaim⟩
      · exact Or.inr (Or.inr ⟨⟨s, hs, hplans⟩, hnarrative⟩)
  · rintro (⟨s, hs, hclaim⟩ | ⟨⟨s, hs, hwarnings⟩, hwarning⟩ | ⟨⟨s, hs, hplans⟩, hnarrative⟩)
    · rcases List.mem_append.mp hs with hs | hs
      · obtain ⟨block, hblock, hlines⟩ := Fallible.exists_mem_of_mapM hexecutive hs
        exact Or.inl ⟨block, hblock, (holds_executiveLines hlines).mpr (Or.inl hclaim)⟩
      · obtain ⟨block, hblock, hlines⟩ := Fallible.exists_mem_of_mapM hdetailed hs
        exact Or.inr ⟨block, hblock, (holds_detailedLines hlines).mpr (Or.inl hclaim)⟩
    · obtain ⟨block, hblock, hlines⟩ := Fallible.exists_mem_of_mapM hexecutive hs
      exact Or.inl ⟨block, hblock,
        (holds_executiveLines hlines).mpr (Or.inr ⟨hwarnings, hwarning⟩)⟩
    · obtain ⟨block, hblock, hlines⟩ := Fallible.exists_mem_of_mapM hdetailed hs
      exact Or.inr ⟨block, hblock,
        (holds_detailedLines hlines).mpr (Or.inr ⟨hplans, hnarrative⟩)⟩

/-- A claim of the draft is the one under its ID. -/
theorem Passes.get?_eq_some_iff (h : Passes u packet draft) {id : Identifier} {claim : Claim} :
    Dicts.get? Claim.claimId draft.claims id = some claim ↔
      claim ∈ draft.claims ∧ claim.claimId = id := by
  constructor
  · intro hget
    exact ⟨Dicts.mem_of_get? hget, Dicts.key_of_get? hget⟩
  · rintro ⟨hc, rfl⟩
    rw [get?_eq_claimById h.nodup, claimById_of_mem h.nodup hc]

/-- The context of a claim that a section or a narrative names is printed. -/
theorem Passes.context_printed (h : Passes u packet draft) {claim : Claim}
    (hc : claim ∈ draft.claims) (ht : Holds (claimContextLines claim) t) :
    SectionTexts draft t ∨ NarrativeTexts draft t := by
  have hget := h.get?_eq_some_iff.mpr ⟨hc, rfl⟩
  have hreferenced := (h.references hc).1
  rw [referenced, List.mem_append, List.mem_flatMap, List.mem_flatMap] at hreferenced
  rcases hreferenced with ⟨s, hs, hid⟩ | ⟨narrative, hn, hid⟩
  · exact Or.inl ⟨s, hs, claim.claimId, hid, claim, hget, Or.inr ht⟩
  · exact Or.inr ⟨narrative, hn, Or.inr ⟨claim.claimId, hid, claim, hget, ht⟩⟩

/-- **What the report on an accepted draft prints of it.** -/
theorem prints_iff {validation : ValidationReport} {report : String}
    (h : renderMarkdownReport u packet draft validation = .ok report) :
    Prints u packet draft validation t ↔ Printed draft t := by
  obtain ⟨hverify, lines, hlines, -⟩ := render_eq_ok.mp h
  have hpasses := passes_of_verifyReport hverify
  have hprints : Prints u packet draft validation t ↔ Holds lines t := by
    have hrender : renderLines u packet draft validation = .ok lines :=
      Fallible.bind_eq_ok.mpr ⟨(), hverify, hlines⟩
    constructor
    · rintro ⟨lines', hlines', ht⟩
      rw [hrender, Except.ok.injEq] at hlines'
      rwa [hlines']
    · exact fun ht => ⟨lines, hrender, ht⟩
  have hwarnings : ∃ s ∈ draft.executiveSections, s.reportSection = .dataWarnings :=
    exists_section hpasses.executive_eq (by decide)
  have hplans : ∃ s ∈ draft.detailedSections, s.reportSection = .tradePlanDrafts :=
    exists_section hpasses.detailed_eq (by decide)
  rw [hprints, holds_reportLines hlines, and_iff_right hwarnings, and_iff_right hplans]
  have hcontext : ∀ claim text, Holds (claimContextLines claim) (.invalidation claim text) ↔
      text ≠ "" ∧ claim.invalidation.map Subtype.val = some text := by
    intro claim text
    rw [holds_claimContextLines]
    constructor
    · rintro ⟨value, hvalue, hne, ht⟩
      obtain ⟨-, rfl⟩ := DraftText.invalidation.inj ht
      exact ⟨hne, by rw [Option.mem_def.mp hvalue]; rfl⟩
    · rintro ⟨hne, htext⟩
      obtain ⟨value, hvalue, rfl⟩ := Option.map_eq_some_iff.mp htext
      exact ⟨value, hvalue, hne, rfl⟩
  cases t with
  | claimText claim =>
    have hno : ∀ c, ¬ Holds (claimContextLines c) (.claimText claim) := by
      intro c hc
      obtain ⟨_, _, _, h⟩ := holds_claimContextLines.mp hc
      cases h
    simp only [SectionTexts, NarrativeTexts, hno, DraftText.claimText.injEq, reduceCtorEq,
      or_false, or_self, and_false, exists_false, Printed]
    constructor
    · rintro ⟨s, hs, id, hid, c, hget, rfl⟩
      obtain ⟨hc, rfl⟩ := hpasses.get?_eq_some_iff.mp hget
      exact ⟨hc, s, hs, hid⟩
    · rintro ⟨hc, s, hs, hid⟩
      exact ⟨s, hs, claim.claimId, hid, claim, hpasses.get?_eq_some_iff.mpr ⟨hc, rfl⟩, rfl⟩
  | invalidation claim text =>
    constructor
    · have hclaim : ∀ {c : Claim} {id : Identifier},
          Dicts.get? Claim.claimId draft.claims id = some c →
          Holds (claimContextLines c) (.invalidation claim text) →
          Printed draft (.invalidation claim text) := by
        intro c id hget ht
        obtain ⟨_, _, _, h⟩ := holds_claimContextLines.mp ht
        obtain ⟨rfl, -⟩ := DraftText.invalidation.inj h
        exact ⟨Dicts.mem_of_get? hget, (hcontext claim text).mp ht⟩
      rintro (⟨s, -, id, -, c, hget, h | ht⟩ | ⟨_, -, h⟩ | ⟨n, -, h | ⟨id, -, c, hget, ht⟩⟩)
      · cases h
      · exact hclaim hget ht
      · cases h
      · cases h
      · exact hclaim hget ht
    · rintro ⟨hc, htext⟩
      rcases hpasses.context_printed hc ((hcontext claim text).mpr htext) with h | h
      · exact Or.inl h
      · exact Or.inr (Or.inr h)
  | narrative item =>
    have hno : ∀ c, ¬ Holds (claimContextLines c) (.narrative item) := by
      intro c hc
      obtain ⟨_, _, _, h⟩ := holds_claimContextLines.mp hc
      cases h
    simp [SectionTexts, NarrativeTexts, hno, Printed]
  | warning text =>
    have hno : ∀ c, ¬ Holds (claimContextLines c) (.warning text) := by
      intro c hc
      obtain ⟨_, _, _, h⟩ := holds_claimContextLines.mp hc
      cases h
    simp [SectionTexts, NarrativeTexts, hno, Printed, eq_comm]

end FinanceResearch
