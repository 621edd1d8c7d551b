import FinanceResearch.Brief.Limits
import FinanceResearch.Runs.CheckpointLog

/-!
# When the validator returns

`validate_spec` says what a returned report is: valid exactly when no check has a
finding. `validate_returns_iff` says when there is one: the number of findings
never matters, because it has fewer than a thousand digits (`findings_atMost`),
so the validator fails exactly when a finding does not fit an issue.
-/

namespace FinanceResearch

/-! ## The number of findings -/

/-- No more than `n` findings. -/
def AtMost (n : Nat) (fs : List Finding) : Prop := fs.length ≤ n

theorem AtMost.append {m n : Nat} {fs gs : List Finding} (h : AtMost m fs) (h' : AtMost n gs) :
    AtMost (m + n) (fs ++ gs) := by
  unfold AtMost
  rw [List.length_append]
  exact Nat.add_le_add h h'

theorem AtMost.mono {m n : Nat} {fs : List Finding} (h : AtMost m fs) (hle : m ≤ n) :
    AtMost n fs := le_trans h hle

theorem atMost_nil (n : Nat) : AtMost n [] := Nat.zero_le n

theorem atMost_flag (condition : Prop) [Decidable condition] (finding : Finding) :
    AtMost 1 (flag condition finding) := by
  unfold AtMost flag
  split <;> simp

theorem atMost_flatMap {α : Type} {items : List α} {f : α → List Finding} {k n : Nat}
    (hitems : items.length ≤ k) (h : ∀ item ∈ items, AtMost n (f item)) :
    AtMost (k * n) (items.flatMap f) := by
  unfold AtMost
  rw [List.length_flatMap]
  exact le_trans (sum_map_le _ n h) (Nat.mul_le_mul_right n hitems)

variable (u : CharacterDatabase) (packet : ResearchPacket) (draft : ResearchBriefDraft)
  (claims : List Claim) (claim : Claim)

theorem runFindings_atMost : AtMost 2 (runFindings packet draft) :=
  (atMost_flag _ _).append (atMost_flag _ _)

theorem sectionFindings_atMost (pointer : String) (sections : List ReportSectionClaims)
    (expected : List ReportSection) : AtMost 2 (sectionFindings pointer sections expected) := by
  unfold sectionFindings
  simp only
  split
  · exact atMost_nil 2
  · exact (atMost_flag _ _).append (atMost_flag _ _)

theorem capabilityFindings_atMost : AtMost (64 + maxSize) (capabilityFindings packet draft) := by
  have hexplanations := draft.bounded.2.2.2.2.1
  have hdisabled : (disabledStates packet).length ≤ maxSize :=
    le_trans (List.length_filter_le _ _) packet.sized.2.2
  have hstates := le_trans (Dicts.length_keys_le CapabilityState.capability _) hdisabled
  have hexplained := le_trans (Dicts.length_keys_le CapabilityExplanation.capability _)
    hexplanations
  have hduplicates : AtMost (32 * 1)
      (duplicateDisclosures draft.disabledCapabilityExplanations) := by
    refine atMost_flatMap ?_ fun _ _ => atMost_flag _ _
    rw [List.length_zipIdx]
    exact hexplanations
  refine ((hduplicates.append (atMost_flatMap hstates fun capability _ => ?_)).append
    (atMost_flatMap hexplained fun _ _ => atMost_flag _ _)).mono
      (by omega : 32 * 1 + maxSize * 1 + 32 * 1 ≤ 64 + maxSize)
  split
  · exact atMost_nil 1
  · unfold disclosureFindings
    split
    · exact le_refl 1
    · exact atMost_flag _ _

theorem length_claimIds_le : (claimIds claims).length ≤ claims.length := by
  have h := (List.dedup_sublist (claims.map Claim.claimId)).length_le
  rwa [List.length_map] at h

theorem graphFindings_atMost (hclaims : claims.length ≤ 500) :
    AtMost (1500 + 500 * maxSize) (graphFindings claims) := by
  have hindexed : claims.zipIdx.length ≤ 500 := by
    rw [List.length_zipIdx]
    exact hclaims
  have hedges : Worklist.edges (supportsOf claims) (claimIds claims) [] ≤ 500 * maxSize := by
    refine le_trans (sum_map_le _ maxSize fun id _ => ?_) (Nat.mul_le_mul_right _
      (le_trans (List.length_filter_le _ _) (le_trans (length_claimIds_le claims) hclaims)))
    unfold supportsOf
    cases claimById claims id with
    | none => exact Nat.zero_le _
    | some claim => exact claim.sized.2.2.2
  have hcycles : AtMost (500 + 500 * maxSize) (cycleFindings claims) :=
    le_trans (length_cycleFindings claims)
      (Nat.add_le_add (le_trans (Dicts.length_keys_le _ _) hclaims) hedges)
  exact (((atMost_flatMap hindexed fun _ _ => atMost_flag _ _).append
    (atMost_flatMap hindexed fun _ _ => atMost_flag _ _)).append hcycles).mono (by omega)

theorem narrativeFindings_atMost (narrative : PlanNarrative) :
    AtMost 4 (narrativeFindings u packet claims narrative) := by
  refine (AtMost.append ?_ (atMost_flag _ _)).append (atMost_flag _ _)
  split
  · exact AtMost.mono (le_refl 1) (by decide)
  · exact (atMost_flag _ _).append (atMost_flag _ _)

theorem warningFindings_atMost : AtMost (128 * 2) (warningFindings u packet draft) := by
  refine atMost_flatMap ?_ fun _ _ => (atMost_flag _ _).append (atMost_flag _ _)
  rw [List.length_zipIdx]
  exact draft.bounded.2.2.2.2.2

theorem calculationFindings_atMost :
    AtMost (1 + maxSize) (calculationFindings packet claims claim) := by
  unfold calculationFindings
  split
  · exact atMost_nil _
  · refine ((atMost_flag _ _).append (atMost_flatMap claim.sized.2.1 fun id _ => ?_)).mono
      (by omega : 1 + maxSize * 1 ≤ 1 + maxSize)
    split
    · exact atMost_nil 1
    · exact atMost_flag _ _

theorem citationFindings_atMost (id : Identifier) :
    AtMost 1 (citationFindings packet claim id) := by
  unfold citationFindings
  split
  · exact atMost_nil 1
  · split
    · exact atMost_nil 1
    · split
      · exact le_refl 1
      · split
        · exact atMost_nil 1
        · exact atMost_flag _ _

theorem counterCitationFindings_atMost (id : Identifier) :
    AtMost 1 (counterCitationFindings packet claim id) := by
  unfold counterCitationFindings
  split
  · exact atMost_flag _ _
  · exact atMost_nil 1

theorem numericFindings_atMost : AtMost 2002 (numericFindings u packet claims claim) := by
  have htokens : (numericTokens u claim).length ≤ 2000 :=
    le_trans (Regex.length_findAll _ _) claim.text.2.2
  unfold numericFindings
  simp only
  refine (AtMost.append ?_ (atMost_flatMap htokens fun _ _ => atMost_flag _ _)).mono
    (le_refl (2 + 2000 * 1))
  split
  · exact (atMost_flag _ _).append (atMost_flag _ _)
  · exact atMost_nil 2

theorem claimFindings_atMost :
    AtMost (3 * maxSize + 2100) (claimFindings u packet draft claim) := by
  have hreference : AtMost 3 (referenceFindings packet draft claim) :=
    ((atMost_flag _ _).append (atMost_flag _ _)).append (atMost_flag _ _)
  have hbasis : AtMost 5 (basisFindings packet claim) :=
    ((((atMost_flag _ _).append (atMost_flag _ _)).append (atMost_flag _ _)).append
      (atMost_flag _ _)).append (atMost_flag _ _)
  have hplan : AtMost 4 (((planOf packet claim).map (planFindings claim)).getD []) := by
    cases planOf packet claim with
    | none => exact atMost_nil 4
    | some plan =>
      exact (((atMost_flag _ _).append (atMost_flag _ _)).append (atMost_flag _ _)).append
        (atMost_flag _ _)
  have hlanguage : AtMost 3 (languageFindings u packet claim) :=
    ((atMost_flag _ _).append (atMost_flag _ _)).append (atMost_flag _ _)
  have hcitations := atMost_flatMap claim.sized.1
    fun id _ => citationFindings_atMost packet claim id
  have hcounters := atMost_flatMap claim.sized.2.2.1
    fun id _ => counterCitationFindings_atMost packet claim id
  exact (((((((((hreference.append hbasis).append hplan).append (atMost_flag _ _)).append
    (calculationFindings_atMost packet draft.claims claim)).append hcitations).append
    hcounters).append hlanguage).append (numericFindings_atMost u packet draft.claims
    claim)).append (atMost_flag _ _)).mono (by omega)

theorem watchlistFindings_atMost :
    AtMost (maxSize * 1 + maxSize * 1) (watchlistFindings packet draft) :=
  (atMost_flatMap packet.sized.1 fun _ _ => atMost_flag _ _).append
    (atMost_flatMap packet.sized.2.1 fun _ _ => atMost_flag _ _)

/-- The number of findings is bounded by the lengths of the sequences. -/
theorem findings_atMost : AtMost (3000 * maxSize + 1100000) (findings u packet draft) := by
  have hclaims := draft.bounded.2.2.1
  have hdraft := (((graphFindings_atMost draft.claims hclaims).append
    (atMost_flatMap draft.bounded.2.2.2.1
      fun n _ => narrativeFindings_atMost u packet draft.claims n)).append
    (warningFindings_atMost u packet draft)).append
    (atMost_flatMap hclaims fun claim _ => claimFindings_atMost u packet draft claim)
  exact ((((((runFindings_atMost packet draft).append
    (sectionFindings_atMost _ _ _)).append (sectionFindings_atMost _ _ _)).append
    (capabilityFindings_atMost packet draft)).append hdraft).append
    (watchlistFindings_atMost packet draft)).mono (by omega)

/-- The number of findings has fewer than a thousand digits. -/
theorem length_findings_lt : (findings u packet draft).length < 10 ^ 1000 :=
  calc (findings u packet draft).length
    _ ≤ 3000 * maxSize + 1100000 := findings_atMost u packet draft
    _ < 10 ^ 23 := by decide
    _ ≤ 10 ^ 1000 := Nat.pow_le_pow_right (by decide) (by decide)

/-! ## Building the issues -/

variable {u packet draft}

/-- The issues of findings that fit. -/
theorem mapM_issue : ∀ {fs : List Finding} (h : ∀ f ∈ fs, f.Fits),
    fs.mapM issue = .ok (fs.pmap Finding.toIssue h)
  | [], _ => rfl
  | f :: fs, h => by
    have hf : issue f = .ok (f.toIssue (h f List.mem_cons_self)) := dif_pos _
    rw [List.mapM_cons, hf, mapM_issue fun g hg => h g (List.mem_cons_of_mem _ hg)]
    rfl

theorem fits_of_mapM_issue : ∀ {fs : List Finding} {issues : List ValidationIssue},
    fs.mapM issue = .ok issues → ∀ f ∈ fs, f.Fits
  | [], _, _ => nofun
  | g :: fs, issues, h => by
    rw [List.mapM_cons] at h
    by_cases hg : g.Fits
    · have hissue : issue g = .ok (g.toIssue hg) := dif_pos hg
      rw [hissue] at h
      cases hrest : fs.mapM issue with
      | error e =>
        rw [hrest] at h
        cases h
      | ok rest =>
        intro f hf
        rcases List.mem_cons.mp hf with rfl | hf
        · exact hg
        · exact fits_of_mapM_issue hrest f hf
    · have hissue : issue g = .error (.issueInvalid g) := dif_neg hg
      rw [hissue] at h
      cases h

theorem error_of_mem_pmap {fs : List Finding} {h : ∀ f ∈ fs, f.Fits} {i : ValidationIssue}
    (hi : i ∈ fs.pmap Finding.toIssue h) : i.severity = .error := by
  obtain ⟨f, hf, rfl⟩ := List.mem_pmap.mp hi
  rfl

theorem truncatedFinding_fits {total : Nat} (h : total < 10 ^ 1000) :
    (truncatedFinding total).Fits :=
  (fits_both (by decide) (by decide)).mpr
    ⟨by decide, (Nat.length_repr_le_iff (by decide)).mpr h⟩

/-- The kept issues: at most 2000, none only if there was none, all errors. -/
theorem orderedIssues_ok {issues : List ValidationIssue} (hcount : issues.length < 10 ^ 1000)
    (herror : ∀ i ∈ issues, i.severity = .error) :
    ∃ ordered, orderedIssues issues = .ok ordered ∧ ordered.length ≤ 2000 ∧
      (ordered = [] ↔ issues = []) ∧ ∀ i ∈ ordered, i.severity = .error := by
  let sorted := (issues.take maxValidationIssues).insertionSort fun a b => a.key ≤ b.key
  have hlength : sorted.length = min maxValidationIssues issues.length := by
    simp only [sorted, List.length_insertionSort, List.length_take]
  have hsorted : ∀ i ∈ sorted, i.severity = .error := fun i hi =>
    herror i (List.mem_of_mem_take ((List.mem_insertionSort _).mp hi))
  have hmax : maxValidationIssues = 2000 := rfl
  by_cases hcap : issues.length ≤ maxValidationIssues
  · refine ⟨sorted, ?_, by omega, ?_, hsorted⟩
    · have hkeep : ¬ (0 < issues.length - maxValidationIssues ∨
          maxValidationIssues < sorted.length) := by omega
      unfold orderedIssues
      simp only
      rw [if_neg hkeep]
    · rw [← List.length_eq_zero_iff, ← List.length_eq_zero_iff, hlength]
      omega
  · have htotal : sorted.length + (issues.length - maxValidationIssues) = issues.length := by omega
    have hfits : (truncatedFinding (sorted.length +
        (issues.length - maxValidationIssues))).Fits := by
      rw [htotal]
      exact truncatedFinding_fits hcount
    have hissue : issue (truncatedFinding (sorted.length +
        (issues.length - maxValidationIssues))) = .ok (Finding.toIssue _ hfits) := dif_pos hfits
    refine ⟨sorted.take (maxValidationIssues - 1) ++ [Finding.toIssue _ hfits], ?_, ?_, ?_, ?_⟩
    · have hdrop : 0 < issues.length - maxValidationIssues ∨
          maxValidationIssues < sorted.length := Or.inl (by omega)
      unfold orderedIssues
      simp only
      rw [if_pos hdrop, hissue]
    · rw [List.length_append, List.length_take, List.length_singleton]
      omega
    · constructor
      · intro h
        simp at h
      · intro h
        rw [h] at hcap
        exact absurd (Nat.zero_le _) hcap
    · intro i hi
      rcases List.mem_append.mp hi with hi | hi
      · exact hsorted i (List.mem_of_mem_take hi)
      · rw [List.mem_singleton.mp hi]
        rfl

/-! ## Reports -/

/-- A report on the draft is the attempt's, for this packet, and valid exactly when
no check has a finding. -/
structure Reports (u : CharacterDatabase) (packet : ResearchPacket) (draft : ResearchBriefDraft)
    (attempt : Nat) (report : ValidationReport) : Prop where
  runId : report.runId = packet.runId
  packetId : report.packetId = packet.packetId
  packetSha256 : report.packetSha256 = packet.canonicalSha256
  validationAttempt : report.validationAttempt = attempt
  length : report.issues.length ≤ 2000
  valid : report.isValid = true ↔ findings u packet draft = []

theorem validate_fits {attempt : Nat} {report : ValidationReport}
    (h : validateResearchBrief u packet draft attempt = .ok report) :
    TextsFit u packet draft := by
  unfold validateResearchBrief at h
  split at h
  · cases h
  · split at h
    · cases h
    next issues hissues => exact findings_fit.mp (fits_of_mapM_issue hissues)

/-- With texts that fit, a validator called with one of its attempts returns. -/
theorem validate_ok {attempt : Nat} (hattempt : attempt ∈ [1, 2, 3])
    (hfit : TextsFit u packet draft) :
    ∃ report, validateResearchBrief u packet draft attempt = .ok report ∧
      Reports u packet draft attempt report := by
  have hall := findings_fit.mpr hfit
  have hmap := mapM_issue hall
  have hcount : ((findings u packet draft).pmap Finding.toIssue hall).length < 10 ^ 1000 := by
    rw [List.length_pmap]
    exact length_findings_lt u packet draft
  obtain ⟨ordered, hordered, hlength, hnone, herror⟩ :=
    orderedIssues_ok hcount fun _ => error_of_mem_pmap
  have hrange : (1 ≤ attempt ∧ attempt ≤ 3) ∧ ordered.length ≤ 2000 := by
    refine ⟨?_, hlength⟩
    simp only [List.mem_cons, List.not_mem_nil, or_false] at hattempt
    omega
  have hbuild : ∃ report, buildReport packet attempt ordered = .ok report ∧
      Reports u packet draft attempt report := by
    refine ⟨_, dif_pos hrange, rfl, rfl, rfl, rfl, hlength, ?_⟩
    have hempty : ordered = [] ↔ findings u packet draft = [] := by
      rw [hnone, List.pmap_eq_nil_iff]
    rw [← hempty]
    cases ordered with
    | nil => simp
    | cons i rest => simp [herror i List.mem_cons_self]
  obtain ⟨report, hreport, hfacts⟩ := hbuild
  refine ⟨report, ?_, hfacts⟩
  unfold validateResearchBrief
  rw [if_neg (not_not.mpr hattempt), hmap]
  simp only
  rw [hordered]
  exact hreport

/-- **What a returned report is.** -/
theorem validate_spec {attempt : Nat} {report : ValidationReport}
    (h : validateResearchBrief u packet draft attempt = .ok report) :
    attempt ∈ [1, 2, 3] ∧ Reports u packet draft attempt report := by
  have hattempt : attempt ∈ [1, 2, 3] := by
    by_contra hnot
    unfold validateResearchBrief at h
    rw [if_pos hnot] at h
    cases h
  obtain ⟨report', hreport, hfacts⟩ := validate_ok hattempt (validate_fits h)
  rw [h, Except.ok.injEq] at hreport
  subst hreport
  exact ⟨hattempt, hfacts⟩

/-- **The validator returns, and passes no finding, exactly when no text it would
report is too long.** -/
theorem validate_returns_iff {attempt : Nat} (hattempt : attempt ∈ [1, 2, 3]) :
    (∃ report, validateResearchBrief u packet draft attempt = .ok report ∧
      report.issues.length ≤ 2000 ∧
      (report.isValid = true ↔ findings u packet draft = [])) ↔ TextsFit u packet draft := by
  constructor
  · rintro ⟨report, h, -⟩
    exact validate_fits h
  · intro hfit
    obtain ⟨report, h, hfacts⟩ := validate_ok hattempt hfit
    exact ⟨report, h, hfacts.length, hfacts.valid⟩

/-! ## A draft on which it fails -/

/-- A packet with this evidence and these plans only. -/
def samplePacket (evidence : List EvidenceItem) (plans : List TradePlanDraft) : ResearchPacket :=
  { run := { RunDir.sampleContext 1 Nat.one_pos with evidenceCutoffAt := some 0 }
    runIdBounded := by decide
    cutoffFrozen := rfl
    evidence := evidence
    market := FrozenMap.empty
    events := []
    metrics := []
    gates := []
    candidates := []
    candidateExclusions := []
    deterministicPlanInputs := plans
    capabilityStates := []
    sized := by decide
    content := [] }

/-- A section with these claims, the others with none. -/
def sampleSection (placed : ReportSection) (id : Identifier) (s : ReportSection) :
    ReportSectionClaims :=
  { reportSection := s
    claimIds := if s = placed then [id] else []
    bounded := by split <;> simp }

/-- A draft for a sample packet with one claim, in `Market Posture`. -/
def sampleDraft (packet : ResearchPacket) (claim : Claim) : ResearchBriefDraft :=
  { runId := packet.runId
    origin := .synthesized
    executionStatus := packet.run.executionStatus
    dataQualityStatus := packet.run.dataQualityStatus
    deliveryStatus := packet.run.deliveryStatus
    executiveSections := executiveSections.map (sampleSection .marketPosture claim.claimId)
    detailedSections := detailedSections.map (sampleSection .marketPosture claim.claimId)
    claims := [claim]
    planNarratives := []
    disabledCapabilityExplanations := []
    dataWarnings := []
    bounded := ⟨le_of_eq (by rw [List.length_map]; rfl), le_of_eq (by rw [List.length_map]; rfl),
      by simp, Nat.zero_le _, Nat.zero_le _, Nat.zero_le _⟩ }

/-- 128 times one character. -/
def longIdentifier (c : Char) (h : c.isAlphanum = true) : Identifier where
  text := String.ofList (List.replicate 128 c)
  legal := by
    refine ⟨by simp, by simpa using h, fun d hd => Or.inl ?_⟩
    rw [String.toList_ofList] at hd
    rw [List.eq_of_mem_replicate hd]
    exact h

theorem longIdentifier_length (c : Char) (h : c.isAlphanum = true) :
    (longIdentifier c h).text.length = 128 := by
  rw [longIdentifier, String.length_ofList, List.length_replicate]

theorem longIdentifier_eq_iff {c d : Char} {h : c.isAlphanum = true} {k : d.isAlphanum = true} :
    longIdentifier c h = longIdentifier d k ↔ c = d := by
  constructor
  · intro he
    have htext := congrArg (fun id => id.text.toList.head?) he
    simp only [longIdentifier, String.toList_ofList, List.head?_replicate] at htext
    simpa using htext
  · rintro rfl
    rfl

/-- The identifier of the claim of the concrete drafts. -/
def claimOne : Identifier := ⟨"c1", by decide⟩

theorem no_times : ∀ start ∈ (none : Option Calendar.UtcDatetime),
    ∀ stop ∈ (none : Option Calendar.UtcDatetime), start ≤ stop := nofun

/-- A fact with these citations. -/
def sampleFact (text : BoundedText 1 2000) (evidenceIds : List Identifier)
    (hnodup : evidenceIds.Nodup) (hsize : evidenceIds.length ≤ maxSize) : Claim :=
  { claimId := claimOne
    claimType := .fact
    text := text
    subjectSymbol := none
    field := none
    timeStart := none
    timeEnd := none
    evidenceIds := evidenceIds
    metricIds := []
    counterEvidenceIds := []
    supportsClaimIds := []
    numericValue := none
    unit := none
    invalidation := none
    expiresAt := none
    planId := none
    planStatus := none
    uniqueRelations := ⟨hnodup, List.nodup_nil, List.nodup_nil, List.nodup_nil⟩
    timesOrdered := no_times
    sized := ⟨hsize, Nat.zero_le _, Nat.zero_le _, Nat.zero_le _⟩ }

/-- On a draft that cites nothing the validator returns at every attempt. -/
theorem validate_returns_sample :
    let packet := samplePacket [] []
    let draft := sampleDraft packet (sampleFact ⟨"Calm.", by decide⟩ [] List.nodup_nil (by decide))
    (∃ report, validateResearchBrief .ascii packet draft 1 = .ok report ∧
      report.issues.length ≤ 2000 ∧
      (report.isValid = true ↔ findings .ascii packet draft = [])) ↔
    TextsFit .ascii packet draft :=
  validate_returns_iff (by decide)

/-- Eight unknown evidence IDs of 128 characters. -/
def unknownCitations : List Identifier :=
  [longIdentifier 'a' rfl, longIdentifier 'b' rfl, longIdentifier 'c' rfl, longIdentifier 'd' rfl,
    longIdentifier 'e' rfl, longIdentifier 'f' rfl, longIdentifier 'g' rfl, longIdentifier 'h' rfl]

theorem unknownCitations_nodup : unknownCitations.Nodup := by
  simp [unknownCitations, longIdentifier_eq_iff]

/-- A claim that cites them. -/
def overlongClaim : Claim :=
  sampleFact ⟨"Calm.", by decide⟩ unknownCitations unknownCitations_nodup (by decide)

theorem overlong_unknown :
    ¬ Short (joined (unknownEvidence (samplePacket [] []) overlongClaim)) := by
  have hunknown : unknownEvidence (samplePacket [] []) overlongClaim = unknownCitations :=
    List.filter_eq_self.mpr fun _ _ => rfl
  have hsum : ((unknownCitations.map Identifier.text).map String.length).sum = 1024 := by
    simp only [unknownCitations, List.map_cons, List.map_nil, longIdentifier_length,
      List.sum_cons, List.sum_nil, Nat.reduceAdd]
  have hlength := length_le_join ", " (unknownCitations.map Identifier.text)
  rw [hsum, ← joined, ← hunknown] at hlength
  unfold Short
  omega

/-- On that claim `_issue` raises. -/
theorem validate_not_total :
    ¬ ∀ (u : CharacterDatabase) (packet : ResearchPacket) (draft : ResearchBriefDraft),
      ∀ attempt ∈ [1, 2, 3], ∃ report, validateResearchBrief u packet draft attempt = .ok report ∧
        report.issues.length ≤ 2000 ∧
        (report.isValid = true ↔ findings u packet draft = []) := by
  intro h
  obtain ⟨report, hreport, -⟩ := h .ascii (samplePacket [] [])
    (sampleDraft (samplePacket [] []) overlongClaim) 1 List.mem_cons_self
  exact overlong_unknown ((validate_fits hreport).claims _ List.mem_cons_self).evidence

end FinanceResearch
