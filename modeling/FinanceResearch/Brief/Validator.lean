import FinanceResearch.Brief.Findings

/-!
# The brief validator

`_issue` builds an issue from a finding, and fails when a text or the list of
evidence IDs is longer than the issue's field allows; `validate_research_brief`
keeps the first 2000 issues, sorts them and reports.

`Finding.Fits` is that limit. The texts of most findings cannot exceed it, whatever
the draft (`Brief/Limits.lean`); the others are what `TextsFit` names.
-/

namespace FinanceResearch

/-- How validation fails: the exception of the validator itself, or pydantic's. -/
inductive ValidationFailure where
  | valueError (message : String)
  | issueInvalid (finding : Finding)
  | reportInvalid

/-! ## Issues -/

/-- The limits of the fields of `ValidationIssue`. -/
structure Finding.Fits (f : Finding) : Prop where
  pointer : 1 ≤ f.pointer.length ∧ f.pointer.length ≤ 512
  message : 1 ≤ f.message.length ∧ f.message.length ≤ 1000
  expected : ∀ text ∈ f.expected, text.length ≤ 1000
  actual : ∀ text ∈ f.actual, text.length ≤ 1000
  evidenceIds : f.evidenceIds.length ≤ 128

instance (f : Finding) : Decidable f.Fits :=
  decidable_of_iff ((1 ≤ f.pointer.length ∧ f.pointer.length ≤ 512) ∧
      (1 ≤ f.message.length ∧ f.message.length ≤ 1000) ∧
      (∀ text ∈ f.expected, text.length ≤ 1000) ∧ (∀ text ∈ f.actual, text.length ≤ 1000) ∧
      f.evidenceIds.length ≤ 128)
    ⟨fun ⟨h1, h2, h3, h4, h5⟩ => ⟨h1, h2, h3, h4, h5⟩, fun ⟨h1, h2, h3, h4, h5⟩ =>
      ⟨h1, h2, h3, h4, h5⟩⟩

/-- The bytes an issue is identified by. -/
def Finding.identity (f : Finding) : Bytes :=
  encode (Json.arr [.str f.code.value, .str f.pointer, .str f.message, optionJson .str f.expected,
    optionJson .str f.actual, .arr (f.evidenceIds.map fun id => .str id.text)]).dumps

/-- `issue_id`. -/
def Finding.issueId (f : Finding) : Identifier where
  text := "validation-" ++ String.ofList ((sha256 f.identity).toList.take 24)
  legal := by
    have hlength : (String.ofList ((sha256 f.identity).toList.take 24)).length ≤ 24 := by
      rw [String.length_ofList]
      exact List.length_take_le _ _
    refine Identifier.isLegal_hex ?_ (by decide) (forall_mem_of_all (by decide)) ?_
    · exact le_trans (Nat.add_le_add_left hlength _) (by decide)
    · intro c hc
      rw [String.toList_ofList] at hc
      exact Sha256.sha256_hex _ c (List.mem_of_mem_take hc)

/-- An optional text within its limit. -/
def boundedOption (text : Option String) (h : ∀ t ∈ text, t.length ≤ 1000) :
    Option (BoundedText 0 1000) :=
  text.pmap (fun t ht => ⟨t, Nat.zero_le _, ht⟩) h

/-- The issue of a finding that fits. -/
def Finding.toIssue (f : Finding) (h : f.Fits) : ValidationIssue where
  issueId := f.issueId
  code := f.code
  severity := .error
  jsonPointer := ⟨f.pointer, h.pointer⟩
  message := ⟨f.message, h.message⟩
  expectedValue := boundedOption f.expected h.expected
  actualValue := boundedOption f.actual h.actual
  relatedEvidenceIds := f.evidenceIds
  bounded := h.evidenceIds

/-- `_issue`. -/
def issue (f : Finding) : Except ValidationFailure ValidationIssue :=
  if h : f.Fits then .ok (f.toIssue h) else .error (.issueInvalid f)

/-! ## The report -/

/-- `_MAX_VALIDATION_ISSUES`. -/
def maxValidationIssues : Nat := 2000

/-- The sort key. -/
def ValidationIssue.key (i : ValidationIssue) : List String :=
  [i.jsonPointer.val, i.code.value, i.issueId.text]

/-- The issue that stands for the omitted ones. -/
def truncatedFinding (total : Nat) : Finding where
  code := .validationIssuesTruncated
  pointer := "/issues"
  message := "validation findings exceeded the report limit; additional findings are omitted"
  expected := some "2000 or fewer findings"
  actual := some (toString total)

/-- `ordered`: the kept issues sorted, the last one replaced when some were dropped. -/
def orderedIssues (issues : List ValidationIssue) :
    Except ValidationFailure (List ValidationIssue) :=
  let kept := issues.take maxValidationIssues
  let dropped := issues.length - maxValidationIssues
  let ordered := kept.insertionSort fun a b => a.key ≤ b.key
  if 0 < dropped ∨ maxValidationIssues < ordered.length then
    match issue (truncatedFinding (ordered.length + dropped)) with
    | .error failure => .error failure
    | .ok truncated => .ok (ordered.take (maxValidationIssues - 1) ++ [truncated])
  else .ok ordered

/-- `ValidationReport(...)`: the model validators run on the given values. -/
def buildReport (packet : ResearchPacket) (attempt : Nat) (issues : List ValidationIssue) :
    Except ValidationFailure ValidationReport :=
  let isValid : Bool := !issues.any fun issue => issue.severity = .error
  if h : (1 ≤ attempt ∧ attempt ≤ 3) ∧ issues.length ≤ 2000 then
    .ok {
      runId := packet.runId
      packetId := packet.packetId
      packetSha256 := packet.canonicalSha256
      isValid := isValid
      repairable := !isValid && attempt < 3
      validationAttempt := attempt
      repairAttemptsUsed := attempt - 1
      issues := issues
      bounded := ⟨h.1.1, h.1.2, h.2⟩
      consistent := by simp [isValid] }
  else .error .reportInvalid

/-- `validate_research_brief`. -/
def validateResearchBrief (u : CharacterDatabase) (packet : ResearchPacket)
    (draft : ResearchBriefDraft) (attempt : Nat) : Except ValidationFailure ValidationReport :=
  if attempt ∉ [1, 2, 3] then
    .error (.valueError "validation_attempt must be 1, 2, or at most two repair attempts")
  else
    match (findings u packet draft).mapM issue with
    | .error failure => .error failure
    | .ok issues =>
      match orderedIssues issues with
      | .error failure => .error failure
      | .ok ordered => buildReport packet attempt ordered

end FinanceResearch
