import FinanceResearch.Brief.Validator
import FinanceResearch.Lib.Fallible

/-!
# The Markdown report

`application/report_renderer.py`. The report is lines of spans: the renderer's own
words, and the texts of the draft, which `_inline_text` flattens and escapes. So
what a report takes from the draft can be read off its lines.

Mirroring notes vs the source:
- `_claim_line` joins its lines with a newline before they are joined again.
- `claims[claim_id]` is the last claim of the ID, and raises `KeyError` when
  there is none.
-/

namespace FinanceResearch

/-! ## Spans and lines -/

/-- A text of the draft, with what it belongs to. -/
inductive DraftText where
  | claimText (claim : Claim)
  | invalidation (claim : Claim) (text : String)
  | narrative (item : PlanNarrative)
  | warning (text : String)

def DraftText.text : DraftText → String
  | .claimText claim => claim.text.val
  | .invalidation _ text => text
  | .narrative item => item.text.val
  | .warning text => text

/-- A part of a line. -/
inductive Span where
  | own (text : String)
  /-- `_inline_text` of a text of the draft. -/
  | inline (source : DraftText)

abbrev Line := List Span

/-- `html.escape(text, quote=False)`, of one character. -/
def escapeHtml (c : Char) : List Char :=
  if c = '&' then "&amp;".toList
  else if c = '<' then "&lt;".toList
  else if c = '>' then "&gt;".toList
  else [c]

/-- A backslash before the characters that structure Markdown. -/
def escapeMarkdown (c : Char) : List Char :=
  if c ∈ ['\\', Char.ofNat 96, '*', '_', '\x7b', '\x7d', '[', ']', '(', ')', '!', '|', '~'] then
    ['\\', c]
  else [c]

/-- `_inline_text`. -/
def inlineText (u : CharacterDatabase) (value : String) : String :=
  let flattened := Text.join " " (Text.split u value)
  String.ofList ((flattened.toList.flatMap escapeHtml).flatMap escapeMarkdown)

def Span.text (u : CharacterDatabase) : Span → String
  | .own text => text
  | .inline source => inlineText u source.text

def Line.text (u : CharacterDatabase) (line : Line) : String :=
  Text.join "" (line.map (Span.text u))

example : inlineText .ascii " *a*\n<b> " = "\\*a\\* &lt;b&gt;" := by decide

/-- A line of the renderer's own words. -/
def ownLine (text : String) : Line := [.own text]

/-- `"\n".join(lines)`. -/
def joinLines (lines : List Line) : Line := List.intercalate [.own "\n"] lines

/-- `  - ` before a line. -/
def nested (line : Line) : Line := .own "  - " :: line

/-- `" ".join(f"[{item}]" for item in items)`. -/
def bracketed (items : List Identifier) : String :=
  Text.join " " (items.map fun item => "[" ++ item.text ++ "]")

/-! ## Capabilities -/

/-- `_CAPABILITY_AFFECTED_SECTIONS`. -/
def affectedSections : Capability → List ReportSection
  | .marketSummaryAvailable => [.marketPosture, .coreMarketRisks]
  | .regimeClassificationAvailable => [.marketPosture, .marketRegime]
  | .watchlistMetricsAvailable => [.watchlistPriorities, .watchlistDashboard]
  | .eventRiskCheckAvailable => [.todayEventClock, .macroEventCalendar]
  | .setupDetectionAvailable => [.watchlistPriorities, .eligibleSetups]
  | .planDraftAvailable => [.tradePlanDrafts]
  | .positionSizingAvailable => [.tradePlanDrafts]
  | .portfolioHeatCheckAvailable => [.tradePlanDrafts]

/-- `_capability_limitation_lines`. -/
def limitationLines (packet : ResearchPacket) (s : ReportSection) : List Line :=
  (packet.capabilityStates.filter fun state =>
      !state.available && decide (s ∈ affectedSections state.capability)).map fun state =>
    ownLine ("- Limitation: " ++ state.capability.value ++ " unavailable (" ++
      Text.join ", " (state.reasonCodes.map ErrorCode.value) ++ ").")

def disabledLines (draft : ResearchBriefDraft) : List Line :=
  draft.disabledCapabilityExplanations.map fun explanation =>
    ownLine ("- Disabled capability: " ++ explanation.capability.value ++ " (" ++
      joined explanation.reasonCodes ++ ")")

/-! ## Claims -/

/-- How rendering fails. -/
inductive RenderFailure where
  | valueError (message : String)
  | keyError (id : Identifier)
  | validation (failure : ValidationFailure)

/-- `claims[claim_id]`. -/
def claimAt (claims : List Claim) (id : Identifier) : Except RenderFailure Claim :=
  match Dicts.get? Claim.claimId claims id with
  | some claim => .ok claim
  | none => .error (.keyError id)

/-- `_claim_context_lines`. -/
def claimContextLines (claim : Claim) : List Line :=
  (claim.planStatus.toList.map fun status => ownLine ("Plan status: " ++ status.value)) ++
  (if claim.counterEvidenceIds = [] then []
    else [ownLine ("Counter-evidence: " ++ bracketed claim.counterEvidenceIds)]) ++
  ((claim.invalidation.toList.filter fun text => text.val ≠ "").map fun text =>
    [.own "Invalidation: ", .inline (.invalidation claim text.val)]) ++
  claim.expiresAt.toList.map fun time => ownLine ("Expires: " ++ Calendar.isoformat time)

/-- `_claim_line`, of a claim. -/
def lineOf (claim : Claim) : Line :=
  let citations := claim.evidenceIds ++ claim.metricIds
  let suffix : Line := if citations = [] then [] else ownLine (" " ++ bracketed citations)
  joinLines (([.own "- ", .inline (.claimText claim)] ++ suffix) ::
    (claimContextLines claim).map nested)

/-- `_claim_line`. -/
def claimLine (claims : List Claim) (id : Identifier) : Except RenderFailure Line :=
  lineOf <$> claimAt claims id

/-! ## Plan narratives -/

/-- `claim.supports_claim_ids` of `claims[claim_id]`. -/
def supportsAt (claims : List Claim) (id : Identifier) : List Identifier :=
  ((Dicts.get? Claim.claimId claims id).map Claim.supportsClaimIds).getD []

/-- The claim IDs the loop of `_plan_narrative_lines` takes: `pending.pop(0)` takes the
first one. -/
def narrativeClaimIds (claims : List Claim) (narrative : PlanNarrative) : List Identifier :=
  Worklist.collect (supportsAt claims) (fun rest new => rest ++ new)
    (Worklist.enough (supportsAt claims) (claimIds claims) narrative.claimIds) []
    narrative.claimIds

/-- The body of the loop over the narratives in `_plan_narrative_lines`. -/
def narrativeLines (claims : List Claim) (narrative : PlanNarrative) :
    Except RenderFailure (List Line) := do
  let visited ← (narrativeClaimIds claims narrative).mapM (claimAt claims)
  let citations := visited.flatMap fun claim => claim.evidenceIds ++ claim.metricIds
  let suffix := if citations = [] then "" else " " ++ bracketed citations.eraseDups
  let named ← narrative.claimIds.mapM (claimAt claims)
  return [.own ("- Plan " ++ narrative.planId.text ++ ": "), .inline (.narrative narrative),
      .own suffix] ::
    named.flatMap fun claim => (claimContextLines claim).map nested

/-- `_plan_narrative_lines`. -/
def planNarrativeLines (draft : ResearchBriefDraft) : Except RenderFailure (List Line) := do
  let blocks ← draft.planNarratives.mapM (narrativeLines draft.claims)
  return blocks.flatten

/-! ## Sections -/

/-- `### <section>` and an empty line. -/
def heading (s : ReportSection) : List Line := [ownLine ("### " ++ s.value), ownLine ""]

/-- `- No validated claims.`, unless the section says anything else. -/
def emptyNotice (s : ReportSectionClaims) (limitations others : List Line) : List Line :=
  if s.claimIds = [] ∧ limitations = [] ∧ others = [] then [ownLine "- No validated claims."]
  else []

def warningLines (draft : ResearchBriefDraft) : List Line :=
  draft.dataWarnings.map fun warning => [.own "- ", .inline (.warning warning.val)]

/-- A section of the executive brief. -/
def executiveLines (packet : ResearchPacket) (draft : ResearchBriefDraft)
    (s : ReportSectionClaims) : Except RenderFailure (List Line) := do
  let limitations := limitationLines packet s.reportSection
  let claims ← s.claimIds.mapM (claimLine draft.claims)
  let warnings :=
    if s.reportSection = .dataWarnings then warningLines draft ++ disabledLines draft else []
  return heading s.reportSection ++ limitations ++ claims ++ warnings ++
    emptyNotice s limitations warnings ++ [ownLine ""]

/-- The narratives, which one section shows. -/
def narrativesOf (draft : ResearchBriefDraft) (s : ReportSection) :
    Except RenderFailure (List Line) :=
  if s = .tradePlanDrafts then planNarrativeLines draft else .ok []

/-- A section of the detailed report. -/
def detailedLines (packet : ResearchPacket) (draft : ResearchBriefDraft)
    (s : ReportSectionClaims) : Except RenderFailure (List Line) := do
  let limitations := limitationLines packet s.reportSection
  let claims ← s.claimIds.mapM (claimLine draft.claims)
  let disabled := if s.reportSection = .dataQualityLimitations then disabledLines draft else []
  let narratives ← narrativesOf draft s.reportSection
  return heading s.reportSection ++ limitations ++ claims ++ disabled ++ narratives ++
    emptyNotice s limitations (disabled ++ narratives) ++ [ownLine ""]

/-! ## The report -/

def titleLines (packet : ResearchPacket) (draft : ResearchBriefDraft) : List Line :=
  [ownLine "# Premarket Research Brief",
    ownLine "",
    ownLine ("Market date: " ++ packet.run.runId.marketDate.isoformat),
    ownLine ("Run ID: " ++ packet.runId.text),
    ownLine ("Execution status: " ++ draft.executionStatus.value),
    ownLine ("Data quality status: " ++ draft.dataQualityStatus.value),
    ownLine ("Delivery status: " ++ draft.deliveryStatus.value),
    ownLine ("Brief origin: " ++ draft.origin.value),
    ownLine "",
    ownLine "## Executive Brief",
    ownLine ""]

/-- The lines of the report on a draft that passed. -/
def reportLines (packet : ResearchPacket) (draft : ResearchBriefDraft) :
    Except RenderFailure (List Line) := do
  let executive ← draft.executiveSections.mapM (executiveLines packet draft)
  let detailed ← draft.detailedSections.mapM (detailedLines packet draft)
  return titleLines packet draft ++ executive.flatten ++
    [ownLine "## Detailed Report", ownLine ""] ++ detailed.flatten

/-- What `render_markdown_report` checks before it renders. -/
def verifyReport (u : CharacterDatabase) (packet : ResearchPacket) (draft : ResearchBriefDraft)
    (validation : ValidationReport) : Except RenderFailure Unit :=
  if validation.isValid = false then .error (.valueError "only a valid draft can be rendered")
  else if draft.runId ≠ packet.runId ∨ validation.runId ≠ packet.runId ∨
      validation.packetId ≠ packet.packetId ∨
      validation.packetSha256 ≠ packet.canonicalSha256 then
    .error (.valueError "validation report does not match the frozen packet")
  else match validateResearchBrief u packet draft validation.validationAttempt with
    | .error failure => .error (.validation failure)
    | .ok verified =>
      if verified ≠ validation then
        .error (.valueError "validation report does not match deterministic validation")
      else .ok ()

/-- The lines `render_markdown_report` joins. -/
def renderLines (u : CharacterDatabase) (packet : ResearchPacket) (draft : ResearchBriefDraft)
    (validation : ValidationReport) : Except RenderFailure (List Line) := do
  verifyReport u packet draft validation
  reportLines packet draft

/-- `"\n".join(lines).rstrip() + "\n"`. -/
def finishLines (u : CharacterDatabase) (lines : List Line) : String :=
  Text.rstrip u (Text.join "\n" (lines.map (Line.text u))) ++ "\n"

/-- `render_markdown_report`. -/
def renderMarkdownReport (u : CharacterDatabase) (packet : ResearchPacket)
    (draft : ResearchBriefDraft) (validation : ValidationReport) : Except RenderFailure String :=
  finishLines u <$> renderLines u packet draft validation

end FinanceResearch
