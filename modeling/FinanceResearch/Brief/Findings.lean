import FinanceResearch.Brief.Grounding

/-!
# The checks of the validator

Every check of `validate_research_brief` and what it reports: `findings` lists, in
the order of the program, the arguments of its calls of `_issue`. Whether these
fit an issue is a question of `Brief/Validator.lean`.

Mirroring notes vs the source:
- All calls report an `ERROR`, the default severity.
- The order in which Python iterates over the set of wrongly disclosed
  capabilities is not fixed; the report has room for all findings up to there and
  sorts them, so it does not show.
- `visit` keeps the IDs on its path where the source has the set `visiting`.
-/

namespace FinanceResearch

open Calendar (UtcDatetime)

/-- The arguments of one call of `_issue`. -/
structure Finding where
  code : ValidationCode
  pointer : String
  message : String
  expected : Option String := none
  actual : Option String := none
  evidenceIds : List Identifier := []

/-- `if condition: issues.append(...)`. -/
def flag (condition : Prop) [Decidable condition] (finding : Finding) : List Finding :=
  if condition then [finding] else []

theorem forall_mem_flag {condition : Prop} [Decidable condition] {finding : Finding}
    {P : Finding → Prop} :
    (∀ f ∈ flag condition finding, P f) ↔ (condition → P finding) := by
  unfold flag
  split
  next h => simp [h]
  next h => simp [h]

/-- `", ".join(ids)`. -/
def joined (ids : List Identifier) : String := Text.join ", " (ids.map Identifier.text)

/-- `f"{value}"` of an optional value. -/
def optionText {α : Type} (text : α → String) : Option α → String
  | none => "None"
  | some value => text value

/-! ## Run and status -/

def statusText (execution : ExecutionStatus) (quality : DataQualityStatus)
    (delivery : DeliveryStatus) : String :=
  Text.join "/" [execution.value, quality.value, delivery.value]

def runFindings (packet : ResearchPacket) (draft : ResearchBriefDraft) : List Finding :=
  flag (draft.runId ≠ packet.runId)
    { code := .runIdMismatch
      pointer := "/run_id"
      message := "draft run_id differs from the frozen packet"
      expected := some packet.runId.text
      actual := some draft.runId.text } ++
  flag ((packet.run.executionStatus, packet.run.dataQualityStatus, packet.run.deliveryStatus) ≠
      (draft.executionStatus, draft.dataQualityStatus, draft.deliveryStatus))
    { code := .statusOverclaim
      pointer := "/status"
      message := "draft status differs from deterministic run status"
      expected := some (statusText packet.run.executionStatus packet.run.dataQualityStatus
        packet.run.deliveryStatus)
      actual := some (statusText draft.executionStatus draft.dataQualityStatus
        draft.deliveryStatus) }

/-! ## Sections -/

/-- `_EXECUTIVE_SECTIONS`. -/
def executiveSections : List ReportSection :=
  [.runStatus, .marketPosture, .whatChanged, .todayEventClock, .coreMarketRisks,
    .watchlistPriorities, .tradePlanDrafts, .dataWarnings]

/-- `_DETAILED_SECTIONS`. -/
def detailedSections : List ReportSection :=
  [.marketRegime, .macroEventCalendar, .broadMarketRadar, .sectorRotation,
    .crossAssetRiskSignals, .coreMonitor, .watchlistDashboard, .eligibleSetups, .tradePlanDrafts,
    .blockedExcludedCandidates, .changesSincePriorRun, .dataQualityLimitations, .evidenceIndex,
    .methodologyRiskNotice]

def sectionFindings (pointer : String) (sections : List ReportSectionClaims)
    (expected : List ReportSection) : List Finding :=
  let actual := sections.map ReportSectionClaims.reportSection
  let missing := expected.filter fun s => s ∉ actual
  if actual = expected then []
  else
    flag (missing ≠ [])
      { code := .requiredSectionMissing
        pointer := pointer
        message := "required report section is missing"
        expected := some (Text.join ", " (expected.map ReportSection.value))
        actual := some (Text.join ", " (missing.map ReportSection.value)) } ++
    flag (missing = [] ∨ actual.filter (fun s => s ∈ expected) ≠ expected)
      { code := .requiredSectionOrder
        pointer := pointer
        message := "report sections do not match the required exact order"
        expected := some (Text.join " / " (expected.map ReportSection.value))
        actual := some (Text.join " / " (actual.map ReportSection.value)) }

/-! ## Capabilities -/

/-- The values of `expected_capabilities`, before later ones replace earlier ones. -/
def disabledStates (packet : ResearchPacket) : List CapabilityState :=
  packet.capabilityStates.filter fun state => !state.available

def duplicateDisclosures (explanations : List CapabilityExplanation) : List Finding :=
  explanations.zipIdx.flatMap fun (explanation, index) =>
    flag (explanation.capability ∈ (explanations.take index).map CapabilityExplanation.capability)
      { code := .invalidCapabilityState
        pointer := "/disabled_capability_explanations"
        message := "duplicate capability disclosure" }

/-- The disclosed reason codes are those of the state, as sets. -/
def SameReasons (explanation : CapabilityExplanation) (state : CapabilityState) : Prop :=
  explanation.reasonCodes.map Identifier.text ⊆ state.reasonCodes.map ErrorCode.value ∧
    state.reasonCodes.map ErrorCode.value ⊆ explanation.reasonCodes.map Identifier.text

instance (explanation : CapabilityExplanation) (state : CapabilityState) :
    Decidable (SameReasons explanation state) := inferInstanceAs (Decidable (_ ∧ _))

def disclosureFindings (draft : ResearchBriefDraft) (capability : Capability)
    (state : CapabilityState) : List Finding :=
  match Dicts.get? CapabilityExplanation.capability draft.disabledCapabilityExplanations
      capability with
  | none =>
    [{ code := .disabledCapabilityOmitted
       pointer := "/disabled_capability_explanations"
       message := "disabled capability and reason are not disclosed"
       expected := some capability.value }]
  | some explanation =>
    flag (¬ SameReasons explanation state)
      { code := .invalidCapabilityState
        pointer := "/disabled_capability_explanations/" ++ capability.value
        message := "capability disclosure changes deterministic reason codes"
        expected := some (Text.join ", " (state.reasonCodes.map ErrorCode.value))
        actual := some (joined explanation.reasonCodes) }

def capabilityFindings (packet : ResearchPacket) (draft : ResearchBriefDraft) : List Finding :=
  let disabled := disabledStates packet
  let explained := Dicts.keys CapabilityExplanation.capability draft.disabledCapabilityExplanations
  duplicateDisclosures draft.disabledCapabilityExplanations ++
  (Dicts.keys CapabilityState.capability disabled).flatMap (fun capability =>
    match Dicts.get? CapabilityState.capability disabled capability with
    | none => []
    | some state => disclosureFindings draft capability state) ++
  explained.flatMap fun capability =>
    flag (¬ Dicts.Has CapabilityState.capability disabled capability)
      { code := .invalidCapabilityState
        pointer := "/disabled_capability_explanations"
        message := "draft marks an available or absent capability as disabled"
        actual := some capability.value }

/-! ## The claim graph -/

def indexPointer (index : Nat) (tail : String) : String := "/claims/" ++ toString index ++ tail

def claimPointer (id : Identifier) (tail : String) : String := "/claims/" ++ id.text ++ tail

def duplicateClaims (claims : List Claim) : List Finding :=
  claims.zipIdx.flatMap fun (claim, index) =>
    flag (claim.claimId ∈ (claims.take index).map Claim.claimId)
      { code := .claimReachability
        pointer := indexPointer index "/claim_id"
        message := "duplicate claim id" }

def missingSupports (claims : List Claim) (claim : Claim) : List Identifier :=
  claim.supportsClaimIds.filter fun id => id ∉ claimIds claims

def missingSupportFindings (claims : List Claim) : List Finding :=
  claims.zipIdx.flatMap fun (claim, index) =>
    flag (missingSupports claims claim ≠ [])
      { code := .claimReachability
        pointer := indexPointer index "/supports_claim_ids"
        message := "claim graph references missing claims"
        actual := some (joined (missingSupports claims claim)) }

def cycleFinding (id : Identifier) : Finding :=
  { code := .claimReachability
    pointer := claimPointer id "/supports_claim_ids"
    message := "claim graph contains a cycle" }

/-- What `visit` has done: `visited`, and the findings appended. -/
structure VisitState where
  visited : List Identifier
  found : List Finding

/-- `visit`, below the IDs on `visiting`. -/
def visit (claims : List Claim) : Nat → List Identifier → Identifier → VisitState → VisitState
  | 0, _, _, state => state
  | fuel + 1, visiting, id, state =>
    if id ∈ visiting then { state with found := state.found ++ [cycleFinding id] }
    else if id ∈ state.visited then state
    else match claimById claims id with
      | none => state
      | some claim =>
        let below := claim.supportsClaimIds.foldl
          (fun state support => visit claims fuel (id :: visiting) support state) state
        { below with visited := id :: below.visited }

/-- The depth of `visit`: its path has no ID twice. -/
def visitFuel (claims : List Claim) : Nat := (claimIds claims).length + 1

def cycleFindings (claims : List Claim) : List Finding :=
  ((Dicts.keys Claim.claimId claims).foldl
    (fun state id => visit claims (visitFuel claims) [] id state) ⟨[], []⟩).found

/-- `_claim_graph`. -/
def graphFindings (claims : List Claim) : List Finding :=
  duplicateClaims claims ++ missingSupportFindings claims ++ cycleFindings claims

/-! ## Plan narratives and data warnings -/

/-- The claims of a narrative, when all are known. -/
def narrativeClaims (claims : List Claim) (narrative : PlanNarrative) : Option (List Claim) :=
  narrative.claimIds.mapM (claimById claims)

/-- `" ".join(claim.text for claim in concrete_claims)`. -/
def narrativeText (claims : List Claim) : String := Text.join " " (claims.map fun c => c.text.val)

def narrativeFindings (u : CharacterDatabase) (packet : ResearchPacket) (claims : List Claim)
    (narrative : PlanNarrative) : List Finding :=
  (match narrativeClaims claims narrative with
    | none =>
      [{ code := .claimReachability
         pointer := "/plan_narratives"
         message := "plan narrative references a missing claim"
         actual := some narrative.planId.text }]
    | some concrete =>
      flag (narrative.text.val ≠ narrativeText concrete)
        { code := .unsupportedClaim
          pointer := "/plan_narratives"
          message := "plan narrative text must exactly repeat its validated claim text"
          expected := some (narrativeText concrete)
          actual := some narrative.text.val } ++
      flag (∃ claim ∈ concrete, claim.planId ≠ some narrative.planId)
        { code := .unsupportedClaim
          pointer := "/plan_narratives"
          message := "plan narrative claims must refer to the same deterministic plan"
          actual := some narrative.planId.text }) ++
  flag ((packet.planById narrative.planId).isNone = true)
    { code := .unsupportedClaim
      pointer := "/plan_narratives"
      message := "plan narrative refers to a plan outside the packet"
      actual := some narrative.planId.text } ++
  flag ((Patterns.imperative u).search narrative.text.val = true)
    { code := .imperativeTradingLanguage
      pointer := "/plan_narratives/text"
      message := "plan narrative contains prohibited imperative or execution language" }

/-- `packet_warnings`. -/
def packetWarnings (packet : ResearchPacket) (draft : ResearchBriefDraft) : List String :=
  (packet.gates.filter fun gate => gate.status = .warning ∨ gate.status = .block).map
      (fun gate => gate.message.val) ++
    draft.claims.map fun claim => claim.text.val

def warningPointer (index : Nat) : String := "/data_warnings/" ++ toString index

def warningFindings (u : CharacterDatabase) (packet : ResearchPacket) (draft : ResearchBriefDraft) :
    List Finding :=
  draft.dataWarnings.zipIdx.flatMap fun (warning, index) =>
    flag (warning.val ∉ packetWarnings packet draft)
      { code := .unsupportedClaim
        pointer := warningPointer index
        message := "data warning must repeat a packet gate message or validated claim"
        actual := some warning.val } ++
    flag ((Patterns.imperative u).search warning.val = true)
      { code := .imperativeTradingLanguage
        pointer := warningPointer index
        message := "data warning contains prohibited imperative or execution language" }

/-! ## One claim -/

/-- `referenced`: the claim IDs that sections and narratives name. -/
def referenced (draft : ResearchBriefDraft) : List Identifier :=
  (draft.executiveSections ++ draft.detailedSections).flatMap ReportSectionClaims.claimIds ++
    draft.planNarratives.flatMap PlanNarrative.claimIds

def unknownEvidence (packet : ResearchPacket) (claim : Claim) : List Identifier :=
  (claim.evidenceIds ++ claim.counterEvidenceIds).filter fun id => (packet.evidenceById id).isNone

def unknownMetrics (packet : ResearchPacket) (claim : Claim) : List Identifier :=
  claim.metricIds.filter fun id => (packet.metricById id).isNone

def referenceFindings (packet : ResearchPacket) (draft : ResearchBriefDraft) (claim : Claim) :
    List Finding :=
  flag (claim.claimId ∉ referenced draft)
    { code := .claimReachability
      pointer := claimPointer claim.claimId ""
      message := "claim is unreachable from a report section" } ++
  flag (unknownEvidence packet claim ≠ [])
    { code := .unknownEvidence
      pointer := claimPointer claim.claimId "/evidence_ids"
      message := "claim cites evidence outside the packet"
      actual := some (joined (unknownEvidence packet claim)) } ++
  flag (unknownMetrics packet claim ≠ [])
    { code := .unknownMetric
      pointer := claimPointer claim.claimId "/metric_ids"
      message := "claim cites metrics outside the packet"
      actual := some (joined (unknownMetrics packet claim)) }

def basisFindings (packet : ResearchPacket) (claim : Claim) : List Finding :=
  flag (claim.claimType = .fact ∧ claim.evidenceIds = [])
    { code := .unsupportedClaim
      pointer := claimPointer claim.claimId ""
      message := "factual claim requires evidence" } ++
  flag (claim.claimType = .calculation ∧ claim.metricIds = [])
    { code := .unsupportedClaim
      pointer := claimPointer claim.claimId ""
      message := "calculated claim requires metric references" } ++
  flag ((claim.claimType = .inference ∨ claim.claimType = .hypothesis) ∧
      claim.supportsClaimIds = [] ∧ claim.evidenceIds = [] ∧ claim.metricIds = [])
    { code := .unsupportedClaim
      pointer := claimPointer claim.claimId ""
      message := "inference or hypothesis has no packet-supported basis" } ++
  flag (claim.claimType = .hypothesis ∧ (claim.counterEvidenceIds = [] ∨
      (∀ text ∈ claim.invalidation, text.val = "") ∨ claim.expiresAt = none))
    { code := .counterEvidenceOmitted
      pointer := claimPointer claim.claimId ""
      message := "hypothesis requires counter-evidence, invalidation, and expiry" } ++
  flag (claim.planId.isSome = true ∧ (claim.planId.bind packet.planById).isNone = true)
    { code := .unsupportedClaim
      pointer := claimPointer claim.claimId "/plan_id"
      message := "claim refers to a plan outside the packet" }

/-- `plan_map.get(claim.plan_id) if claim.plan_id else None`. -/
def planOf (packet : ResearchPacket) (claim : Claim) : Option TradePlanDraft :=
  claim.planId.bind packet.planById

/-- `claim.field and "siz" in claim.field.lower()`. -/
def isSizing (claim : Claim) : Bool :=
  claim.field.any fun field => Text.contains field.text.toLower "siz"

/-- `plan.effective_expiry_at or plan.expires_at`. -/
def expectedExpiry (plan : TradePlanDraft) : UtcDatetime :=
  plan.effectiveExpiryAt.getD plan.expiresAt

/-- `f"{plan.invalidation_condition}; {expected_expiry.isoformat()}"`. -/
def planExpiryText (plan : TradePlanDraft) : String :=
  plan.invalidationCondition.val ++ "; " ++ Calendar.isoformat (expectedExpiry plan)

/-- `f"{claim.invalidation}; {claim.expires_at}"`. -/
def claimExpiryText (claim : Claim) : String :=
  optionText Subtype.val claim.invalidation ++ "; " ++ optionText Calendar.text claim.expiresAt

/-- `claim.numeric_value != units`, `None` unequal to every number. -/
def sameUnits (claim : Claim) (units : Decimal) : Bool :=
  claim.numericValue.any fun value => value.sameNumber units

/-- The claim keeps the invalidation and the expiry of the plan. -/
def KeepsExpiry (plan : TradePlanDraft) (claim : Claim) : Prop :=
  claim.invalidation.map Subtype.val = some plan.invalidationCondition.val ∧
    claim.expiresAt = some (expectedExpiry plan)

instance (plan : TradePlanDraft) (claim : Claim) : Decidable (KeepsExpiry plan claim) :=
  inferInstanceAs (Decidable (_ ∧ _))

def planFindings (claim : Claim) (plan : TradePlanDraft) : List Finding :=
  flag (claim.planStatus ≠ some plan.planStatus)
    { code := .invalidPlanState
      pointer := claimPointer claim.claimId "/plan_status"
      message := "plan-linked claim must preserve the deterministic plan status"
      expected := some plan.planStatus.value
      actual := some (optionText PlanStatus.value claim.planStatus) } ++
  flag (claim.counterEvidenceIds ≠ plan.counterEvidence)
    { code := .counterEvidenceOmitted
      pointer := claimPointer claim.claimId "/counter_evidence_ids"
      message := "plan-linked claim must preserve the plan's counter-evidence IDs"
      expected := some (joined plan.counterEvidence)
      actual := some (joined claim.counterEvidenceIds)
      evidenceIds := plan.counterEvidence } ++
  flag (¬ KeepsExpiry plan claim)
    { code := .expiryInvalidationMissing
      pointer := claimPointer claim.claimId ""
      message := "plan-linked claim must preserve deterministic invalidation and expiry"
      expected := some (planExpiryText plan)
      actual := some (claimExpiryText claim) } ++
  flag (isSizing claim = true ∧ plan.positionSizing.suggestedUnits.any (sameUnits claim) = false)
    { code := .unsupportedSizingValue
      pointer := claimPointer claim.claimId "/numeric_value"
      message := "draft sizing must exactly match available deterministic plan sizing" }

/-- The status a claim speaks of: of its plan, else its own. -/
def effectivePlanStatus (packet : ResearchPacket) (claim : Claim) : Option PlanStatus :=
  match planOf packet claim with
  | some plan => some plan.planStatus
  | none => claim.planStatus

def overclaimFindings (u : CharacterDatabase) (packet : ResearchPacket) (claim : Claim) :
    List Finding :=
  flag ((effectivePlanStatus packet claim = some .blocked ∨
      effectivePlanStatus packet claim = some .expired) ∧
      (Patterns.actionable u).search claim.text.val = true)
    { code := .blockedPlanOverclaim
      pointer := claimPointer claim.claimId "/text"
      message := "blocked or expired plans cannot be described as actionable" }

/-! ## Calculations and citations -/

/-- `sorted(required_inputs)`. -/
def requiredInputs (packet : ResearchPacket) (claim : Claim) : List Identifier :=
  (claim.metricIds.flatMap fun id =>
    ((packet.metricById id).map MetricResult.inputEvidenceIds).getD []).dedup.insertionSort
      fun a b => a.text ≤ b.text

/-- `f"{metric.value} {metric.unit.value}"`. -/
def metricText (metric : MetricResult) : String :=
  optionText Decimal.text metric.value ++ " " ++ metric.unit.value

/-- `f"{claim.numeric_value} {claim.unit}"`. -/
def valueText (claim : Claim) : String :=
  optionText Decimal.text claim.numericValue ++ " " ++ optionText Identifier.text claim.unit

/-- The claim states exactly the metric's value and unit. -/
def StatesMetric (claim : Claim) (metric : MetricResult) : Prop :=
  (∃ value ∈ metric.value, ∃ number ∈ claim.numericValue, value.SameQuantized number) ∧
    claim.unit.map Identifier.text = some metric.unit.value

instance (claim : Claim) (metric : MetricResult) : Decidable (StatesMetric claim metric) :=
  inferInstanceAs (Decidable (_ ∧ _))

def calculationFindings (packet : ResearchPacket) (claims : List Claim) (claim : Claim) :
    List Finding :=
  if claim.claimType ≠ .calculation then []
  else
    flag (¬ requiredInputs packet claim ⊆ reachableSources claims claim)
      { code := .claimReachability
        pointer := claimPointer claim.claimId "/evidence_ids"
        message := "calculated claim omits metric input evidence"
        actual := some (joined (requiredInputs packet claim)) } ++
    claim.metricIds.flatMap fun id =>
      match packet.metricById id with
      | none => []
      | some metric =>
        flag (¬ StatesMetric claim metric)
          { code := .deterministicValueMismatch
            pointer := claimPointer claim.claimId "/numeric_value"
            message := "calculated value or unit differs from the deterministic metric"
            expected := some (metricText metric)
            actual := some (valueText claim) }

/-- The best tier among the packet evidence relevant to the claim. -/
def bestTier (packet : ResearchPacket) (claim : Claim) : Option Nat :=
  ((packet.evidence.filter (evidenceRelevant claim)).map EvidenceItem.authorityTier).min?

def citationFindings (packet : ResearchPacket) (claim : Claim) (evidenceId : Identifier) :
    List Finding :=
  match packet.evidenceById evidenceId with
  | none => []
  | some item =>
    if claim.claimType = .calculation then []
    else if evidenceRelevant claim item = false then
      [{ code := .irrelevantCitation
         pointer := claimPointer claim.claimId "/evidence_ids"
         message := "cited evidence does not match the claim subject, field, and time"
         evidenceIds := [evidenceId] }]
    else match bestTier packet claim with
      | none => []
      | some best =>
        flag (best < item.authorityTier)
          { code := .irrelevantCitation
            pointer := claimPointer claim.claimId "/evidence_ids"
            message := "claim cites lower-authority evidence while stronger evidence is available"
            expected := some (toString best)
            actual := some (toString item.authorityTier)
            evidenceIds := [evidenceId] }

def counterCitationFindings (packet : ResearchPacket) (claim : Claim) (evidenceId : Identifier) :
    List Finding :=
  match packet.evidenceById evidenceId, claim.subjectSymbol with
  | some item, some symbol =>
    flag (∃ instrument ∈ item.instrumentId, instrument.text ≠ symbol.text)
      { code := .irrelevantCitation
        pointer := claimPointer claim.claimId "/counter_evidence_ids"
        message := "counter-evidence has a different subject"
        evidenceIds := [evidenceId] }
  | _, _ => []

/-! ## Texts -/

/-- The packet has data of a single exchange. -/
def hasSingleExchange (packet : ResearchPacket) : Bool :=
  (packet.evidence.any fun item =>
    decide (item.structuredFields.get? "coverage" = some (.str "single_exchange"))) ||
  packet.market.items.any fun entry =>
    entry.2.latestPrice.any fun price => decide (price.coverage.value = "single_exchange")

/-- `cited_urls`. -/
def citedUrls (packet : ResearchPacket) (claim : Claim) : List String :=
  claim.evidenceIds.filterMap fun id => (packet.evidenceById id).bind EvidenceItem.sourceUrl

def languageFindings (u : CharacterDatabase) (packet : ResearchPacket) (claim : Claim) :
    List Finding :=
  flag ((Patterns.imperative u).search claim.text.val = true)
    { code := .imperativeTradingLanguage
      pointer := claimPointer claim.claimId "/text"
      message := "draft contains prohibited imperative or execution language" } ++
  flag ((Patterns.fullMarketClaim u).search claim.text.val = true ∧
      hasSingleExchange packet = true)
    { code := .iexCoverageOverclaim
      pointer := claimPointer claim.claimId "/text"
      message := "single-exchange evidence cannot be described as full-market coverage" } ++
  flag (∃ url ∈ (Patterns.urlText u).findAll claim.text.val, url ∉ citedUrls packet claim)
    { code := .unsupportedClaim
      pointer := claimPointer claim.claimId "/text"
      message := "draft introduces a URL not present in its cited packet evidence" }

def numericIssueCode (claim : Claim) : ValidationCode :=
  if isSizing claim then .unsupportedSizingValue else .deterministicValueMismatch

/-- `claimed_binding in numeric_bindings`. -/
def IsBound (u : CharacterDatabase) (packet : ResearchPacket) (claims : List Claim)
    (claim : Claim) : Prop :=
  ∃ value ∈ claim.numericValue, ∃ unit ∈ claim.unit,
    ∃ binding ∈ numericBindings u packet claims claim,
      value.sameNumber binding.1 = true ∧ unit.text = binding.2

instance (u : CharacterDatabase) (packet : ResearchPacket) (claims : List Claim) (claim : Claim) :
    Decidable (IsBound u packet claims claim) :=
  inferInstanceAs (Decidable (∃ value ∈ claim.numericValue, _))

/-- The numbers in the claim's text. -/
def numericTokens (u : CharacterDatabase) (claim : Claim) : List String :=
  (Patterns.numericText u).findAll claim.text.val

/-- A token that is a number other than the claim's. -/
def IsOtherNumber (u : CharacterDatabase) (claim : Claim) (token : String) : Prop :=
  ∃ number ∈ Patterns.tokenNumber u token,
    ¬ ∃ value ∈ claim.numericValue, number.SameQuantized value

instance (u : CharacterDatabase) (claim : Claim) (token : String) :
    Decidable (IsOtherNumber u claim token) :=
  inferInstanceAs (Decidable (∃ number ∈ Patterns.tokenNumber u token, _))

def numericFindings (u : CharacterDatabase) (packet : ResearchPacket) (claims : List Claim)
    (claim : Claim) : List Finding :=
  let code := numericIssueCode claim
  (if numericTokens u claim ≠ [] ∨ claim.numericValue.isSome = true then
    flag (¬ IsBound u packet claims claim)
      { code := code
        pointer := claimPointer claim.claimId "/numeric_value"
        message := "numeric claim value, field, or unit differs from its deterministic source" } ++
    flag (¬ ∃ unit ∈ claim.unit,
        Text.contains (u.casefold claim.text.val) (u.casefold unit.text) = true)
      { code := code
        pointer := claimPointer claim.claimId "/unit"
        message := "numeric narrative must state the validated unit"
        expected := claim.unit.map Identifier.text }
  else []) ++
  (numericTokens u claim).flatMap fun token =>
    flag (IsOtherNumber u claim token)
      { code := code
        pointer := claimPointer claim.claimId "/text"
        message := "narrative number must exactly match the claim's field-bound value"
        expected := claim.numericValue.map Decimal.fixed
        actual := some token }

def lengthFindings (claim : Claim) : List Finding :=
  flag (2000 < claim.text.val.length)
    { code := .textLimitExceeded
      pointer := claimPointer claim.claimId "/text"
      message := "claim text exceeds the validator limit" }

/-- The body of the loop over the claims in `_validate_claims`. -/
def claimFindings (u : CharacterDatabase) (packet : ResearchPacket) (draft : ResearchBriefDraft)
    (claim : Claim) : List Finding :=
  referenceFindings packet draft claim ++ basisFindings packet claim ++
  ((planOf packet claim).map (planFindings claim)).getD [] ++
  overclaimFindings u packet claim ++ calculationFindings packet draft.claims claim ++
  claim.evidenceIds.flatMap (citationFindings packet claim) ++
  claim.counterEvidenceIds.flatMap (counterCitationFindings packet claim) ++
  languageFindings u packet claim ++ numericFindings u packet draft.claims claim ++
  lengthFindings claim

/-- `_validate_claims`. -/
def draftFindings (u : CharacterDatabase) (packet : ResearchPacket) (draft : ResearchBriefDraft) :
    List Finding :=
  graphFindings draft.claims ++
  draft.planNarratives.flatMap (narrativeFindings u packet draft.claims) ++
  warningFindings u packet draft ++ draft.claims.flatMap (claimFindings u packet draft)

/-! ## Watchlist coverage -/

/-- `_section_claims`; here a later claim of an ID replaces an earlier one. -/
def sectionClaims (draft : ResearchBriefDraft) (s : ReportSection) : List Claim :=
  match draft.detailedSections.find? fun item => item.reportSection = s with
  | none => []
  | some item => item.claimIds.filterMap (Dicts.get? Claim.claimId draft.claims)

/-- `f"{candidate.symbol}: {candidate.plan_status.value}"`. -/
def candidateText (candidate : SetupCandidate) : String :=
  candidate.symbol.text ++ ": " ++ candidate.planStatus.value

/-- `f"{exclusion.symbol}: {reason}"`. -/
def exclusionText (exclusion : CandidateExclusion) (reason : Identifier) : String :=
  exclusion.symbol.text ++ ": " ++ reason.text

/-- The reasons the finding on an exclusion lists. -/
def exclusionReasons (exclusion : CandidateExclusion) : String :=
  exclusion.symbol.text ++ ": " ++ joined exclusion.reasonCodes

def ShowsCandidate (draft : ResearchBriefDraft) (candidate : SetupCandidate) : Prop :=
  ∃ claim ∈ sectionClaims draft .watchlistDashboard,
    claim.subjectSymbol = some candidate.symbol ∧ claim.text.val = candidateText candidate

def ShowsExclusion (draft : ResearchBriefDraft) (exclusion : CandidateExclusion) : Prop :=
  ∃ claim ∈ sectionClaims draft .blockedExcludedCandidates,
    claim.subjectSymbol = some exclusion.symbol ∧
      ∃ reason ∈ exclusion.reasonCodes, claim.text.val = exclusionText exclusion reason

instance (draft : ResearchBriefDraft) (candidate : SetupCandidate) :
    Decidable (ShowsCandidate draft candidate) :=
  inferInstanceAs (Decidable (∃ claim ∈ sectionClaims draft .watchlistDashboard, _))

instance (draft : ResearchBriefDraft) (exclusion : CandidateExclusion) :
    Decidable (ShowsExclusion draft exclusion) :=
  inferInstanceAs (Decidable (∃ claim ∈ sectionClaims draft .blockedExcludedCandidates, _))

/-- `_validate_watchlist_coverage`. -/
def watchlistFindings (packet : ResearchPacket) (draft : ResearchBriefDraft) : List Finding :=
  packet.candidates.flatMap (fun candidate =>
    flag (¬ ShowsCandidate draft candidate)
      { code := .watchlistCoverageMissing
        pointer := "/detailed_sections/WATCHLIST_DASHBOARD"
        message := "watchlist candidate must appear with its deterministic state"
        expected := some (candidateText candidate) }) ++
  packet.candidateExclusions.flatMap fun exclusion =>
    flag (¬ ShowsExclusion draft exclusion)
      { code := .watchlistCoverageMissing
        pointer := "/detailed_sections/BLOCKED_EXCLUDED_CANDIDATES"
        message := "excluded watchlist candidate must appear with a deterministic reason"
        expected := some (exclusionReasons exclusion) }

/-! ## All of them -/

/-- What the checks of `validate_research_brief` report, in order. -/
def findings (u : CharacterDatabase) (packet : ResearchPacket) (draft : ResearchBriefDraft) :
    List Finding :=
  runFindings packet draft ++
  sectionFindings "/executive_sections" draft.executiveSections executiveSections ++
  sectionFindings "/detailed_sections" draft.detailedSections detailedSections ++
  capabilityFindings packet draft ++ draftFindings u packet draft ++
  watchlistFindings packet draft

end FinanceResearch
