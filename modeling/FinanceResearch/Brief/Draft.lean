import FinanceResearch.Domain.Packets

/-!
# Brief drafts and validation reports

The structured output of synthesis (`ResearchBriefDraft`) and the result of
checking it (`ValidationReport`), `domain/validation.py`. The bounds pydantic
enforces are fields, so that a draft out of bounds, an issue whose texts are too
long or an inconsistent report cannot be built.

Mirroring notes vs the source:
- `EXECUTIVE_TRADE_PLAN_DRAFTS` and `DETAILED_TRADE_PLAN_DRAFTS` have one value,
  so Python makes them one member: `tradePlanDrafts`.
-/

namespace FinanceResearch

open Calendar (UtcDatetime)

/-! ## Vocabularies -/

inductive ClaimType where
  | fact | calculation | inference | hypothesis
  deriving DecidableEq, Repr

def ClaimType.value : ClaimType → String
  | .fact => "FACT"
  | .calculation => "CALCULATION"
  | .inference => "INFERENCE"
  | .hypothesis => "HYPOTHESIS"

inductive BriefOrigin where
  | synthesized | deterministicReduced | operational
  deriving DecidableEq, Repr

def BriefOrigin.value : BriefOrigin → String
  | .synthesized => "SYNTHESIZED"
  | .deterministicReduced => "DETERMINISTIC_REDUCED"
  | .operational => "OPERATIONAL"

inductive ReportSection where
  | runStatus | marketPosture | whatChanged | todayEventClock | coreMarketRisks
  | watchlistPriorities | tradePlanDrafts | dataWarnings | marketRegime | macroEventCalendar
  | broadMarketRadar | sectorRotation | crossAssetRiskSignals | coreMonitor | watchlistDashboard
  | eligibleSetups | blockedExcludedCandidates | changesSincePriorRun | dataQualityLimitations
  | evidenceIndex | methodologyRiskNotice
  deriving DecidableEq, Repr

def ReportSection.value : ReportSection → String
  | .runStatus => "Run Status"
  | .marketPosture => "Market Posture"
  | .whatChanged => "What Changed"
  | .todayEventClock => "Today’s Event Clock"
  | .coreMarketRisks => "Core Market Risks"
  | .watchlistPriorities => "Watchlist Priorities"
  | .tradePlanDrafts => "Trade Plan Drafts"
  | .dataWarnings => "Data Warnings"
  | .marketRegime => "Market Regime"
  | .macroEventCalendar => "Macro and Event Calendar"
  | .broadMarketRadar => "Broad-Market Radar"
  | .sectorRotation => "Sector Rotation"
  | .crossAssetRiskSignals => "Cross-Asset Risk Signals"
  | .coreMonitor => "Core Monitor"
  | .watchlistDashboard => "Watchlist Dashboard"
  | .eligibleSetups => "Eligible Setups"
  | .blockedExcludedCandidates => "Blocked and Excluded Candidates"
  | .changesSincePriorRun => "Changes Since Prior Run"
  | .dataQualityLimitations => "Data Quality and Limitations"
  | .evidenceIndex => "Evidence Index"
  | .methodologyRiskNotice => "Methodology and Risk Notice"

inductive ValidationSeverity where
  | error | warning
  deriving DecidableEq, Repr

def ValidationSeverity.value : ValidationSeverity → String
  | .error => "ERROR"
  | .warning => "WARNING"

inductive ValidationCode where
  | schemaInvalid | runIdMismatch | requiredSectionMissing | requiredSectionOrder
  | invalidPlanState | invalidCapabilityState | deterministicValueMismatch | irrelevantCitation
  | counterEvidenceOmitted | statusOverclaim | iexCoverageOverclaim | disabledCapabilityOmitted
  | imperativeTradingLanguage | blockedPlanOverclaim | unsupportedSizingValue | unsupportedClaim
  | claimReachability | expiryInvalidationMissing | textLimitExceeded | unknownEvidence
  | unknownMetric | watchlistCoverageMissing | validationIssuesTruncated
  deriving DecidableEq, Repr

def ValidationCode.value : ValidationCode → String
  | .schemaInvalid => "SCHEMA_INVALID"
  | .runIdMismatch => "RUN_ID_MISMATCH"
  | .requiredSectionMissing => "REQUIRED_SECTION_MISSING"
  | .requiredSectionOrder => "REQUIRED_SECTION_ORDER"
  | .invalidPlanState => "INVALID_PLAN_STATE"
  | .invalidCapabilityState => "INVALID_CAPABILITY_STATE"
  | .deterministicValueMismatch => "DETERMINISTIC_VALUE_MISMATCH"
  | .irrelevantCitation => "IRRELEVANT_CITATION"
  | .counterEvidenceOmitted => "COUNTER_EVIDENCE_OMITTED"
  | .statusOverclaim => "STATUS_OVERCLAIM"
  | .iexCoverageOverclaim => "IEX_COVERAGE_OVERCLAIM"
  | .disabledCapabilityOmitted => "DISABLED_CAPABILITY_OMITTED"
  | .imperativeTradingLanguage => "IMPERATIVE_TRADING_LANGUAGE"
  | .blockedPlanOverclaim => "BLOCKED_PLAN_OVERCLAIM"
  | .unsupportedSizingValue => "UNSUPPORTED_SIZING_VALUE"
  | .unsupportedClaim => "UNSUPPORTED_CLAIM"
  | .claimReachability => "CLAIM_REACHABILITY"
  | .expiryInvalidationMissing => "EXPIRY_INVALIDATION_MISSING"
  | .textLimitExceeded => "TEXT_LIMIT_EXCEEDED"
  | .unknownEvidence => "UNKNOWN_EVIDENCE"
  | .unknownMetric => "UNKNOWN_METRIC"
  | .watchlistCoverageMissing => "WATCHLIST_COVERAGE_MISSING"
  | .validationIssuesTruncated => "VALIDATION_ISSUES_TRUNCATED"

/-! ## Drafts -/

structure Claim where
  claimId : Identifier
  claimType : ClaimType
  text : BoundedText 1 2000
  subjectSymbol : Option Symbol
  field : Option Identifier
  timeStart : Option UtcDatetime
  timeEnd : Option UtcDatetime
  evidenceIds : List Identifier
  metricIds : List Identifier
  counterEvidenceIds : List Identifier
  supportsClaimIds : List Identifier
  numericValue : Option Decimal
  unit : Option Identifier
  invalidation : Option (BoundedText 0 1000)
  expiresAt : Option UtcDatetime
  planId : Option Identifier
  planStatus : Option PlanStatus
  uniqueRelations : evidenceIds.Nodup ∧ metricIds.Nodup ∧ counterEvidenceIds.Nodup ∧
    supportsClaimIds.Nodup
  timesOrdered : ∀ start ∈ timeStart, ∀ stop ∈ timeEnd, start ≤ stop
  sized : evidenceIds.length ≤ maxSize ∧ metricIds.length ≤ maxSize ∧
    counterEvidenceIds.length ≤ maxSize ∧ supportsClaimIds.length ≤ maxSize
  deriving DecidableEq

structure ReportSectionClaims where
  reportSection : ReportSection
  claimIds : List Identifier
  bounded : claimIds.length ≤ 500
  deriving DecidableEq

structure PlanNarrative where
  planId : Identifier
  text : BoundedText 1 3000
  claimIds : List Identifier
  bounded : 1 ≤ claimIds.length ∧ claimIds.length ≤ 100
  deriving DecidableEq

structure CapabilityExplanation where
  capability : Capability
  reasonCodes : List Identifier
  bounded : 1 ≤ reasonCodes.length ∧ reasonCodes.length ≤ 64
  deriving DecidableEq

structure ResearchBriefDraft where
  runId : Identifier
  origin : BriefOrigin
  executionStatus : ExecutionStatus
  dataQualityStatus : DataQualityStatus
  deliveryStatus : DeliveryStatus
  executiveSections : List ReportSectionClaims
  detailedSections : List ReportSectionClaims
  claims : List Claim
  planNarratives : List PlanNarrative
  disabledCapabilityExplanations : List CapabilityExplanation
  dataWarnings : List (BoundedText 0 1000)
  bounded : executiveSections.length ≤ 8 ∧ detailedSections.length ≤ 14 ∧ claims.length ≤ 500 ∧
    planNarratives.length ≤ 32 ∧ disabledCapabilityExplanations.length ≤ 32 ∧
    dataWarnings.length ≤ 128
  deriving DecidableEq

/-! ## Reports -/

structure ValidationIssue where
  issueId : Identifier
  code : ValidationCode
  severity : ValidationSeverity
  jsonPointer : BoundedText 1 512
  message : BoundedText 1 1000
  expectedValue : Option (BoundedText 0 1000)
  actualValue : Option (BoundedText 0 1000)
  relatedEvidenceIds : List Identifier
  bounded : relatedEvidenceIds.length ≤ 128
  deriving DecidableEq

structure ValidationReport where
  runId : Identifier
  packetId : Identifier
  packetSha256 : String
  isValid : Bool
  repairable : Bool
  validationAttempt : Nat
  repairAttemptsUsed : Nat
  issues : List ValidationIssue
  bounded : 1 ≤ validationAttempt ∧ validationAttempt ≤ 3 ∧ issues.length ≤ 2000
  /-- `_consistent_result`. -/
  consistent : (isValid = true ↔ ∀ issue ∈ issues, issue.severity ≠ .error) ∧
    repairAttemptsUsed = validationAttempt - 1 ∧
    (repairable = true ↔ isValid = false ∧ validationAttempt < 3)
  deriving DecidableEq

end FinanceResearch
