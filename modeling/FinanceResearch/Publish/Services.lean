import FinanceResearch.Publish.Ports

/-!
# Validation and publication of a staged packet

`application/publication_service.py`. Every service reads the run first and appends its
checkpoint with the number of entries it read (`checkpoint_if_current`), so it is refused
when another service appended in between. The artifacts are staged before that, and stay.

Mirroring notes vs the source:
- `==` of JSON objects does not see the order of keys: both sides are in key order.
- In `a or b`, where `b` can raise, `b` is evaluated only when `a` is false.
-/

namespace FinanceResearch

open Calendar (UtcDatetime)
open Program (ofOption require)

/-! ## `create_repair_context` -/

structure RepairContext where
  packetId : Identifier
  packetSha256 : String
  validationAttempt : Nat
  bounded : 2 ≤ validationAttempt ∧ validationAttempt ≤ 3

/-- `create_repair_context`; the text of the `ValueError` is the error. -/
def createRepairContext (packet : ResearchPacket) (report : ValidationReport) :
    Except String RepairContext :=
  if report.packetId ≠ packet.packetId ∨ report.packetSha256 ≠ packet.canonicalSha256 then
    .error "validation report does not match the frozen packet"
  else if report.isValid = true then .error "a valid draft does not require repair"
  else if h : report.repairable = false ∨ 3 ≤ report.validationAttempt then
    .error "at most two repair attempts are permitted"
  else
    .ok {
      packetId := packet.packetId
      packetSha256 := packet.canonicalSha256
      validationAttempt := report.validationAttempt + 1
      bounded := by
        have hpositive := report.bounded.1
        push Not at h
        omega }

namespace Service

/-- `create_repair_context(packet, report) if report.repairable else None`. -/
def repairFor (packet : ResearchPacket) (report : ValidationReport) :
    Service (Option RepairContext) :=
  if report.repairable = true then do
    let context ← Program.ofExcept ServiceError.valueError (createRepairContext packet report)
    return some context
  else .done none

/-! ## `validate_staged_brief` -/

def draftName (draft : ResearchBriefDraft) : String := "brief_draft_" ++ sha256 draft.bytes

def reportName (report : ValidationReport) : String :=
  "validation_report_" ++ sha256 report.bytes

/-- The entry `validate_staged_brief` records, before telemetry is bound to it. -/
def attemptCheckpoint (packet : ResearchPacket) (checkpointedAt : UtcDatetime)
    (hashes : FrozenMap String) : RunCheckpoint :=
  { runId := packet.run.runId
    stage := "VALIDATING"
    executionStatus := .validating
    dataQualityStatus := packet.run.dataQualityStatus
    deliveryStatus := packet.run.deliveryStatus
    writtenAt := checkpointedAt
    evidenceCutoffAt := packet.run.evidenceCutoffAt
    artifactHashes := hashes
    resumable := false }

/-- The end of `validate_staged_brief`: the attempt number `attempt`. -/
def recordAttempt (u : CharacterDatabase) (packet : ResearchPacket) (draft : ResearchBriefDraft)
    (checkpointedAt : UtcDatetime) (recorder : RunTelemetryRecorder) (elapsedMs : Nat)
    (packetHash : String) (stored : StoredRun) (attempt : Nat) :
    Service (ValidationReport × Option RepairContext) := do
  let r := packet.run.runId
  let latest ← ofOption .lookupError stored.checkpoints.getLast?
  require (latest.writtenAt ≤ checkpointedAt)
    (.valueError "validation checkpoint cannot precede current checkpoint")
  let report ← Program.ofExcept ServiceError.validation
    (validateResearchBrief u packet draft attempt)
  let draftHash ← stageArtifact r (draftName draft) draft.bytes
  let reportHash ← stageArtifact r (reportName report) report.bytes
  let hashes ← ofOption .tooLarge (FrozenMap.ofDict
    ([("research_packet", packetHash), (draftName draft, draftHash),
      (reportName report, reportHash)] ++
      (latest.artifactHashes.get? "reduced_report").toList.map fun hash =>
        ("reduced_report", hash)))
  let snapshot ← ofOption (.valueError "validation_attempts must be between zero and three")
    ((recorder.measure .validation elapsedMs).snapshot packet.bytes.size attempt)
  let checkpoint ← checkpointWithTelemetry (attemptCheckpoint packet checkpointedAt hashes)
    snapshot
  checkpointIfCurrent r checkpoint stored.checkpoints.length
  let repair ← repairFor packet report
  return (report, repair)

/-- `validate_staged_brief`, on the second reading of the run. -/
def validateOn (readers : Readers) (u : CharacterDatabase) (packet : ResearchPacket)
    (draft : ResearchBriefDraft) (checkpointedAt : UtcDatetime)
    (recorder : RunTelemetryRecorder) (elapsedMs : Nat) (packetHash : String)
    (stored : StoredRun) : Service (ValidationReport × Option RepairContext) :=
  match (attemptsRead stored).getLast? with
  | none => recordAttempt u packet draft checkpointedAt recorder elapsedMs packetHash stored 1
  | some last => do
    let (previousDraft, previousReport) ← recordedAttempt readers last
    let differs := .valueError "previous validation differs from frozen packet"
    require (previousReport.packetSha256 = packet.canonicalSha256 ∧
      previousReport.validationAttempt = (attemptsRead stored).length) differs
    let verdict ← Program.ofExcept ServiceError.validation
      (validateResearchBrief u packet previousDraft previousReport.validationAttempt)
    require (previousReport = verdict) differs
    if previousDraft.Equals draft then do
      let repair ← repairFor packet previousReport
      return (previousReport, repair)
    else do
      let context ← Program.ofExcept ServiceError.valueError
        (createRepairContext packet previousReport)
      recordAttempt u packet draft checkpointedAt recorder elapsedMs packetHash stored
        context.validationAttempt

/-- `validate_staged_brief`. -/
def validateStagedBrief (readers : Readers) (u : CharacterDatabase) (packet : ResearchPacket)
    (draft : ResearchBriefDraft) (checkpointedAt : UtcDatetime)
    (telemetry : Option RunTelemetryRecorder) (elapsedMs : Nat) :
    Service (ValidationReport × Option RepairContext) := do
  require (draft.origin = .synthesized)
    (.valueError "caller supplied brief origin must be SYNTHESIZED")
  require (packet.cutoff ≤ checkpointedAt)
    (.valueError "validation checkpoint cannot precede the evidence cutoff")
  let packetHash ← stagedPacketHash packet ["AWAITING_SYNTHESIS", "VALIDATING"]
  let stored ← ofOption .lookupError (← load packet.run.runId)
  let previous ← loadLatestCheckpointTelemetry readers stored
  let recorder ← restoreTelemetry (telemetry.getD .fresh)
    "telemetry contains unsupported measurement keys" previous
  validateOn readers u packet draft checkpointedAt recorder elapsedMs packetHash stored

/-! ## Published bundles -/

/-- `compose_publication_context`. -/
def composeContext (run : RunContext) (c : RunCheckpoint) : RunContext :=
  run.withStatuses c.executionStatus c.dataQualityStatus c.deliveryStatus

/-- `PublishedRunBundle(...)`; `none` is the refusal of its contents. -/
def publishedBundle (run : RunContext) (contents : List (String × Json)) (markdown : String) :
    Option PublishedRunBundle :=
  if contents.all fun entry => isArtifactValue entry.2 then
    (FrozenMap.ofDict contents).map fun bundle =>
      { run := run
        bundle := bundle
        reportMarkdown := markdown
        markdownSha256 := some (sha256 (encode markdown)) }
  else none

/-- `_telemetry_bundle_fields`. -/
def telemetryFields (telemetry : PerformanceTelemetry) (digest : String) :
    List (String × Json) :=
  [("performance_telemetry", telemetry.toJson.sorted),
    ("performance_telemetry_sha256", .str digest)]

/-- The fields of an object, if it is one. -/
def fieldsOf : Json → List (String × Json)
  | .obj fields => fields
  | _ => []

/-- `_published_telemetry`, which raises or returns. -/
def publishedTelemetry (readers : Readers) (b : PublishedRunBundle) (c : RunCheckpoint) :
    Service Unit := do
  let value := (b.bundle.get? "performance_telemetry").filter (· ≠ .null)
  let digest := (b.bundle.get? "performance_telemetry_sha256").filter (· ≠ .null)
  if value = none ∧ digest = none ∧ c.telemetryNames = [] then .done ()
  else do
    let apart := .valueError "published telemetry value and checkpoint hash must appear together"
    let value ← ofOption apart value
    let digest ← ofOption apart (digest.bind fun j => match j with
      | .str text => some text
      | _ => none)
    let name ← ofOption apart (sole c.telemetryNames)
    require (c.artifactHashes.get? name = some digest ∧ name = telemetryName digest)
      (.valueError "published telemetry differs from its checkpoint hash")
    let telemetry ← ofOption (.valueError "published telemetry is malformed")
      (readers.telemetryValue value)
    require (sha256 telemetry.bytes = digest)
      (.valueError "published telemetry does not match its checkpoint hash")

/-- The three reads of a run already published. -/
def readPublished (r : RunId) (differs : ServiceError) :
    Service (PublishedRunBundle × String × PublishedArtifact) := do
  let bundle ← ask (.loadPublishedBundle r)
  let report ← ask (.getReport r)
  let artifact ← ask (.getPublishedArtifact r)
  let bundle ← ofOption differs bundle
  let report ← ofOption differs report
  let artifact ← ofOption differs artifact
  return (bundle, report, artifact)

/-- The last entry is `PUBLISHED`. -/
def EndsPublished (stored : StoredRun) : Prop :=
  ∃ last ∈ stored.checkpoints.getLast?, last.stage = "PUBLISHED"

instance instDecidableEndsPublished (stored : StoredRun) : Decidable (EndsPublished stored) :=
  inferInstanceAs (Decidable (∃ last ∈ stored.checkpoints.getLast?, _))

/-- `_publication_recorder`. -/
def publicationRecorder (readers : Readers) (stored : StoredRun) :
    Service RunTelemetryRecorder := do
  restoreTelemetry .fresh "initial telemetry contains unsupported measurement keys"
    (← loadLatestCheckpointTelemetry readers stored)

/-- `_bind_publication_telemetry`. -/
def bindPublicationTelemetry (c : RunCheckpoint) (recorder : RunTelemetryRecorder) :
    Service (RunCheckpoint × PerformanceTelemetry × String) := do
  let telemetry ← ofOption (.valueError "validation_attempts must be between zero and three")
    (recorder.snapshot 0 0)
  let bound ← checkpointWithTelemetry c telemetry
  return (bound, telemetry, sha256 telemetry.bytes)

/-- The telemetry bound to a `PUBLISHED` entry that is already there. -/
def stagedTelemetry (readers : Readers) (c : RunCheckpoint) :
    Service (PerformanceTelemetry × String) := do
  let telemetry ← ofOption (.valueError "published checkpoint is missing staged telemetry")
    (← loadCheckpointTelemetry readers c)
  return (telemetry, sha256 telemetry.bytes)

/-- The `PUBLISHED` entry of a packet. -/
def publishedCheckpoint (packet : ResearchPacket) (checkpointedAt : UtcDatetime)
    (hashes : FrozenMap String) : RunCheckpoint :=
  { runId := packet.run.runId
    stage := "PUBLISHED"
    executionStatus := .published
    dataQualityStatus := packet.run.dataQualityStatus
    deliveryStatus := packet.run.deliveryStatus
    writtenAt := checkpointedAt
    evidenceCutoffAt := packet.run.evidenceCutoffAt
    artifactHashes := hashes
    resumable := false }

/-! ## `publish_validated_brief` -/

/-- A retry of `publish_validated_brief` on a published run. -/
def republishValidated (readers : Readers) (packet : ResearchPacket) (stored : StoredRun) :
    Service PublishedArtifact := do
  let r := packet.run.runId
  let differs := .valueError "published artifact origin or frozen packet differs"
  let (bundle, report, artifact) ← readPublished r differs
  require (bundle.bundle.get? "research_packet" = some packet.toJson.sorted ∧
      ((bundle.bundle.get? "brief_draft").map fieldsOf).bind (List.lookup "origin") =
        some (.str BriefOrigin.synthesized.value) ∧
      bundle.markdownSha256 = some (sha256 (encode report)) ∧ EndsPublished stored) differs
  let last ← ofOption .lookupError stored.checkpoints.getLast?
  publishedTelemetry readers bundle last
  return artifact

/-- The bundle of a validated brief. -/
def validatedContents (packet : ResearchPacket) (draft : ResearchBriefDraft)
    (report : ValidationReport) (telemetry : PerformanceTelemetry) (digest : String) :
    List (String × Json) :=
  [("research_packet", packet.toJson.sorted), ("brief_draft", draft.toJson.sorted),
    ("validation_report", report.toJson.sorted)] ++ telemetryFields telemetry digest

/-- The `PUBLISHED` entry of a validated brief, its telemetry and its report: written now,
or already there. -/
def concludeValidated (readers : Readers) (u : CharacterDatabase) (packet : ResearchPacket)
    (checkpointedAt : UtcDatetime) (elapsedMs : Nat) (stored : StoredRun)
    (latest : RunCheckpoint) (draft : ResearchBriefDraft) (report : ValidationReport) :
    Service (RunCheckpoint × PerformanceTelemetry × String × String) :=
  if latest.stage = "VALIDATING" then do
    let recorder ← publicationRecorder readers stored
    let markdown ← Program.ofExcept ServiceError.render
      (renderMarkdownReport u packet draft report)
    let (bound, telemetry, digest) ← bindPublicationTelemetry
      (publishedCheckpoint packet checkpointedAt latest.artifactHashes)
      (recorder.measure .publication elapsedMs)
    checkpointIfCurrent packet.run.runId bound stored.checkpoints.length
    return (bound, telemetry, digest, markdown)
  else do
    let (telemetry, digest) ← stagedTelemetry readers latest
    let markdown ← Program.ofExcept ServiceError.render
      (renderMarkdownReport u packet draft report)
    return (latest, telemetry, digest, markdown)

/-- `publish_validated_brief`. -/
def publishValidatedBrief (readers : Readers) (u : CharacterDatabase) (packet : ResearchPacket)
    (checkpointedAt : UtcDatetime) (elapsedMs : Nat) (io : PublishIo) :
    Service PublishedArtifact := do
  let r := packet.run.runId
  let unrecorded := .valueError "publication requires a valid recorded attempt"
  let stored ← ofOption unrecorded (← load r)
  let latest ← ofOption unrecorded stored.checkpoints.getLast?
  if stored.published = true then republishValidated readers packet stored
  else do
    require (packet.cutoff ≤ checkpointedAt)
      (.valueError "publication checkpoint cannot precede the evidence cutoff")
    let _ ← stagedPacketHash packet ["VALIDATING", "PUBLISHED"]
    let last ← ofOption unrecorded (attemptsRead stored).getLast?
    require (latest.stage ∈ ["VALIDATING", "PUBLISHED"]) unrecorded
    let (draft, report) ← recordedAttempt readers last
    require (report.isValid = true ∧ draft.origin = .synthesized ∧
      report.validationAttempt = (attemptsRead stored).length ∧ report.runId = packet.runId ∧
      latest.writtenAt ≤ checkpointedAt) unrecorded
    let (bound, telemetry, digest, markdown) ← concludeValidated readers u packet
      checkpointedAt elapsedMs stored latest draft report
    require (bound.runId = stored.run.runId)
      (.valueError "checkpoint run_id must match the publication RunContext")
    let bundle ← ofOption .tooLarge (publishedBundle (composeContext stored.run bound)
      (validatedContents packet draft report telemetry digest) markdown)
    publishAtomically bundle io

/-! ## `publish_reduced_report` -/

/-- A retry of `publish_reduced_report` on a published run. -/
def republishReduced (readers : Readers) (u : CharacterDatabase) (packet : ResearchPacket)
    (reason : ReducedReportReason) (stored : StoredRun) : Service PublishedArtifact := do
  let differs := .valueError "published reduced report differs from packet or reason"
  let (bundle, report, artifact) ← readPublished packet.run.runId differs
  require (bundle.bundle.get? "brief_origin" =
        some (.str BriefOrigin.deterministicReduced.value) ∧
      bundle.bundle.get? "reduced_report_reason" = some (.str reason.value) ∧
      bundle.bundle.get? "research_packet" = some packet.toJson.sorted ∧
      report = renderReducedReport u packet reason ∧ EndsPublished stored) differs
  let last ← ofOption .lookupError stored.checkpoints.getLast?
  publishedTelemetry readers bundle last
  return artifact

/-- The loop over the recorded attempts, from the one number `index`. -/
def reducedReports (readers : Readers) (u : CharacterDatabase) (packet : ResearchPacket) :
    Nat → List RunCheckpoint → Service (List ValidationReport)
  | _, [] => .done []
  | index, c :: rest => do
    let (draft, report) ← recordedAttempt readers c
    let differs := .valueError "recorded validation differs from frozen packet"
    require (draft.origin = .synthesized ∧ report.validationAttempt = index) differs
    let verdict ← Program.ofExcept ServiceError.validation
      (validateResearchBrief u packet draft index)
    require (report = verdict) differs
    let reports ← reducedReports readers u packet (index + 1) rest
    return report :: reports

/-- `reason.value.encode("ascii")`. -/
def reasonBytes (reason : ReducedReportReason) : Bytes := encode reason.value

/-- An entry of `reduced_plans`. -/
def reducedPlan (reason : ReducedReportReason) (plan : TradePlanDraft) : Json :=
  .obj [("plan_id", identifierJson plan.planId), ("reason", .str reason.value),
    ("status", .str "BLOCKED")]

/-- The bundle of a reduced report. -/
def reducedContents (u : CharacterDatabase) (packet : ResearchPacket)
    (reason : ReducedReportReason) (reports : List ValidationReport)
    (telemetry : PerformanceTelemetry) (digest : String) : List (String × Json) :=
  [("research_packet", packet.toJson.sorted),
    ("brief_origin", .str BriefOrigin.deterministicReduced.value),
    ("reduced_report_reason", .str reason.value),
    ("reduced_report_staged_sha256", .str (sha256 (renderReducedReportBase u packet))),
    ("reduced_plans", .arr (packet.deterministicPlanInputs.map (reducedPlan reason))),
    ("validation_reports", .arr (reports.map fun report => report.toJson.sorted))] ++
    telemetryFields telemetry digest

/-- The `PUBLISHED` entry of a reduced report and its telemetry: written now, or already
there. -/
def concludeReduced (readers : Readers) (packet : ResearchPacket) (reason : ReducedReportReason)
    (checkpointedAt : UtcDatetime) (elapsedMs : Nat) (stored : StoredRun)
    (latest : RunCheckpoint) : Service (RunCheckpoint × PerformanceTelemetry × String) :=
  let r := packet.run.runId
  if latest.stage = "PUBLISHED" then do
    let staged ← readArtifact r "reduced_reason"
    require (staged = some (reasonBytes reason) ∧
        latest.artifactHashes.get? "reduced_reason" = some (sha256 (reasonBytes reason)))
      (.valueError "published checkpoint has another reduced reason")
    let (telemetry, digest) ← stagedTelemetry readers latest
    return (latest, telemetry, digest)
  else do
    let recorder ← publicationRecorder readers stored
    let reasonHash ← stageArtifact r "reduced_reason" (reasonBytes reason)
    let hashes ← ofOption .tooLarge (latest.artifactHashes.set "reduced_reason" reasonHash)
    let (bound, telemetry, digest) ← bindPublicationTelemetry
      (publishedCheckpoint packet checkpointedAt hashes) (recorder.measure .publication elapsedMs)
    checkpointIfCurrent r bound stored.checkpoints.length
    return (bound, telemetry, digest)

/-- `publish_reduced_report`. -/
def publishReducedReport (readers : Readers) (u : CharacterDatabase) (packet : ResearchPacket)
    (reason : ReducedReportReason) (checkpointedAt : UtcDatetime) (elapsedMs : Nat)
    (io : PublishIo) : Service PublishedArtifact := do
  let r := packet.run.runId
  require (packet.run.dataQualityStatus ≠ .fail)
    (.valueError "FAIL quality requires the operational report path")
  let unstaged := .valueError "reduced publication requires a frozen staged run"
  let stored ← ofOption unstaged (← load r)
  let latest ← ofOption unstaged stored.checkpoints.getLast?
  if stored.published = true then republishReduced readers u packet reason stored
  else do
    require (packet.cutoff ≤ checkpointedAt)
      (.valueError "reduced publication cannot precede the evidence cutoff")
    let _ ← stagedPacketHash packet ["AWAITING_SYNTHESIS", "VALIDATING", "PUBLISHED"]
    require (latest.writtenAt ≤ checkpointedAt)
      (.valueError "reduced publication cannot precede current checkpoint")
    let base := renderReducedReportBase u packet
    let staged ← readArtifact r "reduced_report"
    require (staged = some base ∧
        latest.artifactHashes.get? "reduced_report" = some (sha256 base))
      (.valueError "staged reduced report differs from frozen packet")
    let reports ← reducedReports readers u packet 1 (attemptsRead stored)
    require (∀ report ∈ reports, report.isValid = false)
      (.valueError "a valid recorded brief cannot use reduced publication")
    require (reports.length = 3 → reason = .validationRepairExhausted)
      (.valueError "exhausted validation requires the matching reduced reason")
    require (reason = .validationRepairExhausted → reports.length = 3)
      (.valueError "validation repairs are not exhausted")
    let (bound, telemetry, digest) ← concludeReduced readers packet reason checkpointedAt
      elapsedMs stored latest
    require (bound.runId = stored.run.runId)
      (.valueError "checkpoint run_id must match the publication RunContext")
    let bundle ← ofOption .tooLarge (publishedBundle (composeContext stored.run bound)
      (reducedContents u packet reason reports telemetry digest)
      (renderReducedReport u packet reason))
    publishAtomically bundle io

/-! ## `publish_operational_report` -/

/-- `reason.value.encode("ascii")`. -/
def failureBytes (reason : ErrorCode) : Bytes := encode reason.value

/-- A retry of `publish_operational_report` on a published run. -/
def republishOperational (readers : Readers) (run : RunContext) (reason : ErrorCode)
    (stored : StoredRun) : Service PublishedArtifact := do
  let differs := .valueError "published operational report differs from run or reason"
  let (bundle, report, artifact) ← readPublished run.runId differs
  let last ← ofOption .lookupError stored.checkpoints.getLast?
  publishedTelemetry readers bundle last
  require ((bundle.bundle.without fun key =>
          key ∈ ["performance_telemetry", "performance_telemetry_sha256"]).items =
        [("brief_origin", .str BriefOrigin.operational.value),
          ("failure_code", .str reason.value)] ∧
      report = renderOperationalReport run reason ∧ EndsPublished stored) differs
  return artifact

/-- The bundle of an operational report. -/
def operationalContents (reason : ErrorCode) (telemetry : PerformanceTelemetry)
    (digest : String) : List (String × Json) :=
  [("brief_origin", .str BriefOrigin.operational.value), ("failure_code", .str reason.value)] ++
    telemetryFields telemetry digest

/-- The packet check of `publish_operational_report`. -/
def PacketExcused (stored : StoredRun) (reason : ErrorCode) (staged : Option Bytes) : Prop :=
  stored.packetHash = none ∧ staged = none ∨
  reason = .missedWindow ∧ stored.packetHash.isSome ∧ staged.isSome ∧
    staged.map sha256 = stored.packetHash

instance instDecidablePacketExcused (stored : StoredRun) (reason : ErrorCode)
    (staged : Option Bytes) : Decidable (PacketExcused stored reason staged) :=
  inferInstanceAs (Decidable (_ ∨ _))

/-- The `PUBLISHED` entry of an operational report. -/
def operationalCheckpoint (run : RunContext) (stored : StoredRun) (checkpointedAt : UtcDatetime)
    (hashes : FrozenMap String) : RunCheckpoint :=
  { runId := run.runId
    stage := "PUBLISHED"
    executionStatus := .published
    dataQualityStatus := .fail
    deliveryStatus := run.deliveryStatus
    writtenAt := checkpointedAt
    evidenceCutoffAt := stored.evidenceCutoffAt
    artifactHashes := hashes
    resumable := false }

/-- The `PUBLISHED` entry of an operational report and its telemetry: written now, or
already there. -/
def concludeOperational (readers : Readers) (run : RunContext) (reason : ErrorCode)
    (checkpointedAt : UtcDatetime) (telemetry : Option RunTelemetryRecorder) (elapsedMs : Nat)
    (stored : StoredRun) (latest : RunCheckpoint) :
    Service (RunCheckpoint × PerformanceTelemetry × String) :=
  if latest.stage = "PUBLISHED" then do
    let another := .valueError "published checkpoint has another operational reason"
    require (latest.artifactHashes.get? "operational_reason" =
      some (sha256 (failureBytes reason))) another
    let staged ← readArtifact run.runId "operational_reason"
    require (staged = some (failureBytes reason)) another
    let (telemetry, digest) ← stagedTelemetry readers latest
    return (latest, telemetry, digest)
  else do
    require (latest.stage ∈ preSynthesisStages ∧ latest.executionStatus = run.executionStatus)
      (.valueError "operational publication requires pre-synthesis state")
    let reasonHash ← stageArtifact run.runId "operational_reason" (failureBytes reason)
    let recorder ← match telemetry with
      | some recorder => .done recorder
      | none => publicationRecorder readers stored
    let hashes ← ofOption .tooLarge (latest.artifactHashes.set "operational_reason" reasonHash)
    let (bound, telemetry, digest) ← bindPublicationTelemetry
      (operationalCheckpoint run stored checkpointedAt hashes)
      (recorder.measure .publication elapsedMs)
    checkpointIfCurrent run.runId bound stored.checkpoints.length
    return (bound, telemetry, digest)

/-- `publish_operational_report`. -/
def publishOperationalReport (readers : Readers) (run : RunContext) (reason : ErrorCode)
    (checkpointedAt : UtcDatetime) (telemetry : Option RunTelemetryRecorder) (elapsedMs : Nat)
    (io : PublishIo) : Service PublishedArtifact := do
  let uncheckpointed := .valueError "operational publication requires a checkpointed run"
  let stored ← ofOption uncheckpointed (← load run.runId)
  let latest ← ofOption uncheckpointed stored.checkpoints.getLast?
  require (run.dataQualityStatus = .fail)
    (.valueError "operational publication requires FAIL quality")
  require (stored.run.withStatuses run.executionStatus run.dataQualityStatus
      run.deliveryStatus = run)
    (.valueError "operational RunContext differs from staged identity")
  if stored.published = true then republishOperational readers run reason stored
  else do
    require (∀ cutoff ∈ stored.evidenceCutoffAt,
        run.evidenceCutoffAt = some cutoff ∧ cutoff ≤ checkpointedAt)
      (.valueError "operational report differs from frozen cutoff")
    let packet ← readArtifact run.runId "research_packet"
    require (latest.dataQualityStatus = .fail ∧ latest.deliveryStatus = run.deliveryStatus ∧
        latest.writtenAt ≤ checkpointedAt ∧ PacketExcused stored reason packet)
      (.valueError "operational publication requires matching FAIL state without packet")
    let (bound, telemetry, digest) ← concludeOperational readers run reason checkpointedAt
      telemetry elapsedMs stored latest
    require (bound.runId = stored.run.runId)
      (.valueError "checkpoint run_id must match the publication RunContext")
    let bundle ← ofOption .tooLarge (publishedBundle (composeContext stored.run bound)
      (operationalContents reason telemetry digest) (renderOperationalReport run reason))
    publishAtomically bundle io

end Service

end FinanceResearch
