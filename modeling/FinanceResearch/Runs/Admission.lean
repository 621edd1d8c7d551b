import FinanceResearch.Runs.RunDir

/-!
# Checkpoint admission

`_checkpoint_unlocked` and `_operational_publication_valid`. Before the cutoff
is frozen a checkpoint is refused only as an unbound `PUBLISHED`; afterwards it
must satisfy one of five rules: the freeze itself, the quality evaluation, a
retry over the frozen packet (which includes both publications of a packet), an
operational publication, or a preparation failure.

Each rule is a structure whose fields are the source's conjuncts, in its order
where the order does not matter to the outcome. Mirroring notes:
- `stored.checkpoints[-1]` on an empty log and `artifact_hashes[...]` on an
  absent name raise in the source; a rule that reads them is false here, and
  the checkpoint is refused either way.
- The source names `telemetry_names` the names with the telemetry prefix; the
  *business* names are the others. Some conditions range over all names and
  some over the business names only, as in the source.
-/

namespace FinanceResearch

open Calendar (UtcDatetime)

/-- `name.startswith(prefix)`. -/
def startsWith (name pre : String) : Bool := pre.toList.isPrefixOf name.toList

/-- Equality of the sets two name lists denote. -/
def SameNames (xs ys : List String) : Prop := xs ⊆ ys ∧ ys ⊆ xs

instance (xs ys : List String) : Decidable (SameNames xs ys) :=
  inferInstanceAs (Decidable (_ ∧ _))

/-- Membership in `{code.value.encode("ascii") for code in ErrorCode}`. -/
def IsErrorCode (payload : Bytes) : Prop := ∃ code ∈ ErrorCode.all, encode code.value = payload

instance (payload : Bytes) : Decidable (IsErrorCode payload) :=
  inferInstanceAs (Decidable (∃ code ∈ ErrorCode.all, _))

namespace RunCheckpoint

def isTelemetry (name : String) : Bool := startsWith name "performance_telemetry_"

def telemetryNames (c : RunCheckpoint) : List String := c.artifactHashes.names.filter isTelemetry

def businessNames (c : RunCheckpoint) : List String :=
  c.artifactHashes.names.filter fun name => !isTelemetry name

def businessHashes (c : RunCheckpoint) : List (String × String) :=
  c.artifactHashes.items.filter fun item => !isTelemetry item.1

/-- Every listed hash is recorded unchanged. -/
def Carries (c : RunCheckpoint) (hashes : List (String × String)) : Prop :=
  ∀ item ∈ hashes, c.artifactHashes.get? item.1 = some item.2

instance (c : RunCheckpoint) (hashes : List (String × String)) : Decidable (c.Carries hashes) :=
  inferInstanceAs (Decidable (∀ item ∈ hashes, _))

/-- `telemetry_artifacts_valid`: at most one telemetry artifact, named by its hash. -/
def TelemetryArtifactsValid (c : RunCheckpoint) : Prop :=
  c.telemetryNames.length ≤ 1 ∧
  ∀ name ∈ c.telemetryNames,
    some name = (c.artifactHashes.get? name).map ("performance_telemetry_" ++ ·)

instance (c : RunCheckpoint) : Decidable c.TelemetryArtifactsValid :=
  inferInstanceAs (Decidable (_ ∧ _))

/-- `staged_hashes_valid`: every recorded hash is that of the staged bytes. -/
def StagedHashesValid (c : RunCheckpoint) (d : RunDir) : Prop :=
  ∀ item ∈ c.artifactHashes.items, (d.stagedArtifact item.1).map sha256 = some item.2

instance (c : RunCheckpoint) (d : RunDir) : Decidable (c.StagedHashesValid d) :=
  inferInstanceAs (Decidable (∀ item ∈ c.artifactHashes.items, _))

end RunCheckpoint

namespace StoredRun

/-- `_stored_packet_hash`: the packet hash of the last checkpoint that records one. -/
def packetHash (stored : StoredRun) : Option String :=
  stored.checkpoints.reverse.findSome? fun c => c.artifactHashes.get? "research_packet"

/-- `_latest_statuses`. -/
def latestStatuses (stored : StoredRun) : ExecutionStatus × DataQualityStatus × DeliveryStatus :=
  match stored.checkpoints.getLast? with
  | some latest => (latest.executionStatus, latest.dataQualityStatus, latest.deliveryStatus)
  | none => (stored.run.executionStatus, stored.run.dataQualityStatus, stored.run.deliveryStatus)

/-- `collection_checkpoint`: the last `EVIDENCE_COLLECTED` entry. -/
def collectionCheckpoint (stored : StoredRun) : Option RunCheckpoint :=
  stored.checkpoints.reverse.find? fun c => c.stage = "EVIDENCE_COLLECTED"

/-- How many attempts the log records. -/
def validatingCount (stored : StoredRun) : Nat :=
  stored.checkpoints.countP fun c => c.stage = "VALIDATING"

end StoredRun

/-! ## Facts about the packet that several rules share -/

/-- Some checkpoint records a packet, or one is staged. -/
def HasPacket (d : RunDir) (stored : StoredRun) : Prop :=
  (∃ c ∈ stored.checkpoints, (c.artifactHashes.get? "research_packet").isSome) ∨
  (d.stagedArtifact "research_packet").isSome

instance (d : RunDir) (stored : StoredRun) : Decidable (HasPacket d stored) :=
  inferInstanceAs (Decidable (_ ∨ _))

/-- The staged packet is the recorded one and the staged reason is `MISSED_WINDOW`. -/
def MissedWindowPacket (d : RunDir) (stored : StoredRun) : Prop :=
  d.stagedArtifact "operational_reason" = some (encode ErrorCode.missedWindow.value) ∧
  stored.packetHash.isSome ∧
  (d.stagedArtifact "research_packet").map sha256 = stored.packetHash

instance (d : RunDir) (stored : StoredRun) : Decidable (MissedWindowPacket d stored) :=
  inferInstanceAs (Decidable (_ ∧ _))

/-- `packetless_preparation_failure`. -/
def Packetless (d : RunDir) (stored : StoredRun) : Prop :=
  stored.packetHash = none ∧ d.stagedArtifact "research_packet" = none

instance (d : RunDir) (stored : StoredRun) : Decidable (Packetless d stored) :=
  inferInstanceAs (Decidable (_ ∧ _))

/-- `current_packet_hash`: of the staged packet, unless the log records another. -/
def currentPacketHash (d : RunDir) (stored : StoredRun) : Option String :=
  let current := (d.stagedArtifact "research_packet").map sha256
  if stored.packetHash.isSome ∧ stored.packetHash ≠ current then none else current

/-! ## Operational publication -/

def preSynthesisStages : List String :=
  ["CREATED", "CONFIG_FROZEN", "PRIOR_PLANS_OBSERVED", "EVIDENCE_COLLECTED", "EVIDENCE_FROZEN",
   "NORMALIZED", "QUALITY_EVALUATED", "ANALYZED", "PACKET_FROZEN", "COLLECTING", "NORMALIZING",
   "ANALYZING", "PREPARATION_FAILED"]

/-- `_operational_publication_valid`, after the check that the log is nonempty. -/
structure OperationalPublication (d : RunDir) (stored : StoredRun) (c previous : RunCheckpoint) :
    Prop where
  stage : c.stage = "PUBLISHED"
  execution : c.executionStatus = .published
  quality : c.dataQualityStatus = .fail
  final : c.resumable = false
  cutoff : c.evidenceCutoffAt = stored.evidenceCutoffAt
  ordered : previous.writtenAt ≤ c.writtenAt
  previousQuality : previous.dataQualityStatus = .fail
  delivery : c.deliveryStatus = previous.deliveryStatus
  previousStage : previous.stage ∈ preSynthesisStages
  packet : HasPacket d stored → MissedWindowPacket d stored
  names : SameNames c.businessNames ("operational_reason" :: previous.businessNames)
  carried : c.Carries previous.businessHashes
  telemetry : c.TelemetryArtifactsValid
  staged : c.StagedHashesValid d
  reason : ∃ payload ∈ d.stagedArtifact "operational_reason",
    IsErrorCode payload ∧
    c.artifactHashes.get? "operational_reason" = some (sha256 payload)

instance (d : RunDir) (stored : StoredRun) (c previous : RunCheckpoint) :
    Decidable (OperationalPublication d stored c previous) :=
  decidable_of_iff
    (c.stage = "PUBLISHED" ∧ c.executionStatus = .published ∧ c.dataQualityStatus = .fail ∧
      c.resumable = false ∧ c.evidenceCutoffAt = stored.evidenceCutoffAt ∧
      previous.writtenAt ≤ c.writtenAt ∧ previous.dataQualityStatus = .fail ∧
      c.deliveryStatus = previous.deliveryStatus ∧ previous.stage ∈ preSynthesisStages ∧
      (HasPacket d stored → MissedWindowPacket d stored) ∧
      SameNames c.businessNames ("operational_reason" :: previous.businessNames) ∧
      c.Carries previous.businessHashes ∧ c.TelemetryArtifactsValid ∧ c.StagedHashesValid d ∧
      ∃ payload ∈ d.stagedArtifact "operational_reason",
        IsErrorCode payload ∧
        c.artifactHashes.get? "operational_reason" = some (sha256 payload))
    ⟨fun ⟨h1, h2, h3, h4, h5, h6, h7, h8, h9, h10, h11, h12, h13, h14, h15⟩ =>
      ⟨h1, h2, h3, h4, h5, h6, h7, h8, h9, h10, h11, h12, h13, h14, h15⟩,
     fun h => ⟨h.stage, h.execution, h.quality, h.final, h.cutoff, h.ordered, h.previousQuality,
      h.delivery, h.previousStage, h.packet, h.names, h.carried, h.telemetry, h.staged, h.reason⟩⟩

/-- `_operational_publication_valid`. -/
def OperationalPublicationValid (d : RunDir) (stored : StoredRun) (c : RunCheckpoint) : Prop :=
  ∃ previous ∈ stored.checkpoints.getLast?, OperationalPublication d stored c previous

instance (d : RunDir) (stored : StoredRun) (c : RunCheckpoint) :
    Decidable (OperationalPublicationValid d stored c) :=
  inferInstanceAs (Decidable (∃ previous ∈ stored.checkpoints.getLast?, _))

/-! ## The rules after the freeze -/

/-- `valid_freeze`: it does not look at the previous stage. -/
structure ValidFreeze (stored : StoredRun) (c : RunCheckpoint) (cutoff : UtcDatetime) : Prop where
  stage : c.stage = "EVIDENCE_FROZEN"
  statuses : (c.executionStatus, c.dataQualityStatus, c.deliveryStatus) = stored.latestStatuses
  written : c.writtenAt = cutoff
  final : c.resumable = false
  noArtifacts : c.artifactHashes.items = []

instance (stored : StoredRun) (c : RunCheckpoint) (cutoff : UtcDatetime) :
    Decidable (ValidFreeze stored c cutoff) :=
  decidable_of_iff
    (c.stage = "EVIDENCE_FROZEN" ∧
      (c.executionStatus, c.dataQualityStatus, c.deliveryStatus) = stored.latestStatuses ∧
      c.writtenAt = cutoff ∧ c.resumable = false ∧ c.artifactHashes.items = [])
    ⟨fun ⟨h1, h2, h3, h4, h5⟩ => ⟨h1, h2, h3, h4, h5⟩,
     fun h => ⟨h.stage, h.statuses, h.written, h.final, h.noArtifacts⟩⟩

/-- `valid_quality_evaluation`. -/
structure ValidQualityEvaluation (d : RunDir) (stored : StoredRun) (c previous : RunCheckpoint)
    (cutoff : UtcDatetime) : Prop where
  stage : c.stage = "QUALITY_EVALUATED"
  execution : c.executionStatus = .analyzing
  final : c.resumable = false
  written : cutoff ≤ c.writtenAt
  previousStage : previous.stage = "EVIDENCE_FROZEN"
  delivery : c.deliveryStatus = previous.deliveryStatus
  collection : ∃ collected ∈ stored.collectionCheckpoint,
    collected.evidenceCutoffAt = none ∧ collected.resumable = true ∧
    SameNames collected.businessNames ["market_data_collection"] ∧
    c.artifactHashes.get? "market_data_collection" =
      collected.artifactHashes.get? "market_data_collection"
  names : SameNames c.businessNames ["market_data_collection", "data_quality"]
  telemetry : c.TelemetryArtifactsValid
  noPacket : d.stagedArtifact "research_packet" = none
  staged : c.StagedHashesValid d

instance (d : RunDir) (stored : StoredRun) (c previous : RunCheckpoint) (cutoff : UtcDatetime) :
    Decidable (ValidQualityEvaluation d stored c previous cutoff) :=
  decidable_of_iff
    (c.stage = "QUALITY_EVALUATED" ∧ c.executionStatus = .analyzing ∧ c.resumable = false ∧
      cutoff ≤ c.writtenAt ∧ previous.stage = "EVIDENCE_FROZEN" ∧
      c.deliveryStatus = previous.deliveryStatus ∧
      (∃ collected ∈ stored.collectionCheckpoint,
        collected.evidenceCutoffAt = none ∧ collected.resumable = true ∧
        SameNames collected.businessNames ["market_data_collection"] ∧
        c.artifactHashes.get? "market_data_collection" =
          collected.artifactHashes.get? "market_data_collection") ∧
      SameNames c.businessNames ["market_data_collection", "data_quality"] ∧
      c.TelemetryArtifactsValid ∧ d.stagedArtifact "research_packet" = none ∧
      c.StagedHashesValid d)
    ⟨fun ⟨h1, h2, h3, h4, h5, h6, h7, h8, h9, h10, h11⟩ =>
      ⟨h1, h2, h3, h4, h5, h6, h7, h8, h9, h10, h11⟩,
     fun h => ⟨h.stage, h.execution, h.final, h.written, h.previousStage, h.delivery,
      h.collection, h.names, h.telemetry, h.noPacket, h.staged⟩⟩

/-- `validation_artifacts`: one draft, one report and at least one more artifact
of the packet. -/
structure ValidationArtifacts (c : RunCheckpoint) : Prop where
  drafts : (c.artifactHashes.names.filter (startsWith · "brief_draft_")).length = 1
  reports : (c.artifactHashes.names.filter (startsWith · "validation_report_")).length = 1
  count : c.businessNames.length = 3 ∨ c.businessNames.length = 4
  known : ∀ name ∈ c.businessNames,
    name ∈ ["research_packet", "reduced_report"] ∨ startsWith name "brief_draft_" = true ∨
    startsWith name "validation_report_" = true

instance (c : RunCheckpoint) : Decidable (ValidationArtifacts c) :=
  decidable_of_iff
    ((c.artifactHashes.names.filter (startsWith · "brief_draft_")).length = 1 ∧
      (c.artifactHashes.names.filter (startsWith · "validation_report_")).length = 1 ∧
      (c.businessNames.length = 3 ∨ c.businessNames.length = 4) ∧
      ∀ name ∈ c.businessNames,
        name ∈ ["research_packet", "reduced_report"] ∨ startsWith name "brief_draft_" = true ∨
        startsWith name "validation_report_" = true)
    ⟨fun ⟨h1, h2, h3, h4⟩ => ⟨h1, h2, h3, h4⟩, fun h => ⟨h.drafts, h.reports, h.count, h.known⟩⟩

/-- `reduced_publication`. -/
structure ReducedPublication (c previous : RunCheckpoint) : Prop where
  stage : c.stage = "PUBLISHED"
  previousStage : previous.stage ∈ ["AWAITING_SYNTHESIS", "VALIDATING"]
  hasReduced : "reduced_report" ∈ previous.artifactHashes.names
  names : SameNames c.businessNames ("reduced_reason" :: previous.businessNames)
  carried : c.Carries previous.businessHashes
  telemetry : c.TelemetryArtifactsValid

instance (c previous : RunCheckpoint) : Decidable (ReducedPublication c previous) :=
  decidable_of_iff
    (c.stage = "PUBLISHED" ∧ previous.stage ∈ ["AWAITING_SYNTHESIS", "VALIDATING"] ∧
      "reduced_report" ∈ previous.artifactHashes.names ∧
      SameNames c.businessNames ("reduced_reason" :: previous.businessNames) ∧
      c.Carries previous.businessHashes ∧ c.TelemetryArtifactsValid)
    ⟨fun ⟨h1, h2, h3, h4, h5, h6⟩ => ⟨h1, h2, h3, h4, h5, h6⟩,
     fun h => ⟨h.stage, h.previousStage, h.hasReduced, h.names, h.carried, h.telemetry⟩⟩

/-- The artifact sets a packet checkpoint without an attempt may record. -/
def PacketArtifacts (c : RunCheckpoint) : Prop :=
  SameNames c.businessNames ["research_packet"] ∨
  SameNames c.businessNames ["research_packet", "reduced_report"]

instance (c : RunCheckpoint) : Decidable (PacketArtifacts c) :=
  inferInstanceAs (Decidable (_ ∨ _))

/-- The artifacts `valid_retry` admits for each stage. -/
def RetryArtifacts (c previous : RunCheckpoint) : Prop :=
  (c.stage = "AWAITING_SYNTHESIS" ∧ PacketArtifacts c) ∨
  (c.stage ∈ ["VALIDATING", "PUBLISHED"] ∧
    ((c.stage = "VALIDATING" ∧ PacketArtifacts c) ∨ ValidationArtifacts c ∨
      ReducedPublication c previous))

instance (c previous : RunCheckpoint) : Decidable (RetryArtifacts c previous) :=
  inferInstanceAs (Decidable (_ ∨ _))

/-- The stage each `valid_retry` stage may follow. -/
def RetrySuccession (c previous : RunCheckpoint) : Prop :=
  (c.stage = "AWAITING_SYNTHESIS" ∧ previous.stage ∈ ["EVIDENCE_FROZEN", "QUALITY_EVALUATED"]) ∨
  (c.stage = "VALIDATING" ∧ previous.stage ∈ ["AWAITING_SYNTHESIS", "VALIDATING"]) ∨
  (c.stage = "PUBLISHED" ∧
    ((previous.stage = "VALIDATING" ∧ SameNames c.businessNames previous.businessNames ∧
        c.Carries previous.businessHashes) ∨
      ReducedPublication c previous))

instance (c previous : RunCheckpoint) : Decidable (RetrySuccession c previous) :=
  inferInstanceAs (Decidable (_ ∨ _))

/-- `valid_retry`. -/
structure ValidRetry (d : RunDir) (stored : StoredRun) (c previous : RunCheckpoint) : Prop where
  stage : c.stage ∈ ["AWAITING_SYNTHESIS", "VALIDATING", "PUBLISHED"]
  execution : c.executionStatus.value = c.stage
  final : c.resumable = false
  notFailed : ¬ (c.stage = "AWAITING_SYNTHESIS" ∧ previous.stage = "QUALITY_EVALUATED" ∧
    c.dataQualityStatus = .fail)
  artifacts : RetryArtifacts c previous
  staged : c.StagedHashesValid d
  telemetry : c.TelemetryArtifactsValid
  packet : ∃ digest ∈ currentPacketHash d stored,
    c.artifactHashes.get? "research_packet" = some digest
  reduced : previous.artifactHashes.get? "reduced_report" = none ∨
    c.artifactHashes.get? "reduced_report" = previous.artifactHashes.get? "reduced_report"
  statuses : (c.dataQualityStatus, c.deliveryStatus) = stored.latestStatuses.2
  attempts : c.stage = "VALIDATING" → ValidationArtifacts c → stored.validatingCount < 3
  succession : RetrySuccession c previous

instance (d : RunDir) (stored : StoredRun) (c previous : RunCheckpoint) :
    Decidable (ValidRetry d stored c previous) :=
  decidable_of_iff
    (c.stage ∈ ["AWAITING_SYNTHESIS", "VALIDATING", "PUBLISHED"] ∧
      c.executionStatus.value = c.stage ∧ c.resumable = false ∧
      ¬ (c.stage = "AWAITING_SYNTHESIS" ∧ previous.stage = "QUALITY_EVALUATED" ∧
        c.dataQualityStatus = .fail) ∧
      RetryArtifacts c previous ∧ c.StagedHashesValid d ∧ c.TelemetryArtifactsValid ∧
      (∃ digest ∈ currentPacketHash d stored,
        c.artifactHashes.get? "research_packet" = some digest) ∧
      (previous.artifactHashes.get? "reduced_report" = none ∨
        c.artifactHashes.get? "reduced_report" = previous.artifactHashes.get? "reduced_report") ∧
      (c.dataQualityStatus, c.deliveryStatus) = stored.latestStatuses.2 ∧
      (c.stage = "VALIDATING" → ValidationArtifacts c → stored.validatingCount < 3) ∧
      RetrySuccession c previous)
    ⟨fun ⟨h1, h2, h3, h4, h5, h6, h7, h8, h9, h10, h11, h12⟩ =>
      ⟨h1, h2, h3, h4, h5, h6, h7, h8, h9, h10, h11, h12⟩,
     fun h => ⟨h.stage, h.execution, h.final, h.notFailed, h.artifacts, h.staged, h.telemetry,
      h.packet, h.reduced, h.statuses, h.attempts, h.succession⟩⟩

/-- `valid_preparation_failure`: here the telemetry names count as names. -/
structure ValidPreparationFailure (d : RunDir) (stored : StoredRun) (c previous : RunCheckpoint) :
    Prop where
  stage : c.stage = "PREPARATION_FAILED"
  origin :
    (previous.stage ∈ ["EVIDENCE_FROZEN", "QUALITY_EVALUATED"] ∧ Packetless d stored) ∨
    (previous.stage ∈ ["AWAITING_SYNTHESIS", "VALIDATING"] ∧ MissedWindowPacket d stored)
  execution : c.executionStatus = previous.executionStatus
  quality : c.dataQualityStatus = .fail
  delivery : c.deliveryStatus = previous.deliveryStatus
  final : c.resumable = false
  names : SameNames c.artifactHashes.names ("operational_reason" :: previous.artifactHashes.names)
  carried : c.Carries previous.artifactHashes.items
  staged : c.StagedHashesValid d
  reason : ∃ payload ∈ d.stagedArtifact "operational_reason", IsErrorCode payload

instance (d : RunDir) (stored : StoredRun) (c previous : RunCheckpoint) :
    Decidable (ValidPreparationFailure d stored c previous) :=
  decidable_of_iff
    (c.stage = "PREPARATION_FAILED" ∧
      ((previous.stage ∈ ["EVIDENCE_FROZEN", "QUALITY_EVALUATED"] ∧ Packetless d stored) ∨
        (previous.stage ∈ ["AWAITING_SYNTHESIS", "VALIDATING"] ∧ MissedWindowPacket d stored)) ∧
      c.executionStatus = previous.executionStatus ∧ c.dataQualityStatus = .fail ∧
      c.deliveryStatus = previous.deliveryStatus ∧ c.resumable = false ∧
      SameNames c.artifactHashes.names ("operational_reason" :: previous.artifactHashes.names) ∧
      c.Carries previous.artifactHashes.items ∧ c.StagedHashesValid d ∧
      ∃ payload ∈ d.stagedArtifact "operational_reason", IsErrorCode payload)
    ⟨fun ⟨h1, h2, h3, h4, h5, h6, h7, h8, h9, h10⟩ =>
      ⟨h1, h2, h3, h4, h5, h6, h7, h8, h9, h10⟩,
     fun h => ⟨h.stage, h.origin, h.execution, h.quality, h.delivery, h.final, h.names,
      h.carried, h.staged, h.reason⟩⟩

/-- One of the five rules admits the checkpoint on a frozen run. -/
def Admitted (d : RunDir) (stored : StoredRun) (c : RunCheckpoint) (cutoff : UtcDatetime) : Prop :=
  ValidFreeze stored c cutoff ∨
  ∃ previous ∈ stored.checkpoints.getLast?,
    ValidQualityEvaluation d stored c previous cutoff ∨ ValidRetry d stored c previous ∨
    OperationalPublication d stored c previous ∨ ValidPreparationFailure d stored c previous

instance (d : RunDir) (stored : StoredRun) (c : RunCheckpoint) (cutoff : UtcDatetime) :
    Decidable (Admitted d stored c cutoff) :=
  inferInstanceAs (Decidable (_ ∨ _))

/-! ## `_checkpoint_unlocked` -/

/-- `_checkpoint_unlocked` on the staging directory of `r`. -/
def RunDir.checkpointUnlocked (r : RunId) (d : RunDir) (c : RunCheckpoint) : Result RunDir :=
  if c.runId ≠ r then .error (.valueError "checkpoint run_id must match the stored run")
  else
    match d.load with
    | none => .error (.valueError "run staging does not exist")
    | some stored =>
      match stored.evidenceCutoffAt with
      | none =>
        if c.stage = "PUBLISHED" ∧ ¬ OperationalPublicationValid d stored c then
          .error (.valueError "operational publication requires a bound failure reason")
        else .ok (d.appendCheckpoint c)
      | some cutoff =>
        if c.evidenceCutoffAt ≠ some cutoff then
          .error (.valueError "EVIDENCE_CUTOFF_VIOLATION: new revision required")
        else if ∃ last ∈ stored.checkpoints.getLast?, c.writtenAt < last.writtenAt then
          .error (.valueError "checkpoint cannot precede current checkpoint")
        else if ¬ Admitted d stored c cutoff then
          .error (.valueError "EVIDENCE_CUTOFF_VIOLATION: new revision required")
        else .ok (d.appendCheckpoint c)

/-- What an accepted checkpoint passed. -/
def Accepts (d : RunDir) (stored : StoredRun) (c : RunCheckpoint) : Prop :=
  match stored.evidenceCutoffAt with
  | none => c.stage = "PUBLISHED" → OperationalPublicationValid d stored c
  | some cutoff =>
    c.evidenceCutoffAt = some cutoff ∧
    (∀ last ∈ stored.checkpoints.getLast?, last.writtenAt ≤ c.writtenAt) ∧
    Admitted d stored c cutoff

/-- Everything an accepted `_checkpoint_unlocked` does, and nothing else is
accepted. -/
theorem checkpointUnlocked_ok_iff {r : RunId} {d d' : RunDir} {c : RunCheckpoint} :
    d.checkpointUnlocked r c = .ok d' ↔
      c.runId = r ∧ (∃ stored, d.load = some stored ∧ Accepts d stored c) ∧
      d' = d.appendCheckpoint c := by
  unfold RunDir.checkpointUnlocked Accepts
  by_cases hid : c.runId = r
  · rw [if_neg (not_not.mpr hid)]
    cases d.load with
    | none => simp
    | some stored =>
      simp only [Option.some.injEq, exists_eq_left', hid, true_and]
      cases stored.evidenceCutoffAt with
      | none =>
        by_cases hpub : c.stage = "PUBLISHED" ∧ ¬ OperationalPublicationValid d stored c
        · simp only [if_pos hpub, reduceCtorEq, false_iff, not_and]
          intro himp
          exact absurd (himp hpub.1) hpub.2
        · have himp : c.stage = "PUBLISHED" → OperationalPublicationValid d stored c :=
            fun hs => not_not.mp fun hn => hpub ⟨hs, hn⟩
          simp only [if_neg hpub, Except.ok.injEq]
          exact ⟨fun h => ⟨himp, h.symm⟩, fun h => h.2.symm⟩
      | some cutoff =>
        by_cases hcut : c.evidenceCutoffAt = some cutoff
        · by_cases hord : ∃ last ∈ stored.checkpoints.getLast?, c.writtenAt < last.writtenAt
          · simp only [hcut, ne_eq, not_true_eq_false, if_false, if_pos hord, reduceCtorEq,
              true_and, false_iff, not_and]
            intro hle
            obtain ⟨last, hlast, hlt⟩ := hord
            exact absurd (hle.1 last hlast) (not_le.mpr hlt)
          · have hle : ∀ last ∈ stored.checkpoints.getLast?, last.writtenAt ≤ c.writtenAt :=
              fun last hlast => not_lt.mp fun hlt => hord ⟨last, hlast, hlt⟩
            simp only [hcut, ne_eq, not_true_eq_false, if_false, if_neg hord, true_and]
            by_cases hadm : Admitted d stored c cutoff
            · simp only [hadm, not_true_eq_false, if_false, Except.ok.injEq, and_true]
              exact ⟨fun h => ⟨hle, h.symm⟩, fun h => h.2.symm⟩
            · simp [hadm]
        · simp [hcut]
  · simp [hid]

end FinanceResearch
