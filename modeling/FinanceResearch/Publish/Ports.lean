import FinanceResearch.Brief.Documents
import FinanceResearch.Lib.Programs
import FinanceResearch.Publish.Reports
import FinanceResearch.Runs.Publication

/-!
# Services over the repository

The application services call the repository through ports
(`application/ports.py`). A service is a program of such calls, so what other services do
between two of them is a matter of the interleaving.

Mirroring notes vs the source:
- Reading a document (`model_validate_json`) is pydantic's and a parameter (`Readers`).
- What the clock measures and what the file system does during a publication are
  arguments of the service.
- An exception names its text where the source gives one; those of pydantic, of a
  `FrozenMap` and of a failed subscript are one constructor each.
-/

namespace FinanceResearch

open Calendar (UtcDatetime)

/-- How a service is refused. -/
inductive ServiceError where
  | valueError (message : String)
  | runtimeError (message : String)
  | store (refusal : StoreError)
  | validation (failure : ValidationFailure)
  | render (failure : RenderFailure)
  | malformed
  | tooLarge
  | lookupError

/-- What pydantic reads a document as; `none` is its `ValidationError`. -/
structure Readers where
  draft : Bytes → Option ResearchBriefDraft
  report : Bytes → Option ValidationReport
  packet : Bytes → Option ResearchPacket
  telemetry : Bytes → Option PerformanceTelemetry
  telemetryValue : Json → Option PerformanceTelemetry
  bundle : Bytes → Option PublishedRunBundle

/-- One call of the repository. -/
inductive Port where
  | load (r : RunId)
  | readStagedArtifact (r : RunId) (name : String)
  | stageArtifact (r : RunId) (name : String) (payload : Bytes)
  | checkpointIfCurrent (r : RunId) (c : RunCheckpoint) (expectedCount : Nat)
  | publishAtomically (b : PublishedRunBundle) (io : PublishIo)
  | loadPublishedBundle (r : RunId)
  | getReport (r : RunId)
  | getPublishedArtifact (r : RunId)

/-- What the call returns, or raises. -/
def Port.Answer : Port → Type
  | .load _ => Option StoredRun
  | .readStagedArtifact _ _ => Result (Option Bytes)
  | .stageArtifact _ _ _ => Result String
  | .checkpointIfCurrent _ _ _ => Result Unit
  | .publishAtomically _ _ => Result PublishedArtifact
  | .loadPublishedBundle _ => Option PublishedRunBundle
  | .getReport _ => Option String
  | .getPublishedArtifact _ => Option PublishedArtifact

/-- `read_staged_artifact`. -/
def Repository.readStagedArtifact (s : Repository) (r : RunId) (name : String) :
    Result (Option Bytes) :=
  if !RunDir.isArtifactName name then
    .error (.valueError "artifact name must be a bounded identifier, not a caller path")
  else .ok ((s.staging.lookup r).bind fun d => d.stagedArtifact name)

/-- The repository after the call, and its answer. -/
def Port.exec (readers : Readers) (s : Repository) : (port : Port) → Repository × port.Answer
  | .load r => (s, s.load r)
  | .readStagedArtifact r name => (s, s.readStagedArtifact r name)
  | .stageArtifact r name payload =>
    let outcome := s.runOp r (.stageArtifact name payload)
    (outcome.1, outcome.2.map fun _ => sha256 payload)
  | .checkpointIfCurrent r c expectedCount => s.runOp r (.checkpointIfCurrent c expectedCount)
  | .publishAtomically b io => s.publish b io
  | .loadPublishedBundle r => (s, s.loadPublishedBundle readers.bundle r)
  | .getReport r => (s, s.getReport r)
  | .getPublishedArtifact r => (s, s.getPublishedArtifact r)

/-- A service that returns an `α`. -/
abbrev Service (α : Type) := Program Port Port.Answer ServiceError α

namespace Service

open Program (ofOption require)

/-- One call. -/
def ask (port : Port) : Service port.Answer := Program.perform port

def load (r : RunId) : Service (Option StoredRun) := ask (.load r)

def readArtifact (r : RunId) (name : String) : Service (Option Bytes) := do
  Program.ofExcept .store (← ask (.readStagedArtifact r name))

def stageArtifact (r : RunId) (name : String) (payload : Bytes) : Service String := do
  Program.ofExcept .store (← ask (.stageArtifact r name payload))

def checkpointIfCurrent (r : RunId) (c : RunCheckpoint) (expectedCount : Nat) : Service Unit := do
  Program.ofExcept .store (← ask (.checkpointIfCurrent r c expectedCount))

def publishAtomically (b : PublishedRunBundle) (io : PublishIo) : Service PublishedArtifact := do
  Program.ofExcept .store (← ask (.publishAtomically b io))

/-- The item of a list that has one. -/
def sole {α : Type} : List α → Option α
  | [x] => some x
  | _ => none

theorem sole_eq_some {α : Type} {xs : List α} {x : α} : sole xs = some x ↔ xs = [x] := by
  unfold sole
  split
  next y => simp
  next hne =>
    constructor
    · intro h
      cases h
    · intro h
      exact absurd h (hne x)

/-! ## Telemetry -/

/-- `load_checkpoint_telemetry`. -/
def loadCheckpointTelemetry (readers : Readers) (c : RunCheckpoint) :
    Service (Option PerformanceTelemetry) :=
  if c.telemetryNames = [] then .done none
  else do
    let name ← ofOption (.valueError "checkpoint has multiple telemetry artifacts")
      (sole c.telemetryNames)
    let digest ← ofOption .lookupError (c.artifactHashes.get? name)
    require (name = telemetryName digest)
      (.valueError "telemetry artifact name does not match its checkpoint hash")
    let payload ← ofOption (.valueError "telemetry artifact does not match its checkpoint hash")
      (← readArtifact c.runId name)
    require (sha256 payload = digest)
      (.valueError "telemetry artifact does not match its checkpoint hash")
    let telemetry ← ofOption (.valueError "telemetry artifact is malformed")
      (readers.telemetry payload)
    require (telemetry.bytes = payload) (.valueError "telemetry artifact is not canonical")
    return some telemetry

/-- `load_latest_checkpoint_telemetry`. -/
def loadLatestCheckpointTelemetry (readers : Readers) (stored : StoredRun) :
    Service (Option PerformanceTelemetry) :=
  match stored.checkpoints.reverse.find? fun c => c.telemetryNames ≠ [] with
  | none => .done none
  | some c => loadCheckpointTelemetry readers c

/-- `telemetry.restore(previous)`, when there is one. -/
def restoreTelemetry (recorder : RunTelemetryRecorder) (message : String) :
    Option PerformanceTelemetry → Service RunTelemetryRecorder
  | none => .done recorder
  | some previous => do
    require (RunTelemetryRecorder.Supported previous) (.valueError message)
    return RunTelemetryRecorder.restored previous

/-- `checkpoint_with_telemetry`. -/
def checkpointWithTelemetry (c : RunCheckpoint) (telemetry : PerformanceTelemetry) :
    Service RunCheckpoint := do
  let digest := sha256 telemetry.bytes
  let stagedDigest ← stageArtifact c.runId (telemetryName digest) telemetry.bytes
  require (stagedDigest = digest)
    (.runtimeError "repository returned an invalid telemetry artifact digest")
  let hashes ← ofOption .tooLarge
    ((c.artifactHashes.without RunCheckpoint.isTelemetry).set (telemetryName digest) digest)
  return { c with artifactHashes := hashes }

/-! ## Recorded attempts -/

/-- `_staged_packet_hash`. -/
def stagedPacketHash (packet : ResearchPacket) (allowedStages : List String) :
    Service String := do
  let r := packet.run.runId
  let unpublished := .valueError "validation requires an unpublished staged run"
  let stored ← ofOption unpublished (← load r)
  require (stored.published = false) unpublished
  let latest ← ofOption unpublished stored.checkpoints.getLast?
  require (latest.stage ∈ allowedStages)
    (.valueError "validation requires a staged synthesis packet")
  let payload ← readArtifact r "research_packet"
  let digest := sha256 packet.bytes
  require (payload = some packet.bytes ∧
      latest.artifactHashes.get? "research_packet" = some digest ∧
      stored.evidenceCutoffAt = packet.run.evidenceCutoffAt ∧
      latest.dataQualityStatus = packet.run.dataQualityStatus ∧
      latest.deliveryStatus = packet.run.deliveryStatus)
    (.valueError "staged research packet differs from frozen packet")
  return digest

/-- `_checkpoint_artifact`. -/
def checkpointArtifact (c : RunCheckpoint) (pre : String) : Service Bytes := do
  let name ← ofOption (.valueError "validation checkpoint has no unique recorded artifact")
    (sole (c.artifactHashes.names.filter fun name => startsWith name pre))
  let differs := .valueError "recorded validation artifact differs from staged bytes"
  let payload ← ofOption differs (← readArtifact c.runId name)
  require (c.artifactHashes.get? name = some (sha256 payload)) differs
  return payload

/-- `_recorded_attempt`. -/
def recordedAttempt (readers : Readers) (c : RunCheckpoint) :
    Service (ResearchBriefDraft × ValidationReport) := do
  let draft ← ofOption .malformed (readers.draft (← checkpointArtifact c "brief_draft_"))
  let report ← ofOption .malformed
    (readers.report (← checkpointArtifact c "validation_report_"))
  return (draft, report)

/-- The `VALIDATING` entries, in the order they are read. -/
def attemptsRead (stored : StoredRun) : List RunCheckpoint :=
  stored.checkpoints.filter fun c => c.stage = "VALIDATING"

end Service

end FinanceResearch
