import FinanceResearch.Runs.Repository

/-!
# Publication, quarantine and recovery

`_publish_atomically_unlocked` is a sequence of durable steps: `bundle.json` and
`report.md` into staging, the rename of staging to final, `index.json`,
`latest.json`. `durable` is the repository after each of them, which is also what
a crash at that point leaves. A *fault* is an exception raised between two of
them; up to the rename it leaves what is written, after it the handler moves the
final directory to `diagnostics/orphans` (`quarantine`), and
`recover_interrupted_publication` moves it back and publishes again.

Mirroring notes vs the source:
- Every call that can raise is a `PublishFault`, placed by the durable steps it
  comes after. `_atomic_write` can raise before its `os.replace` or after it (the
  directory `fsync`), so each write has two faults.
- The clock is called only when the index has no receipt of the run; `none` is a
  clock that raises or whose value is refused.
- The hashes the source re-reads after writing are those of the bytes just
  written.
-/

namespace FinanceResearch

open Calendar (Date UtcDatetime)

/-! ## Durable steps and faults -/

/-- The durable steps of `_publish_atomically_unlocked`, each by the last one done. -/
inductive PublishPoint where
  | entered | bundleWritten | reportWritten | renamed | indexWritten | latestWritten
  deriving DecidableEq, Repr

/-- The calls of `_publish_atomically_unlocked` that can raise. -/
inductive PublishFault where
  | bundleReplace | bundleSync | reportReplace | reportSync | stagingSync | beforeRename | rename
  | finalSync | indexUpdate | indexReplace | indexSync | afterIndexWrite
  | latestReplace | latestSync
  deriving DecidableEq, Repr

/-- The durable step a fault comes after. -/
def PublishFault.point : PublishFault → PublishPoint
  | .bundleReplace => .entered
  | .bundleSync | .reportReplace => .bundleWritten
  | .reportSync | .stagingSync | .beforeRename | .rename => .reportWritten
  | .finalSync | .indexUpdate | .indexReplace => .renamed
  | .indexSync | .afterIndexWrite | .latestReplace => .indexWritten
  | .latestSync => .latestWritten

/-- The exception of a fault before the rename; `none` once the run is renamed. -/
def PublishFault.stagingError : PublishFault → Option StoreError
  | .bundleReplace | .bundleSync | .reportReplace | .reportSync | .stagingSync =>
    some (.publicationError "publication staging write or fsync failed")
  | .beforeRename =>
    some (.publicationError "injected failure before atomic publication rename")
  | .rename => some (.publicationError "publication index update failed")
  | _ => none

/-- The calls of `_quarantine_orphan` that can raise. -/
inductive QuarantineFault where
  | replace | sync
  deriving DecidableEq, Repr

/-- What the environment does during one attempt to publish. -/
structure PublishIo where
  clock : Option UtcDatetime
  fault : Option PublishFault
  quarantine : Option QuarantineFault
  deriving DecidableEq

/-- No failure, and the clock answers. -/
def PublishIo.sound (now : UtcDatetime) : PublishIo := ⟨some now, none, none⟩

namespace Repository

/-! ## `_publish_atomically_unlocked` -/

/-- The checks before the first write. -/
def publicationRefusal (s : Repository) (b : PublishedRunBundle) : Option StoreError :=
  match s.staging.lookup b.run.runId with
  | none => some (.publicationError "run-specific staging directory is absent")
  | some d =>
    if (s.final.lookup b.run.runId).isSome then
      some (.publicationError "immutable final run directory already exists")
    else
      match d.load with
      | none => some (.publicationError "staged run context is absent")
      | some stored =>
        if b.run.withStatuses stored.run.executionStatus stored.run.dataQualityStatus
            stored.run.deliveryStatus ≠ stored.run then
          some (.publicationError "PublishedRunBundle RunContext differs from staged RunContext")
        else if stored.checkpoints ≠ [] ∧
            (b.run.executionStatus, b.run.dataQualityStatus, b.run.deliveryStatus) ≠
              stored.latestStatuses then
          some (.publicationError
            "PublishedRunBundle statuses differ from the final checkpoint status snapshot")
        else if ∃ last ∈ stored.checkpoints.getLast?,
            last.stage = "PUBLISHED" ∧ ¬ last.StagedHashesValid d then
          some (.publicationError "final checkpoint artifact differs from staged bytes")
        else if stored.checkpoints = [] ∧ b.run ≠ stored.run then
          some (.publicationError "PublishedRunBundle RunContext differs from staged RunContext")
        else if b.markdownSha256 = none then
          some (.publicationError "declared markdown SHA-256 is required")
        else if b.markdownSha256 ≠ some (sha256 (encode b.reportMarkdown)) then
          some (.publicationError "report SHA-256 does not match canonical report bytes")
        else none

/-- What the attempt publishes for `b` at time `publishedAt`. -/
def receipt (b : PublishedRunBundle) (publishedAt : UtcDatetime) : PublishedArtifact :=
  { runId := b.run.runId
    bundleSha256 := sha256 (canonicalBytes b)
    markdownSha256 := sha256 (encode b.reportMarkdown)
    publishedAt := publishedAt }

/-- One file of the staging directory written. -/
def writeStaged (s : Repository) (r : RunId) (op : RunOp) : Repository := (s.runOp r op).1

/-- `os.replace(staging, final)`. -/
def rename (s : Repository) (r : RunId) : Repository :=
  match s.staging.lookup r with
  | none => s
  | some d => { s with staging := s.staging.erase r, final := s.final.insert r d }

/-- `index.json` with the receipt of the run. -/
def writeIndex (s : Repository) (a : PublishedArtifact) : Repository :=
  { s with
    index := Function.update s.index a.runId.marketDate
      (some (((s.index a.runId.marketDate).getD ∅).insert a.runId
        ⟨a.bundleSha256, a.markdownSha256, a.publishedAt⟩)) }

/-- `max(index_payload, key=revision)`, over the index of the date. -/
def greatestIndexed (s : Repository) (date : Date) : Option RunId :=
  ((s.index date).getD ∅).keys.argmax RunId.revision

/-- `latest.json` naming the greatest indexed revision. -/
def writeLatest (s : Repository) (date : Date) : Repository :=
  { s with latest := Function.update s.latest date (s.greatestIndexed date) }

/-- `bundle.json` written. -/
def bundleWritten (s : Repository) (b : PublishedRunBundle) : Repository :=
  s.writeStaged b.run.runId (.writeBundle (canonicalBytes b))

/-- `report.md` written. -/
def reportWritten (s : Repository) (b : PublishedRunBundle) : Repository :=
  (s.bundleWritten b).writeStaged b.run.runId (.writeReport (encode b.reportMarkdown))

/-- Staging renamed to final. -/
def renamed (s : Repository) (b : PublishedRunBundle) : Repository :=
  (s.reportWritten b).rename b.run.runId

/-- `index.json` written. -/
def indexWritten (s : Repository) (b : PublishedRunBundle) (publishedAt : UtcDatetime) :
    Repository :=
  (s.renamed b).writeIndex (receipt b publishedAt)

/-- `latest.json` written. -/
def latestWritten (s : Repository) (b : PublishedRunBundle) (publishedAt : UtcDatetime) :
    Repository :=
  (s.indexWritten b publishedAt).writeLatest b.run.runId.marketDate

/-- The repository after each durable step of publishing `b` at `publishedAt`. -/
def durable (s : Repository) (b : PublishedRunBundle) (publishedAt : UtcDatetime) :
    PublishPoint → Repository
  | .entered => s
  | .bundleWritten => s.bundleWritten b
  | .reportWritten => s.reportWritten b
  | .renamed => s.renamed b
  | .indexWritten => s.indexWritten b publishedAt
  | .latestWritten => s.latestWritten b publishedAt

/-- `_quarantine_orphan`; the second component tells whether it returned. -/
def quarantine (s : Repository) (r : RunId) (fault : Option QuarantineFault) : Repository × Bool :=
  match s.orphans.lookup r, s.final.lookup r with
  | none, some d =>
    let moved : Repository :=
      { s with final := s.final.erase r, orphans := s.orphans.insert r d }
    match fault with
    | some .replace => (s, false)
    | some .sync => (moved, false)
    | none => (moved, true)
  | _, _ => (s, false)

/-- The exception handler after the rename. -/
def failPublication (s : Repository) (r : RunId) (fault : Option QuarantineFault) :
    Repository × Result PublishedArtifact :=
  match s.quarantine r fault with
  | (s', true) =>
    (s', .error (.publicationError "publication index update failed; orphan quarantined"))
  | (s', false) =>
    (s', .error (.publicationError "publication index update failed and orphan quarantine failed"))

/-- `published_at`: of the receipt already indexed, which must be for the same
bytes, else the clock's. `none` is an exception. -/
def publicationTime (s : Repository) (b : PublishedRunBundle) (clock : Option UtcDatetime) :
    Option UtcDatetime :=
  match s.indexEntry b.run.runId with
  | none => clock
  | some entry =>
    if entry.bundleSha256 ≠ sha256 (canonicalBytes b) ∨
        entry.markdownSha256 ≠ sha256 (encode b.reportMarkdown) then none
    else some entry.publishedAt

/-- `_publish_atomically_unlocked`. -/
def publish (s : Repository) (b : PublishedRunBundle) (io : PublishIo) :
    Repository × Result PublishedArtifact :=
  match s.publicationRefusal b with
  | some refusal => (s, .error refusal)
  | none =>
    match io.fault.bind fun fault => fault.stagingError.map fun e => (fault.point, e) with
    | some (point, refusal) => (s.durable b 0 point, .error refusal)
    | none =>
      match s.publicationTime b io.clock with
      | none => (s.renamed b).failPublication b.run.runId io.quarantine
      | some publishedAt =>
        match io.fault with
        | some fault =>
          (s.durable b publishedAt fault.point).failPublication b.run.runId io.quarantine
        | none => (s.latestWritten b publishedAt, .ok (receipt b publishedAt))

/-! ## `recover_interrupted_publication` -/

/-- The reads of `recover_interrupted_publication` that can raise. -/
inductive RecoverReadFault where
  | files | metadata | artifact
  deriving DecidableEq, Repr

/-- What the environment does during one recovery; `move` is its
`os.replace(orphan, staging)` or a directory sync after it. -/
structure RecoverIo where
  read : Option RecoverReadFault
  move : Option QuarantineFault
  publish : PublishIo
  deriving DecidableEq

/-- No failure, and the clock answers. -/
def RecoverIo.sound (now : UtcDatetime) : RecoverIo := ⟨none, none, .sound now⟩

/-- The checks of a quarantined directory, up to the move. -/
def checkRecovery (validateJson : Bytes → Option PublishedRunBundle) (r : RunId) (d : RunDir)
    (read : Option RecoverReadFault) : Result PublishedRunBundle :=
  match d.bundleJson, d.reportMd with
  | some bundleBytes, some reportBytes =>
    if read = some .files then
      .error (.publicationError "interrupted publication files cannot be read")
    else
      match validateJson bundleBytes with
      | none => .error (.publicationError "interrupted publication metadata is invalid")
      | some b =>
        if read = some .metadata then
          .error (.publicationError "interrupted publication metadata is invalid")
        else match d.load with
        | none =>
          .error (.publicationError "interrupted publication pair is incomplete or inconsistent")
        | some stored =>
          match stored.checkpoints.getLast? with
          | none =>
            .error (.publicationError "interrupted publication pair is incomplete or inconsistent")
          | some c =>
            if canonicalBytes b ≠ bundleBytes ∨ b.run.runId ≠ r ∨
                b.markdownSha256 ≠ some (sha256 reportBytes) ∨
                encode b.reportMarkdown ≠ reportBytes then
              .error (.publicationError
                "interrupted publication pair is incomplete or inconsistent")
            else if stored.run.runId ≠ r then .error identityError
            else if c.stage ≠ "PUBLISHED" ∨ c.executionStatus ≠ .published ∨
                c.dataQualityStatus ≠ b.run.dataQualityStatus ∨
                c.deliveryStatus ≠ b.run.deliveryStatus ∨
                c.evidenceCutoffAt ≠ stored.evidenceCutoffAt ∨ c.resumable = true ∨
                b.run ≠ stored.run.withStatuses c.executionStatus c.dataQualityStatus
                  c.deliveryStatus then
              .error (.publicationError "interrupted publication checkpoint is not recoverable")
            else if read = some .artifact ∧ c.artifactHashes.names ≠ [] then
              .error (.publicationError "interrupted publication artifact cannot be read")
            else if ∃ name ∈ c.artifactHashes.names, RunDir.isArtifactName name = false then
              .error (.publicationError "interrupted publication artifact name is invalid")
            else if ¬ c.StagedHashesValid d then
              .error (.publicationError "interrupted publication artifact hash differs")
            else .ok b
  | _, _ => .error (.publicationError "interrupted publication files cannot be read")

/-- The quarantined directory back in staging. -/
def restore (s : Repository) (r : RunId) (d : RunDir) : Repository :=
  { s with orphans := s.orphans.erase r, staging := s.staging.insert r d }

/-- `recover_interrupted_publication`. -/
def recover (validateJson : Bytes → Option PublishedRunBundle) (s : Repository) (r : RunId)
    (io : RecoverIo) : Repository × Result PublishedArtifact :=
  match s.getPublishedArtifact r with
  | some existing => (s, .ok existing)
  | none =>
    match s.staging.lookup r, s.final.lookup r, s.orphans.lookup r with
    | none, none, some d =>
      match checkRecovery validateJson r d io.read with
      | .error refusal => (s, .error refusal)
      | .ok b =>
        match io.move with
        | some .replace =>
          (s, .error (.publicationError "interrupted publication could not return to staging"))
        | some .sync =>
          (s.restore r d,
            .error (.publicationError "interrupted publication could not return to staging"))
        | none => (s.restore r d).publish b io.publish
    | _, _, _ =>
      (s, .error (.publicationError "no interrupted publication is available for recovery"))

end Repository

/-! ## Operations -/

/-- One operation on the repository, with what the environment does to it. -/
inductive RepoOp where
  | allocate (seed : RunContextSeed) (invocation : InvocationType) (requested : Option Int)
  | create (context : RunContext)
  | onRun (r : RunId) (op : RunOp)
  | publish (b : PublishedRunBundle) (io : PublishIo)
  | recover (r : RunId) (io : Repository.RecoverIo)

namespace Repository

/-- The repository after an operation, whatever its outcome. -/
def step (validateJson : Bytes → Option PublishedRunBundle) (s : Repository) : RepoOp → Repository
  | .allocate seed invocation requested => (s.allocateRevision seed invocation requested).1
  | .create context => (s.create context).1
  | .onRun r op => (s.runOp r op).1
  | .publish b io => (s.publish b io).1
  | .recover r io => (s.recover validateJson r io).1

end Repository

end FinanceResearch
