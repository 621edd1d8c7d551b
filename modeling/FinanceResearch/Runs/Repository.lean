import Mathlib.Data.List.AList
import Mathlib.Data.List.MinMax
import FinanceResearch.Runs.CheckpointLog

/-!
# The run repository

`FileSystemRunRepository`: the run directories under `.staging`, under the date
(final) and under `diagnostics/orphans`, and the two receipt files of each date,
`index.json` and `latest.json`. This module has its reads and the creation of
runs; `Runs/Publication.lean` has what moves a run between the three places.

Mirroring notes vs the source:
- A run ID is its date and revision (`RunId`); the source refuses every other
  text before it touches a path, and no operation creates a directory under one.
- The locks, the path confinement and the symbolic-link checks do not change the
  outcome on a repository only these operations write to, and are left out.
- `index.json` and `latest.json` hold typed values; only publication writes them.
- `max(index_payload, key=...)` is `List.argmax`; revisions of one date differ.
-/

namespace FinanceResearch

open Calendar (Date UtcDatetime)

abbrev RunDirs := AList fun _ : RunId => RunDir

/-- One receipt in `index.json`. -/
structure IndexEntry where
  bundleSha256 : String
  markdownSha256 : String
  publishedAt : UtcDatetime
  deriving DecidableEq

abbrev Index := AList fun _ : RunId => IndexEntry

/-- The files of the repository. -/
structure Repository where
  staging : RunDirs
  final : RunDirs
  orphans : RunDirs
  index : Date → Option Index
  latest : Date → Option RunId

namespace Repository

def empty : Repository := ⟨∅, ∅, ∅, fun _ => none, fun _ => none⟩

/-! ## Reading -/

/-- `index_payload[run_id]`. -/
def indexEntry (s : Repository) (r : RunId) : Option IndexEntry :=
  (s.index r.marketDate).bind fun index => index.lookup r

/-- `_published_payloads`: the report and the bundle, when both match the receipt. -/
def publishedPayloads (s : Repository) (r : RunId) (dir : Option RunDir) : Option (Bytes × Bytes) :=
  (s.indexEntry r).bind fun entry => dir.bind fun d =>
    d.reportMd.bind fun report => d.bundleJson.bind fun bundle =>
      if entry.markdownSha256 ≠ sha256 report then none
      else if entry.bundleSha256 ≠ sha256 bundle then none
      else some (report, bundle)

/-- `get_published_artifact`. -/
def getPublishedArtifact (s : Repository) (r : RunId) : Option PublishedArtifact :=
  (s.publishedPayloads r (s.final.lookup r)).bind fun _ => (s.indexEntry r).map fun entry =>
    { runId := r
      bundleSha256 := entry.bundleSha256
      markdownSha256 := entry.markdownSha256
      publishedAt := entry.publishedAt }

/-- `get_report`. -/
def getReport (s : Repository) (r : RunId) : Option String :=
  (s.publishedPayloads r (s.final.lookup r)).bind fun payloads => decode payloads.1

/-- `load_published_bundle`; `validateJson` is `PublishedRunBundle.model_validate_json`. -/
def loadPublishedBundle (validateJson : Bytes → Option PublishedRunBundle) (s : Repository)
    (r : RunId) : Option PublishedRunBundle :=
  (s.publishedPayloads r (s.final.lookup r)).bind fun payloads => validateJson payloads.2

/-- `load`: the staging directory, else a published final directory. -/
def load (s : Repository) (r : RunId) : Option StoredRun :=
  match s.staging.lookup r with
  | some d => d.loadFromPath false
  | none =>
    match s.final.lookup r with
    | some d => if (s.publishedPayloads r (some d)).isSome then d.loadFromPath true else none
    | none => none

/-- `get_latest`. -/
def getLatest (s : Repository) (date : Date) : Option RunId :=
  match s.latest date with
  | none => none
  | some r =>
    if r.marketDate ≠ date then none
    else
      match s.load r with
      | none => none
      | some stored => if stored.published ∧ (s.getReport r).isSome then some r else none

/-! ## Creating runs -/

/-- `_create_unlocked`. -/
def create (s : Repository) (context : RunContext) : Repository × Result Unit :=
  match s.final.lookup context.runId with
  | some _ => (s, .error (.publicationError "immutable run revision is already published"))
  | none =>
    match s.staging.lookup context.runId with
    | none =>
      ({ s with staging := s.staging.insert context.runId (RunDir.created context) }, .ok ())
    | some d =>
      match d.runJson with
      | some existing =>
        if existing ≠ context then
          (s, .error (.publicationError "immutable run revision already exists"))
        else (s, .ok ())
      | none =>
        ({ s with
            staging := s.staging.insert context.runId { d with runJson := some context } },
          .ok ())

/-- `_existing_revision_ids`: the run directories of a date in final and staging. -/
def existing (s : Repository) (date : Date) : List RunId :=
  (s.final.keys ++ s.staging.keys).filter fun r => r.marketDate = date

/-- `max(..., default=0) + 1` over the existing revisions. -/
def nextRevision (s : Repository) (date : Date) : Nat :=
  ((s.existing date).map RunId.revision).foldr max 0 + 1

/-- The context `allocate_revision` builds. -/
def newContext (seed : RunContextSeed) (revision : Nat) (positive : 0 < revision) : RunContext :=
  { runId := ⟨seed.marketDate, revision, positive⟩
    runType := .premarket
    invokedAt := seed.invokedAt
    evidenceCutoffAt := none
    executionStatus := .created
    dataQualityStatus := .pass
    deliveryStatus := seed.deliveryStatus
    configurationSnapshot := seed.configurationSnapshot
    coreVersion := seed.componentVersions.coreVersion
    mcpContractVersion := seed.componentVersions.mcpContractVersion
    pluginVersion := seed.componentVersions.pluginVersion
    skillVersion := seed.componentVersions.skillVersion
    promptVersion := seed.componentVersions.promptVersion
    reportTemplateVersion := seed.componentVersions.reportTemplateVersion
    schemaVersions := seed.componentVersions.schemaVersions }

/-- The end of `allocate_revision`: create the revision and return its context. -/
def allocateNew (s : Repository) (context : RunContext) : Repository × Result RunContext :=
  match s.create context with
  | (s', .ok _) => (s', .ok context)
  | (s', .error refusal) => (s', .error refusal)

def identityError : StoreError :=
  .publicationError "stored context identity does not match its run directory"

/-- `allocate_revision` for an existing scheduled revision. -/
def resumeScheduled (s : Repository) (r : RunId) : Result RunContext :=
  if (s.staging.lookup r).isSome ∧ (s.final.lookup r).isSome then
    .error (.publicationError "scheduled revision has conflicting storage paths")
  else
    match s.load r with
    | none => .error (.publicationError "existing scheduled revision has no readable context")
    | some loaded => if loaded.run.runId ≠ r then .error identityError else .ok loaded.run

/-- `allocate_revision` for an existing requested revision. -/
def resumeManual (s : Repository) (r : RunId) : Result RunContext :=
  match s.final.lookup r with
  | some d =>
    if (s.staging.lookup r).isSome then
      .error (.publicationError "manual revision has conflicting storage paths")
    else if (s.publishedPayloads r (some d)).isSome then
      .error (.valueError "published manual revision cannot be resumed")
    else .error (.publicationError "manual revision has a conflicting final directory")
  | none =>
    match s.load r with
    | none => .error (.publicationError "existing revision has no readable context")
    | some loaded =>
      if loaded.run.runId ≠ r then .error identityError
      else if loaded.published then
        .error (.valueError "published manual revision cannot be resumed")
      else .ok loaded.run

/-- `allocate_revision`. -/
def allocateRevision (s : Repository) (seed : RunContextSeed) (invocation : InvocationType)
    (requested : Option Int) : Repository × Result RunContext :=
  match requested, invocation with
  | some revision, invocation =>
    if hpos : revision ≤ 0 then
      (s, .error (.valueError "requested_revision must be a positive integer"))
    else if invocation = .scheduled then
      (s, .error (.valueError "scheduled invocation cannot request a revision"))
    else
      let r : RunId := ⟨seed.marketDate, revision.toNat, by omega⟩
      if r ∈ s.existing seed.marketDate then (s, s.resumeManual r)
      else if revision.toNat ≠ s.nextRevision seed.marketDate then
        (s, .error (.valueError "requested_revision must identify the next available revision"))
      else s.allocateNew (newContext seed revision.toNat r.positive)
  | none, .scheduled =>
    let r : RunId := ⟨seed.marketDate, 1, Nat.one_pos⟩
    if r ∈ s.existing seed.marketDate then (s, s.resumeScheduled r)
    else s.allocateNew (newContext seed 1 r.positive)
  | none, .manual =>
    s.allocateNew (newContext seed (s.nextRevision seed.marketDate) (Nat.succ_pos _))

/-! ## The operations of one staged run -/

/-- How an operation is refused when the run has no staging directory. -/
def missingStaging (r : RunId) : RunOp → StoreError
  | .stageArtifact name payload =>
    if !RunDir.isArtifactName name then
      .valueError "artifact name must be a bounded identifier, not a caller path"
    else if payload.size = 0 then .valueError "staged artifact payload must be nonempty bytes"
    else .valueError "run staging does not exist"
  | .checkpoint c =>
    if c.runId ≠ r then .valueError "checkpoint run_id must match the stored run"
    else .valueError "run staging does not exist"
  | .checkpointIfCurrent _ expectedCount =>
    if expectedCount < 0 then .valueError "expected checkpoint count must be nonnegative"
    else .valueError "checkpoint state changed; retry from current run"
  | _ => .valueError "run staging does not exist"

/-- An operation on the run `r`. -/
def runOp (s : Repository) (r : RunId) (op : RunOp) : Repository × Result Unit :=
  match s.staging.lookup r with
  | none => (s, .error (missingStaging r op))
  | some d =>
    let outcome := d.apply r op
    ({ s with staging := s.staging.insert r outcome.1 }, outcome.2)

/-! ## Small facts -/

theorem mem_existing {s : Repository} {date : Date} {r : RunId} :
    r ∈ s.existing date ↔ (r ∈ s.final ∨ r ∈ s.staging) ∧ r.marketDate = date := by
  simp only [existing, List.mem_filter, List.mem_append, ← AList.mem_keys, decide_eq_true_eq]

theorem revision_lt_next {s : Repository} {date : Date} {r : RunId} (h : r ∈ s.existing date) :
    r.revision < s.nextRevision date := by
  unfold nextRevision
  exact Nat.lt_succ_of_le
    (List.le_max_of_le (List.mem_map.mpr ⟨r, h, rfl⟩) (le_refl _))

/-- A number above every existing one names no existing run. -/
theorem nextRevision_fresh {s : Repository} {date : Date} {r : RunId} (hd : r.marketDate = date)
    (hr : r.revision = s.nextRevision date) : r ∉ s.final ∧ r ∉ s.staging := by
  have hnot : r ∉ s.existing date := fun h => by
    have := revision_lt_next h
    omega
  rw [mem_existing] at hnot
  tauto

theorem publishedPayloads_eq_some {s : Repository} {r : RunId} {dir : Option RunDir}
    {report bundle : Bytes} :
    s.publishedPayloads r dir = some (report, bundle) ↔
      ∃ d entry, dir = some d ∧ s.indexEntry r = some entry ∧ d.reportMd = some report ∧
        d.bundleJson = some bundle ∧ entry.markdownSha256 = sha256 report ∧
        entry.bundleSha256 = sha256 bundle := by
  unfold publishedPayloads
  simp only [Option.bind_eq_some_iff]
  constructor
  · rintro ⟨entry, hentry, d, hdir, report', hreport, bundle', hbundle, h⟩
    split at h
    · cases h
    next hm =>
      split at h
      · cases h
      next hb =>
        cases h
        exact ⟨d, entry, hdir, hentry, hreport, hbundle, not_not.mp hm, not_not.mp hb⟩
  · rintro ⟨d, entry, hdir, hentry, hreport, hbundle, hm, hb⟩
    refine ⟨entry, hentry, d, hdir, report, hreport, bundle, hbundle, ?_⟩
    rw [if_neg (not_not.mpr hm), if_neg (not_not.mpr hb)]

/-- A receipt is returned exactly when both files match it. -/
theorem getPublishedArtifact_eq_some {s : Repository} {r : RunId} {a : PublishedArtifact} :
    s.getPublishedArtifact r = some a ↔
      ∃ d report bundle, s.final.lookup r = some d ∧ d.reportMd = some report ∧
        d.bundleJson = some bundle ∧ s.indexEntry r = some
          ⟨a.bundleSha256, a.markdownSha256, a.publishedAt⟩ ∧ a.runId = r ∧
        a.markdownSha256 = sha256 report ∧ a.bundleSha256 = sha256 bundle := by
  unfold getPublishedArtifact
  simp only [Option.bind_eq_some_iff, Option.map_eq_some_iff, Prod.exists,
    publishedPayloads_eq_some]
  constructor
  · rintro ⟨report, bundle, ⟨d, entry, hdir, hentry, hreport, hbundle, hm, hb⟩, entry', hentry',
      rfl⟩
    rw [hentry, Option.some.injEq] at hentry'
    subst hentry'
    exact ⟨d, report, bundle, hdir, hreport, hbundle, hentry, rfl, hm, hb⟩
  · rintro ⟨d, report, bundle, hdir, hreport, hbundle, hentry, rfl, hm, hb⟩
    exact ⟨report, bundle, ⟨d, _, hdir, hentry, hreport, hbundle, hm, hb⟩, _, hentry, rfl⟩

/-- The three reads of a published run depend on its final directory and its
receipt only. -/
theorem publishedPayloads_congr {s s' : Repository} {r : RunId} {dir : Option RunDir}
    (h : s'.indexEntry r = s.indexEntry r) :
    s'.publishedPayloads r dir = s.publishedPayloads r dir := by
  unfold publishedPayloads
  rw [h]

end Repository

end FinanceResearch
