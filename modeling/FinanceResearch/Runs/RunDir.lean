import FinanceResearch.Domain.Models
import FinanceResearch.Lib.Listing

/-!
# One run directory

`adapters/filesystem.py` keeps a run as a directory: `run.json`, a
`checkpoints/` directory with one file per entry, `frozen-evidence.json`, the
immutable `artifacts/<name>.bin`, and, once publication has begun, `bundle.json`
and `report.md`. `RunDir` is that directory with its JSON files decoded.

The log is a directory of *names*: `_checkpoint_unlocked` writes
`f"{sequence:04d}-{stage}.json"` and `_load_from_path` sorts the names, so both
are modelled as the source has them, and the order of reading is a theorem
(`Runs/Log.lean`), not a definition.
-/

namespace FinanceResearch

open Calendar (UtcDatetime)

/-- The files of one run directory. -/
structure RunDir where
  runJson : Option RunContext
  checkpoints : Listing.Files RunCheckpoint
  frozenEvidence : Option UtcDatetime
  artifacts : List (String × Bytes)
  bundleJson : Option Bytes
  reportMd : Option Bytes
  deriving DecidableEq

/-- How a repository call is refused, with the text of the exception.
`lookupError` is a failed `assert` or subscript. -/
inductive StoreError where
  | valueError (message : String)
  | publicationError (message : String)
  | pathNotAllowed (message : String)
  | leaseHeld (message : String)
  | lookupError
  deriving DecidableEq, Repr

/-- The outcome of a call: a value or a raised exception. -/
abbrev Result (α : Type) := Except StoreError α

namespace RunDir

/-- The directory `_create_unlocked` writes. -/
def created (context : RunContext) : RunDir :=
  ⟨some context, [], none, [], none, none⟩

/-! ## Reading -/

/-- The log as it is read: in file-name order. -/
def log (d : RunDir) : List RunCheckpoint := (Listing.inNameOrder d.checkpoints).map Prod.snd

/-- The context with the frozen cutoff bound into it. -/
def boundContext (d : RunDir) (context : RunContext) : RunContext :=
  match d.frozenEvidence with
  | none => context
  | some cutoff => { context with evidenceCutoffAt := some cutoff }

/-- The stored run of a directory whose `run.json` is `context`. -/
def view (d : RunDir) (context : RunContext) (published : Bool) : StoredRun :=
  { run := d.boundContext context
    checkpoints := d.log
    evidenceCutoffAt := d.frozenEvidence
    published := published }

/-- `_load_from_path`. -/
def loadFromPath (d : RunDir) (published : Bool) : Option StoredRun :=
  d.runJson.map fun context => d.view context published

/-- `load` of a run that is in staging. -/
abbrev load (d : RunDir) : Option StoredRun := d.loadFromPath false

/-- The bytes of `artifacts/<name>.bin`, when it is a file. -/
def stagedArtifact (d : RunDir) (name : String) : Option Bytes := d.artifacts.lookup name

/-! ## Artifacts -/

def isAsciiAlnum (c : Char) : Bool :=
  ('A' ≤ c && c ≤ 'Z') || ('a' ≤ c && c ≤ 'z') || ('0' ≤ c && c ≤ '9')

/-- `_ARTIFACT_NAME`: `^[A-Za-z0-9][A-Za-z0-9_.:-]{0,127}$`. -/
def isArtifactName (name : String) : Bool :=
  match name.toList with
  | [] => false
  | c :: rest =>
    isAsciiAlnum c && rest.length ≤ 127 &&
      rest.all fun c => isAsciiAlnum c || c == '_' || c == '.' || c == ':' || c == '-'

/-- `stage_artifact` inside a staging directory: one immutable named payload. -/
def stageArtifact (d : RunDir) (name : String) (payload : Bytes) : Result (RunDir × String) :=
  if !isArtifactName name then
    .error (.valueError "artifact name must be a bounded identifier, not a caller path")
  else if payload.size = 0 then
    .error (.valueError "staged artifact payload must be nonempty bytes")
  else
    match d.stagedArtifact name with
    | some existing =>
      if existing ≠ payload then
        .error (.valueError "immutable staged artifact already exists with different bytes")
      else .ok (d, sha256 payload)
    | none => .ok ({ d with artifacts := (name, payload) :: d.artifacts }, sha256 payload)

/-! ## The log -/

/-- `f"{sequence:04d}-{stage}.json"`. -/
def checkpointFileName (sequence : Nat) (stage : String) : String :=
  String.ofList (Numerals.padded 4 sequence) ++ "-" ++ stage ++ ".json"

/-- The name the next entry is written under: one more than the files present. -/
def nextFileName (d : RunDir) (stage : String) : String :=
  checkpointFileName (d.checkpoints.length + 1) stage

/-- The append at the end of `_checkpoint_unlocked`. -/
def appendCheckpoint (d : RunDir) (c : RunCheckpoint) : RunDir :=
  { d with checkpoints := Listing.write d.checkpoints (d.nextFileName c.stage) c }

/-! ## Small facts -/

@[simp] theorem loadFromPath_eq_none {d : RunDir} {p : Bool} :
    d.loadFromPath p = none ↔ d.runJson = none := by simp [loadFromPath]

theorem load_of_runJson {d : RunDir} {context : RunContext} (h : d.runJson = some context) :
    d.load = some (d.view context false) := by
  rw [load, loadFromPath, h, Option.map_some]

theorem load_eq_some {d : RunDir} {p : Bool} {stored : StoredRun}
    (h : d.loadFromPath p = some stored) :
    stored.checkpoints = d.log ∧ stored.evidenceCutoffAt = d.frozenEvidence ∧
    stored.published = p ∧ ∃ context, d.runJson = some context ∧
      stored.run = d.boundContext context := by
  cases hctx : d.runJson with
  | none => simp [loadFromPath, hctx] at h
  | some context =>
    rw [loadFromPath, hctx, Option.map_some, Option.some.injEq] at h
    subst h
    exact ⟨rfl, rfl, rfl, context, rfl, rfl⟩

@[simp] theorem boundContext_runId (d : RunDir) (context : RunContext) :
    (d.boundContext context).runId = context.runId := by
  unfold boundContext
  split <;> rfl

@[simp] theorem boundContext_invokedAt (d : RunDir) (context : RunContext) :
    (d.boundContext context).invokedAt = context.invokedAt := by
  unfold boundContext
  split <;> rfl

@[simp] theorem appendCheckpoint_runJson (d : RunDir) (c : RunCheckpoint) :
    (d.appendCheckpoint c).runJson = d.runJson := rfl
@[simp] theorem appendCheckpoint_frozenEvidence (d : RunDir) (c : RunCheckpoint) :
    (d.appendCheckpoint c).frozenEvidence = d.frozenEvidence := rfl
@[simp] theorem appendCheckpoint_artifacts (d : RunDir) (c : RunCheckpoint) :
    (d.appendCheckpoint c).artifacts = d.artifacts := rfl
@[simp] theorem appendCheckpoint_stagedArtifact (d : RunDir) (c : RunCheckpoint) (name : String) :
    (d.appendCheckpoint c).stagedArtifact name = d.stagedArtifact name := rfl

/-- Everything `stage_artifact` can do when it accepts. -/
theorem stageArtifact_cases {d d' : RunDir} {name digest : String} {payload : Bytes}
    (h : d.stageArtifact name payload = .ok (d', digest)) :
    digest = sha256 payload ∧
    ((d' = d ∧ d.stagedArtifact name = some payload) ∨
     (d' = { d with artifacts := (name, payload) :: d.artifacts } ∧
       d.stagedArtifact name = none ∧ isArtifactName name = true)) := by
  unfold stageArtifact at h
  split at h
  · cases h
  next hlegal =>
    split at h
    · cases h
    · split at h
      next existing he =>
        split at h
        · cases h
        next hsame =>
          rw [Classical.not_not] at hsame
          cases h
          exact ⟨rfl, Or.inl ⟨rfl, by rw [he, hsame]⟩⟩
      next hnone =>
        cases h
        exact ⟨rfl, Or.inr ⟨rfl, hnone, by simpa using hlegal⟩⟩

/-- A staged artifact is immutable: no later staging changes its bytes. -/
theorem stageArtifact_stable {d d' : RunDir} {name digest : String} {payload : Bytes}
    (h : d.stageArtifact name payload = .ok (d', digest)) {other : String} {bytes : Bytes}
    (hb : d.stagedArtifact other = some bytes) : d'.stagedArtifact other = some bytes := by
  rcases (stageArtifact_cases h).2 with ⟨rfl, _⟩ | ⟨rfl, hnone, _⟩
  · exact hb
  · have hne : other ≠ name := fun he => by rw [he, hnone] at hb; cases hb
    have hbeq : (other == name) = false := by simpa using hne
    rw [stagedArtifact, List.lookup_cons, hbeq]
    exact hb

/-- Staging an artifact touches no other file of the run. -/
theorem stageArtifact_frame {d d' : RunDir} {name digest : String} {payload : Bytes}
    (h : d.stageArtifact name payload = .ok (d', digest)) :
    d'.runJson = d.runJson ∧ d'.checkpoints = d.checkpoints ∧
    d'.frozenEvidence = d.frozenEvidence ∧ d'.bundleJson = d.bundleJson ∧
    d'.reportMd = d.reportMd := by
  rcases (stageArtifact_cases h).2 with ⟨rfl, _⟩ | ⟨rfl, _⟩ <;> exact ⟨rfl, rfl, rfl, rfl, rfl⟩

end RunDir

end FinanceResearch
