import FinanceResearch.Lib.Transitions
import FinanceResearch.Runs.Admission

/-!
# A staged run and its operations

`stage_artifact`, `checkpoint`, `checkpoint_if_current` and `freeze_evidence`
on the staging directory of one run, as a total step function: a refused call
leaves the files as the source leaves them. That matters for `freeze_evidence`,
which writes `frozen-evidence.json` *before* `_checkpoint_unlocked` decides
about the `EVIDENCE_FROZEN` entry, so a refusal can keep the first write. The
two files `publish_atomically` writes before its rename are operations too: an
attempt that fails in between leaves them in the staging directory.

`Effect` says once what one operation can do; every invariant below and in the
modules about the log is a case analysis of it.

The order of the log is the order of the file names. `SequenceNamed` (the i-th
file is numbered i) makes every new name fresh, so nothing is ever overwritten;
a new entry is *read* last exactly while its name is above all the others
(`NewestName`), which four digits guarantee for the first 9,999 entries only.
-/

namespace FinanceResearch

open Calendar (UtcDatetime)

/-- The entry `_freeze_evidence_unlocked` writes. -/
def evidenceFrozenCheckpoint (r : RunId) (stored : StoredRun) (cutoffAt : UtcDatetime) :
    RunCheckpoint :=
  { runId := r
    stage := "EVIDENCE_FROZEN"
    executionStatus := stored.latestStatuses.1
    dataQualityStatus := stored.latestStatuses.2.1
    deliveryStatus := stored.latestStatuses.2.2
    writtenAt := cutoffAt
    evidenceCutoffAt := some cutoffAt
    artifactHashes := FrozenMap.empty
    resumable := false }

namespace RunDir

/-- `frozen-evidence.json` written. -/
def withCutoff (d : RunDir) (cutoffAt : UtcDatetime) : RunDir :=
  { d with frozenEvidence := some cutoffAt }

/-- `checkpoint_if_current`. -/
def checkpointIfCurrent (r : RunId) (d : RunDir) (c : RunCheckpoint) (expectedCount : Int) :
    Result RunDir :=
  if expectedCount < 0 then
    .error (.valueError "expected checkpoint count must be nonnegative")
  else
    match d.load with
    | none => .error (.valueError "checkpoint state changed; retry from current run")
    | some stored =>
      if stored.checkpoints.length ≠ expectedCount then
        .error (.valueError "checkpoint state changed; retry from current run")
      else d.checkpointUnlocked r c

/-- `_freeze_evidence_unlocked`: two writes, and the second can be refused. -/
def freezeEvidence (r : RunId) (d : RunDir) (cutoffAt : UtcDatetime) : RunDir × Result StoredRun :=
  match d.load with
  | none => (d, .error (.valueError "run staging does not exist"))
  | some stored =>
    if stored.evidenceCutoffAt.isSome then
      (d, .error (.valueError "evidence cutoff is immutable; create a new revision"))
    else if cutoffAt < stored.run.invokedAt then
      (d, .error (.valueError "evidence cutoff cannot precede run invocation"))
    else
      match (d.withCutoff cutoffAt).checkpointUnlocked r
          (evidenceFrozenCheckpoint r stored cutoffAt) with
      | .error refusal => (d.withCutoff cutoffAt, .error refusal)
      | .ok d' =>
        match d'.load with
        | none => (d', .error .lookupError)
        | some result => (d', .ok result)

end RunDir

/-- One repository operation on a staged run. -/
inductive RunOp where
  | stageArtifact (name : String) (payload : Bytes)
  | checkpoint (c : RunCheckpoint)
  | checkpointIfCurrent (c : RunCheckpoint) (expectedCount : Int)
  | freezeEvidence (cutoffAt : UtcDatetime)
  | writeBundle (payload : Bytes)
  | writeReport (payload : Bytes)

/-- The calls that record an entry when they are accepted. -/
def RunOp.Records : RunOp → Prop
  | .checkpoint _ | .checkpointIfCurrent _ _ | .freezeEvidence _ => True
  | .stageArtifact _ _ | .writeBundle _ | .writeReport _ => False

/-- The checkpoint a call submits. -/
def RunOp.submitted : RunOp → Option RunCheckpoint
  | .checkpoint c => some c
  | .checkpointIfCurrent c _ => some c
  | _ => none

namespace RunDir

/-- A call whose refusal writes nothing. -/
def attempt (d : RunDir) (outcome : Result RunDir) : RunDir × Result Unit :=
  match outcome with
  | .error refusal => (d, .error refusal)
  | .ok d' => (d', .ok ())

/-- The files after an operation, and whether it was accepted. -/
def apply (r : RunId) (d : RunDir) : RunOp → RunDir × Result Unit
  | .stageArtifact name payload => d.attempt ((d.stageArtifact name payload).map Prod.fst)
  | .checkpoint c => d.attempt (d.checkpointUnlocked r c)
  | .checkpointIfCurrent c expectedCount => d.attempt (d.checkpointIfCurrent r c expectedCount)
  | .freezeEvidence cutoffAt =>
    let outcome := d.freezeEvidence r cutoffAt
    (outcome.1, outcome.2.map fun _ => ())
  | .writeBundle payload => ({ d with bundleJson := some payload }, .ok ())
  | .writeReport payload => ({ d with reportMd := some payload }, .ok ())

def step (r : RunId) (d : RunDir) (op : RunOp) : RunDir := (d.apply r op).1

/-- The entries that are in the directory of `d'` and were not in that of `d`. -/
def written (d d' : RunDir) : List RunCheckpoint :=
  (d'.checkpoints.drop d.checkpoints.length).map Prod.snd

/-! ## What an operation can do -/

/-- The five things that can happen to the files of a run. -/
inductive Effect (r : RunId) (d : RunDir) : RunDir → Prop where
  | unchanged : Effect r d d
  | staged (name : String) (payload : Bytes) (fresh : d.stagedArtifact name = none)
    (legal : isArtifactName name = true) :
    Effect r d { d with artifacts := (name, payload) :: d.artifacts }
  | recorded (c : RunCheckpoint) (stored : StoredRun) (owner : c.runId = r)
    (loaded : d.load = some stored) (accepts : Accepts d stored c) :
    Effect r d (d.appendCheckpoint c)
  | frozen (cutoffAt : UtcDatetime) (stored : StoredRun) (loaded : d.load = some stored)
    (open' : d.frozenEvidence = none) (after : stored.run.invokedAt ≤ cutoffAt) :
    Effect r d (d.withCutoff cutoffAt)
  | publication (bundle report : Option Bytes) :
    Effect r d { d with bundleJson := bundle, reportMd := report }

theorem checkpointIfCurrent_ok {r : RunId} {d d' : RunDir} {c : RunCheckpoint}
    {expectedCount : Int} (h : d.checkpointIfCurrent r c expectedCount = .ok d') :
    d.checkpointUnlocked r c = .ok d' := by
  unfold checkpointIfCurrent at h
  split at h
  · cases h
  · split at h
    · cases h
    · split at h
      · cases h
      · exact h

/-- A freeze that gets past its own tests is decided by `_checkpoint_unlocked`. -/
theorem freezeEvidence_open {r : RunId} {d : RunDir} {cutoffAt : UtcDatetime} {stored : StoredRun}
    (hload : d.load = some stored) (hopen : d.frozenEvidence = none)
    (hafter : stored.run.invokedAt ≤ cutoffAt) :
    d.freezeEvidence r cutoffAt =
      match (d.withCutoff cutoffAt).checkpointUnlocked r
          (evidenceFrozenCheckpoint r stored cutoffAt) with
      | .error refusal => (d.withCutoff cutoffAt, .error refusal)
      | .ok d' =>
        match d'.load with
        | none => (d', .error .lookupError)
        | some result => (d', .ok result) := by
  obtain ⟨-, hfrozen, -, -⟩ := load_eq_some hload
  have hsome : stored.evidenceCutoffAt.isSome = false := by rw [hfrozen, hopen]; rfl
  have hlt : ¬ cutoffAt < stored.run.invokedAt := not_lt.mpr hafter
  simp only [freezeEvidence, hload, hsome, hlt, Bool.false_eq_true, if_false]

/-- The tests of a freeze that come before its first write. -/
theorem freezeEvidence_refused {r : RunId} {d : RunDir} {cutoffAt : UtcDatetime}
    (h : ∀ stored, d.load = some stored → d.frozenEvidence = none →
      cutoffAt < stored.run.invokedAt) :
    ∃ e, d.freezeEvidence r cutoffAt = (d, .error e) := by
  unfold freezeEvidence
  cases hload : d.load with
  | none => exact ⟨_, rfl⟩
  | some stored =>
    obtain ⟨-, hfrozen, -, -⟩ := load_eq_some hload
    cases hcut : d.frozenEvidence with
    | some t =>
      have hsome : stored.evidenceCutoffAt.isSome = true := by rw [hfrozen, hcut]; rfl
      simp only [hsome, if_true]
      exact ⟨_, rfl⟩
    | none =>
      have hsome : stored.evidenceCutoffAt.isSome = false := by rw [hfrozen, hcut]; rfl
      simp only [hsome, h stored hload hcut, Bool.false_eq_true, if_true, if_false]
      exact ⟨_, rfl⟩

theorem attempt_cases (d : RunDir) (outcome : Result RunDir) :
    (d.attempt outcome).1 = d ∨ ∃ d', outcome = .ok d' ∧ (d.attempt outcome).1 = d' := by
  cases outcome with
  | error e => exact Or.inl rfl
  | ok d' => exact Or.inr ⟨d', rfl, rfl⟩

theorem effect_of_checkpointUnlocked {r : RunId} {d d' : RunDir} {c : RunCheckpoint}
    (h : d.checkpointUnlocked r c = .ok d') : Effect r d d' := by
  obtain ⟨howner, ⟨stored, hload, haccepts⟩, rfl⟩ := checkpointUnlocked_ok_iff.mp h
  exact Effect.recorded c stored howner hload haccepts

/-- A freeze is refused, or it is its first write followed by the entry when
that is accepted. -/
theorem freezeEvidence_effect (r : RunId) (d : RunDir) (cutoffAt : UtcDatetime) :
    (d.freezeEvidence r cutoffAt).1 = d ∨
    d.frozenEvidence = none ∧ Effect r d (d.withCutoff cutoffAt) ∧
      Effect r (d.withCutoff cutoffAt) (d.freezeEvidence r cutoffAt).1 := by
  by_cases h : ∀ stored, d.load = some stored → d.frozenEvidence = none →
      cutoffAt < stored.run.invokedAt
  · obtain ⟨e, he⟩ := freezeEvidence_refused (r := r) h
    exact Or.inl (by rw [he])
  · push Not at h
    obtain ⟨stored, hload, hopen, hafter⟩ := h
    refine Or.inr ⟨hopen, Effect.frozen cutoffAt stored hload hopen hafter, ?_⟩
    rw [freezeEvidence_open hload hopen hafter]
    cases hck : (d.withCutoff cutoffAt).checkpointUnlocked r
        (evidenceFrozenCheckpoint r stored cutoffAt) with
    | error e => exact Effect.unchanged
    | ok d' =>
      have he := effect_of_checkpointUnlocked hck
      cases hload' : d'.load with
      | none => simpa only [hload'] using he
      | some result => simpa only [hload'] using he

/-- Every operation is one effect, or the first write of a freeze and one more. -/
theorem step_effect (r : RunId) (d : RunDir) (op : RunOp) :
    Effect r d (step r d op) ∨
    ∃ cutoffAt, d.frozenEvidence = none ∧ Effect r d (d.withCutoff cutoffAt) ∧
      Effect r (d.withCutoff cutoffAt) (step r d op) := by
  cases op with
  | stageArtifact name payload =>
    left
    show Effect r d (d.attempt _).1
    rcases attempt_cases d ((d.stageArtifact name payload).map Prod.fst) with he | ⟨d', hok, he⟩
    · rw [he]
      exact Effect.unchanged
    · rw [he]
      cases h : d.stageArtifact name payload with
      | error e => rw [h] at hok; cases hok
      | ok out =>
        rw [h] at hok
        cases hok
        rcases (stageArtifact_cases h).2 with ⟨hd, -⟩ | ⟨hd, hfresh, hlegal⟩
        · rw [hd]
          exact Effect.unchanged
        · rw [hd]
          exact Effect.staged name payload hfresh hlegal
  | checkpoint c =>
    left
    show Effect r d (d.attempt _).1
    rcases attempt_cases d (d.checkpointUnlocked r c) with he | ⟨d', hok, he⟩
    · rw [he]
      exact Effect.unchanged
    · rw [he]
      exact effect_of_checkpointUnlocked hok
  | checkpointIfCurrent c expectedCount =>
    left
    show Effect r d (d.attempt _).1
    rcases attempt_cases d (d.checkpointIfCurrent r c expectedCount) with he | ⟨d', hok, he⟩
    · rw [he]
      exact Effect.unchanged
    · rw [he]
      exact effect_of_checkpointUnlocked (checkpointIfCurrent_ok hok)
  | freezeEvidence cutoffAt =>
    show Effect r d (d.freezeEvidence r cutoffAt).1 ∨ ∃ cutoffAt', d.frozenEvidence = none ∧
      Effect r d (d.withCutoff cutoffAt') ∧
      Effect r (d.withCutoff cutoffAt') (d.freezeEvidence r cutoffAt).1
    rcases freezeEvidence_effect r d cutoffAt with he | he
    · rw [he]
      exact Or.inl Effect.unchanged
    · exact Or.inr ⟨cutoffAt, he⟩
  | writeBundle payload => exact Or.inl (Effect.publication (some payload) d.reportMd)
  | writeReport payload => exact Or.inl (Effect.publication d.bundleJson (some payload))

/-- An accepted submission went through `_checkpoint_unlocked`. -/
theorem apply_submitted {r : RunId} {d : RunDir} {op : RunOp} {c : RunCheckpoint}
    (hc : op.submitted = some c) (h : (d.apply r op).2 = .ok ()) :
    d.checkpointUnlocked r c = .ok (step r d op) := by
  have attempted : ∀ outcome : Result RunDir, (d.attempt outcome).2 = .ok () →
      outcome = .ok (d.attempt outcome).1 := by
    intro outcome hok
    cases outcome with
    | error e => cases hok
    | ok d' => rfl
  cases op with
  | stageArtifact name payload => cases hc
  | freezeEvidence cutoffAt => cases hc
  | writeBundle payload => cases hc
  | writeReport payload => cases hc
  | checkpoint c' =>
    cases hc
    exact attempted _ h
  | checkpointIfCurrent c' expectedCount =>
    cases hc
    exact checkpointIfCurrent_ok (attempted _ h)

/-- An accepted recording call submitted an entry, or froze an open run. -/
theorem apply_records {r : RunId} {d : RunDir} {op : RunOp} (hrec : op.Records)
    (h : (d.apply r op).2 = .ok ()) :
    (∃ c stored, d.load = some stored ∧ Accepts d stored c) ∨ d.frozenEvidence = none := by
  cases hsub : op.submitted with
  | some c =>
    obtain ⟨-, ⟨stored, hload, haccepts⟩, -⟩ :=
      checkpointUnlocked_ok_iff.mp (apply_submitted hsub h)
    exact Or.inl ⟨c, stored, hload, haccepts⟩
  | none =>
    cases op with
    | stageArtifact name payload => exact absurd hrec id
    | writeBundle payload => exact absurd hrec id
    | writeReport payload => exact absurd hrec id
    | checkpoint c => cases hsub
    | checkpointIfCurrent c expectedCount => cases hsub
    | freezeEvidence cutoffAt =>
      right
      by_contra hfrozen
      obtain ⟨e, he⟩ := freezeEvidence_refused (r := r) (d := d)
        fun _ _ hnone => absurd hnone hfrozen
      have h' : (d.freezeEvidence r cutoffAt).2.map (fun _ => ()) = .ok () := h
      rw [he] at h'
      cases h'

/-- What every effect keeps, every operation keeps. -/
theorem step_invariant {r : RunId} {I : RunDir → Prop}
    (heffect : ∀ d d', I d → Effect r d d' → I d') (d : RunDir) (op : RunOp) (h : I d) :
    I (step r d op) := by
  rcases step_effect r d op with he | ⟨cutoffAt, -, he, he'⟩
  · exact heffect d _ h he
  · exact heffect _ _ (heffect d _ h he) he'

end RunDir

end FinanceResearch
