import FinanceResearch.Runs.CheckpointLog

/-!
# `freeze_evidence` as a transaction

A freeze should bind the cutoff and record `EVIDENCE_FROZEN`, or change
nothing. Its tests look at the stored cutoff and at the invocation time only;
`_checkpoint_unlocked` then also compares `written_at` with the last entry, and
before a freeze nothing ties the entries' times to the invocation time. So
there is a gap between the two writes, and `freezeAtomic_iff` says exactly when
a freeze falls into it: an earlier entry, read last, is dated after the cutoff.
The other condition in it is about reading the new entry back: its file must
sort last.
-/

namespace FinanceResearch

open Calendar (UtcDatetime)

namespace RunDir

/-- The call returns the frozen run with its entry read last, or the stored run
is what it was. -/
def FreezeAtomic (r : RunId) (d : RunDir) (cutoffAt : UtcDatetime) : Prop :=
  match (d.freezeEvidence r cutoffAt).2 with
  | .ok stored =>
    (d.freezeEvidence r cutoffAt).1.load = some stored ∧
    stored.evidenceCutoffAt = some cutoffAt ∧
    ∃ last ∈ stored.checkpoints.getLast?,
      last.stage = "EVIDENCE_FROZEN" ∧ last.writtenAt = cutoffAt
  | .error _ => (d.freezeEvidence r cutoffAt).1.load = d.load

instance (r : RunId) (d : RunDir) (cutoffAt : UtcDatetime) : Decidable (FreezeAtomic r d cutoffAt) :=
  by unfold FreezeAtomic; exact
    match (d.freezeEvidence r cutoffAt).2 with
    | .ok _ => inferInstanceAs (Decidable (_ ∧ _))
    | .error _ => inferInstanceAs (Decidable (_ = _))

/-- An `EVIDENCE_FROZEN` entry at the cutoff is the last one read. -/
def EndsFrozenAt (d : RunDir) (cutoffAt : UtcDatetime) : Prop :=
  ∃ last ∈ d.log.getLast?, last.stage = "EVIDENCE_FROZEN" ∧ last.writtenAt = cutoffAt

/-- The freeze is refused by its own tests, or both writes go through and the
entry is read back last. -/
def FreezeFits (d : RunDir) (cutoffAt : UtcDatetime) : Prop :=
  d.frozenEvidence.isSome ∨
  (∃ context ∈ d.runJson, cutoffAt < context.invokedAt) ∨
  ((∀ last ∈ d.log.getLast?, last.writtenAt ≤ cutoffAt) ∧
    (d.NewestName "EVIDENCE_FROZEN" ∨ d.EndsFrozenAt cutoffAt))

theorem runJson_withCutoff {d : RunDir} {context : RunContext} (cutoffAt : UtcDatetime)
    (h : d.runJson = some context) : (d.withCutoff cutoffAt).runJson = some context := h

/-- Binding the cutoff does not change the statuses a run stands at. -/
theorem latestStatuses_withCutoff {d : RunDir} {context : RunContext} {stored : StoredRun}
    (cutoffAt : UtcDatetime) (hctx : d.runJson = some context) (hload : d.load = some stored) :
    ((d.withCutoff cutoffAt).view context false).latestStatuses = stored.latestStatuses := by
  rw [load_of_runJson hctx, Option.some.injEq] at hload
  subst hload
  have hlog : (d.withCutoff cutoffAt).log = d.log := rfl
  unfold StoredRun.latestStatuses view boundContext
  simp only [hlog]
  cases d.log.getLast? with
  | some latest => rfl
  | none => cases d.frozenEvidence <;> rfl

/-- After the first write the entry is admissible; only its time can refuse it. -/
theorem accepts_evidenceFrozen_iff {r : RunId} {d : RunDir} {context : RunContext}
    {stored : StoredRun} {cutoffAt : UtcDatetime} (hctx : d.runJson = some context)
    (hload : d.load = some stored) :
    Accepts (d.withCutoff cutoffAt) ((d.withCutoff cutoffAt).view context false)
        (evidenceFrozenCheckpoint r stored cutoffAt) ↔
      ∀ last ∈ d.log.getLast?, last.writtenAt ≤ cutoffAt := by
  have hfreeze : ValidFreeze ((d.withCutoff cutoffAt).view context false)
      (evidenceFrozenCheckpoint r stored cutoffAt) cutoffAt := by
    refine ⟨rfl, ?_, rfl, rfl, rfl⟩
    rw [latestStatuses_withCutoff cutoffAt hctx hload]
    rfl
  show (_ ∧ _ ∧ _) ↔ _
  exact ⟨fun h => h.2.1, fun h => ⟨rfl, h, Or.inl hfreeze⟩⟩

/-- The log after the entry of a freeze ends with it exactly when its name is
the newest, or an equal entry was already last. -/
theorem endsFrozenAt_append_iff {r : RunId} {d : RunDir} {stored : StoredRun}
    {cutoffAt : UtcDatetime} (hnamed : d.SequenceNamed) :
    EndsFrozenAt ((d.withCutoff cutoffAt).appendCheckpoint
        (evidenceFrozenCheckpoint r stored cutoffAt)) cutoffAt ↔
      d.NewestName "EVIDENCE_FROZEN" ∨ d.EndsFrozenAt cutoffAt := by
  have hnamed' : (d.withCutoff cutoffAt).SequenceNamed := hnamed
  by_cases hnew : d.NewestName "EVIDENCE_FROZEN"
  · have hlog := log_append_of_newest (c := evidenceFrozenCheckpoint r stored cutoffAt)
      hnamed' hnew
    refine ⟨fun _ => Or.inl hnew, fun _ => ?_⟩
    rw [EndsFrozenAt, hlog, List.getLast?_concat]
    exact ⟨_, rfl, rfl, rfl⟩
  · have hlast := log_getLast?_of_not_newest (c := evidenceFrozenCheckpoint r stored cutoffAt)
      hnamed' hnew
    rw [EndsFrozenAt, hlast]
    exact ⟨fun h => Or.inr h, fun h => h.resolve_left hnew⟩

theorem freezeAtomic_of_refused {r : RunId} {d : RunDir} {cutoffAt : UtcDatetime}
    (h : ∃ e, d.freezeEvidence r cutoffAt = (d, .error e)) : FreezeAtomic r d cutoffAt := by
  obtain ⟨e, he⟩ := h
  rw [FreezeAtomic, he]

/-- A freeze its own tests let through. -/
theorem freezeAtomic_open_iff {r : RunId} {d : RunDir} {context : RunContext}
    {cutoffAt : UtcDatetime} (hnamed : d.SequenceNamed) (hctx : d.runJson = some context)
    (hopen : d.frozenEvidence = none)
    (hafter : context.invokedAt ≤ cutoffAt) :
    FreezeAtomic r d cutoffAt ↔
      (∀ last ∈ d.log.getLast?, last.writtenAt ≤ cutoffAt) ∧
      (d.NewestName "EVIDENCE_FROZEN" ∨ d.EndsFrozenAt cutoffAt) := by
  obtain ⟨stored, hload⟩ : ∃ stored, d.load = some stored := ⟨_, load_of_runJson hctx⟩
  have hafter' : stored.run.invokedAt ≤ cutoffAt := by
    obtain ⟨-, -, -, context', hctx', hrun⟩ := load_eq_some hload
    rw [hctx, Option.some.injEq] at hctx'
    rw [hrun, boundContext_invokedAt, ← hctx']
    exact hafter
  have heq := freezeEvidence_open (r := r) hload hopen hafter'
  rw [← endsFrozenAt_append_iff (r := r) hnamed]
  by_cases hle : ∀ last ∈ d.log.getLast?, last.writtenAt ≤ cutoffAt
  · have hok : (d.withCutoff cutoffAt).checkpointUnlocked r
        (evidenceFrozenCheckpoint r stored cutoffAt) = .ok _ :=
      checkpointUnlocked_ok_iff.mpr ⟨rfl, ⟨_, load_of_runJson (runJson_withCutoff cutoffAt hctx),
        (accepts_evidenceFrozen_iff hctx hload).mpr hle⟩, rfl⟩
    have hreload := load_of_runJson
      (d := (d.withCutoff cutoffAt).appendCheckpoint (evidenceFrozenCheckpoint r stored cutoffAt))
      hctx
    rw [hok] at heq
    simp only [hreload] at heq
    rw [FreezeAtomic, heq]
    exact ⟨fun h => ⟨hle, h.2.2⟩, fun h => ⟨hreload, rfl, h.2⟩⟩
  · have hrefused : ∃ e, (d.withCutoff cutoffAt).checkpointUnlocked r
        (evidenceFrozenCheckpoint r stored cutoffAt) = .error e := by
      cases hck : (d.withCutoff cutoffAt).checkpointUnlocked r
          (evidenceFrozenCheckpoint r stored cutoffAt) with
      | error e => exact ⟨e, rfl⟩
      | ok d' =>
        obtain ⟨-, ⟨stored', hload', hacc⟩, -⟩ := checkpointUnlocked_ok_iff.mp hck
        rw [load_of_runJson (runJson_withCutoff cutoffAt hctx), Option.some.injEq] at hload'
        subst hload'
        exact absurd ((accepts_evidenceFrozen_iff hctx hload).mp hacc) hle
    obtain ⟨e, he⟩ := hrefused
    rw [he] at heq
    rw [FreezeAtomic, heq]
    -- the cutoff file is there now, and it was not before
    have hchanged : (d.withCutoff cutoffAt).load ≠ d.load := by
      rw [load_of_runJson (runJson_withCutoff cutoffAt hctx), load_of_runJson hctx]
      intro h
      have hcut : some cutoffAt = d.frozenEvidence :=
        congrArg StoredRun.evidenceCutoffAt (Option.some.inj h)
      rw [hopen] at hcut
      cases hcut
    exact ⟨fun h => absurd h hchanged, fun h => absurd h.1 hle⟩

theorem freezeAtomic_iff_fits {r : RunId} {d : RunDir} (h : WellFormed r d)
    (cutoffAt : UtcDatetime) : FreezeAtomic r d cutoffAt ↔ d.FreezeFits cutoffAt := by
  obtain ⟨hnamed, context, hctx, -⟩ := h
  unfold FreezeFits
  cases hopen : d.frozenEvidence with
  | some t =>
    refine ⟨fun _ => Or.inl rfl, fun _ => freezeAtomic_of_refused (freezeEvidence_refused ?_)⟩
    intro stored _ hnone
    rw [hopen] at hnone
    cases hnone
  | none =>
    rcases Int.lt_or_le cutoffAt context.invokedAt with hlt | hle
    · refine ⟨fun _ => Or.inr (Or.inl ⟨context, hctx, hlt⟩),
        fun _ => freezeAtomic_of_refused (freezeEvidence_refused ?_)⟩
      intro stored hload _
      obtain ⟨-, -, -, context', hctx', hrun⟩ := load_eq_some hload
      rw [hctx, Option.some.injEq] at hctx'
      rw [hrun, boundContext_invokedAt, ← hctx']
      exact hlt
    · rw [freezeAtomic_open_iff hnamed hctx hopen hle]
      constructor
      · exact fun h => Or.inr (Or.inr h)
      · rintro (h | ⟨context', hctx', hlt⟩ | h)
        · cases h
        · rw [hctx] at hctx'
          cases hctx'
          exact absurd hlt (not_lt.mpr hle)
        · exact h

/-- **A freeze is atomic exactly when it fits**, on every run any operations
lead to and for every cutoff. -/
theorem freezeAtomic_iff (context : RunContext) (ops : List RunOp) (cutoffAt : UtcDatetime) :
    FreezeAtomic context.runId (staged context ops) cutoffAt ↔
      (staged context ops).FreezeFits cutoffAt :=
  freezeAtomic_iff_fits (staged_wellFormed context ops) cutoffAt

/-! ## A freeze that falls into the gap -/

/-- An entry dated 10 and then a freeze at 5: the call is refused, and the run
is frozen all the same. -/
theorem freeze_not_atomic :
    let context := sampleContext 1 (by decide)
    ¬ FreezeAtomic context.runId
      (staged context [.checkpoint (plainCheckpoint context.runId "CREATED" .created 10 none)])
      5 := by
  decide

end RunDir

end FinanceResearch
