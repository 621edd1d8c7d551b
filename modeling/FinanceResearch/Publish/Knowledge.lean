import FinanceResearch.Publish.Services
import FinanceResearch.Runs.RepositorySteps

/-!
# What a service knows of a run

Between two calls of a service the run changes under it, but only one way: artifacts and
entries are added (`Grows`), and a run that leaves staging does not come back (`Later`). So
what a service has read stays true as long as it says only what is there (`Known`). A
service that appends with the number of entries it read knows more: its entry is accepted
only when the log is still the one it read (`Grows.checkpoints_eq`).

`Learns` is the rule by which the modules below follow a service through its calls.
-/

namespace FinanceResearch

open Calendar (UtcDatetime)

namespace RunDir

/-- Artifacts and entries were added; the context and the cutoff stayed. -/
structure Grows (d d' : RunDir) : Prop where
  runJson : d'.runJson = d.runJson
  frozen : d'.frozenEvidence = d.frozenEvidence
  checkpoints : d.checkpoints <+: d'.checkpoints
  artifacts : ∀ name payload, d.stagedArtifact name = some payload →
    d'.stagedArtifact name = some payload

theorem Grows.refl (d : RunDir) : d.Grows d := ⟨rfl, rfl, List.prefix_rfl, fun _ _ h => h⟩

theorem Grows.trans {d d' d'' : RunDir} (h : d.Grows d') (h' : d'.Grows d'') : d.Grows d'' :=
  ⟨h'.runJson.trans h.runJson, h'.frozen.trans h.frozen, h.checkpoints.trans h'.checkpoints,
    fun name payload hp => h'.artifacts name payload (h.artifacts name payload hp)⟩

theorem log_length (d : RunDir) : d.log.length = d.checkpoints.length := by
  rw [log, List.length_map, Listing.inNameOrder_length]

/-- A log that did not get longer did not change. -/
theorem Grows.checkpoints_eq {d d' : RunDir} (h : d.Grows d') (hlen : d.log.length = d'.log.length) :
    d'.checkpoints = d.checkpoints := by
  rw [log_length, log_length] at hlen
  exact (h.checkpoints.eq_of_length hlen).symm

theorem Grows.log_eq {d d' : RunDir} (h : d.Grows d') (hlen : d.log.length = d'.log.length) :
    d'.log = d.log := by
  rw [log, log, h.checkpoints_eq hlen]

end RunDir

/-- What can become of the run `r` between two calls. -/
def Later (r : RunId) (s t : Repository) : Prop :=
  ∀ d', t.staging.lookup r = some d' → ∃ d, s.staging.lookup r = some d ∧ d.Grows d'

theorem Later.refl (r : RunId) (s : Repository) : Later r s s :=
  fun d' h => ⟨d', h, RunDir.Grows.refl d'⟩

theorem Later.trans {r : RunId} {s t w : Repository} (h : Later r s t) (h' : Later r t w) :
    Later r s w := by
  intro d'' hd''
  obtain ⟨d', hd', hgrows'⟩ := h' d'' hd''
  obtain ⟨d, hd, hgrows⟩ := h d' hd'
  exact ⟨d, hd, hgrows.trans hgrows'⟩

/-- The run, if it is still in staging, is as `F` says. -/
def Known (r : RunId) (s : Repository) (F : RunDir → Prop) : Prop :=
  ∀ d, s.staging.lookup r = some d → F d

/-- What stays true while a run grows. -/
def Stable (F : RunDir → Prop) : Prop := ∀ d d', RunDir.Grows d d' → F d → F d'

theorem Known.later {r : RunId} {s t : Repository} {F : RunDir → Prop} (h : Known r s F)
    (hF : Stable F) (hlater : Later r s t) : Known r t F := by
  intro d' hd'
  obtain ⟨d, hd, hgrows⟩ := hlater d' hd'
  exact hF d d' hgrows (h d hd)

theorem Known.mono {r : RunId} {s : Repository} {F G : RunDir → Prop} (h : Known r s F)
    (hG : ∀ d, F d → G d) : Known r s G := fun d hd => hG d (h d hd)

/-- The run was read as `stored`, and has grown since. -/
def Observed (stored : StoredRun) (d : RunDir) : Prop :=
  ∃ d₀ : RunDir, d₀.load = some stored ∧ d₀.Grows d

theorem observed_stable (stored : StoredRun) : Stable (Observed stored) := by
  intro d d' hgrows h
  obtain ⟨d₀, hload, hgrows₀⟩ := h
  exact ⟨d₀, hload, hgrows₀.trans hgrows⟩

theorem stagedArtifact_stable (name : String) (payload : Bytes) :
    Stable fun d => d.stagedArtifact name = some payload :=
  fun _ _ hgrows h => hgrows.artifacts name payload h

/-- A log of the length that was read is the log that was read, and so is all the rest. -/
theorem Observed.load_eq {stored : StoredRun} {d : RunDir} (h : Observed stored d)
    (hlen : d.log.length = stored.checkpoints.length) : d.load = some stored := by
  obtain ⟨d₀, hload, hgrows⟩ := h
  obtain ⟨hlog, hcut, hpub, context, hctx, hrun⟩ := RunDir.load_eq_some hload
  have hcheckpoints : d.log = d₀.log := hgrows.log_eq (by rw [hlen, hlog])
  rw [RunDir.load_of_runJson (hgrows.runJson.trans hctx)]
  rw [RunDir.load_of_runJson hctx] at hload
  rw [← hload]
  simp only [RunDir.view, RunDir.boundContext, hgrows.frozen, hcheckpoints]

/-! ## What the calls do to a run in staging -/

theorem RunDir.grows_staged {d : RunDir} {name : String} {payload : Bytes}
    (hfresh : d.stagedArtifact name = none) :
    d.Grows { d with artifacts := (name, payload) :: d.artifacts } := by
  refine ⟨rfl, rfl, List.prefix_rfl, ?_⟩
  intro other bytes hbytes
  have hne : other ≠ name := fun he => by rw [he, hfresh] at hbytes; cases hbytes
  rw [stagedArtifact, List.lookup_cons, beq_false_of_ne hne]
  exact hbytes

/-- An accepted append found the number of entries it expected. -/
theorem RunDir.checkpointIfCurrent_count {r : RunId} {d d' : RunDir} {c : RunCheckpoint}
    {expectedCount : Nat} (h : d.checkpointIfCurrent r c expectedCount = .ok d') :
    d.log.length = expectedCount := by
  unfold RunDir.checkpointIfCurrent at h
  split at h
  · cases h
  · split at h
    · cases h
    next stored hload =>
      split at h
      · cases h
      next hcount =>
        rw [← (load_eq_some hload).1]
        omega

/-- Staging an artifact, refused or not. -/
theorem stage_kept (s : Repository) (r : RunId) (name : String) (payload : Bytes) :
    ∀ d', (s.runOp r (.stageArtifact name payload)).1.staging.lookup r = some d' →
      ∃ d, s.staging.lookup r = some d ∧ d.Grows d' ∧ d'.checkpoints = d.checkpoints := by
  intro d' hd'
  unfold Repository.runOp at hd'
  cases hs : s.staging.lookup r with
  | none => simp only [hs] at hd'; cases hd'
  | some d =>
    simp only [hs, AList.lookup_insert, Option.some.injEq, RunDir.apply] at hd'
    refine ⟨d, rfl, ?_⟩
    cases h : d.stageArtifact name payload with
    | error e =>
      rw [h] at hd'
      rw [← hd']
      exact ⟨RunDir.Grows.refl d, rfl⟩
    | ok out =>
      rw [h] at hd'
      obtain ⟨d₁, digest⟩ := out
      replace hd' : d₁ = d' := hd'
      rw [← hd']
      rcases (RunDir.stageArtifact_cases h).2 with ⟨hsame, -⟩ | ⟨hnew, hfresh, -⟩
      · rw [hsame]
        exact ⟨RunDir.Grows.refl d, rfl⟩
      · rw [hnew]
        exact ⟨RunDir.grows_staged hfresh, rfl⟩

/-- An artifact that was staged is there. -/
theorem stage_ok {s : Repository} {r : RunId} {name : String} {payload : Bytes}
    (h : (s.runOp r (.stageArtifact name payload)).2 = .ok ()) :
    Known r (s.runOp r (.stageArtifact name payload)).1
      fun d => d.stagedArtifact name = some payload := by
  intro d' hd'
  unfold Repository.runOp at h hd'
  cases hs : s.staging.lookup r with
  | none => simp only [hs] at h; cases h
  | some d =>
    simp only [hs, RunDir.apply, AList.lookup_insert, Option.some.injEq] at h hd'
    cases hstage : d.stageArtifact name payload with
    | error e => rw [hstage] at h; cases h
    | ok out =>
      rw [hstage] at hd'
      obtain ⟨d₁, digest⟩ := out
      replace hd' : d₁ = d' := hd'
      rw [← hd']
      rcases (RunDir.stageArtifact_cases hstage).2 with ⟨hsame, hthere⟩ | ⟨hnew, -, -⟩
      · rw [hsame]
        exact hthere
      · rw [hnew, RunDir.stagedArtifact, List.lookup_cons, beq_self_eq_true]

/-- Writing one of the two files of a publication. -/
theorem writeStaged_kept {s : Repository} {r : RunId} {op : RunOp}
    (hop : (∃ payload, op = .writeBundle payload) ∨ ∃ payload, op = .writeReport payload) :
    ∀ d', (s.writeStaged r op).staging.lookup r = some d' →
      ∃ d, s.staging.lookup r = some d ∧ d.Grows d' ∧ d'.checkpoints = d.checkpoints := by
  intro d' hd'
  unfold Repository.writeStaged Repository.runOp at hd'
  cases hs : s.staging.lookup r with
  | none => simp only [hs] at hd'; cases hd'
  | some d =>
    refine ⟨d, rfl, ?_⟩
    rcases hop with ⟨payload, hop⟩ | ⟨payload, hop⟩
    · simp only [hs, hop, AList.lookup_insert, Option.some.injEq, RunDir.apply] at hd'
      rw [← hd']
      exact ⟨⟨rfl, rfl, List.prefix_rfl, fun _ _ h => h⟩, rfl⟩
    · simp only [hs, hop, AList.lookup_insert, Option.some.injEq, RunDir.apply] at hd'
      rw [← hd']
      exact ⟨⟨rfl, rfl, List.prefix_rfl, fun _ _ h => h⟩, rfl⟩

theorem failPublication_staging (s : Repository) (r : RunId) (fault : Option QuarantineFault) :
    (s.failPublication r fault).1.staging = s.staging := by
  have hquarantine : (s.quarantine r fault).1.staging = s.staging := by
    unfold Repository.quarantine
    split
    · split <;> rfl
    · rfl
  unfold Repository.failPublication
  split
  next s' heq =>
    rw [heq] at hquarantine
    exact hquarantine
  next s' heq =>
    rw [heq] at hquarantine
    exact hquarantine

/-- An attempt to publish leaves the directory in staging as it was, up to the two files of
the publication, and is refused; or it takes the directory away. -/
theorem publish_effect (s : Repository) (b : PublishedRunBundle) (io : PublishIo) :
    ((∃ e, (s.publish b io).2 = .error e) ∧
      ∀ d', (s.publish b io).1.staging.lookup b.run.runId = some d' →
        ∃ d, s.staging.lookup b.run.runId = some d ∧ d.Grows d' ∧
          d'.checkpoints = d.checkpoints) ∨
    (s.publish b io).1.staging.lookup b.run.runId = none ∧
      ∃ d stored, Repository.Publishable s b d stored := by
  have hbundle := writeStaged_kept (s := s) (r := b.run.runId)
    (Or.inl ⟨canonicalBytes b, rfl⟩)
  have hreport : ∀ d', (s.reportWritten b).staging.lookup b.run.runId = some d' →
      ∃ d, s.staging.lookup b.run.runId = some d ∧ d.Grows d' ∧
        d'.checkpoints = d.checkpoints := by
    intro d' hd'
    obtain ⟨m, hm, hgrows, hsame⟩ := writeStaged_kept (Or.inr ⟨_, rfl⟩) d' hd'
    obtain ⟨d, hd, hgrows', hsame'⟩ := hbundle m hm
    exact ⟨d, hd, hgrows'.trans hgrows, hsame.trans hsame'⟩
  rcases Repository.publish_cases s b io with ⟨e, -, hp⟩ | ⟨href, hcases⟩
  · rw [hp]
    exact Or.inl ⟨⟨e, rfl⟩, fun d' hd' => ⟨d', hd', RunDir.Grows.refl d', rfl⟩⟩
  · obtain ⟨d, stored, hpublishable⟩ := Repository.publicationRefusal_eq_none.mp href
    rcases hcases with ⟨fault, e, -, herr, hp⟩ | ⟨p, t, hrenamed, -, hp⟩ | ⟨t, -, -, hp⟩
    · rw [hp]
      refine Or.inl ⟨⟨e, rfl⟩, ?_⟩
      -- a fault before the rename comes after no write, the first, or both
      cases fault <;> first
        | exact fun d' hd' => ⟨d', hd', RunDir.Grows.refl d', rfl⟩
        | exact hbundle
        | exact hreport
        | cases herr
    · rw [hp]
      refine Or.inr ⟨?_, d, stored, hpublishable⟩
      rw [failPublication_staging]
      exact Repository.durable_staging hpublishable hrenamed t
    · rw [hp]
      exact Or.inr ⟨Repository.renamed_staging hpublishable, d, stored, hpublishable⟩

/-- An operation leaves a run in staging there. -/
theorem Repository.runOp_staged {s : Repository} {r : RunId} {d : RunDir}
    (h : s.staging.lookup r = some d) (op : RunOp) :
    ∃ d', (s.runOp r op).1.staging.lookup r = some d' := by
  unfold Repository.runOp
  simp only [h, AList.lookup_insert]
  exact ⟨_, rfl⟩

/-- What an accepted append found, and what it left. -/
theorem append_ok {s : Repository} {r : RunId} {c : RunCheckpoint} {expectedCount : Nat}
    (h : (s.runOp r (.checkpointIfCurrent c expectedCount)).2 = .ok ()) :
    ∃ d stored, s.staging.lookup r = some d ∧ d.load = some stored ∧
      d.log.length = expectedCount ∧ c.runId = r ∧ Accepts d stored c ∧
      (s.runOp r (.checkpointIfCurrent c expectedCount)).1.staging.lookup r =
        some (d.appendCheckpoint c) := by
  unfold Repository.runOp at h ⊢
  cases hs : s.staging.lookup r with
  | none => simp only [hs] at h; cases h
  | some d =>
    simp only [hs, RunDir.apply, AList.lookup_insert] at h ⊢
    cases hdone : d.checkpointIfCurrent r c expectedCount with
    | error e => rw [hdone] at h; cases h
    | ok d' =>
      obtain ⟨howner, ⟨stored, hload, haccepts⟩, hafter⟩ :=
        checkpointUnlocked_ok_iff.mp (RunDir.checkpointIfCurrent_ok hdone)
      refine ⟨d, stored, rfl, hload, RunDir.checkpointIfCurrent_count hdone, howner, haccepts, ?_⟩
      simp only [RunDir.attempt, hafter]

/-- A refused append leaves the directory as it was. -/
theorem append_error {s : Repository} {r : RunId} {c : RunCheckpoint} {expectedCount : Nat}
    {e : StoreError} (h : (s.runOp r (.checkpointIfCurrent c expectedCount)).2 = .error e) :
    (s.runOp r (.checkpointIfCurrent c expectedCount)).1.staging.lookup r =
      s.staging.lookup r := by
  unfold Repository.runOp at h ⊢
  cases hs : s.staging.lookup r with
  | none => simp only [hs]
  | some d =>
    simp only [hs, RunDir.apply, AList.lookup_insert] at h ⊢
    cases hdone : d.checkpointIfCurrent r c expectedCount with
    | error e' => simp only [RunDir.attempt]
    | ok d' => rw [hdone] at h; cases h

/-- Everything one call can do to the run `r`: an artifact or a file of the publication, an
entry, or the end of its staging. -/
inductive Touch (readers : Readers) (r : RunId) (s : Repository) (port : Port) : Prop where
  | kept (h : ∀ d', (port.exec readers s).1.staging.lookup r = some d' →
      ∃ d, s.staging.lookup r = some d ∧ d.Grows d' ∧ d'.checkpoints = d.checkpoints)
  | recorded (c : RunCheckpoint) (expectedCount : Nat) (d : RunDir) (stored : StoredRun)
      (hport : port = .checkpointIfCurrent r c expectedCount)
      (hstaged : s.staging.lookup r = some d) (hload : d.load = some stored)
      (hcount : d.log.length = expectedCount) (howner : c.runId = r)
      (haccepts : Accepts d stored c)
      (hafter : (port.exec readers s).1.staging.lookup r = some (d.appendCheckpoint c))
      (hanswer : (s.runOp r (.checkpointIfCurrent c expectedCount)).2 = .ok ())

theorem touch_same {readers : Readers} {r : RunId} {s : Repository} {port : Port}
    (h : (port.exec readers s).1.staging.lookup r = s.staging.lookup r) :
    Touch readers r s port :=
  .kept fun d' hd' => ⟨d', by rwa [← h], RunDir.Grows.refl d', rfl⟩

theorem touch (readers : Readers) (r : RunId) (s : Repository) (port : Port) :
    Touch readers r s port := by
  cases port with
  | load q => exact touch_same rfl
  | readStagedArtifact q name => exact touch_same rfl
  | loadPublishedBundle q => exact touch_same rfl
  | getReport q => exact touch_same rfl
  | getPublishedArtifact q => exact touch_same rfl
  | stageArtifact q name payload =>
    by_cases hq : q = r
    · rw [hq]
      exact .kept (stage_kept s r name payload)
    · exact touch_same ((Repository.frame_runOp s q _).staging r (Ne.symm hq))
  | publishAtomically b io =>
    by_cases hq : b.run.runId = r
    · rcases publish_effect s b io with ⟨-, hkept⟩ | ⟨hgone, -⟩
      · exact .kept (by rw [← hq]; exact hkept)
      · refine .kept fun d' hd' => ?_
        rw [← hq] at hd'
        exact absurd (hgone.symm.trans hd') (by simp)
    · exact touch_same ((Repository.frame_publish s b io).staging r (Ne.symm hq))
  | checkpointIfCurrent q c expectedCount =>
    by_cases hq : q = r
    · rw [hq]
      cases hdone : (s.runOp r (.checkpointIfCurrent c expectedCount)).2 with
      | error e => exact touch_same (append_error hdone)
      | ok done =>
        obtain ⟨d, stored, hs, hload, hcount, howner, haccepts, hafter⟩ := append_ok hdone
        exact .recorded c expectedCount d stored rfl hs hload hcount howner haccepts hafter hdone
    · exact touch_same ((Repository.frame_runOp s q _).staging r (Ne.symm hq))

/-- The entries of the run are numbered. -/
def Numbered (r : RunId) (s : Repository) : Prop := Known r s RunDir.SequenceNamed

theorem RunDir.grows_append {d : RunDir} (h : d.SequenceNamed) (c : RunCheckpoint) :
    d.Grows (d.appendCheckpoint c) :=
  ⟨rfl, rfl, by rw [RunDir.appendCheckpoint_checkpoints h]; exact List.prefix_append _ _,
    fun _ _ hp => hp⟩

theorem RunDir.sequenceNamed_congr {d d' : RunDir} (h : d'.checkpoints = d.checkpoints)
    (hnamed : d.SequenceNamed) : d'.SequenceNamed := by
  unfold RunDir.SequenceNamed at hnamed ⊢
  rw [h]
  exact hnamed

/-- No call does more to the run than let it grow. -/
theorem later_exec {readers : Readers} {r : RunId} {s : Repository} (hnumbered : Numbered r s)
    (port : Port) : Later r s (port.exec readers s).1 ∧ Numbered r (port.exec readers s).1 := by
  cases touch readers r s port with
  | kept h =>
    refine ⟨fun d' hd' => ?_, fun d' hd' => ?_⟩
    · obtain ⟨d, hd, hgrows, -⟩ := h d' hd'
      exact ⟨d, hd, hgrows⟩
    · obtain ⟨d, hd, -, hsame⟩ := h d' hd'
      exact RunDir.sequenceNamed_congr hsame (hnumbered d hd)
  | recorded c expectedCount d stored hport hstaged hload hcount howner haccepts hafter =>
    have hnamed := hnumbered d hstaged
    refine ⟨fun d' hd' => ?_, fun d' hd' => ?_⟩
    · rw [hafter, Option.some.injEq] at hd'
      rw [← hd']
      exact ⟨d, hstaged, RunDir.grows_append hnamed c⟩
    · rw [hafter, Option.some.injEq] at hd'
      rw [← hd']
      exact RunDir.sequenceNamed_append hnamed c

end FinanceResearch
