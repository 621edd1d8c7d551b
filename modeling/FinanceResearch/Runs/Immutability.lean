import FinanceResearch.Runs.RepositorySteps

/-!
# A published run is immutable

What `get_published_artifact`, `get_report` and `load_published_bundle` answer
for a run depends on its final directory and its receipt (`Keeps`). An operation
on another run does not touch either (`Frame`); an operation on the run itself is
refused or answered from the receipt, because its final directory exists. So one
step keeps both (`step_keeps`), from *any* repository in which the run is
published, and with it every sequence of operations does.
-/

namespace FinanceResearch

namespace Repository

/-- The final directory and the receipt of `r` are what they were. -/
structure Keeps (r : RunId) (s s' : Repository) : Prop where
  final : s'.final.lookup r = s.final.lookup r
  entry : s'.indexEntry r = s.indexEntry r

theorem Keeps.refl (r : RunId) (s : Repository) : Keeps r s s := ⟨rfl, rfl⟩

theorem Frame.keeps {q r : RunId} {s s' : Repository} (h : Frame q s s') (hr : r ≠ q) :
    Keeps r s s' :=
  ⟨h.final r hr, h.entry r hr⟩

theorem Keeps.publishedPayloads {r : RunId} {s s' : Repository} (h : Keeps r s s') :
    s'.publishedPayloads r (s'.final.lookup r) = s.publishedPayloads r (s.final.lookup r) := by
  rw [h.final, publishedPayloads_congr h.entry]

theorem Keeps.getPublishedArtifact {r : RunId} {s s' : Repository} (h : Keeps r s s') :
    s'.getPublishedArtifact r = s.getPublishedArtifact r := by
  unfold Repository.getPublishedArtifact
  rw [h.publishedPayloads, h.entry]

theorem Keeps.getReport {r : RunId} {s s' : Repository} (h : Keeps r s s') :
    s'.getReport r = s.getReport r := by
  unfold Repository.getReport
  rw [h.publishedPayloads]

theorem Keeps.loadPublishedBundle {validateJson : Bytes → Option PublishedRunBundle} {r : RunId}
    {s s' : Repository} (h : Keeps r s s') :
    s'.loadPublishedBundle validateJson r = s.loadPublishedBundle validateJson r := by
  unfold Repository.loadPublishedBundle
  rw [h.publishedPayloads]

theorem keeps_runOp (s : Repository) (q r : RunId) (op : RunOp) : Keeps r s (s.runOp q op).1 :=
  ⟨by rw [runOp_final], by rw [indexEntry, runOp_index]; rfl⟩

theorem keeps_create (s : Repository) (context : RunContext) (r : RunId) :
    Keeps r s (s.create context).1 := by
  unfold create
  split
  · exact Keeps.refl r s
  · split
    · exact ⟨rfl, rfl⟩
    · split
      · split <;> exact Keeps.refl r s
      · exact ⟨rfl, rfl⟩

theorem keeps_allocate (s : Repository) (seed : RunContextSeed) (invocation : InvocationType)
    (requested : Option Int) (r : RunId) :
    Keeps r s (s.allocateRevision seed invocation requested).1 := by
  rcases allocate_cases s seed invocation requested with ⟨out, -, h⟩ | ⟨_, _, -, -, -, h⟩
  · rw [h]
    exact Keeps.refl r s
  · rw [h]
    exact ⟨rfl, rfl⟩

/-- A run with a final directory cannot be published again. -/
theorem publish_of_final {s : Repository} {b : PublishedRunBundle} {d : RunDir} (io : PublishIo)
    (h : s.final.lookup b.run.runId = some d) : (s.publish b io).1 = s := by
  rcases publish_cases s b io with ⟨e, -, hp⟩ | ⟨hnone, -⟩
  · rw [hp]
  · obtain ⟨d', stored, hpub⟩ := publicationRefusal_eq_none.mp hnone
    rw [hpub.vacant] at h
    cases h

/-- **One operation keeps a published run.** -/
theorem step_keeps (validateJson : Bytes → Option PublishedRunBundle) {s : Repository} {r : RunId}
    {a : PublishedArtifact} (h : s.getPublishedArtifact r = some a) (op : RepoOp) :
    Keeps r s (step validateJson s op) := by
  cases op with
  | allocate seed invocation requested => exact keeps_allocate s seed invocation requested r
  | create context => exact keeps_create s context r
  | onRun q op => exact keeps_runOp s q r op
  | publish b io =>
    by_cases hr : r = b.run.runId
    · obtain ⟨d, _, _, hd, -⟩ := getPublishedArtifact_eq_some.mp h
      rw [hr] at hd
      show Keeps r s (s.publish b io).1
      rw [publish_of_final io hd]
      exact Keeps.refl r s
    · exact (frame_publish s b io).keeps hr
  | recover q io =>
    by_cases hr : r = q
    · subst hr
      show Keeps r s (s.recover validateJson r io).1
      rw [recover, h]
      exact Keeps.refl r s
    · exact (frame_recover validateJson s q io).keeps hr

/-- **A published run is immutable**: whatever operations follow, on any runs and
with any failures, its receipt, report and bundle are read back unchanged. -/
theorem published_immutable (validateJson : Bytes → Option PublishedRunBundle) (s : Repository)
    (r : RunId) (a : PublishedArtifact) (h : s.getPublishedArtifact r = some a)
    (ops : List RepoOp) :
    let s' := Transitions.run (step validateJson) s ops
    s'.getPublishedArtifact r = some a ∧ s'.getReport r = s.getReport r ∧
    s'.loadPublishedBundle validateJson r = s.loadPublishedBundle validateJson r := by
  have hkeeps : Keeps r s (Transitions.run (step validateJson) s ops) := by
    refine Transitions.run_invariant (I := Keeps r s) (fun s' op hk => ?_) ops (Keeps.refl r s)
    have h' : s'.getPublishedArtifact r = some a := by rw [hk.getPublishedArtifact, h]
    have hstep := step_keeps validateJson h' op
    exact ⟨hstep.final.trans hk.final, hstep.entry.trans hk.entry⟩
  exact ⟨by rw [hkeeps.getPublishedArtifact, h], hkeeps.getReport, hkeeps.loadPublishedBundle⟩

/-- A published run while the next revision is allocated and fails to publish. -/
theorem published_immutable_sample :
    let context := RunDir.sampleContext 1 (by decide)
    let b := plainBundle context "report"
    let s := ((empty.create context).1.latestWritten b 7)
    let ops := [RepoOp.create (RunDir.sampleContext 2 (by decide)),
      .publish (plainBundle (RunDir.sampleContext 2 (by decide)) "other")
        ⟨some 8, some .afterIndexWrite, none⟩,
      .publish b (.sound 9), .recover context.runId (.sound 10)]
    (Transitions.run (step (reads b)) s ops).getPublishedArtifact context.runId =
      some (receipt b 7) := by
  intro context b s ops
  have hpub : Publishable (empty.create context).1 b (RunDir.created context)
      ((RunDir.created context).view context false) := publishable_plain "report" rfl rfl
  exact (published_immutable (reads b) s context.runId (receipt b 7)
    (latestWritten_published hpub 7) ops).1

end Repository

end FinanceResearch
