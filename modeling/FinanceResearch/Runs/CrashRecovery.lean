import FinanceResearch.Runs.Revisions
import FinanceResearch.Runs.Terminal

/-!
# Process death during publication

A crash runs no handler: it leaves the repository after one of the durable steps
(`crashed`). Two calls can finish the work. `publish_atomically` needs the run in
staging, `recover_interrupted_publication` needs its receipt or the run in
`diagnostics/orphans`. Between the rename and the write of `index.json` the run
is in neither, and has no receipt unless an earlier attempt left one;
`crash_completes_iff` says that this is the only gap.
-/

namespace FinanceResearch

open Calendar (UtcDatetime)

namespace Repository

/-- The repository a crash after the durable step `p` of an accepted attempt leaves. -/
def crashed (s : Repository) (b : PublishedRunBundle) (now : UtcDatetime) (p : PublishPoint) :
    Repository :=
  s.durable b ((s.publicationTime b (some now)).getD now) p

/-- The run is published with the hashes of the bundle. -/
def HasReceipt (s : Repository) (b : PublishedRunBundle) : Prop :=
  ∃ a, s.getPublishedArtifact b.run.runId = some a ∧
    a.bundleSha256 = sha256 (canonicalBytes b) ∧
    a.markdownSha256 = sha256 (encode b.reportMarkdown)

/-- Publishing the same bundle again, or recovering the run, returns a receipt,
and the run is then published with the hashes of the bundle. -/
def Completes (validateJson : Bytes → Option PublishedRunBundle) (s : Repository)
    (b : PublishedRunBundle) (later : UtcDatetime) : Prop :=
  ((∃ a, (s.publish b (.sound later)).2 = .ok a) ∧
    (s.publish b (.sound later)).1.HasReceipt b) ∨
  ((∃ a, (s.recover validateJson b.run.runId (.sound later)).2 = .ok a) ∧
    (s.recover validateJson b.run.runId (.sound later)).1.HasReceipt b)

theorem hasReceipt_latestWritten {s : Repository} {b : PublishedRunBundle} {d : RunDir}
    {stored : StoredRun} (h : Publishable s b d stored) (t : UtcDatetime) :
    (s.latestWritten b t).HasReceipt b :=
  ⟨receipt b t, latestWritten_published h t, rfl, rfl⟩

/-- An accepted attempt passed the checks and does not conflict with the index. -/
theorem publish_accepted {s : Repository} {b : PublishedRunBundle} {now : UtcDatetime}
    (h : ∃ a, (s.publish b (.sound now)).2 = .ok a) :
    (∃ d stored, Publishable s b d stored) ∧ ∃ t, s.publicationTime b (some now) = some t := by
  obtain ⟨a, ha⟩ := h
  rcases publish_cases s b (.sound now) with
    ⟨e, -, hp⟩ | ⟨hnone, ⟨fault, e, hfault, -, -⟩ | ⟨p, t, -, -, hp⟩ | ⟨t, -, ht, -⟩⟩
  · rw [hp] at ha
    cases ha
  · cases hfault
  · rw [hp, failPublication] at ha
    split at ha <;> cases ha
  · exact ⟨publicationRefusal_eq_none.mp hnone, t, ht⟩

variable {s : Repository} {b : PublishedRunBundle} {d : RunDir} {stored : StoredRun}
  {validateJson : Bytes → Option PublishedRunBundle}

/-- A run that can be published and does not conflict is published by the next call. -/
theorem completes_of_publishable (h : Publishable s b d stored) {later t : UtcDatetime}
    (ht : s.publicationTime b (some later) = some t) : Completes validateJson s b later := by
  have hpub := publish_of_publishable h ht
  refine Or.inl ⟨⟨_, by rw [hpub]⟩, ?_⟩
  rw [hpub]
  exact hasReceipt_latestWritten h t

/-- A run that has its receipt is answered from it. -/
theorem completes_of_hasReceipt (h : s.HasReceipt b) (later : UtcDatetime) :
    Completes validateJson s b later := by
  obtain ⟨a, ha, hbytes⟩ := h
  have hrec : s.recover validateJson b.run.runId (.sound later) = (s, .ok a) := by
    rw [recover, ha]
  refine Or.inr ⟨⟨a, by rw [hrec]⟩, ?_⟩
  rw [hrec]
  exact ⟨a, ha, hbytes⟩

/-- The two staging writes leave a run that can be published. -/
theorem publishable_written (h : Publishable s b d stored) {op : RunOp}
    (hop : ∃ payload, op = .writeBundle payload ∨ op = .writeReport payload) :
    Publishable (s.writeStaged b.run.runId op) b (d.step b.run.runId op) stored := by
  have hstep : (d.step b.run.runId op).load = d.load ∧
      (d.step b.run.runId op).artifacts = d.artifacts := by
    obtain ⟨payload, rfl | rfl⟩ := hop <;> exact ⟨rfl, rfl⟩
  refine ⟨?_, ?_, ?_, h.identity, h.statuses, ?_, h.fresh, h.markdown⟩
  · unfold writeStaged runOp
    simp only [h.staged, AList.lookup_insert]
    rfl
  · rw [writeStaged, runOp_final]
    exact h.vacant
  · rw [hstep.1]
    exact h.loaded
  · intro last hlast hstage item hitem
    rw [RunDir.stagedArtifact, hstep.2]
    exact h.artifacts last hlast hstage item hitem

theorem writeStaged_entry (s : Repository) (r q : RunId) (op : RunOp) :
    (s.writeStaged r op).indexEntry q = s.indexEntry q := by
  rw [indexEntry, writeStaged, runOp_index]
  rfl

theorem publicationTime_congr {s' : Repository} {clock : Option UtcDatetime}
    (h : s'.indexEntry b.run.runId = s.indexEntry b.run.runId) :
    s'.publicationTime b clock = s.publicationTime b clock := by
  unfold publicationTime
  rw [h]

/-- An attempt that did not conflict at one time does not at another. -/
theorem publicationTime_later {now t : UtcDatetime} (later : UtcDatetime)
    (ht : s.publicationTime b (some now) = some t) :
    ∃ t', s.publicationTime b (some later) = some t' := by
  rcases publicationTime_eq_some.mp ht with ⟨hnone, -⟩ | hentry
  · exact ⟨later, publicationTime_eq_some.mpr (Or.inl ⟨hnone, rfl⟩)⟩
  · exact ⟨t, publicationTime_eq_some.mpr (Or.inr hentry)⟩

/-- After the rename, and without a receipt, neither call can go on. -/
theorem not_completes_renamed (h : Publishable s b d stored)
    (hentry : s.indexEntry b.run.runId = none) (later : UtcDatetime) :
    ¬ Completes validateJson (s.renamed b) b later := by
  have hst := renamed_staging h
  have hget : (s.renamed b).getPublishedArtifact b.run.runId = none := by
    unfold getPublishedArtifact publishedPayloads
    rw [renamed_entry, hentry]
    rfl
  rintro (⟨⟨a, ha⟩, -⟩ | ⟨⟨a, ha⟩, -⟩)
  · have href : (s.renamed b).publicationRefusal b =
        some (.publicationError "run-specific staging directory is absent") := by
      rw [publicationRefusal, hst]
    rw [publish, href] at ha
    cases ha
  · obtain ⟨e, he⟩ := recover_unavailable validateJson (.sound later) hget
      (Or.inr (Or.inl (by rw [renamed_final h]; exact Option.some_ne_none _)))
    rw [he] at ha
    cases ha

theorem hasReceipt_renamed (h : Publishable s b d stored) {t : UtcDatetime}
    (hentry : s.indexEntry b.run.runId =
      some ⟨sha256 (canonicalBytes b), sha256 (encode b.reportMarkdown), t⟩) :
    (s.renamed b).HasReceipt b := by
  refine ⟨receipt b t, getPublishedArtifact_eq_some.mpr ?_, rfl, rfl⟩
  exact ⟨_, _, _, renamed_final h, rfl, rfl, by rw [renamed_entry, hentry]; rfl, rfl, rfl, rfl⟩

theorem crash_completes_of_publishable (h : Publishable s b d stored) {now later t : UtcDatetime}
    (ht : s.publicationTime b (some now) = some t) (p : PublishPoint) :
    Completes validateJson (s.durable b t p) b later ↔
      p ≠ .renamed ∨ (s.indexEntry b.run.runId).isSome := by
  obtain ⟨t', ht'⟩ := publicationTime_later later ht
  have hbundle := publishable_written h ⟨canonicalBytes b, Or.inl rfl⟩
  have hreport := publishable_written hbundle ⟨encode b.reportMarkdown, Or.inr rfl⟩
  cases p with
  | entered => exact ⟨fun _ => Or.inl (by simp), fun _ => completes_of_publishable h ht'⟩
  | bundleWritten =>
    refine ⟨fun _ => Or.inl (by simp), fun _ => completes_of_publishable hbundle (t := t') ?_⟩
    rw [publicationTime_congr (writeStaged_entry s _ _ _), ht']
  | reportWritten =>
    refine ⟨fun _ => Or.inl (by simp), fun _ => completes_of_publishable hreport (t := t') ?_⟩
    rw [publicationTime_congr (writeStaged_entry _ _ _ _),
      publicationTime_congr (writeStaged_entry s _ _ _), ht']
  | renamed =>
    rcases publicationTime_eq_some.mp ht with ⟨hnone, -⟩ | hentry
    · rw [hnone]
      exact ⟨fun hc => absurd hc (not_completes_renamed h hnone later), fun hc => by simp at hc⟩
    · rw [hentry]
      exact ⟨fun _ => Or.inr rfl, fun _ => completes_of_hasReceipt (hasReceipt_renamed h hentry) _⟩
  | indexWritten =>
    refine ⟨fun _ => Or.inl (by simp), fun _ => completes_of_hasReceipt ?_ _⟩
    exact hasReceipt_latestWritten h t
  | latestWritten =>
    exact ⟨fun _ => Or.inl (by simp),
      fun _ => completes_of_hasReceipt (hasReceipt_latestWritten h t) _⟩

/-- **A crash is survived exactly outside the gap** between the rename and the
index, or when the index already has the receipt: for every accepted attempt,
every durable step and every later time. -/
theorem crash_completes_iff (validateJson : Bytes → Option PublishedRunBundle) (s : Repository)
    (b : PublishedRunBundle) (now later : UtcDatetime) (p : PublishPoint)
    (haccepted : ∃ a, (s.publish b (.sound now)).2 = .ok a) :
    Completes validateJson (s.crashed b now p) b later ↔
      p ≠ .renamed ∨ (s.indexEntry b.run.runId).isSome := by
  obtain ⟨⟨d, stored, h⟩, t, ht⟩ := publish_accepted haccepted
  rw [crashed, ht]
  exact crash_completes_of_publishable h ht p

/-- The characterization for a run published as it was created. -/
theorem crash_completes_iff_plain :
    let b := plainBundle (RunDir.sampleContext 1 Nat.one_pos) "report"
    let s := (empty.create b.run).1
    Completes (reads b) (s.crashed b 1 .indexWritten) b 2 ↔
      PublishPoint.indexWritten ≠ .renamed ∨ (s.indexEntry b.run.runId).isSome := by
  intro b s
  have hpub : Publishable s b (RunDir.created b.run) ((RunDir.created b.run).view b.run false) :=
    publishable_plain "report" rfl rfl
  exact crash_completes_iff (reads b) s b 1 2 .indexWritten
    ⟨_, by rw [publish_of_publishable hpub (publicationTime_eq_some.mpr (Or.inl ⟨rfl, rfl⟩))]⟩

/-! ## A crash in the gap -/

/-- An operational failure is recorded; the run is ready to publish. -/
def operationalOps (context : RunContext) : List RepoOp :=
  [.create context,
   .onRun context.runId (.checkpoint
     { RunDir.plainCheckpoint context.runId "CREATED" .created 0 none with
       dataQualityStatus := .fail }),
   .onRun context.runId
     (.stageArtifact "operational_reason" (encode ErrorCode.internalError.value)),
   .onRun context.runId (.checkpoint (RunDir.operationalEntry context.runId))]

/-- The bundle published for it. -/
def operationalBundle (context : RunContext) (report : String) : PublishedRunBundle :=
  plainBundle (context.withStatuses .published .fail .onTime) report

/-- The run's last checkpoint is an accepted `PUBLISHED` one and the bundle is
accepted; after a crash between the rename and the index nothing completes it. -/
theorem crash_not_completed :
    let context := RunDir.sampleContext 1 Nat.one_pos
    let b := operationalBundle context "report"
    let s := reached (reads b) (operationalOps context)
    (s.load context.runId).bind (fun stored => stored.checkpoints.getLast?) =
      some (RunDir.operationalEntry context.runId) ∧
    (∃ a, (s.publish b (.sound 2)).2 = .ok a) ∧
    ¬ Completes (reads b) (s.crashed b 2 .renamed) b 3 := by
  intro context b s
  have hnone : s.publicationRefusal b = none := by decide +kernel
  have hentry : s.indexEntry b.run.runId = none := by decide
  obtain ⟨d, stored, h⟩ := publicationRefusal_eq_none.mp hnone
  have ht : s.publicationTime b (some 2) = some 2 :=
    publicationTime_eq_some.mpr (Or.inl ⟨hentry, rfl⟩)
  refine ⟨by decide +kernel, ⟨_, by rw [publish_of_publishable h ht]⟩, ?_⟩
  rw [crashed, ht]
  exact not_completes_renamed h hentry 3

end Repository

end FinanceResearch
