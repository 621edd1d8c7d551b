import FinanceResearch.Runs.Publication

/-!
# What each repository operation does

One inversion lemma per operation and one frame: an operation touches a single
run (`Frame`), and what it does to that run's three possible directories and to
its receipt is said once here. `publish_cases` splits an attempt into refused,
stopped in staging, stopped after the rename, completed; the lookups after each
durable step are the simp lemmas `renamed_…`, `indexWritten_…`.

`publish_attempt` and `recover_cases` list the outcomes of the two operations
that move a run.
-/

namespace FinanceResearch

open Calendar (Date UtcDatetime)

namespace RunDir

/-- The directory with the two files of a publication. -/
def withPublication (d : RunDir) (b : PublishedRunBundle) : RunDir :=
  { d with bundleJson := some (canonicalBytes b), reportMd := some (encode b.reportMarkdown) }

@[simp] theorem withPublication_bundleJson (d : RunDir) (b : PublishedRunBundle) :
    (d.withPublication b).bundleJson = some (canonicalBytes b) := rfl
@[simp] theorem withPublication_reportMd (d : RunDir) (b : PublishedRunBundle) :
    (d.withPublication b).reportMd = some (encode b.reportMarkdown) := rfl
@[simp] theorem withPublication_load (d : RunDir) (b : PublishedRunBundle) :
    (d.withPublication b).load = d.load := rfl

end RunDir

namespace Repository

/-! ## The frame of one run -/

/-- Nothing changed but files of the run `r` and the date's `latest.json`. -/
structure Frame (r : RunId) (s s' : Repository) : Prop where
  staging : ∀ q, q ≠ r → s'.staging.lookup q = s.staging.lookup q
  final : ∀ q, q ≠ r → s'.final.lookup q = s.final.lookup q
  orphans : ∀ q, q ≠ r → s'.orphans.lookup q = s.orphans.lookup q
  entry : ∀ q, q ≠ r → s'.indexEntry q = s.indexEntry q
  latest : ∀ date, date ≠ r.marketDate → s'.latest date = s.latest date

theorem Frame.refl (r : RunId) (s : Repository) : Frame r s s :=
  ⟨fun _ _ => rfl, fun _ _ => rfl, fun _ _ => rfl, fun _ _ => rfl, fun _ _ => rfl⟩

theorem Frame.trans {r : RunId} {s s' s'' : Repository} (h : Frame r s s') (h' : Frame r s' s'') :
    Frame r s s'' :=
  ⟨fun q hq => (h'.staging q hq).trans (h.staging q hq),
   fun q hq => (h'.final q hq).trans (h.final q hq),
   fun q hq => (h'.orphans q hq).trans (h.orphans q hq),
   fun q hq => (h'.entry q hq).trans (h.entry q hq),
   fun date hd => (h'.latest date hd).trans (h.latest date hd)⟩

theorem frame_runOp (s : Repository) (r : RunId) (op : RunOp) : Frame r s (s.runOp r op).1 := by
  unfold runOp
  split
  · exact Frame.refl r s
  · exact ⟨fun q hq => AList.lookup_insert_ne hq, fun _ _ => rfl, fun _ _ => rfl, fun _ _ => rfl,
      fun _ _ => rfl⟩

theorem frame_create (s : Repository) (context : RunContext) :
    Frame context.runId s (s.create context).1 := by
  unfold create
  split
  · exact Frame.refl _ s
  · split
    · exact ⟨fun q hq => AList.lookup_insert_ne hq, fun _ _ => rfl, fun _ _ => rfl, fun _ _ => rfl,
        fun _ _ => rfl⟩
    · split
      · split <;> exact Frame.refl _ s
      · exact ⟨fun q hq => AList.lookup_insert_ne hq, fun _ _ => rfl, fun _ _ => rfl,
          fun _ _ => rfl, fun _ _ => rfl⟩

theorem frame_rename (s : Repository) (r : RunId) : Frame r s (s.rename r) := by
  unfold rename
  split
  · exact Frame.refl r s
  · exact ⟨fun q hq => AList.lookup_erase_ne hq, fun q hq => AList.lookup_insert_ne hq,
      fun _ _ => rfl, fun _ _ => rfl, fun _ _ => rfl⟩

theorem frame_restore (s : Repository) (r : RunId) (d : RunDir) : Frame r s (s.restore r d) :=
  ⟨fun _ hq => AList.lookup_insert_ne hq, fun _ _ => rfl, fun _ hq => AList.lookup_erase_ne hq,
    fun _ _ => rfl, fun _ _ => rfl⟩

theorem frame_quarantine (s : Repository) (r : RunId) (fault : Option QuarantineFault) :
    Frame r s (s.quarantine r fault).1 := by
  have hmoved : ∀ d, Frame r s
      { s with final := s.final.erase r, orphans := s.orphans.insert r d } := fun d =>
    ⟨fun _ _ => rfl, fun _ hq => AList.lookup_erase_ne hq, fun _ hq => AList.lookup_insert_ne hq,
      fun _ _ => rfl, fun _ _ => rfl⟩
  unfold quarantine
  split
  · split
    · exact Frame.refl r s
    · exact hmoved _
    · exact hmoved _
  · exact Frame.refl r s

theorem writeIndex_index (s : Repository) (a : PublishedArtifact) :
    (s.writeIndex a).index = Function.update s.index a.runId.marketDate
      (some (((s.index a.runId.marketDate).getD ∅).insert a.runId
        ⟨a.bundleSha256, a.markdownSha256, a.publishedAt⟩)) := rfl

/-- The receipt of the run after `index.json` is written. -/
theorem writeIndex_entry_self (s : Repository) (a : PublishedArtifact) :
    (s.writeIndex a).indexEntry a.runId =
      some ⟨a.bundleSha256, a.markdownSha256, a.publishedAt⟩ := by
  rw [indexEntry, writeIndex_index, Function.update_self, Option.bind_some, AList.lookup_insert]

theorem writeIndex_entry_ne (s : Repository) (a : PublishedArtifact) {q : RunId}
    (hq : q ≠ a.runId) : (s.writeIndex a).indexEntry q = s.indexEntry q := by
  rw [indexEntry, indexEntry, writeIndex_index]
  by_cases hd : q.marketDate = a.runId.marketDate
  · rw [hd, Function.update_self, Option.bind_some, AList.lookup_insert_ne hq]
    cases s.index a.runId.marketDate with
    | none => rfl
    | some index => rfl
  · rw [Function.update_of_ne hd]

theorem frame_writeIndex (s : Repository) (a : PublishedArtifact) :
    Frame a.runId s (s.writeIndex a) :=
  ⟨fun _ _ => rfl, fun _ _ => rfl, fun _ _ => rfl, fun _ hq => writeIndex_entry_ne s a hq,
    fun _ _ => rfl⟩

theorem frame_writeLatest (s : Repository) (r : RunId) :
    Frame r s (s.writeLatest r.marketDate) :=
  ⟨fun _ _ => rfl, fun _ _ => rfl, fun _ _ => rfl, fun _ _ => rfl,
    fun _ hd => Function.update_of_ne hd _ _⟩

theorem frame_reportWritten (s : Repository) (b : PublishedRunBundle) :
    Frame b.run.runId s (s.reportWritten b) :=
  (frame_runOp s _ _).trans (frame_runOp _ _ _)

theorem frame_renamed (s : Repository) (b : PublishedRunBundle) :
    Frame b.run.runId s (s.renamed b) :=
  (frame_reportWritten s b).trans (frame_rename _ _)

theorem frame_durable (s : Repository) (b : PublishedRunBundle) (t : UtcDatetime)
    (p : PublishPoint) : Frame b.run.runId s (s.durable b t p) := by
  have hindex : Frame b.run.runId s (s.indexWritten b t) :=
    (frame_renamed s b).trans (frame_writeIndex _ (receipt b t))
  cases p with
  | entered => exact Frame.refl _ s
  | bundleWritten => exact frame_runOp s _ _
  | reportWritten => exact frame_reportWritten s b
  | renamed => exact frame_renamed s b
  | indexWritten => exact hindex
  | latestWritten => exact hindex.trans (frame_writeLatest _ _)

/-! ## The checks of a publication -/

/-- What the checks before the first write establish. -/
structure Publishable (s : Repository) (b : PublishedRunBundle) (d : RunDir) (stored : StoredRun) :
    Prop where
  staged : s.staging.lookup b.run.runId = some d
  vacant : s.final.lookup b.run.runId = none
  loaded : d.load = some stored
  identity : b.run.withStatuses stored.run.executionStatus stored.run.dataQualityStatus
    stored.run.deliveryStatus = stored.run
  statuses : stored.checkpoints ≠ [] →
    (b.run.executionStatus, b.run.dataQualityStatus, b.run.deliveryStatus) = stored.latestStatuses
  artifacts : ∀ last ∈ stored.checkpoints.getLast?, last.stage = "PUBLISHED" →
    last.StagedHashesValid d
  fresh : stored.checkpoints = [] → b.run = stored.run
  markdown : b.markdownSha256 = some (sha256 (encode b.reportMarkdown))

theorem publicationRefusal_eq_none {s : Repository} {b : PublishedRunBundle} :
    s.publicationRefusal b = none ↔ ∃ d stored, Publishable s b d stored := by
  unfold publicationRefusal
  constructor
  · intro h
    split at h
    · cases h
    next d hd =>
      split at h
      · cases h
      next hfinal =>
        split at h
        · cases h
        next stored hload =>
          split at h
          · cases h
          next hid =>
            split at h
            · cases h
            next hst =>
              split at h
              · cases h
              next hart =>
                split at h
                · cases h
                next hfresh =>
                  split at h
                  · cases h
                  next hnone =>
                    split at h
                    · cases h
                    next hmd =>
                      refine ⟨d, stored, hd, by simpa using hfinal, hload, not_not.mp hid, ?_, ?_,
                        ?_, not_not.mp hmd⟩
                      · exact fun hne => not_not.mp fun hn => hst ⟨hne, hn⟩
                      · exact fun last hlast hp => not_not.mp fun hn => hart ⟨last, hlast, hp, hn⟩
                      · exact fun hnil => not_not.mp fun hn => hfresh ⟨hnil, hn⟩
  · rintro ⟨d, stored, h⟩
    simp only [h.staged, h.vacant, h.loaded]
    rw [if_neg (by simp), if_neg (not_not.mpr h.identity),
      if_neg fun hx => hx.2 (h.statuses hx.1),
      if_neg fun ⟨last, hlast, hp, hn⟩ => hn (h.artifacts last hlast hp),
      if_neg fun hx => hx.2 (h.fresh hx.1), if_neg (by rw [h.markdown]; exact Option.some_ne_none _),
      if_neg (not_not.mpr h.markdown)]

/-- The bundle's run is the staged one at the statuses of its last checkpoint. -/
theorem Publishable.run_eq {s : Repository} {b : PublishedRunBundle} {d : RunDir}
    {stored : StoredRun} (h : Publishable s b d stored) {c : RunCheckpoint}
    (hc : stored.checkpoints.getLast? = some c) :
    b.run = stored.run.withStatuses c.executionStatus c.dataQualityStatus c.deliveryStatus := by
  have hne : stored.checkpoints ≠ [] := fun hnil => by rw [hnil] at hc; cases hc
  have hst := h.statuses hne
  rw [StoredRun.latestStatuses, hc] at hst
  simp only [Prod.mk.injEq] at hst
  rw [← h.identity, ← hst.1, ← hst.2.1, ← hst.2.2]
  rfl

/-! ## The durable states -/

section Durable

variable {s : Repository} {b : PublishedRunBundle} {d : RunDir} {stored : StoredRun}

theorem reportWritten_staging (h : Publishable s b d stored) :
    (s.reportWritten b).staging.lookup b.run.runId = some (d.withPublication b) := by
  unfold reportWritten bundleWritten writeStaged runOp
  simp only [h.staged, AList.lookup_insert]
  rfl

theorem renamed_eq (h : Publishable s b d stored) :
    s.renamed b = { s.reportWritten b with
      staging := (s.reportWritten b).staging.erase b.run.runId
      final := (s.reportWritten b).final.insert b.run.runId (d.withPublication b) } := by
  rw [renamed, rename, reportWritten_staging h]

@[simp] theorem runOp_final (s : Repository) (r : RunId) (op : RunOp) :
    (s.runOp r op).1.final = s.final := by
  unfold runOp
  split <;> rfl

@[simp] theorem runOp_orphans (s : Repository) (r : RunId) (op : RunOp) :
    (s.runOp r op).1.orphans = s.orphans := by
  unfold runOp
  split <;> rfl

@[simp] theorem runOp_index (s : Repository) (r : RunId) (op : RunOp) :
    (s.runOp r op).1.index = s.index := by
  unfold runOp
  split <;> rfl

@[simp] theorem runOp_latest (s : Repository) (r : RunId) (op : RunOp) :
    (s.runOp r op).1.latest = s.latest := by
  unfold runOp
  split <;> rfl

@[simp] theorem rename_orphans (s : Repository) (r : RunId) : (s.rename r).orphans = s.orphans := by
  unfold rename
  split <;> rfl

@[simp] theorem rename_index (s : Repository) (r : RunId) : (s.rename r).index = s.index := by
  unfold rename
  split <;> rfl

@[simp] theorem rename_latest (s : Repository) (r : RunId) : (s.rename r).latest = s.latest := by
  unfold rename
  split <;> rfl

@[simp] theorem renamed_orphans : (s.renamed b).orphans = s.orphans := by
  simp [renamed, reportWritten, bundleWritten, writeStaged]

@[simp] theorem renamed_index : (s.renamed b).index = s.index := by
  simp [renamed, reportWritten, bundleWritten, writeStaged]

@[simp] theorem renamed_latest : (s.renamed b).latest = s.latest := by
  simp [renamed, reportWritten, bundleWritten, writeStaged]

theorem renamed_staging (h : Publishable s b d stored) :
    (s.renamed b).staging.lookup b.run.runId = none := by
  rw [renamed_eq h]
  exact AList.lookup_erase _ _

theorem renamed_final (h : Publishable s b d stored) :
    (s.renamed b).final.lookup b.run.runId = some (d.withPublication b) := by
  rw [renamed_eq h]
  exact AList.lookup_insert _

/-- A point at which the run is already renamed. -/
def PublishPoint.IsRenamed (p : PublishPoint) : Prop :=
  p = .renamed ∨ p = .indexWritten ∨ p = .latestWritten

theorem durable_staging (h : Publishable s b d stored) {p : PublishPoint} (hp : PublishPoint.IsRenamed p)
    (t : UtcDatetime) : (s.durable b t p).staging.lookup b.run.runId = none := by
  rcases hp with rfl | rfl | rfl <;> exact renamed_staging h

theorem durable_final (h : Publishable s b d stored) {p : PublishPoint} (hp : PublishPoint.IsRenamed p)
    (t : UtcDatetime) :
    (s.durable b t p).final.lookup b.run.runId = some (d.withPublication b) := by
  rcases hp with rfl | rfl | rfl <;> exact renamed_final h

theorem durable_orphans {p : PublishPoint} (t : UtcDatetime) :
    (s.durable b t p).orphans = s.orphans := by
  cases p with
  | entered => rfl
  | bundleWritten => exact runOp_orphans _ _ _
  | reportWritten => exact (runOp_orphans _ _ _).trans (runOp_orphans _ _ _)
  | renamed => exact renamed_orphans
  | indexWritten => exact renamed_orphans
  | latestWritten => exact renamed_orphans

/-- The receipt of the run once `index.json` is written. -/
theorem indexWritten_entry (s : Repository) (b : PublishedRunBundle) (t : UtcDatetime) :
    (s.indexWritten b t).indexEntry b.run.runId =
      some ⟨sha256 (canonicalBytes b), sha256 (encode b.reportMarkdown), t⟩ :=
  writeIndex_entry_self _ (receipt b t)

theorem latestWritten_entry (s : Repository) (b : PublishedRunBundle) (t : UtcDatetime) :
    (s.latestWritten b t).indexEntry b.run.runId =
      some ⟨sha256 (canonicalBytes b), sha256 (encode b.reportMarkdown), t⟩ :=
  indexWritten_entry s b t

theorem renamed_entry (q : RunId) : (s.renamed b).indexEntry q = s.indexEntry q := by
  rw [indexEntry, renamed_index]
  rfl

end Durable

/-! ## Publication -/

/-- A fault that is not handled in staging comes after the rename. -/
theorem isRenamed_of_stagingError {fault : PublishFault} (h : fault.stagingError = none) :
    PublishPoint.IsRenamed fault.point := by
  cases fault <;> first
    | exact Or.inl rfl
    | exact Or.inr (Or.inl rfl)
    | exact Or.inr (Or.inr rfl)
    | cases h

/-- Everything an attempt past the checks can do. -/
theorem publish_attempt {s : Repository} {b : PublishedRunBundle} (io : PublishIo)
    (href : s.publicationRefusal b = none) :
    (∃ fault e, io.fault = some fault ∧ fault.stagingError = some e ∧
      s.publish b io = (s.durable b 0 fault.point, .error e)) ∨
    (s.publicationTime b io.clock = none ∧
      s.publish b io = (s.renamed b).failPublication b.run.runId io.quarantine) ∨
    (∃ fault t, io.fault = some fault ∧ fault.stagingError = none ∧
      s.publicationTime b io.clock = some t ∧
      s.publish b io = (s.durable b t fault.point).failPublication b.run.runId io.quarantine) ∨
    (∃ t, io.fault = none ∧ s.publicationTime b io.clock = some t ∧
      s.publish b io = (s.latestWritten b t, .ok (receipt b t))) := by
  unfold publish
  rw [href]
  cases hfault : io.fault with
  | none =>
    cases ht : s.publicationTime b io.clock with
    | none => exact Or.inr (Or.inl ⟨rfl, rfl⟩)
    | some t => exact Or.inr (Or.inr (Or.inr ⟨t, rfl, rfl, rfl⟩))
  | some fault =>
    cases herr : fault.stagingError with
    | some e =>
      refine Or.inl ⟨fault, e, rfl, herr, ?_⟩
      simp only [Option.bind_some, herr, Option.map_some]
    | none =>
      simp only [Option.bind_some, herr, Option.map_none]
      cases ht : s.publicationTime b io.clock with
      | none => exact Or.inr (Or.inl ⟨rfl, rfl⟩)
      | some t => exact Or.inr (Or.inr (Or.inl ⟨fault, t, rfl, herr, rfl, rfl⟩))

/-- The same by the last durable step. -/
theorem publish_cases (s : Repository) (b : PublishedRunBundle) (io : PublishIo) :
    (∃ e, s.publicationRefusal b = some e ∧ s.publish b io = (s, .error e)) ∨
    s.publicationRefusal b = none ∧
      ((∃ fault e, io.fault = some fault ∧ fault.stagingError = some e ∧
          s.publish b io = (s.durable b 0 fault.point, .error e)) ∨
       (∃ p t, PublishPoint.IsRenamed p ∧
          (p = .renamed ∨ s.publicationTime b io.clock = some t) ∧
          s.publish b io = (s.durable b t p).failPublication b.run.runId io.quarantine) ∨
       (∃ t, io.fault = none ∧ s.publicationTime b io.clock = some t ∧
          s.publish b io = (s.latestWritten b t, .ok (receipt b t)))) := by
  cases href : s.publicationRefusal b with
  | some e => exact Or.inl ⟨e, rfl, by rw [publish, href]⟩
  | none =>
    refine Or.inr ⟨rfl, ?_⟩
    rcases publish_attempt io href with
      hstaging | ⟨-, hp⟩ | ⟨fault, t, -, herr, ht, hp⟩ | hdone
    · exact Or.inl hstaging
    · exact Or.inr (Or.inl ⟨.renamed, 0, Or.inl rfl, Or.inl rfl, hp⟩)
    · exact Or.inr (Or.inl ⟨fault.point, t, isRenamed_of_stagingError herr, Or.inr ht, hp⟩)
    · exact Or.inr (Or.inr hdone)

/-- The time of an attempt whose bytes do not conflict with the index. -/
theorem publicationTime_eq_some {s : Repository} {b : PublishedRunBundle}
    {clock : Option UtcDatetime} {t : UtcDatetime} :
    s.publicationTime b clock = some t ↔
      (s.indexEntry b.run.runId = none ∧ clock = some t) ∨
      s.indexEntry b.run.runId =
        some ⟨sha256 (canonicalBytes b), sha256 (encode b.reportMarkdown), t⟩ := by
  unfold publicationTime
  cases s.indexEntry b.run.runId with
  | none => simp
  | some entry =>
    obtain ⟨eb, em, et⟩ := entry
    by_cases hm : eb ≠ sha256 (canonicalBytes b) ∨ em ≠ sha256 (encode b.reportMarkdown)
    · simp only [hm, if_true, reduceCtorEq, false_and, Option.some.injEq, IndexEntry.mk.injEq,
        false_or, false_iff]
      rintro ⟨h1, h2, -⟩
      exact hm.elim (fun h => h h1) fun h => h h2
    · simp only [not_or, ne_eq, not_not] at hm
      obtain ⟨rfl, rfl⟩ := hm
      simp

theorem publish_of_publishable {s : Repository} {b : PublishedRunBundle} {d : RunDir}
    {stored : StoredRun} (h : Publishable s b d stored) {now t : UtcDatetime}
    (ht : s.publicationTime b (some now) = some t) :
    s.publish b (.sound now) = (s.latestWritten b t, .ok (receipt b t)) := by
  have href := publicationRefusal_eq_none.mpr ⟨d, stored, h⟩
  rw [publish, href]
  simp only [PublishIo.sound, Option.bind_none, ht]

theorem frame_publish (s : Repository) (b : PublishedRunBundle) (io : PublishIo) :
    Frame b.run.runId s (s.publish b io).1 := by
  have hfail : ∀ (s' : Repository) (q : Option QuarantineFault),
      (s'.failPublication b.run.runId q).1 = (s'.quarantine b.run.runId q).1 := by
    intro s' q
    unfold failPublication
    split
    next heq => rw [heq]
    next heq => rw [heq]
  rcases publish_cases s b io with ⟨e, -, h⟩ | ⟨-, ⟨fault, e, -, -, h⟩ | ⟨p, t, -, -, h⟩ | ⟨t, -, -, h⟩⟩
  · rw [h]
    exact Frame.refl _ s
  · rw [h]
    exact frame_durable s b 0 fault.point
  · rw [h, hfail]
    exact (frame_durable s b t p).trans (frame_quarantine _ _ _)
  · rw [h]
    exact frame_durable s b t .latestWritten

/-! ## Recovery -/

/-- A recovery of a quarantined run. -/
theorem recover_orphan (validateJson : Bytes → Option PublishedRunBundle) {s : Repository}
    {r : RunId} (io : RecoverIo) {d : RunDir} (hget : s.getPublishedArtifact r = none)
    (hst : s.staging.lookup r = none) (hfi : s.final.lookup r = none)
    (hor : s.orphans.lookup r = some d) :
    s.recover validateJson r io =
      match checkRecovery validateJson r d io.read with
      | .error refusal => (s, .error refusal)
      | .ok b =>
        match io.move with
        | some .replace =>
          (s, .error (.publicationError "interrupted publication could not return to staging"))
        | some .sync =>
          (s.restore r d,
            .error (.publicationError "interrupted publication could not return to staging"))
        | none => (s.restore r d).publish b io.publish := by
  rw [recover, hget, hst, hfi, hor]
  all_goals rfl

/-- A recovery of a run that is not quarantined, or not alone there. -/
theorem recover_unavailable (validateJson : Bytes → Option PublishedRunBundle) {s : Repository}
    {r : RunId} (io : RecoverIo) (hget : s.getPublishedArtifact r = none)
    (h : s.staging.lookup r ≠ none ∨ s.final.lookup r ≠ none ∨ s.orphans.lookup r = none) :
    ∃ e, s.recover validateJson r io = (s, .error e) := by
  unfold recover
  rw [hget]
  cases hst : s.staging.lookup r with
  | some d => exact ⟨_, rfl⟩
  | none =>
    cases hfi : s.final.lookup r with
    | some d => exact ⟨_, rfl⟩
    | none =>
      cases hor : s.orphans.lookup r with
      | none => exact ⟨_, rfl⟩
      | some d => simp [hst, hfi, hor] at h

/-- Everything a recovery can do. -/
theorem recover_cases (validateJson : Bytes → Option PublishedRunBundle) (s : Repository)
    (r : RunId) (io : RecoverIo) :
    (∃ a, s.getPublishedArtifact r = some a ∧ s.recover validateJson r io = (s, .ok a)) ∨
    s.getPublishedArtifact r = none ∧
      ((∃ e, s.recover validateJson r io = (s, .error e)) ∨
       ∃ d b, s.staging.lookup r = none ∧ s.final.lookup r = none ∧
        s.orphans.lookup r = some d ∧ checkRecovery validateJson r d io.read = .ok b ∧
        ((∃ e, s.recover validateJson r io = (s.restore r d, .error e)) ∨
          io.move = none ∧
            s.recover validateJson r io = (s.restore r d).publish b io.publish)) := by
  cases hget : s.getPublishedArtifact r with
  | some a => exact Or.inl ⟨a, rfl, by simp only [recover, hget]⟩
  | none =>
    refine Or.inr ⟨rfl, ?_⟩
    by_cases hplace : s.staging.lookup r ≠ none ∨ s.final.lookup r ≠ none ∨
        s.orphans.lookup r = none
    · exact Or.inl (recover_unavailable validateJson io hget hplace)
    · simp only [not_or, not_not] at hplace
      obtain ⟨hst, hfi, hor⟩ := hplace
      obtain ⟨d, hor⟩ := Option.ne_none_iff_exists'.mp hor
      have heq := recover_orphan validateJson io hget hst hfi hor
      cases hchk : checkRecovery validateJson r d io.read with
      | error e =>
        rw [hchk] at heq
        exact Or.inl ⟨e, heq⟩
      | ok b =>
        rw [hchk] at heq
        cases hmove : io.move with
        | none =>
          rw [hmove] at heq
          exact Or.inr ⟨d, b, hst, hfi, hor, hchk, Or.inr ⟨rfl, heq⟩⟩
        | some fault =>
          rw [hmove] at heq
          cases fault with
          | replace => exact Or.inl ⟨_, heq⟩
          | sync => exact Or.inr ⟨d, b, hst, hfi, hor, hchk, Or.inl ⟨_, heq⟩⟩

/-- What the checks of a quarantined directory establish. -/
structure Recoverable (r : RunId) (d : RunDir) (b : PublishedRunBundle) (c : RunCheckpoint)
    (stored : StoredRun) : Prop where
  bundleJson : d.bundleJson = some (canonicalBytes b)
  reportMd : d.reportMd = some (encode b.reportMarkdown)
  loaded : d.load = some stored
  last : stored.checkpoints.getLast? = some c
  owner : b.run.runId = r
  markdown : b.markdownSha256 = some (sha256 (encode b.reportMarkdown))
  identity : stored.run.runId = r
  stage : c.stage = "PUBLISHED"
  execution : c.executionStatus = .published
  cutoff : c.evidenceCutoffAt = stored.evidenceCutoffAt
  final : c.resumable = false
  run : b.run = stored.run.withStatuses c.executionStatus c.dataQualityStatus c.deliveryStatus
  names : ∀ name ∈ c.artifactHashes.names, RunDir.isArtifactName name = true
  staged : c.StagedHashesValid d

theorem checkRecovery_ok {validateJson : Bytes → Option PublishedRunBundle} {r : RunId}
    {d : RunDir} {read : Option RecoverReadFault} {b : PublishedRunBundle}
    (h : checkRecovery validateJson r d read = .ok b) :
    ∃ c stored, Recoverable r d b c stored := by
  unfold checkRecovery at h
  split at h
  next bundleBytes reportBytes hbundle hreport =>
    split at h
    · cases h
    · split at h
      · cases h
      · split at h
        · cases h
        · split at h
          · cases h
          next stored hload =>
            split at h
            · cases h
            next c hc =>
              split at h
              · cases h
              next hpair =>
                split at h
                · cases h
                next hid =>
                  split at h
                  · cases h
                  next hck =>
                    split at h
                    · cases h
                    · split at h
                      · cases h
                      next hnames =>
                        split at h
                        · cases h
                        next hstaged =>
                          cases h
                          simp only [not_or, ne_eq, not_not, Bool.not_eq_true] at hpair hck hid
                          obtain ⟨hbytes, howner, hmd, hreport'⟩ := hpair
                          obtain ⟨h1, h2, h3, h4, h5, h6, h7⟩ := hck
                          subst hbytes
                          subst hreport'
                          refine ⟨c, stored, hbundle, hreport, hload, hc, howner, hmd, hid, h1, h2,
                            h5, h6, h7, ?_, not_not.mp hstaged⟩
                          intro name hname
                          by_contra hbad
                          exact hnames ⟨name, hname, by simpa using hbad⟩
  · cases h

theorem checkRecovery_of_recoverable {validateJson : Bytes → Option PublishedRunBundle} {r : RunId}
    {d : RunDir} {b : PublishedRunBundle} {c : RunCheckpoint} {stored : StoredRun}
    (hvalid : validateJson (canonicalBytes b) = some b) (h : Recoverable r d b c stored) :
    checkRecovery validateJson r d none = .ok b := by
  have hdq : c.dataQualityStatus = b.run.dataQualityStatus := by rw [h.run]; rfl
  have hds : c.deliveryStatus = b.run.deliveryStatus := by rw [h.run]; rfl
  have hnames : ¬ ∃ name ∈ c.artifactHashes.names, RunDir.isArtifactName name = false := by
    rintro ⟨name, hname, hbad⟩
    rw [h.names name hname] at hbad
    cases hbad
  unfold checkRecovery
  simp only [h.bundleJson, h.reportMd, hvalid, h.loaded, h.last]
  rw [if_neg (by simp), if_neg (by simp), if_neg (by simp [h.owner, h.markdown]),
    if_neg (not_not.mpr h.identity), if_neg, if_neg (by simp), if_neg hnames,
    if_neg (not_not.mpr h.staged)]
  simp only [not_or, ne_eq, not_not, Bool.not_eq_true]
  exact ⟨h.stage, h.execution, hdq, hds, h.cutoff, h.final, h.run⟩

theorem frame_recover (validateJson : Bytes → Option PublishedRunBundle) (s : Repository)
    (r : RunId) (io : RecoverIo) : Frame r s (s.recover validateJson r io).1 := by
  rcases recover_cases validateJson s r io with
    ⟨a, -, h⟩ | ⟨-, ⟨e, h⟩ | ⟨d, b, -, -, -, hchk, ⟨e, h⟩ | ⟨-, h⟩⟩⟩
  · rw [h]
    exact Frame.refl r s
  · rw [h]
    exact Frame.refl r s
  · rw [h]
    exact frame_restore s r d
  · rw [h]
    obtain ⟨c, stored, hrec⟩ := checkRecovery_ok hchk
    have hframe := frame_publish (s.restore r d) b io.publish
    rw [hrec.owner] at hframe
    exact (frame_restore s r d).trans hframe

/-! ## Creation and allocation -/

/-- Creating a run that has no directory. -/
theorem create_fresh {s : Repository} {context : RunContext}
    (hfi : s.final.lookup context.runId = none) (hst : s.staging.lookup context.runId = none) :
    s.create context =
      ({ s with staging := s.staging.insert context.runId (RunDir.created context) }, .ok ()) := by
  simp only [create, hfi, hst]

theorem resumeScheduled_ok {s : Repository} {r : RunId} {context : RunContext}
    (h : s.resumeScheduled r = .ok context) : context.runId = r := by
  unfold resumeScheduled at h
  split at h
  · cases h
  · split at h
    · cases h
    · split at h
      · cases h
      next hid =>
        cases h
        exact not_not.mp hid

theorem resumeManual_ok {s : Repository} {r : RunId} {context : RunContext}
    (h : s.resumeManual r = .ok context) : context.runId = r := by
  unfold resumeManual at h
  split at h
  · split at h
    · cases h
    · split at h <;> cases h
  · split at h
    · cases h
    · split at h
      · cases h
      next hid =>
        split at h
        · cases h
        · cases h
          exact not_not.mp hid

/-- Everything `allocate_revision` can do: answer from the stored runs, or create
the next revision. -/
theorem allocate_cases (s : Repository) (seed : RunContextSeed) (invocation : InvocationType)
    (requested : Option Int) :
    (∃ out, (∀ context, out = .ok context → context.runId ∈ s.existing seed.marketDate) ∧
      s.allocateRevision seed invocation requested = (s, out)) ∨
    ∃ revision positive,
      (invocation = .scheduled ∧ revision = 1 ∨
        invocation = .manual ∧ revision = s.nextRevision seed.marketDate ∧
          ∀ q ∈ requested, q = s.nextRevision seed.marketDate) ∧
      s.final.lookup ⟨seed.marketDate, revision, positive⟩ = none ∧
      s.staging.lookup ⟨seed.marketDate, revision, positive⟩ = none ∧
      s.allocateRevision seed invocation requested =
        ({ s with
            staging := s.staging.insert ⟨seed.marketDate, revision, positive⟩
              (RunDir.created (newContext seed revision positive)) },
          .ok (newContext seed revision positive)) := by
  have hnew : ∀ (revision : Nat) (positive : 0 < revision),
      (⟨seed.marketDate, revision, positive⟩ : RunId) ∉ s.final →
      (⟨seed.marketDate, revision, positive⟩ : RunId) ∉ s.staging →
      s.final.lookup ⟨seed.marketDate, revision, positive⟩ = none ∧
      s.staging.lookup ⟨seed.marketDate, revision, positive⟩ = none ∧
      s.allocateNew (newContext seed revision positive) =
        ({ s with
            staging := s.staging.insert ⟨seed.marketDate, revision, positive⟩
              (RunDir.created (newContext seed revision positive)) },
          .ok (newContext seed revision positive)) := by
    intro revision positive hfi hst
    have hfi' := AList.lookup_eq_none.mpr hfi
    have hst' := AList.lookup_eq_none.mpr hst
    refine ⟨hfi', hst', ?_⟩
    rw [allocateNew, create_fresh hfi' hst']
    rfl
  have hrefused : ∀ e context, (.error e : Result RunContext) = .ok context →
      context.runId ∈ s.existing seed.marketDate := fun _ _ h => by cases h
  unfold allocateRevision
  cases requested with
  | some revision =>
    by_cases hpos : revision ≤ 0
    · simp only [hpos, dite_true]
      exact Or.inl ⟨_, hrefused _, rfl⟩
    · simp only [hpos, dite_false]
      cases invocation with
      | scheduled => exact Or.inl ⟨_, hrefused _, rfl⟩
      | manual =>
        simp only [reduceCtorEq, if_false]
        by_cases hex : (⟨seed.marketDate, revision.toNat, by omega⟩ : RunId) ∈
            s.existing seed.marketDate
        · simp only [hex, if_true]
          exact Or.inl ⟨_, fun context hok => by rw [resumeManual_ok hok]; exact hex, rfl⟩
        · simp only [hex, if_false]
          by_cases hnext : revision.toNat = s.nextRevision seed.marketDate
          · simp only [hnext, ne_eq, not_true_eq_false, if_false]
            have hfresh := nextRevision_fresh (s := s)
              (r := ⟨seed.marketDate, s.nextRevision seed.marketDate, Nat.succ_pos _⟩) rfl rfl
            have hq : ∀ q ∈ some revision, q = (s.nextRevision seed.marketDate : Int) := by
              intro q hq
              cases hq
              omega
            exact Or.inr ⟨_, Nat.succ_pos _, Or.inr ⟨trivial, rfl, hq⟩,
              hnew _ _ hfresh.1 hfresh.2⟩
          · simp only [hnext, ne_eq, not_false_eq_true, if_true]
            exact Or.inl ⟨_, hrefused _, rfl⟩
  | none =>
    cases invocation with
    | scheduled =>
      simp only
      by_cases hex : (⟨seed.marketDate, 1, Nat.one_pos⟩ : RunId) ∈ s.existing seed.marketDate
      · simp only [hex, if_true]
        exact Or.inl ⟨_, fun context hok => by rw [resumeScheduled_ok hok]; exact hex, rfl⟩
      · simp only [hex, if_false]
        rw [mem_existing] at hex
        exact Or.inr ⟨1, Nat.one_pos, Or.inl ⟨trivial, rfl⟩,
          hnew _ _ (fun h => hex ⟨Or.inl h, rfl⟩) fun h => hex ⟨Or.inr h, rfl⟩⟩
    | manual =>
      simp only
      have hfresh := nextRevision_fresh (s := s)
        (r := ⟨seed.marketDate, s.nextRevision seed.marketDate, Nat.succ_pos _⟩) rfl rfl
      exact Or.inr ⟨_, Nat.succ_pos _, Or.inr ⟨trivial, rfl, fun _ hq => by cases hq⟩,
        hnew _ _ hfresh.1 hfresh.2⟩

/-! ## Completed publications -/

theorem latestWritten_published {s : Repository} {b : PublishedRunBundle} {d : RunDir}
    {stored : StoredRun} (h : Publishable s b d stored) (t : UtcDatetime) :
    (s.latestWritten b t).getPublishedArtifact b.run.runId = some (receipt b t) :=
  getPublishedArtifact_eq_some.mpr
    ⟨d.withPublication b, encode b.reportMarkdown, canonicalBytes b,
      durable_final h (Or.inr (Or.inr rfl)) t, rfl, rfl, latestWritten_entry s b t, rfl, rfl, rfl⟩

/-- A validation that reads the canonical bytes of one bundle back, for the concrete runs. -/
def reads (b : PublishedRunBundle) (payload : Bytes) : Option PublishedRunBundle :=
  if payload = canonicalBytes b then some b else none

theorem reads_self (b : PublishedRunBundle) : reads b (canonicalBytes b) = some b := if_pos rfl

/-- The bundle of a run published as it was created, for the concrete runs. -/
def plainBundle (context : RunContext) (report : String) : PublishedRunBundle :=
  { run := context
    bundle := FrozenMap.empty
    reportMarkdown := report
    markdownSha256 := some (sha256 (encode report)) }

/-- It can be published from any repository in which that run is created and not published. -/
theorem publishable_plain {s : Repository} {context : RunContext} (report : String)
    (hst : s.staging.lookup context.runId = some (RunDir.created context))
    (hfi : s.final.lookup context.runId = none) :
    Publishable s (plainBundle context report) (RunDir.created context)
      ((RunDir.created context).view context false) where
  staged := hst
  vacant := hfi
  loaded := RunDir.load_of_runJson rfl
  identity := rfl
  statuses := fun h => absurd rfl h
  artifacts := fun _ h => by cases h
  fresh := fun _ => rfl
  markdown := rfl

end Repository

end FinanceResearch
