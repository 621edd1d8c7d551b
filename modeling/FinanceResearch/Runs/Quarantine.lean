import FinanceResearch.Runs.CrashRecovery

/-!
# Quarantine and recovery

A failed publication leaves the complete run in `diagnostics/orphans`, and
`recover_interrupted_publication` checks it again before it publishes. The two
lists of checks are written differently; they agree (`recoverable_of_publishable`)
because a staged run's `PUBLISHED` entries were admitted by rules that fix what
recovery asks of them (`PublishedEntries`), and because the names it asks for are
those `stage_artifact` admits (`LegalNames`).

Two attempts are not undone. By design, one whose bytes conflict with a receipt
that an earlier attempt left in the index is refused again
(`conflict_not_recovered`). And the cutoff of the last entry has to be the run's.
-/

namespace FinanceResearch

open Calendar (UtcDatetime)

namespace RunDir

/-- Every staged artifact has a legal name. -/
def LegalNames (d : RunDir) : Prop := ∀ a ∈ d.artifacts, isArtifactName a.1 = true

/-- What the rules for `PUBLISHED` fix. -/
def PublishedEntries (d : RunDir) : Prop :=
  ∀ f ∈ d.checkpoints, f.2.stage = "PUBLISHED" →
    f.2.executionStatus = .published ∧ f.2.resumable = false

theorem legalNames_effect {r : RunId} {d d' : RunDir} (h : d.LegalNames) (he : Effect r d d') :
    d'.LegalNames := by
  cases he with
  | unchanged => exact h
  | staged name payload fresh legal =>
    intro a ha
    rcases List.mem_cons.mp ha with rfl | hmem
    · exact legal
    · exact h a hmem
  | recorded c stored owner loaded accepts => exact h
  | frozen cutoffAt stored loaded open' after => exact h
  | publication bundle report => exact h

/-- Only `valid_retry` and an operational publication admit a `PUBLISHED` entry. -/
theorem accepts_published {d : RunDir} {stored : StoredRun} {c : RunCheckpoint}
    (h : Accepts d stored c) (hstage : c.stage = "PUBLISHED") :
    c.executionStatus = .published ∧ c.resumable = false := by
  have hoperational : ∀ previous, OperationalPublication d stored c previous →
      c.executionStatus = .published ∧ c.resumable = false :=
    fun previous hop => ⟨hop.execution, hop.final⟩
  unfold Accepts at h
  cases hcut : stored.evidenceCutoffAt with
  | none =>
    rw [hcut] at h
    obtain ⟨previous, -, hop⟩ := h hstage
    exact hoperational previous hop
  | some cutoffAt =>
    rw [hcut] at h
    obtain ⟨-, -, hf | ⟨previous, -, hq | hr | hop | hp⟩⟩ := h
    · exact absurd (hstage ▸ hf.stage) (by decide)
    · exact absurd (hstage ▸ hq.stage) (by decide)
    · refine ⟨?_, hr.final⟩
      have hvalue := hr.execution
      rw [hstage] at hvalue
      revert hvalue
      cases c.executionStatus <;> decide
    · exact hoperational previous hop
    · exact absurd (hstage ▸ hp.stage) (by decide)

theorem publishedEntries_effect {r : RunId} {d d' : RunDir} (hnamed : d.SequenceNamed)
    (h : d.PublishedEntries) (he : Effect r d d') : d'.PublishedEntries := by
  cases he with
  | unchanged => exact h
  | staged name payload fresh legal => exact h
  | recorded c stored owner loaded accepts =>
    intro f hf hstage
    rw [appendCheckpoint_checkpoints hnamed] at hf
    rcases List.mem_append.mp hf with hmem | hmem
    · exact h f hmem hstage
    · rw [List.mem_singleton.mp hmem] at hstage ⊢
      exact accepts_published accepts hstage
  | frozen cutoffAt stored loaded open' after => exact h
  | publication bundle report => exact h

theorem staged_legalNames (context : RunContext) (ops : List RunOp) :
    (staged context ops).LegalNames :=
  Transitions.run_invariant (step_invariant fun _ _ h he => legalNames_effect h he) ops
    fun _ ha => absurd ha List.not_mem_nil

theorem staged_publishedEntries (context : RunContext) (ops : List RunOp) :
    (staged context ops).PublishedEntries := by
  have hrun := Transitions.run_invariant
    (I := fun d => d.SequenceNamed ∧ d.PublishedEntries)
    (step_invariant (r := context.runId) fun _ _ h he =>
      ⟨sequenceNamed_effect h.1 he, publishedEntries_effect h.1 h.2 he⟩) ops
    (s := created context)
    ⟨(wellFormed_created context).named, fun f hf => absurd hf List.not_mem_nil⟩
  exact hrun.2

end RunDir

namespace Repository

variable {s : Repository} {b : PublishedRunBundle} {d : RunDir} {stored : StoredRun}
  {validateJson : Bytes → Option PublishedRunBundle}

/-! ## The two lists of checks agree -/

/-- What publication checked of a staged run is what recovery asks of it. -/
theorem recoverable_of_publishable (h : Publishable s b d stored) {c : RunCheckpoint}
    (hstaged : IsStaged b.run.runId d) (hlast : stored.checkpoints.getLast? = some c)
    (hstage : c.stage = "PUBLISHED") (hcutoff : c.evidenceCutoffAt = stored.evidenceCutoffAt) :
    Recoverable b.run.runId (d.withPublication b) b c stored := by
  obtain ⟨context, ops, howner, hd⟩ := hstaged
  have hlegal : d.LegalNames := by rw [hd]; exact RunDir.staged_legalNames context ops
  have hentries : d.PublishedEntries := by
    rw [hd]
    exact RunDir.staged_publishedEntries context ops
  obtain ⟨hlog, -, -, context', hctx', hrun⟩ := RunDir.load_eq_some h.loaded
  have hmem : c ∈ d.checkpoints.map Prod.snd := by
    rw [← RunDir.mem_log, ← hlog]
    exact List.mem_of_getLast? hlast
  obtain ⟨f, hf, rfl⟩ := List.mem_map.mp hmem
  obtain ⟨hexec, hfinal⟩ := hentries f hf hstage
  have hhashes := h.artifacts f.2 hlast hstage
  have hidentity : stored.run.runId = b.run.runId := by
    rw [← h.identity]
    rfl
  refine ⟨rfl, rfl, h.loaded, hlast, rfl, h.markdown, hidentity, hstage, hexec, hcutoff, hfinal,
    h.run_eq hlast, ?_, hhashes⟩
  -- a recorded name is that of a staged artifact
  intro name hname
  obtain ⟨digest, hitem⟩ := (f.2.artifactHashes.mem_names_iff name).mp hname
  have hlookup := hhashes _ hitem
  obtain ⟨payload, hp, -⟩ := Option.map_eq_some_iff.mp hlookup
  obtain ⟨before, after, hsplit, -⟩ := List.lookup_eq_some_iff.mp hp
  exact hlegal (name, payload) (by rw [hsplit]; simp)

/-! ## The state a failed attempt leaves -/

/-- What a quarantined attempt leaves of the run: the directory of the attempt in
quarantine, and the receipt it had before or the one it wrote. -/
structure Quarantined (s' : Repository) (b : PublishedRunBundle) (d : RunDir)
    (entry : Option IndexEntry) : Prop where
  staging : s'.staging.lookup b.run.runId = none
  final : s'.final.lookup b.run.runId = none
  orphan : s'.orphans.lookup b.run.runId = some (d.withPublication b)
  entry : s'.indexEntry b.run.runId = entry

/-- The attempt's own receipt, at some time. -/
def OwnEntry (b : PublishedRunBundle) (entry : IndexEntry) : Prop :=
  entry.bundleSha256 = sha256 (canonicalBytes b) ∧
  entry.markdownSha256 = sha256 (encode b.reportMarkdown)

instance (b : PublishedRunBundle) (entry : IndexEntry) : Decidable (OwnEntry b entry) :=
  inferInstanceAs (Decidable (_ ∧ _))

theorem durable_entry (t : UtcDatetime) {p : PublishPoint} (hp : PublishPoint.IsRenamed p) :
    (s.durable b t p).indexEntry b.run.runId = s.indexEntry b.run.runId ∨
    (s.durable b t p).indexEntry b.run.runId =
      some ⟨sha256 (canonicalBytes b), sha256 (encode b.reportMarkdown), t⟩ := by
  rcases hp with rfl | rfl | rfl
  · exact Or.inl (renamed_entry _)
  · exact Or.inr (indexWritten_entry s b t)
  · exact Or.inr (latestWritten_entry s b t)

theorem quarantine_indexEntry (s : Repository) (r q : RunId) (fault : Option QuarantineFault) :
    (s.quarantine r fault).1.indexEntry q = s.indexEntry q := by
  unfold quarantine
  split
  · split <;> rfl
  · rfl

/-- An attempt after which the run is in neither staging nor final was
quarantined, whatever failed. -/
theorem quarantined_of_absent (h : Publishable s b d stored) {io : PublishIo}
    (hst : (s.publish b io).1.staging.lookup b.run.runId = none)
    (hfi : (s.publish b io).1.final.lookup b.run.runId = none)
    (hindex : ∀ entry, s.indexEntry b.run.runId = some entry → OwnEntry b entry) :
    ∃ entry, Quarantined (s.publish b io).1 b d entry ∧ ∀ e, entry = some e → OwnEntry b e := by
  rcases publish_cases s b io with
    ⟨e, href, -⟩ | ⟨-, ⟨fault, e, -, herr, hp⟩ | ⟨p, t, hpoint, -, hp⟩ | ⟨t, -, -, hp⟩⟩
  · rw [publicationRefusal_eq_none.mpr ⟨d, stored, h⟩] at href
    cases href
  · -- before the rename the run is still in staging
    have hbundle := publishable_written h ⟨canonicalBytes b, Or.inl rfl⟩
    have hreport := publishable_written hbundle ⟨encode b.reportMarkdown, Or.inr rfl⟩
    have hstaged : ∃ d', (s.durable b 0 fault.point).staging.lookup b.run.runId = some d' := by
      cases fault <;> first
        | exact ⟨_, h.staged⟩
        | exact ⟨_, hbundle.staged⟩
        | exact ⟨_, hreport.staged⟩
        | cases herr
    obtain ⟨d', hd'⟩ := hstaged
    rw [hp, hd'] at hst
    cases hst
  · rw [hp, failPublication_state] at hst hfi ⊢
    have hfinal := durable_final h hpoint t
    have hentry : ∀ e, (s.durable b t p).indexEntry b.run.runId = some e → OwnEntry b e := by
      intro e he
      rcases durable_entry (s := s) (b := b) t hpoint with heq | heq
      · exact hindex e (by rw [← heq, he])
      · rw [heq, Option.some.injEq] at he
        rw [← he]
        exact ⟨rfl, rfl⟩
    refine ⟨_, ⟨hst, hfi, ?_, quarantine_indexEntry _ _ _ _⟩, hentry⟩
    unfold quarantine at hfi ⊢
    rw [hfinal] at hfi ⊢
    cases hor : (s.durable b t p).orphans.lookup b.run.runId with
    | some d' =>
      rw [hor] at hfi
      simp only [hfinal] at hfi
      cases hfi
    | none =>
      rw [hor] at hfi
      cases hq : io.quarantine with
      | none => exact AList.lookup_insert _
      | some fault =>
        rw [hq] at hfi
        cases fault with
        | replace =>
          simp only [hfinal] at hfi
          cases hfi
        | sync => exact AList.lookup_insert _
  · rw [hp] at hfi
    have hfinal := durable_final h (Or.inr (Or.inr rfl)) t
    rw [show s.latestWritten b t = s.durable b t .latestWritten from rfl, hfinal] at hfi
    cases hfi

/-! ## Operations on other runs -/

/-- The operation is on another run, and creates another one if it creates one. -/
def Avoids (r : RunId) (s : Repository) : RepoOp → Prop
  | .allocate seed invocation requested => ∀ context,
    (s.allocateRevision seed invocation requested).2 = .ok context → context.runId ≠ r
  | .create context => context.runId ≠ r
  | .onRun q _ => q ≠ r
  | .publish b _ => b.run.runId ≠ r
  | .recover q _ => q ≠ r

theorem frame_of_avoids {r : RunId} {op : RepoOp} (h : Avoids r s op) :
    ∃ q, q ≠ r ∧ Frame q s (step validateJson s op) := by
  cases op with
  | allocate seed invocation requested =>
    rcases allocate_cases s seed invocation requested with
      ⟨out, -, ha⟩ | ⟨revision, positive, -, -, -, ha⟩
    · have hst : step validateJson s (.allocate seed invocation requested) = s := by
        show (s.allocateRevision seed invocation requested).1 = s
        rw [ha]
      rw [hst]
      by_cases hr : (⟨seed.marketDate, 1, Nat.one_pos⟩ : RunId) = r
      · refine ⟨⟨seed.marketDate, 2, Nat.two_pos⟩, ?_, Frame.refl _ s⟩
        rw [← hr]
        intro he
        exact absurd (congrArg RunId.revision he) (show ¬ (2 : Nat) = 1 by decide)
      · exact ⟨_, hr, Frame.refl _ s⟩
    · have hne := h (newContext seed revision positive) (by rw [ha])
      refine ⟨⟨seed.marketDate, revision, positive⟩, hne, ?_⟩
      show Frame _ s (s.allocateRevision seed invocation requested).1
      rw [ha]
      exact ⟨fun q hq => AList.lookup_insert_ne hq, fun _ _ => rfl, fun _ _ => rfl,
        fun _ _ => rfl, fun _ _ => rfl⟩
  | create context => exact ⟨_, h, frame_create s context⟩
  | onRun q op => exact ⟨q, h, frame_runOp s q op⟩
  | publish b io => exact ⟨_, h, frame_publish s b io⟩
  | recover q io => exact ⟨q, h, frame_recover validateJson s q io⟩

theorem Quarantined.others {s' : Repository} {entry : Option IndexEntry}
    (h : Quarantined s' b d entry) (others : List RepoOp)
    (havoid : Transitions.Along (step validateJson) (Avoids b.run.runId) s' others) :
    Quarantined (Transitions.run (step validateJson) s' others) b d entry := by
  refine Transitions.run_invariant_along (I := fun s => Quarantined s b d entry)
    (fun s op hq hop => ?_) others h havoid
  obtain ⟨q, hne, hframe⟩ := frame_of_avoids hop
  have hne' : b.run.runId ≠ q := fun he => hne he.symm
  exact ⟨by rw [hframe.staging _ hne', hq.staging], by rw [hframe.final _ hne', hq.final],
    by rw [hframe.orphans _ hne', hq.orphan], by rw [hframe.entry _ hne', hq.entry]⟩

/-! ## Recovery -/

/-- The quarantined directory passes the checks of a publication once it is back. -/
theorem publishable_restored {s' : Repository} {c : RunCheckpoint} {entry : Option IndexEntry}
    (h : Publishable s b d stored) (hq : Quarantined s' b d entry)
    (hrec : Recoverable b.run.runId (d.withPublication b) b c stored) :
    Publishable (s'.restore b.run.runId (d.withPublication b)) b (d.withPublication b) stored where
  staged := AList.lookup_insert _
  vacant := hq.final
  loaded := hrec.loaded
  identity := h.identity
  statuses := h.statuses
  artifacts := h.artifacts
  fresh := h.fresh
  markdown := h.markdown

/-- A quarantined run without a conflicting receipt is published by a recovery. -/
theorem recover_of_quarantined {s' : Repository} {c : RunCheckpoint} {entry : Option IndexEntry}
    (hvalid : validateJson (canonicalBytes b) = some b) (h : Publishable s b d stored)
    (hq : Quarantined s' b d entry) (hentry : ∀ e, entry = some e → OwnEntry b e)
    (hrec : Recoverable b.run.runId (d.withPublication b) b c stored) (later : UtcDatetime) :
    ∃ t, s'.recover validateJson b.run.runId (.sound later) =
        ((s'.restore b.run.runId (d.withPublication b)).latestWritten b t, .ok (receipt b t)) ∧
      ∀ e, entry = some e → t = e.publishedAt := by
  have hget : s'.getPublishedArtifact b.run.runId = none := by
    unfold getPublishedArtifact publishedPayloads
    rw [hq.final]
    cases s'.indexEntry b.run.runId <;> rfl
  have hpub := publishable_restored h hq hrec
  have hrestored : (s'.restore b.run.runId (d.withPublication b)).indexEntry b.run.runId = entry :=
    hq.entry
  have heq := recover_orphan validateJson (.sound later) hget hq.staging hq.final hq.orphan
  rw [show (RecoverIo.sound later).read = none from rfl,
    checkRecovery_of_recoverable hvalid hrec] at heq
  cases hcase : entry with
  | none =>
    refine ⟨later, ?_, fun e he => by cases he⟩
    rw [heq]
    exact publish_of_publishable hpub
      (publicationTime_eq_some.mpr (Or.inl ⟨by rw [hrestored, hcase], rfl⟩))
  | some e =>
    obtain ⟨hb, hm⟩ := hentry e hcase
    refine ⟨e.publishedAt, ?_, fun e' he' => by cases he'; rfl⟩
    rw [heq]
    refine publish_of_publishable hpub (publicationTime_eq_some.mpr (Or.inr ?_))
    rw [hrestored, hcase, ← hb, ← hm]

/-- The run lies in quarantine and nowhere else. -/
def IsQuarantined (s : Repository) (r : RunId) : Prop :=
  s.staging.lookup r = none ∧ s.final.lookup r = none ∧ (s.orphans.lookup r).isSome

instance (s : Repository) (r : RunId) : Decidable (s.IsQuarantined r) :=
  inferInstanceAs (Decidable (_ ∧ _ ∧ _))

/-- A run that an attempt left in quarantine was in staging, and passed its checks. -/
theorem publishable_of_quarantined {io : PublishIo} (hload : s.load b.run.runId = some stored)
    (hq : (s.publish b io).1.IsQuarantined b.run.runId) : ∃ d, Publishable s b d stored := by
  obtain ⟨hst, hfi, -⟩ := hq
  cases href : s.publicationRefusal b with
  | some e =>
    -- a refused attempt changes nothing, and the run would not be there to load
    have hpublish : s.publish b io = (s, .error e) := by rw [publish, href]
    rw [hpublish] at hst hfi
    simp only [load, hst, hfi] at hload
    cases hload
  | none =>
    obtain ⟨d, stored', h⟩ := publicationRefusal_eq_none.mp href
    have hsame : stored' = stored := by
      have hloaded := h.loaded
      simp only [load, h.staged] at hload
      exact Option.some.inj (hloaded.symm.trans hload)
    exact ⟨d, hsame ▸ h⟩

/-- **A quarantined publication is recovered**, after any operations on other runs:
the run is published with the bytes of the failed attempt and, when that attempt
had written its receipt, at the time of the receipt. -/
theorem quarantine_recovered (validateJson : Bytes → Option PublishedRunBundle)
    (ops others : List RepoOp) (b : PublishedRunBundle) (io : PublishIo) (later : UtcDatetime)
    (stored : StoredRun) (c : RunCheckpoint)
    (hvalid : validateJson (canonicalBytes b) = some b)
    (hload : (reached validateJson ops).load b.run.runId = some stored)
    (hlast : stored.checkpoints.getLast? = some c) (hstage : c.stage = "PUBLISHED")
    (hcutoff : c.evidenceCutoffAt = stored.evidenceCutoffAt)
    (hindex : ∀ entry, (reached validateJson ops).indexEntry b.run.runId = some entry →
      OwnEntry b entry)
    (hquarantined : ((reached validateJson ops).publish b io).1.IsQuarantined b.run.runId)
    (havoid : Transitions.Along (step validateJson) (Avoids b.run.runId)
      ((reached validateJson ops).publish b io).1 others) :
    let failed := ((reached validateJson ops).publish b io).1
    let s := Transitions.run (step validateJson) failed others
    let recovered := s.recover validateJson b.run.runId (.sound later)
    ∃ a, recovered.2 = .ok a ∧
      recovered.1.getPublishedArtifact b.run.runId = some a ∧
      recovered.1.publishedPayloads b.run.runId (recovered.1.final.lookup b.run.runId) =
        some (encode b.reportMarkdown, canonicalBytes b) ∧
      (∀ q, q ≠ b.run.runId → recovered.1.indexEntry q = s.indexEntry q) ∧
      ∀ e, failed.indexEntry b.run.runId = some e → a.publishedAt = e.publishedAt := by
  intro failed s recovered
  obtain ⟨d, h⟩ := publishable_of_quarantined hload hquarantined
  have hstaged : IsStaged b.run.runId d := reached_staged validateJson ops _ d (Or.inl h.staged)
  have hrec := recoverable_of_publishable h hstaged hlast hstage hcutoff
  obtain ⟨entry, hq, hentry⟩ := quarantined_of_absent h hquarantined.1 hquarantined.2.1 hindex
  have hq' : Quarantined s b d entry := hq.others others havoid
  obtain ⟨t, heq, ht⟩ := recover_of_quarantined hvalid h hq' hentry hrec later
  have hpub := latestWritten_published (publishable_restored h hq' hrec) t
  have hrecovered : recovered = _ := heq
  refine ⟨receipt b t, by rw [hrecovered], by rw [hrecovered]; exact hpub, ?_, ?_, ?_⟩
  · rw [hrecovered, publishedPayloads_eq_some]
    have hfinal := durable_final (publishable_restored h hq' hrec) (Or.inr (Or.inr rfl)) t
    exact ⟨_, _, hfinal, latestWritten_entry _ b t, rfl, rfl, rfl, rfl⟩
  · exact fun q hne => (frame_recover validateJson s b.run.runId (.sound later)).entry q hne
  · intro e he
    exact ht e (hq.entry.symm.trans he)

/-- The index update fails, another revision is published meanwhile, and the run
is recovered. -/
theorem quarantine_recovered_operational :
    let context := RunDir.sampleContext 1 Nat.one_pos
    let b := operationalBundle context "report"
    let other := RunDir.sampleContext 2 Nat.two_pos
    let failed := ((reached (reads b) (operationalOps context)).publish b
      ⟨some 2, some .indexUpdate, none⟩).1
    let s := Transitions.run (step (reads b)) failed
      [.create other, .publish (plainBundle other "other") (.sound 3)]
    let recovered := s.recover (reads b) b.run.runId (.sound 4)
    ∃ a, recovered.2 = .ok a ∧
      recovered.1.getPublishedArtifact b.run.runId = some a ∧
      recovered.1.publishedPayloads b.run.runId (recovered.1.final.lookup b.run.runId) =
        some (encode b.reportMarkdown, canonicalBytes b) ∧
      (∀ q, q ≠ b.run.runId → recovered.1.indexEntry q = s.indexEntry q) ∧
      ∀ e, failed.indexEntry b.run.runId = some e → a.publishedAt = e.publishedAt := by
  intro context b other
  have hlast : ((reached (reads b) (operationalOps context)).load b.run.runId).bind
      (fun stored => stored.checkpoints.getLast?) =
        some (RunDir.operationalEntry context.runId) := by decide +kernel
  obtain ⟨stored, hload, hlast⟩ := Option.bind_eq_some_iff.mp hlast
  have hcut : ((reached (reads b) (operationalOps context)).load b.run.runId).map
      (fun stored => stored.evidenceCutoffAt) = some none := by decide +kernel
  rw [hload] at hcut
  have hindex : (reached (reads b) (operationalOps context)).indexEntry b.run.runId = none := by
    decide
  have hother : other.runId ≠ b.run.runId := by decide
  have havoid : ∀ s, Transitions.Along (step (reads b)) (Avoids b.run.runId) s
      [.create other, .publish (plainBundle other "other") (.sound 3)] :=
    fun s => ⟨hother, hother, trivial⟩
  exact quarantine_recovered (reads b) (operationalOps context) _ b
    ⟨some 2, some .indexUpdate, none⟩ 4 stored _ (reads_self b) hload hlast rfl
    (Option.some.inj hcut).symm (fun e he => absurd (hindex.symm.trans he) nofun)
    (by decide +kernel) (havoid _)

/-! ## A conflicting receipt -/

theorem failPublication_error (s : Repository) (r : RunId) (fault : Option QuarantineFault) :
    ∃ e, (s.failPublication r fault).2 = .error e := by
  unfold failPublication
  split
  · exact ⟨_, rfl⟩
  · exact ⟨_, rfl⟩

/-- The receipt of other bytes leaves an attempt without a time to publish at. -/
theorem publicationTime_conflict {entry : IndexEntry} {clock : Option UtcDatetime}
    (hentry : s.indexEntry b.run.runId = some entry) (hother : ¬ OwnEntry b entry) :
    s.publicationTime b clock = none := by
  unfold publicationTime
  rw [hentry]
  refine if_pos ?_
  by_contra hno
  rw [not_or, not_not, not_not] at hno
  exact hother hno

theorem publish_conflict (h : Publishable s b d stored) (now : UtcDatetime)
    (ht : s.publicationTime b (some now) = none) :
    s.publish b (.sound now) = (s.renamed b).failPublication b.run.runId none := by
  rw [publish, publicationRefusal_eq_none.mpr ⟨d, stored, h⟩]
  simp only [PublishIo.sound, Option.bind_none, ht]

/-- An attempt against a conflicting receipt is quarantined, and so is every
recovery of it: `validateJson` reads its bundle back, all of recovery's checks
pass, and the publication is refused as before. -/
theorem conflict_stuck {c : RunCheckpoint} {entry : IndexEntry}
    (hvalid : validateJson (canonicalBytes b) = some b) (h : Publishable s b d stored)
    (hrec : Recoverable b.run.runId (d.withPublication b) b c stored)
    (horphan : s.orphans.lookup b.run.runId = none)
    (hentry : s.indexEntry b.run.runId = some entry) (hother : ¬ OwnEntry b entry)
    (now later : UtcDatetime) :
    (s.publish b (.sound now)).1.IsQuarantined b.run.runId ∧
    ¬ ∃ a, ((s.publish b (.sound now)).1.recover validateJson b.run.runId (.sound later)).2 =
      .ok a := by
  have hfinal := renamed_final h
  have hmoved : (s.publish b (.sound now)).1 =
      { s.renamed b with
        final := (s.renamed b).final.erase b.run.runId
        orphans := (s.renamed b).orphans.insert b.run.runId (d.withPublication b) } := by
    rw [publish_conflict h _ (publicationTime_conflict hentry hother), failPublication_state,
      quarantine, renamed_orphans, horphan, hfinal]
  have hq : Quarantined (s.publish b (.sound now)).1 b d (some entry) := by
    rw [hmoved]
    exact ⟨renamed_staging h, AList.lookup_erase _ _, AList.lookup_insert _,
      (renamed_entry _).trans hentry⟩
  refine ⟨⟨hq.staging, hq.final, by rw [hq.orphan]; rfl⟩, ?_⟩
  rintro ⟨a, ha⟩
  have hget : (s.publish b (.sound now)).1.getPublishedArtifact b.run.runId = none := by
    unfold getPublishedArtifact publishedPayloads
    rw [hq.final, hq.entry]
    rfl
  have heq := recover_orphan validateJson (.sound later) hget hq.staging hq.final hq.orphan
  rw [show (RecoverIo.sound later).read = none from rfl,
    checkRecovery_of_recoverable hvalid hrec] at heq
  have hagain := publish_conflict (publishable_restored h hq hrec) later
    (publicationTime_conflict hq.entry hother)
  obtain ⟨e, he⟩ := failPublication_error
    (((s.publish b (.sound now)).1.restore b.run.runId (d.withPublication b)).renamed b)
    b.run.runId none
  rw [heq] at ha
  change (Repository.publish _ b (.sound later)).2 = .ok a at ha
  rw [hagain, he] at ha
  cases ha

/-- The run's bundle with another report. -/
def withReport (b : PublishedRunBundle) (report : String) : PublishedRunBundle :=
  { b with reportMarkdown := report, markdownSha256 := some (sha256 (encode report)) }

/-- A recovery that stops after its move leaves the run in staging. -/
theorem recover_interrupted {c : RunCheckpoint} {s' : Repository} {entry : Option IndexEntry}
    (hvalid : validateJson (canonicalBytes b) = some b) (hq : Quarantined s' b d entry)
    (hrec : Recoverable b.run.runId (d.withPublication b) b c stored) (io : PublishIo) :
    (s'.recover validateJson b.run.runId ⟨none, some .sync, io⟩).1 =
      s'.restore b.run.runId (d.withPublication b) := by
  have hget : s'.getPublishedArtifact b.run.runId = none := by
    unfold getPublishedArtifact publishedPayloads
    rw [hq.final]
    cases s'.indexEntry b.run.runId <;> rfl
  rw [recover_orphan _ _ hget hq.staging hq.final hq.orphan,
    checkRecovery_of_recoverable hvalid hrec]

/-- A run whose first attempt left its receipt, back in staging, cannot be
published with another report. -/
theorem conflict_after_receipt (io : PublishIo) {c : RunCheckpoint} {report : String}
    (hstaged : OnlyStaged s) (hvalid : validateJson (canonicalBytes b) = some b)
    (hvalid' : validateJson (canonicalBytes (withReport b report)) = some (withReport b report))
    (hreport : sha256 (encode b.reportMarkdown) ≠ sha256 (encode report))
    (hload : s.load b.run.runId = some stored) (hlast : stored.checkpoints.getLast? = some c)
    (hstage : c.stage = "PUBLISHED") (hcutoff : c.evidenceCutoffAt = stored.evidenceCutoffAt)
    (hindex : s.indexEntry b.run.runId = none)
    (hquarantined : (s.publish b io).1.IsQuarantined b.run.runId)
    (hwritten : ((s.publish b io).1.indexEntry b.run.runId).isSome) (io' : PublishIo)
    (now later : UtcDatetime) :
    let s' := ((s.publish b io).1.recover validateJson b.run.runId ⟨none, some .sync, io'⟩).1
    s'.load b.run.runId = some stored ∧ s'.publicationRefusal (withReport b report) = none ∧
    (s'.publish (withReport b report) (.sound now)).1.IsQuarantined b.run.runId ∧
    ¬ ∃ a, ((s'.publish (withReport b report) (.sound now)).1.recover validateJson b.run.runId
      (.sound later)).2 = .ok a := by
  obtain ⟨d, h⟩ := publishable_of_quarantined hload hquarantined
  have hrec := recoverable_of_publishable h (hstaged _ d (Or.inl h.staged)) hlast hstage hcutoff
  obtain ⟨entry, hq, hown⟩ := quarantined_of_absent h hquarantined.1 hquarantined.2.1
    (fun e he => absurd (hindex.symm.trans he) nofun)
  rw [recover_interrupted hvalid hq hrec]
  intro s'
  have hback := publishable_restored h hq hrec
  have hpub : Publishable s' (withReport b report) (d.withPublication b) stored :=
    ⟨hback.staged, hback.vacant, hback.loaded, hback.identity, hback.statuses, hback.artifacts,
      hback.fresh, rfl⟩
  obtain ⟨e, he⟩ := Option.isSome_iff_exists.mp hwritten
  have hentry : s'.indexEntry b.run.runId = some e := he
  have hother : ¬ OwnEntry (withReport b report) e := by
    rintro ⟨-, hm⟩
    exact hreport ((hown e (hq.entry.symm.trans he)).2.symm.trans hm)
  -- recovery accepts the second report as well, and meets the receipt of the first
  have hrec' : Recoverable b.run.runId ((d.withPublication b).withPublication (withReport b report))
      (withReport b report) c stored :=
    ⟨rfl, rfl, hrec.loaded, hrec.last, rfl, rfl, hrec.identity, hrec.stage, hrec.execution,
      hrec.cutoff, hrec.final, hrec.run, hrec.names, hrec.staged⟩
  obtain ⟨hagain, hfails⟩ := conflict_stuck hvalid' hpub hrec' (AList.lookup_erase _ _) hentry
    hother now later
  refine ⟨?_, publicationRefusal_eq_none.mpr ⟨_, _, hpub⟩, hagain, hfails⟩
  rw [load, show s'.staging.lookup b.run.runId = _ from hpub.staged]
  exact hpub.loaded

/-- A validation that reads two bundles back, for the concrete run. -/
def readsEither (b b' : PublishedRunBundle) (payload : Bytes) : Option PublishedRunBundle :=
  if payload = canonicalBytes b then some b else reads b' payload

theorem reached_publish_recover (ops : List RepoOp) (b : PublishedRunBundle) (io : PublishIo)
    (r : RunId) (io' : RecoverIo) :
    reached validateJson (ops ++ [.publish b io, .recover r io']) =
      (((reached validateJson ops).publish b io).1.recover validateJson r io').1 := by
  rw [List.append_cons, reached_concat, reached_concat]
  rfl

/-- The first attempt wrote its receipt and failed, its recovery got the run back
to staging and no further, and another report is published for the run: the
receipt conflicts, the attempt is quarantined, and recovery is refused. -/
theorem conflict_not_recovered :
    let context := RunDir.sampleContext 1 Nat.one_pos
    let first := operationalBundle context "first"
    let second := withReport first "second"
    let validateJson := readsEither first second
    let s := reached validateJson (operationalOps context ++
      [.publish first ⟨some 2, some .afterIndexWrite, none⟩,
       .recover first.run.runId ⟨none, some .sync, .sound 3⟩])
    (s.load first.run.runId).bind (fun stored => stored.checkpoints.getLast?) =
      some (RunDir.operationalEntry context.runId) ∧
    validateJson (canonicalBytes second) = some second ∧
    s.publicationRefusal second = none ∧
    (s.publish second (.sound 4)).1.IsQuarantined first.run.runId ∧
    ¬ ∃ a, ((s.publish second (.sound 4)).1.recover validateJson first.run.runId (.sound 5)).2 =
      .ok a := by
  intro context first second validateJson
  have hsecond : validateJson (canonicalBytes second) = some second :=
    (if_neg (canonicalBytes_ne 40 (by decide +kernel))).trans (reads_self second)
  have hlast : ((reached validateJson (operationalOps context)).load first.run.runId).bind
      (fun stored => stored.checkpoints.getLast?) =
        some (RunDir.operationalEntry context.runId) := by decide +kernel
  obtain ⟨stored, hload, hlast⟩ := Option.bind_eq_some_iff.mp hlast
  have hcut : ((reached validateJson (operationalOps context)).load first.run.runId).map
      (fun stored => stored.evidenceCutoffAt) = some none := by decide +kernel
  rw [hload] at hcut
  obtain ⟨hback, hrefusal, hquarantined, hfails⟩ := conflict_after_receipt
    ⟨some 2, some .afterIndexWrite, none⟩ (s := reached validateJson (operationalOps context))
    (fun r d hd => reached_staged validateJson (operationalOps context) r d hd)
    (if_pos rfl) hsecond (by decide +kernel) hload hlast rfl (Option.some.inj hcut).symm
    (by decide +kernel) (by decide +kernel) (by decide +kernel) (.sound 3) 4 5
  rw [reached_publish_recover]
  refine ⟨?_, hsecond, hrefusal, hquarantined, hfails⟩
  rw [hback]
  exact hlast

end Repository

end FinanceResearch
