import FinanceResearch.Runs.Freeze

/-!
# Is `PUBLISHED` the end of the log?

Nothing in `_checkpoint_unlocked` refuses an entry because the last one is
`PUBLISHED`; each admission rule refuses it only through what it demands of the
previous stage. On a frozen run every rule does, with one exception: the freeze
rule does not look at the previous stage at all, and admits a second
`EVIDENCE_FROZEN` entry dated at the cutoff. Before a freeze nothing is demanded.

`Sealed` is the state in which every rule does refuse; every operation keeps it
(`sealed_effect`), and `closed_iff` says that an accepted `PUBLISHED` entry
closes the log exactly when it leads there.
-/

namespace FinanceResearch

open Calendar (UtcDatetime)

namespace RunDir

/-- Whatever operations follow, no checkpoint and no freeze is accepted. -/
def Closed (r : RunId) (d : RunDir) : Prop :=
  ∀ (later : List RunOp) (op : RunOp), op.Records →
    ∃ refusal, ((Transitions.run (step r) d later).apply r op).2 = .error refusal

/-- A frozen run whose last entry is `PUBLISHED` and dated after the cutoff. -/
structure Sealed (d : RunDir) (cutoffAt : UtcDatetime) (last : RunCheckpoint) : Prop where
  frozen : d.frozenEvidence = some cutoffAt
  final : d.log.getLast? = some last
  stage : last.stage = "PUBLISHED"
  after : cutoffAt < last.writtenAt

/-- The `PUBLISHED` entry is appended to a frozen run, dated after the cutoff,
under a name that sorts last. -/
def SealedBy (d : RunDir) (c : RunCheckpoint) : Prop :=
  (∃ cutoffAt ∈ d.frozenEvidence, cutoffAt < c.writtenAt) ∧ d.NewestName c.stage

/-! ## A sealed run stays sealed -/

/-- No rule admits an entry after a `PUBLISHED` one, the freeze rule apart. -/
theorem not_admitted_after_published {d : RunDir} {stored : StoredRun} {c last : RunCheckpoint}
    {cutoffAt : UtcDatetime} (hlast : stored.checkpoints.getLast? = some last)
    (hstage : last.stage = "PUBLISHED") (hfreeze : ¬ ValidFreeze stored c cutoffAt) :
    ¬ Admitted d stored c cutoffAt := by
  rintro (h | ⟨previous, hprev, h⟩)
  · exact hfreeze h
  · rw [hlast] at hprev
    cases hprev
    rcases h with h | h | h | h
    · exact absurd (hstage ▸ h.previousStage) (by decide)
    · rcases h.succession with ⟨-, hs⟩ | ⟨-, hs⟩ | ⟨-, ⟨hs, -⟩ | hs⟩
      · exact absurd (hstage ▸ hs) (by decide)
      · exact absurd (hstage ▸ hs) (by decide)
      · exact absurd (hstage ▸ hs) (by decide)
      · exact absurd (hstage ▸ hs.previousStage) (by decide)
    · exact absurd (hstage ▸ h.previousStage) (by decide)
    · rcases h.origin with ⟨hs, -⟩ | ⟨hs, -⟩
      · exact absurd (hstage ▸ hs) (by decide)
      · exact absurd (hstage ▸ hs) (by decide)

theorem not_accepts_of_sealed {d : RunDir} {stored : StoredRun} {c last : RunCheckpoint}
    {cutoffAt : UtcDatetime} (h : Sealed d cutoffAt last) (hload : d.load = some stored) :
    ¬ Accepts d stored c := by
  obtain ⟨hlog, hcut, -, -⟩ := load_eq_some hload
  have hlast : stored.checkpoints.getLast? = some last := by rw [hlog, h.final]
  unfold Accepts
  rw [hcut, h.frozen]
  rintro ⟨-, hle, hadm⟩
  refine not_admitted_after_published hlast h.stage ?_ hadm
  -- a freeze entry is dated at the cutoff, the last entry after it
  intro hfreeze
  have hge := hle last hlast
  rw [hfreeze.written] at hge
  exact absurd h.after (not_lt.mpr hge)

theorem sealed_effect {r : RunId} {d d' : RunDir} {cutoffAt : UtcDatetime} {last : RunCheckpoint}
    (h : Sealed d cutoffAt last) (he : Effect r d d') : Sealed d' cutoffAt last := by
  cases he with
  | unchanged => exact h
  | staged name payload fresh legal => exact ⟨h.frozen, h.final, h.stage, h.after⟩
  | recorded c stored owner loaded accepts => exact absurd accepts (not_accepts_of_sealed h loaded)
  | frozen cutoffAt' stored loaded open' after =>
    rw [h.frozen] at open'
    cases open'
  | publication bundle report => exact ⟨h.frozen, h.final, h.stage, h.after⟩

theorem closed_of_sealed {r : RunId} {d : RunDir} {cutoffAt : UtcDatetime} {last : RunCheckpoint}
    (h : Sealed d cutoffAt last) : Closed r d := by
  intro later op hrec
  have hrun : Sealed (Transitions.run (step r) d later) cutoffAt last :=
    Transitions.run_invariant (step_invariant fun _ _ hs he => sealed_effect hs he) later h
  cases hout : ((Transitions.run (step r) d later).apply r op).2 with
  | error refusal => exact ⟨refusal, rfl⟩
  | ok _ =>
    rcases apply_records hrec hout with ⟨c, stored, hload, haccepts⟩ | hopen
    · exact absurd haccepts (not_accepts_of_sealed hrun hload)
    · rw [hrun.frozen] at hopen
      cases hopen

/-! ## An unsealed run takes another entry -/

theorem not_closed_of_accepts {r : RunId} {d : RunDir} {stored : StoredRun} {c : RunCheckpoint}
    (howner : c.runId = r) (hload : d.load = some stored) (haccepts : Accepts d stored c) :
    ¬ Closed r d := by
  intro h
  obtain ⟨refusal, hrefused⟩ := h [] (.checkpoint c) trivial
  have hok : d.checkpointUnlocked r c = .ok (d.appendCheckpoint c) :=
    checkpointUnlocked_ok_iff.mpr ⟨howner, ⟨stored, hload, haccepts⟩, rfl⟩
  have hout : (d.apply r (.checkpoint c)).2 = .ok () := by
    show (d.attempt _).2 = _
    rw [hok]
    rfl
  rw [Transitions.run_nil, hout] at hrefused
  cases hrefused

/-- Before a freeze any entry that is not `PUBLISHED` is accepted. -/
theorem not_closed_of_open {r : RunId} {d : RunDir} (h : WellFormed r d)
    (hopen : d.frozenEvidence = none) : ¬ Closed r d := by
  obtain ⟨-, context, hctx, -⟩ := h
  refine not_closed_of_accepts (c := plainCheckpoint r "CREATED" .created 0 none) rfl
    (load_of_runJson hctx) ?_
  have hview : (d.view context false).evidenceCutoffAt = none := hopen
  unfold Accepts
  rw [hview]
  exact fun hstage => absurd hstage (show ¬ "CREATED" = "PUBLISHED" by decide)

/-- On a frozen run whose last entry is not after the cutoff, the freeze entry
is accepted again. -/
theorem not_closed_of_last_le {r : RunId} {d : RunDir} {cutoffAt : UtcDatetime}
    (h : WellFormed r d) (hfrozen : d.frozenEvidence = some cutoffAt)
    (hle : ∀ last ∈ d.log.getLast?, last.writtenAt ≤ cutoffAt) : ¬ Closed r d := by
  obtain ⟨-, context, hctx, -⟩ := h
  refine not_closed_of_accepts
    (c := evidenceFrozenCheckpoint r (d.view context false) cutoffAt) rfl
    (load_of_runJson hctx) ?_
  have hview : (d.view context false).evidenceCutoffAt = some cutoffAt := hfrozen
  unfold Accepts
  rw [hview]
  exact ⟨rfl, hle, Or.inl ⟨rfl, rfl, rfl, rfl, rfl⟩⟩

/-! ### A `PUBLISHED` entry that is not read last is accepted again -/

/-- Recording an entry keeps the recorded packet hash or makes it the entry's own. -/
theorem packetHash_insert {stored stored' : StoredRun} {before after : List RunCheckpoint}
    {c : RunCheckpoint} (hold : stored.checkpoints = before ++ after)
    (hnew : stored'.checkpoints = before ++ c :: after) :
    stored'.packetHash = stored.packetHash ∨
      stored'.packetHash = c.artifactHashes.get? "research_packet" ∧
        (c.artifactHashes.get? "research_packet").isSome := by
  unfold StoredRun.packetHash
  rw [hold, hnew]
  simp only [List.reverse_append, List.reverse_cons, List.findSome?_append, List.findSome?_cons,
    List.findSome?_nil]
  cases after.reverse.findSome? fun c => c.artifactHashes.get? "research_packet" with
  | some digest => exact Or.inl rfl
  | none =>
    cases c.artifactHashes.get? "research_packet" with
    | some digest => exact Or.inr ⟨rfl, rfl⟩
    | none => exact Or.inl rfl

/-- A verified packet hash is that of the staged packet. -/
theorem packet_staged {d : RunDir} {c : RunCheckpoint} {digest : String}
    (hstaged : c.StagedHashesValid d) (h : c.artifactHashes.get? "research_packet" = some digest) :
    (d.stagedArtifact "research_packet").map sha256 = some digest :=
  hstaged _ (c.artifactHashes.get?_eq_some.mp h)

/-- What the rules for `PUBLISHED` read of the run does not change when the
entry itself is read before the last one. -/
structure SameLast (d d' : RunDir) (stored stored' : StoredRun) (c : RunCheckpoint) : Prop where
  artifacts : d'.artifacts = d.artifacts
  cutoff : stored'.evidenceCutoffAt = stored.evidenceCutoffAt
  last : stored'.checkpoints.getLast? = stored.checkpoints.getLast?
  packet : stored'.packetHash = stored.packetHash ∨
    stored'.packetHash = c.artifactHashes.get? "research_packet" ∧
      (c.artifactHashes.get? "research_packet").isSome
  entries : ∀ c' ∈ stored'.checkpoints, c' = c ∨ c' ∈ stored.checkpoints

variable {d d' : RunDir} {stored stored' : StoredRun} {c previous : RunCheckpoint}

theorem SameLast.stagedArtifact (h : SameLast d d' stored stored' c) (name : String) :
    d'.stagedArtifact name = d.stagedArtifact name := by
  unfold RunDir.stagedArtifact
  rw [h.artifacts]

theorem SameLast.stagedHashesValid (h : SameLast d d' stored stored' c)
    (hstaged : c.StagedHashesValid d) : c.StagedHashesValid d' := by
  intro item hitem
  rw [h.stagedArtifact]
  exact hstaged item hitem

theorem SameLast.missedWindowPacket (h : SameLast d d' stored stored' c)
    (hstaged : c.StagedHashesValid d) (hm : MissedWindowPacket d stored) :
    MissedWindowPacket d' stored' := by
  obtain ⟨hreason, hsome, hdigest⟩ := hm
  refine ⟨by rw [h.stagedArtifact, hreason], ?_⟩
  rw [h.stagedArtifact]
  rcases h.packet with hp | ⟨hp, hc⟩
  · rw [hp]
    exact ⟨hsome, hdigest⟩
  · rw [hp]
    obtain ⟨digest, hd⟩ := Option.isSome_iff_exists.mp hc
    rw [hd]
    exact ⟨rfl, packet_staged hstaged hd⟩

theorem SameLast.hasPacket (h : SameLast d d' stored stored' c) (hstaged : c.StagedHashesValid d)
    (hp : HasPacket d' stored') : HasPacket d stored := by
  rcases hp with ⟨c', hc', hsome⟩ | hsome
  · rcases h.entries c' hc' with rfl | hmem
    · right
      obtain ⟨digest, hd⟩ := Option.isSome_iff_exists.mp hsome
      have hs := packet_staged hstaged hd
      cases hart : d.stagedArtifact "research_packet" with
      | none => rw [hart] at hs; cases hs
      | some payload => rfl
    · exact Or.inl ⟨c', hmem, hsome⟩
  · rw [h.stagedArtifact] at hsome
    exact Or.inr hsome

theorem SameLast.operationalPublication (h : SameLast d d' stored stored' c)
    (hop : OperationalPublication d stored c previous) :
    OperationalPublication d' stored' c previous where
  stage := hop.stage
  execution := hop.execution
  quality := hop.quality
  final := hop.final
  cutoff := by rw [h.cutoff]; exact hop.cutoff
  ordered := hop.ordered
  previousQuality := hop.previousQuality
  delivery := hop.delivery
  previousStage := hop.previousStage
  packet := fun hp => h.missedWindowPacket hop.staged (hop.packet (h.hasPacket hop.staged hp))
  names := hop.names
  carried := hop.carried
  telemetry := hop.telemetry
  staged := h.stagedHashesValid hop.staged
  reason := by rw [h.stagedArtifact]; exact hop.reason

theorem SameLast.currentPacketHash (h : SameLast d d' stored stored' c) {digest : String}
    (hcur : currentPacketHash d stored = some digest)
    (hd : c.artifactHashes.get? "research_packet" = some digest) :
    currentPacketHash d' stored' = some digest := by
  unfold FinanceResearch.currentPacketHash at *
  rw [h.stagedArtifact]
  rcases h.packet with hp | ⟨hp, -⟩
  · rw [hp]
    exact hcur
  · rw [hp, hd]
    dsimp only at hcur ⊢
    split at hcur
    · cases hcur
    · rw [hcur]
      simp

theorem SameLast.latestStatuses (h : SameLast d d' stored stored' c)
    (hprev : stored.checkpoints.getLast? = some previous) :
    stored'.latestStatuses = stored.latestStatuses := by
  unfold StoredRun.latestStatuses
  rw [h.last, hprev]

theorem SameLast.validRetry (h : SameLast d d' stored stored' c) (hstage : c.stage = "PUBLISHED")
    (hprev : stored.checkpoints.getLast? = some previous)
    (hr : ValidRetry d stored c previous) : ValidRetry d' stored' c previous where
  stage := hr.stage
  execution := hr.execution
  final := hr.final
  notFailed := hr.notFailed
  artifacts := hr.artifacts
  staged := h.stagedHashesValid hr.staged
  telemetry := hr.telemetry
  packet := by
    obtain ⟨digest, hcur, hd⟩ := hr.packet
    exact ⟨digest, h.currentPacketHash hcur hd, hd⟩
  reduced := hr.reduced
  statuses := by rw [h.latestStatuses hprev]; exact hr.statuses
  attempts := fun hv => absurd (hstage ▸ hv) (by decide)
  succession := hr.succession

/-- The same entry is admitted a second time. -/
theorem SameLast.admitted (h : SameLast d d' stored stored' c) (hstage : c.stage = "PUBLISHED")
    {cutoffAt : UtcDatetime} (hadm : Admitted d stored c cutoffAt) :
    Admitted d' stored' c cutoffAt := by
  rcases hadm with hf | ⟨previous, hprev, hadm⟩
  · exact absurd (hstage ▸ hf.stage) (by decide)
  · refine Or.inr ⟨previous, by rw [h.last]; exact hprev, ?_⟩
    rcases hadm with hq | hr | hop | hp
    · exact absurd (hstage ▸ hq.stage) (by decide)
    · exact Or.inr (Or.inl (h.validRetry hstage hprev hr))
    · exact Or.inr (Or.inr (Or.inl (h.operationalPublication hop)))
    · exact absurd (hstage ▸ hp.stage) (by decide)

theorem sameLast_append (context : RunContext) (hnamed : d.SequenceNamed)
    (hnew : ¬ d.NewestName c.stage) :
    SameLast d (d.appendCheckpoint c) (d.view context false)
      ((d.appendCheckpoint c).view context false) c := by
  obtain ⟨before, after, hold, hins⟩ := log_append_split hnamed c
  refine ⟨rfl, rfl, log_getLast?_of_not_newest hnamed hnew, packetHash_insert hold hins, ?_⟩
  intro c' hc'
  have hc'' : c' ∈ (d.appendCheckpoint c).log := hc'
  rw [hins, List.mem_append, List.mem_cons] at hc''
  show c' = c ∨ c' ∈ d.log
  rw [hold, List.mem_append]
  tauto

theorem not_closed_of_not_newest {r : RunId} (h : WellFormed r d) {cutoffAt : UtcDatetime}
    (hfrozen : d.frozenEvidence = some cutoffAt) (hstage : c.stage = "PUBLISHED")
    (howner : c.runId = r) (hload : d.load = some stored) (haccepts : Accepts d stored c)
    (hnew : ¬ d.NewestName c.stage) : ¬ Closed r (d.appendCheckpoint c) := by
  obtain ⟨hnamed, context, hctx, -⟩ := h
  have hsame := sameLast_append context hnamed hnew
  rw [load_of_runJson hctx, Option.some.injEq] at hload
  subst hload
  refine not_closed_of_accepts howner
    (load_of_runJson (d := d.appendCheckpoint c) hctx) ?_
  have hview : (d.view context false).evidenceCutoffAt = some cutoffAt := hfrozen
  unfold Accepts at haccepts ⊢
  rw [hsame.cutoff]
  rw [hview] at haccepts ⊢
  obtain ⟨hcut, hle, hadm⟩ := haccepts
  exact ⟨hcut, by rw [hsame.last]; exact hle, hsame.admitted hstage hadm⟩

/-! ## Exactly when the log is closed -/

theorem closed_append_iff {r : RunId} (h : WellFormed r d) (hstage : c.stage = "PUBLISHED")
    (hok : d.checkpointUnlocked r c = .ok d') : Closed r d' ↔ SealedBy d c := by
  obtain ⟨howner, ⟨stored, hload, haccepts⟩, rfl⟩ := checkpointUnlocked_ok_iff.mp hok
  have h' : WellFormed r (d.appendCheckpoint c) :=
    wellFormed_effect h (effect_of_checkpointUnlocked hok)
  constructor
  · intro hclosed
    cases hfrozen : d.frozenEvidence with
    | none => exact absurd hclosed (not_closed_of_open h' hfrozen)
    | some cutoffAt =>
      by_cases hnew : d.NewestName c.stage
      · refine ⟨⟨cutoffAt, hfrozen, ?_⟩, hnew⟩
        by_contra hle
        refine not_closed_of_last_le h' hfrozen ?_ hclosed
        intro last hlast
        rw [log_append_of_newest h.named hnew, List.getLast?_concat] at hlast
        cases hlast
        exact not_lt.mp hle
      · exact absurd hclosed
          (not_closed_of_not_newest h hfrozen hstage howner hload haccepts hnew)
  · rintro ⟨⟨cutoffAt, hfrozen, hlt⟩, hnew⟩
    refine closed_of_sealed ⟨hfrozen, ?_, hstage, hlt⟩
    rw [log_append_of_newest h.named hnew, List.getLast?_concat]

/-- **`PUBLISHED` is terminal exactly when it seals the run**: for every run, every
accepted `PUBLISHED` entry and everything that may follow it. -/
theorem published_closed_iff (context : RunContext) (ops : List RunOp) (op : RunOp)
    (c : RunCheckpoint) (hc : op.submitted = some c) (hstage : c.stage = "PUBLISHED")
    (haccepted : ((staged context ops).apply context.runId op).2 = .ok ()) :
    Closed context.runId (step context.runId (staged context ops) op) ↔
      SealedBy (staged context ops) c :=
  closed_append_iff (staged_wellFormed context ops) hstage (apply_submitted hc haccepted)

/-! ## A log that goes on after `PUBLISHED` -/

/-- A run that failed before its freeze, its reason staged. -/
def failedRun (context : RunContext) : RunDir :=
  staged context
    [.checkpoint { plainCheckpoint context.runId "CREATED" .created 0 none with
       dataQualityStatus := .fail },
     .stageArtifact "operational_reason" (encode ErrorCode.internalError.value)]

/-- The hash of that reason. -/
def internalErrorReason : FrozenMap String :=
  ⟨[("operational_reason", sha256 (encode ErrorCode.internalError.value))],
   List.pairwise_singleton _ _, (by decide : 1 ≤ 128)⟩

/-- Its operational publication. -/
def operationalEntry (r : RunId) : RunCheckpoint :=
  { plainCheckpoint r "PUBLISHED" .published 1 none with
    dataQualityStatus := .fail
    resumable := false
    artifactHashes := internalErrorReason }

/-- The operational publication is accepted, and then so is any other entry. -/
theorem published_not_closed :
    let context := sampleContext 1 (by decide)
    let op := RunOp.checkpoint (operationalEntry context.runId)
    ((failedRun context).apply context.runId op).2 = .ok () ∧
    ¬ Closed context.runId (step context.runId (failedRun context) op) := by
  intro context op
  refine ⟨by decide +kernel, fun h => ?_⟩
  obtain ⟨refusal, hrefused⟩ :=
    h [] (.checkpoint (plainCheckpoint context.runId "CREATED" .created 0 none)) trivial
  have hok : ((step context.runId (failedRun context) op).apply context.runId
      (.checkpoint (plainCheckpoint context.runId "CREATED" .created 0 none))).2 = .ok () := by
    decide +kernel
  rw [Transitions.run_nil, hok] at hrefused
  cases hrefused

/-- The characterization at that publication. -/
theorem published_closed_iff_operational :
    let context := sampleContext 1 (by decide)
    let op := RunOp.checkpoint (operationalEntry context.runId)
    Closed context.runId (step context.runId (failedRun context) op) ↔
      SealedBy (failedRun context) (operationalEntry context.runId) :=
  published_closed_iff (sampleContext 1 (by decide)) _ _ _ rfl rfl (by decide +kernel)

end RunDir

end FinanceResearch
