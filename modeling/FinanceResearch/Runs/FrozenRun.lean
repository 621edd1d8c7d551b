import FinanceResearch.Runs.Terminal

/-!
# The log of a frozen run

What the entries accepted after the freeze have in common, over every sequence
of operations. The history is what the steps *wrote* (`frozenWritten`), in the
order they wrote it, so it does not depend on how the log is read back.

`FrozenLog` is the part that always holds: the frozen cutoff, hashes of bytes
that are staged and stay staged, at most three validation attempts. The times
are compared with the entry that is *read* last, so they are in order as long as
that is the entry written last (`Ordered`, which the first 9,999 entries cannot
miss): `frozenHistory_ordered`.
-/

namespace FinanceResearch

namespace RunDir

/-! ## The history -/

/-- The entries an operation writes into a frozen run; a freeze binds the cutoff first. -/
def frozenWritten (d d' : RunDir) : List RunCheckpoint :=
  if d'.frozenEvidence.isSome then written d d' else []

/-- The entries accepted after the freeze, in the order of acceptance. -/
def frozenHistory (context : RunContext) (ops : List RunOp) : List RunCheckpoint :=
  Transitions.emitted (step context.runId)
    (fun d op => frozenWritten d (step context.runId d op)) (created context) ops

/-- A validation attempt: a `VALIDATING` entry with a draft and a report. -/
def IsAttempt (c : RunCheckpoint) : Prop :=
  c.stage = "VALIDATING" ∧
  (∃ name ∈ c.artifactHashes.names, startsWith name "brief_draft_" = true) ∧
  ∃ name ∈ c.artifactHashes.names, startsWith name "validation_report_" = true

instance (c : RunCheckpoint) : Decidable (IsAttempt c) :=
  inferInstanceAs (Decidable (_ ∧ _ ∧ _))

/-- The part of the frozen-run invariant that every run keeps. -/
structure FrozenLog (h : List RunCheckpoint) (d : RunDir) : Prop where
  named : d.SequenceNamed
  suffix : h <:+ d.checkpoints.map Prod.snd
  unfrozen : d.frozenEvidence = none → h = []
  cutoff : ∀ c ∈ h, c.evidenceCutoffAt = d.frozenEvidence
  staged : ∀ c ∈ h, c.StagedHashesValid d
  attempts : h.countP (fun c => IsAttempt c) ≤ 3

/-- The frozen-run invariant: what the accepted entries of a frozen run agree on. -/
structure FrozenRun (h : List RunCheckpoint) (d : RunDir) : Prop where
  cutoff : ∀ c ∈ h, ∃ cutoffAt,
    d.frozenEvidence = some cutoffAt ∧ c.evidenceCutoffAt = some cutoffAt
  ordered : h.Pairwise (fun a b => a.writtenAt ≤ b.writtenAt)
  samePacket : ∀ a ∈ h, ∀ b ∈ h, ∀ x y, a.artifactHashes.get? "research_packet" = some x →
    b.artifactHashes.get? "research_packet" = some y → x = y
  verified : ∀ c ∈ h, ∀ name digest, c.artifactHashes.get? name = some digest →
    ∃ payload, d.stagedArtifact name = some payload ∧ digest = sha256 payload
  attempts : h.countP (fun c => IsAttempt c) ≤ 3

/-- What the step must meet for the times to stay in order: an entry submitted to
a frozen run is compared with the entry written last. -/
def Ordered (d : RunDir) (op : RunOp) : Prop :=
  d.frozenEvidence.isSome → op.Records → d.ReadsNewestLast

theorem ordered_of_le {d : RunDir} (h : d.SequenceNamed) (hlen : d.checkpoints.length ≤ 9999)
    (op : RunOp) : Ordered d op :=
  fun _ _ => readsNewestLast_of_le h hlen

/-! ## What an accepted entry of a frozen run satisfies -/

/-- Every rule verifies every recorded hash against the staged bytes. -/
theorem admitted_staged {d : RunDir} {stored : StoredRun} {c : RunCheckpoint}
    {cutoffAt : Calendar.UtcDatetime} (h : Admitted d stored c cutoffAt) :
    c.StagedHashesValid d := by
  rcases h with hf | ⟨previous, -, hq | hr | hop | hp⟩
  · intro item hitem
    rw [hf.noArtifacts] at hitem
    cases hitem
  · exact hq.staged
  · exact hr.staged
  · exact hop.staged
  · exact hp.staged

theorem not_telemetry_of_brief_draft {name : String}
    (h : startsWith name "brief_draft_" = true) : RunCheckpoint.isTelemetry name = false := by
  unfold startsWith at h
  unfold RunCheckpoint.isTelemetry startsWith
  cases hname : name.toList with
  | nil => rfl
  | cons ch rest =>
    rw [hname] at h
    have hb : ch = 'b' := by
      have : ('b' == ch) = true := by
        have h' : (('b' == ch) && "rief_draft_".toList.isPrefixOf rest) = true := h
        exact (Bool.and_eq_true_iff.mp h').1
      exact (beq_iff_eq.mp this).symm
    subst hb
    rfl

/-- An attempt is admitted as one, so the attempt limit applies to it. -/
theorem admitted_attempt {d : RunDir} {stored : StoredRun} {c : RunCheckpoint}
    {cutoffAt : Calendar.UtcDatetime} (h : Admitted d stored c cutoffAt) (ha : IsAttempt c) :
    stored.validatingCount < 3 := by
  obtain ⟨hstage, ⟨name, hname, hdraft⟩, -⟩ := ha
  rcases h with hf | ⟨previous, -, hq | hr | hop | hp⟩
  · exact absurd (hstage ▸ hf.stage) (by decide)
  · exact absurd (hstage ▸ hq.stage) (by decide)
  · refine hr.attempts hstage ?_
    have hbusiness : name ∈ c.businessNames := by
      rw [RunCheckpoint.businessNames, List.mem_filter, not_telemetry_of_brief_draft hdraft]
      exact ⟨hname, rfl⟩
    have notPacket : ¬ PacketArtifacts c := by
      rintro (hs | hs)
      · rcases List.mem_cons.mp (hs.1 hbusiness) with rfl | hmem
        · exact absurd hdraft (by decide)
        · cases hmem
      · rcases List.mem_cons.mp (hs.1 hbusiness) with rfl | hmem
        · exact absurd hdraft (by decide)
        · rcases List.mem_cons.mp hmem with rfl | hmem
          · exact absurd hdraft (by decide)
          · cases hmem
    rcases hr.artifacts with ⟨-, hpacket⟩ | ⟨-, ⟨-, hpacket⟩ | hv | hreduced⟩
    · exact absurd hpacket notPacket
    · exact absurd hpacket notPacket
    · exact hv
    · exact absurd (hstage ▸ hreduced.stage) (by decide)
  · exact absurd (hstage ▸ hop.stage) (by decide)
  · exact absurd (hstage ▸ hp.stage) (by decide)

/-- Attempts written so far are among the `VALIDATING` entries of the log. -/
theorem attempts_le_validatingCount {h : List RunCheckpoint} {d : RunDir} {stored : StoredRun}
    (hlog : FrozenLog h d) (hload : d.load = some stored) :
    h.countP (fun c => IsAttempt c) ≤ stored.validatingCount := by
  obtain ⟨hcheckpoints, -⟩ := load_eq_some hload
  rw [StoredRun.validatingCount, hcheckpoints, (log_perm d).countP_eq]
  calc h.countP (fun c => IsAttempt c)
      ≤ h.countP (fun c => c.stage = "VALIDATING") := by
        apply List.countP_mono_left
        intro c _ ha
        simp only [decide_eq_true_eq] at ha ⊢
        exact ha.1
    _ ≤ (d.checkpoints.map Prod.snd).countP (fun c => c.stage = "VALIDATING") :=
        hlog.suffix.sublist.countP_le

/-! ## One effect -/

theorem written_append {d : RunDir} (h : d.SequenceNamed) (c : RunCheckpoint) :
    written d (d.appendCheckpoint c) = [c] := by
  rw [written, appendCheckpoint_checkpoints h, List.drop_left]
  rfl

theorem written_of_same {d d' : RunDir} (h : d'.checkpoints = d.checkpoints) :
    written d d' = [] := by
  rw [written, h, List.drop_length]
  rfl

theorem frozenWritten_of_same {d d' : RunDir} (h : d'.checkpoints = d.checkpoints) :
    frozenWritten d d' = [] := by
  rw [frozenWritten, written_of_same h, ite_self]

theorem frozenWritten_append {d : RunDir} (h : d.SequenceNamed) (c : RunCheckpoint) :
    frozenWritten d (d.appendCheckpoint c) = if d.frozenEvidence.isSome then [c] else [] := by
  rw [frozenWritten, written_append h]
  rfl

theorem frozenLog_nil {d : RunDir} (h : d.SequenceNamed) : FrozenLog [] d :=
  ⟨h, List.nil_suffix, fun _ => rfl, fun _ hc => absurd hc List.not_mem_nil,
    fun _ hc => absurd hc List.not_mem_nil, Nat.zero_le _⟩

/-- A staged artifact is never replaced, so a verified hash stays verified. -/
theorem stagedHashesValid_staged {d : RunDir} {c : RunCheckpoint} {name : String} {payload : Bytes}
    (fresh : d.stagedArtifact name = none) (h : c.StagedHashesValid d) :
    c.StagedHashesValid { d with artifacts := (name, payload) :: d.artifacts } := by
  intro item hitem
  have hold := h item hitem
  have hne : item.1 ≠ name := by
    rintro rfl
    rw [fresh] at hold
    cases hold
  have hbeq : (item.1 == name) = false := by simpa using hne
  rw [stagedArtifact, List.lookup_cons, hbeq]
  exact hold

/-- An entry accepted by a frozen run extends the history. -/
theorem frozenLog_recorded {h : List RunCheckpoint} {d : RunDir} {stored : StoredRun}
    {c : RunCheckpoint} {cutoffAt : Calendar.UtcDatetime} (hlog : FrozenLog h d)
    (hload : d.load = some stored) (hfrozen : d.frozenEvidence = some cutoffAt)
    (hbound : c.evidenceCutoffAt = some cutoffAt) (hadm : Admitted d stored c cutoffAt) :
    FrozenLog (h ++ [c]) (d.appendCheckpoint c) where
  named := sequenceNamed_append hlog.named c
  suffix := by
    obtain ⟨before, hbefore⟩ := hlog.suffix
    refine ⟨before, ?_⟩
    rw [appendCheckpoint_checkpoints hlog.named, List.map_append, ← hbefore, List.append_assoc]
    rfl
  unfrozen := by
    intro hnone
    rw [appendCheckpoint_frozenEvidence, hfrozen] at hnone
    cases hnone
  cutoff := by
    intro c' hc'
    rw [appendCheckpoint_frozenEvidence]
    rcases List.mem_append.mp hc' with hmem | hmem
    · exact hlog.cutoff c' hmem
    · rw [List.mem_singleton.mp hmem, hbound, hfrozen]
  staged := by
    intro c' hc'
    rcases List.mem_append.mp hc' with hmem | hmem
    · exact hlog.staged c' hmem
    · rw [List.mem_singleton.mp hmem]
      have hstaged : c.StagedHashesValid d := admitted_staged hadm
      exact hstaged
  attempts := by
    rw [List.countP_append, List.countP_singleton]
    by_cases ha : IsAttempt c
    · have hlt := admitted_attempt hadm ha
      have hle := attempts_le_validatingCount hlog hload
      simp only [ha, decide_true, if_true]
      omega
    · simp only [ha, decide_false, Bool.false_eq_true, if_false]
      exact hlog.attempts

theorem frozenLog_effect {r : RunId} {h : List RunCheckpoint} {d d' : RunDir}
    (hlog : FrozenLog h d) (he : Effect r d d') : FrozenLog (h ++ frozenWritten d d') d' := by
  cases he with
  | unchanged =>
    rw [frozenWritten_of_same rfl, List.append_nil]
    exact hlog
  | staged name payload fresh legal =>
    rw [frozenWritten_of_same (by rfl), List.append_nil]
    exact ⟨hlog.named, hlog.suffix, hlog.unfrozen, hlog.cutoff,
      fun c hc => stagedHashesValid_staged fresh (hlog.staged c hc), hlog.attempts⟩
  | frozen cutoffAt stored loaded open' after =>
    rw [frozenWritten_of_same (by rfl), List.append_nil, hlog.unfrozen open']
    exact frozenLog_nil hlog.named
  | publication bundle report =>
    rw [frozenWritten_of_same (by rfl), List.append_nil]
    exact ⟨hlog.named, hlog.suffix, hlog.unfrozen, hlog.cutoff, hlog.staged, hlog.attempts⟩
  | recorded c stored owner loaded accepts =>
    obtain ⟨-, hcut, -⟩ := load_eq_some loaded
    rw [frozenWritten_append hlog.named]
    unfold Accepts at accepts
    rw [hcut] at accepts
    cases hfrozen : d.frozenEvidence with
    | none =>
      rw [hlog.unfrozen hfrozen]
      exact frozenLog_nil (sequenceNamed_append hlog.named c)
    | some cutoffAt =>
      rw [hfrozen] at accepts
      exact frozenLog_recorded hlog loaded hfrozen accepts.1 accepts.2.2

/-- The times of the history are in order, and stay so when the entry read last
is the one written last. -/
theorem ordered_effect {r : RunId} {h : List RunCheckpoint} {d d' : RunDir}
    (hlog : FrozenLog h d) (hsorted : h.Pairwise (fun a b => a.writtenAt ≤ b.writtenAt))
    (he : Effect r d d') (hlast : h ≠ [] → d'.checkpoints ≠ d.checkpoints → d.ReadsNewestLast) :
    (h ++ frozenWritten d d').Pairwise (fun a b => a.writtenAt ≤ b.writtenAt) := by
  cases he with
  | unchanged =>
    rw [frozenWritten_of_same rfl, List.append_nil]
    exact hsorted
  | staged name payload fresh legal =>
    rw [frozenWritten_of_same (by rfl), List.append_nil]
    exact hsorted
  | frozen cutoffAt stored loaded open' after =>
    rw [frozenWritten_of_same (by rfl), List.append_nil]
    exact hsorted
  | publication bundle report =>
    rw [frozenWritten_of_same (by rfl), List.append_nil]
    exact hsorted
  | recorded c stored owner loaded accepts =>
    obtain ⟨hcheckpoints, hcut, -⟩ := load_eq_some loaded
    rw [frozenWritten_append hlog.named]
    unfold Accepts at accepts
    rw [hcut] at accepts
    cases hfrozen : d.frozenEvidence with
    | none =>
      rw [hlog.unfrozen hfrozen]
      exact List.Pairwise.nil
    | some cutoffAt =>
      rw [hfrozen] at accepts
      obtain ⟨-, hle, -⟩ := accepts
      show (h ++ [c]).Pairwise _
      rw [List.pairwise_append]
      refine ⟨hsorted, List.pairwise_singleton _ _, ?_⟩
      intro a ha b hb
      rw [List.mem_singleton.mp hb]
      have hne := List.ne_nil_of_mem ha
      have hgrow : (d.appendCheckpoint c).checkpoints ≠ d.checkpoints := by
        rw [appendCheckpoint_checkpoints hlog.named]
        simp
      -- the last entry of the history is the last one written, hence the last one read
      have hread : d.log.getLast? = h.getLast? := by
        obtain ⟨before, hbefore⟩ := hlog.suffix
        rw [log, List.getLast?_map, hlast hne hgrow, ← List.getLast?_map, ← hbefore,
          List.getLast?_append_of_ne_nil _ hne]
      have hfinal : (h.getLast hne).writtenAt ≤ c.writtenAt := by
        apply hle
        rw [hcheckpoints, hread]
        exact List.getLast?_eq_some_getLast hne
      have hbefore : a.writtenAt ≤ (h.getLast hne).writtenAt := by
        rcases List.mem_append.mp (List.dropLast_append_getLast hne ▸ ha) with hmem | hmem
        · have hsplit := hsorted
          rw [← List.dropLast_append_getLast hne, List.pairwise_append] at hsplit
          exact hsplit.2.2 a hmem _ (List.mem_singleton.mpr rfl)
        · rw [List.mem_singleton.mp hmem]
      exact le_trans hbefore hfinal

/-! ## Every run -/

/-- The history of a step that first binds the cutoff is that of its entry. -/
theorem frozenWritten_withCutoff (d d' : RunDir) (cutoffAt : Calendar.UtcDatetime) :
    frozenWritten (d.withCutoff cutoffAt) d' = frozenWritten d d' := rfl

theorem frozenLog_step {r : RunId} {h : List RunCheckpoint} {d : RunDir} (op : RunOp)
    (hlog : FrozenLog h d) : FrozenLog (h ++ frozenWritten d (step r d op)) (step r d op) := by
  rcases step_effect r d op with he | ⟨cutoffAt, -, he, he'⟩
  · exact frozenLog_effect hlog he
  · have hmiddle := frozenLog_effect hlog he
    rw [frozenWritten_of_same (by rfl), List.append_nil] at hmiddle
    rw [← frozenWritten_withCutoff d _ cutoffAt]
    exact frozenLog_effect hmiddle he'

theorem ordered_step {r : RunId} {h : List RunCheckpoint} {d : RunDir} {op : RunOp}
    (hlog : FrozenLog h d) (hsorted : h.Pairwise (fun a b => a.writtenAt ≤ b.writtenAt))
    (hord : Ordered d op) :
    (h ++ frozenWritten d (step r d op)).Pairwise (fun a b => a.writtenAt ≤ b.writtenAt) := by
  rcases step_effect r d op with he | ⟨cutoffAt, hopen, he, he'⟩
  · refine ordered_effect hlog hsorted he fun hne hgrow => ?_
    refine hord ?_ ?_
    · by_contra hnone
      exact hne (hlog.unfrozen (by simpa using hnone))
    · cases op with
      | stageArtifact name payload =>
        refine absurd ?_ hgrow
        show (d.attempt _).1.checkpoints = _
        rcases attempt_cases d ((d.stageArtifact name payload).map Prod.fst) with h1 | ⟨d', h1, h2⟩
        · rw [h1]
        · rw [h2]
          cases hs : d.stageArtifact name payload with
          | error e => rw [hs] at h1; cases h1
          | ok out =>
            rw [hs] at h1
            cases h1
            exact (stageArtifact_frame hs).2.1
      | checkpoint c => trivial
      | checkpointIfCurrent c expectedCount => trivial
      | freezeEvidence cutoffAt => trivial
      | writeBundle payload => exact absurd rfl hgrow
      | writeReport payload => exact absurd rfl hgrow
  · have hmiddle := frozenLog_effect hlog he
    rw [frozenWritten_of_same (by rfl), List.append_nil] at hmiddle
    rw [← frozenWritten_withCutoff d _ cutoffAt]
    exact ordered_effect hmiddle hsorted he' fun hne _ => absurd (hlog.unfrozen hopen) hne

/-- **The frozen-run invariant, without the order**: every run, every operation. -/
theorem frozenHistory_log (context : RunContext) (ops : List RunOp) :
    FrozenLog (frozenHistory context ops) (staged context ops) :=
  Transitions.emitted_invariant_along (P := fun _ _ => True) (J := FrozenLog)
    (fun _ _ op hlog _ => frozenLog_step op hlog) ops
    (frozenLog_nil (wellFormed_created context).named)
    (Transitions.along_of_forall (fun _ _ => trivial) ops _)

theorem FrozenLog.verified {h : List RunCheckpoint} {d : RunDir} (hlog : FrozenLog h d)
    {c : RunCheckpoint} (hc : c ∈ h) {name digest : String}
    (hd : c.artifactHashes.get? name = some digest) :
    ∃ payload, d.stagedArtifact name = some payload ∧ digest = sha256 payload := by
  have hs := hlog.staged c hc _ (c.artifactHashes.get?_eq_some.mp hd)
  obtain ⟨payload, hp, he⟩ := Option.map_eq_some_iff.mp hs
  exact ⟨payload, hp, he.symm⟩

theorem frozenRun_of_log {h : List RunCheckpoint} {d : RunDir} (hlog : FrozenLog h d)
    (hsorted : h.Pairwise (fun a b => a.writtenAt ≤ b.writtenAt)) : FrozenRun h d where
  cutoff := by
    intro c hc
    cases hfrozen : d.frozenEvidence with
    | none => rw [hlog.unfrozen hfrozen] at hc; cases hc
    | some cutoffAt => exact ⟨cutoffAt, rfl, by rw [hlog.cutoff c hc, hfrozen]⟩
  ordered := hsorted
  samePacket := by
    intro a ha b hb x y hx hy
    obtain ⟨p, hp, rfl⟩ := hlog.verified ha hx
    obtain ⟨q, hq, rfl⟩ := hlog.verified hb hy
    rw [hp, Option.some.injEq] at hq
    rw [hq]
  verified := fun c hc name digest hd => hlog.verified hc hd
  attempts := hlog.attempts

/-- **The frozen-run invariant** holds after every run whose entries are compared
with the entry written last. -/
theorem frozenRun_of_ordered (context : RunContext) (ops : List RunOp)
    (hord : Transitions.Along (step context.runId) Ordered (created context) ops) :
    FrozenRun (frozenHistory context ops) (staged context ops) := by
  have hrun := Transitions.emitted_invariant_along (P := Ordered)
    (J := fun h d => FrozenLog h d ∧ h.Pairwise (fun a b => a.writtenAt ≤ b.writtenAt))
    (fun _ _ op hlog hord => ⟨frozenLog_step op hlog.1, ordered_step hlog.1 hlog.2 hord⟩) ops
    (h := []) ⟨frozenLog_nil (wellFormed_created context).named, List.Pairwise.nil⟩ hord
  exact frozenRun_of_log hrun.1 hrun.2

/-- The invariant on a run that is frozen and frozen again. -/
theorem frozenRun_of_ordered_refrozen :
    let context := sampleContext 1 (by decide)
    let entry := { plainCheckpoint context.runId "EVIDENCE_FROZEN" .created 5 (some 5) with
      resumable := false }
    FrozenRun (frozenHistory context [.freezeEvidence 5, .checkpoint entry])
      (staged context [.freezeEvidence 5, .checkpoint entry]) := by
  intro context entry
  exact frozenRun_of_ordered context [.freezeEvidence 5, .checkpoint entry]
    ⟨ordered_of_le (wellFormed_created context).named (by decide) _,
     ordered_of_le (staged_wellFormed context [.freezeEvidence 5]).named (by decide) _, trivial⟩

/-! ## The 10,000th entry is not read last -/

/-- The freeze entry of the sample run, which may be submitted again. -/
def frozenEntry (r : RunId) : RunCheckpoint :=
  { plainCheckpoint r "EVIDENCE_FROZEN" .created 0 (some 0) with resumable := false }

/-- A failed preparation, dated as given. -/
def failedEntry (r : RunId) (writtenAt : Calendar.UtcDatetime) : RunCheckpoint :=
  { plainCheckpoint r "PREPARATION_FAILED" .created writtenAt (some 0) with
    dataQualityStatus := .fail
    resumable := false
    artifactHashes := internalErrorReason }

/-- A run frozen at 0 that records nothing but `n` freeze entries. -/
structure OnlyFrozen (context : RunContext) (n : Nat) (d : RunDir) : Prop where
  named : d.SequenceNamed
  runJson : d.runJson = some context
  frozen : d.frozenEvidence = some 0
  artifacts : d.artifacts = []
  count : d.checkpoints.length = n
  entries : ∀ f ∈ d.checkpoints, f.2 = frozenEntry context.runId

theorem OnlyFrozen.last {context : RunContext} {n : Nat} {d : RunDir}
    (h : OnlyFrozen context n d) (hn : 0 < n) :
    d.log.getLast? = some (frozenEntry context.runId) := by
  have hne : d.log ≠ [] := by
    rw [← List.length_pos_iff, log, List.length_map, Listing.inNameOrder_length, h.count]
    exact hn
  rw [List.getLast?_eq_some_getLast hne, Option.some.injEq]
  obtain ⟨f, hf, he⟩ := List.mem_map.mp (mem_log.mp (List.getLast_mem hne))
  rw [← he, h.entries f hf]

theorem OnlyFrozen.step {context : RunContext} {n : Nat} {d : RunDir}
    (h : OnlyFrozen context n d) (hn : 0 < n) :
    OnlyFrozen context (n + 1)
      (RunDir.step context.runId d (.checkpoint (frozenEntry context.runId))) := by
  have hview : (d.view context false).checkpoints.getLast? = some (frozenEntry context.runId) :=
    h.last hn
  have haccepts : Accepts d (d.view context false) (frozenEntry context.runId) := by
    have hcutoff : (d.view context false).evidenceCutoffAt = some 0 := h.frozen
    unfold Accepts
    rw [hcutoff]
    refine ⟨rfl, ?_, Or.inl ⟨rfl, ?_, rfl, rfl, rfl⟩⟩
    · intro last hlast
      rw [hview] at hlast
      cases hlast
      exact le_refl _
    · rw [StoredRun.latestStatuses, hview]
  have hok : d.checkpointUnlocked context.runId (frozenEntry context.runId) =
      .ok (d.appendCheckpoint (frozenEntry context.runId)) :=
    checkpointUnlocked_ok_iff.mpr ⟨rfl, ⟨_, load_of_runJson h.runJson, haccepts⟩, rfl⟩
  have hstep : RunDir.step context.runId d (.checkpoint (frozenEntry context.runId)) =
      d.appendCheckpoint (frozenEntry context.runId) := by
    show (d.attempt _).1 = _
    rw [hok]
    rfl
  rw [hstep]
  have happ := appendCheckpoint_checkpoints h.named (frozenEntry context.runId)
  refine ⟨sequenceNamed_append h.named _, h.runJson, h.frozen, h.artifacts, ?_, ?_⟩
  · rw [happ, List.length_append, h.count, List.length_singleton]
  · intro f hf
    rw [happ] at hf
    rcases List.mem_append.mp hf with hmem | hmem
    · exact h.entries f hmem
    · rw [List.mem_singleton.mp hmem]

theorem onlyFrozen_run {context : RunContext} :
    ∀ (k : Nat) {n : Nat} {d : RunDir}, OnlyFrozen context n d → 0 < n →
      OnlyFrozen context (n + k) (Transitions.run (RunDir.step context.runId) d
        (List.replicate k (.checkpoint (frozenEntry context.runId))))
  | 0, _, _, h, _ => h
  | k + 1, n, d, h, hn => by
    rw [List.replicate_succ, Transitions.run_cons, ← Nat.add_assoc, Nat.add_right_comm]
    exact onlyFrozen_run k (h.step hn) (Nat.succ_pos n)

/-- A frozen run without a packet whose reason is staged and whose last entry
read is the freeze accepts a failed preparation of any later time. -/
theorem failedEntry_accepted {context : RunContext} {d : RunDir} {t : Calendar.UtcDatetime}
    (hctx : d.runJson = some context) (hfrozen : d.frozenEvidence = some 0)
    (hlast : d.log.getLast? = some (frozenEntry context.runId))
    (hpacket : ∀ c ∈ d.log, c.artifactHashes.get? "research_packet" = none)
    (hstaged : d.artifacts = [("operational_reason", encode ErrorCode.internalError.value)])
    (ht : 0 ≤ t) :
    RunDir.step context.runId d (.checkpoint (failedEntry context.runId t)) =
      d.appendCheckpoint (failedEntry context.runId t) := by
  have hview : (d.view context false).checkpoints.getLast? = some (frozenEntry context.runId) :=
    hlast
  have hnopacket : (d.view context false).packetHash = none :=
    List.findSome?_eq_none_iff.mpr fun c hc => hpacket c (List.mem_reverse.mp hc)
  have hreason : d.stagedArtifact "operational_reason" =
      some (encode ErrorCode.internalError.value) := by
    rw [stagedArtifact, hstaged]
    rfl
  have hnone : d.stagedArtifact "research_packet" = none := by
    rw [stagedArtifact, hstaged]
    rfl
  have hvalid : ValidPreparationFailure d (d.view context false) (failedEntry context.runId t)
      (frozenEntry context.runId) := by
    refine ⟨rfl, Or.inl ⟨?_, hnopacket, hnone⟩, rfl, rfl, rfl, rfl, ?_, ?_, ?_, ?_⟩
    · exact List.mem_cons_self
    · exact ⟨fun _ h => h, fun _ h => h⟩
    · intro item hitem
      cases hitem
    · intro item hitem
      rw [List.mem_singleton.mp hitem, hreason]
      rfl
    · exact ⟨_, hreason, .internalError, by decide, rfl⟩
  have haccepts : Accepts d (d.view context false) (failedEntry context.runId t) := by
    have hcutoff : (d.view context false).evidenceCutoffAt = some 0 := hfrozen
    unfold Accepts
    rw [hcutoff]
    refine ⟨rfl, ?_, Or.inr ⟨_, hview, Or.inr (Or.inr (Or.inr hvalid))⟩⟩
    intro last hl
    rw [hview] at hl
    cases hl
    exact ht
  have hok : d.checkpointUnlocked context.runId (failedEntry context.runId t) =
      .ok (d.appendCheckpoint (failedEntry context.runId t)) :=
    checkpointUnlocked_ok_iff.mpr ⟨rfl, ⟨_, load_of_runJson hctx, haccepts⟩, rfl⟩
  show (d.attempt _).1 = _
  rw [hok]
  rfl

/-- The 10,000th name is below the 9,999th. -/
theorem OnlyFrozen.not_newest {context : RunContext} {d : RunDir}
    (h : OnlyFrozen context 9999 d) : ¬ d.NewestName "PREPARATION_FAILED" := by
  intro hnew
  have hlt : 9998 < d.checkpoints.length := by rw [h.count]; decide
  have hname := h.named 9998 hlt
  rw [h.entries _ (List.getElem_mem hlt)] at hname
  have hbelow := hnew _ (List.mem_map.mpr ⟨_, List.getElem_mem hlt, rfl⟩)
  rw [hname, nextFileName, h.count] at hbelow
  exact absurd hbelow
    (show ¬ checkpointFileName 9999 "EVIDENCE_FROZEN" <
      checkpointFileName 10000 "PREPARATION_FAILED" by decide)

/-- A run of 9,999 freeze entries, then two failed preparations, the second one
dated before the first. -/
def overlongRun (r : RunId) : List RunOp :=
  .freezeEvidence 0 :: List.replicate 9998 (.checkpoint (frozenEntry r)) ++
    [.stageArtifact "operational_reason" (encode ErrorCode.internalError.value),
     .checkpoint (failedEntry r 2), .checkpoint (failedEntry r 1)]

/-- Both are accepted, because the first one is not the entry read last. -/
theorem frozenHistory_not_ordered :
    let context := sampleContext 1 (by decide)
    ¬ (frozenHistory context (overlongRun context.runId)).Pairwise
      (fun a b => a.writtenAt ≤ b.writtenAt) := by
  intro context hsorted
  have hfirst : OnlyFrozen context 1 (RunDir.step context.runId (created context)
      (.freezeEvidence 0)) := by
    refine ⟨?_, by decide, by decide, by decide, by decide, by decide⟩
    exact (staged_wellFormed context [.freezeEvidence 0]).named
  obtain ⟨d, hd⟩ : ∃ d, d = Transitions.run (RunDir.step context.runId) (created context)
      (.freezeEvidence 0 :: List.replicate 9998 (.checkpoint (frozenEntry context.runId))) :=
    ⟨_, rfl⟩
  have hmany : OnlyFrozen context 9999 d := by
    rw [hd, Transitions.run_cons]
    exact onlyFrozen_run 9998 hfirst (by decide)
  -- the reason is staged, and the log is still that of the freeze entries
  obtain ⟨d', hd'⟩ : ∃ d', d' = { d with
      artifacts := [("operational_reason", encode ErrorCode.internalError.value)] } := ⟨_, rfl⟩
  have hstage : RunDir.step context.runId d
      (.stageArtifact "operational_reason" (encode ErrorCode.internalError.value)) = d' := by
    have hnone : d.stagedArtifact "operational_reason" = none := by
      rw [stagedArtifact, hmany.artifacts]
      rfl
    have hok : d.stageArtifact "operational_reason" (encode ErrorCode.internalError.value) =
        .ok (d', sha256 (encode ErrorCode.internalError.value)) := by
      rw [hd', stageArtifact, hnone, hmany.artifacts]
      rfl
    show (d.attempt _).1 = _
    rw [hok]
    rfl
  have hnamed : d'.SequenceNamed := by rw [hd']; exact hmany.named
  have hlog : d'.log = d.log := by rw [hd']; rfl
  have hctx : d'.runJson = some context := by rw [hd']; exact hmany.runJson
  have hfrozen : d'.frozenEvidence = some 0 := by rw [hd']; exact hmany.frozen
  have hlast : d'.log.getLast? = some (frozenEntry context.runId) := by
    rw [hlog]
    exact hmany.last (by decide)
  have hpacket : ∀ c ∈ d'.log, c.artifactHashes.get? "research_packet" = none := by
    intro c hc
    rw [hlog] at hc
    obtain ⟨f, hf, rfl⟩ := List.mem_map.mp (mem_log.mp hc)
    rw [hmany.entries f hf]
    rfl
  have hartifacts : d'.artifacts =
      [("operational_reason", encode ErrorCode.internalError.value)] := by rw [hd']
  have hnotnew : ¬ d'.NewestName (failedEntry context.runId 2).stage := by
    rw [hd']
    exact hmany.not_newest
  have hstep2 := failedEntry_accepted (t := 2) hctx hfrozen hlast hpacket hartifacts (by decide)
  obtain ⟨before, after, hsplit, hins⟩ :=
    log_append_split hnamed (failedEntry context.runId 2)
  have hstep1 := failedEntry_accepted (d := d'.appendCheckpoint (failedEntry context.runId 2))
    (t := 1) hctx hfrozen
    (by rw [log_getLast?_of_not_newest hnamed hnotnew]; exact hlast)
    (by
      intro c hc
      rw [hins, List.mem_append, List.mem_cons] at hc
      rcases hc with hmem | rfl | hmem
      · exact hpacket c (by rw [hsplit]; exact List.mem_append_left _ hmem)
      · rfl
      · exact hpacket c (by rw [hsplit]; exact List.mem_append_right _ hmem))
    hartifacts (by decide)
  have htail : Transitions.emitted (RunDir.step context.runId)
      (fun d op => frozenWritten d (RunDir.step context.runId d op)) d
      [.stageArtifact "operational_reason" (encode ErrorCode.internalError.value),
       .checkpoint (failedEntry context.runId 2), .checkpoint (failedEntry context.runId 1)] =
      [failedEntry context.runId 2, failedEntry context.runId 1] := by
    simp only [Transitions.emitted, hstage, hstep2, hstep1]
    rw [frozenWritten_append hnamed, frozenWritten_append (sequenceNamed_append hnamed _),
      appendCheckpoint_frozenEvidence, hfrozen, frozenWritten_of_same (by rw [hd'])]
    rfl
  rw [frozenHistory, overlongRun, Transitions.emitted_append, ← hd, htail,
    List.pairwise_append] at hsorted
  have hpair := List.pairwise_cons.mp hsorted.2.1
  have hle := hpair.1 _ (List.mem_singleton.mpr rfl)
  exact absurd hle (by decide)

end RunDir

end FinanceResearch
