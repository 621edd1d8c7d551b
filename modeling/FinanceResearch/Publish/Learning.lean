import FinanceResearch.Publish.Knowledge

/-!
# What each part of a service learns

One lemma for each part of `Publish/Services.lean` that only reads or stages: what is known
of the run when it returns. They hold under any rules that allow reading and staging
(`Sound`); what may be appended is the matter of the modules that use them.
-/

namespace FinanceResearch

open Calendar (UtcDatetime)
open Program (Rules Follows Learns learns_done learns_fail learns_require learns_ofOption
  learns_ofExcept learns_perform)

/-- What the calls on a run record: an entry of the log, or the publication that takes the
run out of staging. -/
inductive Recorded where
  | entry (c : RunCheckpoint)
  | publication (b : PublishedRunBundle)

/-- What one call records. -/
def Port.note (s : Repository) : Port → List Recorded
  | .checkpointIfCurrent r c expectedCount =>
    match (s.runOp r (.checkpointIfCurrent c expectedCount)).2 with
    | .ok _ => [.entry c]
    | .error _ => []
  | .publishAtomically b io =>
    if (s.staging.lookup b.run.runId).isSome ∧
        (s.publish b io).1.staging.lookup b.run.runId = none then [.publication b]
    else []
  | _ => []

theorem note_append_ok {s : Repository} {r : RunId} {c : RunCheckpoint} {expectedCount : Nat}
    (h : (s.runOp r (.checkpointIfCurrent c expectedCount)).2 = .ok ()) :
    (Port.checkpointIfCurrent r c expectedCount).note s = [.entry c] := by
  simp only [Port.note, h]

theorem note_append_error {s : Repository} {r : RunId} {c : RunCheckpoint} {expectedCount : Nat}
    {e : StoreError} (h : (s.runOp r (.checkpointIfCurrent c expectedCount)).2 = .error e) :
    (Port.checkpointIfCurrent r c expectedCount).note s = [] := by
  simp only [Port.note, h]

/-- A repository with calls of services in progress. -/
abbrev Calls (ι α : Type) := Pool Repository ι Recorded Port Port.Answer ServiceError α

/-- What a sequence of starts and turns makes of a repository on which no call is in
progress. -/
def interleave {ι α : Type} (readers : Readers) (service : ι → Service α) (s : Repository)
    (events : List (Pool.Event ι)) : Calls ι α :=
  Transitions.run (Pool.step (Port.exec readers) Port.note service) (Pool.idle s) events

/-- Rules of the services on the run `r` that allow reading and staging. -/
structure Sound (readers : Readers) (r : RunId) (rules : Rules Repository Port) : Prop where
  later : ∀ s t, rules.rely s t → Later r s t
  numbered : ∀ s, rules.inv s → Numbered r s
  reads : ∀ s, rules.guarantee s s
  stages : ∀ s name payload, rules.inv s →
    rules.inv ((Port.stageArtifact r name payload).exec readers s).1 ∧
    rules.guarantee s ((Port.stageArtifact r name payload).exec readers s).1

namespace Service

variable {readers : Readers} {r : RunId} {rules : Rules Repository Port} {s : Repository}

/-- A call that reads. -/
theorem learns_ask (hsound : Sound readers r rules) (port : Port)
    (Q : Repository → port.Answer → Prop)
    (hsame : ∀ t, (port.exec readers t).1 = t) (hnote : ∀ t, port.note t = [])
    (hQ : ∀ t, rules.rely s t → rules.inv t → Q t (port.exec readers t).2) :
    Learns (Port.exec readers) Port.note rules (ask port) s Q := by
  refine learns_perform port Q ?_
  intro t hrely hinv _
  rw [hsame t]
  exact ⟨hinv, hsound.reads t, hnote t, hQ t hrely hinv⟩

/-- A run that is read unpublished is the one in staging. -/
theorem learns_load (hsound : Sound readers r rules) :
    Learns (Port.exec readers) Port.note rules (load r) s
      fun t out => ∀ stored, out = some stored → Known r t (Observed stored) := by
  refine learns_ask hsound (.load r) _ (fun _ => rfl) (fun _ => rfl) ?_
  intro t _ _ stored hload d hd
  refine ⟨d, ?_, RunDir.Grows.refl d⟩
  simp only [Port.exec, Repository.load, hd] at hload
  exact hload

theorem learns_readArtifact (hsound : Sound readers r rules) (q : RunId) (name : String) :
    Learns (Port.exec readers) Port.note rules (readArtifact q name) s
      fun t out => ∀ payload, out = some payload →
        Known q t fun d => d.stagedArtifact name = some payload := by
  refine Learns.bind (learns_ask hsound (.readStagedArtifact q name)
    (fun t out => ∀ payload, out = .ok (some payload) →
      Known q t fun d => d.stagedArtifact name = some payload) (fun _ => rfl) (fun _ => rfl) ?_) ?_
  · intro t _ _ payload hread d hd
    have hread' : t.readStagedArtifact q name = .ok (some payload) := hread
    unfold Repository.readStagedArtifact at hread'
    split at hread'
    · cases hread'
    · rw [hd, Option.bind_some, Except.ok.injEq] at hread'
      exact hread'
  · intro t out _ _ hout
    refine learns_ofExcept.mono ?_
    intro t' value _ _ hvalue payload hpayload
    obtain ⟨rfl, rfl⟩ := hvalue
    rw [hpayload] at hout
    exact hout payload rfl

/-- A staged payload is there from then on. -/
theorem learns_stageArtifact (hsound : Sound readers r rules) (name : String) (payload : Bytes) :
    Learns (Port.exec readers) Port.note rules (stageArtifact r name payload) s
      fun t digest => digest = sha256 payload ∧
        Known r t fun d => d.stagedArtifact name = some payload := by
  refine Learns.bind (learns_perform (Port.stageArtifact r name payload)
    (fun t out => ∀ digest, out = Except.ok digest → digest = sha256 payload ∧
      Known r t fun d => d.stagedArtifact name = some payload) ?_) ?_
  · intro t _ hinv _
    obtain ⟨hkeep, howed⟩ := hsound.stages t name payload hinv
    refine ⟨hkeep, howed, rfl, ?_⟩
    intro digest hdigest
    have hanswer : ((t.runOp r (.stageArtifact name payload)).2.map fun _ => sha256 payload) =
        .ok digest := hdigest
    cases hdone : (t.runOp r (.stageArtifact name payload)).2 with
    | error e =>
      rw [hdone] at hanswer
      cases hanswer
    | ok done =>
      rw [hdone] at hanswer
      cases hanswer
      exact ⟨rfl, stage_ok hdone⟩
  · intro t out _ _ hout
    refine learns_ofExcept.mono ?_
    intro t' digest _ _ hvalue
    obtain ⟨rfl, rfl⟩ := hvalue
    exact hout digest rfl

/-! ## Telemetry -/

theorem learns_loadCheckpointTelemetry (hsound : Sound readers r rules) (c : RunCheckpoint) :
    Learns (Port.exec readers) Port.note rules (loadCheckpointTelemetry readers c) s
      fun _ _ => True := by
  unfold loadCheckpointTelemetry
  split
  · exact learns_done trivial
  · refine Learns.bind learns_ofOption fun _ name _ _ _ => ?_
    refine Learns.bind learns_ofOption fun _ digest _ _ _ => ?_
    refine Learns.bind learns_require fun _ _ _ _ _ => ?_
    refine Learns.bind (learns_readArtifact hsound c.runId name) fun _ out _ _ _ => ?_
    refine Learns.bind learns_ofOption fun _ payload _ _ _ => ?_
    refine Learns.bind learns_require fun _ _ _ _ _ => ?_
    refine Learns.bind learns_ofOption fun _ telemetry _ _ _ => ?_
    refine Learns.bind learns_require fun _ _ _ _ _ => ?_
    exact learns_done trivial

theorem learns_loadLatestCheckpointTelemetry (hsound : Sound readers r rules)
    (stored : StoredRun) :
    Learns (Port.exec readers) Port.note rules (loadLatestCheckpointTelemetry readers stored) s
      fun _ _ => True := by
  unfold loadLatestCheckpointTelemetry
  split
  · exact learns_done trivial
  · exact learns_loadCheckpointTelemetry hsound _

theorem learns_restoreTelemetry (recorder : RunTelemetryRecorder) (message : String)
    (previous : Option PerformanceTelemetry) :
    Learns (Port.exec readers) Port.note rules (restoreTelemetry recorder message previous) s
      fun _ _ => True := by
  cases previous with
  | none => exact learns_done trivial
  | some telemetry =>
    refine Learns.bind learns_require fun _ _ _ _ _ => ?_
    exact learns_done trivial

theorem learns_publicationRecorder (hsound : Sound readers r rules) (stored : StoredRun) :
    Learns (Port.exec readers) Port.note rules (publicationRecorder readers stored) s
      fun _ _ => True := by
  refine Learns.bind (learns_loadLatestCheckpointTelemetry hsound stored) fun _ out _ _ _ => ?_
  exact learns_restoreTelemetry _ _ out

theorem learns_stagedTelemetry (hsound : Sound readers r rules) (c : RunCheckpoint) :
    Learns (Port.exec readers) Port.note rules (stagedTelemetry readers c) s
      fun _ out => out.2 = sha256 out.1.bytes := by
  refine Learns.bind (learns_loadCheckpointTelemetry hsound c) fun _ out _ _ _ => ?_
  refine Learns.bind learns_ofOption fun _ telemetry _ _ _ => ?_
  exact learns_done rfl

/-- `bound` is the checkpoint `c` with the snapshot bound to it. -/
def Binds (c : RunCheckpoint) (telemetry : PerformanceTelemetry) (bound : RunCheckpoint) : Prop :=
  ∃ hashes, (c.artifactHashes.without RunCheckpoint.isTelemetry).set
      (telemetryName (sha256 telemetry.bytes)) (sha256 telemetry.bytes) = some hashes ∧
    bound = { c with artifactHashes := hashes }

/-- The snapshot is staged under the name that binds it. -/
def TelemetryStaged (telemetry : PerformanceTelemetry) (d : RunDir) : Prop :=
  d.stagedArtifact (telemetryName (sha256 telemetry.bytes)) = some telemetry.bytes

theorem telemetryStaged_stable (telemetry : PerformanceTelemetry) :
    Stable (TelemetryStaged telemetry) := stagedArtifact_stable _ _

theorem learns_checkpointWithTelemetry {c : RunCheckpoint} (hsound : Sound readers c.runId rules)
    (telemetry : PerformanceTelemetry) :
    Learns (Port.exec readers) Port.note rules (checkpointWithTelemetry c telemetry) s
      fun t bound => Binds c telemetry bound ∧ Known c.runId t (TelemetryStaged telemetry) := by
  refine Learns.bind (learns_stageArtifact hsound _ telemetry.bytes) ?_
  intro t digest _ _ hstaged
  refine Learns.bind learns_require fun t' _ _ _ hsame => ?_
  refine Learns.bind learns_ofOption fun t'' hashes _ _ hset => ?_
  obtain ⟨rfl, -⟩ := hsame
  obtain ⟨rfl, hset⟩ := hset
  exact learns_done ⟨⟨hashes, hset, rfl⟩, hstaged.2⟩

theorem learns_bindPublicationTelemetry {c : RunCheckpoint} (hsound : Sound readers c.runId rules)
    (recorder : RunTelemetryRecorder) :
    Learns (Port.exec readers) Port.note rules (bindPublicationTelemetry c recorder) s
      fun t out => recorder.snapshot 0 0 = some out.2.1 ∧ Binds c out.2.1 out.1 ∧
        out.2.2 = sha256 out.2.1.bytes ∧ Known c.runId t (TelemetryStaged out.2.1) := by
  refine Learns.bind learns_ofOption fun t telemetry _ _ hsnapshot => ?_
  refine Learns.bind (learns_checkpointWithTelemetry hsound telemetry) fun t' bound _ _ hbound => ?_
  exact learns_done ⟨hsnapshot.2, hbound.1, rfl, hbound.2⟩

/-! ## The packet and the recorded attempts -/

/-- What `_staged_packet_hash` has checked of the run it read. -/
structure PacketChecked (packet : ResearchPacket) (allowedStages : List String)
    (stored : StoredRun) (latest : RunCheckpoint) : Prop where
  last : stored.checkpoints.getLast? = some latest
  stage : latest.stage ∈ allowedStages
  recorded : latest.artifactHashes.get? "research_packet" = some (sha256 packet.bytes)
  cutoff : stored.evidenceCutoffAt = packet.run.evidenceCutoffAt
  quality : latest.dataQualityStatus = packet.run.dataQualityStatus
  delivery : latest.deliveryStatus = packet.run.deliveryStatus

/-- The packet is staged, and the run was read in a state that passed the check. -/
def PacketKnown (packet : ResearchPacket) (allowedStages : List String) (d : RunDir) : Prop :=
  d.stagedArtifact "research_packet" = some packet.bytes ∧
  ∃ stored latest, Observed stored d ∧ PacketChecked packet allowedStages stored latest

theorem packetKnown_stable (packet : ResearchPacket) (allowedStages : List String) :
    Stable (PacketKnown packet allowedStages) := by
  intro d d' hgrows h
  obtain ⟨hstaged, stored, latest, hobserved, hchecked⟩ := h
  exact ⟨hgrows.artifacts _ _ hstaged, stored, latest,
    observed_stable stored d d' hgrows hobserved, hchecked⟩

theorem learns_stagedPacketHash {packet : ResearchPacket}
    (hsound : Sound readers packet.run.runId rules) (allowedStages : List String) :
    Learns (Port.exec readers) Port.note rules (stagedPacketHash packet allowedStages) s
      fun t digest => digest = sha256 packet.bytes ∧
        Known packet.run.runId t (PacketKnown packet allowedStages) := by
  refine Learns.bind (learns_load hsound) fun t out _ _ hload => ?_
  refine Learns.bind learns_ofOption fun t₁ stored _ _ hstored => ?_
  obtain ⟨rfl, hout⟩ := hstored
  refine Learns.bind learns_require fun t₂ _ _ _ hsame => ?_
  obtain ⟨rfl, -⟩ := hsame
  refine Learns.bind learns_ofOption fun t₃ latest _ _ hlatest => ?_
  obtain ⟨rfl, hlast⟩ := hlatest
  refine Learns.bind learns_require fun t₄ _ _ _ hstage => ?_
  obtain ⟨rfl, hstage⟩ := hstage
  refine Learns.bind (learns_readArtifact hsound _ _) fun t₅ payload hrely _ hread => ?_
  refine Learns.bind learns_require fun t₆ _ _ _ hchecks => ?_
  obtain ⟨rfl, hpayload, hrecorded, hcutoff, hquality, hdelivery⟩ := hchecks
  refine learns_done ⟨rfl, ?_⟩
  intro d hd
  refine ⟨hread _ hpayload d hd, stored, latest, ?_, hlast, hstage, hrecorded, hcutoff,
    hquality, hdelivery⟩
  exact (hload stored hout).later (observed_stable stored) (hsound.later _ _ hrely) d hd

/-- One artifact of a checkpoint, by the prefix of its name. -/
def ReadsArtifact (d : RunDir) (c : RunCheckpoint) (pre : String) (payload : Bytes) : Prop :=
  ∃ name, c.artifactHashes.names.filter (startsWith · pre) = [name] ∧
    d.stagedArtifact name = some payload ∧
    c.artifactHashes.get? name = some (sha256 payload)

theorem readsArtifact_stable (c : RunCheckpoint) (pre : String) (payload : Bytes) :
    Stable fun d => ReadsArtifact d c pre payload := by
  intro d d' hgrows h
  obtain ⟨name, hnames, hstaged, hhash⟩ := h
  exact ⟨name, hnames, hgrows.artifacts _ _ hstaged, hhash⟩

theorem learns_checkpointArtifact (hsound : Sound readers r rules) (c : RunCheckpoint)
    (pre : String) :
    Learns (Port.exec readers) Port.note rules (checkpointArtifact c pre) s
      fun t payload => Known c.runId t fun d => ReadsArtifact d c pre payload := by
  refine Learns.bind learns_ofOption fun t name _ _ hname => ?_
  refine Learns.bind (learns_readArtifact hsound c.runId name) fun t₁ out _ _ hread => ?_
  refine Learns.bind learns_ofOption fun t₂ payload _ _ hpayload => ?_
  obtain ⟨rfl, hout⟩ := hpayload
  refine Learns.bind learns_require fun t₃ _ _ _ hhash => ?_
  obtain ⟨rfl, hhash⟩ := hhash
  refine learns_done ?_
  intro d hd
  exact ⟨name, sole_eq_some.mp hname.2, hread payload hout d hd, hhash⟩

/-- The draft and the report of an entry, as they are read back. -/
def ReadsAttempt (readers : Readers) (d : RunDir) (c : RunCheckpoint)
    (draft : ResearchBriefDraft) (report : ValidationReport) : Prop :=
  (∃ payload, ReadsArtifact d c "brief_draft_" payload ∧ readers.draft payload = some draft) ∧
  ∃ payload, ReadsArtifact d c "validation_report_" payload ∧
    readers.report payload = some report

theorem readsAttempt_stable (readers : Readers) (c : RunCheckpoint) (draft : ResearchBriefDraft)
    (report : ValidationReport) : Stable fun d => ReadsAttempt readers d c draft report := by
  intro d d' hgrows h
  obtain ⟨⟨draftPayload, hdraft, hreadDraft⟩, reportPayload, hreport, hreadReport⟩ := h
  exact ⟨⟨draftPayload, readsArtifact_stable _ _ _ d d' hgrows hdraft, hreadDraft⟩,
    reportPayload, readsArtifact_stable _ _ _ d d' hgrows hreport, hreadReport⟩

/-- The artifacts are read from the run the entry names, which is `r` for every entry of its
log. -/
theorem learns_recordedAttempt (hsound : Sound readers r rules) (c : RunCheckpoint) :
    Learns (Port.exec readers) Port.note rules (recordedAttempt readers c) s
      fun t out => c.runId = r → Known r t fun d => ReadsAttempt readers d c out.1 out.2 := by
  refine Learns.bind (learns_checkpointArtifact hsound c "brief_draft_") ?_
  intro t draftPayload _ _ hdraft
  refine Learns.bind learns_ofOption fun t₁ draft _ _ hreadDraft => ?_
  obtain ⟨rfl, hreadDraft⟩ := hreadDraft
  refine Learns.bind (learns_checkpointArtifact hsound c "validation_report_") ?_
  intro t₂ reportPayload hrely _ hreport
  refine Learns.bind learns_ofOption fun t₃ report _ _ hreadReport => ?_
  obtain ⟨rfl, hreadReport⟩ := hreadReport
  refine learns_done ?_
  intro howner d hd
  rw [howner] at hdraft hreport
  have hdraft' := hdraft.later (readsArtifact_stable c _ draftPayload) (hsound.later _ _ hrely)
  exact ⟨⟨draftPayload, hdraft' d hd, hreadDraft⟩, reportPayload, hreport d hd, hreadReport⟩

/-! ## Recording -/

/-- The rules allow the appends of which `P` holds when they are accepted. -/
def Appends (readers : Readers) (r : RunId) (rules : Rules Repository Port)
    (P : RunDir → StoredRun → RunCheckpoint → Prop) : Prop :=
  ∀ t c expectedCount, rules.inv t → rules.admits t (.checkpointIfCurrent r c expectedCount) →
    (∀ d stored, t.staging.lookup r = some d → d.load = some stored →
      d.log.length = expectedCount → c.runId = r → Accepts d stored c → P d stored c) →
    rules.inv ((Port.checkpointIfCurrent r c expectedCount).exec readers t).1 ∧
    rules.guarantee t ((Port.checkpointIfCurrent r c expectedCount).exec readers t).1

/-- The entry `c` was appended to the run as it was read. -/
def Appended (read : StoredRun) (c : RunCheckpoint) (d' : RunDir) : Prop :=
  ∃ d : RunDir, d' = d.appendCheckpoint c ∧ d.load = some read ∧ Accepts d read c

/-- An entry is appended to the run that was read, or the service is refused. -/
theorem follows_checkpointIfCurrent {α : Type} {P : RunDir → StoredRun → RunCheckpoint → Prop}
    (hsound : Sound readers r rules) (happends : Appends readers r rules P)
    {c : RunCheckpoint} {read : StoredRun} {next : Unit → Service α} {notes : List Recorded}
    {ends : List Recorded → Repository → Except ServiceError α → Prop}
    (hread : Known r s (Observed read))
    (hP : ∀ t, rules.rely s t → rules.inv t → ∀ d, t.staging.lookup r = some d →
      d.load = some read → P d read c)
    (hok : ∀ t d', rules.rely s t → rules.inv t → t.staging.lookup r = some d' →
      Appended read c d' → c.runId = r →
      Follows (Port.exec readers) Port.note rules ends (next ()) (notes ++ [.entry c]) t)
    (herror : ∀ t e, rules.rely s t → rules.inv t → ends notes t (.error e)) :
    Follows (Port.exec readers) Port.note rules ends
      ((checkpointIfCurrent r c read.checkpoints.length).bind next) notes s := by
  intro t hrely hinv hadm
  have hobserved := hread.later (observed_stable read) (hsound.later _ _ hrely)
  -- an accepted entry found as many entries as were read: the run is still the one read
  have hsame : ∀ d stored, t.staging.lookup r = some d → d.load = some stored →
      d.log.length = read.checkpoints.length → stored = read := by
    intro d stored hd hload hlen
    rw [(hobserved d hd).load_eq hlen, Option.some.injEq] at hload
    exact hload.symm
  obtain ⟨hkeep, howed⟩ := happends t c read.checkpoints.length hinv hadm (by
    intro d stored hd hload hlen _ _
    obtain rfl := hsame d stored hd hload hlen
    exact hP t hrely hinv d hd hload)
  refine ⟨hkeep, howed, ?_⟩
  have hmoved := rules.trans _ _ _ hrely (rules.owed _ _ howed)
  have hanswer : ((Port.checkpointIfCurrent r c read.checkpoints.length).exec readers t).2 =
      (t.runOp r (.checkpointIfCurrent c read.checkpoints.length)).2 := rfl
  rw [hanswer]
  cases hdone : (t.runOp r (.checkpointIfCurrent c read.checkpoints.length)).2 with
  | error e =>
    rw [note_append_error hdone, List.append_nil]
    exact herror _ _ hmoved hkeep
  | ok done =>
    obtain ⟨d, stored, hd, hload, hlen, howner, haccepts, hafter⟩ := append_ok hdone
    obtain rfl := hsame d stored hd hload hlen
    rw [note_append_ok hdone]
    exact hok _ _ hmoved hkeep hafter ⟨d, rfl, hload, haccepts⟩ howner

/-- A context for a repair is of the next attempt. -/
theorem createRepairContext_ok {packet : ResearchPacket} {report : ValidationReport}
    {context : RepairContext} (h : createRepairContext packet report = .ok context) :
    report.isValid = false ∧ context.validationAttempt = report.validationAttempt + 1 := by
  unfold createRepairContext at h
  split at h
  · cases h
  · split at h
    · cases h
    next hvalid =>
      split at h
      · cases h
      · cases h
        exact ⟨by simpa using hvalid, rfl⟩

end Service

end FinanceResearch
