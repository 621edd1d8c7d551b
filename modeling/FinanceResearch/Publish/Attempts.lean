import FinanceResearch.Brief.Totality
import FinanceResearch.Publish.Learning

/-!
# The entry of an attempt

What `validate_staged_brief` appends: the names its entry records, what is staged under
them, and which attempt it is (`NextAttempt`). Its log is the one the service read, because
the entry was accepted (`validate_follows`).
-/

namespace FinanceResearch

open Calendar (UtcDatetime)
open Program (Rules Learns Follows learns_done learns_fail learns_require learns_ofOption
  learns_ofExcept)

/-! ## Names -/

theorem startsWith_append (pre suffix : String) : startsWith (pre ++ suffix) pre = true := by
  rw [startsWith, String.toList_append, List.isPrefixOf_iff_prefix]
  exact List.prefix_append _ _

/-- A name with a prefix is none without it. -/
theorem ne_of_startsWith {name other pre : String} (h : startsWith name pre = true)
    (h' : startsWith other pre = false) : name ≠ other := by
  intro he
  rw [he, h'] at h
  cases h

theorem filter_eq_singleton {names : List String} {p : String → Bool} {name : String}
    (hnodup : names.Nodup) (hmem : name ∈ names) (hp : ∀ n ∈ names, p n = true ↔ n = name) :
    names.filter p = [name] := by
  have hfilter : names.filter p = names.filter fun n => n == name := by
    refine List.filter_congr fun n hn => ?_
    rw [Bool.eq_iff_iff, hp n hn, beq_iff_eq]
  rw [hfilter, List.filter_beq, List.count_eq_one_of_mem hnodup hmem]
  rfl

theorem FrozenMap.names_nodup {β : Type} (m : FrozenMap β) : m.names.Nodup :=
  m.sorted.imp fun h => ne_of_lt h

namespace Service

theorem draftName_starts (draft : ResearchBriefDraft) :
    startsWith (draftName draft) "brief_draft_" = true := startsWith_append _ _

theorem reportName_starts (report : ValidationReport) :
    startsWith (reportName report) "validation_report_" = true := startsWith_append _ _

theorem telemetryName_starts (digest : String) :
    startsWith (telemetryName digest) "performance_telemetry_" = true := startsWith_append _ _

/-- The first character decides. -/
theorem startsWith_append_of_head {pre suffix other : String} {c c' : Char} {cs cs' : List Char}
    (hpre : pre.toList = c :: cs) (hother : other.toList = c' :: cs') (hne : c' ≠ c) :
    startsWith (pre ++ suffix) other = false := by
  rw [startsWith, String.toList_append, hpre, hother, List.cons_append, List.isPrefixOf_cons_cons,
    beq_false_of_ne hne, Bool.false_and]

theorem draftName_not_report (draft : ResearchBriefDraft) :
    startsWith (draftName draft) "validation_report_" = false :=
  startsWith_append_of_head rfl rfl (by decide)

theorem draftName_not_telemetry (draft : ResearchBriefDraft) :
    startsWith (draftName draft) "performance_telemetry_" = false :=
  startsWith_append_of_head rfl rfl (by decide)

theorem reportName_not_draft (report : ValidationReport) :
    startsWith (reportName report) "brief_draft_" = false :=
  startsWith_append_of_head rfl rfl (by decide)

theorem reportName_not_telemetry (report : ValidationReport) :
    startsWith (reportName report) "performance_telemetry_" = false :=
  startsWith_append_of_head rfl rfl (by decide)

theorem telemetryName_not_draft (digest : String) :
    startsWith (telemetryName digest) "brief_draft_" = false :=
  startsWith_append_of_head rfl rfl (by decide)

theorem telemetryName_not_report (digest : String) :
    startsWith (telemetryName digest) "validation_report_" = false :=
  startsWith_append_of_head rfl rfl (by decide)

/-! ## The entry -/

/-- The entry of an attempt at `draft` with the result `report`. -/
structure AttemptEntry (packet : ResearchPacket) (draft : ResearchBriefDraft)
    (report : ValidationReport) (reduced : Option String) (telemetry : PerformanceTelemetry)
    (c : RunCheckpoint) : Prop where
  owner : c.runId = packet.run.runId
  stage : c.stage = "VALIDATING"
  execution : c.executionStatus = .validating
  quality : c.dataQualityStatus = packet.run.dataQualityStatus
  delivery : c.deliveryStatus = packet.run.deliveryStatus
  cutoff : c.evidenceCutoffAt = packet.run.evidenceCutoffAt
  final : c.resumable = false
  names : ∀ name, name ∈ c.artifactHashes.names ↔
    name = "research_packet" ∨ name = draftName draft ∨ name = reportName report ∨
    (name = "reduced_report" ∧ reduced.isSome) ∨
    name = telemetryName (sha256 telemetry.bytes)
  packetHash : c.artifactHashes.get? "research_packet" = some (sha256 packet.bytes)
  draftHash : c.artifactHashes.get? (draftName draft) = some (sha256 draft.bytes)
  reportHash : c.artifactHashes.get? (reportName report) = some (sha256 report.bytes)
  reducedHash : c.artifactHashes.get? "reduced_report" = reduced
  telemetryHash : c.artifactHashes.get? (telemetryName (sha256 telemetry.bytes)) =
    some (sha256 telemetry.bytes)

variable {packet : ResearchPacket} {draft : ResearchBriefDraft} {report : ValidationReport}
  {reduced : Option String} {telemetry : PerformanceTelemetry} {c : RunCheckpoint}

theorem AttemptEntry.draftNames (h : AttemptEntry packet draft report reduced telemetry c) :
    c.artifactHashes.names.filter (startsWith · "brief_draft_") = [draftName draft] := by
  refine filter_eq_singleton (FrozenMap.names_nodup _) ((h.names _).mpr (Or.inr (Or.inl rfl))) ?_
  intro name hname
  constructor
  · intro hstarts
    rcases (h.names name).mp hname with rfl | rfl | rfl | ⟨rfl, -⟩ | rfl
    · cases hstarts
    · rfl
    · rw [reportName_not_draft] at hstarts
      cases hstarts
    · cases hstarts
    · rw [telemetryName_not_draft] at hstarts
      cases hstarts
  · intro he
    rw [he]
    exact draftName_starts draft

theorem AttemptEntry.reportNames (h : AttemptEntry packet draft report reduced telemetry c) :
    c.artifactHashes.names.filter (startsWith · "validation_report_") = [reportName report] := by
  refine filter_eq_singleton (FrozenMap.names_nodup _)
    ((h.names _).mpr (Or.inr (Or.inr (Or.inl rfl)))) ?_
  intro name hname
  constructor
  · intro hstarts
    rcases (h.names name).mp hname with rfl | rfl | rfl | ⟨rfl, -⟩ | rfl
    · cases hstarts
    · rw [draftName_not_report] at hstarts
      cases hstarts
    · rfl
    · cases hstarts
    · rw [telemetryName_not_report] at hstarts
      cases hstarts
  · intro he
    rw [he]
    exact reportName_starts report

theorem AttemptEntry.telemetryNames (h : AttemptEntry packet draft report reduced telemetry c) :
    c.telemetryNames = [telemetryName (sha256 telemetry.bytes)] := by
  refine filter_eq_singleton (FrozenMap.names_nodup _)
    ((h.names _).mpr (Or.inr (Or.inr (Or.inr (Or.inr rfl))))) ?_
  intro name hname
  constructor
  · intro hstarts
    unfold RunCheckpoint.isTelemetry at hstarts
    rcases (h.names name).mp hname with rfl | rfl | rfl | ⟨rfl, -⟩ | rfl
    · cases hstarts
    · rw [draftName_not_telemetry] at hstarts
      cases hstarts
    · rw [reportName_not_telemetry] at hstarts
      cases hstarts
    · cases hstarts
    · rfl
  · intro he
    rw [he]
    exact telemetryName_starts _

/-- What `FrozenMap({...})` makes of the hashes of an attempt. -/
theorem ofDict_attempt {packetHash draftHash reportHash : String} {reduced : Option String}
    {hashes : FrozenMap String}
    (h : FrozenMap.ofDict ([("research_packet", packetHash), (draftName draft, draftHash),
      (reportName report, reportHash)] ++ reduced.toList.map fun hash =>
        ("reduced_report", hash)) = some hashes) :
    (∀ name, name ∈ hashes.names ↔ name = "research_packet" ∨ name = draftName draft ∨
      name = reportName report ∨ name = "reduced_report" ∧ reduced.isSome) ∧
    hashes.get? "research_packet" = some packetHash ∧
    hashes.get? (draftName draft) = some draftHash ∧
    hashes.get? (reportName report) = some reportHash ∧
    hashes.get? "reduced_report" = reduced := by
  have hpd : "research_packet" ≠ draftName draft :=
    (ne_of_startsWith (draftName_starts draft) (by decide)).symm
  have hpr : "research_packet" ≠ reportName report :=
    (ne_of_startsWith (reportName_starts report) (by decide)).symm
  have hrd : "reduced_report" ≠ draftName draft :=
    (ne_of_startsWith (draftName_starts draft) (by decide)).symm
  have hrr : "reduced_report" ≠ reportName report :=
    (ne_of_startsWith (reportName_starts report) (by decide)).symm
  have hdr : draftName draft ≠ reportName report :=
    ne_of_startsWith (draftName_starts draft) (reportName_not_draft report)
  have hrp : "reduced_report" ≠ "research_packet" := by decide
  have hnodup : (([("research_packet", packetHash), (draftName draft, draftHash),
      (reportName report, reportHash)] ++ reduced.toList.map fun hash =>
        ("reduced_report", hash)).map Prod.fst).Nodup := by
    cases reduced with
    | none => simp [hpd, hpr, hdr]
    | some hash => simp [hpd, hpr, hdr, hrp.symm, hrd.symm, hrr.symm]
  have hnames := FrozenMap.mem_names_ofDict h hnodup
  have hfirst : ∀ entry ∈ [("research_packet", packetHash), (draftName draft, draftHash),
      (reportName report, reportHash)], hashes.get? entry.1 = some entry.2 :=
    fun entry hentry => FrozenMap.get?_ofDict_of_mem h hnodup (List.mem_append_left _ hentry)
  refine ⟨?_, hfirst _ List.mem_cons_self, hfirst _ (List.mem_cons_of_mem _ List.mem_cons_self),
    hfirst _ (List.mem_cons_of_mem _ (List.mem_cons_of_mem _ List.mem_cons_self)), ?_⟩
  · intro name
    rw [hnames]
    cases reduced with
    | none => simp
    | some hash => simp
  · cases reduced with
    | none =>
      rw [Option.eq_none_iff_forall_ne_some]
      intro value hvalue
      have hmem := (hnames "reduced_report").mp
        ((FrozenMap.mem_names_iff _ _).mpr ⟨value, (FrozenMap.get?_eq_some _).mp hvalue⟩)
      rcases List.mem_cons.mp hmem with hmem | hmem
      · exact hrp hmem
      · rcases List.mem_cons.mp hmem with hmem | hmem
        · exact hrd hmem
        · exact hrr (List.mem_singleton.mp hmem)
    | some hash =>
      exact FrozenMap.get?_ofDict_of_mem h hnodup
        (List.mem_append_right _ (List.mem_singleton.mpr rfl))

/-- The entry the service appends is that of its attempt. -/
theorem attemptEntry_of_binds {at' : UtcDatetime} {hashes : FrozenMap String}
    (hhashes : FrozenMap.ofDict ([("research_packet", sha256 packet.bytes),
      (draftName draft, sha256 draft.bytes), (reportName report, sha256 report.bytes)] ++
      reduced.toList.map fun hash => ("reduced_report", hash)) = some hashes)
    (hbinds : Binds (attemptCheckpoint packet at' hashes) telemetry c) :
    AttemptEntry packet draft report reduced telemetry c := by
  obtain ⟨hnames, hpacket, hdraft, hreport, hreduced⟩ := ofDict_attempt hhashes
  obtain ⟨bound, hset, hc⟩ := hbinds
  have hplain : ∀ name, startsWith name "performance_telemetry_" = false →
      bound.get? name = hashes.get? name := by
    intro name hname
    rw [FrozenMap.get?_set hset,
      if_neg (ne_of_startsWith (telemetryName_starts _) hname).symm]
    exact FrozenMap.get?_without hname
  have hmembers : ∀ name, name ∈ bound.names ↔
      name = telemetryName (sha256 telemetry.bytes) ∨
      name ∈ hashes.names ∧ RunCheckpoint.isTelemetry name = false := by
    intro name
    rw [FrozenMap.mem_names_set hset, FrozenMap.mem_names_without]
    rfl
  rw [hc]
  refine {
    owner := rfl, stage := rfl, execution := rfl, quality := rfl, delivery := rfl,
    cutoff := rfl, final := rfl, names := ?_, packetHash := ?_, draftHash := ?_,
    reportHash := ?_, reducedHash := ?_, telemetryHash := ?_ }
  · intro name
    rw [hmembers, hnames]
    constructor
    · intro h
      tauto
    · intro h
      rcases h with h | h | h | ⟨h, hsome⟩ | h
      · exact Or.inr ⟨Or.inl h, by rw [h]; decide⟩
      · exact Or.inr ⟨Or.inr (Or.inl h), by rw [h]; exact draftName_not_telemetry draft⟩
      · exact Or.inr ⟨Or.inr (Or.inr (Or.inl h)), by rw [h]; exact reportName_not_telemetry report⟩
      · exact Or.inr ⟨Or.inr (Or.inr (Or.inr ⟨h, hsome⟩)), by rw [h]; decide⟩
      · exact Or.inl h
  · exact (hplain _ (by decide)).trans hpacket
  · exact (hplain _ (draftName_not_telemetry draft)).trans hdraft
  · exact (hplain _ (reportName_not_telemetry report)).trans hreport
  · exact (hplain _ (by decide)).trans hreduced
  · show bound.get? _ = _
    rw [FrozenMap.get?_set hset, if_pos rfl]

/-! ## Which attempt -/

/-- The attempt number `k` at `draft` is due: the first, or the one after an invalid attempt
at another draft that is read last. -/
inductive Due (readers : Readers) (u : CharacterDatabase) (packet : ResearchPacket)
    (draft : ResearchBriefDraft) (d : RunDir) (attempts : List RunCheckpoint) : Nat → Prop where
  | first (h : attempts = []) : Due readers u packet draft d attempts 1
  | repair (last : RunCheckpoint) (previousDraft : ResearchBriefDraft)
      (previousReport : ValidationReport) (hlast : attempts.getLast? = some last)
      (hreads : last.runId = packet.run.runId →
        ReadsAttempt readers d last previousDraft previousReport)
      (hcount : previousReport.validationAttempt = attempts.length)
      (hinvalid : previousReport.isValid = false)
      (hdiffers : ¬ previousDraft.Equals draft) :
      Due readers u packet draft d attempts (previousReport.validationAttempt + 1)

/-- What holds when the entry `c` of an attempt is accepted: the run is `stored`, all
artifacts of the attempt are staged, and it is due. -/
structure NextAttempt (readers : Readers) (u : CharacterDatabase) (packet : ResearchPacket)
    (draft : ResearchBriefDraft) (report : ValidationReport) (k : Nat) (d : RunDir)
    (stored : StoredRun) (c : RunCheckpoint) : Prop where
  packetStaged : d.stagedArtifact "research_packet" = some packet.bytes
  draftStaged : d.stagedArtifact (draftName draft) = some draft.bytes
  reportStaged : d.stagedArtifact (reportName report) = some report.bytes
  synthesized : draft.origin = .synthesized
  verdict : validateResearchBrief u packet draft k = .ok report
  entry : ∃ latest telemetry, stored.checkpoints.getLast? = some latest ∧
    AttemptEntry packet draft report (latest.artifactHashes.get? "reduced_report") telemetry c ∧
    TelemetryStaged telemetry d
  due : Due readers u packet draft d (attemptsRead stored) k

theorem due_stable (readers : Readers) (u : CharacterDatabase) (packet : ResearchPacket)
    (draft : ResearchBriefDraft) (attempts : List RunCheckpoint) (k : Nat) :
    Stable fun d => Due readers u packet draft d attempts k := by
  intro d d' hgrows h
  cases h with
  | first h => exact .first h
  | repair last previousDraft previousReport hlast hreads hcount hinvalid hdiffers =>
    refine .repair last previousDraft previousReport hlast ?_ hcount hinvalid hdiffers
    intro howner
    exact readsAttempt_stable readers last _ _ d d' hgrows (hreads howner)

/-! ## `validate_staged_brief` -/

/-- A repair context for the validator's own report is never refused. -/
theorem repairFor_verdict {u : CharacterDatabase} {k : Nat}
    (h : validateResearchBrief u packet draft k = .ok report) :
    ∃ out, repairFor packet report = .done out := by
  obtain ⟨-, hreport⟩ := validate_spec h
  unfold repairFor
  by_cases hrepair : report.repairable = true
  · rw [if_pos hrepair]
    have hinvalid := report.consistent.2.2.mp hrepair
    have hpositive := report.bounded.1
    refine ⟨some ⟨packet.packetId, packet.canonicalSha256, report.validationAttempt + 1, by omega⟩, ?_⟩
    have hmatches : ¬ (report.packetId ≠ packet.packetId ∨
        report.packetSha256 ≠ packet.canonicalSha256) := by
      rw [hreport.packetId, hreport.packetSha256]
      simp
    have hvalid : ¬ report.isValid = true := by simp [hinvalid.1]
    have hfew : ¬ (report.repairable = false ∨ 3 ≤ report.validationAttempt) := by
      intro hor
      rcases hor with hno | hmany
      · rw [hrepair] at hno
        cases hno
      · omega
    rw [createRepairContext, if_neg hmatches, if_neg hvalid, dif_neg hfew]
    rfl
  · rw [if_neg hrepair]
    exact ⟨none, rfl⟩

section Walk

variable {readers : Readers} {u : CharacterDatabase} {rules : Rules Repository Port}
  {P : RunDir → StoredRun → RunCheckpoint → Prop}
  {ends : List Recorded → Repository → Except ServiceError
    (ValidationReport × Option RepairContext) → Prop} {s : Repository} {stored : StoredRun}

/-- The service, from the attempt number on: an entry is appended only when its attempt is
due, and after that the service cannot fail. -/
theorem recordAttempt_follows (hsound : Sound readers packet.run.runId rules)
    (happends : Appends readers packet.run.runId rules P)
    (hP : ∀ report k d stored c, NextAttempt readers u packet draft report k d stored c →
      P d stored c)
    (hok : ∀ notes t out, ends notes t (.ok out)) (herror : ∀ t e, ends [] t (.error e))
    {checkpointedAt : UtcDatetime} {recorder : RunTelemetryRecorder} {elapsedMs k : Nat}
    (hsynthesized : draft.origin = .synthesized) (hinv : rules.inv s)
    (hread : Known packet.run.runId s (Observed stored))
    (hpacket : Known packet.run.runId s fun d =>
      d.stagedArtifact "research_packet" = some packet.bytes)
    (hdue : Known packet.run.runId s fun d =>
      Due readers u packet draft d (attemptsRead stored) k) :
    Follows (Port.exec readers) Port.note rules ends
      (recordAttempt u packet draft checkpointedAt recorder elapsedMs (sha256 packet.bytes)
        stored k) [] s := by
  have hlater := hsound.later
  refine learns_ofOption.follows_bind hinv (fun t₁ latest _ hinv hlatest => ?_)
    fun t e _ _ => herror t e
  obtain ⟨rfl, hlatest⟩ := hlatest
  refine learns_require.follows_bind hinv (fun t₂ _ _ hinv hsame => ?_) fun t e _ _ => herror t e
  obtain ⟨rfl, -⟩ := hsame
  refine learns_ofExcept.follows_bind hinv (fun t₃ report _ hinv hverdict => ?_)
    fun t e _ _ => herror t e
  obtain ⟨rfl, hverdict⟩ := hverdict
  refine (learns_stageArtifact hsound _ _).follows_bind hinv
    (fun t₄ draftHash hrely₄ hinv hdraft => ?_) fun t e _ _ => herror t e
  obtain ⟨rfl, hdraft⟩ := hdraft
  refine (learns_stageArtifact hsound _ _).follows_bind hinv
    (fun t₅ reportHash hrely₅ hinv hreport => ?_) fun t e _ _ => herror t e
  obtain ⟨rfl, hreport⟩ := hreport
  refine learns_ofOption.follows_bind hinv (fun t₆ hashes _ hinv hhashes => ?_)
    fun t e _ _ => herror t e
  obtain ⟨rfl, hhashes⟩ := hhashes
  refine learns_ofOption.follows_bind hinv (fun t₇ snapshot _ hinv hsame => ?_)
    fun t e _ _ => herror t e
  obtain ⟨rfl, -⟩ := hsame
  refine (learns_checkpointWithTelemetry (c := attemptCheckpoint packet checkpointedAt hashes)
    hsound snapshot).follows_bind hinv
    (fun t₈ checkpoint hrely₈ hinv hbound => ?_) fun t e _ _ => herror t e
  obtain ⟨hbinds, htelemetry⟩ := hbound
  have hrely₀ := rules.trans _ _ _ (rules.trans _ _ _ hrely₄ hrely₅) hrely₈
  refine follows_checkpointIfCurrent hsound happends
    (hread.later (observed_stable stored) (hlater _ _ hrely₀)) ?_ ?_ fun t e _ _ => herror t e
  · -- when the entry is accepted, everything it names is staged and its attempt is still due
    intro t hrely _ d hd hload
    have hfrom := hlater _ _ hrely
    exact hP report k d stored checkpoint {
      packetStaged := hpacket.later (stagedArtifact_stable _ _)
        (hlater _ _ (rules.trans _ _ _ hrely₀ hrely)) d hd
      draftStaged := hdraft.later (stagedArtifact_stable _ _)
        (hlater _ _ (rules.trans _ _ _ (rules.trans _ _ _ hrely₅ hrely₈) hrely)) d hd
      reportStaged := hreport.later (stagedArtifact_stable _ _)
        (hlater _ _ (rules.trans _ _ _ hrely₈ hrely)) d hd
      synthesized := hsynthesized
      verdict := hverdict
      entry := ⟨latest, snapshot, hlatest, attemptEntry_of_binds hhashes hbinds,
        htelemetry.later (telemetryStaged_stable snapshot) hfrom d hd⟩
      due := hdue.later (due_stable readers u packet draft _ k)
        (hlater _ _ (rules.trans _ _ _ hrely₀ hrely)) d hd }
  · intro t d' _ _ _ _ _
    obtain ⟨repair, hrepair⟩ := repairFor_verdict hverdict
    rw [hrepair]
    exact hok _ _ _

/-- The second reading of the run decides which attempt it is, if it is one. -/
theorem validateOn_follows (hsound : Sound readers packet.run.runId rules)
    (happends : Appends readers packet.run.runId rules P)
    (hP : ∀ report k d stored c, NextAttempt readers u packet draft report k d stored c →
      P d stored c)
    (hok : ∀ notes t out, ends notes t (.ok out)) (herror : ∀ t e, ends [] t (.error e))
    {checkpointedAt : UtcDatetime} {recorder : RunTelemetryRecorder} {elapsedMs : Nat}
    (hsynthesized : draft.origin = .synthesized) (hinv : rules.inv s)
    (hread : Known packet.run.runId s (Observed stored))
    (hpacket : Known packet.run.runId s fun d =>
      d.stagedArtifact "research_packet" = some packet.bytes) :
    Follows (Port.exec readers) Port.note rules ends
      (validateOn readers u packet draft checkpointedAt recorder elapsedMs
        (sha256 packet.bytes) stored) [] s := by
  have hlater := hsound.later
  unfold validateOn
  split
  next hnone =>
    refine recordAttempt_follows hsound happends hP hok herror hsynthesized hinv hread hpacket ?_
    intro d _
    exact .first (List.getLast?_eq_none_iff.mp hnone)
  next last hlast =>
    refine (learns_recordedAttempt hsound last).follows_bind hinv
      (fun t₁ previous hrely hinv hreads => ?_) fun t e _ _ => herror t e
    obtain ⟨previousDraft, previousReport⟩ := previous
    refine learns_require.follows_bind hinv (fun t₂ _ _ hinv hcount => ?_)
      fun t e _ _ => herror t e
    obtain ⟨rfl, -, hcount⟩ := hcount
    refine learns_ofExcept.follows_bind hinv (fun t₃ verdict _ hinv hsame => ?_)
      fun t e _ _ => herror t e
    obtain ⟨rfl, hverdict⟩ := hsame
    refine learns_require.follows_bind hinv (fun t₄ _ _ hinv hagrees => ?_)
      fun t e _ _ => herror t e
    obtain ⟨rfl, hagrees⟩ := hagrees
    by_cases hequal : previousDraft.Equals draft
    · rw [if_pos hequal]
      obtain ⟨repair, hrepair⟩ := repairFor_verdict hverdict
      rw [hagrees, hrepair]
      exact hok _ _ _
    · rw [if_neg hequal]
      refine learns_ofExcept.follows_bind hinv (fun t₅ context _ hinv hcontext => ?_)
        fun t e _ _ => herror t e
      obtain ⟨rfl, hcontext⟩ := hcontext
      obtain ⟨hinvalid, hnext⟩ := createRepairContext_ok hcontext
      rw [hnext]
      refine recordAttempt_follows hsound happends hP hok herror hsynthesized hinv
        (hread.later (observed_stable stored) (hlater _ _ hrely))
        (hpacket.later (stagedArtifact_stable _ _) (hlater _ _ hrely)) ?_
      intro d hd
      exact .repair last previousDraft previousReport hlast (fun howner => hreads howner d hd)
        hcount hinvalid hequal

/-- **A call of `validate_staged_brief` appends nothing but the attempt that is due, and
nothing when it fails.** -/
theorem validate_follows (hsound : Sound readers packet.run.runId rules)
    (happends : Appends readers packet.run.runId rules P)
    (hP : ∀ report k d stored c, NextAttempt readers u packet draft report k d stored c →
      P d stored c)
    (hok : ∀ notes t out, ends notes t (.ok out)) (herror : ∀ t e, ends [] t (.error e))
    (checkpointedAt : UtcDatetime) (telemetry : Option RunTelemetryRecorder) (elapsedMs : Nat)
    (hinv : rules.inv s) :
    Follows (Port.exec readers) Port.note rules ends
      (validateStagedBrief readers u packet draft checkpointedAt telemetry elapsedMs) [] s := by
  have hlater := hsound.later
  refine learns_require.follows_bind hinv (fun t₁ _ _ hinv hsame => ?_) fun t e _ _ => herror t e
  obtain ⟨rfl, hsynthesized⟩ := hsame
  refine learns_require.follows_bind hinv (fun t₂ _ _ hinv hsame => ?_) fun t e _ _ => herror t e
  obtain ⟨rfl, -⟩ := hsame
  refine (learns_stagedPacketHash hsound _).follows_bind hinv
    (fun t₃ packetHash _ hinv hknown => ?_) fun t e _ _ => herror t e
  obtain ⟨rfl, hknown⟩ := hknown
  have hpacket : Known packet.run.runId t₃ fun d =>
      d.stagedArtifact "research_packet" = some packet.bytes := hknown.mono fun d h => h.1
  refine (learns_load hsound).follows_bind hinv (fun t₄ out hrely₄ hinv hload => ?_)
    fun t e _ _ => herror t e
  refine learns_ofOption.follows_bind hinv (fun t₅ stored _ hinv hsame => ?_)
    fun t e _ _ => herror t e
  obtain ⟨rfl, hstored⟩ := hsame
  refine (learns_loadLatestCheckpointTelemetry hsound stored).follows_bind hinv
    (fun t₆ previous hrely₆ hinv _ => ?_) fun t e _ _ => herror t e
  refine (learns_restoreTelemetry _ _ previous).follows_bind hinv
    (fun t₇ recorder hrely₇ hinv _ => ?_) fun t e _ _ => herror t e
  have hrely := rules.trans _ _ _ hrely₆ hrely₇
  exact validateOn_follows hsound happends hP hok herror hsynthesized hinv
    ((hload stored hstored).later (observed_stable stored) (hlater _ _ hrely))
    (hpacket.later (stagedArtifact_stable _ _)
      (hlater _ _ (rules.trans _ _ _ hrely₄ hrely)))

end Walk

end Service

end FinanceResearch
