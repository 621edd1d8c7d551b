import FinanceResearch.Publish.Attempts

/-!
# Attempts are serialised

Any number of calls of `validate_staged_brief` may interleave. What they append is a
sequence of attempts all the same (`Serialised`): at most three, numbered from one, each
with the validator's report on its draft, none after a valid one, no draft twice in a row.

The step is `Serialised.append`. The entry read last need not be the one written last, but
then its report has the wrong number and the call is refused (`Due`).
-/

namespace FinanceResearch

open Calendar (UtcDatetime)
open Program (Rules Follows)

/-- The entries in the order they were written. -/
def RunDir.entries (d : RunDir) : List RunCheckpoint := d.checkpoints.map Prod.snd

/-- The `VALIDATING` entries in the order they were written. -/
def RunDir.attemptsMade (d : RunDir) : List RunCheckpoint :=
  d.entries.filter fun c => c.stage = "VALIDATING"

theorem RunDir.attemptsMade_congr {d d' : RunDir} (h : d'.checkpoints = d.checkpoints) :
    d'.attemptsMade = d.attemptsMade := by
  rw [attemptsMade, entries, h]
  rfl

theorem RunDir.attemptsMade_append {d : RunDir} (h : d.SequenceNamed) (c : RunCheckpoint) :
    (d.appendCheckpoint c).attemptsMade =
      d.attemptsMade ++ [c].filter fun c => c.stage = "VALIDATING" := by
  rw [attemptsMade, entries, appendCheckpoint_checkpoints h, List.map_append, List.filter_append]
  rfl

namespace Service

/-- The attempts read are those made, in some order. -/
theorem attemptsRead_perm {d : RunDir} {stored : StoredRun} (h : d.load = some stored) :
    (attemptsRead stored).Perm d.attemptsMade := by
  rw [attemptsRead, (RunDir.load_eq_some h).1]
  exact d.log_perm.filter _

/-- A draft and the report on it. -/
structure Attempt where
  draft : ResearchBriefDraft
  report : ValidationReport

/-- The documents of the attempt are read back as they were written. -/
structure Attempt.Readable (readers : Readers) (a : Attempt) : Prop where
  draft : readers.draft a.draft.bytes = some a.draft
  report : readers.report a.report.bytes = some a.report

/-- The entry `c` is that of the attempt `a`, the one number `k`. -/
structure RecordedAs (u : CharacterDatabase) (packet : ResearchPacket) (d : RunDir)
    (c : RunCheckpoint) (a : Attempt) (k : Nat) : Prop where
  entry : ∃ reduced telemetry, AttemptEntry packet a.draft a.report reduced telemetry c
  draftStaged : d.stagedArtifact (draftName a.draft) = some a.draft.bytes
  reportStaged : d.stagedArtifact (reportName a.report) = some a.report.bytes
  synthesized : a.draft.origin = .synthesized
  verdict : validateResearchBrief u packet a.draft k = .ok a.report
  number : a.report.validationAttempt = k

/-- The attempts of the run, in the order they were recorded. -/
structure Serialised (u : CharacterDatabase) (packet : ResearchPacket) (d : RunDir)
    (attempts : List Attempt) : Prop where
  count : d.attemptsMade.length = attempts.length
  bound : attempts.length ≤ 3
  records : ∀ i c a, d.attemptsMade[i]? = some c → attempts[i]? = some a →
    RecordedAs u packet d c a (i + 1)
  repairs : ∀ i a a', attempts[i]? = some a → attempts[i + 1]? = some a' →
    a.report.isValid = false ∧ ¬ a.draft.Equals a'.draft

variable {readers : Readers} {u : CharacterDatabase} {packet : ResearchPacket}
  {d d' : RunDir} {c : RunCheckpoint} {a : Attempt} {k : Nat} {attempts : List Attempt}

theorem RecordedAs.grows (h : RecordedAs u packet d c a k) (hgrows : d.Grows d') :
    RecordedAs u packet d' c a k where
  entry := h.entry
  draftStaged := hgrows.artifacts _ _ h.draftStaged
  reportStaged := hgrows.artifacts _ _ h.reportStaged
  synthesized := h.synthesized
  verdict := h.verdict
  number := h.number

theorem serialised_nil (h : d.attemptsMade = []) : Serialised u packet d [] where
  count := by rw [h]; rfl
  bound := Nat.zero_le 3
  records := fun _ _ _ _ hget => by cases hget
  repairs := fun _ _ _ hget => by cases hget

theorem Serialised.grows (h : Serialised u packet d attempts) (hgrows : d.Grows d')
    (hsame : d'.attemptsMade = d.attemptsMade) : Serialised u packet d' attempts where
  count := by rw [hsame]; exact h.count
  bound := h.bound
  records := by
    intro i c a hc ha
    rw [hsame] at hc
    exact (h.records i c a hc ha).grows hgrows
  repairs := h.repairs

/-- What is read back of an entry is its attempt. -/
theorem RecordedAs.reads (h : RecordedAs u packet d c a k) (hreadable : a.Readable readers)
    {draft : ResearchBriefDraft} {report : ValidationReport}
    (hreads : ReadsAttempt readers d c draft report) : draft = a.draft ∧ report = a.report := by
  obtain ⟨reduced, telemetry, hentry⟩ := h.entry
  obtain ⟨⟨draftPayload, ⟨draftFile, hdraftNames, hdraftStaged, -⟩, hdraft⟩,
    reportPayload, ⟨reportFile, hreportNames, hreportStaged, -⟩, hreport⟩ := hreads
  rw [hentry.draftNames, List.cons.injEq] at hdraftNames
  rw [hentry.reportNames, List.cons.injEq] at hreportNames
  rw [← hdraftNames.1, h.draftStaged, Option.some.injEq] at hdraftStaged
  rw [← hreportNames.1, h.reportStaged, Option.some.injEq] at hreportStaged
  rw [← hdraftStaged, hreadable.draft, Option.some.injEq] at hdraft
  rw [← hreportStaged, hreadable.report, Option.some.injEq] at hreport
  exact ⟨hdraft.symm, hreport.symm⟩

/-- The attempt that is due is the next one, and the one before it is invalid and at another
draft. -/
theorem Serialised.due (h : Serialised u packet d attempts) {stored : StoredRun}
    {draft : ResearchBriefDraft} (hload : d.load = some stored)
    (hreadable : ∀ a ∈ attempts, a.Readable readers)
    (hdue : Due readers u packet draft d (attemptsRead stored) k) :
    k = attempts.length + 1 ∧ ∀ a ∈ attempts.getLast?,
      a.report.isValid = false ∧ ¬ a.draft.Equals draft := by
  have hperm := attemptsRead_perm hload
  have hlength := hperm.length_eq.trans h.count
  cases hdue with
  | first hnone =>
    rw [hnone, List.length_nil] at hlength
    rw [List.eq_nil_of_length_eq_zero hlength.symm]
    refine ⟨rfl, ?_⟩
    intro a ha
    cases ha
  | repair last previousDraft previousReport hlast hreads hcount hinvalid hdiffers =>
    have hmade : last ∈ d.attemptsMade := hperm.subset (List.mem_of_getLast? hlast)
    obtain ⟨i, hi, hget⟩ := List.mem_iff_getElem.mp hmade
    have hi' : i < attempts.length := by rw [← h.count]; exact hi
    have hrecorded := h.records i last attempts[i] (by rw [List.getElem?_eq_getElem hi, hget])
      (List.getElem?_eq_getElem hi')
    obtain ⟨reduced, telemetry, hentry⟩ := hrecorded.entry
    obtain ⟨hdraft, hreport⟩ := hrecorded.reads
      (hreadable _ (List.getElem_mem hi')) (hreads hentry.owner)
    -- the report carries the number of its attempt, so the entry read last is the latest one
    have hnumber := hrecorded.number
    rw [← hreport, hcount, hlength] at hnumber
    refine ⟨by rw [hcount, hlength], ?_⟩
    intro a ha
    have hlast' : attempts.getLast? = some attempts[i] := by
      rw [List.getLast?_eq_getElem?, hnumber, Nat.add_sub_cancel]
      exact List.getElem?_eq_getElem hi'
    rw [hlast', Option.mem_some_iff] at ha
    rw [← ha, ← hdraft, ← hreport]
    exact ⟨hinvalid, hdiffers⟩

/-- **An attempt that is due extends the sequence.** -/
theorem Serialised.append (h : Serialised u packet d attempts) (hnamed : d.SequenceNamed)
    {stored : StoredRun} {draft : ResearchBriefDraft} {report : ValidationReport}
    (hload : d.load = some stored) (hreadable : ∀ a ∈ attempts, a.Readable readers)
    (hnext : NextAttempt readers u packet draft report k d stored c) :
    Serialised u packet (d.appendCheckpoint c) (attempts ++ [⟨draft, report⟩]) := by
  obtain ⟨hk, hprevious⟩ := h.due hload hreadable hnext.due
  obtain ⟨hfew, hreports⟩ := validate_spec hnext.verdict
  obtain ⟨latest, telemetry, -, hentry, -⟩ := hnext.entry
  have hgrows := RunDir.grows_append hnamed c
  have hmade : (d.appendCheckpoint c).attemptsMade = d.attemptsMade ++ [c] := by
    rw [RunDir.attemptsMade_append hnamed, List.filter_cons_of_pos (by simp [hentry.stage])]
    rfl
  refine { count := ?_, bound := ?_, records := ?_, repairs := ?_ }
  · rw [hmade, List.length_append, List.length_append, h.count]
    rfl
  · rw [List.length_append, List.length_singleton, ← hk]
    simp only [List.mem_cons, List.not_mem_nil, or_false] at hfew
    omega
  · intro i c' a hc' ha
    rw [hmade] at hc'
    rcases Nat.lt_trichotomy i attempts.length with hlt | heq | hgt
    · rw [List.getElem?_append_left (by rw [h.count]; exact hlt)] at hc'
      rw [List.getElem?_append_left hlt] at ha
      exact (h.records i c' a hc' ha).grows hgrows
    · rw [heq, ← h.count, List.getElem?_concat_length, Option.some.injEq] at hc'
      rw [heq, List.getElem?_concat_length, Option.some.injEq] at ha
      rw [← hc', ← ha, heq, ← hk]
      exact {
        entry := ⟨_, telemetry, hentry⟩
        draftStaged := hnext.draftStaged
        reportStaged := hnext.reportStaged
        synthesized := hnext.synthesized
        verdict := hnext.verdict
        number := hreports.validationAttempt }
    · rw [List.getElem?_eq_none (by rw [List.length_append, List.length_singleton]; omega)] at ha
      cases ha
  · intro i a a' ha ha'
    rcases Nat.lt_trichotomy (i + 1) attempts.length with hlt | heq | hgt
    · rw [List.getElem?_append_left (by omega)] at ha
      rw [List.getElem?_append_left hlt] at ha'
      exact h.repairs i a a' ha ha'
    · rw [heq, List.getElem?_concat_length, Option.some.injEq] at ha'
      rw [List.getElem?_append_left (by omega)] at ha
      rw [← ha']
      refine hprevious a ?_
      rw [List.getLast?_eq_getElem?, ← heq, Nat.add_sub_cancel]
      exact ha
    · rw [List.getElem?_eq_none (by rw [List.length_append, List.length_singleton]; omega)] at ha'
      cases ha'

/-! ## Concurrent calls -/

/-- A call of `validate_staged_brief`. -/
structure ValidateCall where
  packet : ResearchPacket
  draft : ResearchBriefDraft
  checkpointedAt : UtcDatetime
  telemetry : Option RunTelemetryRecorder
  elapsedMs : Nat

/-- What the call runs. -/
def ValidateCall.service (readers : Readers) (u : CharacterDatabase) (call : ValidateCall) :
    Service (ValidationReport × Option RepairContext) :=
  validateStagedBrief readers u call.packet call.draft call.checkpointedAt call.telemetry
    call.elapsedMs

/-- The call is on the run, and pydantic reads its documents back as they were written. -/
structure ValidateCall.Readable (readers : Readers) (u : CharacterDatabase) (r : RunId)
    (call : ValidateCall) : Prop where
  run : call.packet.run.runId = r
  packet : readers.packet call.packet.bytes = some call.packet
  draft : readers.draft call.draft.bytes = some call.draft
  report : ∀ k report, validateResearchBrief u call.packet call.draft k = .ok report →
    readers.report report.bytes = some report

/-- The packet is staged, and the entries are those of a sequence of attempts. -/
structure Attempted (readers : Readers) (u : CharacterDatabase) (packet : ResearchPacket)
    (d : RunDir) : Prop where
  named : d.SequenceNamed
  staged : d.stagedArtifact "research_packet" = some packet.bytes
  attempts : ∃ attempts, Serialised u packet d attempts ∧ ∀ a ∈ attempts, a.Readable readers

theorem Attempted.grows (h : Attempted readers u packet d) (hgrows : d.Grows d')
    (hsame : d'.checkpoints = d.checkpoints) : Attempted readers u packet d' where
  named := RunDir.sequenceNamed_congr hsame h.named
  staged := hgrows.artifacts _ _ h.staged
  attempts := by
    obtain ⟨attempts, hserialised, hreadable⟩ := h.attempts
    exact ⟨attempts, hserialised.grows hgrows (RunDir.attemptsMade_congr hsame), hreadable⟩

/-- What the calls of `validate_staged_brief` owe each other. -/
def validationRules (readers : Readers) (u : CharacterDatabase) (packet : ResearchPacket) :
    Rules Repository Port where
  inv s := ∃ d, s.staging.lookup packet.run.runId = some d ∧ Attempted readers u packet d
  rely := Later packet.run.runId
  guarantee := Later packet.run.runId
  admits _ _ := True
  refl := Later.refl _
  trans _ _ _ := Later.trans
  owed _ _ h := h

theorem validationRules_sound (readers : Readers) (u : CharacterDatabase)
    (packet : ResearchPacket) :
    Sound readers packet.run.runId (validationRules readers u packet) where
  later _ _ h := h
  numbered := by
    intro s hinv d hd
    obtain ⟨d₀, hd₀, hattempted⟩ := hinv
    rw [hd₀, Option.some.injEq] at hd
    rw [← hd]
    exact hattempted.named
  reads s := Later.refl _ s
  stages := by
    intro s name payload hinv
    obtain ⟨d, hd, hattempted⟩ := hinv
    have hkept := stage_kept s packet.run.runId name payload
    refine ⟨?_, fun d' hd' => ?_⟩
    · obtain ⟨d', hd'⟩ := Repository.runOp_staged hd (.stageArtifact name payload)
      obtain ⟨d₀, hd₀, hgrows, hsame⟩ := hkept d' hd'
      rw [hd, Option.some.injEq] at hd₀
      rw [← hd₀] at hgrows hsame
      exact ⟨d', hd', hattempted.grows hgrows hsame⟩
    · obtain ⟨d₀, hd₀, hgrows, -⟩ := hkept d' hd'
      exact ⟨d₀, hd₀, hgrows⟩

/-- An entry that may be appended: the next attempt at a draft that is read back, at a packet
that is read back. -/
def AttemptOf (readers : Readers) (u : CharacterDatabase) (d : RunDir) (stored : StoredRun)
    (c : RunCheckpoint) : Prop :=
  ∃ packet draft report k, NextAttempt readers u packet draft report k d stored c ∧
    readers.packet packet.bytes = some packet ∧
    readers.draft draft.bytes = some draft ∧ readers.report report.bytes = some report

theorem Attempted.append (h : Attempted readers u packet d)
    (hpacket : readers.packet packet.bytes = some packet) {stored : StoredRun}
    (hload : d.load = some stored) (hattempt : AttemptOf readers u d stored c) :
    Attempted readers u packet (d.appendCheckpoint c) := by
  obtain ⟨packet', draft, report, k, hnext, hpacket', hdraft, hreport⟩ := hattempt
  -- the staged bytes are those of one packet
  have hbytes := hnext.packetStaged
  rw [h.staged, Option.some.injEq] at hbytes
  rw [← hbytes, hpacket, Option.some.injEq] at hpacket'
  rw [← hpacket'] at hnext
  obtain ⟨attempts, hserialised, hreadable⟩ := h.attempts
  refine ⟨RunDir.sequenceNamed_append h.named c, h.staged, attempts ++ [⟨draft, report⟩],
    hserialised.append h.named hload hreadable hnext, ?_⟩
  intro a ha
  rcases List.mem_append.mp ha with hold | hnew
  · exact hreadable a hold
  · rw [List.mem_singleton.mp hnew]
    exact ⟨hdraft, hreport⟩

theorem validationRules_appends (hpacket : readers.packet packet.bytes = some packet) :
    Appends readers packet.run.runId (validationRules readers u packet)
      (AttemptOf readers u) := by
  intro s c expectedCount hinv _ hP
  obtain ⟨d, hd, hattempted⟩ := hinv
  refine ⟨?_, (later_exec ((validationRules_sound readers u packet).numbered s
    ⟨d, hd, hattempted⟩) _).1⟩
  show ∃ d', (s.runOp _ _).1.staging.lookup _ = some d' ∧ _
  cases hdone : (s.runOp packet.run.runId (.checkpointIfCurrent c expectedCount)).2 with
  | error e => exact ⟨d, (append_error hdone).trans hd, hattempted⟩
  | ok done =>
    obtain ⟨d₀, stored, hd₀, hload, hcount, howner, haccepts, hafter⟩ := append_ok hdone
    rw [hd, Option.some.injEq] at hd₀
    rw [← hd₀] at hload hcount haccepts hafter
    exact ⟨_, hafter, hattempted.append hpacket hload
      (hP d stored hd hload hcount howner haccepts)⟩

/-- Every call keeps to the rules, and one that fails has appended nothing. -/
theorem validateCall_follows {call : ValidateCall}
    (hreadable : call.Readable readers u packet.run.runId)
    (hpacket : readers.packet packet.bytes = some packet) {s : Repository}
    (hinv : (validationRules readers u packet).inv s) :
    Follows (Port.exec readers) Port.note (validationRules readers u packet)
      (fun notes _ out => ∀ e, out = .error e → notes = []) (call.service readers u) [] s := by
  have hsound := validationRules_sound readers u packet
  have happends := validationRules_appends (u := u) hpacket
  rw [← hreadable.run] at hsound happends
  refine validate_follows hsound happends ?_ ?_ ?_ _ _ _ hinv
  · intro report k d stored c hnext
    exact ⟨call.packet, call.draft, report, k, hnext, hreadable.packet, hreadable.draft,
      hreadable.report k report hnext.verdict⟩
  · intro notes t out e he
    cases he
  · intro t e e' _
    rfl

/-- The reports on a draft. -/
def reportsOn (u : CharacterDatabase) (packet : ResearchPacket) (draft : ResearchBriefDraft) :
    List ValidationReport :=
  [1, 2, 3].filterMap fun k => (validateResearchBrief u packet draft k).toOption

theorem mem_reportsOn {u : CharacterDatabase} {packet : ResearchPacket}
    {draft : ResearchBriefDraft} {report : ValidationReport} :
    report ∈ reportsOn u packet draft ↔ ∃ k, validateResearchBrief u packet draft k = .ok report := by
  rw [reportsOn, List.mem_filterMap]
  constructor
  · intro h
    obtain ⟨k, -, hk⟩ := h
    refine ⟨k, ?_⟩
    cases hverdict : validateResearchBrief u packet draft k with
    | error e => rw [hverdict] at hk; cases hk
    | ok verdict => rw [hverdict] at hk; cases hk; rfl
  · intro h
    obtain ⟨k, hk⟩ := h
    exact ⟨k, (validate_spec hk).1, by rw [hk]; rfl⟩

/-- A reader of the documents of calls with this packet and this draft. -/
def readersOf (u : CharacterDatabase) (packet : ResearchPacket) (draft : ResearchBriefDraft) :
    Readers where
  draft payload := if payload = draft.bytes then some draft else none
  report payload := (reportsOn u packet draft).find? fun report => report.bytes = payload
  packet payload := if payload = packet.bytes then some packet else none
  telemetry _ := none
  telemetryValue _ := none
  bundle _ := none

theorem readersOf_report {u : CharacterDatabase} {packet : ResearchPacket}
    {draft : ResearchBriefDraft} {k : Nat} {report : ValidationReport}
    (h : validateResearchBrief u packet draft k = .ok report) :
    (readersOf u packet draft).report report.bytes = some report := by
  have hmem : report ∈ reportsOn u packet draft := mem_reportsOn.mpr ⟨k, h⟩
  cases hfind : (readersOf u packet draft).report report.bytes with
  | none =>
    have hnone := List.find?_eq_none.mp hfind report hmem
    simp at hnone
  | some found =>
    have hbytes : found.bytes = report.bytes := by simpa using List.find?_some hfind
    obtain ⟨k', hk'⟩ := mem_reportsOn.mp (List.mem_of_find?_eq_some hfind)
    -- the bytes tell the attempt, and the attempt tells the report
    have hattempt := ValidationReport.attempt_of_bytes hbytes
    rw [(validate_spec hk').2.validationAttempt, (validate_spec h).2.validationAttempt] at hattempt
    rw [hattempt, h, Except.ok.injEq] at hk'
    rw [hk']

/-- A run with the packet staged and nothing recorded but that. -/
def stagedDir (packet : ResearchPacket) (hashes : FrozenMap String) : RunDir where
  runJson := some packet.run
  checkpoints := [(RunDir.checkpointFileName 1 "AWAITING_SYNTHESIS",
    { runId := packet.run.runId
      stage := "AWAITING_SYNTHESIS"
      executionStatus := .awaitingSynthesis
      dataQualityStatus := packet.run.dataQualityStatus
      deliveryStatus := packet.run.deliveryStatus
      writtenAt := packet.cutoff
      evidenceCutoffAt := packet.run.evidenceCutoffAt
      artifactHashes := hashes
      resumable := true })]
  frozenEvidence := packet.run.evidenceCutoffAt
  artifacts := [("research_packet", packet.bytes)]
  bundleJson := none
  reportMd := none

/-- A draft for the sample packet. -/
theorem calm_bounded : 1 ≤ "Calm.".length ∧ "Calm.".length ≤ 2000 := by decide

def calmDraft : ResearchBriefDraft :=
  sampleDraft (samplePacket [] [])
    (sampleFact ⟨"Calm.", calm_bounded⟩ [] List.nodup_nil (by decide))

end Service

end FinanceResearch
