import FinanceResearch.Runs.StagedRun

/-!
# The checkpoint log

What the file names do to the log. `SequenceNamed` is kept by every operation,
so a new file never replaces one (`appendCheckpoint_checkpoints`) and the names
are distinct. A new entry is read last exactly when its name is above all the
others (`log_append_of_newest`, `log_getLast?_of_not_newest`). Up to 9,998
earlier files it always is (`newestName_of_le`), so a log of at most 9,999
entries is read in the order it was written (`log_eq_of_le`); the 10,000th
name, `10000-…`, sorts below `9999-…`.
-/

namespace FinanceResearch

open Calendar (UtcDatetime)

namespace RunDir

/-- The i-th file in order of creation carries the number i. -/
def SequenceNamed (d : RunDir) : Prop :=
  ∀ (i : Nat) (h : i < d.checkpoints.length),
    (d.checkpoints[i]).1 = checkpointFileName (i + 1) (d.checkpoints[i]).2.stage

/-- The name the next entry gets is above every name in the directory. -/
def NewestName (d : RunDir) (stage : String) : Prop :=
  ∀ name ∈ Listing.names d.checkpoints, name < d.nextFileName stage

instance (d : RunDir) (stage : String) : Decidable (d.NewestName stage) :=
  inferInstanceAs (Decidable (∀ name ∈ Listing.names d.checkpoints, _))

/-- The entry read last is the one written last. -/
def ReadsNewestLast (d : RunDir) : Prop :=
  (Listing.inNameOrder d.checkpoints).getLast? = d.checkpoints.getLast?

theorem checkpointFileName_toList (sequence : Nat) (stage : String) :
    (checkpointFileName sequence stage).toList =
      Numerals.padded 4 sequence ++ '-' :: (stage.toList ++ ".json".toList) := by
  simp [checkpointFileName]

theorem checkpointFileName_injective {a b : Nat} {s t : String}
    (h : checkpointFileName a s = checkpointFileName b t) : a = b := by
  have hl := congrArg String.toList h
  rw [checkpointFileName_toList, checkpointFileName_toList] at hl
  exact Numerals.padded_append_injective (by decide) hl

theorem checkpointFileName_lt {a b : Nat} (s t : String) (hab : a < b) (hb : b < 10000) :
    checkpointFileName a s < checkpointFileName b t := by
  rw [String.lt_iff_toList_lt, checkpointFileName_toList, checkpointFileName_toList]
  exact Numerals.padded_lt _ _ (by decide) hab hb

theorem SequenceNamed.of_mem {d : RunDir} (h : d.SequenceNamed) {name : String}
    (hn : name ∈ Listing.names d.checkpoints) :
    ∃ i, i < d.checkpoints.length ∧ ∃ stage, name = checkpointFileName (i + 1) stage := by
  obtain ⟨f, hf, rfl⟩ := List.mem_map.mp hn
  obtain ⟨i, hi, rfl⟩ := List.mem_iff_getElem.mp hf
  exact ⟨i, hi, _, h i hi⟩

theorem nextFileName_fresh {d : RunDir} (h : d.SequenceNamed) (stage : String) :
    d.nextFileName stage ∉ Listing.names d.checkpoints := by
  intro hn
  obtain ⟨i, hi, stage', he⟩ := h.of_mem hn
  have := checkpointFileName_injective he
  omega

/-- Appending creates one file and replaces none. -/
theorem appendCheckpoint_checkpoints {d : RunDir} (h : d.SequenceNamed) (c : RunCheckpoint) :
    (d.appendCheckpoint c).checkpoints = d.checkpoints ++ [(d.nextFileName c.stage, c)] :=
  Listing.write_of_fresh (nextFileName_fresh h c.stage)

theorem sequenceNamed_append {d : RunDir} (h : d.SequenceNamed) (c : RunCheckpoint) :
    (d.appendCheckpoint c).SequenceNamed := by
  intro i hi
  simp only [appendCheckpoint_checkpoints h] at hi ⊢
  rw [List.length_append, List.length_singleton] at hi
  rcases Nat.lt_or_ge i d.checkpoints.length with hlt | hge
  · simp only [List.getElem_append_left hlt]
    exact h i hlt
  · have he : i = d.checkpoints.length := by omega
    subst he
    simp [nextFileName]

theorem sequenceNamed_effect {r : RunId} {d d' : RunDir} (h : d.SequenceNamed)
    (he : Effect r d d') : d'.SequenceNamed := by
  cases he with
  | unchanged => exact h
  | staged name payload fresh legal => exact h
  | recorded c stored owner loaded accepts => exact sequenceNamed_append h c
  | frozen cutoffAt stored loaded open' after => exact h
  | publication bundle report => exact h

theorem names_nodup {d : RunDir} (h : d.SequenceNamed) :
    (Listing.names d.checkpoints).Nodup := by
  refine List.nodup_iff_injective_getElem.mpr ?_
  rintro ⟨i, hi⟩ ⟨j, hj⟩ he
  simp only [Listing.names, List.length_map] at hi hj
  simp only [Listing.names, List.getElem_map] at he
  rw [h i hi, h j hj] at he
  have := checkpointFileName_injective he
  simp only [Fin.mk.injEq]
  omega

/-! ## The order of reading -/

theorem newestName_of_le {d : RunDir} (h : d.SequenceNamed) (hlen : d.checkpoints.length ≤ 9998)
    (stage : String) : d.NewestName stage := by
  intro name hn
  obtain ⟨i, hi, stage', rfl⟩ := h.of_mem hn
  exact checkpointFileName_lt _ _ (by omega) (by omega)

/-- A new entry under the newest name is read last. -/
theorem log_append_of_newest {d : RunDir} (h : d.SequenceNamed) {c : RunCheckpoint}
    (hnew : d.NewestName c.stage) : (d.appendCheckpoint c).log = d.log ++ [c] := by
  rw [log, appendCheckpoint_checkpoints h,
    Listing.inNameOrder_write_last (names_nodup h) hnew, List.map_append]
  rfl

theorem exists_greatest {names : List String} {bound : String} (h : bound ∈ names) :
    ∃ top ∈ names, bound ≤ top ∧ ∀ n ∈ names, n ≤ top := by
  have hne : names ≠ [] := List.ne_nil_of_mem h
  refine ⟨names.max hne, List.max_mem hne, List.le_max_of_mem h, ?_⟩
  intro n hn
  exact List.le_max_of_mem hn

/-- A new entry under any other name is not read last: the last entry stays. -/
theorem log_getLast?_of_not_newest {d : RunDir} (h : d.SequenceNamed) {c : RunCheckpoint}
    (hnew : ¬ d.NewestName c.stage) : (d.appendCheckpoint c).log.getLast? = d.log.getLast? := by
  unfold NewestName at hnew
  push Not at hnew
  obtain ⟨name, hname, hle⟩ := hnew
  obtain ⟨top, htop, hbound, hmax⟩ := exists_greatest hname
  obtain ⟨f, hf, rfl⟩ := List.mem_map.mp htop
  have happ := appendCheckpoint_checkpoints h c
  have hold := Listing.getLast?_inNameOrder (names_nodup h) hf hmax
  have hnew := Listing.getLast?_inNameOrder (names_nodup (sequenceNamed_append h c))
    (f := f) (by rw [happ]; exact List.mem_append_left _ hf) (by
      intro n hn
      rw [happ, Listing.names, List.map_append, List.mem_append] at hn
      rcases hn with hn | hn
      · exact hmax n hn
      · rw [List.map_singleton, List.mem_singleton] at hn
        rw [hn]
        exact le_trans hle hbound)
  rw [log, log, List.getLast?_map, List.getLast?_map, hold, hnew]

theorem mem_log {d : RunDir} {c : RunCheckpoint} :
    c ∈ d.log ↔ c ∈ d.checkpoints.map Prod.snd := by
  unfold log
  exact ((Listing.inNameOrder_perm d.checkpoints).map Prod.snd).mem_iff

theorem log_perm (d : RunDir) : d.log.Perm (d.checkpoints.map Prod.snd) :=
  (Listing.inNameOrder_perm d.checkpoints).map Prod.snd

/-- The new entry is read somewhere among the others, which keep their order. -/
theorem log_append_split {d : RunDir} (h : d.SequenceNamed) (c : RunCheckpoint) :
    ∃ before after, d.log = before ++ after ∧
      (d.appendCheckpoint c).log = before ++ c :: after := by
  have hins := @Listing.inNameOrder_write_insert _ _ _ c (names_nodup h)
    (nextFileName_fresh h c.stage)
  refine ⟨_, _, ?_, by rw [log, appendCheckpoint_checkpoints h, hins, List.map_append, List.map_cons]⟩
  rw [← List.map_append, List.takeWhile_append_dropWhile, log]

/-- Files numbered within four digits are in name order as created. -/
theorem checkpoints_pairwise {d : RunDir} (h : d.SequenceNamed)
    (hlen : d.checkpoints.length ≤ 9999) :
    d.checkpoints.Pairwise (fun f g => f.1 < g.1) := by
  rw [List.pairwise_iff_getElem]
  intro i j hi hj hij
  rw [h i hi, h j hj]
  exact checkpointFileName_lt _ _ (by omega) (by omega)

/-- A log of at most 9,999 entries is read in the order it was written. -/
theorem log_eq_of_le {d : RunDir} (h : d.SequenceNamed) (hlen : d.checkpoints.length ≤ 9999) :
    d.log = d.checkpoints.map Prod.snd := by
  rw [log, Listing.inNameOrder_eq_self (checkpoints_pairwise h hlen)]

theorem readsNewestLast_of_le {d : RunDir} (h : d.SequenceNamed)
    (hlen : d.checkpoints.length ≤ 9999) : d.ReadsNewestLast := by
  rw [ReadsNewestLast, Listing.inNameOrder_eq_self (checkpoints_pairwise h hlen)]

/-! ## Reachable runs -/

/-- The run a sequence of operations leads to from its creation. -/
def staged (context : RunContext) (ops : List RunOp) : RunDir :=
  Transitions.run (step context.runId) (created context) ops

/-- What every such run satisfies: its files are numbered and its context is its own. -/
structure WellFormed (r : RunId) (d : RunDir) : Prop where
  named : d.SequenceNamed
  context : ∃ context, d.runJson = some context ∧ context.runId = r

theorem wellFormed_created (context : RunContext) :
    WellFormed context.runId (created context) :=
  ⟨fun i hi => absurd hi (Nat.not_lt_zero i), context, rfl, rfl⟩

theorem wellFormed_effect {r : RunId} {d d' : RunDir} (h : WellFormed r d)
    (he : Effect r d d') : WellFormed r d' := by
  refine ⟨sequenceNamed_effect h.named he, ?_⟩
  cases he <;> exact h.context

theorem staged_wellFormed (context : RunContext) (ops : List RunOp) :
    WellFormed context.runId (staged context ops) :=
  Transitions.run_invariant
    (step_invariant fun _ _ h he => wellFormed_effect h he) ops (wellFormed_created context)

/-! ## Records for concrete runs -/

/-- The context the concrete runs start from, invoked at time 0. -/
def sampleContext (revision : Nat) (positive : 0 < revision) : RunContext :=
  { runId := ⟨⟨2026, 1, 5, Calendar.firstMonday_valid⟩, revision, positive⟩
    runType := .premarket
    invokedAt := 0
    evidenceCutoffAt := none
    executionStatus := .created
    dataQualityStatus := .pass
    deliveryStatus := .onTime
    configurationSnapshot :=
      { contentHashSha256 := "0000000000000000000000000000000000000000000000000000000000000000"
        fileHashes := FrozenMap.empty
        watchlistVersion := "1"
        regimePolicyVersion := "1"
        setupPolicyVersion := "1"
        riskPolicyVersion := "1"
        sourcePolicyVersion := "1"
        policies := none
        policyHashes := none
        radarUniverse := [] }
    coreVersion := "1"
    mcpContractVersion := "1"
    pluginVersion := "1"
    skillVersion := "1"
    promptVersion := "1"
    reportTemplateVersion := "1"
    schemaVersions := FrozenMap.empty }

/-- An entry without artifacts, for the concrete runs. -/
def plainCheckpoint (r : RunId) (stage : String) (execution : ExecutionStatus)
    (writtenAt : UtcDatetime) (cutoffAt : Option UtcDatetime) : RunCheckpoint :=
  { runId := r
    stage := stage
    executionStatus := execution
    dataQualityStatus := .pass
    deliveryStatus := .onTime
    writtenAt := writtenAt
    evidenceCutoffAt := cutoffAt
    artifactHashes := FrozenMap.empty
    resumable := true }

end RunDir

end FinanceResearch
