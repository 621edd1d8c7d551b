import FinanceResearch.Runs.CheckpointLog

/-!
# The log and the order of its appends

`appended` is the history of a run: the checkpoints its calls accepted, in that
order, read off the outcomes of the calls and not off the files. Every accepted
call adds one file behind the others and no call touches an earlier one
(`step_files`), so the files in order of creation are that history. `load` reads
them in order of their names, which is the order of creation up to 9,999 files
and never beyond (`inNameOrder_iff`).
-/

namespace FinanceResearch

namespace RunDir

/-- The checkpoint a call was accepted with, if it was. -/
def accepted (r : RunId) (d : RunDir) (op : RunOp) : List RunCheckpoint :=
  match (d.apply r op).2 with
  | .error _ => []
  | .ok _ =>
    match op with
    | .checkpoint c => [c]
    | .checkpointIfCurrent c _ => [c]
    | .freezeEvidence cutoffAt =>
      (d.load.map fun stored => evidenceFrozenCheckpoint r stored cutoffAt).toList
    | .stageArtifact _ _ => []
    | .writeBundle _ => []
    | .writeReport _ => []

/-- The checkpoints a run accepts, in the order in which it accepts them. -/
def appended (context : RunContext) (ops : List RunOp) : List RunCheckpoint :=
  Transitions.emitted (step context.runId) (accepted context.runId) (created context) ops

/-- The files of `d'` are those of `d` and, behind them, the entries `cs`. -/
def Extends (d d' : RunDir) (cs : List RunCheckpoint) : Prop :=
  d.checkpoints <+: d'.checkpoints ∧
    d'.checkpoints.map Prod.snd = d.checkpoints.map Prod.snd ++ cs

theorem extends_same {d d' : RunDir} (h : d'.checkpoints = d.checkpoints) : Extends d d' [] := by
  unfold Extends
  rw [h, List.append_nil]
  exact ⟨List.prefix_rfl, rfl⟩

theorem extends_append {d d' : RunDir} {c : RunCheckpoint} (hd : d.SequenceNamed)
    (h : d' = d.appendCheckpoint c) : Extends d d' [c] := by
  unfold Extends
  rw [h, appendCheckpoint_checkpoints hd, List.map_append]
  exact ⟨List.prefix_append _ _, rfl⟩

/-- A submission adds what it submits, or is refused and adds nothing. -/
theorem attempt_extends {r : RunId} {d : RunDir} {c : RunCheckpoint} {outcome : Result RunDir}
    (hd : d.SequenceNamed) (h : ∀ d', outcome = .ok d' → d.checkpointUnlocked r c = .ok d') :
    Extends d (d.attempt outcome).1
      (match (d.attempt outcome).2 with | .error _ => [] | .ok _ => [c]) := by
  cases houtcome : outcome with
  | error refusal => exact extends_same rfl
  | ok d' =>
    obtain ⟨-, -, hd'⟩ := checkpointUnlocked_ok_iff.mp (h d' houtcome)
    exact extends_append hd hd'

/-- A freeze that passes its tests adds its entry, or keeps its first write only. -/
theorem freeze_extends {r : RunId} {d : RunDir} {cutoffAt : Calendar.UtcDatetime}
    (hd : WellFormed r d) : Extends d (step r d (.freezeEvidence cutoffAt))
      (accepted r d (.freezeEvidence cutoffAt)) := by
  obtain ⟨context, hcontext, _⟩ := hd.context
  have hload := load_of_runJson hcontext
  unfold accepted
  show Extends d (d.freezeEvidence r cutoffAt).1
    (match (d.freezeEvidence r cutoffAt).2.map fun _ => () with | .error _ => _ | .ok _ => _)
  by_cases h : d.frozenEvidence = none ∧ context.invokedAt ≤ cutoffAt
  · obtain ⟨hopen, hafter⟩ := h
    have hinvoked : (d.view context false).run.invokedAt ≤ cutoffAt := by
      show (d.boundContext context).invokedAt ≤ cutoffAt
      rw [boundContext_invokedAt]
      exact hafter
    rw [freezeEvidence_open hload hopen hinvoked]
    cases hck : (d.withCutoff cutoffAt).checkpointUnlocked r
        (evidenceFrozenCheckpoint r (d.view context false) cutoffAt) with
    | error refusal => exact extends_same rfl
    | ok d' =>
      obtain ⟨-, -, hd'⟩ := checkpointUnlocked_ok_iff.mp hck
      have hload' : d'.load = some (d'.view context false) := by
        refine load_of_runJson ?_
        rw [hd']
        exact hcontext
      simp only [hload', hload, Except.map]
      exact extends_append (d := d.withCutoff cutoffAt) hd.named hd'
  · have hrefused : ∃ e, d.freezeEvidence r cutoffAt = (d, .error e) := by
      refine freezeEvidence_refused fun stored hstored hopen => ?_
      rw [hload] at hstored
      cases hstored
      show cutoffAt < (d.boundContext context).invokedAt
      rw [boundContext_invokedAt]
      exact not_le.mp fun hle => h ⟨hopen, hle⟩
    obtain ⟨e, he⟩ := hrefused
    rw [he]
    exact extends_same rfl

/-- **What one call does to the files**: it adds what it accepts behind the others. -/
theorem step_files {r : RunId} {d : RunDir} (hd : WellFormed r d) (op : RunOp) :
    Extends d (step r d op) (accepted r d op) := by
  cases op with
  | stageArtifact name payload =>
    have hsame : (step r d (.stageArtifact name payload)).checkpoints = d.checkpoints := by
      show (d.attempt _).1.checkpoints = _
      cases hstage : d.stageArtifact name payload with
      | error refusal => rfl
      | ok out =>
        obtain ⟨d', digest⟩ := out
        exact (stageArtifact_frame hstage).2.1
    have hnone : accepted r d (.stageArtifact name payload) = [] := by
      unfold accepted
      split
      · rfl
      · rfl
    rw [hnone]
    exact extends_same hsame
  | checkpoint c => exact attempt_extends hd.named fun _ h => h
  | checkpointIfCurrent c expectedCount =>
    exact attempt_extends hd.named fun _ h => checkpointIfCurrent_ok h
  | freezeEvidence cutoffAt => exact freeze_extends hd
  | writeBundle payload => exact extends_same rfl
  | writeReport payload => exact extends_same rfl

/-- The files of a run are the checkpoints it accepted. -/
theorem staged_files (context : RunContext) (ops : List RunOp) :
    WellFormed context.runId (staged context ops) ∧
      (staged context ops).checkpoints.map Prod.snd = appended context ops := by
  have hstep : ∀ h d op, (WellFormed context.runId d ∧ d.checkpoints.map Prod.snd = h) → True →
      WellFormed context.runId (step context.runId d op) ∧
        (step context.runId d op).checkpoints.map Prod.snd = h ++ accepted context.runId d op := by
    intro h d op hJ _
    obtain ⟨hwell, hfiles⟩ := hJ
    refine ⟨step_invariant (fun _ _ hw he => wellFormed_effect hw he) d op hwell, ?_⟩
    rw [(step_files hwell op).2, hfiles]
  exact Transitions.emitted_invariant_along (P := fun _ _ => True)
    (J := fun h d => WellFormed context.runId d ∧ d.checkpoints.map Prod.snd = h) hstep ops
    (h := []) ⟨wellFormed_created context, rfl⟩
    (Transitions.along_of_forall (fun _ _ => trivial) ops (created context))

/-! ## The order of reading -/

/-- The 10,000th name is below the 9,999th, whatever the stages are. -/
theorem tenThousandth_lt (s t : String) : checkpointFileName 10000 s < checkpointFileName 9999 t := by
  rw [String.lt_iff_toList_lt, checkpointFileName_toList, checkpointFileName_toList]
  have hlong : Numerals.padded 4 10000 = ['1', '0', '0', '0', '0'] := by decide
  have hshort : Numerals.padded 4 9999 = ['9', '9', '9', '9'] := by decide
  rw [hlong, hshort]
  exact List.cons_lt_cons_iff.mpr (Or.inl (by decide))

/-- **The files are read in the order of their creation exactly while they are at most
9,999.** -/
theorem inNameOrder_iff {d : RunDir} (h : d.SequenceNamed) :
    Listing.inNameOrder d.checkpoints = d.checkpoints ↔ d.checkpoints.length ≤ 9999 := by
  constructor
  · intro hread
    by_contra hmany
    have hsorted := Listing.inNameOrder_pairwise d.checkpoints
    rw [hread, List.pairwise_iff_getElem] at hsorted
    have hle := hsorted 9998 9999 (by omega) (by omega) (by omega)
    rw [h 9998 (by omega), h 9999 (by omega)] at hle
    exact absurd (tenThousandth_lt _ _) (not_lt.mpr hle)
  · exact fun hlen => Listing.inNameOrder_eq_self (checkpoints_pairwise h hlen)

theorem view_checkpoints (d : RunDir) (context : RunContext) (published : Bool) :
    (d.view context published).checkpoints = d.log := rfl

/-- **The log keeps append order up to 9,999 checkpoints.** In every run the files, in
order of creation, are the accepted checkpoints under distinct names and no call
touches an earlier file; `load` returns all of them, and reads the files in order of
creation exactly when there are at most 9,999. -/
theorem log_in_append_order (context : RunContext) (ops : List RunOp) :
    (staged context ops).checkpoints.map Prod.snd = appended context ops ∧
    (Listing.names (staged context ops).checkpoints).Nodup ∧
    (∀ op, (staged context ops).checkpoints <+:
      (step context.runId (staged context ops) op).checkpoints) ∧
    (Listing.inNameOrder (staged context ops).checkpoints = (staged context ops).checkpoints ↔
      (appended context ops).length ≤ 9999) ∧
    ∃ stored, (staged context ops).load = some stored ∧
      stored.checkpoints.Perm (appended context ops) ∧
      ((appended context ops).length ≤ 9999 → stored.checkpoints = appended context ops ∧
        stored.checkpoints.getLast? = (appended context ops).getLast?) := by
  obtain ⟨hwell, hfiles⟩ := staged_files context ops
  obtain ⟨stored, hcontext, _⟩ := hwell.context
  have hlength : (appended context ops).length = (staged context ops).checkpoints.length := by
    rw [← hfiles, List.length_map]
  refine ⟨hfiles, names_nodup hwell.named, fun op => (step_files hwell op).1, ?_,
    _, load_of_runJson hcontext, ?_, ?_⟩
  · rw [hlength]
    exact inNameOrder_iff hwell.named
  · rw [view_checkpoints, ← hfiles]
    exact log_perm _
  · intro hlen
    have heq : (staged context ops).log = appended context ops := by
      rw [log_eq_of_le hwell.named (hlength ▸ hlen), hfiles]
    rw [view_checkpoints, heq]
    exact ⟨rfl, rfl⟩

/-! ## A run of ten thousand checkpoints -/

/-- Before a freeze every checkpoint of the run is accepted, `PUBLISHED` ones apart. -/
theorem open_step {r : RunId} {d : RunDir} {c : RunCheckpoint} (hd : WellFormed r d)
    (hopen : d.frozenEvidence = none) (howner : c.runId = r) (hstage : c.stage ≠ "PUBLISHED") :
    step r d (.checkpoint c) = d.appendCheckpoint c ∧ accepted r d (.checkpoint c) = [c] := by
  obtain ⟨context, hcontext, _⟩ := hd.context
  have haccepts : Accepts d (d.view context false) c := by
    have hview : (d.view context false).evidenceCutoffAt = none := hopen
    unfold Accepts
    rw [hview]
    exact fun h => absurd h hstage
  have hok : d.checkpointUnlocked r c = .ok (d.appendCheckpoint c) :=
    checkpointUnlocked_ok_iff.mpr ⟨howner, ⟨_, load_of_runJson hcontext, haccepts⟩, rfl⟩
  constructor
  · show (d.attempt _).1 = _
    rw [hok]
    rfl
  · show (match (d.attempt _).2 with | .error _ => _ | .ok _ => _) = _
    rw [hok]
    rfl

def openContext : RunContext := sampleContext 1 Nat.one_pos

/-- An entry of that run, dated as given. -/
def openEntry (writtenAt : Calendar.UtcDatetime) : RunCheckpoint :=
  plainCheckpoint openContext.runId "CREATED" .created writtenAt none

/-- 9,999 entries dated 0, then one dated 1. -/
def tenThousandAppends : List RunOp :=
  List.replicate 9999 (.checkpoint (openEntry 0)) ++ [.checkpoint (openEntry 1)]

/-- A run that records nothing but entries dated 0, before any freeze. -/
structure OnlyOpen (n : Nat) (d : RunDir) : Prop where
  wellFormed : WellFormed openContext.runId d
  isOpen : d.frozenEvidence = none
  entries : d.checkpoints.map Prod.snd = List.replicate n (openEntry 0)

theorem OnlyOpen.step {n : Nat} {d : RunDir} (h : OnlyOpen n d) :
    OnlyOpen (n + 1) (RunDir.step openContext.runId d (.checkpoint (openEntry 0))) := by
  have hstep := (open_step h.wellFormed h.isOpen rfl
    (show (openEntry 0).stage ≠ "PUBLISHED" by decide)).1
  refine ⟨step_invariant (fun _ _ hw he => wellFormed_effect hw he) _ _ h.wellFormed, ?_, ?_⟩
  · rw [hstep]
    exact h.isOpen
  · rw [hstep, appendCheckpoint_checkpoints h.wellFormed.named, List.map_append, h.entries,
      List.replicate_succ']
    rfl

theorem onlyOpen_run : ∀ (k : Nat) {n : Nat} {d : RunDir}, OnlyOpen n d →
    OnlyOpen (n + k) (Transitions.run (RunDir.step openContext.runId) d
      (List.replicate k (.checkpoint (openEntry 0))))
  | 0, _, _, h => h
  | k + 1, n, d, h => by
    rw [List.replicate_succ, Transitions.run_cons, ← Nat.add_assoc, Nat.add_right_comm]
    exact onlyOpen_run k h.step

/-- The 10,000th checkpoint of a run is accepted, and is not the one read last. -/
theorem log_not_in_append_order :
    ∃ stored, (staged openContext tenThousandAppends).load = some stored ∧
      stored.checkpoints.getLast? = some (openEntry 0) ∧
      (appended openContext tenThousandAppends).getLast? =
        some (openEntry 1) ∧ openEntry 0 ≠ openEntry 1 := by
  obtain ⟨d, hd⟩ : ∃ d, d = Transitions.run (RunDir.step openContext.runId)
      (created openContext)
      (List.replicate 9999 (.checkpoint (openEntry 0))) := ⟨_, rfl⟩
  have hmany : OnlyOpen 9999 d := by
    have hrun := onlyOpen_run 9999 (n := 0) ⟨wellFormed_created openContext, rfl, rfl⟩
    rw [Nat.zero_add] at hrun
    rwa [hd]
  have hnamed := hmany.wellFormed.named
  have hlength : d.checkpoints.length = 9999 := by
    rw [← List.length_map (f := Prod.snd), hmany.entries, List.length_replicate]
  obtain ⟨hstep, haccepted⟩ := open_step hmany.wellFormed hmany.isOpen (c := openEntry 1) rfl
    (show (openEntry 1).stage ≠ "PUBLISHED" by decide)
  have hstaged : staged openContext tenThousandAppends =
      d.appendCheckpoint (openEntry 1) := by
    rw [staged, tenThousandAppends, Transitions.run_append, ← hd]
    exact hstep
  have hnotnew : ¬ d.NewestName (openEntry 1).stage := by
    intro hnew
    have hbelow := hnew _ (List.mem_map.mpr ⟨_, List.getElem_mem (show 9998 < _ by omega), rfl⟩)
    rw [hnamed 9998 (by omega), nextFileName] at hbelow
    simp only [hlength] at hbelow
    exact absurd hbelow (not_lt.mpr (le_of_lt (tenThousandth_lt _ _)))
  have hlast : d.log.getLast? = some (openEntry 0) := by
    rw [log_eq_of_le hnamed (by omega), hmany.entries, List.getLast?_replicate]
    exact if_neg (by omega)
  obtain ⟨stored, hcontext, _⟩ := (staged_wellFormed openContext
    tenThousandAppends).context
  refine ⟨_, load_of_runJson hcontext, ?_, ?_, by decide⟩
  · rw [view_checkpoints, hstaged, log_getLast?_of_not_newest hnamed hnotnew, hlast]
  · rw [appended, tenThousandAppends, Transitions.emitted_append, ← hd]
    show (_ ++ (accepted _ d (.checkpoint (openEntry 1)) ++ [])).getLast? = _
    rw [haccepted, List.append_nil, List.getLast?_concat]

end RunDir

end FinanceResearch
