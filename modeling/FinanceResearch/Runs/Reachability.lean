import FinanceResearch.Runs.RepositorySteps

/-!
# Reachable repositories

Two facts about every repository that operations lead to from the empty one.

Every run directory, in whichever of the three places it lies, is one that a
sequence of operations on a single staged run produces (`reached_staged`): the
repository adds moves between places and receipts, and nothing to the runs.
So whatever `Runs/CheckpointLog.lean` proves of a staged run holds of it.

The moves neither copy nor lose a run: `places`, the number of places in which a
run ID has a directory, changes only when an operation creates one.
-/

namespace FinanceResearch

open Calendar (UtcDatetime)

namespace Repository

/-- The repository after a sequence of operations, from the empty one. -/
def reached (validateJson : Bytes → Option PublishedRunBundle) (ops : List RepoOp) : Repository :=
  Transitions.run (step validateJson) empty ops

theorem reached_concat (validateJson : Bytes → Option PublishedRunBundle) (ops : List RepoOp)
    (op : RepoOp) :
    reached validateJson (ops ++ [op]) = step validateJson (reached validateJson ops) op :=
  Transitions.run_append _ _ ops [op]

/-! ## Every directory is that of a staged run -/

/-- `d` is the directory of `r` in one of the three places. -/
def Holds (s : Repository) (r : RunId) (d : RunDir) : Prop :=
  s.staging.lookup r = some d ∨ s.final.lookup r = some d ∨ s.orphans.lookup r = some d

/-- `d` is what operations on one staged run produce. -/
def IsStaged (r : RunId) (d : RunDir) : Prop :=
  ∃ (context : RunContext) (ops : List RunOp), context.runId = r ∧ d = RunDir.staged context ops

/-- Every directory of the repository is. -/
def OnlyStaged (s : Repository) : Prop := ∀ r d, s.Holds r d → IsStaged r d

theorem IsStaged.wellFormed {r : RunId} {d : RunDir} (h : IsStaged r d) : d.WellFormed r := by
  obtain ⟨context, ops, rfl, rfl⟩ := h
  exact RunDir.staged_wellFormed context ops

theorem IsStaged.step {r : RunId} {d : RunDir} (h : IsStaged r d) (op : RunOp) :
    IsStaged r (d.step r op) := by
  obtain ⟨context, ops, rfl, rfl⟩ := h
  refine ⟨context, ops ++ [op], rfl, ?_⟩
  exact (Transitions.run_append (RunDir.step context.runId) (RunDir.created context) ops
    [op]).symm

theorem isStaged_created (context : RunContext) :
    IsStaged context.runId (RunDir.created context) :=
  ⟨context, [], rfl, rfl⟩

/-- What a step that touches `r` must show: its new directories are staged runs. -/
theorem OnlyStaged.of_frame {r : RunId} {s s' : Repository} (h : OnlyStaged s)
    (hframe : Frame r s s') (hself : ∀ d, s'.Holds r d → IsStaged r d) : OnlyStaged s' := by
  intro q d hd
  by_cases hq : q = r
  · subst hq
    exact hself d hd
  · apply h q d
    unfold Holds at hd ⊢
    rw [hframe.staging q hq, hframe.final q hq, hframe.orphans q hq] at hd
    exact hd

theorem onlyStaged_runOp {s : Repository} (h : OnlyStaged s) (r : RunId) (op : RunOp) :
    OnlyStaged (s.runOp r op).1 := by
  refine h.of_frame (frame_runOp s r op) fun d hd => ?_
  unfold Holds at hd
  rw [runOp_final, runOp_orphans] at hd
  rcases hd with hd | hd
  · unfold runOp at hd
    split at hd
    · exact h r d (Or.inl hd)
    next d0 hd0 =>
      rw [AList.lookup_insert, Option.some.injEq] at hd
      rw [← hd]
      exact (h r d0 (Or.inl hd0)).step op
  · exact h r d (Or.inr hd)

theorem onlyStaged_insert {s : Repository} (h : OnlyStaged s) (context : RunContext) :
    OnlyStaged { s with
      staging := s.staging.insert context.runId (RunDir.created context) } := by
  refine h.of_frame (r := context.runId) ⟨fun q hq => AList.lookup_insert_ne hq, fun _ _ => rfl,
    fun _ _ => rfl, fun _ _ => rfl, fun _ _ => rfl⟩ fun d hd => ?_
  rcases hd with hd | hd
  · simp only [AList.lookup_insert, Option.some.injEq] at hd
    rw [← hd]
    exact isStaged_created context
  · exact h _ d (Or.inr hd)

theorem onlyStaged_create {s : Repository} (h : OnlyStaged s) (context : RunContext) :
    OnlyStaged (s.create context).1 := by
  unfold create
  split
  · exact h
  · split
    · exact onlyStaged_insert h context
    next d hd =>
      split
      · split <;> exact h
      next hnone =>
        -- a staged run has its context
        obtain ⟨-, context', hctx, -⟩ := (h _ d (Or.inl hd)).wellFormed
        rw [hctx] at hnone
        cases hnone

theorem onlyStaged_rename {s : Repository} (h : OnlyStaged s) (r : RunId) :
    OnlyStaged (s.rename r) := by
  refine h.of_frame (frame_rename s r) fun d hd => ?_
  unfold rename at hd
  split at hd
  · exact h r d hd
  next d0 hd0 =>
    rcases hd with hd | hd | hd
    · rw [AList.lookup_erase] at hd
      cases hd
    · rw [AList.lookup_insert, Option.some.injEq] at hd
      rw [← hd]
      exact h r d0 (Or.inl hd0)
    · exact h r d (Or.inr (Or.inr hd))

theorem onlyStaged_quarantine {s : Repository} (h : OnlyStaged s) (r : RunId)
    (fault : Option QuarantineFault) : OnlyStaged (s.quarantine r fault).1 := by
  refine h.of_frame (frame_quarantine s r fault) fun d hd => ?_
  unfold quarantine at hd
  split at hd
  next d0 hor hfi =>
    have hmoved : Holds { s with final := s.final.erase r, orphans := s.orphans.insert r d0 } r d →
        IsStaged r d := by
      rintro (hd | hd | hd)
      · exact h r d (Or.inl hd)
      · simp only [AList.lookup_erase] at hd
        cases hd
      · simp only [AList.lookup_insert, Option.some.injEq] at hd
        rw [← hd]
        exact h r d0 (Or.inr (Or.inl hfi))
    split at hd
    · exact h r d hd
    · exact hmoved hd
    · exact hmoved hd
  · exact h r d hd

theorem onlyStaged_restore {s : Repository} (h : OnlyStaged s) {r : RunId} {d0 : RunDir}
    (hor : s.orphans.lookup r = some d0) : OnlyStaged (s.restore r d0) := by
  refine h.of_frame (frame_restore s r d0) fun d hd => ?_
  unfold restore at hd
  rcases hd with hd | hd | hd
  · simp only [AList.lookup_insert, Option.some.injEq] at hd
    rw [← hd]
    exact h r d0 (Or.inr (Or.inr hor))
  · exact h r d (Or.inr (Or.inl hd))
  · simp only [AList.lookup_erase] at hd
    cases hd

theorem onlyStaged_durable {s : Repository} (h : OnlyStaged s) (b : PublishedRunBundle)
    (t : UtcDatetime) (p : PublishPoint) : OnlyStaged (s.durable b t p) := by
  have hreport : OnlyStaged (s.reportWritten b) := onlyStaged_runOp (onlyStaged_runOp h _ _) _ _
  have hrenamed : OnlyStaged (s.renamed b) := onlyStaged_rename hreport _
  cases p with
  | entered => exact h
  | bundleWritten => exact onlyStaged_runOp h _ _
  | reportWritten => exact hreport
  | renamed => exact hrenamed
  | indexWritten => exact hrenamed
  | latestWritten => exact hrenamed

theorem failPublication_state (s : Repository) (r : RunId) (fault : Option QuarantineFault) :
    (s.failPublication r fault).1 = (s.quarantine r fault).1 := by
  unfold failPublication
  split
  next heq => rw [heq]
  next heq => rw [heq]

theorem onlyStaged_publish {s : Repository} (h : OnlyStaged s) (b : PublishedRunBundle)
    (io : PublishIo) : OnlyStaged (s.publish b io).1 := by
  rcases publish_cases s b io with
    ⟨e, -, hp⟩ | ⟨-, ⟨fault, e, -, -, hp⟩ | ⟨p, t, -, -, hp⟩ | ⟨t, -, -, hp⟩⟩
  · rw [hp]
    exact h
  · rw [hp]
    exact onlyStaged_durable h b 0 fault.point
  · rw [hp, failPublication_state]
    exact onlyStaged_quarantine (onlyStaged_durable h b t p) _ _
  · rw [hp]
    exact onlyStaged_durable h b t .latestWritten

theorem onlyStaged_step (validateJson : Bytes → Option PublishedRunBundle) {s : Repository}
    (h : OnlyStaged s) (op : RepoOp) : OnlyStaged (step validateJson s op) := by
  cases op with
  | allocate seed invocation requested =>
    show OnlyStaged (s.allocateRevision seed invocation requested).1
    rcases allocate_cases s seed invocation requested with
      ⟨out, -, ha⟩ | ⟨revision, positive, -, -, -, ha⟩
    · rw [ha]
      exact h
    · rw [ha]
      exact onlyStaged_insert h (newContext seed revision positive)
  | create context => exact onlyStaged_create h context
  | onRun r op => exact onlyStaged_runOp h r op
  | publish b io => exact onlyStaged_publish h b io
  | recover r io =>
    show OnlyStaged (s.recover validateJson r io).1
    rcases recover_cases validateJson s r io with
      ⟨a, -, hr⟩ | ⟨-, ⟨e, hr⟩ | ⟨d, b, -, -, hor, -, ⟨e, hr⟩ | ⟨-, hr⟩⟩⟩
    · rw [hr]
      exact h
    · rw [hr]
      exact h
    · rw [hr]
      exact onlyStaged_restore h hor
    · rw [hr]
      exact onlyStaged_publish (onlyStaged_restore h hor) b io.publish

/-- **Every run directory of a reachable repository is a staged run's.** -/
theorem reached_staged (validateJson : Bytes → Option PublishedRunBundle) (ops : List RepoOp) :
    OnlyStaged (reached validateJson ops) := by
  refine Transitions.run_invariant (I := OnlyStaged)
    (fun s op h => onlyStaged_step validateJson h op) ops ?_
  rintro r d (h | h | h) <;> cases h

/-! ## Moves neither copy nor lose a run -/

/-- In how many places the run ID has a directory. -/
def places (s : Repository) (r : RunId) : Nat :=
  (s.staging.lookup r).isSome.toNat + (s.final.lookup r).isSome.toNat +
    (s.orphans.lookup r).isSome.toNat

theorem Frame.places {r : RunId} {s s' : Repository} (h : Frame r s s') {q : RunId} (hq : q ≠ r) :
    s'.places q = s.places q := by
  unfold Repository.places
  rw [h.staging q hq, h.final q hq, h.orphans q hq]

theorem places_of_frame {r : RunId} {s s' : Repository} (h : Frame r s s')
    (hself : s'.places r = s.places r) (q : RunId) : s'.places q = s.places q := by
  by_cases hq : q = r
  · rw [hq, hself]
  · exact h.places hq

theorem places_runOp (s : Repository) (r : RunId) (op : RunOp) (q : RunId) :
    (s.runOp r op).1.places q = s.places q := by
  refine places_of_frame (frame_runOp s r op) ?_ q
  unfold places
  rw [runOp_final, runOp_orphans]
  unfold runOp
  split
  · rfl
  next d hd => rw [AList.lookup_insert, hd]; rfl

theorem places_quarantine (s : Repository) (r : RunId) (fault : Option QuarantineFault)
    (q : RunId) : (s.quarantine r fault).1.places q = s.places q := by
  refine places_of_frame (frame_quarantine s r fault) ?_ q
  unfold quarantine
  split
  next d hor hfi =>
    have hmoved : places { s with final := s.final.erase r, orphans := s.orphans.insert r d } r =
        s.places r := by
      unfold places
      rw [AList.lookup_erase, AList.lookup_insert, hor, hfi]
      rfl
    split
    · rfl
    · exact hmoved
    · exact hmoved
  · rfl

theorem places_restore {s : Repository} {r : RunId} {d : RunDir}
    (hst : s.staging.lookup r = none) (hor : s.orphans.lookup r = some d) (q : RunId) :
    (s.restore r d).places q = s.places q := by
  refine places_of_frame (frame_restore s r d) ?_ q
  unfold places restore
  simp only [AList.lookup_erase, AList.lookup_insert, hst, hor, Option.isSome_none,
    Option.isSome_some, Bool.toNat_false, Bool.toNat_true]
  omega

theorem places_renamed {s : Repository} {b : PublishedRunBundle} {d : RunDir} {stored : StoredRun}
    (h : Publishable s b d stored) (q : RunId) : (s.renamed b).places q = s.places q := by
  refine places_of_frame (frame_renamed s b) ?_ q
  unfold places
  rw [renamed_staging h, renamed_final h, renamed_orphans, h.staged, h.vacant]
  rfl

theorem places_durable {s : Repository} {b : PublishedRunBundle} {d : RunDir} {stored : StoredRun}
    (h : Publishable s b d stored) (t : UtcDatetime) (p : PublishPoint) (q : RunId) :
    (s.durable b t p).places q = s.places q := by
  cases p with
  | entered => rfl
  | bundleWritten => exact places_runOp s _ _ q
  | reportWritten => exact (places_runOp _ _ _ q).trans (places_runOp s _ _ q)
  | renamed => exact places_renamed h q
  | indexWritten => exact places_renamed h q
  | latestWritten => exact places_renamed h q

theorem places_publish (s : Repository) (b : PublishedRunBundle) (io : PublishIo) (q : RunId) :
    (s.publish b io).1.places q = s.places q := by
  rcases publish_cases s b io with ⟨e, -, hp⟩ | ⟨hnone, hcases⟩
  · rw [hp]
  · obtain ⟨d, stored, h⟩ := publicationRefusal_eq_none.mp hnone
    rcases hcases with ⟨fault, e, -, -, hp⟩ | ⟨p, t, -, -, hp⟩ | ⟨t, -, -, hp⟩
    · rw [hp]
      exact places_durable h 0 fault.point q
    · rw [hp, failPublication_state, places_quarantine]
      exact places_durable h t p q
    · rw [hp]
      exact places_durable h t .latestWritten q

theorem places_recover (validateJson : Bytes → Option PublishedRunBundle) (s : Repository)
    (r : RunId) (io : RecoverIo) (q : RunId) :
    (s.recover validateJson r io).1.places q = s.places q := by
  rcases recover_cases validateJson s r io with
    ⟨a, -, hr⟩ | ⟨-, ⟨e, hr⟩ | ⟨d, b, hst, -, hor, -, ⟨e, hr⟩ | ⟨-, hr⟩⟩⟩
  · rw [hr]
  · rw [hr]
  · rw [hr]
    exact places_restore hst hor q
  · rw [hr, places_publish]
    exact places_restore hst hor q

/-- Creating a run adds a place for it and for no other. -/
theorem places_insert {s : Repository} (context : RunContext)
    (hst : s.staging.lookup context.runId = none) (q : RunId) :
    places { s with staging := s.staging.insert context.runId (RunDir.created context) } q =
      s.places q + [context.runId].count q := by
  by_cases hq : q = context.runId
  · subst hq
    unfold places
    simp only [AList.lookup_insert, hst, Option.isSome_none, Option.isSome_some, Bool.toNat_false,
      Bool.toNat_true, List.count_singleton_self]
    omega
  · unfold places
    have hcount : [context.runId].count q = 0 :=
      List.count_eq_zero.mpr fun hmem => hq (List.mem_singleton.mp hmem)
    rw [AList.lookup_insert_ne hq, hcount]
    rfl

end Repository

end FinanceResearch
