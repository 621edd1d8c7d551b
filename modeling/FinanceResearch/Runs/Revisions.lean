import FinanceResearch.Runs.Reachability

/-!
# Is a revision allocated once?

`_existing_revision_ids` looks at final and staging and not at
`diagnostics/orphans`. So while the greatest revisions of a date are quarantined,
the next allocation hands one of their numbers out again, and then the run ID
has a directory in two places, which `list_runs` refuses.

`createdRuns` lists the run IDs as they are created. For *every* sequence of
operations the number of places a run ID occupies is the number of times it was
created (`places_eq_count`), so the two halves of the property are one: it holds
as long as no creation takes the ID of a quarantined run (`revisions_unique`).
-/

namespace FinanceResearch

open Calendar (Date)

namespace Repository

/-- The run an operation creates, if it creates one. -/
def creates (s : Repository) : RepoOp → List RunId
  | .allocate seed invocation requested =>
    match (s.allocateRevision seed invocation requested).2 with
    | .ok context =>
      if context.runId ∈ s.existing seed.marketDate then [] else [context.runId]
    | .error _ => []
  | .create context =>
    match (s.create context).2 with
    | .ok _ => if context.runId ∈ s.existing context.runId.marketDate then [] else [context.runId]
    | .error _ => []
  | _ => []

/-- The run IDs created by a sequence of operations, in order. -/
def createdRuns (validateJson : Bytes → Option PublishedRunBundle) (ops : List RepoOp) :
    List RunId :=
  Transitions.emitted (step validateJson) creates empty ops

/-- The run ID a manual allocation takes. -/
abbrev nextRun (s : Repository) (date : Calendar.Date) : RunId :=
  ⟨date, s.nextRevision date, Nat.succ_pos _⟩

/-- No quarantined run has the number the next creation of this kind takes. -/
def FreeNumber (s : Repository) : RepoOp → Prop
  | .allocate seed .scheduled _ => (⟨seed.marketDate, 1, Nat.one_pos⟩ : RunId) ∉ s.orphans
  | .allocate seed .manual requested =>
    (∀ revision ∈ requested, revision = s.nextRevision seed.marketDate) →
      s.nextRun seed.marketDate ∉ s.orphans
  | .create context => context.runId ∉ s.orphans
  | _ => True

/-! ## One step -/

theorem creates_places_create {s : Repository} (h : OnlyStaged s) (context : RunContext)
    (q : RunId) :
    (s.create context).1.places q = s.places q + (s.creates (.create context)).count q := by
  have hself : context.runId ∈ s.existing context.runId.marketDate ↔
      context.runId ∈ s.final ∨ context.runId ∈ s.staging := by simp [mem_existing]
  cases hfi : s.final.lookup context.runId with
  | some d =>
    have hcreate : s.create context =
        (s, .error (.publicationError "immutable run revision is already published")) := by
      simp only [create, hfi]
    simp [creates, hcreate]
  | none =>
    cases hst : s.staging.lookup context.runId with
    | none =>
      have hnot : ¬ context.runId ∈ s.existing context.runId.marketDate := by
        rw [hself]
        rintro (hm | hm)
        · exact AList.lookup_eq_none.mp hfi hm
        · exact AList.lookup_eq_none.mp hst hm
      simp only [creates, create_fresh hfi hst, hnot, if_false]
      exact places_insert _ hst q
    | some d =>
      obtain ⟨-, context', hctx, -⟩ := (h _ d (Or.inl hst)).wellFormed
      have hmem : context.runId ∈ s.existing context.runId.marketDate :=
        hself.mpr (Or.inr (AList.lookup_isSome.mp (by rw [hst]; rfl)))
      by_cases hsame : context' = context
      · have hcreate : s.create context = (s, .ok ()) := by
          simp [create, hfi, hst, hctx, hsame]
        simp [creates, hcreate, hmem]
      · have hcreate : s.create context =
            (s, .error (.publicationError "immutable run revision already exists")) := by
          simp [create, hfi, hst, hctx, hsame]
        simp [creates, hcreate]

theorem creates_places_allocate (s : Repository) (seed : RunContextSeed)
    (invocation : InvocationType) (requested : Option Int) (q : RunId) :
    (s.allocateRevision seed invocation requested).1.places q =
      s.places q + (s.creates (.allocate seed invocation requested)).count q := by
  rcases allocate_cases s seed invocation requested with
    ⟨out, hexisting, h⟩ | ⟨revision, positive, -, hfi, hst, h⟩
  · cases out with
    | error e => simp [creates, h]
    | ok context => simp [creates, h, hexisting context rfl]
  · have hnot : (⟨seed.marketDate, revision, positive⟩ : RunId) ∉ s.existing seed.marketDate := by
      rw [mem_existing]
      rintro ⟨hm | hm, -⟩
      · exact AList.lookup_eq_none.mp hfi hm
      · exact AList.lookup_eq_none.mp hst hm
    have hid : (newContext seed revision positive).runId = ⟨seed.marketDate, revision, positive⟩ :=
      rfl
    simp only [creates, h, hid, hnot, if_false]
    exact places_insert (newContext seed revision positive) hst q

/-- An operation adds a place for the run it creates, and for no other. -/
theorem creates_places (validateJson : Bytes → Option PublishedRunBundle) {s : Repository}
    (h : OnlyStaged s) (op : RepoOp) (q : RunId) :
    (step validateJson s op).places q = s.places q + (s.creates op).count q := by
  cases op with
  | allocate seed invocation requested => exact creates_places_allocate s seed invocation requested q
  | create context => exact creates_places_create h context q
  | onRun r op => exact places_runOp s r op q
  | publish b io => exact places_publish s b io q
  | recover r io => exact places_recover validateJson s r io q

/-- A created run had no directory in final or staging, and under `FreeNumber`
none in quarantine. -/
theorem places_of_creates {s : Repository} {op : RepoOp} {r : RunId} (hr : r ∈ s.creates op)
    (hfree : FreeNumber s op) : s.places r = 0 := by
  have habsent : ∀ q : RunId, q ∉ s.existing q.marketDate → q ∉ s.orphans → s.places q = 0 := by
    intro q hex hor
    have hfi : s.final.lookup q = none :=
      AList.lookup_eq_none.mpr fun hm => hex (mem_existing.mpr ⟨Or.inl hm, rfl⟩)
    have hst : s.staging.lookup q = none :=
      AList.lookup_eq_none.mpr fun hm => hex (mem_existing.mpr ⟨Or.inr hm, rfl⟩)
    rw [places, hfi, hst, AList.lookup_eq_none.mpr hor]
    rfl
  cases op with
  | allocate seed invocation requested =>
    rcases allocate_cases s seed invocation requested with
      ⟨out, hexisting, h⟩ | ⟨revision, positive, hkind, hfi, hst, h⟩
    · cases out with
      | error e => simp [creates, h] at hr
      | ok context => simp [creates, h, hexisting context rfl] at hr
    · have hid : (newContext seed revision positive).runId =
          ⟨seed.marketDate, revision, positive⟩ := rfl
      simp only [creates, h, hid] at hr
      split at hr
      · cases hr
      next hex =>
        rw [List.mem_singleton] at hr
        subst hr
        refine habsent _ hex ?_
        rcases hkind with ⟨rfl, rfl⟩ | ⟨rfl, rfl, hq⟩
        · exact hfree
        · exact hfree hq
  | create context =>
    simp only [creates] at hr
    split at hr
    · split at hr
      · cases hr
      next hex =>
        rw [List.mem_singleton] at hr
        subst hr
        exact habsent _ hex hfree
    · cases hr
  | onRun q op => cases hr
  | publish b io => cases hr
  | recover q io => cases hr

/-- At most one run is created by an operation. -/
theorem creates_nodup (s : Repository) (op : RepoOp) : (s.creates op).Nodup := by
  cases op with
  | allocate seed invocation requested =>
    simp only [creates]
    split
    · split
      · exact List.nodup_nil
      · exact List.nodup_singleton _
    · exact List.nodup_nil
  | create context =>
    simp only [creates]
    split
    · split
      · exact List.nodup_nil
      · exact List.nodup_singleton _
    · exact List.nodup_nil
  | onRun q op => exact List.nodup_nil
  | publish b io => exact List.nodup_nil
  | recover q io => exact List.nodup_nil

/-! ## Every run -/

/-- **A run ID occupies as many places as it was created times**, after every
sequence of operations. -/
theorem places_eq_count (validateJson : Bytes → Option PublishedRunBundle) (ops : List RepoOp)
    (r : RunId) :
    (reached validateJson ops).places r = (createdRuns validateJson ops).count r := by
  have hrun := Transitions.emitted_invariant_along
    (P := fun _ _ => True)
    (J := fun h s => OnlyStaged s ∧ ∀ q, s.places q = h.count q)
    (fun h s op hJ _ => ⟨onlyStaged_step validateJson hJ.1 op, fun q => by
      rw [creates_places validateJson hJ.1 op q, hJ.2 q, List.count_append]⟩)
    ops (h := []) (s := empty) ⟨reached_staged validateJson [], fun q => rfl⟩
    (Transitions.along_of_forall (fun _ _ => trivial) ops empty)
  exact hrun.2 r

/-- **No revision is created twice, and no run is in two places**, in every
sequence of operations whose creations find their number free of quarantined runs. -/
theorem revisions_unique (validateJson : Bytes → Option PublishedRunBundle) (ops : List RepoOp)
    (hfree : Transitions.Along (step validateJson) FreeNumber empty ops) :
    (createdRuns validateJson ops).Nodup ∧
    ∀ r, (reached validateJson ops).places r ≤ 1 := by
  have hnodup : (createdRuns validateJson ops).Nodup := by
    have hrun := Transitions.emitted_invariant_along
      (P := FreeNumber)
      (J := fun h s => OnlyStaged s ∧ (∀ q, s.places q = h.count q) ∧ h.Nodup)
      (fun h s op hJ hP => by
        refine ⟨onlyStaged_step validateJson hJ.1 op, fun q => ?_, ?_⟩
        · rw [creates_places validateJson hJ.1 op q, hJ.2.1 q, List.count_append]
        · rw [List.nodup_append]
          refine ⟨hJ.2.2, creates_nodup s op, ?_⟩
          rintro a ha b hb rfl
          have hzero := places_of_creates hb hP
          rw [hJ.2.1 a, List.count_eq_zero] at hzero
          exact hzero ha)
      ops (h := []) (s := empty) ⟨reached_staged validateJson [], fun q => rfl, List.nodup_nil⟩
      hfree
    exact hrun.2.2
  refine ⟨hnodup, fun r => ?_⟩
  rw [places_eq_count]
  exact List.nodup_iff_count_le_one.mp hnodup r

/-- The seed of the concrete runs. -/
def sampleSeed : RunContextSeed :=
  { marketDate := (RunDir.sampleContext 1 Nat.one_pos).runId.marketDate
    invokedAt := 0
    deliveryStatus := .onTime
    configurationSnapshot := (RunDir.sampleContext 1 Nat.one_pos).configurationSnapshot
    componentVersions :=
      { coreVersion := "1"
        mcpContractVersion := "1"
        pluginVersion := "1"
        skillVersion := "1"
        promptVersion := "1"
        reportTemplateVersion := "1"
        schemaVersions := FrozenMap.empty
        watchlistVersion := "1"
        regimePolicyVersion := "1"
        setupPolicyVersion := "1"
        riskPolicyVersion := "1"
        sourcePolicyVersion := "1" }
    policyVersionsMatch := ⟨rfl, rfl, rfl, rfl, rfl⟩ }

/-- A scheduled run that fails to publish and is offered for recovery. -/
theorem revisions_unique_recovered :
    let b := plainBundle (newContext sampleSeed 1 Nat.one_pos) "report"
    let ops := [RepoOp.allocate sampleSeed .scheduled none,
      .publish b ⟨some 1, some .indexUpdate, none⟩, .recover b.run.runId (.sound 2)]
    (createdRuns (reads b) ops).Nodup ∧
    ∀ r, (reached (reads b) ops).places r ≤ 1 :=
  revisions_unique _ _ ⟨AList.notMem_empty _, trivial, trivial, trivial⟩

/-! ## A number handed out twice -/

/-- A manual run fails to publish and is quarantined, and the next manual
allocation creates the same revision. -/
theorem revisions_not_unique :
    let b := plainBundle (newContext sampleSeed 1 Nat.one_pos) "report"
    let ops := [RepoOp.allocate sampleSeed .manual none,
      .publish b ⟨some 1, some .indexUpdate, none⟩, .allocate sampleSeed .manual none]
    ¬ (createdRuns (fun _ => none) ops).Nodup ∧
    (reached (fun _ => none) ops).places b.run.runId = 2 := by
  decide +kernel

end Repository

end FinanceResearch
