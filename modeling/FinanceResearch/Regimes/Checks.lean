import FinanceResearch.Regimes.Formulas

/-!
# When a metric is accepted

The checks of a `MetricResult` are about the snapshots that it combines and not about its
value: their evidence ids are put together as they are, and their flags as a set. What a
formula reads has its period in order, so an indicator returns exactly when its inputs combine and
its arithmetic does (`measured_isOk_iff`).
-/

namespace FinanceResearch.Regimes

open Calendar (Date UtcDatetime)

/-! ## Periods -/

/-- The period of a reading does not end before it starts. -/
def Reading.Ordered (reading : Reading) : Prop :=
  ∀ start ∈ reading.periodStart, ∀ finish ∈ reading.periodEnd, ¬ finish.Before start

theorem before_trans {a b c : Date} (hab : a.Before b) (hbc : b.Before c) : a.Before c :=
  Nat.lt_trans hab hbc

instance : IsTrans Date Date.Before := ⟨fun _ _ _ => before_trans⟩

/-- The first and the last of increasing dates. -/
theorem ordered_of_pairwise {dates : List Date} (h : dates.Pairwise Date.Before) :
    ∀ start ∈ dates.head?, ∀ finish ∈ dates.getLast?, ¬ finish.Before start := by
  intro start hstart finish hfinish hbefore
  cases dates with
  | nil => cases hstart
  | cons first rest =>
    cases hstart
    rcases List.mem_cons.mp (List.mem_of_getLast? hfinish) with rfl | hmem
    · exact Nat.lt_irrefl _ hbefore
    · exact Nat.lt_irrefl _ (before_trans ((List.pairwise_cons.mp h).1 finish hmem) hbefore)

/-- Sessions of a snapshot that follow one another. -/
theorem sessions_pairwise {snapshot : RegimeMarketSnapshot} {bars : List DailyBar}
    (h : bars.Sublist snapshot.completedDailyBars) : (sessionsOf bars).Pairwise Date.Before :=
  snapshot.increasing.pairwise.sublist (h.map DailyBar.sessionDate)

theorem lastOf_sublist {α : Type} (count : Nat) (items : List α) :
    (lastOf count items).Sublist items := List.drop_sublist _ _

theorem firstSession_eq (bars : List DailyBar) : firstSession bars = (sessionsOf bars).head? :=
  (List.head?_map).symm

theorem lastSession_eq (bars : List DailyBar) : lastSession bars = (sessionsOf bars).getLast? :=
  (List.getLast?_map).symm

theorem barsOrdered {snapshot : RegimeMarketSnapshot} {bars : List DailyBar}
    (h : bars.Sublist snapshot.completedDailyBars) :
    ∀ start ∈ firstSession bars, ∀ finish ∈ lastSession bars, ¬ finish.Before start := by
  rw [firstSession_eq, lastSession_eq]
  exact ordered_of_pairwise (sessions_pairwise h)

/-- A period that starts a bar later. -/
theorem barsOrdered_tail {snapshot : RegimeMarketSnapshot} {bars : List DailyBar}
    (h : bars.Sublist snapshot.completedDailyBars) :
    ∀ start ∈ firstSession bars.tail, ∀ finish ∈ lastSession bars, ¬ finish.Before start := by
  intro start hstart finish hfinish
  cases bars with
  | nil => cases hstart
  | cons first rest =>
    have hlast : finish ∈ lastSession rest := by
      cases rest with
      | nil => cases hstart
      | cons second rest =>
        unfold lastSession at hfinish ⊢
        rwa [List.getLast?_cons_cons] at hfinish
    exact barsOrdered ((List.sublist_cons_self _ _).trans h) start hstart finish hlast

theorem unavailable_ordered (reason : MetricUnavailableReason) :
    (unavailableReading reason).Ordered := by
  intro start hstart
  cases hstart

/-- The end of an indicator: an available value with the period of its bars. -/
theorem ordered_of_bind {x : Except RegimeError Decimal} {direction : Decimal → MetricDirection}
    {first last : Option Date} {reading : Reading}
    (hperiod : ∀ start ∈ first, ∀ finish ∈ last, ¬ finish.Before start)
    (h : (x >>= fun value => pure ⟨.available value, direction value, first, last⟩)
      = .ok reading) : reading.Ordered := by
  obtain ⟨value, -, h⟩ := Fallible.bind_eq_ok.mp h
  cases h
  exact hperiod

/-- A check that gives no value, and what follows it. -/
theorem ordered_of_ite {condition : Prop} [Decidable condition] {reason : MetricUnavailableReason}
    {rest : Except RegimeError Reading} {reading : Reading}
    (h : (if condition then pure (unavailableReading reason) else rest) = .ok reading)
    (hrest : rest = .ok reading → reading.Ordered) : reading.Ordered := by
  by_cases hcondition : condition
  · rw [if_pos hcondition] at h
    cases h
    exact unavailable_ordered reason
  · rw [if_neg hcondition] at h
    exact hrest h

/-- **What a formula reads has its period in order.** -/
theorem Formula.reading_ordered {f : Formula} {reading : Reading} (h : f.reading = .ok reading) :
    reading.Ordered := by
  have hlast {snapshot : RegimeMarketSnapshot} (count : Nat) :
      ∀ start ∈ firstSession (lastOf count snapshot.completedDailyBars),
        ∀ finish ∈ lastSession (lastOf count snapshot.completedDailyBars), ¬ finish.Before start :=
    barsOrdered (lastOf_sublist count _)
  cases f with
  | sma snapshot window => exact ordered_of_ite h (ordered_of_bind (hlast _))
  | smaSlope snapshot window lookback => exact ordered_of_ite h (ordered_of_bind (hlast _))
  | relativeReturn asset benchmark window =>
    refine ordered_of_ite h fun h => ordered_of_ite h fun h => ?_
    obtain ⟨_, -, h⟩ := Fallible.bind_eq_ok.mp h
    obtain ⟨_, -, h⟩ := Fallible.bind_eq_ok.mp h
    exact ordered_of_bind (hlast _) h
  | equalWeight assets benchmarks window =>
    refine ordered_of_ite h fun h => ordered_of_ite h fun h => ordered_of_ite h fun h => ?_
    obtain ⟨_, -, h⟩ := Fallible.bind_eq_ok.mp h
    obtain ⟨_, -, h⟩ := Fallible.bind_eq_ok.mp h
    refine ordered_of_bind (ordered_of_pairwise ?_) h
    cases assets ++ benchmarks with
    | nil => exact List.Pairwise.nil
    | cons first rest => exact sessions_pairwise (lastOf_sublist _ _)
  | atrPercent snapshot window =>
    exact ordered_of_ite h (ordered_of_bind (barsOrdered_tail (lastOf_sublist _ _)))
  | realizedVolatility snapshot window => exact ordered_of_ite h (ordered_of_bind (hlast _))
  | atrPercentile snapshot window history => exact ordered_of_ite h (ordered_of_bind (hlast _))
  | realizedVolatilityPercentile snapshot window history =>
    exact ordered_of_ite h (ordered_of_bind (hlast _))

/-! ## Inputs -/

/-- What the checks of a metric ask of the inputs of its formula. -/
structure Formula.Combines (f : Formula) : Prop where
  parameters : ∀ p ∈ f.parameters, 1 ≤ p.2.length ∧ p.2.length ≤ 256
  snapshotIds : DistinctIds 256 (f.snapshots.map RegimeMarketSnapshot.snapshotId)
  evidenceIds : DistinctIds 256 (evidenceIdsOf f.snapshots)
  qualityFlags : DistinctIds 64 (sortedSet (f.snapshots.flatMap RegimeMarketSnapshot.qualityFlags))

theorem DistinctIds.perm {bound : Nat} {ids ids' : List String} (h : DistinctIds bound ids)
    (hperm : ids'.Perm ids) : DistinctIds bound ids' :=
  ⟨hperm.length_eq.trans_le h.1, hperm.nodup_iff.mpr h.2.1,
    fun id hid => h.2.2 id (hperm.mem_iff.mp hid)⟩

/-- The names of the parameters are few and legal. -/
theorem Formula.parameters_named (f : Formula) :
    f.parameters.length ≤ 64 ∧ ∀ p ∈ f.parameters, Identifier.IsLegal p.1 := by
  cases f <;> simp only [Formula.parameters, List.length_cons, List.length_nil, List.forall_mem_cons] <;>
    decide

theorem metricIdOf_ne (name : MetricName) (parameters : List (String × String))
    (periodStart periodEnd : Option Date) (ids : List String) :
    metricIdOf name parameters periodStart periodEnd ids ≠ "" := by
  intro hempty
  have hlength := congrArg String.length hempty
  unfold metricIdOf at hlength
  rw [String.length_append] at hlength
  exact absurd (Nat.le_of_add_right_le hlength.le) (by decide)

theorem legal_iff {f : Formula} {reading : Reading} {cutoff : UtcDatetime}
    (hordered : reading.Ordered) :
    (metricOf f.name f.unit f.parameters f.snapshots cutoff reading).Legal ↔ f.Combines := by
  have hparameters := List.perm_insertionSort pairAtMost f.parameters
  have hids := List.perm_insertionSort (fun a b : String => a ≤ b)
    (f.snapshots.map RegimeMarketSnapshot.snapshotId)
  constructor
  · intro h
    obtain ⟨-, ⟨-, hvalues⟩, hsnapshots, hevidence, hflags, -⟩ := h
    exact ⟨fun p hp => (hvalues p (hparameters.mem_iff.mpr hp)).2, hsnapshots.perm hids.symm,
      hevidence, hflags⟩
  · intro h
    obtain ⟨hlength, hnames⟩ := f.parameters_named
    refine ⟨metricIdOf_ne _ _ _ _ _, ⟨hparameters.length_eq.trans_le hlength, fun p hp => ?_⟩,
      h.snapshotIds.perm hids, h.evidenceIds, h.qualityFlags, hordered⟩
    have hmem := hparameters.mem_iff.mp hp
    exact ⟨hnames p hmem, h.parameters p hmem⟩

/-- The metric of inputs that combine. -/
theorem Formula.measured_of_combines {f : Formula} {cutoff : UtcDatetime} {reading : Reading}
    (hcutoff : ∀ snapshot ∈ f.snapshots, snapshot.asOf ≤ cutoff) (hcombines : f.Combines)
    (hreading : f.reading = .ok reading) : f.measured cutoff =
      .ok (metricOf f.name f.unit f.parameters f.snapshots cutoff reading) := by
  have hlegal := (@legal_iff f reading cutoff (Formula.reading_ordered hreading)).mpr hcombines
  have hchecked : requireAtOrBeforeCutoff f.snapshots cutoff = .ok ⟨⟩ :=
    Fallible.require_eq_ok.mpr hcutoff
  unfold Formula.measured
  rw [hchecked, hreading]
  exact if_pos hlegal

/-- **An indicator returns when its inputs combine and its arithmetic does, and only then.** -/
theorem Formula.measured_isOk_iff {f : Formula} {cutoff : UtcDatetime}
    (hcutoff : ∀ snapshot ∈ f.snapshots, snapshot.asOf ≤ cutoff) :
    (∃ m, f.measured cutoff = .ok m) ↔ f.Combines ∧ ∃ reading, f.reading = .ok reading := by
  constructor
  · intro h
    obtain ⟨m, hm⟩ := h
    obtain ⟨reading, hreading, rfl, hlegal⟩ := measured_eq_ok hm
    exact ⟨(legal_iff (Formula.reading_ordered hreading)).mp hlegal, reading, hreading⟩
  · intro h
    obtain ⟨hcombines, reading, hreading⟩ := h
    exact ⟨_, Formula.measured_of_combines hcutoff hcombines hreading⟩

end FinanceResearch.Regimes
