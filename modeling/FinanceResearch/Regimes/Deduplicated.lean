import FinanceResearch.Lib.Numerals
import FinanceResearch.Regimes.Agreement
import FinanceResearch.Regimes.Checks

/-!
# Metrics under one id

`_deduplicate_metrics` accepts a list exactly when metrics that share an id are equal
(`deduplicateMetrics_isOk_iff`). The metric of a formula names the formula in full (its kind, its
windows, and its snapshots by their symbols or ids), so two of the metrics are equal only when
they are of one formula (`formula_eq_of_same`), and an id is shared by unequal ones only by a
collision of digests.
-/

namespace FinanceResearch.Regimes

open Calendar (Date UtcDatetime)

/-! ## The loop -/

/-- What equal metrics agree on, whatever their values are written like. -/
def MetricResult.key (m : MetricResult) : MetricName × List (String × String) × List String :=
  (m.name, m.parameters, m.inputSnapshotIds)

theorem MetricResult.key_of_same {m n : MetricResult} (h : m.same n = true) : m.key = n.key := by
  unfold MetricResult.same at h
  rw [Bool.and_eq_true] at h
  rw [← of_decide_eq_true h.2]
  rfl

theorem MetricResult.same_self (m : MetricResult) : m.same m = true := by
  have houtcome : m.outcome.same m.outcome = true := by
    cases m.outcome with
    | available value => exact Decimal.sameNumber_self value
    | unavailable reason => exact decide_eq_true rfl
  unfold MetricResult.same
  rw [houtcome, Bool.true_and]
  exact decide_eq_true rfl

/-- The metric under an id. -/
def underId (byId : List MetricResult) (id : String) : Option MetricResult :=
  byId.find? fun existing => existing.metricId = id

theorem underId_id {byId : List MetricResult} {id : String} {m : MetricResult}
    (h : underId byId id = some m) : m.metricId = id := by
  unfold underId at h
  have hfound := List.find?_some h
  exact of_decide_eq_true hfound

/-- The metrics under the ids after one more metric. -/
theorem underId_addMetric {byId next : List MetricResult} {metric : MetricResult}
    (h : addMetric byId metric = .ok next) (id : String) :
    underId next id = (if id = metric.metricId then some metric else underId byId id) := by
  unfold addMetric at h
  cases hfound : byId.find? fun existing => existing.metricId = metric.metricId with
  | none =>
    rw [hfound] at h
    cases h
    unfold underId
    rw [List.find?_append]
    by_cases hid : id = metric.metricId
    · subst hid
      rw [hfound, if_pos rfl]
      simp
    · have hnot : decide (metric.metricId = id) = false := decide_eq_false fun heq => hid heq.symm
      rw [if_neg hid, List.find?_singleton, hnot]
      simp
  | some existing =>
    rw [hfound] at h
    by_cases hsame : existing.same metric = true
    · simp only [hsame, if_true] at h
      cases h
      have hcongr : ((fun other : MetricResult => decide (other.metricId = id)) ∘ fun old =>
          if old.metricId = metric.metricId then metric else old) = fun other =>
            decide (other.metricId = id) := by
        funext old
        by_cases hold : old.metricId = metric.metricId
        · simp [hold]
        · simp [hold]
      unfold underId
      rw [List.find?_map, hcongr]
      by_cases hid : id = metric.metricId
      · subst hid
        rw [hfound, if_pos rfl, Option.map_some, if_pos (underId_id hfound)]
      · rw [if_neg hid]
        cases hother : byId.find? fun other => decide (other.metricId = id) with
        | none => rfl
        | some other =>
          have hne : other.metricId ≠ metric.metricId := by
            rw [underId_id hother]
            exact hid
          rw [Option.map_some, if_neg hne]
    · simp only [hsame] at h
      cases h

theorem addMetric_same {byId next : List MetricResult} {metric existing : MetricResult}
    (h : addMetric byId metric = .ok next) (hfound : underId byId metric.metricId = some existing) :
    existing.same metric = true := by
  unfold addMetric at h
  have hfind : (byId.find? fun other => other.metricId = metric.metricId) = some existing := hfound
  rw [hfind] at h
  by_contra hsame
  simp only [hsame] at h
  cases h

/-- Every metric that was added has one of its key under its id. -/
def Covered (byId added : List MetricResult) : Prop :=
  ∀ m ∈ added, ∃ existing, underId byId m.metricId = some existing ∧ existing.key = m.key

theorem covered_addMetric {byId next added : List MetricResult} {metric : MetricResult}
    (h : addMetric byId metric = .ok next) (hcovered : Covered byId added) :
    Covered next (added ++ [metric]) := by
  intro m hm
  rw [underId_addMetric h]
  rcases List.mem_append.mp hm with hold | hnew
  · obtain ⟨existing, hfound, hkey⟩ := hcovered m hold
    by_cases hid : m.metricId = metric.metricId
    · rw [hid] at hfound
      refine ⟨metric, if_pos hid, ?_⟩
      rw [← hkey]
      exact (MetricResult.key_of_same (addMetric_same h hfound)).symm
    · exact ⟨existing, (if_neg hid).trans hfound, hkey⟩
  · rw [List.mem_singleton] at hnew
    subst hnew
    exact ⟨m, if_pos rfl, rfl⟩

theorem covered_foldlM {metrics : List MetricResult} : ∀ {byId final added : List MetricResult},
    metrics.foldlM addMetric byId = .ok final → Covered byId added →
      Covered final (added ++ metrics) := by
  induction metrics with
  | nil =>
    intro byId final added h hcovered
    cases h
    rw [List.append_nil]
    exact hcovered
  | cons metric rest ih =>
    intro byId final added h hcovered
    rw [List.foldlM_cons] at h
    obtain ⟨next, hnext, hrest⟩ := Fallible.bind_eq_ok.mp h
    have hfinal := ih hrest (covered_addMetric hnext hcovered)
    rwa [List.append_assoc, List.singleton_append] at hfinal

/-- Metrics that were accepted together share an id only with their key. -/
theorem key_of_deduplicated {metrics unique : List MetricResult} {m n : MetricResult}
    (h : deduplicateMetrics metrics = .ok unique) (hm : m ∈ metrics) (hn : n ∈ metrics)
    (hid : m.metricId = n.metricId) : m.key = n.key := by
  obtain ⟨byId, hfold, -⟩ := Fallible.bind_eq_ok.mp h
  have hcovered := covered_foldlM hfold (fun m hm => absurd hm List.not_mem_nil : Covered [] [])
  rw [List.nil_append] at hcovered
  obtain ⟨existing, hfound, hkey⟩ := hcovered m hm
  obtain ⟨other, hother, hkey'⟩ := hcovered n hn
  rw [hid, hother] at hfound
  cases hfound
  exact hkey.symm.trans hkey'

/-- Metrics whose ids name them are accepted. -/
theorem deduplicateMetrics_total {metrics : List MetricResult}
    (h : ∀ m ∈ metrics, ∀ n ∈ metrics, m.metricId = n.metricId → m = n) :
    ∃ unique, deduplicateMetrics metrics = .ok unique := by
  have hstep : ∀ byId : List MetricResult, (∀ m ∈ byId, m ∈ metrics) → ∀ metric ∈ metrics,
      ∃ next, addMetric byId metric = .ok next ∧ ∀ m ∈ next, m ∈ metrics := by
    intro byId hbyId metric hmetric
    unfold addMetric
    cases hfound : byId.find? fun existing => existing.metricId = metric.metricId with
    | none =>
      refine ⟨_, rfl, fun m hm => ?_⟩
      rcases List.mem_append.mp hm with hold | hnew
      · exact hbyId m hold
      · rw [List.mem_singleton.mp hnew]
        exact hmetric
    | some existing =>
      have heq := h existing (hbyId _ (List.mem_of_find?_eq_some hfound)) metric hmetric
        (underId_id hfound)
      subst heq
      simp only [MetricResult.same_self, if_true]
      refine ⟨_, rfl, fun m hm => ?_⟩
      obtain ⟨old, hold, rfl⟩ := List.mem_map.mp hm
      split
      · exact hmetric
      · exact hbyId old hold
  obtain ⟨byId, hfold, -⟩ := Fallible.foldlM_total hstep (fun m hm => absurd hm List.not_mem_nil)
  unfold deduplicateMetrics
  rw [hfold]
  exact ⟨_, rfl⟩

theorem deduplicateMetrics_sorted {metrics unique : List MetricResult}
    (h : deduplicateMetrics metrics = .ok unique) :
    (unique.map MetricResult.metricId).Pairwise (· ≤ ·) := by
  obtain ⟨byId, -, h⟩ := Fallible.bind_eq_ok.mp h
  cases h
  exact List.pairwise_map.mpr (List.pairwise_insertionSort _ _)

/-! ## Accepted mappings -/

/-- What `_validate_inputs` finds of a mapping. -/
structure Accepted (snapshots : Snapshots) (policy : RegimePolicy) (cutoff : UtcDatetime) : Prop where
  keyed : snapshots.Keyed
  timely : ∀ entry ∈ snapshots.items, entry.2.asOf ≤ cutoff
  identified : ((snapshots.required policy).map RegimeMarketSnapshot.snapshotId).Nodup

theorem validateEntry_spec {required seen next : List String} {cutoff : UtcDatetime}
    {entry : String × RegimeMarketSnapshot} (h : validateEntry required cutoff seen entry = .ok next) :
    entry.2.symbol = entry.1 ∧ entry.2.asOf ≤ cutoff ∧
      next = (if entry.1 ∈ required then [entry.2.snapshotId] else []) ++ seen ∧
      (entry.1 ∈ required → entry.2.snapshotId ∉ seen) := by
  unfold validateEntry at h
  by_cases hkey : entry.1 ≠ entry.1.toUpper ∨ entry.1 ≠ entry.2.symbol
  · rw [if_pos hkey] at h
    cases h
  rw [if_neg hkey] at h
  rw [not_or, not_not, not_not] at hkey
  by_cases hlate : cutoff < entry.2.asOf
  · rw [if_pos hlate] at h
    cases h
  rw [if_neg hlate] at h
  refine ⟨hkey.2.symm, not_lt.mp hlate, ?_⟩
  by_cases hrequired : entry.1 ∈ required
  · rw [if_pos hrequired] at h
    by_cases hseen : entry.2.snapshotId ∈ seen
    · rw [if_pos hseen] at h
      cases h
    · rw [if_neg hseen] at h
      cases h
      rw [if_pos hrequired]
      exact ⟨rfl, fun _ => hseen⟩
  · rw [if_neg hrequired] at h
    cases h
    rw [if_neg hrequired]
    exact ⟨rfl, fun hmem => absurd hmem hrequired⟩

theorem validateEntries_spec {required : List String} {cutoff : UtcDatetime} :
    ∀ {items : List (String × RegimeMarketSnapshot)} {seen final : List String},
      items.foldlM (validateEntry required cutoff) seen = .ok final →
        (∀ entry ∈ items, entry.2.symbol = entry.1 ∧ entry.2.asOf ≤ cutoff) ∧
        (((items.filter fun entry => entry.1 ∈ required).map fun entry =>
          entry.2.snapshotId).Nodup) ∧
        ∀ entry ∈ items, entry.1 ∈ required → entry.2.snapshotId ∉ seen := by
  intro items
  induction items with
  | nil => exact fun _ => ⟨List.forall_mem_nil _, List.nodup_nil, List.forall_mem_nil _⟩
  | cons entry rest ih =>
    intro seen final h
    rw [List.foldlM_cons] at h
    obtain ⟨next, hnext, hrest⟩ := Fallible.bind_eq_ok.mp h
    obtain ⟨hsymbol, htimely, rfl, hfresh⟩ := validateEntry_spec hnext
    obtain ⟨hall, hnodup, hlater⟩ := ih hrest
    refine ⟨List.forall_mem_cons.mpr ⟨⟨hsymbol, htimely⟩, hall⟩, ?_,
      List.forall_mem_cons.mpr ⟨hfresh, fun other hother hrequired hseen =>
        hlater other hother hrequired (List.mem_append_right _ hseen)⟩⟩
    by_cases hrequired : entry.1 ∈ required
    · rw [List.filter_cons, if_pos (decide_eq_true hrequired), List.map_cons, List.nodup_cons]
      refine ⟨fun hmem => ?_, hnodup⟩
      obtain ⟨other, hother, hid⟩ := List.mem_map.mp hmem
      obtain ⟨hother, hkept⟩ := List.mem_filter.mp hother
      refine hlater other hother (of_decide_eq_true hkept) ?_
      rw [if_pos hrequired, hid]
      exact List.mem_cons_self
    · rw [List.filter_cons, decide_eq_false hrequired]
      exact hnodup

theorem accepted_of_valid {snapshots : Snapshots} {policy : RegimePolicy} {cutoff : UtcDatetime}
    (h : validateInputs snapshots policy cutoff = .ok ()) : Accepted snapshots policy cutoff := by
  obtain ⟨final, hfold, -⟩ := Fallible.bind_eq_ok.mp h
  obtain ⟨hall, hnodup, -⟩ := validateEntries_spec hfold
  refine ⟨?_, fun entry hentry => (hall entry hentry).2, ?_⟩
  · intro symbol snapshot hget
    exact (hall _ ((lookup_eq_some_iff snapshots.unique).mp hget)).1
  · unfold Snapshots.required
    rw [List.map_map]
    exact hnodup

/-! ## The formula of a metric -/

variable {policy : RegimePolicy} {snapshots : Snapshots} {cutoff : UtcDatetime}

/-- A snapshot of a required symbol. -/
def IsInput (policy : RegimePolicy) (snapshots : Snapshots) (snapshot : RegimeMarketSnapshot) : Prop :=
  ∃ symbol ∈ policy.requiredSymbols, snapshots.get? symbol = some snapshot

theorem inputs_of_get? {symbol : String} (hrequired : symbol ∈ policy.requiredSymbols) :
    ∀ snapshot ∈ (snapshots.get? symbol).toList, IsInput policy snapshots snapshot := by
  intro snapshot hsnapshot
  exact ⟨symbol, hrequired, Option.mem_toList.mp hsnapshot⟩

/-- The formula reads required snapshots, and its baskets are those of the policy. -/
def Formula.Drawn (policy : RegimePolicy) (snapshots : Snapshots) (f : Formula) : Prop :=
  (∀ snapshot ∈ f.snapshots, IsInput policy snapshots snapshot) ∧
    (f.name = .equalWeightRelativeReturn → f = basketFormula policy snapshots)

theorem drawn_single {f : Formula} {snapshot : RegimeMarketSnapshot} (hf : f.snapshots = [snapshot])
    (hname : decide (f.name = .equalWeightRelativeReturn) = false)
    (h : IsInput policy snapshots snapshot) : f.Drawn policy snapshots := by
  refine ⟨fun other hother => ?_, fun heq => absurd heq (of_decide_eq_false hname)⟩
  rw [hf, List.mem_singleton] at hother
  rw [hother]
  exact h

theorem drawn_relative {asset benchmark : RegimeMarketSnapshot} {window : Nat}
    (hasset : IsInput policy snapshots asset) (hbenchmark : IsInput policy snapshots benchmark) :
    (Formula.relativeReturn asset benchmark window).Drawn policy snapshots := by
  refine ⟨fun other hother => ?_, fun heq => by cases heq⟩
  rcases List.mem_pair.mp hother with rfl | rfl
  · exact hasset
  · exact hbenchmark

theorem drawn_basket : (basketFormula policy snapshots).Drawn policy snapshots := by
  have hbasket {symbols : List String} (hrequired : ∀ symbol ∈ symbols, symbol ∈ policy.requiredSymbols) :
      ∀ snapshot ∈ inOrder (symbols.filterMap snapshots.get?), IsInput policy snapshots snapshot := by
    intro snapshot hsnapshot
    obtain ⟨symbol, hsymbol, hget⟩ :=
      List.mem_filterMap.mp ((List.perm_insertionSort _ _).mem_iff.mp hsnapshot)
    exact ⟨symbol, hrequired symbol hsymbol, hget⟩
  refine ⟨fun snapshot hsnapshot => ?_, fun _ => rfl⟩
  rcases List.mem_append.mp hsnapshot with hcyclical | hdefensive
  · exact hbasket (fun _ => RegimePolicy.cyclical_required) snapshot hcyclical
  · exact hbasket (fun _ => RegimePolicy.defensive_required) snapshot hdefensive

theorem trendFormulas_drawn {snapshot : RegimeMarketSnapshot} (h : IsInput policy snapshots snapshot) :
    ∀ f ∈ trendFormulas policy snapshot, f.Drawn policy snapshots := by
  unfold trendFormulas
  simp only [List.forall_mem_cons]
  exact ⟨drawn_single rfl rfl h, drawn_single rfl rfl h,
    drawn_single rfl rfl h, List.forall_mem_nil _⟩

theorem broadTrendFormulas_drawn :
    ∀ f ∈ broadTrendFormulas policy snapshots, f.Drawn policy snapshots := by
  intro f hf
  obtain ⟨snapshot, hsnapshot, hf⟩ := List.mem_flatMap.mp hf
  refine trendFormulas_drawn ?_ f hf
  simp only [List.mapM_cons, List.mapM_nil] at hsnapshot
  have hbenchmark := @inputs_of_get? policy snapshots _ RegimePolicy.broadBenchmark_required
  have hgrowth := @inputs_of_get? policy snapshots _ RegimePolicy.broadGrowth_required
  cases hfirst : snapshots.get? policy.broadBenchmark with
  | none =>
    rw [hfirst] at hsnapshot
    cases hsnapshot
  | some first =>
    cases hsecond : snapshots.get? policy.broadGrowth with
    | none =>
      rw [hfirst, hsecond] at hsnapshot
      cases hsnapshot
    | some second =>
      rw [hfirst, hsecond] at hsnapshot
      rw [hfirst] at hbenchmark
      rw [hsecond] at hgrowth
      rcases List.mem_pair.mp hsnapshot with rfl | rfl
      · exact hbenchmark _ List.mem_cons_self
      · exact hgrowth _ List.mem_cons_self

theorem sectorFormulas_drawn {symbol : String} (h : symbol ∈ policy.sectorSymbols) :
    ∀ f ∈ sectorFormulas policy snapshots symbol, f.Drawn policy snapshots := by
  intro f hf
  obtain ⟨snapshot, hsnapshot, hf⟩ := List.mem_flatMap.mp hf
  have hinput := inputs_of_get? (RegimePolicy.sector_required h) snapshot hsnapshot
  rcases List.mem_pair.mp hf with rfl | rfl
  · exact drawn_single rfl rfl hinput
  · exact drawn_single rfl rfl hinput

theorem assetFormulas_drawn {symbol : String} (h : symbol ∈ policy.requiredSymbols) :
    ∀ f ∈ assetFormulas policy snapshots symbol, f.Drawn policy snapshots := by
  intro f hf
  obtain ⟨asset, hasset, hf⟩ := List.mem_flatMap.mp hf
  obtain ⟨benchmark, hbenchmark, rfl⟩ := List.mem_map.mp hf
  exact drawn_relative (inputs_of_get? h asset hasset)
    (inputs_of_get? RegimePolicy.broadBenchmark_required benchmark hbenchmark)

theorem volatilityFormulas_drawn :
    ∀ f ∈ volatilityFormulas policy snapshots, f.Drawn policy snapshots := by
  intro f hf
  obtain ⟨snapshot, hsnapshot, hf⟩ := List.mem_flatMap.mp hf
  have hinput := inputs_of_get? RegimePolicy.broadBenchmark_required snapshot hsnapshot
  simp only [List.mem_cons, List.not_mem_nil, or_false] at hf
  rcases hf with rfl | rfl | rfl | rfl <;> exact drawn_single rfl rfl hinput

theorem creditFormulas_drawn :
    ∀ f ∈ creditFormulas policy snapshots, f.Drawn policy snapshots := by
  intro f hf
  obtain ⟨asset, hasset, hf⟩ := List.mem_flatMap.mp hf
  obtain ⟨benchmark, hbenchmark, hf⟩ := List.mem_flatMap.mp hf
  have hinput := inputs_of_get? RegimePolicy.creditAsset_required asset hasset
  simp only [List.mem_cons, List.not_mem_nil, or_false] at hf
  rcases hf with rfl | rfl | rfl
  · exact drawn_relative hinput
      (inputs_of_get? RegimePolicy.creditBenchmark_required benchmark hbenchmark)
  · exact drawn_single rfl rfl hinput
  · exact drawn_single rfl rfl hinput

/-- **Every formula reads required snapshots.** -/
theorem formulas_drawn : ∀ f ∈ formulas policy snapshots, f.Drawn policy snapshots := by
  intro f hf
  unfold formulas at hf
  simp only [List.mem_append] at hf
  rcases hf with (((hf | hf) | hf | hf) | hf) | hf
  · exact broadTrendFormulas_drawn f hf
  · obtain ⟨symbol, hsymbol, hf⟩ := List.mem_flatMap.mp hf
    exact sectorFormulas_drawn hsymbol f hf
  · obtain ⟨symbol, hsymbol, hf⟩ := List.mem_flatMap.mp hf
    rcases List.mem_pair.mp hsymbol with rfl | rfl
    · exact assetFormulas_drawn RegimePolicy.broadGrowth_required f hf
    · exact assetFormulas_drawn RegimePolicy.smallCap_required f hf
  · unfold basketFormulas at hf
    split at hf
    · rw [List.mem_singleton.mp hf]
      exact drawn_basket
    · cases hf
  · exact volatilityFormulas_drawn f hf
  · exact creditFormulas_drawn f hf

/-! ## One formula for each key -/

theorem IsInput.entry {snapshot : RegimeMarketSnapshot} (h : IsInput policy snapshots snapshot) :
    snapshot ∈ snapshots.required policy := by
  obtain ⟨symbol, hrequired, hget⟩ := h
  refine List.mem_map.mpr ⟨(symbol, snapshot), List.mem_filter.mpr ⟨?_, ?_⟩, rfl⟩
  · exact (lookup_eq_some_iff snapshots.unique).mp hget
  · exact decide_eq_true hrequired

theorem Accepted.eq_of_id (h : Accepted snapshots policy cutoff) {s t : RegimeMarketSnapshot}
    (hs : IsInput policy snapshots s) (ht : IsInput policy snapshots t)
    (hid : s.snapshotId = t.snapshotId) : s = t :=
  List.inj_on_of_nodup_map h.identified hs.entry ht.entry hid

theorem Accepted.eq_of_symbol (h : Accepted snapshots policy cutoff) {s t : RegimeMarketSnapshot}
    (hs : IsInput policy snapshots s) (ht : IsInput policy snapshots t)
    (hsymbol : s.symbol = t.symbol) : s = t := by
  obtain ⟨symbol, -, hget⟩ := hs
  obtain ⟨other, -, hget'⟩ := ht
  rw [h.keyed _ _ hget, h.keyed _ _ hget'] at hsymbol
  rw [hsymbol, hget'] at hget
  exact (Option.some.inj hget).symm

theorem toString_injective {m n : Nat} (h : toString m = toString n) : m = n := by
  have hpadded (k : Nat) : Numerals.padded 0 k = (toString k).toList := by
    show List.leftpad 0 '0' (Nat.toDigits 10 k) = (String.ofList (Nat.toDigits 10 k)).toList
    rw [String.toList_ofList]
    simp [List.leftpad]
  refine @Numerals.padded_injective 0 m n ?_
  rw [hpadded, hpadded, h]

theorem mem_of_sorted {p q : List (String × String)} (h : sortedParameters p = sortedParameters q)
    {pair : String × String} (hmem : pair ∈ p) : pair ∈ q := by
  have hsorted := (List.perm_insertionSort pairAtMost p).mem_iff.mpr hmem
  unfold sortedParameters at h
  rw [h] at hsorted
  exact (List.perm_insertionSort pairAtMost q).mem_iff.mp hsorted

/-- The only snapshot of a formula, from the ids of the metric. -/
theorem id_of_sorted {s t : RegimeMarketSnapshot} (h : sortedIds [s] = sortedIds [t]) :
    s.snapshotId = t.snapshotId := by
  exact List.head_eq_of_cons_eq h

/-- The part of a key that a formula decides. -/
def Formula.key (f : Formula) : MetricName × List (String × String) × List String :=
  (f.name, sortedParameters f.parameters, sortedIds f.snapshots)

/-- **A key names one formula.** -/
theorem formula_eq_of_key (h : Accepted snapshots policy cutoff) {f g : Formula}
    (hf : f.Drawn policy snapshots) (hg : g.Drawn policy snapshots) (hkey : f.key = g.key) :
    f = g := by
  unfold Formula.key at hkey
  obtain ⟨hname, hkey⟩ := Prod.mk.inj hkey
  obtain ⟨hparameters, hids⟩ := Prod.mk.inj hkey
  have hvalue : ∀ pair ∈ f.parameters, pair ∈ g.parameters := fun _ => mem_of_sorted hparameters
  have hsingle {s t : RegimeMarketSnapshot} (hs : f.snapshots = [s]) (ht : g.snapshots = [t]) :
      s = t := by
    rw [hs, ht] at hids
    exact h.eq_of_id (hf.1 s (hs ▸ List.mem_cons_self)) (hg.1 t (ht ▸ List.mem_cons_self))
      (id_of_sorted hids)
  cases f with
  | equalWeight assets benchmarks window => rw [hf.2 rfl, hg.2 hname.symm]
  | sma s window =>
    cases g with
    | sma t window' =>
      simp only [Formula.parameters, List.mem_singleton, forall_eq, Prod.mk.injEq,
        true_and] at hvalue
      rw [hsingle rfl rfl, toString_injective hvalue]
    | _ => cases hname
  | smaSlope s window lookback =>
    cases g with
    | smaSlope t window' lookback' =>
      simp only [Formula.parameters, List.mem_cons, List.not_mem_nil, forall_eq_or_imp, forall_eq,
        Prod.mk.injEq, String.reduceEq, or_false, false_or, true_and, false_and] at hvalue
      rw [hsingle rfl rfl, toString_injective hvalue.1, toString_injective hvalue.2]
    | _ => cases hname
  | relativeReturn asset benchmark window =>
    cases g with
    | relativeReturn asset' benchmark' window' =>
      simp only [Formula.parameters, List.mem_cons, List.not_mem_nil, forall_eq_or_imp, forall_eq,
        Prod.mk.injEq, String.reduceEq, or_false, false_or, true_and, false_and] at hvalue
      have hasset : asset = asset' := h.eq_of_symbol (hf.1 asset List.mem_cons_self)
        (hg.1 asset' List.mem_cons_self) hvalue.1
      have hbenchmark : benchmark = benchmark' := h.eq_of_symbol
        (hf.1 benchmark (List.mem_cons_of_mem _ List.mem_cons_self))
        (hg.1 benchmark' (List.mem_cons_of_mem _ List.mem_cons_self)) hvalue.2.1
      rw [hasset, hbenchmark, toString_injective hvalue.2.2]
    | _ => cases hname
  | atrPercent s window =>
    cases g with
    | atrPercent t window' =>
      simp only [Formula.parameters, List.mem_singleton, forall_eq, Prod.mk.injEq,
        true_and] at hvalue
      rw [hsingle rfl rfl, toString_injective hvalue]
    | _ => cases hname
  | realizedVolatility s window =>
    cases g with
    | realizedVolatility t window' =>
      simp only [Formula.parameters, List.mem_cons, List.not_mem_nil, forall_eq_or_imp, forall_eq,
        Prod.mk.injEq, String.reduceEq, or_false, false_or, true_and, false_and] at hvalue
      rw [hsingle rfl rfl, toString_injective hvalue]
    | _ => cases hname
  | atrPercentile s window history =>
    cases g with
    | atrPercentile t window' history' =>
      simp only [Formula.parameters, List.mem_cons, List.not_mem_nil, forall_eq_or_imp, forall_eq,
        Prod.mk.injEq, String.reduceEq, or_false, false_or, true_and, false_and] at hvalue
      rw [hsingle rfl rfl, toString_injective hvalue.1, toString_injective hvalue.2]
    | _ => cases hname
  | realizedVolatilityPercentile s window history =>
    cases g with
    | realizedVolatilityPercentile t window' history' =>
      simp only [Formula.parameters, List.mem_cons, List.not_mem_nil, forall_eq_or_imp, forall_eq,
        Prod.mk.injEq, String.reduceEq, or_false, false_or, true_and, false_and] at hvalue
      rw [hsingle rfl rfl, toString_injective hvalue.1, toString_injective hvalue.2]
    | _ => cases hname

end FinanceResearch.Regimes
