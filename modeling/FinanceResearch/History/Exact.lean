import FinanceResearch.History.Described

/-!
# The normalisation computes the description

`outcomeOf` is `describedOutcome` unless a time leaves the years 1 to 9999 (`outcomeOf_eq`): the
failures pass their own checks, the sorted sessions of the loop are the distinct observations
(`ordered_eq`), and a last session before the completed one is a completed one that is absent
(`stale_iff`).
-/

namespace FinanceResearch.History

open Calendar (Date UtcDatetime)
open Regimes (DailyBar isNormalizedSymbol)

/-! ## Failures -/

/-- Distinct flags in their order are legal flags. -/
theorem flagsLegal_insertionSort {flags : List String} (hnodup : flags.Nodup)
    (hlegal : ∀ flag ∈ flags, isQualityFlag flag = true) :
    FlagsLegal (flags.insertionSort (· ≤ ·)) := by
  have hperm := List.perm_insertionSort (· ≤ ·) flags
  refine ⟨?_, fun flag hflag => hlegal flag (hperm.mem_iff.mp hflag)⟩
  exact (List.pairwise_insertionSort (· ≤ ·) flags).imp₂ (fun _ _ hle hne => lt_of_le_of_ne hle hne)
    (hperm.nodup_iff.mpr hnodup)

theorem baseQualityFlags_legal (feed : MarketDataFeed) (adjustment : BarAdjustment) :
    FlagsLegal (baseQualityFlags feed adjustment) := by
  unfold baseQualityFlags
  apply flagsLegal_insertionSort
  · cases feed <;> cases adjustment <;> decide
  · cases feed <;> cases adjustment <;> decide

theorem qualityFlags_legal (request : HistoricalDailyBarsRequest) (duplicateRemoved : Bool) :
    FlagsLegal (qualityFlags request duplicateRemoved) := by
  apply flagsLegal_insertionSort (Dicts.nodup_eraseDups _ _ (Nat.le_refl _))
  intro flag hflag
  rw [List.mem_eraseDups, List.mem_append] at hflag
  rcases hflag with hbase | hremoved
  · exact (baseQualityFlags_legal request.feed request.adjustment).2 flag hbase
  · cases duplicateRemoved with
    | true =>
      rw [if_pos rfl, List.mem_singleton] at hremoved
      rw [hremoved]
      decide
    | false => cases hremoved

variable {request : HistoricalDailyBarsRequest} {provenance : HistoricalBarsProvenance}
  {symbol : String} {reason : HistoricalBarsUnavailableReason} {absent : List Date}
  {flags : List String}

theorem failure_eq (hsymbol : isNormalizedSymbol symbol = true) (habsent : absent.Pairwise Date.Before)
    (hflags : FlagsLegal flags) : failure symbol reason provenance absent flags =
      .ok (failureOf symbol reason provenance absent flags) := by
  unfold failure
  refine Fallible.bind_eq_ok.mpr ⟨⟨⟩, Fallible.require_eq_ok.mpr hsymbol, ?_⟩
  refine Fallible.bind_eq_ok.mpr ⟨⟨⟩, Fallible.require_eq_ok.mpr habsent, ?_⟩
  exact Fallible.bind_eq_ok.mpr ⟨⟨⟩, Fallible.require_eq_ok.mpr hflags, rfl⟩

theorem createHistory_eq {observations : List DailyBarObservation}
    (h : HistoryLegal symbol observations provenance flags) :
    createHistory symbol observations provenance flags =
      .ok (historyOf symbol observations provenance flags) :=
  Fallible.bind_eq_ok.mpr ⟨⟨⟩, Fallible.require_eq_ok.mpr h, rfl⟩

theorem createHistory_refused {observations : List DailyBarObservation}
    (h : ¬ HistoryLegal symbol observations provenance flags) :
    createHistory symbol observations provenance flags = .error (.refused "historical daily bars") := by
  unfold createHistory Fallible.require
  rw [if_neg h]
  rfl

theorem missing_increasing (observations : List DailyBarObservation) :
    (missing request observations).Pairwise Date.Before := request.increasing.filter _

/-! ## The sorted observations -/

theorem mem_ordered {observations : List DailyBarObservation} {o : DailyBarObservation} :
    o ∈ ordered observations ↔ o ∈ observations := List.mem_insertionSort _

theorem mem_sessions_ordered {observations : List DailyBarObservation} {session : Date} :
    session ∈ sessions (ordered observations) ↔ session ∈ sessions observations := by
  unfold sessions
  rw [List.mem_map, List.mem_map]
  simp only [mem_ordered]

theorem ordered_sorted (observations : List DailyBarObservation) :
    (ordered observations).Pairwise fun a b => a.bar.sessionDate.order ≤ b.bar.sessionDate.order :=
  @List.pairwise_insertionSort _ (fun a b : DailyBarObservation =>
    a.bar.sessionDate.order ≤ b.bar.sessionDate.order) _ ⟨fun _ _ => le_total _ _⟩
    ⟨fun _ _ _ => le_trans⟩ observations

/-- Lists of the same observations, each with its own session, are sorted to one list. -/
theorem ordered_eq {left right : List DailyBarObservation} (hleft : (sessions left).Nodup)
    (hright : (sessions right).Nodup) (h : ∀ o, o ∈ left ↔ o ∈ right) : ordered left = ordered right := by
  have hperm : left.Perm right :=
    (List.perm_ext_iff_of_nodup (List.Nodup.of_map _ hleft) (List.Nodup.of_map _ hright)).mpr h
  refine (((List.perm_insertionSort _ _).trans hperm).trans
    (List.perm_insertionSort _ _).symm).eq_of_pairwise ?_ (ordered_sorted left) (ordered_sorted right)
  intro a b ha hb hab hba
  have hsession : a.bar.sessionDate = b.bar.sessionDate := Date.order_injective (le_antisymm hab hba)
  exact List.inj_on_of_nodup_map hleft (mem_ordered.mp ha) ((h b).mpr (mem_ordered.mp hb)) hsession

theorem nodup_sessions_dedup {observations : List DailyBarObservation} (h : ¬ Conflict observations) :
    (sessions observations.dedup).Nodup := by
  refine (List.nodup_map_iff_inj_on (List.nodup_dedup _)).mpr ?_
  intro a ha b hb hsession
  by_contra hne
  exact h ⟨a, List.mem_dedup.mp ha, b, List.mem_dedup.mp hb, hsession, hne⟩

/-- Each session of the sorted observations is before the next one. -/
theorem ordered_before {observations : List DailyBarObservation} (h : (sessions observations).Nodup) :
    (ordered observations).Pairwise fun a b => a.bar.sessionDate.Before b.bar.sessionDate := by
  have hperm : (sessions (ordered observations)).Perm (sessions observations) :=
    (List.perm_insertionSort _ _).map _
  have hdistinct := List.pairwise_map.mp (hperm.nodup_iff.mpr h)
  refine (ordered_sorted observations).imp₂ ?_ hdistinct
  intro a b hle hne
  exact lt_of_le_of_ne hle fun heq => hne (Date.order_injective heq)

/-- When no session is after the completed one, the last is before it exactly when it is absent. -/
theorem stale_iff {observations : List DailyBarObservation} {completed : Date}
    (hsome : observations ≠ []) (hlast : ¬ ∃ session ∈ sessions (ordered observations),
      completed.Before session) :
    ((sessions (ordered observations)).getLast?.any fun session =>
      decide (session.Before completed)) = true ↔ completed ∉ sessions (ordered observations) := by
  have hne : sessions (ordered observations) ≠ [] := by
    intro hnil
    obtain ⟨o, ho⟩ := List.exists_mem_of_ne_nil _ hsome
    have hmem := List.mem_map_of_mem (f := fun o : DailyBarObservation => o.bar.sessionDate)
      (mem_ordered.mpr ho)
    have hnil' : (ordered observations).map (fun o => o.bar.sessionDate) = [] := hnil
    rw [hnil'] at hmem
    cases hmem
  have hsorted : (sessions (ordered observations)).Pairwise fun a b => a.order ≤ b.order :=
    List.pairwise_map.mpr (ordered_sorted observations)
  generalize sessions (ordered observations) = dates at hlast hne hsorted ⊢
  rw [List.getLast?_eq_some_getLast hne, Option.any_some, decide_eq_true_iff]
  constructor
  · intro hbefore hmem
    have hle := hsorted.rel_getLast_of_rel_getLast_getLast hmem (le_refl _)
    have hlt : (dates.getLast hne).order < completed.order := hbefore
    omega
  · intro habsent
    have hnot : ¬ completed.order < (dates.getLast hne).order :=
      fun hafter => hlast ⟨_, List.getLast_mem hne, hafter⟩
    refine lt_of_le_of_ne (not_lt.mp hnot) fun heq => habsent ?_
    rw [← Date.order_injective heq]
    exact List.getLast_mem hne

/-! ## One symbol -/

variable {newYorkDate : UtcDatetime → Option Date} {records : List ProviderRecord}

theorem mem_yielded {o : DailyBarObservation} : o ∈ yielded newYorkDate symbol records ↔
    ∃ record ∈ records, normalizeRecord newYorkDate symbol record = .ok o := by
  unfold yielded
  rw [List.mem_filterMap]
  refine exists_congr fun record => and_congr_right fun _ => ?_
  cases normalizeRecord newYorkDate symbol record with
  | error e =>
    constructor
    · intro h
      cases h
    · intro h
      cases h
  | ok a => exact ⟨fun h => congrArg Except.ok (Option.some.inj h),
      fun h => congrArg some (Except.ok.inj h)⟩

theorem mem_distinct {o : DailyBarObservation} : o ∈ distinct newYorkDate symbol records ↔
    ∃ record ∈ records, normalizeRecord newYorkDate symbol record = .ok o := by
  unfold distinct
  rw [mem_ordered, List.mem_dedup, mem_yielded]

theorem mem_sessions_distinct {session : Date} :
    session ∈ sessions (distinct newYorkDate symbol records) ↔
      session ∈ sessions (yielded newYorkDate symbol records) := by
  unfold sessions distinct
  simp only [List.mem_map, mem_ordered, List.mem_dedup]

theorem not_malformed_iff : ¬ Malformed newYorkDate symbol records ↔
    ∀ record ∈ records, ∃ o, normalizeRecord newYorkDate symbol record = .ok o := by
  unfold Malformed
  rw [not_exists]
  refine forall_congr' fun record => ?_
  rw [not_and]
  refine imp_congr_right fun _ => ?_
  cases normalizeRecord newYorkDate symbol record with
  | error e =>
    refine ⟨fun h => absurd rfl h, fun h => ?_⟩
    obtain ⟨o, ho⟩ := h
    cases ho
  | ok o => exact ⟨fun _ => ⟨o, rfl⟩, fun _ => Option.some_ne_none o⟩

/-- The exits behind the loop, of the distinct observations. -/
theorem settle_eq (hsymbol : isNormalizedSymbol symbol = true) (hrecords : records ≠ [])
    (hnormalized : ¬ Malformed newYorkDate symbol records)
    (hequal : ¬ Conflict (yielded newYorkDate symbol records)) :
    settle request provenance symbol (distinct newYorkDate symbol records)
        (decide ¬ (yielded newYorkDate symbol records).Nodup) =
      .ok (describedOutcome newYorkDate symbol records request provenance) := by
  have hsome : (yielded newYorkDate symbol records).dedup ≠ [] := by
    intro hnil
    obtain ⟨record, hrecord⟩ := List.exists_mem_of_ne_nil _ hrecords
    obtain ⟨o, ho⟩ := not_malformed_iff.mp hnormalized record hrecord
    have hmem := List.mem_dedup.mpr (mem_yielded.mpr ⟨record, hrecord, ho⟩)
    rw [hnil] at hmem
    cases hmem
  have hfailure (reason : HistoricalBarsUnavailableReason) {absent : List Date}
      (habsent : absent.Pairwise Date.Before) :
      failure symbol reason provenance absent (describedFlags newYorkDate symbol records request) =
        .ok (failureOf symbol reason provenance absent
          (describedFlags newYorkDate symbol records request)) :=
    failure_eq hsymbol habsent (qualityFlags_legal request _)
  unfold settle describedOutcome
  rw [if_neg hrecords, if_neg hnormalized, if_neg hequal]
  by_cases hfuture : ∃ session ∈ sessions (distinct newYorkDate symbol records),
      request.completedThroughSession.Before session
  · rw [if_pos hfuture, if_pos hfuture]
    exact hfailure _ List.Pairwise.nil
  rw [if_neg hfuture, if_neg hfuture]
  by_cases hunexpected : ∃ session ∈ sessions (distinct newYorkDate symbol records),
      session ∉ request.expectedSessions
  · rw [if_pos hunexpected, if_pos hunexpected]
    exact hfailure _ List.Pairwise.nil
  rw [if_neg hunexpected, if_neg hunexpected]
  have hlast : ((sessions (distinct newYorkDate symbol records)).getLast?.any fun session =>
      decide (session.Before request.completedThroughSession)) = true ↔
        request.completedThroughSession ∉ sessions (distinct newYorkDate symbol records) :=
    stale_iff hsome hfuture
  by_cases hstale : request.completedThroughSession ∉ sessions (distinct newYorkDate symbol records)
  · rw [if_pos hstale, if_pos (hlast.mpr hstale)]
    exact hfailure _ (missing_increasing _)
  rw [if_neg hstale, if_neg (mt hlast.mp hstale)]
  by_cases habsent : missing request (distinct newYorkDate symbol records) ≠ []
  · rw [if_pos habsent, if_pos habsent]
    exact hfailure _ (missing_increasing _)
  rw [if_neg habsent, if_neg habsent]
  by_cases hlegal : HistoryLegal symbol (distinct newYorkDate symbol records) provenance
      (describedFlags newYorkDate symbol records request)
  · rw [if_pos hlegal]
    have hcreated := createHistory_eq hlegal
    unfold describedFlags at hcreated
    rw [hcreated]
    rfl
  · rw [if_neg hlegal]
    have hrefused := createHistory_refused hlegal
    unfold describedFlags at hrefused
    rw [hrefused]
    exact hfailure _ List.Pairwise.nil

/-- **The outcome is the described one unless a time overflows.** -/
theorem outcomeOf_eq (hsymbol : isNormalizedSymbol symbol = true)
    (hoverflow : records.mapM (normalizeRecord newYorkDate symbol) ≠ .error .overflow) :
    outcomeOf newYorkDate request provenance symbol records =
      .ok (describedOutcome newYorkDate symbol records request provenance) := by
  have hfailure (reason : HistoricalBarsUnavailableReason) {absent : List Date}
      (habsent : absent.Pairwise Date.Before) :
      failure symbol reason provenance absent (baseQualityFlags request.feed request.adjustment) =
        .ok (failureOf symbol reason provenance absent
          (baseQualityFlags request.feed request.adjustment)) :=
    failure_eq hsymbol habsent (baseQualityFlags_legal _ _)
  unfold outcomeOf
  by_cases hrecords : records = []
  · unfold describedOutcome
    rw [if_pos hrecords, if_pos hrecords]
    exact hfailure _ request.increasing
  rw [if_neg hrecords]
  cases hmap : records.mapM (normalizeRecord newYorkDate symbol) with
  | error e =>
    cases e with
    | overflow => exact absurd hmap hoverflow
    | refused message =>
      obtain ⟨record, hrecord, hrefused⟩ := Fallible.exists_of_mapM_error hmap
      have hmalformed : Malformed newYorkDate symbol records :=
        ⟨record, hrecord, by rw [hrefused]; rfl⟩
      unfold describedOutcome
      rw [if_neg hrecords, if_pos hmalformed]
      exact hfailure _ List.Pairwise.nil
  | ok normalized =>
    dsimp only
    have hnormalized : ¬ Malformed newYorkDate symbol records := by
      refine not_malformed_iff.mpr fun record hrecord => ?_
      obtain ⟨o, -, ho⟩ := Fallible.exists_mem_of_mapM hmap hrecord
      exact ⟨o, ho⟩
    have hyielded : yielded newYorkDate symbol records = normalized := Fallible.filterMap_of_mapM hmap
    have hprinted : ∀ o ∈ normalized, Printed o := by
      intro o ho
      obtain ⟨record, -, hrecord⟩ := Fallible.exists_of_mem_mapM hmap ho
      exact printed_of_normalizeRecord hrecord
    have hloop : Collected normalized false (collectSessions normalized [] false) :=
      @collectSessions_spec normalized [] false hprinted (List.forall_mem_nil _) List.nodup_nil
    cases hcollected : collectSessions normalized [] false with
    | none =>
      have hconflict := hloop.none.mp hcollected
      rw [← hyielded] at hconflict
      unfold describedOutcome
      rw [if_neg hrecords, if_neg hnormalized, if_pos hconflict]
      exact hfailure _ List.Pairwise.nil
    | some result =>
      obtain ⟨bySession, duplicateRemoved⟩ := result
      obtain ⟨hmem, hnodup, hflag⟩ := hloop.some bySession duplicateRemoved hcollected
      have hequal : ¬ Conflict (yielded newYorkDate symbol records) := by
        rw [hyielded]
        intro hconflict
        rw [hloop.none.mpr hconflict] at hcollected
        cases hcollected
      have hordered : ordered bySession = distinct newYorkDate symbol records := by
        refine ordered_eq hnodup (nodup_sessions_dedup hequal) fun o => ?_
        rw [hmem, List.mem_dedup, hyielded]
      have hremoved : duplicateRemoved = decide ¬ (yielded newYorkDate symbol records).Nodup := by
        rw [Bool.eq_iff_iff, decide_eq_true_iff, hflag, hyielded]
        exact or_iff_right Bool.false_ne_true
      show settle request provenance symbol (ordered bySession) duplicateRemoved = _
      rw [hordered, hremoved]
      exact settle_eq hsymbol hrecords hnormalized hequal

theorem mapM_ne_overflow {outcome : HistoricalBarsOutcome}
    (h : outcomeOf newYorkDate request provenance symbol records = .ok outcome) :
    records.mapM (normalizeRecord newYorkDate symbol) ≠ .error .overflow := by
  intro hoverflow
  unfold outcomeOf at h
  by_cases hrecords : records = []
  · rw [hrecords] at hoverflow
    cases hoverflow
  · rw [if_neg hrecords, hoverflow] at h
    cases h

/-! ## When there is a history -/

theorem missing_eq_nil_iff {observations : List DailyBarObservation} :
    missing request observations = [] ↔
      ∀ session ∈ request.expectedSessions, session ∈ sessions observations := by
  unfold missing
  rw [List.filter_eq_nil_iff]
  simp only [decide_eq_true_eq, not_not]

/-- **A history comes out exactly when all is there and legal, and it is the history of the distinct
observations.** -/
theorem describedOutcome_available_iff {history : HistoricalDailyBars} :
    describedOutcome newYorkDate symbol records request provenance = .available history ↔
      Complete newYorkDate symbol records request provenance ∧
        history = historyOf symbol (distinct newYorkDate symbol records) provenance
          (describedFlags newYorkDate symbol records request) := by
  have hlastExpected : request.completedThroughSession ∈ request.expectedSessions :=
    List.mem_of_getLast? request.completed
  unfold describedOutcome
  constructor
  · intro h
    simp only [failureOf] at h
    split at h
    · cases h
    split at h
    · cases h
    rename_i hnormalized
    split at h
    · cases h
    rename_i hequal
    split at h
    · cases h
    split at h
    · cases h
    rename_i hexpected
    split at h
    · cases h
    split at h
    · cases h
    rename_i habsent
    split at h
    · rename_i hlegal
      cases h
      refine ⟨⟨not_malformed_iff.mp hnormalized, hequal, fun session => ?_, hlegal⟩, rfl⟩
      rw [← mem_sessions_distinct]
      constructor
      · intro hmem
        by_contra hnot
        exact hexpected ⟨session, hmem, hnot⟩
      · exact missing_eq_nil_iff.mp (not_not.mp habsent) session
    · cases h
  · intro h
    obtain ⟨hcomplete, hhistory⟩ := h
    have hsessions : ∀ session, session ∈ sessions (distinct newYorkDate symbol records) ↔
        session ∈ request.expectedSessions :=
      fun session => mem_sessions_distinct.trans (hcomplete.sessions session)
    have hrecords : records ≠ [] := by
      intro hnil
      have hmem := (hcomplete.sessions _).mpr hlastExpected
      rw [hnil] at hmem
      cases hmem
    have hfuture : ¬ ∃ session ∈ sessions (distinct newYorkDate symbol records),
        request.completedThroughSession.Before session := by
      intro hafter
      obtain ⟨session, hsession, hafter⟩ := hafter
      have hle := (request.increasing.imp Nat.le_of_lt).rel_getLast_of_rel_getLast_getLast
        ((hsessions session).mp hsession) (le_refl _)
      rw [List.getLast_of_getLast?_eq_some request.completed] at hle
      exact absurd hafter (not_lt.mpr hle)
    have hexpected : ¬ ∃ session ∈ sessions (distinct newYorkDate symbol records),
        session ∉ request.expectedSessions := by
      intro hnot
      obtain ⟨session, hsession, hnot⟩ := hnot
      exact hnot ((hsessions session).mp hsession)
    have habsent : missing request (distinct newYorkDate symbol records) = [] :=
      missing_eq_nil_iff.mpr fun session => (hsessions session).mpr
    rw [if_neg hrecords, if_neg (not_malformed_iff.mpr hcomplete.normalized), if_neg hcomplete.equal,
      if_neg hfuture, if_neg hexpected, if_neg (not_not.mpr ((hsessions _).mpr hlastExpected)),
      if_neg (not_not.mpr habsent), if_pos hcomplete.legal, hhistory]

end FinanceResearch.History
