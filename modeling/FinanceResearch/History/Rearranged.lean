import FinanceResearch.History.Exact

/-!
# Records in another order

The description of a symbol's outcome does not change with the order of its records
(`describedOutcome_perm`), and normalisation computes it. What does change with the order is which
record is met first: the `except` clause of the loop catches what refuses a record and not the
`OverflowError` of a time at the ends of the calendar, so that a mapping with a refused record and
such a time is accepted in one order and raises in another
(`normalizeAlpacaDailyBars_exact_iff`).
-/

namespace FinanceResearch.History

open Calendar (Date UtcDatetime)

variable {newYorkDate : UtcDatetime → Option Date} {symbol : String}

/-! ## Times at the ends of the calendar -/

/-- The record's time or its date in New York is not within the years 1 to 9999, and nothing that is
checked before refuses the record. -/
def Overflows (newYorkDate : UtcDatetime → Option Date) (symbol : String) : ProviderRecord → Prop
  | .other => False
  | .bar record => record.symbol = symbol ∧ (record.timestamp = .aware none ∨
      ∃ utc, record.timestamp = .aware (some utc) ∧ newYorkDate utc = none ∧
        (∃ opened, price record.opened = .ok opened) ∧ (∃ high, price record.high = .ok high) ∧
        (∃ low, price record.low = .ok low) ∧ (∃ close, price record.close = .ok close) ∧
        ∃ traded, volume record.volume = .ok traded)

theorem require_ne_overflow {condition : Prop} [Decidable condition] {message : String} :
    Fallible.require condition (MarketDataError.refused message) ≠ .error .overflow := by
  intro h
  unfold Fallible.require at h
  split at h
  · cases h
  · cases h

theorem price_ne_overflow (value : PyFloat) : price value ≠ .error .overflow := by
  intro h
  cases value <;> cases h

theorem volume_ne_overflow (value : PyFloat) : volume value ≠ .error .overflow := by
  intro h
  unfold volume at h
  split at h
  · cases h
  · cases h

theorem dailyBar_ne_overflow {sessionDate : Date} {opened high low close : Decimal} {volume : Nat} :
    dailyBar sessionDate opened high low close volume ≠ .error .overflow := by
  intro h
  unfold dailyBar at h
  split at h
  · split at h
    · cases h
    · cases h
  · cases h

/-- A step that does not overflow leaves it to what comes after. -/
theorem bind_overflow_iff {α β : Type} {x : Except MarketDataError α}
    {f : α → Except MarketDataError β} (hx : x ≠ .error .overflow) :
    (x >>= f) = .error .overflow ↔ ∃ a, x = .ok a ∧ f a = .error .overflow := by
  rw [Fallible.bind_eq_error]
  exact or_iff_right hx

theorem converted_some_ne_overflow {α : Type} (value : α) : converted (some value) ≠ .error .overflow := by
  intro h
  cases h

theorem overflow_iff {record : ProviderRecord} :
    normalizeRecord newYorkDate symbol record = .error .overflow ↔
      Overflows newYorkDate symbol record := by
  cases record with
  | other =>
    constructor
    · intro h
      cases h
    · exact False.elim
  | bar record =>
    unfold normalizeRecord Overflows
    rw [bind_overflow_iff require_ne_overflow]
    simp only [Fallible.require_eq_ok, exists_and_left, exists_const]
    refine and_congr_right fun _ => ?_
    cases htime : record.timestamp with
    | other =>
      constructor
      · intro h
        cases h
      · intro h
        rcases h with h | ⟨utc, h, -⟩
        · cases h
        · cases h
    | aware utc =>
      cases utc with
      | none => exact ⟨fun _ => Or.inl rfl, fun _ => rfl⟩
      | some utc =>
        constructor
        · intro h
          obtain ⟨time, ht, h⟩ := (bind_overflow_iff (converted_some_ne_overflow utc)).mp h
          cases Except.ok.inj ht
          obtain ⟨opened, hopened, h⟩ := (bind_overflow_iff (price_ne_overflow _)).mp h
          obtain ⟨high, hhigh, h⟩ := (bind_overflow_iff (price_ne_overflow _)).mp h
          obtain ⟨low, hlow, h⟩ := (bind_overflow_iff (price_ne_overflow _)).mp h
          obtain ⟨close, hclose, h⟩ := (bind_overflow_iff (price_ne_overflow _)).mp h
          obtain ⟨traded, htraded, h⟩ := (bind_overflow_iff (volume_ne_overflow _)).mp h
          cases hdate : newYorkDate utc with
          | none => exact Or.inr ⟨utc, rfl, hdate, ⟨opened, hopened⟩, ⟨high, hhigh⟩, ⟨low, hlow⟩,
              ⟨close, hclose⟩, traded, htraded⟩
          | some sessionDate =>
            rw [hdate] at h
            obtain ⟨date, -, h⟩ := (bind_overflow_iff (converted_some_ne_overflow sessionDate)).mp h
            obtain ⟨bar, -, h⟩ := (bind_overflow_iff dailyBar_ne_overflow).mp h
            cases h
        · intro h
          rcases h with h | ⟨time, ht, hdate, ⟨opened, hopened⟩, ⟨high, hhigh⟩, ⟨low, hlow⟩,
            ⟨close, hclose⟩, traded, htraded⟩
          · cases h
          · cases ht
            refine Fallible.bind_eq_error.mpr (Or.inr ⟨utc, rfl, ?_⟩)
            refine Fallible.bind_eq_error.mpr (Or.inr ⟨opened, hopened, ?_⟩)
            refine Fallible.bind_eq_error.mpr (Or.inr ⟨high, hhigh, ?_⟩)
            refine Fallible.bind_eq_error.mpr (Or.inr ⟨low, hlow, ?_⟩)
            refine Fallible.bind_eq_error.mpr (Or.inr ⟨close, hclose, ?_⟩)
            refine Fallible.bind_eq_error.mpr (Or.inr ⟨traded, htraded, ?_⟩)
            rw [hdate]
            rfl

/-! ## The description in another order -/

variable {records other : List ProviderRecord}

theorem yielded_perm (h : records.Perm other) :
    (yielded newYorkDate symbol records).Perm (yielded newYorkDate symbol other) := h.filterMap _

theorem conflict_perm {left right : List DailyBarObservation} (h : left.Perm right) :
    Conflict left ↔ Conflict right :=
  ⟨Conflict.mono fun _ => h.mem_iff.mp, Conflict.mono fun _ => h.mem_iff.mpr⟩

theorem malformed_perm (h : records.Perm other) :
    Malformed newYorkDate symbol records ↔ Malformed newYorkDate symbol other :=
  exists_congr fun _ => and_congr_left fun _ => h.mem_iff

theorem describedFlags_perm (h : records.Perm other) (request : HistoricalDailyBarsRequest) :
    describedFlags newYorkDate symbol records request =
      describedFlags newYorkDate symbol other request := by
  have hyielded : (yielded newYorkDate symbol records).Perm (yielded newYorkDate symbol other) :=
    yielded_perm h
  unfold describedFlags
  simp only [hyielded.nodup_iff]

theorem distinct_perm (h : records.Perm other)
    (hequal : ¬ Conflict (yielded newYorkDate symbol records)) :
    distinct newYorkDate symbol records = distinct newYorkDate symbol other := by
  have hyielded : (yielded newYorkDate symbol records).Perm (yielded newYorkDate symbol other) :=
    yielded_perm h
  refine ordered_eq (nodup_sessions_dedup hequal)
    (nodup_sessions_dedup (mt (conflict_perm hyielded).mpr hequal)) fun o => ?_
  rw [List.mem_dedup, List.mem_dedup, hyielded.mem_iff]

/-- **The outcome does not depend on the order of the records.** -/
theorem describedOutcome_perm (h : records.Perm other) (request : HistoricalDailyBarsRequest)
    (provenance : HistoricalBarsProvenance) :
    describedOutcome newYorkDate symbol records request provenance =
      describedOutcome newYorkDate symbol other request provenance := by
  have hyielded : (yielded newYorkDate symbol records).Perm (yielded newYorkDate symbol other) :=
    yielded_perm h
  have hnil : records = [] ↔ other = [] := by
    rw [← List.length_eq_zero_iff, ← List.length_eq_zero_iff, h.length_eq]
  unfold describedOutcome
  by_cases hrecords : records = []
  · rw [if_pos hrecords, if_pos (hnil.mp hrecords)]
  rw [if_neg hrecords, if_neg (mt hnil.mpr hrecords)]
  by_cases hmalformed : Malformed newYorkDate symbol records
  · rw [if_pos hmalformed, if_pos ((malformed_perm h).mp hmalformed)]
  rw [if_neg hmalformed, if_neg (mt (malformed_perm h).mpr hmalformed)]
  by_cases hequal : Conflict (yielded newYorkDate symbol records)
  · rw [if_pos hequal, if_pos ((conflict_perm hyielded).mp hequal)]
  -- What is left reads only the distinct observations and the flags.
  rw [if_neg hequal, if_neg (mt (conflict_perm hyielded).mpr hequal), distinct_perm h hequal,
    describedFlags_perm h]

/-! ## All symbols -/

variable {recordsBySymbol rearranged : List (String × List ProviderRecord)}
  {request : HistoricalDailyBarsRequest} {retrievedAt : UtcDatetime}
  {outcomes : List HistoricalBarsOutcome}

/-- **What normalisation accepts, and what it makes of it.** -/
theorem normalizeAlpacaDailyBars_eq_ok :
    normalizeAlpacaDailyBars newYorkDate recordsBySymbol request retrievedAt = .ok outcomes ↔
      (∀ symbol ∈ recordsBySymbol.map Prod.fst, symbol ∈ request.symbols) ∧
      ∃ provenance, provenanceOf newYorkDate request retrievedAt = .ok provenance ∧
        (∀ symbol ∈ request.symbols,
          (recordsOf recordsBySymbol symbol).mapM (normalizeRecord newYorkDate symbol) ≠
            .error .overflow) ∧
        outcomes = request.symbols.map fun symbol =>
          describedOutcome newYorkDate symbol (recordsOf recordsBySymbol symbol) request provenance := by
  unfold normalizeAlpacaDailyBars
  rw [Fallible.bind_eq_ok]
  simp only [Fallible.require_eq_ok, exists_and_left, exists_const, Fallible.bind_eq_ok]
  refine and_congr_right fun _ => exists_congr fun provenance => and_congr_right fun _ => ?_
  have hpure (h : ∀ symbol ∈ request.symbols,
      (recordsOf recordsBySymbol symbol).mapM (normalizeRecord newYorkDate symbol) ≠
        .error .overflow) :
      (request.symbols.mapM fun symbol =>
        outcomeOf newYorkDate request provenance symbol (recordsOf recordsBySymbol symbol)) =
          .ok (request.symbols.map fun symbol =>
            describedOutcome newYorkDate symbol (recordsOf recordsBySymbol symbol) request provenance) :=
    Fallible.mapM_pure fun symbol hsymbol =>
      outcomeOf_eq (request.canonical.2.2 symbol hsymbol) (h symbol hsymbol)
  constructor
  · intro h
    have hnone : ∀ symbol ∈ request.symbols,
        (recordsOf recordsBySymbol symbol).mapM (normalizeRecord newYorkDate symbol) ≠
          .error .overflow := by
      intro symbol hsymbol
      obtain ⟨outcome, -, houtcome⟩ := Fallible.exists_mem_of_mapM h hsymbol
      exact mapM_ne_overflow houtcome
    exact ⟨hnone, Except.ok.inj (h.symm.trans (hpure hnone))⟩
  · intro h
    rw [h.2]
    exact hpure h.1

/-- The same symbols, each with its records in some order. -/
structure Rearranged (left right : List (String × List ProviderRecord)) : Prop where
  symbols : ∀ symbol, symbol ∈ left.map Prod.fst ↔ symbol ∈ right.map Prod.fst
  records : ∀ symbol, (recordsOf left symbol).Perm (recordsOf right symbol)

/-- What an outcome says about the records of its symbol. -/
structure Describes (newYorkDate : UtcDatetime → Option Date) (request : HistoricalDailyBarsRequest)
    (provenance : HistoricalBarsProvenance) (symbol : String) (records : List ProviderRecord)
    (outcome : HistoricalBarsOutcome) : Prop where
  described : outcome = describedOutcome newYorkDate symbol records request provenance
  available : ∀ history, outcome = .available history ↔
    Complete newYorkDate symbol records request provenance ∧
      history = historyOf symbol (distinct newYorkDate symbol records) provenance
        (describedFlags newYorkDate symbol records request)
  observations : ∀ history, outcome = .available history →
    (∀ o, o ∈ history.observations ↔
      ∃ record ∈ records, normalizeRecord newYorkDate symbol record = .ok o) ∧
    history.observations.Pairwise fun a b => a.bar.sessionDate.Before b.bar.sessionDate

/-- Normalisation is exact, and the same for every order of the records. -/
structure ExactAndOrderless (newYorkDate : UtcDatetime → Option Date)
    (recordsBySymbol : List (String × List ProviderRecord)) (request : HistoricalDailyBarsRequest)
    (retrievedAt : UtcDatetime) (outcomes : List HistoricalBarsOutcome) : Prop where
  exact : ∃ provenance, provenanceOf newYorkDate request retrievedAt = .ok provenance ∧
    List.Forall₂ (fun symbol outcome => Describes newYorkDate request provenance symbol
      (recordsOf recordsBySymbol symbol) outcome) request.symbols outcomes
  orderless : ∀ rearranged, Rearranged recordsBySymbol rearranged →
    normalizeAlpacaDailyBars newYorkDate rearranged request retrievedAt = .ok outcomes

theorem describes_describedOutcome (provenance : HistoricalBarsProvenance) :
    Describes newYorkDate request provenance symbol records
      (describedOutcome newYorkDate symbol records request provenance) := by
  refine ⟨rfl, fun history => describedOutcome_available_iff, fun history h => ?_⟩
  obtain ⟨hcomplete, rfl⟩ := describedOutcome_available_iff.mp h
  exact ⟨fun o => mem_distinct, hcomplete.legal.increasing⟩

theorem exists_perm_of_mem {record : ProviderRecord} (h : record ∈ records) :
    ∃ rest, records.Perm (record :: rest) := by
  obtain ⟨before, after, rfl⟩ := List.append_of_mem h
  exact ⟨before ++ after, List.perm_middle⟩

/-- The mapping with other records for one of its symbols. -/
def withRecords (recordsBySymbol : List (String × List ProviderRecord)) (symbol : String)
    (records : List ProviderRecord) : List (String × List ProviderRecord) :=
  recordsBySymbol.map fun entry => (entry.1, if entry.1 = symbol then records else entry.2)

theorem lookup_withRecords (key : String) :
    (withRecords recordsBySymbol symbol records).lookup key =
      (recordsBySymbol.lookup key).map fun found => if key = symbol then records else found := by
  unfold withRecords
  induction recordsBySymbol with
  | nil => rfl
  | cons entry rest ih =>
    rw [List.map_cons, List.lookup_cons, List.lookup_cons]
    by_cases hkey : key = entry.1
    · rw [hkey, beq_self_eq_true]
      rfl
    · rw [beq_eq_false_iff_ne.mpr hkey]
      exact ih

/-- Records put in another order for one symbol. -/
theorem rearranged_withRecords (h : (recordsOf recordsBySymbol symbol).Perm records)
    (hsome : records ≠ []) : Rearranged recordsBySymbol (withRecords recordsBySymbol symbol records) ∧
      recordsOf (withRecords recordsBySymbol symbol records) symbol = records := by
  have hlookup : ∃ found, recordsBySymbol.lookup symbol = some found := by
    cases hfound : recordsBySymbol.lookup symbol with
    | some found => exact ⟨found, rfl⟩
    | none =>
      unfold recordsOf at h
      rw [hfound] at h
      exact absurd (List.nil_perm.mp h) hsome
  obtain ⟨found, hfound⟩ := hlookup
  have hsame : recordsOf (withRecords recordsBySymbol symbol records) symbol = records := by
    unfold recordsOf
    rw [lookup_withRecords, hfound, Option.map_some, if_pos rfl]
    rfl
  refine ⟨⟨fun key => ?_, fun key => ?_⟩, hsame⟩
  · unfold withRecords
    rw [List.map_map]
    rfl
  · by_cases hkey : key = symbol
    · rw [hkey, hsame]
      exact h
    · unfold recordsOf
      rw [lookup_withRecords]
      simp only [if_neg hkey, Option.map_id']
      exact List.Perm.refl _

/-- **An accepted mapping is normalised exactly and whatever the order of its records, if and only if
no time of its records overflows.** -/
theorem normalizeAlpacaDailyBars_exact_iff
    (h : normalizeAlpacaDailyBars newYorkDate recordsBySymbol request retrievedAt = .ok outcomes) :
    ExactAndOrderless newYorkDate recordsBySymbol request retrievedAt outcomes ↔
      ∀ symbol ∈ request.symbols, ∀ record ∈ recordsOf recordsBySymbol symbol,
        ¬ Overflows newYorkDate symbol record := by
  obtain ⟨hrequested, provenance, hprovenance, -, houtcomes⟩ := normalizeAlpacaDailyBars_eq_ok.mp h
  constructor
  · intro hexact symbol hsymbol record hrecord hoverflows
    obtain ⟨rest, hperm⟩ := exists_perm_of_mem hrecord
    obtain ⟨hrearranged, hrecords⟩ := rearranged_withRecords hperm (List.cons_ne_nil _ _)
    obtain ⟨-, -, -, hnone, -⟩ :=
      normalizeAlpacaDailyBars_eq_ok.mp (hexact.orderless _ hrearranged)
    refine hnone symbol hsymbol ?_
    rw [hrecords, List.mapM_cons, overflow_iff.mpr hoverflows]
    rfl
  · intro hnone
    refine ⟨⟨provenance, hprovenance, ?_⟩, fun rearranged hrearranged => ?_⟩
    · rw [houtcomes, List.forall₂_map_right_iff, List.forall₂_same]
      exact fun symbol _ => describes_describedOutcome provenance
    · refine normalizeAlpacaDailyBars_eq_ok.mpr ⟨fun symbol hsymbol =>
        hrequested symbol ((hrearranged.symbols symbol).mpr hsymbol), provenance, hprovenance, ?_, ?_⟩
      · intro symbol hsymbol hoverflow
        obtain ⟨record, hrecord, hraised⟩ := Fallible.exists_of_mapM_error hoverflow
        exact hnone symbol hsymbol record ((hrearranged.records symbol).mem_iff.mpr hrecord)
          (overflow_iff.mp hraised)
      · rw [houtcomes]
        refine List.map_congr_left fun symbol _ => ?_
        exact describedOutcome_perm (hrearranged.records symbol) request provenance

/-! ## A time before the first year in New York -/

/-- Noon UTC of the sixth of January 2026. -/
def noonOfSixth : UtcDatetime := 1767700800000000

/-- The noon before it. -/
def noonOfFifth : UtcDatetime := noonOfSixth - Calendar.microsPerDay

/-- The fifth of January 2026. -/
def fifth : Date := ⟨2026, 1, 5, Calendar.firstMonday_valid⟩

theorem oneSymbol_canonical : ["AAA"] ≠ [] ∧ ["AAA"].Pairwise (· < ·) ∧
    ∀ symbol ∈ ["AAA"], Regimes.isNormalizedSymbol symbol = true := by decide

/-- The request for one symbol and one session. -/
def oneSession : HistoricalDailyBarsRequest where
  symbols := ["AAA"]
  startAt := 0
  endAt := noonOfSixth
  expectedSessions := [fifth]
  completedThroughSession := fifth
  feed := .iex
  adjustment := .raw
  evidenceCutoffAt := noonOfSixth
  canonical := oneSymbol_canonical
  increasing := List.pairwise_singleton _ _
  completed := rfl

/-- The date five hours behind UTC. -/
def easternDate (t : UtcDatetime) : Option Date := Calendar.dateOf (t - 18000000000)

theorem oneDollar_printed : ((-1 : Int) = -1 ∧ 10 < 10 ^ 17) ∨ ((-1 : Int) < -1 ∧ 10 % 10 ≠ 0) ∨
    ((0 : Int) ≤ -1 ∧ 10 % 10 ≠ 0 ∧ 10 ^ 16 ≤ 10 * 10 ^ (-1 : Int).toNat) := by decide

/-- `1.0`. -/
def oneDollar : PyFloat := .finite ⟨⟨false, 10, -1⟩, oneDollar_printed⟩ (some 1)

/-- A bar of one dollar at a time. -/
def barAt (t : UtcDatetime) : ProviderRecord :=
  .bar ⟨"AAA", .aware (some t), oneDollar, oneDollar, oneDollar, oneDollar, oneDollar⟩

/-- Midnight UTC of the first day of the year 1. -/
def firstMidnight : UtcDatetime := -62135596800000000

theorem normalizeAlpacaDailyBars_exact_iff_sample : ∃ outcomes,
    normalizeAlpacaDailyBars easternDate [("AAA", [barAt noonOfFifth, barAt noonOfFifth])] oneSession
        noonOfSixth = .ok outcomes ∧
      (ExactAndOrderless easternDate [("AAA", [barAt noonOfFifth, barAt noonOfFifth])] oneSession
        noonOfSixth outcomes ↔ ∀ symbol ∈ oneSession.symbols,
          ∀ record ∈ recordsOf [("AAA", [barAt noonOfFifth, barAt noonOfFifth])] symbol,
            ¬ Overflows easternDate symbol record) :=
  ⟨_, rfl, normalizeAlpacaDailyBars_exact_iff rfl⟩

/-- A malformed record before the first midnight hides it; behind it, the loop raises. -/
theorem overflow_depends_on_order : ∃ outcomes,
    normalizeAlpacaDailyBars easternDate [("AAA", [.other, barAt firstMidnight])] oneSession
        noonOfSixth = .ok outcomes ∧
      normalizeAlpacaDailyBars easternDate [("AAA", [barAt firstMidnight, .other])] oneSession
        noonOfSixth = .error .overflow ∧
      ¬ ExactAndOrderless easternDate [("AAA", [.other, barAt firstMidnight])] oneSession noonOfSixth
        outcomes := by
  refine ⟨_, rfl, rfl, fun h => ?_⟩
  have hrearranged : Rearranged [("AAA", [.other, barAt firstMidnight])]
      [("AAA", [barAt firstMidnight, .other])] := by
    refine ⟨fun _ => Iff.rfl, fun symbol => ?_⟩
    unfold recordsOf
    rw [List.lookup_cons, List.lookup_cons]
    cases symbol == "AAA" with
    | true => exact List.Perm.swap _ _ _
    | false => exact List.Perm.refl _
  cases h.orderless _ hrearranged

end FinanceResearch.History
