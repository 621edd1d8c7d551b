import FinanceResearch.Eligibility.Median

/-!
# Two liquidity gates

The comparison of `evaluate_instrument_eligibility` (`domain/eligibility.py`) and the one of
`assess_setups` (`domain/setups.py`) with the least median dollar volume of the policy. The
first is exact within the limits of `decimal`; the second rounds the products, the sum of the
middle two and its half to the 28 digits of `NUMERIC_CONTEXT`.

Rounding keeps the order of the products, so what the second compares is the median of the
exact products rounded step by step (`setupsBelow_eq`). The two agree where that stays on
its side of the minimum, as it does when 28 digits hold the middle of the products exactly
(`liquidityGates_agree`).

Mirroring notes vs the source:
- Of a snapshot its completed bars are read, and of a bar its close and its volume.
- The history both ask for is not part of the comparison.
-/

namespace FinanceResearch.Setups

open Decimal Fallible OrderStatistics Eligibility

/-- `NUMERIC_CONTEXT`. -/
def numericContext : Context := ⟨28, precision_positive⟩

/-- `_median` in that context. -/
def median (values : List Decimal) : Except MedianError Decimal :=
  if values.length % 2 = 1 then item (sortedDollars values) (values.length / 2)
  else do
    let lower ← item (sortedDollars values) (values.length / 2 - 1)
    let upper ← item (sortedDollars values) (values.length / 2)
    let sum ← raising (numericContext.add lower upper)
    raising (numericContext.divide sum Context.two)

/-- `volume` of `assess_setups`, over the bars that carry one. -/
def assessedVolume (bars : List DollarBar) : Except MedianError Decimal := do
  let values ← bars.mapM fun bar => raising (numericContext.multiply bar.1.value (ofInt bar.2))
  median values

/-- The close and the volume of a bar that carries one. -/
def dollarBar (bar : CompletedDailyBar) : Option DollarBar :=
  bar.volume.map fun volume => (bar.close, volume)

/-- The closes and the volumes of the bars that carry one. -/
def tradedBars (snapshot : MarketSnapshot) : List DollarBar :=
  snapshot.completedDailyBars.filterMap dollarBar

/-- `median < setup_policy.minimum_median_dollar_volume` of `evaluate_instrument_eligibility`. -/
def eligibilityBelow (snapshot : MarketSnapshot) (minimum : PositiveDecimal) :
    Except MedianError Bool := do
  let median ← medianDollarVolume (snapshot.completedDailyBars.map CompletedDailyBar.close)
    (snapshot.completedDailyBars.filterMap CompletedDailyBar.volume)
  pure (median.less minimum.value)

/-- `volume < policy.minimum_median_dollar_volume` of `assess_setups`. -/
def setupsBelow (snapshot : MarketSnapshot) (minimum : PositiveDecimal) : Except MedianError Bool := do
  let volume ← assessedVolume (tradedBars snapshot)
  pure (volume.less minimum.value)

/-! ## What the context of the setups computes -/

/-- The nearest number of 28 digits. -/
abbrev rounded (x : ℚ) : ℚ := numericContext.rounded x

/-- The median, rounded at each step. -/
def steppedMedian (items : List ℚ) : Option ℚ :=
  if items.length % 2 = 1 then (kth items (items.length / 2)).map rounded
  else do
    let lower ← kth items (items.length / 2 - 1)
    let upper ← kth items (items.length / 2)
    pure (rounded (rounded (rounded lower + rounded upper) / 2))

theorem raising_eq_ok {α : Type} {x : Except Signal α} {a : α} (h : raising x = .ok a) : x = .ok a := by
  cases x with
  | error signal => cases h
  | ok b =>
    cases h
    rfl

theorem item_spec {ds : List Decimal} {k : Nat} {d : Decimal} (h : item ds k = .ok d) :
    ds[k]? = some d := by
  unfold item at h
  split at h
  · next found =>
    cases h
    exact found
  · cases h

theorem dollarVolume_nonneg (bar : DollarBar) : 0 ≤ dollarVolume bar := by
  rw [← dollars_value, value_eq]
  exact magnitude_nonneg _

/-- The products are the exact ones, rounded. -/
theorem products_value {bars : List DollarBar} {values : List Decimal}
    (h : bars.mapM (fun bar => raising (numericContext.multiply bar.1.value (ofInt bar.2))) =
      .ok values) :
    values.map value = (bars.map dollarVolume).map rounded := by
  have hall := mapM_eq_ok.mp h
  clear h
  induction hall with
  | nil => rfl
  | cons hbar _ ih =>
    rw [List.map_cons, List.map_cons, List.map_cons, ih, Context.multiply_value (raising_eq_ok hbar)]
    rw [dollarVolume, Context.ofInt_natCast_value]

/-- What the setups compare is the exact median rounded step by step. -/
theorem assessedVolume_value {bars : List DollarBar} {result : Decimal}
    (h : assessedVolume bars = .ok result) :
    steppedMedian (bars.map dollarVolume) = some result.value := by
  obtain ⟨values, hvalues, hmedian⟩ := bind_eq_ok.mp h
  have hproducts := products_value hvalues
  have hlength : values.length = (bars.map dollarVolume).length := by
    have hlen := congrArg List.length hproducts
    rwa [List.length_map, List.length_map] at hlen
  -- Rounding does not reorder: an item of the sorted products is an order statistic, rounded.
  have hat : ∀ {k d}, item (sortedDollars values) k = .ok d →
      ∃ exact, kth (bars.map dollarVolume) k = some exact ∧ d.value = rounded exact := by
    intro k d hd
    have hkth := sortedDollars_kth values k
    rw [item_spec hd, hproducts, kth_map] at hkth
    · obtain ⟨exact, hexact, hround⟩ := Option.map_eq_some_iff.mp hkth.symm
      exact ⟨exact, hexact, hround.symm⟩
    · intro a ha b _ hab
      obtain ⟨bar, _, rfl⟩ := List.mem_map.mp ha
      exact Context.rounded_mono (dollarVolume_nonneg bar) hab
  unfold median at hmedian
  rw [steppedMedian, ← hlength]
  by_cases hodd : values.length % 2 = 1
  · rw [if_pos hodd] at hmedian ⊢
    obtain ⟨exact, hexact, hround⟩ := hat hmedian
    rw [hexact, hround]
    rfl
  · rw [if_neg hodd] at hmedian ⊢
    obtain ⟨lower, hlower, hmedian⟩ := bind_eq_ok.mp hmedian
    obtain ⟨upper, hupper, hmedian⟩ := bind_eq_ok.mp hmedian
    obtain ⟨sum, hsum, hhalf⟩ := bind_eq_ok.mp hmedian
    obtain ⟨low, hlow, hlowround⟩ := hat hlower
    obtain ⟨high, hhigh, hhighround⟩ := hat hupper
    rw [hlow, hhigh, Context.divide_value (raising_eq_ok hhalf), Context.two_value,
      Context.add_value (raising_eq_ok hsum), hlowround, hhighround]
    rfl

/-! ## The two comparisons -/

/-- The products of a snapshot. -/
def dollarVolumes (snapshot : MarketSnapshot) : List ℚ := (tradedBars snapshot).map dollarVolume

/-- The bars that carry a volume are all bars, if all do. -/
theorem traded_eq_zip {bars : List CompletedDailyBar} (h : ∀ bar ∈ bars, bar.volume.isSome = true) :
    bars.filterMap dollarBar =
        (bars.map CompletedDailyBar.close).zip (bars.filterMap CompletedDailyBar.volume) ∧
      (bars.map CompletedDailyBar.close).length = (bars.filterMap CompletedDailyBar.volume).length := by
  induction bars with
  | nil => exact ⟨rfl, rfl⟩
  | cons bar bars ih =>
    rw [List.forall_mem_cons] at h
    obtain ⟨hvolume, hrest⟩ := h
    obtain ⟨hsame, hlength⟩ := ih hrest
    obtain ⟨volume, hsome⟩ := Option.isSome_iff_exists.mp hvolume
    have hmap : dollarBar bar = some (bar.close, volume) := by
      rw [dollarBar, hsome]
      rfl
    rw [List.filterMap_cons_some hmap, List.filterMap_cons_some hsome, List.map_cons, hsame,
      List.zip_cons_cons, List.length_cons, List.length_cons, hlength]
    exact ⟨rfl, rfl⟩

/-- A median that is returned is one of some bars, each with a volume that is written. -/
theorem medianDollarVolume_written {closes : List PositiveDecimal} {volumes : List Nat}
    {result : Decimal} (h : medianDollarVolume closes volumes = .ok result)
    (hlength : closes.length = volumes.length) :
    closes ≠ [] ∧ ∀ volume ∈ volumes, (Nat.toDigits 10 volume).length ≤ maxStrDigits := by
  obtain ⟨widths, hwidths, h⟩ := bind_eq_ok.mp h
  rw [if_neg (not_not.mpr hlength)] at h
  constructor
  · intro hempty
    rw [hempty] at hwidths
    cases hwidths
    cases h
  · intro volume hvolume
    obtain ⟨i, hi, hget⟩ := List.getElem_of_mem hvolume
    have hzip : (closes[i], volume) ∈ closes.zip volumes := by
      rw [← hget, ← List.getElem_zip (h := by rw [List.length_zip]; omega)]
      exact List.getElem_mem _
    obtain ⟨width, _, hwidth⟩ := exists_mem_of_mapM hwidths hzip
    unfold writtenWidth at hwidth
    by_contra hlong
    rw [if_neg hlong] at hwidth
    cases hwidth

/-- `assess_setups` compares the median rounded step by step. -/
theorem setupsBelow_eq {snapshot : MarketSnapshot} {minimum : PositiveDecimal} {below : Bool}
    (h : setupsBelow snapshot minimum = .ok below) : ∃ stepped,
      steppedMedian (dollarVolumes snapshot) = some stepped ∧
        below = decide (stepped < minimum.value.value) := by
  obtain ⟨volume, hvolume, h⟩ := bind_eq_ok.mp h
  cases h
  refine ⟨volume.value, assessedVolume_value hvolume, ?_⟩
  rw [Bool.eq_iff_iff, decide_eq_true_iff, less_iff]

/-- `evaluate_instrument_eligibility` compares the median. -/
theorem eligibilityBelow_eq {snapshot : MarketSnapshot} {minimum : PositiveDecimal} {below : Bool}
    (hvolumes : ∀ bar ∈ snapshot.completedDailyBars, bar.volume.isSome = true)
    (hlimits : WithinLimits (tradedBars snapshot))
    (h : eligibilityBelow snapshot minimum = .ok below) : ∃ exact,
      OrderStatistics.median (dollarVolumes snapshot) = some exact ∧
        below = decide (exact < minimum.value.value) := by
  obtain ⟨hsame, hlength⟩ := traded_eq_zip hvolumes
  have hbars : tradedBars snapshot = _ := hsame
  rw [hbars] at hlimits
  obtain ⟨result, hresult, h⟩ := bind_eq_ok.mp h
  cases h
  obtain ⟨hcloses, hwritten⟩ := medianDollarVolume_written hresult hlength
  obtain ⟨exact, hexact, hmedian⟩ := medianDollarVolume_median hlength hcloses hwritten hlimits
  rw [hresult] at hexact
  cases hexact
  refine ⟨result.value, ?_, ?_⟩
  · rw [dollarVolumes, hbars]
    exact hmedian
  · rw [Bool.eq_iff_iff, decide_eq_true_iff, less_iff]

/-- 28 digits hold the middle of the products: the one, or the two, their sum and its half. -/
structure MiddleFits (items : List ℚ) : Prop where
  one : ∀ middle, items.length % 2 = 1 → kth items (items.length / 2) = some middle →
    rounded middle = middle
  two : ∀ lower upper, items.length % 2 = 0 → kth items (items.length / 2 - 1) = some lower →
    kth items (items.length / 2) = some upper →
    rounded lower = lower ∧ rounded upper = upper ∧ rounded (lower + upper) = lower + upper ∧
      rounded ((lower + upper) / 2) = (lower + upper) / 2

/-- Nothing is rounded in the middle. -/
theorem steppedMedian_of_fits {items : List ℚ} (h : MiddleFits items) :
    steppedMedian items = OrderStatistics.median items := by
  unfold steppedMedian OrderStatistics.median
  by_cases hodd : items.length % 2 = 1
  · rw [if_pos hodd, if_pos hodd]
    cases hmiddle : kth items (items.length / 2) with
    | none => rfl
    | some middle =>
      rw [Option.map_some, h.one middle hodd hmiddle]
  · rw [if_neg hodd, if_neg hodd]
    cases hlower : kth items (items.length / 2 - 1) with
    | none => rfl
    | some lower =>
      cases hupper : kth items (items.length / 2) with
      | none => rfl
      | some upper =>
        obtain ⟨hl, hu, hsum, hhalf⟩ := h.two lower upper (by omega) hlower hupper
        show some (rounded (rounded (rounded lower + rounded upper) / 2)) = _
        rw [hl, hu, hsum, hhalf]
        rfl

/-- **Where the gates agree**: the first compares the median of the products, the second the
median rounded step by step, so they differ exactly where the minimum lies between the two; that
does not happen when 28 digits hold the middle of the products. -/
theorem liquidityGates_agree {snapshot : MarketSnapshot} {minimum : PositiveDecimal}
    {below below' : Bool}
    (hvolumes : ∀ bar ∈ snapshot.completedDailyBars, bar.volume.isSome = true)
    (hlimits : WithinLimits (tradedBars snapshot))
    (h : eligibilityBelow snapshot minimum = .ok below)
    (h' : setupsBelow snapshot minimum = .ok below') :
    (∃ exact stepped, OrderStatistics.median (dollarVolumes snapshot) = some exact ∧
      steppedMedian (dollarVolumes snapshot) = some stepped ∧
      (below = below' ↔ (exact < minimum.value.value ↔ stepped < minimum.value.value))) ∧
    (MiddleFits (dollarVolumes snapshot) → below = below') := by
  obtain ⟨exact, hexact, hbelow⟩ := eligibilityBelow_eq hvolumes hlimits h
  obtain ⟨stepped, hstepped, hbelow'⟩ := setupsBelow_eq h'
  constructor
  · refine ⟨exact, stepped, hexact, hstepped, ?_⟩
    rw [hbelow, hbelow', decide_eq_decide]
  · intro hfits
    rw [steppedMedian_of_fits hfits, hexact] at hstepped
    rw [hbelow, hbelow', Option.some.inj hstepped]

/-! ## A snapshot of one bar -/

theorem sampleName_legal : Identifier.IsLegal "liquidity-sample" := by decide

def sampleId : Identifier := ⟨"liquidity-sample", sampleName_legal⟩

theorem sampleFlags_legal : ([] : List Identifier).length ≤ 64 ∧ ([] : List Identifier).Nodup :=
  ⟨Nat.zero_le 64, List.nodup_nil⟩

theorem sampleCurrency_legal : "USD".length = 3 ∧ "USD".toList.all Char.isUpper = true := by decide

/-- The instrument of the sample. -/
def sampleInstrument : InstrumentIdentity where
  instrumentId := sampleId
  symbol := ⟨"LIQ", by decide⟩
  name := ⟨"Liquidity sample", by decide⟩
  instrumentType := .commonStock
  primaryExchange := some sampleId
  listingCountry := some "US"
  currency := ⟨"USD", sampleCurrency_legal⟩
  isActive := some true
  isLeveraged := none
  isInverse := none
  isOtc := some false

/-- Where the bar of the sample was observed. -/
def sampleObservation : SourceObservation where
  observationId := sampleId
  provider := sampleId
  sourceUrl := none
  sourceHashSha256 := "0000000000000000000000000000000000000000000000000000000000000000"
  observedAt := 0
  retrievedAt := 0
  contentType := ⟨"application/liquidity", by decide⟩
  excerpt := ⟨"liquidity", by decide⟩
  persistenceAllowed := true
  qualityFlags := ⟨[], sampleFlags_legal⟩
  ordered := Int.le_refl 0

theorem atMost_self (d : Decimal) : d.atMost d = true := atMost_iff.mpr le_rfl

/-- A bar at one price all day. -/
def sampleBar (close : PositiveDecimal) (volume : Nat) : CompletedDailyBar where
  instrumentId := sampleId
  sessionDate := ⟨2026, 1, 2, by decide⟩
  sourceTimestamp := 0
  opened := close
  high := close
  low := close
  close := close
  volume := some volume
  session := .completedSession
  provider := sampleId
  feed := sampleId
  coverage := .consolidated
  adjustment := sampleId
  retrievedAt := 0
  evidenceCutoffAt := 0
  evidenceId := sampleId
  qualityFlags := ⟨[], sampleFlags_legal⟩
  completed := rfl
  prices := ⟨⟨atMost_self _, atMost_self _⟩, ⟨atMost_self _, atMost_self _⟩⟩
  ordered := ⟨Int.le_refl 0, Int.le_refl 0⟩

theorem sampleBar_matches (close : PositiveDecimal) (volume : Nat) :
    ∀ bar ∈ [sampleBar close volume], bar.instrumentId = sampleInstrument.instrumentId := by
  intro bar hbar
  rw [List.mem_singleton.mp hbar]
  rfl

/-- The snapshot of that bar. -/
def sampleSnapshot (close : PositiveDecimal) (volume : Nat) : MarketSnapshot where
  instrument := sampleInstrument
  latestPrice := none
  completedDailyBars := [sampleBar close volume]
  currentSessionBars := []
  sourceObservations := [sampleObservation]
  qualityFlags := ⟨[], sampleFlags_legal⟩
  priceMatches := fun price h => absurd h (Option.not_mem_none price)
  barsMatch := sampleBar_matches close volume
  currentMatch := fun _ h => absurd h List.not_mem_nil
  increasing := List.isChain_singleton _
  uniqueSources := List.nodup_singleton _
  sourced := fun _ => List.cons_ne_nil _ _

/-- A close of 29 nines, below ten million by less than half a unit of the 28th digit. -/
def closeOfNines : PositiveDecimal := ⟨⟨false, 99999999999999999999999999999, -22⟩, by decide⟩

/-- Ten million. -/
def tenMillion : PositiveDecimal := ⟨⟨false, 10000000, 0⟩, by decide⟩

/-- The exact product is below the minimum; rounded to 28 digits it is not. -/
theorem liquidityGates_differ :
    (∀ bar ∈ (sampleSnapshot closeOfNines 1).completedDailyBars, bar.volume.isSome = true) ∧
      eligibilityBelow (sampleSnapshot closeOfNines 1) tenMillion = .ok true ∧
      setupsBelow (sampleSnapshot closeOfNines 1) tenMillion = .ok false := by
  decide

/-- On that bar the minimum lies between the median and the rounded one. -/
theorem liquidityGates_agree_sample : ∃ exact stepped,
    OrderStatistics.median (dollarVolumes (sampleSnapshot closeOfNines 1)) = some exact ∧
      steppedMedian (dollarVolumes (sampleSnapshot closeOfNines 1)) = some stepped ∧
      ¬ (exact < tenMillion.value.value ↔ stepped < tenMillion.value.value) := by
  have hlimits : WithinLimits (tradedBars (sampleSnapshot closeOfNines 1)) := by
    refine ⟨by decide, ?_, ?_⟩
    · unfold IsNormal
      decide
    · intro lower upper hpair
      exact absurd hpair.1 (by decide)
  have hagree := @liquidityGates_agree (sampleSnapshot closeOfNines 1) tenMillion true false
    (by decide) hlimits (by decide) (by decide)
  obtain ⟨⟨exact, stepped, hexact, hstepped, hiff⟩, -⟩ := hagree
  exact ⟨exact, stepped, hexact, hstepped, fun h => absurd (hiff.mpr h) (by decide)⟩

end FinanceResearch.Setups
