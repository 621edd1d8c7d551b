import FinanceResearch.Domain.Packets
import FinanceResearch.Lib.Exactness
import FinanceResearch.Lib.Fallible
import FinanceResearch.Lib.Medians
import FinanceResearch.Runs.RunIds

/-!
# The median dollar volume of the eligibility gates

`_median_dollar_volume` of `domain/eligibility.py`, which chooses the precision of its own
context: once for the products, once for the mean of the middle ones.

Both precisions suffice (`medianDollarVolume_exact`): within the limits of the context the
result is the median of the exact products.

Mirroring notes vs the source:
- A bar is its close and its volume; the other fields are not read.
- `localcontext()` copies a context with the exponents of the default one.
-/

namespace FinanceResearch.Eligibility

open Decimal Fallible OrderStatistics

/-- What `_median_dollar_volume` raises. -/
inductive MedianError where
  | tooManyDigits
  | unequalLengths
  | noBars
  | precision
  | missing
  | arithmetic (signal : Signal)
  deriving DecidableEq, Repr

/-- `decimal.MAX_PREC`. -/
def maxPrec : Nat := 999999999999999999

/-- `d.adjusted()`. -/
def adjusted (d : Decimal) : Int := d.exponent + d.digits.length - 1

/-- `context.prec = min(MAX_PREC, prec)`. -/
def withPrec (prec : Nat) : Except MedianError Context :=
  if h : 0 < min maxPrec prec then pure ⟨min maxPrec prec, h⟩ else throw .precision

/-- A trapped signal is raised. -/
def raising {α : Type} : Except Signal α → Except MedianError α
  | .ok value => pure value
  | .error signal => throw (.arithmetic signal)

/-- The close and the volume of a bar. -/
abbrev DollarBar := PositiveDecimal × Nat

/-- `len(bar.close.as_tuple().digits) + len(str(volume)) + 1`. -/
def productWidth (bar : DollarBar) : Nat :=
  bar.1.value.digits.length + (Nat.toDigits 10 bar.2).length + 1

/-- `productWidth` where `str(volume)` is written. -/
def writtenWidth (bar : DollarBar) : Except MedianError Nat :=
  if (Nat.toDigits 10 bar.2).length ≤ maxStrDigits then pure (productWidth bar)
  else throw .tooManyDigits

/-- `items[index]`. -/
def item (items : List Decimal) (index : Nat) : Except MedianError Decimal :=
  match items[index]? with
  | some found => pure found
  | none => throw .missing

/-- `exact_average_precision`. -/
def averagePrecision (lower upper : Decimal) : Int :=
  max (adjusted lower) (adjusted upper) - min lower.exponent upper.exponent + 2

/-- The mean of the two middle products. -/
def average (lower upper : Decimal) : Except MedianError Decimal := do
  let context ← withPrec (max 1 (averagePrecision lower upper)).toNat
  let sum ← raising (context.add lower upper)
  raising (context.divide sum Context.two)

/-- The middle of the sorted products. -/
def middleDollars (dollars : List Decimal) : Except MedianError Decimal :=
  if dollars.length % 2 = 1 then item dollars (dollars.length / 2)
  else do
    let lower ← item dollars (dollars.length / 2 - 1)
    let upper ← item dollars (dollars.length / 2)
    average lower upper

/-- `sorted(...)` of decimals. -/
def sortedDollars (dollars : List Decimal) : List Decimal :=
  dollars.insertionSort fun a b => a.atMost b = true

/-- `_median_dollar_volume`, of the closes of the completed bars. -/
def medianDollarVolume (closes : List PositiveDecimal) (volumes : List Nat) :
    Except MedianError Decimal := do
  let widths ← (closes.zip volumes).mapM writtenWidth
  if closes.length ≠ volumes.length then throw .unequalLengths
  else
    match widths.max? with
    | none => throw .noBars
    | some width => do
      let context ← withPrec width
      let dollars ← (closes.zip volumes).mapM fun bar =>
        raising (context.multiply bar.1.value (ofInt bar.2))
      middleDollars (sortedDollars dollars)

/-! ## The exact products -/

/-- The exact product of a bar. -/
def dollars (bar : DollarBar) : Decimal :=
  ⟨false, bar.1.value.coefficient * bar.2, bar.1.value.exponent⟩

/-- The number it stands for. -/
def dollarVolume (bar : DollarBar) : ℚ := bar.1.value.value * bar.2

theorem dollars_value (bar : DollarBar) : (dollars bar).value = dollarVolume bar := by
  rw [dollarVolume, value_eq, value_eq, bar.1.positive.1]
  show magnitude _ = magnitude _ * _
  simp only [magnitude, dollars, Nat.cast_mul]
  ring

/-- A product has no more digits than its factors. -/
theorem length_dollars (bar : DollarBar) : (dollars bar).digits.length + 1 ≤ productWidth bar := by
  have hclose : bar.1.value.coefficient < 10 ^ bar.1.value.digits.length :=
    (Nat.length_toDigits_le_iff (by decide) Nat.length_toDigits_pos).mp le_rfl
  have hvolume : bar.2 < 10 ^ (Nat.toDigits 10 bar.2).length :=
    (Nat.length_toDigits_le_iff (by decide) Nat.length_toDigits_pos).mp le_rfl
  have hproduct : bar.1.value.coefficient * bar.2 <
      10 ^ (bar.1.value.digits.length + (Nat.toDigits 10 bar.2).length) := by
    rw [pow_add]
    exact Nat.mul_lt_mul'' hclose hvolume
  have hlength := (Nat.length_toDigits_le_iff (b := 10) (by decide)
    (Nat.add_pos_left Nat.length_toDigits_pos _)).mpr hproduct
  exact Nat.succ_le_succ hlength

/-- A product within the exponents of the context. -/
def IsNormal (d : Decimal) : Prop := -Context.emax ≤ adjusted d ∧ adjusted d ≤ Context.emax

/-- The middle two of sorted products, when their number is even. -/
def IsMiddlePair (dollars : List Decimal) (lower upper : Decimal) : Prop :=
  dollars.length % 2 = 0 ∧ dollars[dollars.length / 2 - 1]? = some lower ∧
    dollars[dollars.length / 2]? = some upper

/-- The limits of `decimal`: the precisions that are chosen can be set, and the exact
products and the sum of the middle two have exponents of the context. -/
structure WithinLimits (bars : List DollarBar) : Prop where
  widths : ∀ bar ∈ bars, productWidth bar ≤ maxPrec
  products : ∀ bar ∈ bars, IsNormal (dollars bar)
  sums : ∀ lower upper, IsMiddlePair (sortedDollars (bars.map dollars)) lower upper →
    averagePrecision lower upper ≤ maxPrec ∧
      lower.value + upper.value < 10 ^ (Context.emax + 1)

/-- **The precision of the products suffices.** -/
theorem multiply_dollars {bar : DollarBar} {context : Context} (hnormal : IsNormal (dollars bar))
    (hwidth : productWidth bar ≤ context.prec) :
    context.multiply bar.1.value (ofInt bar.2) = .ok (dollars bar) := by
  have hlength := length_dollars bar
  unfold IsNormal adjusted at hnormal
  have hexponent : bar.1.value.exponent + (ofInt bar.2).exponent = (dollars bar).exponent :=
    Int.add_zero _
  have hetiny : context.etiny = -Context.emax - context.prec + 1 := rfl
  have hself : context.multiply bar.1.value (ofInt bar.2) =
      .ok ⟨bar.1.value.negative != (ofInt bar.2).negative,
        bar.1.value.coefficient * (ofInt bar.2).coefficient,
        bar.1.value.exponent + (ofInt bar.2).exponent⟩ := by
    apply Context.multiply_self
    · show (dollars bar).digits.length ≤ _
      omega
    · omega
    · show _ + ((dollars bar).digits.length : ℤ) ≤ _
      omega
  rw [hself, hexponent, bar.1.positive.1]
  rfl

/-! ## The mean of the middle two -/

/-- A product is a number of units of a lower place. -/
theorem value_units {d : Decimal} (hd : d.negative = false) {place : ℤ} (hplace : place ≤ d.exponent) :
    ∃ n : ℕ, d.value = n * 10 ^ place ∧ n < 10 ^ (adjusted d + 1 - place).toNat := by
  obtain ⟨shift, hshift⟩ := Int.le.dest hplace
  refine ⟨d.coefficient * 10 ^ shift, ?_, ?_⟩
  · rw [value_eq, hd, if_neg Bool.false_ne_true, magnitude, ← hshift, add_comm,
      zpow_add₀ (by norm_num), zpow_natCast]
    push_cast
    ring
  · have hcoefficient : d.coefficient < 10 ^ d.digits.length :=
      (Nat.length_toDigits_le_iff (by decide) Nat.length_toDigits_pos).mp le_rfl
    have hpower : (adjusted d + 1 - place).toNat = d.digits.length + shift := by
      unfold adjusted
      omega
    rw [hpower, pow_add]
    exact Nat.mul_lt_mul_of_pos_right hcoefficient (Nat.pow_pos (by decide))

/-- **The precision of the mean suffices**, for the sum and for its half. -/
theorem average_exact {lower upper : Decimal} (hlower : lower.negative = false)
    (hupper : upper.negative = false) (hnormal : IsNormal upper)
    (hprec : averagePrecision lower upper ≤ maxPrec)
    (hsum : lower.value + upper.value < 10 ^ (Context.emax + 1)) :
    ∃ result, average lower upper = .ok result ∧
      result.value = (lower.value + upper.value) / 2 := by
  obtain ⟨place, hplace⟩ : ∃ place, place = min lower.exponent upper.exponent := ⟨_, rfl⟩
  obtain ⟨high, hhigh⟩ : ∃ high, high = max (adjusted lower) (adjusted upper) := ⟨_, rfl⟩
  have hprecision : averagePrecision lower upper = high - place + 2 := by
    rw [averagePrecision, hplace, hhigh]
  have hlength : 0 < upper.digits.length := Nat.length_toDigits_pos
  have hupperlow : upper.exponent ≤ adjusted upper := by
    unfold adjusted
    omega
  have hwide : 2 ≤ averagePrecision lower upper := by omega
  have hpos : 0 < min maxPrec (max 1 (averagePrecision lower upper)).toNat := by
    unfold maxPrec
    omega
  obtain ⟨context, hcontext⟩ : ∃ context : Context,
      context = ⟨min maxPrec (max 1 (averagePrecision lower upper)).toNat, hpos⟩ := ⟨_, rfl⟩
  have hwith : withPrec (max 1 (averagePrecision lower upper)).toNat = .ok context := by
    rw [withPrec, dif_pos hpos, hcontext]
    rfl
  have hctx : (context.prec : ℤ) = high - place + 2 := by
    rw [hcontext]
    show ((min maxPrec (max 1 (averagePrecision lower upper)).toNat : ℕ) : ℤ) = _
    omega
  -- Both are whole numbers of units of the lower place, below the unit above the higher digit.
  obtain ⟨m, hm, hmlt⟩ := value_units hlower (show place ≤ lower.exponent by omega)
  obtain ⟨n, hn, hnlt⟩ := value_units hupper (show place ≤ upper.exponent by omega)
  have hbound : ∀ k : ℤ, k ≤ high → 10 ^ (k + 1 - place).toNat ≤ 10 ^ (high + 1 - place).toNat :=
    fun k hk => Nat.pow_le_pow_right (by decide) (by omega)
  have hmle := hmlt.trans_le (hbound (adjusted lower) (by omega))
  have hnle := hnlt.trans_le (hbound (adjusted upper) (by omega))
  have htens : 10 ^ context.prec = 10 * 10 ^ (high + 1 - place).toNat := by
    rw [← pow_succ']
    congr 1
    omega
  have hvalue : lower.value + upper.value = (m + n : ℕ) * 10 ^ place := by
    rw [hm, hn]
    push_cast
    ring
  have hhalf : (lower.value + upper.value) / 2 = (5 * (m + n) : ℕ) * 10 ^ (place - 1) := by
    rw [hvalue, zpow_sub_one₀ (by norm_num)]
    push_cast
    ring
  have hetiny : context.etiny = -Context.emax - context.prec + 1 := rfl
  have hnormallow : -Context.emax ≤ adjusted upper := hnormal.1
  have hsumround := @Context.rounded_natCast context (m + n) place (by omega) (by omega)
  have hhalfround := @Context.rounded_natCast context (5 * (m + n)) (place - 1) (by omega)
    (by omega)
  rw [← hvalue] at hsumround
  rw [← hhalf] at hhalfround
  have hnonneg : 0 ≤ lower.value + upper.value := by
    rw [hvalue]
    exact mul_nonneg (Nat.cast_nonneg _) (zpow_nonneg (by norm_num) _)
  have hsumhigh : |lower.value + upper.value| < 10 ^ (Context.emax + 1) := by
    rw [abs_of_nonneg hnonneg]
    exact hsum
  obtain ⟨sum, hadd, hsumvalue⟩ := Context.add_exact hsumround hsumhigh
  rw [← hsumvalue] at hhalfround hnonneg hsum
  have hhalfhigh : |sum.value / 2| < 10 ^ (Context.emax + 1) := by
    rw [abs_of_nonneg (div_nonneg hnonneg two_pos.le)]
    exact (div_le_self hnonneg one_le_two).trans_lt hsum
  obtain ⟨result, hdivide, hresult⟩ :=
    Context.halve_exact (Context.finish_digits hadd) hhalfround hhalfhigh
  refine ⟨result, ?_, by rw [hresult, hsumvalue]⟩
  unfold average
  rw [hwith]
  show (raising (context.add lower upper) >>= _) = _
  rw [hadd]
  show raising (context.divide sum Context.two) = _
  rw [hdivide]
  rfl

/-! ## The median -/

/-- The order of the products is that of their values. -/
theorem sortedDollars_kth (ds : List Decimal) (k : Nat) :
    (sortedDollars ds)[k]?.map value = kth (ds.map value) k := by
  unfold sortedDollars
  apply kth_insertionSort
  intro a _ b _
  exact atMost_iff

theorem length_sortedDollars (ds : List Decimal) : (sortedDollars ds).length = ds.length :=
  List.length_insertionSort _ _

theorem item_eq_ok {ds : List Decimal} {k : Nat} {d : Decimal} (h : ds[k]? = some d) :
    item ds k = .ok d := by
  rw [item, h]
  rfl

/-- The middle of products that are within the limits is their median. -/
theorem middleDollars_exact {bars : List DollarBar} (hbars : bars ≠ []) (hlimits : WithinLimits bars) :
    ∃ result, middleDollars (sortedDollars (bars.map dollars)) = .ok result ∧
      median (bars.map dollarVolume) = some result.value := by
  have hpos : 0 < bars.length := List.length_pos_of_ne_nil hbars
  have hlength : (sortedDollars (bars.map dollars)).length = bars.length := by
    rw [length_sortedDollars, List.length_map]
  have hvalues : (bars.map dollars).map value = bars.map dollarVolume := by
    rw [List.map_map]
    exact List.map_congr_left fun bar _ => dollars_value bar
  -- What stands at an index is an exact product, and the order statistic there.
  have hat : ∀ k, k < bars.length → ∃ bar ∈ bars,
      (sortedDollars (bars.map dollars))[k]? = some (dollars bar) ∧
        kth (bars.map dollarVolume) k = some (dollars bar).value := by
    intro k hk
    rw [← hlength] at hk
    have hmem := (List.mem_insertionSort _).mp (List.getElem_mem hk)
    obtain ⟨bar, hbar, hsame⟩ := List.mem_map.mp hmem
    have hget := List.getElem?_eq_getElem hk
    rw [← hsame] at hget
    refine ⟨bar, hbar, hget, ?_⟩
    rw [← hvalues, ← sortedDollars_kth, hget]
    rfl
  rw [median, List.length_map]
  unfold middleDollars
  rw [hlength]
  by_cases hodd : bars.length % 2 = 1
  · obtain ⟨bar, -, hget, hkth⟩ := hat (bars.length / 2) (by omega)
    rw [if_pos hodd, if_pos hodd, item_eq_ok hget, hkth]
    exact ⟨_, rfl, rfl⟩
  · obtain ⟨lower, -, hlower, hkthlower⟩ := hat (bars.length / 2 - 1) (by omega)
    obtain ⟨upper, hmem, hupper, hkthupper⟩ := hat (bars.length / 2) (by omega)
    have hpair : IsMiddlePair (sortedDollars (bars.map dollars)) (dollars lower) (dollars upper) := by
      refine ⟨?_, ?_, ?_⟩
      · omega
      · rw [hlength]
        exact hlower
      · rw [hlength]
        exact hupper
    obtain ⟨hprec, hsum⟩ := hlimits.sums _ _ hpair
    obtain ⟨result, hresult, hvalue⟩ :=
      average_exact rfl rfl (hlimits.products upper hmem) hprec hsum
    rw [if_neg hodd, if_neg hodd, item_eq_ok hlower, item_eq_ok hupper, hkthlower, hkthupper]
    exact ⟨result, hresult, congrArg some hvalue.symm⟩

/-- Within the limits the result is the median of the products. -/
theorem medianDollarVolume_median {closes : List PositiveDecimal} {volumes : List Nat}
    (hlength : closes.length = volumes.length) (hcloses : closes ≠ [])
    (hwritten : ∀ volume ∈ volumes, (Nat.toDigits 10 volume).length ≤ maxStrDigits)
    (hlimits : WithinLimits (closes.zip volumes)) :
    ∃ result, medianDollarVolume closes volumes = .ok result ∧
      median ((closes.zip volumes).map dollarVolume) = some result.value := by
  obtain ⟨bars, hbars⟩ : ∃ bars, bars = closes.zip volumes := ⟨_, rfl⟩
  have hne : bars ≠ [] := by
    have hpos := List.length_pos_of_ne_nil hcloses
    apply List.ne_nil_of_length_pos
    rw [hbars, List.length_zip]
    omega
  rw [← hbars] at hlimits ⊢
  have hwidths : bars.mapM writtenWidth = .ok (bars.map productWidth) := by
    apply mapM_pure
    intro bar hbar
    rw [hbars] at hbar
    rw [writtenWidth, if_pos (hwritten bar.2 (List.of_mem_zip hbar).2)]
    rfl
  obtain ⟨width, hwidth⟩ : ∃ width, (bars.map productWidth).max? = some width := by
    exact Option.isSome_iff_exists.mp (List.isSome_max?_of_ne_nil (mt List.map_eq_nil_iff.mp hne))
  obtain ⟨hmem, hgreatest⟩ := List.max?_eq_some_iff.mp hwidth
  obtain ⟨widest, hwidest, hsame⟩ := List.mem_map.mp hmem
  have hwidthle : width ≤ maxPrec := hsame ▸ hlimits.widths widest hwidest
  have hwidthpos : 0 < min maxPrec width := by
    rw [← hsame] at hwidthle ⊢
    unfold productWidth maxPrec
    omega
  have hproducts : bars.mapM (fun bar => raising
      ((⟨min maxPrec width, hwidthpos⟩ : Context).multiply bar.1.value (ofInt bar.2))) =
      .ok (bars.map dollars) := by
    apply mapM_pure
    intro bar hbar
    have hle := hgreatest _ (List.mem_map_of_mem hbar)
    rw [multiply_dollars (hlimits.products bar hbar) (by
      show _ ≤ min maxPrec width
      omega)]
    rfl
  obtain ⟨result, hresult, hmedian⟩ := middleDollars_exact hne hlimits
  refine ⟨result, ?_, hmedian⟩
  unfold medianDollarVolume
  rw [← hbars, hwidths]
  show (if closes.length ≠ volumes.length then _ else _) = _
  rw [if_neg (not_not.mpr hlength), hwidth]
  show (withPrec width >>= _) = _
  rw [withPrec, dif_pos hwidthpos]
  show ((bars.mapM _ : Except MedianError (List Decimal)) >>= _) = _
  rw [hproducts]
  exact hresult

/-- **The eligibility median is exact**: within the limits the result is the median of the
products of the closes and the volumes. -/
theorem medianDollarVolume_exact {closes : List PositiveDecimal} {volumes : List Nat}
    (hlength : closes.length = volumes.length) (hcloses : closes ≠ [])
    (hwritten : ∀ volume ∈ volumes, (Nat.toDigits 10 volume).length ≤ maxStrDigits)
    (hlimits : WithinLimits (closes.zip volumes)) :
    ∃ result, medianDollarVolume closes volumes = .ok result ∧
      median ((closes.zip volumes).map dollarVolume) = some result.value :=
  medianDollarVolume_median hlength hcloses hwritten hlimits

/-- Closes of `1.25` and `2` with volumes of three and none. -/
theorem medianDollarVolume_exact_two :
    ∃ result, medianDollarVolume [⟨⟨false, 125, -2⟩, by decide⟩, ⟨⟨false, 2, 0⟩, by decide⟩] [3, 0] =
      .ok result := by
  have hlimits : WithinLimits [(⟨⟨false, 125, -2⟩, by decide⟩, 3), (⟨⟨false, 2, 0⟩, by decide⟩, 0)] := by
    refine ⟨?_, ?_, ?_⟩
    · decide
    · unfold IsNormal
      decide
    · intro lower upper h
      obtain ⟨-, hlower, hupper⟩ := h
      have hlower : some (⟨false, 0, 0⟩ : Decimal) = some lower := hlower
      have hupper : some (⟨false, 375, -2⟩ : Decimal) = some upper := hupper
      rw [← Option.some.inj hlower, ← Option.some.inj hupper]
      refine ⟨by decide, ?_⟩
      have hsmall : (⟨false, 0, 0⟩ : Decimal).value + (⟨false, 375, -2⟩ : Decimal).value <
          10 ^ (1 : ℤ) := by
        norm_num [value, signed]
      exact hsmall.trans_le (zpow_le_zpow_right₀ (by norm_num) (by decide))
  obtain ⟨result, hresult, -⟩ := @medianDollarVolume_exact
    [⟨⟨false, 125, -2⟩, by decide⟩, ⟨⟨false, 2, 0⟩, by decide⟩] [3, 0] rfl (by decide) (by decide)
    hlimits
  exact ⟨result, hresult⟩

/-- A volume of more digits than the interpreter writes. -/
theorem withinLimits_of_digits {volume : ℕ}
    (h : (Nat.toDigits 10 volume).length = maxStrDigits + 1) :
    WithinLimits [(⟨one, by decide⟩, volume)] := by
  have hproduct : dollars (⟨one, by decide⟩, volume) = ⟨false, volume, 0⟩ := by
    unfold dollars
    rw [Decimal.mk.injEq]
    exact ⟨rfl, Nat.one_mul volume, rfl⟩
  refine ⟨?_, ?_, ?_⟩
  · intro bar hbar
    rw [List.mem_singleton.mp hbar, productWidth, h]
    show one.digits.length + (maxStrDigits + 1) + 1 ≤ maxPrec
    decide
  · intro bar hbar
    have hadjusted : adjusted (dollars bar) = maxStrDigits := by
      rw [List.mem_singleton.mp hbar, hproduct]
      show (0 : ℤ) + ((Nat.toDigits 10 volume).length : ℤ) - 1 = _
      omega
    rw [IsNormal, hadjusted]
    decide
  · intro lower upper hpair
    have hodd : 1 % 2 = 0 := hpair.1
    omega

/-- The digits of a volume are counted in its text, which the interpreter writes for no more than
`maxStrDigits` of them. -/
theorem medianDollarVolume_long_volume :
    WithinLimits [(⟨one, by decide⟩, 10 ^ maxStrDigits)] ∧
      medianDollarVolume [⟨one, by decide⟩] [10 ^ maxStrDigits] = .error .tooManyDigits := by
  have hlength : (Nat.toDigits 10 (10 ^ maxStrDigits)).length = maxStrDigits + 1 :=
    length_digits le_rfl (Nat.pow_lt_pow_right (by decide) (Nat.lt_succ_self _))
  generalize 10 ^ maxStrDigits = volume at hlength ⊢
  refine ⟨withinLimits_of_digits hlength, ?_⟩
  have hwidth : writtenWidth (⟨one, by decide⟩, volume) = .error .tooManyDigits := by
    rw [writtenWidth, hlength, if_neg (by omega)]
    rfl
  show (([_].mapM writtenWidth : Except MedianError (List Nat)) >>= _) = _
  rw [List.mapM_cons, hwidth]
  rfl

end FinanceResearch.Eligibility
