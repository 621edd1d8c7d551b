import Mathlib.Data.Int.Log
import Mathlib.Data.Nat.Cast.Field
import Mathlib.Data.Rat.Floor
import Mathlib.Tactic.LinearCombination
import FinanceResearch.Lib.DecimalContext

/-!
# Correct rounding

Whatever operation of a `decimal.Context` returns, it is the exact result rounded once:
to the precision of the context, ties to even (`Context.rounded`). Division computes only
some digits of its result; the digit it appends to an inexact quotient (`sticky`) is what
keeps the rounding correct.
-/

namespace Decimal

/-- The nearest whole number, ties to even. -/
def nearestEven (x : ℚ) : ℤ :=
  if 1 / 2 < x - ⌊x⌋ ∨ (x - ⌊x⌋ = 1 / 2 ∧ ⌊x⌋ % 2 = 1) then ⌊x⌋ + 1 else ⌊x⌋

/-- A whole part and a rest below one. -/
theorem floor_of_rest {x rest : ℚ} {n : ℤ} (h : x = n + rest) (hrest : 0 ≤ rest) (hone : rest < 1) :
    ⌊x⌋ = n := by
  rw [Int.floor_eq_iff]
  constructor <;> linarith

theorem nearestEven_of_rest {x rest : ℚ} {n : ℤ} (h : x = n + rest) (hrest : 0 ≤ rest)
    (hone : rest < 1) :
    nearestEven x = if 1 / 2 < rest ∨ (rest = 1 / 2 ∧ n % 2 = 1) then n + 1 else n := by
  have hsub : x - n = rest := by linarith
  rw [nearestEven, floor_of_rest h hrest hone, hsub]

theorem nearestEven_intCast (n : ℤ) : nearestEven n = n := by
  have hwhole : (n : ℚ) = n + 0 := (add_zero _).symm
  rw [nearestEven_of_rest hwhole le_rfl one_pos, if_neg]
  intro h
  rcases h with h | h
  · norm_num at h
  · norm_num at h

/-! ## Rounding in a context -/

namespace Context

/-- The place of the last digit that is kept of `x`. -/
def lastPlace (ctx : Context) (x : ℚ) : ℤ := max (Int.log 10 |x| + 1 - ctx.prec) ctx.etiny

/-- The nearest multiple of `10 ^ place`, ties to even. -/
def toPlace (place : ℤ) (x : ℚ) : ℚ := nearestEven (x / 10 ^ place) * 10 ^ place

/-- `x` in the precision of the context. -/
def rounded (ctx : Context) (x : ℚ) : ℚ :=
  if x < 0 then -toPlace (ctx.lastPlace x) |x| else toPlace (ctx.lastPlace x) |x|

@[simp] theorem rounded_zero (ctx : Context) : ctx.rounded 0 = 0 := by
  have hzero : nearestEven 0 = 0 := nearestEven_intCast 0
  simp [rounded, toPlace, hzero]

/-- The rounding of a remainder of integers is the one of the quotient. -/
theorem roundHalfEven_eq (n shift : ℕ) :
    (roundHalfEven n shift : ℤ) = nearestEven (n / 10 ^ shift) := by
  have hpos : (0 : ℚ) < 10 ^ shift := by positivity
  have hsplit : (n : ℚ) = 10 ^ shift * (n / 10 ^ shift : ℕ) + (n % 10 ^ shift : ℕ) := by
    have hnat := Nat.div_add_mod n (10 ^ shift)
    exact_mod_cast hnat.symm
  have hlt : ((n % 10 ^ shift : ℕ) : ℚ) < 10 ^ shift := by
    have hnat := Nat.mod_lt n (Nat.pow_pos (n := shift) (Nat.succ_pos 9))
    exact_mod_cast hnat
  have hrest : (n : ℚ) / 10 ^ shift =
      ((n / 10 ^ shift : ℕ) : ℤ) + ((n % 10 ^ shift : ℕ) : ℚ) / 10 ^ shift := by
    rw [div_eq_iff hpos.ne', add_mul, div_mul_cancel₀ _ hpos.ne', Int.cast_natCast]
    linarith
  rw [nearestEven_of_rest hrest (by positivity) ((div_lt_one hpos).mpr hlt), roundHalfEven]
  have hover : 1 / 2 < ((n % 10 ^ shift : ℕ) : ℚ) / 10 ^ shift ↔
      10 ^ shift < 2 * (n % 10 ^ shift) := by
    rw [div_lt_div_iff₀ two_pos hpos, one_mul, mul_comm]
    exact_mod_cast Iff.rfl
  have htie : ((n % 10 ^ shift : ℕ) : ℚ) / 10 ^ shift = 1 / 2 ↔
      2 * (n % 10 ^ shift) = 10 ^ shift := by
    rw [div_eq_div_iff hpos.ne' two_ne_zero, one_mul, mul_comm]
    exact_mod_cast Iff.rfl
  have hodd : ((n / 10 ^ shift : ℕ) : ℤ) % 2 = 1 ↔ n / 10 ^ shift % 2 = 1 := by omega
  simp only [hover, htie, hodd]
  split
  · rw [Int.natCast_add, Int.natCast_one]
  · rfl

/-- The digit appended to an inexact quotient: never a zero or a five, so that neither an
exact result nor a tie is read from it. -/
def sticky (quotient : ℕ) : ℕ := if quotient % 5 = 0 then quotient + 1 else quotient

/-- Rounding the digits of an inexact quotient rounds the quotient. -/
theorem roundHalfEven_sticky {quotient shift : ℕ} {x : ℚ} (hlow : (quotient : ℚ) < x)
    (hhigh : x < quotient + 1) (hshift : 0 < shift) :
    (roundHalfEven (sticky quotient) shift : ℤ) = nearestEven (x / 10 ^ shift) := by
  obtain ⟨s, rfl⟩ : ∃ s, shift = s + 1 := ⟨shift - 1, by omega⟩
  -- The unit of the last place kept is ten times the unit `t`, and half of it is `5 * t`.
  obtain ⟨t, ht⟩ : ∃ t, t = 10 ^ s := ⟨_, rfl⟩
  have hunit : 10 ^ (s + 1) = 10 * t := by rw [ht, pow_succ, mul_comm]
  have htpos : 0 < t := by rw [ht]; positivity
  obtain ⟨a, b, hb, hq⟩ : ∃ a b, b < 10 * t ∧ quotient = 10 * t * a + b :=
    ⟨quotient / (10 * t), quotient % (10 * t), Nat.mod_lt _ (by omega),
      (Nat.div_add_mod quotient (10 * t)).symm⟩
  have hfive : quotient % 5 = b % 5 := by
    rw [hq, show 10 * t * a = 5 * (2 * t * a) by ring, Nat.mul_add_mod]
  obtain ⟨b', hb', hb'lt, hsticky⟩ : ∃ b', (5 * t ≤ b ↔ 5 * t < b') ∧ b' < 10 * t ∧
      sticky quotient = 10 * t * a + b' ∧ b' ≠ 5 * t := by
    unfold sticky
    rw [hfive]
    by_cases h : b % 5 = 0
    · refine ⟨b + 1, by omega, by omega, ?_, by omega⟩
      rw [if_pos h, hq, Nat.add_assoc]
    · refine ⟨b, by omega, hb, ?_, by omega⟩
      rw [if_neg h, hq]
  have hround : roundHalfEven (sticky quotient) (s + 1) = if 5 * t ≤ b then a + 1 else a := by
    have hdiv : sticky quotient / (10 * t) = a := by
      rw [hsticky.1, Nat.mul_add_div (by omega), Nat.div_eq_of_lt hb'lt, Nat.add_zero]
    have hmod : sticky quotient % (10 * t) = b' := by
      rw [hsticky.1, Nat.mul_add_mod, Nat.mod_eq_of_lt hb'lt]
    rw [roundHalfEven, hunit, hdiv, hmod]
    have hcond : (10 * t < 2 * b' ∨ 2 * b' = 10 * t ∧ a % 2 = 1) ↔ 5 * t ≤ b := by
      have hne := hsticky.2
      omega
    simp only [hcond]
  have hrest : x / 10 ^ (s + 1) = (a : ℤ) + (x - 10 * t * a) / (10 * t) := by
    have htq : (0 : ℚ) < 10 * t := by positivity
    have hcast : (10 : ℚ) ^ (s + 1) = 10 * t := by exact_mod_cast hunit
    rw [hcast, Int.cast_natCast]
    field_simp
    ring
  have htq : (0 : ℚ) < 10 * t := by positivity
  have hqq : (quotient : ℚ) = 10 * t * a + b := by exact_mod_cast hq
  have hbq : (b : ℚ) + 1 ≤ 10 * t := by exact_mod_cast hb
  have hnonneg : 0 ≤ (x - 10 * t * a) / (10 * t) := by
    refine div_nonneg ?_ htq.le
    have hb0 : (0 : ℚ) ≤ b := Nat.cast_nonneg b
    linarith
  have hone : (x - 10 * t * a) / (10 * t) < 1 := by
    rw [div_lt_one htq]
    linarith
  have hover : (1 / 2 < (x - 10 * t * a) / (10 * t) ∨
      (x - 10 * t * a) / (10 * t) = 1 / 2 ∧ (a : ℤ) % 2 = 1) ↔ 5 * t ≤ b := by
    rw [div_lt_div_iff₀ two_pos htq, div_eq_div_iff htq.ne' two_ne_zero]
    by_cases h : 5 * t ≤ b
    · have hq5 : (5 : ℚ) * t ≤ b := by exact_mod_cast h
      exact iff_of_true (Or.inl (by linarith)) h
    · have hq5 : (b : ℚ) + 1 ≤ 5 * t := by exact_mod_cast not_le.mp h
      refine iff_of_false ?_ h
      intro hcase
      rcases hcase with hcase | hcase
      · linarith
      · linarith [hcase.1]
  rw [hround, nearestEven_of_rest hrest hnonneg hone]
  simp only [hover]
  split
  · rw [Int.natCast_add, Int.natCast_one]
  · rfl

end Context

/-! ## Numbers and their digits -/

/-- The number without its sign. -/
def magnitude (d : Decimal) : ℚ := d.coefficient * 10 ^ d.exponent

theorem magnitude_nonneg (d : Decimal) : 0 ≤ d.magnitude := by
  unfold magnitude
  positivity

theorem magnitude_pos {d : Decimal} (hd : d.coefficient ≠ 0) : 0 < d.magnitude := by
  have hpos : (0 : ℚ) < d.coefficient := by exact_mod_cast Nat.pos_of_ne_zero hd
  unfold magnitude
  positivity

theorem value_of_zero {d : Decimal} (hd : d.coefficient = 0) : d.value = 0 := by
  rw [value, signed, hd]
  simp

theorem value_eq (d : Decimal) : d.value = if d.negative then -d.magnitude else d.magnitude := by
  rw [value, signed, magnitude]
  cases d.negative with
  | true => simp
  | false => simp

theorem abs_value (d : Decimal) : |d.value| = d.magnitude := by
  rw [value_eq]
  split
  · rw [abs_neg, abs_of_nonneg d.magnitude_nonneg]
  · rw [abs_of_nonneg d.magnitude_nonneg]

theorem length_digits {n k : ℕ} (hlow : 10 ^ k ≤ n) (hhigh : n < 10 ^ (k + 1)) :
    (Nat.toDigits 10 n).length = k + 1 := by
  have hle := (Nat.length_toDigits_le_iff (b := 10) (n := n) (by decide) (Nat.succ_pos k)).mpr hhigh
  refine le_antisymm hle (Nat.succ_le_of_lt ?_)
  by_contra hshort
  cases k with
  | zero => exact absurd (Nat.length_toDigits_pos (b := 10) (n := n)) hshort
  | succ k =>
    have hlt := (Nat.length_toDigits_le_iff (b := 10) (n := n) (by decide) (Nat.succ_pos k)).mp
      (not_lt.mp hshort)
    omega

/-- A number between two powers of ten has the logarithm of the first. -/
theorem log_eq {x : ℚ} {k : ℤ} (hlow : 10 ^ k ≤ x) (hhigh : x < 10 ^ (k + 1)) : Int.log 10 x = k := by
  have hx : 0 < x := lt_of_lt_of_le (by positivity) hlow
  have hle : k ≤ Int.log 10 x :=
    (Int.zpow_le_iff_le_log (b := 10) (by norm_num) hx).mp (by exact_mod_cast hlow)
  have hlt : Int.log 10 x < k + 1 :=
    (Int.lt_zpow_iff_log_lt (b := 10) (by norm_num) hx).mp (by exact_mod_cast hhigh)
  omega

/-- The digits of a coefficient that is not zero. -/
theorem exists_digits {n : ℕ} (h : n ≠ 0) :
    ∃ k, 10 ^ k ≤ n ∧ n < 10 ^ (k + 1) ∧ (Nat.toDigits 10 n).length = k + 1 := by
  have hlow := Nat.pow_log_le_self 10 h
  have hhigh := Nat.lt_pow_succ_log_self (b := 10) (by decide) n
  exact ⟨Nat.log 10 n, hlow, hhigh, length_digits hlow hhigh⟩

/-- The logarithm of what lies from `n` up to `n + 1` units of `10 ^ exponent`. -/
theorem log_of_digits {n : ℕ} (h : n ≠ 0) {x : ℚ} {exponent : ℤ} (hlow : n * 10 ^ exponent ≤ x)
    (hhigh : x < (n + 1) * 10 ^ exponent) :
    Int.log 10 x = (Nat.toDigits 10 n).length + exponent - 1 := by
  obtain ⟨k, hk, hk1, hdigits⟩ := exists_digits h
  have hpos : (0 : ℚ) < 10 ^ exponent := by positivity
  have hten : (10 : ℚ) ≠ 0 := by norm_num
  have heq : Int.log 10 x = k + exponent := by
    apply log_eq
    · calc (10 : ℚ) ^ (k + exponent) = (10 ^ k : ℕ) * 10 ^ exponent := by
            rw [zpow_add₀ hten, zpow_natCast, Nat.cast_pow]
            rfl
        _ ≤ n * 10 ^ exponent := by
            have hcast : ((10 ^ k : ℕ) : ℚ) ≤ n := by exact_mod_cast hk
            exact mul_le_mul_of_nonneg_right hcast hpos.le
        _ ≤ x := hlow
    · calc x < (n + 1) * 10 ^ exponent := hhigh
        _ ≤ (10 ^ (k + 1) : ℕ) * 10 ^ exponent := by
            have hcast : ((n : ℚ) + 1) ≤ (10 ^ (k + 1) : ℕ) := by exact_mod_cast hk1
            exact mul_le_mul_of_nonneg_right hcast hpos.le
        _ = 10 ^ (k + exponent + 1) := by
            rw [show (k : ℤ) + exponent + 1 = (k + 1 : ℕ) + exponent by push_cast; ring,
              zpow_add₀ hten, zpow_natCast, Nat.cast_pow]
            rfl
  rw [heq, hdigits]
  push_cast
  ring

namespace Context

variable {ctx : Context}

/-! ## Finishing a result -/

/-- The place at which a coefficient is cut. -/
def cut (ctx : Context) (d : Decimal) : ℤ := max (d.digits.length + d.exponent - ctx.prec) ctx.etiny

theorem roundHalfEven_le (n shift : ℕ) : roundHalfEven n shift ≤ n / 10 ^ shift + 1 := by
  unfold roundHalfEven
  dsimp only
  split <;> omega

/-- A cut coefficient has at most the digits of the precision, or is the next power of ten. -/
theorem roundHalfEven_cut {d : Decimal} (hd : d.coefficient ≠ 0) (hcut : d.exponent < ctx.cut d) :
    roundHalfEven d.coefficient (ctx.cut d - d.exponent).toNat ≤ 10 ^ ctx.prec := by
  obtain ⟨k, -, hhigh, hdigits⟩ := exists_digits hd
  have hplace : (d.digits.length : ℤ) + d.exponent - ctx.prec ≤ ctx.cut d := le_max_left _ _
  have hlength : d.digits.length = k + 1 := hdigits
  have hshift : k + 1 ≤ ctx.prec + (ctx.cut d - d.exponent).toNat := by omega
  have hlt : d.coefficient / 10 ^ (ctx.cut d - d.exponent).toNat < 10 ^ ctx.prec := by
    rw [Nat.div_lt_iff_lt_mul (by positivity), ← pow_add]
    exact lt_of_lt_of_le hhigh (Nat.pow_le_pow_right (by decide) hshift)
  have hle := roundHalfEven_le d.coefficient (ctx.cut d - d.exponent).toNat
  omega

/-- What a result is brought to. -/
theorem finish_spec {d result : Decimal} (h : ctx.finish d = .ok result) (hd : d.coefficient ≠ 0) :
    result.negative = d.negative ∧
      (ctx.cut d ≤ d.exponent → result = d) ∧
      (d.exponent < ctx.cut d → result.magnitude =
        roundHalfEven d.coefficient (ctx.cut d - d.exponent).toNat * 10 ^ ctx.cut d) := by
  unfold finish at h
  rw [if_neg hd] at h
  dsimp only at h
  split at h
  · cases h
  split at h
  · next hplace =>
    have hplace : ctx.cut d ≤ d.exponent := hplace
    cases h
    exact ⟨rfl, fun _ => rfl, fun hcut => absurd hplace (not_le.mpr hcut)⟩
  next hplace =>
  have hplace : d.exponent < ctx.cut d := not_le.mp hplace
  split at h
  · next hcarry =>
    -- The carry leaves the power of ten above the coefficients of the precision.
    have hpower := le_antisymm (roundHalfEven_cut hd hplace) hcarry
    split at h
    · cases h
    · cases h
      refine ⟨rfl, fun hle => absurd hle (not_le.mpr hplace), fun _ => ?_⟩
      obtain ⟨p, hp⟩ := Nat.exists_eq_add_of_lt ctx.positive
      have htenth : 10 ^ ctx.prec / 10 = 10 ^ p := by
        rw [hp, Nat.zero_add, pow_succ, Nat.mul_div_cancel _ (by decide)]
      show ((roundHalfEven d.coefficient (ctx.cut d - d.exponent).toNat / 10 : ℕ) : ℚ) *
        10 ^ (ctx.cut d + 1) = _
      rw [hpower, htenth, hp, Nat.zero_add, zpow_add_one₀ (by norm_num)]
      push_cast
      ring
  · cases h
    exact ⟨rfl, fun hle => absurd hle (not_le.mpr hplace), fun _ => rfl⟩

theorem cut_eq {d : Decimal} (hd : d.coefficient ≠ 0) : ctx.cut d = ctx.lastPlace d.value := by
  have hlog : Int.log 10 d.magnitude = d.digits.length + d.exponent - 1 := by
    refine log_of_digits hd le_rfl ?_
    exact mul_lt_mul_of_pos_right (lt_add_one _) (by positivity)
  rw [cut, lastPlace, abs_value, hlog]
  congr 1
  omega

/-- A number on a place is not changed by rounding to it. -/
theorem toPlace_of_le {d : Decimal} {place : ℤ} (h : place ≤ d.exponent) :
    toPlace place d.magnitude = d.magnitude := by
  obtain ⟨shift, hshift⟩ := Int.le.dest h
  have hten : (10 : ℚ) ≠ 0 := by norm_num
  have hwhole : d.magnitude / 10 ^ place = ((d.coefficient * 10 ^ shift : ℕ) : ℤ) := by
    rw [magnitude, ← hshift, zpow_add₀ hten, zpow_natCast, div_eq_iff (by positivity)]
    push_cast
    ring
  rw [toPlace, hwhole, nearestEven_intCast, ← hwhole, div_mul_cancel₀ _ (by positivity)]

/-- A coefficient cut at a place is the number rounded to it. -/
theorem toPlace_of_lt {d : Decimal} {place : ℤ} (h : d.exponent < place) :
    toPlace place d.magnitude =
      roundHalfEven d.coefficient (place - d.exponent).toNat * 10 ^ place := by
  have hten : (10 : ℚ) ≠ 0 := by norm_num
  have hshift : ((place - d.exponent).toNat : ℤ) = place - d.exponent := by omega
  have hdiv : d.magnitude / 10 ^ place = d.coefficient / 10 ^ (place - d.exponent).toNat := by
    rw [magnitude, ← zpow_natCast, hshift, zpow_sub₀ hten, div_div_eq_mul_div]
  rw [toPlace, hdiv, ← roundHalfEven_eq, Int.cast_natCast]

/-- The sign of a result and its size make its value. -/
theorem value_of_parts {d result : Decimal} {size : ℚ} (hd : d.coefficient ≠ 0)
    (hsign : result.negative = d.negative) (hsize : result.magnitude = size) :
    result.value = if d.value < 0 then -size else size := by
  have hpos := magnitude_pos hd
  rw [value_eq, value_eq d, hsign, hsize]
  cases d.negative with
  | true => simp [hpos]
  | false => simp [not_lt.mpr hpos.le]

/-- **Finishing rounds**: what is returned for an exact result is that result rounded. -/
theorem finish_value {d result : Decimal} (h : ctx.finish d = .ok result) :
    result.value = ctx.rounded d.value := by
  by_cases hd : d.coefficient = 0
  · have hzero : result.coefficient = 0 := by
      unfold finish at h
      rw [if_pos hd] at h
      cases h
      exact hd
    rw [value_of_zero hzero, value_of_zero hd, rounded_zero]
  obtain ⟨hsign, hexact, hcut⟩ := finish_spec h hd
  rw [rounded, abs_value, ← cut_eq hd]
  apply value_of_parts hd hsign
  by_cases hplace : ctx.cut d ≤ d.exponent
  · rw [hexact hplace, toPlace_of_le hplace]
  · rw [hcut (not_le.mp hplace), toPlace_of_lt (not_le.mp hplace)]

/-! ## The operations -/

/-- The exact product. -/
theorem value_product (left right : Decimal) :
    (⟨left.negative != right.negative, left.coefficient * right.coefficient,
      left.exponent + right.exponent⟩ : Decimal).value = left.value * right.value := by
  rw [value_eq, value_eq left, value_eq right]
  simp only [magnitude, Nat.cast_mul, zpow_add₀ (show (10 : ℚ) ≠ 0 by norm_num)]
  cases left.negative with
  | true => cases right.negative <;> simp <;> ring
  | false => cases right.negative <;> simp <;> ring

theorem multiply_value {left right result : Decimal} (h : ctx.multiply left right = .ok result) :
    result.value = ctx.rounded (left.value * right.value) := by
  rw [finish_value h, value_product]

/-- The sum over the lower exponent, whatever sign a zero gets. -/
theorem value_sum (left right : Decimal) {negative : Bool}
    (hsign : left.scaled (min left.exponent right.exponent) +
        right.scaled (min left.exponent right.exponent) ≠ 0 →
      negative = decide (left.scaled (min left.exponent right.exponent) +
        right.scaled (min left.exponent right.exponent) < 0)) :
    (⟨negative, (left.scaled (min left.exponent right.exponent) +
      right.scaled (min left.exponent right.exponent)).natAbs,
      min left.exponent right.exponent⟩ : Decimal).value = left.value + right.value := by
  have hleft := scaled_value left (Int.min_le_left left.exponent right.exponent)
  have hright := scaled_value right (Int.min_le_right left.exponent right.exponent)
  rw [← hleft, ← hright, ← add_mul, ← Int.cast_add]
  generalize left.scaled _ + right.scaled _ = sum at hsign ⊢
  rw [value, signed]
  congr 1
  by_cases hzero : sum = 0
  · simp [hzero]
  · rw [hsign hzero]
    by_cases hneg : sum < 0
    · simp [hneg, abs_of_neg hneg]
    · simp [hneg, abs_of_nonneg (not_lt.mp hneg)]

theorem add_value {left right result : Decimal} (h : ctx.add left right = .ok result) :
    result.value = ctx.rounded (left.value + right.value) := by
  rw [finish_value h, value_sum]
  intro hzero
  rw [if_neg hzero]

theorem subtract_value {left right result : Decimal} (h : ctx.subtract left right = .ok result) :
    result.value = ctx.rounded (left.value - right.value) := by
  rw [add_value h]
  congr 1
  rw [value_eq right, value_eq { right with negative := !right.negative }]
  cases hneg : right.negative with
  | true => simp [magnitude]
  | false => simp [magnitude, sub_eq_add_neg]

/-! ## Division -/

/-- Zeros that are dropped do not change the number. -/
theorem dropZeros_value : ∀ (rounds coefficient : ℕ) (exponent ideal : ℤ),
    ((dropZeros rounds coefficient exponent ideal).1 : ℚ) *
      10 ^ (dropZeros rounds coefficient exponent ideal).2 = coefficient * 10 ^ exponent
  | 0, _, _, _ => rfl
  | rounds + 1, coefficient, exponent, ideal => by
    unfold dropZeros
    split
    · next hzero =>
      have htenth : (coefficient : ℚ) = (coefficient / 10 : ℕ) * 10 := by
        exact_mod_cast (Nat.div_mul_cancel (Nat.dvd_of_mod_eq_zero hzero.2)).symm
      rw [dropZeros_value rounds, htenth, zpow_add_one₀ (by norm_num)]
      ring
    · rfl

theorem sticky_pos {quotient : ℕ} (h : quotient ≠ 0) : sticky quotient ≠ 0 := by
  unfold sticky
  split <;> omega

/-- The digit appended does not carry into a further one. -/
theorem length_sticky {quotient : ℕ} (h : quotient ≠ 0) :
    (Nat.toDigits 10 (sticky quotient)).length = (Nat.toDigits 10 quotient).length := by
  obtain ⟨k, hlow, hhigh, hdigits⟩ := exists_digits h
  rw [hdigits]
  have hfive : 10 ^ (k + 1) % 5 = 0 := by
    rw [pow_succ, show 10 ^ k * 10 = 5 * (10 ^ k * 2) by ring, Nat.mul_mod_right]
  apply length_digits
  · unfold sticky
    split <;> omega
  · unfold sticky
    split <;> omega

/-- The quotient of two decimals that are not zero, as the division sees it. -/
theorem quotient_eq (left right : Decimal) :
    left.value / right.value =
      if (left.negative != right.negative) = true then -(left.magnitude / right.magnitude)
      else left.magnitude / right.magnitude := by
  rw [value_eq, value_eq right]
  cases left.negative with
  | true => cases right.negative <;> simp [neg_div, div_neg]
  | false => cases right.negative <;> simp [div_neg]

/-- The digits of the dividend that are divided. -/
theorem shifted_quotient {left right : Decimal} (hright : right.coefficient ≠ 0) (shift : ℤ) :
    ((left.coefficient * 10 ^ shift.toNat : ℕ) : ℚ) / (right.coefficient * 10 ^ (-shift).toNat : ℕ) *
      10 ^ (left.exponent - right.exponent - shift) = left.magnitude / right.magnitude := by
  have hten : (10 : ℚ) ≠ 0 := by norm_num
  have hcoefficient : (right.coefficient : ℚ) ≠ 0 := by exact_mod_cast hright
  have hshift : (10 : ℚ) ^ shift.toNat = 10 ^ shift * 10 ^ (-shift).toNat := by
    rw [← zpow_natCast, ← zpow_natCast, ← zpow_add₀ hten]
    congr 1
    omega
  rw [magnitude, magnitude, Nat.cast_mul, Nat.cast_mul, Nat.cast_pow, Nat.cast_pow,
    zpow_sub₀ hten, zpow_sub₀ hten]
  push_cast
  rw [hshift]
  field_simp

/-- The quotient that is computed has more digits than the precision. -/
theorem precision_le_quotient {left right : Decimal} (hleft : left.coefficient ≠ 0)
    (hright : right.coefficient ≠ 0) {shift : ℤ}
    (hshift : shift = right.digits.length - left.digits.length + ctx.prec + 1) :
    10 ^ ctx.prec ≤ left.coefficient * 10 ^ shift.toNat / (right.coefficient * 10 ^ (-shift).toNat) := by
  obtain ⟨k, hk, -, hkdigits⟩ := exists_digits hleft
  obtain ⟨m, -, hm, hmdigits⟩ := exists_digits hright
  have hkdigits : left.digits.length = k + 1 := hkdigits
  have hmdigits : right.digits.length = m + 1 := hmdigits
  rw [Nat.le_div_iff_mul_le (by positivity)]
  calc 10 ^ ctx.prec * (right.coefficient * 10 ^ (-shift).toNat)
      ≤ 10 ^ ctx.prec * (10 ^ (m + 1) * 10 ^ (-shift).toNat) :=
        Nat.mul_le_mul_left _ (Nat.mul_le_mul_right _ hm.le)
    _ = 10 ^ (ctx.prec + (m + 1 + (-shift).toNat)) := by rw [← pow_add, ← pow_add]
    _ ≤ 10 ^ (k + shift.toNat) := Nat.pow_le_pow_right (by decide) (by omega)
    _ = 10 ^ k * 10 ^ shift.toNat := pow_add _ _ _
    _ ≤ left.coefficient * 10 ^ shift.toNat := Nat.mul_le_mul_right _ hk

/-- An inexact quotient lies strictly between two whole numbers. -/
theorem quotient_between {dividend divisor : ℕ} (hdivisor : 0 < divisor)
    (hrest : dividend % divisor ≠ 0) :
    ((dividend / divisor : ℕ) : ℚ) < (dividend : ℚ) / divisor ∧
      (dividend : ℚ) / divisor < (dividend / divisor : ℕ) + 1 := by
  have hpos : (0 : ℚ) < divisor := by exact_mod_cast hdivisor
  have hsplit := Nat.div_add_mod dividend divisor
  have hlt := Nat.mod_lt dividend hdivisor
  constructor
  · rw [lt_div_iff₀ hpos]
    have hnat : dividend / divisor * divisor < dividend := by
      rw [Nat.mul_comm]
      omega
    exact_mod_cast hnat
  · rw [div_lt_iff₀ hpos]
    have hnat : dividend < (dividend / divisor + 1) * divisor := by
      rw [Nat.add_mul, Nat.one_mul, Nat.mul_comm]
      omega
    exact_mod_cast hnat

/-- The sign takes no part in the rounding. -/
theorem rounded_signed (ctx : Context) {x : ℚ} (hx : 0 < x) (negative : Bool) :
    ctx.rounded (if negative = true then -x else x) =
      if negative = true then -toPlace (ctx.lastPlace x) x else toPlace (ctx.lastPlace x) x := by
  cases negative with
  | true => simp [rounded, lastPlace, hx, abs_of_pos hx]
  | false => simp [rounded, not_lt.mpr hx.le, abs_of_pos hx]

/-- Finishing the digits of an inexact quotient, with the one appended to them, rounds the
quotient `ratio` units of `10 ^ exponent`. -/
theorem finish_sticky {negative : Bool} {quotient : ℕ} {exponent : ℤ} {ratio : ℚ}
    {result : Decimal} (hprecision : 10 ^ ctx.prec ≤ quotient) (hlow : (quotient : ℚ) < ratio)
    (hhigh : ratio < quotient + 1)
    (h : ctx.finish ⟨negative, sticky quotient, exponent⟩ = .ok result) :
    result.value = ctx.rounded
      (if negative = true then -(ratio * 10 ^ exponent) else ratio * 10 ^ exponent) := by
  have hten : (10 : ℚ) ≠ 0 := by norm_num
  have hpos : (0 : ℚ) < 10 ^ exponent := by positivity
  have hne : quotient ≠ 0 := by
    have hone := Nat.one_le_pow ctx.prec 10 (by decide)
    omega
  have hratio : 0 < ratio := lt_of_le_of_lt (Nat.cast_nonneg _) hlow
  obtain ⟨hsign, _, hcut⟩ := finish_spec h (sticky_pos hne)
  obtain ⟨d, hd⟩ : ∃ d : Decimal, d = ⟨negative, sticky quotient, exponent⟩ := ⟨_, rfl⟩
  rw [← hd] at hsign hcut
  have hlength : d.digits.length = (Nat.toDigits 10 quotient).length := by
    rw [hd]
    exact length_sticky hne
  have hlong : ctx.prec < d.digits.length := by
    rw [hlength]
    by_contra hshort
    have hlt := (Nat.length_toDigits_le_iff (b := 10) (by decide) ctx.positive).mp (not_lt.mp hshort)
    omega
  have hexponent : d.exponent = exponent := by rw [hd]
  -- The place of the cut is that of the quotient, and one digit at least is cut.
  have hplace : ctx.cut d = ctx.lastPlace (ratio * 10 ^ exponent) := by
    have hlog := log_of_digits hne (mul_le_mul_of_nonneg_right hlow.le hpos.le)
      (mul_lt_mul_of_pos_right hhigh hpos)
    rw [cut, lastPlace, abs_of_pos (by positivity), hlog, hlength, hexponent]
    congr 1
    omega
  have hless : d.exponent < ctx.cut d := by
    have hle : (d.digits.length : ℤ) + d.exponent - ctx.prec ≤ ctx.cut d := le_max_left _ _
    omega
  have hdiv : ratio * 10 ^ exponent / 10 ^ ctx.cut d =
      ratio / 10 ^ (ctx.cut d - d.exponent).toNat := by
    have hshift : ((ctx.cut d - d.exponent).toNat : ℤ) = ctx.cut d - exponent := by omega
    rw [← zpow_natCast, hshift, zpow_sub₀ hten, div_div_eq_mul_div]
  have hcoefficient : d.coefficient = sticky quotient := by rw [hd]
  have hmagnitude : result.magnitude =
      toPlace (ctx.lastPlace (ratio * 10 ^ exponent)) (ratio * 10 ^ exponent) := by
    rw [hcut hless, ← hplace, toPlace, hdiv, hcoefficient,
      ← roundHalfEven_sticky hlow hhigh (by omega), Int.cast_natCast]
  rw [rounded_signed ctx (by positivity), value_eq, hsign, hmagnitude, hd]

/-- **Division rounds** the exact quotient. -/
theorem divide_value {left right result : Decimal} (h : ctx.divide left right = .ok result) :
    result.value = ctx.rounded (left.value / right.value) := by
  unfold divide at h
  dsimp only at h
  split at h
  · split at h <;> cases h
  next hright =>
  split at h
  · next hleft =>
    rw [finish_value h, value_of_zero hleft, zero_div, value_of_zero rfl]
  next hleft =>
  obtain ⟨shift, hshift⟩ : ∃ shift : ℤ,
      shift = right.digits.length - left.digits.length + ctx.prec + 1 := ⟨_, rfl⟩
  rw [← hshift] at h
  have hquotient := @shifted_quotient left right hright shift
  have hsize := precision_le_quotient hleft hright hshift
  generalize left.coefficient * 10 ^ shift.toNat = dividend at h hquotient hsize
  generalize right.coefficient * 10 ^ (-shift).toNat = divisor at h hquotient hsize
  rw [quotient_eq, ← hquotient]
  have hdivisor : 0 < divisor := by
    by_contra hzero
    rw [Nat.eq_zero_of_not_pos hzero, Nat.div_zero] at hsize
    exact absurd hsize (Nat.not_le.mpr (by positivity))
  split at h
  · next hrest =>
    obtain ⟨hlow, hhigh⟩ := quotient_between hdivisor hrest
    exact finish_sticky hsize hlow hhigh h
  · next hexact =>
    have hwhole : ((dividend / divisor : ℕ) : ℚ) = (dividend : ℚ) / divisor :=
      Nat.cast_div_charZero (Nat.dvd_of_mod_eq_zero (not_not.mp hexact))
    rw [finish_value h, value_eq]
    simp only [magnitude, dropZeros_value, hwhole]

end Context

/-! ## Whole parts and minima -/

theorem magnitude_eq_div {d : Decimal} (h : d.exponent < 0) :
    d.magnitude = (d.coefficient : ℚ) / (10 ^ (-d.exponent).toNat : ℕ) := by
  have hnat : ((-d.exponent).toNat : ℤ) = -d.exponent := by omega
  rw [magnitude, div_eq_mul_inv, Nat.cast_pow, ← zpow_natCast, hnat, zpow_neg, inv_inv]
  rfl

/-- Below a whole number and a rest lies the next whole number. -/
theorem floor_neg_div (n : ℕ) {unit : ℕ} (hunit : 0 < unit) :
    ⌊-((n : ℚ) / unit)⌋ = -((n / unit + (decide (n % unit ≠ 0)).toNat : ℕ) : ℤ) := by
  have hpos : (0 : ℚ) < unit := by exact_mod_cast hunit
  by_cases hrest : n % unit = 0
  · have hwhole : (n : ℚ) / unit = ((n / unit : ℕ) : ℤ) := by
      rw [Int.cast_natCast, Nat.cast_div_charZero (Nat.dvd_of_mod_eq_zero hrest)]
    rw [hwhole, ← Int.cast_neg, Int.floor_intCast]
    simp [hrest]
  · obtain ⟨hlow, hhigh⟩ := Context.quotient_between hunit hrest
    have hone : (decide (n % unit ≠ 0)).toNat = 1 := by simp [hrest]
    rw [hone, Int.floor_eq_iff, Int.cast_neg, Int.cast_natCast, Nat.cast_add, Nat.cast_one]
    constructor <;> linarith

theorem integralFloor_value (d : Decimal) : d.integralFloor.value = ⌊d.value⌋ := by
  by_cases h : 0 ≤ d.exponent
  · obtain ⟨shift, hshift⟩ := Int.eq_ofNat_of_zero_le h
    have hwhole : d.value = ((d.signed * 10 ^ shift : ℤ) : ℚ) := by
      rw [value, hshift, zpow_natCast]
      push_cast
      ring
    rw [integralFloor, if_pos h, hwhole, Int.floor_intCast]
  have hneg : d.exponent < 0 := not_le.mp h
  have hunit : 0 < 10 ^ (-d.exponent).toNat := Nat.pow_pos (by decide)
  rw [integralFloor, if_neg h, value_eq d, magnitude_eq_div hneg]
  cases hsign : d.negative with
  | true =>
    rw [if_pos rfl, floor_neg_div _ hunit]
    simp [value, signed]
  | false =>
    rw [if_neg Bool.false_ne_true, Rat.floor_natCast_div_natCast]
    simp [value, signed]

theorem least_value (left right : Decimal) :
    (left.least right).value = min left.value right.value := by
  unfold least
  split
  · next h => rw [min_eq_right (less_iff.mp h).le]
  · next h => rw [min_eq_left (not_lt.mp (mt less_iff.mpr h))]

end Decimal
