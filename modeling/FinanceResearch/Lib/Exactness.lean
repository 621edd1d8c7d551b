import FinanceResearch.Lib.Rounding

/-!
# When nothing is rounded

A number with no more digits than the precision, on a place the context has, is its own
rounding (`rounded_natCast`), and an operation whose exact result rounds to less than
`10 ^ (emax + 1)` returns (`finish_isOk`). Rounding keeps the order (`rounded_mono`).
-/

namespace Decimal

namespace Context

variable {ctx : Context}

theorem etop_eq (ctx : Context) : ctx.etop + ctx.prec = emax + 1 := by
  unfold etop
  omega

theorem etiny_le_etop (ctx : Context) : ctx.etiny ≤ ctx.etop := by
  unfold etiny etop emax
  omega

/-! ## Numbers of the context -/

/-- A number that fits the context is its own rounding. -/
theorem rounded_natCast {n : ℕ} {place : ℤ} (hdigits : n < 10 ^ ctx.prec) (hplace : ctx.etiny ≤ place) :
    ctx.rounded (n * 10 ^ place) = n * 10 ^ place := by
  by_cases hn : n = 0
  · rw [hn, Nat.cast_zero, zero_mul, rounded_zero]
  · obtain ⟨d, hd⟩ : ∃ d : Decimal, d = ⟨false, n, place⟩ := ⟨_, rfl⟩
    have hvalue : d.value = n * 10 ^ place := by
      rw [hd, value_eq]
      rfl
    have hmagnitude : d.magnitude = n * 10 ^ place := by rw [hd]; rfl
    have hcoefficient : d.coefficient ≠ 0 := by rw [hd]; exact hn
    have hcut : ctx.cut d ≤ d.exponent := by
      have hlength : d.digits.length ≤ ctx.prec := by
        rw [hd]
        exact (Nat.length_toDigits_le_iff (b := 10) (by decide) ctx.positive).mpr hdigits
      have hexponent : d.exponent = place := by rw [hd]
      exact max_le (by omega) (by omega)
    have hpos : ¬ d.value < 0 := by
      rw [hvalue]
      exact not_lt.mpr (by positivity)
    rw [← hvalue, rounded, if_neg hpos, ← cut_eq hcoefficient, abs_value, toPlace_of_le hcut,
      hmagnitude, hvalue]

/-! ## Operations that return -/

/-- What lies between a power of ten on the place and above rounds to no less. -/
theorem le_toPlace {place k : ℤ} {x : ℚ} (hplace : place ≤ k) (hx : 10 ^ k ≤ x) :
    10 ^ k ≤ toPlace place x := by
  have hten : (10 : ℚ) ≠ 0 := by norm_num
  obtain ⟨n, hn⟩ := Int.le.dest hplace
  have hpower : (10 : ℚ) ^ k = (10 ^ n : ℕ) * 10 ^ place := by
    rw [← hn, add_comm, zpow_add₀ hten, zpow_natCast, Nat.cast_pow]
    rfl
  have hpos : (0 : ℚ) < 10 ^ place := by positivity
  have hfloor : ((10 ^ n : ℕ) : ℤ) ≤ ⌊x / 10 ^ place⌋ := by
    rw [Int.le_floor, le_div_iff₀ hpos, Int.cast_natCast, ← hpower]
    exact hx
  have hnearest : ((10 ^ n : ℕ) : ℤ) ≤ nearestEven (x / 10 ^ place) := by
    unfold nearestEven
    split <;> omega
  rw [hpower, toPlace]
  exact mul_le_mul_of_nonneg_right (by exact_mod_cast hnearest) hpos.le

/-- **Finishing returns** when the rounded result has an exponent of the context. -/
theorem finish_isOk {d : Decimal} (h : |ctx.rounded d.value| < 10 ^ (emax + 1)) :
    ∃ result, ctx.finish d = .ok result := by
  by_cases hd : d.coefficient = 0
  · unfold finish
    rw [if_pos hd]
    exact ⟨_, rfl⟩
  have hround : |ctx.rounded d.value| = |toPlace (ctx.cut d) d.magnitude| := by
    rw [rounded, ← cut_eq hd, abs_value]
    split
    · rw [abs_neg]
    · rfl
  rw [hround] at h
  have hlog : Int.log 10 d.magnitude = d.digits.length + d.exponent - 1 := by
    refine log_of_digits hd le_rfl ?_
    exact mul_lt_mul_of_pos_right (lt_add_one _) (by positivity)
  have hlow : (10 : ℚ) ^ ((d.digits.length : ℤ) + d.exponent - 1) ≤ d.magnitude := by
    rw [← hlog]
    have hle := Int.zpow_log_le_self (b := 10) (by norm_num) (magnitude_pos hd)
    exact_mod_cast hle
  have hetop := ctx.etop_eq
  have htiny := ctx.etiny_le_etop
  have hprec := ctx.positive
  have hfull : ¬ ctx.etop < d.digits.length + d.exponent - ctx.prec := by
    intro hfull
    have hcut : ctx.cut d ≤ d.digits.length + d.exponent - 1 := max_le (by omega) (by omega)
    have hle := le_trans (le_toPlace hcut hlow) (le_abs_self _)
    have hpower : (10 : ℚ) ^ (emax + 1) ≤ 10 ^ ((d.digits.length : ℤ) + d.exponent - 1) :=
      zpow_le_zpow_right₀ (by norm_num) (by omega)
    linarith
  unfold finish
  rw [if_neg hd]
  dsimp only
  rw [if_neg hfull]
  split
  · exact ⟨_, rfl⟩
  · next hplace =>
    have hplace : d.exponent < ctx.cut d := not_le.mp hplace
    split
    · next hcarry =>
      rw [if_neg]
      · exact ⟨_, rfl⟩
      · intro hover
        have hover : ctx.etop < ctx.cut d + 1 := hover
        have hcarry : 10 ^ ctx.prec ≤ roundHalfEven d.coefficient (ctx.cut d - d.exponent).toNat :=
          hcarry
        have hcast : (10 : ℚ) ^ ctx.prec ≤
            roundHalfEven d.coefficient (ctx.cut d - d.exponent).toNat := by exact_mod_cast hcarry
        have hpower : (10 : ℚ) ^ (emax + 1) ≤ 10 ^ ctx.prec * 10 ^ ctx.cut d := by
          rw [← zpow_natCast, ← zpow_add₀ (by norm_num)]
          exact zpow_le_zpow_right₀ (by norm_num) (by omega)
        have hmul := mul_le_mul_of_nonneg_right hcast
          (show (0 : ℚ) ≤ 10 ^ ctx.cut d by positivity)
        rw [toPlace_of_lt hplace] at h
        have habs := le_abs_self
          ((roundHalfEven d.coefficient (ctx.cut d - d.exponent).toNat : ℚ) * 10 ^ ctx.cut d)
        linarith
    · exact ⟨_, rfl⟩

/-- A result has no more digits than the precision. -/
theorem finish_digits {d result : Decimal} (h : ctx.finish d = .ok result) :
    result.digits.length ≤ ctx.prec := by
  have hfits : ∀ n : ℕ, n < 10 ^ ctx.prec → (Nat.toDigits 10 n).length ≤ ctx.prec :=
    fun n hn => (Nat.length_toDigits_le_iff (by decide) ctx.positive).mpr hn
  unfold finish at h
  by_cases hd : d.coefficient = 0
  · rw [if_pos hd] at h
    cases h
    refine hfits _ ?_
    show d.coefficient < _
    rw [hd]
    exact Nat.pow_pos (by decide)
  rw [if_neg hd] at h
  dsimp only at h
  split at h
  · cases h
  split at h
  · next hplace =>
    cases h
    have hcut := (le_max_left _ _).trans hplace
    omega
  next hplace =>
  have hplace : d.exponent < ctx.cut d := not_le.mp hplace
  split at h
  · split at h
    · cases h
    · cases h
      refine hfits _ ?_
      show roundHalfEven d.coefficient (ctx.cut d - d.exponent).toNat / 10 < _
      have hle := roundHalfEven_cut hd hplace
      have hpow : 0 < 10 ^ ctx.prec := Nat.pow_pos (by decide)
      omega
  · next hcarry =>
    cases h
    exact hfits _ (not_le.mp hcarry)

/-- What fits the context is returned as it is. -/
theorem finish_self {d : Decimal} (hdigits : d.digits.length ≤ ctx.prec)
    (hlow : ctx.etiny ≤ d.exponent) (hhigh : d.exponent + d.digits.length ≤ emax + 1) :
    ctx.finish d = .ok d := by
  have hetop := ctx.etop_eq
  unfold finish
  by_cases hd : d.coefficient = 0
  · have hlength : 0 < d.digits.length := Nat.length_toDigits_pos
    have hexponent : min (max d.exponent ctx.etiny) emax = d.exponent := by omega
    rw [if_pos hd, hexponent]
  · rw [if_neg hd]
    dsimp only
    rw [if_neg (by omega), if_pos (max_le (by omega) hlow)]

/-- An exact product returns. -/
theorem multiply_self {left right : Decimal}
    (hdigits : (Nat.toDigits 10 (left.coefficient * right.coefficient)).length ≤ ctx.prec)
    (hlow : ctx.etiny ≤ left.exponent + right.exponent)
    (hhigh : left.exponent + right.exponent +
      (Nat.toDigits 10 (left.coefficient * right.coefficient)).length ≤ emax + 1) :
    ctx.multiply left right = .ok ⟨left.negative != right.negative,
      left.coefficient * right.coefficient, left.exponent + right.exponent⟩ :=
  finish_self hdigits hlow hhigh

/-- An exact sum returns. -/
theorem add_exact {left right : Decimal}
    (hround : ctx.rounded (left.value + right.value) = left.value + right.value)
    (hhigh : |left.value + right.value| < 10 ^ (emax + 1)) :
    ∃ result, ctx.add left right = .ok result ∧ result.value = left.value + right.value := by
  obtain ⟨result, hresult⟩ : ∃ result, ctx.add left right = .ok result := by
    apply finish_isOk
    rw [value_sum, hround]
    · exact hhigh
    · intro hzero
      rw [if_neg hzero]
  exact ⟨result, hresult, (add_value hresult).trans hround⟩

/-! ## Halves -/

/-- `Decimal(2)`. -/
def two : Decimal := ofInt 2

theorem ofInt_natCast_value (n : ℕ) : (ofInt n).value = n := by
  rw [value_eq]
  simp [ofInt, magnitude]

theorem two_value : two.value = 2 := ofInt_natCast_value 2

/-- Half of what fits the precision terminates, and returns when it fits the context. -/
theorem halve_exact {d : Decimal} (hdigits : d.digits.length ≤ ctx.prec)
    (hround : ctx.rounded (d.value / 2) = d.value / 2) (hhigh : |d.value / 2| < 10 ^ (emax + 1)) :
    ∃ result, ctx.divide d two = .ok result ∧ result.value = d.value / 2 := by
  obtain ⟨result, hresult⟩ : ∃ result, ctx.divide d two = .ok result := by
    have htwo : two.coefficient ≠ 0 := by decide
    unfold divide
    dsimp only
    rw [if_neg htwo]
    by_cases hd : d.coefficient = 0
    · rw [if_pos hd]
      apply finish_isOk
      rw [value_of_zero rfl, rounded_zero, abs_zero]
      positivity
    rw [if_neg hd]
    obtain ⟨shift, hshift⟩ : ∃ shift : ℤ,
        shift = two.digits.length - d.digits.length + ctx.prec + 1 := ⟨_, rfl⟩
    rw [← hshift]
    have hquotient := @shifted_quotient d two htwo shift
    have hlength : two.digits.length = 1 := by decide
    obtain ⟨s, hs⟩ : ∃ s : ℕ, shift = s + 1 := ⟨(shift - 1).toNat, by omega⟩
    have hdivisor : two.coefficient * 10 ^ (-shift).toNat = 2 := by
      have hzero : (-shift).toNat = 0 := by omega
      rw [hzero]
      rfl
    have heven : d.coefficient * 10 ^ shift.toNat % 2 = 0 := by
      have hnat : shift.toNat = s + 1 := by omega
      rw [hnat, pow_succ, ← Nat.mul_assoc]
      generalize d.coefficient * 10 ^ s = tens
      omega
    rw [hdivisor] at hquotient ⊢
    rw [if_neg (by omega)]
    apply finish_isOk
    have hwhole : ((d.coefficient * 10 ^ shift.toNat / 2 : ℕ) : ℚ) =
        ((d.coefficient * 10 ^ shift.toNat : ℕ) : ℚ) / (2 : ℕ) :=
      Nat.cast_div_charZero (Nat.dvd_of_mod_eq_zero heven)
    have hvalue := quotient_eq d two
    rw [two_value] at hvalue
    rw [value_eq]
    simp only [magnitude, dropZeros_value, hwhole, hquotient]
    simp only [magnitude] at hvalue
    rw [← hvalue, hround]
    exact hhigh
  refine ⟨result, hresult, ?_⟩
  rw [divide_value hresult, two_value, hround]

/-! ## Rounding and order -/

/-- The nearest whole number keeps the order. -/
theorem nearestEven_mono {x y : ℚ} (h : x ≤ y) : nearestEven x ≤ nearestEven y := by
  have hfloor : ⌊x⌋ ≤ ⌊y⌋ := Int.floor_mono h
  by_cases hsame : ⌊x⌋ = ⌊y⌋
  · unfold nearestEven
    rw [hsame]
    split
    · next hx =>
      rw [if_pos]
      rcases hx with hx | hx
      · exact Or.inl (by linarith)
      · by_cases hy : 1 / 2 < y - ⌊y⌋
        · exact Or.inl hy
        · exact Or.inr ⟨by linarith [hx.1], hx.2⟩
    · split <;> omega
  · unfold nearestEven
    split <;> split <;> omega

theorem toPlace_mono {place : ℤ} {x y : ℚ} (h : x ≤ y) : toPlace place x ≤ toPlace place y := by
  have hpos : (0 : ℚ) < 10 ^ place := by positivity
  have hmono := nearestEven_mono (div_le_div_of_nonneg_right h hpos.le)
  exact mul_le_mul_of_nonneg_right (by exact_mod_cast hmono) hpos.le

/-- What lies below a power of ten on the place rounds to no more. -/
theorem toPlace_le {place k : ℤ} {x : ℚ} (hplace : place ≤ k) (hx : x ≤ 10 ^ k) :
    toPlace place x ≤ 10 ^ k := by
  have hself : toPlace place (10 ^ k) = 10 ^ k := by
    have hone := @toPlace_of_le ⟨false, 1, k⟩ place hplace
    simpa [magnitude] using hone
  rw [← hself]
  exact toPlace_mono hx

/-- **Rounding keeps the order** of what is not negative. -/
theorem rounded_mono {x y : ℚ} (hx : 0 ≤ x) (h : x ≤ y) : ctx.rounded x ≤ ctx.rounded y := by
  by_cases hzero : x = 0
  · have hnonneg : 0 ≤ toPlace (ctx.lastPlace y) y := by
      have hmono := @toPlace_mono (ctx.lastPlace y) _ _ (le_trans hx h)
      have hself : toPlace (ctx.lastPlace y) 0 = 0 := by
        have hwhole : nearestEven 0 = 0 := nearestEven_intCast 0
        simp [toPlace, hwhole]
      rwa [hself] at hmono
    rw [hzero, rounded_zero, rounded, if_neg (not_lt.mpr (le_trans hx h)),
      abs_of_nonneg (le_trans hx h)]
    exact hnonneg
  have hpos : 0 < x := lt_of_le_of_ne hx (Ne.symm hzero)
  have hposy : 0 < y := lt_of_lt_of_le hpos h
  rw [rounded, rounded, if_neg (not_lt.mpr hx), if_neg (not_lt.mpr hposy.le), abs_of_nonneg hx,
    abs_of_nonneg hposy.le]
  have hlog : Int.log 10 x ≤ Int.log 10 y := Int.log_mono_right hpos h
  by_cases hplace : ctx.lastPlace x = ctx.lastPlace y
  · rw [hplace]
    exact toPlace_mono h
  -- A power of ten lies between numbers that are cut at different places.
  have hprec := ctx.positive
  have hlast : ctx.lastPlace x = max (Int.log 10 x + 1 - ctx.prec) ctx.etiny := by
    rw [lastPlace, abs_of_pos hpos]
  have hlasty : ctx.lastPlace y = max (Int.log 10 y + 1 - ctx.prec) ctx.etiny := by
    rw [lastPlace, abs_of_pos hposy]
  have hbelow : x ≤ 10 ^ Int.log 10 y := by
    have hlt := Int.lt_zpow_succ_log_self (b := 10) (by decide) x
    have hle : (10 : ℚ) ^ (Int.log 10 x + 1) ≤ 10 ^ Int.log 10 y :=
      zpow_le_zpow_right₀ (by norm_num) (by omega)
    have hcast : x < (10 : ℚ) ^ (Int.log 10 x + 1) := by exact_mod_cast hlt
    exact hcast.le.trans hle
  have habove : (10 : ℚ) ^ Int.log 10 y ≤ y := by
    have hle := Int.zpow_log_le_self (b := 10) (by decide) hposy
    exact_mod_cast hle
  exact (toPlace_le (by omega) hbelow).trans (le_toPlace (by omega) habove)

end Context

end Decimal
