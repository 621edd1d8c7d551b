import FinanceResearch.Lib.Exactness
import FinanceResearch.Lib.Fallible

/-!
# How large a result can be

A bound `n * 10 ^ place` that the precision can write is kept by rounding (`abs_rounded_le`), so
that sums of bounded numbers return and are bounded (`sum_within`), and what is at least a power of
ten stays so (`le_foldlM_add`).
-/

namespace Decimal

namespace Context

variable {ctx : Context}

/-! ## Rounding and bounds -/

theorem toPlace_nonneg {place : ℤ} {x : ℚ} (hx : 0 ≤ x) : 0 ≤ toPlace place x := by
  have hmono := @toPlace_mono place _ _ hx
  have hzero : toPlace place 0 = 0 := by
    have hwhole : nearestEven 0 = 0 := nearestEven_intCast 0
    simp [toPlace, hwhole]
  rwa [hzero] at hmono

/-- The sign takes no part in the rounding. -/
theorem abs_rounded (x : ℚ) : |ctx.rounded x| = ctx.rounded |x| := by
  have hplace : ctx.lastPlace |x| = ctx.lastPlace x := by rw [lastPlace, lastPlace, abs_abs]
  have hnonneg : 0 ≤ toPlace (ctx.lastPlace x) |x| := toPlace_nonneg (abs_nonneg x)
  rw [rounded, rounded, if_neg (not_lt.mpr (abs_nonneg x)), abs_abs, hplace]
  split
  · rw [abs_neg, abs_of_nonneg hnonneg]
  · rw [abs_of_nonneg hnonneg]

/-- Rounding does not exceed a bound that the precision can write. -/
theorem abs_rounded_le {x : ℚ} {n : ℕ} {place : ℤ} (hn : n < 10 ^ ctx.prec)
    (hplace : ctx.etiny ≤ place) (h : |x| ≤ n * 10 ^ place) : |ctx.rounded x| ≤ n * 10 ^ place := by
  rw [abs_rounded, ← rounded_natCast hn hplace]
  exact rounded_mono (abs_nonneg x) h

/-- Nor does it fall below one. -/
theorem le_rounded {x : ℚ} {n : ℕ} {place : ℤ} (hn : n < 10 ^ ctx.prec)
    (hplace : ctx.etiny ≤ place) (h : n * 10 ^ place ≤ x) : n * 10 ^ place ≤ ctx.rounded x := by
  rw [← rounded_natCast hn hplace]
  exact rounded_mono (by positivity) h

/-! ## Operations within a bound -/

/-- A result that is rounded from a bounded number is returned. -/
theorem finish_within {d : Decimal} {n : ℕ} {place : ℤ} (hn : n < 10 ^ ctx.prec)
    (hplace : ctx.etiny ≤ place) (hhigh : (n * 10 ^ place : ℚ) < 10 ^ (emax + 1))
    (h : |d.value| ≤ n * 10 ^ place) :
    ∃ result, ctx.finish d = .ok result ∧ |result.value| ≤ n * 10 ^ place := by
  have hle := abs_rounded_le hn hplace h
  obtain ⟨result, hresult⟩ := finish_isOk (lt_of_le_of_lt hle hhigh)
  exact ⟨result, hresult, by rw [finish_value hresult]; exact hle⟩

theorem add_within {left right : Decimal} {m n : ℕ} {place : ℤ} (hn : m + n < 10 ^ ctx.prec)
    (hplace : ctx.etiny ≤ place) (hhigh : (((m + n : ℕ) : ℚ) * 10 ^ place) < 10 ^ (emax + 1))
    (hleft : |left.value| ≤ m * 10 ^ place) (hright : |right.value| ≤ n * 10 ^ place) :
    ∃ result, ctx.add left right = .ok result ∧ |result.value| ≤ (m + n : ℕ) * 10 ^ place := by
  apply finish_within hn hplace hhigh
  rw [value_sum]
  · calc |left.value + right.value| ≤ |left.value| + |right.value| := abs_add_le _ _
      _ ≤ m * 10 ^ place + n * 10 ^ place := add_le_add hleft hright
      _ = (m + n : ℕ) * 10 ^ place := by push_cast; ring
  · intro hzero
    rw [if_neg hzero]

/-- A sum of bounded numbers, from a bounded start. -/
theorem foldlM_add_within {place : ℤ} (hplace : ctx.etiny ≤ place) : ∀ {items : List Decimal}
    {start : Decimal} {m : ℕ}, (∀ d ∈ items, |d.value| ≤ 10 ^ place) →
      m + items.length < 10 ^ ctx.prec →
      (((m + items.length : ℕ) : ℚ) * 10 ^ place) < 10 ^ (emax + 1) → |start.value| ≤ m * 10 ^ place →
        ∃ result, items.foldlM ctx.add start = .ok result ∧
          |result.value| ≤ (m + items.length : ℕ) * 10 ^ place := by
  intro items
  induction items with
  | nil =>
    intro start m _ _ _ hstart
    exact ⟨start, rfl, hstart⟩
  | cons d rest ih =>
    intro start m hitems hlength hhigh hstart
    rw [List.forall_mem_cons] at hitems
    rw [List.length_cons] at hlength hhigh ⊢
    have hpos : (0 : ℚ) < 10 ^ place := by positivity
    have hnext : (((m + 1 : ℕ) : ℚ) * 10 ^ place) < 10 ^ (emax + 1) := by
      refine lt_of_le_of_lt (mul_le_mul_of_nonneg_right ?_ hpos.le) hhigh
      exact_mod_cast (by omega : m + 1 ≤ m + (rest.length + 1))
    have hone : |d.value| ≤ (1 : ℕ) * 10 ^ place := by
      rw [Nat.cast_one, one_mul]
      exact hitems.1
    obtain ⟨next, hadd, hbound⟩ := add_within (by omega) hplace hnext hstart hone
    have hcount : m + 1 + rest.length = m + (rest.length + 1) := by omega
    have hrest := @ih next (m + 1) hitems.2 (by omega) (by rw [hcount]; exact hhigh) hbound
    rw [hcount] at hrest
    rw [List.foldlM_cons, hadd]
    exact hrest

/-- **A sum of bounded numbers returns.** -/
theorem sum_within {items : List Decimal} {place : ℤ} (hplace : ctx.etiny ≤ place)
    (hitems : ∀ d ∈ items, |d.value| ≤ 10 ^ place) (hlength : items.length < 10 ^ ctx.prec)
    (hhigh : ((items.length : ℚ) * 10 ^ place) < 10 ^ (emax + 1)) :
    ∃ result, ctx.sum items = .ok result ∧ |result.value| ≤ items.length * 10 ^ place := by
  have hzero : |zero.value| ≤ (0 : ℕ) * 10 ^ place := by
    rw [value_of_zero rfl, abs_zero, Nat.cast_zero, zero_mul]
  have hall := @foldlM_add_within ctx place hplace items zero 0 hitems (by omega)
    (by rw [Nat.zero_add]; exact hhigh) hzero
  rw [Nat.zero_add] at hall
  exact hall

/-- A negated number keeps its bound. -/
theorem minus_within {d : Decimal} {n : ℕ} {place : ℤ} (hn : n < 10 ^ ctx.prec)
    (hplace : ctx.etiny ≤ place) (hhigh : (n * 10 ^ place : ℚ) < 10 ^ (emax + 1))
    (h : |d.value| ≤ n * 10 ^ place) :
    ∃ result, ctx.minus d = .ok result ∧ |result.value| ≤ n * 10 ^ place := by
  apply finish_within hn hplace hhigh
  rw [abs_value] at h ⊢
  exact h

/-- A sum of numbers that are not negative is at least a power of ten that one of them, or the start,
is at least. -/
theorem le_foldlM_add {place : ℤ} (hplace : ctx.etiny ≤ place) : ∀ {items : List Decimal}
    {start total : Decimal}, items.foldlM ctx.add start = .ok total → 0 ≤ start.value →
      (∀ d ∈ items, 0 ≤ d.value) → (10 ^ place ≤ start.value ∨ ∃ d ∈ items, 10 ^ place ≤ d.value) →
        10 ^ place ≤ total.value := by
  have hone : 1 < 10 ^ ctx.prec := Nat.one_lt_pow ctx.positive.ne' (by decide)
  intro items
  induction items with
  | nil =>
    intro start total h _ _ hsome
    cases h
    rcases hsome with hstart | ⟨d, hd, -⟩
    · exact hstart
    · cases hd
  | cons d rest ih =>
    intro start total h hstart hitems hsome
    rw [List.forall_mem_cons] at hitems
    rw [List.foldlM_cons] at h
    obtain ⟨next, hnext, hrest⟩ := Fallible.bind_eq_ok.mp h
    have hvalue := add_value hnext
    have hnonneg : 0 ≤ next.value := by
      rw [hvalue, ← rounded_zero ctx]
      exact rounded_mono le_rfl (add_nonneg hstart hitems.1)
    refine ih hrest hnonneg hitems.2 ?_
    have hkept (hlarge : 10 ^ place ≤ start.value + d.value) : 10 ^ place ≤ next.value := by
      have hunit : (1 : ℕ) * (10 : ℚ) ^ place = 10 ^ place := by rw [Nat.cast_one, one_mul]
      have hle := le_rounded hone hplace (hunit.trans_le hlarge)
      rw [hunit] at hle
      rwa [hvalue]
    rcases hsome with hlarge | ⟨e, he, hlarge⟩
    · exact Or.inl (hkept (hlarge.trans (le_add_of_nonneg_right hitems.1)))
    · rcases List.mem_cons.mp he with rfl | he
      · exact Or.inl (hkept (hlarge.trans (le_add_of_nonneg_left hstart)))
      · exact Or.inr ⟨e, he, hlarge⟩

end Context

end Decimal
