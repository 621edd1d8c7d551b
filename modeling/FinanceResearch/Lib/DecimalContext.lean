import Mathlib.Algebra.Order.Field.Power
import Mathlib.Algebra.Order.Field.Rat
import Mathlib.Tactic.Positivity
import FinanceResearch.Lib.Decimal

/-!
# Decimal arithmetic

The operations of a `decimal.Context`: the exact result is brought to the precision
and the exponents of the context, ties to even. Overflow is trapped and ends the
operation; underflow is not. Comparison is exact and needs no context.
-/

namespace Decimal

/-! ## The order of the numbers -/

/-- The number. -/
def value (d : Decimal) : ℚ := d.signed * 10 ^ d.exponent

theorem scaled_value (d : Decimal) {exponent : Int} (h : exponent ≤ d.exponent) :
    (d.scaled exponent : ℚ) * 10 ^ exponent = d.value := by
  have hten : (10 : ℚ) ≠ 0 := by norm_num
  obtain ⟨shift, hshift⟩ := Int.le.dest h
  have htoNat : (d.exponent - exponent).toNat = shift := by omega
  rw [scaled, htoNat, value, signed, ← hshift, zpow_add₀ hten, zpow_natCast]
  push_cast
  ring

/-- `decimal` compares numbers, not representations. -/
def cmp (left right : Decimal) : Ordering :=
  let exponent := min left.exponent right.exponent
  compare (left.scaled exponent) (right.scaled exponent)

theorem scaled_le_iff {left right : Decimal} {exponent : Int} (hleft : exponent ≤ left.exponent)
    (hright : exponent ≤ right.exponent) :
    left.scaled exponent ≤ right.scaled exponent ↔ left.value ≤ right.value := by
  have hpos : (0 : ℚ) < 10 ^ exponent := by positivity
  rw [← scaled_value left hleft, ← scaled_value right hright, mul_le_mul_iff_left₀ hpos,
    Int.cast_le]

theorem atMost_iff {left right : Decimal} : left.atMost right = true ↔ left.value ≤ right.value := by
  rw [atMost, decide_eq_true_iff]
  exact scaled_le_iff (Int.min_le_left _ _) (Int.min_le_right _ _)

theorem cmp_eq (left right : Decimal) : cmp left right = compare left.value right.value := by
  have hle : left.scaled (min left.exponent right.exponent)
      ≤ right.scaled (min left.exponent right.exponent) ↔ left.value ≤ right.value :=
    scaled_le_iff (Int.min_le_left _ _) (Int.min_le_right _ _)
  have hge : right.scaled (min left.exponent right.exponent)
      ≤ left.scaled (min left.exponent right.exponent) ↔ right.value ≤ left.value :=
    scaled_le_iff (Int.min_le_right _ _) (Int.min_le_left _ _)
  rw [cmp]
  rcases lt_trichotomy left.value right.value with h | h | h
  · rw [compare_lt_iff_lt.mpr h, compare_lt_iff_lt]
    exact not_le.mp (mt hge.mp (not_le.mpr h))
  · rw [compare_eq_iff_eq.mpr h, compare_eq_iff_eq]
    exact le_antisymm (hle.mpr h.le) (hge.mpr h.ge)
  · rw [compare_gt_iff_gt.mpr h, compare_gt_iff_gt]
    exact not_le.mp (mt hle.mp (not_le.mpr h))

instance instTransCmp : Std.TransCmp cmp := by
  have h : cmp = compareOn value := by
    funext left right
    exact cmp_eq left right
  rw [h]
  infer_instance

/-- `left < right`. -/
def less (left right : Decimal) : Bool := !right.atMost left

theorem less_iff {left right : Decimal} : left.less right = true ↔ left.value < right.value := by
  rw [less, Bool.not_eq_true', ← Bool.not_eq_true, atMost_iff, not_le]

/-! ## Contexts -/

/-- The trapped signals that finite operands can raise. -/
inductive Signal where
  | overflow | divisionByZero | invalidOperation
  deriving DecidableEq, Repr

/-- The precision of the default context is positive. -/
theorem precision_positive : 0 < 28 := by decide

/-- `Context(prec=prec)`, with the exponents of the default context. -/
structure Context where
  prec : Nat
  positive : 0 < prec

namespace Context

/-- `Emax`. -/
def emax : Int := 999999

/-- `Etiny()`: the least exponent of the last digit. -/
def etiny (ctx : Context) : Int := -999999 - ctx.prec + 1

/-- `Etop()`: the greatest exponent of the last digit of a full coefficient. -/
def etop (ctx : Context) : Int := emax - ctx.prec + 1

/-- `n / 10 ** shift`, to the nearest, ties to even. -/
def roundHalfEven (n shift : Nat) : Nat :=
  let quotient := n / 10 ^ shift
  let twice := 2 * (n % 10 ^ shift)
  if 10 ^ shift < twice ∨ (twice = 10 ^ shift ∧ quotient % 2 = 1) then quotient + 1 else quotient

/-- `_fix`: an exact result in this context. -/
def finish (ctx : Context) (d : Decimal) : Except Signal Decimal :=
  if d.coefficient = 0 then
    .ok { d with exponent := min (max d.exponent ctx.etiny) emax }
  else
    let full := d.digits.length + d.exponent - ctx.prec
    if ctx.etop < full then .error .overflow
    else
      let last := max full ctx.etiny
      if last ≤ d.exponent then .ok d
      else
        let rounded := roundHalfEven d.coefficient (last - d.exponent).toNat
        -- Rounding up may carry into one digit too many, which is then a zero.
        if 10 ^ ctx.prec ≤ rounded then
          if ctx.etop < last + 1 then .error .overflow
          else .ok ⟨d.negative, rounded / 10, last + 1⟩
        else .ok ⟨d.negative, rounded, last⟩

/-- `left + right`. -/
def add (ctx : Context) (left right : Decimal) : Except Signal Decimal :=
  let exponent := min left.exponent right.exponent
  let sum := left.scaled exponent + right.scaled exponent
  let negative := if sum = 0 then left.negative && right.negative else decide (sum < 0)
  ctx.finish ⟨negative, sum.natAbs, exponent⟩

/-- `left - right`. -/
def subtract (ctx : Context) (left right : Decimal) : Except Signal Decimal :=
  ctx.add left { right with negative := !right.negative }

/-- `left * right`. -/
def multiply (ctx : Context) (left right : Decimal) : Except Signal Decimal :=
  ctx.finish ⟨left.negative != right.negative, left.coefficient * right.coefficient,
    left.exponent + right.exponent⟩

/-- `-d`; a zero loses its sign. -/
def minus (ctx : Context) (d : Decimal) : Except Signal Decimal :=
  ctx.finish { d with negative := decide (d.coefficient ≠ 0) && !d.negative }

/-- `abs(d)`. -/
def absolute (ctx : Context) (d : Decimal) : Except Signal Decimal :=
  ctx.finish { d with negative := false }

/-- The digits of a quotient, with a last one that tells an inexact quotient from a tie; of an
exact one trailing zeros are removed, up to `ideal`. -/
def dropZeros : Nat → Nat → Int → Int → Nat × Int
  | 0, coefficient, exponent, _ => (coefficient, exponent)
  | rounds + 1, coefficient, exponent, ideal =>
    if exponent < ideal ∧ coefficient % 10 = 0 then
      dropZeros rounds (coefficient / 10) (exponent + 1) ideal
    else (coefficient, exponent)

/-- `left / right`. -/
def divide (ctx : Context) (left right : Decimal) : Except Signal Decimal :=
  let negative := left.negative != right.negative
  let ideal := left.exponent - right.exponent
  if right.coefficient = 0 then
    if left.coefficient = 0 then .error .invalidOperation else .error .divisionByZero
  else if left.coefficient = 0 then ctx.finish ⟨negative, 0, ideal⟩
  else
    let shift : Int := right.digits.length - left.digits.length + ctx.prec + 1
    let dividend := left.coefficient * 10 ^ shift.toNat
    let divisor := right.coefficient * 10 ^ (-shift).toNat
    let quotient := dividend / divisor
    if dividend % divisor ≠ 0 then
      ctx.finish ⟨negative, if quotient % 5 = 0 then quotient + 1 else quotient, ideal - shift⟩
    else
      let (coefficient, exponent) := dropZeros shift.toNat quotient (ideal - shift) ideal
      ctx.finish ⟨negative, coefficient, exponent⟩

/-- `sum(items, Decimal(0))`. -/
def sum (ctx : Context) (items : List Decimal) : Except Signal Decimal :=
  items.foldlM ctx.add zero

end Context

/-- `d.to_integral_value(rounding=ROUND_FLOOR)`. -/
def integralFloor (d : Decimal) : Decimal :=
  if 0 ≤ d.exponent then d
  else
    let unit := 10 ^ (-d.exponent).toNat
    let inexact : Bool := d.coefficient % unit ≠ 0
    ⟨d.negative, d.coefficient / unit + (d.negative && inexact).toNat, 0⟩

/-- `min(left, right)`: the first of two equal numbers. -/
def least (left right : Decimal) : Decimal := if right.less left then right else left

/-- `max(items, default=Decimal(0))`: the first of several equal numbers. -/
def greatest : List Decimal → Decimal
  | [] => zero
  | first :: rest => rest.foldl (fun best d => if best.less d then d else best) first

/-- `max(Decimal(0), d)`: the first of two equal numbers. -/
def atLeastZero (d : Decimal) : Decimal := if zero.less d then d else zero

example : (Context.mk 28 (by decide)).divide ⟨false, 1, 0⟩ ⟨false, 8, 0⟩ =
    .ok ⟨false, 125, -3⟩ := by decide
example : integralFloor ⟨true, 15, -1⟩ = ⟨true, 2, 0⟩ := by decide
example : (Context.mk 3 (by decide)).add ⟨false, 9995, 0⟩ ⟨false, 5, -1⟩ =
    .ok ⟨false, 100, 2⟩ := by decide

end Decimal
