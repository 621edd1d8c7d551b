import Mathlib.Data.Nat.Sqrt
import FinanceResearch.Lib.DecimalContext

/-!
# Squares and square roots

`d ** 2` and `d.sqrt()` in a `decimal.Context`. The square is made with three more digits than
the precision and then brought to it. The root is the whole root of a coefficient that is scaled
to one digit more than the precision needs; a last digit tells an inexact root from a tie.
-/

namespace Decimal

namespace Context

/-- The context in which a square is made. -/
def wider (ctx : Context) : Context := ⟨ctx.prec + 3, Nat.succ_pos _⟩

/-- `d ** 2`. -/
def square (ctx : Context) (d : Decimal) : Except Signal Decimal :=
  if d.coefficient = 0 then .ok zero
  else do
    let exact ← ctx.wider.multiply d d
    ctx.finish exact

/-- `d.sqrt()`. -/
def squareRoot (ctx : Context) (d : Decimal) : Except Signal Decimal :=
  if d.coefficient = 0 then ctx.finish ⟨d.negative, 0, d.exponent / 2⟩
  else if d.negative then .error .invalidOperation
  else
    let coefficient := if d.exponent % 2 = 1 then d.coefficient * 10 else d.coefficient
    let pairs := if d.exponent % 2 = 1 then d.digits.length / 2 + 1 else (d.digits.length + 1) / 2
    let shift : Int := ctx.prec + 1 - pairs
    let scaled := coefficient * 100 ^ shift.toNat / 100 ^ (-shift).toNat
    let rest := coefficient * 100 ^ shift.toNat % 100 ^ (-shift).toNat
    let root := Nat.sqrt scaled
    if rest = 0 ∧ root * root = scaled then
      ctx.finish ⟨false, root / 10 ^ shift.toNat * 10 ^ (-shift).toNat, d.exponent / 2⟩
    else
      ctx.finish ⟨false, if root % 5 = 0 then root + 1 else root, d.exponent / 2 - shift⟩

end Context

example : (Context.mk 3 (by decide)).square ⟨true, 1234, -3⟩ = .ok ⟨false, 152, -2⟩ := by decide

end Decimal
