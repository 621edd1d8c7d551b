import FinanceResearch.Lib.Numerals
import FinanceResearch.Lib.Regex

/-!
# Finite decimals

Python's `decimal.Decimal` without its infinities and NaNs: a sign, a coefficient
and an exponent. Trailing zeros count (`1.0` and `1.00` are equal numbers with
different exponents), so equality of numbers (`sameNumber`) is not equality of
values.
-/

structure Decimal where
  negative : Bool
  coefficient : Nat
  exponent : Int
  deriving DecidableEq, Repr

namespace Decimal

/-- `Decimal("0")`. -/
def zero : Decimal := ⟨false, 0, 0⟩

/-- `Decimal("1")`. -/
def one : Decimal := ⟨false, 1, 0⟩

/-- The coefficient over a common exponent. -/
def scaled (d : Decimal) (exponent : Int) : Int :=
  (if d.negative then -1 else 1) * (d.coefficient * 10 ^ (d.exponent - exponent).toNat : Nat)

/-- `left == right`. -/
def sameNumber (left right : Decimal) : Bool :=
  let exponent := min left.exponent right.exponent
  left.scaled exponent == right.scaled exponent

theorem sameNumber_self (d : Decimal) : d.sameNumber d = true := beq_self_eq_true _

/-- `left <= right`. -/
def atMost (left right : Decimal) : Bool :=
  let exponent := min left.exponent right.exponent
  decide (left.scaled exponent ≤ right.scaled exponent)

/-- The digits of the coefficient. -/
def digits (d : Decimal) : List Char := Nat.toDigits 10 d.coefficient

def sign (d : Decimal) : List Char := if d.negative then ['-'] else []

/-- The digits with the decimal point after the first `places` of them. -/
def placed (digits : List Char) (places : Int) : List Char :=
  if places ≤ 0 then '0' :: '.' :: List.replicate (-places).toNat '0' ++ digits
  else if digits.length ≤ places.toNat then
    digits ++ List.replicate (places.toNat - digits.length) '0'
  else digits.take places.toNat ++ '.' :: digits.drop places.toNat

/-- `"%+d"`. -/
def signedNumeral (n : Int) : List Char :=
  (if n < 0 then '-' else '+') :: Nat.toDigits 10 n.natAbs

/-- `str(d)`: the exponent is written out when the number is far from its point. -/
def text (d : Decimal) : String :=
  let left := d.exponent + d.digits.length
  let plain : Bool := decide (d.exponent ≤ 0) && decide (-6 < left)
  let places := if plain then left else 1
  String.ofList (d.sign ++ placed d.digits places ++
    if left = places then [] else 'E' :: signedNumeral (left - places))

/-- `format(d, "f")`: no exponent; a zero is not padded. -/
def fixed (d : Decimal) : String :=
  if d.coefficient = 0 ∧ 0 < d.exponent then String.ofList (d.sign ++ ['0'])
  else String.ofList (d.sign ++ placed d.digits (d.exponent + d.digits.length))

/-- The exponents a decimal can have: `MAX_EMAX` for the first digit, and
`MIN_ETINY` for the last. -/
def IsRepresentable (d : Decimal) : Prop :=
  d.exponent + d.digits.length - 1 ≤ 999999999999999999 ∧ -1999999999999999997 ≤ d.exponent

instance (d : Decimal) : Decidable d.IsRepresentable := inferInstanceAs (Decidable (_ ∧ _))

/-- `Decimal(str(i))`. -/
def ofInt (i : Int) : Decimal := ⟨decide (i < 0), i.natAbs, 0⟩

/-! ## `Decimal(text)` -/

/-- The value of digits, most significant first. -/
def number (u : CharacterDatabase) (digits : List Char) : Nat :=
  digits.foldl (fun n c => 10 * n + (u.decimal c).getD 0) 0

/-- A sign, if there is one, and the rest. -/
def splitSign : List Char → Bool × List Char
  | '-' :: rest => (true, rest)
  | '+' :: rest => (false, rest)
  | rest => (false, rest)

/-- An exponent part, or nothing. -/
def parseExponent (u : CharacterDatabase) : List Char → Option Int
  | [] => some 0
  | c :: rest =>
    if c = 'e' ∨ c = 'E' then
      let (negative, digits) := splitSign rest
      if digits ≠ [] ∧ digits.all fun c => (u.decimal c).isSome then
        some ((if negative then -1 else 1) * (number u digits : Int))
      else none
    else none

/-- `Decimal(text)` for a text without the names of the infinities and NaNs;
`none` is `InvalidOperation`. -/
def parse (u : CharacterDatabase) (text : String) : Option Decimal :=
  let isDigit := fun c => (u.decimal c).isSome
  let (negative, body) := splitSign text.toList
  let whole := body.takeWhile isDigit
  let rest := body.dropWhile isDigit
  let fraction := if rest.head? = some '.' then rest.tail.takeWhile isDigit else []
  let tail := if rest.head? = some '.' then rest.tail.dropWhile isDigit else rest
  if whole = [] ∧ fraction = [] then none
  else (parseExponent u tail).bind fun exponent =>
    let d : Decimal := ⟨negative, number u (whole ++ fraction), exponent - fraction.length⟩
    if d.IsRepresentable then some d else none

/-- `left == right` and the exponents are equal. -/
def SameQuantized (left right : Decimal) : Prop :=
  left.sameNumber right = true ∧ left.exponent = right.exponent

instance (left right : Decimal) : Decidable (SameQuantized left right) :=
  inferInstanceAs (Decidable (_ ∧ _))

/-- The coefficient with its sign. -/
def signed (d : Decimal) : Int := (if d.negative then -1 else 1) * d.coefficient

theorem sameQuantized_iff {left right : Decimal} :
    left.SameQuantized right ↔ left.signed = right.signed ∧ left.exponent = right.exponent := by
  unfold SameQuantized
  refine and_congr_left fun hexponent => ?_
  simp [sameNumber, scaled, signed, hexponent]

theorem SameQuantized.symm {left right : Decimal} (h : left.SameQuantized right) :
    right.SameQuantized left := by
  rw [sameQuantized_iff] at h ⊢
  exact ⟨h.1.symm, h.2.symm⟩

theorem SameQuantized.trans {a b c : Decimal} (hab : a.SameQuantized b)
    (hbc : b.SameQuantized c) : a.SameQuantized c := by
  rw [sameQuantized_iff] at hab hbc ⊢
  exact ⟨hab.1.trans hbc.1, hab.2.trans hbc.2⟩

example : (Decimal.mk true 1050 (-2)).text = "-10.50" := by decide
example : (Decimal.mk false 12 5).text = "1.2E+6" := by decide
example : (Decimal.mk false 12 5).fixed = "1200000" := by decide
example : parse .ascii "-.5e3" = some ⟨true, 5, 2⟩ := by decide
example : sameNumber ⟨false, 10, -1⟩ ⟨false, 1, 0⟩ = true := by decide

end Decimal
