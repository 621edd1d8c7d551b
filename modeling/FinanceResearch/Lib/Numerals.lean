import Mathlib.Data.String.Basic
import Mathlib.Data.Nat.Digits.Lemmas

/-!
# Zero-padded decimal numerals and their text order

`f"{n:04d}"` writes a number with at least `width` digits. Sorting such texts
sorts the numbers only while every number fits the width: `padded_lt` is the
half that holds (below `10 ^ width`, whatever text follows the numeral), and
the first number with one digit more already sorts before its predecessor.
-/

namespace Numerals

/-- `f"{n:0{width}d}"`. -/
def padded (width n : Nat) : List Char :=
  List.leftpad width '0' (Nat.toDigits 10 n)

/-- Exactly `width` digits of `n`, most significant first. -/
def fixedDigits : Nat → Nat → List Char
  | 0, _ => []
  | width + 1, n => fixedDigits width (n / 10) ++ [Nat.digitChar (n % 10)]

theorem fixedDigits_zero (width : Nat) : fixedDigits width 0 = List.replicate width '0' := by
  induction width with
  | zero => rfl
  | succ width ih =>
    rw [fixedDigits, Nat.zero_div, ih, List.replicate_succ']
    rfl

/-- The last digit, and those before it. -/
theorem toDigits_split {n : Nat} (h : 10 ≤ n) :
    Nat.toDigits 10 n = Nat.toDigits 10 (n / 10) ++ [Nat.digitChar (n % 10)] := by
  have hpos : 0 < n / 10 := by omega
  have hsplit := Nat.toDigits_append_toDigits (b := 10) (by decide) hpos
    (Nat.mod_lt n (by decide : 0 < 10))
  rw [Nat.toDigits_of_lt_base (Nat.mod_lt n (by decide : 0 < 10)), Nat.div_add_mod] at hsplit
  exact hsplit.symm

/-- No positive number starts with a zero. -/
theorem head?_toDigits {n : Nat} (h : 0 < n) : (Nat.toDigits 10 n).head? ≠ some '0' := by
  induction n using Nat.strongRecOn with
  | _ n ih =>
    rcases Nat.lt_or_ge n 10 with hlt | hge
    · rw [Nat.toDigits_of_lt_base hlt, List.head?_cons]
      intro hzero
      have := Nat.digitChar_eq_zero.mp (Option.some.inj hzero)
      omega
    · rw [toDigits_split hge, List.head?_append_of_ne_nil _ Nat.toDigits_ne_nil]
      exact ih (n / 10) (by omega) (by omega)

/-- Padding and truncation agree on the numbers that fit. -/
theorem padded_eq_fixedDigits : ∀ (width n : Nat), 0 < width → n < 10 ^ width →
    padded width n = fixedDigits width n
  | 0, _, h, _ => absurd h (by decide)
  | width + 1, n, _, hn => by
    rcases Nat.lt_or_ge n 10 with hlt | hge
    · have hdiv : n / 10 = 0 := Nat.div_eq_of_lt hlt
      rw [padded, Nat.toDigits_of_lt_base hlt, fixedDigits, hdiv, fixedDigits_zero,
        Nat.mod_eq_of_lt hlt]
      simp [List.leftpad]
    · have hdiv : n / 10 < 10 ^ width := by
        rw [Nat.pow_succ] at hn
        omega
      have hw : 0 < width := by
        rcases Nat.eq_zero_or_pos width with h0 | h0
        · subst h0
          omega
        · exact h0
      have ih := padded_eq_fixedDigits width (n / 10) hw hdiv
      rw [fixedDigits, ← ih, padded, padded]
      rw [toDigits_split hge]
      simp [List.leftpad]

theorem digitChar_lt : ∀ a < 10, ∀ b < 10, a < b → Nat.digitChar a < Nat.digitChar b := by
  decide

/-- A common prefix does not decide the order. -/
theorem append_lt_append_left {α : Type} [LinearOrder α] (p : List α) {x y : List α}
    (h : x < y) : p ++ x < p ++ y := by
  induction p with
  | nil => exact h
  | cons c p ih => exact List.cons_lt_cons_iff.mpr (Or.inr ⟨rfl, ih⟩)

/-- Numerals of one width compare as the numbers, whatever follows them. -/
theorem fixedDigits_lt : ∀ (width : Nat) {a b : Nat} (x y : List Char),
    a < b → b < 10 ^ width → fixedDigits width a ++ x < fixedDigits width b ++ y
  | 0, a, b, _, _, hab, hb => by
    rw [Nat.pow_zero] at hb
    omega
  | width + 1, a, b, x, y, hab, hb => by
    have hb' : b / 10 < 10 ^ width := by
      rw [Nat.pow_succ] at hb
      omega
    rw [fixedDigits, fixedDigits, List.append_assoc, List.append_assoc]
    rcases Nat.lt_or_ge (a / 10) (b / 10) with hlt | hge
    · exact fixedDigits_lt width _ _ hlt hb'
    · have heq : a / 10 = b / 10 := by omega
      rw [heq]
      apply append_lt_append_left
      exact List.cons_lt_cons_iff.mpr (Or.inl (digitChar_lt _ (Nat.mod_lt _ (by decide)) _
        (Nat.mod_lt _ (by decide)) (by omega)))

/-- **Padded numerals that fit their width sort as numbers**, whatever text
follows them. -/
theorem padded_lt {width a b : Nat} (x y : List Char) (hw : 0 < width) (hab : a < b)
    (hb : b < 10 ^ width) : padded width a ++ x < padded width b ++ y := by
  rw [padded_eq_fixedDigits width a hw (Nat.lt_trans hab hb),
    padded_eq_fixedDigits width b hw hb]
  exact fixedDigits_lt width x y hab hb

/-- Padding keeps the number. -/
theorem ofDigitChars_padded (width n : Nat) : Nat.ofDigitChars 10 (padded width n) 0 = n := by
  rw [padded, List.leftpad, Nat.ofDigitChars_append, Nat.ofDigitChars_replicate_zero,
    Nat.mul_zero, Nat.ofDigitChars_ten_toDigits]

theorem padded_injective {width a b : Nat} (h : padded width a = padded width b) : a = b := by
  rw [← ofDigitChars_padded width a, h, ofDigitChars_padded]

/-- A padded numeral has digits only. -/
theorem isDigit_of_mem_padded {width n : Nat} {c : Char} (h : c ∈ padded width n) :
    c.isDigit = true := by
  rw [padded, List.leftpad, List.mem_append] at h
  rcases h with h | h
  · rw [List.eq_of_mem_replicate h]
    decide
  · exact Nat.isDigit_of_mem_toDigits (by decide) (by decide) h

/-- A numeral followed by a separator that is no digit can be read back. -/
theorem padded_append_injective {width a b : Nat} {sep : Char} {x y : List Char}
    (hsep : sep.isDigit = false)
    (h : padded width a ++ sep :: x = padded width b ++ sep :: y) : a = b := by
  have take : ∀ (n : Nat) (z : List Char),
      (padded width n ++ sep :: z).takeWhile Char.isDigit = padded width n := by
    intro n z
    rw [List.takeWhile_append_of_pos fun c hc => isDigit_of_mem_padded hc,
      List.takeWhile_cons_of_neg (by simp [hsep]), List.append_nil]
  apply padded_injective
  rw [← take a x, h, take b y]

/-! ## Reading numerals -/

/-- The range of the ASCII digits. -/
theorem isDigit_range {c : Char} (h : c.isDigit = true) : 48 ≤ c.toNat ∧ c.toNat ≤ 57 := by
  unfold Char.isDigit at h
  simp only [ge_iff_le, Bool.and_eq_true, decide_eq_true_eq, UInt32.le_iff_toNat_le] at h
  exact h

theorem digitChar_toNat_sub {c : Char} (h : c.isDigit = true) :
    c.toNat - '0'.toNat < 10 ∧ Nat.digitChar (c.toNat - '0'.toNat) = c := by
  obtain ⟨hlo, hhi⟩ := isDigit_range h
  have hzero : '0'.toNat = 48 := rfl
  have hall : ∀ n < 10, Nat.digitChar n = Char.ofNat (n + 48) := by decide
  refine ⟨by omega, ?_⟩
  rw [hall _ (by omega), hzero, Nat.sub_add_cancel hlo, Char.ofNat_toNat]

/-- Digits are the numeral of their number in that width. -/
theorem fixedDigits_ofDigitChars {digits : List Char} (h : ∀ c ∈ digits, c.isDigit = true) :
    Nat.ofDigitChars 10 digits 0 < 10 ^ digits.length ∧
      fixedDigits digits.length (Nat.ofDigitChars 10 digits 0) = digits := by
  induction digits using List.reverseRecOn with
  | nil => exact ⟨Nat.one_pos, rfl⟩
  | append_singleton digits c ih =>
    obtain ⟨hlt, hrest⟩ := ih fun d hd => h d (List.mem_append_left _ hd)
    obtain ⟨hdigit, hc⟩ := digitChar_toNat_sub (h c (by simp))
    rw [List.length_append, List.length_singleton, fixedDigits, Nat.ofDigitChars_append,
      Nat.ofDigitChars_cons, Nat.ofDigitChars_nil]
    have hdiv : (10 * Nat.ofDigitChars 10 digits 0 + (c.toNat - '0'.toNat)) / 10 =
        Nat.ofDigitChars 10 digits 0 := by omega
    have hmod : (10 * Nat.ofDigitChars 10 digits 0 + (c.toNat - '0'.toNat)) % 10 =
        c.toNat - '0'.toNat := by omega
    refine ⟨?_, by rw [hdiv, hmod, hrest, hc]⟩
    rw [Nat.pow_succ]
    omega

/-- **Digits are the padded numeral of their number.** -/
theorem padded_ofDigitChars {digits : List Char} (hne : digits ≠ [])
    (h : ∀ c ∈ digits, c.isDigit = true) :
    padded digits.length (Nat.ofDigitChars 10 digits 0) = digits := by
  obtain ⟨hlt, hfixed⟩ := fixedDigits_ofDigitChars h
  rw [padded_eq_fixedDigits _ _ (List.length_pos_iff.mpr hne) hlt, hfixed]

/-- Without a leading zero they are the numeral itself. -/
theorem toDigits_ofDigitChars {c : Char} {rest : List Char} (hc : c ≠ '0')
    (h : ∀ d ∈ c :: rest, d.isDigit = true) :
    Nat.toDigits 10 (Nat.ofDigitChars 10 (c :: rest) 0) = c :: rest := by
  have hpadded := padded_ofDigitChars (List.cons_ne_nil c rest) h
  rw [padded, List.leftpad] at hpadded
  cases hwidth : (c :: rest).length -
      (Nat.toDigits 10 (Nat.ofDigitChars 10 (c :: rest) 0)).length with
  | zero =>
    rw [hwidth] at hpadded
    exact hpadded
  | succ width =>
    rw [hwidth, List.replicate_succ, List.cons_append] at hpadded
    exact absurd (List.head_eq_of_cons_eq hpadded).symm hc

/-- One digit too many: `10000` sorts before `9999`. -/
example : padded 4 10000 < padded 4 9999 := by decide

end Numerals
