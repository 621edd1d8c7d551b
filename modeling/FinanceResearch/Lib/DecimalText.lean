import FinanceResearch.Lib.Decimal

/-!
# Reading the text of a decimal

`Decimal(str(d))` is `d` again, sign and exponent included.
-/

/-- What every version of the database says of the ASCII digits, and of the other characters
a decimal is written with. -/
structure CharacterDatabase.PlainDigits (u : CharacterDatabase) : Prop where
  digit : ∀ c : Char, c.isDigit = true → u.decimal c = some (c.toNat - '0'.toNat)
  other : ∀ c ∈ ['.', 'E', '+', '-'], u.decimal c = none

namespace Decimal

variable {u : CharacterDatabase}

theorem isDigit_of_mem_digits {d : Decimal} {c : Char} (h : c ∈ d.digits) : c.isDigit = true :=
  Nat.isDigit_of_mem_toDigits (by decide) (by decide) h

/-! ## Digits -/

/-- Digits are read as by `Nat.ofDigitChars`. -/
theorem number_eq (hu : u.PlainDigits) {digits : List Char}
    (h : ∀ c ∈ digits, c.isDigit = true) : number u digits = Nat.ofDigitChars 10 digits 0 := by
  have hfold : ∀ start, digits.foldl (fun n c => 10 * n + (u.decimal c).getD 0) start
      = Nat.ofDigitChars 10 digits start := by
    induction digits with
    | nil => exact fun _ => rfl
    | cons c rest ih =>
      intro start
      rw [List.foldl_cons, hu.digit c (h c List.mem_cons_self), Option.getD_some,
        ih fun next hnext => h next (List.mem_cons_of_mem _ hnext)]
      rfl
  exact hfold 0

theorem isSome_decimal (hu : u.PlainDigits) {digits : List Char}
    (h : ∀ c ∈ digits, c.isDigit = true) : ∀ c ∈ digits, (u.decimal c).isSome = true := by
  intro c hc
  rw [hu.digit c (h c hc)]
  rfl

/-- The digits before the first other character. -/
theorem takeWhile_digits (hu : u.PlainDigits) {digits rest : List Char}
    (h : ∀ c ∈ digits, c.isDigit = true) (hrest : ∀ c ∈ rest.head?, u.decimal c = none) :
    (digits ++ rest).takeWhile (fun c => (u.decimal c).isSome) = digits := by
  rw [List.takeWhile_append_of_pos (isSome_decimal hu h)]
  cases rest with
  | nil => simp
  | cons c rest => rw [List.takeWhile_cons_of_neg (by simp [hrest c rfl]), List.append_nil]

theorem dropWhile_digits (hu : u.PlainDigits) {digits rest : List Char}
    (h : ∀ c ∈ digits, c.isDigit = true) (hrest : ∀ c ∈ rest.head?, u.decimal c = none) :
    (digits ++ rest).dropWhile (fun c => (u.decimal c).isSome) = rest := by
  rw [List.dropWhile_append_of_pos (isSome_decimal hu h)]
  cases rest with
  | nil => rfl
  | cons c rest => rw [List.dropWhile_cons_of_neg (by simp [hrest c rfl])]

/-! ## The parts of the text -/

/-- A decimal point and the digits after it, if there are any. -/
def point (fraction : List Char) : List Char := if fraction = [] then [] else '.' :: fraction

/-- A number is read from its sign, its digits around the point, and its exponent. -/
theorem parse_written (hu : u.PlainDigits) {negative : Bool} {whole fraction tail : List Char}
    {exponent : Int} (hne : whole ≠ []) (hwhole : ∀ c ∈ whole, c.isDigit = true)
    (hfraction : ∀ c ∈ fraction, c.isDigit = true)
    (htail : ∀ c ∈ tail.head?, u.decimal c = none ∧ c ≠ '.')
    (hexponent : parseExponent u tail = some exponent)
    {d : Decimal} (hd : d = ⟨negative, Nat.ofDigitChars 10 (whole ++ fraction) 0,
      exponent - fraction.length⟩) (hrep : d.IsRepresentable) :
    parse u (String.ofList ((if negative then ['-'] else []) ++ whole ++ point fraction ++ tail))
      = some d := by
  have hsplit : splitSign ((if negative then ['-'] else []) ++ whole ++ point fraction ++ tail)
      = (negative, whole ++ (point fraction ++ tail)) := by
    cases negative with
    | true => simp [splitSign]
    | false =>
      cases whole with
      | nil => exact absurd rfl hne
      | cons c rest =>
        have hc := hwhole c List.mem_cons_self
        have hminus : c ≠ '-' := by
          intro h
          subst h
          exact absurd hc (by decide)
        have hplus : c ≠ '+' := by
          intro h
          subst h
          exact absurd hc (by decide)
        simp [splitSign, hminus, hplus]
  have hrest : ∀ c ∈ (point fraction ++ tail).head?, u.decimal c = none := by
    intro c hc
    unfold point at hc
    split at hc
    · exact (htail c hc).1
    · cases hc
      exact hu.other _ (by decide)
  have hnumber : number u (whole ++ fraction) = d.coefficient := by
    rw [number_eq hu, hd]
    intro c hc
    rcases List.mem_append.mp hc with h | h
    · exact hwhole c h
    · exact hfraction c h
  have hlast : ∀ c ∈ tail.head?, u.decimal c = none := fun c hc => (htail c hc).1
  have hsome : (parseExponent u tail).bind (fun exponent =>
      if (Decimal.mk negative (number u (whole ++ fraction)) (exponent - fraction.length)).IsRepresentable
      then some (Decimal.mk negative (number u (whole ++ fraction)) (exponent - fraction.length))
      else none) = some d := by
    have hmk : Decimal.mk negative (number u (whole ++ fraction)) (exponent - fraction.length)
        = d := by
      rw [hnumber, hd]
    rw [hexponent, Option.bind_some, hmk, if_pos hrep]
  unfold parse
  simp only [String.toList_ofList, hsplit, takeWhile_digits hu hwhole hrest,
    dropWhile_digits hu hwhole hrest]
  by_cases hempty : fraction = []
  · subst hempty
    have hhead : (point [] ++ tail).head? ≠ some '.' := fun h => (htail '.' h).2 rfl
    simp only [hhead, if_false, hne, false_and]
    exact hsome
  · have hpoint : point fraction = '.' :: fraction := if_neg hempty
    simp only [hpoint, List.cons_append, List.head?_cons, if_true, List.tail_cons,
      takeWhile_digits hu hfraction hlast, dropWhile_digits hu hfraction hlast, hne, false_and,
      if_false]
    exact hsome

/-- The digits of a placed coefficient before and after the point. -/
theorem placed_eq {digits : List Char} (h : digits ≠ []) (places : Int) :
    ∃ whole fraction, placed digits places = whole ++ point fraction ∧ whole ≠ [] ∧
      (∀ c ∈ whole ++ fraction, c ∈ digits ∨ c = '0') ∧
      (places ≤ digits.length →
        Nat.ofDigitChars 10 (whole ++ fraction) 0 = Nat.ofDigitChars 10 digits 0 ∧
          (fraction.length : Int) = digits.length - places) := by
  unfold placed
  by_cases hle : places ≤ 0
  · refine ⟨['0'], List.replicate (-places).toNat '0' ++ digits, ?_, by simp, ?_, ?_⟩
    · rw [if_pos hle, point, if_neg (by simp [h])]
      rfl
    · intro c hc
      simp only [List.mem_append, List.mem_singleton, List.mem_replicate] at hc
      rcases hc with hc | hc | hc
      · exact .inr hc
      · exact .inr hc.2
      · exact .inl hc
    · intro _
      refine ⟨?_, ?_⟩
      · have hzeros : ['0'] ++ (List.replicate (-places).toNat '0' ++ digits)
            = List.replicate ((-places).toNat + 1) '0' ++ digits := rfl
        rw [hzeros, Nat.ofDigitChars_append, Nat.ofDigitChars_replicate_zero, Nat.mul_zero]
      · rw [List.length_append, List.length_replicate]
        omega
  · rw [if_neg hle]
    by_cases hshort : digits.length ≤ places.toNat
    · refine ⟨digits ++ List.replicate (places.toNat - digits.length) '0', [], ?_, by simp [h],
        ?_, ?_⟩
      · rw [if_pos hshort]
        simp [point]
      · intro c hc
        simp only [List.append_nil, List.mem_append, List.mem_replicate] at hc
        exact hc.imp id And.right
      · intro hfit
        have heq : places.toNat - digits.length = 0 := by omega
        rw [heq]
        refine ⟨by simp, ?_⟩
        rw [List.length_nil]
        omega
    · refine ⟨digits.take places.toNat, digits.drop places.toNat, ?_, ?_, ?_, ?_⟩
      · rw [if_neg hshort, point, if_neg]
        rw [List.drop_eq_nil_iff]
        exact hshort
      · intro hnil
        rw [List.take_eq_nil_iff] at hnil
        rcases hnil with hzero | hnil
        · omega
        · exact h hnil
      · intro c hc
        rw [List.take_append_drop] at hc
        exact .inl hc
      · intro _
        rw [List.take_append_drop, List.length_drop]
        refine ⟨rfl, ?_⟩
        omega

theorem parseExponent_signedNumeral (hu : u.PlainDigits) (n : Int) :
    parseExponent u ('E' :: signedNumeral n) = some n := by
  have hdigits : ∀ c ∈ Nat.toDigits 10 n.natAbs, c.isDigit = true := fun c hc =>
    Nat.isDigit_of_mem_toDigits (by decide) (by decide) hc
  have hall : (Nat.toDigits 10 n.natAbs).all (fun c => (u.decimal c).isSome) = true :=
    List.all_eq_true.mpr (isSome_decimal hu hdigits)
  have hnumber : number u (Nat.toDigits 10 n.natAbs) = n.natAbs := by
    rw [number_eq hu hdigits, Nat.ofDigitChars_ten_toDigits]
  have hne : Nat.toDigits 10 n.natAbs ≠ [] := Nat.toDigits_ne_nil
  have hsplit : splitSign (signedNumeral n) = (decide (n < 0), Nat.toDigits 10 n.natAbs) := by
    unfold signedNumeral
    by_cases hneg : n < 0
    · simp [hneg, splitSign]
    · simp [hneg, splitSign]
  have hvalue : (if decide (n < 0) = true then -1 else 1) * (n.natAbs : Int) = n := by
    by_cases hneg : n < 0
    · simp only [hneg, decide_true, if_true]
      omega
    · simp only [hneg, decide_false, Bool.false_eq_true, if_false]
      omega
  unfold parseExponent
  simp only [or_true, if_true, hsplit, hne, hall, ne_eq, not_false_eq_true, and_self, hnumber,
    hvalue]

/-- `Decimal(str(d)) == d`. -/
theorem parse_text (hu : u.PlainDigits) {d : Decimal} (h : d.IsRepresentable) :
    parse u d.text = some d := by
  have hdigits : d.digits ≠ [] := Nat.toDigits_ne_nil
  have hlength : 1 ≤ d.digits.length := List.length_pos_iff.mpr hdigits
  have hcoefficient : Nat.ofDigitChars 10 d.digits 0 = d.coefficient :=
    Nat.ofDigitChars_ten_toDigits
  -- The point stands inside the digits or before them, never behind.
  have hkey : ∀ places : Int, places ≤ d.digits.length → ∀ tail,
      (∀ c ∈ tail.head?, u.decimal c = none ∧ c ≠ '.') →
      parseExponent u tail = some (d.exponent + d.digits.length - places) →
      parse u (String.ofList (d.sign ++ placed d.digits places ++ tail)) = some d := by
    intro places hfit tail htail hexponent
    obtain ⟨whole, fraction, hplaced, hne, hmem, hvalue⟩ := placed_eq hdigits places
    obtain ⟨hnumber, hfraction⟩ := hvalue hfit
    have hisDigit : ∀ c ∈ whole ++ fraction, c.isDigit = true := by
      intro c hc
      rcases hmem c hc with h | h
      · exact isDigit_of_mem_digits h
      · subst h
        decide
    rw [hplaced, ← List.append_assoc]
    refine parse_written hu hne (fun c hc => hisDigit c (List.mem_append_left _ hc))
      (fun c hc => hisDigit c (List.mem_append_right _ hc)) htail hexponent ?_ h
    rw [hnumber, hcoefficient, hfraction]
    have hexp : d.exponent + d.digits.length - places - (d.digits.length - places)
        = d.exponent := by omega
    rw [hexp]
  unfold text
  simp only
  by_cases hplain : (decide (d.exponent ≤ 0) && decide (-6 < d.exponent + d.digits.length)) = true
  · rw [if_pos hplain]
    simp only [Bool.and_eq_true, decide_eq_true_eq] at hplain
    rw [if_pos rfl]
    refine hkey _ (by omega) [] (by simp) ?_
    simp [parseExponent]
  · rw [if_neg hplain]
    simp only [Bool.and_eq_true, decide_eq_true_eq] at hplain
    have hleft : d.exponent + d.digits.length ≠ 1 := by omega
    rw [if_neg hleft]
    refine hkey 1 (by omega) _ ?_ ?_
    · intro c hc
      cases hc
      exact ⟨hu.other _ (by decide), by decide⟩
    · exact parseExponent_signedNumeral hu _

end Decimal
