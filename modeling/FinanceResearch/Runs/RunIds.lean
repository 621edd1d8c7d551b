import FinanceResearch.Domain.Packets
import FinanceResearch.Lib.DecimalText

/-!
# Reading run IDs

`FileSystemRunRepository._validated_run_id`, the reader of every run ID that names
a directory, and `format_run_id`, which writes them. What is written is read back.
What is read was written only if it is ASCII: the `\d` of the pattern takes every
decimal digit of Unicode, and so does `int`.

Mirroring notes vs the source:
- `_RUN_ID` has two groups at fixed places, so `fullmatch` is a test of the parts.
- `date.fromisoformat` takes ASCII digits only; `int(text)` takes every decimal
  digit, but no more than 4300 of them, and `str(int)` writes no more.
-/

namespace FinanceResearch

open Calendar (Date)

/-- What every version of the database says of ASCII: its digits are `0` to `9`. -/
structure AsciiDigits (u : CharacterDatabase) : Prop where
  decimal : ∀ c : Char, c.toNat < 128 → u.decimal c = CharacterDatabase.ascii.decimal c

/-- `\d{4}-\d{2}-\d{2}`. -/
def isDateText (u : CharacterDatabase) : List Char → Bool
  | [y₁, y₂, y₃, y₄, a, m₁, m₂, b, d₁, d₂] =>
    [y₁, y₂, y₃, y₄, m₁, m₂, d₁, d₂].all (fun c => (u.decimal c).isSome) && a == '-' && b == '-'
  | _ => false

/-- `[1-9]\d*`. -/
def isRevisionText (u : CharacterDatabase) : List Char → Bool
  | [] => false
  | c :: rest => c.isDigit && c != '0' && rest.all fun d => (u.decimal d).isSome

/-- `_RUN_ID.fullmatch(run_id)`: the texts of its groups. -/
def runIdGroups (u : CharacterDatabase) (chars : List Char) : Option (List Char × List Char) :=
  let marketDate := (chars.drop 10).take 10
  let revision := chars.drop 22
  if chars.take 10 = "premarket-".toList ∧ isDateText u marketDate = true ∧
      (chars.drop 20).take 2 = "-r".toList ∧ isRevisionText u revision = true then
    some (marketDate, revision)
  else none

/-- `date.fromisoformat(text)` of a text `YYYY-MM-DD`. -/
def fromisoformat : List Char → Option Date
  | [y₁, y₂, y₃, y₄, a, m₁, m₂, b, d₁, d₂] =>
    let year := Nat.ofDigitChars 10 [y₁, y₂, y₃, y₄] 0
    let month := Nat.ofDigitChars 10 [m₁, m₂] 0
    let day := Nat.ofDigitChars 10 [d₁, d₂] 0
    if [y₁, y₂, y₃, y₄, m₁, m₂, d₁, d₂].all Char.isDigit = true ∧ a = '-' ∧ b = '-' then
      if h : 1 ≤ year ∧ year ≤ 9999 ∧ 1 ≤ month ∧ month ≤ 12 ∧ 1 ≤ day ∧
          day ≤ Calendar.daysInMonth year month then
        some ⟨year, month, day, h⟩
      else none
    else none
  | _ => none

/-- `sys.int_info.default_max_str_digits`. -/
def maxStrDigits : Nat := 4300

/-- `int(text)` of a text of decimal digits. -/
def parseInt (u : CharacterDatabase) (digits : List Char) : Option Nat :=
  if digits.length ≤ maxStrDigits then some (Decimal.number u digits) else none

/-- `FileSystemRunRepository._validated_run_id`; `none` for its `PathNotAllowedError`. -/
def validatedRunId (u : CharacterDatabase) (runId : String) : Option (Date × Nat) :=
  let chars := runId.toList
  if chars.any (fun c => decide (c.toNat < 32) || c.toNat == 127) then none
  else if chars.head? = some '/' ∨ '/' ∈ chars ∨ '\\' ∈ chars ∨ Text.contains runId ".." = true then
    none
  else
    (runIdGroups u chars).bind fun groups =>
      (fromisoformat groups.1).bind fun parsedDate =>
        (parseInt u groups.2).map fun revision => (parsedDate, revision)

/-- `format_run_id`; `none` for a `ValueError`. -/
def formatRunId (marketDate : Date) (revision : Nat) : Option String :=
  if h : 0 < revision then
    if (Nat.toDigits 10 revision).length ≤ maxStrDigits then
      some (RunId.text ⟨marketDate, revision, h⟩)
    else none
  else none

/-- Every character is an ASCII one. -/
def IsAscii (text : String) : Prop := ∀ c ∈ text.toList, c.toNat < 128

instance (text : String) : Decidable (IsAscii text) :=
  inferInstanceAs (Decidable (∀ c ∈ text.toList, _))

variable {u : CharacterDatabase}

/-! ## Digits -/

theorem ascii_isSome_decimal (hu : AsciiDigits u) {c : Char} (hc : c.toNat < 128) :
    (u.decimal c).isSome = true ↔ c.isDigit = true := by
  rw [hu.decimal c hc]
  unfold CharacterDatabase.ascii
  by_cases h : c.isDigit = true
  · simp [h]
  · simp [h]

theorem toNat_lt_of_isDigit {c : Char} (h : c.isDigit = true) : c.toNat < 128 := by
  have := Numerals.isDigit_range h
  omega

theorem AsciiDigits.plainDigits (hu : AsciiDigits u) : u.PlainDigits where
  digit c hc := by
    rw [hu.decimal c (toNat_lt_of_isDigit hc)]
    exact if_pos hc
  other c hc := by
    have hascii : ∀ c ∈ ['.', 'E', '+', '-'], c.toNat < 128 ∧
        CharacterDatabase.ascii.decimal c = none :=
      forall_mem_of_all (by decide)
    rw [hu.decimal c (hascii c hc).1, (hascii c hc).2]

/-! ## Dates -/

theorem length_of_isDateText {chars : List Char} (h : isDateText u chars = true) :
    chars.length = 10 := by
  unfold isDateText at h
  split at h
  · rfl
  · exact absurd h Bool.false_ne_true

/-- The four digits of a year and the two of a month or a day. -/
theorem padded_four {n : Nat} (h : n < 10 ^ 4) : ∃ a b c d, Numerals.padded 4 n = [a, b, c, d] :=
  ⟨_, _, _, _, Numerals.padded_eq_fixedDigits 4 n (by omega) h⟩

theorem padded_two {n : Nat} (h : n < 10 ^ 2) : ∃ a b, Numerals.padded 2 n = [a, b] :=
  ⟨_, _, Numerals.padded_eq_fixedDigits 2 n (by omega) h⟩

/-- **A date is read from its own text, and from no other.** -/
theorem fromisoformat_eq_some {chars : List Char} {d : Date} :
    fromisoformat chars = some d ↔ chars = d.isoformat.toList := by
  constructor
  · intro h
    unfold fromisoformat at h
    split at h
    next y₁ y₂ y₃ y₄ a m₁ m₂ b d₁ d₂ =>
      simp only at h
      split at h
      next hshape =>
        split at h
        next hvalid =>
          obtain ⟨hdigits, rfl, rfl⟩ := hshape
          rw [List.all_eq_true] at hdigits
          have hyear := Numerals.padded_ofDigitChars (List.cons_ne_nil y₁ [y₂, y₃, y₄])
            fun c hc => hdigits c (List.mem_append_left [m₁, m₂, d₁, d₂] hc)
          have hmonth := Numerals.padded_ofDigitChars (List.cons_ne_nil m₁ [m₂])
            fun c hc => hdigits c (List.mem_append_right [y₁, y₂, y₃, y₄]
              (List.mem_append_left [d₁, d₂] hc))
          have hday := Numerals.padded_ofDigitChars (List.cons_ne_nil d₁ [d₂])
            fun c hc => hdigits c (List.mem_append_right [y₁, y₂, y₃, y₄, m₁, m₂] hc)
          have hd := Option.some.inj h
          subst hd
          simp only [List.length_cons, List.length_nil] at hyear hmonth hday
          simp only [Date.isoformat, String.toList_ofList, hyear, hmonth, hday]
          rfl
        · exact absurd h (Option.some_ne_none d).symm
      · exact absurd h (Option.some_ne_none d).symm
    · exact absurd h (Option.some_ne_none d).symm
  · intro h
    have hvalid := d.valid
    have hdays := Calendar.daysInMonth_le d.year d.month
    obtain ⟨y₁, y₂, y₃, y₄, hyear⟩ := padded_four (show d.year < 10 ^ 4 by omega)
    obtain ⟨m₁, m₂, hmonth⟩ := padded_two (show d.month < 10 ^ 2 by omega)
    obtain ⟨d₁, d₂, hday⟩ := padded_two (show d.day < 10 ^ 2 by omega)
    have hchars : chars = [y₁, y₂, y₃, y₄, '-', m₁, m₂, '-', d₁, d₂] := by
      rw [h, Date.isoformat, String.toList_ofList, hyear, hmonth, hday]
      rfl
    have hdigits : [y₁, y₂, y₃, y₄, m₁, m₂, d₁, d₂].all Char.isDigit = true := by
      rw [List.all_eq_true]
      intro c hc
      have hsplit : c ∈ [y₁, y₂, y₃, y₄] ++ ([m₁, m₂] ++ [d₁, d₂]) := hc
      rw [← hyear, ← hmonth, ← hday, List.mem_append, List.mem_append] at hsplit
      rcases hsplit with hc | hc | hc
      · exact Numerals.isDigit_of_mem_padded hc
      · exact Numerals.isDigit_of_mem_padded hc
      · exact Numerals.isDigit_of_mem_padded hc
    have hy := Numerals.ofDigitChars_padded 4 d.year
    have hm := Numerals.ofDigitChars_padded 2 d.month
    have hn := Numerals.ofDigitChars_padded 2 d.day
    rw [hyear] at hy
    rw [hmonth] at hm
    rw [hday] at hn
    subst hchars
    simp only [fromisoformat, hdigits, hy, hm, hn, and_self, ↓reduceIte, hvalid, ↓reduceDIte]

/-- The text of a date has the shape of one. -/
theorem isDateText_isoformat (hu : AsciiDigits u) (d : Date) :
    isDateText u d.isoformat.toList = true := by
  have hread := (fromisoformat_eq_some (d := d)).mpr rfl
  generalize d.isoformat.toList = chars at hread
  unfold fromisoformat at hread
  split at hread
  next y₁ y₂ y₃ y₄ a m₁ m₂ b d₁ d₂ =>
    simp only at hread
    split at hread
    next hshape =>
      obtain ⟨hdigits, rfl, rfl⟩ := hshape
      have hall : [y₁, y₂, y₃, y₄, m₁, m₂, d₁, d₂].all (fun c => (u.decimal c).isSome) = true := by
        rw [List.all_eq_true] at hdigits ⊢
        intro c hc
        exact (ascii_isSome_decimal hu (toNat_lt_of_isDigit (hdigits c hc))).mpr (hdigits c hc)
      simp only [isDateText, hall, beq_self_eq_true, Bool.and_self]
    · exact absurd hread (Option.some_ne_none d).symm
  · exact absurd hread (Option.some_ne_none d).symm

/-! ## Revisions -/

/-- ASCII digits without a leading zero are the numeral of the number `int` reads. -/
theorem toDigits_number (hu : AsciiDigits u) {chars : List Char}
    (hshape : isRevisionText u chars = true) (hascii : ∀ c ∈ chars, c.toNat < 128) :
    0 < Decimal.number u chars ∧ Nat.toDigits 10 (Decimal.number u chars) = chars := by
  cases chars with
  | nil => exact absurd hshape Bool.false_ne_true
  | cons c rest =>
    simp only [isRevisionText, Bool.and_eq_true, bne_iff_ne, List.all_eq_true] at hshape
    obtain ⟨⟨hc, hzero⟩, hrest⟩ := hshape
    have hdigits : ∀ d ∈ c :: rest, d.isDigit = true := by
      intro d hd
      rcases List.mem_cons.mp hd with heq | hd
      · exact heq ▸ hc
      · exact (ascii_isSome_decimal hu (hascii d (List.mem_cons_of_mem _ hd))).mp (hrest d hd)
    have htext := Numerals.toDigits_ofDigitChars hzero hdigits
    rw [Decimal.number_eq hu.plainDigits hdigits]
    refine ⟨?_, htext⟩
    by_contra hnot
    have hzeroText : Nat.toDigits 10 (Nat.ofDigitChars 10 (c :: rest) 0) = ['0'] := by
      rw [Nat.eq_zero_of_not_pos hnot]
      rfl
    exact hzero (List.head_eq_of_cons_eq (htext.symm.trans hzeroText))

/-- The numeral of a positive number is the text of a revision, and `int` reads it. -/
theorem revisionText_toDigits (hu : AsciiDigits u) {n : Nat} (hn : 0 < n) :
    isRevisionText u (Nat.toDigits 10 n) = true ∧ Decimal.number u (Nat.toDigits 10 n) = n := by
  have hdigits : ∀ c ∈ Nat.toDigits 10 n, c.isDigit = true := fun c hc =>
    Nat.isDigit_of_mem_toDigits (by omega) (by omega) hc
  constructor
  · have hhead := Numerals.head?_toDigits hn
    cases htext : Nat.toDigits 10 n with
    | nil => exact absurd htext Nat.toDigits_ne_nil
    | cons c rest =>
      rw [htext] at hdigits hhead
      simp only [isRevisionText, Bool.and_eq_true, bne_iff_ne, List.all_eq_true]
      refine ⟨⟨hdigits c List.mem_cons_self, ?_⟩, ?_⟩
      · exact fun hzero => hhead (congrArg some hzero)
      · intro d hd
        have hdigit := hdigits d (List.mem_cons_of_mem _ hd)
        exact (ascii_isSome_decimal hu (toNat_lt_of_isDigit hdigit)).mpr hdigit
  · rw [Decimal.number_eq hu.plainDigits hdigits, Nat.ofDigitChars_ten_toDigits]

/-! ## Run IDs -/

/-- The pattern takes the texts of this form apart. -/
theorem runIdGroups_eq_some {chars date revision : List Char} :
    runIdGroups u chars = some (date, revision) ↔
      chars = "premarket-".toList ++ (date ++ ("-r".toList ++ revision)) ∧
        isDateText u date = true ∧ isRevisionText u revision = true := by
  have hstart : "premarket-".toList.length = 10 := by decide
  have hlink : "-r".toList.length = 2 := by decide
  unfold runIdGroups
  constructor
  · intro h
    simp only at h
    split at h
    next hparts =>
      obtain ⟨hpre, hdate, hsep, hrevision⟩ := hparts
      obtain ⟨rfl, rfl⟩ := Prod.mk.inj (Option.some.inj h)
      refine ⟨?_, hdate, hrevision⟩
      rw [← hpre, ← hsep]
      conv_lhs => rw [← List.take_append_drop 10 chars, ← List.take_append_drop 10 (chars.drop 10),
        List.drop_drop, ← List.take_append_drop 2 (chars.drop (10 + 10)), List.drop_drop]
    · exact absurd h (Option.some_ne_none _).symm
  · intro h
    obtain ⟨rfl, hdate, hrevision⟩ := h
    have hlength := length_of_isDateText hdate
    have htake : ("premarket-".toList ++ (date ++ ("-r".toList ++ revision))).take 10 =
        "premarket-".toList := List.take_left' hstart
    have hten : ("premarket-".toList ++ (date ++ ("-r".toList ++ revision))).drop 10 =
        date ++ ("-r".toList ++ revision) := List.drop_left' hstart
    have htwenty : ("premarket-".toList ++ (date ++ ("-r".toList ++ revision))).drop 20 =
        "-r".toList ++ revision := by
      rw [show 20 = 10 + 10 from rfl, ← List.drop_drop, hten, List.drop_left' hlength]
    have hlast : ("premarket-".toList ++ (date ++ ("-r".toList ++ revision))).drop 22 =
        revision := by
      rw [show 22 = 20 + 2 from rfl, ← List.drop_drop, htwenty, List.drop_left' hlink]
    simp only [htake, hten, htwenty, hlast, List.take_left' hlength, List.take_left' hlink, hdate,
      hrevision, and_self, ↓reduceIte]

/-- The characters of a run ID. -/
theorem text_toList (r : RunId) : r.text.toList = "premarket-".toList ++
    (r.marketDate.isoformat.toList ++ ("-r".toList ++ Nat.toDigits 10 r.revision)) := by
  simp [RunId.text, Nat.repr, toString]

/-- A run ID is written with letters, digits and hyphens. -/
theorem mem_text {r : RunId} {c : Char} (h : c ∈ r.text.toList) :
    c.isAlphanum = true ∨ c = '-' := by
  have hstart : ∀ c ∈ "premarket-".toList, c.isAlphanum = true ∨ c = '-' :=
    forall_mem_of_all (by decide)
  have hlink : ∀ c ∈ "-r".toList, c.isAlphanum = true ∨ c = '-' := forall_mem_of_all (by decide)
  rw [text_toList, List.mem_append, List.mem_append, List.mem_append] at h
  rcases h with h | h | h | h
  · exact hstart c h
  · exact (isoformat_toList _ c h).imp_left isAlphanum_of_isDigit
  · exact hlink c h
  · exact Or.inl (isAlphanum_of_isDigit (Nat.isDigit_of_mem_toDigits (by omega) (by omega) h))

/-- Such characters are ASCII and no control characters. -/
theorem plain_range {c : Char} (h : c.isAlphanum = true ∨ c = '-') :
    32 ≤ c.toNat ∧ c.toNat < 127 := by
  rcases h with h | rfl
  · have hval : c.val.toNat = c.toNat := rfl
    rcases (Bool.or_eq_true c.isAlpha c.isDigit).mp h with h | h
    · rcases (Bool.or_eq_true c.isUpper c.isLower).mp h with h | h
      · have hupper : 65 ≤ c.val ∧ c.val ≤ 90 := of_decide_eq_true h
        rw [UInt32.le_iff_toNat_le, UInt32.le_iff_toNat_le] at hupper
        have hlo : 65 ≤ c.val.toNat := hupper.1
        have hhi : c.val.toNat ≤ 90 := hupper.2
        omega
      · obtain ⟨hlo, hhi⟩ := (Bool.and_eq_true _ _).mp h
        have hlo : 97 ≤ c.val.toNat := UInt32.le_iff_toNat_le.mp (of_decide_eq_true hlo)
        have hhi : c.val.toNat ≤ 122 := UInt32.le_iff_toNat_le.mp (of_decide_eq_true hhi)
        omega
    · have := Numerals.isDigit_range h
      omega
  · decide

theorem isAscii_text (r : RunId) : IsAscii r.text := fun _ hc =>
  Nat.lt_trans (plain_range (mem_text hc)).2 (by omega)

/-- A text that contains another contains its first character. -/
theorem mem_of_contains {text needle : String} {c : Char} (hc : needle.toList.head? = some c)
    (h : Text.contains text needle = true) : c ∈ text.toList := by
  unfold Text.contains at h
  obtain ⟨tail, htail, hprefix⟩ := List.any_eq_true.mp h
  obtain ⟨rest, hrest⟩ := List.isPrefixOf_iff_prefix.mp hprefix
  have hmem : c ∈ tail := hrest ▸ List.mem_append_left _ (List.mem_of_mem_head? hc)
  exact ((List.mem_tails _ _).mp htail).subset hmem

theorem formatRunId_eq_some {d : Date} {revision : Nat} {runId : String} :
    formatRunId d revision = some runId ↔ (Nat.toDigits 10 revision).length ≤ maxStrDigits ∧
      ∃ h : 0 < revision, runId = RunId.text ⟨d, revision, h⟩ := by
  unfold formatRunId
  split
  next hpos =>
    split
    next hlength => simp [hlength, hpos, eq_comm]
    next hlength => simp [hlength]
  next hpos => simp [hpos]

/-- What the reader accepts. -/
theorem validatedRunId_parts {runId : String} {d : Date} {revision : Nat}
    (h : validatedRunId u runId = some (d, revision)) :
    ∃ digits, runId.toList = "premarket-".toList ++
        (d.isoformat.toList ++ ("-r".toList ++ digits)) ∧ isRevisionText u digits = true ∧
      digits.length ≤ maxStrDigits ∧ revision = Decimal.number u digits := by
  unfold validatedRunId at h
  simp only at h
  split at h
  · exact absurd h (Option.some_ne_none _).symm
  · split at h
    · exact absurd h (Option.some_ne_none _).symm
    · obtain ⟨⟨dateText, digits⟩, hgroups, h⟩ := Option.bind_eq_some_iff.mp h
      obtain ⟨date, hdate, h⟩ := Option.bind_eq_some_iff.mp h
      obtain ⟨number, hnumber, hpair⟩ := Option.map_eq_some_iff.mp h
      obtain ⟨rfl, rfl⟩ := Prod.mk.inj hpair
      obtain ⟨hchars, _, hrevision⟩ := runIdGroups_eq_some.mp hgroups
      unfold parseInt at hnumber
      split at hnumber
      next hlength =>
        refine ⟨digits, ?_, hrevision, hlength, (Option.some.inj hnumber).symm⟩
        rw [← fromisoformat_eq_some.mp hdate]
        exact hchars
      · exact absurd hnumber (Option.some_ne_none _).symm

/-- **A run ID that is written is read back.** -/
theorem validatedRunId_formatRunId (hu : AsciiDigits u) {d : Date} {revision : Nat}
    {runId : String} (h : formatRunId d revision = some runId) :
    validatedRunId u runId = some (d, revision) := by
  obtain ⟨hlength, hpos, rfl⟩ := formatRunId_eq_some.mp h
  have hmem : ∀ c ∈ (RunId.text ⟨d, revision, hpos⟩).toList, c.isAlphanum = true ∨ c = '-' :=
    fun c hc => mem_text hc
  have hno : ∀ c ∈ ['/', '\\', '.'], ¬ (c.isAlphanum = true ∨ c = '-') :=
    forall_mem_of_all (by decide)
  have hcontrol : ¬ (RunId.text ⟨d, revision, hpos⟩).toList.any
      (fun c => decide (c.toNat < 32) || c.toNat == 127) = true := by
    rw [List.any_eq_true]
    intro hany
    obtain ⟨c, hc, hbad⟩ := hany
    have hrange := plain_range (hmem c hc)
    simp only [Bool.or_eq_true, decide_eq_true_eq, beq_iff_eq] at hbad
    omega
  have hpath : ¬ ((RunId.text ⟨d, revision, hpos⟩).toList.head? = some '/' ∨
      '/' ∈ (RunId.text ⟨d, revision, hpos⟩).toList ∨
      '\\' ∈ (RunId.text ⟨d, revision, hpos⟩).toList ∨
      Text.contains (RunId.text ⟨d, revision, hpos⟩) ".." = true) := by
    intro hbad
    rcases hbad with hbad | hbad | hbad | hbad
    · exact hno '/' (by decide) (hmem _ (List.mem_of_mem_head? hbad))
    · exact hno '/' (by decide) (hmem _ hbad)
    · exact hno '\\' (by decide) (hmem _ hbad)
    · exact hno '.' (by decide) (hmem _ (mem_of_contains rfl hbad))
  obtain ⟨hshape, hnumber⟩ := revisionText_toDigits hu hpos
  have hgroups := runIdGroups_eq_some.mpr
    ⟨text_toList ⟨d, revision, hpos⟩, isDateText_isoformat hu d, hshape⟩
  unfold validatedRunId
  simp only [if_neg hcontrol, if_neg hpath, hgroups, Option.bind_some,
    fromisoformat_eq_some.mpr rfl, parseInt, if_pos hlength, hnumber, Option.map_some]

/-- **What is read is canonical when it is ASCII, and only then.** -/
theorem formatRunId_validatedRunId (hu : AsciiDigits u) {d : Date} {revision : Nat}
    {runId : String} (h : validatedRunId u runId = some (d, revision)) :
    formatRunId d revision = some runId ↔ IsAscii runId := by
  constructor
  · intro hformat
    obtain ⟨_, hpos, rfl⟩ := formatRunId_eq_some.mp hformat
    exact isAscii_text _
  · intro hascii
    obtain ⟨digits, hchars, hshape, hlength, rfl⟩ := validatedRunId_parts h
    have hdigits : ∀ c ∈ digits, c.toNat < 128 := by
      intro c hc
      refine hascii c ?_
      rw [hchars]
      exact List.mem_append_right _ (List.mem_append_right _ (List.mem_append_right _ hc))
    obtain ⟨hpos, htext⟩ := toDigits_number hu hshape hdigits
    have hlimit : (Nat.toDigits 10 (Decimal.number u digits)).length ≤ maxStrDigits := by
      rw [htext]
      exact hlength
    refine formatRunId_eq_some.mpr ⟨hlimit, hpos, String.toList_injective ?_⟩
    rw [text_toList, htext]
    exact hchars

/-- **Run IDs are canonical as far as they are ASCII**: an accepted ID is the one
`format_run_id` writes exactly when it is ASCII, everything written is read back, and
two accepted IDs of one revision differ only when one of them is not ASCII. -/
theorem runIds_canonical_iff (hu : AsciiDigits u) :
    (∀ runId d revision, validatedRunId u runId = some (d, revision) →
      (formatRunId d revision = some runId ↔ IsAscii runId)) ∧
    (∀ d revision runId, formatRunId d revision = some runId →
      validatedRunId u runId = some (d, revision)) ∧
    (∀ d revision, (∃ runId, formatRunId d revision = some runId) ↔
      0 < revision ∧ (Nat.toDigits 10 revision).length ≤ maxStrDigits) ∧
    ∀ runId other result, validatedRunId u runId = some result →
      validatedRunId u other = some result → IsAscii runId → (runId = other ↔ IsAscii other) := by
  refine ⟨fun _ _ _ h => formatRunId_validatedRunId hu h,
    fun _ _ _ h => validatedRunId_formatRunId hu h, ?_, ?_⟩
  · intro d revision
    simp [formatRunId_eq_some, and_comm]
  · intro runId other result hrun hother hascii
    have hrun := (formatRunId_validatedRunId hu hrun).mpr hascii
    constructor
    · exact fun heq => heq ▸ hascii
    · intro hascii'
      have hother := (formatRunId_validatedRunId hu hother).mpr hascii'
      exact Option.some.inj (hrun.symm.trans hother)

theorem ascii_asciiDigits : AsciiDigits CharacterDatabase.ascii := ⟨fun _ _ => rfl⟩

def firstMonday : Date := ⟨2026, 1, 5, Calendar.firstMonday_valid⟩

theorem runIds_canonical_iff_sample :
    formatRunId firstMonday 1 = some "premarket-2026-01-05-r1" ↔
      IsAscii "premarket-2026-01-05-r1" :=
  (runIds_canonical_iff ascii_asciiDigits).1 "premarket-2026-01-05-r1" firstMonday 1 (by decide)

/-- A database that knows the Arabic-Indic digit three besides ASCII. -/
def arabicThree : CharacterDatabase :=
  { CharacterDatabase.ascii with
    decimal := fun c => if c = '٣' then some 3 else CharacterDatabase.ascii.decimal c }

/-- Two IDs are accepted for revision 13, and only one of them is written. -/
theorem runIds_two_texts :
    AsciiDigits arabicThree ∧
    validatedRunId arabicThree "premarket-2026-01-05-r1٣" = some (firstMonday, 13) ∧
    validatedRunId arabicThree "premarket-2026-01-05-r13" = some (firstMonday, 13) ∧
    formatRunId firstMonday 13 ≠ some "premarket-2026-01-05-r1٣" := by
  refine ⟨⟨?_⟩, by decide, by decide, by decide⟩
  intro c hc
  have hne : c ≠ '٣' := by
    intro heq
    subst heq
    exact absurd hc (by decide)
  exact if_neg hne

end FinanceResearch
