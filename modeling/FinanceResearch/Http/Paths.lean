import FinanceResearch.Http.Queries
import FinanceResearch.Urls.Agreement

/-!
# Request paths

`_validate_path` (`adapters/http_client.py`) decodes a path until it is stable and looks at the
result. A delimiter is no part of an escape and of no UTF-8 sequence, so decoding goes on
between delimiters (`unquote_respects`) and one that appears at any depth is still there in the
stable path. What is accepted is therefore safe however often it is decoded behind the
boundary (`validatePath_iff`).

Mirroring notes vs the source:
- The loop of `_fully_percent_decode` ends, since a round that changes a text shortens it
  (`unquote_shrinks`); it runs for as many rounds as there are characters.
-/

namespace FinanceResearch.Http

open Config Urls Rounds

/-- `_MAX_PATH_LENGTH`. -/
def maxPathLength : Nat := 2048

/-- `_fully_percent_decode`. -/
def fullyPercentDecode (value : List Char) : List Char := untilStable unquote value.length value

/-- `_contains_path_delimiter`. -/
def containsPathDelimiter (path : List Char) : Bool :=
  decide ('?' ∈ fullyPercentDecode path) || decide ('#' ∈ fullyPercentDecode path)

/-- `text == text.strip()`. -/
def isStripped (u : CharacterDatabase) (text : List Char) : Bool :=
  !text.head?.any u.isSpace && !text.getLast?.any u.isSpace

/-- `_validate_path`. -/
def validatePath (u : CharacterDatabase) (urls : UrlLibrary) (path : List Char) :
    Except RequestError Unit := do
  Fallible.require (path.length ≤ maxPathLength) (.rejected "path exceeds maximum length")
  Fallible.require (isStripped u path = true ∧ path.head? = some '/')
    (.rejected "path must be an absolute request path")
  Fallible.require ((fullyPercentDecode path).length ≤ maxPathLength ∧
      (fullyPercentDecode path).head? = some '/')
    (.rejected "path must be an absolute request path")
  Fallible.require (noControl urls (path ++ fullyPercentDecode path) = true ∧
      '\\' ∉ path ∧ '\\' ∉ fullyPercentDecode path)
    (.rejected "path contains an invalid control or format character")
  Fallible.require (containsPathDelimiter path = false)
    (.rejected "path contains an ambiguous query or fragment delimiter")
  Fallible.require (containsTraversal path = false) (.rejected "path contains traversal")

/-! ## Bytes -/

theorem firstByte_ranges {b value : Nat} {ranges : List (Nat × Nat)}
    (h : firstByte b = some (value, ranges)) : ∀ range ∈ ranges, 0x80 ≤ range.1 := by
  unfold firstByte at h
  split_ifs at h
  all_goals
    simp only [Option.some.injEq, Prod.mk.injEq] at h
    rw [← h.2]
    decide

/-- The bytes that continue a character end before an ASCII byte. -/
theorem continuation_append {s : UInt8} (hs : s.toNat < 0x80) (behind : List UInt8) :
    ∀ {ranges : List (Nat × Nat)} {value : Nat} {bytes : List UInt8},
      (∀ range ∈ ranges, 0x80 ≤ range.1) →
      continuation value ranges (bytes ++ s :: behind) =
        ((continuation value ranges bytes).1, (continuation value ranges bytes).2 ++ s :: behind) := by
  intro ranges
  induction ranges with
  | nil => exact fun _ => rfl
  | cons range ranges ih =>
    intro value bytes h
    rw [List.forall_mem_cons] at h
    obtain ⟨low, high⟩ := range
    cases bytes with
    | nil =>
      show (if low ≤ s.toNat ∧ s.toNat ≤ high then _ else _) = _
      have hlow : 0x80 ≤ low := h.1
      rw [if_neg (by omega)]
      rfl
    | cons b bytes =>
      show (if low ≤ b.toNat ∧ b.toNat ≤ high then _ else _) = _
      rw [continuation]
      by_cases hb : low ≤ b.toNat ∧ b.toNat ≤ high
      · rw [if_pos hb, if_pos hb]
        exact ih h.2
      · rw [if_neg hb, if_neg hb]
        rfl

theorem length_continuation : ∀ (ranges : List (Nat × Nat)) (value : Nat) (bytes : List UInt8),
    (continuation value ranges bytes).2.length ≤ bytes.length := by
  intro ranges
  induction ranges with
  | nil => exact fun _ _ => le_rfl
  | cons range ranges ih =>
    intro value bytes
    obtain ⟨low, high⟩ := range
    cases bytes with
    | nil => exact le_rfl
    | cons b bytes =>
      rw [continuation]
      by_cases hb : low ≤ b.toNat ∧ b.toNat ≤ high
      · rw [if_pos hb]
        exact Nat.le_succ_of_le (ih _ _)
      · rw [if_neg hb]

/-- More rounds than bytes change nothing. -/
theorem utf8Replace_rounds : ∀ {n m : Nat} {bytes : List UInt8}, bytes.length ≤ n →
    bytes.length ≤ m → utf8Replace n bytes = utf8Replace m bytes := by
  intro n
  induction n with
  | zero =>
    intro m bytes hn _
    rw [List.length_eq_zero_iff.mp (Nat.le_zero.mp hn)]
    cases m <;> rfl
  | succ n ih =>
    intro m bytes hn hm
    cases bytes with
    | nil => cases m <;> rfl
    | cons b bytes =>
      obtain ⟨m, rfl⟩ := Nat.exists_eq_add_of_le' (Nat.le_trans (Nat.succ_pos _) hm)
      rw [List.length_cons] at hn hm
      rw [utf8Replace, utf8Replace]
      rw [ih (by omega) (show bytes.length ≤ m by omega)]
      cases hfirst : firstByte b.toNat with
      | none => rfl
      | some found =>
        obtain ⟨value, ranges⟩ := found
        have hlength := length_continuation ranges value bytes
        dsimp only
        rw [ih (by omega) (show (continuation value ranges bytes).2.length ≤ m by omega)]

/-- `data.decode("utf-8", errors="replace")`. -/
def decodeUtf8 (bytes : List UInt8) : List Char := utf8Replace bytes.length bytes

theorem utf8Replace_eq {n : Nat} {bytes : List UInt8} (h : bytes.length ≤ n) :
    utf8Replace n bytes = decodeUtf8 bytes := utf8Replace_rounds h le_rfl

theorem decodeUtf8_ascii {b : UInt8} (h : b.toNat < 0x80) (rest : List UInt8) :
    decodeUtf8 (b :: rest) = Char.ofNat b.toNat :: decodeUtf8 rest := by
  unfold decodeUtf8
  rw [List.length_cons, utf8Replace, if_pos h]

theorem decodeUtf8_none {b : UInt8} (h : 0x80 ≤ b.toNat) (hfirst : firstByte b.toNat = none)
    (rest : List UInt8) : decodeUtf8 (b :: rest) = replacement :: decodeUtf8 rest := by
  unfold decodeUtf8
  rw [List.length_cons, utf8Replace, if_neg (by omega), hfirst]

theorem decodeUtf8_some {b : UInt8} {value : Nat} {ranges : List (Nat × Nat)} (h : 0x80 ≤ b.toNat)
    (hfirst : firstByte b.toNat = some (value, ranges)) (rest : List UInt8) :
    decodeUtf8 (b :: rest) = ((continuation value ranges rest).1.map Char.ofNat).getD replacement ::
      decodeUtf8 (continuation value ranges rest).2 := by
  show utf8Replace (rest.length + 1) (b :: rest) = _
  rw [utf8Replace, if_neg (by omega), hfirst]
  dsimp only
  rw [utf8Replace_eq (length_continuation ranges value rest)]

/-- An ASCII byte ends what is before it. -/
theorem decodeUtf8_append {s : UInt8} (hs : s.toNat < 0x80) (behind : List UInt8) :
    ∀ bytes : List UInt8, decodeUtf8 (bytes ++ s :: behind) =
      decodeUtf8 bytes ++ Char.ofNat s.toNat :: decodeUtf8 behind := by
  intro bytes
  induction hn : bytes.length using Nat.strongRecOn generalizing bytes with
  | ind n ih =>
    cases bytes with
    | nil => exact decodeUtf8_ascii hs behind
    | cons b bytes =>
      rw [List.length_cons] at hn
      rw [List.cons_append]
      by_cases hb : b.toNat < 0x80
      · rw [decodeUtf8_ascii hb, decodeUtf8_ascii hb, ih bytes.length (by omega) bytes rfl,
          List.cons_append]
      · rw [not_lt] at hb
        cases hfirst : firstByte b.toNat with
        | none =>
          rw [decodeUtf8_none hb hfirst, decodeUtf8_none hb hfirst,
            ih bytes.length (by omega) bytes rfl, List.cons_append]
        | some found =>
          obtain ⟨value, ranges⟩ := found
          have hlength := length_continuation ranges value bytes
          rw [decodeUtf8_some hb hfirst, decodeUtf8_some hb hfirst,
            continuation_append hs behind (firstByte_ranges hfirst)]
          dsimp only
          rw [ih _ (by omega) _ rfl, List.cons_append]

theorem length_decodeUtf8 (bytes : List UInt8) : (decodeUtf8 bytes).length ≤ bytes.length := by
  induction hn : bytes.length using Nat.strongRecOn generalizing bytes with
  | ind n ih =>
    cases bytes with
    | nil => exact Nat.zero_le _
    | cons b bytes =>
      rw [List.length_cons] at hn
      have hrest := ih bytes.length (by omega) bytes rfl
      by_cases hb : b.toNat < 0x80
      · rw [decodeUtf8_ascii hb, List.length_cons]
        omega
      · rw [not_lt] at hb
        cases hfirst : firstByte b.toNat with
        | none =>
          rw [decodeUtf8_none hb hfirst, List.length_cons]
          omega
        | some found =>
          obtain ⟨value, ranges⟩ := found
          have hlength := length_continuation ranges value bytes
          have hbehind := ih _ (show (continuation value ranges bytes).2.length < n by omega) _ rfl
          rw [decodeUtf8_some hb hfirst, List.length_cons]
          omega

/-! ## Escapes -/

/-- A percent sign that no two digits follow is kept. -/
theorem unquoteToBytes_lone {text : List Char}
    (h : ∀ a b rest, text = a :: b :: rest → hexValue a = none ∨ hexValue b = none) :
    unquoteToBytes ('%' :: text) = UInt8.ofNat '%'.toNat :: unquoteToBytes text := by
  match text with
  | [] => rfl
  | [_] => rfl
  | a :: b :: rest =>
    rw [unquoteToBytes]
    rcases h a b rest rfl with h | h
    · rw [h]
    · rw [h]
      cases hexValue a <;> rfl

/-- What is neither a percent sign nor a digit ends every escape. -/
theorem unquoteToBytes_append {sep : Char} (hsep : sep ≠ '%') (hdigit : hexValue sep = none)
    (y : List Char) : ∀ x : List Char, unquoteToBytes (x ++ sep :: y) =
      unquoteToBytes x ++ UInt8.ofNat sep.toNat :: unquoteToBytes y := by
  intro x
  fun_induction unquoteToBytes x with
  | case1 a b rest high low hhigh hlow ih =>
    show unquoteToBytes ('%' :: a :: b :: (rest ++ sep :: y)) = _
    rw [unquoteToBytes, hhigh, hlow]
    dsimp only
    rw [ih, List.cons_append]
  | case2 a b rest hnone ih =>
    show unquoteToBytes ('%' :: (a :: b :: rest ++ sep :: y)) = _
    rw [unquoteToBytes_lone, ih, List.cons_append]
    intro a' b' rest' heq
    rw [List.cons_append, List.cons_append, List.cons.injEq, List.cons.injEq] at heq
    rw [← heq.1, ← heq.2.1]
    cases ha : hexValue a with
    | none => exact Or.inl rfl
    | some high =>
      cases hb : hexValue b with
      | none => exact Or.inr rfl
      | some low => exact absurd hb (hnone high low ha)
  | case3 c rest hc ih =>
    by_cases hpercent : c = '%'
    · subst hpercent
      show unquoteToBytes ('%' :: (rest ++ sep :: y)) = _
      rw [unquoteToBytes_lone, ih, List.cons_append]
      intro a b rest' heq
      cases rest with
      | nil =>
        rw [List.nil_append, List.cons.injEq] at heq
        rw [← heq.1]
        exact Or.inl hdigit
      | cons d rest =>
        cases rest with
        | nil =>
          rw [List.singleton_append, List.cons.injEq, List.cons.injEq] at heq
          rw [← heq.2.1]
          exact Or.inr hdigit
        | cons e more => exact absurd rfl (hc d e more rfl)
    · rw [List.cons_append, unquoteToBytes_cons hpercent, ih, List.cons_append]
  | case4 => exact unquoteToBytes_cons hsep y

/-- A run is kept, or has fewer bytes than characters. -/
theorem unquoteToBytes_cases : ∀ run : List Char,
    unquoteToBytes run = run.map (fun c => UInt8.ofNat c.toNat) ∨
      (unquoteToBytes run).length < run.length := by
  intro run
  fun_induction unquoteToBytes run with
  | case1 a b rest high low hhigh hlow ih =>
    right
    have hle : (unquoteToBytes rest).length ≤ rest.length := by
      rcases ih with h | h
      · rw [h, List.length_map]
      · exact h.le
    simp only [List.length_cons]
    omega
  | case2 a b rest hnone ih =>
    rcases ih with h | h
    · rw [h]
      exact Or.inl rfl
    · exact Or.inr (Nat.succ_lt_succ h)
  | case3 c rest hc ih =>
    rcases ih with h | h
    · rw [h]
      exact Or.inl rfl
    · exact Or.inr (Nat.succ_lt_succ h)
  | case4 => exact Or.inl rfl

/-! ## Runs of ASCII characters -/

theorem length_unquoteToBytes (run : List Char) : (unquoteToBytes run).length ≤ run.length := by
  rcases unquoteToBytes_cases run with h | h
  · rw [h, List.length_map]
  · exact h.le

theorem unquoteRun_eq (run : List Char) : unquoteRun run = decodeUtf8 (unquoteToBytes run) :=
  utf8Replace_eq (length_unquoteToBytes run)

theorem decodeUtf8_chars {run : List Char} (h : ∀ c ∈ run, c.toNat < 128) :
    decodeUtf8 (run.map fun c => UInt8.ofNat c.toNat) = run := by
  induction run with
  | nil => rfl
  | cons c run ih =>
    rw [List.forall_mem_cons] at h
    have hbyte : (UInt8.ofNat c.toNat).toNat = c.toNat := toNat_byte (by omega)
    rw [List.map_cons, decodeUtf8_ascii (by omega), hbyte, Char.ofNat_toNat, ih h.2]

/-- A run is kept or gets shorter. -/
theorem unquoteRun_cases {run : List Char} (h : ∀ c ∈ run, c.toNat < 128) :
    unquoteRun run = run ∨ (unquoteRun run).length < run.length := by
  rw [unquoteRun_eq]
  rcases unquoteToBytes_cases run with hkept | hshort
  · rw [hkept]
    exact Or.inl (decodeUtf8_chars h)
  · exact Or.inr (lt_of_le_of_lt (length_decodeUtf8 _) hshort)

section Separator

variable {sep : Char} (hascii : sep.toNat < 0x80) (hpercent : sep ≠ '%')
  (hdigit : hexValue sep = none)

include hascii hpercent hdigit

theorem unquoteRun_append (run rest : List Char) :
    unquoteRun (run ++ sep :: rest) = unquoteRun run ++ sep :: unquoteRun rest := by
  have hbyte : (UInt8.ofNat sep.toNat).toNat = sep.toNat := toNat_byte (by omega)
  rw [unquoteRun_eq, unquoteRun_eq, unquoteRun_eq, unquoteToBytes_append hpercent hdigit,
    decodeUtf8_append (by omega), hbyte, Char.ofNat_toNat]

/-- A separator in the run that is open ends it. -/
theorem unquoteRuns_open : ∀ (text run rest : List Char),
    unquoteRuns (run ++ sep :: rest) text = unquoteRun run ++ sep :: unquoteRuns rest text := by
  intro text
  induction text with
  | nil =>
    intro run rest
    rw [unquoteRuns, unquoteRuns]
    exact unquoteRun_append hascii hpercent hdigit run rest
  | cons c text ih =>
    intro run rest
    rw [unquoteRuns, unquoteRuns]
    by_cases hc : c.toNat < 0x80
    · rw [if_pos hc, if_pos hc, List.append_assoc, List.cons_append, ih]
    · rw [if_neg hc, if_neg hc, unquoteRun_append hascii hpercent hdigit, List.append_assoc,
        List.cons_append]

theorem unquoteRuns_append (rest : List Char) : ∀ (text run : List Char),
    unquoteRuns run (text ++ sep :: rest) = unquoteRuns run text ++ sep :: unquoteRuns [] rest := by
  intro text
  induction text with
  | nil =>
    intro run
    rw [List.nil_append, unquoteRuns, unquoteRuns, if_pos hascii]
    exact unquoteRuns_open hascii hpercent hdigit rest run []
  | cons c text ih =>
    intro run
    rw [List.cons_append, unquoteRuns, unquoteRuns]
    by_cases hc : c.toNat < 0x80
    · rw [if_pos hc, if_pos hc, ih]
    · rw [if_neg hc, if_neg hc, ih, List.append_assoc, List.cons_append]

end Separator

/-- What has no escape is kept. -/
theorem unquoteRuns_plain : ∀ {text run : List Char}, (∀ c ∈ run, c.toNat < 128) →
    '%' ∉ run ++ text → unquoteRuns run text = run ++ text := by
  have hplain : ∀ {run : List Char}, (∀ c ∈ run, c.toNat < 128) → '%' ∉ run →
      unquoteRun run = run := by
    intro run hrun hnone
    have hbytes : unquoteToBytes run = run.map fun c => UInt8.ofNat c.toNat := by
      clear hrun
      induction run with
      | nil => rfl
      | cons c run ih =>
        rw [List.mem_cons, not_or] at hnone
        rw [unquoteToBytes_cons (Ne.symm hnone.1), ih hnone.2, List.map_cons]
    rw [unquoteRun_eq, hbytes, decodeUtf8_chars hrun]
  intro text
  induction text with
  | nil =>
    intro run hrun hnone
    rw [List.append_nil] at hnone ⊢
    exact hplain hrun hnone
  | cons c text ih =>
    intro run hrun hnone
    rw [unquoteRuns]
    by_cases hc : c.toNat < 0x80
    · rw [if_pos hc, ih, List.append_assoc, List.singleton_append]
      · intro d hd
        rcases List.mem_append.mp hd with hd | hd
        · exact hrun d hd
        · rw [List.mem_singleton.mp hd]
          exact hc
      · rwa [List.append_assoc, List.singleton_append]
    · rw [List.mem_append, not_or, List.mem_cons, not_or] at hnone
      rw [if_neg hc, hplain hrun hnone.1, @ih [] (fun d hd => absurd hd List.not_mem_nil) hnone.2.2,
        List.nil_append]

theorem unquote_eq (text : List Char) : unquote text = unquoteRuns [] text := by
  unfold unquote
  by_cases h : '%' ∈ text
  · rw [if_pos h]
  · rw [if_neg h, unquoteRuns_plain (fun d hd => absurd hd List.not_mem_nil) h, List.nil_append]

/-! ## Rounds -/

theorem unquoteRuns_cases : ∀ {text run : List Char}, (∀ c ∈ run, c.toNat < 128) →
    unquoteRuns run text = run ++ text ∨ (unquoteRuns run text).length < (run ++ text).length := by
  intro text
  induction text with
  | nil =>
    intro run hrun
    rw [unquoteRuns, List.append_nil]
    exact unquoteRun_cases hrun
  | cons c text ih =>
    intro run hrun
    rw [unquoteRuns]
    by_cases hc : c.toNat < 0x80
    · rw [if_pos hc]
      have hrun' : ∀ d ∈ run ++ [c], d.toNat < 128 := by
        intro d hd
        rcases List.mem_append.mp hd with hd | hd
        · exact hrun d hd
        · rw [List.mem_singleton.mp hd]
          exact hc
      have hrest := ih hrun'
      rwa [List.append_assoc, List.singleton_append] at hrest
    · rw [if_neg hc]
      simp only [List.length_append, List.length_cons]
      rcases unquoteRun_cases hrun with hr | hr
      · rcases @ih [] (fun d hd => absurd hd List.not_mem_nil) with ht | ht
        · left
          rw [hr, ht, List.nil_append]
        · right
          rw [hr]
          rw [List.nil_append] at ht
          omega
      · right
        have ht : (unquoteRuns [] text).length ≤ text.length := by
          rcases @ih [] (fun d hd => absurd hd List.not_mem_nil) with ht | ht
          · rw [ht, List.nil_append]
          · exact ht.le
        omega

/-- **A round that changes a text shortens it.** -/
theorem unquote_shrinks : Shrinks unquote := by
  intro text
  rw [unquote_eq]
  exact @unquoteRuns_cases text [] (fun d hd => absurd hd List.not_mem_nil)

/-- **What is no part of an escape is decoded around.** -/
theorem unquote_respects {sep : Char} (hascii : sep.toNat < 0x80) (hpercent : sep ≠ '%')
    (hdigit : hexValue sep = none) : Respects sep unquote := by
  intro a b
  rw [unquote_eq, unquote_eq, unquote_eq]
  exact unquoteRuns_append hascii hpercent hdigit b a []

theorem fullyPercentDecode_eq (value : List Char) {n : Nat} (h : value.length ≤ n) :
    fullyPercentDecode value = unquote^[n] value := by
  unfold fullyPercentDecode
  rw [untilStable_eq_iterate, iterate_of_le unquote_shrinks le_rfl h]

/-- Further rounds lead to the same stable text. -/
theorem fullyPercentDecode_iterate (value : List Char) (n : Nat) :
    fullyPercentDecode value = unquote^[value.length] (unquote^[n] value) := by
  rw [← Function.iterate_add_apply]
  exact fullyPercentDecode_eq value (Nat.le_add_right _ _)

/-! ## Safe at every depth -/

/-- An absolute path without delimiters of a query or a fragment, backslashes and dot segments. -/
structure SafePath (path : List Char) : Prop where
  absolute : path.head? = some '/'
  delimiters : '?' ∉ path ∧ '#' ∉ path ∧ '\\' ∉ path
  dotFree : DotFree path

/-- The characters that no round takes away. -/
def isKept (c : Char) : Bool := c == '/' || c == '?' || c == '#' || c == '\\'

theorem respects_of_isKept {c : Char} (h : isKept c = true) : Respects c unquote := by
  unfold isKept at h
  simp only [Bool.or_eq_true, beq_iff_eq] at h
  rcases h with ((rfl | rfl) | rfl) | rfl
  · exact unquote_respects (by decide) (by decide) (by decide)
  · exact unquote_respects (by decide) (by decide) (by decide)
  · exact unquote_respects (by decide) (by decide) (by decide)
  · exact unquote_respects (by decide) (by decide) (by decide)

theorem mem_iterate {c : Char} (h : isKept c = true) {text : List Char} (hc : c ∈ text) (n : Nat) :
    c ∈ unquote^[n] text := by
  obtain ⟨a, b, rfl⟩ := List.mem_iff_append.mp hc
  rw [(respects_of_isKept h).iterate n]
  exact List.mem_append_right _ List.mem_cons_self

/-- A character that is kept is in the stable text if it is in that of any depth. -/
theorem not_mem_of_stable {c : Char} (h : isKept c = true) {text : List Char}
    (hstable : c ∉ fullyPercentDecode text) (n : Nat) : c ∉ unquote^[n] text := by
  intro hc
  rw [fullyPercentDecode_iterate text n] at hstable
  exact hstable (mem_iterate h hc _)

theorem unquote_nil : ∀ n, unquote^[n] [] = [] := by
  intro n
  exact Function.iterate_fixed (by decide) n

theorem absolute_iterate {path : List Char} (h : path.head? = some '/') (n : Nat) :
    (unquote^[n] path).head? = some '/' := by
  cases path with
  | nil => cases h
  | cons c rest =>
    cases h
    have hsplit := (respects_of_isKept (c := '/') (by decide)).iterate n [] rest
    rw [unquote_nil] at hsplit
    rw [List.nil_append] at hsplit
    rw [hsplit]
    rfl

theorem slashed_of_not_mem {path : List Char} (h : '\\' ∉ path) : slashed path = path := by
  unfold slashed
  conv_rhs => rw [← List.map_id path]
  refine List.map_congr_left ?_
  intro c hc
  refine if_neg ?_
  rintro rfl
  exact h hc

/-- A dot segment at any depth is one of the stable path. -/
theorem dotFree_of_stable {path : List Char} (hback : '\\' ∉ fullyPercentDecode path)
    (htraversal : containsTraversal path = false) (n : Nat) : DotFree (unquote^[n] path) := by
  intro segment hmem hdots
  have hself : unquote segment = segment := by
    have hall : ∀ dots ∈ dotSegments, unquote dots = dots := by decide
    exact hall segment hdots
  have hkept := ((respects_of_isKept (c := '/') (by decide)).iterate path.length).mem_splitOn
    (Function.iterate_fixed hself _) hmem
  rw [← fullyPercentDecode_iterate] at hkept
  have hfound : containsTraversal path = true := by
    show hasDots (fullyPercentDecode path) = true
    rw [hasDots_iff, slashed_of_not_mem hback]
    exact ⟨segment, hkept, hdots⟩
  rw [htraversal] at hfound
  cases hfound

theorem not_containsPathDelimiter_iff {path : List Char} : containsPathDelimiter path = false ↔
    '?' ∉ fullyPercentDecode path ∧ '#' ∉ fullyPercentDecode path := by
  unfold containsPathDelimiter
  rw [Bool.or_eq_false_iff, decide_eq_false_iff_not, decide_eq_false_iff_not]

theorem length_fullyPercentDecode (value : List Char) :
    (fullyPercentDecode value).length ≤ value.length := by
  have hiterate : ∀ n, (unquote^[n] value).length ≤ value.length := by
    intro n
    induction n with
    | zero => exact le_rfl
    | succ n ih =>
      rw [Function.iterate_succ_apply']
      rcases unquote_shrinks (unquote^[n] value) with h | h
      · rw [h]
        exact ih
      · omega
  rw [fullyPercentDecode_eq value le_rfl]
  exact hiterate _

theorem validatePath_spec {u : CharacterDatabase} {urls : UrlLibrary} {path : List Char}
    (h : validatePath u urls path = .ok ()) :
    path.length ≤ maxPathLength ∧ isStripped u path = true ∧
      (∀ c ∈ path ++ fullyPercentDecode path, urls.isControl c = false) ∧
      ∀ n, SafePath (unquote^[n] path) := by
  obtain ⟨_, hlength, h⟩ := Fallible.bind_eq_ok.mp h
  obtain ⟨_, habsolute, h⟩ := Fallible.bind_eq_ok.mp h
  obtain ⟨_, -, h⟩ := Fallible.bind_eq_ok.mp h
  obtain ⟨_, hclean, h⟩ := Fallible.bind_eq_ok.mp h
  obtain ⟨_, hdelimiter, htraversal⟩ := Fallible.bind_eq_ok.mp h
  rw [Fallible.require_eq_ok] at hlength habsolute hclean hdelimiter htraversal
  obtain ⟨hcontrol, -, hback⟩ := hclean
  obtain ⟨hquery, hfragment⟩ := not_containsPathDelimiter_iff.mp hdelimiter
  refine ⟨hlength, habsolute.1, noControl_iff.mp hcontrol, ?_⟩
  intro n
  exact ⟨absolute_iterate habsolute.2 n, ⟨not_mem_of_stable (by decide) hquery n,
    not_mem_of_stable (by decide) hfragment n, not_mem_of_stable (by decide) hback n⟩,
    dotFree_of_stable hback htraversal n⟩

/-- **What is accepted is safe however often it is decoded**, and nothing else is asked of a path
than that, its length, and that it is clean at both ends of the decoding. -/
theorem validatePath_iff (u : CharacterDatabase) (urls : UrlLibrary) (path : List Char) :
    validatePath u urls path = .ok () ↔
      path.length ≤ maxPathLength ∧ isStripped u path = true ∧
      (∀ c ∈ path ++ fullyPercentDecode path, urls.isControl c = false) ∧
      ∀ n, SafePath (unquote^[n] path) := by
  refine ⟨validatePath_spec, ?_⟩
  intro h
  obtain ⟨hlength, hstripped, hcontrol, hsafe⟩ := h
  have hpath := hsafe 0
  have hstable := hsafe path.length
  rw [← fullyPercentDecode_eq path le_rfl] at hstable
  have htraversal : containsTraversal path = false := by
    show hasDots (fullyPercentDecode path) = false
    rw [← Bool.not_eq_true, hasDots_iff, slashed_of_not_mem hstable.delimiters.2.2]
    intro hdots
    obtain ⟨segment, hmem, hsegment⟩ := hdots
    exact hstable.dotFree segment hmem hsegment
  refine Fallible.bind_eq_ok.mpr ⟨(), Fallible.require_eq_ok.mpr hlength, ?_⟩
  refine Fallible.bind_eq_ok.mpr ⟨(), Fallible.require_eq_ok.mpr ⟨hstripped, hpath.absolute⟩, ?_⟩
  refine Fallible.bind_eq_ok.mpr ⟨(), Fallible.require_eq_ok.mpr
    ⟨(length_fullyPercentDecode path).trans hlength, hstable.absolute⟩, ?_⟩
  refine Fallible.bind_eq_ok.mpr ⟨(), Fallible.require_eq_ok.mpr
    ⟨noControl_iff.mpr hcontrol, hpath.delimiters.2.2, hstable.delimiters.2.2⟩, ?_⟩
  refine Fallible.bind_eq_ok.mpr ⟨(), Fallible.require_eq_ok.mpr
    (not_containsPathDelimiter_iff.mpr ⟨hstable.delimiters.1, hstable.delimiters.2.1⟩), ?_⟩
  exact Fallible.require_eq_ok.mpr htraversal

end FinanceResearch.Http
