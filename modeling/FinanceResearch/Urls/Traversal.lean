import FinanceResearch.Config.Policies
import FinanceResearch.Lib.Rounds

/-!
# Dot segments in URLs

The three tests for `.` and `..` in the path of a URL: `_source_url` (`domain/models.py`),
`WatchlistItem.valid_sources` (`domain/policies.py`) and `_contains_traversal`
(`adapters/http_client.py`). Each decodes the path until it is stable.

A dot segment at any depth of the decoding is one of the stable path (`hidesDots_iff`), so a
test that looks at the whole path misses none. `valid_sources` looks only behind the first
slash, where the path begins behind a backslash too.

Mirroring notes vs the source:
- `HttpUrl` and the categories of `unicodedata` are a `UrlLibrary`.
- `re.sub` and `chr` on an escape are `percentDecode`.
- `bytes.decode("utf-8", errors="replace")` is `utf8Replace`.
-/

namespace FinanceResearch.Urls

open Config Rounds

/-! ## `_source_url` -/

/-- `_DEFAULT_IGNORABLE_CODE_POINT_RANGES`. -/
def defaultIgnorableRanges : List (Nat × Nat) :=
  [(0x00AD, 0x00AD), (0x034F, 0x034F), (0x061C, 0x061C), (0x115F, 0x1160), (0x17B4, 0x17B5),
    (0x180B, 0x180F), (0x200B, 0x200F), (0x202A, 0x202E), (0x2060, 0x206F), (0x3164, 0x3164),
    (0xFE00, 0xFE0F), (0xFEFF, 0xFEFF), (0xFFA0, 0xFFA0), (0xFFF0, 0xFFF8), (0x1BCA0, 0x1BCA3),
    (0x1D173, 0x1D17A), (0xE0000, 0xE0FFF)]

/-- `_is_default_ignorable`. -/
def isDefaultIgnorable (c : Char) : Bool :=
  defaultIgnorableRanges.any fun range => decide (range.1 ≤ c.toNat) && decide (c.toNat ≤ range.2)

/-- `value.removeprefix("https://")`. -/
def withoutScheme (text : List Char) : List Char :=
  if "https://".toList.isPrefixOf text then text.drop 8 else text

/-- `text.partition("/")[2]`. -/
def afterSlash (text : List Char) : List Char := (text.dropWhile (· ≠ '/')).drop 1

/-- The segments that lead out of a path. -/
def dotSegments : List (List Char) := [['.'], ['.', '.']]

/-- `any(segment in {".", ".."} for segment in path.replace("\\", "/").split("/"))`. -/
def hasDots (path : List Char) : Bool :=
  ((slashed path).splitOn '/').any fun segment => dotSegments.contains segment

/-- The path that `_source_url` inspects. -/
def inspectedPath (value : String) : List Char :=
  afterSlash (slashed ((withoutScheme value.toList).takeWhile fun c => c ≠ '?' && c ≠ '#'))

/-- The loop of `_source_url`. -/
def decodeEscapes (path : List Char) : List Char := untilStable percentDecode path.length path

/-- The last test of `_source_url`. -/
def sourceUrlTraverses (value : String) : Bool := hasDots (decodeEscapes (inspectedPath value))

/-- `_source_url`. -/
def isSourceUrl (u : CharacterDatabase) (urls : UrlLibrary) (value : String) : Bool :=
  value.toList.all (fun c => !u.isSpace c && !urls.isControl c && !isDefaultIgnorable c) &&
    match urls.parse value with
    | none => false
    | some parts =>
      decide (parts.scheme = "https") && parts.host.any (· ≠ "") && parts.username.isNone &&
        parts.password.isNone && !sourceUrlTraverses value

/-! ## `valid_sources` -/

/-- What `valid_sources` checks of a source before its path. -/
def isPlainSource (u : CharacterDatabase) (urls : UrlLibrary) (source : String) : Bool :=
  decide (source.length ≤ 2048) &&
    source.toList.all (fun c => !urls.isControl c && !u.isSpace c) &&
      match urls.parse source with
      | none => false
      | some parts =>
        decide (parts.scheme = "https") && parts.host.any (· ≠ "") && parts.username.isNone &&
          parts.password.isNone && !source.toList.contains '#'

/-- The last test of `valid_sources`. -/
def officialSourceTraverses (source : String) : Bool :=
  ((decodePath source.length (slashed (sourcePath source))).splitOn '/').any fun part =>
    dotSegments.contains part

/-! ## `_contains_traversal` -/

/-- The value of the bytes that continue a character, each in its range, and what follows. -/
def continuation (value : Nat) : List (Nat × Nat) → List UInt8 → Option Nat × List UInt8
  | [], rest => (some value, rest)
  | _ :: _, [] => (none, [])
  | (low, high) :: more, b :: rest =>
    if low ≤ b.toNat ∧ b.toNat ≤ high then continuation (64 * value + (b.toNat - 0x80)) more rest
    else (none, b :: rest)

/-- What a first byte says: the high bits and the ranges of the bytes to follow. -/
def firstByte (b : Nat) : Option (Nat × List (Nat × Nat)) :=
  if 0xC2 ≤ b ∧ b ≤ 0xDF then some (b - 0xC0, [(0x80, 0xBF)])
  else if b = 0xE0 then some (0, [(0xA0, 0xBF), (0x80, 0xBF)])
  else if b = 0xED then some (13, [(0x80, 0x9F), (0x80, 0xBF)])
  else if 0xE1 ≤ b ∧ b ≤ 0xEF then some (b - 0xE0, [(0x80, 0xBF), (0x80, 0xBF)])
  else if b = 0xF0 then some (0, [(0x90, 0xBF), (0x80, 0xBF), (0x80, 0xBF)])
  else if 0xF1 ≤ b ∧ b ≤ 0xF3 then some (b - 0xF0, [(0x80, 0xBF), (0x80, 0xBF), (0x80, 0xBF)])
  else if b = 0xF4 then some (4, [(0x80, 0x8F), (0x80, 0xBF), (0x80, 0xBF)])
  else none

/-- U+FFFD. -/
def replacement : Char := Char.ofNat 0xFFFD

/-- `data.decode("utf-8", errors="replace")`; a round reads a byte at least. -/
def utf8Replace : Nat → List UInt8 → List Char
  | 0, _ => []
  | _ + 1, [] => []
  | rounds + 1, b :: rest =>
    if b.toNat < 0x80 then Char.ofNat b.toNat :: utf8Replace rounds rest
    else
      match firstByte b.toNat with
      | none => replacement :: utf8Replace rounds rest
      | some (value, ranges) =>
        let (found, behind) := continuation value ranges rest
        (found.map Char.ofNat).getD replacement :: utf8Replace rounds behind

/-- `unquote_to_bytes` of ASCII text. -/
def unquoteToBytes : List Char → List UInt8
  | '%' :: a :: b :: rest =>
    match hexValue a, hexValue b with
    | some high, some low => UInt8.ofNat (16 * high + low) :: unquoteToBytes rest
    | _, _ => UInt8.ofNat '%'.toNat :: unquoteToBytes (a :: b :: rest)
  | c :: rest => UInt8.ofNat c.toNat :: unquoteToBytes rest
  | [] => []

/-- A run of ASCII characters, decoded. -/
def unquoteRun (run : List Char) : List Char := utf8Replace run.length (unquoteToBytes run)

/-- The runs of ASCII characters are decoded, the other characters are kept. -/
def unquoteRuns : (run text : List Char) → List Char
  | run, [] => unquoteRun run
  | run, c :: rest =>
    if c.toNat < 0x80 then unquoteRuns (run ++ [c]) rest
    else unquoteRun run ++ c :: unquoteRuns [] rest

/-- `urllib.parse.unquote`. -/
def unquote (text : List Char) : List Char := if '%' ∈ text then unquoteRuns [] text else text

/-- `_contains_traversal`. -/
def containsTraversal (path : List Char) : Bool :=
  hasDots (untilStable unquote path.length path)

/-! ## Decoding between separators -/

/-- A percent sign that no two digits follow is kept. -/
theorem percentDecode_lone {text : List Char}
    (h : ∀ a b rest, text = a :: b :: rest → hexValue a = none ∨ hexValue b = none) :
    percentDecode ('%' :: text) = '%' :: percentDecode text := by
  match text with
  | [] => rfl
  | [_] => rfl
  | a :: b :: rest =>
    rw [percentDecode]
    rcases h a b rest rfl with h | h
    · rw [h]
    · rw [h]
      cases hexValue a <;> rfl

theorem percentDecode_cons {c : Char} (h : c ≠ '%') (rest : List Char) :
    percentDecode (c :: rest) = c :: percentDecode rest := by
  rw [percentDecode]
  intro a b rest' hc _
  exact h hc

/-- A round shortens the text it changes. -/
theorem percentDecode_shrinks : Shrinks percentDecode := by
  intro x
  fun_induction percentDecode x with
  | case1 a b rest high low hhigh hlow ih =>
    right
    rw [List.length_cons, List.length_cons, List.length_cons, List.length_cons]
    rcases ih with h | h
    · rw [h]
      omega
    · omega
  | case2 a b rest hnone ih =>
    rcases ih with h | h
    · rw [h]
      exact Or.inl rfl
    · exact Or.inr (Nat.succ_lt_succ h)
  | case3 c rest hc ih =>
    rcases ih with h | h
    · rw [h]
      exact Or.inl rfl
    · exact Or.inr (Nat.succ_lt_succ h)
  | case4 => exact Or.inl rfl

/-- What is neither a percent sign nor a digit ends every escape. -/
theorem percentDecode_respects {sep : Char} (hsep : sep ≠ '%') (hdigit : hexValue sep = none) :
    Respects sep percentDecode := by
  intro x y
  fun_induction percentDecode x with
  | case1 a b rest high low hhigh hlow ih =>
    show percentDecode ('%' :: a :: b :: (rest ++ sep :: y)) = _
    rw [percentDecode, hhigh, hlow]
    show _ :: percentDecode (rest ++ sep :: y) = _
    rw [ih]
    rfl
  | case2 a b rest hnone ih =>
    show percentDecode ('%' :: (a :: b :: rest ++ sep :: y)) = _
    rw [percentDecode_lone, ih]
    · rfl
    · intro a' b' rest' heq
      rw [List.cons_append, List.cons_append, List.cons.injEq, List.cons.injEq] at heq
      rw [← heq.1, ← heq.2.1]
      cases ha : hexValue a with
      | none => exact Or.inl rfl
      | some high =>
        cases hb : hexValue b with
        | none => exact Or.inr rfl
        | some low => exact absurd hb (hnone high low ha)
  | case3 c rest hc ih =>
    by_cases hpercent : c = '%'
    · rw [hpercent] at hc ⊢
      show percentDecode ('%' :: (rest ++ sep :: y)) = _
      rw [percentDecode_lone, ih]
      · rfl
      · intro a b rest' heq
        match rest with
        | [] =>
          rw [List.nil_append, List.cons.injEq] at heq
          rw [← heq.1]
          exact Or.inl hdigit
        | [d] =>
          rw [List.singleton_append, List.cons.injEq, List.cons.injEq] at heq
          rw [← heq.2.1]
          exact Or.inr hdigit
        | d :: e :: more => exact absurd rfl (hc d e more rfl)
    · show percentDecode (c :: (rest ++ sep :: y)) = _
      rw [percentDecode_cons hpercent, ih]
      rfl
  | case4 => exact percentDecode_cons hsep y

/-! ## Backslashes -/

/-- A backslash, read as a slash. -/
def slash (c : Char) : Char := if c = '\\' then '/' else c

theorem slashed_eq (path : List Char) : slashed path = path.map slash := rfl

theorem slash_slash (c : Char) : slash (slash c) = slash c := by
  unfold slash
  by_cases h : c = '\\'
  · rw [if_pos h]
    decide
  · rw [if_neg h, if_neg h]

theorem slashed_slashed (path : List Char) : slashed (slashed path) = slashed path := by
  rw [slashed_eq, slashed_eq, List.map_map]
  exact List.map_congr_left fun c _ => slash_slash c

theorem slashed_append (a b : List Char) : slashed (a ++ b) = slashed a ++ slashed b :=
  List.map_append

/-- A backslash is as little a digit as a slash. -/
theorem hexValue_slash (c : Char) : hexValue (slash c) = hexValue c := by
  unfold slash
  by_cases h : c = '\\'
  · rw [if_pos h, h]
    decide
  · rw [if_neg h]

theorem slash_percent : slash '%' = '%' := by decide

theorem slash_ne_percent {c : Char} (h : c ≠ '%') : slash c ≠ '%' := by
  unfold slash
  by_cases hc : c = '\\'
  · rw [if_pos hc]
    decide
  · rwa [if_neg hc]

/-- It makes no difference whether backslashes are read before the decoding or behind it. -/
theorem slashed_percentDecode (path : List Char) :
    slashed (percentDecode (slashed path)) = slashed (percentDecode path) := by
  fun_induction percentDecode path with
  | case1 a b rest high low hhigh hlow ih =>
    show slashed (percentDecode (slash '%' :: slash a :: slash b :: slashed rest)) = _
    rw [slash_percent, percentDecode, hexValue_slash, hexValue_slash, hhigh, hlow]
    exact congrArg (List.cons _) ih
  | case2 a b rest hnone ih =>
    show slashed (percentDecode (slash '%' :: slash a :: slash b :: slashed rest)) = _
    rw [slash_percent, percentDecode_lone]
    · exact congrArg (List.cons (slash '%')) ih
    · intro a' b' rest' heq
      rw [List.cons.injEq, List.cons.injEq] at heq
      rw [← heq.1, ← heq.2.1, hexValue_slash, hexValue_slash]
      cases ha : hexValue a with
      | none => exact Or.inl rfl
      | some high =>
        cases hb : hexValue b with
        | none => exact Or.inr rfl
        | some low => exact absurd hb (hnone high low ha)
  | case3 c rest hc ih =>
    show slashed (percentDecode (slash c :: slashed rest)) = _
    by_cases hpercent : c = '%'
    · rw [hpercent] at hc ⊢
      rw [slash_percent, percentDecode_lone]
      · exact congrArg (List.cons (slash '%')) ih
      · intro a b rest' heq
        match rest with
        | [] => cases heq
        | [d] => cases heq
        | d :: e :: more => exact absurd rfl (hc d e more rfl)
    · rw [percentDecode_cons (slash_ne_percent hpercent)]
      show slash (slash c) :: slashed (percentDecode (slashed rest)) = _
      rw [slash_slash, ih]
      rfl
  | case4 => rfl

/-- Rounds, with backslashes read at the end. -/
theorem slashed_iterate (n : Nat) : ∀ path : List Char,
    slashed (percentDecode^[n] (slashed path)) = slashed (percentDecode^[n] path) := by
  induction n with
  | zero => exact slashed_slashed
  | succ n ih =>
    intro path
    rw [Function.iterate_succ_apply, Function.iterate_succ_apply, ← ih, slashed_percentDecode, ih]

/-! ## Dot segments at every depth -/

/-- A dot segment of the stable path. -/
def hidesDots (path : List Char) : Bool := hasDots (decodeEscapes path)

theorem hasDots_iff {path : List Char} : hasDots path = true ↔
    ∃ segment ∈ (slashed path).splitOn '/', segment ∈ dotSegments := by
  rw [hasDots, List.any_eq_true]
  simp only [List.contains_iff_mem]

theorem hasDots_congr {p q : List Char} (h : slashed p = slashed q) : hasDots p = hasDots q := by
  rw [hasDots, hasDots, h]

/-- The characters that end a segment. -/
def isSlash (c : Char) : Bool := c = '/' || c = '\\'

theorem slash_of_isSlash {c : Char} (h : isSlash c = true) : slash c = '/' := by
  unfold isSlash at h
  simp only [Bool.or_eq_true, decide_eq_true_eq] at h
  rcases h with h | h
  · rw [h]
    decide
  · rw [h]
    decide

theorem hasDots_append {sep : Char} (hsep : isSlash sep = true) (a b : List Char) :
    hasDots (a ++ sep :: b) = (hasDots a || hasDots b) := by
  have hslashed : slashed (a ++ sep :: b) = slashed a ++ '/' :: slashed b := by
    rw [slashed_append]
    show slashed a ++ slash sep :: slashed b = _
    rw [slash_of_isSlash hsep]
  rw [hasDots, hslashed, List.splitOn_append_cons_self, List.any_append]
  rfl

/-- One round keeps a dot segment: neither dots nor slashes belong to an escape. -/
theorem hasDots_percentDecode {path : List Char} (h : hasDots path = true) :
    hasDots (percentDecode path) = true := by
  rw [hasDots_iff] at h ⊢
  obtain ⟨segment, hmem, hdots⟩ := h
  have hrespects : Respects '/' fun text => slashed (percentDecode text) := by
    intro a b
    show slashed (percentDecode (a ++ '/' :: b)) = _
    rw [percentDecode_respects (by decide) (by decide), slashed_append]
    rfl
  have hself : slashed (percentDecode segment) = segment := by
    have hall : ∀ dots ∈ dotSegments, slashed (percentDecode dots) = dots := by decide
    exact hall segment hdots
  have hkept := hrespects.mem_splitOn hself hmem
  rw [slashed_percentDecode] at hkept
  exact ⟨segment, hkept, hdots⟩

theorem hasDots_iterate {path : List Char} (h : hasDots path = true) (n : Nat) :
    hasDots (percentDecode^[n] path) = true := by
  induction n with
  | zero => exact h
  | succ n ih =>
    rw [Function.iterate_succ_apply']
    exact hasDots_percentDecode ih

/-- The stable path is that of any number of rounds that suffices. -/
theorem hidesDots_of_le {path : List Char} {n : Nat} (h : path.length ≤ n) :
    hidesDots path = hasDots (percentDecode^[n] path) := by
  rw [hidesDots, decodeEscapes, untilStable_eq_iterate,
    iterate_of_le percentDecode_shrinks le_rfl h]

/-- **A dot segment at any depth is one of the stable path.** -/
theorem hidesDots_iff {path : List Char} :
    hidesDots path = true ↔ ∃ n, hasDots (percentDecode^[n] path) = true := by
  constructor
  · intro h
    exact ⟨path.length, by rwa [← hidesDots_of_le le_rfl]⟩
  · intro h
    obtain ⟨n, hn⟩ := h
    rw [hidesDots_of_le (Nat.le_add_right path.length n), Function.iterate_add_apply]
    have hlater := hasDots_iterate hn path.length
    rwa [← Function.iterate_add_apply] at hlater ⊢

theorem hidesDots_slashed (path : List Char) : hidesDots (slashed path) = hidesDots path := by
  have hlength : (slashed path).length = path.length := List.length_map _
  rw [hidesDots_of_le hlength.le, hidesDots_of_le le_rfl]
  exact hasDots_congr (slashed_iterate path.length path)

/-- The parts on either side of a slash hide their own dot segments. -/
theorem hidesDots_append {sep : Char} (hsep : isSlash sep = true) (a b : List Char) :
    hidesDots (a ++ sep :: b) = (hidesDots a || hidesDots b) := by
  have hrespects : Respects sep percentDecode := by
    unfold isSlash at hsep
    simp only [Bool.or_eq_true, decide_eq_true_eq] at hsep
    rcases hsep with h | h
    · rw [h]
      exact percentDecode_respects (by decide) (by decide)
    · rw [h]
      exact percentDecode_respects (by decide) (by decide)
  have hlength : (a ++ sep :: b).length = a.length + (b.length + 1) := List.length_append
  rw [hidesDots_of_le le_rfl, hrespects.iterate, hasDots_append hsep,
    ← @hidesDots_of_le a _ (by omega), ← @hidesDots_of_le b _ (by omega)]

/-! ## `unquote` of ASCII escapes -/

/-- The values of the escapes of a text. -/
def escapes : List Char → List Nat
  | '%' :: a :: b :: rest =>
    match hexValue a, hexValue b with
    | some high, some low => (16 * high + low) :: escapes rest
    | _, _ => escapes (a :: b :: rest)
  | _ :: rest => escapes rest
  | [] => []

/-- The escapes of the path stand for ASCII characters, at every depth. -/
def AsciiEscapes (path : List Char) : Prop := ∀ n, ∀ v ∈ escapes (percentDecode^[n] path), v < 128

theorem hexValue_ascii {c : Char} (h : 128 ≤ c.toNat) : hexValue c = none := by
  unfold hexValue
  have hdigit : c.isDigit = false := by
    rw [Bool.eq_false_iff]
    intro hd
    have hle := (Char.isDigit_iff_toNat.mp hd).2
    have hnine : '9'.toNat = 57 := by decide
    omega
  have hlower : ¬ ('a' ≤ c ∧ c ≤ 'f') := by
    intro hc
    have hle : c.toNat ≤ 'f'.toNat := hc.2
    have hf : 'f'.toNat = 102 := by decide
    omega
  have hupper : ¬ ('A' ≤ c ∧ c ≤ 'F') := by
    intro hc
    have hle : c.toNat ≤ 'F'.toNat := hc.2
    have hf : 'F'.toNat = 70 := by decide
    omega
  rw [hdigit, if_neg Bool.false_ne_true, if_neg hlower, if_neg hupper]

theorem escapes_lone {text : List Char}
    (h : ∀ a b rest, text = a :: b :: rest → hexValue a = none ∨ hexValue b = none) :
    escapes ('%' :: text) = escapes text := by
  match text with
  | [] => rfl
  | [_] => rfl
  | a :: b :: rest =>
    rw [escapes]
    rcases h a b rest rfl with h | h
    · rw [h]
    · rw [h]
      cases hexValue a <;> rfl

theorem escapes_cons {c : Char} (h : c ≠ '%') (rest : List Char) :
    escapes (c :: rest) = escapes rest := by
  rw [escapes]
  intro a b rest' hc _
  exact h hc

/-- What is neither a percent sign nor a digit separates the escapes. -/
theorem escapes_append {sep : Char} (hsep : sep ≠ '%') (hdigit : hexValue sep = none)
    (x y : List Char) : escapes (x ++ sep :: y) = escapes x ++ escapes y := by
  fun_induction escapes x with
  | case1 a b rest high low hhigh hlow ih =>
    show escapes ('%' :: a :: b :: (rest ++ sep :: y)) = _
    rw [escapes, hhigh, hlow]
    exact congrArg (List.cons _) ih
  | case2 a b rest hnone ih =>
    show escapes ('%' :: (a :: b :: rest ++ sep :: y)) = _
    rw [escapes_lone, ih]
    intro a' b' rest' heq
    rw [List.cons_append, List.cons_append, List.cons.injEq, List.cons.injEq] at heq
    rw [← heq.1, ← heq.2.1]
    cases ha : hexValue a with
    | none => exact Or.inl rfl
    | some high =>
      cases hb : hexValue b with
      | none => exact Or.inr rfl
      | some low => exact absurd hb (hnone high low ha)
  | case3 c rest hc ih =>
    by_cases hpercent : c = '%'
    · rw [hpercent] at hc ⊢
      show escapes ('%' :: (rest ++ sep :: y)) = _
      rw [escapes_lone, ih]
      intro a b rest' heq
      match rest with
      | [] =>
        rw [List.nil_append, List.cons.injEq] at heq
        rw [← heq.1]
        exact Or.inl hdigit
      | [d] =>
        rw [List.singleton_append, List.cons.injEq, List.cons.injEq] at heq
        rw [← heq.2.1]
        exact Or.inr hdigit
      | d :: e :: more => exact absurd rfl (hc d e more rfl)
    · show escapes (c :: (rest ++ sep :: y)) = _
      rw [escapes_cons hpercent, ih]
  | case4 => exact escapes_cons hsep y

/-- The characters of ASCII bytes. -/
def asciiText (bytes : List UInt8) : List Char := bytes.map fun b => Char.ofNat b.toNat

theorem utf8Replace_ascii : ∀ {bytes : List UInt8} {n : Nat}, (∀ b ∈ bytes, b.toNat < 128) →
    bytes.length ≤ n → utf8Replace n bytes = asciiText bytes := by
  intro bytes
  induction bytes with
  | nil =>
    intro n _ _
    cases n <;> rfl
  | cons b bytes ih =>
    intro n hascii hn
    obtain ⟨m, rfl⟩ := Nat.exists_eq_add_of_le' (Nat.le_trans (Nat.succ_pos _) hn)
    rw [List.length_cons] at hn
    rw [List.forall_mem_cons] at hascii
    rw [utf8Replace, if_pos hascii.1, ih hascii.2 (by omega)]
    rfl

/-- An ASCII value, through a byte. -/
theorem ofNat_toNat {n : Nat} (h : n < 128) : (UInt8.ofNat n).toNat = n := by
  rw [UInt8.toNat_ofNat']
  omega

/-- The bytes of a run with ASCII escapes are the decoded characters. -/
theorem unquoteToBytes_ascii {run : List Char} (hrun : ∀ c ∈ run, c.toNat < 128)
    (hescapes : ∀ v ∈ escapes run, v < 128) :
    (∀ b ∈ unquoteToBytes run, b.toNat < 128) ∧ (unquoteToBytes run).length ≤ run.length ∧
      asciiText (unquoteToBytes run) = percentDecode run := by
  fun_induction percentDecode run with
  | case1 a b rest high low hhigh hlow ih =>
    have hvalues : escapes ('%' :: a :: b :: rest) = (16 * high + low) :: escapes rest := by
      rw [escapes, hhigh, hlow]
    rw [hvalues, List.forall_mem_cons] at hescapes
    obtain ⟨hbytes, hlength, htext⟩ := ih
      (fun c hc => hrun c (List.mem_cons_of_mem _ (List.mem_cons_of_mem _ (List.mem_cons_of_mem _ hc))))
      hescapes.2
    have hcons : unquoteToBytes ('%' :: a :: b :: rest) =
        UInt8.ofNat (16 * high + low) :: unquoteToBytes rest := by
      rw [unquoteToBytes, hhigh, hlow]
    rw [hcons]
    refine ⟨?_, ?_, ?_⟩
    · rw [List.forall_mem_cons, ofNat_toNat hescapes.1]
      exact ⟨hescapes.1, hbytes⟩
    · rw [List.length_cons, List.length_cons, List.length_cons, List.length_cons]
      omega
    · show Char.ofNat (UInt8.ofNat _).toNat :: asciiText (unquoteToBytes rest) = _
      rw [ofNat_toNat hescapes.1, htext]
  | case2 a b rest hnone ih =>
    have hlone : ∀ a' b' rest', a :: b :: rest = a' :: b' :: rest' →
        hexValue a' = none ∨ hexValue b' = none := by
      intro a' b' rest' heq
      rw [List.cons.injEq, List.cons.injEq] at heq
      rw [← heq.1, ← heq.2.1]
      cases ha : hexValue a with
      | none => exact Or.inl rfl
      | some high =>
        cases hb : hexValue b with
        | none => exact Or.inr rfl
        | some low => exact absurd hb (hnone high low ha)
    rw [escapes_lone hlone] at hescapes
    obtain ⟨hbytes, hlength, htext⟩ := ih (fun c hc => hrun c (List.mem_cons_of_mem _ hc)) hescapes
    have hcons : unquoteToBytes ('%' :: a :: b :: rest) =
        UInt8.ofNat '%'.toNat :: unquoteToBytes (a :: b :: rest) := by
      rw [unquoteToBytes]
      rcases hlone a b rest rfl with h | h
      · rw [h]
      · rw [h]
        cases hexValue a <;> rfl
    rw [hcons]
    refine ⟨?_, Nat.succ_le_succ hlength, ?_⟩
    · rw [List.forall_mem_cons]
      exact ⟨by decide, hbytes⟩
    · show Char.ofNat (UInt8.ofNat '%'.toNat).toNat :: asciiText (unquoteToBytes (a :: b :: rest)) = _
      rw [htext]
      rfl
  | case3 c rest hc ih =>
    have hescapes' : ∀ v ∈ escapes rest, v < 128 := by
      rw [escapes] at hescapes
      · exact hescapes
      · exact hc
    obtain ⟨hbytes, hlength, htext⟩ := ih (fun c hc => hrun c (List.mem_cons_of_mem _ hc)) hescapes'
    have hcons : unquoteToBytes (c :: rest) = UInt8.ofNat c.toNat :: unquoteToBytes rest := by
      rw [unquoteToBytes]
      exact hc
    have hascii : c.toNat < 128 := hrun c List.mem_cons_self
    rw [hcons]
    refine ⟨?_, Nat.succ_le_succ hlength, ?_⟩
    · rw [List.forall_mem_cons, ofNat_toNat hascii]
      exact ⟨hascii, hbytes⟩
    · show Char.ofNat (UInt8.ofNat c.toNat).toNat :: asciiText (unquoteToBytes rest) = _
      rw [ofNat_toNat hascii, htext, Char.ofNat_toNat]
  | case4 => exact ⟨nofun, Nat.le_refl 0, rfl⟩

theorem unquoteRun_ascii {run : List Char} (hrun : ∀ c ∈ run, c.toNat < 128)
    (hescapes : ∀ v ∈ escapes run, v < 128) : unquoteRun run = percentDecode run := by
  obtain ⟨hbytes, hlength, htext⟩ := unquoteToBytes_ascii hrun hescapes
  rw [unquoteRun, utf8Replace_ascii hbytes hlength, htext]

theorem unquoteRuns_ascii : ∀ {text run : List Char}, (∀ c ∈ run, c.toNat < 128) →
    (∀ v ∈ escapes (run ++ text), v < 128) → unquoteRuns run text = percentDecode (run ++ text) := by
  intro text
  induction text with
  | nil =>
    intro run hrun hescapes
    rw [List.append_nil] at hescapes ⊢
    exact unquoteRun_ascii hrun hescapes
  | cons c rest ih =>
    intro run hrun hescapes
    rw [unquoteRuns]
    by_cases hc : c.toNat < 0x80
    · rw [if_pos hc, ih, List.append_assoc, List.singleton_append]
      · intro d hd
        rcases List.mem_append.mp hd with hd | hd
        · exact hrun d hd
        · rw [List.mem_singleton.mp hd]
          exact hc
      · rwa [List.append_assoc, List.singleton_append]
    · have hpercent : c ≠ '%' := by
        intro h
        rw [h] at hc
        exact hc (by decide)
      have hdigit : hexValue c = none := hexValue_ascii (by omega)
      rw [escapes_append hpercent hdigit] at hescapes
      rw [if_neg hc, percentDecode_respects hpercent hdigit,
        unquoteRun_ascii hrun fun v hv => hescapes v (List.mem_append_left _ hv),
        @ih [] (fun c hc => absurd hc List.not_mem_nil) fun v hv =>
          hescapes v (List.mem_append_right _ hv), List.nil_append]

/-- **`unquote` decodes ASCII escapes as the other two do.** -/
theorem unquote_ascii {text : List Char} (h : ∀ v ∈ escapes text, v < 128) :
    unquote text = percentDecode text := by
  unfold unquote
  by_cases hpercent : '%' ∈ text
  · rw [if_pos hpercent]
    exact unquoteRuns_ascii (fun c hc => absurd hc List.not_mem_nil) h
  · rw [if_neg hpercent]
    induction text with
    | nil => rfl
    | cons c rest ih =>
      rw [List.mem_cons, not_or] at hpercent
      rw [escapes_cons (Ne.symm hpercent.1)] at h
      rw [percentDecode_cons (Ne.symm hpercent.1), ← ih h hpercent.2]

theorem containsTraversal_eq {path : List Char} (h : AsciiEscapes path) :
    containsTraversal path = hidesDots path := by
  have hrounds : ∀ n, unquote^[n] path = percentDecode^[n] path := by
    intro n
    induction n with
    | zero => rfl
    | succ n ih =>
      rw [Function.iterate_succ_apply', Function.iterate_succ_apply', ih, unquote_ascii (h n)]
  rw [containsTraversal, untilStable_eq_iterate, hrounds, hidesDots_of_le le_rfl]

end FinanceResearch.Urls
