import FinanceResearch.Lib.Fallible
import FinanceResearch.Lib.SplitUrls
import FinanceResearch.Urls.Traversal

/-!
# Query strings

`_validate_query_string` (`adapters/http_client.py`) reads the query of a redirect with
`parse_qsl` and writes what it read with `urlencode`. Nothing is lost on the way: the query that
is sent is read as the query that was checked (`validateQueryString_iff`).

Mirroring notes vs the source:
- `quote_plus` writes the UTF-8 bytes of a character; `unquote` reads them back through
  `utf8Replace`.
- `parse_qsl` is called with `strict_parsing` and `keep_blank_values`.
- The keys and the values are lists of characters.
-/

namespace FinanceResearch.Http

open Config Urls SplitUrls

/-- What the HTTP boundary raises. -/
inductive RequestError where
  /-- `RequestRejected` -/
  | rejected (text : String)
  /-- `RequestDeadlineExceeded` -/
  | deadlineExceeded (text : String)
  /-- `RequestTransportUnavailable` -/
  | transportUnavailable (text : String)
  /-- `ValueError`, of `urllib.parse` -/
  | valueError
  /-- a signal of `decimal` -/
  | arithmetic
  /-- what a resolver or a transport raises and the boundary lets through -/
  | raised
  deriving DecidableEq, Repr

/-! ## `urlencode` -/

/-- A digit of `%XX`. -/
def hexDigit (n : Nat) : Char := Char.ofNat (if n < 10 then 0x30 + n else 0x37 + n)

/-- `%XX`. -/
def quoteByte (b : UInt8) : List Char := ['%', hexDigit (b.toNat / 16), hexDigit (b.toNat % 16)]

/-- `_ALWAYS_SAFE`. -/
def isAlwaysSafe (c : Char) : Bool :=
  c.isAlphanum || c == '_' || c == '.' || c == '-' || c == '~'

/-- `quote` of a character, the space kept. -/
def quoteChar (c : Char) : List Char :=
  if c = ' ' ∨ isAlwaysSafe c = true then [c] else (String.utf8EncodeChar c).flatMap quoteByte

/-- `quote(text, " ")`. -/
def quote (text : List Char) : List Char := text.flatMap quoteChar

/-- `quote_plus(text)`. -/
def quotePlus (text : List Char) : List Char :=
  (quote text).map fun c => if c = ' ' then '+' else c

/-- A key and a value. -/
abbrev QueryPair := List Char × List Char

/-- `urlencode(pairs)`. -/
def urlencode (pairs : List QueryPair) : List Char :=
  ['&'].intercalate (pairs.map fun pair => quotePlus pair.1 ++ '=' :: quotePlus pair.2)

/-! ## `parse_qsl` -/

/-- `unquote(text.replace("+", " "))`. -/
def unquotePlus (text : List Char) : List Char :=
  unquote (text.map fun c => if c = '+' then ' ' else c)

/-- A field of a query. -/
def parseField (field : List Char) : Option QueryPair :=
  if '=' ∈ field then some (unquotePlus (cut '=' field).1, unquotePlus (cut '=' field).2) else none

/-- `parse_qsl(query, max_num_fields=maximum)`; none is its `ValueError`. -/
def parseQsl (maximum : Nat) (query : List Char) : Option (List QueryPair) :=
  if maximum < 1 + query.count '&' then none
  else if query = [] then some []
  else (query.splitOn '&').mapM parseField

/-! ## `_validate_query_string` -/

/-- `_MAX_QUERY_ENTRIES`. -/
def maxQueryEntries : Nat := 32

/-- `_MAX_QUERY_VALUE_LENGTH`. -/
def maxQueryValueLength : Nat := 512

/-- `not any(unicodedata.category(character) in {"Cc", "Cf"} for character in …)`. -/
def noControl (urls : UrlLibrary) (text : List Char) : Bool := text.all fun c => !urls.isControl c

theorem noControl_iff {urls : UrlLibrary} {text : List Char} :
    noControl urls text = true ↔ ∀ c ∈ text, urls.isControl c = false := by
  simp [noControl]

/-- The bounds on an entry. -/
def IsBoundedEntry (urls : UrlLibrary) (pair : QueryPair) : Prop :=
  (1 ≤ pair.1.length ∧ pair.1.length ≤ 128) ∧
    (1 ≤ pair.2.length ∧ pair.2.length ≤ maxQueryValueLength) ∧
    noControl urls (pair.1 ++ pair.2) = true

instance (urls : UrlLibrary) (pair : QueryPair) : Decidable (IsBoundedEntry urls pair) :=
  inferInstanceAs (Decidable (_ ∧ _ ∧ _))

/-- The bounds on a query. -/
def IsBoundedQuery (urls : UrlLibrary) (pairs : List QueryPair) : Prop :=
  pairs.length ≤ maxQueryEntries ∧ (pairs.map Prod.fst).Nodup ∧
    ∀ pair ∈ pairs, IsBoundedEntry urls pair

/-- `_validate_query_string`. -/
def validateQueryString (urls : UrlLibrary) (value : List Char) :
    Except RequestError (List Char) := do
  Fallible.require (value.length ≤ maxQueryEntries * (maxQueryValueLength * 2 + 2))
    (.rejected "redirect query is too large")
  Fallible.require (noControl urls value = true)
    (.rejected "redirect query contains a control or format character")
  match parseQsl maxQueryEntries value with
  | none => throw (.rejected "redirect query is invalid or too large")
  | some pairs =>
    Fallible.require ((pairs.map Prod.fst).Nodup ∧ ∀ pair ∈ pairs, IsBoundedEntry urls pair)
      (.rejected "redirect query is not bounded")
    pure (urlencode pairs)

/-! ## Bytes and characters -/

theorem toNat_byte {n : Nat} (h : n < 256) : (UInt8.ofNat n).toNat = n := by
  rw [UInt8.toNat_ofNat']
  omega

theorem utf8Replace_lead {b : UInt8} {n value v : Nat} {ranges : List (Nat × Nat)}
    {rest behind : List UInt8} (hb : 0x80 ≤ b.toNat) (hfirst : firstByte b.toNat = some (value, ranges))
    (hrest : continuation value ranges rest = (some v, behind)) :
    utf8Replace (n + 1) (b :: rest) = Char.ofNat v :: utf8Replace n behind := by
  rw [utf8Replace, if_neg (by omega), hfirst]
  dsimp only
  rw [hrest]
  rfl

theorem continuation_cons {value low high : Nat} {more : List (Nat × Nat)} {b : UInt8}
    {rest : List UInt8} (h : low ≤ b.toNat ∧ b.toNat ≤ high) :
    continuation value ((low, high) :: more) (b :: rest) =
      continuation (64 * value + (b.toNat - 0x80)) more rest := by
  rw [continuation, if_pos h]

/-- The UTF-8 bytes of a code point. -/
def utf8Bytes (v : Nat) : List UInt8 :=
  if v ≤ 0x7f then [UInt8.ofNat v]
  else if v ≤ 0x7ff then [UInt8.ofNat (v / 64 % 0x20 + 0xc0), UInt8.ofNat (v % 0x40 + 0x80)]
  else if v ≤ 0xffff then [UInt8.ofNat (v / 4096 % 0x10 + 0xe0),
    UInt8.ofNat (v / 64 % 0x40 + 0x80), UInt8.ofNat (v % 0x40 + 0x80)]
  else [UInt8.ofNat (v / 262144 % 0x08 + 0xf0), UInt8.ofNat (v / 4096 % 0x40 + 0x80),
    UInt8.ofNat (v / 64 % 0x40 + 0x80), UInt8.ofNat (v % 0x40 + 0x80)]

theorem utf8EncodeChar_eq (c : Char) : String.utf8EncodeChar c = utf8Bytes c.toNat := rfl

section Lengths

variable {n v : Nat} {rest : List UInt8}

theorem utf8Replace_two (h1 : 0x7f < v) (h2 : v ≤ 0x7ff) :
    utf8Replace (n + 1) (utf8Bytes v ++ rest) = Char.ofNat v :: utf8Replace n rest := by
  have hfirst : (UInt8.ofNat (v / 64 % 0x20 + 0xc0)).toNat = v / 64 + 0xc0 := by
    rw [toNat_byte (by omega)]
    omega
  have hlast : (UInt8.ofNat (v % 0x40 + 0x80)).toNat = v % 0x40 + 0x80 := toNat_byte (by omega)
  have hlead : firstByte (v / 64 + 0xc0) = some (v / 64, [(0x80, 0xBF)]) := by
    unfold firstByte
    rw [if_pos (by omega), Nat.add_sub_cancel]
  unfold utf8Bytes
  rw [if_neg (by omega), if_pos h2]
  have hvalue : 64 * (v / 64) + (v % 0x40 + 0x80 - 0x80) = v := by omega
  refine utf8Replace_lead (by omega) (by rw [hfirst]; exact hlead) ?_
  show continuation _ _ (UInt8.ofNat (v % 0x40 + 0x80) :: rest) = _
  rw [continuation_cons (by omega), hlast, continuation, hvalue]

theorem utf8Replace_three (h1 : 0x7ff < v) (h2 : v ≤ 0xffff) (hvalid : v < 0xD800 ∨ 0xDFFF < v) :
    utf8Replace (n + 1) (utf8Bytes v ++ rest) = Char.ofNat v :: utf8Replace n rest := by
  have hfirst : (UInt8.ofNat (v / 4096 % 0x10 + 0xe0)).toNat = v / 4096 + 0xe0 := by
    rw [toNat_byte (by omega)]
    omega
  have hsecond : (UInt8.ofNat (v / 64 % 0x40 + 0x80)).toNat = v / 64 % 0x40 + 0x80 :=
    toNat_byte (by omega)
  have hlast : (UInt8.ofNat (v % 0x40 + 0x80)).toNat = v % 0x40 + 0x80 := toNat_byte (by omega)
  -- the second byte of U+0800 and of the last before the surrogates have ranges of their own
  have hlead : ∃ low high, firstByte (v / 4096 + 0xe0) = some (v / 4096, [(low, high), (0x80, 0xBF)]) ∧
      low ≤ v / 64 % 0x40 + 0x80 ∧ v / 64 % 0x40 + 0x80 ≤ high := by
    unfold firstByte
    rw [if_neg (by omega)]
    by_cases hzero : v / 4096 = 0
    · rw [if_pos (by omega), hzero]
      exact ⟨_, _, rfl, by omega, by omega⟩
    · rw [if_neg (by omega)]
      by_cases hd : v / 4096 = 13
      · rw [if_pos (by omega), hd]
        exact ⟨_, _, rfl, by omega, by omega⟩
      · rw [if_neg (by omega), if_pos (by omega), Nat.add_sub_cancel]
        exact ⟨_, _, rfl, by omega, by omega⟩
  obtain ⟨low, high, hlead, hrange⟩ := hlead
  unfold utf8Bytes
  rw [if_neg (by omega), if_neg (by omega), if_pos h2]
  have hvalue : 64 * (64 * (v / 4096) + (v / 64 % 0x40 + 0x80 - 0x80)) + (v % 0x40 + 0x80 - 0x80) = v := by omega
  refine utf8Replace_lead (by omega) (by rw [hfirst]; exact hlead) ?_
  show continuation _ _ (UInt8.ofNat (v / 64 % 0x40 + 0x80) :: UInt8.ofNat (v % 0x40 + 0x80) :: rest) = _
  rw [continuation_cons (by rw [hsecond]; exact hrange), hsecond, continuation_cons (by omega), hlast,
    continuation, hvalue]

theorem utf8Replace_four (h1 : 0xffff < v) (hvalid : v < 0x110000) :
    utf8Replace (n + 1) (utf8Bytes v ++ rest) = Char.ofNat v :: utf8Replace n rest := by
  have hfirst : (UInt8.ofNat (v / 262144 % 0x08 + 0xf0)).toNat = v / 262144 + 0xf0 := by
    rw [toNat_byte (by omega)]
    omega
  have hsecond : (UInt8.ofNat (v / 4096 % 0x40 + 0x80)).toNat = v / 4096 % 0x40 + 0x80 :=
    toNat_byte (by omega)
  have hthird : (UInt8.ofNat (v / 64 % 0x40 + 0x80)).toNat = v / 64 % 0x40 + 0x80 :=
    toNat_byte (by omega)
  have hlast : (UInt8.ofNat (v % 0x40 + 0x80)).toNat = v % 0x40 + 0x80 := toNat_byte (by omega)
  -- the second byte of U+10000 and of the last code points have ranges of their own
  have hlead : ∃ low high, firstByte (v / 262144 + 0xf0) =
      some (v / 262144, [(low, high), (0x80, 0xBF), (0x80, 0xBF)]) ∧
        low ≤ v / 4096 % 0x40 + 0x80 ∧ v / 4096 % 0x40 + 0x80 ≤ high := by
    unfold firstByte
    rw [if_neg (by omega), if_neg (by omega), if_neg (by omega), if_neg (by omega)]
    by_cases hzero : v / 262144 = 0
    · rw [if_pos (by omega), hzero]
      exact ⟨_, _, rfl, by omega, by omega⟩
    · rw [if_neg (by omega)]
      by_cases hfour : v / 262144 = 4
      · rw [if_neg (by omega), if_pos (by omega), hfour]
        exact ⟨_, _, rfl, by omega, by omega⟩
      · rw [if_pos (by omega), Nat.add_sub_cancel]
        exact ⟨_, _, rfl, by omega, by omega⟩
  obtain ⟨low, high, hlead, hrange⟩ := hlead
  unfold utf8Bytes
  rw [if_neg (by omega), if_neg (by omega), if_neg (by omega)]
  have hvalue : 64 * (64 * (64 * (v / 262144) + (v / 4096 % 0x40 + 0x80 - 0x80)) +
      (v / 64 % 0x40 + 0x80 - 0x80)) + (v % 0x40 + 0x80 - 0x80) = v := by omega
  refine utf8Replace_lead (by omega) (by rw [hfirst]; exact hlead) ?_
  show continuation _ _ (UInt8.ofNat (v / 4096 % 0x40 + 0x80) ::
    UInt8.ofNat (v / 64 % 0x40 + 0x80) :: UInt8.ofNat (v % 0x40 + 0x80) :: rest) = _
  rw [continuation_cons (by rw [hsecond]; exact hrange), hsecond, continuation_cons (by omega), hthird,
    continuation_cons (by omega), hlast, continuation, hvalue]

end Lengths

/-- **A character is read from its UTF-8 bytes.** -/
theorem utf8Replace_encodeChar (n : Nat) (c : Char) (rest : List UInt8) :
    utf8Replace (n + 1) (String.utf8EncodeChar c ++ rest) = c :: utf8Replace n rest := by
  have hvalid : c.toNat < 0xD800 ∨ 0xDFFF < c.toNat ∧ c.toNat < 0x110000 := c.valid
  have hself : Char.ofNat c.toNat = c := Char.ofNat_toNat c
  rw [utf8EncodeChar_eq]
  by_cases h1 : c.toNat ≤ 0x7f
  · have hb : (UInt8.ofNat c.toNat).toNat = c.toNat := toNat_byte (by omega)
    unfold utf8Bytes
    rw [if_pos h1, List.singleton_append, utf8Replace, hb, if_pos (by omega), hself]
  · by_cases h2 : c.toNat ≤ 0x7ff
    · rw [utf8Replace_two (by omega) h2, hself]
    · by_cases h3 : c.toNat ≤ 0xffff
      · rw [utf8Replace_three (by omega) h3 (by omega), hself]
      · rw [utf8Replace_four (by omega) (by omega), hself]

/-- A text is read from its UTF-8 bytes. -/
theorem utf8Replace_encode : ∀ {text : List Char} {n : Nat}, text.length ≤ n →
    utf8Replace n (text.flatMap String.utf8EncodeChar) = text := by
  intro text
  induction text with
  | nil =>
    intro n _
    cases n <;> rfl
  | cons c text ih =>
    intro n hn
    obtain ⟨m, rfl⟩ := Nat.exists_eq_add_of_le' (Nat.le_trans (Nat.succ_pos _) hn)
    rw [List.length_cons] at hn
    rw [List.flatMap_cons, utf8Replace_encodeChar, ih (by omega)]

/-! ## What is quoted -/

theorem hexDigit_spec : ∀ n < 16, hexValue (hexDigit n) = some n ∧ isAlwaysSafe (hexDigit n) = true := by
  decide

theorem ascii_of_isAlwaysSafe {c : Char} (h : isAlwaysSafe c = true) : c.toNat < 128 := by
  unfold isAlwaysSafe at h
  simp only [Bool.or_eq_true, beq_iff_eq] at h
  rcases h with (((h | rfl) | rfl) | rfl) | rfl
  · exact (SplitUrls.toNat_of_isAlphanum h).2
  · decide
  · decide
  · decide
  · decide

/-- A character of a quoted text. -/
def IsQuoted (c : Char) : Prop := c = ' ' ∨ c = '%' ∨ isAlwaysSafe c = true

theorem IsQuoted.ascii {c : Char} (h : IsQuoted c) : c.toNat < 128 := by
  rcases h with rfl | rfl | h
  · decide
  · decide
  · exact ascii_of_isAlwaysSafe h

theorem IsQuoted.ne {c d : Char} (h : IsQuoted c) (hd : d ∈ ['+', '&', '=', '#']) : c ≠ d := by
  have hall : ['+', '&', '=', '#'].all
      (fun d => decide (d ≠ ' ' ∧ d ≠ '%' ∧ isAlwaysSafe d = false)) = true := by decide
  obtain ⟨hspace, hpercent, hsafe⟩ := of_decide_eq_true (List.all_eq_true.mp hall d hd)
  rintro rfl
  rcases h with h | h | h
  · exact hspace h
  · exact hpercent h
  · rw [hsafe] at h
    cases h

theorem isQuoted_of_mem_quoteByte {b : UInt8} {c : Char} (h : c ∈ quoteByte b) : IsQuoted c := by
  have hb : b.toNat < 256 := UInt8.toNat_lt_size b
  simp only [quoteByte, List.mem_cons, List.not_mem_nil, or_false] at h
  rcases h with rfl | rfl | rfl
  · exact Or.inr (Or.inl rfl)
  · exact Or.inr (Or.inr (hexDigit_spec _ (by omega)).2)
  · exact Or.inr (Or.inr (hexDigit_spec _ (by omega)).2)

theorem isQuoted_of_mem_quote {text : List Char} {c : Char} (h : c ∈ quote text) : IsQuoted c := by
  obtain ⟨d, -, hc⟩ := List.mem_flatMap.mp h
  unfold quoteChar at hc
  by_cases hd : d = ' ' ∨ isAlwaysSafe d = true
  · rw [if_pos hd] at hc
    rw [List.mem_singleton.mp hc]
    rcases hd with hd | hd
    · exact Or.inl hd
    · exact Or.inr (Or.inr hd)
  · rw [if_neg hd] at hc
    obtain ⟨b, -, hb⟩ := List.mem_flatMap.mp hc
    exact isQuoted_of_mem_quoteByte hb

/-- `quote_plus` writes spaces as `+`, and no `+` of its own. -/
theorem mem_quotePlus {text : List Char} {c : Char} (h : c ∈ quotePlus text) :
    c = '+' ∨ IsQuoted c ∧ c ≠ ' ' := by
  obtain ⟨d, hd, rfl⟩ := List.mem_map.mp h
  by_cases hspace : d = ' '
  · exact Or.inl (if_pos hspace)
  · rw [if_neg hspace]
    exact Or.inr ⟨isQuoted_of_mem_quote hd, hspace⟩

theorem not_mem_quotePlus {text : List Char} {d : Char} (hd : d ∈ ['&', '=', '#']) :
    d ∉ quotePlus text := by
  intro h
  rcases mem_quotePlus h with rfl | ⟨hquoted, -⟩
  · revert hd
    decide
  · exact hquoted.ne (List.mem_cons_of_mem _ hd) rfl

/-! ## What is quoted is read back -/

theorem unquoteToBytes_quoteByte (b : UInt8) (rest : List Char) :
    unquoteToBytes (quoteByte b ++ rest) = b :: unquoteToBytes rest := by
  have hb : b.toNat < 256 := UInt8.toNat_lt_size b
  show unquoteToBytes ('%' :: hexDigit (b.toNat / 16) :: hexDigit (b.toNat % 16) :: rest) = _
  rw [unquoteToBytes, (hexDigit_spec _ (by omega)).1, (hexDigit_spec _ (by omega)).1]
  dsimp only
  rw [Nat.div_add_mod, UInt8.ofNat_toNat]

theorem unquoteToBytes_quoteBytes (bytes : List UInt8) (rest : List Char) :
    unquoteToBytes (bytes.flatMap quoteByte ++ rest) = bytes ++ unquoteToBytes rest := by
  induction bytes with
  | nil => rfl
  | cons b bytes ih =>
    rw [List.flatMap_cons, List.append_assoc, unquoteToBytes_quoteByte, ih]
    rfl

theorem unquoteToBytes_cons {c : Char} (h : c ≠ '%') (rest : List Char) :
    unquoteToBytes (c :: rest) = UInt8.ofNat c.toNat :: unquoteToBytes rest := by
  rw [unquoteToBytes]
  intro a b rest' hc _
  exact h hc

theorem unquoteToBytes_quoteChar (c : Char) (rest : List Char) :
    unquoteToBytes (quoteChar c ++ rest) = String.utf8EncodeChar c ++ unquoteToBytes rest := by
  unfold quoteChar
  by_cases h : c = ' ' ∨ isAlwaysSafe c = true
  · have hquoted : IsQuoted c := by
      rcases h with h | h
      · exact Or.inl h
      · exact Or.inr (Or.inr h)
    have hpercent : c ≠ '%' := by
      rintro rfl
      revert h
      decide
    have hascii := hquoted.ascii
    rw [if_pos h, List.singleton_append, unquoteToBytes_cons hpercent, utf8EncodeChar_eq]
    unfold utf8Bytes
    rw [if_pos (by omega), List.singleton_append]
  · rw [if_neg h, unquoteToBytes_quoteBytes]

theorem unquoteToBytes_quote (text : List Char) :
    unquoteToBytes (quote text) = text.flatMap String.utf8EncodeChar := by
  induction text with
  | nil => rfl
  | cons c text ih =>
    show unquoteToBytes (quoteChar c ++ quote text) = _
    rw [unquoteToBytes_quoteChar, ih, List.flatMap_cons]

theorem quoteByte_length (b : UInt8) : (quoteByte b).length = 3 := rfl

theorem quoteChar_ne_nil (c : Char) : quoteChar c ≠ [] := by
  unfold quoteChar
  by_cases h : c = ' ' ∨ isAlwaysSafe c = true
  · rw [if_pos h]
    exact List.cons_ne_nil _ _
  · rw [if_neg h]
    cases hbytes : String.utf8EncodeChar c with
    | nil => exact absurd hbytes String.utf8EncodeChar_ne_nil
    | cons b bytes => exact List.cons_ne_nil _ _

theorem length_le_quote (text : List Char) : text.length ≤ (quote text).length := by
  induction text with
  | nil => exact Nat.le_refl 0
  | cons c text ih =>
    have hpos := List.length_pos_of_ne_nil (quoteChar_ne_nil c)
    show text.length + 1 ≤ (quoteChar c ++ quote text).length
    rw [List.length_append]
    omega

/-- A run of ASCII characters is decoded as a whole. -/
theorem unquoteRuns_eq : ∀ {text run : List Char}, (∀ c ∈ text, c.toNat < 128) →
    unquoteRuns run text = unquoteRun (run ++ text) := by
  intro text
  induction text with
  | nil =>
    intro run _
    rw [unquoteRuns, List.append_nil]
  | cons c text ih =>
    intro run h
    rw [List.forall_mem_cons] at h
    rw [unquoteRuns, if_pos h.1, ih h.2, List.append_assoc, List.singleton_append]

/-- A text that needs no escape is its own quotation. -/
theorem quote_eq_self {text : List Char} (h : '%' ∉ quote text) : quote text = text := by
  induction text with
  | nil => rfl
  | cons c text ih =>
    have hcons : quote (c :: text) = quoteChar c ++ quote text := rfl
    rw [hcons, List.mem_append, not_or] at h
    rw [hcons, ih h.2]
    by_cases hc : c = ' ' ∨ isAlwaysSafe c = true
    · unfold quoteChar
      rw [if_pos hc, List.singleton_append]
    · refine absurd ?_ h.1
      unfold quoteChar
      rw [if_neg hc]
      cases hbytes : String.utf8EncodeChar c with
      | nil => exact absurd hbytes String.utf8EncodeChar_ne_nil
      | cons b bytes => exact List.mem_cons_self

/-- **`unquote` reads what `quote` writes.** -/
theorem unquote_quote (text : List Char) : unquote (quote text) = text := by
  unfold unquote
  by_cases h : '%' ∈ quote text
  · rw [if_pos h, unquoteRuns_eq fun c hc => (isQuoted_of_mem_quote hc).ascii, List.nil_append,
      unquoteRun, unquoteToBytes_quote, utf8Replace_encode (length_le_quote text)]
  · rw [if_neg h]
    exact quote_eq_self h

theorem unquotePlus_quotePlus (text : List Char) : unquotePlus (quotePlus text) = text := by
  have hplus : (quotePlus text).map (fun c => if c = '+' then ' ' else c) = quote text := by
    unfold quotePlus
    rw [List.map_map]
    conv_rhs => rw [← List.map_id (quote text)]
    refine List.map_congr_left ?_
    intro c hc
    have hne : c ≠ '+' := (isQuoted_of_mem_quote hc).ne (by decide)
    show (if (if c = ' ' then '+' else c) = '+' then ' ' else if c = ' ' then '+' else c) = c
    by_cases hspace : c = ' '
    · rw [if_pos hspace, if_pos rfl, hspace]
    · rw [if_neg hspace, if_neg hne]
  unfold unquotePlus
  rw [hplus, unquote_quote]

/-! ## `parse_qsl` reads what `urlencode` writes -/

/-- A pair, written. -/
def writePair (pair : QueryPair) : List Char := quotePlus pair.1 ++ '=' :: quotePlus pair.2

theorem parseField_writePair (pair : QueryPair) : parseField (writePair pair) = some pair := by
  have hcut : cut '=' (writePair pair) = (quotePlus pair.1, quotePlus pair.2) :=
    cut_append (not_mem_quotePlus (by decide)) _
  have hmem : '=' ∈ writePair pair := List.mem_append_right _ List.mem_cons_self
  unfold parseField
  rw [if_pos hmem, hcut, unquotePlus_quotePlus, unquotePlus_quotePlus]

theorem not_mem_writePair {pair : QueryPair} {d : Char} (hd : d ∈ ['&', '#']) :
    d ∉ writePair pair := by
  have hall : ['&', '#'].all (fun d => decide (d ∈ ['&', '=', '#'] ∧ d ≠ '=')) = true := by decide
  obtain ⟨hmem, hne⟩ := of_decide_eq_true (List.all_eq_true.mp hall d hd)
  intro h
  rcases List.mem_append.mp h with h | h
  · exact not_mem_quotePlus hmem h
  · rcases List.mem_cons.mp h with h | h
    · exact hne h
    · exact not_mem_quotePlus hmem h

/-- There is one piece more than there are separators. -/
theorem length_splitOn (a : Char) (xs : List Char) : (xs.splitOn a).length = xs.count a + 1 := by
  induction xs with
  | nil => rfl
  | cons x xs ih =>
    rw [List.splitOn_cons_eq_if_modifyHead, List.count_cons]
    by_cases h : (x == a) = true
    · rw [if_pos h, if_pos h, List.length_cons, ih]
    · rw [if_neg h, if_neg h, List.length_modifyHead, ih, Nat.add_zero]

theorem splitOn_urlencode {pairs : List QueryPair} (h : pairs ≠ []) :
    (urlencode pairs).splitOn '&' = pairs.map writePair := by
  refine List.splitOn_intercalate _ ?_ ?_
  · intro text htext
    obtain ⟨pair, -, rfl⟩ := List.mem_map.mp htext
    exact not_mem_writePair (by decide)
  · rw [ne_eq, List.map_eq_nil_iff]
    exact h

theorem mapM_writePair (pairs : List QueryPair) :
    (pairs.map writePair).mapM parseField = some pairs := by
  induction pairs with
  | nil => rfl
  | cons pair pairs ih =>
    rw [List.map_cons, List.mapM_cons, parseField_writePair, ih]
    rfl

/-- **`parse_qsl` reads what `urlencode` writes.** -/
theorem parseQsl_urlencode {maximum : Nat} {pairs : List QueryPair} (h : pairs.length ≤ maximum)
    (hmaximum : 1 ≤ maximum) : parseQsl maximum (urlencode pairs) = some pairs := by
  by_cases hempty : pairs = []
  · subst hempty
    show (if maximum < 1 + 0 then none else some []) = some []
    rw [if_neg (by omega)]
  · have hsplit := splitOn_urlencode hempty
    have hcount := length_splitOn '&' (urlencode pairs)
    rw [hsplit, List.length_map] at hcount
    have hne : urlencode pairs ≠ [] := by
      intro hnil
      rw [hnil] at hsplit
      cases pairs with
      | nil => exact hempty rfl
      | cons pair pairs =>
        have hfirst : writePair pair = [] := (List.cons.inj hsplit).1.symm
        exact absurd hfirst (List.append_ne_nil_of_right_ne_nil _ (List.cons_ne_nil _ _))
    unfold parseQsl
    rw [if_neg (by omega), if_neg hne, hsplit, mapM_writePair]

/-! ## The checked query -/

theorem mapM_parseField_length : ∀ {fields : List (List Char)} {pairs : List QueryPair},
    fields.mapM parseField = some pairs → pairs.length = fields.length := by
  intro fields
  induction fields with
  | nil =>
    intro pairs h
    cases h
    rfl
  | cons field fields ih =>
    intro pairs h
    rw [List.mapM_cons, Option.bind_eq_bind, Option.bind_eq_some_iff] at h
    obtain ⟨pair, -, h⟩ := h
    obtain ⟨rest, hrest, h⟩ := Option.bind_eq_some_iff.mp h
    cases h
    rw [List.length_cons, List.length_cons, ih hrest]

/-- No more pairs are read than there may be. -/
theorem parseQsl_length {maximum : Nat} {query : List Char} {pairs : List QueryPair}
    (h : parseQsl maximum query = some pairs) : pairs.length ≤ maximum := by
  unfold parseQsl at h
  by_cases hmany : maximum < 1 + query.count '&'
  · rw [if_pos hmany] at h
    cases h
  · rw [if_neg hmany] at h
    by_cases hempty : query = []
    · rw [if_pos hempty] at h
      cases h
      exact Nat.zero_le _
    · rw [if_neg hempty] at h
      have hlength := mapM_parseField_length h
      rw [length_splitOn] at hlength
      omega

theorem validateQueryString_spec {urls : UrlLibrary} {value query : List Char}
    (h : validateQueryString urls value = .ok query) :
    (value.length ≤ maxQueryEntries * (maxQueryValueLength * 2 + 2) ∧
        ∀ c ∈ value, urls.isControl c = false) ∧
      ∃ pairs, parseQsl maxQueryEntries value = some pairs ∧ IsBoundedQuery urls pairs ∧
        query = urlencode pairs ∧ parseQsl maxQueryEntries query = some pairs := by
  obtain ⟨_, hlength, h⟩ := Fallible.bind_eq_ok.mp h
  obtain ⟨_, hcontrol, h⟩ := Fallible.bind_eq_ok.mp h
  rw [Fallible.require_eq_ok] at hlength hcontrol
  refine ⟨⟨hlength, noControl_iff.mp hcontrol⟩, ?_⟩
  cases hpairs : parseQsl maxQueryEntries value with
  | none =>
    rw [hpairs] at h
    cases h
  | some pairs =>
    rw [hpairs] at h
    obtain ⟨_, hbounded, h⟩ := Fallible.bind_eq_ok.mp h
    rw [Fallible.require_eq_ok] at hbounded
    cases h
    have hmany := parseQsl_length hpairs
    exact ⟨pairs, rfl, ⟨hmany, hbounded⟩, rfl, parseQsl_urlencode hmany (by decide)⟩

/-- **Nothing is lost of a query**: what is accepted is sent in another form, which is read as the
same bounded pairs, no key twice. -/
theorem validateQueryString_iff (urls : UrlLibrary) (value query : List Char) :
    validateQueryString urls value = .ok query ↔
      (value.length ≤ maxQueryEntries * (maxQueryValueLength * 2 + 2) ∧
        ∀ c ∈ value, urls.isControl c = false) ∧
      ∃ pairs, parseQsl maxQueryEntries value = some pairs ∧ IsBoundedQuery urls pairs ∧
        query = urlencode pairs ∧ parseQsl maxQueryEntries query = some pairs := by
  refine ⟨validateQueryString_spec, ?_⟩
  intro h
  obtain ⟨⟨hlength, hcontrol⟩, pairs, hpairs, ⟨-, hbounded⟩, hquery, -⟩ := h
  refine Fallible.bind_eq_ok.mpr ⟨(), Fallible.require_eq_ok.mpr hlength, ?_⟩
  refine Fallible.bind_eq_ok.mpr ⟨(), Fallible.require_eq_ok.mpr (noControl_iff.mpr hcontrol), ?_⟩
  rw [hpairs]
  refine Fallible.bind_eq_ok.mpr ⟨(), Fallible.require_eq_ok.mpr hbounded, ?_⟩
  rw [hquery]
  rfl

theorem graphic_of_isAlwaysSafe {c : Char} (h : isAlwaysSafe c = true) : 0x20 < c.toNat := by
  unfold isAlwaysSafe at h
  simp only [Bool.or_eq_true, beq_iff_eq] at h
  rcases h with (((h | rfl) | rfl) | rfl) | rfl
  · exact graphic_of_isSchemeChar (by unfold isSchemeChar; rw [h]; rfl)
  · decide
  · decide
  · decide
  · decide

theorem graphic_of_mem_quotePlus {text : List Char} {c : Char} (h : c ∈ quotePlus text) :
    0x20 < c.toNat := by
  rcases mem_quotePlus h with rfl | ⟨rfl | rfl | hsafe, hspace⟩
  · decide
  · exact absurd rfl hspace
  · decide
  · exact graphic_of_isAlwaysSafe hsafe

theorem mem_intercalate {a c : Char} : ∀ {pieces : List (List Char)},
    c ∈ [a].intercalate pieces → c = a ∨ ∃ piece ∈ pieces, c ∈ piece := by
  intro pieces
  induction pieces with
  | nil => exact fun h => absurd h List.not_mem_nil
  | cons piece pieces ih =>
    intro h
    cases pieces with
    | nil =>
      rw [List.intercalate_singleton] at h
      exact Or.inr ⟨piece, List.mem_cons_self, h⟩
    | cons next pieces =>
      rw [List.intercalate_cons_cons, List.mem_append, List.mem_append, List.mem_singleton] at h
      rcases h with (h | h) | h
      · exact Or.inr ⟨piece, List.mem_cons_self, h⟩
      · exact Or.inl h
      · rcases ih h with h | ⟨found, hmem, hc⟩
        · exact Or.inl h
        · exact Or.inr ⟨found, List.mem_cons_of_mem _ hmem, hc⟩

/-- What is written needs no further escape in a URL. -/
theorem urlencode_clean {pairs : List QueryPair} {c : Char} (h : c ∈ urlencode pairs) :
    c ≠ '#' ∧ isRemoved c = false := by
  have hpairs : ∀ {pair : QueryPair}, c ∈ writePair pair → c ≠ '#' ∧ isRemoved c = false := by
    intro pair hpair
    refine ⟨?_, isRemoved_of_graphic ?_⟩
    · rintro rfl
      exact not_mem_writePair (by decide) hpair
    · rcases List.mem_append.mp hpair with hpair | hpair
      · exact graphic_of_mem_quotePlus hpair
      · rcases List.mem_cons.mp hpair with rfl | hpair
        · decide
        · exact graphic_of_mem_quotePlus hpair
  rcases mem_intercalate h with rfl | ⟨piece, hmem, hc⟩
  · decide
  · obtain ⟨pair, -, rfl⟩ := List.mem_map.mp hmem
    exact hpairs hc

end FinanceResearch.Http
