import Mathlib.Data.List.TakeWhile

/-!
# URLs as `urllib.parse` splits and writes them

`urlsplit` takes a URL apart at its delimiters, `urlunsplit` writes the parts again, and the
names in a netloc are found the way `SplitResult.hostname` and its siblings find them. Parts
that hold no delimiter of their own survive being written and read (`urlsplit_urlunsplit`), so
what is said of the parts that were checked holds of the URL that is sent.
-/

namespace SplitUrls

/-- `text.partition(delimiter)`, the delimiter left out. -/
def cut (delimiter : Char) (text : List Char) : List Char × List Char :=
  (text.takeWhile (· ≠ delimiter), (text.dropWhile (· ≠ delimiter)).drop 1)

/-- The first delimiter ends the first part. -/
theorem cut_append {delimiter : Char} {front : List Char} (h : delimiter ∉ front)
    (rest : List Char) : cut delimiter (front ++ delimiter :: rest) = (front, rest) := by
  have hfront : ∀ c ∈ front, decide (c ≠ delimiter) = true := by
    intro c hc
    exact decide_eq_true fun heq => h (heq ▸ hc)
  unfold cut
  rw [List.takeWhile_append_of_pos hfront, List.dropWhile_append_of_pos hfront,
    List.takeWhile_cons_of_neg (by simp), List.dropWhile_cons_of_neg (by simp), List.append_nil]
  rfl

theorem cut_of_not_mem {delimiter : Char} {text : List Char} (h : delimiter ∉ text) :
    cut delimiter text = (text, []) := by
  have htext : ∀ c ∈ text, decide (c ≠ delimiter) = true := by
    intro c hc
    exact decide_eq_true fun heq => h (heq ▸ hc)
  unfold cut
  rw [List.takeWhile_eq_self_iff.mpr htext, List.dropWhile_eq_nil_iff.mpr htext]
  rfl

theorem not_mem_cut (delimiter : Char) (text : List Char) : delimiter ∉ (cut delimiter text).1 := by
  intro h
  have hne := List.mem_takeWhile_imp h
  simp at hne

theorem mem_of_mem_cut {delimiter c : Char} {text : List Char} :
    c ∈ (cut delimiter text).1 ∨ c ∈ (cut delimiter text).2 → c ∈ text := by
  intro h
  rcases h with h | h
  · exact (List.takeWhile_sublist _).subset h
  · exact (List.dropWhile_sublist _).subset (List.mem_of_mem_drop h)

/-! ## Splitting and writing -/

structure SplitResult where
  scheme : List Char
  netloc : List Char
  path : List Char
  query : List Char
  fragment : List Char
  deriving DecidableEq

/-- `_UNSAFE_URL_BYTES_TO_REMOVE`. -/
def isRemoved (c : Char) : Bool := c == '\t' || c == '\r' || c == '\n'

/-- `scheme_chars`. -/
def isSchemeChar (c : Char) : Bool := c.isAlphanum || c == '+' || c == '-' || c == '.'

/-- What ends a netloc. -/
def isDelimiter (c : Char) : Bool := c == '/' || c == '?' || c == '#'

/-- The scheme, and what follows it. -/
def splitScheme (url : List Char) : List Char × List Char :=
  let front := (cut ':' url).1
  if ':' ∈ url ∧ front.head?.any Char.isAlpha = true ∧ front.all isSchemeChar = true then
    (front.map Char.toLower, (cut ':' url).2)
  else ([], url)

/-- The netloc, and what follows it. -/
def splitNetloc : List Char → List Char × List Char
  | '/' :: '/' :: rest =>
    (rest.takeWhile fun c => !isDelimiter c, rest.dropWhile fun c => !isDelimiter c)
  | url => ([], url)

/-- `urlsplit(url)`; `isLegal` is what it checks of a netloc, and none is its `ValueError`. -/
def urlsplit (isLegal : List Char → Bool) (url : List Char) : Option SplitResult :=
  let cleaned := (url.dropWhile fun c => decide (c.toNat ≤ 0x20)).filter fun c => !isRemoved c
  let (scheme, schemeless) := splitScheme cleaned
  let (netloc, rest) := splitNetloc schemeless
  let (target, fragment) := cut '#' rest
  let (path, query) := cut '?' target
  if isLegal netloc then some ⟨scheme, netloc, path, query, fragment⟩ else none

/-- A part behind its delimiter, when there is one. -/
def marked (delimiter : Char) (text : List Char) : List Char :=
  if text = [] then [] else delimiter :: text

/-- `urlunsplit(parts)`, of parts with a scheme and a netloc. -/
def urlunsplit (parts : SplitResult) : List Char :=
  let path := if parts.path.head?.all (· == '/') = true then parts.path else '/' :: parts.path
  parts.scheme ++ ':' :: '/' :: '/' :: (parts.netloc ++
    (path ++ marked '?' parts.query ++ marked '#' parts.fragment))

/-- No part holds what is removed, or a delimiter that ends it. -/
structure SplitResult.Writable (isLegal : List Char → Bool) (parts : SplitResult) : Prop where
  scheme : parts.scheme.head?.any Char.isAlpha = true ∧ parts.scheme.all isSchemeChar = true ∧
    parts.scheme.map Char.toLower = parts.scheme
  netloc : isLegal parts.netloc = true ∧
    ∀ c ∈ parts.netloc, isDelimiter c = false ∧ isRemoved c = false
  path : parts.path.head?.all (· == '/') = true ∧
    ∀ c ∈ parts.path, c ≠ '?' ∧ c ≠ '#' ∧ isRemoved c = false
  query : ∀ c ∈ parts.query, c ≠ '#' ∧ isRemoved c = false
  fragment : ∀ c ∈ parts.fragment, isRemoved c = false

theorem mem_marked {delimiter c : Char} {text : List Char} (h : c ∈ marked delimiter text) :
    c = delimiter ∨ c ∈ text := by
  unfold marked at h
  by_cases hempty : text = []
  · rw [if_pos hempty] at h
    cases h
  · rw [if_neg hempty] at h
    exact List.mem_cons.mp h

theorem cut_marked {delimiter : Char} {front : List Char} (h : delimiter ∉ front)
    (text : List Char) : cut delimiter (front ++ marked delimiter text) = (front, text) := by
  unfold marked
  by_cases hempty : text = []
  · rw [if_pos hempty, hempty, List.append_nil]
    exact cut_of_not_mem h
  · rw [if_neg hempty]
    exact cut_append h text

theorem head_marked {delimiter : Char} (h : isDelimiter delimiter = true) {text rest : List Char}
    (hrest : rest.head?.all isDelimiter = true) :
    (marked delimiter text ++ rest).head?.all isDelimiter = true := by
  unfold marked
  by_cases hempty : text = []
  · rw [if_pos hempty]
    exact hrest
  · rw [if_neg hempty]
    exact h

theorem isRemoved_of_graphic {c : Char} (h : 0x20 < c.toNat) : isRemoved c = false := by
  unfold isRemoved
  simp only [Bool.or_eq_false_iff, beq_eq_false_iff_ne]
  refine ⟨⟨?_, ?_⟩, ?_⟩
  · rintro rfl
    exact absurd h (by decide)
  · rintro rfl
    exact absurd h (by decide)
  · rintro rfl
    exact absurd h (by decide)

theorem isAlphanum_eq (c : Char) : c.isAlphanum =
    ((decide (65 ≤ c.val ∧ c.val ≤ 90) || decide (97 ≤ c.val) && decide (c.val ≤ 122)) ||
      decide (48 ≤ c.val) && decide (c.val ≤ 57)) := rfl

/-- Letters and digits are graphic ASCII characters. -/
theorem toNat_of_isAlphanum {c : Char} (h : c.isAlphanum = true) : 0x20 < c.toNat ∧ c.toNat < 128 := by
  rw [isAlphanum_eq] at h
  simp only [Bool.or_eq_true, Bool.and_eq_true, decide_eq_true_eq, UInt32.le_iff_toNat_le] at h
  show 0x20 < c.val.toNat ∧ c.val.toNat < 128
  rcases h with (h | h) | h
  · exact ⟨lt_of_lt_of_le (by decide) h.1, lt_of_le_of_lt h.2 (by decide)⟩
  · exact ⟨lt_of_lt_of_le (by decide) h.1, lt_of_le_of_lt h.2 (by decide)⟩
  · exact ⟨lt_of_lt_of_le (by decide) h.1, lt_of_le_of_lt h.2 (by decide)⟩

theorem graphic_of_isSchemeChar {c : Char} (h : isSchemeChar c = true) : 0x20 < c.toNat := by
  unfold isSchemeChar at h
  simp only [Bool.or_eq_true, beq_iff_eq] at h
  rcases h with ((h | rfl) | rfl) | rfl
  · exact (toNat_of_isAlphanum h).1
  · decide
  · decide
  · decide

theorem splitScheme_append {scheme : List Char} (hhead : scheme.head?.any Char.isAlpha = true)
    (hall : scheme.all isSchemeChar = true) (rest : List Char) :
    splitScheme (scheme ++ ':' :: rest) = (scheme.map Char.toLower, rest) := by
  have hcolon : ':' ∉ scheme := by
    intro h
    have hchar := List.all_eq_true.mp hall ':' h
    revert hchar
    decide
  have hmem : ':' ∈ scheme ++ ':' :: rest := List.mem_append_right _ List.mem_cons_self
  unfold splitScheme
  rw [cut_append hcolon]
  exact if_pos ⟨hmem, hhead, hall⟩

theorem splitNetloc_append {netloc : List Char} (h : ∀ c ∈ netloc, isDelimiter c = false)
    {rest : List Char} (hrest : rest.head?.all isDelimiter = true) :
    splitNetloc ('/' :: '/' :: (netloc ++ rest)) = (netloc, rest) := by
  have hall : ∀ c ∈ netloc, (!isDelimiter c) = true := by
    intro c hc
    rw [h c hc]
    rfl
  show ((netloc ++ rest).takeWhile _, (netloc ++ rest).dropWhile _) = _
  rw [List.takeWhile_append_of_pos hall, List.dropWhile_append_of_pos hall]
  cases rest with
  | nil => rw [List.takeWhile_nil, List.append_nil, List.dropWhile_nil]
  | cons c rest =>
    have hc : isDelimiter c = true := hrest
    rw [List.takeWhile_cons_of_neg (by rw [hc]; decide), List.append_nil,
      List.dropWhile_cons_of_neg (by rw [hc]; decide)]

/-- What a URL is taken apart into holds no delimiter that ends it. -/
structure SplitResult.Separated (isLegal : List Char → Bool) (parts : SplitResult) : Prop where
  netloc : isLegal parts.netloc = true ∧
    ∀ c ∈ parts.netloc, isDelimiter c = false ∧ isRemoved c = false
  path : ∀ c ∈ parts.path, c ≠ '?' ∧ c ≠ '#' ∧ isRemoved c = false

theorem splitScheme_subset {c : Char} {url : List Char} (h : c ∈ (splitScheme url).2) : c ∈ url := by
  unfold splitScheme at h
  dsimp only at h
  split at h
  · exact mem_of_mem_cut (Or.inr h)
  · exact h

theorem splitNetloc_spec (url : List Char) :
    (∀ c ∈ (splitNetloc url).1, isDelimiter c = false ∧ c ∈ url) ∧
      ∀ c ∈ (splitNetloc url).2, c ∈ url := by
  unfold splitNetloc
  split
  · rename_i rest
    refine ⟨?_, ?_⟩
    · intro c hc
      have hmem := (List.takeWhile_sublist _).subset hc
      refine ⟨?_, List.mem_cons_of_mem _ (List.mem_cons_of_mem _ hmem)⟩
      simpa using List.mem_takeWhile_imp hc
    · intro c hc
      have hmem := (List.dropWhile_sublist _).subset hc
      exact List.mem_cons_of_mem _ (List.mem_cons_of_mem _ hmem)
  · exact ⟨fun _ hc => absurd hc List.not_mem_nil, fun _ hc => hc⟩

/-- What is checked of a netloc does not change the parts. -/
theorem urlsplit_parts {isLegal : List Char → Bool} {url : List Char} {parts : SplitResult}
    (h : urlsplit isLegal url = some parts) :
    urlsplit (fun _ => true) url = some parts ∧ isLegal parts.netloc = true := by
  unfold urlsplit at h ⊢
  dsimp only at h ⊢
  split at h
  · rename_i hlegal
    cases h
    exact ⟨if_pos rfl, hlegal⟩
  · cases h

theorem urlsplit_separated {isLegal : List Char → Bool} {url : List Char} {parts : SplitResult}
    (h : urlsplit isLegal url = some parts) : parts.Separated isLegal := by
  unfold urlsplit at h
  dsimp only at h
  split at h
  · rename_i hlegal
    cases h
    have hclean : ∀ c ∈ (url.dropWhile fun c => decide (c.toNat ≤ 0x20)).filter fun c => !isRemoved c,
        isRemoved c = false := by
      intro c hc
      simpa using (List.mem_filter.mp hc).2
    refine ⟨⟨hlegal, ?_⟩, ?_⟩
    · intro c hc
      obtain ⟨hdelimiter, hmem⟩ := (splitNetloc_spec _).1 c hc
      exact ⟨hdelimiter, hclean c (splitScheme_subset hmem)⟩
    · intro c hc
      have htarget := mem_of_mem_cut (Or.inl hc)
      refine ⟨?_, ?_, ?_⟩
      · rintro rfl
        exact not_mem_cut _ _ hc
      · rintro rfl
        exact not_mem_cut _ _ htarget
      · exact hclean c (splitScheme_subset ((splitNetloc_spec _).2 c (mem_of_mem_cut (Or.inl htarget))))
  · cases h

/-- **What is written is read again.** -/
theorem urlsplit_urlunsplit {isLegal : List Char → Bool} {parts : SplitResult}
    (h : parts.Writable isLegal) : urlsplit isLegal (urlunsplit parts) = some parts := by
  obtain ⟨scheme, netloc, path, query, fragment⟩ := parts
  obtain ⟨⟨hhead, hall, hlower⟩, ⟨hlegal, hnetloc⟩, ⟨hslash, hpath⟩, hquery, hfragment⟩ := h
  dsimp only at hhead hall hlower hlegal hnetloc hslash hpath hquery hfragment
  have hwritten : urlunsplit ⟨scheme, netloc, path, query, fragment⟩ = scheme ++ ':' :: '/' :: '/' ::
      (netloc ++ (path ++ marked '?' query ++ marked '#' fragment)) := by
    unfold urlunsplit
    dsimp only
    rw [if_pos hslash]
  have hclean : ∀ c ∈ urlunsplit ⟨scheme, netloc, path, query, fragment⟩, isRemoved c = false := by
    intro c hc
    rw [hwritten] at hc
    simp only [List.mem_append, List.mem_cons] at hc
    rcases hc with hc | rfl | rfl | rfl | hc | (hc | hc) | hc
    · exact isRemoved_of_graphic (graphic_of_isSchemeChar (List.all_eq_true.mp hall c hc))
    · rfl
    · rfl
    · rfl
    · exact (hnetloc c hc).2
    · exact (hpath c hc).2.2
    · rcases mem_marked hc with rfl | hc
      · rfl
      · exact (hquery c hc).2
    · rcases mem_marked hc with rfl | hc
      · rfl
      · exact hfragment c hc
  have hfirst : (urlunsplit ⟨scheme, netloc, path, query, fragment⟩).dropWhile
      (fun c => decide (c.toNat ≤ 0x20)) =
        urlunsplit ⟨scheme, netloc, path, query, fragment⟩ := by
    rw [hwritten]
    cases scheme with
    | nil => cases hhead
    | cons c scheme =>
      have hc := graphic_of_isSchemeChar (List.all_eq_true.mp hall c List.mem_cons_self)
      rw [List.cons_append]
      exact List.dropWhile_cons_of_neg (by simpa using hc)
  have hkept : (urlunsplit ⟨scheme, netloc, path, query, fragment⟩).filter (fun c => !isRemoved c) =
      urlunsplit ⟨scheme, netloc, path, query, fragment⟩ := by
    refine List.filter_eq_self.mpr ?_
    intro c hc
    rw [hclean c hc]
    rfl
  have hrest : (path ++ marked '?' query ++ marked '#' fragment).head?.all isDelimiter = true := by
    cases path with
    | cons c path =>
      have hc : c = '/' := by simpa using hslash
      rw [hc]
      rfl
    | nil =>
      have hend := @head_marked '#' (by decide) fragment [] rfl
      rw [List.append_nil] at hend
      exact head_marked (by decide) hend
  have hnoQuery : '?' ∉ path := fun hmem => (hpath _ hmem).1 rfl
  have hnoFragment : '#' ∉ path ++ marked '?' query := by
    intro hmem
    rcases List.mem_append.mp hmem with hmem | hmem
    · exact (hpath _ hmem).2.1 rfl
    · rcases mem_marked hmem with hmem | hmem
      · exact absurd hmem (by decide)
      · exact (hquery _ hmem).1 rfl
  unfold urlsplit
  rw [hfirst, hkept, hwritten]
  dsimp only
  rw [splitScheme_append hhead hall, hlower]
  dsimp only
  rw [splitNetloc_append (fun c hc => (hnetloc c hc).1) hrest]
  dsimp only
  rw [cut_marked hnoFragment]
  dsimp only
  rw [cut_marked hnoQuery, if_pos hlegal]

/-! ## The names in a netloc -/

/-- What follows the last `@`. -/
def hostInfo (netloc : List Char) : List Char := (netloc.reverse.takeWhile (· ≠ '@')).reverse

/-- `_hostinfo`, without port the empty text. -/
def splitHost (netloc : List Char) : List Char × List Char :=
  let info := hostInfo netloc
  if '[' ∈ info then
    let (address, rest) := cut ']' (cut '[' info).2
    (address, (cut ':' rest).2)
  else cut ':' info

/-- `parts.hostname`; `lower` is `str.lower`. -/
def SplitResult.hostname (lower : List Char → List Char) (parts : SplitResult) :
    Option (List Char) :=
  let host := (splitHost parts.netloc).1
  if host = [] then none
  else some (lower (cut '%' host).1 ++ if '%' ∈ host then '%' :: (cut '%' host).2 else [])

/-- `parts.port`; none is its `ValueError`. -/
def SplitResult.port (parts : SplitResult) : Option (Option Nat) :=
  let text := (splitHost parts.netloc).2
  if text = [] then some none
  else if text.all Char.isDigit = true ∧ Nat.ofDigitChars 10 text 0 ≤ 65535 then
    some (some (Nat.ofDigitChars 10 text 0))
  else none

/-- `parts.username`. -/
def SplitResult.username (parts : SplitResult) : Option (List Char) :=
  if '@' ∈ parts.netloc then
    some (cut ':' (parts.netloc.take (parts.netloc.length - (hostInfo parts.netloc).length - 1))).1
  else none

/-- `parts.password`. -/
def SplitResult.password (parts : SplitResult) : Option (List Char) :=
  let user := parts.netloc.take (parts.netloc.length - (hostInfo parts.netloc).length - 1)
  if '@' ∈ parts.netloc ∧ ':' ∈ user then some (cut ':' user).2 else none

/-- A netloc without user is a host and a port. -/
theorem splitHost_of_plain {netloc : List Char} (h : '@' ∉ netloc ∧ '[' ∉ netloc) :
    splitHost netloc = cut ':' netloc := by
  have hinfo : hostInfo netloc = netloc := by
    unfold hostInfo
    have hall : ∀ c ∈ netloc.reverse, decide (c ≠ '@') = true := by
      intro c hc
      exact decide_eq_true fun heq => h.1 (heq ▸ List.mem_reverse.mp hc)
    rw [List.takeWhile_eq_self_iff.mpr hall, List.reverse_reverse]
  unfold splitHost
  dsimp only
  rw [hinfo]
  exact if_neg h.2

end SplitUrls
