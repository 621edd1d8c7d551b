import FinanceResearch.Urls.Traversal

/-!
# Where the tests for dot segments agree

The path of an https URL follows its authority, which ends at the first slash or backslash,
as URL parsers read it. `_source_url` looks at all of it. `valid_sources` looks at what
follows the first slash: of a URL whose authority ends at a backslash, the text up to the
first slash is not seen (`unseenPath`). A source is safe, and the three tests agree on it,
exactly when no dot segment is hidden there alone (`pathsSafe_iff`).

Mirroring notes vs the source:
- The path is read off the text: behind `https:`, slashes and backslashes are skipped.
- An https URL of which the tests are compared is written `https://` and an authority.
-/

namespace FinanceResearch.Urls

open Config Rounds

/-! ## The path of a URL -/

/-- The text before the query and the fragment. -/
def beforeQuery (text : List Char) : List Char := text.takeWhile fun c => c ≠ '?' && c ≠ '#'

/-- What follows the first slash or backslash. -/
def afterAuthority (text : List Char) : List Char := (text.dropWhile fun c => !isSlash c).drop 1

/-- The path, as URL parsers read it. -/
def urlPath (source : String) : List Char :=
  afterAuthority (((beforeQuery source.toList).drop 6).dropWhile isSlash)

/-- A round of percent-decoding, and backslashes read as slashes. -/
def decodingRound (path : List Char) : List Char := slashed (percentDecode path)

/-- No segment of the path leads out of it. -/
def DotFree (path : List Char) : Prop := ∀ segment ∈ path.splitOn '/', segment ∉ dotSegments

/-- An https URL without query, fragment, credentials, whitespace and control characters, with
escapes of ASCII characters. -/
structure IsPlainUrl (u : CharacterDatabase) (urls : UrlLibrary) (source : String) : Prop where
  schemed : "https://".toList.isPrefixOf source.toList = true
  authority : (source.toList.drop 8).head?.any (fun c => !isSlash c) = true
  unqueried : '?' ∉ source.toList ∧ '#' ∉ source.toList
  anonymous : '@' ∉ (source.toList.drop 8).takeWhile fun c => !isSlash c
  clean : ∀ c ∈ source.toList, u.isSpace c = false ∧ urls.isControl c = false
  ascii : AsciiEscapes (urlPath source)

/-- The loops end, what is accepted is free of dot segments at every depth, and the three tests
agree. -/
structure PathsSafe (u : CharacterDatabase) (urls : UrlLibrary) (source : String) : Prop where
  sourceUrlEnds : ∃ n, percentDecode (percentDecode^[n] (inspectedPath source)) =
    percentDecode^[n] (inspectedPath source)
  officialEnds : ∃ n, decodingRound (decodingRound^[n] (slashed (sourcePath source))) =
    decodingRound^[n] (slashed (sourcePath source))
  sourceUrl : isSourceUrl u urls source = true → ∀ n, DotFree (decodingRound^[n] (urlPath source))
  official : isOfficialSource u urls source = true → ∀ n, DotFree (decodingRound^[n] (urlPath source))
  agree : IsPlainUrl u urls source →
    sourceUrlTraverses source = officialSourceTraverses source ∧
      officialSourceTraverses source = containsTraversal (urlPath source)

/-- The part of the path before the text that `valid_sources` inspects. -/
def unseenPath (source : String) : List Char :=
  (urlPath source).take ((urlPath source).length - (sourcePath source).length)

/-! ## Rounds on the path -/

theorem decodingRound_slashed (path : List Char) :
    decodingRound (slashed path) = slashed (percentDecode path) := slashed_percentDecode path

/-- Rounds from a path whose backslashes are read. -/
theorem decodingRound_iterate (n : Nat) : ∀ path : List Char,
    decodingRound^[n] (slashed path) = slashed (percentDecode^[n] path) := by
  induction n with
  | zero => intro path; rfl
  | succ n ih =>
    intro path
    rw [Function.iterate_succ_apply, decodingRound_slashed, ih, Function.iterate_succ_apply]

/-- Rounds from the path as it is written. -/
theorem decodingRound_succ (n : Nat) (path : List Char) :
    decodingRound^[n + 1] path = slashed (percentDecode^[n + 1] path) := by
  rw [Function.iterate_succ_apply, decodingRound, decodingRound_iterate, Function.iterate_succ_apply]

theorem dotFree_slashed_iff {path : List Char} : DotFree (slashed path) ↔ hasDots path = false := by
  rw [← Bool.not_eq_true, hasDots_iff]
  unfold DotFree
  constructor
  · intro h hdots
    obtain ⟨segment, hmem, hsegment⟩ := hdots
    exact h segment hmem hsegment
  · intro h segment hmem hsegment
    exact h ⟨segment, hmem, hsegment⟩

/-- A segment between slashes is one when backslashes are read as slashes. -/
theorem dotFree_of_slashed {path : List Char} (h : DotFree (slashed path)) : DotFree path := by
  intro segment hmem hsegment
  have hself : slashed segment = segment := by
    have hall : ∀ dots ∈ dotSegments, slashed dots = dots := by decide
    exact hall segment hsegment
  have hrespects : Respects '/' slashed := fun a b => slashed_append a ('/' :: b)
  exact h segment (hrespects.mem_splitOn hself hmem) hsegment

/-- **A path is free of dot segments at every depth when its stable form is.** -/
theorem dotFree_iff {path : List Char} :
    (∀ n, DotFree (decodingRound^[n] path)) ↔ hidesDots path = false := by
  constructor
  · intro h
    have hlast := h (path.length + 1)
    rw [decodingRound_succ, dotFree_slashed_iff] at hlast
    rwa [hidesDots_of_le (Nat.le_succ _)]
  · intro h n
    have hnone : ∀ m, hasDots (percentDecode^[m] path) = false := by
      intro m
      rw [← Bool.not_eq_true] at h ⊢
      exact fun hm => h (hidesDots_iff.mpr ⟨m, hm⟩)
    cases n with
    | zero => exact dotFree_of_slashed (dotFree_slashed_iff.mpr (hnone 0))
    | succ n =>
      rw [decodingRound_succ, dotFree_slashed_iff]
      exact hnone (n + 1)

/-! ## What the tests inspect -/

theorem decodePath_eq_iterate : ∀ (n : Nat) (path : List Char),
    decodePath n path = decodingRound^[n] path := by
  intro n
  induction n with
  | zero => intro path; rfl
  | succ n ih =>
    intro path
    rw [Function.iterate_succ_apply]
    show (if decodingRound path = path then path else decodePath n (decodingRound path)) = _
    by_cases h : decodingRound path = path
    · rw [if_pos h, h, Function.iterate_fixed h]
    · rw [if_neg h, ih]

theorem length_afterSlash (text : List Char) : (afterSlash text).length ≤ text.length := by
  unfold afterSlash
  rw [List.length_drop]
  have hle := (List.dropWhile_sublist (l := text) fun c => decide (c ≠ '/')).length_le
  omega

theorem length_withoutScheme (text : List Char) : (withoutScheme text).length ≤ text.length := by
  unfold withoutScheme
  split
  · rw [List.length_drop]
    omega
  · exact le_rfl

theorem sourcePath_eq (source : String) :
    sourcePath source = afterSlash ((withoutScheme source.toList).takeWhile (· ≠ '?')) := rfl

theorem length_sourcePath (source : String) : (sourcePath source).length ≤ source.length := by
  rw [sourcePath_eq]
  have hafter := length_afterSlash ((withoutScheme source.toList).takeWhile (· ≠ '?'))
  have htake := (List.takeWhile_sublist (l := withoutScheme source.toList)
    fun c => decide (c ≠ '?')).length_le
  have hscheme := length_withoutScheme source.toList
  rw [← String.length_toList]
  omega

/-- The test of `valid_sources`, of the text behind the first slash. -/
theorem officialSourceTraverses_eq (source : String) :
    officialSourceTraverses source = hidesDots (sourcePath source) := by
  rw [officialSourceTraverses, decodePath_eq_iterate, decodingRound_iterate,
    hidesDots_of_le (length_sourcePath source)]
  rfl

/-- The text that `_source_url` inspects, before backslashes are read. -/
def inspectedText (source : String) : List Char :=
  afterAuthority (beforeQuery (withoutScheme source.toList))

theorem afterSlash_slashed : ∀ text : List Char,
    afterSlash (slashed text) = slashed (afterAuthority text) := by
  intro text
  induction text with
  | nil => rfl
  | cons c text ih =>
    show ((slash c :: slashed text).dropWhile (· ≠ '/')).drop 1 = _
    by_cases h : isSlash c = true
    · rw [slash_of_isSlash h]
      unfold afterAuthority
      rw [List.dropWhile_cons_of_neg (by decide), List.dropWhile_cons_of_neg (by rw [h]; decide)]
      rfl
    · have hne : slash c ≠ '/' := by
        unfold isSlash at h
        simp only [Bool.or_eq_true, decide_eq_true_eq, not_or] at h
        unfold slash
        rw [if_neg h.2]
        exact h.1
      unfold afterAuthority
      rw [List.dropWhile_cons_of_pos (by simpa using hne),
        List.dropWhile_cons_of_pos (by simpa using h)]
      exact ih

/-- The test of `_source_url`, of the text behind the first slash or backslash. -/
theorem sourceUrlTraverses_eq (source : String) :
    sourceUrlTraverses source = hidesDots (inspectedText source) := by
  rw [sourceUrlTraverses]
  show hidesDots (afterSlash (slashed _)) = _
  rw [afterSlash_slashed, hidesDots_slashed]
  rfl

/-! ## Regions of one text -/

theorem afterAuthority_cons (c : Char) (text : List Char) :
    afterAuthority (c :: text) = if isSlash c = true then text else afterAuthority text := by
  unfold afterAuthority
  by_cases h : isSlash c = true
  · rw [if_pos h, List.dropWhile_cons_of_neg (by rw [h]; decide)]
    rfl
  · rw [if_neg h, List.dropWhile_cons_of_pos (by simpa using h)]

theorem afterSlash_cons (c : Char) (text : List Char) :
    afterSlash (c :: text) = if c = '/' then text else afterSlash text := by
  unfold afterSlash
  by_cases h : c = '/'
  · rw [if_pos h, List.dropWhile_cons_of_neg (by simpa using h)]
    rfl
  · rw [if_neg h, List.dropWhile_cons_of_pos (by simpa using h)]

/-- What follows an authority ends a text, behind a slash or a backslash. -/
theorem afterAuthority_suffix : ∀ text : List Char, afterAuthority text = [] ∨
    ∃ front sep, isSlash sep = true ∧ text = front ++ sep :: afterAuthority text := by
  intro text
  induction text with
  | nil => exact Or.inl rfl
  | cons c text ih =>
    rw [afterAuthority_cons]
    by_cases h : isSlash c = true
    · rw [if_pos h]
      exact Or.inr ⟨[], c, h, rfl⟩
    · rw [if_neg h]
      rcases ih with ih | ih
      · exact Or.inl ih
      · obtain ⟨front, sep, hsep, htext⟩ := ih
        exact Or.inr ⟨c :: front, sep, hsep, congrArg (List.cons c) htext⟩

/-- What follows the first slash or backslash of a text hides what a later part of it does. -/
theorem hidesDots_afterAuthority {sep : Char} (hsep : isSlash sep = true) {path : List Char}
    (h : hidesDots path = true) : ∀ front : List Char,
      hidesDots (afterAuthority (front ++ sep :: path)) = true := by
  intro front
  induction front with
  | nil =>
    rw [List.nil_append, afterAuthority_cons, if_pos hsep]
    exact h
  | cons c front ih =>
    rw [List.cons_append, afterAuthority_cons]
    by_cases hc : isSlash c = true
    · rw [if_pos hc, hidesDots_append hsep, h, Bool.or_true]
    · rw [if_neg hc]
      exact ih

/-- The text behind the first slash is at the end of the path, or has the path at its end. -/
theorem afterSlash_cases {sep : Char} (hsep : isSlash sep = true) (path : List Char) :
    ∀ front : List Char, afterSlash (front ++ sep :: path) = afterSlash path ∨
      afterSlash (front ++ sep :: path) = path ∨
      ∃ middle, afterSlash (front ++ sep :: path) = middle ++ sep :: path := by
  intro front
  induction front with
  | nil =>
    rw [List.nil_append, afterSlash_cons]
    by_cases h : sep = '/'
    · rw [if_pos h]
      exact Or.inr (Or.inl rfl)
    · rw [if_neg h]
      exact Or.inl rfl
  | cons c front ih =>
    rw [List.cons_append, afterSlash_cons]
    by_cases h : c = '/'
    · rw [if_pos h]
      exact Or.inr (Or.inr ⟨front, rfl⟩)
    · rw [if_neg h]
      exact ih

/-- A path is what precedes its first slash and what follows it. -/
theorem hidesDots_afterSlash : ∀ path : List Char,
    hidesDots path =
      (hidesDots (path.take (path.length - (afterSlash path).length)) || hidesDots (afterSlash path)) := by
  have hnil : hidesDots [] = false := by decide
  intro path
  by_cases h : '/' ∈ path
  · obtain ⟨a, b, rfl, ha⟩ := List.eq_append_cons_of_mem h
    have hafter : afterSlash (a ++ '/' :: b) = b := by
      induction a with
      | nil => rfl
      | cons c a ih =>
        rw [List.mem_cons, not_or] at ha
        rw [List.cons_append, afterSlash_cons, if_neg (Ne.symm ha.1)]
        exact ih ha.2 (List.mem_append_right a List.mem_cons_self)
    have htake : (a ++ '/' :: b).take ((a ++ '/' :: b).length - b.length) = a ++ ['/'] := by
      rw [List.append_cons, List.length_append, Nat.add_sub_cancel, List.take_left]
    rw [hafter, htake, hidesDots_append (by decide), hidesDots_append (by decide), hnil,
      Bool.or_false]
  · have hafter : afterSlash path = [] := by
      induction path with
      | nil => rfl
      | cons c path ih =>
        rw [List.mem_cons, not_or] at h
        rw [afterSlash_cons, if_neg (Ne.symm h.1)]
        exact ih h.2
    rw [hafter, List.length_nil, Nat.sub_zero, List.take_length, hnil, Bool.or_false]

/-- What `valid_sources` finds behind the first slash, `_source_url` finds too. -/
theorem hidesDots_afterAuthority_of_afterSlash : ∀ text : List Char,
    hidesDots (afterSlash text) = true → hidesDots (afterAuthority text) = true := by
  intro text
  induction text with
  | nil => exact id
  | cons c text ih =>
    intro h
    rw [afterSlash_cons] at h
    rw [afterAuthority_cons]
    by_cases hslash : c = '/'
    · rw [if_pos hslash] at h
      rw [hslash, if_pos (by decide)]
      exact h
    · rw [if_neg hslash] at h
      by_cases hback : isSlash c = true
      · rw [if_pos hback, hidesDots_afterSlash, h, Bool.or_true]
      · rw [if_neg hback]
        exact ih h

/-! ## The path in the text -/

theorem takeWhile_query : ∀ {text : List Char}, '#' ∉ text →
    text.takeWhile (· ≠ '?') = beforeQuery text := by
  intro text
  induction text with
  | nil => exact fun _ => rfl
  | cons c text ih =>
    intro h
    rw [List.mem_cons, not_or] at h
    unfold beforeQuery at ih ⊢
    rw [List.takeWhile_cons, List.takeWhile_cons, ih h.2]
    by_cases hc : c = '?'
    · simp [hc]
    · simp [hc, Ne.symm h.1]

theorem withoutScheme_append (rest : List Char) :
    withoutScheme ("https://".toList ++ rest) = rest := by
  unfold withoutScheme
  rw [if_pos (by rw [List.isPrefixOf_iff_prefix]; exact List.prefix_append _ _)]
  rfl

theorem exists_rest {text : List Char} (h : "https://".toList.isPrefixOf text = true) :
    ∃ rest, text = "https://".toList ++ rest := by
  obtain ⟨rest, hrest⟩ := List.isPrefixOf_iff_prefix.mp h
  exact ⟨rest, hrest.symm⟩

theorem beforeQuery_append (rest : List Char) :
    beforeQuery ("https://".toList ++ rest) = "https://".toList ++ beforeQuery rest := rfl

/-- The path follows an authority at the end of the text that the tests split. -/
theorem urlPath_eq (source : String) : ∃ tail, tail <:+ beforeQuery (withoutScheme source.toList) ∧
    urlPath source = afterAuthority tail := by
  unfold urlPath
  by_cases h : "https://".toList.isPrefixOf source.toList = true
  · obtain ⟨rest, hrest⟩ := exists_rest h
    rw [hrest, withoutScheme_append, beforeQuery_append]
    exact ⟨(beforeQuery rest).dropWhile isSlash, List.dropWhile_suffix isSlash, rfl⟩
  · unfold withoutScheme
    rw [if_neg h]
    exact ⟨_, (List.dropWhile_suffix isSlash).trans (List.drop_suffix 6 _), rfl⟩

theorem urlPath_suffix (source : String) : urlPath source = [] ∨ ∃ front sep, isSlash sep = true ∧
    beforeQuery (withoutScheme source.toList) = front ++ sep :: urlPath source := by
  obtain ⟨tail, ⟨before, hbefore⟩, hpath⟩ := urlPath_eq source
  rw [hpath, ← hbefore]
  rcases afterAuthority_suffix tail with h | h
  · exact Or.inl h
  · obtain ⟨front, sep, hsep, htail⟩ := h
    refine Or.inr ⟨before ++ front, sep, hsep, ?_⟩
    rw [List.append_assoc, ← htail]

/-- `_source_url` inspects the whole path. -/
theorem hidesDots_inspectedText {source : String} (h : hidesDots (urlPath source) = true) :
    hidesDots (inspectedText source) = true := by
  rcases urlPath_suffix source with hpath | hpath
  · rw [hpath] at h
    exact absurd h (by decide)
  · obtain ⟨front, sep, hsep, htext⟩ := hpath
    rw [inspectedText, htext]
    exact hidesDots_afterAuthority hsep h front

theorem not_mem_withoutScheme {c : Char} {text : List Char} (h : c ∉ text) :
    c ∉ withoutScheme text := by
  unfold withoutScheme
  split
  · exact fun hmem => h (List.mem_of_mem_drop hmem)
  · exact h

theorem sourcePath_text {source : String} (h : '#' ∉ source.toList) :
    sourcePath source = afterSlash (beforeQuery (withoutScheme source.toList)) := by
  rw [sourcePath_eq, takeWhile_query (not_mem_withoutScheme h)]

/-- The text that `valid_sources` inspects, beside the path: the part of the path behind its first
slash, or no less than the path. -/
theorem sourcePath_cases {source : String} (h : '#' ∉ source.toList) :
    sourcePath source = afterSlash (urlPath source) ∨
      (hidesDots (urlPath source) = true → hidesDots (sourcePath source) = true) ∧
        unseenPath source = [] := by
  have htake : ∀ {path inspected : List Char}, path.length ≤ inspected.length →
      path.take (path.length - inspected.length) = [] := by
    intro path inspected hle
    rw [Nat.sub_eq_zero_of_le hle, List.take_zero]
  rw [unseenPath, sourcePath_text h]
  rcases urlPath_suffix source with hpath | hpath
  · refine Or.inr ⟨?_, ?_⟩
    · intro hdots
      rw [hpath] at hdots
      exact absurd hdots (by decide)
    · rw [hpath, List.take_nil]
  · obtain ⟨front, sep, hsep, htext⟩ := hpath
    rw [htext]
    rcases afterSlash_cases hsep (urlPath source) front with hcase | hcase | hcase
    · exact Or.inl hcase
    · rw [hcase]
      exact Or.inr ⟨id, htake le_rfl⟩
    · obtain ⟨middle, hmiddle⟩ := hcase
      rw [hmiddle]
      refine Or.inr ⟨?_, htake ?_⟩
      · intro hdots
        rw [hidesDots_append hsep, hdots, Bool.or_true]
      · rw [List.length_append, List.length_cons]
        omega

/-- What the path hides, `valid_sources` finds or does not see. -/
theorem hidesDots_urlPath {source : String} (h : '#' ∉ source.toList)
    (hdots : hidesDots (urlPath source) = true) :
    hidesDots (unseenPath source) = true ∨ hidesDots (sourcePath source) = true := by
  rcases sourcePath_cases h with hcase | hcase
  · rw [hidesDots_afterSlash, Bool.or_eq_true, ← hcase] at hdots
    exact hdots
  · exact Or.inr (hcase.1 hdots)

/-- What is not seen is part of the path. -/
theorem hidesDots_of_unseenPath {source : String} (h : '#' ∉ source.toList)
    (hdots : hidesDots (unseenPath source) = true) : hidesDots (urlPath source) = true := by
  rcases sourcePath_cases h with hcase | hcase
  · rw [unseenPath, hcase] at hdots
    rw [hidesDots_afterSlash, hdots, Bool.true_or]
  · rw [hcase.2] at hdots
    exact absurd hdots (by decide)

/-! ## Acceptance -/

theorem not_dotSegment (part : List Char) :
    (decide (part ≠ ['.']) && decide (part ≠ ['.', '.'])) = !dotSegments.contains part := by
  rw [Bool.eq_iff_iff]
  simp [dotSegments]

theorem isOfficialSource_eq (u : CharacterDatabase) (urls : UrlLibrary) (source : String) :
    isOfficialSource u urls source =
      (isPlainSource u urls source && !officialSourceTraverses source) := by
  unfold isOfficialSource isPlainSource officialSourceTraverses
  rw [List.not_any_eq_all_not]
  simp only [not_dotSegment]
  cases urls.parse source with
  | none => simp
  | some parts => simp only [Bool.and_assoc]

theorem isSourceUrl_spec {u : CharacterDatabase} {urls : UrlLibrary} {source : String}
    (h : isSourceUrl u urls source = true) : sourceUrlTraverses source = false := by
  unfold isSourceUrl at h
  rw [Bool.and_eq_true] at h
  obtain ⟨-, h⟩ := h
  split at h
  · cases h
  · rw [Bool.and_eq_true, Bool.not_eq_true'] at h
    exact h.2

theorem isPlainSource_spec {u : CharacterDatabase} {urls : UrlLibrary} {source : String}
    (h : isPlainSource u urls source = true) : '#' ∉ source.toList := by
  unfold isPlainSource at h
  rw [Bool.and_eq_true] at h
  obtain ⟨-, h⟩ := h
  split at h
  · cases h
  · rw [Bool.and_eq_true, Bool.not_eq_true'] at h
    exact fun hmem => absurd (List.contains_iff_mem.mpr hmem) (by rw [h.2]; decide)

/-- The path of a plain URL is what `_source_url` inspects. -/
theorem inspectedText_of_plain {u : CharacterDatabase} {urls : UrlLibrary} {source : String}
    (h : IsPlainUrl u urls source) : inspectedText source = urlPath source := by
  obtain ⟨rest, hrest⟩ := exists_rest h.schemed
  have hauthority := h.authority
  unfold inspectedText urlPath
  rw [hrest] at hauthority ⊢
  rw [withoutScheme_append, beforeQuery_append]
  have hrestauthority : rest.head?.any (fun c => !isSlash c) = true := hauthority
  have hskip : (("https://".toList ++ beforeQuery rest).drop 6).dropWhile isSlash =
      beforeQuery rest := by
    show (beforeQuery rest).dropWhile isSlash = _
    cases rest with
    | nil => rfl
    | cons c rest =>
      have hc : isSlash c = false := by simpa using hrestauthority
      unfold beforeQuery
      rw [List.takeWhile_cons]
      split
      · rw [List.dropWhile_cons_of_neg (by rw [hc]; decide)]
      · rfl
  rw [hskip]

/-- A library that reads the host of the sample as URL parsers do. -/
def sampleUrls : UrlLibrary where
  parse := fun _ => some ⟨"https", some "example.com", none, none⟩
  isControl := fun c => decide (c.toNat < 32)

end FinanceResearch.Urls
