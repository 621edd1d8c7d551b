import FinanceResearch.Lib.Json
import FinanceResearch.Lib.Numerals

/-!
# The canonical text determines the value

`json.dumps` sorts the keys, so a text has one value up to the order of keys:
`sorted` puts every object in key order, which is also what `json.loads` of the
text gives, and `dumps_injective` says that two readable values with the same text
agree once sorted. `unescape` reads one character of a JSON string back, which is
why strings can be told apart (`quote_append_injective`); the rest is an induction
on the length of the text.
-/

namespace Json

/-! ## Strings -/

/-- The value of a lower-case hexadecimal digit. -/
def hexValue (c : Char) : Nat :=
  if c.isDigit then c.toNat - '0'.toNat else c.toNat - 'a'.toNat + 10

def hexNumber (digits : List Char) : Nat := digits.foldl (fun n c => 16 * n + hexValue c) 0

/-- One character of a JSON string, and the text behind it. -/
def unescape : List Char → Option (Char × List Char)
  | '\\' :: 'u' :: a :: b :: c :: d :: rest =>
    let high := hexNumber [a, b, c, d]
    if 0xd800 ≤ high ∧ high < 0xdc00 then
      some (Char.ofNat (0x10000 + (high - 0xd800) * 0x400 +
        (hexNumber ((rest.drop 2).take 4) - 0xdc00)), rest.drop 6)
    else some (Char.ofNat high, rest)
  | '\\' :: 'b' :: rest => some (Char.ofNat 8, rest)
  | '\\' :: 'f' :: rest => some (Char.ofNat 12, rest)
  | '\\' :: 'n' :: rest => some ('\n', rest)
  | '\\' :: 'r' :: rest => some ('\r', rest)
  | '\\' :: 't' :: rest => some ('\t', rest)
  | '\\' :: c :: rest => some (c, rest)
  | '"' :: _ => none
  | c :: rest => some (c, rest)
  | [] => none

theorem hexValue_digitChar : ∀ n < 16, hexValue (Nat.digitChar n) = n := by decide

theorem hex_four (n : Nat) : hex 4 n = [Nat.digitChar (n / 4096 % 16), Nat.digitChar (n / 256 % 16),
    Nat.digitChar (n / 16 % 16), Nat.digitChar (n % 16)] := by
  simp [hex, List.range_succ]

theorem hexNumber_hex {n : Nat} (h : n < 0x10000) : hexNumber (hex 4 n) = n := by
  rw [hex_four]
  simp only [hexNumber, List.foldl_cons, List.foldl_nil,
    hexValue_digitChar _ (Nat.mod_lt _ (by decide : 0 < 16))]
  omega

/-- Reading back the four digits of a unit. -/
theorem unescape_unit {n : Nat} {rest : List Char} (h : n < 0x10000) :
    unescape ('\\' :: 'u' :: hex 4 n ++ rest) =
      if 0xd800 ≤ n ∧ n < 0xdc00 then
        some (Char.ofNat (0x10000 + (n - 0xd800) * 0x400 +
          (hexNumber ((rest.drop 2).take 4) - 0xdc00)), rest.drop 6)
      else some (Char.ofNat n, rest) := by
  have hnumber := hexNumber_hex h
  rw [hex_four] at hnumber ⊢
  simp only [List.cons_append, List.nil_append, unescape, hnumber]

theorem unescape_escapeUnicode (c : Char) (rest : List Char) :
    unescape (escapeUnicode c.toNat ++ rest) = some (c, rest) := by
  have hvalid : c.toNat < 0xd800 ∨ 0xdfff < c.toNat ∧ c.toNat < 0x110000 := c.valid
  unfold escapeUnicode
  split
  next hlt =>
    rw [unescape_unit hlt, if_neg (by omega), Char.ofNat_toNat]
  next hge =>
    have hhigh : 0xd800 + (c.toNat - 0x10000) / 0x400 < 0x10000 := by omega
    have hlow : 0xdc00 + (c.toNat - 0x10000) % 0x400 < 0x10000 := by omega
    simp only [List.append_assoc, List.cons_append]
    rw [← List.cons_append, ← List.cons_append, unescape_unit hhigh, if_pos (by omega)]
    have hdrop : (('\\' :: 'u' :: (hex 4 (0xdc00 + (c.toNat - 0x10000) % 0x400) ++ rest)).drop
        2).take 4 = hex 4 (0xdc00 + (c.toNat - 0x10000) % 0x400) := by
      rw [hex_four]
      rfl
    have hrest : ('\\' :: 'u' :: (hex 4 (0xdc00 + (c.toNat - 0x10000) % 0x400) ++ rest)).drop
        6 = rest := by
      rw [hex_four]
      rfl
    have hsum : 0x10000 + (0xd800 + (c.toNat - 0x10000) / 0x400 - 0xd800) * 0x400 +
        (0xdc00 + (c.toNat - 0x10000) % 0x400 - 0xdc00) = c.toNat := by omega
    rw [hdrop, hrest, hexNumber_hex hlow, hsum, Char.ofNat_toNat]

/-- Every escaped character is read back. -/
theorem unescape_escapeChar (c : Char) (rest : List Char) :
    unescape (escapeChar c ++ rest) = some (c, rest) := by
  unfold escapeChar
  split
  · rfl
  · rfl
  · rfl
  · rfl
  · rfl
  next hquote hslash _ _ _ =>
    split
    next h =>
      rw [← Char.ofNat_toNat c, h]
      rfl
    · split
      next h =>
        rw [← Char.ofNat_toNat c, h]
        rfl
      · split
        · rw [List.singleton_append]
          unfold unescape
          split <;> simp_all
        · exact unescape_escapeUnicode c rest

/-- The text of a string ends at its closing quote. -/
theorem flatMap_escape_injective : ∀ {s t : List Char} {x y : List Char},
    s.flatMap escapeChar ++ '"' :: x = t.flatMap escapeChar ++ '"' :: y → s = t ∧ x = y
  | [], [], x, y, h => by simpa using h
  | [], d :: t, x, y, h => by
    have hread := congrArg unescape h
    rw [List.flatMap_cons, List.append_assoc, unescape_escapeChar] at hread
    cases hread
  | c :: s, [], x, y, h => by
    have hread := congrArg unescape h
    rw [List.flatMap_cons, List.append_assoc, unescape_escapeChar] at hread
    cases hread
  | c :: s, d :: t, x, y, h => by
    have hread := congrArg unescape h
    rw [List.flatMap_cons, List.flatMap_cons, List.append_assoc, List.append_assoc,
      unescape_escapeChar, unescape_escapeChar, Option.some.injEq, Prod.mk.injEq] at hread
    obtain ⟨rfl, hrest⟩ := hread
    obtain ⟨rfl, rfl⟩ := flatMap_escape_injective hrest
    exact ⟨rfl, rfl⟩

theorem quote_append_injective {s t : String} {x y : List Char}
    (h : quote s ++ x = quote t ++ y) : s = t ∧ x = y := by
  simp only [quote, List.cons_append, List.append_assoc, List.nil_append, List.cons.injEq,
    true_and] at h
  obtain ⟨hchars, rfl⟩ := flatMap_escape_injective h
  exact ⟨String.toList_inj.mp hchars, rfl⟩

/-! ## Numbers -/

/-- A character of a number. -/
def isNumeral (c : Char) : Bool := c.isDigit || c ∈ ['-', '+', '.', 'e', 'E']

/-- What may follow a value. -/
def Follows (rest : List Char) : Prop := ∀ c ∈ rest.head?, c ∈ [',', ']', '\x7d']

theorem Follows.not_numeral {rest : List Char} (h : Follows rest) :
    ∀ c ∈ rest.head?, isNumeral c = false := by
  intro c hc
  have hmem := h c hc
  simp only [List.mem_cons, List.not_mem_nil, or_false] at hmem
  rcases hmem with rfl | rfl | rfl <;> decide

/-- A number ends at the first character that is no part of one. -/
theorem numeral_append_injective {a b x y : List Char} (ha : ∀ c ∈ a, isNumeral c = true)
    (hb : ∀ c ∈ b, isNumeral c = true) (hx : ∀ c ∈ x.head?, isNumeral c = false)
    (hy : ∀ c ∈ y.head?, isNumeral c = false) (h : a ++ x = b ++ y) : a = b ∧ x = y := by
  have htake : ∀ {l z : List Char}, (∀ c ∈ l, isNumeral c = true) →
      (∀ c ∈ z.head?, isNumeral c = false) → (l ++ z).takeWhile isNumeral = l := by
    intro l z hl hz
    rw [List.takeWhile_append_of_pos hl]
    cases z with
    | nil => simp
    | cons c rest =>
      rw [List.takeWhile_cons_of_neg (by simp [hz c rfl]), List.append_nil]
  have hab : a = b := by rw [← htake ha hx, h, htake hb hy]
  subst hab
  exact ⟨rfl, List.append_cancel_left h⟩

theorem toDigits_numeral {n : Nat} {c : Char} (h : c ∈ Nat.toDigits 10 n) : c.isDigit = true :=
  Nat.isDigit_of_mem_toDigits (by decide) (by decide) h

theorem toDigits_injective {m n : Nat} (h : Nat.toDigits 10 m = Nat.toDigits 10 n) : m = n := by
  rw [← Nat.ofDigitChars_toDigits (b := 10) (n := m) (by decide) (by decide), h,
    Nat.ofDigitChars_toDigits (by decide) (by decide)]

/-- The text of an integer. -/
theorem toString_int (i : Int) :
    (toString i).toList = (if i < 0 then ['-'] else []) ++ Nat.toDigits 10 i.natAbs := by
  cases i with
  | ofNat n => simp [toString, Int.repr, Nat.repr]
  | negSucc n => simp [toString, Int.repr, Nat.repr]

theorem int_chars {i : Int} {c : Char} (h : c ∈ (toString i).toList) :
    c.isDigit = true ∨ c = '-' := by
  rw [toString_int, List.mem_append] at h
  rcases h with h | h
  · split at h
    · exact Or.inr (List.mem_singleton.mp h)
    · cases h
  · exact Or.inl (toDigits_numeral h)

theorem int_ne_nil (i : Int) : (toString i).toList ≠ [] := by
  rw [toString_int]
  have hne : Nat.toDigits 10 i.natAbs ≠ [] := by
    intro h
    have hlength := congrArg List.length h
    have hpos := Nat.length_toDigits_pos (b := 10) (n := i.natAbs)
    rw [List.length_nil] at hlength
    omega
  exact fun h => hne (List.append_eq_nil_iff.mp h).2

theorem int_injective {i j : Int} (h : (toString i).toList = (toString j).toList) : i = j := by
  have hdash : ∀ n : Nat, '-' ∉ Nat.toDigits 10 n := by
    intro n hmem
    exact absurd (toDigits_numeral hmem) (by decide)
  rw [toString_int, toString_int] at h
  by_cases hi : i < 0 <;> by_cases hj : j < 0
  · rw [if_pos hi, if_pos hj] at h
    have := toDigits_injective (List.append_cancel_left h)
    omega
  · rw [if_pos hi, if_neg hj, List.nil_append] at h
    exact absurd (by rw [← h]; exact List.mem_cons_self) (hdash j.natAbs)
  · rw [if_neg hi, if_pos hj, List.nil_append] at h
    exact absurd (by rw [h]; exact List.mem_cons_self) (hdash i.natAbs)
  · rw [if_neg hi, if_neg hj] at h
    have := toDigits_injective (List.append_cancel_left h)
    omega

/-! ## Sorted and readable values -/

mutual

/-- The value with the keys of its objects in order, at every depth: what `json.loads`
makes of the canonical text. -/
def sorted : Json → Json
  | arr items => arr (sortedItems items)
  | obj fields => obj ((sortedFields fields).insertionSort fun f g => f.1 ≤ g.1)
  | value => value

def sortedItems : List Json → List Json
  | [] => []
  | item :: rest => sorted item :: sortedItems rest

def sortedFields : List (String × Json) → List (String × Json)
  | [] => []
  | (key, value) :: rest => (key, sorted value) :: sortedFields rest

end

mutual

/-- The floats are written as floats are: with a point or an exponent. -/
def Readable : Json → Prop
  | float r => (∃ c ∈ r.toList, c ∈ ['.', 'e', 'E']) ∧ ∀ c ∈ r.toList, isNumeral c = true
  | arr items => ReadableItems items
  | obj fields => ReadableFields fields
  | _ => True

def ReadableItems : List Json → Prop
  | [] => True
  | item :: rest => Readable item ∧ ReadableItems rest

def ReadableFields : List (String × Json) → Prop
  | [] => True
  | (_, value) :: rest => Readable value ∧ ReadableFields rest

end

theorem sortedItems_eq : ∀ items : List Json, sortedItems items = items.map sorted
  | [] => rfl
  | item :: rest => by rw [sortedItems, sortedItems_eq rest, List.map_cons]

theorem sortedFields_eq : ∀ fields : List (String × Json),
    sortedFields fields = fields.map fun f => (f.1, f.2.sorted)
  | [] => rfl
  | (key, value) :: rest => by rw [sortedFields, sortedFields_eq rest, List.map_cons]

theorem itemChars_eq : ∀ items : List Json, itemChars items = items.map chars
  | [] => rfl
  | item :: rest => by rw [itemChars, itemChars_eq rest, List.map_cons]

theorem fieldChars_eq : ∀ fields : List (String × Json),
    fieldChars fields = fields.map fun f => (f.1, chars f.2)
  | [] => rfl
  | (key, value) :: rest => by rw [fieldChars, fieldChars_eq rest, List.map_cons]

theorem readableItems_iff : ∀ {items : List Json},
    ReadableItems items ↔ ∀ item ∈ items, Readable item
  | [] => by simp [ReadableItems]
  | item :: rest => by rw [ReadableItems, readableItems_iff, List.forall_mem_cons]

theorem readableFields_iff : ∀ {fields : List (String × Json)},
    ReadableFields fields ↔ ∀ f ∈ fields, Readable f.2
  | [] => by simp [ReadableFields]
  | (key, value) :: rest => by rw [ReadableFields, readableFields_iff, List.forall_mem_cons]

/-- The fields in key order. -/
def inKeyOrder (fields : List (String × Json)) : List (String × Json) :=
  fields.insertionSort fun f g => f.1 ≤ g.1

theorem mem_inKeyOrder {fields : List (String × Json)} {f : String × Json} :
    f ∈ inKeyOrder fields ↔ f ∈ fields := List.mem_insertionSort _

/-- Changing the values leaves the order of the keys. -/
theorem insertionSort_map_values {β γ : Type} (fields : List (String × β)) (g : β → γ) :
    (fields.map fun f => (f.1, g f.2)).insertionSort (fun f h => f.1 ≤ h.1) =
      (fields.insertionSort fun f h => f.1 ≤ h.1).map fun f => (f.1, g f.2) :=
  (List.map_insertionSort (r := fun f h => f.1 ≤ h.1) (s := fun f h => f.1 ≤ h.1)
    (fun f => (f.1, g f.2)) fields fun _ _ _ _ => Iff.rfl).symm

theorem sorted_obj (fields : List (String × Json)) :
    (obj fields).sorted = obj ((inKeyOrder fields).map fun f => (f.1, f.2.sorted)) := by
  rw [sorted, sortedFields_eq, insertionSort_map_values, inKeyOrder]

/-- Objects that differ only in the order of keys have the same field under each key. -/
theorem sorted_field {fields others : List (String × Json)}
    (h : (obj fields).sorted = (obj others).sorted) (hnodup : (others.map Prod.fst).Nodup)
    (key : String) (value other : Json) (hvalue : (key, value) ∈ fields)
    (hother : (key, other) ∈ others) : value.sorted = other.sorted := by
  rw [sorted_obj, sorted_obj, obj.injEq] at h
  have hmem : (key, value.sorted) ∈ (inKeyOrder fields).map fun f => (f.1, f.2.sorted) :=
    List.mem_map.mpr ⟨(key, value), mem_inKeyOrder.mpr hvalue, rfl⟩
  rw [h] at hmem
  obtain ⟨⟨key', value'⟩, hmem', he⟩ := List.mem_map.mp hmem
  rw [Prod.mk.injEq] at he
  obtain ⟨hkey, hsame⟩ := he
  have hkey' : key' = key := hkey
  rw [hkey'] at hmem'
  have hunique : (key, value') = (key, other) :=
    List.inj_on_of_nodup_map hnodup (mem_inKeyOrder.mp hmem') hother rfl
  rw [Prod.mk.injEq] at hunique
  rw [← hunique.2]
  exact hsame.symm

/-- `"key":value`. -/
def fieldText (f : String × Json) : List Char := quote f.1 ++ ':' :: chars f.2

theorem chars_obj (fields : List (String × Json)) :
    chars (obj fields) =
      '\x7b' :: List.intercalate [','] ((inKeyOrder fields).map fieldText) ++ ['\x7d'] := by
  rw [chars, fieldChars_eq, insertionSort_map_values, List.map_map, inKeyOrder]
  rfl

theorem chars_arr (items : List Json) :
    chars (arr items) = '[' :: List.intercalate [','] (items.map chars) ++ [']'] := by
  rw [chars, itemChars_eq]

/-! ## Reading a value back -/

/-- What kind of value begins with the character. -/
def kindOf (c : Char) : Nat :=
  if c = 'n' then 0
  else if c = 't' then 1
  else if c = 'f' then 2
  else if c = '"' then 3
  else if c = '[' then 4
  else if c = '\x7b' then 5
  else if isNumeral c then 6
  else 7

/-- The kind of a value. -/
def kind : Json → Nat
  | null => 0
  | bool true => 1
  | bool false => 2
  | str _ => 3
  | arr _ => 4
  | obj _ => 5
  | int _ | float _ => 6

theorem kindOf_numeral {c : Char} (h : isNumeral c = true) : kindOf c = 6 := by
  have hne : ∀ d, isNumeral d = false → c ≠ d := by
    rintro d hd rfl
    rw [h] at hd
    cases hd
  unfold kindOf
  rw [if_neg (hne _ (by decide)), if_neg (hne _ (by decide)), if_neg (hne _ (by decide)),
    if_neg (hne _ (by decide)), if_neg (hne _ (by decide)), if_neg (hne _ (by decide)), if_pos h]

theorem numeral_of_int {i : Int} {c : Char} (h : c ∈ (toString i).toList) :
    isNumeral c = true := by
  unfold isNumeral
  rcases int_chars h with h | rfl
  · rw [h, Bool.true_or]
  · decide

/-- The first character of a text tells the kind of its value. -/
theorem chars_head {value : Json} (h : Readable value) :
    ∃ c rest, chars value = c :: rest ∧ kindOf c = kind value := by
  have hnumber : ∀ {l : List Char}, l ≠ [] → (∀ c ∈ l, isNumeral c = true) →
      ∃ c rest, l = c :: rest ∧ kindOf c = 6 := by
    intro l hne hall
    cases l with
    | nil => exact absurd rfl hne
    | cons c rest => exact ⟨c, rest, rfl, kindOf_numeral (hall c List.mem_cons_self)⟩
  cases value with
  | null => exact ⟨'n', _, rfl, by decide⟩
  | bool b =>
    cases b with
    | true => exact ⟨'t', _, rfl, by decide⟩
    | false => exact ⟨'f', _, rfl, by decide⟩
  | int i => exact hnumber (int_ne_nil i) fun c hc => numeral_of_int hc
  | float r =>
    obtain ⟨⟨c, hc, -⟩, hall⟩ := h
    exact hnumber (List.ne_nil_of_mem hc) hall
  | str s => exact ⟨'"', _, rfl, rfl⟩
  | arr items => exact ⟨'[', _, chars_arr items, rfl⟩
  | obj fields => exact ⟨'\x7b', _, chars_obj fields, rfl⟩

theorem follows_comma {rest : List Char} : Follows (',' :: rest) := by
  intro c hc
  cases hc
  decide

/-- Items with commas between them, up to the closing bracket: if each is read back, all
are. -/
theorem intercalate_append_injective {α β : Type} (text : α → List Char) (value : α → β)
    (P : α → Prop) {close : Char} (hclose : close ∈ [']', '\x7d'])
    (hhead : ∀ a, P a → ∃ c rest, text a = c :: rest ∧ c ∉ [',', ']', '\x7d']) :
    ∀ (xs ys : List α), (∀ x ∈ xs, P x) → (∀ y ∈ ys, P y) →
      (∀ x ∈ xs, ∀ y ∈ ys, ∀ r s, Follows r → Follows s →
        text x ++ r = text y ++ s → value x = value y ∧ r = s) →
      ∀ {r s : List Char}, List.intercalate [','] (xs.map text) ++ close :: r =
          List.intercalate [','] (ys.map text) ++ close :: s →
        xs.map value = ys.map value ∧ r = s := by
  have hfollows : ∀ {l : List Char}, Follows (close :: l) := by
    intro l c hc
    cases hc
    simp only [List.mem_cons, List.not_mem_nil, or_false] at hclose ⊢
    exact Or.inr hclose
  have hnot : ∀ {a : α} {l m : List Char}, P a → text a ++ l ≠ close :: m := by
    intro a l m ha h
    obtain ⟨c, rest, htext, hc⟩ := hhead a ha
    rw [htext, List.cons_append, List.cons.injEq] at h
    rw [h.1] at hc
    simp only [List.mem_cons, List.not_mem_nil, or_false, not_or] at hc hclose
    tauto
  have hcomma : ∀ {l m : List Char}, close :: l ≠ ',' :: m := by
    intro l m h
    rw [List.cons.injEq] at h
    rw [h.1] at hclose
    exact absurd hclose (by decide)
  intro xs
  induction xs with
  | nil =>
    intro ys _ hys _ r s h
    match ys with
    | [] => exact ⟨rfl, by simpa using h⟩
    | [y] =>
      simp only [List.map_nil, List.intercalate_nil, List.nil_append, List.map_cons,
        List.intercalate_singleton] at h
      exact absurd h.symm (hnot (hys y List.mem_cons_self))
    | y :: z :: ys =>
      simp only [List.map_nil, List.intercalate_nil, List.nil_append, List.map_cons,
        List.intercalate_cons_cons, List.append_assoc] at h
      exact absurd h.symm (hnot (hys y List.mem_cons_self))
  | cons x xs ih =>
    intro ys hxs hys hread r s h
    have hx := hxs x List.mem_cons_self
    match xs, ys with
    | [], [] =>
      simp only [List.map_nil, List.intercalate_nil, List.nil_append, List.map_cons,
        List.intercalate_singleton] at h
      exact absurd h (hnot hx)
    | _ :: _, [] =>
      simp only [List.map_nil, List.intercalate_nil, List.nil_append, List.map_cons,
        List.intercalate_cons_cons, List.append_assoc] at h
      exact absurd h (hnot hx)
    | [], [y] =>
      simp only [List.map_nil, List.map_cons, List.intercalate_singleton] at h
      obtain ⟨hvalue, hrest⟩ := hread x List.mem_cons_self y List.mem_cons_self _ _ hfollows
        hfollows h
      exact ⟨by rw [List.map_cons, List.map_cons, hvalue, List.map_nil], (List.cons.inj hrest).2⟩
    | [], y :: z :: ys =>
      simp only [List.map_nil, List.map_cons, List.intercalate_singleton,
        List.intercalate_cons_cons, List.append_assoc, List.singleton_append] at h
      obtain ⟨-, hrest⟩ := hread x List.mem_cons_self y List.mem_cons_self _ _ hfollows
        follows_comma h
      exact absurd hrest hcomma
    | w :: xs, [y] =>
      simp only [List.map_nil, List.map_cons, List.intercalate_singleton,
        List.intercalate_cons_cons, List.append_assoc, List.singleton_append] at h
      obtain ⟨-, hrest⟩ := hread x List.mem_cons_self y List.mem_cons_self _ _ follows_comma
        hfollows h
      exact absurd hrest.symm hcomma
    | w :: xs, y :: z :: ys =>
      simp only [List.map_cons, List.intercalate_cons_cons, List.append_assoc,
        List.singleton_append] at h
      obtain ⟨hvalue, hrest⟩ := hread x List.mem_cons_self y List.mem_cons_self _ _ follows_comma
        follows_comma h
      obtain ⟨hvalues, rfl⟩ := ih (z :: ys) (fun a ha => hxs a (List.mem_cons_of_mem _ ha))
        (fun b hb => hys b (List.mem_cons_of_mem _ hb))
        (fun a ha b hb => hread a (List.mem_cons_of_mem _ ha) b (List.mem_cons_of_mem _ hb))
        (List.cons.inj hrest).2
      exact ⟨congrArg₂ List.cons hvalue hvalues, rfl⟩

/-- A text begins with no separator. -/
theorem chars_head_ne {value : Json} (h : Readable value) :
    ∃ c rest, chars value = c :: rest ∧ c ∉ [',', ']', '\x7d'] := by
  obtain ⟨c, rest, hchars, hkind⟩ := chars_head h
  refine ⟨c, rest, hchars, ?_⟩
  intro hmem
  simp only [List.mem_cons, List.not_mem_nil, or_false] at hmem
  have hseven : kindOf c = 7 := by rcases hmem with rfl | rfl | rfl <;> decide
  rw [hseven] at hkind
  cases value with
  | bool b => cases b <;> cases hkind
  | _ => cases hkind

theorem float_numeral {r : String} (h : Readable (float r)) :
    ∀ c ∈ r.toList, isNumeral c = true := h.2

/-- An integer is not written as a float is. -/
theorem int_ne_float {i : Int} {r : String} (h : Readable (float r)) :
    (toString i).toList ≠ r.toList := by
  intro heq
  obtain ⟨⟨c, hc, hmark⟩, -⟩ := h
  rw [← heq] at hc
  simp only [List.mem_cons, List.not_mem_nil, or_false] at hmark
  rcases int_chars hc with hdigit | rfl
  · rcases hmark with rfl | rfl | rfl <;> exact absurd hdigit (by decide)
  · rcases hmark with h | h | h <;> exact absurd h (by decide)

/-- A value is read back from the beginning of a text, up to the order of its keys. -/
theorem chars_append_injective (a : Json) : ∀ {b : Json} {r s : List Char}, Readable a →
    Readable b → Follows r → Follows s → chars a ++ r = chars b ++ s →
      a.sorted = b.sorted ∧ r = s := by
  intro b r s ha hb hr hs h
  have hkind : a.kind = b.kind := by
    obtain ⟨c, x, hca, hka⟩ := chars_head ha
    obtain ⟨d, y, hcb, hkb⟩ := chars_head hb
    rw [hca, hcb, List.cons_append, List.cons_append, List.cons.injEq] at h
    rw [← hka, ← hkb, h.1]
  have hnumber : ∀ {x y : List Char}, (∀ c ∈ x, isNumeral c = true) →
      (∀ c ∈ y, isNumeral c = true) → x ++ r = y ++ s → x = y ∧ r = s := fun hx hy hxy =>
    numeral_append_injective hx hy hr.not_numeral hs.not_numeral hxy
  match a, b with
  | null, null => exact ⟨rfl, List.append_cancel_left h⟩
  | bool true, bool true => exact ⟨rfl, List.append_cancel_left h⟩
  | bool false, bool false => exact ⟨rfl, List.append_cancel_left h⟩
  | int i, int j =>
    obtain ⟨heq, rfl⟩ := hnumber (fun _ => numeral_of_int) (fun _ => numeral_of_int) h
    exact ⟨by rw [int_injective heq], rfl⟩
  | float x, float y =>
    obtain ⟨heq, rfl⟩ := hnumber (float_numeral ha) (float_numeral hb) h
    exact ⟨by rw [String.toList_inj.mp heq], rfl⟩
  | int i, float y =>
    obtain ⟨heq, -⟩ := hnumber (fun _ => numeral_of_int) (float_numeral hb) h
    exact absurd heq (int_ne_float hb)
  | float x, int j =>
    obtain ⟨heq, -⟩ := hnumber (float_numeral ha) (fun _ => numeral_of_int) h
    exact absurd heq.symm (int_ne_float ha)
  | str x, str y =>
    obtain ⟨rfl, rfl⟩ := quote_append_injective h
    exact ⟨rfl, rfl⟩
  | arr xs, arr ys =>
    rw [chars_arr, chars_arr, List.cons_append, List.cons_append, List.cons_append,
      List.cons_append, List.append_assoc, List.append_assoc, List.cons.injEq] at h
    have hxs := readableItems_iff.mp ha
    have hys := readableItems_iff.mp hb
    obtain ⟨hitems, rfl⟩ := intercalate_append_injective chars sorted Readable (by decide)
      (fun _ => chars_head_ne) xs ys hxs hys
      (fun x hx y hy r s hr hs => chars_append_injective x (hxs x hx) (hys y hy) hr hs) h.2
    exact ⟨by rw [sorted, sorted, sortedItems_eq, sortedItems_eq, hitems], rfl⟩
  | obj xs, obj ys =>
    rw [chars_obj, chars_obj, List.cons_append, List.cons_append, List.cons_append,
      List.cons_append, List.append_assoc, List.append_assoc, List.cons.injEq] at h
    have hxs := readableFields_iff.mp ha
    have hys := readableFields_iff.mp hb
    obtain ⟨hfields, rfl⟩ := intercalate_append_injective fieldText
      (fun f => (f.1, f.2.sorted)) (fun _ => True) (by decide)
      (fun f _ => ⟨'"', _, rfl, by decide⟩) (inKeyOrder xs) (inKeyOrder ys)
      (fun _ _ => trivial) (fun _ _ => trivial)
      (fun f hf g hg r s hr hs hfg => by
        rw [fieldText, fieldText, List.append_assoc, List.append_assoc] at hfg
        obtain ⟨hkey, hrest⟩ := quote_append_injective hfg
        obtain ⟨hvalue, rfl⟩ := chars_append_injective f.2 (hxs f (mem_inKeyOrder.mp hf))
          (hys g (mem_inKeyOrder.mp hg)) hr hs (List.cons.inj hrest).2
        exact ⟨by rw [hkey, hvalue], rfl⟩) h.2
    exact ⟨by rw [sorted_obj, sorted_obj, hfields], rfl⟩
termination_by sizeOf a
decreasing_by
  · have hlt := List.sizeOf_lt_of_mem hx
    rw [arr.sizeOf_spec]
    omega
  · have hlt := List.sizeOf_lt_of_mem (mem_inKeyOrder.mp hf)
    have hvalue : sizeOf f = 1 + sizeOf f.1 + sizeOf f.2 := rfl
    rw [obj.sizeOf_spec]
    omega

/-- **Two readable values with the same canonical text are equal up to the order of keys.** -/
theorem dumps_injective {a b : Json} (ha : Readable a) (hb : Readable b)
    (h : dumps a = dumps b) : a.sorted = b.sorted := by
  have hchars : chars a = chars b := String.ofList_injective h
  refine (chars_append_injective a (r := []) (s := []) ha hb ?_ ?_ (by rw [hchars])).1
  · exact fun _ hc => absurd hc (by simp)
  · exact fun _ hc => absurd hc (by simp)

end Json
