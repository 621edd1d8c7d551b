import FinanceResearch.Lib.JsonText

/-!
# The size of a JSON text

The UTF-8 bytes `json.dumps` writes, counted value by value, and the loop that puts the
size of a text into the text itself.
-/

/-- UTF-8 bytes of characters. -/
def byteCount (text : List Char) : Nat := (text.map Char.utf8Size).sum

@[simp] theorem byteCount_nil : byteCount [] = 0 := rfl

@[simp] theorem byteCount_cons (c : Char) (text : List Char) :
    byteCount (c :: text) = c.utf8Size + byteCount text := by
  simp [byteCount]

@[simp] theorem byteCount_append (left right : List Char) :
    byteCount (left ++ right) = byteCount left + byteCount right := by
  simp [byteCount]

/-- Characters of one byte each. -/
theorem byteCount_of_forall {text : List Char} (h : ∀ c ∈ text, c.utf8Size = 1) :
    byteCount text = text.length := by
  induction text with
  | nil => rfl
  | cons c text ih =>
    rw [byteCount_cons, h c List.mem_cons_self,
      ih fun d hd => h d (List.mem_cons_of_mem c hd), List.length_cons, Nat.add_comm]

theorem size_toUTF8_ofList (text : List Char) :
    (String.ofList text).toUTF8.size = byteCount text := by
  show (List.utf8Encode text).size = _
  rw [List.utf8Encode, List.size_toByteArray, List.length_flatMap]
  simp [byteCount]

/-- Separated texts: the texts and the separators between them. -/
theorem byteCount_intercalate (separator : Char) (h : separator.utf8Size = 1) :
    ∀ texts : List (List Char), byteCount (List.intercalate [separator] texts)
      = (texts.map byteCount).sum + (texts.length - 1)
  | [] => rfl
  | [text] => by simp [List.intercalate]
  | text :: next :: rest => by
    have ih := byteCount_intercalate separator h (next :: rest)
    have hsplit : List.intercalate [separator] (text :: next :: rest)
        = text ++ separator :: List.intercalate [separator] (next :: rest) := by
      simp [List.intercalate, List.intersperse]
    rw [hsplit, byteCount_append, byteCount_cons, ih, h]
    simp only [List.map_cons, List.sum_cons, List.length_cons]
    omega

namespace Json

/-- UTF-8 bytes of the text of a value. -/
def size (value : Json) : Nat := byteCount value.chars

/-- A printable character that needs no escape. -/
theorem escapeChar_of_range {c : Char}
    (h : 32 ≤ c.toNat ∧ c.toNat ≤ 126 ∧ c.toNat ≠ 34 ∧ c.toNat ≠ 92) : escapeChar c = [c] := by
  unfold escapeChar
  split
  · exact absurd rfl h.2.2.1
  · exact absurd rfl h.2.2.2
  · exact absurd h.1 (by decide)
  · exact absurd h.1 (by decide)
  · exact absurd h.1 (by decide)
  · rw [if_neg (by omega), if_neg (by omega), if_pos ⟨h.1, h.2.1⟩]

/-- A text of plain characters, between its quotes. -/
theorem byteCount_quote_of_plain {text : String}
    (h : ∀ c ∈ text.toList, escapeChar c = [c] ∧ c.utf8Size = 1) :
    byteCount (quote text) = byteCount text.toList + 2 := by
  have hsame : ∀ chars : List Char, (∀ c ∈ chars, escapeChar c = [c] ∧ c.utf8Size = 1) →
      chars.flatMap escapeChar = chars := by
    intro chars hchars
    induction chars with
    | nil => rfl
    | cons c rest ih =>
      rw [List.flatMap_cons, (hchars c List.mem_cons_self).1,
        ih fun d hd => hchars d (List.mem_cons_of_mem c hd), List.singleton_append]
  have hopen : Char.utf8Size '"' = 1 := rfl
  rw [quote, hsame _ h, byteCount_append, byteCount_cons, byteCount_cons, byteCount_nil, hopen]
  omega

/-- An object: the braces, the commas, and each key with its colon and value. -/
theorem size_obj (fields : List (String × Json)) :
    (obj fields).size
      = 2 + (fields.map fun f => byteCount (quote f.1) + 1 + f.2.size).sum
          + (fields.length - 1) := by
  have hcolon : Char.utf8Size ':' = 1 := rfl
  rw [size, chars, byteCount_append, byteCount_cons, byteCount_intercalate ',' rfl, fieldChars_eq]
  -- Sorting moves the fields only.
  have hperm := List.perm_insertionSort (fun f g : String × List Char => f.1 ≤ g.1)
    (fields.map fun f => (f.1, f.2.chars))
  rw [((hperm.map fun f => quote f.1 ++ ':' :: f.2).map byteCount).sum_eq, List.length_map,
    hperm.length_eq, List.length_map, List.map_map, List.map_map]
  have hfield : (byteCount ∘ fun f : String × List Char => quote f.1 ++ ':' :: f.2) ∘
      (fun f : String × Json => (f.1, f.2.chars)) =
        fun f => byteCount (quote f.1) + 1 + f.2.size := by
    funext f
    show byteCount (quote f.1 ++ ':' :: f.2.chars) = _
    rw [byteCount_append, byteCount_cons, hcolon, Nat.add_assoc]
    rfl
  rw [hfield]
  have hopen : Char.utf8Size '\x7b' = 1 := rfl
  have hclose : byteCount ['\x7d'] = 1 := rfl
  rw [hopen, hclose]
  omega

/-- An array: the brackets, the commas, and each value. -/
theorem size_arr (items : List Json) :
    (arr items).size = 2 + (items.map size).sum + (items.length - 1) := by
  have hopen : Char.utf8Size '[' = 1 := rfl
  have hclose : byteCount [']'] = 1 := rfl
  rw [size, chars, byteCount_append, byteCount_cons, byteCount_intercalate ',' rfl, itemChars_eq,
    List.map_map, List.length_map, hopen, hclose]
  show 1 + ((items.map size).sum + _) + 1 = _
  omega

/-- A byte that is a character which is written as it is. -/
def isPlainByte (b : UInt8) : Bool := 32 ≤ b.toNat && b.toNat ≤ 126 && b.toNat ≠ 34 && b.toNat ≠ 92

/-- A character of plain bytes is one of them. -/
theorem plain_of_bytes {c : Char} (h : ∀ b ∈ String.utf8EncodeChar c, isPlainByte b = true) :
    escapeChar c = [c] ∧ c.utf8Size = 1 := by
  have hrange : 32 ≤ c.toNat ∧ c.toNat ≤ 126 ∧ c.toNat ≠ 34 ∧ c.toNat ≠ 92 := by
    show 32 ≤ c.val.toNat ∧ c.val.toNat ≤ 126 ∧ c.val.toNat ≠ 34 ∧ c.val.toNat ≠ 92
    unfold String.utf8EncodeChar at h
    simp only [isPlainByte, Bool.and_eq_true, decide_eq_true_eq] at h
    split at h
    · have hbyte := h _ List.mem_cons_self
      simp only [UInt8.toNat_ofNat'] at hbyte
      omega
    · split at h
      · have hbyte := h _ List.mem_cons_self
        simp only [UInt8.toNat_ofNat'] at hbyte
        omega
      · split at h
        · have hbyte := h _ List.mem_cons_self
          simp only [UInt8.toNat_ofNat'] at hbyte
          omega
        · have hbyte := h _ List.mem_cons_self
          simp only [UInt8.toNat_ofNat'] at hbyte
          omega
  refine ⟨escapeChar_of_range hrange, ?_⟩
  rw [Char.utf8Size_eq_one_iff]
  exact UInt32.le_iff_toNat_le.mpr (le_trans hrange.2.1 (by decide))

/-- The size of a quoted text; plain texts are only measured. -/
def quoteSize (text : String) : Nat :=
  if text.toUTF8.data.toList.all isPlainByte then text.toUTF8.size + 2 else byteCount (quote text)

theorem quoteSize_eq (text : String) : quoteSize text = byteCount (quote text) := by
  unfold quoteSize
  split
  · next hplain =>
    have hbytes : text.toUTF8.data.toList = text.toList.flatMap String.utf8EncodeChar := by
      show text.toByteArray.data.toList = _
      rw [← String.utf8Encode_toList, List.utf8Encode, List.data_toByteArray]
    rw [hbytes, List.all_eq_true] at hplain
    have hchars : ∀ c ∈ text.toList, escapeChar c = [c] ∧ c.utf8Size = 1 := fun c hc =>
      plain_of_bytes fun b hb => hplain b (List.mem_flatMap.mpr ⟨c, hc, hb⟩)
    have hsize : text.toUTF8.size = byteCount text.toList := by
      rw [← size_toUTF8_ofList, String.ofList_toList]
    rw [byteCount_quote_of_plain hchars, hsize]
  · rfl

mutual

/-- The size, without sorting the fields. -/
def weight : Json → Nat
  | str text => quoteSize text
  | arr items => 2 + itemWeights items + (items.length - 1)
  | obj fields => 2 + fieldWeights fields + (fields.length - 1)
  | value => size value

def itemWeights : List Json → Nat
  | [] => 0
  | item :: rest => weight item + itemWeights rest

def fieldWeights : List (String × Json) → Nat
  | [] => 0
  | (key, value) :: rest => quoteSize key + 1 + weight value + fieldWeights rest

end

mutual

theorem size_eq_weight : ∀ value : Json, value.size = value.weight
  | null | bool _ | int _ | float _ => rfl
  | str text => (quoteSize_eq text).symm
  | arr items => by rw [size_arr, sum_itemWeights items, weight]
  | obj fields => by rw [size_obj, sum_fieldWeights fields, weight]

theorem sum_itemWeights : ∀ items : List Json, (items.map size).sum = itemWeights items
  | [] => rfl
  | item :: rest => by
    rw [List.map_cons, List.sum_cons, size_eq_weight item, sum_itemWeights rest, itemWeights]

theorem sum_fieldWeights : ∀ fields : List (String × Json),
    (fields.map fun f => byteCount (quote f.1) + 1 + f.2.size).sum = fieldWeights fields
  | [] => rfl
  | (key, value) :: rest => by
    rw [List.map_cons, List.sum_cons, size_eq_weight value, sum_fieldWeights rest, fieldWeights,
      quoteSize_eq]

end

theorem utf8Size_of_isDigit {c : Char} (h : c.isDigit = true) : c.utf8Size = 1 := by
  have hle : c ≤ '9' := by
    simp only [Char.isDigit, Bool.and_eq_true, decide_eq_true_eq] at h
    exact h.2
  rw [Char.utf8Size_eq_one_iff]
  exact UInt32.le_trans hle (by decide : Char.val '9' ≤ 127)

/-- A number: its digits. -/
theorem size_natCast (n : Nat) : (int n).size = (Nat.toDigits 10 n).length := by
  have htext : (toString (n : Int)).toList = Nat.toDigits 10 n := by
    show (Nat.repr n).toList = _
    simp [Nat.repr]
  rw [size, chars, htext]
  exact byteCount_of_forall fun c hc =>
    utf8Size_of_isDigit (Nat.isDigit_of_mem_toDigits (by decide) (by decide) hc)

end Json

/-! ## Numbers of digits -/

theorem length_toDigits_mono {a b : Nat} (h : a ≤ b) :
    (Nat.toDigits 10 a).length ≤ (Nat.toDigits 10 b).length := by
  have hpos := Nat.length_toDigits_pos (b := 10) (n := b)
  rw [Nat.length_toDigits_le_iff (by decide) hpos]
  exact Nat.lt_of_le_of_lt h ((Nat.length_toDigits_le_iff (by decide) hpos).mp (Nat.le_refl _))

theorem double_lt_pow (k : Nat) : 2 * k + 2 ≤ 10 ^ (k + 1) := by
  induction k with
  | zero => decide
  | succ k ih =>
    rw [Nat.pow_succ]
    omega

theorem length_toDigits_le_half (n : Nat) : (Nat.toDigits 10 n).length ≤ n / 2 + 1 := by
  rw [Nat.length_toDigits_le_iff (by decide) (Nat.succ_pos _)]
  have h := double_lt_pow (n / 2)
  omega
