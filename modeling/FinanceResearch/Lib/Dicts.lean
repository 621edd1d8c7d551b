import Mathlib.Data.List.Basic
import Mathlib.Data.List.Find

/-!
# Dictionaries built from a sequence

`{key(item): item for item in items}`: a later item replaces an earlier one of
the same key, and the keys stay in the order of their first item.
-/

namespace Dicts

variable {α κ : Type} [DecidableEq κ] (key : α → κ)

/-- The value under `k`: the last item with that key. -/
def get? (items : List α) (k : κ) : Option α := items.reverse.find? fun item => key item = k

/-- `k in dict`. -/
def Has (items : List α) (k : κ) : Prop := ∃ item ∈ items, key item = k

instance (items : List α) (k : κ) : Decidable (Has key items k) :=
  inferInstanceAs (Decidable (∃ item ∈ items, key item = k))

/-- The keys, in order of their first item. -/
def keys (items : List α) : List κ := (items.map key).eraseDups

variable {key}

theorem get?_eq_none {items : List α} {k : κ} : get? key items k = none ↔ ¬ Has key items k := by
  simp [get?, Has]

theorem isSome_get? {items : List α} {k : κ} : (get? key items k).isSome ↔ Has key items k := by
  rw [← Option.ne_none_iff_isSome, ne_eq, get?_eq_none, not_not]

theorem mem_of_get? {items : List α} {k : κ} {item : α} (h : get? key items k = some item) :
    item ∈ items := List.mem_reverse.mp (List.mem_of_find?_eq_some h)

theorem key_of_get? {items : List α} {k : κ} {item : α} (h : get? key items k = some item) :
    key item = k := by
  have hkey := List.find?_some h
  simpa using hkey

/-- Items left out that have another key do not change the value. -/
theorem get?_filter {items : List α} {k : κ} {p : α → Bool}
    (hp : ∀ item ∈ items, key item = k → p item = true) :
    get? key (items.filter p) k = get? key items k := by
  unfold get?
  rw [← List.filter_reverse, List.find?_filter]
  refine List.find?_congr fun item hitem => ?_
  by_cases hk : key item = k
  · simp [hk, hp item (List.mem_reverse.mp hitem) hk]
  · simp [hk]

theorem mem_keys {items : List α} {k : κ} : k ∈ keys key items ↔ Has key items k := by
  simp [keys, Has]

theorem length_eraseDups_le : ∀ (n : Nat) (items : List κ), items.length ≤ n →
    items.eraseDups.length ≤ items.length
  | _, [], _ => Nat.le_refl _
  | 0, _ :: _, h => absurd h (Nat.not_succ_le_zero _)
  | n + 1, k :: rest, h => by
    rw [List.eraseDups_cons, List.length_cons, List.length_cons]
    have hfilter := List.length_filter_le (fun x => !x == k) rest
    have ih := length_eraseDups_le n (rest.filter fun x => !x == k) (by
      rw [List.length_cons] at h
      omega)
    omega

/-- `dict.fromkeys(items)` has no key twice. -/
theorem nodup_eraseDups : ∀ (n : Nat) (items : List κ), items.length ≤ n →
    items.eraseDups.Nodup
  | _, [], _ => List.nodup_nil
  | 0, _ :: _, h => absurd h (Nat.not_succ_le_zero _)
  | n + 1, k :: rest, h => by
    rw [List.eraseDups_cons, List.nodup_cons]
    have hfilter := List.length_filter_le (fun x => !x == k) rest
    refine ⟨?_, nodup_eraseDups n _ (by rw [List.length_cons] at h; omega)⟩
    intro hmem
    have hk := (List.mem_filter.mp (List.mem_eraseDups.mp hmem)).2
    simp at hk

/-- Without repetition nothing is erased. -/
theorem eraseDups_of_nodup : ∀ {items : List κ}, items.Nodup → items.eraseDups = items
  | [], _ => rfl
  | k :: rest, h => by
    obtain ⟨hk, hrest⟩ := List.nodup_cons.mp h
    have hsame : rest.filter (fun x => !x == k) = rest := by
      refine List.filter_eq_self.mpr fun x hx => ?_
      have hne : x ≠ k := fun heq => hk (heq ▸ hx)
      simpa using hne
    rw [List.eraseDups_cons, hsame, eraseDups_of_nodup hrest]

/-- There are no more keys than items. -/
theorem length_keys_le (key : α → κ) (items : List α) :
    (keys key items).length ≤ items.length := by
  have h := length_eraseDups_le _ (items.map key) (Nat.le_refl _)
  rwa [List.length_map] at h

end Dicts
