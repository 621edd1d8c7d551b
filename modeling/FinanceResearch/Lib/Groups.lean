import FinanceResearch.Lib.Dicts
import Mathlib.Data.List.Induction
import Mathlib.Data.List.Sort
import Mathlib.Order.Lattice

/-!
# Groups, first occurrences and sorting by a key

`groups.setdefault(key(item), []).append(item)` over a sequence makes one group for
each key, in the order of the first items, and every group keeps its items in order
(`grouped_eq`). `if item not in kept: kept.append(item)` keeps an item of every kind,
whatever `==` is (`keptOf`). A sort by a key is the same for every order of the items
as long as no two of them share a key (`sortedOn_eq_of_perm`).
-/

namespace Groups

variable {α κ : Type}

/-! ## Grouping -/

section Grouping
variable [DecidableEq κ] (key : α → κ)

/-- `groups.setdefault(key(item), []).append(item)`. -/
def add (groups : List (κ × List α)) (item : α) : List (κ × List α) :=
  if key item ∈ groups.map Prod.fst then
    groups.map fun group => if group.1 = key item then (group.1, group.2 ++ [item]) else group
  else groups ++ [(key item, [item])]

/-- The groups of a sequence. -/
def grouped (items : List α) : List (κ × List α) := items.foldl (add key) []

theorem keys_append_singleton (items : List α) (item : α) :
    Dicts.keys key (items ++ [item]) =
      if key item ∈ Dicts.keys key items then Dicts.keys key items
      else Dicts.keys key items ++ [key item] := by
  unfold Dicts.keys
  rw [List.map_append, List.map_singleton, List.eraseDups_append]
  by_cases hmem : key item ∈ (items.map key).eraseDups
  · have hold : key item ∈ items.map key := List.mem_eraseDups.mp hmem
    have hnone : List.removeAll [key item] (items.map key) = [] := by
      simpa [List.removeAll] using hold
    rw [if_pos hmem, hnone]
    exact List.append_nil _
  · have hnew : key item ∉ items.map key := fun hold => hmem (List.mem_eraseDups.mpr hold)
    have hone : List.removeAll [key item] (items.map key) = [key item] := by
      simpa [List.removeAll] using hnew
    rw [if_neg hmem, hone]
    rfl

/-- **One group for each key**, with the items of that key in their order. -/
theorem grouped_eq (items : List α) :
    grouped key items =
      (Dicts.keys key items).map fun k => (k, items.filter fun item => key item = k) := by
  induction items using List.reverseRecOn with
  | nil => rfl
  | append_singleton items item ih =>
    have hfold : grouped key (items ++ [item]) = add key (grouped key items) item := by
      unfold grouped
      rw [List.foldl_append]
      rfl
    have hkeys : (grouped key items).map Prod.fst = Dicts.keys key items := by
      rw [ih, List.map_map]
      exact List.map_id _
    rw [hfold, keys_append_singleton, add, hkeys]
    by_cases hmem : key item ∈ Dicts.keys key items
    · rw [if_pos hmem, if_pos hmem, ih, List.map_map]
      apply List.map_congr_left
      intro k _
      show (if k = key item then (k, items.filter (fun other => key other = k) ++ [item])
        else (k, items.filter fun other => key other = k)) = _
      by_cases hk : k = key item
      · rw [if_pos hk, List.filter_append, List.filter_cons_of_pos (by simp [hk])]
        rfl
      · rw [if_neg hk, List.filter_append, List.filter_cons_of_neg (by simpa using fun h => hk h.symm)]
        simp
    · rw [if_neg hmem, if_neg hmem, ih, List.map_append, List.map_singleton]
      have hnone : items.filter (fun other => key other = key item) = [] := by
        rw [List.filter_eq_nil_iff]
        intro other hother heq
        exact hmem (Dicts.mem_keys.mpr ⟨other, hother, of_decide_eq_true heq⟩)
      congr 1
      · apply List.map_congr_left
        intro k hk
        have hne : key item ≠ k := fun heq => hmem (heq ▸ hk)
        rw [List.filter_append, List.filter_cons_of_neg (by simpa using hne)]
        simp
      · rw [List.filter_append, hnone, List.filter_cons_of_pos (by simp)]
        rfl

theorem mem_grouped {items : List α} {group : κ × List α} :
    group ∈ grouped key items ↔
      (∃ item ∈ items, key item = group.1) ∧ group.2 = items.filter fun item => key item = group.1 := by
  rw [grouped_eq, List.mem_map]
  constructor
  · rintro ⟨k, hk, rfl⟩
    exact ⟨Dicts.mem_keys.mp hk, rfl⟩
  · rintro ⟨hkey, hitems⟩
    exact ⟨group.1, Dicts.mem_keys.mpr hkey, Prod.ext rfl hitems.symm⟩

theorem nodup_grouped (items : List α) : ((grouped key items).map Prod.fst).Nodup := by
  rw [grouped_eq, List.map_map]
  have hkeys : (Dicts.keys key items).Nodup := Dicts.nodup_eraseDups _ _ le_rfl
  exact (List.map_id (Dicts.keys key items)).symm ▸ hkeys

/-- The keys do not depend on the order of the items, but for their own order. -/
theorem keys_perm {items other : List α} (h : items.Perm other) :
    (Dicts.keys key items).Perm (Dicts.keys key other) := by
  refine (List.perm_ext_iff_of_nodup (Dicts.nodup_eraseDups _ _ le_rfl)
    (Dicts.nodup_eraseDups _ _ le_rfl)).mpr fun k => ?_
  rw [List.mem_eraseDups, List.mem_eraseDups, (h.map key).mem_iff]

end Grouping

/-! ## First occurrences -/

/-- `if item not in kept: kept.append(item)`, item after item; `same` is `==`. -/
def keepNew (same : α → α → Bool) (kept : List α) : List α → List α
  | [] => kept
  | item :: rest => keepNew same (if kept.any (same item) then kept else kept ++ [item]) rest

/-- What is kept of a sequence. -/
def keptOf (same : α → α → Bool) (items : List α) : List α := keepNew same [] items

theorem mem_keepNew {same : α → α → Bool} : ∀ {items kept : List α} {item : α},
    item ∈ keepNew same kept items → item ∈ kept ∨ item ∈ items
  | [], _, _, h => Or.inl h
  | first :: rest, kept, item, h => by
    have hnext : item ∈ keepNew same (if kept.any (same first) then kept else kept ++ [first]) rest := h
    rcases mem_keepNew hnext with hkept | hrest
    · by_cases hany : kept.any (same first) = true
      · rw [if_pos hany] at hkept
        exact Or.inl hkept
      · rw [if_neg hany] at hkept
        rcases List.mem_append.mp hkept with hkept | hfirst
        · exact Or.inl hkept
        · exact Or.inr (List.mem_singleton.mp hfirst ▸ List.mem_cons_self)
    · exact Or.inr (List.mem_cons_of_mem _ hrest)

theorem keepNew_kept {same : α → α → Bool} : ∀ {items kept : List α} {item : α}, item ∈ kept →
    item ∈ keepNew same kept items
  | [], _, _, h => h
  | first :: rest, kept, item, h => by
    show item ∈ keepNew same (if kept.any (same first) then kept else kept ++ [first]) rest
    apply keepNew_kept
    by_cases hany : kept.any (same first) = true
    · rw [if_pos hany]
      exact h
    · rw [if_neg hany]
      exact List.mem_append_left _ h

/-- Every item is kept, or one it is equal to. -/
theorem keepNew_covers {same : α → α → Bool} : ∀ {items kept : List α} {item : α}, item ∈ items →
    ∃ held ∈ keepNew same kept items, held = item ∨ same item held = true
  | first :: rest, kept, item, h => by
    show ∃ held ∈ keepNew same (if kept.any (same first) then kept else kept ++ [first]) rest, _
    rcases List.mem_cons.mp h with rfl | hrest
    · by_cases hany : kept.any (same item) = true
      · obtain ⟨held, hheld, hsame⟩ := List.any_eq_true.mp hany
        refine ⟨held, keepNew_kept ?_, Or.inr hsame⟩
        rw [if_pos hany]
        exact hheld
      · refine ⟨item, keepNew_kept ?_, Or.inl rfl⟩
        rw [if_neg hany]
        exact List.mem_append_right _ (List.mem_singleton_self item)
    · exact keepNew_covers hrest

theorem mem_keptOf {same : α → α → Bool} {items : List α} {item : α} (h : item ∈ keptOf same items) :
    item ∈ items := (mem_keepNew h).resolve_left List.not_mem_nil

/-! ## Sorting -/

section Sorting
variable [LinearOrder κ] (key : α → κ)

/-- `sorted(items, key=key)`, which is stable. -/
def sortedOn (items : List α) : List α := items.insertionSort fun a b => key a ≤ key b

theorem sortedOn_perm (items : List α) : (sortedOn key items).Perm items :=
  List.perm_insertionSort _ _

theorem mem_sortedOn {items : List α} {item : α} : item ∈ sortedOn key items ↔ item ∈ items :=
  (sortedOn_perm key items).mem_iff

theorem sortedOn_pairwise (items : List α) :
    (sortedOn key items).Pairwise fun a b => key a ≤ key b := by
  have htotal : Std.Total fun a b : α => key a ≤ key b := ⟨fun a b => le_total _ _⟩
  have htrans : IsTrans α fun a b => key a ≤ key b := ⟨fun _ _ _ hab hbc => le_trans hab hbc⟩
  exact List.pairwise_insertionSort _ _

/-- The order of the items does not matter when no two of them share a key. -/
theorem sortedOn_eq_of_perm {items other : List α} (h : items.Perm other)
    (hkey : ∀ a ∈ items, ∀ b ∈ items, key a = key b → a = b) :
    sortedOn key items = sortedOn key other := by
  have hperm : (sortedOn key items).Perm (sortedOn key other) :=
    ((sortedOn_perm key items).trans h).trans (sortedOn_perm key other).symm
  refine hperm.eq_of_pairwise ?_ (sortedOn_pairwise key items) (sortedOn_pairwise key other)
  intro a b ha hb hab hba
  exact hkey a ((mem_sortedOn key).mp ha) b (h.mem_iff.mpr ((mem_sortedOn key).mp hb)) (le_antisymm hab hba)

end Sorting

end Groups
