import Mathlib.Algebra.Order.Field.Basic
import Mathlib.Data.List.Sort

/-!
# Order statistics

The `k`-th of some items in ascending order, and the median of numbers: the middle one, or
the mean of the two middle ones. A function that keeps the order moves the `k`-th item of a
list to the `k`-th item of its images (`kth_map`).
-/

namespace OrderStatistics

section

variable {α β : Type} [LinearOrder α] [LinearOrder β]

/-- The `k`-th of the items in ascending order, from zero. -/
def kth (items : List α) (k : ℕ) : Option α := (items.insertionSort (· ≤ ·))[k]?

theorem exists_kth {items : List α} {k : ℕ} (h : k < items.length) :
    ∃ item ∈ items, kth items k = some item := by
  have hk : k < (items.insertionSort (· ≤ ·)).length := by rwa [List.length_insertionSort]
  refine ⟨(items.insertionSort (· ≤ ·))[k], ?_, List.getElem?_eq_getElem hk⟩
  exact (List.mem_insertionSort (· ≤ ·)).mp (List.getElem_mem hk)

/-- Later in the order is greater. -/
theorem kth_le {items : List α} {j k : ℕ} {low high : α} (hjk : j ≤ k) (hlow : kth items j = some low)
    (hhigh : kth items k = some high) : low ≤ high := by
  obtain ⟨hj, hlow⟩ := List.getElem?_eq_some_iff.mp hlow
  obtain ⟨hk, hhigh⟩ := List.getElem?_eq_some_iff.mp hhigh
  rw [← hlow, ← hhigh]
  by_cases h : j = k
  · subst h
    exact le_rfl
  · exact List.pairwise_iff_getElem.mp (List.pairwise_insertionSort (· ≤ ·) items) j k hj hk
      (Nat.lt_of_le_of_ne hjk h)

/-- Items that a function orders as another does. -/
theorem kth_insertionSort {γ : Type} {r : γ → γ → Prop} [DecidableRel r] {f : γ → α}
    {items : List γ}
    (h : ∀ a ∈ items, ∀ b ∈ items, r a b ↔ f a ≤ f b) (k : ℕ) :
    (items.insertionSort r)[k]?.map f = kth (items.map f) k := by
  rw [kth, ← List.map_insertionSort r (· ≤ ·) f items h, List.getElem?_map]

/-- **What keeps the order keeps the order statistics.** -/
theorem kth_map {f : α → β} {items : List α}
    (h : ∀ a ∈ items, ∀ b ∈ items, a ≤ b → f a ≤ f b) (k : ℕ) :
    kth (items.map f) k = (kth items k).map f := by
  have hsorted : ((items.insertionSort (· ≤ ·)).map f).Pairwise (· ≤ ·) := by
    rw [List.pairwise_map]
    refine (List.pairwise_insertionSort (· ≤ ·) items).imp_of_mem ?_
    intro a b ha hb hab
    exact h a ((List.mem_insertionSort _).mp ha) b ((List.mem_insertionSort _).mp hb) hab
  have hperm : ((items.map f).insertionSort (· ≤ ·)).Perm ((items.insertionSort (· ≤ ·)).map f) :=
    (List.perm_insertionSort _ _).trans ((List.perm_insertionSort _ items).map f).symm
  have hsame := hperm.eq_of_pairwise (fun a b _ _ => le_antisymm)
    (List.pairwise_insertionSort _ _) hsorted
  rw [kth, hsame, List.getElem?_map]
  rfl

end

section

variable {K : Type} [Field K] [LinearOrder K]

/-- The middle one of the items, or the mean of the two middle ones. -/
def median (items : List K) : Option K :=
  if items.length % 2 = 1 then kth items (items.length / 2)
  else do
    let lower ← kth items (items.length / 2 - 1)
    let upper ← kth items (items.length / 2)
    pure ((lower + upper) / 2)

end

end OrderStatistics
