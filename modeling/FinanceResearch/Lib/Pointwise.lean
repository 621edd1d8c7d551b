import Mathlib.Data.List.Forall2
import Mathlib.Data.List.Perm.Basic

/-!
# Lists related item by item

What `List.Forall₂` carries from one list to the other: members, arrangements and
relations between pairs of items.
-/

namespace Pointwise

variable {α β γ : Type} {R : α → β → Prop} {S : β → γ → Prop}

theorem exists_left {xs : List α} {ys : List β} (h : List.Forall₂ R xs ys) {y : β} (hy : y ∈ ys) :
    ∃ x ∈ xs, R x y := by
  induction h with
  | nil => cases hy
  | cons hxy _ ih =>
    rcases List.mem_cons.mp hy with rfl | hy
    · exact ⟨_, List.mem_cons_self, hxy⟩
    · obtain ⟨x, hx, hxy⟩ := ih hy
      exact ⟨x, List.mem_cons_of_mem _ hx, hxy⟩

theorem exists_right {xs : List α} {ys : List β} (h : List.Forall₂ R xs ys) {x : α} (hx : x ∈ xs) :
    ∃ y ∈ ys, R x y := exists_left h.flip hx

/-- Two relations one after the other. -/
theorem comp {xs : List α} {ys : List β} {zs : List γ} (hR : List.Forall₂ R xs ys)
    (hS : List.Forall₂ S ys zs) :
    List.Forall₂ (fun x z => ∃ y ∈ ys, R x y ∧ S y z) xs zs := by
  induction hR generalizing zs with
  | nil =>
    cases hS
    exact .nil
  | cons hxy _ ih =>
    cases hS with
    | cons hyz hrest =>
      refine .cons ⟨_, List.mem_cons_self, hxy, hyz⟩ ((ih hrest).imp ?_)
      intro x z h
      obtain ⟨y, hy, h⟩ := h
      exact ⟨y, List.mem_cons_of_mem _ hy, h⟩

/-- An arrangement of the second list is the image of one of the first. -/
theorem perm {xs : List α} {ys ys' : List β} (h : List.Forall₂ R xs ys) (hperm : ys'.Perm ys) :
    ∃ xs', xs'.Perm xs ∧ List.Forall₂ R xs' ys' := by
  obtain ⟨xs', hall, hxs⟩ := List.perm_comp_forall₂ hperm h.flip
  exact ⟨xs', hxs, hall.flip⟩

/-- A relation between all pairs of the first list, and what it gives for their images. -/
theorem pairwise {P : α → α → Prop} {Q : β → β → Prop}
    (hQ : ∀ x y x' y', R x y → R x' y' → P x x' → Q y y') {xs : List α} {ys : List β}
    (h : List.Forall₂ R xs ys) (hP : xs.Pairwise P) : ys.Pairwise Q := by
  induction h with
  | nil => exact .nil
  | cons hxy hrest ih =>
    rw [List.pairwise_cons] at hP ⊢
    refine ⟨?_, ih hP.2⟩
    intro z hz
    obtain ⟨x', hx', hxz⟩ := exists_left hrest hz
    exact hQ _ _ _ _ hxy hxz (hP.1 x' hx')

end Pointwise
