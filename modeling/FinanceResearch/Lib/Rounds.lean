import Mathlib.Data.List.Basic
import Mathlib.Logic.Function.Iterate

/-!
# Rewriting a text until it is stable

A function that changes a text only by shortening it is stable after as many rounds as the
text has items (`untilStable_fixed`), so a loop that ends at the first unchanged text ends.
A function that works between the separators of a text (`Respects`) does so in every round,
and the pieces between separators can be followed one by one (`Respects.mem_splitOn`).
-/

namespace Rounds

variable {α : Type}

/-- `while True: y = f(x); if y == x: break; x = y`, for so many rounds. -/
def untilStable [DecidableEq α] (f : List α → List α) : Nat → List α → List α
  | 0, x => x
  | rounds + 1, x => if f x = x then x else untilStable f rounds (f x)

theorem untilStable_eq_iterate [DecidableEq α] (f : List α → List α) : ∀ (n : Nat) (x : List α),
    untilStable f n x = f^[n] x := by
  intro n
  induction n with
  | zero => intro x; rfl
  | succ n ih =>
    intro x
    rw [untilStable, Function.iterate_succ_apply]
    by_cases h : f x = x
    · rw [if_pos h, h, Function.iterate_fixed h]
    · rw [if_neg h, ih]

/-- A function that shortens what it changes. -/
def Shrinks (f : List α → List α) : Prop := ∀ x, f x = x ∨ (f x).length < x.length

/-- **It is stable after as many rounds as there are items.** -/
theorem untilStable_fixed {f : List α → List α} (hf : Shrinks f) : ∀ {n : Nat} {x : List α},
    x.length ≤ n → f (f^[n] x) = f^[n] x := by
  intro n
  induction n with
  | zero =>
    intro x hx
    rcases hf x with h | h
    · exact h
    · omega
  | succ n ih =>
    intro x hx
    rw [Function.iterate_succ_apply]
    rcases hf x with h | h
    · rw [h, Function.iterate_fixed h, h]
    · exact ih (by omega)

/-- Further rounds change nothing. -/
theorem iterate_of_le {f : List α → List α} (hf : Shrinks f) {n k : Nat} {x : List α}
    (hx : x.length ≤ n) (hnk : n ≤ k) : f^[k] x = f^[n] x := by
  obtain ⟨m, rfl⟩ := Nat.exists_eq_add_of_le hnk
  rw [Nat.add_comm, Function.iterate_add_apply]
  exact Function.iterate_fixed (untilStable_fixed hf hx) m

/-! ## Separators -/

/-- What is on either side of a separator is rewritten on its own. -/
def Respects (sep : α) (f : List α → List α) : Prop :=
  ∀ a b, f (a ++ sep :: b) = f a ++ sep :: f b

theorem Respects.iterate {sep : α} {f : List α → List α} (hf : Respects sep f) (n : Nat) :
    Respects sep f^[n] := by
  induction n with
  | zero => exact fun a b => rfl
  | succ n ih =>
    intro a b
    rw [Function.iterate_succ_apply, Function.iterate_succ_apply, Function.iterate_succ_apply, hf, ih]

/-- A piece that is not rewritten stays a piece. -/
theorem Respects.mem_splitOn [DecidableEq α] {sep : α} {f : List α → List α} (hf : Respects sep f) {piece : List α}
    (hpiece : f piece = piece) : ∀ {x : List α}, piece ∈ x.splitOn sep → piece ∈ (f x).splitOn sep := by
  intro x
  induction hn : x.length using Nat.strongRecOn generalizing x with
  | ind n ih =>
    intro h
    by_cases hsep : sep ∈ x
    · obtain ⟨a, b, rfl, -⟩ := List.eq_append_cons_of_mem hsep
      rw [List.splitOn_append_cons_self, List.mem_append] at h
      rw [hf, List.splitOn_append_cons_self, List.mem_append]
      rw [List.length_append, List.length_cons] at hn
      rcases h with h | h
      · exact Or.inl (ih a.length (by omega) rfl h)
      · exact Or.inr (ih b.length (by omega) rfl h)
    · rw [List.splitOn_eq_singleton hsep, List.mem_singleton] at h
      have hsplit := List.splitOn_eq_singleton hsep
      rw [← h] at hsplit
      rw [← h, hpiece, hsplit]
      exact List.mem_singleton_self piece

end Rounds
