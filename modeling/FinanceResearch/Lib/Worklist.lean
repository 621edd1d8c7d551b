import Mathlib.Algebra.Ring.Nat
import Mathlib.Data.List.Basic
import Mathlib.Logic.Relation

/-!
# Worklists

A loop that takes a node off a list of pending ones, skips it when it was seen,
and else adds its successors to the list. `push` says where they go: in front
(a stack, the order of a depth-first recursion) or behind (a queue). Whatever
`push` is, the nodes collected are those reachable from the pending ones
(`mem_collect`), once `fuel` exceeds the number of steps the loop can take
(`enough`): the pending nodes and the out-degrees of the nodes not yet seen.

A depth-first search leaves a node after all those it leads to, so the nodes it
has left without meeting its own path are on no cycle (`Finished.acyclic`).
-/

namespace Worklist

variable {α : Type} [DecidableEq α] (succ : α → List α) (push : List α → List α → List α)

/-- The nodes visited, in order. -/
def collect : Nat → (seen pending : List α) → List α
  | 0, _, _ => []
  | _ + 1, _, [] => []
  | fuel + 1, seen, x :: rest =>
    if x ∈ seen then collect fuel seen rest
    else x :: collect fuel (x :: seen) (push rest (succ x))

/-- The successors of the nodes not yet seen; `nodes` are the only ones with any. -/
def edges (nodes seen : List α) : Nat :=
  ((nodes.filter (· ∉ seen)).map fun x => (succ x).length).sum

/-- The steps the loop can take. -/
def steps (nodes seen pending : List α) : Nat := pending.length + edges succ nodes seen

/-- Fuel for the whole loop, from `pending` on. -/
def enough (nodes pending : List α) : Nat := steps succ nodes [] pending + 1

/-- A node reached from another along successors. -/
abbrev Reaches : α → α → Prop := Relation.ReflTransGen fun x y => y ∈ succ x

variable {succ push}

/-- A node that is seen takes its successors off the edges left. -/
theorem edges_cons {nodes seen : List α} {x : α} (hnodup : nodes.Nodup)
    (hnodes : ∀ y, succ y ≠ [] → y ∈ nodes) (hx : x ∉ seen) :
    edges succ nodes (x :: seen) + (succ x).length ≤ edges succ nodes seen := by
  unfold edges
  have herase : nodes.filter (· ∉ x :: seen) = (nodes.filter (· ∉ seen)).erase x := by
    rw [List.Nodup.erase_eq_filter (hnodup.filter _), List.filter_filter]
    apply List.filter_congr
    intro y _
    simp only [List.mem_cons, not_or]
    grind
  rw [herase]
  by_cases hmem : x ∈ nodes.filter (· ∉ seen)
  · have hsum := ((List.perm_cons_erase hmem).map fun y => (succ y).length).sum_nat
    rw [List.map_cons, List.sum_cons] at hsum
    omega
  · have hleaf : succ x = [] := by
      by_contra hne
      exact hmem (List.mem_filter.mpr ⟨hnodes x hne, by simpa using hx⟩)
    rw [hleaf, List.erase_of_not_mem hmem]
    exact Nat.le_refl _

/-- Visiting a node takes one step. -/
theorem steps_visit {nodes seen rest : List α} {x : α} (hnodup : nodes.Nodup)
    (hnodes : ∀ y, succ y ≠ [] → y ∈ nodes) (hx : x ∉ seen)
    (hpush : ∀ l m, (push l m).Perm (l ++ m)) :
    steps succ nodes (x :: seen) (push rest (succ x)) + 1 ≤ steps succ nodes seen (x :: rest) := by
  have hedges := edges_cons hnodup hnodes hx
  unfold steps
  rw [(hpush rest (succ x)).length_eq, List.length_append, List.length_cons]
  omega

/-- What is collected is reachable from what was pending. -/
theorem reaches_of_mem_collect (hpush : ∀ l m, (push l m).Perm (l ++ m)) :
    ∀ (fuel : Nat) (seen pending : List α) (y : α), y ∈ collect succ push fuel seen pending →
      ∃ x ∈ pending, Reaches succ x y
  | 0, _, _, _, h => by simp [collect] at h
  | _ + 1, _, [], _, h => by simp [collect] at h
  | fuel + 1, seen, x :: rest, y, h => by
    unfold collect at h
    split at h
    · obtain ⟨z, hz, hr⟩ := reaches_of_mem_collect hpush fuel seen rest y h
      exact ⟨z, List.mem_cons_of_mem _ hz, hr⟩
    · rcases List.mem_cons.mp h with rfl | h
      · exact ⟨y, List.mem_cons_self, .refl⟩
      · obtain ⟨z, hz, hr⟩ := reaches_of_mem_collect hpush fuel _ _ y h
        rcases List.mem_append.mp ((hpush rest (succ x)).mem_iff.mp hz) with hz | hz
        · exact ⟨z, List.mem_cons_of_mem _ hz, hr⟩
        · exact ⟨x, List.mem_cons_self, .head hz hr⟩

/-- With enough fuel everything pending is collected, and so are the successors
of everything collected. -/
theorem collect_closed {nodes : List α} (hnodup : nodes.Nodup)
    (hnodes : ∀ y, succ y ≠ [] → y ∈ nodes) (hpush : ∀ l m, (push l m).Perm (l ++ m)) :
    ∀ (fuel : Nat) (seen pending : List α), steps succ nodes seen pending < fuel →
      (∀ x ∈ pending, x ∈ seen ∨ x ∈ collect succ push fuel seen pending) ∧
      ∀ x ∈ collect succ push fuel seen pending, ∀ y ∈ succ x,
        y ∈ seen ∨ y ∈ collect succ push fuel seen pending
  | 0, _, _, h => absurd h (Nat.not_lt_zero _)
  | _ + 1, _, [], _ => by simp [collect]
  | fuel + 1, seen, x :: rest, hsteps => by
    unfold collect
    split
    next hx =>
      have hrest : steps succ nodes seen rest < fuel := by
        unfold steps at hsteps ⊢
        rw [List.length_cons] at hsteps
        omega
      have ih := collect_closed hnodup hnodes hpush fuel seen rest hrest
      refine ⟨?_, ih.2⟩
      intro y hy
      rcases List.mem_cons.mp hy with rfl | hy
      · exact Or.inl hx
      · exact ih.1 y hy
    next hx =>
      have hleft : steps succ nodes (x :: seen) (push rest (succ x)) < fuel := by
        have hvisit : steps succ nodes (x :: seen) (push rest (succ x)) + 1 ≤
            steps succ nodes seen (x :: rest) := steps_visit hnodup hnodes hx hpush
        omega
      obtain ⟨hpending, hclosed⟩ := collect_closed hnodup hnodes hpush fuel _ _ hleft
      have hnew : ∀ y, y ∈ x :: seen ∨ y ∈ collect succ push fuel (x :: seen) (push rest (succ x)) →
          y ∈ seen ∨ y ∈ x :: collect succ push fuel (x :: seen) (push rest (succ x)) := by
        intro y hy
        simp only [List.mem_cons] at hy ⊢
        tauto
      have hsucc : ∀ y ∈ rest ++ succ x,
          y ∈ seen ∨ y ∈ x :: collect succ push fuel (x :: seen) (push rest (succ x)) :=
        fun y hy => hnew y (hpending y ((hpush rest (succ x)).mem_iff.mpr hy))
      constructor
      · intro y hy
        rcases List.mem_cons.mp hy with rfl | hy
        · exact Or.inr List.mem_cons_self
        · exact hsucc y (List.mem_append_left _ hy)
      · intro z hz y hy
        rcases List.mem_cons.mp hz with rfl | hz
        · exact hsucc y (List.mem_append_right _ hy)
        · exact hnew y (hclosed z hz y hy)

/-- **The nodes collected are the reachable ones**, whatever the order. -/
theorem mem_collect {nodes pending : List α} (hnodup : nodes.Nodup)
    (hnodes : ∀ y, succ y ≠ [] → y ∈ nodes) (hpush : ∀ l m, (push l m).Perm (l ++ m)) {y : α} :
    y ∈ collect succ push (enough succ nodes pending) [] pending ↔
      ∃ x ∈ pending, Reaches succ x y := by
  constructor
  · exact reaches_of_mem_collect hpush _ _ _ _
  · rintro ⟨x, hx, hr⟩
    obtain ⟨hpending, hclosed⟩ :=
      collect_closed hnodup hnodes hpush (enough succ nodes pending) [] pending (Nat.lt_succ_self _)
    induction hr with
    | refl => simpa using hpending x hx
    | tail _ hstep ih => simpa using hclosed _ ih _ hstep

/-! ## The order of a depth-first search -/

variable (succ) in
/-- Nodes in the order a depth-first search leaves them, the last one first: each
comes before those it leads to. A node that leads nowhere need not occur. -/
inductive Finished : List α → Prop
  | nil : Finished []
  | cons {x : α} {done : List α} : x ∉ done → (∀ y ∈ succ x, succ y = [] ∨ y ∈ done) →
      Finished done → Finished (x :: done)

omit [DecidableEq α]

/-- A path along successors, of at least one step. -/
abbrev Leads (succ : α → List α) : α → α → Prop := Relation.TransGen fun x y => y ∈ succ x

/-- The first step of a path leaves a node with successors. -/
theorem Leads.start_ne {x y : α} (h : Leads succ x y) : succ x ≠ [] := by
  obtain ⟨z, hz, _⟩ := Relation.TransGen.head'_iff.mp h
  exact List.ne_nil_of_mem hz

theorem Finished.of_succ {done : List α} (h : Finished succ done) :
    ∀ x ∈ done, ∀ y ∈ succ x, succ y = [] ∨ y ∈ done := by
  induction h with
  | nil => exact fun x hx => absurd hx List.not_mem_nil
  | @cons first done _ hsucc _ ih =>
    intro x hx y hy
    have htail : succ y = [] ∨ y ∈ done := by
      rcases List.mem_cons.mp hx with heq | hx
      · exact hsucc y (heq ▸ hy)
      · exact ih x hx y hy
    exact htail.imp_right (List.mem_cons_of_mem first)

/-- What is finished leads to finished nodes only. -/
theorem Finished.of_leads {done : List α} (h : Finished succ done) {x y : α} (hx : x ∈ done)
    (hleads : Leads succ x y) : succ y = [] ∨ y ∈ done := by
  induction hleads with
  | single hy => exact h.of_succ x hx _ hy
  | tail _ hz ih =>
    have hmem : _ ∈ done := ih.resolve_left (List.ne_nil_of_mem hz)
    exact h.of_succ _ hmem _ hz

/-- **No finished node lies on a cycle.** -/
theorem Finished.acyclic {done : List α} (h : Finished succ done) :
    ∀ x ∈ done, ¬ Leads succ x x := by
  induction h with
  | nil => exact fun x hx => absurd hx List.not_mem_nil
  | @cons first done hfirst hsucc hdone ih =>
    intro x hx hcycle
    by_cases hmem : x ∈ done
    · exact ih x hmem hcycle
    · have hxfirst : x = first := (List.mem_cons.mp hx).resolve_right hmem
      subst hxfirst
      -- the cycle leaves `first` for a finished node, and cannot come back
      obtain ⟨y, hy, hback⟩ := Relation.TransGen.head'_iff.mp hcycle
      have hleaf : succ x ≠ [] := hcycle.start_ne
      rcases Relation.reflTransGen_iff_eq_or_transGen.mp hback with heq | hback
      · subst heq
        exact hmem ((hsucc _ hy).resolve_left hleaf)
      · have hydone : y ∈ done := (hsucc y hy).resolve_left (Leads.start_ne hback)
        exact hmem ((hdone.of_leads hydone hback).resolve_left hleaf)

end Worklist
