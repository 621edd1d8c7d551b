import Mathlib.Algebra.Ring.Nat
import Mathlib.Data.List.Basic
import Mathlib.Logic.Function.Basic
import Mathlib.Logic.Relation
import FinanceResearch.Lib.Dicts

/-!
# Connected components by repeated search

`label` goes through the nodes of a list; each node without a root becomes one, and a
breadth-first search gives it to every node reached over edges from nodes without a
root. A node is marked when it is put in the queue, so it is queued once, and the nodes
without a root bound the length of a search (`unrooted`).

When the edges go both ways, two nodes have one root exactly when they are connected
(`Labelled`), and the root of a node stands no later in the list than the node
(`exists_root_of_append`).
-/

namespace Components

variable {α ε : Type} [DecidableEq α] (next : α → List (α × ε))

/-- The root of each node reached so far, and the edge it was reached over. -/
structure State (α ε : Type) where
  root : α → Option α
  via : α → Option ε

/-- Nothing reached. -/
def State.empty : State α ε := ⟨fun _ => none, fun _ => none⟩

/-- The body of the loop over the edges of a node. -/
def visit (root : α) (s : State α ε × List α) (edge : α × ε) : State α ε × List α :=
  if (s.1.root edge.1).isSome then s
  else
    (⟨Function.update s.1.root edge.1 (some root), Function.update s.1.via edge.1 (some edge.2)⟩,
      s.2 ++ [edge.1])

/-- The search from the pending nodes. -/
def search (root : α) : Nat → State α ε → List α → State α ε
  | 0, s, _ => s
  | _ + 1, s, [] => s
  | fuel + 1, s, x :: pending =>
    let reached := (next x).foldl (visit root) (s, pending)
    search root fuel reached.1 reached.2

/-- The search from one node of the list. -/
def labelFrom (fuel : Nat) (s : State α ε) (x : α) : State α ε :=
  if (s.root x).isSome then s
  else search next x fuel { s with root := Function.update s.root x (some x) } [x]

/-- The roots of all nodes of the list, which may name a node more than once. -/
def label (order : List α) : State α ε :=
  order.foldl (labelFrom next (order.length + 1)) .empty

/-- An edge from one node to another. -/
def Edge (x y : α) : Prop := ∃ e, (y, e) ∈ next x

/-- A walk over edges. -/
abbrev Connected : α → α → Prop := Relation.ReflTransGen (Edge next)

/-! ## One search -/

/-- The nodes without a root. -/
def unrooted (nodes : List α) (s : State α ε) : Nat :=
  (nodes.filter fun x => (s.root x).isNone).length

variable {next}

/-- What a visit does: nothing, or one more node of this root at the end of the queue. -/
theorem visit_cases (root : α) (s : State α ε × List α) (edge : α × ε) :
    (∃ r, s.1.root edge.1 = some r ∧ visit root s edge = s) ∨
      (s.1.root edge.1 = none ∧
        (visit root s edge).1.root = Function.update s.1.root edge.1 (some root) ∧
        (visit root s edge).2 = s.2 ++ [edge.1]) := by
  unfold visit
  cases h : s.1.root edge.1 with
  | some r => exact Or.inl ⟨r, rfl, by simp⟩
  | none => exact Or.inr ⟨rfl, by simp, by simp⟩

theorem unrooted_update {nodes : List α} (hnodup : nodes.Nodup) {s s' : State α ε} {x root : α}
    (hx : x ∈ nodes) (hnone : s.root x = none)
    (hroot : s'.root = Function.update s.root x (some root)) :
    unrooted nodes s' + 1 = unrooted nodes s := by
  have hmem : x ∈ nodes.filter fun y => (s.root y).isNone :=
    List.mem_filter.mpr ⟨hx, by simp [hnone]⟩
  have herase : nodes.filter (fun y => (s'.root y).isNone) =
      (nodes.filter fun y => (s.root y).isNone).erase x := by
    rw [List.Nodup.erase_eq_filter (hnodup.filter _), List.filter_filter]
    apply List.filter_congr
    intro y _
    rw [hroot, Function.update_apply]
    by_cases hy : y = x
    · simp [hy]
    · simp [hy]
  unfold unrooted
  rw [herase, List.length_erase_of_mem hmem]
  have hpos : 0 < (nodes.filter fun y => (s.root y).isNone).length := List.length_pos_of_mem hmem
  omega

/-- The search from `root`, which began with the roots of `start`. -/
structure Searching (next : α → List (α × ε)) (nodes : List α) (start : State α ε) (root : α)
    (s : State α ε) (pending : List α) : Prop where
  kept : ∀ x r, start.root x = some r → s.root x = some r
  fresh : ∀ x r, s.root x = some r →
    start.root x = some r ∨ (start.root x = none ∧ r = root ∧ Connected next root x)
  queued : ∀ x ∈ pending, s.root x = some root ∧ start.root x = none
  rooted : s.root root = some root
  known : ∀ x ∈ pending, x ∈ nodes

/-- The edges of the nodes of this root that are no longer queued have been followed. -/
def Followed (next : α → List (α × ε)) (start s : State α ε) (pending : List α) : Prop :=
  ∀ x, start.root x = none → (s.root x).isSome = true → x ∉ pending →
    ∀ y, Edge next x y → (s.root y).isSome = true

theorem Searching.visit {nodes : List α} {start : State α ε} {root x : α}
    {s : State α ε × List α} {edge : α × ε}
    (h : Searching next nodes start root s.1 s.2) (hx : Connected next root x)
    (hedge : edge ∈ next x) (hnode : edge.1 ∈ nodes) :
    Searching next nodes start root (Components.visit root s edge).1
      (Components.visit root s edge).2 := by
  rcases visit_cases root s edge with ⟨r, _, hs⟩ | ⟨hnone, hroot, hpending⟩
  · rw [hs]
    exact h
  have hstart : start.root edge.1 = none := by
    cases hr : start.root edge.1 with
    | none => rfl
    | some r =>
      rw [h.kept _ _ hr] at hnone
      cases hnone
  refine ⟨?_, ?_, ?_, ?_, ?_⟩
  · intro y r hy
    rw [hroot, Function.update_apply]
    by_cases hye : y = edge.1
    · rw [hye, hstart] at hy
      cases hy
    · rw [if_neg hye]
      exact h.kept y r hy
  · intro y r hy
    rw [hroot, Function.update_apply] at hy
    by_cases hye : y = edge.1
    · rw [if_pos hye] at hy
      cases hy
      rw [hye]
      exact Or.inr ⟨hstart, rfl, hx.tail ⟨edge.2, hedge⟩⟩
    · rw [if_neg hye] at hy
      exact h.fresh y r hy
  · intro y hy
    rw [hpending, List.mem_append, List.mem_singleton] at hy
    rw [hroot, Function.update_apply]
    rcases hy with hy | hy
    · by_cases hye : y = edge.1
      · rw [if_pos hye, hye]
        exact ⟨rfl, hstart⟩
      · rw [if_neg hye]
        exact h.queued y hy
    · rw [if_pos hy, hy]
      exact ⟨rfl, hstart⟩
  · rw [hroot, Function.update_apply]
    by_cases hre : root = edge.1
    · rw [if_pos hre]
    · rw [if_neg hre]
      exact h.rooted
  · intro y hy
    rw [hpending, List.mem_append, List.mem_singleton] at hy
    rcases hy with hy | hy
    · exact h.known y hy
    · rw [hy]
      exact hnode

/-- A visit forgets no root and no queued node, moves at most one node from the
unrooted to the queue, and roots the end of its edge. -/
theorem visit_grows {nodes : List α} (hnodup : nodes.Nodup) (root : α) (s : State α ε × List α)
    (edge : α × ε) (hnode : edge.1 ∈ nodes) :
    (∀ y, (s.1.root y).isSome = true → ((visit root s edge).1.root y).isSome = true) ∧
      (((visit root s edge).1.root edge.1).isSome = true) ∧
      (∀ y, ((visit root s edge).1.root y).isSome = true → (s.1.root y).isSome = true ∨
        y ∈ (visit root s edge).2) ∧
      (∀ y ∈ s.2, y ∈ (visit root s edge).2) ∧
      (visit root s edge).2.length + unrooted nodes (visit root s edge).1 =
        s.2.length + unrooted nodes s.1 := by
  rcases visit_cases root s edge with ⟨r, hr, hs⟩ | ⟨hnone, hroot, hpending⟩
  · rw [hs]
    exact ⟨fun _ => id, by rw [hr]; rfl, fun _ => Or.inl, fun _ => id, rfl⟩
  · have hcount := unrooted_update hnodup hnode hnone hroot
    refine ⟨?_, ?_, ?_, ?_, ?_⟩
    · intro y hy
      rw [hroot, Function.update_apply]
      by_cases hye : y = edge.1
      · rw [if_pos hye]
        rfl
      · rwa [if_neg hye]
    · rw [hroot, Function.update_self]
      rfl
    · intro y hy
      rw [hroot, Function.update_apply] at hy
      by_cases hye : y = edge.1
      · rw [hpending, hye]
        exact Or.inr (List.mem_append_right _ List.mem_cons_self)
      · rw [if_neg hye] at hy
        exact Or.inl hy
    · intro y hy
      rw [hpending]
      exact List.mem_append_left _ hy
    · rw [hpending, List.length_append, List.length_singleton]
      omega

/-- A node of the queue with all its edges. -/
theorem visit_foldl {nodes : List α} (hnodup : nodes.Nodup) {start : State α ε} {root x : α}
    (hx : Connected next root x) : ∀ {edges : List (α × ε)} {s : State α ε × List α},
      (∀ edge ∈ edges, edge ∈ next x) → (∀ edge ∈ edges, edge.1 ∈ nodes) →
      Searching next nodes start root s.1 s.2 →
      Searching next nodes start root (edges.foldl (visit root) s).1
          (edges.foldl (visit root) s).2 ∧
        (∀ y, (s.1.root y).isSome = true → ((edges.foldl (visit root) s).1.root y).isSome = true) ∧
        (∀ edge ∈ edges, ((edges.foldl (visit root) s).1.root edge.1).isSome = true) ∧
        (∀ y, ((edges.foldl (visit root) s).1.root y).isSome = true →
          (s.1.root y).isSome = true ∨ y ∈ (edges.foldl (visit root) s).2) ∧
        (∀ y ∈ s.2, y ∈ (edges.foldl (visit root) s).2) ∧
        (edges.foldl (visit root) s).2.length + unrooted nodes (edges.foldl (visit root) s).1 =
          s.2.length + unrooted nodes s.1 := by
  intro edges
  induction edges with
  | nil =>
    intro s _ _ h
    exact ⟨h, fun _ => id, nofun, fun _ => Or.inl, fun _ => id, rfl⟩
  | cons edge edges ih =>
    intro s hedges hnodes h
    rw [List.forall_mem_cons] at hedges hnodes
    obtain ⟨hgrow, hedge, hnew, hqueue, hcount⟩ := visit_grows hnodup root s edge hnodes.1
    obtain ⟨hs, hgrow', hedges', hnew', hqueue', hcount'⟩ :=
      ih hedges.2 hnodes.2 (h.visit hx hedges.1 hnodes.1)
    rw [List.foldl_cons]
    refine ⟨hs, fun y hy => hgrow' y (hgrow y hy), ?_, ?_, fun y hy => hqueue' y (hqueue y hy),
      by omega⟩
    · intro other hother
      rcases List.mem_cons.mp hother with hother | hother
      · rw [hother]
        exact hgrow' _ hedge
      · exact hedges' other hother
    · intro y hy
      rcases hnew' y hy with hy | hy
      · rcases hnew y hy with hy | hy
        · exact Or.inl hy
        · exact Or.inr (hqueue' y hy)
      · exact Or.inr hy

/-- With fuel for the queue and the nodes without a root, the search ends with every
edge followed. -/
theorem search_spec {nodes : List α} (hnodup : nodes.Nodup)
    (hnext : ∀ x ∈ nodes, ∀ edge ∈ next x, edge.1 ∈ nodes) {start : State α ε} {root : α} :
    ∀ (fuel : Nat) (s : State α ε) (pending : List α),
      pending.length + unrooted nodes s < fuel → Searching next nodes start root s pending →
      Followed next start s pending →
      Searching next nodes start root (search next root fuel s pending) [] ∧
        Followed next start (search next root fuel s pending) []
  | 0, _, _, hfuel, _, _ => absurd hfuel (Nat.not_lt_zero _)
  | _ + 1, _, [], _, h, hfollowed => ⟨h, hfollowed⟩
  | fuel + 1, s, x :: pending, hfuel, h, hfollowed => by
    have hroot := (h.queued x List.mem_cons_self).1
    have hstart := (h.queued x List.mem_cons_self).2
    have hconnected : Connected next root x := by
      rcases h.fresh x root hroot with hold | hnew
      · rw [hstart] at hold
        cases hold
      · exact hnew.2.2
    have hpopped : Searching next nodes start root s pending :=
      ⟨h.kept, h.fresh, fun y hy => h.queued y (List.mem_cons_of_mem x hy), h.rooted,
        fun y hy => h.known y (List.mem_cons_of_mem x hy)⟩
    obtain ⟨hs, hgrow, hedges, hnew, hqueue, hcount⟩ :=
      visit_foldl (s := (s, pending)) hnodup hconnected (fun _ hedge => hedge)
        (hnext x (h.known x List.mem_cons_self)) hpopped
    unfold search
    refine search_spec hnodup hnext fuel _ _ ?_ hs ?_
    · rw [List.length_cons] at hfuel
      simp only [] at hcount ⊢
      omega
    · intro y hy hsome hpending z hz
      rcases hnew y hsome with hold | hqueued
      · by_cases hyx : y = x
        · obtain ⟨e, he⟩ := hz
          rw [hyx] at he
          exact hedges (z, e) he
        · refine hgrow z (hfollowed y hy hold ?_ z hz)
          intro hmem
          rcases List.mem_cons.mp hmem with hmem | hmem
          · exact hyx hmem
          · exact hpending (hqueue y hmem)
      · exact absurd hqueued hpending

/-! ## All searches -/

/-- The labels after the searches from `done`. -/
structure Labelled (next : α → List (α × ε)) (done : List α) (s : State α ε) : Prop where
  root : ∀ x r, s.root x = some r → Connected next r x ∧ s.root r = some r ∧ r ∈ done
  closed : ∀ x r, s.root x = some r → ∀ y, Edge next x y → s.root y = some r
  covers : ∀ x ∈ done, (s.root x).isSome = true

omit [DecidableEq α] in
theorem Labelled.empty : Labelled next [] (State.empty : State α ε) := ⟨nofun, nofun, nofun⟩

theorem labelFrom_spec {nodes : List α} (hnodup : nodes.Nodup)
    (hnext : ∀ x ∈ nodes, ∀ edge ∈ next x, edge.1 ∈ nodes)
    (hsymm : ∀ x y, Edge next x y → Edge next y x) {fuel : Nat} (hfuel : nodes.length < fuel)
    {done : List α} {s : State α ε} {x : α} (h : Labelled next done s) (hx : x ∈ nodes) :
    Labelled next (done ++ [x]) (labelFrom next fuel s x) ∧
      ∀ y r, s.root y = some r → (labelFrom next fuel s x).root y = some r := by
  unfold labelFrom
  cases hsx : s.root x with
  | some r =>
    refine ⟨⟨?_, h.closed, ?_⟩, fun _ _ => id⟩
    · intro y q hy
      obtain ⟨hconnected, hself, hdone⟩ := h.root y q hy
      exact ⟨hconnected, hself, List.mem_append_left _ hdone⟩
    · intro y hy
      rcases List.mem_append.mp hy with hy | hy
      · exact h.covers y hy
      · rw [List.mem_singleton.mp hy]
        simp [hsx]
  | none =>
    let s₀ : State α ε := { s with root := Function.update s.root x (some x) }
    have hinitial : Searching next nodes s x s₀ [x] := by
      refine ⟨?_, ?_, ?_, Function.update_self .., ?_⟩
      · intro y r hy
        have hyx : y ≠ x := by
          intro he
          rw [he, hsx] at hy
          cases hy
        show Function.update s.root x (some x) y = some r
        rw [Function.update_of_ne hyx]
        exact hy
      · intro y r hy
        have hy' : Function.update s.root x (some x) y = some r := hy
        rw [Function.update_apply] at hy'
        by_cases hyx : y = x
        · rw [if_pos hyx] at hy'
          cases hy'
          rw [hyx]
          exact Or.inr ⟨hsx, rfl, .refl⟩
        · rw [if_neg hyx] at hy'
          exact Or.inl hy'
      · intro y hy
        rw [List.mem_singleton.mp hy]
        exact ⟨Function.update_self .., hsx⟩
      · intro y hy
        rwa [List.mem_singleton.mp hy]
    have hfollowed : Followed next s s₀ [x] := by
      intro y hy hsome hpending
      have hyx : y ≠ x := fun he => hpending (List.mem_singleton.mpr he)
      have hsome' : (Function.update s.root x (some x) y).isSome = true := hsome
      rw [Function.update_of_ne hyx, hy] at hsome'
      cases hsome'
    have henough : [x].length + unrooted nodes s₀ < fuel := by
      have hcount : unrooted nodes s₀ + 1 = unrooted nodes s :=
        unrooted_update hnodup hx hsx rfl
      have hle : unrooted nodes s ≤ nodes.length := List.length_filter_le _ _
      rw [List.length_singleton]
      omega
    obtain ⟨hend, hall⟩ := search_spec hnodup hnext _ s₀ [x] henough hinitial hfollowed
    rw [if_neg (by simp)]
    refine ⟨⟨?_, ?_, ?_⟩, hend.kept⟩
    · intro y r hy
      rcases hend.fresh y r hy with hold | ⟨-, hr, hconnected⟩
      · obtain ⟨hconnected, hself, hdone⟩ := h.root y r hold
        exact ⟨hconnected, hend.kept _ _ hself, List.mem_append_left _ hdone⟩
      · rw [hr]
        exact ⟨hconnected, hend.rooted, List.mem_append_right _ List.mem_cons_self⟩
    · intro y r hy z hz
      rcases hend.fresh y r hy with hold | ⟨hnone, hr, -⟩
      · exact hend.kept _ _ (h.closed y r hold z hz)
      · -- A neighbour with an older root would have given that root to `y`.
        have hsome := hall y hnone (by rw [hy]; rfl) (List.not_mem_nil) z hz
        obtain ⟨q, hq⟩ := Option.isSome_iff_exists.mp hsome
        rcases hend.fresh z q hq with hold | ⟨-, hq', -⟩
        · have hback := h.closed z q hold y (hsymm y z hz)
          rw [hnone] at hback
          cases hback
        · rw [hq, hq', hr]
    · intro y hy
      rcases List.mem_append.mp hy with hy | hy
      · obtain ⟨r, hr⟩ := Option.isSome_iff_exists.mp (h.covers y hy)
        rw [hend.kept y r hr]
        rfl
      · rw [List.mem_singleton.mp hy, hend.rooted]
        rfl

section Labels

variable {order : List α} (hnext : ∀ x ∈ order, ∀ edge ∈ next x, edge.1 ∈ order)
  (hsymm : ∀ x y, Edge next x y → Edge next y x)

include hnext hsymm

theorem foldl_labelFrom : ∀ {rest done : List α} {s : State α ε}, Labelled next done s →
    (∀ x ∈ rest, x ∈ order) →
    Labelled next (done ++ rest) (rest.foldl (labelFrom next (order.length + 1)) s) ∧
      ∀ y r, s.root y = some r →
        (rest.foldl (labelFrom next (order.length + 1)) s).root y = some r := by
  intro rest
  induction rest with
  | nil =>
    intro done s h _
    rw [List.append_nil]
    exact ⟨h, fun _ _ => id⟩
  | cons x rest ih =>
    intro done s h hrest
    rw [List.forall_mem_cons] at hrest
    have hlength := Dicts.length_eraseDups_le _ order (Nat.le_refl _)
    obtain ⟨hx, hkept⟩ := labelFrom_spec (Dicts.nodup_eraseDups _ order (Nat.le_refl _))
      (by simpa only [List.mem_eraseDups] using hnext) hsymm (Nat.lt_succ_of_le hlength) h
      (List.mem_eraseDups.mpr hrest.1)
    obtain ⟨hall, hkept'⟩ := ih hx hrest.2
    rw [List.append_assoc] at hall
    exact ⟨hall, fun y r hy => hkept' y r (hkept y r hy)⟩

theorem label_spec : Labelled next order (label next order) :=
  (foldl_labelFrom hnext hsymm .empty fun _ => id).1

/-- Two nodes have one root exactly when they are connected. -/
theorem root_eq_iff {x y : α} (hx : x ∈ order) :
    (label next order).root x = (label next order).root y ↔ Connected next x y := by
  have h := label_spec hnext hsymm
  have hback : ∀ {a b : α}, Connected next a b → Connected next b a := by
    intro a b hab
    induction hab with
    | refl => exact .refl
    | tail _ hstep ih => exact ih.head (hsymm _ _ hstep)
  obtain ⟨r, hr⟩ := Option.isSome_iff_exists.mp (h.covers x hx)
  constructor
  · intro he
    rw [hr] at he
    exact (hback (h.root x r hr).1).trans (h.root y r he.symm).1
  · intro hxy
    rw [hr]
    induction hxy with
    | refl => exact hr.symm
    | tail _ hstep ih => exact (h.closed _ r ih.symm _ hstep).symm

/-- The root of a node stands no later in the list. -/
theorem exists_root_of_append {before after : List α} {x : α} (h : order = before ++ x :: after) :
    ∃ r ∈ before ++ [x], (label next order).root x = some r := by
  have hsplit : order = (before ++ [x]) ++ after := by
    rw [h, List.append_assoc]
    rfl
  have hpart : ∀ y ∈ before ++ [x], y ∈ order := by
    intro y hy
    rw [hsplit]
    exact List.mem_append_left _ hy
  have hlater : ∀ y ∈ after, y ∈ order := by
    intro y hy
    rw [hsplit]
    exact List.mem_append_right _ hy
  obtain ⟨hfirst, -⟩ := foldl_labelFrom hnext hsymm (Labelled.empty (ε := ε)) hpart
  obtain ⟨-, hkept⟩ := foldl_labelFrom hnext hsymm hfirst hlater
  rw [List.nil_append] at hfirst
  obtain ⟨r, hr⟩ := Option.isSome_iff_exists.mp
    (hfirst.covers x (List.mem_append_right _ List.mem_cons_self))
  refine ⟨r, (hfirst.root x r hr).2.2, ?_⟩
  have hlabel : label next order = after.foldl (labelFrom next (order.length + 1))
      ((before ++ [x]).foldl (labelFrom next (order.length + 1)) .empty) := by
    rw [← List.foldl_append, ← hsplit]
    rfl
  rw [hlabel]
  exact hkept x r hr

end Labels

/-! ## Other values on the edges -/

section Values

variable {ζ : Type} (f : ε → ζ)

/-- The same roots, reached over edges with the images of the values. -/
def State.map (s : State α ε) : State α ζ := ⟨s.root, fun x => (s.via x).map f⟩

theorem visit_map (root : α) (s : State α ε × List α) (edge : α × ε) :
    visit root (s.1.map f, s.2) (edge.1, f edge.2) =
      ((visit root s edge).1.map f, (visit root s edge).2) := by
  unfold visit
  show (if (s.1.root edge.1).isSome then _ else _) = _
  by_cases h : (s.1.root edge.1).isSome = true
  · rw [if_pos h, if_pos h]
  · rw [if_neg h, if_neg h]
    have hvia : Function.update (fun x => (s.1.via x).map f) edge.1 (some (f edge.2)) =
        fun x => (Function.update s.1.via edge.1 (some edge.2) x).map f := by
      funext x
      by_cases hx : x = edge.1
      · rw [hx, Function.update_self, Function.update_self]
        rfl
      · rw [Function.update_of_ne hx, Function.update_of_ne hx]
    show (State.mk _ _, _) = _
    rw [State.map, State.map, hvia]

theorem foldl_visit_map (root : α) : ∀ (edges : List (α × ε)) (s : State α ε × List α),
    (edges.map fun edge => (edge.1, f edge.2)).foldl (visit root) (s.1.map f, s.2) =
      ((edges.foldl (visit root) s).1.map f, (edges.foldl (visit root) s).2) := by
  intro edges
  induction edges with
  | nil => exact fun _ => rfl
  | cons edge edges ih =>
    intro s
    rw [List.map_cons, List.foldl_cons, List.foldl_cons, visit_map]
    exact ih (visit root s edge)

theorem search_map (root : α) : ∀ (fuel : Nat) (s : State α ε) (pending : List α),
    search (fun x => (next x).map fun edge => (edge.1, f edge.2)) root fuel (s.map f) pending =
      (search next root fuel s pending).map f
  | 0, _, _ => rfl
  | _ + 1, _, [] => rfl
  | fuel + 1, s, x :: pending => by
    have hreached := foldl_visit_map f root (next x) (s, pending)
    simp only [search, hreached]
    exact search_map root fuel _ _

/-- The labels read no value of an edge. -/
theorem label_map (order : List α) :
    label (fun x => (next x).map fun edge => (edge.1, f edge.2)) order =
      (label next order).map f := by
  have hstep (fuel : Nat) (s : State α ε) (x : α) :
      labelFrom (fun x => (next x).map fun edge => (edge.1, f edge.2)) fuel (s.map f) x =
        (labelFrom next fuel s x).map f := by
    unfold labelFrom
    show (if (s.root x).isSome then _ else _) = _
    by_cases h : (s.root x).isSome = true
    · rw [if_pos h, if_pos h]
    · rw [if_neg h, if_neg h]
      exact search_map f x fuel { s with root := Function.update s.root x (some x) } [x]
  have hall : ∀ (rest : List α) (fuel : Nat) (s : State α ε),
      rest.foldl (labelFrom (fun x => (next x).map fun edge => (edge.1, f edge.2)) fuel)
        (s.map f) = (rest.foldl (labelFrom next fuel) s).map f := by
    intro rest fuel
    induction rest with
    | nil => exact fun _ => rfl
    | cons x rest ih =>
      intro s
      rw [List.foldl_cons, List.foldl_cons, hstep]
      exact ih _
  exact hall order _ .empty

end Values

end Components
