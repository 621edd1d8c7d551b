import FinanceResearch.Lib.Worklist

/-!
# Depth-first recursion

A recursion that marks its node, emits what the node has, and calls itself on the
successors one after the other, all calls sharing one set of marked nodes. What it
emits is what the reachable nodes emit (`mem_visit`), whatever cycles there are,
once `fuel` (the depth of the calls) exceeds the number of nodes that lead on.

Mirroring note: a call that meets a marked node returns nothing, so what it emits
depends on the calls made before it. Only the whole of a first call is described;
`Explored` is what every call does to the marks.
-/

namespace DepthFirst

variable {κ β : Type} [DecidableEq κ] (next : κ → List κ) (emit : κ → List β)

/-- The nodes marked, and what was emitted. -/
def visit : Nat → List κ → κ → List κ × List β
  | 0, seen, _ => (seen, [])
  | fuel + 1, seen, k =>
    if k ∈ seen then (seen, [])
    else
      (next k).foldl
        (fun state j =>
          let found := visit fuel state.1 j
          (found.1, state.2 ++ found.2))
        (k :: seen, emit k)

/-- The calls on some nodes, one after the other. -/
def visitAll (fuel : Nat) (state : List κ × List β) (ks : List κ) : List κ × List β :=
  ks.foldl
    (fun state j =>
      let found := visit next emit fuel state.1 j
      (found.1, state.2 ++ found.2))
    state

theorem visitAll_cons (fuel : Nat) (state : List κ × List β) (k : κ) (ks : List κ) :
    visitAll next emit fuel state (k :: ks) =
      visitAll next emit fuel ((visit next emit fuel state.1 k).1,
        state.2 ++ (visit next emit fuel state.1 k).2) ks := rfl

theorem visit_succ (fuel : Nat) (seen : List κ) (k : κ) :
    visit next emit (fuel + 1) seen k =
      if k ∈ seen then (seen, []) else visitAll next emit fuel (k :: seen, emit k) (next k) := rfl

/-- The marks only grow, whatever the fuel. -/
theorem visit_marks : ∀ (fuel : Nat) (seen : List κ) (k j : κ), j ∈ seen →
    j ∈ (visit next emit fuel seen k).1
  | 0, _, _, _, hj => hj
  | fuel + 1, seen, k, j, hj => by
    rw [visit_succ]
    by_cases hk : k ∈ seen
    · rw [if_pos hk]
      exact hj
    · rw [if_neg hk]
      have hall : ∀ (ks : List κ) (state : List κ × List β), j ∈ state.1 →
          j ∈ (visitAll next emit fuel state ks).1 := by
        intro ks
        induction ks with
        | nil => exact fun _ hj => hj
        | cons y ks ih => exact fun state hj => ih _ (visit_marks fuel state.1 y j hj)
      exact hall (next k) _ (List.mem_cons_of_mem k hj)

/-- What calls on `starts` make of the marks `seen`. -/
structure Explored (seen starts : List κ) (result : List κ × List β) : Prop where
  grown : ∀ j ∈ seen, j ∈ result.1
  started : ∀ k ∈ starts, k ∈ result.1
  closed : ∀ j ∈ result.1, j ∉ seen → ∀ y ∈ next j, y ∈ result.1
  reached : ∀ j ∈ result.1, j ∉ seen → ∃ k ∈ starts, Worklist.Reaches next k j
  emitted : ∀ b, b ∈ result.2 ↔ ∃ j ∈ result.1, j ∉ seen ∧ b ∈ emit j

variable {next emit}

theorem Explored.nil (seen : List κ) : Explored next emit seen [] (seen, []) where
  grown := fun _ hj => hj
  started := fun _ hk => absurd hk List.not_mem_nil
  closed := fun _ hj hnew => absurd hj hnew
  reached := fun _ hj hnew => absurd hj hnew
  emitted := by
    intro b
    constructor
    · intro hb
      exact absurd hb List.not_mem_nil
    · rintro ⟨j, hj, hnew, -⟩
      exact absurd hj hnew

/-- A call on a marked node. -/
theorem Explored.marked {seen : List κ} {k : κ} (hk : k ∈ seen) :
    Explored next emit seen [k] (seen, []) :=
  { Explored.nil seen with
    started := fun _ hj => List.mem_singleton.mp hj ▸ hk
    reached := fun _ hj hnew => absurd hj hnew }

/-- One call, and then the others. -/
theorem Explored.append {seen ks ks' : List κ} {first second : List κ × List β}
    (hfirst : Explored next emit seen ks first) (hsecond : Explored next emit first.1 ks' second) :
    Explored next emit seen (ks ++ ks') (second.1, first.2 ++ second.2) where
  grown := fun j hj => hsecond.grown j (hfirst.grown j hj)
  started := by
    intro k hk
    rcases List.mem_append.mp hk with hk | hk
    · exact hsecond.grown k (hfirst.started k hk)
    · exact hsecond.started k hk
  closed := by
    intro j hj hnew y hy
    by_cases hmem : j ∈ first.1
    · exact hsecond.grown y (hfirst.closed j hmem hnew y hy)
    · exact hsecond.closed j hj hmem y hy
  reached := by
    intro j hj hnew
    by_cases hmem : j ∈ first.1
    · obtain ⟨k, hk, hreach⟩ := hfirst.reached j hmem hnew
      exact ⟨k, List.mem_append_left _ hk, hreach⟩
    · obtain ⟨k, hk, hreach⟩ := hsecond.reached j hj hmem
      exact ⟨k, List.mem_append_right _ hk, hreach⟩
  emitted := by
    intro b
    rw [List.mem_append, hfirst.emitted, hsecond.emitted]
    constructor
    · rintro (⟨j, hj, hnew, hb⟩ | ⟨j, hj, hmem, hb⟩)
      · exact ⟨j, hsecond.grown j hj, hnew, hb⟩
      · exact ⟨j, hj, fun hold => hmem (hfirst.grown j hold), hb⟩
    · rintro ⟨j, hj, hnew, hb⟩
      by_cases hmem : j ∈ first.1
      · exact Or.inl ⟨j, hmem, hnew, hb⟩
      · exact Or.inr ⟨j, hj, hmem, hb⟩

/-- A node, from the calls on its successors. -/
theorem Explored.node {seen : List κ} {k : κ} {result : List κ × List β} (hk : k ∉ seen)
    (h : Explored next emit (k :: seen) (next k) result) :
    Explored next emit seen [k] (result.1, emit k ++ result.2) where
  grown := fun j hj => h.grown j (List.mem_cons_of_mem k hj)
  started := fun j hj => List.mem_singleton.mp hj ▸ h.grown k List.mem_cons_self
  closed := by
    intro j hj hnew y hy
    by_cases hjk : j = k
    · exact h.started y (hjk ▸ hy)
    · exact h.closed j hj (by simp [hjk, hnew]) y hy
  reached := by
    intro j hj hnew
    by_cases hjk : j = k
    · exact ⟨k, List.mem_singleton_self k, hjk ▸ .refl⟩
    · obtain ⟨y, hy, hreach⟩ := h.reached j hj (by simp [hjk, hnew])
      exact ⟨k, List.mem_singleton_self k, .head hy hreach⟩
  emitted := by
    intro b
    rw [List.mem_append, h.emitted]
    constructor
    · rintro (hb | ⟨j, hj, hnew, hb⟩)
      · exact ⟨k, h.grown k List.mem_cons_self, hk, hb⟩
      · exact ⟨j, hj, fun hold => hnew (List.mem_cons_of_mem k hold), hb⟩
    · rintro ⟨j, hj, hnew, hb⟩
      by_cases hjk : j = k
      · exact Or.inl (hjk ▸ hb)
      · exact Or.inr ⟨j, hj, by simp [hjk, hnew], hb⟩

/-- The nodes left to mark. -/
def remaining (nodes seen : List κ) : Nat := (nodes.filter (· ∉ seen)).length

theorem remaining_antitone (nodes : List κ) {seen seen' : List κ} (h : ∀ j ∈ seen, j ∈ seen') :
    remaining nodes seen' ≤ remaining nodes seen := by
  unfold remaining
  rw [← List.countP_eq_length_filter, ← List.countP_eq_length_filter]
  apply List.countP_mono_left
  intro j _ hj
  simp only [decide_eq_true_eq] at hj ⊢
  exact fun hmem => hj (h j hmem)

theorem remaining_cons {nodes seen : List κ} {k : κ} (hnode : k ∈ nodes) (hk : k ∉ seen) :
    remaining nodes (k :: seen) < remaining nodes seen := by
  have hfilter : nodes.filter (· ∉ k :: seen) = (nodes.filter (· ∉ seen)).filter (· ≠ k) := by
    rw [List.filter_filter]
    apply List.filter_congr
    intro j _
    simp only [List.mem_cons, not_or, Bool.decide_and, ne_eq]
  unfold remaining
  rw [hfilter, List.length_filter_lt_length_iff_exists]
  exact ⟨k, List.mem_filter.mpr ⟨hnode, by simpa using hk⟩, by simp⟩

/-- The calls on some nodes, when every single call does its work. -/
theorem visitAll_explored {nodes : List κ} {fuel : Nat}
    (ih : ∀ seen k, remaining nodes seen < fuel → Explored next emit seen [k] (visit next emit fuel seen k)) :
    ∀ (ks : List κ) (state : List κ × List β), remaining nodes state.1 < fuel →
      ∃ found, (visitAll next emit fuel state ks).2 = state.2 ++ found ∧
        Explored next emit state.1 ks ((visitAll next emit fuel state ks).1, found)
  | [], state, _ => ⟨[], (List.append_nil _).symm, Explored.nil _⟩
  | k :: ks, state, hfuel => by
    have hone := ih state.1 k hfuel
    have hleft : remaining nodes (visit next emit fuel state.1 k).1 < fuel :=
      Nat.lt_of_le_of_lt (remaining_antitone nodes hone.grown) hfuel
    obtain ⟨found, hfound, hrest⟩ := visitAll_explored ih ks
      ((visit next emit fuel state.1 k).1, state.2 ++ (visit next emit fuel state.1 k).2) hleft
    refine ⟨(visit next emit fuel state.1 k).2 ++ found, ?_, ?_⟩
    · rw [visitAll_cons, hfound, List.append_assoc]
    · rw [visitAll_cons]
      exact hone.append hrest

/-- **What a call does**, with fuel for the nodes left. -/
theorem visit_explored {nodes : List κ} (hnodes : ∀ k, next k ≠ [] → k ∈ nodes) :
    ∀ (fuel : Nat) (seen : List κ) (k : κ), remaining nodes seen < fuel →
      Explored next emit seen [k] (visit next emit fuel seen k)
  | 0, _, _, hfuel => absurd hfuel (Nat.not_lt_zero _)
  | fuel + 1, seen, k, hfuel => by
    rw [visit_succ]
    by_cases hk : k ∈ seen
    · rw [if_pos hk]
      exact Explored.marked hk
    · rw [if_neg hk]
      cases hnext : next k with
      | nil =>
        have hleaf : Explored next emit (k :: seen) (next k) (k :: seen, []) := hnext ▸ Explored.nil _
        have hnode := hleaf.node hk
        rwa [List.append_nil] at hnode
      | cons first rest =>
        have hnode : k ∈ nodes := hnodes k (by rw [hnext]; exact List.cons_ne_nil _ _)
        have hleft : remaining nodes (k :: seen) < fuel := by
          have hless := remaining_cons hnode hk
          omega
        obtain ⟨found, hfound, hall⟩ := visitAll_explored (visit_explored hnodes fuel) (next k)
          (k :: seen, emit k) hleft
        have heq : visitAll next emit fuel (k :: seen, emit k) (next k) =
            ((visitAll next emit fuel (k :: seen, emit k) (next k)).1, emit k ++ found) :=
          Prod.ext rfl hfound
        rw [← hnext, heq]
        exact Explored.node hk hall

/-- **What a first call emits is what the reachable nodes emit.** -/
theorem mem_visit {nodes : List κ} (hnodes : ∀ k, next k ≠ [] → k ∈ nodes) {fuel : Nat}
    (hfuel : nodes.length < fuel) {k : κ} {b : β} :
    b ∈ (visit next emit fuel [] k).2 ↔ ∃ j, Worklist.Reaches next k j ∧ b ∈ emit j := by
  have hall : Explored next emit [] [k] (visit next emit fuel [] k) :=
    visit_explored hnodes fuel [] k (Nat.lt_of_le_of_lt (List.length_filter_le _ _) hfuel)
  rw [hall.emitted]
  constructor
  · rintro ⟨j, hj, hnew, hb⟩
    obtain ⟨start, hstart, hreach⟩ := hall.reached j hj hnew
    exact ⟨j, List.mem_singleton.mp hstart ▸ hreach, hb⟩
  · rintro ⟨j, hreach, hb⟩
    have hmarked : j ∈ (visit next emit fuel [] k).1 := by
      clear hb
      induction hreach with
      | refl => exact hall.started k (List.mem_singleton_self k)
      | tail _ hstep ih => exact hall.closed _ ih List.not_mem_nil _ hstep
    exact ⟨j, hmarked, List.not_mem_nil, hb⟩

end DepthFirst
