import Mathlib.Data.Finset.Sort
import Mathlib.Data.List.Sort
import Mathlib.Data.Finset.Card
import FinanceResearch.Sampling.Selection

/-!
# The citation sample is optimal

What brute force would choose is stated over sets of candidates (`IsBest`): the most claim
types, then two tiers, then the most priority claims, then the least tie keys. A state of the
program is a choice with its key and its value, and adding a candidate keeps the order of two
choices of one size: sorted tie keys are compared at the least key they do not share
(`orderedInsert_lt`). So the selection that is found is the best of all (`select_optimal`).
-/

namespace FinanceResearch.Sampling

open BestStates

/-! ## Sorted keys -/

section

variable {α : Type} [LinearOrder α]

/-- Adding a key to two lists of one length keeps their order. -/
theorem orderedInsert_lt (key : α) : ∀ {left right : List α}, left.length = right.length →
    left < right → left.orderedInsert (· ≤ ·) key < right.orderedInsert (· ≤ ·) key := by
  intro left
  induction left with
  | nil =>
    intro right hlength h
    rw [List.length_nil] at hlength
    rw [List.eq_nil_of_length_eq_zero hlength.symm] at h
    exact absurd h (lt_irrefl _)
  | cons a left ih =>
    intro right hlength h
    cases right with
    | nil => cases hlength
    | cons b right =>
      rw [List.length_cons, List.length_cons, Nat.succ_inj] at hlength
      rw [List.orderedInsert_cons, List.orderedInsert_cons]
      rcases List.cons_lt_cons_iff.mp h with hab | hab
      · by_cases ha : key ≤ a
        · rw [if_pos ha, if_pos (ha.trans hab.le), List.cons_lt_cons_iff]
          exact Or.inr ⟨rfl, h⟩
        · rw [if_neg ha]
          by_cases hb : key ≤ b
          · rw [if_pos hb, List.cons_lt_cons_iff]
            exact Or.inl (not_le.mp ha)
          · rw [if_neg hb, List.cons_lt_cons_iff]
            exact Or.inl hab
      · obtain ⟨rfl, hrest⟩ := hab
        by_cases ha : key ≤ a
        · rw [if_pos ha, if_pos ha, List.cons_lt_cons_iff]
          exact Or.inr ⟨rfl, h⟩
        · rw [if_neg ha, if_neg ha, List.cons_lt_cons_iff]
          exact Or.inr ⟨rfl, ih hlength hrest⟩

/-- Sorting does not depend on the order it starts from. -/
theorem insertionSort_eq_of_perm {left right : List α} (h : left.Perm right) :
    left.insertionSort (· ≤ ·) = right.insertionSort (· ≤ ·) :=
  (((List.perm_insertionSort _ left).trans h).trans (List.perm_insertionSort _ right).symm).eq_of_pairwise
    (fun _ _ _ _ => le_antisymm) (List.pairwise_insertionSort _ _) (List.pairwise_insertionSort _ _)

/-- One key more is sorted in. -/
theorem insertionSort_append (keys : List α) (key : α) :
    (keys ++ [key]).insertionSort (· ≤ ·) =
      (keys.insertionSort (· ≤ ·)).orderedInsert (· ≤ ·) key :=
  insertionSort_eq_of_perm (List.perm_append_singleton key keys)

end

/-! ## The value of a choice -/

/-- The order that `_prefer` compares. -/
def selectionRank (selection : Selection) : ℕ ×ₗ (List String)ᵒᵈ :=
  toLex (selection.priorityCount, OrderDual.toDual selection.tieKeys)

theorem prefer_iff (candidate current : Selection) :
    prefer candidate current = true ↔ selectionRank current < selectionRank candidate := by
  unfold prefer selectionRank
  rw [Prod.Lex.toLex_lt_toLex]
  by_cases h : candidate.priorityCount = current.priorityCount
  · rw [if_neg (not_not.mpr h), decide_eq_true_iff, h]
    constructor
    · exact fun hlt => Or.inr ⟨rfl, hlt⟩
    · intro hlt
      rcases hlt with hlt | hlt
      · exact absurd hlt (lt_irrefl _)
      · exact hlt.2
  · rw [if_pos h, decide_eq_true_iff]
    constructor
    · exact Or.inl
    · intro hlt
      rcases hlt with hlt | hlt
      · exact hlt
      · exact absurd hlt.1.symm h

variable {size : Nat}

/-- What the value of a choice says. -/
theorem valueOf_spec (choice : List Candidate) :
    (search size).valueOf choice = ⟨choice.countP Candidate.priority,
      (choice.map Candidate.tieKey).insertionSort (· ≤ ·), choice.map Candidate.claimId⟩ := by
  induction choice using List.reverseRecOn with
  | nil => rfl
  | append_singleton choice candidate ih =>
    rw [Search.valueOf_append, ih]
    show (⟨_, _, _⟩ : Selection) = ⟨_, _, _⟩
    rw [Selection.mk.injEq]
    refine ⟨?_, ?_, ?_⟩
    · rw [List.countP_append, List.countP_singleton]
      cases candidate.priority <;> rfl
    · rw [List.map_append, List.map_singleton]
      exact insertionSort_eq_of_perm ((List.perm_insertionSort _ _).append_right _)
    · rw [List.map_append, List.map_singleton]

/-- Adding a candidate keeps the order of two choices with one key. -/
theorem selectionRank_mono {left right : List Candidate} (candidate : Candidate)
    (hlength : left.length = right.length)
    (h : selectionRank ((search size).valueOf left) ≤ selectionRank ((search size).valueOf right)) :
    selectionRank ((search size).valueOf (left ++ [candidate])) ≤
      selectionRank ((search size).valueOf (right ++ [candidate])) := by
  rw [valueOf_spec, valueOf_spec] at h ⊢
  unfold selectionRank at h ⊢
  rw [Prod.Lex.toLex_le_toLex] at h ⊢
  simp only [List.countP_append, List.map_append, List.map_singleton, insertionSort_append]
  rcases h with h | h
  · exact Or.inl (Nat.add_lt_add_right h _)
  · refine Or.inr ⟨congrArg (· + _) h.1, ?_⟩
    have hkeys : (right.map Candidate.tieKey).insertionSort (· ≤ ·) ≤
        (left.map Candidate.tieKey).insertionSort (· ≤ ·) := h.2
    rw [OrderDual.toDual_le_toDual]
    rcases hkeys.eq_or_lt with hkeys | hkeys
    · rw [hkeys]
    · refine (orderedInsert_lt candidate.tieKey ?_ hkeys).le
      rw [List.length_insertionSort, List.length_insertionSort, List.length_map, List.length_map,
        hlength]

/-! ## The key of a choice -/

/-- What the anchor and the flag say of the tiers so far. -/
structure TiersAre (anchor : Option Int) (hasMultiple : Bool) (tiers : List Int) : Prop where
  several : hasMultiple = true → anchor = none ∧ ∃ a ∈ tiers, ∃ b ∈ tiers, a ≠ b
  one : hasMultiple = false → (∀ tier ∈ tiers, anchor = some tier) ∧ ∀ tier ∈ anchor, tier ∈ tiers

/-- `_extend_tiers` keeps that. -/
theorem extendTiers_are {anchor : Option Int} {hasMultiple : Bool} {tiers new : List Int}
    (h : TiersAre anchor hasMultiple tiers) (hnew : new.Nodup) :
    TiersAre (extendTiers anchor hasMultiple new).1 (extendTiers anchor hasMultiple new).2
      (tiers ++ new) := by
  unfold extendTiers
  by_cases hmultiple : hasMultiple = true
  · rw [if_pos hmultiple]
    obtain ⟨a, ha, b, hb, hab⟩ := (h.several hmultiple).2
    refine ⟨fun _ => ⟨rfl, a, List.mem_append_left _ ha, b, List.mem_append_left _ hb, hab⟩, ?_⟩
    exact fun hfalse => absurd hfalse (Ne.symm Bool.false_ne_true)
  rw [if_neg hmultiple]
  obtain ⟨hall, hmem⟩ := h.one (Bool.not_eq_true _ ▸ hmultiple)
  cases anchor with
  | none =>
    have hempty : tiers = [] := List.eq_nil_iff_forall_not_mem.mpr fun tier ht => by
      have hnone := hall tier ht
      cases hnone
    rw [hempty, List.nil_append]
    show TiersAre (if 2 ≤ new.length then (none, true) else (new.head?, false) : Option Int × Bool).1
      (if 2 ≤ new.length then (none, true) else (new.head?, false) : Option Int × Bool).2 new
    match new, hnew with
    | [], _ => exact ⟨fun hfalse => absurd hfalse Bool.false_ne_true, fun _ => ⟨nofun, nofun⟩⟩
    | [tier], _ =>
      refine ⟨fun hfalse => absurd hfalse Bool.false_ne_true, fun _ => ⟨?_, ?_⟩⟩
      · intro other hother
        rw [List.mem_singleton.mp hother]
        rfl
      · intro other hother
        rw [← Option.some.inj hother]
        exact List.mem_singleton_self tier
    | a :: b :: rest, hnew =>
      have htwo : 2 ≤ (a :: b :: rest).length := Nat.le_add_left 2 rest.length
      rw [if_pos htwo]
      have hab : a ≠ b := fun hab =>
        (List.nodup_cons.mp hnew).1 (hab ▸ List.mem_cons_self)
      refine ⟨fun _ => ⟨rfl, a, List.mem_cons_self, b, ?_, hab⟩, ?_⟩
      · exact List.mem_cons_of_mem _ List.mem_cons_self
      · exact fun hfalse => absurd hfalse (Ne.symm Bool.false_ne_true)
  | some anchor =>
    have hanchor : anchor ∈ tiers := hmem anchor rfl
    show TiersAre
      (if new.any fun tier => tier != anchor then (none, true) else (some anchor, false) :
        Option Int × Bool).1
      (if new.any fun tier => tier != anchor then (none, true) else (some anchor, false) :
        Option Int × Bool).2 (tiers ++ new)
    by_cases hany : new.any (fun tier => tier != anchor) = true
    · rw [if_pos hany]
      obtain ⟨tier, htier, hne⟩ := List.any_eq_true.mp hany
      refine ⟨fun _ => ⟨rfl, tier, List.mem_append_right _ htier, anchor,
        List.mem_append_left _ hanchor, bne_iff_ne.mp hne⟩, ?_⟩
      exact fun hfalse => absurd hfalse (Ne.symm Bool.false_ne_true)
    · rw [if_neg hany]
      refine ⟨fun hfalse => absurd hfalse Bool.false_ne_true, fun _ => ⟨?_, ?_⟩⟩
      · intro tier htier
        rcases List.mem_append.mp htier with htier | htier
        · exact hall tier htier
        · by_contra hne
          apply hany
          rw [List.any_eq_true]
          exact ⟨tier, htier, bne_iff_ne.mpr fun heq => hne (congrArg some heq.symm)⟩
      · intro tier htier
        rw [← Option.some.inj htier]
        exact List.mem_append_left _ hanchor

theorem typeIndex_injective : ∀ {left right : ClaimType}, typeIndex left = typeIndex right →
    left = right := by
  intro left right h
  cases left <;> cases right <;> first | rfl | exact absurd h (by decide)

/-- What the key of a choice says. -/
structure KeySpec (choice : List Candidate) (key : StateKey) : Prop where
  count : key.count = choice.length
  types : ∀ claimType, key.typeMask.testBit (typeIndex claimType) =
    decide (claimType ∈ choice.map Candidate.claimType)
  tiers : TiersAre key.tierAnchor key.hasMultiple (choice.flatMap Candidate.authorityTiers)

theorem keyOf_spec (choice : List Candidate) : KeySpec choice ((search size).keyOf choice) := by
  induction choice using List.reverseRecOn with
  | nil =>
    refine ⟨rfl, ?_, ?_⟩
    · exact fun claimType => Nat.zero_testBit _
    · exact ⟨fun hfalse => absurd hfalse Bool.false_ne_true, fun _ => ⟨nofun, nofun⟩⟩
  | append_singleton choice candidate ih =>
    rw [Search.keyOf_append]
    refine ⟨?_, ?_, ?_⟩
    · show _ + 1 = _
      rw [ih.count, List.length_append, List.length_singleton]
    · intro claimType
      show (_ ||| 1 <<< typeIndex candidate.claimType).testBit (typeIndex claimType) = _
      rw [Nat.testBit_or, ih.types, Nat.one_shiftLeft, Nat.testBit_two_pow, List.map_append,
        List.map_singleton, Bool.eq_iff_iff]
      simp only [Bool.or_eq_true, decide_eq_true_eq, List.mem_append, List.mem_singleton]
      constructor
      · intro h
        rcases h with h | h
        · exact Or.inl h
        · exact Or.inr (typeIndex_injective h).symm
      · intro h
        rcases h with h | h
        · exact Or.inl h
        · exact Or.inr (congrArg typeIndex h.symm)
    · rw [List.flatMap_append, List.flatMap_singleton]
      exact extendTiers_are ih.tiers candidate.distinct

/-! ## Brute force -/

/-- The number of claim types that are covered. -/
def typesCovered (chosen : Finset Candidate) : ℕ := (chosen.image Candidate.claimType).card

/-- At least two authority tiers occur. -/
def SpreadsTiers (chosen : Finset Candidate) : Prop :=
  ∃ left ∈ chosen, ∃ right ∈ chosen, ∃ a ∈ left.authorityTiers, ∃ b ∈ right.authorityTiers, a ≠ b

instance (chosen : Finset Candidate) : Decidable (SpreadsTiers chosen) :=
  inferInstanceAs (Decidable (∃ _ ∈ _, ∃ _ ∈ _, ∃ _ ∈ _, ∃ _ ∈ _, _))

/-- What brute force maximises: types, two tiers, priority claims; then the least tie keys. -/
def rank (chosen : Finset Candidate) : ℕ ×ₗ ℕ ×ₗ ℕ ×ₗ (List String)ᵒᵈ :=
  toLex (typesCovered chosen, toLex ((decide (SpreadsTiers chosen)).toNat,
    toLex ((chosen.filter fun candidate => candidate.priority = true).card,
      OrderDual.toDual ((chosen.image Candidate.tieKey).sort (· ≤ ·)))))

/-- The choice of brute force among the sets of one size. -/
structure IsBest (candidates : Finset Candidate) (size : ℕ) (chosen : Finset Candidate) : Prop where
  subset : chosen ⊆ candidates
  card : chosen.card = size
  best : ∀ other ⊆ candidates, other.card = size → other ≠ chosen → rank other < rank chosen

theorem IsBest.unique {candidates left right : Finset Candidate} (hleft : IsBest candidates size left)
    (hright : IsBest candidates size right) : left = right := by
  by_contra hne
  have hlt := hright.best left hleft.subset hleft.card hne
  exact absurd (hleft.best right hright.subset hright.card (Ne.symm hne)) (lt_asymm hlt)

/-! ## States and sets -/

/-- The order in which finalists are compared. -/
def stateRank (state : StateKey × Selection) : ℕ ×ₗ ℕ ×ₗ ℕ ×ₗ (List String)ᵒᵈ :=
  toLex (bitCount state.1.typeMask, toLex (state.1.hasMultiple.toNat, selectionRank state.2))

theorem better_iff (left right : StateKey × Selection) :
    better left right = true ↔ stateRank right < stateRank left := by
  unfold better stateRank selectionRank
  simp only [Bool.or_eq_true, Bool.and_eq_true, decide_eq_true_eq, beq_iff_eq, Prod.mk.injEq,
    Prod.Lex.toLex_lt_toLex, OrderDual.toDual_lt_toDual]
  constructor
  · intro h
    rcases h with h | h
    · rcases h with h | ⟨htypes, h⟩
      · exact Or.inl h
      · rcases h with h | ⟨htiers, h⟩
        · exact Or.inr ⟨htypes, Or.inl h⟩
        · exact Or.inr ⟨htypes, Or.inr ⟨htiers, Or.inl h⟩⟩
    · obtain ⟨⟨htypes, htiers, hpriority⟩, hkeys⟩ := h
      exact Or.inr ⟨htypes.symm, Or.inr ⟨htiers.symm, Or.inr ⟨hpriority.symm, hkeys⟩⟩⟩
  · intro h
    rcases h with h | ⟨htypes, h⟩
    · exact Or.inl (Or.inl h)
    · rcases h with h | ⟨htiers, h⟩
      · exact Or.inl (Or.inr ⟨htypes, Or.inl h⟩)
      · rcases h with h | ⟨hpriority, h⟩
        · exact Or.inl (Or.inr ⟨htypes, Or.inr ⟨htiers, h⟩⟩)
        · exact Or.inr ⟨⟨htypes.symm, htiers.symm, hpriority.symm⟩, h⟩

/-- The state of a choice has the rank of its set. -/
theorem stateRank_choice {choice : List Candidate} (hnodup : choice.Nodup)
    (hkeys : (choice.map Candidate.tieKey).Nodup) :
    stateRank ((search size).keyOf choice, (search size).valueOf choice) = rank choice.toFinset := by
  have hspec := @keyOf_spec size choice
  have htypes : bitCount ((search size).keyOf choice).typeMask = typesCovered choice.toFinset := by
    unfold bitCount typesCovered
    rw [List.countP_eq_length_filter, ← List.toFinset_card_of_nodup]
    · congr 1
      apply Finset.ext
      intro claimType
      rw [List.mem_toFinset, List.mem_filter, hspec.types, decide_eq_true_eq, Finset.mem_image]
      have hall : claimType ∈ claimTypes := by cases claimType <;> decide
      simp only [List.mem_map, List.mem_toFinset]
      exact and_iff_right hall
    · exact List.Nodup.filter _ (by decide)
  have htiers : ((search size).keyOf choice).hasMultiple = decide (SpreadsTiers choice.toFinset) := by
    rw [Bool.eq_iff_iff, decide_eq_true_iff]
    constructor
    · intro h
      obtain ⟨a, ha, b, hb, hab⟩ := (hspec.tiers.several h).2
      obtain ⟨left, hleft, ha⟩ := List.mem_flatMap.mp ha
      obtain ⟨right, hright, hb⟩ := List.mem_flatMap.mp hb
      exact ⟨left, List.mem_toFinset.mpr hleft, right, List.mem_toFinset.mpr hright, a, ha, b, hb, hab⟩
    · intro h
      obtain ⟨left, hleft, right, hright, a, ha, b, hb, hab⟩ := h
      by_contra hone
      rw [Bool.not_eq_true] at hone
      have hall := (hspec.tiers.one hone).1
      have hanchor := hall a (List.mem_flatMap.mpr ⟨left, List.mem_toFinset.mp hleft, ha⟩)
      rw [hall b (List.mem_flatMap.mpr ⟨right, List.mem_toFinset.mp hright, hb⟩)] at hanchor
      exact hab (Option.some.inj hanchor).symm
  have hpriority : choice.countP Candidate.priority =
      (choice.toFinset.filter fun candidate => candidate.priority = true).card := by
    rw [List.countP_eq_length_filter, ← List.toFinset_card_of_nodup (hnodup.filter _),
      List.toFinset_filter]
  have hsorted : (choice.map Candidate.tieKey).insertionSort (· ≤ ·) =
      (choice.toFinset.image Candidate.tieKey).sort (· ≤ ·) := by
    have hperm := List.perm_insertionSort (· ≤ ·) (choice.map Candidate.tieKey)
    have hset : choice.toFinset.image Candidate.tieKey =
        ((choice.map Candidate.tieKey).insertionSort (· ≤ ·)).toFinset := by
      apply Finset.ext
      intro key
      simp only [Finset.mem_image, List.mem_toFinset, hperm.mem_iff, List.mem_map]
    rw [hset]
    exact ((List.toFinset_sort (· ≤ ·) (hperm.nodup_iff.mpr hkeys)).mpr
      (List.pairwise_insertionSort _ _)).symm
  unfold stateRank rank selectionRank
  rw [valueOf_spec, htypes, htiers, hpriority, hsorted]

end FinanceResearch.Sampling
