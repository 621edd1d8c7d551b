import FinanceResearch.Sampling.Optimal

/-!
# The listing of the citation sample

A listing of a choice puts one claim of each covered type first, in the order of the types,
and the others behind by priority and tie key (`Listing`). A choice has one listing
(`Listing.unique`), brute force has one choice (`IsBest.unique`), and `_select` returns the
listing of that choice; so the order in which the candidates arrive changes nothing
(`select_optimal`).
-/

namespace FinanceResearch.Sampling

open BestStates

variable {size : Nat}

/-! ## The best state -/

/-- Two candidates of one tie key are one candidate. -/
def DistinctTies (candidates : List Candidate) : Prop := (candidates.map Candidate.tieKey).Nodup

theorem DistinctTies.injective {candidates : List Candidate} (h : DistinctTies candidates)
    {left right : Candidate} (hleft : left ∈ candidates) (hright : right ∈ candidates)
    (hkey : left.tieKey = right.tieKey) : left = right :=
  List.inj_on_of_nodup_map h hleft hright hkey

/-- Sets of candidates with one rank are one set. -/
theorem rank_injective {candidates : List Candidate} (hties : DistinctTies candidates)
    {left right : Finset Candidate} (hleft : left ⊆ candidates.toFinset)
    (hright : right ⊆ candidates.toFinset) (h : rank left = rank right) : left = right := by
  have hsorted : (left.image Candidate.tieKey).sort (· ≤ ·) =
      (right.image Candidate.tieKey).sort (· ≤ ·) :=
    congrArg (fun r => OrderDual.ofDual (ofLex (ofLex (ofLex r).2).2).2) h
  have himage : left.image Candidate.tieKey = right.image Candidate.tieKey := by
    rw [← Finset.sort_toFinset (left.image Candidate.tieKey) (· ≤ ·), hsorted, Finset.sort_toFinset]
  have hsub : ∀ {a b : Finset Candidate}, a ⊆ candidates.toFinset → b ⊆ candidates.toFinset →
      a.image Candidate.tieKey = b.image Candidate.tieKey → a ⊆ b := by
    intro a b ha hb himage candidate hcandidate
    have hkey : candidate.tieKey ∈ b.image Candidate.tieKey :=
      himage ▸ Finset.mem_image_of_mem _ hcandidate
    obtain ⟨same, hsame, hkey⟩ := Finset.mem_image.mp hkey
    rw [← hties.injective (List.mem_toFinset.mp (hb hsame)) (List.mem_toFinset.mp (ha hcandidate)) hkey]
    exact hsame
  exact Finset.Subset.antisymm (hsub hleft hright himage) (hsub hright hleft himage.symm)

/-- **No best completion is dropped**: a choice of the size is covered by a finalist. -/
theorem finalist_covers {candidates choice : List Candidate} (hsub : choice.Sublist candidates)
    (hlength : choice.length = size) :
    ∃ kept, ((search size).keyOf choice, kept) ∈
        ((search size).run candidates).filter (fun state => state.1.count = size) ∧
      selectionRank ((search size).valueOf choice) ≤ selectionRank kept := by
  have hallowed : ∀ (front : List Candidate) (item : Candidate), (front ++ [item]).length ≤ size →
      front.length ≤ size ∧ (search size).isOpen ((search size).keyOf front) = true := by
    intro front item hfront
    rw [List.length_append, List.length_singleton] at hfront
    refine ⟨Nat.le_of_succ_le hfront, ?_⟩
    show decide (((search size).keyOf front).count < size) = true
    rw [(keyOf_spec front).count, decide_eq_true_iff]
    exact hfront
  have hmono : ∀ (left right : List Candidate) (item : Candidate),
      (search size).keyOf left = (search size).keyOf right →
      selectionRank ((search size).valueOf left) ≤ selectionRank ((search size).valueOf right) →
      selectionRank ((search size).valueOf (left ++ [item])) ≤
        selectionRank ((search size).valueOf (right ++ [item])) := by
    intro left right item hkey hle
    refine selectionRank_mono item ?_ hle
    rw [← (@keyOf_spec size left).count, ← (@keyOf_spec size right).count, hkey]
  obtain ⟨kept, hmem, hle⟩ :=
    @run_complete _ _ _ _ _ _ (search size) selectionRank prefer_iff (fun choice => choice.length ≤ size)
      hallowed hmono candidates choice hsub hlength.le
  refine ⟨kept, ?_, hle⟩
  rw [List.mem_filter, decide_eq_true_iff]
  exact ⟨hmem, (keyOf_spec choice).count.trans hlength⟩

/-- The state that the last loop finds is the best choice. -/
theorem bestSelection_isBest {candidates : List Candidate} (hties : DistinctTies candidates)
    (hsize : size ≤ candidates.length) :
    ∃ (state : StateKey × Selection) (choice : List Candidate),
      bestSelection (((search size).run candidates).filter fun state => state.1.count = size) =
        some state ∧
      choice.Sublist candidates ∧ state.2.claimIds = choice.map Candidate.claimId ∧
      IsBest candidates.toFinset size choice.toFinset := by
  have hnodup : candidates.Nodup := List.Nodup.of_map _ hties
  have hrank : ∀ {choice : List Candidate}, choice.Sublist candidates →
      stateRank ((search size).keyOf choice, (search size).valueOf choice) = rank choice.toFinset :=
    fun hsub => stateRank_choice (hnodup.sublist hsub) (List.Nodup.sublist (hsub.map _) hties)
  rcases foldl_firstBest better_iff
    (((search size).run candidates).filter fun state => state.1.count = size) none with hnone | hbest
  · -- The first candidates are a choice, so there is a finalist.
    obtain ⟨kept, hmem, -⟩ := finalist_covers (List.take_sublist size candidates)
      (List.length_take_of_le hsize)
    rw [hnone.1] at hmem
    exact absurd hmem List.not_mem_nil
  · obtain ⟨state, hfold, hmem, hall, -⟩ := hbest
    have hmem := hmem.resolve_right nofun
    rw [List.mem_filter, decide_eq_true_iff] at hmem
    obtain ⟨choice, hsub, hkey, hvalue⟩ :=
      (@run_sound _ _ _ _ _ _ (search size) selectionRank prefer_iff candidates).2 state hmem.1
    have hlength : choice.length = size := by
      rw [← (@keyOf_spec size choice).count, hkey, hmem.2]
    have hstate : stateRank state = rank choice.toFinset := by
      rw [← hrank hsub, hkey, hvalue]
    refine ⟨state, choice, hfold, hsub, ?_, ?_, ?_, ?_⟩
    · rw [← hvalue, valueOf_spec]
    · exact fun candidate hcandidate =>
        List.mem_toFinset.mpr (hsub.subset (List.mem_toFinset.mp hcandidate))
    · rw [List.toFinset_card_of_nodup (hnodup.sublist hsub), hlength]
    · intro other hother hcard hne
      -- The candidates of the other set are a choice too.
      have hset : (candidates.filter (· ∈ other)).toFinset = other := by
        apply Finset.ext
        intro candidate
        rw [List.mem_toFinset, List.mem_filter, decide_eq_true_iff]
        exact and_iff_right_of_imp fun hmem => List.mem_toFinset.mp (hother hmem)
      have hothersub : (candidates.filter (· ∈ other)).Sublist candidates := List.filter_sublist
      have hotherlength : (candidates.filter (· ∈ other)).length = size := by
        rw [← List.toFinset_card_of_nodup (hnodup.filter _), hset, hcard]
      obtain ⟨kept, hkept, hle⟩ := finalist_covers hothersub hotherlength
      have hle : rank other ≤ rank choice.toFinset := by
        calc rank other
            = stateRank ((search size).keyOf (candidates.filter (· ∈ other)),
                (search size).valueOf (candidates.filter (· ∈ other))) := by
              rw [hrank hothersub, hset]
          _ ≤ stateRank ((search size).keyOf (candidates.filter (· ∈ other)), kept) := by
              unfold stateRank
              rw [Prod.Lex.toLex_le_toLex]
              refine Or.inr ⟨rfl, ?_⟩
              rw [Prod.Lex.toLex_le_toLex]
              exact Or.inr ⟨rfl, hle⟩
          _ ≤ stateRank state := hall _ hkept
          _ = rank choice.toFinset := hstate
      refine lt_of_le_of_ne hle fun heq => hne (rank_injective hties hother ?_ heq)
      exact fun candidate hcandidate =>
        List.mem_toFinset.mpr (hsub.subset (List.mem_toFinset.mp hcandidate))

/-! ## The selected claims -/

/-- Two candidates of one claim id are one candidate. -/
def DistinctIds (candidates : List Candidate) : Prop := (candidates.map Candidate.claimId).Nodup

theorem DistinctIds.injective {candidates : List Candidate} (h : DistinctIds candidates)
    {left right : Candidate} (hleft : left ∈ candidates) (hright : right ∈ candidates)
    (hid : left.claimId = right.claimId) : left = right :=
  List.inj_on_of_nodup_map h hleft hright hid

/-- The items under the ids of a choice are the choice. -/
theorem mem_selectedItems {candidates choice : List Candidate} (hids : DistinctIds candidates)
    (hsub : choice.Sublist candidates) (candidate : Candidate) :
    candidate ∈ selectedItems candidates (choice.map Candidate.claimId) ↔ candidate ∈ choice := by
  unfold selectedItems
  rw [List.mem_filterMap]
  constructor
  · intro h
    obtain ⟨id, -, hget⟩ := h
    have hmem := Dicts.mem_of_get? hget
    rw [List.mem_filter, List.contains_iff_mem, List.mem_map] at hmem
    obtain ⟨hcandidate, same, hsame, hid⟩ := hmem
    rw [← hids.injective (hsub.subset hsame) hcandidate hid]
    exact hsame
  · intro h
    have hkept : candidate ∈ candidates.filter fun item =>
        (choice.map Candidate.claimId).contains item.claimId := by
      rw [List.mem_filter, List.contains_iff_mem]
      exact ⟨hsub.subset h, List.mem_map_of_mem h⟩
    have hhas : Dicts.Has Candidate.claimId (candidates.filter fun item =>
        (choice.map Candidate.claimId).contains item.claimId) candidate.claimId := ⟨candidate, hkept, rfl⟩
    refine ⟨candidate.claimId, Dicts.mem_keys.mpr hhas, ?_⟩
    obtain ⟨found, hfound⟩ := Option.isSome_iff_exists.mp (Dicts.isSome_get?.mpr hhas)
    have hsource := List.mem_of_mem_filter (Dicts.mem_of_get? hfound)
    rw [hfound, hids.injective hsource (hsub.subset h) (Dicts.key_of_get? hfound)]

/-- `values()` has no item twice. -/
theorem nodup_selectedItems (candidates : List Candidate) (claimIds : List String) :
    (selectedItems candidates claimIds).Nodup := by
  unfold selectedItems
  have hkeys := fun items : List Candidate =>
    Dicts.nodup_eraseDups _ (items.map Candidate.claimId) le_rfl
  refine List.Nodup.filterMap ?_ (hkeys _)
  intro left right candidate hleft hright
  rw [← Dicts.key_of_get? hleft, ← Dicts.key_of_get? hright]

/-! ## Listings -/

/-- One claim of each covered type, in the order of the types, the one with the least tie key;
the others behind, the priority claims first, then by tie key. -/
structure Listing (chosen : Finset Candidate) (firsts rest : List Candidate) : Prop where
  nodup : (firsts ++ rest).Nodup
  whole : (firsts ++ rest).toFinset = chosen
  types : firsts.map Candidate.claimType =
    claimTypes.filter fun claimType => claimType ∈ chosen.image Candidate.claimType
  least : ∀ first ∈ firsts, ∀ other ∈ chosen, other.claimType = first.claimType →
    first.tieKey ≤ other.tieKey
  sorted : rest.Pairwise restLe

/-- Lists with one image, whose entries of one image are equal, are equal. -/
theorem eq_of_map_eq {α β : Type} {f : α → β} : ∀ {left right : List α}, left.map f = right.map f →
    (∀ a ∈ left, ∀ b ∈ right, f a = f b → a = b) → left = right := by
  intro left
  induction left with
  | nil => exact fun h _ => (List.map_eq_nil_iff.mp h.symm).symm
  | cons a left ih =>
    intro right h hinj
    cases right with
    | nil => cases h
    | cons b right =>
      rw [List.map_cons, List.map_cons, List.cons.injEq] at h
      rw [hinj a List.mem_cons_self b List.mem_cons_self h.1]
      congr 1
      exact ih h.2 fun x hx y hy =>
        hinj x (List.mem_cons_of_mem _ hx) y (List.mem_cons_of_mem _ hy)

theorem restLe_antisymm {left right : Candidate} (h : restLe left right) (h' : restLe right left) :
    left.tieKey = right.tieKey := by
  unfold restLe at h h'
  rcases h with h | h
  · rw [h.1, h.2] at h'
    rcases h' with h' | h'
    · exact absurd h'.1 Bool.false_ne_true
    · exact absurd h'.1 Bool.false_ne_true
  · rcases h' with h' | h'
    · rw [h'.1, h'.2] at h
      exact absurd h.1 Bool.false_ne_true
    · exact le_antisymm h.2 h'.2

/-- **A choice has one listing.** -/
theorem Listing.unique {candidates : List Candidate} (hties : DistinctTies candidates)
    {chosen : Finset Candidate} (hchosen : chosen ⊆ candidates.toFinset)
    {firsts rest firsts' rest' : List Candidate} (h : Listing chosen firsts rest)
    (h' : Listing chosen firsts' rest') : firsts = firsts' ∧ rest = rest' := by
  have hmem : ∀ {items : List Candidate} {candidate : Candidate}, candidate ∈ items →
      items.toFinset ⊆ chosen → candidate ∈ chosen := by
    intro items candidate hcandidate hitems
    exact hitems (List.mem_toFinset.mpr hcandidate)
  have hsubset : ∀ {items others : List Candidate}, (items ++ others).toFinset = chosen →
      items.toFinset ⊆ chosen ∧ others.toFinset ⊆ chosen := by
    intro items others hwhole
    rw [← hwhole, List.toFinset_append]
    exact ⟨Finset.subset_union_left, Finset.subset_union_right⟩
  have hsame : ∀ {left right : Candidate}, left ∈ chosen → right ∈ chosen →
      left.tieKey = right.tieKey → left = right := by
    intro left right hleft hright
    exact hties.injective (List.mem_toFinset.mp (hchosen hleft)) (List.mem_toFinset.mp (hchosen hright))
  have hfirsts : firsts = firsts' := by
    refine eq_of_map_eq (h.types.trans h'.types.symm) ?_
    intro a ha b hb htype
    have ha' := hmem ha (hsubset h.whole).1
    have hb' := hmem hb (hsubset h'.whole).1
    exact hsame ha' hb' (le_antisymm (h.least a ha b hb' htype.symm) (h'.least b hb a ha' htype))
  refine ⟨hfirsts, ?_⟩
  have hperm : (firsts ++ rest).Perm (firsts ++ rest') := by
    apply List.perm_of_nodup_nodup_toFinset_eq h.nodup
    · rw [hfirsts]
      exact h'.nodup
    · rw [h.whole, hfirsts, h'.whole]
  refine List.Perm.eq_of_pairwise ?_ h.sorted h'.sorted ((List.perm_append_left_iff firsts).mp hperm)
  intro a b ha hb hab hba
  exact hsame (hmem ha (hsubset h.whole).2) (hmem hb (hsubset h'.whole).2) (restLe_antisymm hab hba)

/-! ## What is listed -/

theorem firstByType_spec (selected : List Candidate) (claimType : ClaimType) :
    (firstByType selected claimType = none ∧ ∀ item ∈ selected, item.claimType ≠ claimType) ∨
      ∃ first, firstByType selected claimType = some first ∧ first ∈ selected ∧
        first.claimType = claimType ∧
        ∀ item ∈ selected, item.claimType = claimType → first.tieKey ≤ item.tieKey := by
  have hless : ∀ a b : Candidate, decide (a.tieKey < b.tieKey) = true ↔
      OrderDual.toDual b.tieKey < OrderDual.toDual a.tieKey := fun a b => decide_eq_true_iff
  rcases foldl_firstBest hless (selected.filter fun item => item.claimType = claimType) none with
    hnone | hfirst
  · refine Or.inl ⟨hnone.2.2, ?_⟩
    intro item hitem htype
    have hmem : item ∈ selected.filter fun item => item.claimType = claimType := by
      rw [List.mem_filter, decide_eq_true_iff]
      exact ⟨hitem, htype⟩
    rw [hnone.1] at hmem
    exact absurd hmem List.not_mem_nil
  · obtain ⟨first, hfold, hmem, hall, -⟩ := hfirst
    have hmem := hmem.resolve_right nofun
    rw [List.mem_filter, decide_eq_true_iff] at hmem
    refine Or.inr ⟨first, hfold, hmem.1, hmem.2, ?_⟩
    intro item hitem htype
    refine hall item ?_
    rw [List.mem_filter, decide_eq_true_iff]
    exact ⟨hitem, htype⟩

/-- The types of the first claims are the covered types. -/
theorem map_firstByType (selected : List Candidate) (types : List ClaimType) :
    (types.filterMap (firstByType selected)).map Candidate.claimType =
      types.filter fun claimType => claimType ∈ selected.toFinset.image Candidate.claimType := by
  induction types with
  | nil => rfl
  | cons claimType types ih =>
    rcases firstByType_spec selected claimType with hnone | hfirst
    · have hcovered : ¬ claimType ∈ selected.toFinset.image Candidate.claimType := by
        intro h
        obtain ⟨item, hitem, htype⟩ := Finset.mem_image.mp h
        exact hnone.2 item (List.mem_toFinset.mp hitem) htype
      rw [List.filterMap_cons_none hnone.1, List.filter_cons_of_neg, ih]
      rw [decide_eq_true_iff]
      exact hcovered
    · obtain ⟨first, hfirst, hmem, htype, -⟩ := hfirst
      have hcovered : claimType ∈ selected.toFinset.image Candidate.claimType :=
        Finset.mem_image.mpr ⟨first, List.mem_toFinset.mpr hmem, htype⟩
      rw [List.filterMap_cons_some hfirst, List.map_cons, htype, List.filter_cons_of_pos, ih]
      rw [decide_eq_true_iff]
      exact hcovered

theorem restLe_total (left right : Candidate) : restLe left right ∨ restLe right left := by
  unfold restLe
  cases left.priority <;> cases right.priority <;>
    simp [le_total]

theorem restLe_trans {a b c : Candidate} (hab : restLe a b) (hbc : restLe b c) : restLe a c := by
  unfold restLe at hab hbc ⊢
  rcases hab with hab | hab
  · rcases hbc with hbc | hbc
    · exact Or.inl ⟨hab.1, hbc.2⟩
    · exact Or.inl ⟨hab.1, hbc.1.symm.trans hab.2⟩
  · rcases hbc with hbc | hbc
    · exact Or.inl ⟨hab.1.trans hbc.1, hbc.2⟩
    · exact Or.inr ⟨hab.1.trans hbc.1, hab.2.trans hbc.2⟩

instance : Std.Total restLe := ⟨restLe_total⟩

instance : IsTrans Candidate restLe := ⟨fun _ _ _ => restLe_trans⟩

/-- What `_select` lists of its selection is the listing of the selection. -/
theorem listing_selected {candidates selected : List Candidate} (hids : DistinctIds candidates)
    (hsub : ∀ item ∈ selected, item ∈ candidates) (hnodup : selected.Nodup) :
    Listing selected.toFinset (firsts selected) (remaining selected) := by
  have hfirst : ∀ first ∈ firsts selected, first ∈ selected ∧
      ∀ item ∈ selected, item.claimType = first.claimType → first.tieKey ≤ item.tieKey := by
    intro first hfirst
    obtain ⟨claimType, -, hsome⟩ := List.mem_filterMap.mp hfirst
    rcases firstByType_spec selected claimType with hnone | hspec
    · rw [hnone.1] at hsome
      cases hsome
    · obtain ⟨same, hsame, hmem, htype, hleast⟩ := hspec
      rw [hsame] at hsome
      rw [← Option.some.inj hsome, htype]
      exact ⟨hmem, hleast⟩
  have hrest : ∀ item, item ∈ remaining selected ↔ item ∈ selected ∧ item ∉ firsts selected := by
    intro item
    unfold remaining
    rw [List.mem_insertionSort, List.mem_filter]
    refine and_congr_right fun hitem => ?_
    rw [Bool.not_eq_true', ← Bool.not_eq_true, List.contains_iff_mem]
    refine not_congr ⟨?_, List.mem_map_of_mem⟩
    intro h
    obtain ⟨first, hmem, hid⟩ := List.mem_map.mp h
    rw [← hids.injective (hsub first (hfirst first hmem).1) (hsub item hitem) hid]
    exact hmem
  have htypes := map_firstByType selected claimTypes
  refine ⟨?_, ?_, htypes, ?_, ?_⟩
  · rw [List.nodup_append]
    refine ⟨?_, ?_, ?_⟩
    · apply List.Nodup.of_map Candidate.claimType
      rw [show (firsts selected).map Candidate.claimType = _ from htypes]
      exact List.Nodup.filter _ (by decide)
    · exact (List.perm_insertionSort restLe _).nodup_iff.mpr (hnodup.filter _)
    · intro a ha b hb hab
      rw [hab] at ha
      exact ((hrest b).mp hb).2 ha
  · apply Finset.ext
    intro item
    rw [List.mem_toFinset, List.mem_append, hrest, List.mem_toFinset]
    constructor
    · intro h
      rcases h with h | h
      · exact (hfirst item h).1
      · exact h.1
    · intro h
      by_cases hin : item ∈ firsts selected
      · exact Or.inl hin
      · exact Or.inr ⟨h, hin⟩
  · intro first hmem other hother htype
    exact (hfirst first hmem).2 other (List.mem_toFinset.mp hother) htype
  · exact List.pairwise_insertionSort restLe _

/-! ## The sample -/

/-- `_select` returns the listing of the choice of brute force. -/
theorem select_spec {candidates : List Candidate} (maximumClaims : Nat)
    (hids : DistinctIds candidates) (hties : DistinctTies candidates) :
    ∃ (chosen : Finset Candidate) (firsts rest : List Candidate),
      IsBest candidates.toFinset (min maximumClaims (min 5 candidates.length)) chosen ∧
      Listing chosen firsts rest ∧
      select candidates maximumClaims = (firsts ++ rest).map Candidate.claimId := by
  have hsize : sampleSize candidates maximumClaims ≤ candidates.length :=
    (min_le_right _ _).trans (min_le_right _ _)
  obtain ⟨state, choice, hbest, hsub, hclaims, hisbest⟩ := bestSelection_isBest hties hsize
  have hmem := mem_selectedItems hids hsub
  have hset : (selectedItems candidates state.2.claimIds).toFinset = choice.toFinset := by
    apply Finset.ext
    intro candidate
    rw [List.mem_toFinset, List.mem_toFinset, hclaims, hmem]
  refine ⟨choice.toFinset, firsts (selectedItems candidates state.2.claimIds),
    remaining (selectedItems candidates state.2.claimIds), hisbest, ?_, ?_⟩
  · rw [← hset]
    refine listing_selected hids ?_ (nodup_selectedItems _ _)
    intro item hitem
    rw [hclaims, hmem] at hitem
    exact hsub.subset hitem
  · unfold select
    simp only [hbest, List.map_append]

/-- **The citation sample is optimal**, it is listed by type, priority and tie key, and the order
of the candidates changes nothing. -/
theorem select_optimal (candidates : List Candidate) (maximumClaims : Nat)
    (hids : (candidates.map Candidate.claimId).Nodup) (hties : (candidates.map Candidate.tieKey).Nodup) :
    (∃ (chosen : Finset Candidate) (firsts rest : List Candidate),
      IsBest candidates.toFinset (min maximumClaims (min 5 candidates.length)) chosen ∧
      Listing chosen firsts rest ∧
      select candidates maximumClaims = (firsts ++ rest).map Candidate.claimId) ∧
    ∀ other : List Candidate, other.Perm candidates →
      select other maximumClaims = select candidates maximumClaims := by
  refine ⟨select_spec maximumClaims hids hties, ?_⟩
  intro other hperm
  obtain ⟨chosen, firsts, rest, hbest, hlisting, hselect⟩ := select_spec maximumClaims hids hties
  obtain ⟨chosen', firsts', rest', hbest', hlisting', hselect'⟩ := select_spec maximumClaims
    ((hperm.map Candidate.claimId).nodup_iff.mpr hids) ((hperm.map Candidate.tieKey).nodup_iff.mpr hties)
  rw [List.toFinset_eq_of_perm _ _ hperm, hperm.length_eq] at hbest'
  rw [hbest'.unique hbest] at hlisting'
  obtain ⟨hfirsts, hrest⟩ := hlisting'.unique hties hbest.subset hlisting
  rw [hselect, hselect', hfirsts, hrest]

/-- A claim that is cited twice, and two that each cover a type. -/
def sampleCandidates : List Candidate :=
  [⟨"a", .fact, [1], true, "k1", List.nodup_singleton 1⟩,
   ⟨"b", .fact, [2], false, "k0", List.nodup_singleton 2⟩,
   ⟨"c", .inference, [], false, "k2", List.nodup_nil⟩]

theorem select_optimal_sample : select sampleCandidates 2 = ["a", "c"] ∧
    (∃ (chosen : Finset Candidate) (firsts rest : List Candidate),
      IsBest sampleCandidates.toFinset (min 2 (min 5 sampleCandidates.length)) chosen ∧
      Listing chosen firsts rest ∧
      select sampleCandidates 2 = (firsts ++ rest).map Candidate.claimId) ∧
    ∀ other : List Candidate, other.Perm sampleCandidates →
      select other 2 = select sampleCandidates 2 :=
  ⟨by decide, select_optimal sampleCandidates 2 (by decide) (by decide)⟩

end FinanceResearch.Sampling
