import Mathlib.Data.List.Induction
import Mathlib.Data.List.Nodup
import Mathlib.Order.Lattice

/-!
# Choosing with one representative per key

A dynamic program over the sublists of some items. A state is a key and a value, and of all
choices with one key only the best value is kept. When adding an item keeps the order of the
values of two choices with one key, no best completion is lost: after all items every allowed
choice is matched by a state of its key that is no worse (`run_complete`), and every state is
a choice (`run_sound`).
-/

namespace BestStates

/-- The first best of some items, compared one after the other. -/
def firstBest {α : Type} (prefer : α → α → Bool) : Option α → α → Option α
  | none, item => some item
  | some best, item => if prefer item best then some item else some best

/-- A comparison that is a strict order of ranks finds the greatest rank. -/
theorem foldl_firstBest {α R : Type} [LinearOrder R] {prefer : α → α → Bool} {rank : α → R}
    (h : ∀ a b, prefer a b = true ↔ rank b < rank a) : ∀ (items : List α) (start : Option α),
      (items = [] ∧ start = none ∧ items.foldl (firstBest prefer) start = none) ∨
        ∃ best, items.foldl (firstBest prefer) start = some best ∧
          (best ∈ items ∨ start = some best) ∧ (∀ item ∈ items, rank item ≤ rank best) ∧
          ∀ item ∈ start, rank item ≤ rank best := by
  intro items
  induction items with
  | nil =>
    intro start
    cases start with
    | none => exact Or.inl ⟨rfl, rfl, rfl⟩
    | some best =>
      refine Or.inr ⟨best, rfl, Or.inr rfl, fun _ hitem => absurd hitem List.not_mem_nil, ?_⟩
      intro item hitem
      rw [Option.some.inj hitem]
  | cons item items ih =>
    intro start
    rw [List.foldl_cons]
    have hnext : ∃ next, firstBest prefer start item = some next ∧ (next = item ∨ start = some next) ∧
        rank item ≤ rank next ∧ ∀ best ∈ start, rank best ≤ rank next := by
      cases start with
      | none => exact ⟨item, rfl, Or.inl rfl, le_rfl, fun _ hb => absurd hb (Option.not_mem_none _)⟩
      | some best =>
        show ∃ next, (if prefer item best then some item else some best) = _ ∧ _
        by_cases hprefer : prefer item best = true
        · rw [if_pos hprefer]
          refine ⟨item, rfl, Or.inl rfl, le_rfl, ?_⟩
          intro other hother
          rw [← Option.some.inj hother]
          exact ((h item best).mp hprefer).le
        · rw [if_neg hprefer]
          refine ⟨best, rfl, Or.inr rfl, not_lt.mp (mt (h item best).mpr hprefer), ?_⟩
          intro other hother
          rw [← Option.some.inj hother]
    obtain ⟨next, hnext, hsource, hitem, hstart⟩ := hnext
    rw [hnext]
    right
    rcases ih (some next) with hnone | hbest
    · cases hnone.2.1
    · obtain ⟨best, hfold, hmem, hall, hseed⟩ := hbest
      have hnextle : rank next ≤ rank best := hseed next rfl
      refine ⟨best, hfold, ?_, ?_, ?_⟩
      · rcases hmem with hmem | hmem
        · exact Or.inl (List.mem_cons_of_mem _ hmem)
        · cases hmem
          rcases hsource with hsource | hsource
          · rw [hsource]
            exact Or.inl List.mem_cons_self
          · exact Or.inr hsource
      · rw [List.forall_mem_cons]
        exact ⟨hitem.trans hnextle, hall⟩
      · exact fun other hother => (hstart other hother).trans hnextle

/-! ## The search -/

/-- What a choice starts from, what an item adds to its key and its value, when one may be
added, and which of two values is kept. -/
structure Search (Item Key Value : Type) where
  key : Key
  value : Value
  extend : Key → Item → Key
  grow : Value → Item → Value
  isOpen : Key → Bool
  prefer : Value → Value → Bool

variable {Item Key Value R : Type}

namespace Search

/-- `if prefer(value, states.get(key)): states[key] = value`. -/
def offer [DecidableEq Key] (search : Search Item Key Value) (states : List (Key × Value)) (key : Key) (value : Value) :
    List (Key × Value) :=
  match states.lookup key with
  | none => states ++ [(key, value)]
  | some current =>
    if search.prefer value current then
      states.map fun state => if state.1 = key then (key, value) else state
    else states

/-- The body of the loop over the items. -/
def step [DecidableEq Key] (search : Search Item Key Value) (states : List (Key × Value)) (item : Item) :
    List (Key × Value) :=
  states.foldl (fun next state =>
    if search.isOpen state.1 then
      search.offer next (search.extend state.1 item) (search.grow state.2 item)
    else next) states

/-- The loop over the items. -/
def run [DecidableEq Key] (search : Search Item Key Value) (items : List Item) : List (Key × Value) :=
  items.foldl search.step [(search.key, search.value)]

/-- The key of a choice. -/
def keyOf (search : Search Item Key Value) (choice : List Item) : Key :=
  choice.foldl search.extend search.key

/-- The value of a choice. -/
def valueOf (search : Search Item Key Value) (choice : List Item) : Value :=
  choice.foldl search.grow search.value

theorem keyOf_append (search : Search Item Key Value) (choice : List Item) (item : Item) :
    search.keyOf (choice ++ [item]) = search.extend (search.keyOf choice) item :=
  List.foldl_append

theorem valueOf_append (search : Search Item Key Value) (choice : List Item) (item : Item) :
    search.valueOf (choice ++ [item]) = search.grow (search.valueOf choice) item :=
  List.foldl_append

end Search

/-! ## Offers -/

variable [DecidableEq Key] [LinearOrder R]

/-- Some state of the key is no worse. -/
def Covers (rank : Value → R) (states : List (Key × Value)) (key : Key) (value : Value) : Prop :=
  ∃ kept, (key, kept) ∈ states ∧ rank value ≤ rank kept

variable {search : Search Item Key Value} {rank : Value → R}

theorem mem_of_lookup {states : List (Key × Value)} {key : Key} {value : Value}
    (h : states.lookup key = some value) : (key, value) ∈ states := by
  induction states with
  | nil => cases h
  | cons state states ih =>
    rw [List.lookup_cons] at h
    by_cases hkey : key = state.1
    · rw [hkey, beq_self_eq_true] at h
      rw [hkey, ← Option.some.inj h]
      exact List.mem_cons_self
    · rw [beq_eq_false_iff_ne.mpr hkey] at h
      exact List.mem_cons_of_mem _ (ih h)

theorem lookup_of_mem {states : List (Key × Value)} (hnodup : (states.map Prod.fst).Nodup) {key : Key}
    {value : Value} (h : (key, value) ∈ states) : states.lookup key = some value := by
  induction states with
  | nil => cases h
  | cons state states ih =>
    rw [List.map_cons, List.nodup_cons] at hnodup
    rw [List.lookup_cons]
    rcases List.mem_cons.mp h with h | h
    · rw [← h, beq_self_eq_true]
    · have hkey : key ≠ state.1 := by
        intro hkey
        exact hnodup.1 (List.mem_map.mpr ⟨(key, value), h, hkey⟩)
      rw [beq_eq_false_iff_ne.mpr hkey]
      exact ih hnodup.2 h

theorem not_mem_of_lookup {states : List (Key × Value)} {key : Key} (h : states.lookup key = none) :
    key ∉ states.map Prod.fst := by
  induction states with
  | nil => exact List.not_mem_nil
  | cons state states ih =>
    rw [List.lookup_cons] at h
    by_cases hkey : key = state.1
    · rw [hkey, beq_self_eq_true] at h
      cases h
    · rw [beq_eq_false_iff_ne.mpr hkey] at h
      rw [List.map_cons, List.mem_cons, not_or]
      exact ⟨hkey, ih h⟩

/-- An offer keeps the keys distinct. -/
theorem offer_nodup {states : List (Key × Value)} (h : (states.map Prod.fst).Nodup) (key : Key)
    (value : Value) : ((search.offer states key value).map Prod.fst).Nodup := by
  unfold Search.offer
  cases hlookup : states.lookup key with
  | none =>
    show ((states ++ [(key, value)]).map Prod.fst).Nodup
    rw [List.map_append, List.nodup_append]
    refine ⟨h, List.nodup_singleton _, ?_⟩
    intro a ha b hb hab
    rw [hab, List.mem_singleton.mp hb] at ha
    exact not_mem_of_lookup hlookup ha
  | some current =>
    show ((if search.prefer value current then _ else states).map Prod.fst).Nodup
    by_cases hprefer : search.prefer value current = true
    · rw [if_pos hprefer, List.map_map]
      have hkeys : states.map (Prod.fst ∘ fun state => if state.1 = key then (key, value) else state) =
          states.map Prod.fst := by
        apply List.map_congr_left
        intro state _
        show (if state.1 = key then (key, value) else state).1 = state.1
        by_cases hkey : state.1 = key
        · rw [if_pos hkey, hkey]
        · rw [if_neg hkey]
      rw [hkeys]
      exact h
    · rw [if_neg hprefer]
      exact h

/-- What an offer leaves is a state or what was offered. -/
theorem mem_offer {states : List (Key × Value)} {key : Key} {value : Value} {state : Key × Value}
    (h : state ∈ search.offer states key value) : state ∈ states ∨ state = (key, value) := by
  unfold Search.offer at h
  cases hlookup : states.lookup key with
  | none =>
    rw [hlookup] at h
    rcases List.mem_append.mp h with h | h
    · exact Or.inl h
    · exact Or.inr (List.mem_singleton.mp h)
  | some current =>
    rw [hlookup] at h
    have h : state ∈ (if search.prefer value current then
      states.map fun state => if state.1 = key then (key, value) else state else states) := h
    by_cases hprefer : search.prefer value current = true
    · rw [if_pos hprefer] at h
      obtain ⟨old, hold, hstate⟩ := List.mem_map.mp h
      by_cases hkey : old.1 = key
      · rw [if_pos hkey] at hstate
        exact Or.inr hstate.symm
      · rw [if_neg hkey] at hstate
        exact Or.inl (hstate ▸ hold)
    · rw [if_neg hprefer] at h
      exact Or.inl h

/-- An offer loses nothing: what was covered is, and so is what was offered. -/
theorem covers_offer (hprefer : ∀ v w, search.prefer v w = true ↔ rank w < rank v)
    {states : List (Key × Value)} (hnodup : (states.map Prod.fst).Nodup) (key : Key) (value : Value) :
    Covers rank (search.offer states key value) key value ∧
      ∀ k v, Covers rank states k v → Covers rank (search.offer states key value) k v := by
  unfold Search.offer
  cases hlookup : states.lookup key with
  | none =>
    refine ⟨⟨value, List.mem_append_right _ (List.mem_singleton_self _), le_rfl⟩, ?_⟩
    intro k v hcovers
    obtain ⟨kept, hmem, hle⟩ := hcovers
    exact ⟨kept, List.mem_append_left _ hmem, hle⟩
  | some current =>
    show Covers rank (if search.prefer value current then _ else states) key value ∧
      ∀ k v, _ → Covers rank (if search.prefer value current then _ else states) k v
    have hcurrent := mem_of_lookup hlookup
    by_cases hbetter : search.prefer value current = true
    · rw [if_pos hbetter]
      have hnew : (key, value) ∈
          states.map fun state => if state.1 = key then (key, value) else state :=
        List.mem_map.mpr ⟨(key, current), hcurrent, if_pos rfl⟩
      refine ⟨⟨value, hnew, le_rfl⟩, ?_⟩
      intro k v hcovers
      obtain ⟨kept, hmem, hle⟩ := hcovers
      by_cases hkey : k = key
      · rw [hkey] at hmem ⊢
        have hsame : some kept = some current := (lookup_of_mem hnodup hmem).symm.trans hlookup
        rw [Option.some.inj hsame] at hle
        exact ⟨value, hnew, hle.trans ((hprefer value current).mp hbetter).le⟩
      · exact ⟨kept, List.mem_map.mpr ⟨(k, kept), hmem, if_neg hkey⟩, hle⟩
    · rw [if_neg hbetter]
      exact ⟨⟨current, hcurrent, not_lt.mp (mt (hprefer value current).mpr hbetter)⟩, fun _ _ h => h⟩

/-! ## Steps and runs -/

/-- What one item does: the states stay covered, every open one is covered with the item added, and
nothing else arises. -/
structure Advances (search : Search Item Key Value) (rank : Value → R) (item : Item)
    (states pending next : List (Key × Value)) : Prop where
  nodup : (next.map Prod.fst).Nodup
  sound : ∀ state ∈ next, state ∈ states ∨ ∃ old ∈ states,
    state = (search.extend old.1 item, search.grow old.2 item)
  kept : ∀ k v, Covers rank states k v → Covers rank next k v
  extended : ∀ old ∈ states, old ∉ pending → search.isOpen old.1 = true →
    Covers rank next (search.extend old.1 item) (search.grow old.2 item)

theorem step_advances (hprefer : ∀ v w, search.prefer v w = true ↔ rank w < rank v) (item : Item)
    {states : List (Key × Value)} (hnodup : (states.map Prod.fst).Nodup) :
    Advances search rank item states [] (search.step states item) := by
  have hloop : ∀ pending next : List (Key × Value), (∀ state ∈ pending, state ∈ states) →
      Advances search rank item states pending next →
      Advances search rank item states [] (pending.foldl (fun next state =>
        if search.isOpen state.1 then
          search.offer next (search.extend state.1 item) (search.grow state.2 item)
        else next) next) := by
    intro pending
    induction pending with
    | nil => exact fun next _ h => h
    | cons state pending ih =>
      intro next hpending h
      rw [List.forall_mem_cons] at hpending
      rw [List.foldl_cons]
      apply ih _ hpending.2
      by_cases hopen : search.isOpen state.1 = true
      · rw [if_pos hopen]
        obtain ⟨hoffered, hcovered⟩ := covers_offer hprefer h.nodup
          (search.extend state.1 item) (search.grow state.2 item)
        refine ⟨offer_nodup h.nodup _ _, ?_, fun k v hv => hcovered k v (h.kept k v hv), ?_⟩
        · intro result hresult
          rcases mem_offer hresult with hresult | hresult
          · exact h.sound result hresult
          · exact Or.inr ⟨state, hpending.1, hresult⟩
        · intro old hold hdone holdopen
          by_cases hsame : old = state
          · rw [hsame]
            exact hoffered
          · refine hcovered _ _ (h.extended old hold ?_ holdopen)
            rw [List.mem_cons, not_or]
            exact ⟨hsame, hdone⟩
      · rw [if_neg hopen]
        refine ⟨h.nodup, h.sound, h.kept, ?_⟩
        intro old hold hdone holdopen
        refine h.extended old hold ?_ holdopen
        rw [List.mem_cons, not_or]
        refine ⟨?_, hdone⟩
        intro hsame
        rw [hsame] at holdopen
        exact hopen holdopen
  refine hloop states states (fun _ h => h) ⟨hnodup, fun _ h => Or.inl h, fun _ _ h => h, ?_⟩
  exact fun old hold hnot => absurd hold hnot

/-- **Every state is a choice.** -/
theorem run_sound (hprefer : ∀ v w, search.prefer v w = true ↔ rank w < rank v) (items : List Item) :
    ((search.run items).map Prod.fst).Nodup ∧ ∀ state ∈ search.run items, ∃ choice : List Item,
      choice.Sublist items ∧ search.keyOf choice = state.1 ∧ search.valueOf choice = state.2 := by
  induction items using List.reverseRecOn with
  | nil =>
    refine ⟨List.nodup_singleton _, ?_⟩
    intro state hstate
    rw [List.mem_singleton.mp hstate]
    exact ⟨[], List.Sublist.refl _, rfl, rfl⟩
  | append_singleton items item ih =>
    obtain ⟨hnodup, hsound⟩ := ih
    have hstep := step_advances hprefer item hnodup
    have hrun : search.run (items ++ [item]) = search.step (search.run items) item := List.foldl_append
    rw [hrun]
    refine ⟨hstep.nodup, ?_⟩
    intro state hstate
    rcases hstep.sound state hstate with hold | hold
    · obtain ⟨choice, hsub, hkey, hvalue⟩ := hsound state hold
      exact ⟨choice, hsub.trans (List.sublist_append_left _ _), hkey, hvalue⟩
    · obtain ⟨old, hold, hnew⟩ := hold
      obtain ⟨choice, hsub, hkey, hvalue⟩ := hsound old hold
      refine ⟨choice ++ [item], hsub.append (List.Sublist.refl _), ?_, ?_⟩
      · rw [search.keyOf_append, hkey, hnew]
      · rw [search.valueOf_append, hvalue, hnew]

/-- **No best choice is lost**: of every allowed choice there is a state with its key that is no
worse. -/
theorem run_complete (hprefer : ∀ v w, search.prefer v w = true ↔ rank w < rank v)
    {Allowed : List Item → Prop}
    (hallowed : ∀ choice item, Allowed (choice ++ [item]) →
      Allowed choice ∧ search.isOpen (search.keyOf choice) = true)
    (hmono : ∀ left right item, search.keyOf left = search.keyOf right →
      rank (search.valueOf left) ≤ rank (search.valueOf right) →
      rank (search.valueOf (left ++ [item])) ≤ rank (search.valueOf (right ++ [item])))
    (items : List Item) : ∀ choice : List Item, choice.Sublist items → Allowed choice →
      Covers rank (search.run items) (search.keyOf choice) (search.valueOf choice) := by
  induction items using List.reverseRecOn with
  | nil =>
    intro choice hsub _
    rw [List.sublist_nil.mp hsub]
    exact ⟨search.value, List.mem_singleton_self _, le_rfl⟩
  | append_singleton items item ih =>
    intro choice hsub hchoice
    obtain ⟨hnodup, hsound⟩ := run_sound hprefer items
    have hstep := step_advances hprefer item hnodup
    have hrun : search.run (items ++ [item]) = search.step (search.run items) item := List.foldl_append
    rw [hrun]
    obtain ⟨front, last, rfl, hfront, hlast⟩ := List.sublist_append_iff.mp hsub
    rcases List.sublist_singleton.mp hlast with rfl | rfl
    · rw [List.append_nil] at hchoice ⊢
      exact hstep.kept _ _ (ih front hfront hchoice)
    · -- The state that covers the front, with the item added, covers the whole choice.
      obtain ⟨hallowedfront, hopen⟩ := hallowed front item hchoice
      obtain ⟨kept, hmem, hle⟩ := ih front hfront hallowedfront
      obtain ⟨best, -, hbestkey, hbestvalue⟩ := hsound _ hmem
      obtain ⟨grown, hgrown, hgrownle⟩ := hstep.extended _ hmem List.not_mem_nil hopen
      refine ⟨grown, ?_, ?_⟩
      · rw [search.keyOf_append]
        exact hgrown
      · have hbestvalue : search.valueOf best = kept := hbestvalue
        have hgrownle : rank (search.grow kept item) ≤ rank grown := hgrownle
        rw [← hbestvalue] at hle hgrownle
        refine (hmono front best item hbestkey.symm hle).trans ?_
        rw [search.valueOf_append]
        exact hgrownle

end BestStates
