import Mathlib.Data.List.Forall2
import Mathlib.Data.List.Perm.Basic

/-!
# Programs that may fail

Inversion of `Except` programs: what a successful sequence of steps, or a
successful `mapM`, has done.
-/

namespace Fallible

variable {ε α β : Type}

theorem bind_eq_ok {x : Except ε α} {f : α → Except ε β} {b : β} :
    (x >>= f) = .ok b ↔ ∃ a, x = .ok a ∧ f a = .ok b := by
  cases x with
  | error e =>
    constructor
    · intro h
      cases h
    · rintro ⟨a, h, -⟩
      cases h
  | ok a =>
    constructor
    · intro h
      exact ⟨a, rfl, h⟩
    · rintro ⟨a', h, hf⟩
      cases h
      exact hf

theorem bind_eq_error {x : Except ε α} {f : α → Except ε β} {e : ε} :
    (x >>= f) = .error e ↔ x = .error e ∨ ∃ a, x = .ok a ∧ f a = .error e := by
  cases x with
  | error e' =>
    constructor
    · intro h
      exact Or.inl (congrArg Except.error (Except.error.inj h))
    · intro h
      rcases h with h | ⟨a, h, -⟩
      · exact congrArg Except.error (Except.error.inj h)
      · cases h
  | ok a =>
    constructor
    · intro h
      exact Or.inr ⟨a, rfl, h⟩
    · intro h
      rcases h with h | ⟨a', h, hf⟩
      · cases h
      · cases h
        exact hf

theorem map_eq_ok {x : Except ε α} {f : α → β} {b : β} :
    (f <$> x) = .ok b ↔ ∃ a, x = .ok a ∧ f a = b := by
  cases x with
  | error e =>
    constructor
    · intro h
      cases h
    · rintro ⟨a, h, -⟩
      cases h
  | ok a =>
    constructor
    · intro h
      cases h
      exact ⟨a, rfl, rfl⟩
    · rintro ⟨a', h, rfl⟩
      cases h
      rfl

/-- Stop with the error unless the condition holds. -/
def require (condition : Prop) [Decidable condition] (error : ε) : Except ε Unit :=
  if condition then pure () else throw error

theorem require_eq_ok {condition : Prop} [Decidable condition] {error : ε} {u : Unit} :
    require condition error = .ok u ↔ condition := by
  unfold require
  by_cases h : condition
  · rw [if_pos h]
    exact ⟨fun _ => h, fun _ => rfl⟩
  · rw [if_neg h]
    exact ⟨nofun, fun hc => absurd hc h⟩

/-- A successful `mapM` is one success for each item. -/
theorem mapM_eq_ok {f : α → Except ε β} : ∀ {xs : List α} {ys : List β},
    xs.mapM f = .ok ys ↔ List.Forall₂ (fun x y => f x = .ok y) xs ys
  | [], ys => by
    rw [List.mapM_nil, List.forall₂_nil_left_iff]
    constructor
    · intro h
      cases h
      rfl
    · rintro rfl
      rfl
  | x :: xs, ys => by
    rw [List.mapM_cons, bind_eq_ok, List.forall₂_cons_left_iff]
    constructor
    · rintro ⟨y, hy, h⟩
      obtain ⟨rest, hrest, h⟩ := bind_eq_ok.mp h
      cases h
      exact ⟨y, rest, hy, mapM_eq_ok.mp hrest, rfl⟩
    · rintro ⟨y, rest, hy, hrest, rfl⟩
      exact ⟨y, hy, bind_eq_ok.mpr ⟨rest, mapM_eq_ok.mpr hrest, rfl⟩⟩

theorem mapM_total {f : α → Except ε β} : ∀ {xs : List α}, (∀ x ∈ xs, ∃ y, f x = .ok y) →
    ∃ ys, xs.mapM f = .ok ys
  | [], _ => ⟨[], rfl⟩
  | x :: xs, h => by
    obtain ⟨y, hy⟩ := h x List.mem_cons_self
    obtain ⟨ys, hys⟩ := mapM_total fun z hz => h z (List.mem_cons_of_mem x hz)
    exact ⟨y :: ys, mapM_eq_ok.mpr (.cons hy (mapM_eq_ok.mp hys))⟩

theorem mapM_pure {f : α → Except ε β} {g : α → β} {items : List α}
    (h : ∀ item ∈ items, f item = .ok (g item)) : items.mapM f = .ok (items.map g) := by
  rw [mapM_eq_ok, List.forall₂_map_right_iff, List.forall₂_same]
  exact h

/-- What a result of `mapM` comes from. -/
theorem exists_of_mem_mapM {f : α → Except ε β} {xs : List α} {ys : List β}
    (h : xs.mapM f = .ok ys) {y : β} (hy : y ∈ ys) : ∃ x ∈ xs, f x = .ok y := by
  have hall := mapM_eq_ok.mp h
  clear h
  induction hall with
  | nil => cases hy
  | cons hxy _ ih =>
    rcases List.mem_cons.mp hy with rfl | hy
    · exact ⟨_, List.mem_cons_self, hxy⟩
    · obtain ⟨x, hx, hf⟩ := ih hy
      exact ⟨x, List.mem_cons_of_mem _ hx, hf⟩

/-- What `mapM` makes of an item. -/
theorem exists_mem_of_mapM {f : α → Except ε β} {xs : List α} {ys : List β}
    (h : xs.mapM f = .ok ys) {x : α} (hx : x ∈ xs) : ∃ y ∈ ys, f x = .ok y := by
  have hall := mapM_eq_ok.mp h
  clear h
  induction hall with
  | nil => cases hx
  | cons hxy _ ih =>
    rcases List.mem_cons.mp hx with rfl | hx
    · exact ⟨_, List.mem_cons_self, hxy⟩
    · obtain ⟨y, hy, hf⟩ := ih hx
      exact ⟨y, List.mem_cons_of_mem _ hy, hf⟩

/-- An item on which a failing `mapM` stops. -/
theorem exists_of_mapM_error {f : α → Except ε β} {e : ε} : ∀ {xs : List α},
    xs.mapM f = .error e → ∃ x ∈ xs, f x = .error e := by
  intro xs
  induction xs with
  | nil =>
    intro h
    cases h
  | cons x xs ih =>
    intro h
    rw [List.mapM_cons] at h
    cases hx : f x with
    | error e' =>
      rw [hx] at h
      exact ⟨x, List.mem_cons_self, hx.trans (congrArg Except.error (Except.error.inj h))⟩
    | ok y =>
      rw [hx] at h
      have hrest : (xs.mapM f >>= fun ys => pure (y :: ys)) = .error e := h
      cases hxs : xs.mapM f with
      | error e' =>
        rw [hxs] at hrest
        obtain ⟨x', hx', hf⟩ := ih (hxs.trans (congrArg Except.error (Except.error.inj hrest)))
        exact ⟨x', List.mem_cons_of_mem _ hx', hf⟩
      | ok ys =>
        rw [hxs] at hrest
        cases hrest

/-- What a successful `mapM` returns, item by item. -/
theorem filterMap_of_mapM {f : α → Except ε β} {xs : List α} {ys : List β}
    (h : xs.mapM f = .ok ys) : xs.filterMap (fun x => (f x).toOption) = ys := by
  have hall := mapM_eq_ok.mp h
  clear h
  induction hall with
  | nil => rfl
  | cons hxy _ ih =>
    rw [List.filterMap_cons, hxy, ih]
    rfl

/-- More items, on which `g` does what `f` did, only add to what `mapM` returns. -/
theorem prefix_of_mapM {f g : α → Except ε β} : ∀ {xs rest : List α} {ys zs : List β},
    (∀ x ∈ xs, f x = g x) → xs.mapM f = .ok ys → (xs ++ rest).mapM g = .ok zs → ys <+: zs
  | [], rest, ys, zs, _, hxs, _ => by
    cases hxs
    exact List.nil_prefix
  | x :: xs, rest, ys, zs, hfg, hxs, hall => by
    rw [List.mapM_cons] at hxs
    rw [List.cons_append, List.mapM_cons, ← hfg x List.mem_cons_self] at hall
    obtain ⟨y, hy, hxs⟩ := bind_eq_ok.mp hxs
    obtain ⟨ys, hys, hxs⟩ := bind_eq_ok.mp hxs
    obtain ⟨y', hy', hall⟩ := bind_eq_ok.mp hall
    obtain ⟨zs, hzs, hall⟩ := bind_eq_ok.mp hall
    rw [hy] at hy'
    cases hy'
    cases hxs
    cases hall
    have hrest := prefix_of_mapM (fun x hx => hfg x (List.mem_cons_of_mem _ hx)) hys hzs
    exact List.cons_prefix_cons.mpr ⟨rfl, hrest⟩

theorem mapM_isOk_iff {f : α → Except ε β} {xs : List α} :
    (∃ ys, xs.mapM f = .ok ys) ↔ ∀ x ∈ xs, ∃ y, f x = .ok y := by
  constructor
  · rintro ⟨ys, h⟩ x hx
    obtain ⟨y, -, hy⟩ := exists_mem_of_mapM h hx
    exact ⟨y, hy⟩
  · exact mapM_total

/-- A check of all items passes when it passes for each. -/
theorem forM_eq_ok {f : α → Except ε Unit} : ∀ {xs : List α},
    forM xs f = .ok ⟨⟩ ↔ ∀ x ∈ xs, f x = .ok ⟨⟩
  | [] => by
    rw [List.forM_nil]
    exact ⟨fun _ x hx => absurd hx List.not_mem_nil, fun _ => rfl⟩
  | x :: xs => by
    rw [List.forM_cons, bind_eq_ok, List.forall_mem_cons]
    constructor
    · rintro ⟨⟨⟩, hx, hxs⟩
      exact ⟨hx, forM_eq_ok.mp hxs⟩
    · rintro ⟨hx, hxs⟩
      exact ⟨⟨⟩, hx, forM_eq_ok.mpr hxs⟩

theorem filterAuxM_eq_ok {p : α → Except ε Bool} : ∀ {xs kept ys : List α},
    List.filterAuxM p xs kept = .ok ys ↔ (∀ x ∈ xs, ∃ keep, p x = .ok keep) ∧
      ys = (xs.filter fun x => (p x).toOption.getD false).reverse ++ kept := by
  intro xs
  induction xs with
  | nil =>
    intro kept ys
    constructor
    · intro h
      cases h
      exact ⟨nofun, rfl⟩
    · intro h
      rw [h.2]
      rfl
  | cons x xs ih =>
    intro kept ys
    rw [List.forall_mem_cons, List.filter_cons]
    show (p x >>= _) = _ ↔ _
    cases hx : p x with
    | error e =>
      constructor
      · nofun
      · intro h
        obtain ⟨⟨⟨keep, hkeep⟩, -⟩, -⟩ := h
        cases hkeep
    | ok keep =>
      show List.filterAuxM p xs (cond keep (x :: kept) kept) = .ok ys ↔ _
      rw [ih]
      cases keep with
      | false => simp [Except.toOption]
      | true => simp [Except.toOption]

/-- A successful `filterM` is a filter. -/
theorem filterM_eq_ok {p : α → Except ε Bool} {xs ys : List α} :
    xs.filterM p = .ok ys ↔ (∀ x ∈ xs, ∃ keep, p x = .ok keep) ∧
      ys = xs.filter fun x => (p x).toOption.getD false := by
  have haux (kept : List α) : List.filterAuxM p xs [] = .ok kept ↔
      (∀ x ∈ xs, ∃ keep, p x = .ok keep) ∧
        kept = (xs.filter fun x => (p x).toOption.getD false).reverse ++ [] := filterAuxM_eq_ok
  unfold List.filterM
  rw [bind_eq_ok]
  constructor
  · intro h
    obtain ⟨kept, hkept, h⟩ := h
    cases h
    obtain ⟨hall, rfl⟩ := (haux kept).mp hkept
    exact ⟨hall, by rw [List.append_nil, List.reverse_reverse]⟩
  · intro h
    refine ⟨_, (haux _).mpr ⟨h.1, rfl⟩, ?_⟩
    rw [h.2, List.append_nil]
    show Except.ok (List.reverse (List.reverse _)) = _
    rw [List.reverse_reverse]

/-- What `filterM` keeps. -/
theorem mem_filterM {p : α → Except ε Bool} {x : α} {xs ys : List α}
    (h : xs.filterM p = .ok ys) : x ∈ ys ↔ x ∈ xs ∧ p x = .ok true := by
  rw [(filterM_eq_ok.mp h).2, List.mem_filter]
  refine and_congr_right fun _ => ?_
  cases p x with
  | error e => exact ⟨nofun, nofun⟩
  | ok keep => exact ⟨congrArg Except.ok, Except.ok.inj⟩

/-- A loop whose successful steps make `Q` hold exactly where `P item` does, and leave
it elsewhere. -/
theorem foldlM_iff {σ : Type} {f : σ → α → Except ε σ} {Q : σ → Prop} {P : α → Prop}
    (hf : ∀ s item s', f s item = .ok s' → (Q s' ↔ P item ∨ Q s)) :
    ∀ {items : List α} {s s' : σ}, items.foldlM f s = .ok s' →
      (Q s' ↔ (∃ item ∈ items, P item) ∨ Q s) := by
  intro items
  induction items with
  | nil =>
    intro s s' h
    cases h
    simp
  | cons item items ih =>
    intro s s' h
    rw [List.foldlM_cons] at h
    obtain ⟨next, hnext, hrest⟩ := bind_eq_ok.mp h
    rw [ih hrest, hf _ _ _ hnext]
    simp only [List.mem_cons, exists_eq_or_imp, or_assoc, or_left_comm]

/-- A loop whose body succeeds on what it keeps succeeds and keeps it. -/
theorem foldlM_total {σ : Type} {f : σ → α → Except ε σ} {I : σ → Prop} {items : List α} :
    ∀ {state : σ}, (∀ state, I state → ∀ item ∈ items, ∃ next, f state item = .ok next ∧ I next) →
      I state → ∃ final, items.foldlM f state = .ok final ∧ I final := by
  induction items with
  | nil =>
    intro state _ hstate
    exact ⟨state, rfl, hstate⟩
  | cons item rest ih =>
    intro state hf hstate
    obtain ⟨next, hnext, hkept⟩ := hf state hstate item List.mem_cons_self
    obtain ⟨final, hfinal, hlast⟩ :=
      ih (fun state hs item hitem => hf state hs item (List.mem_cons_of_mem _ hitem)) hkept
    refine ⟨final, ?_, hlast⟩
    rw [List.foldlM_cons]
    exact bind_eq_ok.mpr ⟨next, hnext, hfinal⟩

/-- A loop whose steps are all in a transitive relation is in it as a whole. -/
theorem foldlM_rel {σ : Type} {f : σ → α → Except ε σ} {R : σ → σ → Prop} (hrefl : ∀ s, R s s)
    (htrans : ∀ {a b c}, R a b → R b c → R a c)
    (hf : ∀ s item next, f s item = .ok next → R s next) :
    ∀ {items : List α} {state final : σ}, items.foldlM f state = .ok final → R state final := by
  intro items
  induction items with
  | nil =>
    intro state final h
    cases h
    exact hrefl state
  | cons item rest ih =>
    intro state final h
    rw [List.foldlM_cons] at h
    obtain ⟨next, hnext, hrest⟩ := bind_eq_ok.mp h
    exact htrans (hf _ _ _ hnext) (ih hrest)

/-- A value that something is known of. -/
theorem exists_of_map_toOption {x : Except ε α} {f : α → β} {b : β}
    (h : x.toOption.map f = some b) : ∃ a, x = .ok a ∧ f a = b := by
  cases x with
  | error e => cases h
  | ok a => exact ⟨a, rfl, Option.some.inj h⟩

/-- A loop over items on which two bodies do the same. -/
theorem foldlM_congr {σ : Type} {f g : σ → α → Except ε σ} {items : List α} :
    ∀ {state : σ}, (∀ state, ∀ item ∈ items, f state item = g state item) →
      items.foldlM f state = items.foldlM g state := by
  induction items with
  | nil => exact fun _ => rfl
  | cons item rest ih =>
    intro state hsame
    rw [List.foldlM_cons, List.foldlM_cons, hsame state item List.mem_cons_self]
    congr 1
    funext next
    exact ih fun state item hitem => hsame state item (List.mem_cons_of_mem _ hitem)

/-! ## Items replaced or rearranged -/

section Natural

variable {γ δ : Type} {i : α → γ}

/-- An operation before and after the items are replaced. -/
theorem mapM_natural {f : α → Except ε β} {g : γ → Except ε δ} {j : β → δ}
    (h : ∀ a, g (i a) = (f a).map j) :
    ∀ items : List α, (items.map i).mapM g = (items.mapM f).map (List.map j) := by
  intro items
  induction items with
  | nil => rfl
  | cons a items ih =>
    rw [List.map_cons, List.mapM_cons, List.mapM_cons, h, ih]
    cases f a with
    | error e => rfl
    | ok b =>
      show (Except.map _ (items.mapM f) >>= _) = _
      cases items.mapM f with
      | error e => rfl
      | ok bs => rfl

theorem filterAuxM_map {p : γ → Except ε Bool} : ∀ items kept : List α,
    List.filterAuxM p (items.map i) (kept.map i) =
      (List.filterAuxM (fun a => p (i a)) items kept).map (List.map i) := by
  intro items
  induction items with
  | nil => exact fun _ => rfl
  | cons a items ih =>
    intro kept
    show (p (i a) >>= _) = Except.map _ (p (i a) >>= _)
    cases p (i a) with
    | error e => rfl
    | ok keep =>
      cases keep with
      | false => exact ih kept
      | true => exact ih (a :: kept)

theorem filterM_map {p : γ → Except ε Bool} (items : List α) :
    (items.map i).filterM p = (items.filterM fun a => p (i a)).map (List.map i) := by
  have haux := filterAuxM_map (p := p) (i := i) items []
  rw [List.map_nil] at haux
  unfold List.filterM
  rw [haux]
  cases List.filterAuxM (fun a => p (i a)) items [] with
  | error e => rfl
  | ok kept =>
    show Except.ok (kept.map i).reverse = Except.ok (kept.reverse.map i)
    rw [List.map_reverse]

end Natural

/-- A successful `mapM` of the items in another order. -/
theorem mapM_perm {f : α → Except ε β} {xs xs' : List α} {ys : List β}
    (h : xs.mapM f = .ok ys) (hperm : xs'.Perm xs) :
    ∃ ys', xs'.mapM f = .ok ys' ∧ ys'.Perm ys := by
  obtain ⟨ys', hall, hys⟩ := List.perm_comp_forall₂ hperm (mapM_eq_ok.mp h)
  exact ⟨ys', mapM_eq_ok.mpr hall, hys⟩

/-- A successful `filterM` of the items in another order. -/
theorem filterM_perm {p : α → Except ε Bool} {xs xs' ys : List α}
    (h : xs.filterM p = .ok ys) (hperm : xs'.Perm xs) :
    ∃ ys', xs'.filterM p = .ok ys' ∧ ys'.Perm ys := by
  obtain ⟨hall, rfl⟩ := filterM_eq_ok.mp h
  exact ⟨_, filterM_eq_ok.mpr ⟨fun x hx => hall x (hperm.mem_iff.mp hx), rfl⟩, hperm.filter _⟩

end Fallible
