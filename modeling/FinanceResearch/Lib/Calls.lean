import FinanceResearch.Lib.Fallible

/-!
# Programs that make given calls

A program that makes the calls of a list, in their order, and nothing else that can fail: it
returns when every call returns, and what it returns is known from what the calls return
(`Makes`). The rules build the list along the program; `Makes.isOk_iff` says when the program
returns without running it.
-/

namespace Calls

variable {ι ε α β γ : Type} {call : ι → Except ε β} {calls more : List ι} {x : Except ε α}
  {P : List β → α → Prop}

/-- The program returns when the calls do, with `P` of what they return, and not otherwise. -/
structure Makes (call : ι → Except ε β) (calls : List ι) (x : Except ε α) (P : List β → α → Prop) :
    Prop where
  total : ∀ {results}, calls.mapM call = .ok results → ∃ a, x = .ok a ∧ P results a
  sound : ∀ {a}, x = .ok a → ∃ results, calls.mapM call = .ok results

/-- A program that makes no call. -/
theorem makes_none {a : α} (hx : x = .ok a) (ha : P [] a) : Makes call [] x P where
  total := by
    intro results h
    cases h
    exact ⟨a, hx, ha⟩
  sound := fun _ => ⟨[], rfl⟩

/-- A program that is a call. -/
theorem calls_call (i : ι) :
    Makes call [i] (call i) fun results b => results = [b] ∧ call i = .ok b where
  total := by
    intro results hresults
    rw [List.mapM_cons] at hresults
    obtain ⟨b, hb, hresults⟩ := Fallible.bind_eq_ok.mp hresults
    cases hresults
    exact ⟨b, hb, rfl, hb⟩
  sound := by
    intro b hb
    exact ⟨[b], by rw [List.mapM_cons, hb]; rfl⟩

theorem mapM_append_eq_ok {f : ι → Except ε β} {xs ys : List ι} {zs : List β} :
    (xs ++ ys).mapM f = .ok zs ↔
      ∃ first rest, xs.mapM f = .ok first ∧ ys.mapM f = .ok rest ∧ zs = first ++ rest := by
  rw [List.mapM_append, Fallible.bind_eq_ok]
  constructor
  · intro h
    obtain ⟨first, hfirst, h⟩ := h
    obtain ⟨rest, hrest, h⟩ := Fallible.bind_eq_ok.mp h
    cases h
    exact ⟨first, rest, hfirst, hrest, rfl⟩
  · intro h
    obtain ⟨first, rest, hfirst, hrest, rfl⟩ := h
    exact ⟨first, hfirst, Fallible.bind_eq_ok.mpr ⟨rest, hrest, rfl⟩⟩

/-- What the program returns is what `P` says. -/
theorem Makes.spec (h : Makes call calls x P) {a : α} (ha : x = .ok a) :
    ∃ results, calls.mapM call = .ok results ∧ P results a := by
  obtain ⟨results, hresults⟩ := h.sound ha
  obtain ⟨a', ha', hP⟩ := h.total hresults
  rw [ha] at ha'
  cases ha'
  exact ⟨results, hresults, hP⟩

/-- One program after the other makes the calls of both. -/
theorem Makes.bind {y : α → Except ε γ} {Q : List β → γ → Prop} (hx : Makes call calls x P)
    (hy : ∀ first a, P first a → Makes call more (y a) fun rest c => Q (first ++ rest) c) :
    Makes call (calls ++ more) (x >>= y) Q where
  total := by
    intro results h
    obtain ⟨first, rest, hfirst, hrest, rfl⟩ := mapM_append_eq_ok.mp h
    obtain ⟨a, ha, hP⟩ := hx.total hfirst
    obtain ⟨c, hc, hQ⟩ := (hy first a hP).total hrest
    exact ⟨c, Fallible.bind_eq_ok.mpr ⟨a, ha, hc⟩, hQ⟩
  sound := by
    intro c h
    obtain ⟨a, ha, hc⟩ := Fallible.bind_eq_ok.mp h
    obtain ⟨first, hfirst, hP⟩ := hx.spec ha
    obtain ⟨rest, hrest⟩ := (hy first a hP).sound hc
    exact ⟨first ++ rest, mapM_append_eq_ok.mpr ⟨first, rest, hfirst, hrest, rfl⟩⟩

/-- Nothing is called after the program. -/
theorem Makes.then_none {y : α → Except ε γ} {Q : List β → γ → Prop} (hx : Makes call calls x P)
    (hy : ∀ first a, P first a → ∃ c, y a = .ok c ∧ Q first c) : Makes call calls (x >>= y) Q := by
  rw [← List.append_nil calls]
  refine hx.bind fun first a ha => ?_
  obtain ⟨c, hc, hQ⟩ := hy first a ha
  exact makes_none hc (by rw [List.append_nil]; exact hQ)

/-- A loop over items makes the calls of each. -/
theorem makes_foldlM {σ κ : Type} {f : σ → κ → Except ε σ} {made : κ → List ι}
    {I : List β → σ → Prop} {items : List κ}
    (hf : ∀ earlier state item, item ∈ items → I earlier state →
      Makes call (made item) (f state item) fun results next => I (earlier ++ results) next) :
    ∀ {earlier : List β} {state : σ}, I earlier state →
      Makes call (items.flatMap made) (items.foldlM f state) fun results final =>
        I (earlier ++ results) final := by
  induction items with
  | nil =>
    intro earlier state hstate
    exact makes_none rfl (by rw [List.append_nil]; exact hstate)
  | cons item rest ih =>
    intro earlier state hstate
    rw [List.foldlM_cons, List.flatMap_cons]
    refine (hf earlier state item List.mem_cons_self hstate).bind fun results next hnext => ?_
    have hrest := ih (fun earlier state item hitem =>
      hf earlier state item (List.mem_cons_of_mem _ hitem)) hnext
    simp only [List.append_assoc] at hrest
    exact hrest

/-- A program for each item makes the calls of all. -/
theorem makes_mapM {κ : Type} {f : κ → Except ε α} {made : κ → List ι} {shown : α → List β}
    {Q : α → Prop} {items : List κ}
    (hf : ∀ item ∈ items, Makes call (made item) (f item) fun results a => shown a = results ∧ Q a) :
    Makes call (items.flatMap made) (items.mapM f) fun results as =>
      as.flatMap shown = results ∧ ∀ a ∈ as, Q a := by
  induction items with
  | nil => exact makes_none rfl ⟨rfl, List.forall_mem_nil _⟩
  | cons item rest ih =>
    rw [List.mapM_cons, List.flatMap_cons]
    refine (hf item List.mem_cons_self).bind fun first a ha => ?_
    refine (ih fun item hitem => hf item (List.mem_cons_of_mem _ hitem)).then_none fun last as has => ?_
    refine ⟨a :: as, rfl, ?_, List.forall_mem_cons.mpr ⟨ha.2, has.2⟩⟩
    rw [List.flatMap_cons, ha.1, has.1]

/-- **The program returns exactly when every call does.** -/
theorem Makes.isOk_iff (h : Makes call calls x P) :
    (∃ a, x = .ok a) ↔ ∀ i ∈ calls, ∃ b, call i = .ok b := by
  rw [← Fallible.mapM_isOk_iff]
  constructor
  · intro hx
    obtain ⟨a, ha⟩ := hx
    exact h.sound ha
  · intro hcalls
    obtain ⟨results, hresults⟩ := hcalls
    obtain ⟨a, ha, -⟩ := h.total hresults
    exact ⟨a, ha⟩

end Calls
