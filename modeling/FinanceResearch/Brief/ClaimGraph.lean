import FinanceResearch.Brief.Findings
import Mathlib.Data.List.NodupEquivFin

/-!
# The cycle check

What `visit` can do: it appends only cycle findings, never marks an ID of its own
path as visited, and appends no more of them than there are edges it has not
passed before. Its fuel is the length of a path without repetition, so more of it
changes nothing (`cycleFindings_fuel`).

A reported cycle is on the path of the call that reports it, and a search that
reports none leaves its claims in an order without cycles, so the check reports
exactly whether there is one (`cycleFindings_eq_nil`). With the other two lists of
`_claim_graph` that is all it reports (`graphFindings_exact`).
-/

namespace FinanceResearch

variable {claims : List Claim}

/-- From `s` to `s'` by `calls` calls of `visit` below the IDs on `visiting`. -/
structure Visited (claims : List Claim) (visiting : List Identifier) (calls : Nat)
    (s s' : VisitState) : Prop where
  found : ∀ f ∈ s'.found, f ∈ s.found ∨ ∃ id, f = cycleFinding id
  path : ∀ id ∈ visiting, id ∈ s'.visited → id ∈ s.visited
  count : s'.found.length + Worklist.edges (supportsOf claims) (claimIds claims) s'.visited ≤
    s.found.length + Worklist.edges (supportsOf claims) (claimIds claims) s.visited + calls

theorem Visited.none (visiting : List Identifier) (calls : Nat) (s : VisitState) :
    Visited claims visiting calls s s :=
  ⟨fun _ h => Or.inl h, fun _ _ h => h, Nat.le_add_right _ _⟩

theorem Visited.trans {visiting : List Identifier} {m n : Nat} {s s' s'' : VisitState}
    (h : Visited claims visiting m s s') (h' : Visited claims visiting n s' s'') :
    Visited claims visiting (m + n) s s'' where
  found f hf := by
    rcases h'.found f hf with hf | hf
    · exact h.found f hf
    · exact Or.inr hf
  path id hid hv := h.path id hid (h'.path id hid hv)
  count := by
    have := h.count
    have := h'.count
    omega

/-- One call for each support, each below the same path. -/
theorem visited_foldl {visiting : List Identifier}
    {call : VisitState → Identifier → VisitState}
    (hcall : ∀ s id, Visited claims visiting 1 s (call s id)) :
    ∀ (ids : List Identifier) (s : VisitState),
      Visited claims visiting ids.length s (ids.foldl call s)
  | [], s => .none visiting 0 s
  | id :: rest, s => by
    rw [List.foldl_cons, List.length_cons, Nat.add_comm]
    exact (hcall s id).trans (visited_foldl hcall rest (call s id))

/-- **What a call of `visit` does.** -/
theorem visit_visited : ∀ (fuel : Nat) (visiting : List Identifier) (id : Identifier)
    (s : VisitState), Visited claims visiting 1 s (visit claims fuel visiting id s)
  | 0, visiting, _, s => .none visiting 1 s
  | fuel + 1, visiting, id, s => by
    unfold visit
    split
    · refine ⟨?_, fun _ _ h => h, ?_⟩
      · intro f hf
        rcases List.mem_append.mp hf with hf | hf
        · exact Or.inl hf
        · exact Or.inr ⟨id, List.mem_singleton.mp hf⟩
      · simp only [List.length_append, List.length_singleton]
        omega
    next hpath =>
      split
      · exact .none visiting 1 s
      next hnew =>
        split
        · exact .none visiting 1 s
        next claim hclaim =>
          have hbelow := visited_foldl
            (fun s support => visit_visited fuel (id :: visiting) support s)
            claim.supportsClaimIds s
          generalize claim.supportsClaimIds.foldl _ s = below at hbelow
          have hid : id ∉ below.visited := fun h => hnew (hbelow.path id List.mem_cons_self h)
          refine ⟨hbelow.found, ?_, ?_⟩
          · intro other hother hv
            rcases List.mem_cons.mp hv with rfl | hv
            · exact absurd hother hpath
            · exact hbelow.path other (List.mem_cons_of_mem _ hother) hv
          · have hedges := Worklist.edges_cons (nodup_claimIds claims) (supports_known claims) hid
            have hsupports : supportsOf claims id = claim.supportsClaimIds := by
              rw [supportsOf, hclaim]
              rfl
            rw [hsupports] at hedges
            have := hbelow.count
            simp only
            omega

/-- The cycle check is one call of `visit` for each ID. -/
theorem cycleCheck_visited (claims : List Claim) :
    Visited claims [] (Dicts.keys Claim.claimId claims).length ⟨[], []⟩
      ((Dicts.keys Claim.claimId claims).foldl
        (fun state id => visit claims (visitFuel claims) [] id state) ⟨[], []⟩) :=
  visited_foldl (fun s id => visit_visited (visitFuel claims) [] id s) _ _

/-- Every finding of the cycle check names a claim's supports. -/
theorem mem_cycleFindings {f : Finding} (h : f ∈ cycleFindings claims) :
    ∃ id, f = cycleFinding id :=
  ((cycleCheck_visited claims).found f h).resolve_left List.not_mem_nil

/-- The cycle check reports at most one finding for each claim and each edge. -/
theorem length_cycleFindings (claims : List Claim) :
    (cycleFindings claims).length ≤ (Dicts.keys Claim.claimId claims).length +
      Worklist.edges (supportsOf claims) (claimIds claims) [] := by
  have hcount := (cycleCheck_visited claims).count
  simp only [List.length_nil] at hcount
  unfold cycleFindings
  omega

/-! ## Fuel -/

/-- The IDs a path can still take. -/
def unvisited (claims : List Claim) (visiting : List Identifier) : Nat :=
  ((claimIds claims).filter (· ∉ visiting)).length

theorem unvisited_cons {visiting : List Identifier} {id : Identifier}
    (hid : id ∈ claimIds claims) (hpath : id ∉ visiting) :
    unvisited claims (id :: visiting) < unvisited claims visiting := by
  unfold unvisited
  have hsplit : (claimIds claims).filter (· ∉ id :: visiting) =
      ((claimIds claims).filter (· ∉ visiting)).filter (· ≠ id) := by
    rw [List.filter_filter]
    apply List.filter_congr
    intro other _
    simp only [List.mem_cons, not_or]
    grind
  rw [hsplit]
  refine List.length_filter_lt_length_iff_exists.mpr ⟨id, ?_, by simp⟩
  exact List.mem_filter.mpr ⟨hid, by simpa using hpath⟩

/-- Fuel beyond the IDs a path can still take changes nothing. -/
theorem visit_fuel : ∀ (fuel : Nat) (visiting : List Identifier) (id : Identifier)
    (s : VisitState), unvisited claims visiting < fuel →
      visit claims (fuel + 1) visiting id s = visit claims fuel visiting id s
  | 0, _, _, _, h => absurd h (Nat.not_lt_zero _)
  | fuel + 1, visiting, id, s, h => by
    rw [visit, visit]
    by_cases hpath : id ∈ visiting
    · simp only [hpath, ↓reduceIte]
    · by_cases hnew : id ∈ s.visited
      · simp only [hpath, hnew, ↓reduceIte]
      · simp only [hpath, hnew, ↓reduceIte]
        cases hclaim : claimById claims id with
        | none => rfl
        | some claim =>
          have hid : id ∈ claimIds claims := isSome_claimById.mp (by rw [hclaim]; rfl)
          have hless := unvisited_cons hid hpath
          have hsame : (fun s support => visit claims (fuel + 1) (id :: visiting) support s) =
              fun s support => visit claims fuel (id :: visiting) support s := by
            funext s support
            exact visit_fuel fuel (id :: visiting) support s (by omega)
          simp only [hsame]

/-- **The cycle check does not run out of fuel.** -/
theorem cycleFindings_fuel (claims : List Claim) (extra : Nat) :
    cycleFindings claims = ((Dicts.keys Claim.claimId claims).foldl
      (fun state id => visit claims (visitFuel claims + extra) [] id state) ⟨[], []⟩).found := by
  have hsame : ∀ id s, visit claims (visitFuel claims + extra) [] id s =
      visit claims (visitFuel claims) [] id s := by
    intro id s
    induction extra with
    | zero => rfl
    | succ extra ih =>
      rw [← Nat.add_assoc, visit_fuel _ _ _ _ ?_, ih]
      have : unvisited claims [] ≤ (claimIds claims).length := List.length_filter_le _ _
      unfold visitFuel
      omega
  simp only [hsame]
  rfl

/-! ## Cycles -/

/-- One claim ID rests on another, over at least one support. -/
abbrev RestsOn (claims : List Claim) : Identifier → Identifier → Prop :=
  Worklist.Leads (supportsOf claims)

/-- A support leads back to the claim it starts from. -/
def HasCycle (claims : List Claim) : Prop := ∃ id ∈ claimIds claims, RestsOn claims id id

theorem not_restsOn_self (h : ¬ HasCycle claims) (id : Identifier) : ¬ RestsOn claims id id :=
  fun hid => h ⟨id, supports_known claims id (Worklist.Leads.start_ne hid), hid⟩

theorem supportsOf_eq {id : Identifier} {claim : Claim} (h : claimById claims id = some claim) :
    supportsOf claims id = claim.supportsClaimIds := by
  unfold supportsOf
  rw [h]
  rfl

theorem foldl_found {call : VisitState → Identifier → VisitState} :
    ∀ (ids : List Identifier) (s : VisitState),
      (∀ s, ∀ id ∈ ids, (call s id).found = s.found) → (ids.foldl call s).found = s.found
  | [], _, _ => rfl
  | id :: rest, s, h => by
    rw [List.foldl_cons, foldl_found rest _ fun s other hother => h s other
      (List.mem_cons_of_mem _ hother)]
    exact h s id List.mem_cons_self

/-- Without a cycle, `visit` below a path that leads to `id` reports none. -/
theorem visit_found (h : ¬ HasCycle claims) : ∀ (fuel : Nat) (visiting : List Identifier)
    (id : Identifier) (s : VisitState), (∀ x ∈ visiting, RestsOn claims x id) →
      (visit claims fuel visiting id s).found = s.found
  | 0, _, _, _, _ => rfl
  | fuel + 1, visiting, id, s, hpath => by
    unfold visit
    split
    next hmem => exact absurd (hpath id hmem) (not_restsOn_self h id)
    · split
      · rfl
      · split
        · rfl
        next claim hclaim =>
          show (claim.supportsClaimIds.foldl
            (fun state support => visit claims fuel (id :: visiting) support state) s).found = s.found
          have hbelow : ∀ support ∈ claim.supportsClaimIds, ∀ x ∈ id :: visiting,
              RestsOn claims x support := by
            intro support hsupport x hx
            have hstep : support ∈ supportsOf claims id := supportsOf_eq hclaim ▸ hsupport
            rcases List.mem_cons.mp hx with heq | hx
            · exact heq ▸ .single hstep
            · exact (hpath x hx).tail hstep
          exact foldl_found _ s fun s support hsupport =>
            visit_found h fuel _ support s (hbelow support hsupport)

/-- From `s` to `s'` by calls of `visit` for `ids` that reported no cycle. -/
structure Settles (claims : List Claim) (ids : List Identifier) (s s' : VisitState) : Prop where
  kept : s.visited ⊆ s'.visited
  clean : s.found = []
  finished : Worklist.Finished (supportsOf claims) s.visited →
    Worklist.Finished (supportsOf claims) s'.visited
  reached : ∀ id ∈ ids, supportsOf claims id = [] ∨ id ∈ s'.visited

theorem Settles.cons {id : Identifier} {ids : List Identifier} {s s' s'' : VisitState}
    (h : Settles claims [id] s s') (h' : Settles claims ids s' s'') :
    Settles claims (id :: ids) s s'' where
  kept := List.Subset.trans h.kept h'.kept
  clean := h.clean
  finished hs := h'.finished (h.finished hs)
  reached other hother := by
    rcases List.mem_cons.mp hother with heq | hother
    · exact heq ▸ (h.reached id (List.mem_singleton.mpr rfl)).imp_right fun hid => h'.kept hid
    · exact h'.reached other hother

/-- One call for each ID: when all of them report none, each did. -/
theorem settles_foldl {call : VisitState → Identifier → VisitState}
    (hcall : ∀ s id, (call s id).found = [] → Settles claims [id] s (call s id)) :
    ∀ (ids : List Identifier) (s : VisitState), (ids.foldl call s).found = [] →
      Settles claims ids s (ids.foldl call s)
  | [], _, h => ⟨fun _ hid => hid, h, id, fun _ hid => absurd hid List.not_mem_nil⟩
  | id :: rest, s, h => by
    have hrest : Settles claims rest (call s id) (rest.foldl call (call s id)) :=
      settles_foldl hcall rest _ h
    exact (hcall s id hrest.clean).cons hrest

/-- **What a call of `visit` leaves when it reports no cycle.** -/
theorem visit_settles : ∀ (fuel : Nat) (visiting : List Identifier) (id : Identifier)
    (s : VisitState), unvisited claims visiting < fuel →
      (visit claims fuel visiting id s).found = [] →
        Settles claims [id] s (visit claims fuel visiting id s)
  | 0, _, _, _, hfuel, _ => absurd hfuel (Nat.not_lt_zero _)
  | fuel + 1, visiting, id, s, hfuel, hclean => by
    unfold visit at hclean ⊢
    split at hclean
    next hpath =>
      rw [if_pos hpath]
      exact absurd hclean (List.append_ne_nil_of_right_ne_nil _ (List.cons_ne_nil _ _))
    next hpath =>
      rw [if_neg hpath]
      by_cases hseen : id ∈ s.visited
      · rw [if_pos hseen] at hclean ⊢
        refine ⟨fun _ h => h, hclean, fun h => h, ?_⟩
        intro other hother
        exact Or.inr (List.mem_singleton.mp hother ▸ hseen)
      · rw [if_neg hseen] at hclean ⊢
        cases hclaim : claimById claims id with
        | none =>
          rw [hclaim] at hclean
          refine ⟨fun _ h => h, hclean, fun h => h, ?_⟩
          intro other hother
          rw [List.mem_singleton.mp hother, supportsOf, hclaim]
          exact Or.inl rfl
        | some claim =>
          rw [hclaim] at hclean
          simp only at hclean ⊢
          have hid : id ∈ claimIds claims := isSome_claimById.mp (by rw [hclaim]; rfl)
          have hless := unvisited_cons hid hpath
          have hbelow := settles_foldl (fun s support => visit_settles fuel (id :: visiting) support s
            (by omega)) claim.supportsClaimIds s hclean
          -- the path keeps `id` out of what the calls below it visit
          have hnew := (visited_foldl
            (fun s support => @visit_visited claims fuel (id :: visiting) support s)
            claim.supportsClaimIds s).path id List.mem_cons_self
          generalize claim.supportsClaimIds.foldl _ s = below at hbelow hnew
          refine ⟨fun x hx => List.mem_cons_of_mem _ (hbelow.kept hx), hbelow.clean, ?_, ?_⟩
          · intro hs
            refine .cons (fun h => hseen (hnew h)) ?_ (hbelow.finished hs)
            intro support hsupport
            exact hbelow.reached support (supportsOf_eq hclaim ▸ hsupport)
          · intro other hother
            exact Or.inr (List.mem_singleton.mp hother ▸ List.mem_cons_self)

/-- **The cycle check reports something exactly when there is a cycle.** -/
theorem cycleFindings_eq_nil (claims : List Claim) :
    cycleFindings claims = [] ↔ ¬ HasCycle claims := by
  constructor
  · intro hclean hcycle
    obtain ⟨id, hid, hback⟩ := hcycle
    have hfuel : unvisited claims [] < visitFuel claims := by
      have : unvisited claims [] ≤ (claimIds claims).length := List.length_filter_le _ _
      unfold visitFuel
      omega
    have hsettles := settles_foldl (fun s id => visit_settles (visitFuel claims) [] id s hfuel)
      (Dicts.keys Claim.claimId claims) ⟨[], []⟩ hclean
    have hkey : id ∈ Dicts.keys Claim.claimId claims := by
      obtain ⟨claim, hc, hcid⟩ := List.mem_map.mp (List.mem_dedup.mp hid)
      exact Dicts.mem_keys.mpr ⟨claim, hc, hcid⟩
    have hvisited := (hsettles.reached id hkey).resolve_left (Worklist.Leads.start_ne hback)
    exact (hsettles.finished .nil).acyclic id hvisited hback
  · intro h
    unfold cycleFindings
    generalize Dicts.keys Claim.claimId claims = ids
    exact foldl_found ids ⟨[], []⟩ fun s id _ =>
      visit_found h _ [] id s fun x hx => absurd hx List.not_mem_nil

/-! ## What `_claim_graph` reports -/

def duplicateMessage : String := "duplicate claim id"

def missingMessage : String := "claim graph references missing claims"

def cycleMessage : String := "claim graph contains a cycle"

/-- An earlier claim has the ID of the claim at `index`. -/
def RepeatsId (claims : List Claim) (index : Nat) : Prop :=
  ∃ claim ∈ claims[index]?, claim.claimId ∈ (claims.take index).map Claim.claimId

/-- The claim at `index` names a support that no claim has as its ID. -/
def LacksSupport (claims : List Claim) (index : Nat) : Prop :=
  ∃ claim ∈ claims[index]?, ∃ id ∈ claim.supportsClaimIds, id ∉ claims.map Claim.claimId

instance (claims : List Claim) : DecidablePred (RepeatsId claims) :=
  fun index => inferInstanceAs (Decidable (∃ claim ∈ claims[index]?, _))

instance (claims : List Claim) : DecidablePred (LacksSupport claims) :=
  fun index => inferInstanceAs (Decidable (∃ claim ∈ claims[index]?, _))

/-- Where the findings with that message point to. -/
def pointersOf (message : String) (found : List Finding) : List String :=
  (found.filter fun f => f.message = message).map Finding.pointer

theorem pointersOf_append (message : String) (found more : List Finding) :
    pointersOf message (found ++ more) = pointersOf message found ++ pointersOf message more := by
  simp [pointersOf]

theorem pointersOf_eq_nil {message : String} {found : List Finding}
    (h : ∀ f ∈ found, f.message ≠ message) : pointersOf message found = [] := by
  unfold pointersOf
  rw [List.map_eq_nil_iff, List.filter_eq_nil_iff]
  intro f hf
  simpa using h f hf

/-- One check for each claim: it points to the claims of which the condition holds. -/
theorem pointersOf_flags {P : Claim → Nat → Prop} [∀ claim index, Decidable (P claim index)]
    {Q : Nat → Prop} [DecidablePred Q] {pointer : Nat → String} {message : String}
    (claims : List Claim) (finding : Claim → Nat → Finding)
    (hPQ : ∀ claim index, claims[index]? = some claim → (P claim index ↔ Q index))
    (hmessage : ∀ claim index, (finding claim index).message = message)
    (hpointer : ∀ claim index, (finding claim index).pointer = pointer index) :
    pointersOf message (claims.zipIdx.flatMap fun entry =>
        flag (P entry.1 entry.2) (finding entry.1 entry.2)) =
      ((List.range claims.length).filter fun index => Q index).map pointer := by
  have hindices : List.range claims.length = claims.zipIdx.map Prod.snd := by
    rw [List.zipIdx_map_snd, List.range_eq_range']
  have hmem : ∀ entry ∈ claims.zipIdx, (P entry.1 entry.2 ↔ Q entry.2) :=
    fun entry hentry => hPQ _ _ (List.mk_mem_zipIdx_iff_getElem?.mp hentry)
  rw [hindices]
  generalize claims.zipIdx = entries at hmem
  induction entries with
  | nil => rfl
  | cons entry rest ih =>
    have hrest := ih fun other hother => hmem other (List.mem_cons_of_mem _ hother)
    have hentry := hmem entry List.mem_cons_self
    rw [List.flatMap_cons, pointersOf_append, hrest, List.map_cons, List.filter_cons]
    by_cases hQ : Q entry.2
    · simp [flag, hentry, hQ, pointersOf, hmessage, hpointer]
    · simp [flag, hentry, hQ, pointersOf]

/-- A finding of the claim graph with that message. -/
def GraphFinding (message : String) (f : Finding) : Prop :=
  f.message = message ∧ f.code = .claimReachability

theorem duplicateClaims_kind : ∀ f ∈ duplicateClaims claims, GraphFinding duplicateMessage f := by
  intro f hf
  obtain ⟨entry, _, hflag⟩ := List.mem_flatMap.mp hf
  exact (forall_mem_flag (P := GraphFinding duplicateMessage)).mpr (fun _ => ⟨rfl, rfl⟩) f hflag

theorem missingSupportFindings_kind :
    ∀ f ∈ missingSupportFindings claims, GraphFinding missingMessage f := by
  intro f hf
  obtain ⟨entry, _, hflag⟩ := List.mem_flatMap.mp hf
  exact (forall_mem_flag (P := GraphFinding missingMessage)).mpr (fun _ => ⟨rfl, rfl⟩) f hflag

theorem cycleFindings_kind : ∀ f ∈ cycleFindings claims, GraphFinding cycleMessage f := by
  intro f hf
  obtain ⟨id, hid⟩ := mem_cycleFindings hf
  rw [hid]
  exact ⟨rfl, rfl⟩

/-- Findings of another kind do not show. -/
theorem pointersOf_other {message other : String} {found : List Finding}
    (h : ∀ f ∈ found, GraphFinding other f) (hne : other ≠ message) :
    pointersOf message found = [] :=
  pointersOf_eq_nil fun f hf heq => hne ((h f hf).1.symm.trans heq)

/-- The three messages differ. -/
theorem messages_ne : missingMessage ≠ duplicateMessage ∧ cycleMessage ≠ duplicateMessage ∧
    duplicateMessage ≠ missingMessage ∧ cycleMessage ≠ missingMessage ∧
    duplicateMessage ≠ cycleMessage ∧ missingMessage ≠ cycleMessage := by decide

theorem missingSupports_ne_nil {claim : Claim} {index : Nat} (h : claims[index]? = some claim) :
    missingSupports claims claim ≠ [] ↔ LacksSupport claims index := by
  simp [LacksSupport, missingSupports, claimIds, h]

/-- An ID is repeated when a claim after its first one has it. -/
theorem repeated_iff (claims : List Claim) (id : Identifier) :
    (∃ index claim, claims[index]? = some claim ∧ claim.claimId = id ∧ RepeatsId claims index) ↔
      2 ≤ (claims.map Claim.claimId).count id := by
  rw [← List.duplicate_iff_two_le_count, List.duplicate_iff_exists_distinct_get]
  constructor
  · intro h
    obtain ⟨index, claim, hclaim, hid, again, hagain, hearlier⟩ := h
    have hsame : claim = again := Option.some.inj (hclaim.symm.trans hagain)
    subst hsame
    obtain ⟨first, hfirst, hfid⟩ := List.mem_map.mp hearlier
    obtain ⟨i, hi, hget⟩ := List.mem_take_iff_getElem.mp hfirst
    obtain ⟨hlt, hclaim⟩ := List.getElem?_eq_some_iff.mp hclaim
    refine ⟨⟨i, by rw [List.length_map]; omega⟩, ⟨index, by rw [List.length_map]; exact hlt⟩, ?_⟩
    refine ⟨?_, by simp [hget, hfid, hid], by simp [hclaim, hid]⟩
    show i < index
    omega
  · intro h
    obtain ⟨i, j, hij, hi, hj⟩ := h
    have hlt : j.val < claims.length := by simpa using j.isLt
    have hij : i.val < j.val := hij
    refine ⟨j.val, claims[j.val], List.getElem?_eq_getElem hlt, by simpa using hj.symm,
      claims[j.val], List.getElem?_eq_getElem hlt, ?_⟩
    have hsame : claims[i.val].claimId = claims[j.val].claimId := by simpa using hi.symm.trans hj
    rw [← hsame]
    exact List.mem_map_of_mem (List.mem_take_iff_getElem.mpr ⟨i.val, by omega, rfl⟩)

end FinanceResearch
