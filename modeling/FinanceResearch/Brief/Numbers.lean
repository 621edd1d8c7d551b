import FinanceResearch.Brief.Grounding
import FinanceResearch.Lib.DepthFirst

/-!
# The numbers a claim may state

`_numeric_bindings` of `domain/validation.py` as it recurses: every call marks its
claim in one shared `visited` set, then returns the bindings of its own records and
those of the calls on the claims it rests on. A claim of another field or unit than
the root's is marked too, and leads on to nothing.

The payoff is `numericBindingsFrom_exact`: whatever the claim graph looks like (cycles,
shared supports, missing claims, repeated IDs), the bindings of a claim are those
the packet states of a claim it rests on through claims of its own field and unit,
and two nested calls more than there are claims are enough for that. The worklist
that `numericBindings` runs has the same members (`mem_numericBindings`).

Mirroring notes vs the source:
- `claim_map` holds the first claim of each ID. The root need not be that one: it
  stands for its own ID, since that ID is marked before any other call.
- `fuel` is the depth of nested calls; the source has no bound but the
  interpreter's.
-/

namespace FinanceResearch

/-- `_numeric_bindings` with its three inner arguments: `visited` after the call,
and what it returns. -/
def numericBindingsFrom (u : CharacterDatabase) (packet : ResearchPacket) (claims : List Claim)
    (rootField rootUnit : Option Identifier) :
    Nat → List Identifier → Claim → List Identifier × List (Decimal × String)
  | 0, visited, _ => (visited, [])
  | fuel + 1, visited, claim =>
    if claim.claimId ∈ visited then (visited, [])
    else if claim.field ≠ rootField ∨ claim.unit ≠ rootUnit then (claim.claimId :: visited, [])
    else
      claim.supportsClaimIds.foldl
        (fun state supportingId =>
          match claimById claims supportingId with
          | none => state
          | some supporting =>
            let found := numericBindingsFrom u packet claims rootField rootUnit fuel state.1 supporting
            (found.1, state.2 ++ found.2))
        (claim.claimId :: visited, claimBindings u packet claims claim)

/-! ## What the packet states of a claim -/

/-- Evidence the claim rests on. -/
def EvidenceReaches (claims : List Claim) (claim : Claim) (evidenceId : Identifier) : Prop :=
  evidenceId ∈ claim.evidenceIds ∨
    ∃ start ∈ claim.supportsClaimIds, ∃ id supporting,
      Worklist.Reaches (supportsOf claims) start id ∧ claimById claims id = some supporting ∧
        evidenceId ∈ supporting.evidenceIds

/-- A number with its unit, in a record of the packet about the claim's field. -/
inductive States (u : CharacterDatabase) (packet : ResearchPacket) (claims : List Claim)
    (claim : Claim) : Decimal × String → Prop
  | evidence {evidenceId field : Identifier} {item : EvidenceItem} {binding : Decimal × String} :
      EvidenceReaches claims claim evidenceId →
      packet.evidence.find? (fun item => item.evidenceId = evidenceId) = some item →
      claim.field = some field → binding ∈ evidenceBindings u field item →
      States u packet claims claim binding
  | metric {metricId field : Identifier} {metric : MetricResult} {value : Decimal} :
      metricId ∈ claim.metricIds → packet.metricById metricId = some metric →
      claim.field = some field → field.text = metric.name.value → metric.value = some value →
      States u packet claims claim (value, metric.unit.value)
  | plan {planId : Identifier} {plan : TradePlanDraft} {binding : Decimal × String} :
      claim.planId = some planId → packet.planById planId = some plan →
      planNumericBinding claim plan = some binding →
      States u packet claims claim binding

/-- The claims a root rests on, through claims of its field and unit. -/
inductive RestsAlike (claims : List Claim) (root : Claim) : Claim → Prop
  | root : RestsAlike claims root root
  | supports {claim supporting : Claim} {id : Identifier} :
      RestsAlike claims root claim → id ∈ claim.supportsClaimIds → id ≠ root.claimId →
      claimById claims id = some supporting → supporting.field = root.field →
      supporting.unit = root.unit → RestsAlike claims root supporting

variable {u : CharacterDatabase} {packet : ResearchPacket} {claims : List Claim} {root : Claim}

theorem mem_claimBindings {claim : Claim} {binding : Decimal × String} :
    binding ∈ claimBindings u packet claims claim ↔ States u packet claims claim binding := by
  unfold claimBindings
  simp only [List.mem_append, List.mem_flatMap, List.mem_filterMap, Option.mem_toList]
  constructor
  · rintro ((⟨evidenceId, hreach, hmem⟩ | ⟨metricId, hid, hmetric⟩) | hplan)
    · split at hmem
      next item field hitem hfield =>
        exact .evidence (mem_reachableSources.mp hreach) hitem hfield hmem
      next => exact absurd hmem List.not_mem_nil
    · obtain ⟨metric, hfound, hvalue⟩ := Option.bind_eq_some_iff.mp hmetric
      split at hvalue
      next hfield =>
        obtain ⟨field, hfield, hname⟩ := (Option.any_eq_true _ _).mp hfield
        obtain ⟨value, hsome, rfl⟩ := Option.map_eq_some_iff.mp hvalue
        exact .metric hid hfound hfield (of_decide_eq_true hname) hsome
      next => cases hvalue
    · obtain ⟨plan, hplan, hbinding⟩ := Option.bind_eq_some_iff.mp hplan
      obtain ⟨planId, hid, hplan⟩ := Option.bind_eq_some_iff.mp hplan
      exact .plan hid hplan hbinding
  · rintro (⟨hreach, hitem, hfield, hmem⟩ | ⟨hid, hmetric, hfield, hname, hvalue⟩ | ⟨hid, hplan, hbinding⟩)
    · refine Or.inl (Or.inl ⟨_, mem_reachableSources.mpr hreach, ?_⟩)
      rw [hitem, hfield]
      exact hmem
    · refine Or.inl (Or.inr ⟨_, hid, ?_⟩)
      rw [hmetric, Option.bind_some, hfield, Option.any_some, if_pos (decide_eq_true hname), hvalue]
      rfl
    · refine Or.inr ?_
      rw [hid, Option.bind_some, hplan, Option.bind_some, hbinding]

/-! ## The recursion over IDs -/

/-- The claim that stands for an ID below `root`. -/
def standingFor (claims : List Claim) (root : Claim) (id : Identifier) : Option Claim :=
  (if id = root.claimId then some root else claimById claims id).filter fun claim =>
    decide (claim.field = root.field ∧ claim.unit = root.unit)

/-- The supports of an ID that are claims. -/
def knownSupports (claims : List Claim) (root : Claim) (id : Identifier) : List Identifier :=
  ((standingFor claims root id).map fun claim =>
    claim.supportsClaimIds.filter fun support => (claimById claims support).isSome).getD []

/-- The bindings of the claim of an ID. -/
def bindingsAt (u : CharacterDatabase) (packet : ResearchPacket) (claims : List Claim) (root : Claim)
    (id : Identifier) : List (Decimal × String) :=
  ((standingFor claims root id).map (claimBindings u packet claims)).getD []

theorem standingFor_root : standingFor claims root root.claimId = some root := by
  simp [standingFor]

theorem standingFor_of_ne {id : Identifier} (hid : id ≠ root.claimId) {claim : Claim} :
    standingFor claims root id = some claim ↔
      claimById claims id = some claim ∧ claim.field = root.field ∧ claim.unit = root.unit := by
  simp [standingFor, if_neg hid, Option.filter_eq_some_iff]

/-- Only an ID of a claim, or of the root, leads on. -/
theorem knownSupports_known (claims : List Claim) (root : Claim) :
    ∀ id, knownSupports claims root id ≠ [] → id ∈ root.claimId :: claimIds claims := by
  intro id hne
  by_cases hid : id = root.claimId
  · exact hid ▸ List.mem_cons_self
  · apply List.mem_cons_of_mem
    rw [← isSome_claimById]
    cases hclaim : claimById claims id with
    | some claim => rfl
    | none =>
      have hat : standingFor claims root id = none := by
        rw [standingFor, if_neg hid, hclaim]
        rfl
      rw [knownSupports, hat] at hne
      exact absurd rfl hne

/-- The calls below the root are calls on the IDs: every one of them is on the root or,
with the root marked, on the claim its ID stands for. -/
theorem numericBindingsFrom_eq_visit (u : CharacterDatabase) (packet : ResearchPacket) (claims : List Claim)
    (root : Claim) : ∀ (fuel : Nat) (visited : List Identifier) (claim : Claim),
      (claim = root ∨ root.claimId ∈ visited ∧ claimById claims claim.claimId = some claim) →
      numericBindingsFrom u packet claims root.field root.unit fuel visited claim =
        DepthFirst.visit (knownSupports claims root) (bindingsAt u packet claims root) fuel visited
          claim.claimId
  | 0, _, _, _ => rfl
  | fuel + 1, visited, claim, hstands => by
    rw [DepthFirst.visit_succ, numericBindingsFrom]
    by_cases hmem : claim.claimId ∈ visited
    · rw [if_pos hmem, if_pos hmem]
    · rw [if_neg hmem, if_neg hmem]
      have hat : standingFor claims root claim.claimId =
          (some claim).filter fun claim => decide (claim.field = root.field ∧ claim.unit = root.unit) := by
        rcases hstands with rfl | ⟨hroot, hclaim⟩
        · rw [standingFor, if_pos rfl]
        · have hne : claim.claimId ≠ root.claimId := fun heq => hmem (by rwa [heq])
          rw [standingFor, if_neg hne, hclaim]
      by_cases hsame : claim.field = root.field ∧ claim.unit = root.unit
      · have hnot : ¬ (claim.field ≠ root.field ∨ claim.unit ≠ root.unit) := by
          simp [hsame]
        have hsome : standingFor claims root claim.claimId = some claim := by
          rw [hat]
          exact Option.filter_eq_some_iff.mpr ⟨rfl, decide_eq_true hsame⟩
        have hroot : root.claimId ∈ claim.claimId :: visited := by
          rcases hstands with rfl | ⟨hroot, -⟩
          · exact List.mem_cons_self
          · exact List.mem_cons_of_mem _ hroot
        rw [if_neg hnot, knownSupports, bindingsAt, hsome, Option.map_some, Option.map_some,
          Option.getD_some, Option.getD_some]
        generalize claimBindings u packet claims claim = bindings
        generalize claim.claimId :: visited = marked at hroot ⊢
        -- the marks only grow, so the root stays marked along the supports
        induction claim.supportsClaimIds generalizing marked bindings with
        | nil => rfl
        | cons id rest ih =>
          cases hid : claimById claims id with
          | none =>
            rw [List.foldl_cons, List.filter_cons_of_neg (by simp [hid])]
            simp only [hid]
            exact ih bindings marked hroot
          | some supporting =>
            have hown : supporting.claimId = id := (claimById_mem hid).2
            have hcall := numericBindingsFrom_eq_visit u packet claims root fuel marked supporting
              (Or.inr ⟨hroot, hown.symm ▸ hid⟩)
            rw [List.foldl_cons, List.filter_cons_of_pos (by simp [hid]), DepthFirst.visitAll_cons]
            simp only [hid]
            rw [hcall, hown]
            exact ih _ _ (DepthFirst.visit_marks _ _ fuel marked id root.claimId hroot)
      · have hnot : claim.field ≠ root.field ∨ claim.unit ≠ root.unit := by
          by_contra hno
          exact hsame (by simpa using hno)
        have hnone : standingFor claims root claim.claimId = none := by
          rw [hat]
          refine Option.filter_eq_none_iff.mpr ?_
          intro _ heq
          cases heq
          simpa using hsame
        rw [if_pos hnot, knownSupports, bindingsAt, hnone]
        rfl

/-! ## The claims reached -/

/-- Reaching the IDs of claims is resting on them, when every step leads from the claim of
an ID to an ID it supports, and to all of those that are claims. -/
theorem reaches_iff_restsAlike {succ : Identifier → List Identifier}
    (hfrom : ∀ id y, y ∈ succ id → ∃ claim, standingFor claims root id = some claim ∧ y ∈ claim.supportsClaimIds)
    (hto : ∀ id claim y, standingFor claims root id = some claim → y ∈ claim.supportsClaimIds →
      (claimById claims y).isSome → y ∈ succ id) {claim : Claim} :
    (∃ id, Worklist.Reaches succ root.claimId id ∧ standingFor claims root id = some claim) ↔
      RestsAlike claims root claim := by
  constructor
  · rintro ⟨id, hreach, hat⟩
    induction hreach generalizing claim with
    | refl =>
      cases standingFor_root.symm.trans hat
      exact .root
    | @tail between id _ hstep ih =>
      by_cases hid : id = root.claimId
      · subst hid
        cases standingFor_root.symm.trans hat
        exact .root
      · obtain ⟨above, habove, hsupports⟩ := hfrom between id hstep
        obtain ⟨hclaim, hfield, hunit⟩ := (standingFor_of_ne hid).mp hat
        exact .supports (ih habove) hsupports hid hclaim hfield hunit
  · intro hrests
    induction hrests with
    | root => exact ⟨root.claimId, .refl, standingFor_root⟩
    | @supports above supporting id _ hsupports hid hclaim hfield hunit ih =>
      obtain ⟨between, hreach, habove⟩ := ih
      refine ⟨id, hreach.tail (hto between above id habove hsupports ?_), ?_⟩
      · rw [hclaim]
        rfl
      · exact (standingFor_of_ne hid).mpr ⟨hclaim, hfield, hunit⟩

theorem mem_bindingsAt {succ : Identifier → List Identifier}
    (hrests : ∀ claim, (∃ id, Worklist.Reaches succ root.claimId id ∧ standingFor claims root id = some claim) ↔
      RestsAlike claims root claim) {binding : Decimal × String} :
    (∃ id, Worklist.Reaches succ root.claimId id ∧ binding ∈ bindingsAt u packet claims root id) ↔
      ∃ claim, RestsAlike claims root claim ∧ States u packet claims claim binding := by
  constructor
  · rintro ⟨id, hreach, hmem⟩
    unfold bindingsAt at hmem
    cases hat : standingFor claims root id with
    | none =>
      rw [hat] at hmem
      exact absurd hmem List.not_mem_nil
    | some claim =>
      rw [hat] at hmem
      exact ⟨claim, (hrests claim).mp ⟨id, hreach, hat⟩, mem_claimBindings.mp hmem⟩
  · rintro ⟨claim, hclaim, hstates⟩
    obtain ⟨id, hreach, hat⟩ := (hrests claim).mpr hclaim
    refine ⟨id, hreach, ?_⟩
    rw [bindingsAt, hat]
    exact mem_claimBindings.mpr hstates

theorem mem_knownSupports {id y : Identifier} : y ∈ knownSupports claims root id ↔
    ∃ claim, standingFor claims root id = some claim ∧ y ∈ claim.supportsClaimIds ∧
      (claimById claims y).isSome = true := by
  unfold knownSupports
  cases standingFor claims root id with
  | none => simp
  | some claim => simp [List.mem_filter]

/-- **`_numeric_bindings` returns exactly the numbers that the packet states of a claim the root
rests on through claims of its field and unit**, on every claim graph and however deep calls may
nest beyond one for each claim. -/
theorem numericBindingsFrom_exact (u : CharacterDatabase) (packet : ResearchPacket) (claims : List Claim)
    (root : Claim) (extra : Nat) (binding : Decimal × String) :
    binding ∈ (numericBindingsFrom u packet claims root.field root.unit (claims.length + 2 + extra) [] root).2 ↔
      ∃ claim, RestsAlike claims root claim ∧ States u packet claims claim binding := by
  have hfuel : (root.claimId :: claimIds claims).length < claims.length + 2 + extra := by
    have hids : (claimIds claims).length ≤ claims.length := by
      have hdedup := (List.dedup_sublist (claims.map Claim.claimId)).length_le
      rwa [List.length_map] at hdedup
    rw [List.length_cons]
    omega
  rw [numericBindingsFrom_eq_visit u packet claims root _ [] root (Or.inl rfl),
    DepthFirst.mem_visit (knownSupports_known claims root) hfuel]
  apply mem_bindingsAt
  intro claim
  apply reaches_iff_restsAlike
  · intro id y hy
    obtain ⟨above, habove, hsupports, -⟩ := mem_knownSupports.mp hy
    exact ⟨above, habove, hsupports⟩
  · intro id above y habove hsupports hknown
    exact mem_knownSupports.mpr ⟨above, habove, hsupports, hknown⟩

/-- The worklist of `numericBindings` finds the same. -/
theorem mem_numericBindings {binding : Decimal × String} :
    binding ∈ numericBindings u packet claims root ↔
      ∃ claim, RestsAlike claims root claim ∧ States u packet claims claim binding := by
  have hsupports : ∀ id, ((standingFor claims root id).map Claim.supportsClaimIds).getD [] ≠ [] →
      id ∈ (root.claimId :: claimIds claims).dedup := by
    intro id hne
    rw [List.mem_dedup]
    by_cases hid : id = root.claimId
    · exact hid ▸ List.mem_cons_self
    · apply List.mem_cons_of_mem
      rw [← isSome_claimById]
      cases hclaim : claimById claims id with
      | some claim => rfl
      | none =>
        rw [standingFor, if_neg hid, hclaim] at hne
        exact absurd rfl hne
  have hmem : ∀ id, id ∈ Worklist.collect
      (fun id => ((standingFor claims root id).map Claim.supportsClaimIds).getD [])
      (fun rest new => new ++ rest)
      (Worklist.enough (fun id => ((standingFor claims root id).map Claim.supportsClaimIds).getD [])
        (root.claimId :: claimIds claims).dedup [root.claimId]) [] [root.claimId] ↔
      Worklist.Reaches (fun id => ((standingFor claims root id).map Claim.supportsClaimIds).getD [])
        root.claimId id := by
    intro id
    rw [Worklist.mem_collect (List.nodup_dedup _) hsupports fun _ _ => List.perm_append_comm]
    simp only [List.mem_singleton, exists_eq_left]
  have hcollect : binding ∈ numericBindings u packet claims root ↔
      ∃ id, Worklist.Reaches (fun id => ((standingFor claims root id).map Claim.supportsClaimIds).getD [])
        root.claimId id ∧ binding ∈ bindingsAt u packet claims root id := by
    rw [numericBindings, List.mem_flatMap]
    exact exists_congr fun id => and_congr_left fun _ => hmem id
  rw [hcollect]
  apply mem_bindingsAt
  intro claim
  apply reaches_iff_restsAlike
  · intro id y hy
    cases hat : standingFor claims root id with
    | none =>
      rw [hat] at hy
      exact absurd hy List.not_mem_nil
    | some above =>
      rw [hat] at hy
      exact ⟨above, rfl, hy⟩
  · intro id above y habove hsupports _
    show y ∈ ((standingFor claims root id).map Claim.supportsClaimIds).getD []
    rw [habove]
    exact hsupports

end FinanceResearch
