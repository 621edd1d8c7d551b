import FinanceResearch.Quality.Monotone

/-!
# Results that contradict themselves

`evaluate_data_quality` computes the status of the run, the capabilities and the plan
statuses of symbols along three paths, and `DataQualityResult` checks each against the
others. The paths agree: the two dictionaries by symbol move together (`Coherent`), and a
failed run has lost the plan drafts. What is left is the syntax of the symbols, where
historical failures have a wider rule than the result.
-/

namespace FinanceResearch

open Fallible

/-! ## Plan statuses of restricted symbols -/

namespace Disabled

instance (disabled : Disabled) (c : Capability) : Decidable (disabled.Blocks c) :=
  inferInstanceAs (Decidable (_ ≠ _))

/-- The plan status that goes with what a symbol has lost. -/
def planStatus (disabled : Disabled) : PlanStatus :=
  if disabled.Blocks .planDraftAvailable then .blocked
  else if ∃ c ∈ Capability.all, disabled.Blocks c then .reviewRequired
  else .draft

theorem exists_blocks_all {disabled : Disabled} :
    (∃ c ∈ Capability.all, disabled.Blocks c) ↔ ∃ c, disabled.Blocks c := by
  simp [Capability.mem_all]

theorem planStatus_of_blocks {disabled : Disabled} (h : disabled.Blocks .planDraftAvailable) :
    disabled.planStatus = .blocked := if_pos h

theorem planStatus_of_some {disabled : Disabled} (hplan : ¬ disabled.Blocks .planDraftAvailable)
    (h : ∃ c, disabled.Blocks c) : disabled.planStatus = .reviewRequired := by
  rw [planStatus, if_neg hplan, if_pos (exists_blocks_all.mpr h)]

theorem planStatus_of_none {disabled : Disabled} (h : ¬ ∃ c, disabled.Blocks c) :
    disabled.planStatus = .draft := by
  rw [planStatus, if_neg (not_exists.mp h _), if_neg (mt exists_blocks_all.mp h)]

/-- A restriction of a symbol raises its status to the one that goes with its losses. -/
theorem strongest_planStatus (disabled : Disabled) (capabilities : List Capability)
    (reason : ErrorCode) :
    strongestPlanStatus (some disabled.planStatus) (candidateStatus capabilities) =
      .ok (disabled.disable capabilities reason).planStatus := by
  have hblocks (c : Capability) : (disabled.disable capabilities reason).Blocks c ↔
      c ∈ capabilities ∨ disabled.Blocks c := blocks_disable
  by_cases hplan : disabled.Blocks .planDraftAvailable
  · -- Nothing is stronger than a blocked plan.
    rw [planStatus_of_blocks hplan, planStatus_of_blocks ((hblocks _).mpr (Or.inr hplan))]
    unfold candidateStatus
    split
    · rfl
    · split <;> rfl
  by_cases hnew : Capability.planDraftAvailable ∈ capabilities
  · rw [planStatus_of_blocks ((hblocks _).mpr (Or.inl hnew)), candidateStatus, if_pos hnew]
    unfold planStatus
    rw [if_neg hplan]
    split <;> rfl
  have hfree : ¬ (disabled.disable capabilities reason).Blocks .planDraftAvailable := by
    rw [hblocks]
    exact not_or.mpr ⟨hnew, hplan⟩
  rw [candidateStatus, if_neg hnew]
  by_cases hempty : capabilities = []
  · subst hempty
    rw [if_neg (not_not.mpr rfl)]
    show strongestPlanStatus (some disabled.planStatus) .draft = .ok disabled.planStatus
    unfold planStatus
    rw [if_neg hplan]
    split <;> rfl
  · obtain ⟨c, hc⟩ := List.exists_mem_of_ne_nil _ hempty
    rw [if_pos hempty, planStatus_of_some hfree ⟨c, (hblocks c).mpr (Or.inl hc)⟩]
    unfold planStatus
    rw [if_neg hplan]
    split <;> rfl

theorem planStatus_empty : Disabled.empty.planStatus = .draft :=
  planStatus_of_none fun h => h.elim not_blocks_empty

/-- The first restriction of a symbol sets the status that goes with it. -/
theorem candidateStatus_eq (capabilities : List Capability) (reason : ErrorCode) :
    candidateStatus capabilities = (Disabled.empty.disable capabilities reason).planStatus := by
  have h := strongest_planStatus .empty capabilities reason
  rw [planStatus_empty] at h
  have hdraft : strongestPlanStatus (some .draft) (candidateStatus capabilities) =
      .ok (candidateStatus capabilities) := by
    unfold candidateStatus
    split
    · rfl
    · split <;> rfl
  rw [hdraft] at h
  exact Except.ok.inj h

end Disabled

/-! ## The dictionaries move together -/

/-- Writing an entry commutes with reading every value through `f`. -/
theorem FrozenMap.setItem_map {β γ : Type} (f : β → γ) (name : String) (value : β) :
    ∀ items : List (String × β),
      setItem (items.map fun item => (item.1, f item.2)) name (f value) =
        (setItem items name value).map fun item => (item.1, f item.2)
  | [] => rfl
  | (key, old) :: rest => by
    rw [List.map_cons, setItem, setItem]
    by_cases heq : name = key
    · rw [if_pos heq, if_pos heq]
      rfl
    rw [if_neg heq, if_neg heq]
    by_cases hlt : name < key
    · rw [if_pos hlt, if_pos hlt]
      rfl
    · rw [if_neg hlt, if_neg hlt, setItem_map f name value rest]
      rfl

theorem SymbolDict.map_set {β γ : Type} (f : β → γ) (dict : SymbolDict β) (symbol : String)
    (value : β) : (dict.set symbol value).map f = (dict.map f).set symbol (f value) := by
  unfold SymbolDict.set SymbolDict.map
  simp only [FrozenMap.setItem_map]

theorem SymbolDict.freeze_of_length {β : Type} {dict : SymbolDict β}
    (h : dict.items.length ≤ 128) : dict.freeze = .ok ⟨dict.items, dict.sorted, h⟩ := dif_pos h

namespace SymbolScopes

/-- Each symbol has the plan status that goes with what it has lost. -/
def Coherent (scopes : SymbolScopes) : Prop := scopes.status = scopes.disabled.map Disabled.planStatus

theorem coherent_empty : empty.Coherent := rfl

/-- A restriction with the status of its capabilities succeeds and keeps this. -/
theorem Coherent.restrict {scopes : SymbolScopes} (h : scopes.Coherent) (symbol : String)
    (capabilities : List Capability) (reason : ErrorCode) :
    ∃ next, scopes.restrict symbol capabilities reason (candidateStatus capabilities) = .ok next ∧
      next.Coherent := by
  have hstrongest :
      strongestPlanStatus (scopes.status.get? symbol) (candidateStatus capabilities) =
        .ok ((scopes.disabledOf symbol).disable capabilities reason).planStatus := by
    rw [h, SymbolDict.get?_map, disabledOf]
    cases scopes.disabled.get? symbol with
    | none => exact congrArg Except.ok (Disabled.candidateStatus_eq capabilities reason)
    | some disabled => exact disabled.strongest_planStatus capabilities reason
  refine ⟨_, bind_eq_ok.mpr ⟨_, hstrongest, rfl⟩, ?_⟩
  show scopes.status.set symbol _ = (scopes.disabled.set symbol _).map Disabled.planStatus
  rw [h, SymbolDict.map_set]

end SymbolScopes

namespace QualityInput

/-- The checks of the input that `evaluate_data_quality` makes itself. -/
structure Passes (input : QualityInput) : Prop where
  roles : validateSourceRoles input.sourceRoles input.sourceHealth
    (input.providerFailures ++ input.currentPriceFailures) = .ok ⟨⟩
  health : validateSourceHealth input.sourceHealth = .ok ⟨⟩
  priced : ∀ failure ∈ input.currentPriceFailures, failure.symbol.isSome = true

/-- The three loops succeed on such an input. -/
theorem Passes.exists_scopes {input : QualityInput} (h : input.Passes) :
    ∃ scopes, input.scopes = .ok scopes ∧ scopes.Coherent := by
  obtain ⟨first, hfirst, hone⟩ : ∃ final,
      input.providerFailures.foldlM SymbolScopes.addProviderFailure .empty = .ok final ∧
        final.Coherent := by
    refine foldlM_total ?_ SymbolScopes.coherent_empty
    intro scopes hscopes failure _
    unfold SymbolScopes.addProviderFailure
    cases failure.symbol with
    | none => exact ⟨scopes, rfl, hscopes⟩
    | some symbol => exact hscopes.restrict symbol.text _ failure.errorCode
  obtain ⟨second, hsecond, htwo⟩ : ∃ final,
      input.historicalFailures.foldlM SymbolScopes.addHistoricalFailure first = .ok final ∧
        final.Coherent := by
    refine foldlM_total ?_ hone
    intro scopes hscopes failure _
    exact hscopes.restrict failure.symbol fullSymbolCapabilities (historicalFailureCode failure)
  obtain ⟨third, hthird, hthree⟩ : ∃ final,
      input.currentPriceFailures.foldlM SymbolScopes.addPriceFailure second = .ok final ∧
        final.Coherent := by
    refine foldlM_total ?_ htwo
    intro scopes hscopes failure hfailure
    obtain ⟨symbol, hsymbol⟩ := Option.isSome_iff_exists.mp (h.priced failure hfailure)
    unfold SymbolScopes.addPriceFailure
    rw [hsymbol]
    exact hscopes.restrict symbol.text [.positionSizingAvailable] failure.errorCode
  exact ⟨third, bind_eq_ok.mpr ⟨first, hfirst, bind_eq_ok.mpr ⟨second, hsecond, hthird⟩⟩, hthree⟩

/-- The symbols of the failures, in the order of the loops. -/
def symbols (input : QualityInput) : List String :=
  input.providerFailures.filterMap (fun failure => failure.symbol.map Symbol.text) ++
    input.historicalFailures.map HistoricalBarsFailure.symbol ++
    input.currentPriceFailures.filterMap fun failure => failure.symbol.map Symbol.text

theorem mem_symbols {input : QualityInput} {symbol : String} :
    symbol ∈ input.symbols ↔ input.Restricts fun other _ => symbol = other := by
  have htexts (failures : List ProviderFailure) :
      symbol ∈ failures.filterMap (fun failure => failure.symbol.map Symbol.text) ↔
        ∃ failure ∈ failures, ∃ name, failure.symbol = some name ∧ symbol = name.text := by
    simp only [List.mem_filterMap, Option.map_eq_some_iff, eq_comm (a := symbol)]
  have hhistorical : symbol ∈ input.historicalFailures.map HistoricalBarsFailure.symbol ↔
      ∃ failure ∈ input.historicalFailures, symbol = failure.symbol := by
    simp only [List.mem_map, eq_comm (a := symbol)]
  rw [symbols, List.mem_append, List.mem_append, htexts, htexts, hhistorical, or_comm,
    or_comm (b := ∃ failure ∈ input.historicalFailures, symbol = failure.symbol)]
  rfl

end QualityInput

/-- An entry is there for the symbols of the failures. -/
theorem SymbolScopes.keys_restrict (symbol : String) (scopes : SymbolScopes) (other : String)
    (capabilities : List Capability) (reason : ErrorCode) (candidate : PlanStatus)
    (next : SymbolScopes) (h : scopes.restrict other capabilities reason candidate = .ok next) :
    symbol ∈ next.disabled.items.map Prod.fst ↔
      symbol = other ∨ symbol ∈ scopes.disabled.items.map Prod.fst := by
  rw [restrict_disabled h]
  exact FrozenMap.mem_setItem_keys

theorem QualityInput.mem_keys {input : QualityInput} {scopes : SymbolScopes}
    (h : input.scopes = .ok scopes) {symbol : String} :
    symbol ∈ scopes.disabled.items.map Prod.fst ↔ symbol ∈ input.symbols := by
  rw [mem_symbols]
  exact scopes_iff (Q := fun scopes => symbol ∈ scopes.disabled.items.map Prod.fst)
    (SymbolScopes.keys_restrict symbol) List.not_mem_nil h

/-- There are no more entries than distinct symbols. -/
theorem QualityInput.length_entries_le {input : QualityInput} {scopes : SymbolScopes}
    (h : input.scopes = .ok scopes) :
    scopes.disabled.items.length ≤ input.symbols.eraseDups.length := by
  have hnodup : (scopes.disabled.items.map Prod.fst).Nodup :=
    scopes.disabled.sorted.imp fun hlt => ne_of_lt hlt
  have hsubset : scopes.disabled.items.map Prod.fst ⊆ input.symbols.eraseDups := by
    intro symbol hsymbol
    exact List.mem_eraseDups.mpr ((mem_keys h).mp hsymbol)
  have hle := (List.subperm_of_subset hnodup hsubset).length_le
  rwa [List.length_map] at hle

/-! ## The validator of the result -/

/-- The symbol of a provider failure is one of the result. -/
theorem Symbol.isSymbolText (symbol : Symbol) : isSymbolText symbol.text = true := by
  rw [FinanceResearch.isSymbolText, symbol.legal.2.1, symbol.legal.2.2]
  rfl

/-- A symbol whose status goes with its losses fails on its syntax only. -/
theorem checkSymbol_iff {statuses : FrozenMap PlanStatus} {symbol : String} {disabled : Disabled}
    (h : statuses.get? symbol = some disabled.planStatus) :
    checkSymbol statuses (symbol, capabilityStates disabled) = .ok ⟨⟩ ↔
      isSymbolText symbol = true := by
  unfold checkSymbol
  simp only [h]
  by_cases hsyntax : isSymbolText symbol = false
  · rw [if_pos hsyntax, hsyntax]
    constructor
    · intro h
      cases h
    · intro h
      cases h
  rw [if_neg hsyntax]
  refine iff_of_true ?_ (Bool.not_eq_false _ ▸ hsyntax)
  by_cases hplan : disabled.Blocks .planDraftAvailable
  · rw [planAvailable_capabilityStates.mpr hplan, Disabled.planStatus_of_blocks hplan]
    rfl
  have havailable : planAvailable (capabilityStates disabled) = true := by
    rw [← Bool.not_eq_false, planAvailable_capabilityStates]
    exact hplan
  rw [havailable]
  by_cases hsome : ∃ c, disabled.Blocks c
  · have hall : (capabilityStates disabled).all CapabilityState.available = false := by
      rw [← Bool.not_eq_true, all_available_capabilityStates]
      exact fun hnone => hsome.elim hnone
    rw [hall, Disabled.planStatus_of_some hplan hsome]
    rfl
  · rw [all_available_capabilityStates.mpr (not_exists.mp hsome),
      Disabled.planStatus_of_none hsome]
    rfl

/-! ## A failed run -/

theorem role_needs_plan (role : SourceRole) : ∃ entry ∈ healthRoleProviders, entry.1 = role ∧
    .planDraftAvailable ∈ dependencies (entry.2.headD "") true := by
  cases role <;> decide

/-- A role without valid health costs the plan drafts. -/
theorem blocks_missingHealth {roles : List SourceRole} {health : List SourceHealth}
    {role : SourceRole} (hrole : role ∈ roles)
    (hinvalid : configuredRoleHealthIsValid role health = false) :
    (missingHealthDependencies roles health).Blocks .planDraftAvailable := by
  rw [missingHealthDependencies, Disabled.blocks_foldl (P := fun entry c => entry.1 ∈ roles ∧
    configuredRoleHealthIsValid entry.1 health = false ∧
      c ∈ dependencies (entry.2.headD "") true)]
  · obtain ⟨entry, hentry, heq, hneeds⟩ := role_needs_plan role
    rw [← heq] at hrole hinvalid
    exact Or.inl ⟨entry, hentry, hrole, hinvalid, hneeds⟩
  · intro disabled entry c
    by_cases hmissing : entry.1 ∈ roles ∧ configuredRoleHealthIsValid entry.1 health = false
    · rw [if_pos hmissing, Disabled.blocks_disable]
      simp [hmissing]
    · rw [if_neg hmissing]
      tauto

/-- Whatever fails the run also costs the plan drafts. -/
theorem QualityInput.HardGlobal.blocks {input : QualityInput} (h : input.HardGlobal) :
    input.disabled.Blocks .planDraftAvailable := by
  have hmarket {provider : String} {required : Bool} (hprovider : provider ∈ marketPrerequisites) :
      .planDraftAvailable ∈ dependencies provider required := by
    rw [dependencies_of_market hprovider]
    exact Capability.mem_all _
  rw [disabled, blocks_globallyDisabled]
  rcases h with hrequest | hfailure | hhealth | hroles
  · exact Or.inr (Or.inr (Or.inr (Or.inl hrequest)))
  · obtain ⟨failure, hfailure, hsymbol, hprovider⟩ := hfailure
    exact Or.inr (Or.inr (Or.inl ⟨failure, hfailure, hsymbol, hmarket hprovider⟩))
  · obtain ⟨health, hhealth, hdown, hprovider⟩ := hhealth
    exact Or.inr (Or.inr (Or.inr (Or.inr (Or.inl ⟨health, hhealth, hdown, hmarket hprovider⟩))))
  · obtain ⟨role, hrole⟩ := List.exists_mem_of_ne_nil _ hroles
    obtain ⟨hrole, hinvalid⟩ := List.mem_filter.mp hrole
    refine Or.inr (Or.inr (Or.inr (Or.inr (Or.inr (Or.inl (blocks_missingHealth hrole ?_))))))
    simpa using hinvalid

namespace QualityInput

variable {input : QualityInput} {scopes : SymbolScopes} {states : List CapabilityState}

theorem hardGlobal_of_fail (h : input.status scopes states = .fail) : input.HardGlobal := by
  by_contra hhard
  rw [status, if_neg hhard] at h
  split at h <;> cases h

/-- What a run that passes has none of, and what a degraded one has some of. -/
def Restricted (input : QualityInput) (scopes : SymbolScopes) (states : List CapabilityState) :
    Prop :=
  input.globalReasons ≠ [] ∨ scopes.disabled.items ≠ [] ∨
    states.any (fun state => !state.available) = true

theorem not_restricted_of_pass (h : input.status scopes states = .pass) :
    ¬ input.Restricted scopes states := by
  intro hrestricted
  unfold Restricted at hrestricted
  unfold status at h
  split at h
  · cases h
  · cases h

theorem restricted_of_degraded (h : input.status scopes states = .degraded) :
    input.Restricted scopes states := by
  by_contra hfree
  unfold Restricted at hfree
  unfold status at h
  split at h
  · cases h
  · cases h

end QualityInput

theorem all_available_eq_false {states : List CapabilityState} :
    states.all CapabilityState.available = false ↔
      states.any (fun state => !state.available) = true := by
  simp

/-! ## The evaluation returns -/

/-- The result of an input, before its validation. -/
def QualityInput.fields (input : QualityInput) (scopes : SymbolScopes)
    (capabilities : FrozenMap (List CapabilityState)) (statuses : FrozenMap PlanStatus) :
    QualityFields where
  status := input.status scopes (capabilityStates input.disabled)
  capabilities := capabilityStates input.disabled
  globalReasonCodes := .fromkeys input.globalReasons
  symbolCapabilities := capabilities
  symbolPlanStatuses := statuses

/-- The three dictionaries of one run, as the result has them. -/
structure Frozen (scopes : SymbolScopes) (capabilities : FrozenMap (List CapabilityState))
    (statuses : FrozenMap PlanStatus) : Prop where
  coherent : scopes.Coherent
  capabilities : (scopes.disabled.map capabilityStates).freeze = .ok capabilities
  statuses : scopes.status.freeze = .ok statuses

theorem SymbolScopes.Coherent.exists_frozen {scopes : SymbolScopes} (h : scopes.Coherent)
    (hlength : scopes.disabled.items.length ≤ 128) :
    ∃ capabilities statuses, Frozen scopes capabilities statuses := by
  have hlocal : (scopes.disabled.map capabilityStates).items.length ≤ 128 := by
    show (scopes.disabled.items.map _).length ≤ 128
    rwa [List.length_map]
  have hstatus : scopes.status.items.length ≤ 128 := by
    rw [h]
    show (scopes.disabled.items.map _).length ≤ 128
    rwa [List.length_map]
  exact ⟨_, _, h, SymbolDict.freeze_of_length hlocal, SymbolDict.freeze_of_length hstatus⟩

namespace Frozen

variable {scopes : SymbolScopes} {capabilities : FrozenMap (List CapabilityState)}
  {statuses : FrozenMap PlanStatus}

theorem items_capabilities (h : Frozen scopes capabilities statuses) :
    capabilities.items = scopes.disabled.items.map fun item => (item.1, capabilityStates item.2) :=
  SymbolDict.items_of_freeze h.capabilities

theorem items_statuses (h : Frozen scopes capabilities statuses) :
    statuses.items = scopes.disabled.items.map fun item => (item.1, item.2.planStatus) := by
  rw [SymbolDict.items_of_freeze h.statuses, h.coherent]
  rfl

theorem names_eq (h : Frozen scopes capabilities statuses) :
    statuses.names = capabilities.names := by
  rw [FrozenMap.names, FrozenMap.names, h.items_statuses, h.items_capabilities, List.map_map,
    List.map_map]
  rfl

/-- Every symbol passes but for its syntax. -/
theorem check_iff (h : Frozen scopes capabilities statuses) :
    forM capabilities.items (checkSymbol statuses) = .ok ⟨⟩ ↔
      ∀ symbol ∈ scopes.disabled.items.map Prod.fst, isSymbolText symbol = true := by
  rw [forM_eq_ok, h.items_capabilities, List.forall_mem_map, List.forall_mem_map]
  refine forall₂_congr ?_
  intro item hitem
  apply checkSymbol_iff
  rw [FrozenMap.get?_eq_some, h.items_statuses]
  exact List.mem_map_of_mem (f := fun item => (item.1, Disabled.planStatus item.2)) hitem

/-- The reasons and symbols the validator sees are those the status was taken from. -/
theorem restricted_iff (h : Frozen scopes capabilities statuses) (input : QualityInput) :
    (ReasonCodes.fromkeys input.globalReasons).codes ≠ [] ∨ capabilities.items ≠ [] ↔
      input.globalReasons ≠ [] ∨ scopes.disabled.items ≠ [] := by
  rw [ne_eq, ne_eq, ReasonCodes.fromkeys_eq_nil, h.items_capabilities, List.map_eq_nil_iff]

/-- The status of the run agrees with its capabilities and symbols, so what is left of the
validator is the syntax of the symbols. -/
theorem valid_iff (h : Frozen scopes capabilities statuses) (input : QualityInput) :
    (input.fields scopes capabilities statuses).exactCapabilityStates = .ok ⟨⟩ ↔
      ∀ symbol ∈ scopes.disabled.items.map Prod.fst, isSymbolText symbol = true := by
  unfold QualityFields.exactCapabilityStates
  constructor
  · intro hvalid
    obtain ⟨_, _, hvalid⟩ := bind_eq_ok.mp hvalid
    obtain ⟨_, _, hvalid⟩ := bind_eq_ok.mp hvalid
    obtain ⟨_, _, hvalid⟩ := bind_eq_ok.mp hvalid
    obtain ⟨_, hcheck, _⟩ := bind_eq_ok.mp hvalid
    exact h.check_iff.mp hcheck
  · intro hsyntax
    refine bind_eq_ok.mpr ⟨⟨⟩, refuse_eq_ok.mpr ?_, ?_⟩
    · exact not_not.mpr (exactStates_capabilityStates _)
    refine bind_eq_ok.mpr ⟨⟨⟩, refuse_eq_ok.mpr ?_, ?_⟩
    · intro hbad
      obtain ⟨entry, hentry, hbad⟩ := hbad
      have hmem : entry ∈ capabilities.items := hentry
      rw [h.items_capabilities] at hmem
      obtain ⟨item, _, heq⟩ := List.mem_map.mp hmem
      rw [← heq] at hbad
      exact hbad (exactStates_capabilityStates _)
    refine bind_eq_ok.mpr ⟨⟨⟩, refuse_eq_ok.mpr (not_not.mpr h.names_eq), ?_⟩
    refine bind_eq_ok.mpr ⟨⟨⟩, h.check_iff.mpr hsyntax, ?_⟩
    refine bind_eq_ok.mpr ⟨⟨⟩, refuse_eq_ok.mpr ?_, ?_⟩
    · -- PASS is what is left when there is no reason, no symbol and no lost capability.
      intro hpass
      refine QualityInput.not_restricted_of_pass hpass.1 ?_
      rcases hpass.2 with hall | hreasons
      · exact Or.inr (Or.inr (all_available_eq_false.mp hall))
      · have hr := (h.restricted_iff input).mp (of_decide_eq_true hreasons)
        exact hr.imp_right Or.inl
    refine bind_eq_ok.mpr ⟨⟨⟩, refuse_eq_ok.mpr ?_, refuse_eq_ok.mpr ?_⟩
    · intro hfail
      have hblocks := (QualityInput.hardGlobal_of_fail hfail.1).blocks
      exact all_available_capabilityStates.mp hfail.2 _ hblocks
    · intro hdegraded
      obtain ⟨hstatus, hall, hreasons⟩ := hdegraded
      have hfree := of_decide_eq_false hreasons
      rcases QualityInput.restricted_of_degraded hstatus with hr | hr | hr
      · exact hfree ((h.restricted_iff input).mpr (Or.inl hr))
      · exact hfree ((h.restricted_iff input).mpr (Or.inr hr))
      · exact Bool.noConfusion (hall.symm.trans (all_available_eq_false.mpr hr))

end Frozen

/-- The roles are those of all provider failures, so of the global ones alone. -/
theorem validateSourceRoles_of_append {roles : List SourceRole} {health : List SourceHealth}
    {failures others : List ProviderFailure}
    (h : validateSourceRoles roles health (failures ++ others) = .ok ⟨⟩) :
    validateSourceRoles roles health failures = .ok ⟨⟩ := by
  unfold validateSourceRoles at h ⊢
  split at h
  · cases h
  rename_i hunique
  rw [if_neg hunique]
  split at h
  · cases h
  rename_i hmandatory
  rw [if_neg hmandatory]
  split at h
  · cases h
  split at h
  · cases h
  rename_i hfailures
  have hfront : unconfigured roles (failures.map ProviderFailure.provider) = none := by
    rw [List.map_append, unconfigured, List.find?_append, Option.or_eq_none_iff] at hfailures
    exact hfailures.1
  rw [hfront]
  rfl

theorem QualityFields.validate_isOk {fields : QualityFields} :
    (∃ result, fields.validate = .ok result) ↔ fields.exactCapabilityStates = .ok ⟨⟩ := by
  unfold validate
  constructor
  · intro h
    obtain ⟨result, h⟩ := h
    split at h
    · assumption
    · cases h
  · intro h
    split
    · exact ⟨_, rfl⟩
    · rename_i herror
      rw [h] at herror
      cases herror

/-- On an input that passes the checks, with symbols that fit a dictionary, the evaluation
returns unless a historical failure names a symbol that the result does not admit. -/
theorem evaluateDataQuality_returns_iff {input : QualityInput} (h : input.Passes)
    (hsymbols : input.symbols.eraseDups.length ≤ 128) :
    (∃ result, evaluateDataQuality input = .ok result) ↔
      ∀ failure ∈ input.historicalFailures, isSymbolText failure.symbol = true := by
  obtain ⟨scopes, hscopes, hcoherent⟩ := h.exists_scopes
  obtain ⟨capabilities, statuses, hfrozen⟩ :=
    hcoherent.exists_frozen ((input.length_entries_le hscopes).trans hsymbols)
  -- The evaluation is its validation, and that is the syntax of the symbols.
  have heval : evaluateDataQuality input = (input.fields scopes capabilities statuses).validate := by
    unfold evaluateDataQuality evaluateCapabilities
    rw [h.roles, validateSourceRoles_of_append h.roles, h.health, hscopes]
    show (do
      let symbolCapabilities ← (scopes.disabled.map capabilityStates).freeze
      let symbolPlanStatuses ← scopes.status.freeze
      (input.fields scopes symbolCapabilities symbolPlanStatuses).validate) = _
    rw [hfrozen.capabilities, hfrozen.statuses]
    rfl
  rw [heval, QualityFields.validate_isOk, hfrozen.valid_iff]
  constructor
  · intro hsyntax failure hfailure
    refine hsyntax failure.symbol ((input.mem_keys hscopes).mpr ?_)
    exact QualityInput.mem_symbols.mpr (Or.inr (Or.inl ⟨failure, hfailure, rfl⟩))
  · intro hsyntax symbol hsymbol
    have hcause := QualityInput.mem_symbols.mp ((input.mem_keys hscopes).mp hsymbol)
    rcases hcause with hcause | hcause | hcause
    · obtain ⟨_, _, name, _, heq⟩ := hcause
      rw [heq]
      exact name.isSymbolText
    · obtain ⟨failure, hfailure, heq⟩ := hcause
      rw [heq]
      exact hsyntax failure hfailure
    · obtain ⟨_, _, name, _, heq⟩ := hcause
      rw [heq]
      exact name.isSymbolText

theorem evaluateDataQuality_returns_iff_sample :
    (∃ result, evaluateDataQuality { answeredInput with historicalFailures := [missingBars] } =
        .ok result) ↔
      ∀ failure ∈ [missingBars], isSymbolText failure.symbol = true :=
  @evaluateDataQuality_returns_iff { answeredInput with historicalFailures := [missingBars] }
    ⟨by decide, by decide, by decide⟩ (by decide)

/-- No bars of a symbol that ends in a dot. -/
def dottedBars : HistoricalBarsFailure where
  symbol := "A."
  reason := .noData
  normalized := by decide

/-- A historical failure may name such a symbol, and the evaluation raises on it. -/
theorem evaluateDataQuality_dotted :
    QualityInput.Passes { answeredInput with historicalFailures := [dottedBars] } ∧
      evaluateDataQuality { answeredInput with historicalFailures := [dottedBars] } =
        .error (.valueError "symbol keys must be valid symbols") := by
  refine ⟨⟨by decide, by decide, by decide⟩, ?_⟩
  rfl

end FinanceResearch
