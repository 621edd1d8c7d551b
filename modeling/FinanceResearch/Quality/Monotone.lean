import FinanceResearch.Quality.Evaluation

/-!
# Failures never improve a result

One failure more, at whatever scope, leaves the status no better, no capability newly
available and no plan status relaxed. The evaluation is first said in terms of the causes
in its input (`Evaluated`), and the causes only grow.
-/

namespace FinanceResearch

open Fallible

/-- `PASS < DEGRADED < FAIL`. -/
def DataQualityStatus.severity : DataQualityStatus → Nat
  | .pass => 0
  | .degraded => 1
  | .fail => 2

/-! ## One failure more -/

/-- The second input has one failure more than the first. -/
inductive Weakened : QualityInput → QualityInput → Prop
  | providerFailure {input : QualityInput} {before after : List ProviderFailure}
      (failure : ProviderFailure) (h : input.providerFailures = before ++ after) :
      Weakened input { input with providerFailures := before ++ failure :: after }
  | historicalFailure {input : QualityInput} {before after : List HistoricalBarsFailure}
      (failure : HistoricalBarsFailure) (h : input.historicalFailures = before ++ after) :
      Weakened input { input with historicalFailures := before ++ failure :: after }
  | currentPriceFailure {input : QualityInput} {before after : List ProviderFailure}
      (failure : ProviderFailure) (h : input.currentPriceFailures = before ++ after) :
      Weakened input { input with currentPriceFailures := before ++ failure :: after }
  | requestFailure {input : QualityInput} (failure : HistoricalBarsRequestFailure) :
      Weakened input { input with historicalRequestFailure := some failure }
  | sourceHealth {input : QualityInput} {before after : List SourceHealth}
      {health worse : SourceHealth} (h : input.sourceHealth = before ++ health :: after)
      (hup : health.available = true) (hdown : worse.available = false)
      (hprovider : worse.provider = health.provider) (hrequired : worse.required = health.required) :
      Weakened input { input with sourceHealth := before ++ worse :: after }

/-- The same source, no more available. -/
structure HealthAtMost (health worse : SourceHealth) : Prop where
  provider : worse.provider = health.provider
  required : worse.required = health.required
  available : health.available = false → worse.available = false

theorem HealthAtMost.refl (health : SourceHealth) : HealthAtMost health health := ⟨rfl, rfl, id⟩

/-- The second input has the failures of the first, and perhaps more. -/
structure FailsMore (old new : QualityInput) : Prop where
  roles : new.sourceRoles = old.sourceRoles
  policy : new.riskPolicy = old.riskPolicy
  health : List.Forall₂ HealthAtMost old.sourceHealth new.sourceHealth
  provider : old.providerFailures ⊆ new.providerFailures
  historical : old.historicalFailures ⊆ new.historicalFailures
  request : old.historicalRequestFailure.isSome = true → new.historicalRequestFailure.isSome = true
  price : old.currentPriceFailures ⊆ new.currentPriceFailures

theorem subset_insert {α : Type} {before after items : List α} {item : α}
    (h : items = before ++ after) : items ⊆ before ++ item :: after := by
  intro x hx
  rw [h, List.mem_append] at hx
  rw [List.mem_append, List.mem_cons]
  rcases hx with hx | hx
  · exact Or.inl hx
  · exact Or.inr (Or.inr hx)

theorem forall₂_healthAtMost_refl (health : List SourceHealth) :
    List.Forall₂ HealthAtMost health health :=
  List.forall₂_same.mpr fun entry _ => .refl entry

theorem Weakened.failsMore {old new : QualityInput} (h : Weakened old new) : FailsMore old new := by
  have hself := forall₂_healthAtMost_refl old.sourceHealth
  cases h with
  | providerFailure failure h =>
    exact ⟨rfl, rfl, hself, subset_insert h, List.Subset.refl _, id, List.Subset.refl _⟩
  | historicalFailure failure h =>
    exact ⟨rfl, rfl, hself, List.Subset.refl _, subset_insert h, id, List.Subset.refl _⟩
  | currentPriceFailure failure h =>
    exact ⟨rfl, rfl, hself, List.Subset.refl _, List.Subset.refl _, id, subset_insert h⟩
  | requestFailure failure =>
    exact ⟨rfl, rfl, hself, List.Subset.refl _, List.Subset.refl _, fun _ => rfl,
      List.Subset.refl _⟩
  | sourceHealth h hup hdown hprovider hrequired =>
    refine ⟨rfl, rfl, ?_, List.Subset.refl _, List.Subset.refl _, id, List.Subset.refl _⟩
    rw [h]
    exact List.rel_append (forall₂_healthAtMost_refl _)
      (.cons ⟨hprovider, hrequired, fun _ => hdown⟩ (forall₂_healthAtMost_refl _))

/-! ## Causes of the whole run -/

theorem exists_of_forall₂ {α : Type} {R : α → α → Prop} {P Q : α → Prop}
    (hstep : ∀ x y, R x y → P x → Q y) {xs ys : List α} (h : List.Forall₂ R xs ys) :
    (∃ x ∈ xs, P x) → ∃ y ∈ ys, Q y := by
  induction h with
  | nil => simp
  | cons hxy _ ih =>
    simp only [List.mem_cons, exists_eq_or_imp]
    intro hx
    rcases hx with hx | hx
    · exact Or.inl (hstep _ _ hxy hx)
    · exact Or.inr (ih hx)

theorem exists_of_subset {α : Type} {P : α → Prop} {xs ys : List α} (h : xs ⊆ ys) :
    (∃ x ∈ xs, P x) → ∃ y ∈ ys, P y := by
  intro hx
  obtain ⟨x, hmem, hx⟩ := hx
  exact ⟨x, h hmem, hx⟩

namespace FailsMore

variable {old new : QualityInput}

/-- A role's health is counted by providers and required flags, which do not change. -/
theorem validHealth (h : FailsMore old new) (role : SourceRole) :
    configuredRoleHealthIsValid role new.sourceHealth =
      configuredRoleHealthIsValid role old.sourceHealth := by
  have hfilter : List.Forall₂ HealthAtMost
      (old.sourceHealth.filter fun entry => entry.provider.text ∈ providersForRole role)
      (new.sourceHealth.filter fun entry => entry.provider.text ∈ providersForRole role) := by
    refine List.rel_filter ?_ h.health
    intro entry worse hentry
    simp only [hentry.provider]
  unfold configuredRoleHealthIsValid
  generalize old.sourceHealth.filter _ = oldMatching at hfilter ⊢
  generalize new.sourceHealth.filter _ = newMatching at hfilter ⊢
  cases hfilter with
  | nil => rfl
  | cons hentry hrest =>
    cases hrest with
    | nil => exact hentry.required
    | cons _ _ => rfl

theorem missingHealth (h : FailsMore old new) :
    missingHealthDependencies new.sourceRoles new.sourceHealth =
      missingHealthDependencies old.sourceRoles old.sourceHealth := by
  simp only [missingHealthDependencies, h.validHealth, h.roles]

theorem incompleteHealthRoles (h : FailsMore old new) :
    new.incompleteHealthRoles = old.incompleteHealthRoles := by
  simp only [QualityInput.incompleteHealthRoles, h.validHealth, h.roles]

theorem unavailableHealth (h : FailsMore old new) {P : String → Bool → Prop} :
    (∃ entry ∈ old.sourceHealth, entry.available = false ∧ P entry.provider.text entry.required) →
      ∃ entry ∈ new.sourceHealth, entry.available = false ∧
        P entry.provider.text entry.required := by
  refine exists_of_forall₂ ?_ h.health
  intro entry worse hworse hentry
  rw [hworse.provider, hworse.required]
  exact ⟨hworse.available hentry.1, hentry.2⟩

theorem disabled (h : FailsMore old new) {c : Capability} (hc : old.disabled.Blocks c) :
    new.disabled.Blocks c := by
  unfold QualityInput.disabled at hc ⊢
  rw [blocks_globallyDisabled] at hc ⊢
  rw [h.missingHealth, h.roles, h.policy]
  rcases hc with hc | hc | hc | hc | hc | hc
  · exact Or.inl hc
  · exact Or.inr (Or.inl hc)
  · exact Or.inr (Or.inr (Or.inl (exists_of_subset h.provider hc)))
  · exact Or.inr (Or.inr (Or.inr (Or.inl (h.request hc))))
  · exact Or.inr (Or.inr (Or.inr (Or.inr (Or.inl
      (h.unavailableHealth (P := fun provider required => c ∈ dependencies provider required) hc)))))
  · exact Or.inr (Or.inr (Or.inr (Or.inr (Or.inr hc))))

theorem hardGlobal (h : FailsMore old new) (hhard : old.HardGlobal) : new.HardGlobal := by
  rcases hhard with hhard | hhard | hhard | hhard
  · exact Or.inl (h.request hhard)
  · exact Or.inr (Or.inl (exists_of_subset h.provider hhard))
  · exact Or.inr (Or.inr (Or.inl
      (h.unavailableHealth (P := fun provider _ => provider ∈ marketPrerequisites) hhard)))
  · refine Or.inr (Or.inr (Or.inr ?_))
    rwa [h.incompleteHealthRoles]

end FailsMore

/-- What puts a reason among the global ones. -/
theorem QualityInput.globalReasons_ne_nil {input : QualityInput} :
    input.globalReasons ≠ [] ↔
      (∃ failure ∈ input.providerFailures, failure.symbol = none) ∨
      (∃ health ∈ input.sourceHealth, health.available = false) ∨
      input.incompleteHealthRoles ≠ [] ∨ input.historicalRequestFailure.isSome = true := by
  have hcoded (health : SourceHealth) :
      (if health.available = false then health.errorCode else none) = none ↔
        health.available ≠ false := by
    by_cases hdown : health.available = false
    · have hcode := health.unavailableCoded.mp hdown
      rw [if_pos hdown, ← Option.not_isSome_iff_eq_none]
      simp [hcode, hdown]
    · simp [hdown]
  rw [← not_iff_not, not_not]
  simp only [QualityInput.globalReasons, List.append_eq_nil_iff, List.map_eq_nil_iff,
    List.filter_eq_nil_iff, List.filterMap_eq_nil_iff, hcoded, Option.toList_eq_nil_iff,
    Option.map_eq_none_iff, ite_eq_left_iff, reduceCtorEq, imp_false, not_not]
  rw [← Option.not_isSome_iff_eq_none]
  simp only [decide_eq_true_eq]
  push Not
  tauto

theorem FailsMore.globalReasons {old new : QualityInput} (h : FailsMore old new)
    (hne : old.globalReasons ≠ []) : new.globalReasons ≠ [] := by
  rw [QualityInput.globalReasons_ne_nil] at hne ⊢
  rcases hne with hne | hne | hne | hne
  · exact Or.inl (exists_of_subset h.provider hne)
  · refine Or.inr (Or.inl ?_)
    refine exists_of_forall₂ ?_ h.health hne
    intro entry worse hworse
    exact hworse.available
  · rw [h.incompleteHealthRoles]
    exact Or.inr (Or.inr (Or.inl hne))
  · exact Or.inr (Or.inr (Or.inr (h.request hne)))

/-! ## Causes of one symbol -/

/-- Some failure of the input restricts a symbol and capabilities for which `P` holds. -/
def QualityInput.Restricts (input : QualityInput) (P : String → List Capability → Prop) : Prop :=
  (∃ failure ∈ input.currentPriceFailures, ∃ symbol, failure.symbol = some symbol ∧
    P symbol.text [.positionSizingAvailable]) ∨
  (∃ failure ∈ input.historicalFailures, P failure.symbol fullSymbolCapabilities) ∨
  ∃ failure ∈ input.providerFailures, ∃ symbol, failure.symbol = some symbol ∧
    P symbol.text (dependencies failure.provider.text true)

theorem FailsMore.restricts {old new : QualityInput} (h : FailsMore old new)
    {P : String → List Capability → Prop} (hold : old.Restricts P) : new.Restricts P := by
  rcases hold with hold | hold | hold
  · exact Or.inl (exists_of_subset h.price hold)
  · exact Or.inr (Or.inl (exists_of_subset h.historical hold))
  · exact Or.inr (Or.inr (exists_of_subset h.provider hold))

/-- What each restriction adds to, the three loops add the restrictions of the input to. -/
theorem QualityInput.scopes_iff {Q : SymbolScopes → Prop} {P : String → List Capability → Prop}
    (hstep : ∀ scopes symbol capabilities reason candidate next,
      SymbolScopes.restrict scopes symbol capabilities reason candidate = .ok next →
        (Q next ↔ P symbol capabilities ∨ Q scopes))
    (hempty : ¬ Q .empty) {input : QualityInput} {scopes : SymbolScopes}
    (h : input.scopes = .ok scopes) : Q scopes ↔ input.Restricts P := by
  obtain ⟨first, hfirst, h⟩ := bind_eq_ok.mp h
  obtain ⟨second, hsecond, hthird⟩ := bind_eq_ok.mp h
  have hprovider := foldlM_iff (Q := Q) (P := fun failure : ProviderFailure =>
      ∃ symbol, failure.symbol = some symbol ∧
        P symbol.text (dependencies failure.provider.text true)) (by
    intro scopes failure next hnext
    unfold SymbolScopes.addProviderFailure at hnext
    cases hsymbol : failure.symbol with
    | none =>
      rw [hsymbol] at hnext
      cases hnext
      simp
    | some symbol =>
      rw [hsymbol] at hnext
      rw [hstep _ _ _ _ _ _ hnext]
      simp) hfirst
  have hhistorical := foldlM_iff (Q := Q) (P := fun failure : HistoricalBarsFailure =>
      P failure.symbol fullSymbolCapabilities) (by
    intro scopes failure next hnext
    exact hstep _ _ _ _ _ _ hnext) hsecond
  have hprice := foldlM_iff (Q := Q) (P := fun failure : ProviderFailure =>
      ∃ symbol, failure.symbol = some symbol ∧ P symbol.text [.positionSizingAvailable]) (by
    intro scopes failure next hnext
    unfold SymbolScopes.addPriceFailure at hnext
    cases hsymbol : failure.symbol with
    | none =>
      rw [hsymbol] at hnext
      cases hnext
    | some symbol =>
      rw [hsymbol] at hnext
      rw [hstep _ _ _ _ _ _ hnext]
      simp) hthird
  rw [hprice, hhistorical, hprovider, or_iff_left hempty]
  rfl

namespace SymbolScopes

/-- The capabilities a symbol has lost. -/
theorem blocks_restrict (symbol : String) (c : Capability) (scopes : SymbolScopes)
    (other : String) (capabilities : List Capability) (reason : ErrorCode)
    (candidate : PlanStatus) (next : SymbolScopes)
    (h : scopes.restrict other capabilities reason candidate = .ok next) :
    (next.disabledOf symbol).Blocks c ↔
      (symbol = other ∧ c ∈ capabilities) ∨ (scopes.disabledOf symbol).Blocks c := by
  rw [disabledOf, restrict_disabled h, SymbolDict.get?_set]
  by_cases hsymbol : symbol = other
  · subst hsymbol
    rw [if_pos rfl, Option.getD_some, Disabled.blocks_disable]
    simp
  · rw [if_neg hsymbol, disabledOf]
    simp [hsymbol]

/-- Whether any symbol has lost something. -/
theorem nonempty_restrict (scopes : SymbolScopes) (other : String)
    (capabilities : List Capability) (reason : ErrorCode) (candidate : PlanStatus)
    (next : SymbolScopes) (h : scopes.restrict other capabilities reason candidate = .ok next) :
    (next.disabled.items ≠ []) ↔ True ∨ scopes.disabled.items ≠ [] := by
  rw [restrict_disabled h, true_or, iff_true]
  intro hnil
  have hmem : other ∈ (FrozenMap.setItem scopes.disabled.items other
      ((scopes.disabledOf other).disable capabilities reason)).map Prod.fst :=
    FrozenMap.mem_setItem_keys.mpr (Or.inl rfl)
  have hitems : FrozenMap.setItem scopes.disabled.items other
      ((scopes.disabledOf other).disable capabilities reason) = [] := hnil
  rw [hitems] at hmem
  cases hmem

end SymbolScopes

/-! ## Results in terms of their causes -/

/-- How a result follows from its input. -/
structure Evaluated (input : QualityInput) (scopes : SymbolScopes) (result : DataQualityResult) :
    Prop where
  evaluated : input.scopes = .ok scopes
  status : result.status = input.status scopes (capabilityStates input.disabled)
  capabilities : result.capabilities = capabilityStates input.disabled
  localStates : ∀ symbol,
    result.symbolCapabilities.get? symbol = (scopes.disabled.get? symbol).map capabilityStates

theorem exists_evaluated {input : QualityInput} {result : DataQualityResult}
    (h : evaluateDataQuality input = .ok result) : ∃ scopes, Evaluated input scopes result := by
  unfold evaluateDataQuality evaluateCapabilities at h
  obtain ⟨_, _, h⟩ := bind_eq_ok.mp h
  obtain ⟨capabilities, hcapabilities, h⟩ := bind_eq_ok.mp h
  obtain ⟨_, _, hcapabilities⟩ := bind_eq_ok.mp hcapabilities
  obtain ⟨_, _, hcapabilities⟩ := bind_eq_ok.mp hcapabilities
  cases hcapabilities
  obtain ⟨scopes, hscopes, h⟩ := bind_eq_ok.mp h
  obtain ⟨frozen, hfrozen, h⟩ := bind_eq_ok.mp h
  obtain ⟨statuses, _, h⟩ := bind_eq_ok.mp h
  unfold QualityFields.validate at h
  split at h
  · cases h
    refine ⟨scopes, hscopes, rfl, rfl, ?_⟩
    intro symbol
    rw [SymbolDict.get?_of_freeze hfrozen, SymbolDict.get?_map]
  · cases h

theorem all_available_capabilityStates {disabled : Disabled} :
    (capabilityStates disabled).all CapabilityState.available = true ↔ ∀ c, ¬ disabled.Blocks c := by
  simp only [capabilityStates, List.all_map, List.all_eq_true, Function.comp_apply]
  constructor
  · intro h c hc
    rw [← available_capabilityState, h c c.mem_all] at hc
    cases hc
  · intro h c _
    rw [← Bool.not_eq_false, available_capabilityState]
    exact h c

theorem any_unavailable_capabilityStates {disabled : Disabled} :
    (capabilityStates disabled).any (fun state => !state.available) = true ↔
      ∃ c, disabled.Blocks c := by
  have hall := @all_available_capabilityStates disabled
  rw [← not_iff_not, not_exists, ← hall]
  simp

theorem planAvailable_capabilityStates {disabled : Disabled} :
    planAvailable (capabilityStates disabled) = false ↔ disabled.Blocks .planDraftAvailable := by
  rw [← available_capabilityState]
  rfl

/-- What a passed check says of the plan status of a symbol. -/
theorem strength_of_checkSymbol {statuses : FrozenMap PlanStatus} {symbol : String}
    {disabled : Disabled}
    (h : checkSymbol statuses (symbol, capabilityStates disabled) = .ok ⟨⟩)
    (hplan : ¬ disabled.Blocks .planDraftAvailable) :
    ((∃ c, disabled.Blocks c) ∧ statuses.get? symbol = some .reviewRequired) ∨
      (¬ (∃ c, disabled.Blocks c) ∧ statuses.get? symbol = some .draft) := by
  have havailable : planAvailable (capabilityStates disabled) = true := by
    rw [← Bool.not_eq_false, planAvailable_capabilityStates]
    exact hplan
  unfold checkSymbol at h
  simp only [havailable] at h
  by_cases hblocks : ∃ c, disabled.Blocks c
  · have hall : (capabilityStates disabled).all CapabilityState.available = false := by
      rw [← Bool.not_eq_true, all_available_capabilityStates]
      intro hnone
      obtain ⟨c, hc⟩ := hblocks
      exact hnone c hc
    refine Or.inl ⟨hblocks, ?_⟩
    by_contra hstatus
    simp [hall, hstatus] at h
    split at h <;> cases h
  · have hall : (capabilityStates disabled).all CapabilityState.available = true :=
      all_available_capabilityStates.mpr (not_exists.mp hblocks)
    refine Or.inr ⟨hblocks, ?_⟩
    by_contra hstatus
    simp [hall, hstatus] at h
    split at h <;> cases h

namespace Evaluated

variable {input : QualityInput} {scopes : SymbolScopes} {result : DataQualityResult}

theorem capability (h : Evaluated input scopes result) (c : Capability) :
    result.capability c = capabilityState c (input.disabled c) := by
  have hexact := result.exact
  unfold DataQualityResult.capability
  simp only [h.capabilities]
  exact stateOf_capabilityStates _ c

theorem localStates_eq (h : Evaluated input scopes result) (symbol : String) :
    result.localStates symbol = capabilityStates (scopes.disabledOf symbol) := by
  rw [DataQualityResult.localStates, h.localStates, SymbolScopes.disabledOf]
  cases scopes.disabled.get? symbol with
  | none => rfl
  | some disabled => rfl

/-- A symbol has lost what the run or the symbol has lost. -/
theorem symbolCapability (h : Evaluated input scopes result) (symbol : String) (c : Capability) :
    (result.symbolCapability symbol c).available = false ↔
      input.disabled.Blocks c ∨ (scopes.disabledOf symbol).Blocks c := by
  have hlocal : stateOf (result.localStates symbol) (result.exact_localStates symbol) c =
      capabilityState c (scopes.disabledOf symbol c) := by
    simp only [h.localStates_eq]
    exact stateOf_capabilityStates _ c
  rw [DataQualityResult.symbolCapability]
  simp only [hlocal, h.capability]
  rw [capabilityState, List.isEmpty_eq_false_iff, ne_eq, ReasonCodes.fromkeys_eq_nil,
    List.append_eq_nil_iff, not_and_or]
  rfl

theorem capability_available (h : Evaluated input scopes result) (c : Capability) :
    (result.capability c).available = false ↔ input.disabled.Blocks c := by
  rw [h.capability, available_capabilityState]

theorem exists_blocks (h : Evaluated input scopes result) {symbol : String} {c : Capability} :
    (scopes.disabledOf symbol).Blocks c ↔
      input.Restricts fun other capabilities => symbol = other ∧ c ∈ capabilities :=
  QualityInput.scopes_iff (Q := fun scopes => (scopes.disabledOf symbol).Blocks c)
    (SymbolScopes.blocks_restrict symbol c) (Disabled.not_blocks_empty c) h.evaluated

theorem nonempty (h : Evaluated input scopes result) :
    scopes.disabled.items ≠ [] ↔ input.Restricts fun _ _ => True :=
  QualityInput.scopes_iff (Q := fun scopes => scopes.disabled.items ≠ [])
    SymbolScopes.nonempty_restrict (fun hne => hne rfl) h.evaluated

/-- The strength of the plan status of a symbol. -/
theorem symbolPlanStatus (h : Evaluated input scopes result) (symbol : String) :
    (input.disabled.Blocks .planDraftAvailable ∨
        (scopes.disabledOf symbol).Blocks .planDraftAvailable) ∧
      result.symbolPlanStatus symbol = .blocked ∨
    ¬ (input.disabled.Blocks .planDraftAvailable ∨
        (scopes.disabledOf symbol).Blocks .planDraftAvailable) ∧
      ((∃ c, (scopes.disabledOf symbol).Blocks c) ∧
          result.symbolPlanStatus symbol = .reviewRequired ∨
        ¬ (∃ c, (scopes.disabledOf symbol).Blocks c) ∧
          result.symbolPlanStatus symbol = .draft) := by
  rw [← h.symbolCapability]
  by_cases hplan : (result.symbolCapability symbol .planDraftAvailable).available = false
  · exact Or.inl ⟨hplan, if_pos hplan⟩
  · refine Or.inr ⟨hplan, ?_⟩
    have hfree : ¬ (scopes.disabledOf symbol).Blocks .planDraftAvailable := by
      intro hblocks
      exact hplan ((h.symbolCapability symbol _).mpr (Or.inr hblocks))
    rw [DataQualityResult.symbolPlanStatus, if_neg hplan]
    cases hdisabled : scopes.disabled.get? symbol with
    | none =>
      -- A symbol without an entry has no status either: both maps have the same names.
      have hnone : result.symbolCapabilities.get? symbol = none := by
        rw [h.localStates, hdisabled]
        rfl
      have hempty : scopes.disabledOf symbol = .empty := by
        rw [SymbolScopes.disabledOf, hdisabled]
        rfl
      rw [result.get?_planStatus_none hnone, hempty]
      refine Or.inr ⟨?_, rfl⟩
      intro hc
      obtain ⟨c, hc⟩ := hc
      exact Disabled.not_blocks_empty c hc
    | some disabled =>
      have hof : scopes.disabledOf symbol = disabled := by
        rw [SymbolScopes.disabledOf, hdisabled]
        rfl
      have hentry : (symbol, capabilityStates disabled) ∈ result.symbolCapabilities.items := by
        rw [← FrozenMap.get?_eq_some, h.localStates, hdisabled]
        rfl
      rw [hof] at hfree ⊢
      rcases strength_of_checkSymbol (result.exact_symbol hentry).2 hfree with hs | hs
      · rw [hs.2]
        exact Or.inl ⟨hs.1, rfl⟩
      · rw [hs.2]
        exact Or.inr ⟨hs.1, rfl⟩

end Evaluated

/-! ## Monotonicity -/

/-- The second result is no better than the first, at any scope. -/
structure NotImproved (before after : DataQualityResult) : Prop where
  status : before.status.severity ≤ after.status.severity
  capability : ∀ c, (before.capability c).available = false →
    (after.capability c).available = false
  symbolCapability : ∀ symbol c, (before.symbolCapability symbol c).available = false →
    (after.symbolCapability symbol c).available = false
  symbolPlanStatus : ∀ symbol, ∃ m n,
    planStatusStrength (before.symbolPlanStatus symbol) = some m ∧
      planStatusStrength (after.symbolPlanStatus symbol) = some n ∧ m ≤ n

theorem severity_status_mono {old new : QualityInput} {oldScopes newScopes : SymbolScopes}
    {before after : DataQualityResult} (h : FailsMore old new)
    (hold : Evaluated old oldScopes before) (hnew : Evaluated new newScopes after) :
    before.status.severity ≤ after.status.severity := by
  rw [hold.status, hnew.status]
  unfold QualityInput.status
  by_cases hhard : old.HardGlobal
  · rw [if_pos hhard, if_pos (h.hardGlobal hhard)]
  rw [if_neg hhard]
  by_cases hnewHard : new.HardGlobal
  · rw [if_pos hnewHard]
    split <;> decide
  rw [if_neg hnewHard]
  -- Short of a hard failure, what degrades the first degrades the second.
  split
  · rename_i hdegraded
    rw [if_pos]
    rcases hdegraded with hreasons | hscopes | hblocks
    · exact Or.inl (h.globalReasons hreasons)
    · rw [hold.nonempty] at hscopes
      exact Or.inr (Or.inl (hnew.nonempty.mpr (h.restricts hscopes)))
    · obtain ⟨c, hc⟩ := any_unavailable_capabilityStates.mp hblocks
      exact Or.inr (Or.inr (any_unavailable_capabilityStates.mpr ⟨c, h.disabled hc⟩))
  · exact Nat.zero_le _

theorem FailsMore.notImproved {old new : QualityInput} {before after : DataQualityResult}
    (h : FailsMore old new) (hold : evaluateDataQuality old = .ok before)
    (hnew : evaluateDataQuality new = .ok after) : NotImproved before after := by
  obtain ⟨oldScopes, hold⟩ := exists_evaluated hold
  obtain ⟨newScopes, hnew⟩ := exists_evaluated hnew
  have hlocal (symbol : String) (c : Capability) (hc : (oldScopes.disabledOf symbol).Blocks c) :
      (newScopes.disabledOf symbol).Blocks c := by
    rw [hold.exists_blocks] at hc
    exact hnew.exists_blocks.mpr (h.restricts hc)
  have hboth (symbol : String) (c : Capability)
      (hc : old.disabled.Blocks c ∨ (oldScopes.disabledOf symbol).Blocks c) :
      new.disabled.Blocks c ∨ (newScopes.disabledOf symbol).Blocks c :=
    hc.imp h.disabled (hlocal symbol c)
  refine ⟨severity_status_mono h hold hnew, ?_, ?_, ?_⟩
  · intro c hc
    rw [hold.capability_available] at hc
    exact (hnew.capability_available c).mpr (h.disabled hc)
  · intro symbol c hc
    rw [hold.symbolCapability] at hc
    exact (hnew.symbolCapability symbol c).mpr (hboth symbol c hc)
  · intro symbol
    rcases hold.symbolPlanStatus symbol with hb | hb
    · rcases hnew.symbolPlanStatus symbol with ha | ha
      · rw [hb.2, ha.2]
        exact ⟨2, 2, rfl, rfl, Nat.le_refl 2⟩
      · exact absurd (hboth symbol _ hb.1) ha.1
    · rcases hnew.symbolPlanStatus symbol with ha | ha
      · rw [ha.2]
        rcases hb.2 with hb | hb
        · rw [hb.2]
          exact ⟨1, 2, rfl, rfl, by decide⟩
        · rw [hb.2]
          exact ⟨0, 2, rfl, rfl, by decide⟩
      · rcases hb.2 with hb | hb
        · obtain ⟨c, hc⟩ := hb.1
          rcases ha.2 with ha | ha
          · rw [hb.2, ha.2]
            exact ⟨1, 1, rfl, rfl, Nat.le_refl 1⟩
          · exact absurd ⟨c, hlocal symbol c hc⟩ ha.1
        · rw [hb.2]
          rcases ha.2 with ha | ha
          · rw [ha.2]
            exact ⟨0, 1, rfl, rfl, by decide⟩
          · rw [ha.2]
            exact ⟨0, 0, rfl, rfl, Nat.le_refl 0⟩

/-- One failure more never improves an accepted result. -/
theorem evaluateDataQuality_notImproved {old new : QualityInput} (h : Weakened old new)
    {before after : DataQualityResult} (hold : evaluateDataQuality old = .ok before)
    (hnew : evaluateDataQuality new = .ok after) : NotImproved before after :=
  h.failsMore.notImproved hold hnew

/-- A source that answered. -/
def answered (provider : Identifier) : SourceHealth where
  provider := provider
  available := true
  required := true
  emptyValid := false
  errorCode := none
  message := ⟨"", by decide, by decide⟩
  emptyAvailable := nofun
  unavailableCoded := by decide

/-- A run whose sources all answered. -/
def answeredInput : QualityInput where
  sourceRoles := [.marketData, .marketCalendar, .macroCalendar, .officialVerification]
  sourceHealth :=
    [answered ⟨"alpaca", by decide⟩, answered ⟨"market-calendar", by decide⟩,
     answered ⟨"bls", by decide⟩, answered ⟨"sec_edgar", by decide⟩]
  providerFailures := []
  historicalFailures := []
  historicalRequestFailure := none
  currentPriceFailures := []
  riskPolicy := none

/-- No bars of one symbol. -/
def missingBars : HistoricalBarsFailure where
  symbol := "SPY"
  reason := .noData
  normalized := by decide

theorem exists_planStatus (result : Except QualityError DataQualityResult) (symbol : String)
    (status : PlanStatus)
    (h : (result.toOption.map fun result => result.symbolPlanStatus symbol) = some status) :
    ∃ value, result = .ok value ∧ value.symbolPlanStatus symbol = status := by
  cases result with
  | error e => cases h
  | ok value => exact ⟨value, rfl, Option.some.inj h⟩

theorem evaluateDataQuality_notImproved_sample : ∃ before after,
    evaluateDataQuality answeredInput = .ok before ∧
      evaluateDataQuality { answeredInput with historicalFailures := [missingBars] } = .ok after ∧
      before.symbolPlanStatus "SPY" = .draft ∧ after.symbolPlanStatus "SPY" = .blocked ∧
      NotImproved before after := by
  obtain ⟨before, hold, hdraft⟩ := exists_planStatus (evaluateDataQuality answeredInput)
    "SPY" .draft (by decide)
  obtain ⟨after, hnew, hblocked⟩ := exists_planStatus
    (evaluateDataQuality { answeredInput with historicalFailures := [missingBars] })
    "SPY" .blocked (by decide)
  exact ⟨before, after, hold, hnew, hdraft, hblocked,
    evaluateDataQuality_notImproved
      (@Weakened.historicalFailure answeredInput [] [] missingBars rfl) hold hnew⟩

end FinanceResearch
