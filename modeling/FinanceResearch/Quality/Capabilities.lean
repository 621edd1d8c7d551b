import FinanceResearch.Domain.Policies
import FinanceResearch.Domain.Telemetry
import FinanceResearch.Lib.Dicts

/-!
# Data quality

`domain/quality.py`: which capabilities a run still has after the failures of its
sources, for the whole run and for each symbol.

Mirroring notes vs the source:
- A dictionary of reason codes by capability is the function of its
  `get(capability, ())`.
- `next(iter(alternatives))` takes any name of a set; the first one is taken here, and
  `dependencies_alternatives` says the choice does not matter.
- `evidence_ids` of a capability state is always empty here and is left out.
-/

namespace FinanceResearch

/-! ## Reasons -/

/-- `ReasonCodes`. -/
structure ReasonCodes where
  codes : List ErrorCode
  unique : codes.Nodup
  deriving DecidableEq

namespace ReasonCodes

def none : ReasonCodes := ⟨[], List.nodup_nil⟩

/-- `tuple(dict.fromkeys(codes))`. -/
def fromkeys (codes : List ErrorCode) : ReasonCodes :=
  ⟨codes.eraseDups, Dicts.nodup_eraseDups _ codes (Nat.le_refl _)⟩

@[simp] theorem codes_none : none.codes = [] := rfl

@[simp] theorem mem_fromkeys {code : ErrorCode} {codes : List ErrorCode} :
    code ∈ (fromkeys codes).codes ↔ code ∈ codes := List.mem_eraseDups

theorem fromkeys_eq_nil {codes : List ErrorCode} : (fromkeys codes).codes = [] ↔ codes = [] := by
  simp only [List.eq_nil_iff_forall_not_mem, mem_fromkeys]

end ReasonCodes

/-- `_CAPABILITIES`. -/
def Capability.all : List Capability :=
  [.marketSummaryAvailable, .regimeClassificationAvailable, .watchlistMetricsAvailable,
   .eventRiskCheckAvailable, .setupDetectionAvailable, .planDraftAvailable,
   .positionSizingAvailable, .portfolioHeatCheckAvailable]

theorem Capability.mem_all (c : Capability) : c ∈ Capability.all := by
  cases c <;> decide

/-- Reason codes by capability. -/
abbrev Disabled := Capability → ReasonCodes

namespace Disabled

/-- `{}`. -/
def empty : Disabled := fun _ => .none

/-- The dictionary has reasons against the capability. -/
def Blocks (disabled : Disabled) (c : Capability) : Prop := (disabled c).codes ≠ []

/-- `_disable`. -/
def disable (disabled : Disabled) (capabilities : List Capability) (reason : ErrorCode) :
    Disabled :=
  capabilities.foldl
    (fun disabled c => Function.update disabled c (.fromkeys ((disabled c).codes ++ [reason])))
    disabled

@[simp] theorem not_blocks_empty (c : Capability) : ¬ empty.Blocks c := by
  intro h
  exact h rfl

theorem blocks_disable {capabilities : List Capability} {reason : ErrorCode} {c : Capability} :
    ∀ {disabled : Disabled},
      (disabled.disable capabilities reason).Blocks c ↔ c ∈ capabilities ∨ disabled.Blocks c := by
  induction capabilities with
  | nil =>
    intro disabled
    simp [disable]
  | cons first rest ih =>
    intro disabled
    have hstep := @ih
      (Function.update disabled first (.fromkeys ((disabled first).codes ++ [reason])))
    unfold disable at hstep ⊢
    rw [List.foldl_cons, hstep, List.mem_cons]
    by_cases hc : c = first
    · subst hc
      simp [Blocks, ReasonCodes.fromkeys_eq_nil]
    · simp [Blocks, hc]

/-- A loop that adds the capabilities `P item` blocks at each item blocks what it did
before and those. -/
theorem blocks_foldl {α : Type} {f : Disabled → α → Disabled} {P : α → Capability → Prop}
    (hf : ∀ disabled item c, (f disabled item).Blocks c ↔ P item c ∨ disabled.Blocks c)
    {c : Capability} : ∀ {items : List α} {disabled : Disabled},
      (items.foldl f disabled).Blocks c ↔ (∃ item ∈ items, P item c) ∨ disabled.Blocks c := by
  intro items
  induction items with
  | nil =>
    intro disabled
    simp
  | cons item items ih =>
    intro disabled
    rw [List.foldl_cons, ih, hf]
    simp only [List.mem_cons, exists_eq_or_imp, or_assoc, or_left_comm]

end Disabled

/-! ## Capability states -/

/-- `_state`. -/
def capabilityState (c : Capability) (reasons : ReasonCodes) : CapabilityState where
  capability := c
  available := reasons.codes.isEmpty
  reasonCodes := reasons.codes
  unique := reasons.unique
  disabledRequiresReason := by
    intro h he
    rw [he] at h
    cases h

/-- `_states`. -/
def capabilityStates (disabled : Disabled) : List CapabilityState :=
  Capability.all.map fun c => capabilityState c (disabled c)

/-- Exactly one state for each capability. -/
def ExactStates (states : List CapabilityState) : Prop :=
  states.length = Capability.all.length ∧
    ∀ c ∈ Capability.all, c ∈ states.map CapabilityState.capability

instance (states : List CapabilityState) : Decidable (ExactStates states) :=
  inferInstanceAs (Decidable (_ ∧ _))

theorem exactStates_capabilityStates (disabled : Disabled) :
    ExactStates (capabilityStates disabled) := by
  refine ⟨List.length_map _, ?_⟩
  intro c hc
  rw [capabilityStates, List.map_map]
  exact List.mem_map.mpr ⟨c, hc, rfl⟩

/-- `next(state for state in states if state.capability is capability)`. -/
def stateOf (states : List CapabilityState) (h : ExactStates states) (c : Capability) :
    CapabilityState :=
  (states.find? fun state => state.capability = c).get (by
    obtain ⟨state, hstate, hc⟩ := List.mem_map.mp (h.2 c c.mem_all)
    exact List.find?_isSome.mpr ⟨state, hstate, decide_eq_true hc⟩)

theorem stateOf_capabilityStates {disabled : Disabled} (h : ExactStates (capabilityStates disabled))
    (c : Capability) : stateOf (capabilityStates disabled) h c = capabilityState c (disabled c) := by
  rw [stateOf, Option.get_of_eq_some]
  rw [capabilityStates, List.find?_map]
  cases c <;> rfl

theorem available_capabilityState {disabled : Disabled} {c : Capability} :
    (capabilityState c (disabled c)).available = false ↔ disabled.Blocks c := by
  rw [Disabled.Blocks, capabilityState, List.isEmpty_eq_false_iff]

/-! ## Sources -/

/-- `SourceRole`. -/
inductive SourceRole where
  | marketData | marketCalendar | macroCalendar | officialVerification
  deriving DecidableEq, Repr

/-- `SourceHealth`. -/
structure SourceHealth where
  provider : Identifier
  available : Bool
  required : Bool
  emptyValid : Bool
  errorCode : Option ErrorCode
  message : BoundedText 0 256
  emptyAvailable : emptyValid = true → available = true
  unavailableCoded : available = false ↔ errorCode.isSome = true

/-- `ProviderFailure`. -/
structure ProviderFailure where
  provider : Identifier
  symbol : Option Symbol
  errorCode : ErrorCode
  retryable : Bool
  message : BoundedText 0 256

/-- `HistoricalBarsRequestFailureReason`. -/
inductive HistoricalBarsRequestFailureReason where
  | authentication | permissionDenied | rateLimited | transportUnavailable
  | providerUnavailable | invalidRequest | invalidResponse
  deriving DecidableEq, Repr

/-- `HistoricalBarsRequestFailure`. -/
structure HistoricalBarsRequestFailure where
  reason : HistoricalBarsRequestFailureReason

/-- `_request_failure_code`. -/
def requestFailureCode (failure : HistoricalBarsRequestFailure) : ErrorCode :=
  match failure.reason with
  | .authentication => .credentialsMissing
  | .permissionDenied => .permissionDenied
  | .rateLimited => .providerUnavailable
  | .transportUnavailable => .providerUnavailable
  | .providerUnavailable => .providerUnavailable
  | .invalidRequest => .invalidRequest
  | .invalidResponse => .invalidResponse

/-- `_MARKET_PREREQUISITES`. -/
def marketPrerequisites : List String := ["alpaca", "market-calendar"]

/-- `_MACRO_PROVIDERS`. -/
def macroProviders : List String :=
  ["macro", "macro-calendar", "federal_reserve", "fed", "bls", "bea"]

/-- `_OPTIONAL_DISCOVERY_PROVIDERS`. -/
def optionalDiscoveryProviders : List String := ["alpaca_news", "news"]

/-- `_OFFICIAL_VERIFICATION_PROVIDERS`. -/
def officialVerificationProviders : List String := ["company_ir", "sec_edgar"]

/-- `_HEALTH_ROLE_PROVIDERS`. -/
def healthRoleProviders : List (SourceRole × List String) :=
  [(.marketData, ["alpaca"]), (.marketCalendar, ["market-calendar"]),
   (.macroCalendar, macroProviders), (.officialVerification, officialVerificationProviders)]

/-- What a macro source is needed for. -/
def macroDependencies : List Capability :=
  [.eventRiskCheckAvailable, .setupDetectionAvailable, .planDraftAvailable,
   .positionSizingAvailable, .portfolioHeatCheckAvailable]

/-- `_dependencies`. -/
def dependencies (provider : String) (required : Bool) : List Capability :=
  if provider ∈ marketPrerequisites then Capability.all
  else if provider ∈ macroProviders then macroDependencies
  else if provider ∈ officialVerificationProviders then [.planDraftAvailable]
  else if provider ∈ optionalDiscoveryProviders ∨ required = false then []
  else
    [.setupDetectionAvailable, .planDraftAvailable, .positionSizingAvailable,
     .portfolioHeatCheckAvailable]

/-- All names of one role have the same dependencies. -/
theorem dependencies_alternatives : ∀ entry ∈ healthRoleProviders, ∀ p ∈ entry.2, ∀ q ∈ entry.2,
    dependencies p true = dependencies q true := by
  decide

theorem dependencies_of_market {provider : String} {required : Bool}
    (h : provider ∈ marketPrerequisites) : dependencies provider required = Capability.all := if_pos h

/-- `_providers_for_role`. -/
def providersForRole : SourceRole → List String
  | .marketData => ["alpaca"]
  | .marketCalendar => ["market-calendar"]
  | .macroCalendar => macroProviders
  | .officialVerification => officialVerificationProviders

/-- `_role_for_provider`. -/
def roleForProvider (provider : String) : Option SourceRole :=
  (healthRoleProviders.find? fun entry => provider ∈ entry.2).map Prod.fst

/-- `_configured_role_health_is_valid`. -/
def configuredRoleHealthIsValid (role : SourceRole) (health : List SourceHealth) : Bool :=
  match health.filter fun entry => entry.provider.text ∈ providersForRole role with
  | [entry] => entry.required
  | _ => false

/-- What the evaluation raises. -/
inductive QualityError where
  | valueError (message : String)
  | keyError (status : PlanStatus)
  deriving DecidableEq, Repr

/-- The first unconfigured provider of the list. -/
def unconfigured (configured : List SourceRole) (providers : List Identifier) :
    Option Identifier :=
  providers.find? fun provider =>
    (roleForProvider provider.text).any fun role => role ∉ configured

/-- `_validate_source_roles`. -/
def validateSourceRoles (roles : List SourceRole) (health : List SourceHealth)
    (failures : List ProviderFailure) : Except QualityError Unit :=
  if ¬ roles.Nodup then throw (.valueError "source_roles must be unique")
  else if ¬ (.marketData ∈ roles ∧ .marketCalendar ∈ roles) then
    throw (.valueError "source_roles must include market data and market calendar")
  else
    match unconfigured roles (health.map SourceHealth.provider) with
    | some provider =>
      throw (.valueError ("source health provider '" ++ provider.text ++ "' is not configured"))
    | none =>
      match unconfigured roles (failures.map ProviderFailure.provider) with
      | some provider =>
        throw (.valueError ("provider failure '" ++ provider.text ++ "' is not configured"))
      | none => pure ()

/-- `_validate_source_health`. -/
def validateSourceHealth (health : List SourceHealth) : Except QualityError Unit :=
  if (health.map fun entry => entry.provider.text).Nodup then pure ()
  else throw (.valueError "source health providers must be unique")

/-- `_missing_health_dependencies`. -/
def missingHealthDependencies (roles : List SourceRole) (health : List SourceHealth) : Disabled :=
  healthRoleProviders.foldl
    (fun disabled entry =>
      if entry.1 ∈ roles ∧ configuredRoleHealthIsValid entry.1 health = false then
        disabled.disable (dependencies (entry.2.headD "") true) .configurationInvalid
      else disabled)
    .empty

/-- `_risk_dependencies`. -/
def riskDependencies : Option RiskPolicy → Disabled
  | none =>
    (Disabled.empty.disable [.positionSizingAvailable] .configurationInvalid).disable
      [.portfolioHeatCheckAvailable] .configurationInvalid
  | some policy =>
    let disabled :=
      if policy.sizingEnabled = false ∨ policy.planningCapitalUsd = none ∨
          policy.maxRiskPerTradePct = none ∨ policy.maxPositionPct = none ∨
          policy.minimumRewardRiskRatio = none then
        Disabled.empty.disable [.positionSizingAvailable] .sizingUnavailable
      else .empty
    if policy.sizingEnabled = false ∨ policy.maxTotalPortfolioHeatPct = none ∨
        policy.existingPortfolioHeatPct = none then
      disabled.disable [.portfolioHeatCheckAvailable] .portfolioHeatUnavailable
    else disabled

/-- `for capability, reasons in other.items(): for reason in reasons: _disable(..)`. -/
def Disabled.merge (disabled other : Disabled) : Disabled :=
  Capability.all.foldl
    (fun disabled c =>
      (other c).codes.foldl (fun disabled reason => disabled.disable [c] reason) disabled)
    disabled

/-- The body of the loop over the source health. -/
def Disabled.addHealth (disabled : Disabled) (health : SourceHealth) : Disabled :=
  match health.errorCode with
  | some code => disabled.disable (dependencies health.provider.text health.required) code
  | none => disabled

/-- The body of the loop over the provider failures. -/
def Disabled.addFailure (disabled : Disabled) (failure : ProviderFailure) : Disabled :=
  match failure.symbol with
  | none => disabled.disable (dependencies failure.provider.text true) failure.errorCode
  | some _ => disabled

/-- The restrictions of a role without a source. -/
def Disabled.addRole (disabled : Disabled) (roles : List SourceRole) (role : SourceRole)
    (capabilities : List Capability) : Disabled :=
  if role ∈ roles then disabled else disabled.disable capabilities .sourceNotConfigured

/-- The dictionary `evaluate_capabilities` ends with. -/
def globallyDisabled (roles : List SourceRole) (health : List SourceHealth)
    (failures : List ProviderFailure) (request : Option HistoricalBarsRequestFailure)
    (policy : Option RiskPolicy) : Disabled :=
  let disabled := (riskDependencies policy).merge (missingHealthDependencies roles health)
  let disabled := health.foldl Disabled.addHealth disabled
  let disabled :=
    match request with
    | some failure => disabled.disable Capability.all (requestFailureCode failure)
    | none => disabled
  let disabled := failures.foldl Disabled.addFailure disabled
  let disabled := disabled.addRole roles .macroCalendar macroDependencies
  disabled.addRole roles .officialVerification [.planDraftAvailable]

/-- `evaluate_capabilities`. -/
def evaluateCapabilities (roles : List SourceRole) (health : List SourceHealth)
    (failures : List ProviderFailure) (request : Option HistoricalBarsRequestFailure)
    (policy : Option RiskPolicy) : Except QualityError (List CapabilityState) := do
  validateSourceRoles roles health failures
  validateSourceHealth health
  pure (capabilityStates (globallyDisabled roles health failures request policy))

/-! ### What disables a capability -/

theorem Disabled.blocks_merge {disabled other : Disabled} {c : Capability} :
    (disabled.merge other).Blocks c ↔ other.Blocks c ∨ disabled.Blocks c := by
  have hinner (d : Disabled) (first : Capability) (c : Capability) :
      ((other first).codes.foldl (fun d reason => d.disable [first] reason) d).Blocks c ↔
        (first = c ∧ other.Blocks first) ∨ d.Blocks c := by
    rw [blocks_foldl (P := fun _ c => c ∈ [first]) fun d reason c => blocks_disable]
    have hother : other.Blocks first ↔ (other first).codes ≠ [] := Iff.rfl
    rw [hother]
    cases (other first).codes with
    | nil => simp
    | cons code codes => simp [eq_comm (a := c)]
  rw [Disabled.merge, blocks_foldl (P := fun first c => first = c ∧ other.Blocks first) hinner]
  simp [Capability.mem_all]

theorem Disabled.blocks_addHealth (disabled : Disabled) (health : SourceHealth) (c : Capability) :
    (disabled.addHealth health).Blocks c ↔
      (health.available = false ∧ c ∈ dependencies health.provider.text health.required) ∨
        disabled.Blocks c := by
  rw [health.unavailableCoded, Disabled.addHealth]
  cases health.errorCode with
  | none => simp
  | some code => simp [blocks_disable]

theorem Disabled.blocks_addFailure (disabled : Disabled) (failure : ProviderFailure)
    (c : Capability) :
    (disabled.addFailure failure).Blocks c ↔
      (failure.symbol = none ∧ c ∈ dependencies failure.provider.text true) ∨
        disabled.Blocks c := by
  rw [Disabled.addFailure]
  cases failure.symbol with
  | none => simp [blocks_disable]
  | some symbol => simp

theorem Disabled.blocks_addRole {disabled : Disabled} {roles : List SourceRole} {role : SourceRole}
    {capabilities : List Capability} {c : Capability} :
    (disabled.addRole roles role capabilities).Blocks c ↔
      (role ∉ roles ∧ c ∈ capabilities) ∨ disabled.Blocks c := by
  rw [Disabled.addRole]
  by_cases hrole : role ∈ roles
  · simp [hrole]
  · simp [hrole, blocks_disable]

/-- The causes that disable a capability for the whole run. -/
theorem blocks_globallyDisabled {roles : List SourceRole} {health : List SourceHealth}
    {failures : List ProviderFailure} {request : Option HistoricalBarsRequestFailure}
    {policy : Option RiskPolicy} {c : Capability} :
    (globallyDisabled roles health failures request policy).Blocks c ↔
      (.officialVerification ∉ roles ∧ c ∈ [Capability.planDraftAvailable]) ∨
      (.macroCalendar ∉ roles ∧ c ∈ macroDependencies) ∨
      (∃ failure ∈ failures, failure.symbol = none ∧
        c ∈ dependencies failure.provider.text true) ∨
      request.isSome = true ∨
      (∃ entry ∈ health, entry.available = false ∧
        c ∈ dependencies entry.provider.text entry.required) ∨
      (missingHealthDependencies roles health).Blocks c ∨ (riskDependencies policy).Blocks c := by
  unfold globallyDisabled
  simp only []
  rw [Disabled.blocks_addRole, Disabled.blocks_addRole,
    Disabled.blocks_foldl Disabled.blocks_addFailure]
  cases request with
  | none =>
    simp only [Option.isSome_none, Bool.false_eq_true, false_or]
    rw [Disabled.blocks_foldl Disabled.blocks_addHealth, Disabled.blocks_merge]
  | some failure =>
    simp only [Disabled.blocks_disable, Capability.mem_all, Option.isSome_some, true_or]

end FinanceResearch
