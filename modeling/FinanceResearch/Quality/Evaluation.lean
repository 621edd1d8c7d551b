import FinanceResearch.Lib.Fallible
import FinanceResearch.Quality.Capabilities

/-!
# Data quality results

`evaluate_data_quality` of `domain/quality.py` and its result, whose model validator is a
field of the record.

Mirroring notes vs the source:
- A dictionary by symbol is read whole only by `FrozenMap`, which sorts it; it is kept in
  key order from the start.
- `KeyError` is what a plan status that is no key of `_PLAN_STATUS_STRENGTH` raises.
-/

namespace FinanceResearch

open Fallible

/-! ## Results -/

/-- `_SYMBOL_PATTERN.fullmatch(symbol)`. -/
def isSymbolText (text : String) : Bool :=
  text.toList.head?.any Char.isUpper && Symbol.isTail text.toList

/-- The fields of `DataQualityResult`. -/
structure QualityFields where
  status : DataQualityStatus
  capabilities : List CapabilityState
  globalReasonCodes : ReasonCodes
  symbolCapabilities : FrozenMap (List CapabilityState)
  symbolPlanStatuses : FrozenMap PlanStatus

/-- `plan_available`. -/
def planAvailable (states : List CapabilityState) : Bool :=
  (states.find? fun state => state.capability = .planDraftAvailable).any CapabilityState.available

/-- The checks of one symbol. -/
def checkSymbol (statuses : FrozenMap PlanStatus) (entry : String × List CapabilityState) :
    Except QualityError Unit :=
  let status := statuses.get? entry.1
  let allAvailable := entry.2.all CapabilityState.available
  if isSymbolText entry.1 = false then throw (.valueError "symbol keys must be valid symbols")
  else if planAvailable entry.2 = false ∧ status ≠ some .blocked then
    throw (.valueError "symbol plan status must block an unavailable plan capability")
  else if planAvailable entry.2 = true ∧ allAvailable = false ∧
      status ≠ some .reviewRequired then
    throw (.valueError "symbol plan status must require review for scoped restrictions")
  else if planAvailable entry.2 = true ∧ allAvailable = true ∧ status ≠ some .draft then
    throw (.valueError
      "symbol plan status must draft when all scoped capabilities are available")
  else pure ()

/-- `raise ValueError(message)` when the condition holds. -/
def refuse (condition : Prop) [Decidable condition] (message : String) :
    Except QualityError Unit :=
  if condition then throw (.valueError message) else pure ()

theorem refuse_eq_ok {condition : Prop} [Decidable condition] {message : String} :
    refuse condition message = .ok ⟨⟩ ↔ ¬ condition := by
  rw [refuse]
  by_cases h : condition
  · rw [if_pos h]
    exact ⟨nofun, fun hn => absurd h hn⟩
  · rw [if_neg h]
    exact ⟨fun _ => h, fun _ => rfl⟩

/-- `_exact_capability_states`. -/
def QualityFields.exactCapabilityStates (fields : QualityFields) : Except QualityError Unit := do
  let allAvailable := fields.capabilities.all CapabilityState.available
  let restricted : Bool := fields.globalReasonCodes.codes ≠ [] ∨ fields.symbolCapabilities.items ≠ []
  refuse (¬ ExactStates fields.capabilities)
    "capabilities require exactly one state for each exact capability"
  refuse (∃ entry ∈ fields.symbolCapabilities.items, ¬ ExactStates entry.2)
    "symbol capabilities require exactly one state for each exact capability"
  refuse (fields.symbolPlanStatuses.names ≠ fields.symbolCapabilities.names)
    "symbol plan status requires exactly the symbol capabilities"
  forM fields.symbolCapabilities.items (checkSymbol fields.symbolPlanStatuses)
  refuse (fields.status = .pass ∧ (allAvailable = false ∨ restricted = true))
    "PASS requires every capability and scoped result to be available"
  refuse (fields.status = .fail ∧ allAvailable = true)
    "FAIL requires a disabled global capability"
  refuse (fields.status = .degraded ∧ allAvailable = true ∧ restricted = false)
    "DEGRADED requires a global or symbol-scoped restriction"

/-- `DataQualityResult`. -/
structure DataQualityResult extends QualityFields where
  valid : toQualityFields.exactCapabilityStates = .ok ⟨⟩

/-- `DataQualityResult(..)`. -/
def QualityFields.validate (fields : QualityFields) : Except QualityError DataQualityResult :=
  match h : fields.exactCapabilityStates with
  | .ok _ => .ok ⟨fields, h⟩
  | .error e => .error e

namespace DataQualityResult

theorem exact (result : DataQualityResult) : ExactStates result.capabilities := by
  have h := result.valid
  unfold QualityFields.exactCapabilityStates at h
  obtain ⟨_, hexact, _⟩ := bind_eq_ok.mp h
  exact not_not.mp (refuse_eq_ok.mp hexact)

/-- What the validator checks of a symbol. -/
theorem exact_symbol (result : DataQualityResult) {entry : String × List CapabilityState}
    (hentry : entry ∈ result.symbolCapabilities.items) :
    ExactStates entry.2 ∧ checkSymbol result.symbolPlanStatuses entry = .ok ⟨⟩ := by
  have h := result.valid
  unfold QualityFields.exactCapabilityStates at h
  obtain ⟨_, _, h⟩ := bind_eq_ok.mp h
  obtain ⟨_, hexact, h⟩ := bind_eq_ok.mp h
  obtain ⟨_, _, h⟩ := bind_eq_ok.mp h
  obtain ⟨_, hcheck, _⟩ := bind_eq_ok.mp h
  refine ⟨?_, forM_eq_ok.mp hcheck entry hentry⟩
  by_contra hnot
  exact refuse_eq_ok.mp hexact ⟨entry, hentry, hnot⟩

/-- A symbol without capabilities has no plan status. -/
theorem get?_planStatus_none (result : DataQualityResult) {symbol : String}
    (hnone : result.symbolCapabilities.get? symbol = none) :
    result.symbolPlanStatuses.get? symbol = none := by
  have h := result.valid
  unfold QualityFields.exactCapabilityStates at h
  obtain ⟨_, _, h⟩ := bind_eq_ok.mp h
  obtain ⟨_, _, h⟩ := bind_eq_ok.mp h
  obtain ⟨_, hnames, _⟩ := bind_eq_ok.mp h
  have heq := not_not.mp (refuse_eq_ok.mp hnames)
  rw [← Option.not_isSome_iff_eq_none, FrozenMap.get?_isSome] at hnone ⊢
  rwa [heq]

/-- `symbol_capabilities.get(symbol, _states({}))`. -/
def localStates (result : DataQualityResult) (symbol : String) : List CapabilityState :=
  (result.symbolCapabilities.get? symbol).getD (capabilityStates .empty)

theorem exact_localStates (result : DataQualityResult) (symbol : String) :
    ExactStates (result.localStates symbol) := by
  rw [localStates]
  cases h : result.symbolCapabilities.get? symbol with
  | none => exact exactStates_capabilityStates .empty
  | some states => exact (result.exact_symbol ((FrozenMap.get?_eq_some _).mp h)).1

/-- `DataQualityResult.capability`. -/
def capability (result : DataQualityResult) (c : Capability) : CapabilityState :=
  stateOf result.capabilities result.exact c

/-- `DataQualityResult.symbol_capability`. -/
def symbolCapability (result : DataQualityResult) (symbol : String) (c : Capability) :
    CapabilityState :=
  let globalState := result.capability c
  let localState := stateOf (result.localStates symbol) (result.exact_localStates symbol) c
  capabilityState c (.fromkeys (globalState.reasonCodes ++ localState.reasonCodes))

/-- `DataQualityResult.symbol_plan_status`. -/
def symbolPlanStatus (result : DataQualityResult) (symbol : String) : PlanStatus :=
  if (result.symbolCapability symbol .planDraftAvailable).available = false then .blocked
  else (result.symbolPlanStatuses.get? symbol).getD .draft

end DataQualityResult

/-! ## Scopes of symbols -/

/-- A dictionary by symbol. -/
structure SymbolDict (β : Type) where
  items : List (String × β)
  sorted : (items.map Prod.fst).Pairwise (· < ·)

namespace SymbolDict

variable {β γ : Type}

theorem nil_sorted : (([] : List (String × β)).map Prod.fst).Pairwise (· < ·) := List.Pairwise.nil

def empty : SymbolDict β := ⟨[], nil_sorted⟩

def get? (dict : SymbolDict β) (symbol : String) : Option β := dict.items.lookup symbol

/-- `dict[symbol] = value`. -/
def set (dict : SymbolDict β) (symbol : String) (value : β) : SymbolDict β :=
  ⟨FrozenMap.setItem dict.items symbol value, FrozenMap.setItem_sorted dict.sorted⟩

/-- `{symbol: f(value) for symbol, value in dict.items()}`. -/
def map (f : β → γ) (dict : SymbolDict β) : SymbolDict γ where
  items := dict.items.map fun item => (item.1, f item.2)
  sorted := by
    rw [List.map_map]
    exact dict.sorted

/-- `FrozenMap(dict)`. -/
def freeze (dict : SymbolDict β) : Except QualityError (FrozenMap β) :=
  if h : dict.items.length ≤ 128 then .ok ⟨dict.items, dict.sorted, h⟩
  else .error (.valueError "FrozenMap permits at most 128 entries")

@[simp] theorem get?_empty (symbol : String) : (empty : SymbolDict β).get? symbol = none := rfl

@[simp] theorem get?_set {dict : SymbolDict β} {symbol key : String} {value : β} :
    (dict.set symbol value).get? key = if key = symbol then some value else dict.get? key :=
  FrozenMap.lookup_setItem

@[simp] theorem get?_map {f : β → γ} {dict : SymbolDict β} {symbol : String} :
    (dict.map f).get? symbol = (dict.get? symbol).map f := by
  show (dict.items.map fun item => (item.1, f item.2)).lookup symbol = (dict.items.lookup symbol).map f
  induction dict.items with
  | nil => rfl
  | cons item items ih =>
    rw [List.map_cons, List.lookup_cons, List.lookup_cons]
    cases symbol == item.1 with
    | true => rfl
    | false => exact ih

theorem items_of_freeze {dict : SymbolDict β} {m : FrozenMap β} (h : dict.freeze = .ok m) :
    m.items = dict.items := by
  unfold freeze at h
  split at h
  · cases h
    rfl
  · cases h

theorem get?_of_freeze {dict : SymbolDict β} {m : FrozenMap β} (h : dict.freeze = .ok m)
    (symbol : String) : m.get? symbol = dict.get? symbol := by
  rw [FrozenMap.get?, items_of_freeze h, get?]

end SymbolDict

/-- `_PLAN_STATUS_STRENGTH`. -/
def planStatusStrength : PlanStatus → Option Nat
  | .draft => some 0
  | .reviewRequired => some 1
  | .blocked => some 2
  | .expired => none

/-- `_PLAN_STATUS_STRENGTH[status]`. -/
def strengthOf (status : PlanStatus) : Except QualityError Nat :=
  match planStatusStrength status with
  | some strength => .ok strength
  | none => .error (.keyError status)

/-- `_strongest_plan_status`. -/
def strongestPlanStatus (current : Option PlanStatus) (candidate : PlanStatus) :
    Except QualityError PlanStatus :=
  match current with
  | none => pure candidate
  | some current => do
    let new ← strengthOf candidate
    let old ← strengthOf current
    pure (if old < new then candidate else current)

/-- `symbol_disabled` and `symbol_status`. -/
structure SymbolScopes where
  disabled : SymbolDict Disabled
  status : SymbolDict PlanStatus

namespace SymbolScopes

def empty : SymbolScopes := ⟨.empty, .empty⟩

/-- `symbol_disabled.get(symbol, {})`. -/
def disabledOf (scopes : SymbolScopes) (symbol : String) : Disabled :=
  (scopes.disabled.get? symbol).getD .empty

/-- What each of the three loops does with a failure of a symbol. -/
def restrict (scopes : SymbolScopes) (symbol : String) (capabilities : List Capability)
    (reason : ErrorCode) (candidate : PlanStatus) : Except QualityError SymbolScopes := do
  let status ← strongestPlanStatus (scopes.status.get? symbol) candidate
  pure {
    disabled :=
      scopes.disabled.set symbol ((scopes.disabledOf symbol).disable capabilities reason)
    status := scopes.status.set symbol status }

theorem restrict_disabled {scopes next : SymbolScopes} {symbol : String}
    {capabilities : List Capability} {reason : ErrorCode} {candidate : PlanStatus}
    (h : scopes.restrict symbol capabilities reason candidate = .ok next) :
    next.disabled =
      scopes.disabled.set symbol ((scopes.disabledOf symbol).disable capabilities reason) := by
  obtain ⟨status, -, h⟩ := bind_eq_ok.mp h
  cases h
  rfl

end SymbolScopes

/-! ## The evaluation -/

/-- `HistoricalBarsUnavailableReason`. -/
inductive HistoricalBarsUnavailableReason where
  | noData | missingExpectedSession | duplicateConflict | malformedBar | stale
  | futureOrIncompleteBar
  deriving DecidableEq, Repr

/-- `HistoricalBarsFailure`; `_require_symbol` admits `[A-Z][A-Z0-9.-]*`. -/
structure HistoricalBarsFailure where
  symbol : String
  reason : HistoricalBarsUnavailableReason
  normalized : symbol.toList.head?.any Char.isUpper = true ∧
    symbol.toList.all (fun c => c.isUpper || c.isDigit || c == '.' || c == '-') = true

/-- `_historical_failure_code`. -/
def historicalFailureCode (failure : HistoricalBarsFailure) : ErrorCode :=
  match failure.reason with
  | .noData => .providerNoData
  | .missingExpectedSession => .providerMissingSession
  | .duplicateConflict => .providerDuplicateConflict
  | .malformedBar => .providerMalformedBar
  | .stale => .providerStale
  | .futureOrIncompleteBar => .providerFutureOrIncompleteBar

/-- The arguments of `evaluate_data_quality`. -/
structure QualityInput where
  sourceRoles : List SourceRole
  sourceHealth : List SourceHealth
  providerFailures : List ProviderFailure
  historicalFailures : List HistoricalBarsFailure
  historicalRequestFailure : Option HistoricalBarsRequestFailure
  currentPriceFailures : List ProviderFailure
  riskPolicy : Option RiskPolicy

/-- `full_symbol_capabilities`. -/
def fullSymbolCapabilities : List Capability :=
  [.watchlistMetricsAvailable, .setupDetectionAvailable, .planDraftAvailable,
   .positionSizingAvailable]

/-- `candidate_status`. -/
def candidateStatus (dependencies : List Capability) : PlanStatus :=
  if .planDraftAvailable ∈ dependencies then .blocked
  else if dependencies ≠ [] then .reviewRequired
  else .draft

namespace SymbolScopes

/-- The body of the loop over the provider failures. -/
def addProviderFailure (scopes : SymbolScopes) (failure : ProviderFailure) :
    Except QualityError SymbolScopes :=
  match failure.symbol with
  | none => pure scopes
  | some symbol =>
    let capabilities := dependencies failure.provider.text true
    scopes.restrict symbol.text capabilities failure.errorCode (candidateStatus capabilities)

/-- The body of the loop over the historical failures. -/
def addHistoricalFailure (scopes : SymbolScopes) (failure : HistoricalBarsFailure) :
    Except QualityError SymbolScopes :=
  scopes.restrict failure.symbol fullSymbolCapabilities (historicalFailureCode failure) .blocked

/-- The body of the loop over the current-price failures. -/
def addPriceFailure (scopes : SymbolScopes) (failure : ProviderFailure) :
    Except QualityError SymbolScopes :=
  match failure.symbol with
  | none => throw (.valueError "current price failures require symbol scope")
  | some symbol =>
    scopes.restrict symbol.text [.positionSizingAvailable] failure.errorCode .reviewRequired

end SymbolScopes

namespace QualityInput

/-- `incomplete_health_roles`. -/
def incompleteHealthRoles (input : QualityInput) : List SourceRole :=
  input.sourceRoles.filter fun role => !configuredRoleHealthIsValid role input.sourceHealth

/-- `global_reasons`. -/
def globalReasons (input : QualityInput) : List ErrorCode :=
  ((input.providerFailures.filter fun failure => failure.symbol = none).map
      ProviderFailure.errorCode) ++
    input.sourceHealth.filterMap
      (fun health => if health.available = false then health.errorCode else none) ++
    (if input.incompleteHealthRoles = [] then [] else [.configurationInvalid]) ++
    (input.historicalRequestFailure.map requestFailureCode).toList

/-- `hard_global`. -/
def HardGlobal (input : QualityInput) : Prop :=
  input.historicalRequestFailure.isSome = true ∨
    (∃ failure ∈ input.providerFailures, failure.symbol = none ∧
      failure.provider.text ∈ marketPrerequisites) ∨
    (∃ health ∈ input.sourceHealth, health.available = false ∧
      health.provider.text ∈ marketPrerequisites) ∨
    input.incompleteHealthRoles ≠ []

instance (input : QualityInput) : Decidable input.HardGlobal :=
  inferInstanceAs (Decidable (_ ∨ _))

/-- `capabilities`, as a dictionary. -/
def disabled (input : QualityInput) : Disabled :=
  globallyDisabled input.sourceRoles input.sourceHealth input.providerFailures
    input.historicalRequestFailure input.riskPolicy

/-- The three loops over the failures of symbols. -/
def scopes (input : QualityInput) : Except QualityError SymbolScopes := do
  let scopes ← input.providerFailures.foldlM SymbolScopes.addProviderFailure .empty
  let scopes ← input.historicalFailures.foldlM SymbolScopes.addHistoricalFailure scopes
  input.currentPriceFailures.foldlM SymbolScopes.addPriceFailure scopes

/-- `status`. -/
def status (input : QualityInput) (scopes : SymbolScopes) (capabilities : List CapabilityState) :
    DataQualityStatus :=
  if input.HardGlobal then .fail
  else if input.globalReasons ≠ [] ∨ scopes.disabled.items ≠ [] ∨
      capabilities.any (fun state => !state.available) then .degraded
  else .pass

end QualityInput

/-- `evaluate_data_quality`. -/
def evaluateDataQuality (input : QualityInput) : Except QualityError DataQualityResult := do
  validateSourceRoles input.sourceRoles input.sourceHealth
    (input.providerFailures ++ input.currentPriceFailures)
  let capabilities ← evaluateCapabilities input.sourceRoles input.sourceHealth
    input.providerFailures input.historicalRequestFailure input.riskPolicy
  let scopes ← input.scopes
  let symbolCapabilities ← (scopes.disabled.map capabilityStates).freeze
  let symbolPlanStatuses ← scopes.status.freeze
  QualityFields.validate {
    status := input.status scopes capabilities
    capabilities
    globalReasonCodes := .fromkeys input.globalReasons
    symbolCapabilities
    symbolPlanStatuses }

end FinanceResearch
