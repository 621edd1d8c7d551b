import FinanceResearch.Config.Policies
import FinanceResearch.Lib.DecimalText

/-!
# Policies as JSON

What `model_dump(mode="json")` and `_jsonable(asdict(policy))` make of a policy, and how
a policy is read from such values. Reading returns `none` where the source raises.

Mirroring notes vs the source:
- An object lists its fields in the order of their names, as the `FrozenMap` of a
  snapshot keeps them.
-/

namespace FinanceResearch.Config

open Codec (field fieldOr fields)
open Regimes (RegimeComponent)

/-- What the standard library and pydantic decide. -/
structure Runtime where
  characters : CharacterDatabase
  urls : UrlLibrary
  /-- `Decimal(value)` of a value that is neither a text nor an integer. -/
  exactDecimal : Json → Option Decimal

/-! ## Values of the fields -/

def symbolCodec : Codec Symbol where
  write s := .str s.text
  read
    | .str t =>
      if h : t.length ≤ 16 ∧ t.toList.head?.any Char.isUpper = true ∧
          Symbol.isTail t.toList = true then some ⟨t, h⟩
      else none
    | _ => none
  Good _ := True
  write_ne_null _ := nofun
  read_write s _ := dif_pos s.legal

def roleCodec : Codec WatchlistRole :=
  .named WatchlistRole.all WatchlistRole.value (fun a => by cases a <;> decide) (by decide)

def horizonCodec : Codec ResearchHorizon :=
  .named ResearchHorizon.all ResearchHorizon.value (fun a => by cases a <;> decide) (by decide)

def penaltyNameCodec : Codec PenaltyName :=
  .named PenaltyName.all PenaltyName.value (fun a => by cases a <;> decide) (by decide)

def sourceRoleCodec : Codec SourceRole :=
  .named sourceRoles sourceRoleValue (fun a => by cases a <;> decide) (by decide)

def persistenceCodec : Codec LicensedContentPersistence :=
  .named LicensedContentPersistence.all LicensedContentPersistence.value
    (fun a => by cases a <;> decide) (by decide)

/-- `_decimal(value, ..)` of a text. -/
def decimalCodec (u : CharacterDatabase) : Codec Decimal where
  write d := .str d.text
  read
    | .str t => Decimal.parse u t
    | _ => none
  Good d := u.PlainDigits ∧ d.IsRepresentable
  write_ne_null _ := nofun
  read_write _ h := Decimal.parse_text h.1 h.2

/-- `_decimal(value, .., positive=True)` of a text. -/
def positiveCodec (u : CharacterDatabase) : Codec PositiveDecimal :=
  ((decimalCodec u).refine fun d => d.negative = false ∧ d.coefficient ≠ 0).iso
    (fun d => ⟨d.val, d.property⟩) (fun d => ⟨d.value, d.positive⟩) (fun _ => rfl)

/-- A dictionary, as a map: in the order of its keys. -/
def collect {β : Type} (items : List (String × β)) : Option (FrozenMap β) :=
  let ordered := items.insertionSort fun a b => a.1 ≤ b.1
  if h : (ordered.map Prod.fst).Pairwise (· < ·) ∧ ordered.length ≤ 128 then
    some ⟨ordered, h.1, h.2⟩
  else none

theorem collect_items {β : Type} (m : FrozenMap β) : collect m.items = some m := by
  have hle : m.items.Pairwise fun a b => a.1 ≤ b.1 :=
    (List.pairwise_map.mp m.sorted).imp fun h => le_of_lt h
  have hsort : m.items.insertionSort (fun a b => a.1 ≤ b.1) = m.items :=
    List.Pairwise.insertionSort_eq hle
  unfold collect
  simp only [hsort]
  exact dif_pos ⟨m.sorted, m.bounded⟩

/-- An entry of a map. -/
def entry {β : Type} (c : Codec β) (item : String × Json) : Option (String × β) :=
  (c.read item.2).map fun value => (item.1, value)

/-- `FrozenMap[str, value]`. -/
def mapCodec {β : Type} (c : Codec β) : Codec (FrozenMap β) where
  write m := .obj (m.items.map fun item => (item.1, c.write item.2))
  read
    | .obj items => (items.mapM (entry c)).bind collect
    | _ => none
  Good m := ∀ item ∈ m.items, c.Good item.2
  write_ne_null _ := nofun
  read_write m h := by
    have hitems : ∀ items : List (String × β), (∀ item ∈ items, c.Good item.2) →
        (items.map fun item => (item.1, c.write item.2)).mapM (entry c) = some items := by
      intro items hgood
      induction items with
      | nil => rfl
      | cons item rest ih =>
        have hrest := ih fun next hnext => hgood next (List.mem_cons_of_mem _ hnext)
        rw [List.map_cons, List.mapM_cons, hrest]
        simp only [entry, c.read_write _ (hgood item List.mem_cons_self)]
        rfl
    show ((m.items.map fun item => (item.1, c.write item.2)).mapM (entry c)).bind collect = some m
    rw [hitems m.items h, Option.bind_some, collect_items]

/-! ## Watchlist -/

def WatchlistItem.toFields (item : WatchlistItem) : List (String × Json) :=
  [("benchmark_symbol", symbolCodec.writeOptional item.benchmarkSymbol),
    ("expires_on", Codec.date.writeOptional item.expiresOn),
    ("notes", Codec.text.writeOptional item.notes),
    ("official_sources", Codec.text.list.write item.officialSources),
    ("priority", Codec.natural.write item.priority),
    ("research_horizon", horizonCodec.write item.researchHorizon),
    ("research_rationale", .str item.researchRationale),
    ("role", roleCodec.write item.role),
    ("sector_proxy_symbol", symbolCodec.writeOptional item.sectorProxySymbol),
    ("symbol", symbolCodec.write item.symbol),
    ("tags", Codec.text.list.write item.tags)]

def WatchlistItem.toJson (item : WatchlistItem) : Json := .obj item.toFields

section Reading

variable (runtime : Runtime)

def WatchlistItem.fieldNames : List String :=
  ["benchmark_symbol", "expires_on", "notes", "official_sources", "priority", "research_horizon",
   "research_rationale", "role", "sector_proxy_symbol", "symbol", "tags"]

/-- `WatchlistItem.model_validate`. -/
def WatchlistItem.read (j : Json) : Option WatchlistItem := do
  let items ← fields WatchlistItem.fieldNames j
  let benchmarkSymbol ← fieldOr items "benchmark_symbol" symbolCodec.readOptional none
  let expiresOn ← fieldOr items "expires_on" Codec.date.readOptional none
  let notes ← fieldOr items "notes" Codec.text.readOptional none
  let officialSources ← fieldOr items "official_sources" Codec.text.list.read []
  let priority ← fieldOr items "priority" Codec.natural.read 0
  let researchHorizon ← fieldOr items "research_horizon" horizonCodec.read .mediumTerm
  let researchRationale ← field items "research_rationale" Codec.text.read
  let role ← field items "role" roleCodec.read
  let sectorProxySymbol ← fieldOr items "sector_proxy_symbol" symbolCodec.readOptional none
  let symbol ← field items "symbol" symbolCodec.read
  let tags ← fieldOr items "tags" Codec.text.list.read []
  let item : WatchlistItem := {
    symbol, role, researchRationale, tags, priority, researchHorizon, expiresOn, benchmarkSymbol,
    sectorProxySymbol, officialSources, notes }
  if item.Legal runtime.characters runtime.urls then some item else none

def WatchlistConfig.toFields (watchlist : WatchlistConfig) : List (String × Json) :=
  [("items", .arr (watchlist.items.map WatchlistItem.toJson)),
    ("version", .str watchlist.version)]

def WatchlistConfig.toJson (watchlist : WatchlistConfig) : Json := .obj watchlist.toFields

/-- `tuple[WatchlistItem, ...]`. -/
def readItems : Json → Option (List WatchlistItem)
  | .arr items => items.mapM (WatchlistItem.read runtime)
  | _ => none

def WatchlistConfig.fieldNames : List String :=
  ["items", "version"]

/-- `WatchlistConfig.model_validate`. -/
def WatchlistConfig.read (j : Json) : Option WatchlistConfig := do
  let fields ← fields WatchlistConfig.fieldNames j
  let items ← fieldOr fields "items" (readItems runtime) []
  let version ← field fields "version" Codec.text.read
  let watchlist : WatchlistConfig := {
    version, items }
  if watchlist.Legal then some watchlist else none

/-! ## Risk -/

def riskFields (u : CharacterDatabase) (policy : RiskPolicy) : List (String × Json) :=
  [("allow_fractional_units", .bool policy.allowFractionalUnits),
    ("existing_portfolio_heat_pct", (positiveCodec u).writeOptional policy.existingPortfolioHeatPct),
    ("max_concurrent_plan_drafts", Codec.natural.write policy.maxConcurrentPlanDrafts),
    ("max_position_pct", (positiveCodec u).writeOptional policy.maxPositionPct),
    ("max_risk_per_trade_pct", (positiveCodec u).writeOptional policy.maxRiskPerTradePct),
    ("max_total_portfolio_heat_pct", (positiveCodec u).writeOptional policy.maxTotalPortfolioHeatPct),
    ("minimum_reward_risk_ratio", (positiveCodec u).writeOptional policy.minimumRewardRiskRatio),
    ("planning_capital_usd", (positiveCodec u).writeOptional policy.planningCapitalUsd),
    ("quantity_increment", (positiveCodec u).write policy.quantityIncrement),
    ("regime_risk_multipliers", (mapCodec (decimalCodec u)).write policy.regimeRiskMultipliers),
    ("sizing_enabled", .bool policy.sizingEnabled),
    ("version", .str policy.version)]

def riskToJson (u : CharacterDatabase) (policy : RiskPolicy) : Json := .obj (riskFields u policy)

def riskFieldNames : List String :=
  ["allow_fractional_units", "existing_portfolio_heat_pct", "max_concurrent_plan_drafts",
   "max_position_pct", "max_risk_per_trade_pct", "max_total_portfolio_heat_pct",
   "minimum_reward_risk_ratio", "planning_capital_usd", "quantity_increment",
   "regime_risk_multipliers", "sizing_enabled", "version"]

/-- `RiskPolicy.model_validate`. -/
def readRisk (j : Json) : Option RiskPolicy := do
  let amount := (positiveCodec runtime.characters).readOptional
  let items ← fields riskFieldNames j
  let allowFractionalUnits ← fieldOr items "allow_fractional_units" Codec.flag.read false
  let existingPortfolioHeatPct ← fieldOr items "existing_portfolio_heat_pct" amount none
  let maxConcurrentPlanDrafts ← fieldOr items "max_concurrent_plan_drafts" Codec.natural.read 5
  let maxPositionPct ← fieldOr items "max_position_pct" amount none
  let maxRiskPerTradePct ← fieldOr items "max_risk_per_trade_pct" amount none
  let maxTotalPortfolioHeatPct ← fieldOr items "max_total_portfolio_heat_pct" amount none
  let minimumRewardRiskRatio ← fieldOr items "minimum_reward_risk_ratio" amount none
  let planningCapitalUsd ← fieldOr items "planning_capital_usd" amount none
  let quantityIncrement ← field items "quantity_increment" (positiveCodec runtime.characters).read
  let regimeRiskMultipliers ← field items "regime_risk_multipliers"
    (mapCodec (decimalCodec runtime.characters)).read
  let sizingEnabled ← fieldOr items "sizing_enabled" Codec.flag.read false
  let version ← field items "version" Codec.text.read
  if h : isVersion version = true ∧ maxConcurrentPlanDrafts ≤ 5 ∧
      ((∀ regime ∈ Regime.all, regime.name ∈ regimeRiskMultipliers.names) ∧
        ∀ name ∈ regimeRiskMultipliers.names, name ∈ Regime.all.map Regime.name) ∧
      ∀ item ∈ regimeRiskMultipliers.items,
        Decimal.zero.atMost item.2 = true ∧ item.2.atMost Decimal.one = true then
    some { version, sizingEnabled, planningCapitalUsd, maxRiskPerTradePct, maxPositionPct,
           minimumRewardRiskRatio, maxTotalPortfolioHeatPct, existingPortfolioHeatPct,
           maxConcurrentPlanDrafts, allowFractionalUnits, quantityIncrement,
           regimeRiskMultipliers, versioned := h.1, fewDrafts := h.2.1, everyRegime := h.2.2.1,
           fractions := h.2.2.2 }
  else none

/-! ## Setups -/

def SetupPolicy.toFields (u : CharacterDatabase) (policy : SetupPolicy) : List (String × Json) :=
  [("atr_window", Codec.natural.write policy.atrWindow),
    ("breakout_lookback", Codec.natural.write policy.breakoutLookback),
    ("earnings_blackout_sessions", Codec.natural.write policy.earningsBlackoutSessions),
    ("entry_zone_atr_buffers", (positiveCodec u).list.write policy.entryZoneAtrBuffers),
    ("extension_limits", (positiveCodec u).list.write policy.extensionLimits),
    ("minimum_median_dollar_volume", (positiveCodec u).write policy.minimumMedianDollarVolume),
    ("minimum_price", (positiveCodec u).write policy.minimumPrice),
    ("minimum_reward_to_risk", (positiveCodec u).write policy.minimumRewardToRisk),
    ("moving_average_windows", Codec.integer.list.write policy.movingAverageWindows),
    ("penalty_names", penaltyNameCodec.list.write policy.penaltyNames),
    ("plan_lifetime_sessions", Codec.natural.write policy.planLifetimeSessions),
    ("pullback_support_tolerances", (positiveCodec u).list.write policy.pullbackSupportTolerances),
    ("required_historical_sessions", Codec.natural.write policy.requiredHistoricalSessions),
    ("restrengthening_conditions", Codec.text.list.write policy.restrengtheningConditions),
    ("score_weights", (positiveCodec u).list.write policy.scoreWeights),
    ("trend_slope_windows", Codec.integer.list.write policy.trendSlopeWindows),
    ("version", .str policy.version)]

def SetupPolicy.toJson (u : CharacterDatabase) (policy : SetupPolicy) : Json :=
  .obj (policy.toFields u)

/-- `Decimal(value)`. -/
def decimalOf : Json → Option Decimal
  | .str t => Decimal.parse runtime.characters t
  | .int i => some (Decimal.ofInt i)
  | value => runtime.exactDecimal value

/-- What a `for` loop over the value runs through. -/
def iterate : Json → Option (List Json)
  | .arr items => some items
  | .str t => some (t.toList.map fun c => .str (String.ofList [c]))
  | .obj items => some (items.map fun item => .str item.1)
  | _ => none

/-- A `Decimal` that is positive. -/
def positiveOf (j : Json) : Option PositiveDecimal :=
  (decimalOf runtime j).bind fun d =>
    if h : d.negative = false ∧ d.coefficient ≠ 0 then some ⟨d, h⟩ else none

/-- `tuple(Decimal(item) for item in value)`, and `setup_decimals`. -/
def decimals (j : Json) : Option (List PositiveDecimal) :=
  (iterate j).bind fun items => items.mapM (positiveOf runtime)

def SetupPolicy.fieldNames : List String :=
  ["atr_window", "breakout_lookback", "earnings_blackout_sessions", "entry_zone_atr_buffers",
   "extension_limits", "minimum_median_dollar_volume", "minimum_price", "minimum_reward_to_risk",
   "moving_average_windows", "penalty_names", "plan_lifetime_sessions",
   "pullback_support_tolerances", "required_historical_sessions", "restrengthening_conditions",
   "score_weights", "trend_slope_windows", "version"]

/-- `SetupPolicy.model_validate`, after the conversions of `_configuration_from_values`. -/
def SetupPolicy.read (j : Json) : Option SetupPolicy := do
  let amount := (positiveCodec runtime.characters).read
  let items ← fields SetupPolicy.fieldNames j
  let atrWindow ← field items "atr_window" Codec.natural.read
  let breakoutLookback ← field items "breakout_lookback" Codec.natural.read
  let earningsBlackoutSessions ← field items "earnings_blackout_sessions" Codec.natural.read
  let entryZoneAtrBuffers ← field items "entry_zone_atr_buffers" (decimals runtime)
  let extensionLimits ← field items "extension_limits" (decimals runtime)
  let minimumMedianDollarVolume ← field items "minimum_median_dollar_volume" amount
  let minimumPrice ← field items "minimum_price" amount
  let minimumRewardToRisk ← field items "minimum_reward_to_risk" amount
  let movingAverageWindows ← field items "moving_average_windows" Codec.integer.list.read
  let penaltyNames ← field items "penalty_names" penaltyNameCodec.list.read
  let planLifetimeSessions ← field items "plan_lifetime_sessions" Codec.natural.read
  let pullbackSupportTolerances ← field items "pullback_support_tolerances" (decimals runtime)
  let requiredHistoricalSessions ← field items "required_historical_sessions" Codec.natural.read
  let restrengtheningConditions ← field items "restrengthening_conditions" Codec.text.list.read
  let scoreWeights ← field items "score_weights" (decimals runtime)
  let trendSlopeWindows ← field items "trend_slope_windows" Codec.integer.list.read
  let version ← field items "version" Codec.text.read
  let policy : SetupPolicy := {
    version, requiredHistoricalSessions, minimumPrice, minimumMedianDollarVolume,
    movingAverageWindows, trendSlopeWindows, breakoutLookback, atrWindow, entryZoneAtrBuffers,
    extensionLimits, pullbackSupportTolerances, restrengtheningConditions, minimumRewardToRisk,
    planLifetimeSessions, earningsBlackoutSessions, scoreWeights, penaltyNames }
  if policy.Legal then some policy else none

/-! ## Sources -/

def SourcePolicy.toFields (u : CharacterDatabase) (policy : SourcePolicy) :
    List (String × Json) :=
  [("allow_redirects", .bool policy.allowRedirects),
    ("allowed_adapters", Codec.text.list.write policy.allowedAdapters),
    ("allowed_content_types", Codec.text.list.write policy.allowedContentTypes),
    ("allowed_hosts_by_adapter", (mapCodec Codec.text.list).writeOptional policy.allowedHostsByAdapter),
    ("allowed_https_domains", Codec.text.list.write policy.allowedHttpsDomains),
    ("allowed_ports_by_host", (mapCodec Codec.natural.list).write policy.allowedPortsByHost),
    ("cache_retention_seconds", Codec.natural.write policy.cacheRetentionSeconds),
    ("excerpt_limits", (mapCodec Codec.natural).write policy.excerptLimits),
    ("freshness_by_data_type", (mapCodec Codec.natural).write policy.freshnessByDataType),
    ("licensed_content_persistence", persistenceCodec.write policy.licensedContentPersistence),
    ("maximum_response_bytes", Codec.natural.write policy.maximumResponseBytes),
    ("per_run_request_budgets", (mapCodec Codec.natural).write policy.perRunRequestBudgets),
    ("quality_source_roles", sourceRoleCodec.list.write policy.qualitySourceRoles),
    ("request_deadline_seconds", (positiveCodec u).write policy.requestDeadlineSeconds),
    ("retry_attempts", Codec.natural.write policy.retryAttempts),
    ("retry_backoff_seconds", (positiveCodec u).write policy.retryBackoffSeconds),
    ("retry_jitter_seconds", (positiveCodec u).write policy.retryJitterSeconds),
    ("version", .str policy.version)]

def SourcePolicy.toJson (u : CharacterDatabase) (policy : SourcePolicy) : Json :=
  .obj (policy.toFields u)

def SourcePolicy.fieldNames : List String :=
  ["allow_redirects", "allowed_adapters", "allowed_content_types", "allowed_hosts_by_adapter",
   "allowed_https_domains", "allowed_ports_by_host", "cache_retention_seconds", "excerpt_limits",
   "freshness_by_data_type", "licensed_content_persistence", "maximum_response_bytes",
   "per_run_request_budgets", "quality_source_roles", "request_deadline_seconds",
   "retry_attempts", "retry_backoff_seconds", "retry_jitter_seconds", "version"]

/-- `SourcePolicy.model_validate`. -/
def SourcePolicy.read (j : Json) : Option SourcePolicy := do
  let amount := (positiveCodec runtime.characters).read
  let items ← fields SourcePolicy.fieldNames j
  let allowRedirects ← fieldOr items "allow_redirects" Codec.flag.read false
  let allowedAdapters ← field items "allowed_adapters" Codec.text.list.read
  let allowedContentTypes ← field items "allowed_content_types" Codec.text.list.read
  let allowedHostsByAdapter ← fieldOr items "allowed_hosts_by_adapter"
    (mapCodec Codec.text.list).readOptional none
  let allowedHttpsDomains ← field items "allowed_https_domains" Codec.text.list.read
  let allowedPortsByHost ← fieldOr items "allowed_ports_by_host" (mapCodec Codec.natural.list).read
    FrozenMap.empty
  let cacheRetentionSeconds ← field items "cache_retention_seconds" Codec.natural.read
  let excerptLimits ← field items "excerpt_limits" (mapCodec Codec.natural).read
  let freshnessByDataType ← field items "freshness_by_data_type" (mapCodec Codec.natural).read
  let licensedContentPersistence ← fieldOr items "licensed_content_persistence" persistenceCodec.read
    .none
  let maximumResponseBytes ← field items "maximum_response_bytes" Codec.natural.read
  let perRunRequestBudgets ← field items "per_run_request_budgets" (mapCodec Codec.natural).read
  let qualitySourceRoles ← field items "quality_source_roles" sourceRoleCodec.list.read
  let requestDeadlineSeconds ← field items "request_deadline_seconds" amount
  let retryAttempts ← field items "retry_attempts" Codec.natural.read
  let retryBackoffSeconds ← field items "retry_backoff_seconds" amount
  let retryJitterSeconds ← field items "retry_jitter_seconds" amount
  let version ← field items "version" Codec.text.read
  let policy : SourcePolicy := {
    version, qualitySourceRoles, allowedAdapters, allowedHttpsDomains, allowedHostsByAdapter,
    allowedPortsByHost, freshnessByDataType, cacheRetentionSeconds, requestDeadlineSeconds,
    retryAttempts, retryBackoffSeconds, retryJitterSeconds, perRunRequestBudgets, allowRedirects,
    maximumResponseBytes, allowedContentTypes, excerptLimits, licensedContentPersistence }
  if policy.Legal runtime.characters then some policy else none

/-! ## Regime -/

def componentCodec : Codec RegimeComponent :=
  .named RegimeComponent.all RegimeComponent.value (fun a => by cases a <;> decide) (by decide)

/-- The name of a member of `RegimeComponent`. -/
def memberName : RegimeComponent → String
  | .broadTrend => "BROAD_TREND"
  | .participation => "PARTICIPATION"
  | .leadership => "LEADERSHIP"
  | .volatilityStress => "VOLATILITY_STRESS"
  | .creditCrossAsset => "CREDIT_CROSS_ASSET"

def weightToJson (weight : RegimeComponent × Decimal) : Json :=
  .arr [componentCodec.write weight.1, .str weight.2.text]

def RegimePolicy.toFields (policy : RegimePolicy) : List (String × Json) :=
  [("atr_window", .int policy.atrWindow),
    ("broad_symbols", Codec.text.list.write policy.broadSymbols),
    ("component_weights", .arr (policy.componentWeights.map weightToJson)),
    ("credit_asset_symbol", .str policy.creditAssetSymbol),
    ("credit_benchmark_symbol", .str policy.creditBenchmarkSymbol),
    ("cyclical_symbols", Codec.text.list.write policy.cyclicalSymbols),
    ("defensive_symbols", Codec.text.list.write policy.defensiveSymbols),
    ("defensive_threshold", .str policy.defensiveThreshold.text),
    ("dia_symbol", .str policy.diaSymbol),
    ("dollar_symbol", Codec.text.writeOptional policy.dollarSymbol),
    ("gold_symbol", Codec.text.writeOptional policy.goldSymbol),
    ("leadership_minimum_valid", .int policy.leadershipMinimumValid),
    ("leadership_vote_threshold", .int policy.leadershipVoteThreshold),
    ("long_sma_window", .int policy.longSmaWindow),
    ("oil_symbol", Codec.text.writeOptional policy.oilSymbol),
    ("participation_minimum_valid", .int policy.participationMinimumValid),
    ("participation_negative_maximum", .int policy.participationNegativeMaximum),
    ("participation_positive_minimum", .int policy.participationPositiveMinimum),
    ("percentile_history", .int policy.percentileHistory),
    ("permissive_threshold", .str policy.permissiveThreshold.text),
    ("realized_volatility_window", .int policy.realizedVolatilityWindow),
    ("relative_return_window", .int policy.relativeReturnWindow),
    ("sector_symbols", Codec.text.list.write policy.sectorSymbols),
    ("short_sma_window", .int policy.shortSmaWindow),
    ("slope_lookback", .int policy.slopeLookback),
    ("small_cap_symbol", .str policy.smallCapSymbol),
    ("treasury_symbol", Codec.text.writeOptional policy.treasurySymbol),
    ("version", policy.version),
    ("volatility_negative_minimum", .str policy.volatilityNegativeMinimum.text),
    ("volatility_positive_maximum", .str policy.volatilityPositiveMaximum.text),
    ("volatility_symbol", Codec.text.writeOptional policy.volatilitySymbol)]

def RegimePolicy.toJson (policy : RegimePolicy) : Json := .obj policy.toFields

/-- A component, by the name or the value of the member. -/
def readComponent : Json → Option RegimeComponent
  | .str s =>
    match RegimeComponent.all.find? fun c => memberName c = s with
    | some c => some c
    | none => componentCodec.read (.str s)
  | _ => none

/-- One of `component_weights`. -/
def readWeight (j : Json) : Option (RegimeComponent × Decimal) :=
  match iterate j with
  | some [first, second] => do
    let name ← readComponent first
    let weight ← decimalOf runtime second
    some (name, weight)
  | _ => none

/-- `component_weights`. -/
def readWeights (j : Json) : Option (List (RegimeComponent × Decimal)) :=
  (iterate j).bind fun items => items.mapM (readWeight runtime)

def RegimePolicy.fieldNames : List String :=
  ["atr_window", "broad_symbols", "component_weights", "credit_asset_symbol",
   "credit_benchmark_symbol", "cyclical_symbols", "defensive_symbols", "defensive_threshold",
   "dia_symbol", "dollar_symbol", "gold_symbol", "leadership_minimum_valid",
   "leadership_vote_threshold", "long_sma_window", "oil_symbol", "participation_minimum_valid",
   "participation_negative_maximum", "participation_positive_minimum", "percentile_history",
   "permissive_threshold", "realized_volatility_window", "relative_return_window",
   "sector_symbols", "short_sma_window", "slope_lookback", "small_cap_symbol", "treasury_symbol",
   "version", "volatility_negative_minimum", "volatility_positive_maximum", "volatility_symbol"]

/-- `RegimePolicy(**regime_values)`, after the conversions of `_configuration_from_values`. -/
def RegimePolicy.read (j : Json) : Option RegimePolicy := do
  let number := decimalOf runtime
  let texts := Codec.text.list.read
  let optional := Codec.text.readOptional
  let count := Codec.integer.read
  let items ← fields RegimePolicy.fieldNames j
  let atrWindow ← fieldOr items "atr_window" count 14
  let broadSymbols ← fieldOr items "broad_symbols" texts ["SPY", "QQQ"]
  let componentWeights ← field items "component_weights" (readWeights runtime)
  let creditAssetSymbol ← fieldOr items "credit_asset_symbol" Codec.text.read "HYG"
  let creditBenchmarkSymbol ← fieldOr items "credit_benchmark_symbol" Codec.text.read "LQD"
  let cyclicalSymbols ← fieldOr items "cyclical_symbols" texts
    ["XLY", "XLE", "XLF", "XLI", "XLB", "XLK"]
  let defensiveSymbols ← fieldOr items "defensive_symbols" texts ["XLP", "XLV", "XLU"]
  let defensiveThreshold ← field items "defensive_threshold" number
  let diaSymbol ← fieldOr items "dia_symbol" Codec.text.read "DIA"
  let dollarSymbol ← fieldOr items "dollar_symbol" optional (some "UUP")
  let goldSymbol ← fieldOr items "gold_symbol" optional (some "GLD")
  let leadershipMinimumValid ← fieldOr items "leadership_minimum_valid" count 2
  let leadershipVoteThreshold ← fieldOr items "leadership_vote_threshold" count 2
  let longSmaWindow ← fieldOr items "long_sma_window" count 200
  let oilSymbol ← fieldOr items "oil_symbol" optional (some "USO")
  let participationMinimumValid ← fieldOr items "participation_minimum_valid" count 9
  let participationNegativeMaximum ← fieldOr items "participation_negative_maximum" count 4
  let participationPositiveMinimum ← fieldOr items "participation_positive_minimum" count 7
  let percentileHistory ← fieldOr items "percentile_history" count 252
  let permissiveThreshold ← field items "permissive_threshold" number
  let realizedVolatilityWindow ← fieldOr items "realized_volatility_window" count 20
  let relativeReturnWindow ← fieldOr items "relative_return_window" count 20
  let sectorSymbols ← fieldOr items "sector_symbols" texts
    ["XLC", "XLY", "XLP", "XLE", "XLF", "XLV", "XLI", "XLB", "XLRE", "XLK", "XLU"]
  let shortSmaWindow ← fieldOr items "short_sma_window" count 50
  let slopeLookback ← fieldOr items "slope_lookback" count 20
  let smallCapSymbol ← fieldOr items "small_cap_symbol" Codec.text.read "IWM"
  let treasurySymbol ← fieldOr items "treasury_symbol" optional (some "TLT")
  let version ← fieldOr items "version" some (.str "regime-policy-v1")
  let volatilityNegativeMinimum ← field items "volatility_negative_minimum" number
  let volatilityPositiveMaximum ← field items "volatility_positive_maximum" number
  let volatilitySymbol ← fieldOr items "volatility_symbol" optional (some "VIX")
  let policy : RegimePolicy := {
    version, broadSymbols, smallCapSymbol, creditAssetSymbol, creditBenchmarkSymbol,
    sectorSymbols, cyclicalSymbols, defensiveSymbols, shortSmaWindow, longSmaWindow,
    slopeLookback, relativeReturnWindow, atrWindow, realizedVolatilityWindow, percentileHistory,
    participationPositiveMinimum, participationNegativeMaximum, participationMinimumValid,
    leadershipVoteThreshold, leadershipMinimumValid, volatilityPositiveMaximum,
    volatilityNegativeMinimum, permissiveThreshold, defensiveThreshold, componentWeights,
    diaSymbol, treasurySymbol, dollarSymbol, goldSymbol, oilSymbol, volatilitySymbol }
  if policy.Legal then some policy else none

end Reading

/-! ## Hashes -/

/-- `canonical_model_hash`, of the value of a model. -/
def canonicalModelHash (value : Json) : String := sha256 (encode value.dumps)

/-- `model_dump(mode="json")`. -/
def AppConfiguration.toJson (u : CharacterDatabase) (configuration : AppConfiguration) : Json :=
  .obj [("regime", configuration.regime.toJson), ("risk", riskToJson u configuration.risk),
    ("setup", configuration.setup.toJson u), ("source", configuration.source.toJson u),
    ("watchlist", configuration.watchlist.toJson)]

end FinanceResearch.Config
