import FinanceResearch.Config.Snapshots

/-!
# What a snapshot keeps

Every policy is read back from its JSON value as it was, with one exception: a date is
written as a text, which the watchlist refuses. So a configuration comes back from its
snapshot exactly when no watchlist item expires and the snapshot admits its values.
-/

namespace FinanceResearch.Config

open Codec (field fieldOr field_eq fieldOr_eq bind_ok bind_read exists_fields readOptional_write)
open Regimes (RegimeComponent)

variable {runtime : Runtime}

/-! ## Decimals -/

/-- The positive decimals of a risk policy, where it has them. -/
def policyAmounts (policy : RiskPolicy) : List (Option PositiveDecimal) :=
  [policy.planningCapitalUsd, policy.maxRiskPerTradePct, policy.maxPositionPct,
    policy.minimumRewardRiskRatio, policy.maxTotalPortfolioHeatPct,
    policy.existingPortfolioHeatPct, some policy.quantityIncrement]

/-- The decimals of a risk policy. -/
def riskDecimals (policy : RiskPolicy) : List Decimal :=
  ((policyAmounts policy).filterMap id).map PositiveDecimal.value ++
    policy.regimeRiskMultipliers.items.map Prod.snd

theorem mem_riskDecimals {policy : RiskPolicy} (value : Option PositiveDecimal)
    (h : value ∈ policyAmounts policy) {d : PositiveDecimal} (hd : value = some d) :
    d.value ∈ riskDecimals policy :=
  List.mem_append_left _ (List.mem_map_of_mem (List.mem_filterMap.mpr ⟨value, h, hd⟩))

/-- The decimals of a setup policy. -/
def SetupPolicy.decimals (policy : SetupPolicy) : List Decimal :=
  ([policy.minimumPrice, policy.minimumMedianDollarVolume, policy.minimumRewardToRisk] ++
    policy.entryZoneAtrBuffers ++ policy.extensionLimits ++ policy.pullbackSupportTolerances ++
      policy.scoreWeights).map PositiveDecimal.value

/-- The decimals of a source policy. -/
def SourcePolicy.decimals (policy : SourcePolicy) : List Decimal :=
  [policy.requestDeadlineSeconds.value, policy.retryBackoffSeconds.value,
    policy.retryJitterSeconds.value]

/-- The decimals of a regime policy. -/
def RegimePolicy.decimals (policy : RegimePolicy) : List Decimal :=
  [policy.volatilityPositiveMaximum, policy.volatilityNegativeMinimum, policy.permissiveThreshold,
    policy.defensiveThreshold] ++ policy.componentWeights.map Prod.snd

theorem positive_good {u : CharacterDatabase} (hu : u.PlainDigits) {d : PositiveDecimal}
    (h : d.value.IsRepresentable) : (positiveCodec u).Good d := ⟨hu, h⟩

/-! ## Each policy -/

theorem WatchlistItem.read_toJson {item : WatchlistItem}
    (h : item.Legal runtime.characters runtime.urls) (hexpires : item.expiresOn = none) :
    WatchlistItem.read runtime item.toJson = some item := by
  have hbenchmark := readOptional_write symbolCodec item.benchmarkSymbol
    fun _ _ => trivial
  have hsector := readOptional_write symbolCodec item.sectorProxySymbol
    fun _ _ => trivial
  have hnotes := readOptional_write Codec.text item.notes fun _ _ => trivial
  have hsources := Codec.text.list.read_write item.officialSources fun _ _ => trivial
  have htags := Codec.text.list.read_write item.tags fun _ _ => trivial
  have hpriority := Codec.natural.read_write item.priority trivial
  have hhorizon := horizonCodec.read_write item.researchHorizon trivial
  have hrole := roleCodec.read_write item.role trivial
  have hsymbol := symbolCodec.read_write item.symbol trivial
  have hdate : Codec.date.readOptional (Codec.date.writeOptional item.expiresOn)
      = some item.expiresOn := by
    rw [hexpires]
    rfl
  obtain ⟨items, hfields, hlookup⟩ := exists_fields WatchlistItem.fieldNames
    item.toFields rfl (by decide)
  simp only [toFields, List.forall_mem_cons] at hlookup
  obtain ⟨benchmarkSymbol, expiresOn, notes, officialSources, priority, researchHorizon,
    researchRationale, role, sectorProxySymbol, symbol, tags, -⟩ := hlookup
  refine bind_ok hfields ?_
  refine bind_ok (fieldOr_eq benchmarkSymbol hbenchmark) ?_
  refine bind_ok (fieldOr_eq expiresOn hdate) ?_
  refine bind_ok (fieldOr_eq notes hnotes) ?_
  refine bind_ok (fieldOr_eq officialSources hsources) ?_
  refine bind_ok (fieldOr_eq priority hpriority) ?_
  refine bind_ok (fieldOr_eq researchHorizon hhorizon) ?_
  refine bind_ok (field_eq researchRationale rfl) ?_
  refine bind_ok (field_eq role hrole) ?_
  refine bind_ok (fieldOr_eq sectorProxySymbol hsector) ?_
  refine bind_ok (field_eq symbol hsymbol) ?_
  refine bind_ok (fieldOr_eq tags htags) ?_
  exact if_pos h

/-- A date is not read back. -/
theorem WatchlistItem.expiresOn_of_read {item : WatchlistItem} {j : Json}
    (h : WatchlistItem.read runtime j = some item) : item.expiresOn = none := by
  unfold read at h
  obtain ⟨items, -, h⟩ := Option.bind_eq_some_iff.mp h
  obtain ⟨_, -, h⟩ := Option.bind_eq_some_iff.mp h
  obtain ⟨expiresOn, hread, h⟩ := Option.bind_eq_some_iff.mp h
  have hnone : expiresOn = none := by
    unfold fieldOr at hread
    split at hread
    · cases hread
      rfl
    · unfold Codec.readOptional at hread
      split at hread
      · cases hread
        rfl
      · cases hread
  -- Nine more fields are read before the item is built.
  obtain ⟨_, -, h⟩ := Option.bind_eq_some_iff.mp h
  obtain ⟨_, -, h⟩ := Option.bind_eq_some_iff.mp h
  obtain ⟨_, -, h⟩ := Option.bind_eq_some_iff.mp h
  obtain ⟨_, -, h⟩ := Option.bind_eq_some_iff.mp h
  obtain ⟨_, -, h⟩ := Option.bind_eq_some_iff.mp h
  obtain ⟨_, -, h⟩ := Option.bind_eq_some_iff.mp h
  obtain ⟨_, -, h⟩ := Option.bind_eq_some_iff.mp h
  obtain ⟨_, -, h⟩ := Option.bind_eq_some_iff.mp h
  obtain ⟨_, -, h⟩ := Option.bind_eq_some_iff.mp h
  dsimp only at h
  split at h
  · cases h
    exact hnone
  · cases h

/-- What the validators of a watchlist and of its items check. -/
def WatchlistConfig.AllLegal (runtime : Runtime) (watchlist : WatchlistConfig) : Prop :=
  watchlist.Legal ∧ ∀ item ∈ watchlist.items, item.Legal runtime.characters runtime.urls

theorem WatchlistConfig.read_toJson {watchlist : WatchlistConfig} (h : watchlist.AllLegal runtime)
    (hexpires : ∀ item ∈ watchlist.items, item.expiresOn = none) :
    WatchlistConfig.read runtime watchlist.toJson = some watchlist := by
  have hitems : ∀ items : List WatchlistItem,
      (∀ item ∈ items, item.Legal runtime.characters runtime.urls) →
      (∀ item ∈ items, item.expiresOn = none) →
      (items.map WatchlistItem.toJson).mapM (WatchlistItem.read runtime) = some items := by
    intro items hlegal hnone
    induction items with
    | nil => rfl
    | cons item rest ih =>
      rw [List.map_cons, List.mapM_cons,
        WatchlistItem.read_toJson (hlegal item List.mem_cons_self) (hnone item List.mem_cons_self),
        ih (fun i hi => hlegal i (List.mem_cons_of_mem _ hi))
          fun i hi => hnone i (List.mem_cons_of_mem _ hi)]
      rfl
  have hread := hitems watchlist.items h.2 hexpires
  obtain ⟨items, hfields, hlookup⟩ := exists_fields WatchlistConfig.fieldNames
    watchlist.toFields rfl (by decide)
  simp only [toFields, List.forall_mem_cons] at hlookup
  obtain ⟨items, version, -⟩ := hlookup
  refine bind_ok hfields ?_
  refine bind_ok (fieldOr_eq items hread) ?_
  refine bind_ok (field_eq version rfl) ?_
  exact if_pos h.1

theorem WatchlistConfig.expiresOn_of_read {watchlist : WatchlistConfig} {j : Json}
    (h : WatchlistConfig.read runtime j = some watchlist) :
    ∀ item ∈ watchlist.items, item.expiresOn = none := by
  unfold read at h
  obtain ⟨_, -, h⟩ := Option.bind_eq_some_iff.mp h
  obtain ⟨items, hread, h⟩ := Option.bind_eq_some_iff.mp h
  obtain ⟨_, -, h⟩ := Option.bind_eq_some_iff.mp h
  have hnone : ∀ item ∈ items, item.expiresOn = none := by
    unfold fieldOr at hread
    split at hread
    · cases hread
      exact fun item hmem => absurd hmem List.not_mem_nil
    · unfold readItems at hread
      split at hread
      · intro item hmem
        obtain ⟨value, -, hvalue⟩ := Codec.exists_of_mem_mapM hread item hmem
        exact WatchlistItem.expiresOn_of_read hvalue
      · cases hread
  dsimp only at h
  split at h
  · cases h
    exact hnone
  · cases h

theorem readRisk_toJson (hu : runtime.characters.PlainDigits) {policy : RiskPolicy}
    (h : ∀ d ∈ riskDecimals policy, d.IsRepresentable) :
    readRisk runtime (riskToJson runtime.characters policy) = some policy := by
  have hgood : ∀ value ∈ policyAmounts policy, (positiveCodec runtime.characters).readOptional
      ((positiveCodec runtime.characters).writeOptional value) = some value :=
    fun value hvalue => readOptional_write _ value fun d hd =>
      positive_good hu (h _ (mem_riskDecimals value hvalue hd))
  have hheat := hgood policy.existingPortfolioHeatPct (by simp [policyAmounts])
  have hposition := hgood policy.maxPositionPct (by simp [policyAmounts])
  have htrade := hgood policy.maxRiskPerTradePct (by simp [policyAmounts])
  have htotal := hgood policy.maxTotalPortfolioHeatPct (by simp [policyAmounts])
  have hratio := hgood policy.minimumRewardRiskRatio (by simp [policyAmounts])
  have hcapital := hgood policy.planningCapitalUsd (by simp [policyAmounts])
  have hincrement := (positiveCodec runtime.characters).read_write policy.quantityIncrement
    (positive_good hu (h _ (mem_riskDecimals
      (some policy.quantityIncrement) (by simp [policyAmounts]) rfl)))
  have hmultipliers := (mapCodec (decimalCodec runtime.characters)).read_write
    policy.regimeRiskMultipliers fun item hitem =>
      ⟨hu, h _ (List.mem_append_right _ (List.mem_map_of_mem hitem))⟩
  have hdrafts := Codec.natural.read_write policy.maxConcurrentPlanDrafts trivial
  obtain ⟨items, hfields, hlookup⟩ := exists_fields riskFieldNames
    (riskFields runtime.characters policy) rfl (by decide)
  simp only [riskFields, List.forall_mem_cons] at hlookup
  obtain ⟨allowFractionalUnits, existingPortfolioHeatPct, maxConcurrentPlanDrafts, maxPositionPct,
    maxRiskPerTradePct, maxTotalPortfolioHeatPct, minimumRewardRiskRatio, planningCapitalUsd,
    quantityIncrement, regimeRiskMultipliers, sizingEnabled, version, -⟩ := hlookup
  refine bind_ok hfields ?_
  refine bind_ok (fieldOr_eq allowFractionalUnits rfl) ?_
  refine bind_ok (fieldOr_eq existingPortfolioHeatPct hheat) ?_
  refine bind_ok (fieldOr_eq maxConcurrentPlanDrafts hdrafts) ?_
  refine bind_ok (fieldOr_eq maxPositionPct hposition) ?_
  refine bind_ok (fieldOr_eq maxRiskPerTradePct htrade) ?_
  refine bind_ok (fieldOr_eq maxTotalPortfolioHeatPct htotal) ?_
  refine bind_ok (fieldOr_eq minimumRewardRiskRatio hratio) ?_
  refine bind_ok (fieldOr_eq planningCapitalUsd hcapital) ?_
  refine bind_ok (field_eq quantityIncrement hincrement) ?_
  refine bind_ok (field_eq regimeRiskMultipliers hmultipliers) ?_
  refine bind_ok (fieldOr_eq sizingEnabled rfl) ?_
  refine bind_ok (field_eq version rfl) ?_
  exact dif_pos ⟨policy.versioned, policy.fewDrafts, policy.everyRegime, policy.fractions⟩

/-- Positive decimals are read back from a list of their texts. -/
theorem decimals_write (hu : runtime.characters.PlainDigits) {items : List PositiveDecimal}
    (h : ∀ d ∈ items, d.value.IsRepresentable) :
    decimals runtime ((positiveCodec runtime.characters).list.write items) = some items := by
  show (items.map (positiveCodec runtime.characters).write).mapM (positiveOf runtime) = some items
  induction items with
  | nil => rfl
  | cons d rest ih =>
    have hfirst : positiveOf runtime ((positiveCodec runtime.characters).write d) = some d := by
      show ((Decimal.parse runtime.characters d.value.text).bind fun d =>
        if h : d.negative = false ∧ d.coefficient ≠ 0 then some (PositiveDecimal.mk d h) else none)
          = some d
      rw [Decimal.parse_text hu (h d List.mem_cons_self), Option.bind_some, dif_pos d.positive]
    rw [List.map_cons, List.mapM_cons, hfirst, ih fun e he => h e (List.mem_cons_of_mem _ he)]
    rfl

theorem SetupPolicy.read_toJson (hu : runtime.characters.PlainDigits) {policy : SetupPolicy}
    (h : policy.Legal) (hdecimals : ∀ d ∈ policy.decimals, d.IsRepresentable) :
    SetupPolicy.read runtime (policy.toJson runtime.characters) = some policy := by
  have hamount : ∀ d : PositiveDecimal, d.value ∈ policy.decimals →
      (positiveCodec runtime.characters).read ((positiveCodec runtime.characters).write d)
        = some d := fun d hd => Codec.read_write _ d (positive_good hu (hdecimals _ hd))
  have hlist : ∀ items : List PositiveDecimal, (∀ d ∈ items, d.value ∈ policy.decimals) →
      Config.decimals runtime ((positiveCodec runtime.characters).list.write items)
        = some items := fun items hmem => decimals_write hu fun d hd => hdecimals _ (hmem d hd)
  have hmem : ∀ d : PositiveDecimal,
      d ∈ [policy.minimumPrice, policy.minimumMedianDollarVolume, policy.minimumRewardToRisk] ++
        policy.entryZoneAtrBuffers ++ policy.extensionLimits ++ policy.pullbackSupportTolerances ++
          policy.scoreWeights → d.value ∈ policy.decimals := fun d hd => List.mem_map_of_mem hd
  have hvolume := hamount policy.minimumMedianDollarVolume (hmem _ (by simp))
  have hprice := hamount policy.minimumPrice (hmem _ (by simp))
  have hreward := hamount policy.minimumRewardToRisk (hmem _ (by simp))
  have hbuffers := hlist policy.entryZoneAtrBuffers fun d hd => hmem d (by simp [hd])
  have hlimits := hlist policy.extensionLimits fun d hd => hmem d (by simp [hd])
  have htolerances := hlist policy.pullbackSupportTolerances fun d hd => hmem d (by simp [hd])
  have hweights := hlist policy.scoreWeights fun d hd => hmem d (by simp [hd])
  have hnatural := fun n => Codec.natural.read_write n trivial
  have haverages := Codec.integer.list.read_write policy.movingAverageWindows fun _ _ => trivial
  have hslopes := Codec.integer.list.read_write policy.trendSlopeWindows fun _ _ => trivial
  have hpenalties := penaltyNameCodec.list.read_write policy.penaltyNames fun _ _ => trivial
  have hconditions := Codec.text.list.read_write policy.restrengtheningConditions
    fun _ _ => trivial
  obtain ⟨items, hfields, hlookup⟩ := exists_fields SetupPolicy.fieldNames
    (policy.toFields runtime.characters) rfl (by decide)
  simp only [toFields, List.forall_mem_cons] at hlookup
  obtain ⟨atrWindow, breakoutLookback, earningsBlackoutSessions, entryZoneAtrBuffers,
    extensionLimits, minimumMedianDollarVolume, minimumPrice, minimumRewardToRisk,
    movingAverageWindows, penaltyNames, planLifetimeSessions, pullbackSupportTolerances,
    requiredHistoricalSessions, restrengtheningConditions, scoreWeights, trendSlopeWindows,
    version, -⟩ := hlookup
  refine bind_ok hfields ?_
  refine bind_ok (field_eq atrWindow (hnatural _)) ?_
  refine bind_ok (field_eq breakoutLookback (hnatural _)) ?_
  refine bind_ok (field_eq earningsBlackoutSessions (hnatural _)) ?_
  refine bind_ok (field_eq entryZoneAtrBuffers hbuffers) ?_
  refine bind_ok (field_eq extensionLimits hlimits) ?_
  refine bind_ok (field_eq minimumMedianDollarVolume hvolume) ?_
  refine bind_ok (field_eq minimumPrice hprice) ?_
  refine bind_ok (field_eq minimumRewardToRisk hreward) ?_
  refine bind_ok (field_eq movingAverageWindows haverages) ?_
  refine bind_ok (field_eq penaltyNames hpenalties) ?_
  refine bind_ok (field_eq planLifetimeSessions (hnatural _)) ?_
  refine bind_ok (field_eq pullbackSupportTolerances htolerances) ?_
  refine bind_ok (field_eq requiredHistoricalSessions (hnatural _)) ?_
  refine bind_ok (field_eq restrengtheningConditions hconditions) ?_
  refine bind_ok (field_eq scoreWeights hweights) ?_
  refine bind_ok (field_eq trendSlopeWindows hslopes) ?_
  refine bind_ok (field_eq version rfl) ?_
  exact if_pos h

theorem SourcePolicy.read_toJson (hu : runtime.characters.PlainDigits) {policy : SourcePolicy}
    (h : policy.Legal runtime.characters)
    (hdecimals : ∀ d ∈ policy.decimals, d.IsRepresentable) :
    SourcePolicy.read runtime (policy.toJson runtime.characters) = some policy := by
  have hamount : ∀ d : PositiveDecimal, d.value ∈ policy.decimals →
      (positiveCodec runtime.characters).read ((positiveCodec runtime.characters).write d)
        = some d := fun d hd => Codec.read_write _ d (positive_good hu (hdecimals _ hd))
  have hdeadline := hamount policy.requestDeadlineSeconds (by simp [decimals])
  have hbackoff := hamount policy.retryBackoffSeconds (by simp [decimals])
  have hjitter := hamount policy.retryJitterSeconds (by simp [decimals])
  have htexts := fun items : List String => Codec.text.list.read_write items fun _ _ => trivial
  have hnatural := fun n => Codec.natural.read_write n trivial
  have hlimits := fun limits : FrozenMap Nat =>
    (mapCodec Codec.natural).read_write limits fun _ _ => trivial
  have hhosts := readOptional_write (mapCodec Codec.text.list)
    policy.allowedHostsByAdapter fun _ _ _ _ _ _ => trivial
  have hports := (mapCodec Codec.natural.list).read_write policy.allowedPortsByHost
    fun _ _ _ _ => trivial
  have hpersistence := persistenceCodec.read_write policy.licensedContentPersistence trivial
  have hroles := sourceRoleCodec.list.read_write policy.qualitySourceRoles fun _ _ => trivial
  obtain ⟨items, hfields, hlookup⟩ := exists_fields SourcePolicy.fieldNames
    (policy.toFields runtime.characters) rfl (by decide)
  simp only [toFields, List.forall_mem_cons] at hlookup
  obtain ⟨allowRedirects, allowedAdapters, allowedContentTypes, allowedHostsByAdapter,
    allowedHttpsDomains, allowedPortsByHost, cacheRetentionSeconds, excerptLimits,
    freshnessByDataType, licensedContentPersistence, maximumResponseBytes, perRunRequestBudgets,
    qualitySourceRoles, requestDeadlineSeconds, retryAttempts, retryBackoffSeconds,
    retryJitterSeconds, version, -⟩ := hlookup
  refine bind_ok hfields ?_
  refine bind_ok (fieldOr_eq allowRedirects rfl) ?_
  refine bind_ok (field_eq allowedAdapters (htexts _)) ?_
  refine bind_ok (field_eq allowedContentTypes (htexts _)) ?_
  refine bind_ok (fieldOr_eq allowedHostsByAdapter hhosts) ?_
  refine bind_ok (field_eq allowedHttpsDomains (htexts _)) ?_
  refine bind_ok (fieldOr_eq allowedPortsByHost hports) ?_
  refine bind_ok (field_eq cacheRetentionSeconds (hnatural _)) ?_
  refine bind_ok (field_eq excerptLimits (hlimits _)) ?_
  refine bind_ok (field_eq freshnessByDataType (hlimits _)) ?_
  refine bind_ok (fieldOr_eq licensedContentPersistence hpersistence) ?_
  refine bind_ok (field_eq maximumResponseBytes (hnatural _)) ?_
  refine bind_ok (field_eq perRunRequestBudgets (hlimits _)) ?_
  refine bind_ok (field_eq qualitySourceRoles hroles) ?_
  refine bind_ok (field_eq requestDeadlineSeconds hdeadline) ?_
  refine bind_ok (field_eq retryAttempts (hnatural _)) ?_
  refine bind_ok (field_eq retryBackoffSeconds hbackoff) ?_
  refine bind_ok (field_eq retryJitterSeconds hjitter) ?_
  refine bind_ok (field_eq version rfl) ?_
  exact if_pos h

/-- A member is not named by the value of another. -/
theorem readComponent_write (c : RegimeComponent) :
    readComponent (componentCodec.write c) = some c := by
  cases c <;> decide

theorem readWeights_write (hu : runtime.characters.PlainDigits)
    (weights : List (RegimeComponent × Decimal)) (h : ∀ w ∈ weights, w.2.IsRepresentable) :
    readWeights runtime (.arr (weights.map weightToJson)) = some weights := by
  show (weights.map weightToJson).mapM (readWeight runtime) = some weights
  induction weights with
  | nil => rfl
  | cons w rest ih =>
    have hfirst : readWeight runtime (weightToJson w) = some w := by
      show ((readComponent (componentCodec.write w.1)).bind fun name =>
        (Decimal.parse runtime.characters w.2.text).bind fun weight => some (name, weight)) = some w
      rw [readComponent_write, Option.bind_some, Decimal.parse_text hu (h w List.mem_cons_self)]
      rfl
    rw [List.map_cons, List.mapM_cons, hfirst, ih fun v hv => h v (List.mem_cons_of_mem _ hv)]
    rfl

theorem RegimePolicy.read_toJson (hu : runtime.characters.PlainDigits) {policy : RegimePolicy}
    (h : policy.Legal) (hdecimals : ∀ d ∈ policy.decimals, d.IsRepresentable) :
    RegimePolicy.read runtime policy.toJson = some policy := by
  have hnumber : ∀ d ∈ policy.decimals, decimalOf runtime (.str d.text) = some d :=
    fun d hd => Decimal.parse_text hu (hdecimals d hd)
  have hweights := readWeights_write hu policy.componentWeights fun w hw =>
    hdecimals _ (List.mem_append_right _ (List.mem_map_of_mem hw))
  have hmaximum := hnumber policy.volatilityPositiveMaximum (by simp [decimals])
  have hminimum := hnumber policy.volatilityNegativeMinimum (by simp [decimals])
  have hpermissive := hnumber policy.permissiveThreshold (by simp [decimals])
  have hdefensive := hnumber policy.defensiveThreshold (by simp [decimals])
  have htexts := fun items : List String => Codec.text.list.read_write items fun _ _ => trivial
  have hoptional := fun value : Option String => readOptional_write Codec.text value
    fun _ _ => trivial
  obtain ⟨items, hfields, hlookup⟩ := exists_fields RegimePolicy.fieldNames
    policy.toFields rfl (by decide)
  simp only [toFields, List.forall_mem_cons] at hlookup
  obtain ⟨atrWindow, broadSymbols, componentWeights, creditAssetSymbol, creditBenchmarkSymbol,
    cyclicalSymbols, defensiveSymbols, defensiveThreshold, diaSymbol, dollarSymbol, goldSymbol,
    leadershipMinimumValid, leadershipVoteThreshold, longSmaWindow, oilSymbol,
    participationMinimumValid, participationNegativeMaximum, participationPositiveMinimum,
    percentileHistory, permissiveThreshold, realizedVolatilityWindow, relativeReturnWindow,
    sectorSymbols, shortSmaWindow, slopeLookback, smallCapSymbol, treasurySymbol, version,
    volatilityNegativeMinimum, volatilityPositiveMaximum, volatilitySymbol, -⟩ := hlookup
  refine bind_ok hfields ?_
  refine bind_ok (fieldOr_eq atrWindow rfl) ?_
  refine bind_ok (fieldOr_eq broadSymbols (htexts _)) ?_
  refine bind_ok (field_eq componentWeights hweights) ?_
  refine bind_ok (fieldOr_eq creditAssetSymbol rfl) ?_
  refine bind_ok (fieldOr_eq creditBenchmarkSymbol rfl) ?_
  refine bind_ok (fieldOr_eq cyclicalSymbols (htexts _)) ?_
  refine bind_ok (fieldOr_eq defensiveSymbols (htexts _)) ?_
  refine bind_ok (field_eq defensiveThreshold hdefensive) ?_
  refine bind_ok (fieldOr_eq diaSymbol rfl) ?_
  refine bind_ok (fieldOr_eq dollarSymbol (hoptional _)) ?_
  refine bind_ok (fieldOr_eq goldSymbol (hoptional _)) ?_
  refine bind_ok (fieldOr_eq leadershipMinimumValid rfl) ?_
  refine bind_ok (fieldOr_eq leadershipVoteThreshold rfl) ?_
  refine bind_ok (fieldOr_eq longSmaWindow rfl) ?_
  refine bind_ok (fieldOr_eq oilSymbol (hoptional _)) ?_
  refine bind_ok (fieldOr_eq participationMinimumValid rfl) ?_
  refine bind_ok (fieldOr_eq participationNegativeMaximum rfl) ?_
  refine bind_ok (fieldOr_eq participationPositiveMinimum rfl) ?_
  refine bind_ok (fieldOr_eq percentileHistory rfl) ?_
  refine bind_ok (field_eq permissiveThreshold hpermissive) ?_
  refine bind_ok (fieldOr_eq realizedVolatilityWindow rfl) ?_
  refine bind_ok (fieldOr_eq relativeReturnWindow rfl) ?_
  refine bind_ok (fieldOr_eq sectorSymbols (htexts _)) ?_
  refine bind_ok (fieldOr_eq shortSmaWindow rfl) ?_
  refine bind_ok (fieldOr_eq slopeLookback rfl) ?_
  refine bind_ok (fieldOr_eq smallCapSymbol rfl) ?_
  refine bind_ok (fieldOr_eq treasurySymbol (hoptional _)) ?_
  refine bind_ok (fieldOr_eq version rfl) ?_
  refine bind_ok (field_eq volatilityNegativeMinimum hminimum) ?_
  refine bind_ok (field_eq volatilityPositiveMaximum hmaximum) ?_
  refine bind_ok (fieldOr_eq volatilitySymbol (hoptional _)) ?_
  exact if_pos h

/-! ## The whole configuration -/

/-- A configuration that the validators of the five policies admit, and whose decimals
Python has. -/
structure AppConfiguration.Loadable (runtime : Runtime) (c : AppConfiguration) : Prop where
  watchlist : c.watchlist.AllLegal runtime
  regime : c.regime.Legal
  setup : c.setup.Legal
  source : c.source.Legal runtime.characters
  decimals : ∀ d ∈ riskDecimals c.risk ++ c.regime.decimals ++ c.setup.decimals ++
    c.source.decimals, d.IsRepresentable

/-- No item of the watchlist expires. -/
def AppConfiguration.NoExpiry (c : AppConfiguration) : Prop :=
  ∀ item ∈ c.watchlist.items, item.expiresOn = none

/-- A snapshot admits the versions, the radar symbols and the values of the policies. -/
def AppConfiguration.Admitted (u : CharacterDatabase) (c : AppConfiguration) : Prop :=
  (∃ version, c.regime.version = .str version ∧ isSnapshotVersion version = true) ∧
    (∀ version ∈ [c.watchlist.version, c.setup.version, c.risk.version, c.source.version],
      isSnapshotVersion version = true) ∧
    fieldsWithinLimits (c.policyValues u) = true ∧
    ∀ symbol ∈ c.regime.radarUniverse, Identifier.IsLegal symbol

theorem isSha256_canonicalModelHash (value : Json) :
    isSha256 (canonicalModelHash value) = true := by
  rw [isSha256, Bool.and_eq_true, decide_eq_true_eq, List.all_eq_true]
  refine ⟨?_, Sha256.sha256_hex _⟩
  rw [← String.length_toList]
  exact Sha256.sha256_length _

/-- Besides what the configuration decides, a snapshot checks hashes and file names only. -/
theorem isSnapshot_iff {u : CharacterDatabase} {c : AppConfiguration} {version : String} :
    IsSnapshot (c.snapshotOf u version) ↔ isSnapshotVersion version = true ∧
      (∀ version ∈ [c.watchlist.version, c.setup.version, c.risk.version, c.source.version],
        isSnapshotVersion version = true) ∧
      fieldsWithinLimits (c.policyValues u) = true ∧
      ∀ symbol ∈ c.regime.radarUniverse, Identifier.IsLegal symbol := by
  have hfiles : ∀ item ∈ (c.fileHashes u).items,
      Identifier.IsLegal item.1 ∧ isSha256 item.2 = true := by
    intro item hitem
    simp only [AppConfiguration.fileHashes, List.mem_cons, List.not_mem_nil, or_false] at hitem
    rcases hitem with rfl | rfl | rfl | rfl | rfl
    · exact ⟨(by decide : Identifier.IsLegal "regime-policy.yaml"), isSha256_canonicalModelHash _⟩
    · exact ⟨(by decide : Identifier.IsLegal "risk-policy.yaml"), isSha256_canonicalModelHash _⟩
    · exact ⟨(by decide : Identifier.IsLegal "setup-policy.yaml"), isSha256_canonicalModelHash _⟩
    · exact ⟨(by decide : Identifier.IsLegal "source-policy.yaml"), isSha256_canonicalModelHash _⟩
    · exact ⟨(by decide : Identifier.IsLegal "watchlist.yaml"), isSha256_canonicalModelHash _⟩
  have hhashes : ∀ item ∈ (c.policyHashes u).items, isSha256 item.2 = true := by
    intro item hitem
    simp only [AppConfiguration.policyHashes, List.mem_cons, List.not_mem_nil, or_false] at hitem
    rcases hitem with rfl | rfl | rfl | rfl | rfl
    all_goals exact isSha256_canonicalModelHash _
  constructor
  · intro hsnapshot
    obtain ⟨_, _, hversions, hlimits, _, hradar⟩ := hsnapshot
    refine ⟨hversions _ (by simp [AppConfiguration.snapshotOf]), ?_, hlimits _ rfl, hradar⟩
    intro text htext
    refine hversions _ ?_
    simp only [List.mem_cons, List.not_mem_nil, or_false] at htext
    rcases htext with rfl | rfl | rfl | rfl
    all_goals simp [AppConfiguration.snapshotOf]
  · intro hall
    obtain ⟨hregime, hversions, hlimits, hradar⟩ := hall
    refine ⟨isSha256_canonicalModelHash _, hfiles, ?_, ?_, ?_, hradar⟩
    · intro text htext
      simp only [AppConfiguration.snapshotOf, List.mem_cons, List.not_mem_nil, or_false] at htext
      rcases htext with rfl | rfl | rfl | rfl | rfl
      · exact hversions _ (by simp)
      · exact hregime
      · exact hversions _ (by simp)
      · exact hversions _ (by simp)
      · exact hversions _ (by simp)
    · intro policies hpolicies
      cases hpolicies
      exact hlimits
    · intro hashes hmem
      cases hmem
      exact hhashes

theorem validateAndSnapshot_iff {u : CharacterDatabase} {c : AppConfiguration} :
    (∃ s, validateAndSnapshot u c = some s) ↔ c.Admitted u := by
  unfold validateAndSnapshot
  constructor
  · intro ⟨s, h⟩
    split at h
    next version hversion =>
      split at h
      next hsnapshot =>
        have hall := isSnapshot_iff.mp hsnapshot
        exact ⟨⟨version, hversion, hall.1⟩, hall.2⟩
      next => cases h
    next => cases h
  · intro ⟨⟨version, hversion, hregime⟩, hrest⟩
    rw [hversion]
    exact ⟨_, if_pos (isSnapshot_iff.mpr ⟨hregime, hrest⟩)⟩

/-- The snapshot there is. -/
theorem snapshot_of_validate {u : CharacterDatabase} {c : AppConfiguration}
    {s : ConfigurationSnapshot} (h : validateAndSnapshot u c = some s) :
    ∃ version, c.regime.version = .str version ∧ s = c.snapshotOf u version := by
  unfold validateAndSnapshot at h
  split at h
  next version hversion =>
    split at h
    next =>
      cases h
      exact ⟨version, hversion, rfl⟩
    next => cases h
  next => cases h

/-- The values of the five policies, from a snapshot of them. -/
theorem get?_frozen (u : CharacterDatabase) (c : AppConfiguration) :
    (c.frozen u).get? "regime" = some c.regime.toJson ∧
      (c.frozen u).get? "risk" = some (riskToJson u c.risk) ∧
      (c.frozen u).get? "setup" = some (c.setup.toJson u) ∧
      (c.frozen u).get? "source" = some (c.source.toJson u) ∧
      (c.frozen u).get? "watchlist" = some c.watchlist.toJson := by
  simp only [FrozenMap.get?_eq_some]
  simp [AppConfiguration.frozen, AppConfiguration.policyValues]

theorem configurationFromValues_frozen (hu : runtime.characters.PlainDigits)
    {c : AppConfiguration} (h : c.Loadable runtime) (hexpiry : c.NoExpiry) :
    configurationFromValues runtime (c.frozen runtime.characters) = some c := by
  obtain ⟨hregime, hrisk, hsetup, hsource, hwatchlist⟩ := get?_frozen runtime.characters c
  have hdecimals := h.decimals
  unfold configurationFromValues
  refine bind_ok (bind_read hregime (RegimePolicy.read_toJson hu h.regime fun d hd =>
    hdecimals d (by simp [hd]))) ?_
  refine bind_ok (bind_read hsetup (SetupPolicy.read_toJson hu h.setup fun d hd =>
    hdecimals d (by simp [hd]))) ?_
  refine bind_ok (bind_read hwatchlist (WatchlistConfig.read_toJson h.watchlist hexpiry)) ?_
  refine bind_ok (bind_read hrisk (readRisk_toJson hu fun d hd => hdecimals d (by simp [hd]))) ?_
  exact bind_ok (bind_read hsource (SourcePolicy.read_toJson hu h.source fun d hd =>
    hdecimals d (by simp [hd]))) rfl

/-- The watchlist that comes back is read from its own value. -/
theorem watchlist_of_values {values : FrozenMap Json} {c : AppConfiguration}
    (h : configurationFromValues runtime values = some c) :
    ∃ value, values.get? "watchlist" = some value ∧
      WatchlistConfig.read runtime value = some c.watchlist := by
  unfold configurationFromValues at h
  obtain ⟨_, -, h⟩ := Option.bind_eq_some_iff.mp h
  obtain ⟨_, -, h⟩ := Option.bind_eq_some_iff.mp h
  obtain ⟨watchlist, hwatchlist, h⟩ := Option.bind_eq_some_iff.mp h
  obtain ⟨_, -, h⟩ := Option.bind_eq_some_iff.mp h
  obtain ⟨_, -, h⟩ := Option.bind_eq_some_iff.mp h
  cases h
  exact Option.bind_eq_some_iff.mp hwatchlist

/-- What a snapshot gives is what its values give. -/
theorem values_of_snapshot {s : ConfigurationSnapshot} {c : AppConfiguration}
    (h : configurationFromSnapshot runtime s = some c) :
    ∃ policies, s.policies = some policies ∧
      configurationFromValues runtime policies = some c := by
  unfold configurationFromSnapshot at h
  obtain ⟨policies, hpolicies, h⟩ := Option.bind_eq_some_iff.mp h
  obtain ⟨hashes, -, h⟩ := Option.bind_eq_some_iff.mp h
  split at h
  · obtain ⟨read, hread, h⟩ := Option.bind_eq_some_iff.mp h
    split at h
    · cases h
      exact ⟨policies, hpolicies, hread⟩
    · cases h
  · cases h

/-- A configuration comes back from its snapshot exactly when no watchlist item expires and
the snapshot admits its values. -/
theorem snapshot_lossless_iff (runtime : Runtime) (hu : runtime.characters.PlainDigits)
    (c : AppConfiguration) (h : c.Loadable runtime) :
    (validateAndSnapshot runtime.characters c).bind (configurationFromSnapshot runtime) = some c ↔
      c.NoExpiry ∧ c.Admitted runtime.characters := by
  constructor
  · intro hback
    obtain ⟨s, hsnapshot, hfrom⟩ := Option.bind_eq_some_iff.mp hback
    obtain ⟨policies, -, hvalues⟩ := values_of_snapshot hfrom
    obtain ⟨value, -, hread⟩ := watchlist_of_values hvalues
    exact ⟨WatchlistConfig.expiresOn_of_read hread, validateAndSnapshot_iff.mp ⟨s, hsnapshot⟩⟩
  · intro ⟨hexpiry, hadmitted⟩
    obtain ⟨s, hsnapshot⟩ := validateAndSnapshot_iff.mpr hadmitted
    obtain ⟨version, hversion, rfl⟩ := snapshot_of_validate hsnapshot
    have hmatches : Matches runtime.characters c (c.snapshotOf runtime.characters version) :=
      ⟨rfl, rfl, rfl, ⟨rfl, rfl, hversion.symm, rfl, rfl⟩, rfl⟩
    rw [hsnapshot, Option.bind_some]
    unfold configurationFromSnapshot
    refine bind_ok rfl ?_
    refine bind_ok rfl ?_
    rw [if_pos ⟨rfl, rfl⟩]
    refine bind_ok (configurationFromValues_frozen hu h hexpiry) ?_
    exact if_pos hmatches

/-! ## A configuration, and the same with an item that expires -/

theorem ascii_plainDigits : CharacterDatabase.ascii.PlainDigits where
  digit _ h := if_pos h
  other := by
    simp only [List.mem_cons, List.not_mem_nil, or_false, forall_eq_or_imp, forall_eq]
    exact ⟨rfl, rfl, rfl, rfl⟩

def sampleRuntime : Runtime where
  characters := .ascii
  urls := { parse := fun _ => none, isControl := fun _ => false }
  exactDecimal _ := none

def sampleAmount (coefficient : Nat) (h : coefficient ≠ 0) : PositiveDecimal :=
  ⟨⟨false, coefficient, -2⟩, rfl, h⟩

def sampleItem (expiresOn : Option Calendar.Date) : WatchlistItem where
  symbol := ⟨"AAPL", by decide⟩
  role := .satelliteEligible
  researchRationale := "Durable demand"
  tags := ["hardware"]
  priority := 10
  researchHorizon := .mediumTerm
  expiresOn
  benchmarkSymbol := none
  sectorProxySymbol := none
  officialSources := []
  notes := none

def sampleRisk : RiskPolicy where
  version := "1"
  sizingEnabled := true
  planningCapitalUsd := some (sampleAmount 1000000 (by decide))
  maxRiskPerTradePct := some (sampleAmount 1 (by decide))
  maxPositionPct := some (sampleAmount 10 (by decide))
  minimumRewardRiskRatio := some (sampleAmount 150 (by decide))
  maxTotalPortfolioHeatPct := some (sampleAmount 6 (by decide))
  existingPortfolioHeatPct := none
  maxConcurrentPlanDrafts := 5
  allowFractionalUnits := false
  quantityIncrement := sampleAmount 100 (by decide)
  regimeRiskMultipliers := ⟨[("DEFENSIVE", .zero), ("NEUTRAL", ⟨false, 5, -1⟩),
    ("PERMISSIVE", .one), ("UNKNOWN", .zero)], by decide, by decide⟩
  versioned := by decide
  fewDrafts := by decide
  everyRegime := by decide
  fractions := by decide

def sampleRegime : RegimePolicy where
  version := .str "regime-policy-v1"
  broadSymbols := ["SPY", "QQQ"]
  smallCapSymbol := "IWM"
  creditAssetSymbol := "HYG"
  creditBenchmarkSymbol := "LQD"
  sectorSymbols := ["XLC", "XLY", "XLP", "XLE", "XLF", "XLV", "XLI", "XLB", "XLRE", "XLK", "XLU"]
  cyclicalSymbols := ["XLY", "XLE", "XLF", "XLI", "XLB", "XLK"]
  defensiveSymbols := ["XLP", "XLV", "XLU"]
  shortSmaWindow := 50
  longSmaWindow := 200
  slopeLookback := 20
  relativeReturnWindow := 20
  atrWindow := 14
  realizedVolatilityWindow := 20
  percentileHistory := 252
  participationPositiveMinimum := 7
  participationNegativeMaximum := 4
  participationMinimumValid := 9
  leadershipVoteThreshold := 2
  leadershipMinimumValid := 2
  volatilityPositiveMaximum := ⟨false, 60, 0⟩
  volatilityNegativeMinimum := ⟨false, 80, 0⟩
  permissiveThreshold := ⟨false, 35, 0⟩
  defensiveThreshold := ⟨true, 35, 0⟩
  componentWeights := [(.broadTrend, ⟨false, 30, 0⟩), (.participation, ⟨false, 25, 0⟩),
    (.leadership, ⟨false, 20, 0⟩), (.volatilityStress, ⟨false, 15, 0⟩),
    (.creditCrossAsset, ⟨false, 10, 0⟩)]
  diaSymbol := "DIA"
  treasurySymbol := some "TLT"
  dollarSymbol := some "UUP"
  goldSymbol := some "GLD"
  oilSymbol := some "USO"
  volatilitySymbol := some "VIX"

def sampleSetup : SetupPolicy where
  version := "1"
  requiredHistoricalSessions := 252
  minimumPrice := sampleAmount 500 (by decide)
  minimumMedianDollarVolume := sampleAmount 1000000000 (by decide)
  movingAverageWindows := [20, 50, 200]
  trendSlopeWindows := [10, 20]
  breakoutLookback := 20
  atrWindow := 14
  entryZoneAtrBuffers := [sampleAmount 25 (by decide), sampleAmount 50 (by decide)]
  extensionLimits := [sampleAmount 100 (by decide), sampleAmount 200 (by decide)]
  pullbackSupportTolerances := [sampleAmount 1 (by decide), sampleAmount 2 (by decide)]
  restrengtheningConditions := ["above_support"]
  minimumRewardToRisk := sampleAmount 150 (by decide)
  planLifetimeSessions := 3
  earningsBlackoutSessions := 2
  scoreWeights := List.replicate 6 (sampleAmount 1000 (by decide))
  penaltyNames := PenaltyName.all

def sampleLimits : FrozenMap Nat :=
  ⟨[("market_current_price", 900), ("market_daily_bars", 86400)], by decide, by decide⟩

def sampleSource : SourcePolicy where
  version := "1"
  qualitySourceRoles := [.marketData, .marketCalendar]
  allowedAdapters := ["alpaca"]
  allowedHttpsDomains := ["alpaca.markets"]
  allowedHostsByAdapter := none
  allowedPortsByHost := FrozenMap.empty
  freshnessByDataType := sampleLimits
  cacheRetentionSeconds := 60
  requestDeadlineSeconds := sampleAmount 1000 (by decide)
  retryAttempts := 2
  retryBackoffSeconds := sampleAmount 50 (by decide)
  retryJitterSeconds := sampleAmount 10 (by decide)
  perRunRequestBudgets := sampleLimits
  allowRedirects := false
  maximumResponseBytes := 1000000
  allowedContentTypes := ["application/json"]
  excerptLimits := sampleLimits
  licensedContentPersistence := .none

def sampleConfiguration (expiresOn : Option Calendar.Date) : AppConfiguration where
  watchlist := { version := "1", items := [sampleItem expiresOn] }
  risk := sampleRisk
  regime := sampleRegime
  setup := sampleSetup
  source := sampleSource

theorem sampleConfiguration_loadable (expiresOn : Option Calendar.Date) :
    (sampleConfiguration expiresOn).Loadable sampleRuntime where
  watchlist := by
    refine ⟨⟨(by decide : isVersion "1" = true), (by decide : 1 ≤ 30), List.nodup_singleton _⟩, ?_⟩
    intro item hitem
    rw [List.mem_singleton.mp hitem]
    exact ⟨(by decide : isEnglish .ascii "Durable demand" = true), nofun,
      (by decide : ["hardware"].length ≤ 16 ∧ ["hardware"].Nodup ∧
        ∀ tag ∈ ["hardware"], tag.length ≤ 32 ∧ isSlug tag = true), (by decide : 10 ≤ 100),
      Nat.zero_le _, List.nodup_nil, fun source hsource => absurd hsource List.not_mem_nil⟩
  regime := (by decide : sampleRegime.Legal)
  setup := (by decide : sampleSetup.Legal)
  source := (by decide : sampleSource.Legal .ascii)
  decimals := by
    show ∀ d ∈ riskDecimals sampleRisk ++ sampleRegime.decimals ++ sampleSetup.decimals ++
      sampleSource.decimals, d.IsRepresentable
    decide

theorem sampleConfiguration_admitted (expiresOn : Option Calendar.Date)
    (h : fieldsWithinLimits ((sampleConfiguration expiresOn).policyValues .ascii) = true) :
    (sampleConfiguration expiresOn).Admitted .ascii :=
  ⟨⟨_, rfl, by decide⟩,
    (by decide : ∀ version ∈ ["1", "1", "1", "1"], isSnapshotVersion version = true), h, by
    show ∀ symbol ∈ sampleRegime.radarUniverse, Identifier.IsLegal symbol
    decide⟩

theorem snapshot_lossless_iff_sample :
    (validateAndSnapshot .ascii (sampleConfiguration none)).bind
      (configurationFromSnapshot sampleRuntime) = some (sampleConfiguration none) ↔
        (sampleConfiguration none).NoExpiry ∧ (sampleConfiguration none).Admitted .ascii :=
  snapshot_lossless_iff sampleRuntime ascii_plainDigits (sampleConfiguration none)
    (sampleConfiguration_loadable none)

def sampleExpiry : Calendar.Date := ⟨2026, 12, 31, by decide⟩

/-- A watchlist item that expires is stored and cannot be read back. -/
theorem expiring_not_restored :
    (sampleConfiguration (some sampleExpiry)).Loadable sampleRuntime ∧
      ∃ s, validateAndSnapshot .ascii (sampleConfiguration (some sampleExpiry)) = some s ∧
        configurationFromSnapshot sampleRuntime s = none := by
  refine ⟨sampleConfiguration_loadable _, ?_⟩
  obtain ⟨s, hs⟩ := validateAndSnapshot_iff.mpr
    (sampleConfiguration_admitted (some sampleExpiry) (by decide))
  refine ⟨s, hs, ?_⟩
  obtain ⟨version, -, rfl⟩ := snapshot_of_validate hs
  rw [Option.eq_none_iff_forall_not_mem]
  intro c hc
  obtain ⟨policies, hpolicies, hvalues⟩ := values_of_snapshot hc
  obtain ⟨value, hvalue, hread⟩ := watchlist_of_values hvalues
  cases hpolicies
  rw [(get?_frozen _ _).2.2.2.2] at hvalue
  cases hvalue
  have hnone : WatchlistConfig.read sampleRuntime
      (sampleConfiguration (some sampleExpiry)).watchlist.toJson = none := by decide
  rw [hnone] at hread
  cases hread

end FinanceResearch.Config
