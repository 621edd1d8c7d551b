import FinanceResearch.Plans.Records

/-!
# Position sizing

`calculate_position_sizing` of `domain/sizing.py`: the size of a plan, or the reasons
there is none.
-/

namespace FinanceResearch.Plans

open Calendar (UtcDatetime)

/-- `timedelta(seconds=seconds)`, in microseconds. -/
def timedelta (seconds : Nat) : Except PlanError Int :=
  if 86400 * 1000000000 ≤ seconds then throw .overflow else pure (seconds * 1000000)

/-- A quality flag that says the price cannot be relied on. -/
def isProblem (flag : Identifier) : Bool :=
  ["STALE", "CONFLICT", "UNRELIABLE"].any fun problem =>
    Text.contains flag.text.toUpper problem

/-- `_fresh`. -/
def fresh (price : Option PriceObservation) (now : UtcDatetime) (maxAgeSeconds : Option Nat) :
    Except PlanError Bool :=
  match price, maxAgeSeconds with
  | some price, some seconds =>
    if 0 < seconds ∧ price.observedAt ≤ now ∧ price.retrievedAt ≤ now then do
      let age ← timedelta seconds
      pure (decide (now - price.observedAt ≤ age) && !price.qualityFlags.flags.any isProblem)
    else pure false
  | _, _ => pure false

/-- The reason, if the condition holds. -/
def reasonIf (condition : Prop) [Decidable condition] (reason : String) : List String :=
  if condition then [reason] else []

/-- `entry`. -/
def TradePlanDraft.entry (plan : TradePlanDraft) : Decimal := plan.entryZone.upper.value.value

/-- `stop`. -/
def TradePlanDraft.stop (plan : TradePlanDraft) : Decimal := plan.candidateStop.value.value

/-- `regime_risk_multipliers.get(regime.name)`. -/
def multiplierOf (policy : RiskPolicy) (regime : Regime) : Option Decimal :=
  policy.regimeRiskMultipliers.get? regime.name

/-- `reasons`: what keeps the plan from being sized. -/
def sizingReasons (plan : TradePlanDraft) (policy : RiskPolicy) (regime : Regime)
    (currentPrice : Option PriceObservation) (now : UtcDatetime) :
    Except PlanError (List String) := do
  let priceFresh ← fresh currentPrice now plan.currentPriceFreshnessSeconds
  let stopFresh ← fresh (some plan.candidateStop.toPriceObservation) now plan.stopFreshnessSeconds
  let otherInstrument := currentPrice.any fun price =>
    price.instrumentId ≠ plan.entryZone.upper.instrumentId
  pure (
    (if plan.planStatus = .blocked then ["PLAN_BLOCKED"]
      else reasonIf (plan.planStatus = .expired ∨ plan.expiresAt ≤ now) "PLAN_EXPIRED") ++
    reasonIf (policy.sizingEnabled = false) "SIZING_DISABLED" ++
    reasonIf (policy.planningCapitalUsd = none) "PLANNING_CAPITAL_MISSING" ++
    reasonIf (policy.maxRiskPerTradePct = none ∨ policy.maxPositionPct = none ∨
      policy.minimumRewardRiskRatio = none ∨ multiplierOf policy regime = none)
      "RISK_POLICY_INCOMPLETE" ++
    reasonIf (plan.entry.atMost plan.stop = true) "STOP_NOT_BELOW_ENTRY" ++
    reasonIf (plan.currentPriceFreshnessSeconds = none) "CURRENT_PRICE_FRESHNESS_UNAVAILABLE" ++
    reasonIf (plan.stopFreshnessSeconds = none) "STOP_FRESHNESS_UNAVAILABLE" ++
    reasonIf (priceFresh = false ∨ otherInstrument = true) "CURRENT_PRICE_STALE" ++
    reasonIf (stopFresh = false) "STOP_EVIDENCE_STALE" ++
    reasonIf (policy.minimumRewardRiskRatio.any (fun minimum =>
      (Decimal.greatest plan.rewardRiskByTarget).less minimum.value) = true)
      "REWARD_RISK_BELOW_POLICY")

/-- The fields every sizing of a plan has. -/
def sizingBase (plan : TradePlanDraft) (policy : RiskPolicy) (regime : Regime)
    (now : UtcDatetime) (status : SizingStatus) : PositionSizing where
  status
  planningCapitalUsd := policy.planningCapitalUsd.map PositiveDecimal.value
  maxRiskPerTradePct := policy.maxRiskPerTradePct.map PositiveDecimal.value
  regimeRiskMultiplier := multiplierOf policy regime
  maxPositionPct := policy.maxPositionPct.map PositiveDecimal.value
  entryReferencePrice := some plan.entry
  candidateStopPrice := some plan.stop
  calculatedAt := now
  quantityIncrement := some policy.quantityIncrement

/-- `(amount / price / increment).to_integral_value(rounding=ROUND_FLOOR) * increment`. -/
def unitsOf (amount price increment : Decimal) : Except PlanError Decimal := do
  let units ← numeric (context.divide amount price)
  let steps ← numeric (context.divide units increment)
  numeric (context.multiply steps.integralFloor increment)

/-- `increment`. -/
def incrementOf (policy : RiskPolicy) : PositiveDecimal :=
  if policy.allowFractionalUnits then policy.quantityIncrement else ⟨.one, by decide⟩

/-- `post_heat`. -/
def postHeat (policy : RiskPolicy) (planRisk : Decimal) : Except PlanError (Option Decimal) :=
  match policy.existingPortfolioHeatPct with
  | none => pure none
  | some existing => do
    let total ← numeric (context.add existing.value planRisk)
    pure (some total)

/-- The size of a plan that nothing keeps from being sized. -/
def sizedPlan (plan : TradePlanDraft) (policy : RiskPolicy) (regime : Regime)
    (now : UtcDatetime) (capital riskPct positionPct multiplier : Decimal) :
    Except PlanError PositionSizing := do
  let base := sizingBase plan policy regime now
  let budget ← numeric (context.multiply capital riskPct)
  let adjusted ← numeric (context.multiply budget multiplier)
  let perUnit ← numeric (context.subtract plan.entry plan.stop)
  if perUnit.atMost Decimal.zero then
    PositionSizing.validated { base .sizingUnavailable with
      unavailableReasons := ["NONPOSITIVE_RISK_PER_UNIT"]
      baseRiskBudget := some budget
      adjustedRiskBudget := some adjusted
      riskPerUnit := some perUnit }
  else
    let increment := incrementOf policy
    let byRisk ← unitsOf adjusted perUnit increment.value
    let position ← numeric (context.multiply capital positionPct)
    let byPosition ← unitsOf position plan.entry increment.value
    let suggested := byRisk.least byPosition
    if suggested.atMost Decimal.zero then
      PositionSizing.validated { base .sizingUnavailable with
        unavailableReasons := ["NO_POSITIVE_UNITS"]
        baseRiskBudget := some budget
        adjustedRiskBudget := some adjusted
        riskPerUnit := some perUnit
        unitsByRisk := some byRisk
        unitsByPositionCap := some byPosition
        quantityIncrement := some increment }
    else
      let exposure ← numeric (context.multiply suggested perUnit)
      let planRisk ← numeric (context.divide exposure capital)
      let heat ← postHeat policy planRisk
      PositionSizing.validated { base .available with
        baseRiskBudget := some budget
        adjustedRiskBudget := some adjusted
        riskPerUnit := some perUnit
        unitsByRisk := some byRisk
        unitsByPositionCap := some byPosition
        suggestedUnits := some suggested
        estimatedPlanRiskPct := some planRisk
        estimatedPostPlanHeatPct := heat
        quantityIncrement := some increment }

/-- `calculate_position_sizing`. -/
def calculatePositionSizing (plan : TradePlanDraft) (policy : RiskPolicy) (regime : Regime)
    (currentPrice : Option PriceObservation) (now : UtcDatetime) :
    Except PlanError PositionSizing := do
  let reasons ← sizingReasons plan policy regime currentPrice now
  match reasons, policy.planningCapitalUsd, policy.maxRiskPerTradePct, policy.maxPositionPct,
      multiplierOf policy regime with
  | [], some capital, some riskPct, some positionPct, some multiplier =>
    sizedPlan plan policy regime now capital.value riskPct.value positionPct.value multiplier
  | reasons, _, _, _, _ =>
    PositionSizing.validated { sizingBase plan policy regime now .sizingUnavailable with
      unavailableReasons := reasons.eraseDups }

/-! ## What a sizing satisfies -/

theorem PositionSizing.coherent_of_validated {s t : PositionSizing} (h : s.validated = .ok t) :
    t.coherentStatus = .ok ⟨⟩ := by
  obtain ⟨_, hcoherent, h⟩ := Fallible.bind_eq_ok.mp h
  cases h
  exact hcoherent

theorem sizedPlan_coherent {plan : TradePlanDraft} {policy : RiskPolicy} {regime : Regime}
    {now : UtcDatetime} {capital riskPct positionPct multiplier : Decimal}
    {sizing : PositionSizing}
    (h : sizedPlan plan policy regime now capital riskPct positionPct multiplier = .ok sizing) :
    sizing.coherentStatus = .ok ⟨⟩ := by
  unfold sizedPlan at h
  obtain ⟨budget, -, h⟩ := Fallible.bind_eq_ok.mp h
  obtain ⟨adjusted, -, h⟩ := Fallible.bind_eq_ok.mp h
  obtain ⟨perUnit, -, h⟩ := Fallible.bind_eq_ok.mp h
  split at h
  · exact PositionSizing.coherent_of_validated h
  · obtain ⟨byRisk, -, h⟩ := Fallible.bind_eq_ok.mp h
    obtain ⟨position, -, h⟩ := Fallible.bind_eq_ok.mp h
    obtain ⟨byPosition, -, h⟩ := Fallible.bind_eq_ok.mp h
    dsimp only at h
    split at h
    · exact PositionSizing.coherent_of_validated h
    · obtain ⟨exposure, -, h⟩ := Fallible.bind_eq_ok.mp h
      obtain ⟨planRisk, -, h⟩ := Fallible.bind_eq_ok.mp h
      obtain ⟨heat, -, h⟩ := Fallible.bind_eq_ok.mp h
      exact PositionSizing.coherent_of_validated h

/-- A sizing that is returned passes its validator. -/
theorem calculatePositionSizing_coherent {plan : TradePlanDraft} {policy : RiskPolicy}
    {regime : Regime} {currentPrice : Option PriceObservation} {now : UtcDatetime}
    {sizing : PositionSizing}
    (h : calculatePositionSizing plan policy regime currentPrice now = .ok sizing) :
    sizing.coherentStatus = .ok ⟨⟩ := by
  obtain ⟨reasons, -, h⟩ := Fallible.bind_eq_ok.mp h
  split at h
  · exact sizedPlan_coherent h
  · exact PositionSizing.coherent_of_validated h

/-- A blocked plan is not sized. -/
theorem calculatePositionSizing_blocked {plan : TradePlanDraft} {policy : RiskPolicy}
    {regime : Regime} {currentPrice : Option PriceObservation} {now : UtcDatetime}
    {sizing : PositionSizing} (hplan : plan.planStatus = .blocked)
    (h : calculatePositionSizing plan policy regime currentPrice now = .ok sizing) :
    sizing.status = .sizingUnavailable := by
  obtain ⟨reasons, hreasons, h⟩ := Fallible.bind_eq_ok.mp h
  have hne : reasons ≠ [] := by
    obtain ⟨_, -, hreasons⟩ := Fallible.bind_eq_ok.mp hreasons
    obtain ⟨_, -, hreasons⟩ := Fallible.bind_eq_ok.mp hreasons
    cases hreasons
    rw [if_pos hplan]
    exact List.cons_ne_nil _ _
  split at h
  · exact absurd rfl hne
  · obtain ⟨_, -, h⟩ := Fallible.bind_eq_ok.mp h
    cases h
    rfl

end FinanceResearch.Plans
