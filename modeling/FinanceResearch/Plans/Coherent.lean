import FinanceResearch.Config.Lossless
import FinanceResearch.Plans.Build

/-!
# Built plans are coherent

The plan that is returned was not validated: it is a copy of the draft, with a copy of
the sizing. It passes all validators nevertheless, is sized exactly when it is not
blocked, and is blocked whenever one of its inputs or the sizing asks for it.
-/

namespace FinanceResearch.Plans

open Calendar (UtcDatetime)
open Fallible (bind_eq_ok)

variable {calendar : TradingCalendar} {u : CharacterDatabase} {input : PlanInput}

/-! ## Copies -/

/-- A sizing that is withheld for a reason passes its validator. -/
theorem PositionSizing.coherent_withheld {sizing : PositionSizing} {reasons : List String}
    (h : reasons ≠ []) : (sizing.withheld reasons).coherentStatus = .ok ⟨⟩ := by
  show refuse (reasons = [] ∨ (none : Option Decimal).isSome = true) _ = .ok ⟨⟩
  rw [refuse_eq_ok]
  intro hbad
  rcases hbad with hempty | hsome
  · exact h hempty
  · cases hsome

/-- A copy of a plan that does not expire has other status checks only. -/
theorem TradePlanDraft.statusChecks_copy {plan : TradePlanDraft} {status : PlanStatus}
    {sizing : PositionSizing} (h : plan.statusChecks = .ok ⟨⟩) (hexpiry : plan.effectiveExpiryAt = none)
    (hstatus : status ≠ .expired)
    (hsizing : status = .blocked → sizing.status = .sizingUnavailable) :
    ({ plan with planStatus := status, positionSizing := sizing } : TradePlanDraft).statusChecks
      = .ok ⟨⟩ := by
  obtain ⟨_, htimes, _⟩ := bind_eq_ok.mp h
  refine bind_eq_ok.mpr ⟨⟨⟩, htimes, ?_⟩
  refine bind_eq_ok.mpr ⟨⟨⟩, refuse_eq_ok.mpr fun hbad => hstatus hbad.1, ?_⟩
  refine bind_eq_ok.mpr ⟨⟨⟩, refuse_eq_ok.mpr fun hbad => hbad.2 hexpiry, ?_⟩
  refine bind_eq_ok.mpr ⟨⟨⟩, refuse_eq_ok.mpr ?_, refuse_eq_ok.mpr ?_⟩
  · show ¬ plan.effectiveExpiryAt.any _ = true
    rw [hexpiry]
    exact Bool.false_ne_true
  · intro hbad
    rcases hbad.1 with hblocked | hexpired
    · exact hbad.2 (hsizing hblocked)
    · exact hstatus hexpired

theorem TradePlanDraft.validate_copy {plan : TradePlanDraft} {status : PlanStatus}
    {sizing : PositionSizing} (h : plan.validate u = .ok ⟨⟩) (hexpiry : plan.effectiveExpiryAt = none)
    (hstatus : status ≠ .expired)
    (hsizing : status = .blocked → sizing.status = .sizingUnavailable) :
    ({ plan with planStatus := status, positionSizing := sizing } : TradePlanDraft).validate u
      = .ok ⟨⟩ := by
  obtain ⟨_, hfields, h⟩ := bind_eq_ok.mp h
  obtain ⟨_, hchecks, hcontent⟩ := bind_eq_ok.mp h
  exact bind_eq_ok.mpr ⟨⟨⟩, hfields, bind_eq_ok.mpr ⟨⟨⟩,
    TradePlanDraft.statusChecks_copy hchecks hexpiry hstatus hsizing, hcontent⟩⟩

namespace PlanInput

/-! ## The draft -/

/-- What is used of a draft. -/
structure DraftSpec (u : CharacterDatabase) (input : PlanInput) (lateReview : Bool)
    (plan : TradePlanDraft) : Prop where
  valid : plan.validate u = .ok ⟨⟩
  unexpired : plan.effectiveExpiryAt = none
  status : plan.planStatus = input.draftStatus lateReview

theorem draft_spec {cutoff : UtcDatetime} {lateReview : Bool} {plan : TradePlanDraft}
    (h : input.draft calendar u cutoff lateReview = .ok plan) :
    DraftSpec u input lateReview plan := by
  unfold draft at h
  obtain ⟨_, -, h⟩ := bind_eq_ok.mp h
  obtain ⟨⟨⟩, _, h⟩ := bind_eq_ok.mp h
  obtain ⟨_, -, h⟩ := bind_eq_ok.mp h
  obtain ⟨_, -, h⟩ := bind_eq_ok.mp h
  obtain ⟨_, -, h⟩ := bind_eq_ok.mp h
  obtain ⟨_, -, h⟩ := bind_eq_ok.mp h
  obtain ⟨_, -, h⟩ := bind_eq_ok.mp h
  obtain ⟨_, -, h⟩ := bind_eq_ok.mp h
  obtain ⟨_, -, h⟩ := bind_eq_ok.mp h
  obtain ⟨_, -, h⟩ := bind_eq_ok.mp h
  obtain ⟨_, -, h⟩ := bind_eq_ok.mp h
  obtain ⟨_, -, h⟩ := bind_eq_ok.mp h
  obtain ⟨_, -, h⟩ := bind_eq_ok.mp h
  obtain ⟨_, hvalid, h⟩ := bind_eq_ok.mp h
  cases h
  exact ⟨hvalid, rfl, rfl⟩

theorem statusOf_ne_expired (candidate : SetupCandidate) (event : EventAssessment)
    (gates : List GateResult) (states : List CapabilityState) (risk : RiskPolicy)
    (regime : Regime) : statusOf candidate event gates states risk regime ≠ .expired := by
  unfold statusOf
  split
  · exact nofun
  · split
    · exact nofun
    · exact nofun

theorem draftStatus_ne_expired (lateReview : Bool) : input.draftStatus lateReview ≠ .expired := by
  unfold draftStatus
  split
  · exact nofun
  · exact statusOf_ne_expired _ _ _ _ _ _

/-- The downgrade leaves a blocked plan blocked. -/
theorem draftStatus_blocked {lateReview : Bool} (h : input.initialStatus = .blocked) :
    input.draftStatus lateReview = .blocked := by
  unfold draftStatus
  rw [h, if_neg (fun hbad => nomatch hbad.1)]

/-! ## The overrides -/

theorem capabilityOverride_coherent {state : CapabilityState} {sizing : PositionSizing}
    (h : sizing.coherentStatus = .ok ⟨⟩) :
    (capabilityOverride state sizing).coherentStatus = .ok ⟨⟩ := by
  unfold capabilityOverride
  split
  · refine PositionSizing.coherent_withheld ?_
    unfold capabilityReasons
    dsimp only
    split
    · exact List.cons_ne_nil _ _
    · assumption
  · exact h

/-- What a status and a sizing have in common at the end. -/
structure Outcome (input : PlanInput) (state : CapabilityState) (status : PlanStatus)
    (sizing : PositionSizing) (outcome : PlanStatus × PositionSizing) : Prop where
  coherent : outcome.2.coherentStatus = .ok ⟨⟩
  unexpired : outcome.1 ≠ .expired
  sized : outcome.2.status = .available ↔ outcome.1 ≠ .blocked
  kept : status = .blocked → outcome.1 = .blocked
  unsized : sizing.status = .sizingUnavailable → outcome.1 = .blocked
  overheated : heatExceeded input.riskPolicy sizing = true → outcome.1 = .blocked

theorem conclude_spec {state : CapabilityState} {status : PlanStatus} {sizing : PositionSizing}
    (hcoherent : sizing.coherentStatus = .ok ⟨⟩) (hexpired : status ≠ .expired)
    (hblocked : status = .blocked → sizing.status = .sizingUnavailable) :
    Outcome input state status sizing (input.conclude status state sizing) := by
  have hoverride : (capabilityOverride state sizing).coherentStatus = .ok ⟨⟩ :=
    capabilityOverride_coherent hcoherent
  unfold conclude
  dsimp only
  by_cases hunavailable : (capabilityOverride state sizing).status = .sizingUnavailable
  · rw [if_pos hunavailable]
    refine ⟨hoverride, nofun, ?_, fun _ => rfl, fun _ => rfl, fun _ => rfl⟩
    show (capabilityOverride state sizing).status = .available ↔ _
    rw [hunavailable]
    exact ⟨nofun, fun h => absurd rfl h⟩
  · rw [if_neg hunavailable]
    -- The sizing is available, so the capability is, and no override was made.
    have hstate : ¬ state.available = false := by
      intro hstate
      refine hunavailable ?_
      rw [capabilityOverride, if_pos hstate]
      rfl
    have hsame : capabilityOverride state sizing = sizing := if_neg hstate
    rw [hsame] at hunavailable ⊢
    have havailable : sizing.status = .available := by
      cases hs : sizing.status with
      | available => rfl
      | sizingUnavailable => exact absurd hs hunavailable
    by_cases hheat : heatExceeded input.riskPolicy sizing = true
    · rw [if_pos hheat]
      refine ⟨PositionSizing.coherent_withheld (List.cons_ne_nil _ _), nofun, ?_, fun _ => rfl,
        fun _ => rfl, fun _ => rfl⟩
      exact ⟨nofun, fun h => absurd rfl h⟩
    · rw [if_neg hheat, if_neg hstate]
      refine ⟨hcoherent, hexpired, ?_, id, fun h => absurd h hunavailable, fun h => absurd h hheat⟩
      exact ⟨fun _ h => hunavailable (hblocked h), fun _ => havailable⟩

/-! ## The plan -/

/-- The sizing that is calculated for the draft. -/
def Sized (calendar : TradingCalendar) (u : CharacterDatabase) (input : PlanInput)
    (sizing : PositionSizing) : Prop :=
  ∃ decided draft, input.checked calendar u = .ok decided ∧
    input.draft calendar u decided.1 decided.2.forceReviewRequired = .ok draft ∧
    calculatePositionSizing draft input.riskPolicy input.regime.regime input.currentPrice
      input.generatedAt = .ok sizing

/-- The estimated heat of a sizing is over the limit of the policy. -/
def Overheated (risk : RiskPolicy) (sizing : PositionSizing) : Prop :=
  ∃ heat limit, sizing.estimatedPostPlanHeatPct = some heat ∧
    risk.maxTotalPortfolioHeatPct = some limit ∧ limit.value.value < heat.value

/-- What blocks a plan. -/
inductive Blocked (calendar : TradingCalendar) (u : CharacterDatabase) (input : PlanInput) : Prop
  | candidate (h : input.candidate.planStatus = .blocked)
  | quality (h : input.candidate.dataQuality.status = .fail)
  | event (h : input.eventAssessment.planStatus = .blocked)
  | gate (g : GateResult) (hg : g ∈ input.candidate.eventAssessment.gates ++ input.gates)
      (h : g.status = .block)
  | capability (s : CapabilityState) (hs : s ∈ input.capabilityStates)
      (hc : s.capability = .planDraftAvailable ∨ s.capability = .positionSizingAvailable)
      (h : s.available = false)
  | regime (h : input.regime.regime = .defensive ∨ input.regime.regime = .unknown)
  | heatLimit (h : input.riskPolicy.maxTotalPortfolioHeatPct = none)
  | sizing (s : PositionSizing) (hs : Sized calendar u input s)
      (h : s.status = .sizingUnavailable ∨ Overheated input.riskPolicy s)

/-- What the plan that is built satisfies. -/
structure Coherent (calendar : TradingCalendar) (u : CharacterDatabase) (input : PlanInput)
    (plan : TradePlanDraft) : Prop where
  valid : plan.validate u = .ok ⟨⟩
  sizingValid : plan.positionSizing.coherentStatus = .ok ⟨⟩
  sized : plan.positionSizing.status = .available ↔
    plan.planStatus = .draft ∨ plan.planStatus = .reviewRequired
  blocked : Blocked calendar u input → plan.planStatus = .blocked

theorem heatExceeded_of_overheated {risk : RiskPolicy} {sizing : PositionSizing}
    (h : Overheated risk sizing) : heatExceeded risk sizing = true := by
  obtain ⟨heat, limit, hheat, hlimit, hless⟩ := h
  unfold heatExceeded
  rw [hheat, hlimit]
  exact Decimal.less_iff.mpr hless

/-- What blocks by `_status`. -/
theorem initialStatus_blocked (h : Blocked calendar u input)
    (hsizing : ∀ s, Sized calendar u input s →
      ¬ (s.status = .sizingUnavailable ∨ Overheated input.riskPolicy s)) :
    input.initialStatus = .blocked := by
  have hblocks : blocks input.candidate input.eventAssessment input.gateResults
      input.capabilityStates input.riskPolicy input.regime.regime = true := by
    unfold blocks
    simp only [Bool.or_eq_true, decide_eq_true_eq]
    cases h with
    | candidate h => simp [h]
    | quality h => simp [h]
    | event h => simp [h]
    | gate g hg h =>
      have hmem : g ∈ input.gateResults := List.mem_eraseDups.mpr hg
      have hany : input.gateResults.any (fun gate => gate.status = .block) = true :=
        List.any_eq_true.mpr ⟨g, hmem, decide_eq_true h⟩
      exact .inl (.inl (.inl (.inl (.inr hany))))
    | capability s hs hc h =>
      have hany : input.capabilityStates.any (fun state =>
          !state.available && planCapabilities.contains state.capability) = true := by
        refine List.any_eq_true.mpr ⟨s, hs, ?_⟩
        rcases hc with hc | hc
        · simp [h, hc, planCapabilities]
        · simp [h, hc, planCapabilities]
      exact .inl (.inl (.inl (.inr hany)))
    | regime h =>
      rcases h with h | h
      · simp [h]
      · simp [h]
    | heatLimit h => simp [h]
    | sizing s hs h => exact absurd h (hsizing s hs)
  exact if_pos hblocks

/-- Whatever it is built from, a plan that is returned passes all validators, is sized exactly
when it is not blocked, and is blocked whenever something blocks it. -/
theorem buildTradePlan_coherent (calendar : TradingCalendar) (u : CharacterDatabase)
    (input : PlanInput) (plan : TradePlanDraft)
    (h : input.buildTradePlan calendar u = .ok plan) : Coherent calendar u input plan := by
  obtain ⟨decided, hchecked, h⟩ := bind_eq_ok.mp h
  obtain ⟨draft, hdraft, h⟩ := bind_eq_ok.mp h
  obtain ⟨sizing, hsizing, h⟩ := bind_eq_ok.mp h
  obtain ⟨state, -, h⟩ := bind_eq_ok.mp h
  cases h
  have hspec := draft_spec hdraft
  have hunexpired : draft.planStatus ≠ .expired := by
    rw [hspec.status]
    exact draftStatus_ne_expired _
  have houtcome : Outcome input state draft.planStatus sizing
      (input.conclude draft.planStatus state sizing) := conclude_spec
    (calculatePositionSizing_coherent hsizing) hunexpired
    fun hblocked => calculatePositionSizing_blocked hblocked hsizing
  have hunsized : (input.conclude draft.planStatus state sizing).1 = .blocked →
      (input.conclude draft.planStatus state sizing).2.status = .sizingUnavailable := by
    intro hblocked
    cases hs : (input.conclude draft.planStatus state sizing).2.status with
    | available => exact absurd hblocked (houtcome.sized.mp hs)
    | sizingUnavailable => rfl
  refine ⟨TradePlanDraft.validate_copy hspec.valid hspec.unexpired houtcome.unexpired hunsized,
    houtcome.coherent, ?_, ?_⟩
  · show (input.conclude draft.planStatus state sizing).2.status = .available ↔
      (input.conclude draft.planStatus state sizing).1 = .draft ∨
        (input.conclude draft.planStatus state sizing).1 = .reviewRequired
    rw [houtcome.sized]
    have hexpired := houtcome.unexpired
    generalize (input.conclude draft.planStatus state sizing).1 = status at hexpired ⊢
    cases status with
    | draft => simp
    | reviewRequired => simp
    | blocked => simp
    | expired => exact absurd rfl hexpired
  · intro hblocked
    show (input.conclude draft.planStatus state sizing).1 = .blocked
    -- There is one calculated sizing, and it blocks at the end; all else blocks the draft.
    by_cases hsize : sizing.status = .sizingUnavailable ∨ Overheated input.riskPolicy sizing
    · rcases hsize with hsize | hsize
      · exact houtcome.unsized hsize
      · exact houtcome.overheated (heatExceeded_of_overheated hsize)
    · refine houtcome.kept ?_
      rw [hspec.status]
      refine draftStatus_blocked (initialStatus_blocked hblocked ?_)
      intro s hs
      obtain ⟨decided', draft', hchecked', hdraft', hsizing'⟩ := hs
      rw [hchecked] at hchecked'
      cases hchecked'
      rw [hdraft] at hdraft'
      cases hdraft'
      rw [hsizing] at hsizing'
      cases hsizing'
      exact hsize

end PlanInput

/-! ## A plan that is sized -/

/-- A calendar on which it is 8:50 in New York. -/
def sampleCalendar : TradingCalendar where
  isTradingDay _ := .ok true
  sessionOpenClose _ := .ok (3600000000, 7200000000)
  newYorkTime _ := timeOfDay 8 50

def sampleIds : EvidenceIds := ⟨[⟨"evidence-1", by decide⟩], by decide⟩

def sampleAssessment : EventAssessment where
  planStatus := .draft
  gates := []
  eventRisks := []
  noTradeConditions := []
  qualityFlags := []

theorem noFlags_legal : ([] : List Identifier).length ≤ 64 ∧ ([] : List Identifier).Nodup := by
  decide

/-- What is observed at time 0 may be retrieved then. -/
theorem epoch_ordered : (0 : UtcDatetime) ≤ 0 := by decide

/-- A price of so many dollars. -/
def samplePrice (dollars : Nat) (h : dollars ≠ 0) : CalculatedPrice where
  instrumentId := ⟨"AAPL", by decide⟩
  value := ⟨⟨false, dollars, 0⟩, rfl, h⟩
  currency := ⟨"USD", by decide⟩
  session := .preMarket
  provider := ⟨"alpaca-markets", by decide⟩
  feed := ⟨"iex", by decide⟩
  coverage := .singleExchange
  observedAt := 0
  retrievedAt := 0
  evidenceId := ⟨"evidence-1", by decide⟩
  qualityFlags := ⟨[], noFlags_legal⟩
  ordered := epoch_ordered
  inputEvidenceIds := sampleIds
  metricIds := []
  policyVersion := "1"
  formulaVersion := "1"
  evidenceCutoffAt := 0

def sampleLevels : PlanLevels where
  entryZone := ⟨samplePrice 99 (by decide), samplePrice 101 (by decide), by decide⟩
  candidateStop := samplePrice 95 (by decide)
  supportReference := samplePrice 96 (by decide)
  targetScenarios := [⟨samplePrice 110 (by decide), ⟨⟨false, 2, 0⟩, by decide⟩⟩]

/-- A selected candidate of the setup policy. -/
def sampleCandidate (dataQuality : DataQualityResult) : SetupCandidate where
  candidateId := ⟨"candidate-1", by decide⟩
  symbol := (Config.sampleItem none).symbol
  setupType := .trendPullback
  policyHash := Config.canonicalModelHash (Config.sampleSetup.toJson .ascii)
  regimePolicyVersion := "1"
  evidenceCutoffAt := 0
  levels := sampleLevels
  entryCondition := "Price holds above support"
  invalidationCondition := "Price closes below the stop"
  eventAssessment := sampleAssessment
  dataQuality
  components := []
  penalties := []
  positiveScore := .zero
  totalScore := .zero
  planStatus := .draft
  selectedForPlan := true

/-- A run with a frozen cutoff and limits on the age of prices. -/
def sampleRun : RunContext where
  runId := ⟨⟨2026, 1, 5, Calendar.firstMonday_valid⟩, 1, by decide⟩
  runType := .premarket
  invokedAt := 0
  evidenceCutoffAt := some 0
  executionStatus := .analyzing
  dataQualityStatus := .pass
  deliveryStatus := .onTime
  configurationSnapshot :=
    { contentHashSha256 := "0000000000000000000000000000000000000000000000000000000000000000"
      fileHashes := FrozenMap.empty
      watchlistVersion := "1"
      regimePolicyVersion := "1"
      setupPolicyVersion := "1"
      riskPolicyVersion := "1"
      sourcePolicyVersion := "1"
      policies := some ⟨[("source", .obj [("version", .str "1"),
        ("freshness_by_data_type", .obj [("market_current_price", .int 900),
          ("market_daily_bars", .int 86400)])])], by decide, by decide⟩
      policyHashes := none
      radarUniverse := [] }
  coreVersion := "1"
  mcpContractVersion := "1"
  pluginVersion := "1"
  skillVersion := "1"
  promptVersion := "1"
  reportTemplateVersion := "1"
  schemaVersions := FrozenMap.empty

def sampleRegime : Regimes.RegimeResult where
  resultId := "regime-1"
  regime := .neutral
  score := some .zero
  components := []
  metrics := []
  criticalStress := false
  criticalStressReasons := []
  policyVersion := "1"
  calculatedAt := 0
  inputSnapshotIds := []
  qualityFlags := []
  unavailableReasons := []

def sampleQuality : QualityFields where
  status := .pass
  capabilities := FinanceResearch.capabilityStates .empty
  globalReasonCodes := ⟨[], by decide⟩
  symbolCapabilities := FrozenMap.empty
  symbolPlanStatuses := FrozenMap.empty

def sampleInput : PlanInput where
  candidate := sampleCandidate ⟨sampleQuality, by decide⟩
  run := sampleRun
  watchlistItem := Config.sampleItem none
  regime := sampleRegime
  eventAssessment := sampleAssessment
  gates := []
  currentPrice := some (samplePrice 101 (by decide)).toPriceObservation
  capabilityStates := (FinanceResearch.capabilityStates .empty).map fun state => ⟨state, sampleIds⟩
  setupPolicy := Config.sampleSetup
  riskPolicy := Config.sampleRisk
  generatedAt := 0

namespace PlanInput

theorem sampleInput_checked :
    sampleInput.checked sampleCalendar .ascii = .ok (0, ⟨⟨2026, 1, 5, by decide⟩, true, some .onTime,
      true, false, false, false, "ON_TIME"⟩) := by
  refine bind_eq_ok.mpr ⟨⟨⟩, rfl, bind_eq_ok.mpr ⟨⟨⟩, if_neg (by decide), ?_⟩⟩
  refine bind_eq_ok.mpr ⟨⟨⟩, if_neg (by decide), bind_eq_ok.mpr ⟨0, rfl, ?_⟩⟩
  refine bind_eq_ok.mpr ⟨⟨⟩, if_neg (by decide), bind_eq_ok.mpr ⟨⟨⟩, if_neg (by decide), ?_⟩⟩
  refine bind_eq_ok.mpr ⟨_, rfl, bind_eq_ok.mpr ⟨⟨⟩, if_neg (by decide), ?_⟩⟩
  refine bind_eq_ok.mpr ⟨⟨⟩, if_neg (by decide), bind_eq_ok.mpr ⟨⟨⟩, if_neg (by decide), ?_⟩⟩
  -- The candidate names the hash of this policy: the two sides are the same expression.
  have hpolicy : sampleInput.candidate.policyHash =
      Config.canonicalModelHash (sampleInput.setupPolicy.toJson .ascii) := rfl
  refine bind_eq_ok.mpr ⟨⟨⟩, if_neg (not_not.mpr hpolicy), ?_⟩
  refine bind_eq_ok.mpr ⟨⟨⟩, if_neg (by decide), bind_eq_ok.mpr ⟨⟨⟩, if_neg (by decide), ?_⟩⟩
  refine bind_eq_ok.mpr ⟨⟨⟩, if_neg (by decide), bind_eq_ok.mpr ⟨⟨⟩, if_neg (by decide), ?_⟩⟩
  rfl

theorem buildTradePlan_coherent_sample : ∃ plan,
    sampleInput.buildTradePlan sampleCalendar .ascii = .ok plan ∧
      plan.planStatus = .reviewRequired ∧ Coherent sampleCalendar .ascii sampleInput plan := by
  have hbuilt : ∃ plan, sampleInput.buildTradePlan sampleCalendar .ascii = .ok plan ∧
      plan.planStatus = .reviewRequired := by
    unfold buildTradePlan
    rw [sampleInput_checked]
    exact Fallible.exists_of_map_toOption (by decide)
  obtain ⟨plan, hplan, hstatus⟩ := hbuilt
  exact ⟨plan, hplan, hstatus, buildTradePlan_coherent sampleCalendar .ascii sampleInput plan hplan⟩

end PlanInput

end FinanceResearch.Plans
