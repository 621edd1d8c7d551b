import FinanceResearch.Plans.Coherent

/-!
# Expiry

`expire_plan` ends the validity of a plan. `Later` says what may have become of a plan:
it is still a valid one, an expired plan is expired, no reason for the expiry is gone or
there twice, and the expiry came no later. One call does no more than that, so no run of
calls does, whatever their times are.
-/

namespace FinanceResearch.Plans

open Calendar (UtcDatetime)
open Fallible (bind_eq_ok)

/-- The arguments of one call of `expire_plan`. -/
structure ExpiryCall where
  nowUtc : UtcDatetime
  currentPrice : Option PriceObservation := none
  entryTriggerSatisfied : Bool := false
  invalidationObserved : Bool := false
  newMaterialInformation : Bool := false
  earningsBlackout : Bool := false
  incompatibleRegime : Bool := false
  staleOrConflictingData : Bool := false
  eligibilityChanged : Bool := false

def staleData : Identifier := ⟨"DATA_STALE_OR_CONFLICTING", by decide⟩

/-- The reasons the flags of the call give. -/
def ExpiryCall.conditions (call : ExpiryCall) : List Identifier :=
  [(call.invalidationObserved, (⟨"INVALIDATION_OBSERVED", by decide⟩ : Identifier)),
    (call.newMaterialInformation, ⟨"NEW_MATERIAL_INFORMATION", by decide⟩),
    (call.earningsBlackout, ⟨"EARNINGS_BLACKOUT", by decide⟩),
    (call.incompatibleRegime, ⟨"INCOMPATIBLE_REGIME", by decide⟩),
    (call.staleOrConflictingData, staleData),
    (call.eligibilityChanged, ⟨"ELIGIBILITY_CHANGED", by decide⟩)].filterMap
    fun entry => if entry.1 then some entry.2 else none

namespace TradePlanDraft

/-- The reason the time gives. -/
def timeReasons (plan : TradePlanDraft) (call : ExpiryCall) : List Identifier :=
  if plan.expiresAt ≤ call.nowUtc then [⟨"EXPIRES_AT_PASSED", by decide⟩] else []

/-- The reasons the price gives. -/
def priceReasons (plan : TradePlanDraft) (call : ExpiryCall) : Except PlanError (List Identifier) :=
  match call.currentPrice with
  | none => pure []
  | some price =>
    if price.instrumentId ≠ plan.entryZone.upper.instrumentId then
      throw (.valueError "price instrument differs from plan")
    else do
      let isFresh ← fresh (some price) call.nowUtc plan.currentPriceFreshnessSeconds
      pure (
        if !isFresh then [staleData]
        else if !call.entryTriggerSatisfied && !(plan.entryZone.lower.value.value.atMost price.value.value
            && price.value.value.atMost plan.entryZone.upper.value.value) then
          [⟨"ENTRY_ZONE_DEPARTED", by decide⟩]
        else [])

/-- The copy of a plan that a call with reasons returns. -/
def expired (plan : TradePlanDraft) (nowUtc : UtcDatetime) (reasons : List Identifier) :
    TradePlanDraft :=
  { plan with
    planStatus := .expired
    expiryReasons := (plan.expiryReasons ++ reasons).eraseDups
    effectiveExpiryAt :=
      some (min (min nowUtc plan.expiresAt) (plan.effectiveExpiryAt.getD plan.expiresAt))
    positionSizing := plan.positionSizing.withheld ["PLAN_EXPIRED"] }

/-- `expire_plan`. -/
def expirePlan (plan : TradePlanDraft) (call : ExpiryCall) : Except PlanError TradePlanDraft :=
  if call.nowUtc < plan.validFrom then
    throw (.valueError "expiry time cannot predate plan validity")
  else do
    let prices ← plan.priceReasons call
    let reasons := plan.timeReasons call ++ prices ++ call.conditions
    pure (if reasons = [] then plan else plan.expired call.nowUtc reasons)

/-- Calls of `expire_plan`, each on the plan the one before returned. -/
def expirePlans (plan : TradePlanDraft) (calls : List ExpiryCall) : Except PlanError TradePlanDraft :=
  calls.foldlM expirePlan plan

/-! ## What may have become of a plan -/

/-- A plan all validators of which pass, those of its sizing included. -/
structure Valid (u : CharacterDatabase) (plan : TradePlanDraft) : Prop where
  passes : plan.validate u = .ok ⟨⟩
  sizing : plan.positionSizing.coherentStatus = .ok ⟨⟩

/-- What the checks of the status say of a plan. -/
structure StatusSpec (plan : TradePlanDraft) : Prop where
  ordered : plan.validFrom < plan.expiresAt
  generated : plan.evidenceCutoffAt ≤ plan.generatedAt
  expiry : plan.planStatus = .expired ↔ plan.effectiveExpiryAt ≠ none
  within : ∀ t ∈ plan.effectiveExpiryAt, plan.validFrom ≤ t ∧ t ≤ plan.expiresAt
  unsized : plan.planStatus = .blocked ∨ plan.planStatus = .expired →
    plan.positionSizing.status = .sizingUnavailable

theorem statusChecks_iff {plan : TradePlanDraft} :
    plan.statusChecks = .ok ⟨⟩ ↔ StatusSpec plan := by
  constructor
  · intro h
    obtain ⟨_, hordered, h⟩ := bind_eq_ok.mp h
    obtain ⟨_, hexpired, h⟩ := bind_eq_ok.mp h
    obtain ⟨_, hunexpired, h⟩ := bind_eq_ok.mp h
    obtain ⟨_, hwithin, hsizing⟩ := bind_eq_ok.mp h
    have hordered := not_or.mp (refuse_eq_ok.mp hordered)
    have hexpired := refuse_eq_ok.mp hexpired
    have hunexpired := refuse_eq_ok.mp hunexpired
    have hwithin := refuse_eq_ok.mp hwithin
    have hsizing := refuse_eq_ok.mp hsizing
    refine ⟨not_le.mp hordered.1, not_lt.mp hordered.2, ?_, ?_, ?_⟩
    · constructor
      · exact fun hs hnone => hexpired ⟨hs, hnone⟩
      · exact fun hsome => by_contra fun hs => hunexpired ⟨hs, hsome⟩
    · intro t ht
      rw [Option.mem_def.mp ht] at hwithin
      simpa using hwithin
    · intro hs
      by_contra havailable
      exact hsizing ⟨hs, havailable⟩
  · intro h
    refine bind_eq_ok.mpr ⟨⟨⟩, refuse_eq_ok.mpr ?_, ?_⟩
    · exact not_or.mpr ⟨not_le.mpr h.ordered, not_lt.mpr h.generated⟩
    refine bind_eq_ok.mpr ⟨⟨⟩, refuse_eq_ok.mpr fun hbad => h.expiry.mp hbad.1 hbad.2, ?_⟩
    refine bind_eq_ok.mpr ⟨⟨⟩, refuse_eq_ok.mpr fun hbad => hbad.1 (h.expiry.mpr hbad.2), ?_⟩
    refine bind_eq_ok.mpr ⟨⟨⟩, refuse_eq_ok.mpr ?_, refuse_eq_ok.mpr ?_⟩
    · have hwithin := h.within
      cases hexpiry : plan.effectiveExpiryAt with
      | none => exact Bool.false_ne_true
      | some t =>
        have ht := hwithin t hexpiry
        simp [ht.1, ht.2]
    · exact fun hbad => hbad.2 (h.unsized hbad.1)

theorem Valid.status {u : CharacterDatabase} {plan : TradePlanDraft} (h : Valid u plan) :
    StatusSpec plan := by
  obtain ⟨_, _, h⟩ := bind_eq_ok.mp h.passes
  obtain ⟨_, hchecks, _⟩ := bind_eq_ok.mp h
  exact statusChecks_iff.mp hchecks

/-- What a run of calls may have made of a plan. -/
structure Later (plan later : TradePlanDraft) : Prop where
  validFrom : later.validFrom = plan.validFrom
  expiresAt : later.expiresAt = plan.expiresAt
  expired : plan.planStatus = .expired → later.planStatus = .expired
  unsized : plan.planStatus = .expired → later.positionSizing.status = .sizingUnavailable ∧
    later.positionSizing.suggestedUnits = none
  kept : plan.expiryReasons.eraseDups <+: later.expiryReasons.eraseDups
  once : ∀ reason, later.expiryReasons.count reason ≤ max 1 (plan.expiryReasons.count reason)
  earlier : ∀ t ∈ plan.effectiveExpiryAt, ∃ t' ∈ later.effectiveExpiryAt, t' ≤ t
  within : ∀ t ∈ later.effectiveExpiryAt, plan.validFrom ≤ t ∧ t ≤ plan.expiresAt

theorem Later.refl {u : CharacterDatabase} {plan : TradePlanDraft} (h : Valid u plan) :
    Later plan plan where
  validFrom := rfl
  expiresAt := rfl
  expired := id
  unsized hexpired := by
    have hstatus := h.status.unsized (Or.inr hexpired)
    refine ⟨hstatus, ?_⟩
    have hcoherent := h.sizing
    unfold PositionSizing.coherentStatus at hcoherent
    rw [hstatus] at hcoherent
    have hsome := (not_or.mp (refuse_eq_ok.mp hcoherent)).2
    exact Option.not_isSome_iff_eq_none.mp hsome
  kept := List.prefix_rfl
  once _ := le_max_right _ _
  earlier t ht := ⟨t, ht, le_refl t⟩
  within := h.status.within

theorem Later.trans {plan middle later : TradePlanDraft} (h : Later plan middle)
    (h' : Later middle later) : Later plan later where
  validFrom := h'.validFrom.trans h.validFrom
  expiresAt := h'.expiresAt.trans h.expiresAt
  expired hexpired := h'.expired (h.expired hexpired)
  unsized hexpired := h'.unsized (h.expired hexpired)
  kept := h.kept.trans h'.kept
  once reason := by
    have := h.once reason
    have := h'.once reason
    omega
  earlier t ht := by
    obtain ⟨t', ht', hle⟩ := h.earlier t ht
    obtain ⟨t'', ht'', hle'⟩ := h'.earlier t' ht'
    exact ⟨t'', ht'', le_trans hle' hle⟩
  within t ht := by
    rw [← h.validFrom, ← h.expiresAt]
    exact h'.within t ht

/-! ## One call -/

/-- The expired copy of a valid plan is valid. -/
theorem expired_valid {u : CharacterDatabase} {plan : TradePlanDraft} {nowUtc : UtcDatetime}
    {reasons : List Identifier} (h : Valid u plan) (hnow : plan.validFrom ≤ nowUtc) :
    Valid u (plan.expired nowUtc reasons) := by
  obtain ⟨_, hfields, hrest⟩ := bind_eq_ok.mp h.passes
  obtain ⟨_, _, hcontent⟩ := bind_eq_ok.mp hrest
  refine ⟨bind_eq_ok.mpr ⟨⟨⟩, hfields, bind_eq_ok.mpr ⟨⟨⟩, statusChecks_iff.mpr ?_, hcontent⟩⟩,
    PositionSizing.coherent_withheld (List.cons_ne_nil _ _)⟩
  have hstatus := h.status
  refine ⟨hstatus.ordered, hstatus.generated, ?_, ?_, fun _ => rfl⟩
  · exact ⟨fun _ => Option.some_ne_none _, fun _ => rfl⟩
  · intro t ht
    have ht := Option.some.inj ht
    have hlast : plan.validFrom ≤ plan.effectiveExpiryAt.getD plan.expiresAt := by
      cases hexpiry : plan.effectiveExpiryAt with
      | none => exact hstatus.ordered.le
      | some t' => exact (hstatus.within t' hexpiry).1
    rw [← ht]
    constructor
    · exact le_min (le_min hnow hstatus.ordered.le) hlast
    · exact le_trans (min_le_left _ _) (min_le_right _ _)

theorem expired_later {u : CharacterDatabase} {plan : TradePlanDraft} {nowUtc : UtcDatetime}
    {reasons : List Identifier} (h : Valid u plan) (hnow : plan.validFrom ≤ nowUtc) :
    Later plan (plan.expired nowUtc reasons) where
  validFrom := rfl
  expiresAt := rfl
  expired _ := rfl
  unsized _ := ⟨rfl, rfl⟩
  kept := by
    show _ <+: ((plan.expiryReasons ++ reasons).eraseDups).eraseDups
    rw [Dicts.eraseDups_of_nodup (Dicts.nodup_eraseDups _ _ (Nat.le_refl _)), List.eraseDups_append]
    exact List.prefix_append _ _
  once reason := by
    have hnodup : (plan.expiryReasons ++ reasons).eraseDups.Nodup :=
      Dicts.nodup_eraseDups _ _ (Nat.le_refl _)
    exact le_trans (List.nodup_iff_count_le_one.mp hnodup reason) (le_max_left _ _)
  earlier t ht := by
    refine ⟨_, rfl, ?_⟩
    rw [Option.mem_def.mp ht]
    exact min_le_right _ _
  within := (expired_valid h hnow).status.within

/-- **What one call does**: the plan stays valid, and only later than before. -/
theorem expirePlan_later {u : CharacterDatabase} {plan later : TradePlanDraft} {call : ExpiryCall}
    (h : Valid u plan) (hcall : plan.expirePlan call = .ok later) :
    Valid u later ∧ Later plan later := by
  unfold expirePlan at hcall
  split at hcall
  · cases hcall
  next hnow =>
    have hnow := not_lt.mp hnow
    obtain ⟨prices, _, hcall⟩ := bind_eq_ok.mp hcall
    cases hcall
    split
    · exact ⟨h, Later.refl h⟩
    · exact ⟨expired_valid h hnow, expired_later h hnow⟩

/-- A call past the end of the plan expires it. -/
theorem expirePlan_expires {plan later : TradePlanDraft} {call : ExpiryCall}
    (hcall : plan.expirePlan call = .ok later) (hpast : plan.expiresAt ≤ call.nowUtc) :
    later.planStatus = .expired := by
  unfold expirePlan at hcall
  split at hcall
  · cases hcall
  · obtain ⟨prices, _, hcall⟩ := bind_eq_ok.mp hcall
    cases hcall
    have htime : plan.timeReasons call ≠ [] := by
      rw [timeReasons, if_pos hpast]
      exact List.cons_ne_nil _ _
    rw [if_neg (List.append_ne_nil_of_left_ne_nil (List.append_ne_nil_of_left_ne_nil htime _) _)]
    rfl

/-! ## Runs of calls -/

/-- What one call does, a run of calls does. -/
theorem expirePlans_later {u : CharacterDatabase} : ∀ (calls : List ExpiryCall)
    {plan later : TradePlanDraft}, Valid u plan → plan.expirePlans calls = .ok later →
      Valid u later ∧ Later plan later
  | [], plan, later, h, hcalls => by
    cases hcalls
    exact ⟨h, Later.refl h⟩
  | call :: rest, plan, later, h, hcalls => by
    obtain ⟨middle, hcall, hrest⟩ := bind_eq_ok.mp hcalls
    obtain ⟨hvalid, hmiddle⟩ := expirePlan_later h hcall
    obtain ⟨hlast, hlater⟩ := expirePlans_later rest hvalid hrest
    exact ⟨hlast, hmiddle.trans hlater⟩

/-- **Expiry is absorbing**: of any two plans a run of calls passes through, both are
valid and the second is what may have become of the first. -/
theorem expirePlans_absorbing (u : CharacterDatabase) (before after : List ExpiryCall)
    (plan middle later : TradePlanDraft) (h : Valid u plan)
    (hbefore : plan.expirePlans before = .ok middle)
    (hafter : middle.expirePlans after = .ok later) :
    Valid u middle ∧ Valid u later ∧ Later middle later := by
  obtain ⟨hvalid, _⟩ := expirePlans_later before h hbefore
  obtain ⟨hlast, hlater⟩ := expirePlans_later after hvalid hafter
  exact ⟨hvalid, hlast, hlater⟩

/-- A call past the end of the sample plan, and two at its start. -/
def samplePast : List ExpiryCall := [{ nowUtc := 259200000000 }]

def sampleAgain : List ExpiryCall := [{ nowUtc := 0, earningsBlackout := true }, { nowUtc := 0 }]

theorem expirePlans_absorbing_sample : ∃ plan middle later : TradePlanDraft,
    plan.expirePlans samplePast = .ok middle ∧ middle.expirePlans sampleAgain = .ok later ∧
      middle.planStatus = .expired ∧ later.expiryReasons.length = 2 ∧
        Valid .ascii middle ∧ Valid .ascii later ∧ Later middle later := by
  have hbuilt : ∃ plan, sampleInput.draft sampleCalendar .ascii 0 true = .ok plan ∧
      (plan.positionSizing.coherentStatus.toOption, (plan.expirePlans samplePast).toOption.map
        fun middle => (middle.planStatus, (middle.expirePlans sampleAgain).toOption.map
          fun later => later.expiryReasons.length)) = (some ⟨⟩, some (.expired, some 2)) :=
    Fallible.exists_of_map_toOption (by decide)
  obtain ⟨plan, hplan, hruns⟩ := hbuilt
  obtain ⟨hsizing, hruns⟩ := Prod.mk.inj hruns
  have hvalid : Valid .ascii plan := by
    refine ⟨(PlanInput.draft_spec hplan).valid, ?_⟩
    cases hcoherent : plan.positionSizing.coherentStatus with
    | error e => rw [hcoherent] at hsizing; cases hsizing
    | ok _ => rfl
  obtain ⟨middle, hmiddle, hstatus⟩ := Fallible.exists_of_map_toOption hruns
  obtain ⟨hexpired, hstatus⟩ := Prod.mk.inj hstatus
  obtain ⟨later, hlater, hreasons⟩ := Fallible.exists_of_map_toOption hstatus
  exact ⟨plan, middle, later, hmiddle, hlater, hexpired, hreasons,
    expirePlans_absorbing .ascii samplePast sampleAgain plan middle later hvalid hmiddle hlater⟩

end TradePlanDraft

end FinanceResearch.Plans
