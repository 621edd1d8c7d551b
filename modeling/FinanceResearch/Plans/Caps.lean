import FinanceResearch.Lib.Rounding
import FinanceResearch.Plans.Coherent

/-!
# The caps of a sizing

What `calculate_position_sizing` suggests against its caps, in exact arithmetic. Each of
its operations rounds half-even to 28 digits, the last of them before the floor is taken:
a quotient just below a whole number is lifted to it, and the floor then keeps an increment
that the cap does not pay for. The suggestion keeps its caps exactly where no count of
increments is lifted so (`SizingTerms.CountsKept`).
-/

namespace FinanceResearch.Plans

open Calendar (UtcDatetime)
open Fallible

theorem numeric_eq_ok {α : Type} {x : Except Decimal.Signal α} {a : α} :
    numeric x = .ok a ↔ x = .ok a := by
  cases x with
  | error e => exact ⟨nofun, nofun⟩
  | ok b => exact ⟨fun h => by cases h; rfl, fun h => by cases h; rfl⟩

/-! ## The terms of a sizing -/

/-- What a sizing is calculated from, as numbers. -/
structure SizingTerms where
  capital : ℚ
  riskPct : ℚ
  positionPct : ℚ
  multiplier : ℚ
  entry : ℚ
  stop : ℚ
  increment : ℚ

def sizingTerms (plan : TradePlanDraft) (policy : RiskPolicy) (regime : Regime) :
    Option SizingTerms := do
  let capital ← policy.planningCapitalUsd
  let riskPct ← policy.maxRiskPerTradePct
  let positionPct ← policy.maxPositionPct
  let multiplier ← multiplierOf policy regime
  pure {
    capital := capital.value.value
    riskPct := riskPct.value.value
    positionPct := positionPct.value.value
    multiplier := multiplier.value
    entry := plan.entry.value
    stop := plan.stop.value
    increment := (incrementOf policy).value.value }

namespace SizingTerms

variable (terms : SizingTerms)

/-- The risk that the policy allows in the regime. -/
def riskBudget : ℚ := terms.capital * terms.riskPct * terms.multiplier

/-- The exposure that the policy allows. -/
def positionBudget : ℚ := terms.capital * terms.positionPct

/-- Units that are whole increments, within both budgets. -/
structure Within (units : ℚ) : Prop where
  whole : ∃ count : ℕ, 0 < count ∧ units = count * terms.increment
  risk : units * (terms.entry - terms.stop) ≤ terms.riskBudget
  position : units * terms.entry ≤ terms.positionBudget

/-! ## Counting increments in 28 digits -/

/-- The whole increments that `amount` buys at `price`, both quotients rounded. -/
def countOf (amount price increment : ℚ) : ℤ :=
  ⌊context.rounded (context.rounded (amount / price) / increment)⌋

/-- The increments the rounded risk budget pays for. -/
def riskCount : ℤ :=
  countOf (context.rounded (context.rounded (terms.capital * terms.riskPct) * terms.multiplier))
    (context.rounded (terms.entry - terms.stop)) terms.increment

/-- The increments the rounded position budget pays for. -/
def positionCount : ℤ :=
  countOf (context.rounded (terms.capital * terms.positionPct)) terms.entry terms.increment

/-- The smaller of the two counts in units, rounded. -/
def roundedUnits : ℚ :=
  min (context.rounded (terms.riskCount * terms.increment))
    (context.rounded (terms.positionCount * terms.increment))

/-- The 28 digits leave a whole count of increments that both exact quotients reach. -/
def CountsKept : Prop :=
  ∃ count : ℕ, terms.roundedUnits = count * terms.increment ∧
    count ≤ terms.riskBudget / ((terms.entry - terms.stop) * terms.increment) ∧
    count ≤ terms.positionBudget / (terms.entry * terms.increment)

/-- Where the units of both counts have at most 28 digits, what decides is that the smaller
count is not above the exact quotients. -/
theorem countsKept_iff {terms : SizingTerms} (hincrement : 0 < terms.increment)
    (hpositive : 0 < terms.roundedUnits)
    (hrisk : context.rounded (terms.riskCount * terms.increment) =
      terms.riskCount * terms.increment)
    (hposition : context.rounded (terms.positionCount * terms.increment) =
      terms.positionCount * terms.increment) :
    terms.CountsKept ↔
      ((min terms.riskCount terms.positionCount : ℤ) : ℚ) ≤
          terms.riskBudget / ((terms.entry - terms.stop) * terms.increment) ∧
        ((min terms.riskCount terms.positionCount : ℤ) : ℚ) ≤
          terms.positionBudget / (terms.entry * terms.increment) := by
  have hunits : terms.roundedUnits =
      ((min terms.riskCount terms.positionCount : ℤ) : ℚ) * terms.increment := by
    rw [roundedUnits, hrisk, hposition, Int.cast_min, min_mul_of_nonneg _ _ hincrement.le]
  rw [hunits] at hpositive
  have hcount : 0 < min terms.riskCount terms.positionCount := by
    exact_mod_cast pos_of_mul_pos_left hpositive hincrement.le
  obtain ⟨n, hn⟩ := Int.eq_ofNat_of_zero_le hcount.le
  rw [hn] at hunits ⊢
  constructor
  · intro h
    obtain ⟨count, heq, hkept⟩ := h
    rw [hunits] at heq
    rw [mul_right_cancel₀ hincrement.ne' heq]
    exact hkept
  · intro h
    exact ⟨n, hunits, h⟩

theorem within_iff {terms : SizingTerms} (hincrement : 0 < terms.increment)
    (hentry : 0 < terms.entry) (hstop : terms.stop < terms.entry)
    (hpositive : 0 < terms.roundedUnits) : terms.Within terms.roundedUnits ↔ terms.CountsKept := by
  have hunit : 0 < (terms.entry - terms.stop) * terms.increment :=
    mul_pos (sub_pos.mpr hstop) hincrement
  have hprice : 0 < terms.entry * terms.increment := mul_pos hentry hincrement
  constructor
  · intro h
    obtain ⟨count, hcount, hunits⟩ := h.whole
    refine ⟨count, hunits, ?_, ?_⟩
    · rw [le_div_iff₀ hunit]
      have hrisk := h.risk
      rw [hunits] at hrisk
      linarith
    · rw [le_div_iff₀ hprice]
      have hposition := h.position
      rw [hunits] at hposition
      linarith
  · intro h
    obtain ⟨count, hunits, hrisk, hposition⟩ := h
    rw [le_div_iff₀ hunit] at hrisk
    rw [le_div_iff₀ hprice] at hposition
    refine ⟨⟨count, ?_, hunits⟩, ?_, ?_⟩
    · have hne : (0 : ℚ) < count := by
        rw [hunits] at hpositive
        exact pos_of_mul_pos_left hpositive hincrement.le
      exact_mod_cast hne
    · rw [hunits]
      linarith
    · rw [hunits]
      linarith

end SizingTerms

/-! ## What is suggested -/

theorem unitsOf_value {amount price increment units : Decimal}
    (h : unitsOf amount price increment = .ok units) :
    units.value = context.rounded
      (SizingTerms.countOf amount.value price.value increment.value * increment.value) := by
  obtain ⟨quotient, hquotient, h⟩ := bind_eq_ok.mp h
  obtain ⟨steps, hsteps, h⟩ := bind_eq_ok.mp h
  have hquotient := Decimal.Context.divide_value (numeric_eq_ok.mp hquotient)
  have hsteps := Decimal.Context.divide_value (numeric_eq_ok.mp hsteps)
  rw [Decimal.Context.multiply_value (numeric_eq_ok.mp h), Decimal.integralFloor_value, hsteps,
    hquotient, SizingTerms.countOf]

/-- The terms with the arguments that the policy has. -/
def termsOf (plan : TradePlanDraft) (policy : RiskPolicy)
    (capital riskPct positionPct multiplier : Decimal) : SizingTerms where
  capital := capital.value
  riskPct := riskPct.value
  positionPct := positionPct.value
  multiplier := multiplier.value
  entry := plan.entry.value
  stop := plan.stop.value
  increment := (incrementOf policy).value.value

/-- A size that is available is the rounded one, and positive. -/
theorem sizedPlan_available {plan : TradePlanDraft} {policy : RiskPolicy} {regime : Regime}
    {now : UtcDatetime} {capital riskPct positionPct multiplier : Decimal}
    {sizing : PositionSizing}
    (h : sizedPlan plan policy regime now capital riskPct positionPct multiplier = .ok sizing)
    (havailable : sizing.status = .available) :
    ∃ units, sizing.suggestedUnits = some units ∧ 0 < units.value ∧
      units.value = (termsOf plan policy capital riskPct positionPct multiplier).roundedUnits := by
  have hstatus {s t : PositionSizing} (hvalidated : s.validated = .ok t) : s = t := by
    obtain ⟨_, _, hvalidated⟩ := bind_eq_ok.mp hvalidated
    exact Except.ok.inj hvalidated
  unfold sizedPlan at h
  obtain ⟨budget, hbudget, h⟩ := bind_eq_ok.mp h
  obtain ⟨adjusted, hadjusted, h⟩ := bind_eq_ok.mp h
  obtain ⟨perUnit, hperUnit, h⟩ := bind_eq_ok.mp h
  split at h
  · rw [← hstatus h] at havailable
    cases havailable
  obtain ⟨byRisk, hrisk, h⟩ := bind_eq_ok.mp h
  obtain ⟨position, hposition, h⟩ := bind_eq_ok.mp h
  obtain ⟨byPosition, hunits, h⟩ := bind_eq_ok.mp h
  dsimp only at h
  split at h
  · rw [← hstatus h] at havailable
    cases havailable
  next hpositive =>
  obtain ⟨_, _, h⟩ := bind_eq_ok.mp h
  obtain ⟨_, _, h⟩ := bind_eq_ok.mp h
  obtain ⟨_, _, h⟩ := bind_eq_ok.mp h
  rw [← hstatus h]
  refine ⟨_, rfl, ?_, ?_⟩
  · rw [Decimal.atMost_iff, not_le] at hpositive
    rwa [@Decimal.value_of_zero .zero rfl] at hpositive
  · rw [Decimal.least_value, unitsOf_value hrisk, unitsOf_value hunits,
      Decimal.Context.multiply_value (numeric_eq_ok.mp hadjusted),
      Decimal.Context.multiply_value (numeric_eq_ok.mp hbudget),
      Decimal.Context.subtract_value (numeric_eq_ok.mp hperUnit),
      Decimal.Context.multiply_value (numeric_eq_ok.mp hposition)]
    rfl

/-- What a sizing suggests keeps the caps of its terms. -/
def KeepsCaps (plan : TradePlanDraft) (policy : RiskPolicy) (regime : Regime)
    (sizing : PositionSizing) : Prop :=
  ∃ terms units, sizingTerms plan policy regime = some terms ∧
    sizing.suggestedUnits = some units ∧ terms.Within units.value

/-- The terms leave the counts as the exact quotients have them. -/
def CountsKept (plan : TradePlanDraft) (policy : RiskPolicy) (regime : Regime) : Prop :=
  ∃ terms, sizingTerms plan policy regime = some terms ∧ terms.CountsKept

theorem eq_nil_of_reasonIf {condition : Prop} [Decidable condition] {reason : String}
    (h : reasonIf condition reason = []) : ¬ condition := by
  intro hcondition
  rw [reasonIf, if_pos hcondition] at h
  cases h

/-- A plan that nothing keeps from being sized has its stop below its entry. -/
theorem stop_below_entry {plan : TradePlanDraft} {policy : RiskPolicy} {regime : Regime}
    {currentPrice : Option PriceObservation} {now : UtcDatetime}
    (h : sizingReasons plan policy regime currentPrice now = .ok []) :
    plan.stop.value < plan.entry.value := by
  obtain ⟨priceFresh, _, h⟩ := bind_eq_ok.mp h
  obtain ⟨stopFresh, _, h⟩ := bind_eq_ok.mp h
  have hnil := Except.ok.inj h
  simp only [List.append_eq_nil_iff] at hnil
  have horder := eq_nil_of_reasonIf hnil.1.1.1.1.1.2
  rwa [Decimal.atMost_iff, not_le] at horder

theorem positiveDecimal_pos (d : PositiveDecimal) : 0 < d.value.value := by
  rw [Decimal.value_eq, d.positive.1]
  exact Decimal.magnitude_pos d.positive.2

/-- A stop a third of a dollar above a whole one. -/
def thirdsLevels : PlanLevels where
  entryZone := ⟨samplePrice 9 (Nat.succ_ne_zero 8), samplePrice 10 (Nat.succ_ne_zero 9), by decide⟩
  candidateStop :=
    { samplePrice 1 Nat.one_ne_zero with
      value := ⟨⟨false, 1333333333333333333333333333, -27⟩, rfl,
        Nat.succ_ne_zero 1333333333333333333333333332⟩ }
  supportReference := samplePrice 2 (Nat.succ_ne_zero 1)
  targetScenarios :=
    [⟨samplePrice 30 (Nat.succ_ne_zero 29), (samplePrice 2 (Nat.succ_ne_zero 1)).value⟩]

def thirdsInput : PlanInput :=
  { sampleInput with candidate := { sampleInput.candidate with levels := thirdsLevels } }

/-- A capital of 5200, of which one percent may be at risk. -/
def thirdsRisk : RiskPolicy :=
  { Config.sampleRisk with planningCapitalUsd := some (Config.sampleAmount 520000 (Nat.succ_ne_zero 519999)) }

end FinanceResearch.Plans
