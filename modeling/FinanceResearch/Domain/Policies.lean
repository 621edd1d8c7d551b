import FinanceResearch.Domain.Packets

/-!
# Configuration policies

The policies of `domain/policies.py` that the evaluations read. A record holds legal
values only: each check of the source is a field of it.

Mirroring notes vs the source:
- Decimals are finite: `_decimal` refuses the others.
-/

namespace FinanceResearch

/-- `_VERSION`: `^[1-9][0-9]*$`. -/
def isVersion (text : String) : Bool :=
  text.toList.head?.any (fun c => c.isDigit && c ≠ '0') && text.toList.all Char.isDigit

/-- `Regime`. -/
inductive Regime where
  | permissive | neutral | defensive | unknown
  deriving DecidableEq, Repr

def Regime.name : Regime → String
  | .permissive => "PERMISSIVE"
  | .neutral => "NEUTRAL"
  | .defensive => "DEFENSIVE"
  | .unknown => "UNKNOWN"

def Regime.value : Regime → String
  | .permissive => "permissive"
  | .neutral => "neutral"
  | .defensive => "defensive"
  | .unknown => "unknown"

def Regime.all : List Regime := [.permissive, .neutral, .defensive, .unknown]

structure RiskPolicy where
  version : String
  sizingEnabled : Bool
  planningCapitalUsd : Option PositiveDecimal
  maxRiskPerTradePct : Option PositiveDecimal
  maxPositionPct : Option PositiveDecimal
  minimumRewardRiskRatio : Option PositiveDecimal
  maxTotalPortfolioHeatPct : Option PositiveDecimal
  existingPortfolioHeatPct : Option PositiveDecimal
  maxConcurrentPlanDrafts : Nat
  allowFractionalUnits : Bool
  quantityIncrement : PositiveDecimal
  regimeRiskMultipliers : FrozenMap Decimal
  versioned : isVersion version = true
  fewDrafts : maxConcurrentPlanDrafts ≤ 5
  everyRegime : (∀ regime ∈ Regime.all, regime.name ∈ regimeRiskMultipliers.names) ∧
    ∀ name ∈ regimeRiskMultipliers.names, name ∈ Regime.all.map Regime.name
  fractions : ∀ item ∈ regimeRiskMultipliers.items,
    Decimal.zero.atMost item.2 = true ∧ item.2.atMost Decimal.one = true

end FinanceResearch
