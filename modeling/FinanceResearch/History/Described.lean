import Mathlib.Data.List.Dedup
import FinanceResearch.History.Normalization

/-!
# What the bars of a symbol come to

The outcome of a symbol, described from the set of the observations that its records yield and
from whether one of them came twice (`describedOutcome`): no order of the records is in it. The
loop stops at the first conflict and finds one exactly when there is one (`collectSessions_spec`),
since a float has one text and equal prices are one price (`sameObservation_iff`).
-/

namespace FinanceResearch.History

open Calendar (Date UtcDatetime)
open Regimes (DailyBar isNormalizedSymbol)

/-! ## Equal prices -/

/-- The number is one that a float prints. -/
def IsPrinted (value : Decimal) : Prop := ∃ text : FloatText, text.value = value

/-- Of two texts of one number neither has more places. -/
theorem printed_exponent {a b : FloatText} (hle : a.value.exponent ≤ b.value.exponent)
    (h : a.value.coefficient =
      b.value.coefficient * 10 ^ (b.value.exponent - a.value.exponent).toNat) :
    a.value.exponent = b.value.exponent := by
  by_contra hne
  have hlt : a.value.exponent < b.value.exponent := lt_of_le_of_ne hle hne
  obtain ⟨k, hk⟩ : ∃ k, (b.value.exponent - a.value.exponent).toNat = k + 1 :=
    ⟨(b.value.exponent - a.value.exponent).toNat - 1, by omega⟩
  have hzero : a.value.coefficient % 10 = 0 := by
    rw [h, hk, Nat.pow_succ, ← Nat.mul_assoc]
    exact Nat.mul_mod_left _ _
  rcases a.printed with ha | ha | ha
  · -- A text with one place has fewer digits than a number that needs an exponent.
    rcases b.printed with hb | hb | hb
    · omega
    · omega
    · have hexponent : k = b.value.exponent.toNat := by omega
      rw [hk, hexponent, Nat.pow_succ, ← Nat.mul_assoc] at h
      have hlarge := hb.2.2
      have hsmall := ha.2
      rw [h] at hsmall
      have hpow : (10 : Nat) ^ 17 = 10 ^ 16 * 10 := rfl
      omega
  · exact ha.2 hzero
  · exact ha.2.1 hzero

theorem eq_of_sameNumber {a b : PositiveDecimal} (ha : IsPrinted a.value) (hb : IsPrinted b.value)
    (h : a.value.sameNumber b.value = true) : a = b := by
  obtain ⟨s, hs⟩ := ha
  obtain ⟨t, ht⟩ := hb
  have hscaled := eq_of_beq h
  unfold Decimal.scaled at hscaled
  rw [if_neg (Bool.eq_false_iff.mp a.positive.1), if_neg (Bool.eq_false_iff.mp b.positive.1), one_mul,
    one_mul, Int.ofNat_inj] at hscaled
  have hvalues : a.value.exponent = b.value.exponent ∧ a.value.coefficient = b.value.coefficient := by
    rcases le_total a.value.exponent b.value.exponent with hle | hle
    · rw [min_eq_left hle, sub_self, Int.toNat_zero, pow_zero, mul_one] at hscaled
      have hexponent : a.value.exponent = b.value.exponent := by
        rw [← hs, ← ht] at hle hscaled ⊢
        exact printed_exponent hle hscaled
      rw [hexponent, sub_self, Int.toNat_zero, pow_zero, mul_one] at hscaled
      exact ⟨hexponent, hscaled⟩
    · rw [min_eq_right hle, sub_self, Int.toNat_zero, pow_zero, mul_one] at hscaled
      have hexponent : b.value.exponent = a.value.exponent := by
        rw [← hs, ← ht] at hle hscaled ⊢
        exact printed_exponent hle hscaled.symm
      rw [hexponent, sub_self, Int.toNat_zero, pow_zero, mul_one] at hscaled
      exact ⟨hexponent.symm, hscaled⟩
  obtain ⟨⟨negative, coefficient, exponent⟩, hpositive⟩ := a
  obtain ⟨⟨negative', coefficient', exponent'⟩, hpositive'⟩ := b
  obtain ⟨hexponent, hcoefficient⟩ := hvalues
  have hnegative : negative = negative' := hpositive.1.trans hpositive'.1.symm
  cases hnegative
  cases hexponent
  cases hcoefficient
  rfl

/-- Every price is one that a float prints. -/
structure Printed (observation : DailyBarObservation) : Prop where
  opened : IsPrinted observation.bar.opened.value
  high : IsPrinted observation.bar.high.value
  low : IsPrinted observation.bar.low.value
  close : IsPrinted observation.bar.close.value

/-- Observations of floats are equal as Python compares them when they are the same. -/
theorem sameObservation_iff {a b : DailyBarObservation} (ha : Printed a) (hb : Printed b) :
    sameObservation a b = true ↔ a = b := by
  constructor
  · intro h
    unfold sameObservation at h
    simp only [Bool.and_eq_true, decide_eq_true_eq] at h
    obtain ⟨⟨⟨⟨⟨⟨htime, hdate⟩, hopened⟩, hhigh⟩, hlow⟩, hclose⟩, hvolume⟩ := h
    have hopened := eq_of_sameNumber ha.opened hb.opened hopened
    have hhigh := eq_of_sameNumber ha.high hb.high hhigh
    have hlow := eq_of_sameNumber ha.low hb.low hlow
    have hclose := eq_of_sameNumber ha.close hb.close hclose
    obtain ⟨time, date, opened, high, low, close, volume, prices⟩ := a
    obtain ⟨time', date', opened', high', low', close', volume', prices'⟩ := b
    cases htime
    cases hdate
    cases hopened
    cases hhigh
    cases hlow
    cases hclose
    cases hvolume
    rfl
  · intro h
    rw [h]
    unfold sameObservation
    simp only [Decimal.sameNumber_self, decide_true, Bool.and_self]

theorem isPrinted_of_price {value : PyFloat} {d : Decimal} (h : price value = .ok d) : IsPrinted d := by
  cases value with
  | finite text _ => exact ⟨text, Except.ok.inj h⟩
  | other => cases h
  | nonFinite => cases h

variable {newYorkDate : UtcDatetime → Option Date} {symbol : String}

/-- What a record yields has the prices of floats. -/
theorem printed_of_normalizeRecord {record : ProviderRecord} {observation : DailyBarObservation}
    (h : normalizeRecord newYorkDate symbol record = .ok observation) : Printed observation := by
  cases record with
  | other => cases h
  | bar record =>
    unfold normalizeRecord at h
    obtain ⟨_, -, h⟩ := Fallible.bind_eq_ok.mp h
    cases htime : record.timestamp with
    | other =>
      rw [htime] at h
      cases h
    | aware utc =>
      rw [htime] at h
      obtain ⟨timestamp, -, h⟩ := Fallible.bind_eq_ok.mp h
      obtain ⟨opened, hopened, h⟩ := Fallible.bind_eq_ok.mp h
      obtain ⟨high, hhigh, h⟩ := Fallible.bind_eq_ok.mp h
      obtain ⟨low, hlow, h⟩ := Fallible.bind_eq_ok.mp h
      obtain ⟨close, hclose, h⟩ := Fallible.bind_eq_ok.mp h
      obtain ⟨traded, -, h⟩ := Fallible.bind_eq_ok.mp h
      obtain ⟨sessionDate, -, h⟩ := Fallible.bind_eq_ok.mp h
      obtain ⟨bar, hbar, h⟩ := Fallible.bind_eq_ok.mp h
      rw [← Except.ok.inj h]
      unfold dailyBar at hbar
      split at hbar
      · split at hbar
        · cases hbar
          exact ⟨isPrinted_of_price hopened, isPrinted_of_price hhigh, isPrinted_of_price hlow,
            isPrinted_of_price hclose⟩
        · cases hbar
      · cases hbar

/-! ## The loop over the observations -/

/-- Two observations of one session differ. -/
def Conflict (observations : List DailyBarObservation) : Prop :=
  ∃ a ∈ observations, ∃ b ∈ observations, a.bar.sessionDate = b.bar.sessionDate ∧ a ≠ b

instance (observations : List DailyBarObservation) : Decidable (Conflict observations) :=
  inferInstanceAs (Decidable (∃ _ ∈ _, ∃ _ ∈ _, _ ∧ _))

theorem Conflict.mono {few many : List DailyBarObservation} (hsub : ∀ o ∈ few, o ∈ many)
    (h : Conflict few) : Conflict many := by
  obtain ⟨a, ha, b, hb, hab⟩ := h
  exact ⟨a, hsub a ha, b, hsub b hb, hab⟩

/-- What the loop leaves: every observation once, and whether one came twice. -/
structure Collected (observations : List DailyBarObservation) (removed : Bool)
    (result : Option (List DailyBarObservation × Bool)) : Prop where
  none : result = none ↔ Conflict observations
  some : ∀ bySession duplicateRemoved, result = some (bySession, duplicateRemoved) →
    (∀ o, o ∈ bySession ↔ o ∈ observations) ∧ (sessions bySession).Nodup ∧
      (duplicateRemoved = true ↔ removed = true ∨ ¬ observations.Nodup)

theorem not_conflict_of_nodup {observations : List DailyBarObservation}
    (h : (sessions observations).Nodup) : ¬ Conflict observations := by
  intro hconflict
  obtain ⟨a, ha, b, hb, hsession, hne⟩ := hconflict
  exact hne (List.inj_on_of_nodup_map h ha hb hsession)

/-- **The loop finds every conflict and every duplicate.** -/
theorem collectSessions_spec : ∀ {observations bySession : List DailyBarObservation} (removed : Bool),
    (∀ o ∈ observations, Printed o) → (∀ o ∈ bySession, Printed o) → (sessions bySession).Nodup →
      Collected (bySession ++ observations) removed (collectSessions observations bySession removed) := by
  intro observations
  induction observations with
  | nil =>
    intro bySession removed _ _ hnodup
    rw [List.append_nil]
    refine ⟨⟨fun hnone => absurd hnone (Option.some_ne_none _),
      fun hconflict => absurd hconflict (not_conflict_of_nodup hnodup)⟩, ?_⟩
    intro out flag hresult
    obtain ⟨rfl, rfl⟩ := Prod.mk.inj (Option.some.inj hresult)
    exact ⟨fun _ => Iff.rfl, hnodup, ⟨Or.inl, fun h => h.resolve_right
      fun hdup => hdup (List.Nodup.of_map _ hnodup)⟩⟩
  | cons observation rest ih =>
    intro bySession removed hprinted hby hnodup
    rw [List.forall_mem_cons] at hprinted
    unfold collectSessions
    cases hfind : bySession.find? fun existing =>
        existing.bar.sessionDate = observation.bar.sessionDate with
    | none =>
      have hnew : observation.bar.sessionDate ∉ sessions bySession := by
        intro hmem
        obtain ⟨existing, hexisting, hsession⟩ := List.mem_map.mp hmem
        have hnone := List.find?_eq_none.mp hfind existing hexisting
        rw [decide_eq_true_iff] at hnone
        exact hnone hsession
      have hnext : (sessions (bySession ++ [observation])).Nodup := by
        unfold sessions at hnew hnodup ⊢
        rw [List.map_append, List.map_singleton, List.nodup_append]
        refine ⟨hnodup, List.nodup_singleton _, ?_⟩
        intro a ha b hb hab
        rw [hab, List.mem_singleton.mp hb] at ha
        exact hnew ha
      have hall : ∀ o ∈ bySession ++ [observation], Printed o :=
        List.forall_mem_append.mpr ⟨hby, List.forall_mem_singleton.mpr hprinted.1⟩
      have hrest := ih removed hprinted.2 hall hnext
      rw [List.append_assoc, List.singleton_append] at hrest
      exact hrest
    | some existing =>
      have hexisting := List.mem_of_find?_eq_some hfind
      have hsession : existing.bar.sessionDate = observation.bar.sessionDate := by
        have hfound := List.find?_some hfind
        rw [decide_eq_true_iff] at hfound
        exact hfound
      show Collected _ removed (if sameObservation existing observation then
        collectSessions rest bySession true else none)
      by_cases hsame : existing = observation
      · rw [if_pos ((sameObservation_iff (hby existing hexisting) hprinted.1).mpr hsame)]
        have hrest := ih true hprinted.2 hby hnodup
        rw [hsame] at hexisting
        have hmem : ∀ o, o ∈ bySession ++ observation :: rest ↔ o ∈ bySession ++ rest := by
          intro o
          rw [List.mem_append, List.mem_append, List.mem_cons]
          constructor
          · intro h
            rcases h with h | h | h
            · exact Or.inl h
            · exact Or.inl (h ▸ hexisting)
            · exact Or.inr h
          · intro h
            rcases h with h | h
            · exact Or.inl h
            · exact Or.inr (Or.inr h)
        refine ⟨hrest.none.trans ⟨Conflict.mono fun o => (hmem o).mpr,
          Conflict.mono fun o => (hmem o).mp⟩, ?_⟩
        intro out flag hresult
        obtain ⟨hout, hdistinct, hflag⟩ := hrest.some out flag hresult
        refine ⟨fun o => (hout o).trans (hmem o).symm, hdistinct, ?_⟩
        have hduplicate : ¬ (bySession ++ observation :: rest).Nodup := by
          intro hno
          exact (List.nodup_append.mp hno).2.2 observation hexisting observation List.mem_cons_self rfl
        exact ⟨fun _ => Or.inr hduplicate, fun _ => hflag.mpr (Or.inl rfl)⟩
      · rw [if_neg (mt (sameObservation_iff (hby existing hexisting) hprinted.1).mp hsame)]
        refine ⟨⟨fun _ => ?_, fun _ => rfl⟩, fun _ _ hsome => absurd hsome.symm (Option.some_ne_none _)⟩
        exact ⟨existing, List.mem_append_left _ hexisting, observation,
          List.mem_append_right _ List.mem_cons_self, hsession, hsame⟩

/-! ## The outcome, from a set and a flag -/

section Outcome

variable (newYorkDate symbol) (records : List ProviderRecord)

/-- What the records yield, those that are refused left out. -/
def yielded : List DailyBarObservation :=
  records.filterMap fun record => (normalizeRecord newYorkDate symbol record).toOption

/-- A record is refused. -/
def Malformed : Prop := ∃ record ∈ records, (normalizeRecord newYorkDate symbol record).toOption = none

instance : Decidable (Malformed newYorkDate symbol records) :=
  inferInstanceAs (Decidable (∃ _ ∈ _, _))

/-- Every observation once, in the order of the sessions. -/
def distinct : List DailyBarObservation := ordered (yielded newYorkDate symbol records).dedup

/-- The flags of a symbol whose records all count. -/
def describedFlags (request : HistoricalDailyBarsRequest) : List String :=
  qualityFlags request (decide ¬ (yielded newYorkDate symbol records).Nodup)

/-- The first reason that applies, and the history when none does. -/
def describedOutcome (request : HistoricalDailyBarsRequest) (provenance : HistoricalBarsProvenance) :
    HistoricalBarsOutcome :=
  let baseFlags := baseQualityFlags request.feed request.adjustment
  let observations := distinct newYorkDate symbol records
  let flags := describedFlags newYorkDate symbol records request
  let absent := missing request observations
  if records = [] then failureOf symbol .noData provenance request.expectedSessions baseFlags
  else if Malformed newYorkDate symbol records then failureOf symbol .malformedBar provenance [] baseFlags
  else if Conflict (yielded newYorkDate symbol records) then
    failureOf symbol .duplicateConflict provenance [] baseFlags
  else if ∃ session ∈ sessions observations, request.completedThroughSession.Before session then
    failureOf symbol .futureOrIncompleteBar provenance [] flags
  else if ∃ session ∈ sessions observations, session ∉ request.expectedSessions then
    failureOf symbol .malformedBar provenance [] flags
  else if request.completedThroughSession ∉ sessions observations then
    failureOf symbol .stale provenance absent flags
  else if absent ≠ [] then failureOf symbol .missingExpectedSession provenance absent flags
  else if HistoryLegal symbol observations provenance flags then
    .available (historyOf symbol observations provenance flags)
  else failureOf symbol .malformedBar provenance [] flags

/-- The conditions of a history: every record normalises, those of one session are equal, the sessions
are the expected ones, and the history passes its own checks. -/
structure Complete (request : HistoricalDailyBarsRequest) (provenance : HistoricalBarsProvenance) :
    Prop where
  normalized : ∀ record ∈ records, ∃ o, normalizeRecord newYorkDate symbol record = .ok o
  equal : ¬ Conflict (yielded newYorkDate symbol records)
  sessions : ∀ session,
    session ∈ sessions (yielded newYorkDate symbol records) ↔ session ∈ request.expectedSessions
  legal : HistoryLegal symbol (distinct newYorkDate symbol records) provenance
    (describedFlags newYorkDate symbol records request)

end Outcome

end FinanceResearch.History
