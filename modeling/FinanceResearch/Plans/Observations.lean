import FinanceResearch.Plans.Coherent

/-!
# Observations of prior plans

`observe_prior_plan` of `domain/observations.py`: what the completed bars of the sessions of
a plan show, bar by bar.

Mirroring notes vs the source:
- The local dates of New York come with the calendar (`ObservationCalendar`).
- The loop over the days counts with the number of dates left; `sessionsFrom_fuel` says
  that it is never cut short.
-/

namespace FinanceResearch.Plans

open Calendar (Date UtcDatetime)
open Fallible

/-- `ObservationOutcome`. -/
inductive ObservationOutcome where
  | entryZoneNotObserved | entryZoneObserved | invalidationObserved | targetObserved
  | ambiguousSequence | observationWindowEnded
  deriving DecidableEq, Repr

structure PlanObservation where
  planId : Identifier
  observedThrough : Date
  outcomes : List ObservationOutcome
  observationReferencePrice : Decimal
  observationReferenceEvidenceId : Identifier
  entryZoneObservedAt : Option UtcDatetime
  invalidationObservedAt : Option UtcDatetime
  targetObservedAt : Option UtcDatetime
  mfe : Option Decimal
  mae : Option Decimal
  evidenceIds : List Identifier

/-- `coherent_path`, with the bound of `outcomes`. -/
def PlanObservation.coherentPath (observation : PlanObservation) : Except PlanError Unit := do
  refuse (observation.outcomes = []) "outcomes must not be empty"
  refuse (¬ (.entryZoneObserved ∈ observation.outcomes ↔
    observation.entryZoneObservedAt.isSome = true)) "entry outcome and timestamp must agree"
  refuse (.entryZoneObserved ∉ observation.outcomes ∧
    (observation.mfe.isSome = true ∨ observation.mae.isSome = true))
    "excursions require an observed entry zone"
  refuse (observation.mfe.any (fun mfe => mfe.less .zero) = true) "MFE must be nonnegative"
  refuse (observation.mae.any (fun mae => Decimal.zero.less mae) = true) "MAE must be nonpositive"

/-- The sessions of the exchange and the dates of New York; a date past the last one is none. -/
structure ObservationCalendar extends TradingCalendar where
  newYorkDate : UtcDatetime → Option Date

/-- `_DISCLOSURE_FLAGS`. -/
def disclosureFlags : List String :=
  ["ADJUSTMENT_RAW", "ADJUSTMENT_SPLIT", "ADJUSTMENT_DIVIDEND", "ADJUSTMENT_ALL",
   "FEED_IEX_SINGLE_EXCHANGE", "FEED_SIP_CONSOLIDATED_US"]

/-- `_disqualifying_quality`. -/
def disqualifyingQuality (flags : QualityFlags) : Bool :=
  flags.flags.any fun flag => !disclosureFlags.contains flag.text

/-! ## The sessions of a plan -/

/-- A session and its regular close. -/
structure EligibleSession where
  date : Date
  close : UtcDatetime
  deriving DecidableEq

namespace ObservationCalendar

variable (calendar : ObservationCalendar)

/-- `calendar.is_trading_day(day)`. -/
def tradingDay (day : Date) : Except PlanError Bool :=
  (calendar.isTradingDay day).mapError .runtimeError

/-- `calendar.session_open_close(day)`. -/
def openClose (day : Date) : Except PlanError (UtcDatetime × UtcDatetime) :=
  (calendar.sessionOpenClose day).mapError .runtimeError

/-- `t.astimezone(NEW_YORK).date()`. -/
def localDate (t : UtcDatetime) : Except PlanError Date :=
  match calendar.newYorkDate t with
  | some date => pure date
  | none => throw .overflow

/-- What one day adds to `expected`: its session, if it lies within the plan. -/
def sessionOn (validFrom cutoff : UtcDatetime) (day : Date) : Except PlanError (List EligibleSession) := do
  let trading ← calendar.tradingDay day
  if trading then
    let times ← calendar.openClose day
    pure (if validFrom ≤ times.1 ∧ times.2 ≤ cutoff then [⟨day, times.2⟩] else [])
  else pure []

/-- The loop that collects `expected`. -/
def sessionsFrom (validFrom cutoff : UtcDatetime) (endDate : Date) :
    Nat → Date → Except PlanError (List EligibleSession)
  | 0, _ => pure []
  | fuel + 1, day =>
    if day.order ≤ endDate.order then do
      let here ← calendar.sessionOn validFrom cutoff day
      match day.next with
      | some next => do
        let rest ← sessionsFrom validFrom cutoff endDate fuel next
        pure (here ++ rest)
      | none => throw .overflow
    else pure []

/-- `expected`, with the closes of `session_close`. -/
def expected (validFrom cutoff : UtcDatetime) (startDate endDate : Date) :
    Except PlanError (List EligibleSession) :=
  calendar.sessionsFrom validFrom cutoff endDate (endDate.order + 1 - startDate.order) startDate

variable {calendar}

/-- The days up to the end are as many as the loop counts. -/
theorem sessionsFrom_fuel {validFrom cutoff : UtcDatetime} {endDate : Date} :
    ∀ {fuel : Nat} {day : Date}, endDate.order + 1 - day.order ≤ fuel →
      calendar.sessionsFrom validFrom cutoff endDate (fuel + 1) day =
        calendar.sessionsFrom validFrom cutoff endDate fuel day
  | 0, day, h => by
    rw [sessionsFrom, sessionsFrom, if_neg (by omega)]
  | fuel + 1, day, h => by
    rw [sessionsFrom, sessionsFrom]
    by_cases hday : day.order ≤ endDate.order
    · rw [if_pos hday, if_pos hday]
      cases hnext : day.next with
      | none => rfl
      | some next =>
        have horder := Date.order_next hnext
        dsimp only
        have hleft : endDate.order + 1 - next.order ≤ fuel := by omega
        rw [sessionsFrom_fuel hleft]
    · rw [if_neg hday, if_neg hday]

end ObservationCalendar

/-! ## The path of the prices -/

/-- What the bars so far have shown. -/
structure PathState where
  entryAt : Option UtcDatetime
  stopAt : Option UtcDatetime
  targetAt : Option UtcDatetime
  mfe : Option Decimal
  mae : Option Decimal
  ambiguous : Bool

def PathState.initial : PathState := ⟨none, none, none, none, none, false⟩

/-- `new if old is None else max(old, new)`. -/
def higher (old : Option Decimal) (new : Decimal) : Decimal :=
  match old with
  | none => new
  | some old => if old.less new then new else old

/-- `new if old is None else min(old, new)`. -/
def lower (old : Option Decimal) (new : Decimal) : Decimal :=
  match old with
  | none => new
  | some old => old.least new

/-- `at` when `hit` for the first time. -/
def firstHit (old : Option UtcDatetime) (hit : Bool) (confirmedAt : UtcDatetime) :
    Option UtcDatetime :=
  if hit = true ∧ old = none then some confirmedAt else old

namespace TradePlanDraft

variable (plan : TradePlanDraft)

/-- `entry_this_bar`. -/
def entryThisBar (bar : CompletedDailyBar) : Bool :=
  bar.low.value.atMost plan.entry &&
    plan.entryZone.lower.value.value.atMost bar.high.value

/-- `stop_hit`. -/
def stopHit (bar : CompletedDailyBar) : Bool := bar.low.value.atMost plan.stop

/-- `target_hit`. -/
def targetHit (bar : CompletedDailyBar) : Bool :=
  plan.targetScenarios.any fun target => target.price.value.value.atMost bar.high.value

/-- Daily prices do not tell which of two levels was reached first. -/
def ambiguousBar (bar : CompletedDailyBar) : Bool :=
  (plan.entryThisBar bar && (plan.stopHit bar || plan.targetHit bar)) ||
    (plan.stopHit bar && plan.targetHit bar)

/-- The body of the loop over the eligible bars. -/
def observeBar (state : PathState) (item : EligibleSession × CompletedDailyBar) :
    Except PlanError PathState :=
  let bar := item.2
  let confirmedAt := item.1.close
  if state.entryAt = none ∧ plan.entryThisBar bar = false then pure state
  else do
    let high ← numeric (context.subtract bar.high.value plan.entry)
    let low ← numeric (context.subtract bar.low.value plan.entry)
    let entered : PathState := { state with
      entryAt := some (state.entryAt.getD confirmedAt)
      mfe := some (higher state.mfe (Decimal.atLeastZero high))
      mae := some (lower state.mae (Decimal.zero.least low)) }
    if plan.ambiguousBar bar then pure { entered with ambiguous := true }
    else pure { entered with
      stopAt := firstHit state.stopAt (plan.stopHit bar) confirmedAt
      targetAt := firstHit state.targetAt (plan.targetHit bar) confirmedAt }

/-- `outcomes`. -/
def outcomes (state : PathState) (windowEnded : Bool) : List ObservationOutcome :=
  [if state.entryAt = none then .entryZoneNotObserved else .entryZoneObserved] ++
    (if state.stopAt ≠ none then [.invalidationObserved] else []) ++
    (if state.targetAt ≠ none then [.targetObserved] else []) ++
    (if state.ambiguous = true then [.ambiguousSequence] else []) ++
    (if windowEnded = true then [.observationWindowEnded] else [])

/-! ## The observation -/

/-- `cutoff`. -/
def cutoff : UtcDatetime := plan.effectiveExpiryAt.getD plan.expiresAt

/-- The checks of the bars and of the day they go through. -/
def checkBars (calendar : ObservationCalendar) (bars : List CompletedDailyBar) (through : Date) :
    Except PlanError Unit := do
  reject (∃ bar ∈ bars, bar.instrumentId ≠ plan.entryZone.upper.instrumentId)
    "completed bar instrument differs from plan"
  reject (¬ (bars.map CompletedDailyBar.sessionDate).Pairwise Date.Before)
    "completed bars require unique increasing dates"
  reject (∃ bar ∈ bars, through.Before bar.sessionDate)
    "completed bar is after observed-through close"
  let trading ← calendar.tradingDay through
  reject (trading = false) "observation coverage requires a completed trading session"

/-- An expiry during a session cannot be told from the bar of the day. -/
def checkExpiry (calendar : ObservationCalendar) (cutoffDate through : Date) :
    Except PlanError Unit :=
  if cutoffDate.order ≤ through.order then do
    let trading ← calendar.tradingDay cutoffDate
    if trading then
      let times ← calendar.openClose cutoffDate
      reject (times.1 < plan.cutoff ∧ plan.cutoff < times.2)
        "observation coverage cannot resolve intraday expiry from daily bars"
    else pure ()
  else pure ()

/-- `by_date[session.date]`, with its session. -/
def barOf (bars : List CompletedDailyBar) (session : EligibleSession) :
    Except PlanError (EligibleSession × CompletedDailyBar) :=
  match Dicts.get? CompletedDailyBar.sessionDate bars session.date with
  | some bar => pure (session, bar)
  | none => throw (.valueError "observation coverage has missing completed sessions")

/-- A bar that came too early, or whose quality is in doubt. -/
def unreliable (item : EligibleSession × CompletedDailyBar) : Bool :=
  disqualifyingQuality item.2.qualityFlags || decide (item.2.retrievedAt < item.1.close) ||
    decide (item.2.evidenceCutoffAt < item.1.close)

/-- The eligible bars with their sessions. -/
def eligibleBars (calendar : ObservationCalendar) (bars : List CompletedDailyBar)
    (startDate cutoffDate through : Date) :
    Except PlanError (List (EligibleSession × CompletedDailyBar)) := do
  let endDate := if cutoffDate.order < through.order then cutoffDate else through
  let expected ← calendar.expected plan.validFrom plan.cutoff startDate endDate
  reject (expected = []) "observation coverage has no fully eligible completed sessions"
  let eligible ← expected.mapM (barOf bars)
  reject (eligible.any unreliable = true)
    "observation coverage has incomplete or unreliable bars"
  pure eligible

/-- `observe_prior_plan`. -/
def observePriorPlan (calendar : ObservationCalendar) (bars : List CompletedDailyBar)
    (through : Date) : Except PlanError PlanObservation := do
  plan.checkBars calendar bars through
  let startDate ← calendar.localDate plan.validFrom
  let cutoffDate ← calendar.localDate plan.cutoff
  plan.checkExpiry calendar cutoffDate through
  let eligible ← plan.eligibleBars calendar bars startDate cutoffDate through
  let state ← eligible.foldlM plan.observeBar PathState.initial
  let observation : PlanObservation := {
    planId := plan.planId
    observedThrough := through
    outcomes := outcomes state (decide (cutoffDate.order ≤ through.order))
    observationReferencePrice := plan.entry
    observationReferenceEvidenceId := plan.entryZone.upper.evidenceId
    entryZoneObservedAt := state.entryAt
    invalidationObservedAt := state.stopAt
    targetObservedAt := state.targetAt
    mfe := state.mfe
    mae := state.mae
    evidenceIds := eligible.map fun item => item.2.evidenceId }
  observation.coherentPath
  pure observation

end TradePlanDraft

/-! ## More bars -/

/-- What is known stays known. -/
def Persists {α : Type} (old new : Option α) : Prop := ∀ value, old = some value → new = some value

/-- A number that is there stays, and is replaced by one it is related to. -/
def Moves (R : ℚ → ℚ → Prop) (old new : Option Decimal) : Prop :=
  ∀ d, old = some d → ∃ d', new = some d' ∧ R d.value d'.value

theorem Moves.refl {R : ℚ → ℚ → Prop} (hrefl : ∀ x, R x x) (old : Option Decimal) :
    Moves R old old := fun d hd => ⟨d, hd, hrefl _⟩

theorem Moves.trans {R : ℚ → ℚ → Prop} (htrans : ∀ x y z, R x y → R y z → R x z)
    {a b c : Option Decimal} (hab : Moves R a b) (hbc : Moves R b c) : Moves R a c := by
  intro d hd
  obtain ⟨d', hd', hfirst⟩ := hab d hd
  obtain ⟨d'', hd'', hsecond⟩ := hbc d' hd'
  exact ⟨d'', hd'', htrans _ _ _ hfirst hsecond⟩

theorem moves_higher (old : Option Decimal) (new : Decimal) :
    Moves (· ≤ ·) old (some (higher old new)) := by
  intro d hd
  refine ⟨_, rfl, ?_⟩
  rw [hd, higher]
  split
  · next hless => exact (Decimal.less_iff.mp hless).le
  · exact le_refl _

theorem moves_lower (old : Option Decimal) (new : Decimal) :
    Moves (· ≥ ·) old (some (lower old new)) := by
  intro d hd
  refine ⟨_, rfl, ?_⟩
  rw [hd, lower, Decimal.least]
  split
  · next hless => exact (Decimal.less_iff.mp hless).le
  · exact le_refl _

theorem persists_firstHit (old : Option UtcDatetime) (hit : Bool) (confirmedAt : UtcDatetime) :
    Persists old (firstHit old hit confirmedAt) := by
  intro t ht
  rw [firstHit, if_neg, ht]
  intro hfirst
  rw [hfirst.2] at ht
  cases ht

namespace PathState

/-- Nothing that was seen is taken back. -/
structure Extends (earlier later : PathState) : Prop where
  entry : Persists earlier.entryAt later.entryAt
  stop : Persists earlier.stopAt later.stopAt
  target : Persists earlier.targetAt later.targetAt
  mfe : Moves (· ≤ ·) earlier.mfe later.mfe
  mae : Moves (· ≥ ·) earlier.mae later.mae
  ambiguous : earlier.ambiguous = true → later.ambiguous = true

theorem Extends.refl (state : PathState) : Extends state state where
  entry _ := id
  stop _ := id
  target _ := id
  mfe := Moves.refl le_refl _
  mae := Moves.refl (R := (· ≥ ·)) le_refl _
  ambiguous := id

theorem Extends.trans {a b c : PathState} (hab : Extends a b) (hbc : Extends b c) : Extends a c where
  entry t ht := hbc.entry t (hab.entry t ht)
  stop t ht := hbc.stop t (hab.stop t ht)
  target t ht := hbc.target t (hab.target t ht)
  mfe := Moves.trans (R := (· ≤ ·)) (fun _ _ _ => le_trans) hab.mfe hbc.mfe
  mae := Moves.trans (R := (· ≥ ·)) (fun _ _ _ => ge_trans) hab.mae hbc.mae
  ambiguous h := hbc.ambiguous (hab.ambiguous h)

end PathState

namespace TradePlanDraft

variable {plan : TradePlanDraft}

/-- **What one bar does**: it adds to what was seen. -/
theorem observeBar_extends {state next : PathState} {item : EligibleSession × CompletedDailyBar}
    (h : plan.observeBar state item = .ok next) : state.Extends next := by
  unfold observeBar at h
  dsimp only at h
  split at h
  · cases h
    exact .refl state
  obtain ⟨high, _, h⟩ := bind_eq_ok.mp h
  obtain ⟨low, _, h⟩ := bind_eq_ok.mp h
  have hentry : Persists state.entryAt (some (state.entryAt.getD item.1.close)) := by
    intro t ht
    rw [ht]
    rfl
  split at h
  · cases h
    exact ⟨hentry, fun _ => id, fun _ => id, moves_higher _ _, moves_lower _ _, fun _ => rfl⟩
  · cases h
    exact ⟨hentry, persists_firstHit _ _ _, persists_firstHit _ _ _, moves_higher _ _,
      moves_lower _ _, id⟩

/-- What one bar does, a run of bars does. -/
theorem observeBars_extends {bars : List (EligibleSession × CompletedDailyBar)}
    {state final : PathState} (h : bars.foldlM plan.observeBar state = .ok final) :
    state.Extends final :=
  foldlM_rel PathState.Extends.refl PathState.Extends.trans (fun _ _ _ => observeBar_extends) h

/-- The path of the first of the bars is extended by that of all of them. -/
theorem extends_of_bars {first all : List (EligibleSession × CompletedDailyBar)}
    (hbars : first <+: all) {initial earlier later : PathState}
    (hfirst : first.foldlM plan.observeBar initial = .ok earlier)
    (hall : all.foldlM plan.observeBar initial = .ok later) : earlier.Extends later := by
  obtain ⟨rest, hrest⟩ := hbars
  rw [← hrest, List.foldlM_append] at hall
  obtain ⟨middle, hmiddle, hlast⟩ := bind_eq_ok.mp hall
  rw [hfirst] at hmiddle
  cases hmiddle
  exact observeBars_extends hlast

/-- An outcome other than that there was no entry stays. -/
theorem outcomes_persist {earlier later : PathState} (h : earlier.Extends later)
    {ended endedLater : Bool} (hended : ended = true → endedLater = true)
    {outcome : ObservationOutcome} (hne : outcome ≠ .entryZoneNotObserved)
    (hmem : outcome ∈ outcomes earlier ended) : outcome ∈ outcomes later endedLater := by
  have hkept {old new : Option UtcDatetime} (hpersists : Persists old new) (hold : old ≠ none) :
      new ≠ none := by
    obtain ⟨t, ht⟩ := Option.ne_none_iff_exists'.mp hold
    rw [hpersists t ht]
    exact Option.some_ne_none t
  unfold outcomes at hmem ⊢
  simp only [List.mem_append, List.mem_singleton] at hmem ⊢
  rcases hmem with (((hentry | hstop) | htarget) | hambiguous) | hwindow
  · split at hentry
    · exact absurd hentry hne
    · next hseen =>
      rw [if_neg (hkept h.entry hseen)]
      exact Or.inl (Or.inl (Or.inl (Or.inl hentry)))
  · split at hstop
    · next hseen =>
      rw [if_pos (hkept h.stop hseen)]
      exact Or.inl (Or.inl (Or.inl (Or.inr hstop)))
    · cases hstop
  · split at htarget
    · next hseen =>
      rw [if_pos (hkept h.target hseen)]
      exact Or.inl (Or.inl (Or.inr htarget))
    · cases htarget
  · split at hambiguous
    · next hseen =>
      rw [if_pos (h.ambiguous hseen)]
      exact Or.inl (Or.inr hambiguous)
    · cases hambiguous
  · split at hwindow
    · next hseen =>
      rw [if_pos (hended hseen)]
      exact Or.inr hwindow
    · cases hwindow

end TradePlanDraft

/-! ## More sessions -/

namespace ObservationCalendar

variable {calendar : ObservationCalendar} {validFrom cutoff : UtcDatetime}

/-- The sessions up to an earlier end come first. -/
theorem prefix_of_sessionsFrom {end₁ end₂ : Date} (hend : end₁.order ≤ end₂.order) :
    ∀ {fuel₁ fuel₂ : Nat} {day : Date} {first all : List EligibleSession}, fuel₁ ≤ fuel₂ →
      calendar.sessionsFrom validFrom cutoff end₁ fuel₁ day = .ok first →
      calendar.sessionsFrom validFrom cutoff end₂ fuel₂ day = .ok all → first <+: all
  | 0, _, _, first, all, _, hfirst, _ => by
    cases hfirst
    exact List.nil_prefix
  | fuel₁ + 1, 0, _, _, _, hfuel, _, _ => absurd hfuel (Nat.not_succ_le_zero _)
  | fuel₁ + 1, fuel₂ + 1, day, first, all, hfuel, hfirst, hall => by
    rw [sessionsFrom] at hfirst hall
    by_cases hday : day.order ≤ end₁.order
    · rw [if_pos hday] at hfirst
      rw [if_pos (hday.trans hend)] at hall
      obtain ⟨here, hhere, hfirst⟩ := bind_eq_ok.mp hfirst
      obtain ⟨here', hhere', hall⟩ := bind_eq_ok.mp hall
      rw [hhere] at hhere'
      cases hhere'
      cases hnext : day.next with
      | none =>
        rw [hnext] at hfirst
        cases hfirst
      | some next =>
        rw [hnext] at hfirst hall
        obtain ⟨rest₁, hrest₁, hfirst⟩ := bind_eq_ok.mp hfirst
        obtain ⟨rest₂, hrest₂, hall⟩ := bind_eq_ok.mp hall
        cases hfirst
        cases hall
        exact (List.prefix_append_right_inj here).mpr
          (prefix_of_sessionsFrom hend (Nat.le_of_succ_le_succ hfuel) hrest₁ hrest₂)
    · rw [if_neg hday] at hfirst
      cases hfirst
      exact List.nil_prefix

theorem sessionOn_date {day : Date} {sessions : List EligibleSession}
    (h : calendar.sessionOn validFrom cutoff day = .ok sessions) :
    ∀ session ∈ sessions, session.date = day := by
  intro session hsession
  obtain ⟨trading, _, h⟩ := bind_eq_ok.mp h
  split at h
  · obtain ⟨times, _, h⟩ := bind_eq_ok.mp h
    cases h
    split at hsession
    · rw [List.mem_singleton.mp hsession]
    · cases hsession
  · cases h
    cases hsession

/-- No session is after the end. -/
theorem date_le_of_sessionsFrom {endDate : Date} :
    ∀ {fuel : Nat} {day : Date} {sessions : List EligibleSession},
      calendar.sessionsFrom validFrom cutoff endDate fuel day = .ok sessions →
        ∀ session ∈ sessions, session.date.order ≤ endDate.order
  | 0, _, _, h, session, hsession => by
    cases h
    cases hsession
  | fuel + 1, day, sessions, h, session, hsession => by
    rw [sessionsFrom] at h
    split at h
    · next hday =>
      obtain ⟨here, hhere, h⟩ := bind_eq_ok.mp h
      cases hnext : day.next with
      | none =>
        rw [hnext] at h
        cases h
      | some next =>
        rw [hnext] at h
        obtain ⟨rest, hrest, h⟩ := bind_eq_ok.mp h
        cases h
        rcases List.mem_append.mp hsession with hmem | hmem
        · rw [sessionOn_date hhere session hmem]
          exact hday
        · exact date_le_of_sessionsFrom hrest session hmem
    · cases h
      cases hsession

end ObservationCalendar

namespace TradePlanDraft

variable {plan : TradePlanDraft} {calendar : ObservationCalendar}

/-- The bars of the sessions up to a day. -/
def barsThrough (bars : List CompletedDailyBar) (day : Date) : List CompletedDailyBar :=
  bars.filter fun bar => decide (bar.sessionDate.order ≤ day.order)

theorem barOf_barsThrough {bars : List CompletedDailyBar} {day : Date} {session : EligibleSession}
    (h : session.date.order ≤ day.order) :
    barOf (barsThrough bars day) session = barOf bars session := by
  unfold barOf barsThrough
  rw [Dicts.get?_filter]
  intro bar _ hdate
  rw [hdate]
  exact decide_eq_true h

/-- The eligible bars through an earlier day come first. -/
theorem prefix_of_eligibleBars {bars : List CompletedDailyBar} {startDate cutoffDate d₁ d₂ : Date}
    (hdays : d₁.Before d₂) {first all : List (EligibleSession × CompletedDailyBar)}
    (hfirst : plan.eligibleBars calendar (barsThrough bars d₁) startDate cutoffDate d₁ = .ok first)
    (hall : plan.eligibleBars calendar bars startDate cutoffDate d₂ = .ok all) :
    first <+: all := by
  obtain ⟨sessions₁, hsessions₁, hfirst⟩ := bind_eq_ok.mp hfirst
  obtain ⟨_, _, hfirst⟩ := bind_eq_ok.mp hfirst
  obtain ⟨eligible₁, hbars₁, hfirst⟩ := bind_eq_ok.mp hfirst
  obtain ⟨_, _, hfirst⟩ := bind_eq_ok.mp hfirst
  cases hfirst
  obtain ⟨sessions₂, hsessions₂, hall⟩ := bind_eq_ok.mp hall
  obtain ⟨_, _, hall⟩ := bind_eq_ok.mp hall
  obtain ⟨eligible₂, hbars₂, hall⟩ := bind_eq_ok.mp hall
  obtain ⟨_, _, hall⟩ := bind_eq_ok.mp hall
  cases hall
  have hdays : d₁.order < d₂.order := hdays
  -- The window ends no earlier for the later day, and for the first not after its own.
  have hend : (if cutoffDate.order < d₁.order then cutoffDate else d₁).order ≤
      (if cutoffDate.order < d₂.order then cutoffDate else d₂).order := by
    split <;> split <;> omega
  have hown : (if cutoffDate.order < d₁.order then cutoffDate else d₁).order ≤ d₁.order := by
    split <;> omega
  obtain ⟨rest, hrest⟩ := ObservationCalendar.prefix_of_sessionsFrom hend
    (by omega) hsessions₁ hsessions₂
  rw [← hrest] at hbars₂
  refine prefix_of_mapM ?_ hbars₁ hbars₂
  intro session hsession
  exact barOf_barsThrough
    ((ObservationCalendar.date_le_of_sessionsFrom hsessions₁ session hsession).trans hown)

end TradePlanDraft

/-! ## Stability -/

/-- A later observation takes nothing of an earlier one back. -/
structure PlanObservation.Extends (earlier later : PlanObservation) : Prop where
  entry : Persists earlier.entryZoneObservedAt later.entryZoneObservedAt
  invalidation : Persists earlier.invalidationObservedAt later.invalidationObservedAt
  target : Persists earlier.targetObservedAt later.targetObservedAt
  outcomes : ∀ outcome ∈ earlier.outcomes, outcome ≠ .entryZoneNotObserved →
    outcome ∈ later.outcomes
  mfe : Moves (· ≤ ·) earlier.mfe later.mfe
  mae : Moves (· ≥ ·) earlier.mae later.mae
  evidence : earlier.evidenceIds <+: later.evidenceIds

namespace TradePlanDraft

/-- **An observation is stable**: one through a later day, of the bars since, extends it. -/
theorem observePriorPlan_stable (plan : TradePlanDraft) (calendar : ObservationCalendar)
    (bars : List CompletedDailyBar) (d₁ d₂ : Date) (earlier later : PlanObservation)
    (hdays : d₁.Before d₂)
    (hearlier : plan.observePriorPlan calendar (barsThrough bars d₁) d₁ = .ok earlier)
    (hlater : plan.observePriorPlan calendar bars d₂ = .ok later) : earlier.Extends later := by
  obtain ⟨_, _, hearlier⟩ := bind_eq_ok.mp hearlier
  obtain ⟨startDate, hstart, hearlier⟩ := bind_eq_ok.mp hearlier
  obtain ⟨cutoffDate, hcutoff, hearlier⟩ := bind_eq_ok.mp hearlier
  obtain ⟨_, _, hearlier⟩ := bind_eq_ok.mp hearlier
  obtain ⟨eligible₁, heligible₁, hearlier⟩ := bind_eq_ok.mp hearlier
  obtain ⟨state₁, hstate₁, hearlier⟩ := bind_eq_ok.mp hearlier
  obtain ⟨_, _, hearlier⟩ := bind_eq_ok.mp hearlier
  cases hearlier
  obtain ⟨_, _, hlater⟩ := bind_eq_ok.mp hlater
  obtain ⟨startDate', hstart', hlater⟩ := bind_eq_ok.mp hlater
  obtain ⟨cutoffDate', hcutoff', hlater⟩ := bind_eq_ok.mp hlater
  obtain ⟨_, _, hlater⟩ := bind_eq_ok.mp hlater
  obtain ⟨eligible₂, heligible₂, hlater⟩ := bind_eq_ok.mp hlater
  obtain ⟨state₂, hstate₂, hlater⟩ := bind_eq_ok.mp hlater
  obtain ⟨_, _, hlater⟩ := bind_eq_ok.mp hlater
  cases hlater
  rw [hstart] at hstart'
  rw [hcutoff] at hcutoff'
  cases hstart'
  cases hcutoff'
  have hbars := prefix_of_eligibleBars hdays heligible₁ heligible₂
  have hpath := extends_of_bars hbars hstate₁ hstate₂
  have hdays : d₁.order < d₂.order := hdays
  refine ⟨hpath.entry, hpath.stop, hpath.target, ?_, hpath.mfe, hpath.mae, ?_⟩
  · intro outcome hmem hne
    refine outcomes_persist hpath ?_ hne hmem
    intro hended
    have hended : cutoffDate.order ≤ d₁.order := of_decide_eq_true hended
    exact decide_eq_true (by omega)
  · exact hbars.map _

/-- Sessions from 14:30 to 21:00 on each day of a January from 1970 on. -/
def sampleSessions : ObservationCalendar where
  isTradingDay _ := .ok true
  sessionOpenClose day :=
    .ok ((day.day - 1 : Int) * Calendar.microsPerDay + 52200000000,
      (day.day - 1 : Int) * Calendar.microsPerDay + 75600000000)
  newYorkTime := sampleCalendar.newYorkTime
  newYorkDate := Calendar.dateOf

theorem newYear_valid (day : Nat) (h : 1 ≤ day ∧ day ≤ 31) : 1 ≤ 1970 ∧ 1970 ≤ 9999 ∧ 1 ≤ 1 ∧
    1 ≤ 12 ∧ 1 ≤ day ∧ day ≤ Calendar.daysInMonth 1970 1 :=
  ⟨by decide, by decide, by decide, by decide, h.1, h.2⟩

/-- A day of that January. -/
def sampleDay (day : Nat) (h : 1 ≤ day ∧ day ≤ 31) : Date := ⟨1970, 1, day, newYear_valid day h⟩

theorem dollars_order {low high : Nat} (hlow : low ≠ 0) (hhigh : high ≠ 0) (h : low ≤ high) :
    PricesConsistent (samplePrice low hlow).value (samplePrice high hhigh).value
      (samplePrice low hlow).value (samplePrice high hhigh).value := by
  have hdollars {m n : Nat} (hmn : m ≤ n) :
      (Decimal.mk false m 0).atMost ⟨false, n, 0⟩ = true := by
    simpa [Decimal.atMost, Decimal.scaled] using hmn
  exact ⟨⟨hdollars (Nat.le_refl _), hdollars h⟩, ⟨hdollars h, hdollars (Nat.le_refl _)⟩⟩

theorem sampleBar_ordered : (0 : UtcDatetime) ≤ 31 * Calendar.microsPerDay ∧
    (0 : UtcDatetime) ≤ 31 * Calendar.microsPerDay := by decide

/-- A bar that opens at its low and closes at its high. -/
def sampleBar (day : Nat) (hday : 1 ≤ day ∧ day ≤ 31) (low high : Nat)
    (hlow : low ≠ 0) (hhigh : high ≠ 0) (h : low ≤ high) : CompletedDailyBar where
  instrumentId := (samplePrice 1 Nat.one_ne_zero).instrumentId
  sessionDate := sampleDay day hday
  sourceTimestamp := 0
  opened := (samplePrice low hlow).value
  high := (samplePrice high hhigh).value
  low := (samplePrice low hlow).value
  close := (samplePrice high hhigh).value
  volume := none
  session := .completedSession
  provider := (samplePrice 1 Nat.one_ne_zero).provider
  feed := (samplePrice 1 Nat.one_ne_zero).feed
  coverage := .singleExchange
  adjustment := ⟨"raw", by decide⟩
  retrievedAt := 31 * Calendar.microsPerDay
  evidenceCutoffAt := 31 * Calendar.microsPerDay
  evidenceId := (samplePrice 1 Nat.one_ne_zero).evidenceId
  qualityFlags := ⟨[], noFlags_legal⟩
  completed := rfl
  prices := dollars_order hlow hhigh h
  ordered := sampleBar_ordered

/-- The price enters the zone on the first day and falls through the stop on the second. -/
def sampleBars : List CompletedDailyBar :=
  [sampleBar 1 ⟨Nat.le_refl 1, Nat.le_add_left 1 30⟩ 98 102 (Nat.succ_ne_zero 97)
     (Nat.succ_ne_zero 101) (Nat.le_add_left 98 4),
   sampleBar 2 ⟨Nat.le_add_left 1 1, Nat.le_add_left 2 29⟩ 90 94 (Nat.succ_ne_zero 89)
     (Nat.succ_ne_zero 93) (Nat.le_add_left 90 4)]

theorem observePriorPlan_stable_sample : ∃ plan earlier later,
    sampleInput.draft sampleCalendar .ascii 0 true = .ok plan ∧
      plan.observePriorPlan sampleSessions (barsThrough sampleBars (sampleDay 1 (by decide)))
        (sampleDay 1 (by decide)) = .ok earlier ∧
      plan.observePriorPlan sampleSessions sampleBars (sampleDay 2 (by decide)) = .ok later ∧
      earlier.outcomes = [.entryZoneObserved] ∧
      later.outcomes = [.entryZoneObserved, .invalidationObserved] ∧ earlier.Extends later := by
  have hbuilt : ∃ plan, sampleInput.draft sampleCalendar .ascii 0 true = .ok plan ∧
      ((plan.observePriorPlan sampleSessions (barsThrough sampleBars (sampleDay 1 (by decide)))
          (sampleDay 1 (by decide))).toOption.map PlanObservation.outcomes,
        (plan.observePriorPlan sampleSessions sampleBars (sampleDay 2 (by decide))).toOption.map
          PlanObservation.outcomes) =
        (some [.entryZoneObserved], some [.entryZoneObserved, .invalidationObserved]) :=
    exists_of_map_toOption (by decide)
  obtain ⟨plan, hplan, hruns⟩ := hbuilt
  obtain ⟨hfirst, hsecond⟩ := Prod.mk.inj hruns
  obtain ⟨earlier, hearlier, houtcomes⟩ := exists_of_map_toOption hfirst
  obtain ⟨later, hlater, hlast⟩ := exists_of_map_toOption hsecond
  exact ⟨plan, earlier, later, hplan, hearlier, hlater, houtcomes, hlast,
    observePriorPlan_stable plan sampleSessions sampleBars _ _ earlier later (by decide)
      hearlier hlater⟩

end TradePlanDraft

end FinanceResearch.Plans
