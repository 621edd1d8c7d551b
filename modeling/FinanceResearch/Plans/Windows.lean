import FinanceResearch.Domain.Models

/-!
# Run windows

`resolve_run_window` of `domain/market_calendar.py`, for a given market date.

Mirroring notes vs the source:
- The sessions of the exchange and the local time of New York are a `TradingCalendar`;
  its session times are UTC, which the bridge to `exchange_calendars` makes them.
-/

namespace FinanceResearch.Plans

open Calendar (Date UtcDatetime)

structure TradingCalendar where
  isTradingDay : Date → Except String Bool
  sessionOpenClose : Date → Except String (UtcDatetime × UtcDatetime)
  /-- The time of day in New York, in microseconds. -/
  newYorkTime : UtcDatetime → Nat

structure RunWindowDecision where
  marketDate : Date
  shouldRun : Bool
  deliveryStatus : Option DeliveryStatus
  allowNormalPlan : Bool
  forceReviewRequired : Bool
  publishMissedReport : Bool
  missedRecordOnly : Bool
  reasonCode : String
  deriving DecidableEq

/-- `time(hour, minute)`, in microseconds. -/
def timeOfDay (hour minute : Nat) : Nat := (hour * 60 + minute) * 60000000

/-- A decision not to run. -/
def noRun (marketDate : Date) (reasonCode : String) : RunWindowDecision :=
  ⟨marketDate, false, none, false, false, false, false, reasonCode⟩

/-- The decision on a trading day, by the time. -/
def classifyTime (now : UtcDatetime) (localTime : Nat) (regularClose : UtcDatetime)
    (marketDate : Date) (invocation : InvocationType) : RunWindowDecision :=
  if localTime < timeOfDay 8 45 ∧ invocation = .scheduled then noRun marketDate "TOO_EARLY"
  else if regularClose ≤ now then
    ⟨marketDate, false, some .missedWindow, false, false, false, true, "MISSED_WINDOW"⟩
  else if timeOfDay 9 30 ≤ localTime then
    ⟨marketDate, true, some .missedWindow, false, false, true, false, "MISSED_WINDOW"⟩
  else if invocation = .manual then
    ⟨marketDate, true, some .manual, true, false, false, false, "MANUAL"⟩
  else if localTime < timeOfDay 9 0 then
    ⟨marketDate, true, some .onTime, true, false, false, false, "ON_TIME"⟩
  else if localTime < timeOfDay 9 25 then
    ⟨marketDate, true, some .delayed, false, false, false, false, "DELAYED"⟩
  else ⟨marketDate, true, some .delayed, true, true, false, false, "DELAYED"⟩

/-- `MARKET_CALENDAR_UNAVAILABLE: market calendar unavailable`. -/
def calendarUnavailable : String :=
  ErrorCode.marketCalendarUnavailable.value ++ ": market calendar unavailable"

/-- `resolve_run_window`. -/
def resolveRunWindow (now : UtcDatetime) (calendar : TradingCalendar) (marketDate : Date)
    (invocation : InvocationType) : Except String RunWindowDecision :=
  match calendar.isTradingDay marketDate with
  | .error _ => .error calendarUnavailable
  | .ok false => .ok (noRun marketDate "NON_TRADING_DAY")
  | .ok true =>
    match calendar.sessionOpenClose marketDate with
    | .error _ => .error calendarUnavailable
    | .ok (_, regularClose) =>
      .ok (classifyTime now (calendar.newYorkTime now) regularClose marketDate invocation)

end FinanceResearch.Plans
