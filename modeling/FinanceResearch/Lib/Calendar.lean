import FinanceResearch.Lib.Numerals

/-!
# Civil dates and UTC timestamps

`datetime.date` as a year, a month and a day that form a date, and a
zero-offset `datetime.datetime` as microseconds since 1970-01-01T00:00:00,
with the ISO 8601 texts Python prints for them. Comparing timestamps is
comparing the microseconds, so `UtcDatetime` is an integer.
-/

namespace Calendar

def isLeap (year : Nat) : Bool := year % 4 == 0 && (year % 100 != 0 || year % 400 == 0)

def daysInMonth (year month : Nat) : Nat :=
  if month = 2 then (if isLeap year then 29 else 28)
  else if month = 4 ∨ month = 6 ∨ month = 9 ∨ month = 11 then 30
  else 31

/-- `datetime.date`: only dates that exist can be built. -/
structure Date where
  year : Nat
  month : Nat
  day : Nat
  valid : 1 ≤ year ∧ year ≤ 9999 ∧ 1 ≤ month ∧ month ≤ 12 ∧ 1 ≤ day ∧ day ≤ daysInMonth year month
  deriving DecidableEq

/-- `date.isoformat()`. -/
def Date.isoformat (d : Date) : String :=
  String.ofList (Numerals.padded 4 d.year ++ '-' :: Numerals.padded 2 d.month ++
    '-' :: Numerals.padded 2 d.day)

/-- Dates compare by year, month and day, which is how these numbers compare. -/
def Date.order (d : Date) : Nat := (d.year * 16 + d.month) * 32 + d.day

/-- `d < e`. -/
def Date.Before (d e : Date) : Prop := d.order < e.order

instance Date.instDecidableBefore (d e : Date) : Decidable (d.Before e) :=
  inferInstanceAs (Decidable (_ < _))

theorem daysInMonth_le (year month : Nat) : daysInMonth year month ≤ 31 := by
  unfold daysInMonth
  split
  · split <;> omega
  · split <;> omega

theorem one_le_daysInMonth (year month : Nat) : 1 ≤ daysInMonth year month := by
  unfold daysInMonth
  split
  · split <;> omega
  · split <;> omega

theorem Date.order_injective {d e : Date} (h : d.order = e.order) : d = e := by
  obtain ⟨y, m, n, hd⟩ := d
  obtain ⟨y', m', n', he⟩ := e
  have hn := le_trans hd.2.2.2.2.2 (daysInMonth_le y m)
  have hn' := le_trans he.2.2.2.2.2 (daysInMonth_le y' m')
  simp only [order] at h
  have hy : y = y' := by omega
  have hm : m = m' := by omega
  have hday : n = n' := by omega
  subst hy hm hday
  rfl

/-- `d + timedelta(days=1)`; `none` is the overflow after the last date. -/
def Date.next (d : Date) : Option Date :=
  if hday : d.day + 1 ≤ daysInMonth d.year d.month then
    some ⟨d.year, d.month, d.day + 1, d.valid.1, d.valid.2.1, d.valid.2.2.1, d.valid.2.2.2.1,
      Nat.le_add_left 1 d.day, hday⟩
  else if hmonth : d.month + 1 ≤ 12 then
    some ⟨d.year, d.month + 1, 1, d.valid.1, d.valid.2.1, Nat.le_add_left 1 d.month, hmonth,
      Nat.le_refl 1, one_le_daysInMonth _ _⟩
  else if hyear : d.year + 1 ≤ 9999 then
    some ⟨d.year + 1, 1, 1, Nat.le_add_left 1 d.year, hyear, Nat.le_refl 1, Nat.le_add_left 1 11,
      Nat.le_refl 1, one_le_daysInMonth _ _⟩
  else none

theorem Date.order_next {d e : Date} (h : d.next = some e) : d.order < e.order := by
  have hday := le_trans d.valid.2.2.2.2.2 (daysInMonth_le d.year d.month)
  have hmonth := d.valid.2.2.2.1
  unfold next at h
  split at h
  · cases h
    simp only [order]
    omega
  split at h
  · cases h
    simp only [order]
    omega
  split at h
  · cases h
    simp only [order]
    omega
  · cases h

/-- The first Monday of 2026, which concrete runs are of. -/
theorem firstMonday_valid : 1 ≤ 2026 ∧ 2026 ≤ 9999 ∧ 1 ≤ 1 ∧ 1 ≤ 12 ∧ 1 ≤ 5 ∧
    5 ≤ daysInMonth 2026 1 := by decide

/-- A timezone-aware `datetime` with zero offset, in microseconds since 1970. -/
abbrev UtcDatetime := Int

/-- Microseconds in a day. -/
def microsPerDay : Int := 86400000000

/-- Year, month and day of a day counted from 1970-01-01. -/
def civil (days : Int) : Int × Int × Int :=
  let z := days + 719468
  let era := z / 146097
  let doe := z % 146097
  let yoe := (doe - doe / 1460 + doe / 36524 - doe / 146096) / 365
  let doy := doe - (365 * yoe + yoe / 4 - yoe / 100)
  let mp := (5 * doy + 2) / 153
  let month := if mp < 10 then mp + 3 else mp - 9
  (yoe + era * 400 + (if month ≤ 2 then 1 else 0), month, doy - (153 * mp + 2) / 5 + 1)

/-- `t.date()`; `none` when there is no such date. -/
def dateOf (t : UtcDatetime) : Option Date :=
  let (year, month, day) := civil (t / microsPerDay)
  if h : 1 ≤ year.toNat ∧ year.toNat ≤ 9999 ∧ 1 ≤ month.toNat ∧ month.toNat ≤ 12 ∧
      1 ≤ day.toNat ∧ day.toNat ≤ daysInMonth year.toNat month.toNat then
    some ⟨year.toNat, month.toNat, day.toNat, h⟩
  else none

/-- The date and time of day, `separator` between them, without the offset. -/
def dateTimeText (separator : Char) (t : UtcDatetime) : List Char :=
  let (year, month, day) := civil (t / microsPerDay)
  let micros := (t % microsPerDay).toNat
  let seconds := micros / 1000000
  let fraction := micros % 1000000
  Numerals.padded 4 year.toNat ++ '-' :: Numerals.padded 2 month.toNat ++
    '-' :: Numerals.padded 2 day.toNat ++ separator :: Numerals.padded 2 (seconds / 3600) ++
    ':' :: Numerals.padded 2 (seconds / 60 % 60) ++ ':' :: Numerals.padded 2 (seconds % 60) ++
    (if fraction = 0 then [] else '.' :: Numerals.padded 6 fraction)

/-- `datetime.isoformat()`. -/
def isoformat (t : UtcDatetime) : String :=
  String.ofList (dateTimeText 'T' t ++ ['+', '0', '0', ':', '0', '0'])

/-- `str(datetime)`. -/
def text (t : UtcDatetime) : String :=
  String.ofList (dateTimeText ' ' t ++ ['+', '0', '0', ':', '0', '0'])

/-- The JSON text of a timestamp, `Z` for the zero offset. -/
def jsonText (t : UtcDatetime) : String :=
  String.ofList (dateTimeText 'T' t ++ ['Z'])

example : (dateOf 1787313600123456).map Date.isoformat = some "2026-08-21" := by decide
example : isoformat 1787313600123456 = "2026-08-21T12:00:00.123456+00:00" := by decide

end Calendar
