/-!
# The calendar

Days are counted from 1970-01-01. A year of this count starts in March, so that a leap day is the
last day of its year; 400 such years are an *era* of 146097 days, an era is four centuries, a
century 25 spans of four years, and only the last part of each may be a day longer.
-/

namespace TaskWatch

/-- A day of the Gregorian calendar. -/
structure Date where
  year : Int
  month : Nat
  day : Nat
  deriving DecidableEq, Repr

namespace Date

def isLeap (year : Int) : Bool :=
  year % 4 = 0 ∧ (year % 100 ≠ 0 ∨ year % 400 = 0)

/-- How many days a month has; a month that does not exist has none. -/
def monthLength (year : Int) (month : Nat) : Nat :=
  match month with
  | 1 | 3 | 5 | 7 | 8 | 10 | 12 => 31
  | 4 | 6 | 9 | 11 => 30
  | 2 => if isLeap year then 29 else 28
  | _ => 0

/-- Whether the calendar has this day. -/
def isValid (d : Date) : Bool :=
  1 ≤ d.day ∧ d.day ≤ monthLength d.year d.month

/-- The days of an era. -/
def eraLength : Int := 146097

/-- The number of 1970-01-01 when days are counted from the first of March of year zero. -/
def epochDay : Int := 719468

/-- The days before a month, counted from March, which is month zero. -/
def daysBeforeMonth (m : Nat) : Nat := (153 * m + 2) / 5

/-- The day's number, counted from 1970-01-01. -/
def toDays (d : Date) : Int :=
  let year := if d.month ≤ 2 then d.year - 1 else d.year
  let month := if d.month ≤ 2 then d.month + 9 else d.month - 3
  let era := year / 400
  let y := (year % 400).toNat
  let inEra := 365 * y + y / 4 - y / 100 + daysBeforeMonth month + (d.day - 1)
  eraLength * era + inEra - epochDay

/-- The day with a number. -/
def ofDays (n : Int) : Date :=
  let shifted := n + epochDay
  let era := shifted / eraLength
  let inEra := (shifted % eraLength).toNat
  let century := min (inEra / 36524) 3
  let inCentury := inEra - 36524 * century
  let span := inCentury / 1461
  let inSpan := inCentury - 1461 * span
  let y := min (inSpan / 365) 3
  let inYear := inSpan - 365 * y
  let month := (5 * inYear + 2) / 153
  let day := inYear - daysBeforeMonth month + 1
  let year := 400 * era + (100 * century + 4 * span + y : Nat)
  if month < 10 then ⟨year, month + 3, day⟩ else ⟨year + 1, month - 9, day⟩

end Date

end TaskWatch
