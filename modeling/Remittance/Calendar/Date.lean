/-!
# Dates

Dates of the Gregorian calendar in the years 1 to 9999. `dayNumber` counts days from the first of
January of the year 1, which is day 1, so it orders dates and lets days run past the end of a
month.
-/

namespace Remittance.Calendar

/-- The year has a 29th of February. -/
def isLeap (year : Nat) : Bool :=
  year % 4 == 0 && (year % 100 != 0 || year % 400 == 0)

/-- The number of days of a month, none for a month outside the year. -/
def daysInMonth (year month : Nat) : Nat :=
  match month with
  | 1 | 3 | 5 | 7 | 8 | 10 | 12 => 31
  | 4 | 6 | 9 | 11 => 30
  | 2 => if isLeap year then 29 else 28
  | _ => 0

/-- The number of days in the years before this one. -/
def daysBeforeYear (year : Nat) : Nat :=
  let full := year - 1
  full * 365 + full / 4 - full / 100 + full / 400

/-- The number of days in the months of a year before this one. -/
def daysBeforeMonth (year : Nat) : Nat → Nat
  | 0 => 0
  | month + 1 => daysBeforeMonth year month + daysInMonth year month

/-- The number of the day, counted from the first of January of the year 1. -/
def dayNumber (year month day : Nat) : Nat :=
  daysBeforeYear year + daysBeforeMonth year month + day

/-- The number of the last day of the year 9999. -/
def lastDayNumber : Nat := 3652059

/-- The day exists in the calendar. -/
def IsDay (year month day : Nat) : Prop :=
  (1 ≤ year ∧ year ≤ 9999) ∧ (1 ≤ month ∧ month ≤ 12) ∧ 1 ≤ day ∧ day ≤ daysInMonth year month

/-- `IsDay` is decidable by comparing numbers. -/
instance (year month day : Nat) : Decidable (IsDay year month day) :=
  inferInstanceAs (Decidable (_ ∧ _))

/-- A date of the calendar. -/
structure Date where
  year : Nat
  month : Nat
  day : Nat
  isDay : IsDay year month day
deriving DecidableEq

namespace Date

/-- The date with this year, month, and day, if it exists. -/
def of? (year month day : Nat) : Option Date :=
  if h : IsDay year month day then some ⟨year, month, day, h⟩ else none

/-- The number of the date's day. -/
def number (date : Date) : Nat :=
  dayNumber date.year date.month date.day

/-- The day after a date, unless the calendar ends. -/
def next? (date : Date) : Option Date :=
  of? date.year date.month (date.day + 1) <|> of? date.year (date.month + 1) 1 <|>
    of? (date.year + 1) 1 1

/-- The day before a date, unless the calendar begins with it. -/
def previous? (date : Date) : Option Date :=
  let month := date.month - 1
  of? date.year date.month (date.day - 1) <|>
    of? date.year month (daysInMonth date.year month) <|> of? (date.year - 1) 12 31

end Date

end Remittance.Calendar
