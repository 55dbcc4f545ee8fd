import Remittance.Calendar.Date

/-!
# The order of days

Numbering days agrees with comparing them by year, month, and day of the month
(`dayNumber_lt_iff`), across months of every length and leap years, and so do dates (`Date.le_iff`).
A day past the end of its month has the number of the day that it runs on to in the next month
(`dayNumber_rolled`).
-/

namespace Remittance.Calendar

/-- The first day comes before the second by year, then by month, then by day of the month. -/
def Precedes : Nat × Nat × Nat → Nat × Nat × Nat → Prop :=
  Prod.Lex (· < ·) (Prod.Lex (· < ·) (· < ·))

/-- One day precedes another if the first of year, month, and day to differ is less. -/
theorem precedes_iff {year month day year' month' day' : Nat} :
    Precedes (year, month, day) (year', month', day') ↔
      year < year' ∨ year = year' ∧ (month < month' ∨ month = month' ∧ day < day') := by
  simp [Precedes, Prod.lex_def]

/-- Of two days, one precedes the other unless they are the same. -/
theorem precedes_or_eq_or_precedes (year month day year' month' day' : Nat) :
    Precedes (year, month, day) (year', month', day') ∨
      (year = year' ∧ month = month' ∧ day = day') ∨
        Precedes (year', month', day') (year, month, day) := by
  simp only [precedes_iff]
  omega

/-- Every month has from 28 to 31 days. -/
theorem daysInMonth_bounds (year : Nat) {month : Nat} (h : 1 ≤ month ∧ month ≤ 12) :
    28 ≤ daysInMonth year month ∧ daysInMonth year month ≤ 31 := by
  have hcases : month = 1 ∨ month = 2 ∨ month = 3 ∨ month = 4 ∨ month = 5 ∨ month = 6 ∨
      month = 7 ∨ month = 8 ∨ month = 9 ∨ month = 10 ∨ month = 11 ∨ month = 12 := by omega
  rcases hcases with rfl | rfl | rfl | rfl | rfl | rfl | rfl | rfl | rfl | rfl | rfl | rfl <;>
    simp only [daysInMonth] <;> first | omega | (split <;> omega)

/-- The days of a month come before those of every later month of the year. -/
theorem daysBeforeMonth_le (year : Nat) {month later : Nat} (h : month < later) :
    daysBeforeMonth year month + daysInMonth year month ≤ daysBeforeMonth year later := by
  induction later with
  | zero => omega
  | succ last ih =>
      rw [daysBeforeMonth]
      by_cases hlast : month = last
      · exact Nat.le_of_eq (by rw [hlast])
      · have hle := ih (by omega)
        omega

/-- The days of a year come before those of the next. -/
theorem daysBeforeYear_succ {year : Nat} (h : 1 ≤ year) :
    daysBeforeYear (year + 1) = daysBeforeYear year + daysBeforeMonth year 13 := by
  have hlength : daysBeforeMonth year 13 = if isLeap year then 366 else 365 := by
    simp only [daysBeforeMonth, daysInMonth]
    split <;> rfl
  obtain ⟨full, rfl⟩ : ∃ full, year = full + 1 := ⟨year - 1, by omega⟩
  simp only [hlength, daysBeforeYear, Nat.add_sub_cancel, Nat.succ_div, Nat.dvd_iff_mod_eq_zero]
  -- Whether the year ends a century or four of them decides every case.
  have hcentury : (full + 1) % 100 = 0 → (full + 1) % 4 = 0 := by omega
  have hcycle : (full + 1) % 400 = 0 → (full + 1) % 100 = 0 := by omega
  have hcenturies : full / 100 ≤ full / 4 := by omega
  by_cases h4 : (full + 1) % 4 = 0 <;> by_cases h100 : (full + 1) % 100 = 0 <;>
    by_cases h400 : (full + 1) % 400 = 0 <;> simp [isLeap, h4, h100, h400] at hcentury hcycle ⊢ <;>
    omega

/-- The days of a year come before those of every later year. -/
theorem daysBeforeYear_le {year later : Nat} (hyear : 1 ≤ year) (h : year < later) :
    daysBeforeYear year + daysBeforeMonth year 13 ≤ daysBeforeYear later := by
  induction later with
  | zero => omega
  | succ last ih =>
      by_cases hlast : year = last
      · exact Nat.le_of_eq (by rw [← hlast, daysBeforeYear_succ hyear])
      · have hle := ih (by omega)
        rw [daysBeforeYear_succ (by omega)]
        omega

variable {year month day year' month' day' : Nat}

/-- A day that precedes another has the smaller number. -/
theorem dayNumber_lt_of_precedes (hday : IsDay year month day) (hday' : IsDay year' month' day')
    (h : Precedes (year, month, day) (year', month', day')) :
    dayNumber year month day < dayNumber year' month' day' := by
  obtain ⟨hyear, hmonth, hfirst, hlast⟩ := hday
  obtain ⟨-, -, hfirst', -⟩ := hday'
  simp only [dayNumber]
  rcases precedes_iff.1 h with hlt | ⟨rfl, hlt | ⟨rfl, hlt⟩⟩
  · have hmonths := daysBeforeMonth_le year (show month < 13 by omega)
    have hyears := daysBeforeYear_le hyear.1 hlt
    omega
  · have hmonths := daysBeforeMonth_le year hlt
    omega
  · omega

/-- The numbers of two days are in the order of the days. -/
theorem dayNumber_lt_iff (hday : IsDay year month day) (hday' : IsDay year' month' day') :
    dayNumber year month day < dayNumber year' month' day' ↔
      Precedes (year, month, day) (year', month', day') := by
  refine ⟨fun h => ?_, dayNumber_lt_of_precedes hday hday'⟩
  rcases precedes_or_eq_or_precedes year month day year' month' day' with
    hprecedes | ⟨rfl, rfl, rfl⟩ | hprecedes
  · exact hprecedes
  · exact absurd h (Nat.lt_irrefl _)
  · exact absurd h (Nat.lt_asymm (dayNumber_lt_of_precedes hday' hday hprecedes))

/-- No day of the calendar lies outside its numbers. -/
theorem dayNumber_bounds (h : IsDay year month day) :
    1 ≤ dayNumber year month day ∧ dayNumber year month day ≤ lastDayNumber := by
  have hlast : IsDay 9999 12 31 := by decide
  have hnumber : dayNumber 9999 12 31 = lastDayNumber := by decide
  refine ⟨?_, ?_⟩
  · have hfirst := h.2.2.1
    simp only [dayNumber]
    omega
  · rw [← hnumber]
    rcases precedes_or_eq_or_precedes year month day 9999 12 31 with
      hprecedes | ⟨rfl, rfl, rfl⟩ | hprecedes
    · exact Nat.le_of_lt (dayNumber_lt_of_precedes h hlast hprecedes)
    · exact Nat.le_refl _
    · obtain ⟨hyear, hmonth, -, hend⟩ := h
      have hlength := (daysInMonth_bounds year hmonth).2
      rw [precedes_iff] at hprecedes
      omega

/-- Dates are in the order of the days that they name. -/
instance : LE Date where
  le first second :=
    first = second ∨
      Precedes (first.year, first.month, first.day) (second.year, second.month, second.day)

/-- The numbers of two dates are in the order of the dates. -/
theorem Date.le_iff {first second : Date} : first ≤ second ↔ first.number ≤ second.number := by
  show first = second ∨ Precedes _ _ ↔ _
  have hlt := dayNumber_lt_iff first.isDay second.isDay
  have hgt := dayNumber_lt_iff second.isDay first.isDay
  constructor
  · intro h
    rcases h with rfl | hprecedes
    · exact Nat.le_refl _
    · exact Nat.le_of_lt (hlt.2 hprecedes)
  · intro hle
    rcases precedes_or_eq_or_precedes first.year first.month first.day second.year second.month
      second.day with hprecedes | hsame | hprecedes
    · exact .inr hprecedes
    · cases first
      cases second
      exact .inl ((Date.mk.injEq ..).mpr hsame)
    · exact absurd (hgt.2 hprecedes) (Nat.not_lt.2 hle)

/-- Of two dates, one is not after the other. -/
theorem Date.le_total (first second : Date) : first ≤ second ∨ second ≤ first := by
  rw [Date.le_iff, Date.le_iff]
  exact Nat.le_total _ _

/-- A day that comes after a date comes after every earlier date. -/
theorem precedes_of_le {earlier later : Date} (h : earlier ≤ later) {day : Nat × Nat × Nat}
    (hday : Precedes (later.year, later.month, later.day) day) :
    Precedes (earlier.year, earlier.month, earlier.day) day := by
  rcases h with rfl | hbefore
  · exact hday
  · obtain ⟨year, month, day⟩ := day
    rw [precedes_iff] at hbefore hday ⊢
    omega

/-- The day that a day of the month stands for when it may lie past the end of the month, and then
runs on into the next one. -/
def rolled (year month day : Nat) : Nat × Nat × Nat :=
  if day ≤ daysInMonth year month then (year, month, day)
  else (year, month + 1, day - daysInMonth year month)

/-- A day runs on within its year. -/
theorem rolled_year (year month day : Nat) : (rolled year month day).1 = year := by
  unfold rolled
  split <;> rfl

/-- A day of the calendar does not run on. -/
theorem rolled_of_isDay (h : IsDay year month day) : rolled year month day = (year, month, day) :=
  if_pos h.2.2.2

/-- A day up to the 31st of a month runs on to a day of the calendar in the same year. -/
theorem rolled_isDay (hyear : 1 ≤ year ∧ year ≤ 9999) (hmonth : 1 ≤ month ∧ month ≤ 12)
    (hday : 1 ≤ day ∧ day ≤ 31) :
    IsDay (rolled year month day).1 (rolled year month day).2.1 (rolled year month day).2.2 := by
  unfold rolled
  split
  · exact ⟨hyear, hmonth, hday.1, by assumption⟩
  · rename_i hover
    have hbounds := daysInMonth_bounds year hmonth
    have hdecember : month ≠ 12 := by
      rintro rfl
      exact hover hday.2
    have hnext := daysInMonth_bounds year (show 1 ≤ month + 1 ∧ month + 1 ≤ 12 by omega)
    exact ⟨hyear, by simp only; omega, by simp only; omega, by simp only; omega⟩

/-- A day that runs on keeps its number. -/
theorem dayNumber_rolled (year month day : Nat) :
    dayNumber (rolled year month day).1 (rolled year month day).2.1 (rolled year month day).2.2 =
      dayNumber year month day := by
  unfold rolled
  split
  · rfl
  · simp only [dayNumber, daysBeforeMonth]
    omega

end Remittance.Calendar
