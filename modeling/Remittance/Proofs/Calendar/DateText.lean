import Remittance.Calendar.DateText
import Remittance.Proofs.Calendar.Order
import Remittance.Proofs.Text.Digits
import Remittance.Proofs.Text.Pieces

/-!
# Well-formed dates

`Writes` is the written form of a date, said without the reader. A text has it exactly when it is
accepted as a date (`isDateText_iff`), and then comparing it with a date never fails and compares
the day of the calendar that it runs on to (`isFuture_of_writes`). The written form of a date is
accepted and compared as that date, from the first year that is accepted on (`isFuture_rolls_over`).
-/

namespace Remittance.Calendar

/-- The text writes a year from 1900 to 9999 in four digits, a month in two, and a day up to 31 in
two, with hyphens between them. -/
def Writes (text : String) (year month day : Nat) : Prop :=
  ∃ years months days : List Char,
    text.toList = years ++ '-' :: (months ++ '-' :: days) ∧
      Text.WritesNumber 4 years year ∧ Text.WritesNumber 2 months month ∧
      Text.WritesNumber 2 days day ∧
      (1900 ≤ year ∧ year ≤ 9999) ∧ (1 ≤ month ∧ month ≤ 12) ∧ (1 ≤ day ∧ day ≤ 31)

/-- The texts accepted as dates are those in the written form. -/
theorem isDateText_iff {text : String} :
    isDateText text = true ↔ ∃ year month day, Writes text year month day := by
  constructor
  · intro h
    unfold isDateText at h
    split at h
    · rename_i y1 y2 y3 y4 m1 m2 d1 d2 htext
      simp only [List.all_cons, List.all_nil, isBetween, Bool.and_eq_true, decide_eq_true_eq,
        and_true] at h
      obtain ⟨⟨⟨⟨hy1, hy2, hy3, hy4, hm1, hm2, hd1, hd2⟩, hyear⟩, hmonth⟩, hday⟩ := h
      exact ⟨_, _, _, [y1, y2, y3, y4], [m1, m2], [d1, d2], htext,
        ⟨rfl, by simp [hy1, hy2, hy3, hy4], rfl⟩, ⟨rfl, by simp [hm1, hm2], rfl⟩,
        ⟨rfl, by simp [hd1, hd2], rfl⟩, hyear, hmonth, hday⟩
    · simp at h
  · rintro ⟨year, month, day, years, months, days, htext, ⟨hyears, hyearDigits, rfl⟩,
      ⟨hmonths, hmonthDigits, rfl⟩, ⟨hdays, hdayDigits, rfl⟩, hyear, hmonth, hday⟩
    match years, months, days, hyears, hmonths, hdays with
    | [y1, y2, y3, y4], [m1, m2], [d1, d2], _, _, _ =>
        simp only [List.mem_cons, List.not_mem_nil, or_false, forall_eq_or_imp, forall_eq]
          at hyearDigits hmonthDigits hdayDigits
        simp [isDateText, htext, isBetween, hyearDigits, hmonthDigits, hdayDigits, hyear, hmonth,
          hday]

variable {text : String} {year month day : Nat}

/-- The parts of a written date are read as its numbers. -/
theorem Writes.readParts (h : Writes text year month day) :
    readParts text = .ok ((year : Int), (month : Int), (day : Int)) := by
  obtain ⟨years, months, days, htext, hyear, hmonth, hday, -⟩ := h
  -- The hyphens are those between the parts: no part holds another.
  have hhyphen : ∀ {count value : Nat} {digits : List Char},
      Text.WritesNumber count digits value → '-' ∉ digits := by
    intro count value digits h hmem
    simpa using h.2.1 '-' hmem
  have hpieces : Text.pieces '-' text.toList = [years, months, days] := by
    rw [htext, Text.pieces_append (hhyphen hyear), Text.pieces_append (hhyphen hmonth),
      Text.pieces_of_not_mem (hhyphen hday)]
  simp only [Calendar.readParts, hpieces, List.take_succ_cons, List.take_nil, List.mapM_cons,
    List.mapM_nil, hyear.read (by decide) (by decide), hmonth.read (by decide) (by decide),
    hday.read (by decide) (by decide)]
  rfl

/-- A text writes at most one day. -/
theorem Writes.unique {year' month' day' : Nat} (h : Writes text year month day)
    (hother : Writes text year' month' day') : year = year' ∧ month = month' ∧ day = day' := by
  have hsame := h.readParts.symm.trans hother.readParts
  simp only [Except.ok.injEq, Prod.mk.injEq] at hsame
  omega

theorem fits32_iff {number : Int} :
    fits32 number = true ↔ -limit32 ≤ number ∧ number < limit32 := by
  simp [fits32]

theorem fits64_iff {number : Int} :
    fits64 number = true ↔ -limit64 ≤ number ∧ number < limit64 := by
  simp [fits64]

/-- A month of the calendar has no fault. -/
theorem monthFault?_eq_none (hyear : 1 ≤ year ∧ year ≤ 9999) (hmonth : 1 ≤ month ∧ month ≤ 12) :
    monthFault? year month = none := by
  have hwidth : ∀ number : Nat, number ≤ 9999 → widthFault? number = none := by
    intro number hnumber
    have hfits : fits64 number = true := fits64_iff.2 (by rw [limit64]; omega)
    rw [widthFault?, hfits, if_neg (by simp), if_neg (by rw [limit32]; omega),
      if_neg (by rw [limit32]; omega)]
  have hyearRange : ¬ ((decide ((year : Int) < 1) || decide (9999 < (year : Int))) = true) := by
    simp only [Bool.or_eq_true, decide_eq_true_eq]
    omega
  have hmonthRange : ¬ ((decide ((month : Int) < 1) || decide (12 < (month : Int))) = true) := by
    simp only [Bool.or_eq_true, decide_eq_true_eq]
    omega
  rw [monthFault?, hwidth year hyear.2, hwidth month (by omega), if_neg hyearRange,
    if_neg hmonthRange]
  rfl

/-- A day up to the 31st of a month has the number of the day that it runs on to. -/
theorem rolledDayNumber_eq (hyear : 1 ≤ year ∧ year ≤ 9999) (hmonth : 1 ≤ month ∧ month ≤ 12)
    (hday : 1 ≤ day ∧ day ≤ 31) :
    rolledDayNumber year month (day - 1) = .ok (dayNumber year month day) := by
  have hbounds := dayNumber_bounds (rolled_isDay hyear hmonth hday)
  rw [dayNumber_rolled] at hbounds
  have hduration : durationFault? ((day : Int) - 1) = none := by
    have hfits : fits32 ((day : Int) - 1) = true := fits32_iff.2 (by rw [limit32]; omega)
    rw [durationFault?, hfits, if_neg (by simp), if_neg]
    simp only [Bool.or_eq_true, decide_eq_true_eq]
    omega
  have hnumber : (dayNumber year month 1 : Int) + ((day : Int) - 1) = dayNumber year month day := by
    simp only [dayNumber]
    omega
  have hfault : (monthFault? year month <|> durationFault? ((day : Int) - 1)) = none := by
    rw [monthFault?_eq_none hyear hmonth, hduration]
    rfl
  rw [rolledDayNumber, hfault]
  simp only [Int.toNat_natCast, hnumber]
  rw [if_neg]
  simp only [Bool.or_eq_true, decide_eq_true_eq]
  omega

/-- Whether a written date lies after another date is always decided, and by the day of the
calendar that it runs on to. -/
theorem isFuture_of_writes (h : Writes text year month day) (today : Date) :
    ∃ isLater, isFuture text today = .ok isLater ∧
      (isLater = true ↔
        Precedes (today.year, today.month, today.day) (rolled year month day)) := by
  obtain ⟨-, -, -, -, -, -, -, hyear, hmonth, hday⟩ := id h
  have hyear' : 1 ≤ year ∧ year ≤ 9999 := by omega
  refine ⟨decide (today.number < dayNumber year month day), ?_, ?_⟩
  · simp only [isFuture, h.readParts, rolledDayNumber_eq hyear' hmonth hday]
    rfl
  · rw [decide_eq_true_eq, ← dayNumber_rolled, Date.number]
    exact dayNumber_lt_iff today.isDay (rolled_isDay hyear' hmonth hday)

/-- A number is written in a width that it fits into. -/
theorem writesNumber_padded {width number : Nat} (hwidth : 0 < width)
    (hnumber : number < 10 ^ width) : Text.WritesNumber width (padded width number) number := by
  have hlength : (Nat.toDigits 10 number).length ≤ width :=
    (Nat.length_toDigits_le_iff (by decide) hwidth).2 hnumber
  have hwrites := Text.writesNumber_zeros (width - (Nat.toDigits 10 number).length) number
  rw [Nat.sub_add_cancel hlength] at hwrites
  exact hwrites

/-- A date from the year 1900 on has a written form that is accepted. -/
theorem Date.writes_text {date : Date} (h : 1900 ≤ date.year) :
    Writes date.text date.year date.month date.day := by
  obtain ⟨hyear, hmonth, hfirst, hlast⟩ := date.isDay
  have hlength := daysInMonth_bounds date.year hmonth
  refine ⟨padded 4 date.year, padded 2 date.month, padded 2 date.day, ?_,
    writesNumber_padded (by decide) (by omega), writesNumber_padded (by decide) (by omega),
    writesNumber_padded (by decide) (by omega), ⟨h, hyear.2⟩, hmonth, hfirst, by omega⟩
  rw [Date.text, String.toList_ofList, List.append_assoc, List.cons_append]

/-- Comparing a text that is accepted as a date with another date never fails. The text lies in
the future exactly when the day does that it names, or that this day runs on to in the next month,
which is one of the same year. The written form of a date from the year 1900 on is accepted, and it
lies in the future exactly when the date does. -/
theorem isFuture_rolls_over (today : Date) :
    (∀ text, isDateText text = true →
      ∃ year month day isLater, Writes text year month day ∧
        (rolled year month day).1 = year ∧
        IsDay (rolled year month day).1 (rolled year month day).2.1 (rolled year month day).2.2 ∧
        isFuture text today = .ok isLater ∧
        (isLater = true ↔
          Precedes (today.year, today.month, today.day) (rolled year month day))) ∧
      ∀ date : Date, 1900 ≤ date.year →
        isDateText date.text = true ∧
          ∃ isLater, isFuture date.text today = .ok isLater ∧
            (isLater = true ↔
              Precedes (today.year, today.month, today.day) (date.year, date.month, date.day)) := by
  refine ⟨?_, ?_⟩
  · intro text htext
    obtain ⟨year, month, day, hwrites⟩ := isDateText_iff.1 htext
    obtain ⟨isLater, hfuture, hlater⟩ := isFuture_of_writes hwrites today
    obtain ⟨-, -, -, -, -, -, -, hyear, hmonth, hday⟩ := id hwrites
    exact ⟨year, month, day, isLater, hwrites, rolled_year year month day,
      rolled_isDay (by omega) hmonth hday, hfuture, hlater⟩
  · intro date hyear
    have hwrites := date.writes_text hyear
    obtain ⟨isLater, hfuture, hlater⟩ := isFuture_of_writes hwrites today
    rw [rolled_of_isDay date.isDay] at hlater
    exact ⟨isDateText_iff.2 ⟨_, _, _, hwrites⟩, isLater, hfuture, hlater⟩

/-- On the first of March the 30th of February lies in the future, since it stands for the second of
March, and so does the last day of a February with 29 days. -/
theorem isFuture_rolls_over_february :
    let today : Date := ⟨2026, 3, 1, by decide⟩
    let date : Date := ⟨2028, 2, 29, by decide⟩
    isDateText "2026-02-30" = true ∧ isFuture "2026-02-30" today = .ok true ∧
      1900 ≤ date.year ∧ date.text = "2028-02-29" ∧ isDateText date.text = true ∧
      isFuture date.text today = .ok true := by
  have hwritten : Date.text ⟨2028, 2, 29, by decide⟩ = "2028-02-29" := by rfl
  intro today date
  have htext : isDateText "2026-02-30" = true := by rfl
  have hfebruary : Writes "2026-02-30" 2026 2 30 :=
    ⟨"2026".toList, "02".toList, "30".toList, rfl, ⟨rfl, by simp, rfl⟩, ⟨rfl, by simp, rfl⟩,
      ⟨rfl, by simp, rfl⟩, by decide, by decide, by decide⟩
  obtain ⟨year, month, day, isLater, hwrites, -, -, hfuture, hlater⟩ :=
    (isFuture_rolls_over today).1 "2026-02-30" htext
  obtain ⟨rfl, rfl, rfl⟩ := hfebruary.unique hwrites
  obtain ⟨hdate, later, hdateFuture, hdateLater⟩ :=
    (isFuture_rolls_over today).2 date (by decide)
  rw [hlater.2 (precedes_iff.2 (by decide))] at hfuture
  rw [hdateLater.2 (precedes_iff.2 (.inl (by decide)))] at hdateFuture
  exact ⟨htext, hfuture, by decide, hwritten, hdate, hdateFuture⟩

end Remittance.Calendar
