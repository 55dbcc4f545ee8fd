import Remittance.Proofs.Settlement.Answers
import Remittance.Proofs.Text.Keyword

/-!
# Instructions without an answer

Settling a text gives an outcome except for one kind of instruction, whose amount is a number with
too many digits to be read. `settle_error_iff` says so for every text, and that neither reading the
text nor comparing its date can fail.
-/

namespace Remittance.Settlement

variable {accounts : List Account} {text : String} {today : Calendar.Date} {fault : Fault}

/-- An instruction is judged unless its amount cannot be read. -/
theorem judge_error_iff {order : Instruction} :
    judge order accounts today = .error fault ↔ Amount.read order.amount = .error fault := by
  rw [judge]
  cases hamount : Amount.read order.amount with
  | error cause => simp
  | ok amount =>
      cases amount with
      | none => simp
      | some amount =>
          obtain ⟨code, hverdict⟩ := orderVerdict_total order amount accounts today
          simp [hverdict, Except.map]

/-- The text holds an instruction whose amount is a number that is too long to be read. -/
def HoldsTooLong (text : String) : Prop :=
  ∃ order, Instruction.parse? text = some order ∧ Amount.IsTooLong order.amount

/-- The fault of a text is that of an instruction whose amount is too long. -/
theorem answer_error_iff :
    (settle accounts text today).answer = .error fault ↔
      ∃ order, Instruction.parse? text = some order ∧ Amount.IsTooLong order.amount ∧
        fault = .digitLimit order.amount.toList.length := by
  rw [settle_answer]
  cases horder : Instruction.parse? text with
  | none => simp
  | some order => simp [judge_error_iff, Amount.read_error_iff]

/-- A text in the form of a date stands for a day of the calendar, and is compared with any date. -/
theorem isFuture_of_isDateText {date : String} (h : Calendar.isDateText date = true)
    (today : Calendar.Date) :
    ∃ year month day isLater, Calendar.Writes date year month day ∧
      Calendar.IsDay (Calendar.rolled year month day).1 (Calendar.rolled year month day).2.1
        (Calendar.rolled year month day).2.2 ∧
      Calendar.isFuture date today = .ok isLater := by
  obtain ⟨year, month, day, hwrites⟩ := Calendar.isDateText_iff.1 h
  obtain ⟨isLater, hfuture, -⟩ := Calendar.isFuture_of_writes hwrites today
  obtain ⟨-, -, -, -, -, -, -, hyear, hmonth, hday⟩ := id hwrites
  exact ⟨year, month, day, isLater, hwrites,
    Calendar.rolled_isDay (by omega) hmonth hday, hfuture⟩

/-- Settling a text gives an outcome exactly when it holds no instruction whose amount is too long.
If it holds one, the fault is that of reading the amount as an integer, whatever the accounts and
the date are. No scan of a text from its beginning fails, and a date that has the form of one is
always compared, as a day in the years of the calendar. -/
theorem settle_error_iff (accounts : List Account) (text : String) (today : Calendar.Date) :
    ((∃ outcome, (settle accounts text today).answer = .ok outcome) ↔ ¬ HoldsTooLong text) ∧
      (∀ fault, (settle accounts text today).answer = .error fault ↔
        ∃ order, Instruction.parse? text = some order ∧ Amount.IsTooLong order.amount ∧
          fault = .digitLimit order.amount.toList.length ∧
          Text.readInteger order.amount = .error fault) ∧
      (∀ rest keyword, Text.wordFrom rest 0 = .ok (Text.nextWord rest) ∧
        Text.search rest keyword 0 = .ok (Text.firstFrom? keyword true rest)) ∧
      ∀ date, Calendar.isDateText date = true →
        ∃ year month day isLater, Calendar.Writes date year month day ∧
          Calendar.IsDay (Calendar.rolled year month day).1 (Calendar.rolled year month day).2.1
            (Calendar.rolled year month day).2.2 ∧
          Calendar.isFuture date today = .ok isLater := by
  refine ⟨?_, ?_, fun rest keyword => ⟨Text.wordFrom_zero rest, Text.search_zero rest keyword⟩,
    fun date hdate => isFuture_of_isDateText hdate today⟩
  · cases hanswer : (settle accounts text today).answer with
    | ok outcome =>
        refine iff_of_true ⟨outcome, rfl⟩ ?_
        rintro ⟨order, horder, hlong⟩
        have herror : (settle accounts text today).answer = .error _ :=
          answer_error_iff.2 ⟨order, horder, hlong, rfl⟩
        rw [hanswer] at herror
        cases herror
    | error fault =>
        obtain ⟨order, horder, hlong, -⟩ := answer_error_iff.1 hanswer
        exact iff_of_false (by simp) fun hnot => hnot ⟨order, horder, hlong⟩
  · intro fault
    rw [answer_error_iff]
    constructor
    · rintro ⟨order, horder, hlong, rfl⟩
      exact ⟨order, horder, hlong, rfl, hlong.readInteger⟩
    · rintro ⟨order, horder, hlong, hfault, -⟩
      exact ⟨order, horder, hlong, hfault⟩

end Remittance.Settlement
