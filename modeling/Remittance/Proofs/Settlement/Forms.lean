import Remittance.Proofs.Instruction.Sentences
import Remittance.Proofs.Settlement.Answers

/-!
# The two forms of an instruction

An instruction may be written in the form of either directive. The directive decides how a text is
read and is repeated in the answer, and nothing else depends on it: both sentences are read, and
their answers agree in every other field (`settle_forms_agree`).
-/

namespace Remittance

/-- The instruction in the form of a directive. -/
def Instruction.under (order : Instruction) (directive : Directive) : Instruction :=
  { order with directive := directive }

/-- The outcome as one of an instruction in the form of a directive. -/
def Outcome.under (outcome : Outcome) (directive : Directive) : Outcome :=
  { outcome with fields := { outcome.fields with directive := some directive } }

namespace Settlement

variable {order : Instruction}

/-- A judgement repeats the directive of its instruction and does not depend on it. -/
theorem judge_under (order : Instruction) (directive : Directive) (accounts : List Account)
    (today : Calendar.Date) :
    judge (order.under directive) accounts today =
      (judge order accounts today).map (·.under directive) := by
  have houtcome : ∀ amount code, outcomeOf (order.under directive) amount accounts code =
      (outcomeOf order amount accounts code).under directive := by
    intro amount code
    cases code <;> rfl
  unfold judge
  rw [show (order.under directive).amount = order.amount from rfl]
  cases Amount.read order.amount with
  | error fault => rfl
  | ok read =>
      cases read with
      | none => rfl
      | some amount =>
          show (orderVerdict order amount accounts today).map
              (outcomeOf (order.under directive) amount accounts) =
            ((orderVerdict order amount accounts today).map
              (outcomeOf order amount accounts)).map (·.under directive)
          cases orderVerdict order amount accounts today with
          | error fault => rfl
          | ok code => exact congrArg Except.ok (houtcome amount code)

/-- An instruction of plain words is read in the form of either directive, and the two answers are
the same but for the directive that they repeat. -/
theorem settle_forms_agree (h : order.HasPlainWords) (accounts : List Account)
    (today : Calendar.Date) (first second : Directive) :
    Instruction.parse? (order.under first).sentence = some (order.under first) ∧
      Instruction.parse? (order.under second).sentence = some (order.under second) ∧
      (settle accounts (order.under second).sentence today).answer =
        (settle accounts (order.under first).sentence today).answer.map (·.under second) := by
  have hread : ∀ directive, Instruction.parse? (order.under directive).sentence =
      some (order.under directive) :=
    fun directive => Instruction.parse?_sentence ⟨h.parts, h.date⟩
  refine ⟨hread first, hread second, ?_⟩
  rw [settle_answer, settle_answer, hread first, hread second]
  exact judge_under (order.under first) second accounts today

/-- Both forms of a payment between accounts that are named like keywords are carried out. -/
theorem settle_forms_agree_keywords :
    let order : Instruction := ⟨.debit, "007", "usd", "TO", "ON", some "2026-01-15"⟩
    let accounts : List Account := [⟨"ON", -3, "USD"⟩, ⟨"TO", 7, "Usd"⟩]
    let today : Calendar.Date := ⟨2026, 1, 15, by decide⟩
    order.HasPlainWords ∧
      (settle accounts (order.under .debit).sentence today).answer.map Outcome.code =
        .ok .executed ∧
      (settle accounts (order.under .credit).sentence today).answer =
        (settle accounts (order.under .debit).sentence today).answer.map (·.under .credit) := by
  have hexecuted : (settle [⟨"ON", -3, "USD"⟩, ⟨"TO", 7, "Usd"⟩]
      "DEBIT 007 usd FROM ACCOUNT TO FOR CREDIT TO ACCOUNT ON ON 2026-01-15"
      ⟨2026, 1, 15, by decide⟩).answer.map Outcome.code = .ok .executed := by rfl
  intro order accounts today
  have hplain : order.HasPlainWords := by
    refine ⟨?_, ?_⟩
    · intro wanted
      cases wanted <;> decide
    · intro date hdate
      obtain rfl := Option.some.inj hdate
      decide
  exact ⟨hplain, hexecuted, (settle_forms_agree hplain accounts today .debit .credit).2.2⟩

end Settlement

end Remittance
