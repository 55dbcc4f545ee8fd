import Remittance.Proofs.Account.Snapshots
import Remittance.Proofs.Amount
import Remittance.Proofs.Settlement.Verdicts
import Remittance.Settlement.Report

/-!
# Answers to instructions

`Settles` lists the three ways in which settling a text gives an outcome, and `settles_iff` says
that there is no other. The code of an outcome determines its status and its reason
(`Settles.status_reason`). An executed instruction is admissible (`Settles.admissible`), and so it
is `Transferable`: its accounts are distinct, in one currency, and the debited one covers a
positive amount. Every other outcome reports the accounts as they are.
-/

namespace Remittance

/-- The status that goes with a code. -/
def Code.status : Code → Status
  | .executed => .successful
  | .scheduled => .pending
  | _ => .failed

namespace Settlement

/-- `Settles accounts text today outcome` says how settling the text comes to the outcome. -/
inductive Settles (accounts : List Account) (text : String) (today : Calendar.Date) :
    Outcome → Prop where
  | unreadable :
      Instruction.parse? text = none → Settles accounts text today .unreadable
  | invalidAmount (order) :
      Instruction.parse? text = some order → Amount.read order.amount = .ok none →
      Settles accounts text today
        (.failed .invalidAmount (Fields.ofInstruction order none none) [])
  | decided (order amount code) :
      Instruction.parse? text = some order → Amount.read order.amount = .ok (some amount) →
      orderVerdict order amount accounts today = .ok code →
      Settles accounts text today (outcomeOf order amount accounts code)

variable {accounts : List Account} {text : String} {today : Calendar.Date} {outcome : Outcome}

/-- The answer to a text is that of the verdict on the instruction it holds. -/
theorem settle_answer :
    (settle accounts text today).answer =
      match Instruction.parse? text with
      | none => .ok .unreadable
      | some order => judge order accounts today := by
  cases horder : Instruction.parse? text with
  | none => simp [settle, horder]
  | some order =>
      simp only [settle, horder]
      cases judge order accounts today <;> rfl

/-- Settling a text gives an outcome exactly in the ways of `Settles`. -/
theorem settles_iff :
    (settle accounts text today).answer = .ok outcome ↔ Settles accounts text today outcome := by
  rw [settle_answer]
  constructor
  · intro h
    cases horder : Instruction.parse? text with
    | none =>
        simp only [horder, Except.ok.injEq] at h
        exact h ▸ .unreadable horder
    | some order =>
        simp only [horder, judge] at h
        split at h
        · simp at h
        · rename_i hamount
          cases h
          exact .invalidAmount order horder hamount
        · rename_i amount hamount
          cases hverdict : orderVerdict order amount accounts today with
          | error fault => simp [hverdict, Except.map] at h
          | ok code =>
              simp only [hverdict, Except.map, Except.ok.injEq] at h
              exact h ▸ .decided order amount code horder hamount hverdict
  · intro h
    cases h with
    | unreadable horder => simp [horder]
    | invalidAmount order horder hamount => simp [horder, judge, hamount]
    | decided order amount code horder hamount hverdict =>
        simp [horder, judge, hamount, hverdict, Except.map]

@[simp] theorem outcomeOf_code (order : Instruction) (amount : Nat) (accounts : List Account)
    (code : Code) : (outcomeOf order amount accounts code).code = code := by
  cases code <;> rfl

@[simp] theorem outcomeOf_fields (order : Instruction) (amount : Nat) (accounts : List Account)
    (code : Code) :
    (outcomeOf order amount accounts code).fields =
      Fields.ofInstruction order (some (amount : Int)) none := by
  cases code <;> rfl

/-- The outcome of a text repeats the instruction that the text holds, if it holds one. -/
theorem Settles.fields (h : Settles accounts text today outcome) :
    (Instruction.parse? text = none ∧ outcome = .unreadable) ∨
      ∃ order amount, Instruction.parse? text = some order ∧
        outcome.fields = Fields.ofInstruction order amount none := by
  cases h with
  | unreadable horder => exact .inl ⟨horder, rfl⟩
  | invalidAmount order horder hamount => exact .inr ⟨order, none, horder, rfl⟩
  | decided order amount code horder hamount hverdict =>
      exact .inr ⟨order, some amount, horder, outcomeOf_fields order amount accounts code⟩

/-- The status and the reason of an outcome are those of the verdict. -/
theorem outcomeOf_status_reason (order : Instruction) (amount : Nat) (accounts : List Account)
    (code : Code) :
    (outcomeOf order amount accounts code).status = code.status ∧
      (outcomeOf order amount accounts code).reason = code.reason := by
  cases code <;> exact ⟨rfl, rfl⟩

/-- The status and the reason of an outcome are those of its code. -/
theorem Settles.status_reason (h : Settles accounts text today outcome) :
    outcome.status = outcome.code.status ∧ outcome.reason = outcome.code.reason := by
  cases h with
  | unreadable | invalidAmount => exact ⟨rfl, rfl⟩
  | decided order amount code =>
      rw [outcomeOf_code]
      exact outcomeOf_status_reason order amount accounts code

/-- Only a text that is no instruction is malformed. -/
theorem Settles.parse?_eq_none (h : Settles accounts text today outcome)
    (hcode : outcome.code = .malformed) : Instruction.parse? text = none := by
  cases h with
  | unreadable horder => exact horder
  | invalidAmount => cases hcode
  | decided order amount code horder hamount hverdict =>
      rw [outcomeOf_code] at hcode
      have hapart : Code.malformed ∉ idCodes ++ accountCodes := by decide
      exact absurd (hcode ▸ orderVerdict_mem hverdict) hapart

/-- The accounts allow an amount to move between two of them: each is the one that its id
resolves to, and the business rules on them hold. -/
structure Transferable (accounts : List Account) (debit credit : Account) (amount : Int) :
    Prop where
  debit_found : Account.find? accounts debit.id = some debit
  credit_found : Account.find? accounts credit.id = some credit
  distinct : debit.id ≠ credit.id
  same_currency : Currency.normalize debit.currency = Currency.normalize credit.currency
  positive : 0 < amount
  covered : amount ≤ debit.balance

/-- An admissible instruction that its debit account covers is transferable. -/
theorem Admissible.transferable {order : Instruction} {amount : Nat} {debit credit : Account}
    (h : Admissible accounts order debit credit) (hpos : 0 < amount)
    (hcovered : (amount : Int) ≤ debit.balance) : Transferable accounts debit credit amount := by
  have hdebit := h.debit_found
  have hcredit := h.credit_found
  have hagree := h.agree
  rw [← Account.find?_id hdebit] at hdebit
  rw [← Account.find?_id hcredit] at hcredit
  simp only [currenciesAgree, Bool.and_eq_true, beq_iff_eq] at hagree
  exact
    { debit_found := hdebit
      credit_found := hcredit
      distinct := by
        rw [Account.find?_id h.debit_found, Account.find?_id h.credit_found]
        exact h.distinct
      same_currency := hagree.1
      positive := by exact_mod_cast hpos
      covered := hcovered }

/-- The answer to an admissible instruction that is due depends on the balance alone. -/
theorem Admissible.answer {order : Instruction} {amount : Nat} {debit credit : Account}
    (h : Admissible accounts order debit credit) (horder : Instruction.parse? text = some order)
    (hamount : Amount.read order.amount = .ok (some amount))
    (hnow : timing order.executeBy today = .ok .now) :
    (settle accounts text today).answer =
      .ok (outcomeOf order amount accounts
        (if debit.balance < amount then .insufficientFunds else .executed)) := by
  rw [settle_answer, horder]
  show judge order accounts today = _
  unfold judge
  rw [hamount]
  show (orderVerdict order amount accounts today).map _ = _
  rw [h.verdict hnow]
  rfl

/-- An executed outcome is that of an admissible instruction which is due and whose amount the
debit account covers. -/
theorem Settles.admissible (h : Settles accounts text today outcome)
    (hcode : outcome.code = .executed) :
    ∃ order amount debit credit, Instruction.parse? text = some order ∧
      Amount.read order.amount = .ok (some amount) ∧ Admissible accounts order debit credit ∧
      timing order.executeBy today = .ok .now ∧ (amount : Int) ≤ debit.balance ∧
      outcome = outcomeOf order amount accounts .executed := by
  cases h with
  | unreadable horder => cases hcode
  | invalidAmount order horder hamount => cases hcode
  | decided order amount code horder hamount hverdict =>
      rw [outcomeOf_code] at hcode
      subst hcode
      obtain ⟨debit, credit, hadmissible, hnow, hcovered⟩ := orderVerdict_executed_iff.1 hverdict
      exact ⟨order, amount, debit, credit, horder, hamount, hadmissible, hnow, hcovered, rfl⟩

/-- An executed instruction names two accounts between which its amount can move, and reports
their snapshots after the transfer. -/
theorem Settles.executed (h : Settles accounts text today outcome)
    (hcode : outcome.code = .executed) :
    ∃ debit credit amount, Transferable accounts debit credit amount ∧
      outcome.fields.debitId = some debit.id ∧ outcome.fields.creditId = some credit.id ∧
      outcome.fields.amount = some amount ∧
      outcome.snapshots = Snapshot.transfer (Snapshot.ofAccounts accounts debit.id credit.id)
        debit.id credit.id amount := by
  obtain ⟨order, amount, debit, credit, horder, hamount, hadmissible, hnow, hcovered, rfl⟩ :=
    h.admissible hcode
  have hdebit := Account.find?_id hadmissible.debit_found
  have hcredit := Account.find?_id hadmissible.credit_found
  have hpos := (Amount.writes_of_read hamount).2.2.2
  refine ⟨debit, credit, amount, hadmissible.transferable hpos hcovered, ?_, ?_, rfl, ?_⟩
  · rw [hdebit]; rfl
  · rw [hcredit]; rfl
  · rw [hdebit, hcredit]; rfl

/-- An instruction that is not executed reports its accounts as they are, if at all. -/
theorem Settles.not_executed (h : Settles accounts text today outcome)
    (hcode : outcome.code ≠ .executed) :
    ∃ debit credit, outcome.snapshots.Sublist (Snapshot.ofAccounts accounts debit credit) := by
  cases h with
  | unreadable horder => exact ⟨"", "", List.nil_sublist _⟩
  | invalidAmount order horder hamount => exact ⟨"", "", List.nil_sublist _⟩
  | decided order amount code horder hamount hverdict =>
      refine ⟨order.debitId, order.creditId, ?_⟩
      rw [outcomeOf_code] at hcode
      cases code with
      | executed => exact absurd rfl hcode
      | invalidAccountId | sameAccount | accountNotFound => exact List.nil_sublist _
      | _ => exact List.Sublist.refl _

end Settlement

end Remittance
