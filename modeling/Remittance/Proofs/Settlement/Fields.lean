import Remittance.Proofs.Settlement.Answers

/-!
# What outcomes repeat of the instruction

An outcome repeats all of the instruction that is read, with its amount if that is valid, and
nothing of a text that is no instruction. The reason that it gives repeats nothing, since it depends
on the code alone (`settle_fields`).
-/

namespace Remittance

/-- The fields repeat an instruction with this amount: its directive, its ids and its date as they
are written, and its currency in upper case. -/
structure Fields.Repeat (fields : Fields) (order : Instruction) (amount : Option Int) : Prop where
  directive : fields.directive = some order.directive
  amount : fields.amount = amount
  currency : fields.currency = some (Text.upperCase order.currency)
  debitId : fields.debitId = some order.debitId
  creditId : fields.creditId = some order.creditId
  executeBy : fields.executeBy = order.executeBy

theorem Fields.repeat_ofInstruction (order : Instruction) (amount : Option Int) :
    (Fields.ofInstruction order amount none).Repeat order amount :=
  ⟨rfl, rfl, rfl, rfl, rfl, rfl⟩

namespace Settlement

variable {accounts : List Account} {text : String} {today : Calendar.Date} {outcome : Outcome}

/-- The amount that an outcome with this code repeats of an instruction: none if that is the fault,
and else the positive number that the instruction writes. -/
def RepeatsAmount (code : Code) (order : Instruction) (amount : Option Int) : Prop :=
  (code = .invalidAmount → amount = none) ∧
    (code ≠ .invalidAmount →
      ∃ value : Nat, Amount.Writes order.amount value ∧ amount = some (value : Int))

/-- An amount that is read is the one to repeat, unless the code says that it is invalid. -/
theorem repeatsAmount_of_read {code : Code} {order : Instruction} {amount : Nat}
    (hcode : code ≠ .invalidAmount) (hamount : Amount.read order.amount = .ok (some amount)) :
    RepeatsAmount code order (some (amount : Int)) :=
  ⟨fun hinvalid => absurd hinvalid hcode,
    fun _ => ⟨amount, Amount.writes_of_read hamount, rfl⟩⟩

/-- Whichever way a text is settled, its outcome repeats the instruction unless the text is
malformed. -/
theorem Settles.repeat (h : Settles accounts text today outcome) :
    (outcome.code = .malformed → outcome.fields = .unknown) ∧
      (outcome.code ≠ .malformed → ∃ order amount, Instruction.parse? text = some order ∧
        outcome.fields.Repeat order amount ∧ RepeatsAmount outcome.code order amount) := by
  cases h with
  | unreadable horder => exact ⟨fun _ => rfl, fun hcode => absurd rfl hcode⟩
  | invalidAmount order horder hamount =>
      have hnone : RepeatsAmount .invalidAmount order none :=
        ⟨fun _ => rfl, fun hcode => absurd rfl hcode⟩
      refine ⟨fun hcode => (nomatch hcode), fun _ => ?_⟩
      exact ⟨order, none, horder, Fields.repeat_ofInstruction order none, hnone⟩
  | decided order amount code horder hamount hverdict =>
      -- A verdict is never one of the two codes of the other cases.
      have hmem := orderVerdict_mem hverdict
      have hmalformed : Code.malformed ∉ idCodes ++ accountCodes := by decide
      have hinvalid : Code.invalidAmount ∉ idCodes ++ accountCodes := by decide
      have hvalid : code ≠ .invalidAmount := fun hcode => hinvalid (hcode ▸ hmem)
      rw [outcomeOf_code, outcomeOf_fields]
      refine ⟨fun hcode => absurd (hcode ▸ hmem) hmalformed, fun _ => ?_⟩
      exact ⟨order, some amount, horder, Fields.repeat_ofInstruction order _,
        repeatsAmount_of_read hvalid hamount⟩

/-- The outcome of a malformed text has no field. Every other outcome has the directive, the ids,
and the date of the instruction as written, its currency in upper case, and its amount unless that
is invalid. Outcomes of any texts with one code have one reason. -/
theorem settle_fields (h : (settle accounts text today).answer = .ok outcome) :
    (outcome.code = .malformed → outcome.fields = ⟨none, none, none, none, none, none⟩) ∧
      (outcome.code ≠ .malformed → ∃ order amount, Instruction.parse? text = some order ∧
        outcome.fields.Repeat order amount ∧ RepeatsAmount outcome.code order amount) ∧
      ∀ accounts text today other, (settle accounts text today).answer = .ok other →
        other.code = outcome.code → other.reason = outcome.reason := by
  have hsettles := settles_iff.1 h
  obtain ⟨hmalformed, hrepeat⟩ := hsettles.repeat
  refine ⟨hmalformed, hrepeat, ?_⟩
  intro accounts text today other hother hcode
  rw [(settles_iff.1 hother).status_reason.2, hsettles.status_reason.2, hcode]

/-- The upper case of a currency can be longer than what is written, and no date need be one. -/
theorem settle_fields_sharp_s :
    let accounts : List Account := [⟨"a", 5, "USD"⟩, ⟨"b", 0, "Usd"⟩]
    let text := "credit 007 u\u00df to account zz for debit from account a on Monday"
    let today : Calendar.Date := ⟨2026, 1, 15, by decide⟩
    ∃ outcome, (settle accounts text today).answer = .ok outcome ∧
      outcome.code = .accountNotFound ∧ outcome.fields =
        ⟨some .credit, some 7, some "USS", some "a", some "zz", some "Monday"⟩ ∧
      (∃ order amount, Instruction.parse? text = some order ∧
        outcome.fields.Repeat order amount ∧ RepeatsAmount outcome.code order amount) ∧
      ∀ accounts text today other, (settle accounts text today).answer = .ok other →
        other.code = outcome.code → other.reason = outcome.reason := by
  have hanswer : (settle [⟨"a", 5, "USD"⟩, ⟨"b", 0, "Usd"⟩]
      "credit 007 u\u00df to account zz for debit from account a on Monday"
      ⟨2026, 1, 15, by decide⟩).answer = .ok (.failed .accountNotFound
        ⟨some .credit, some 7, some "USS", some "a", some "zz", some "Monday"⟩ []) := by rfl
  intro accounts text today
  obtain ⟨-, hrepeat, hreason⟩ := settle_fields hanswer
  exact ⟨_, hanswer, rfl, rfl, hrepeat (by decide), hreason⟩

end Settlement

end Remittance
