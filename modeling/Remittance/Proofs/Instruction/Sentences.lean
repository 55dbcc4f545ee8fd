import Remittance.Proofs.Amount
import Remittance.Proofs.Instruction.Rendering

/-!
# Instructions as sentences

`sentence` writes an instruction out in the form of its directive, without filler and with single
spaces. An instruction of plain words is read back from its sentence (`parse?_sentence`), also when
a word is the same as a keyword. `transfer` is the instruction for a number, which has plain words.
-/

namespace Remittance.Instruction

open Text (IsPlain)

/-- The end of a sentence that names a date, or nothing. -/
def dateClause : Option String → String
  | none => ""
  | some date => " ON " ++ date

/-- The sentence that writes an instruction in the form of its directive. -/
def sentence (order : Instruction) : String :=
  match order.directive with
  | .debit =>
      "DEBIT " ++ order.amount ++ " " ++ order.currency ++ " FROM ACCOUNT " ++ order.debitId ++
        " FOR CREDIT TO ACCOUNT " ++ order.creditId ++ dateClause order.executeBy
  | .credit =>
      "CREDIT " ++ order.amount ++ " " ++ order.currency ++ " TO ACCOUNT " ++ order.creditId ++
        " FOR DEBIT FROM ACCOUNT " ++ order.debitId ++ dateClause order.executeBy

/-- Every word of the instruction is plain. -/
structure HasPlainWords (order : Instruction) : Prop where
  parts : ∀ wanted, IsPlain (order.part wanted).toList
  date : ∀ date ∈ order.executeBy, IsPlain date.toList

/-- A sentence has the words of its form with a space between them. -/
theorem toList_sentence (order : Instruction) :
    order.sentence.toList = Text.unwords (formWords order) := by
  obtain ⟨directive, amount, currency, debitId, creditId, executeBy⟩ := order
  cases directive <;> cases executeBy <;>
    simp [sentence, dateClause, formWords, dateWords, stepWord, part, Directive.steps,
      Directive.name, dateKeyword, Text.unwords]

/-- An instruction of plain words is read back from its sentence. -/
theorem parse?_sentence {order : Instruction} (h : order.HasPlainWords) :
    parse? order.sentence = some order := by
  have hrenders : Renders order order.sentence.toList := by
    rw [toList_sentence]
    exact renders_formWords h.parts h.date
  obtain ⟨words, hsound, hnormal, hread⟩ := hrenders.exists_words
  rw [parse?_of_words hsound hnormal, hread]

/-- The instruction to move an amount from one account to another at once. -/
def transfer (amount : Nat) (currency debitId creditId : String) : Instruction where
  directive := .debit
  amount := toString amount
  currency := currency
  debitId := debitId
  creditId := creditId
  executeBy := none

/-- The instruction to move a positive amount has plain words if the other ones are plain. -/
theorem hasPlainWords_transfer {amount : Nat} {currency debitId creditId : String}
    (hamount : 0 < amount) (hcurrency : IsPlain currency.toList) (hdebit : IsPlain debitId.toList)
    (hcredit : IsPlain creditId.toList) :
    (transfer amount currency debitId creditId).HasPlainWords := by
  refine ⟨?_, ?_⟩
  · intro wanted
    cases wanted with
    | amount => exact (Amount.writes_repr hamount).isPlain
    | currency => exact hcurrency
    | debitId => exact hdebit
    | creditId => exact hcredit
  · intro date hdate
    cases hdate

end Remittance.Instruction
