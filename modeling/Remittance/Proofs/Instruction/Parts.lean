import Remittance.Instruction.Parser

/-!
# The words of an instruction

Following the steps of a form fills every part that the steps name, and only with words. So an
instruction that is read has a word for each of its parts (`parse?_part_ne_empty`).
-/

namespace Remittance.Instruction

/-- The word of an instruction for one of its parts. -/
def part (order : Instruction) : Part → String
  | .amount => order.amount
  | .currency => order.currency
  | .debitId => order.debitId
  | .creditId => order.creditId

/-- Replacing a word replaces that of its part only. -/
theorem part_set (order : Instruction) (changed other : Part) (word : String) :
    (order.set changed word).part other = if other = changed then word else order.part other := by
  cases changed <;> cases other <;> rfl

/-- A word that is taken is not empty. -/
theorem takeWord?_ne_nil {text word rest : List Char} (h : takeWord? text = some (word, rest)) :
    word ≠ [] := by
  simp only [takeWord?] at h
  split at h
  · simp at h
  · rename_i hempty
    cases h
    simpa using hempty

/-- The parts that steps name are words afterwards, and so are those that were words before. -/
theorem follow?_part_ne_empty {steps : List FormStep} {order result : Instruction}
    {text rest : List Char} (h : follow? steps order text = some (result, rest)) (wanted : Part)
    (hwanted : .part wanted ∈ steps ∨ order.part wanted ≠ "") : result.part wanted ≠ "" := by
  induction steps generalizing order text with
  | nil =>
      cases h
      exact hwanted.resolve_left (by simp)
  | cons step steps ih =>
      cases step with
      | part filled =>
          rw [follow?] at h
          split at h
          · rename_i word remaining htake
            refine ih h ?_
            rw [part_set]
            split
            · right
              simpa [String.ofList_eq_empty_iff] using takeWord?_ne_nil htake
            · rename_i hother
              simpa [hother] using hwanted
          · simp at h
      | keyword keyword =>
          rw [follow?] at h
          split at h
          · exact ih h (by simpa using hwanted)
          · simp at h

/-- Each form names every part. -/
theorem part_mem_steps (directive : Directive) (wanted : Part) :
    .part wanted ∈ directive.steps := by
  cases directive <;> cases wanted <;> decide

/-- Every part of an instruction that is read is a word. -/
theorem parse?_part_ne_empty {text : String} {order : Instruction} (h : parse? text = some order)
    (wanted : Part) : order.part wanted ≠ "" := by
  have hform : ∀ directive, parseForm? directive (Text.normalize text.toList) = some order →
      order.part wanted ≠ "" := by
    intro directive hform
    rw [parseForm?] at hform
    split at hform
    · split at hform
      · rename_i filled rest hfollow
        cases hform
        have hword := follow?_part_ne_empty hfollow wanted (.inl (part_mem_steps directive wanted))
        cases wanted <;> exact hword
      · simp at hform
    · simp at hform
  cases hdebit : parseForm? .debit (Text.normalize text.toList) with
  | some found =>
      have hfound : found = order := by simpa [parse?, hdebit] using h
      exact hform .debit (hfound ▸ hdebit)
  | none =>
      have hcredit : parseForm? .credit (Text.normalize text.toList) = some order := by
        simpa [parse?, hdebit] using h
      exact hform .credit hcredit

end Remittance.Instruction
