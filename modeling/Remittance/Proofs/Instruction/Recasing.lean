import Remittance.Proofs.Instruction.Parts
import Remittance.Proofs.Instruction.Walk
import Remittance.Proofs.Text.Recasing

/-!
# Instructions in lower case

Every step of a form finds the same words in a text in lower case. So a text in lower case is read
as the instruction of the text, in lower case (`parse?_toLower`), and texts that agree up to letter
case are read as instructions that agree up to letter case (`parse?_agree`).
-/

namespace Remittance.Instruction

open Text (AgreeUpToCase)

/-- The instruction with the capital letters of ASCII in its words made small. -/
def toLower (order : Instruction) : Instruction where
  directive := order.directive
  amount := order.amount.toLower
  currency := order.currency.toLower
  debitId := order.debitId.toLower
  creditId := order.creditId.toLower
  executeBy := order.executeBy.map String.toLower

/-- A word of an instruction in lower case. -/
theorem part_toLower (order : Instruction) (wanted : Part) :
    order.toLower.part wanted = (order.part wanted).toLower := by
  cases wanted <;> rfl

/-- A word is set in lower case. -/
theorem set_toLower (order : Instruction) (filled : Part) (word : List Char) :
    (order.set filled (String.ofList word)).toLower =
      order.toLower.set filled (String.ofList (word.map Char.toLower)) := by
  cases filled <;> simp [set, toLower, Text.toLower_ofList]

/-- An instruction without words has none in lower case. -/
theorem toLower_blank (directive : Directive) : (blank directive).toLower = blank directive := by
  have hempty : "".toLower = "" := by
    rw [← String.toList_inj, Text.toList_toLower]
    rfl
  simp [blank, toLower, hempty]

/-- A keyword is passed in the same way in lower case. -/
theorem passWords?_map (keyword : String) (words : List (List Char)) :
    passWords? keyword (words.map (List.map Char.toLower)) =
      (passWords? keyword words).map (List.map (List.map Char.toLower)) := by
  rw [passWords?, passWords?, Text.wordsAfter?_map, Option.map_map, Option.map_map]
  exact congrArg (Option.map · _) (funext Text.clean_map)

/-- Steps are walked in the same way in lower case. -/
theorem walk?_map (steps : List FormStep) (draft : Instruction) (words : List (List Char)) :
    walk? steps draft.toLower (words.map (List.map Char.toLower)) =
      (walk? steps draft words).map
        fun found => (found.1.toLower, found.2.map (List.map Char.toLower)) := by
  induction steps generalizing draft words with
  | nil => rfl
  | cons step steps ih =>
      cases step with
      | part filled =>
          cases words with
          | nil => rfl
          | cons word words =>
              rw [List.map_cons, walk?, walk?, ← set_toLower, Text.clean_map, ih]
      | keyword keyword =>
          simp only [walk?, passWords?_map]
          cases passWords? keyword words with
          | none => rfl
          | some rest => exact ih draft rest

/-- The date in words in lower case. -/
theorem wordDate?_map (words : List (List Char)) :
    wordDate? (words.map (List.map Char.toLower)) = (wordDate? words).map String.toLower := by
  rw [wordDate?, wordDate?, passWords?_map]
  cases passWords? dateKeyword words with
  | none => rfl
  | some rest =>
      cases rest with
      | nil => rfl
      | cons word rest => exact congrArg some (Text.toLower_ofList word).symm

/-- Words in lower case are read as an instruction in lower case. -/
theorem readForm?_map (directive : Directive) (words : List (List Char)) :
    readForm? directive (words.map (List.map Char.toLower)) =
      (readForm? directive words).map toLower := by
  rw [readForm?, readForm?, Text.clean_map, ← toLower_blank, walk?_map, toLower_blank]
  cases walk? directive.steps (blank directive) (Text.clean words) with
  | none => rfl
  | some found => simp [wordDate?_map, toLower]

/-- Words in lower case behind a directive in lower case are read in the same way. -/
theorem readWords?_map (words : List (List Char)) :
    readWords? (words.map (List.map Char.toLower)) = (readWords? words).map toLower := by
  cases words with
  | nil => rfl
  | cons word rest =>
      simp only [List.map_cons, readWords?, Text.matchesWord_map, readForm?_map]
      split
      · rfl
      · split <;> rfl

/-- A text in lower case is read as the instruction of the text, in lower case. -/
theorem parse?_toLower (text : String) : parse? text.toLower = (parse? text).map toLower := by
  rw [parse?_pieces, parse?_pieces, Text.toList_toLower, Text.normalize_map, Text.pieces_map,
    readWords?_map]

/-- The instructions have the same directive, and the same words up to letter case. -/
structure AgreesUpToCase (order other : Instruction) : Prop where
  directive : order.directive = other.directive
  parts : ∀ wanted, AgreeUpToCase (order.part wanted) (other.part wanted)
  date : Option.Rel AgreeUpToCase order.executeBy other.executeBy

/-- Optional values are related as what they are mapped to is equal. -/
theorem rel_of_map_eq {α β : Type} {f : α → β} {related : α → α → Prop}
    (hrelated : ∀ first second, f first = f second → related first second)
    {first second : Option α} (h : first.map f = second.map f) :
    Option.Rel related first second := by
  cases first with
  | none =>
      obtain rfl := Option.map_eq_none_iff.1 h.symm
      exact .none
  | some found =>
      obtain ⟨other, rfl, hsame⟩ := Option.map_eq_some_iff.1 h.symm
      exact .some (hrelated found other hsame.symm)

/-- Instructions agree up to letter case if they are the same in lower case. -/
theorem agreesUpToCase_of_toLower_eq {order other : Instruction}
    (h : order.toLower = other.toLower) : order.AgreesUpToCase other := by
  refine ⟨congrArg (·.directive) h, ?_, ?_⟩
  · intro wanted
    rw [Text.agreeUpToCase_iff, ← part_toLower, ← part_toLower, h]
  · exact rel_of_map_eq (fun _ _ => Text.agreeUpToCase_iff.2) (congrArg (·.executeBy) h)

/-- Texts that agree up to letter case are read as instructions that do, or neither is read. -/
theorem parse?_agree {text other : String} (h : AgreeUpToCase text other) :
    Option.Rel AgreesUpToCase (parse? text) (parse? other) := by
  refine rel_of_map_eq (fun _ _ => agreesUpToCase_of_toLower_eq) ?_
  rw [← parse?_toLower, ← parse?_toLower, Text.agreeUpToCase_iff.1 h]

end Remittance.Instruction
