import Remittance.Proofs.Instruction.Walk
import Remittance.Value

/-!
# The grammar of instructions

`recognize?` writes out both forms of an instruction over its words, with their keywords and the
field that each word is for. A field takes the first word, a keyword drops words up to the first one
that matches it, and the words are cleaned after each step. Any value is read as the instruction
that is recognized in the words of its normalized text (`parse?_eq_recognize?`).
-/

namespace Remittance.Instruction

open Text (clean matchesWord)

/-- Take the first word as a field, and clean the words behind it. -/
def takeField? : List (List Char) → Option (String × List (List Char))
  | [] => none
  | word :: rest => some (String.ofList word, clean rest)

/-- The word behind the first `ON`, if there is one. -/
def wordBehindOn? (words : List (List Char)) : Option String := do
  let words ← passWords? "ON" words
  let (date, _) ← takeField? words
  some date

/-- The fields of an instruction in the order in which they are written. -/
structure Written where
  amount : String
  currency : String
  firstId : String
  secondId : String
  executeBy : Option String

/-- Take the fields of an instruction from the words behind its directive. The first account stands
behind one preposition, and the second one behind the counterpart and the other preposition. -/
def written? (preposition counterpart other : String) (words : List (List Char)) :
    Option Written := do
  let (amount, words) ← takeField? (clean words)
  let (currency, words) ← takeField? words
  let words ← passWords? preposition words
  let words ← passWords? "ACCOUNT" words
  let (firstId, words) ← takeField? words
  let words ← passWords? "FOR" words
  let words ← passWords? counterpart words
  let words ← passWords? other words
  let words ← passWords? "ACCOUNT" words
  let (secondId, words) ← takeField? words
  some ⟨amount, currency, firstId, secondId, wordBehindOn? words⟩

/-- Recognize the words behind `DEBIT`. The account to be debited is written first. -/
def recognizeDebit? (words : List (List Char)) : Option Instruction :=
  (written? "FROM" "CREDIT" "TO" words).map fun written =>
    { directive := .debit
      amount := written.amount
      currency := written.currency
      debitId := written.firstId
      creditId := written.secondId
      executeBy := written.executeBy }

/-- Recognize the words behind `CREDIT`. The account to be credited is written first. -/
def recognizeCredit? (words : List (List Char)) : Option Instruction :=
  (written? "TO" "DEBIT" "FROM" words).map fun written =>
    { directive := .credit
      amount := written.amount
      currency := written.currency
      debitId := written.secondId
      creditId := written.firstId
      executeBy := written.executeBy }

/-- Recognize an instruction in words, of which the first one decides the form. -/
def recognize? : List (List Char) → Option Instruction
  | [] => none
  | word :: rest =>
      if matchesWord "DEBIT".toList word then recognizeDebit? rest
      else if matchesWord "CREDIT".toList word then recognizeCredit? rest
      else none

variable {words : List (List Char)}

/-- A walk without steps leaves everything as it is. -/
theorem walk?_nil (draft : Instruction) : walk? [] draft words = some (draft, words) := rfl

/-- A walk takes the word for a part, and goes on behind it. -/
theorem walk?_part_eq_bind (filled : Part) (steps : List FormStep) (draft : Instruction) :
    walk? (.part filled :: steps) draft words =
      (takeField? words).bind fun found => walk? steps (draft.set filled found.1) found.2 := by
  cases words <;> rfl

/-- A walk passes a keyword, and goes on behind it. -/
theorem walk?_keyword_eq_bind (keyword : String) (steps : List FormStep) (draft : Instruction) :
    walk? (.keyword keyword :: steps) draft words =
      (passWords? keyword words).bind fun rest => walk? steps draft rest := by
  rw [walk?]
  cases passWords? keyword words <;> rfl

/-- An instruction of a form is what its walk has filled, with the date behind it. -/
theorem readForm?_eq_map (directive : Directive) :
    readForm? directive words =
      (walk? directive.steps (blank directive) (clean words)).map fun found =>
        { found.1 with executeBy := wordDate? found.2 } := by
  rw [readForm?]
  cases walk? directive.steps (blank directive) (clean words) <;> rfl

theorem wordDate?_eq : wordDate? words = wordBehindOn? words := by
  rw [wordDate?, wordBehindOn?, dateKeyword]
  cases passWords? "ON" words with
  | none => rfl
  | some rest => cases rest <;> rfl

/-- The steps of the debit form are those that are written out. -/
theorem readForm?_debit : readForm? .debit words = recognizeDebit? words := by
  simp only [readForm?_eq_map, Directive.steps, walk?_part_eq_bind, walk?_keyword_eq_bind,
    recognizeDebit?, written?, Option.bind_eq_bind, Option.map_bind, Function.comp_def, walk?_nil,
    wordDate?_eq, Option.map_some]
  rfl

/-- The steps of the credit form are those that are written out. -/
theorem readForm?_credit : readForm? .credit words = recognizeCredit? words := by
  simp only [readForm?_eq_map, Directive.steps, walk?_part_eq_bind, walk?_keyword_eq_bind,
    recognizeCredit?, written?, Option.bind_eq_bind, Option.map_bind, Function.comp_def, walk?_nil,
    wordDate?_eq, Option.map_some]
  rfl

/-- Reading words along the steps of a form recognizes the instruction in them. -/
theorem readWords?_eq_recognize? (words : List (List Char)) :
    readWords? words = recognize? words := by
  cases words with
  | nil => rfl
  | cons word rest =>
      simp only [readWords?, recognize?, readForm?_debit, readForm?_credit]
      rfl

/-- Any value is read as its words are recognized: the pieces between the spaces of its
normalized text. -/
theorem parse?_eq_recognize? (value : Value) :
    parse? value.asText = recognize? (Text.pieces ' ' (Text.normalize value.asText.toList)) := by
  rw [parse?_pieces, readWords?_eq_recognize?]

end Remittance.Instruction
