import Remittance.Proofs.Instruction.Parts
import Remittance.Proofs.Instruction.Walk
import Remittance.Proofs.Text.Spacing

/-!
# Text behind an instruction

Every step of a form takes the first word that fits, so words behind those of an instruction are
read in none of its steps. They can only add a date to an instruction that has none. So an
instruction in a normalized text is read in the same way with a space and any other text behind it
(`parse?_append`).
-/

namespace Remittance.Instruction

/-- `order.IsContinuedBy longer` says that `longer` is `order`, except for a date that only `longer`
has. -/
structure IsContinuedBy (order longer : Instruction) : Prop where
  directive : longer.directive = order.directive
  parts : ∀ wanted, longer.part wanted = order.part wanted
  dated : order.executeBy ≠ none → longer = order

variable {words rest : List (List Char)} {order : Instruction}

/-- Words behind others stay behind those that remain after a keyword. -/
theorem exists_passWords?_append {keyword : String} (h : passWords? keyword words = some rest)
    (more : List (List Char)) :
    ∃ later, passWords? keyword (words ++ more) = some (rest ++ later) := by
  rw [passWords?, Option.map_eq_some_iff] at h
  obtain ⟨behind, hafter, rfl⟩ := h
  obtain ⟨later, hclean⟩ := Text.exists_clean_append behind more
  exact ⟨later, by rw [passWords?, Text.wordsAfter?_append hafter, Option.map_some, hclean]⟩

/-- Words behind others stay behind those that a walk leaves, and it takes none of them. -/
theorem exists_walk?_append {steps : List FormStep} {draft result : Instruction}
    (h : walk? steps draft words = some (result, rest)) (more : List (List Char)) :
    ∃ later, walk? steps draft (words ++ more) = some (result, rest ++ later) := by
  -- Cleaning can change the words behind, so the induction is over all of them.
  induction steps generalizing draft words more with
  | nil =>
      cases h
      exact ⟨more, rfl⟩
  | cons step steps ih =>
      cases step with
      | part filled =>
          obtain ⟨word, words, rfl, hwalk⟩ := walk?_part_eq_some_iff.1 h
          obtain ⟨behind, hclean⟩ := Text.exists_clean_append words more
          obtain ⟨later, hlater⟩ := ih hwalk behind
          refine ⟨later, walk?_part_eq_some_iff.2 ⟨word, words ++ more, rfl, ?_⟩⟩
          rw [hclean, hlater]
      | keyword keyword =>
          obtain ⟨remaining, hpass, hwalk⟩ := walk?_keyword_eq_some_iff.1 h
          obtain ⟨behind, hbehind⟩ := exists_passWords?_append hpass more
          obtain ⟨later, hlater⟩ := ih hwalk behind
          exact ⟨later, walk?_keyword_eq_some_iff.2 ⟨_, hbehind, hlater⟩⟩

/-- Words behind others do not change the date in them. -/
theorem wordDate?_append {date : String} (h : wordDate? words = some date)
    (more : List (List Char)) : wordDate? (words ++ more) = some date := by
  rw [wordDate?] at h
  split at h
  · rename_i word rest hpass
    obtain ⟨later, hlater⟩ := exists_passWords?_append hpass more
    rw [wordDate?, hlater]
    exact h
  · simp at h

/-- Words behind an instruction only continue it. -/
theorem exists_readForm?_append {directive : Directive}
    (h : readForm? directive words = some order) (more : List (List Char)) :
    ∃ longer, readForm? directive (words ++ more) = some longer ∧
      order.IsContinuedBy longer := by
  obtain ⟨filled, remaining, hwalk, rfl⟩ := readForm?_eq_some_iff.1 h
  obtain ⟨behind, hclean⟩ := Text.exists_clean_append words more
  obtain ⟨later, hlater⟩ := exists_walk?_append hwalk behind
  rw [← hclean] at hlater
  refine ⟨_, readForm?_eq_some_iff.2 ⟨_, _, hlater, rfl⟩, rfl,
    fun wanted => by cases wanted <;> rfl, ?_⟩
  intro hdated
  obtain ⟨date, hdate⟩ := Option.ne_none_iff_exists'.1 hdated
  have hsame : wordDate? (remaining ++ later) = wordDate? remaining :=
    (wordDate?_append hdate later).trans hdate.symm
  rw [hsame]

/-- Words behind an instruction with its directive only continue it. -/
theorem exists_readWords?_append (h : readWords? words = some order) (more : List (List Char)) :
    ∃ longer, readWords? (words ++ more) = some longer ∧ order.IsContinuedBy longer := by
  obtain ⟨directive, word, rest, rfl, hmatches, hform⟩ := exists_of_readWords? h
  rw [List.cons_append, readWords?_cons hmatches]
  exact exists_readForm?_append hform more

/-- A text behind a space continues a normalized one by words behind its own. -/
theorem exists_words_append {text : String} (hnormal : Text.normalize text.toList = text.toList)
    (hne : text.toList ≠ []) (tail : String) :
    ∃ more, Text.Sound (Text.pieces ' ' text.toList ++ more) ∧
      Text.normalize (text ++ " " ++ tail).toList =
        Text.unwords (Text.pieces ' ' text.toList ++ more) := by
  have hsolid : Text.Solid text.toList := hnormal ▸ Text.solid_normalize text.toList
  have happart : Text.IsApart (' ' :: tail.toList) := by
    intro c hc
    obtain rfl := Option.some.inj hc
    decide
  obtain ⟨more, hmore, hspace⟩ := hsolid.normalize_append hne happart
  obtain ⟨first, others, hpieces⟩ := Text.exists_pieces_eq_cons ' ' text.toList
  have htext : (text ++ " " ++ tail).toList = text.toList ++ ' ' :: tail.toList := by simp
  have hwords : Text.normalize (text ++ " " ++ tail).toList =
      Text.unwords (Text.pieces ' ' text.toList ++ more) := by
    rw [htext, hmore, hnormal, Text.unwords_append (by simp [hpieces]), Text.unwords_pieces]
  refine ⟨more, Text.sound_of_normalize ?_ hwords, hwords⟩
  exact List.forall_mem_append.2 ⟨fun _ hmem => Text.not_mem_of_mem_pieces hmem, hspace⟩

/-- An instruction in a normalized text is read in the same way with a space and any other text
behind it, except that a date can be found there if it has none. -/
theorem parse?_append {text : String} (hnormal : Text.normalize text.toList = text.toList)
    (h : parse? text = some order) (tail : String) :
    ∃ longer, parse? (text ++ " " ++ tail) = some longer ∧ order.IsContinuedBy longer := by
  have hread : readWords? (Text.pieces ' ' text.toList) = some order := by
    rw [← h, parse?_pieces, hnormal]
  have hne : text.toList ≠ [] := by
    intro hempty
    rw [hempty] at hread
    cases hread
  obtain ⟨more, hsound, hwords⟩ := exists_words_append hnormal hne tail
  obtain ⟨longer, hlonger, hcontinues⟩ := exists_readWords?_append hread more
  exact ⟨longer, by rw [parse?_of_words hsound hwords, hlonger], hcontinues⟩

/-- An instruction behind another one is not read, except for its first word as a date. -/
theorem parse?_append_instruction :
    let text := "credit 5 usd TO ACCOUNT on for x DEBIT FROM ACCOUNT b on"
    let tail := "\u2003 DEBIT 9 NGN FROM ACCOUNT c"
    let order : Instruction := ⟨.credit, "5", "usd", "b", "on", none⟩
    Text.normalize text.toList = text.toList ∧ parse? text = some order ∧
      parse? (text ++ " " ++ tail) = some { order with executeBy := some "DEBIT" } ∧
      ∃ longer, parse? (text ++ " " ++ tail) = some longer ∧ order.IsContinuedBy longer := by
  have hread : parse? "credit 5 usd TO ACCOUNT on for x DEBIT FROM ACCOUNT b on" =
      some ⟨.credit, "5", "usd", "b", "on", none⟩ := by rfl
  have hlonger : parse? ("credit 5 usd TO ACCOUNT on for x DEBIT FROM ACCOUNT b on" ++ " " ++
      "\u2003 DEBIT 9 NGN FROM ACCOUNT c") =
      some ⟨.credit, "5", "usd", "b", "on", some "DEBIT"⟩ := by rfl
  intro text tail order
  have hnormal : Text.normalize text.toList = text.toList := by decide
  exact ⟨hnormal, hread, hlonger, parse?_append hnormal hread tail⟩

end Remittance.Instruction
