import Remittance.Proofs.Instruction.Parts
import Remittance.Proofs.Instruction.Walk

/-!
# Where the words of an instruction stand

`tokens` lists the words of an instruction in the order of its form. They are words of the
normalized text that stand in it in this order, each without the blanks that it begins with
(`parse?_tokens`). Only separators are collapsed, so a word of the text can begin with other
blanks, and then the instruction has not all of it (`not_parse?_tokens_whole`).
-/

namespace Remittance.Instruction

open Text (bare clean isBlank normalize pieces)

/-- The parts that the steps of a form fill, in order. -/
def filledParts : List FormStep → List Part
  | [] => []
  | .part filled :: steps => filled :: filledParts steps
  | .keyword _ :: steps => filledParts steps

/-- The words of an instruction in the order of its form, with the date at the end. -/
def tokens (order : Instruction) : List String :=
  (filledParts order.directive.steps).map order.part ++ order.executeBy.toList

/-- A word as it is read, without the blanks that it begins with. -/
def asRead (word : List Char) : String :=
  String.ofList (bare word)

variable {words rest : List (List Char)} {word : List Char}

/-- What is read of cleaned words is read of the words themselves. -/
theorem map_asRead_clean_sublist (words : List (List Char)) :
    ((clean words).map asRead).Sublist (words.map asRead) := by
  have hsublist := (Text.map_bare_clean_sublist words).map String.ofList
  rwa [List.map_map, List.map_map] at hsublist

/-- The first of cleaned words is read as it is. -/
theorem asRead_of_clean_eq_cons (h : clean words = word :: rest) :
    asRead word = String.ofList word := by
  have hhead : word ∈ (clean words).head? := by
    rw [h]
    rfl
  exact congrArg String.ofList (Text.bare_of_mem_head?_clean hhead)

/-- The words that remain behind a keyword are words of the text, cleaned. -/
theorem exists_clean_of_passWords? {keyword : String} (h : passWords? keyword words = some rest) :
    ∃ later, rest = clean later ∧ later.Sublist words := by
  rw [passWords?, Option.map_eq_some_iff] at h
  obtain ⟨later, hafter, rfl⟩ := h
  obtain ⟨passed, found, -, -, rfl⟩ := Text.wordsAfter?_eq_some_iff.1 hafter
  exact ⟨later, rfl, (List.sublist_cons_self found later).trans (List.sublist_append_right _ _)⟩

/-- Walking steps keeps what filling their parts keeps. -/
theorem walk?_keeps {View : Type} (view : Instruction → View) {steps : List FormStep}
    {draft result : Instruction}
    (hview : ∀ filled ∈ filledParts steps, ∀ draft word,
      view (set draft filled word) = view draft)
    (h : walk? steps draft words = some (result, rest)) : view result = view draft := by
  induction steps generalizing draft words with
  | nil =>
      cases h
      rfl
  | cons step steps ih =>
      cases step with
      | part filled =>
          rw [filledParts, List.forall_mem_cons] at hview
          obtain ⟨word, later, rfl, hwalk⟩ := walk?_part_eq_some_iff.1 h
          rw [ih hview.2 hwalk, hview.1]
      | keyword keyword =>
          obtain ⟨remaining, -, hwalk⟩ := walk?_keyword_eq_some_iff.1 h
          exact ih hview hwalk

/-- Walking steps keeps the directive. -/
theorem walk?_directive {steps : List FormStep} {draft result : Instruction}
    (h : walk? steps draft words = some (result, rest)) : result.directive = draft.directive :=
  walk?_keeps directive (fun filled _ draft word => by cases filled <;> rfl) h

/-- Walking steps keeps the word for a part that none of them fills. -/
theorem walk?_part {steps : List FormStep} {draft result : Instruction} {wanted : Part}
    (hsteps : wanted ∉ filledParts steps)
    (h : walk? steps draft words = some (result, rest)) :
    result.part wanted = draft.part wanted := by
  refine walk?_keeps (·.part wanted) (fun filled hfilled draft word => ?_) h
  have hother : wanted ≠ filled := fun hsame => hsteps (hsame ▸ hfilled)
  rw [part_set, if_neg hother]

/-- Walking the steps of a form reads the words of its parts in order, before what remains. -/
theorem walk?_sublist {steps : List FormStep} {draft result : Instruction}
    (hsteps : (filledParts steps).Nodup)
    (h : walk? steps draft (clean words) = some (result, rest)) :
    ((filledParts steps).map result.part ++ rest.map asRead).Sublist (words.map asRead) := by
  -- Each step begins with cleaned words, of which the first is read as it is.
  induction steps generalizing draft words with
  | nil =>
      cases h
      exact map_asRead_clean_sublist words
  | cons step steps ih =>
      cases step with
      | part filled =>
          obtain ⟨word, later, hclean, hwalk⟩ := walk?_part_eq_some_iff.1 h
          rw [filledParts, List.nodup_cons] at hsteps
          have hword : result.part filled = asRead word := by
            rw [walk?_part hsteps.1 hwalk, part_set, if_pos rfl, asRead_of_clean_eq_cons hclean]
          have hwords := map_asRead_clean_sublist words
          rw [hclean, List.map_cons] at hwords
          rw [filledParts, List.map_cons, hword, List.cons_append]
          exact ((ih hsteps.2 hwalk).cons_cons (asRead word)).trans hwords
      | keyword keyword =>
          obtain ⟨remaining, hpass, hwalk⟩ := walk?_keyword_eq_some_iff.1 h
          obtain ⟨later, rfl, hlater⟩ := exists_clean_of_passWords? hpass
          have hread : (later.map asRead).Sublist (words.map asRead) :=
            (hlater.map asRead).trans (map_asRead_clean_sublist words)
          exact (ih hsteps hwalk).trans hread

/-- The date is a word of those that remain, as it is read. -/
theorem wordDate?_sublist (words : List (List Char)) :
    (wordDate? words).toList.Sublist (words.map asRead) := by
  rw [wordDate?]
  split
  · rename_i word rest hpass
    obtain ⟨later, hclean, hlater⟩ := exists_clean_of_passWords? hpass
    have hread := map_asRead_clean_sublist later
    rw [← hclean, List.map_cons, asRead_of_clean_eq_cons hclean.symm] at hread
    exact ((List.singleton_sublist.2 List.mem_cons_self).trans hread).trans (hlater.map asRead)
  · exact List.nil_sublist _

/-- Each form fills every part once. -/
theorem nodup_filledParts (directive : Directive) : (filledParts directive.steps).Nodup := by
  cases directive <;> decide

/-- An instruction is read with words that stand in order. -/
theorem readWords?_sublist {order : Instruction} (h : readWords? words = some order) :
    order.tokens.Sublist (words.map asRead) := by
  obtain ⟨directive, word, rest, rfl, -, hform⟩ := exists_of_readWords? h
  obtain ⟨filled, remaining, hwalk, rfl⟩ := readForm?_eq_some_iff.1 hform
  have hdirective : filled.directive = directive := walk?_directive hwalk
  have hparts := walk?_sublist (nodup_filledParts directive) hwalk
  have hdate := (wordDate?_sublist remaining).append_left
    ((filledParts directive.steps).map filled.part)
  have htokens : tokens { filled with executeBy := wordDate? remaining } =
      (filledParts directive.steps).map filled.part ++ (wordDate? remaining).toList := by
    rw [← hdirective]
    rfl
  have hrest : (rest.map asRead).Sublist ((word :: rest).map asRead) :=
    (List.sublist_cons_self word rest).map asRead
  rw [htokens]
  exact (hdate.trans hparts).trans hrest

/-- The words of an instruction are words of the normalized text that stand there in the order of
the form, each without the blanks that it begins with. So they are whole words of a text in which
no word begins with a blank. -/
theorem parse?_tokens {text : String} {order : Instruction} (h : parse? text = some order) :
    (∃ found : List (List Char), found.Sublist (pieces ' ' (normalize text.toList)) ∧
      order.tokens = found.map asRead) ∧
      ((∀ word ∈ pieces ' ' (normalize text.toList), ∀ c ∈ word.head?, isBlank c = false) →
        order.tokens.Sublist ((pieces ' ' (normalize text.toList)).map String.ofList)) := by
  have hread : readWords? (pieces ' ' (normalize text.toList)) = some order := by
    rw [← parse?_pieces, h]
  have hsublist := readWords?_sublist hread
  refine ⟨List.sublist_map_iff.1 hsublist, ?_⟩
  intro hwords
  have hwhole : (pieces ' ' (normalize text.toList)).map asRead =
      (pieces ' ' (normalize text.toList)).map String.ofList :=
    List.map_congr_left fun word hmem =>
      congrArg String.ofList (Text.bare_eq_self_iff.2 (hwords word hmem))
  rwa [hwhole] at hsublist

/-- A blank at the end of a word is read with it, here as a part of an id. -/
theorem parse?_tokens_trailing_blank :
    let text := "CREDIT 5 USD TO ACCOUNT on ON FOR DEBIT FROM ACCOUNT a\u00a0 on  x"
    let order : Instruction := ⟨.credit, "5", "USD", "a\u00a0", "on", some "x"⟩
    parse? text = some order ∧
      (∃ found : List (List Char), found.Sublist (pieces ' ' (normalize text.toList)) ∧
        order.tokens = found.map asRead) ∧
      (∀ word ∈ pieces ' ' (normalize text.toList), ∀ c ∈ word.head?, isBlank c = false) ∧
      order.tokens.Sublist ((pieces ' ' (normalize text.toList)).map String.ofList) := by
  have hread : parse? "CREDIT 5 USD TO ACCOUNT on ON FOR DEBIT FROM ACCOUNT a\u00a0 on  x" =
      some ⟨.credit, "5", "USD", "a\u00a0", "on", some "x"⟩ := by rfl
  intro text order
  have hheads : ((pieces ' ' (normalize text.toList)).filterMap List.head?).all (!isBlank ·) =
      true := by decide
  have hwords : ∀ word ∈ pieces ' ' (normalize text.toList), ∀ c ∈ word.head?,
      isBlank c = false := by
    intro word hmem c hc
    simpa using List.all_eq_true.1 hheads c (List.mem_filterMap.2 ⟨word, hmem, hc⟩)
  obtain ⟨hfound, hwhole⟩ := parse?_tokens hread
  exact ⟨hread, hfound, hwords, hwhole hwords⟩

/-- The words of an instruction need not be whole words of its text: an id that begins with a
no-break space is read as the one without it. -/
theorem not_parse?_tokens_whole :
    ¬ ∀ text order, parse? text = some order →
      order.tokens.Sublist ((pieces ' ' (normalize text.toList)).map String.ofList) := by
  intro hwhole
  have hread : parse? "DEBIT 5 USD FROM ACCOUNT \u00a0a FOR CREDIT TO ACCOUNT b" =
      some ⟨.debit, "5", "USD", "a", "b", none⟩ := by rfl
  have hmem := (hwhole _ _ hread).subset (a := "a") (by decide)
  revert hmem
  decide

end Remittance.Instruction
