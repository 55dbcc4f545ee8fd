import Remittance.Instruction.Parser
import Remittance.Proofs.Text.Keyword

/-!
# Reading instructions word by word

`readWords?` reads an instruction from a list of words along the steps of its form. A part takes the
first word, a keyword drops words up to the first one that matches it, and the words are cleaned
after each step. The reader of texts goes by characters, and it reads what is read from the words
of the normalized text (`parse?_pieces`).
-/

namespace Remittance.Instruction

open Text (IsClean IsWord Sound clean matchesWord unwords wordsAfter?)

/-- The words that remain behind a keyword. -/
def passWords? (keyword : String) (words : List (List Char)) : Option (List (List Char)) :=
  (wordsAfter? keyword.toList words).map clean

/-- Walk the steps of a form along the words, which gives the instruction with its parts filled
in and the words that remain. -/
def walk? : List FormStep → Instruction → List (List Char) →
    Option (Instruction × List (List Char))
  | [], order, words => some (order, words)
  | .part _ :: _, _, [] => none
  | .part part :: steps, order, word :: rest =>
      walk? steps (order.set part (String.ofList word)) (clean rest)
  | .keyword keyword :: steps, order, words =>
      match passWords? keyword words with
      | some rest => walk? steps order rest
      | none => none

/-- The date in the words that remain after the steps of a form. -/
def wordDate? (words : List (List Char)) : Option String :=
  match passWords? dateKeyword words with
  | some (word :: _) => some (String.ofList word)
  | _ => none

/-- Read an instruction from the words behind its directive. -/
def readForm? (directive : Directive) (words : List (List Char)) : Option Instruction :=
  match walk? directive.steps (blank directive) (clean words) with
  | some (order, rest) => some { order with executeBy := wordDate? rest }
  | none => none

/-- Read an instruction from words, of which the first is its directive. -/
def readWords? : List (List Char) → Option Instruction
  | [] => none
  | word :: rest =>
      if matchesWord Directive.debit.name.toList word then readForm? .debit rest
      else if matchesWord Directive.credit.name.toList word then readForm? .credit rest
      else none

/-- The name of each directive is a word. -/
theorem isWord_name (directive : Directive) : IsWord directive.name.toList := by
  cases directive <;> decide

/-- The keywords of the two forms after the directive. -/
def stepKeywords : List String :=
  ["FROM", "ACCOUNT", "FOR", "CREDIT", "DEBIT", "TO"]

/-- Only these keywords occur in the steps of a form. -/
theorem mem_stepKeywords {directive : Directive} {keyword : String}
    (h : .keyword keyword ∈ directive.steps) : keyword ∈ stepKeywords := by
  cases directive <;>
    simp only [Directive.steps, List.mem_cons, List.not_mem_nil, reduceCtorEq, or_false,
      false_or, FormStep.keyword.injEq] at h <;>
    rcases h with rfl | rfl | rfl | rfl | rfl | rfl <;> decide

/-- The keyword of every step of a form is a word. -/
theorem isWord_of_mem_steps {directive : Directive} {keyword : String}
    (h : .keyword keyword ∈ directive.steps) : IsWord keyword.toList := by
  have hwords : ∀ keyword ∈ stepKeywords, IsWord keyword.toList := by decide
  exact hwords keyword (mem_stepKeywords h)

variable {words rest : List (List Char)} {word : List Char}

/-- A walk fills a part with the first word, and goes on behind it. -/
theorem walk?_part_eq_some_iff {filled : Part} {steps : List FormStep} {draft : Instruction}
    {found : Instruction × List (List Char)} :
    walk? (.part filled :: steps) draft words = some found ↔
      ∃ word later, words = word :: later ∧
        walk? steps (draft.set filled (String.ofList word)) (clean later) = some found := by
  cases words with
  | nil => simp [walk?]
  | cons word later => simp [walk?]

/-- A walk goes on behind a keyword. -/
theorem walk?_keyword_eq_some_iff {keyword : String} {steps : List FormStep} {draft : Instruction}
    {found : Instruction × List (List Char)} :
    walk? (.keyword keyword :: steps) draft words = some found ↔
      ∃ remaining, passWords? keyword words = some remaining ∧
        walk? steps draft remaining = some found := by
  rw [walk?]
  cases passWords? keyword words <;> simp

/-- An instruction of a form is read when its steps are walked, and its date is found in the words
that they leave. -/
theorem readForm?_eq_some_iff {directive : Directive} {order : Instruction} :
    readForm? directive words = some order ↔
      ∃ filled remaining,
        walk? directive.steps (blank directive) (clean words) = some (filled, remaining) ∧
          order = { filled with executeBy := wordDate? remaining } := by
  rw [readForm?]
  cases walk? directive.steps (blank directive) (clean words) with
  | none => simp
  | some found => simp [Prod.ext_iff, eq_comm]

/-- An instruction is read in the form of a directive that its first word matches. -/
theorem exists_of_readWords? {order : Instruction} (h : readWords? words = some order) :
    ∃ directive word rest, words = word :: rest ∧
      matchesWord directive.name.toList word = true ∧
        readForm? directive rest = some order := by
  cases words with
  | nil => simp [readWords?] at h
  | cons word rest =>
      rw [readWords?] at h
      split at h
      · rename_i hmatches
        exact ⟨.debit, word, rest, rfl, hmatches, h⟩
      · split at h
        · rename_i hmatches
          exact ⟨.credit, word, rest, rfl, hmatches, h⟩
        · simp at h

/-- A word is taken from a text as it is taken from its words. -/
theorem takeWord?_unwords (h : IsClean (word :: rest)) :
    takeWord? (unwords (word :: rest)) = some (word, unwords (clean rest)) := by
  have hne : word ≠ [] := by simpa using h.first
  have hnext : Text.nextWord (unwords (word :: rest)) = word :=
    Text.nextWord_unwords hne (h.no_space word List.mem_cons_self) rest
  have htrim := Sound.trim_behind [] h.toSound
  have hempty : word.isEmpty = false := List.isEmpty_eq_false_iff.2 hne
  rw [takeWord?, hnext, hempty, unwords, List.drop_left, htrim]
  rfl

/-- A keyword is passed in a text as it is passed in its words. -/
theorem pass?_unwords {keyword : String} (hkeyword : IsWord keyword.toList)
    (hwords : Sound words) :
    pass? keyword (unwords words) = (passWords? keyword words).map unwords := by
  rw [pass?, passWords?, Text.after?_unwords hkeyword hwords.no_space]
  cases hafter : wordsAfter? keyword.toList words with
  | none => rfl
  | some rest =>
      obtain ⟨passed, word, -, -, rfl⟩ := Text.wordsAfter?_eq_some_iff.1 hafter
      exact congrArg some (hwords.trim_behind passed)

/-- The words behind a keyword are clean. -/
theorem isClean_of_passWords? {keyword : String} (hwords : Sound words)
    (h : passWords? keyword words = some rest) : IsClean rest := by
  rw [passWords?, Option.map_eq_some_iff] at h
  obtain ⟨behind, hafter, rfl⟩ := h
  obtain ⟨passed, word, -, -, rfl⟩ := Text.wordsAfter?_eq_some_iff.1 hafter
  exact hwords.clean_rest passed

/-- The words that a walk leaves are clean. -/
theorem isClean_of_walk? {steps : List FormStep} {order result : Instruction}
    (hwords : IsClean words) (h : walk? steps order words = some (result, rest)) :
    IsClean rest := by
  induction steps generalizing order words with
  | nil =>
      cases h
      exact hwords
  | cons step steps ih =>
      cases step with
      | part filled =>
          obtain ⟨word, later, rfl, hwalk⟩ := walk?_part_eq_some_iff.1 h
          exact ih (Sound.clean_rest [] hwords.toSound) hwalk
      | keyword keyword =>
          obtain ⟨remaining, hpass, hwalk⟩ := walk?_keyword_eq_some_iff.1 h
          exact ih (isClean_of_passWords? hwords.toSound hpass) hwalk

/-- Steps are followed along a text as they are walked along its words. -/
theorem follow?_unwords {steps : List FormStep}
    (hsteps : ∀ keyword, .keyword keyword ∈ steps → IsWord keyword.toList)
    (order : Instruction) (hwords : IsClean words) :
    follow? steps order (unwords words) =
      (walk? steps order words).map fun found => (found.1, unwords found.2) := by
  -- Each step leaves clean words, which is what the next step needs to find a whole word.
  induction steps generalizing order words with
  | nil => rfl
  | cons step steps ih =>
      have hlater : ∀ keyword, .keyword keyword ∈ steps → IsWord keyword.toList :=
        fun keyword hmem => hsteps keyword (List.mem_cons_of_mem step hmem)
      cases step with
      | part part =>
          cases words with
          | nil => rfl
          | cons word words =>
              rw [follow?, takeWord?_unwords hwords, walk?]
              exact ih hlater _ (Sound.clean_rest [] hwords.toSound)
      | keyword keyword =>
          have hkeyword := hsteps keyword List.mem_cons_self
          rw [follow?, pass?_unwords hkeyword hwords.toSound, walk?]
          cases hpass : passWords? keyword words with
          | none => rfl
          | some rest => exact ih hlater order (isClean_of_passWords? hwords.toSound hpass)

/-- The date in a text is that in its words. -/
theorem date?_unwords (hwords : IsClean words) : date? (unwords words) = wordDate? words := by
  have hkeyword : IsWord dateKeyword.toList := by decide
  rw [date?, pass?_unwords hkeyword hwords.toSound, wordDate?]
  cases hpass : passWords? dateKeyword words with
  | none => rfl
  | some rest =>
      cases rest with
      | nil => rfl
      | cons word rest =>
          have hrest := isClean_of_passWords? hwords.toSound hpass
          simp only [Option.map_some, takeWord?_unwords hrest]

/-- A text is read in one form as its words are, if its first word is the directive. -/
theorem parseForm?_unwords (directive : Directive) (hwords : Sound (word :: rest)) :
    parseForm? directive (unwords (word :: rest)) =
      if matchesWord directive.name.toList word then readForm? directive rest else none := by
  have hleads : Text.leads directive.name.toList (unwords (word :: rest)) =
      matchesWord directive.name.toList word :=
    Text.leads_append_behind (isWord_name directive).2
      (hwords.no_space word List.mem_cons_self) rest
  rw [parseForm?, hleads]
  by_cases hmatches : matchesWord directive.name.toList word = true
  · have hclean : IsClean (clean rest) := Sound.clean_rest [] hwords
    have htrim := Sound.trim_behind [] hwords
    rw [if_pos hmatches, if_pos hmatches, Text.length_of_matchesWord hmatches, unwords,
      List.drop_left, htrim, follow?_unwords (fun _ => isWord_of_mem_steps) _ hclean,
      readForm?]
    cases hwalk : walk? directive.steps (blank directive) (clean rest) with
    | none => rfl
    | some found => simp only [Option.map_some, date?_unwords (isClean_of_walk? hclean hwalk)]
  · rw [if_neg hmatches, if_neg hmatches]

/-- A word matches the name of one directive only, because the two names differ in length. -/
theorem directive_unique {first second : Directive}
    (hfirst : matchesWord first.name.toList word = true)
    (hsecond : matchesWord second.name.toList word = true) : first = second := by
  have hlength := (Text.length_of_matchesWord hfirst).trans
    (Text.length_of_matchesWord hsecond).symm
  cases first <;> cases second <;> first | rfl | exact absurd hlength (by decide)

/-- The first word decides the form by the directive that it matches. -/
theorem readWords?_cons {directive : Directive}
    (h : matchesWord directive.name.toList word = true) :
    readWords? (word :: rest) = readForm? directive rest := by
  cases directive with
  | debit => rw [readWords?, if_pos h]
  | credit =>
      have hdebit : matchesWord Directive.debit.name.toList word ≠ true :=
        fun hdebit => absurd (directive_unique hdebit h) (by decide)
      rw [readWords?, if_neg hdebit, if_pos h]

/-- A text is read as words are when they are sound and it normalizes to them. -/
theorem parse?_of_words {text : String} (hwords : Sound words)
    (htext : Text.normalize text.toList = unwords words) : parse? text = readWords? words := by
  simp only [parse?, htext]
  cases words with
  | nil => rfl
  | cons word rest =>
      simp only [parseForm?_unwords _ hwords, readWords?]
      by_cases hdebit : matchesWord Directive.debit.name.toList word = true
      · have hcredit : matchesWord Directive.credit.name.toList word ≠ true :=
          fun hcredit => absurd (directive_unique hdebit hcredit) (by decide)
        rw [if_pos hdebit, if_pos hdebit, if_neg hcredit]
        cases readForm? .debit rest <;> rfl
      · rw [if_neg hdebit, if_neg hdebit]
        rfl

/-- A text is read as the pieces between the spaces of its normalized form are. -/
theorem parse?_pieces (text : String) :
    parse? text = readWords? (Text.pieces ' ' (Text.normalize text.toList)) :=
  parse?_of_words (Text.sound_pieces_normalize _) (Text.unwords_pieces _).symm

end Remittance.Instruction
