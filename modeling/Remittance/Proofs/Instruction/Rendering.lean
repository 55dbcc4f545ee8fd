import Remittance.Proofs.Instruction.Parts
import Remittance.Proofs.Instruction.Walk
import Remittance.Proofs.Text.Spacing

/-!
# Writing instructions

`Renders order text` says that a text writes an instruction: its directive, its parts and keywords
in the order of the form, filler before each keyword, and a date or none. The letters of keywords
have either case, and any run of separators stands between two words. A text that renders an
instruction is read as that instruction (`parse?_of_renders`), also when a part is the same as a
keyword or filler matches a later one. Every instruction of plain words is rendered by some text
(`renders_formWords`).
-/

namespace Remittance.Instruction

open Text (IsApart IsBlankText IsFiller IsPlain Spaced Spells clean matchesWord wordsAfter?)

/-- `Phrase wordOf steps words` says that `words` follow the steps of a form: the word of each
part, and for each keyword some filler and a spelling of it. -/
inductive Phrase (wordOf : Part → String) : List FormStep → List (List Char) → Prop where
  | done : Phrase wordOf [] []
  | part (part steps words) :
      Phrase wordOf steps words →
      Phrase wordOf (.part part :: steps) ((wordOf part).toList :: words)
  | keyword (keyword filler word steps words) :
      IsFiller keyword.toList filler → Spells keyword.toList word → Phrase wordOf steps words →
      Phrase wordOf (.keyword keyword :: steps) (filler ++ word :: words)

/-- `Ending date words` says that `words` end an instruction with this date or none. Without a
date there may be filler, and the keyword for a date at the very end. -/
inductive Ending : Option String → List (List Char) → Prop where
  | dated (date filler word) :
      IsFiller dateKeyword.toList filler → Spells dateKeyword.toList word →
      Ending (some date) (filler ++ [word, date.toList])
  | undated (filler) : IsFiller dateKeyword.toList filler → Ending none filler
  | dangling (filler word) :
      IsFiller dateKeyword.toList filler → Spells dateKeyword.toList word →
      Ending none (filler ++ [word])

/-- `Wording order words` says that `words` write an instruction in the form of its directive. -/
inductive Wording (order : Instruction) : List (List Char) → Prop where
  | intro (opening words ending) :
      Spells order.directive.name.toList opening →
      Phrase order.part order.directive.steps words → Ending order.executeBy ending →
      Wording order (opening :: (words ++ ending))

/-- `Renders order text` says that `text` has the words of an instruction, all of them plain, with
separators between them. Blanks may stand around them, and behind a date any text that a separator
sets apart. -/
inductive Renders (order : Instruction) : List Char → Prop where
  | intro (words lead body tail) :
      Wording order words → Spaced words body → IsBlankText lead →
      (IsBlankText tail ∨ order.executeBy ≠ none ∧ IsApart tail) →
      Renders order (lead ++ body ++ tail)

variable {order : Instruction} {words rest more : List (List Char)}

/-- Replacing a word keeps the directive. -/
theorem directive_set (order : Instruction) (part : Part) (word : String) :
    (order.set part word).directive = order.directive := by
  cases part <;> rfl

/-- An instruction is its directive, its parts and its date. -/
theorem eq_of_parts {other : Instruction} (hdirective : order.directive = other.directive)
    (hparts : ∀ wanted, order.part wanted = other.part wanted)
    (hdate : order.executeBy = other.executeBy) : order = other := by
  have hamount := hparts .amount
  have hcurrency := hparts .currency
  have hdebit := hparts .debitId
  have hcredit := hparts .creditId
  cases order
  cases other
  simp_all [part]

/-- Walking the steps of a form along words that follow them fills in the parts that they name. -/
theorem Phrase.walks {wordOf : Part → String} {steps : List FormStep}
    (h : Phrase wordOf steps words) (hplain : ∀ word ∈ words, IsPlain word)
    (hrest : clean rest = rest) (draft : Instruction) :
    ∃ result, walk? steps draft (words ++ rest) = some (result, rest) ∧
      result.directive = draft.directive ∧
      ∀ wanted, result.part wanted =
        if .part wanted ∈ steps then wordOf wanted else draft.part wanted := by
  -- The words behind each step begin with a plain one, so the cleaning there changes nothing.
  induction h generalizing draft with
  | done => exact ⟨draft, rfl, rfl, fun wanted => by simp⟩
  | part filled steps words hphrase ih =>
      have hlater := (List.forall_mem_cons.1 hplain).2
      have hclean : clean (words ++ rest) = words ++ rest :=
        Text.clean_append hlater fun _ => hrest
      obtain ⟨result, hwalk, hdirective, hparts⟩ :=
        ih hlater (draft.set filled (String.ofList (wordOf filled).toList))
      refine ⟨result, ?_, ?_, ?_⟩
      · rw [List.cons_append, walk?, hclean, hwalk]
      · rw [hdirective, directive_set]
      · intro wanted
        rw [hparts, part_set, String.ofList_toList]
        by_cases hfilled : wanted = filled
        · simp [hfilled]
        · simp [hfilled]
  | keyword keyword filler word steps words hfiller hspelled hphrase ih =>
      have hlater : ∀ word ∈ words, IsPlain word := fun other hmem => hplain other (by simp [hmem])
      have hclean : clean (words ++ rest) = words ++ rest :=
        Text.clean_append hlater fun _ => hrest
      have hpass : passWords? keyword (filler ++ word :: words ++ rest) = some (words ++ rest) := by
        rw [passWords?, List.append_assoc, List.cons_append,
          hfiller.wordsAfter?_append hspelled.matches, Option.map_some, hclean]
      obtain ⟨result, hwalk, hdirective, hparts⟩ := ih hlater draft
      refine ⟨result, ?_, hdirective, ?_⟩
      · simp only [walk?, hpass, hwalk]
      · intro wanted
        simp [hparts wanted]

/-- Words with a date do not end before it. -/
theorem Ending.eq_none {date : Option String} (h : Ending date words) (hempty : words = []) :
    date = none := by
  cases h with
  | dated => simp at hempty
  | undated => rfl
  | dangling => rfl

/-- The date of an instruction is found in its ending, and what stands behind it is not read. -/
theorem Ending.wordDate?_append {date : Option String} (h : Ending date words)
    (hplain : ∀ word ∈ words, IsPlain word) (hmore : date = none → more = []) :
    wordDate? (words ++ more) = date := by
  cases h with
  | dated date filler word hfiller hspelled =>
      have hdate : clean ([date.toList] ++ more) = [date.toList] ++ more :=
        Text.clean_append (by simpa using hplain date.toList (by simp)) (by simp)
      have hpass : passWords? dateKeyword (filler ++ [word, date.toList] ++ more) =
          some ([date.toList] ++ more) := by
        rw [passWords?, List.append_assoc]
        show (wordsAfter? _ (filler ++ word :: ([date.toList] ++ more))).map clean = _
        rw [hfiller.wordsAfter?_append hspelled.matches, Option.map_some, hdate]
      rw [wordDate?, hpass]
      simp
  -- Without a date nothing stands behind the ending, where another keyword could be found.
  | undated filler hfiller =>
      rw [hmore rfl, List.append_nil, wordDate?, passWords?, hfiller.wordsAfter?_eq_none]
      rfl
  | dangling filler word hfiller hspelled =>
      rw [hmore rfl, List.append_nil, wordDate?, passWords?,
        hfiller.wordsAfter?_append hspelled.matches]
      rfl

/-- The words of an instruction are read as that instruction, and what stands behind a date
is not read. -/
theorem Wording.readWords?_append (h : Wording order words)
    (hplain : ∀ word ∈ words, IsPlain word) (hmore : order.executeBy = none → more = []) :
    readWords? (words ++ more) = some order := by
  obtain ⟨opening, words, ending, hopening, hphrase, hending⟩ := h
  rw [List.forall_mem_cons, List.forall_mem_append] at hplain
  obtain ⟨-, hwords, hlast⟩ := hplain
  have hrest : clean (ending ++ more) = ending ++ more := by
    refine Text.clean_append hlast fun hempty => ?_
    rw [hmore (hending.eq_none hempty)]
    rfl
  have hclean : clean (words ++ (ending ++ more)) = words ++ (ending ++ more) :=
    Text.clean_append hwords fun _ => hrest
  obtain ⟨result, hwalk, hdirective, hparts⟩ :=
    hphrase.walks hwords hrest (blank order.directive)
  have hdate := hending.wordDate?_append hlast hmore
  -- Every part is named by a step, so nothing is left of the blank that the walk begins with.
  have horder : { result with executeBy := order.executeBy } = order := by
    refine eq_of_parts hdirective ?_ rfl
    intro wanted
    have hpart := hparts wanted
    rw [if_pos (part_mem_steps order.directive wanted)] at hpart
    exact hpart
  rw [List.cons_append, readWords?_cons hopening.matches, List.append_assoc, readForm?,
    hclean, hwalk]
  simp only [hdate, horder]

/-- A text that renders an instruction has sound words, which are read as it. -/
theorem Renders.exists_words {text : List Char} (h : Renders order text) :
    ∃ words, Text.Sound words ∧ Text.normalize text = Text.unwords words ∧
      readWords? words = some order := by
  obtain ⟨words, lead, body, tail, hwording, hspaced, hlead, htail | ⟨hdate, htail⟩⟩ := h
  · have hnormal := hspaced.normalize_blank hlead htail
    have hspace : ∀ word ∈ words, ' ' ∉ word :=
      fun word hmem => (hspaced.isPlain word hmem).no_space
    have hread : readWords? (words ++ []) = some order :=
      hwording.readWords?_append hspaced.isPlain fun _ => rfl
    rw [List.append_nil] at hread
    exact ⟨words, Text.sound_of_normalize hspace hnormal, hnormal, hread⟩
  · obtain ⟨more, hnormal, hspace⟩ := hspaced.normalize_apart hlead htail
    exact ⟨words ++ more, Text.sound_of_normalize hspace hnormal, hnormal,
      hwording.readWords?_append hspaced.isPlain fun hnone => absurd hnone hdate⟩

/-- A text that renders an instruction is read as that instruction. -/
theorem parse?_of_renders {text : String} (h : Renders order text.toList) :
    parse? text = some order := by
  obtain ⟨words, hsound, hnormal, hread⟩ := h.exists_words
  rw [parse?_of_words hsound hnormal, hread]

/-- An instruction with keywords for parts is read, behind filler that looks like later ones. -/
theorem parse?_of_renders_keywords :
    Renders ⟨.debit, "FOR", "ACCOUNT", "ON", "TO", some "from"⟩
      " debit\r\nFOR ACCOUNT to account From ACCOUNT ON FOR CREDIT tO ACCOUNT TO on from a".toList ∧
    parse? " debit\r\nFOR ACCOUNT to account From ACCOUNT ON FOR CREDIT tO ACCOUNT TO on from a" =
      some ⟨.debit, "FOR", "ACCOUNT", "ON", "TO", some "from"⟩ := by
  have hphrase : Phrase (part ⟨.debit, "FOR", "ACCOUNT", "ON", "TO", some "from"⟩)
      Directive.debit.steps
      (["FOR", "ACCOUNT", "to", "account", "From", "ACCOUNT", "ON", "FOR", "CREDIT", "tO",
        "ACCOUNT", "TO"].map String.toList) :=
    .part _ _ _ <| .part _ _ _ <|
    .keyword _ ["to".toList, "account".toList] "From".toList _ _ (by decide) (by decide) <|
    .keyword _ [] "ACCOUNT".toList _ _ (by decide) (by decide) <| .part _ _ _ <|
    .keyword _ [] "FOR".toList _ _ (by decide) (by decide) <|
    .keyword _ [] "CREDIT".toList _ _ (by decide) (by decide) <|
    .keyword _ [] "tO".toList _ _ (by decide) (by decide) <|
    .keyword _ [] "ACCOUNT".toList _ _ (by decide) (by decide) <| .part _ _ _ .done
  have hending : Ending (some "from") (["on", "from"].map String.toList) :=
    .dated "from" [] "on".toList (by decide) (by decide)
  have hplain : ∀ word ∈ ["FOR", "ACCOUNT", "to", "account", "From", "ACCOUNT", "ON", "FOR",
      "CREDIT", "tO", "ACCOUNT", "TO", "on", "from"].map String.toList, IsPlain word := by
    decide
  have hspaced := Spaced.cons "debit".toList "\r\n".toList _ _ (by decide) (by decide)
    (Text.spaced_unwords (by decide) hplain)
  have hrenders := Renders.intro _ " ".toList _ " a".toList
    (.intro "debit".toList _ _ (by decide) hphrase hending) hspaced (by decide)
    (.inr ⟨by simp, by decide⟩)
  exact ⟨hrenders, parse?_of_renders hrenders⟩

/-- The word for one step of a form. -/
def stepWord (wordOf : Part → String) : FormStep → List Char
  | .part part => (wordOf part).toList
  | .keyword keyword => keyword.toList

/-- The words for a date or none. -/
def dateWords : Option String → List (List Char)
  | none => []
  | some date => [dateKeyword.toList, date.toList]

/-- The words of an instruction in the form of its directive, without filler. -/
def formWords (order : Instruction) : List (List Char) :=
  order.directive.name.toList ::
    (order.directive.steps.map (stepWord order.part) ++ dateWords order.executeBy)

/-- The words for steps follow them. -/
theorem phrase_stepWord (wordOf : Part → String) (steps : List FormStep) :
    Phrase wordOf steps (steps.map (stepWord wordOf)) := by
  induction steps with
  | nil => exact .done
  | cons step steps ih =>
      cases step with
      | part part => exact .part part steps _ ih
      | keyword keyword =>
          exact .keyword keyword [] _ steps _ (by simp [IsFiller]) (Spells.refl _) ih

/-- The words for a date end an instruction with it. -/
theorem ending_dateWords (date : Option String) : Ending date (dateWords date) := by
  cases date with
  | none => exact .undated [] (by simp [IsFiller])
  | some date => exact .dated date [] _ (by simp [IsFiller]) (Spells.refl _)

/-- The keyword of every step of a form is plain. -/
theorem isPlain_of_mem_steps {directive : Directive} {keyword : String}
    (h : .keyword keyword ∈ directive.steps) : IsPlain keyword.toList := by
  have hplain : ∀ keyword ∈ stepKeywords, IsPlain keyword.toList := by decide
  exact hplain keyword (mem_stepKeywords h)

/-- Every instruction of plain words is rendered by its words with a space between them. -/
theorem renders_formWords (hparts : ∀ wanted, IsPlain (order.part wanted).toList)
    (hdate : ∀ date ∈ order.executeBy, IsPlain date.toList) :
    Renders order (Text.unwords (formWords order)) := by
  have hplain : ∀ word ∈ formWords order, IsPlain word := by
    rw [formWords, List.forall_mem_cons, List.forall_mem_append]
    refine ⟨?_, ?_, ?_⟩
    · cases order.directive <;> decide
    · rw [List.forall_mem_map]
      intro step hstep
      cases step with
      | part part => exact hparts part
      | keyword keyword => exact isPlain_of_mem_steps hstep
    · cases hexecuteBy : order.executeBy with
      | none => simp [dateWords]
      | some date =>
          have hword := hdate date hexecuteBy
          have hkeyword : IsPlain dateKeyword.toList := by decide
          simp [dateWords, hkeyword, hword]
  have hwording : Wording order (formWords order) :=
    .intro _ _ _ (Spells.refl _) (phrase_stepWord _ _) (ending_dateWords _)
  have hspaced := Text.spaced_unwords (by simp [formWords]) hplain
  have hrenders := Renders.intro _ [] _ [] hwording hspaced (by decide) (.inl (by decide))
  rwa [List.nil_append, List.append_nil] at hrenders

end Remittance.Instruction
