import Mathlib.Data.List.DropRight
import Remittance.Proofs.Text.Words

/-!
# Words with separators between them

`Spaced words text` says that a text writes plain words with a run of separators between each two.
Normalizing such a text gives the words with one space between each two, also with blanks around
them (`Spaced.normalize_blank`) or any text behind a separator after them
(`Spaced.normalize_apart`).
-/

namespace Remittance.Text

/-- The text is a run of separators. -/
def IsBreak (text : List Char) : Prop :=
  text ≠ [] ∧ ∀ c ∈ text, isSeparator c = true

/-- `IsBreak` is decidable character by character. -/
instance (text : List Char) : Decidable (IsBreak text) :=
  decidable_of_iff ((!text.isEmpty && text.all isSeparator) = true) (by
    simp only [IsBreak, Bool.and_eq_true, Bool.not_eq_true', List.isEmpty_eq_false_iff,
      List.all_eq_true])

/-- `Spaced words text` says that `text` has the plain words in order, with a run of separators
between each two. -/
inductive Spaced : List (List Char) → List Char → Prop where
  | single (word) : IsPlain word → Spaced [word] word
  | cons (word gap words text) :
      IsPlain word → IsBreak gap → Spaced words text →
      Spaced (word :: words) (word ++ gap ++ text)

/-- The text is blank to its end. -/
def IsBlankText (text : List Char) : Prop :=
  ∀ c ∈ text, isBlank c = true

/-- `IsBlankText` is decidable character by character. -/
instance (text : List Char) : Decidable (IsBlankText text) :=
  decidable_of_iff (text.all isBlank = true) List.all_eq_true

/-- The text is empty or begins with a separator, so a word before it ends there. -/
def IsApart (text : List Char) : Prop :=
  ∀ c, text.head? = some c → isSeparator c = true

/-- `IsApart` is decidable at the first character. -/
instance (text : List Char) : Decidable (IsApart text) :=
  decidable_of_iff (text.head?.all isSeparator = true) (Option.all_eq_true isSeparator text.head?)

variable {words : List (List Char)} {text lead tail : List Char}

/-- There is a word in every spaced text. -/
theorem Spaced.ne_nil (h : Spaced words text) : words ≠ [] := by
  cases h <;> simp

/-- The words of a spaced text are plain. -/
theorem Spaced.isPlain (h : Spaced words text) : ∀ word ∈ words, IsPlain word := by
  induction h with
  | single word hword => simpa using hword
  | cons word gap words text hword _ _ ih => exact List.forall_mem_cons.2 ⟨hword, ih⟩

/-- Plain words with a space between them are a spaced text. -/
theorem spaced_unwords (hne : words ≠ []) (h : ∀ word ∈ words, IsPlain word) :
    Spaced words (unwords words) := by
  induction words with
  | nil => exact absurd rfl hne
  | cons word words ih =>
      obtain ⟨hword, hwords⟩ := List.forall_mem_cons.1 h
      cases words with
      | nil =>
          rw [unwords, behind_nil, List.append_nil]
          exact .single word hword
      | cons next words =>
          have hspaced := Spaced.cons word [' '] _ _ hword (by decide) (ih (by simp) hwords)
          rwa [List.append_assoc] at hspaced

/-- A spaced text begins with a character that is not blank. -/
theorem Spaced.exists_cons (h : Spaced words text) :
    ∃ c rest, text = c :: rest ∧ isBlank c = false := by
  cases h with
  | single word hword => exact hword.exists_cons
  | cons word gap words text hword _ _ =>
      obtain ⟨c, rest, rfl, hc⟩ := hword.exists_cons
      exact ⟨c, rest ++ gap ++ text, rfl, hc⟩

/-- A spaced text does not end in a blank. -/
theorem Spaced.solid (h : Spaced words text) : Solid text := by
  induction h with
  | single word hword => exact fun c hc => hword.no_blank c (List.mem_of_getLast? hc)
  | cons word gap words text _ _ htext ih =>
      obtain ⟨first, rest, rfl, _⟩ := htext.exists_cons
      intro c hc
      rw [List.getLast?_append_of_ne_nil _ (by simp)] at hc
      exact ih c hc

/-- The blanks at the end of a text behind a solid one are removed as if it stood alone. -/
theorem Solid.rdropWhile_append (h : Solid text) (tail : List Char) :
    (text ++ tail).rdropWhile isBlank = text ++ tail.rdropWhile isBlank := by
  induction tail using List.reverseRecOn with
  | nil =>
      have htext : text.rdropWhile isBlank = text := by
        rw [List.rdropWhile_eq_self_iff]
        intro hne
        simp [h _ (List.getLast?_eq_some_getLast hne)]
      simp [htext]
  | append_singleton tail c ih =>
      rw [← List.append_assoc, List.rdropWhile_concat, List.rdropWhile_concat, ih]
      split <;> simp

/-- Trimming a text removes the blanks in front first, and then those at the end. -/
theorem trim_eq_rdropWhile (text : List Char) :
    trim text = (text.dropWhile isBlank).rdropWhile isBlank :=
  -- `trim` reverses the text for its second pass, as `rdropWhile` does.
  rfl

/-- Blanks in front of a spaced text are trimmed, and of what follows it only blanks at the end. -/
theorem Spaced.trim_append (h : Spaced words text) (hlead : IsBlankText lead)
    (tail : List Char) :
    trim (lead ++ text ++ tail) = text ++ tail.rdropWhile isBlank := by
  obtain ⟨first, rest, htext, hfirst⟩ := h.exists_cons
  have hfront : (lead ++ text ++ tail).dropWhile isBlank = text ++ tail := by
    rw [List.append_assoc, List.dropWhile_append_of_pos hlead, htext]
    simp [hfirst]
  rw [trim_eq_rdropWhile, hfront, h.solid.rdropWhile_append]

/-- Collapsing separators keeps a word. -/
theorem collapseFrom_word {word : List Char} (h : IsPlain word) (afterSpace : Bool)
    (rest : List Char) :
    collapseFrom afterSpace (word ++ rest) = word ++ collapseFrom false rest := by
  -- The first character turns the flag off, so the induction is on what stands behind it.
  have hkeeps : ∀ word : List Char, (∀ c ∈ word, isSeparator c = false) →
      collapseFrom false (word ++ rest) = word ++ collapseFrom false rest := by
    intro word hword
    induction word with
    | nil => rfl
    | cons c word ih =>
        rw [List.forall_mem_cons] at hword
        simp [collapseFrom, hword.1, ih hword.2]
  obtain ⟨c, word, rfl⟩ := List.exists_cons_of_ne_nil h.ne_nil
  have hword := List.forall_mem_cons.1 h.no_separator
  simp [collapseFrom, hword.1, hkeeps word hword.2]

/-- Collapsing separators behind a space passes over them. -/
theorem collapseFrom_true {gap : List Char} (h : ∀ c ∈ gap, isSeparator c = true)
    (rest : List Char) : collapseFrom true (gap ++ rest) = collapseFrom true rest := by
  induction gap with
  | nil => rfl
  | cons c gap ih =>
      rw [List.forall_mem_cons] at h
      rw [List.cons_append, collapseFrom, if_pos h.1, if_pos rfl, ih h.2]

/-- Collapsing separators behind a word writes one space for them. -/
theorem IsBreak.collapseFrom_false {gap : List Char} (h : IsBreak gap) (rest : List Char) :
    collapseFrom false (gap ++ rest) = ' ' :: collapseFrom true rest := by
  obtain ⟨hne, hgap⟩ := h
  obtain ⟨c, gap, rfl⟩ := List.exists_cons_of_ne_nil hne
  rw [List.forall_mem_cons] at hgap
  rw [List.cons_append, collapseFrom, if_pos hgap.1, if_neg Bool.false_ne_true,
    collapseFrom_true hgap.2]

/-- Collapsing separators writes one space between the words of a spaced text, whatever follows. -/
theorem Spaced.collapseFrom_append (h : Spaced words text) (afterSpace : Bool)
    (rest : List Char) :
    collapseFrom afterSpace (text ++ rest) = unwords words ++ collapseFrom false rest := by
  induction h generalizing afterSpace with
  | single word hword => rw [collapseFrom_word hword, unwords, behind_nil, List.append_nil]
  | cons word gap words text hword hgap htext ih =>
      have hbehind : behind ' ' words = ' ' :: unwords words := by
        obtain ⟨next, words, rfl⟩ := List.exists_cons_of_ne_nil htext.ne_nil
        rfl
      rw [List.append_assoc, List.append_assoc, collapseFrom_word hword,
        hgap.collapseFrom_false, ih, unwords, hbehind]
      simp

/-- Words behind others stand behind spaces. -/
theorem unwords_append (h : words ≠ []) (more : List (List Char)) :
    unwords (words ++ more) = unwords words ++ behind ' ' more := by
  obtain ⟨word, words, rfl⟩ := List.exists_cons_of_ne_nil h
  simp [unwords, behind]

/-- Collapsing a text that ends the word before it gives words behind spaces. -/
theorem IsApart.exists_behind (h : IsApart text) :
    ∃ more : List (List Char), collapseFrom false text = behind ' ' more ∧
      ∀ word ∈ more, ' ' ∉ word := by
  cases text with
  | nil => exact ⟨[], rfl, by simp⟩
  | cons c rest =>
      let more := pieces ' ' (collapseFrom true rest)
      have hmore : behind ' ' more = ' ' :: collapseFrom true rest := by
        obtain ⟨piece, others, hpieces⟩ := exists_pieces_eq_cons ' ' (collapseFrom true rest)
        rw [eq_append_behind hpieces]
        exact congrArg (behind ' ') hpieces
      refine ⟨more, ?_, fun word hmem => not_mem_of_mem_pieces hmem⟩
      rw [hmore, collapseFrom, if_pos (h c rfl), if_neg Bool.false_ne_true]

/-- Blanks removed at the end of a text leave one that ends the word before it as well. -/
theorem IsApart.rdropWhile (h : IsApart text) : IsApart (text.rdropWhile isBlank) := by
  obtain ⟨rest, hrest⟩ := List.rdropWhile_prefix isBlank text
  intro c hc
  exact h c (by rw [← hrest, List.head?_append, hc]; rfl)

/-- Separators behind a character that is none are collapsed apart from those before it. -/
theorem collapseFrom_append_cons {c : Char} (hc : isSeparator c = false) (front rest : List Char)
    (afterSpace : Bool) :
    collapseFrom afterSpace (front ++ c :: rest) =
      collapseFrom afterSpace (front ++ [c]) ++ collapseFrom false rest := by
  induction front generalizing afterSpace with
  | nil => simp [collapseFrom, hc]
  | cons first front ih =>
      simp only [List.cons_append, collapseFrom, ih]
      split
      · split <;> rfl
      · rfl

/-- Blanks are trimmed on both sides of a character that is none. -/
theorem trim_append_cons {c : Char} (hc : isBlank c = false) (front rest : List Char) :
    trim (front ++ c :: rest) = front.dropWhile isBlank ++ c :: rest.rdropWhile isBlank := by
  have hfront : (front ++ c :: rest).dropWhile isBlank =
      (front.dropWhile isBlank ++ [c]) ++ rest := by
    rw [List.dropWhile_append]
    split
    · rename_i hblank
      rw [List.isEmpty_iff] at hblank
      simp [hblank, hc]
    · simp
  have hsolid : Solid (front.dropWhile isBlank ++ [c]) := by
    intro last hlast
    obtain rfl : c = last := by simpa using hlast
    exact hc
  rw [trim_eq_rdropWhile, hfront, hsolid.rdropWhile_append, List.append_assoc,
    List.singleton_append]

/-- Normalizing a text with a separator and anything behind it gives the normalized text first, if
that does not end in a blank itself. -/
theorem Solid.normalize_append (h : Solid text) (hne : text ≠ []) (htail : IsApart tail) :
    ∃ more, normalize (text ++ tail) = normalize text ++ behind ' ' more ∧
      ∀ word ∈ more, ' ' ∉ word := by
  obtain ⟨front, c, rfl⟩ := (List.eq_nil_or_concat' text).resolve_left hne
  have hc : isBlank c = false := h c (by simp)
  obtain ⟨more, hmore, hspace⟩ := htail.rdropWhile.exists_behind
  refine ⟨more, ?_, hspace⟩
  rw [List.append_assoc, List.singleton_append]
  unfold normalize collapse
  rw [trim_append_cons hc, trim_append_cons hc,
    collapseFrom_append_cons (isSeparator_of_not_isBlank hc), hmore, List.rdropWhile_nil]

/-- The words of a text that is normalized to them are sound when they hold no space. -/
theorem sound_of_normalize (hspace : ∀ word ∈ words, ' ' ∉ word)
    (h : normalize text = unwords words) : Sound words where
  no_space := hspace
  solid := h ▸ solid_normalize text

/-- Normalizing a spaced text with blanks around it gives its words. -/
theorem Spaced.normalize_blank (h : Spaced words text) (hlead : IsBlankText lead)
    (htail : IsBlankText tail) : normalize (lead ++ text ++ tail) = unwords words := by
  have hend : tail.rdropWhile isBlank = [] := List.rdropWhile_eq_nil_iff.2 htail
  rw [normalize, h.trim_append hlead, hend, collapse, h.collapseFrom_append]
  simp [collapseFrom]

/-- Normalizing a spaced text with a separator and anything behind it gives its words first. -/
theorem Spaced.normalize_apart (h : Spaced words text) (hlead : IsBlankText lead)
    (htail : IsApart tail) :
    ∃ more, normalize (lead ++ text ++ tail) = unwords (words ++ more) ∧
      ∀ word ∈ words ++ more, ' ' ∉ word := by
  obtain ⟨first, rest, htext, -⟩ := h.exists_cons
  have hsolid : Solid (lead ++ text) := by
    intro c hc
    rw [htext, List.getLast?_append_of_ne_nil _ (by simp), ← htext] at hc
    exact h.solid c hc
  have hbody : normalize (lead ++ text) = unwords words := by
    have hblank : normalize (lead ++ text ++ []) = unwords words :=
      h.normalize_blank hlead (by decide)
    rwa [List.append_nil] at hblank
  obtain ⟨more, hmore, hspace⟩ := hsolid.normalize_append (by simp [htext]) htail
  refine ⟨more, ?_, ?_⟩
  · rw [hmore, hbody, unwords_append h.ne_nil]
  · exact List.forall_mem_append.2 ⟨fun word hmem => (h.isPlain word hmem).no_space, hspace⟩

end Remittance.Text
