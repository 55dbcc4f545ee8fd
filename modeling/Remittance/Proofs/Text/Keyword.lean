import Mathlib.Data.List.Forall2
import Remittance.Proofs.Text.LetterCase
import Remittance.Proofs.Text.Words
import Remittance.Text.Keyword

/-!
# Searching for keywords word by word

`matchesWord` compares a keyword with one word, and `wordsAfter?` gives the words behind the first
one that matches. The search for a keyword in a text never cuts a word, so it finds the first word
of the text that matches (`after?_unwords`).
-/

namespace Remittance.Text

/-- The keyword and the word have the same letters, whatever their case. -/
def matchesWord (keyword word : List Char) : Bool :=
  keyword.length == word.length && (keyword.zip word).all fun pair => sameLetter pair.1 pair.2

/-- The words behind the first one that matches the keyword. -/
def wordsAfter? (keyword : List Char) : List (List Char) → Option (List (List Char))
  | [] => none
  | word :: rest => if matchesWord keyword word then some rest else wordsAfter? keyword rest

/-- The keyword is a word: it is not empty, and no letter of it is taken for the space. -/
def IsWord (keyword : List Char) : Prop :=
  keyword ≠ [] ∧ ∀ letter ∈ keyword, sameLetter letter ' ' = false

/-- `IsWord` is decidable letter by letter. -/
instance (keyword : List Char) : Decidable (IsWord keyword) :=
  decidable_of_iff ((!keyword.isEmpty && keyword.all (!sameLetter · ' ')) = true) (by
    simp only [IsWord, Bool.and_eq_true, Bool.not_eq_true', List.isEmpty_eq_false_iff,
      List.all_eq_true])

/-- Words are compared letter by letter. -/
theorem matchesWord_cons (letter c : Char) (keyword word : List Char) :
    matchesWord (letter :: keyword) (c :: word) =
      (sameLetter letter c && matchesWord keyword word) := by
  rw [Bool.eq_iff_iff]
  simp [matchesWord, and_left_comm]

variable {keyword word : List Char} {rest : List (List Char)}

/-- A word that matches a keyword is as long as the keyword. -/
theorem length_of_matchesWord (h : matchesWord keyword word = true) :
    keyword.length = word.length := by
  simp only [matchesWord, Bool.and_eq_true, beq_iff_eq] at h
  exact h.1

/-- The word spells the keyword, with any of its letters in lower case. -/
def Spells (keyword word : List Char) : Prop :=
  List.Forall₂ (fun letter c => c = letter ∨ c = letter.toLower) keyword word

/-- `Spells` is decidable letter by letter. -/
instance (keyword word : List Char) : Decidable (Spells keyword word) :=
  inferInstanceAs (Decidable (List.Forall₂ _ keyword word))

/-- A keyword is a spelling of itself. -/
theorem Spells.refl (keyword : List Char) : Spells keyword keyword :=
  List.forall₂_same.2 fun _ _ => .inl rfl

/-- A spelling of a keyword matches it. -/
theorem Spells.matches (h : Spells keyword word) : matchesWord keyword word = true := by
  induction h with
  | nil => rfl
  | cons hletter _ ih =>
      rw [matchesWord_cons, ih]
      rcases hletter with rfl | rfl
      · simp [sameLetter]
      · simp [sameLetter_toLower]

/-- A spelling of a keyword holds letters of the keyword, in either case. -/
theorem Spells.exists_letter (h : Spells keyword word) :
    ∀ c ∈ word, ∃ letter ∈ keyword, c = letter ∨ c = letter.toLower := by
  induction h with
  | nil => simp
  | cons hletter _ ih =>
      rw [List.forall_mem_cons]
      refine ⟨⟨_, List.mem_cons_self, hletter⟩, ?_⟩
      intro c hc
      obtain ⟨letter, hmem, hsame⟩ := ih c hc
      exact ⟨letter, List.mem_cons_of_mem _ hmem, hsame⟩

/-- None of the words matches the keyword. -/
def IsFiller (keyword : List Char) (words : List (List Char)) : Prop :=
  ∀ word ∈ words, matchesWord keyword word = false

/-- `IsFiller` is decidable word by word. -/
instance (keyword : List Char) (words : List (List Char)) : Decidable (IsFiller keyword words) :=
  inferInstanceAs (Decidable (∀ word ∈ words, _))

/-- No words stand behind a match in words that hold none. -/
theorem IsFiller.wordsAfter?_eq_none {filler : List (List Char)} (h : IsFiller keyword filler) :
    wordsAfter? keyword filler = none := by
  induction filler with
  | nil => rfl
  | cons other filler ih =>
      obtain ⟨hother, hfiller⟩ := List.forall_mem_cons.1 h
      simp [wordsAfter?, hother, ih hfiller]

/-- Filler in front of a match is passed over. -/
theorem IsFiller.wordsAfter?_append {filler : List (List Char)} (h : IsFiller keyword filler)
    (hword : matchesWord keyword word = true) (rest : List (List Char)) :
    wordsAfter? keyword (filler ++ word :: rest) = some rest := by
  induction filler with
  | nil => simp [wordsAfter?, hword]
  | cons other filler ih =>
      obtain ⟨hother, hfiller⟩ := List.forall_mem_cons.1 h
      simp [wordsAfter?, hother, ih hfiller]

/-- The words behind a match are those behind the first word that matches. -/
theorem wordsAfter?_eq_some_iff {words : List (List Char)} :
    wordsAfter? keyword words = some rest ↔
      ∃ filler word, IsFiller keyword filler ∧ matchesWord keyword word = true ∧
        words = filler ++ word :: rest := by
  constructor
  · intro h
    induction words with
    | nil => simp [wordsAfter?] at h
    | cons word words ih =>
        rw [wordsAfter?] at h
        split at h
        · rename_i hmatches
          cases h
          exact ⟨[], word, List.forall_mem_nil _, hmatches, rfl⟩
        · rename_i hother
          obtain ⟨filler, found, hfiller, hfound, rfl⟩ := ih h
          have hmore : IsFiller keyword (word :: filler) :=
            List.forall_mem_cons.2 ⟨Bool.eq_false_iff.2 hother, hfiller⟩
          exact ⟨word :: filler, found, hmore, hfound, rfl⟩
  · rintro ⟨filler, word, hfiller, hword, rfl⟩
    exact hfiller.wordsAfter?_append hword rest

/-- Words behind others do not change which word is the first that matches. -/
theorem wordsAfter?_append {words : List (List Char)} (h : wordsAfter? keyword words = some rest)
    (more : List (List Char)) : wordsAfter? keyword (words ++ more) = some (rest ++ more) := by
  obtain ⟨filler, word, hfiller, hword, rfl⟩ := wordsAfter?_eq_some_iff.1 h
  rw [List.append_assoc, List.cons_append]
  exact hfiller.wordsAfter?_append hword (rest ++ more)

/-- The keyword leads a text when it matches the first word of the text. -/
theorem leads_append_behind (hkeyword : ∀ letter ∈ keyword, sameLetter letter ' ' = false)
    (hword : ' ' ∉ word) (rest : List (List Char)) :
    leads keyword (word ++ behind ' ' rest) = matchesWord keyword word := by
  unfold leads
  induction keyword generalizing word with
  | nil =>
      cases word with
      | nil => cases rest <;> rfl
      | cons c word =>
          have hgap := isGap_of_not_mem hword c List.mem_cons_self
          simp [beginsWith, endsWord, matchesWord, hgap]
  | cons letter keyword ih =>
      rw [List.forall_mem_cons] at hkeyword
      cases word with
      | nil =>
          cases rest with
          | nil => rfl
          | cons next rest => simp [beginsWith, matchesWord, hkeyword.1]
      | cons c word =>
          simp only [List.mem_cons, not_or] at hword
          rw [matchesWord_cons, ← ih hkeyword.2 hword.2]
          simp [beginsWith, Bool.and_assoc]

/-- The search passes over the rest of a word in which it can find nothing. -/
theorem firstFrom?_false (keyword : List Char) (hword : ' ' ∉ word) (rest : List (List Char)) :
    firstFrom? keyword false (word ++ behind ' ' rest) =
      (firstFrom? keyword true (unwords rest)).map (· + (word.length + 1)) := by
  induction word with
  | nil =>
      cases rest with
      | nil => rfl
      | cons next rest => rfl
  | cons c word ih =>
      have hgap := isGap_of_not_mem hword c List.mem_cons_self
      have hrest := List.not_mem_of_not_mem_cons hword
      rw [List.cons_append, firstFrom?, hgap, ih hrest]
      simp [Option.map_map, Function.comp_def, Nat.add_assoc]

/-- The search looks at the first word as a whole, and then at the words behind it. -/
theorem firstFrom?_unwords (hkeyword : IsWord keyword) (hword : ' ' ∉ word)
    (rest : List (List Char)) :
    firstFrom? keyword true (unwords (word :: rest)) =
      if matchesWord keyword word then some 0
      else (firstFrom? keyword true (unwords rest)).map (· + (word.length + 1)) := by
  have hleads := leads_append_behind hkeyword.2 hword rest
  cases word with
  | nil =>
      have hmatches : matchesWord keyword [] = false := by
        simpa [matchesWord] using hkeyword.1
      cases rest with
      | nil => simp [unwords, firstFrom?, hmatches]
      | cons next rest =>
          rw [hmatches] at hleads ⊢
          show (if true && leads keyword ([] ++ behind ' ' (next :: rest)) then some 0 else _) = _
          rw [hleads]
          rfl
  | cons c word =>
      have hgap := isGap_of_not_mem hword c List.mem_cons_self
      have hrest := List.not_mem_of_not_mem_cons hword
      rw [unwords, ← hleads, List.cons_append, firstFrom?, hgap,
        firstFrom?_false keyword hrest]
      simp [Option.map_map, Function.comp_def, Nat.add_assoc]

/-- The text behind a keyword is the text behind the first word that matches it. -/
theorem after?_unwords (hkeyword : IsWord keyword) {words : List (List Char)}
    (hwords : ∀ word ∈ words, ' ' ∉ word) :
    after? keyword (unwords words) = (wordsAfter? keyword words).map (behind ' ') := by
  induction words with
  | nil => rfl
  | cons word rest ih =>
      rw [List.forall_mem_cons] at hwords
      rw [after?, firstFrom?_unwords hkeyword hwords.1, wordsAfter?]
      split
      · rename_i hmatches
        simp [unwords, length_of_matchesWord hmatches]
      · rw [← ih hwords.2, after?, Option.map_map]
        cases rest with
        | nil => rfl
        | cons next rest =>
            -- The space between the first word and the others is skipped along with it.
            refine congrArg (Option.map · _) (funext fun position => ?_)
            have hsplit : unwords (word :: next :: rest) =
                (word ++ [' ']) ++ unwords (next :: rest) := by
              simp [unwords]
            have hlength : position + (word.length + 1) + keyword.length =
                (word ++ [' ']).length + (position + keyword.length) := by
              simp only [List.length_append, List.length_singleton]
              omega
            rw [Function.comp_apply, hsplit, hlength, List.drop_length_add_append]

/-- A search from the beginning of a text never fails. -/
theorem search_zero (text keyword : List Char) :
    search text keyword 0 = .ok (firstFrom? keyword true text) := by
  simp [search, position?, opensAt, limit64]

end Remittance.Text
