import Mathlib.Data.List.Forall2
import Remittance.Proofs.Text.Digits
import Remittance.Proofs.Text.Keyword

/-!
# Texts in lower case

Blanks, separators, and the matching of keywords do not tell a capital letter of ASCII from the
small one. So each step from a text to its words gives the same for a text in lower case, in lower
case (`normalize_map`, `pieces_map`, `wordsAfter?_map`). Two texts agree up to letter case when
they are the same in lower case (`agreeUpToCase_iff`).
-/

namespace Remittance.Text

/-- The texts have the same characters in order, except that a letter of ASCII may be a capital in
one of them and small in the other. -/
def AgreeUpToCase (first second : String) : Prop :=
  List.Forall₂ (fun c d => c.toLower = d.toLower) first.toList second.toList

/-- `AgreeUpToCase` is decidable character by character. -/
instance (first second : String) : Decidable (AgreeUpToCase first second) :=
  inferInstanceAs (Decidable (List.Forall₂ _ first.toList second.toList))

/-- A text in lower case has its characters in lower case. -/
theorem toList_toLower (text : String) : text.toLower.toList = text.toList.map Char.toLower :=
  String.toList_map

theorem toLower_ofList (text : List Char) :
    (String.ofList text).toLower = String.ofList (text.map Char.toLower) := by
  rw [← String.toList_inj, toList_toLower, String.toList_ofList, String.toList_ofList]

/-- Texts agree up to letter case when they are the same in lower case. -/
theorem agreeUpToCase_iff {first second : String} :
    AgreeUpToCase first second ↔ first.toLower = second.toLower := by
  rw [← String.toList_inj, toList_toLower, toList_toLower, ← List.forall₂_eq_eq_eq,
    List.forall₂_map_left_iff, List.forall₂_map_right_iff, AgreeUpToCase]

/-- No letter of ASCII is blank. -/
theorem isBlank_of_isAlpha {c : Char} (h : c.isAlpha = true) : isBlank c = false := by
  rw [isAlpha_iff, isUpper_iff, isLower_iff] at h
  simp only [isBlank, isSpace, Bool.or_eq_false_iff, Bool.and_eq_false_iff,
    decide_eq_false_iff_not, beq_eq_false_iff_ne]
  omega

theorem isBlank_toLower (c : Char) : isBlank c.toLower = isBlank c :=
  apply_toLower (fun _ => isBlank_of_isAlpha) c

theorem isSeparator_toLower (c : Char) : isSeparator c.toLower = isSeparator c :=
  apply_toLower (fun _ h => isSeparator_of_not_isBlank (isBlank_of_isAlpha h)) c

theorem beq_space_toLower (c : Char) : (c.toLower == ' ') = (c == ' ') := by
  have hapart : ∀ letter : Char, letter.isAlpha = true → (letter == ' ') = false := by
    intro letter hletter
    rw [beq_eq_false_iff_ne]
    rintro rfl
    exact absurd hletter (by decide)
  exact apply_toLower hapart c

/-- A digit is no letter of ASCII, and lower case keeps it. -/
theorem toLower_of_isDigit {c : Char} (h : c.isDigit = true) : c.toLower = c := by
  have hrange := isDigit_iff.1 h
  have hletter : ¬c.isUpper = true := by
    rw [isUpper_iff]
    omega
  exact toLower_of_not_isUpper hletter

/-- A character in lower case is a digit when it is one. -/
theorem isDigit_toLower (c : Char) : c.toLower.isDigit = c.isDigit := by
  refine apply_toLower (fun letter hletter => ?_) c
  rw [isAlpha_iff, isUpper_iff, isLower_iff] at hletter
  rw [← Bool.not_eq_true, isDigit_iff]
  omega

/-- A text in lower case is trimmed in lower case. -/
theorem trim_map (text : List Char) :
    trim (text.map Char.toLower) = (trim text).map Char.toLower := by
  have hblank : isBlank ∘ Char.toLower = isBlank := funext isBlank_toLower
  simp only [trim, trimWith, List.dropWhile_map, ← List.map_reverse, hblank]

/-- Separators are collapsed in the same way in lower case. -/
theorem collapseFrom_map (afterSpace : Bool) (text : List Char) :
    collapseFrom afterSpace (text.map Char.toLower) =
      (collapseFrom afterSpace text).map Char.toLower := by
  induction text generalizing afterSpace with
  | nil => rfl
  | cons c text ih =>
      rw [List.map_cons, collapseFrom, collapseFrom, isSeparator_toLower]
      split
      · split
        · exact ih true
        · rw [ih, List.map_cons]
          rfl
      · rw [ih, List.map_cons]

/-- A text in lower case is normalized in lower case. -/
theorem normalize_map (text : List Char) :
    normalize (text.map Char.toLower) = (normalize text).map Char.toLower := by
  rw [normalize, normalize, trim_map, collapse, collapse, collapseFrom_map]

/-- A text in lower case has its words in lower case. -/
theorem pieces_map (text : List Char) :
    pieces ' ' (text.map Char.toLower) = (pieces ' ' text).map (List.map Char.toLower) := by
  induction text with
  | nil => rfl
  | cons c text ih =>
      obtain ⟨piece, others, hpieces⟩ := exists_pieces_eq_cons ' ' text
      rw [hpieces] at ih
      simp only [List.map_cons, pieces, ih, hpieces, beq_space_toLower]
      split <;> rfl

/-- Words in lower case are cleaned in lower case. -/
theorem clean_map (words : List (List Char)) :
    clean (words.map (List.map Char.toLower)) = (clean words).map (List.map Char.toLower) := by
  have hblank : isBlank ∘ Char.toLower = isBlank := funext isBlank_toLower
  induction words with
  | nil => rfl
  | cons word words ih =>
      rw [List.map_cons, clean, clean, List.all_map, List.dropWhile_map, hblank]
      split
      · exact ih
      · rfl

/-- A keyword matches a word in lower case when it matches the word. -/
theorem matchesWord_map (keyword word : List Char) :
    matchesWord keyword (word.map Char.toLower) = matchesWord keyword word := by
  have hsame : ∀ pair : Char × Char,
      sameLetter pair.1 pair.2.toLower = sameLetter pair.1 pair.2 := by
    intro pair
    rw [sameLetter, sameLetter, fold_toLower]
  simp [matchesWord, List.zip_map_right, List.all_map, Function.comp_def, hsame]

/-- The words behind a keyword are the same ones in lower case. -/
theorem wordsAfter?_map (keyword : List Char) (words : List (List Char)) :
    wordsAfter? keyword (words.map (List.map Char.toLower)) =
      (wordsAfter? keyword words).map (List.map (List.map Char.toLower)) := by
  induction words with
  | nil => rfl
  | cons word words ih =>
      rw [List.map_cons, wordsAfter?, wordsAfter?, matchesWord_map]
      split
      · rfl
      · exact ih

/-- Lower case does not change the upper case of a text. -/
theorem upperCase_toLower (text : String) : upperCase text.toLower = upperCase text := by
  rw [upperCase, upperCase, toList_toLower, List.flatMap_map]
  simp only [upper_toLower]

end Remittance.Text
