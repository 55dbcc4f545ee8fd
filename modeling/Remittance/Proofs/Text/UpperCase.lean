import Mathlib.Data.List.Forall2
import Remittance.Proofs.Text.Keyword

/-!
# Words of capital letters in upper case

Two characters outside ASCII have a letter of ASCII as their upper case: the dotless i and the
long s. `asciiForm` replaces the two by that letter. A text has a word of capital letters as its
upper case exactly when its ASCII form spells the word (`upperCase_eq_iff`), unless the word holds
what a single character expands to.
-/

namespace Remittance.Text

/-- The character with the dotless i and the long s replaced by the letters of ASCII that have the
same upper case. -/
def asciiForm (c : Char) : Char :=
  if c = 'ı' then 'i' else if c = 'ſ' then 's' else c

variable {c letter : Char} {letters text : List Char}

/-- Upper case does not tell a character from its ASCII form. -/
theorem upper_asciiForm (c : Char) : upper (asciiForm c) = upper c := by
  unfold asciiForm
  split
  · rename_i hdotless
    rw [hdotless]
    rfl
  · split
    · rename_i hlong
      rw [hlong]
      rfl
    · rfl

/-- Only the rows for the dotless i and the long s lead into ASCII. -/
theorem upperRows_ascii : ∀ row ∈ upperRows, (row.first : Int) + row.shift < 128 →
    row.first = row.last ∧ (row.first = 'ı'.toNat ∨ row.first = 'ſ'.toNat) := by
  decide +kernel

/-- No character expands to a single one. -/
theorem expansions_long : ∀ expansion ∈ expansions, 2 ≤ expansion.2.length := by
  decide +kernel

/-- The code point that a character is made from, unless that makes the null character. -/
theorem toNat_eq_of_ofNat_eq {code : Nat} (h : Char.ofNat code = letter)
    (hnull : letter.toNat ≠ 0) : letter.toNat = code := by
  by_cases hvalid : code.isValidChar
  · have hmade : Char.ofNat code = Char.ofNatAux code hvalid := dif_pos hvalid
    rw [← h, hmade]
    rfl
  · have hmade : Char.ofNat code = '\x00' := dif_neg hvalid
    rw [← h, hmade] at hnull
    exact absurd rfl hnull

/-- A character outside ASCII is the dotless i or the long s if the rows map it to a character of
ASCII other than the null character. -/
theorem asciiForm_ne_of_shiftBy (hc : 128 ≤ c.toNat) (hshift : shiftBy upperRows c = letter)
    (hletter : letter.toNat < 128) (hnull : letter.toNat ≠ 0) : asciiForm c ≠ c := by
  rw [shiftBy] at hshift
  split at hshift
  · rename_i row hfind
    have hcode := toNat_eq_of_ofNat_eq hshift hnull
    have hcovers := List.find?_some hfind
    simp only [CaseRow.covers, Bool.and_eq_true, decide_eq_true_eq] at hcovers
    obtain ⟨hsingle, hfirst | hfirst⟩ :=
      upperRows_ascii row (List.mem_of_find?_eq_some hfind) (by omega)
    · obtain rfl : c = 'ı' := Char.toNat_inj.1 (by omega)
      decide
    · obtain rfl : c = 'ſ' := Char.toNat_inj.1 (by omega)
      decide
  · rw [hshift] at hc
    omega

/-- The upper case of a character outside ASCII is given by the rows or is an expansion. -/
theorem upper_outside (hc : isAscii c = false) :
    upper c = [shiftBy upperRows c] ∨
      ∃ codes, (c.toNat, codes) ∈ expansions ∧ upper c = codes.map Char.ofNat := by
  unfold upper
  rw [if_neg (Bool.eq_false_iff.1 hc)]
  split
  · rename_i codes hlookup
    obtain ⟨before, rest, hsplit, -⟩ := List.lookup_eq_some_iff.1 hlookup
    exact .inr ⟨codes, by rw [hsplit]; simp, rfl⟩
  · exact .inl rfl

/-- The ASCII form of a character is its own. -/
theorem asciiForm_asciiForm (c : Char) : asciiForm (asciiForm c) = asciiForm c := by
  by_cases hdotless : c = 'ı'
  · subst hdotless
    rfl
  · by_cases hlong : c = 'ſ'
    · subst hlong
      rfl
    · have hform : asciiForm c = c := by rw [asciiForm, if_neg hdotless, if_neg hlong]
      rw [hform, hform]

/-- A character has a capital letter as its upper case when its ASCII form is the letter, in
either case. -/
theorem upper_eq_singleton_iff (hletter : letter.isUpper = true) :
    upper c = [letter] ↔ asciiForm c = letter ∨ asciiForm c = letter.toLower := by
  have hrange := isUpper_iff.1 hletter
  have hsmall := toNat_toLower hletter
  rw [← upper_asciiForm]
  by_cases hascii : isAscii (asciiForm c) = true
  · rw [upper, if_pos hascii, List.cons.injEq, and_iff_left rfl, toUpper_eq_iff hletter]
  · -- Outside ASCII an ASCII form is neither of the two characters that become letters.
    have houtside : 128 ≤ (asciiForm c).toNat := by simpa [isAscii] using hascii
    refine iff_of_false ?_ ?_
    · intro hupper
      rcases upper_outside (Bool.eq_false_iff.2 hascii) with hrow | ⟨codes, hmem, hcodes⟩
      · rw [hupper] at hrow
        have hshift := (List.cons.inj hrow).1.symm
        exact asciiForm_ne_of_shiftBy houtside hshift (by omega) (by omega) (asciiForm_asciiForm c)
      · have hlong : 2 ≤ codes.length := expansions_long _ hmem
        have hlength := congrArg List.length (hupper.symm.trans hcodes)
        simp only [List.length_singleton, List.length_map] at hlength
        omega
    · rintro (hsame | hsame) <;> rw [hsame] at houtside <;> omega

/-- The letters hold no expansion of a single character. -/
def HasNoExpansion (letters : List Char) : Prop :=
  ∀ expansion ∈ expansions, ¬ expansion.2.map Char.ofNat <:+: letters

/-- `HasNoExpansion` is decidable expansion by expansion. -/
instance (letters : List Char) : Decidable (HasNoExpansion letters) :=
  inferInstanceAs (Decidable (∀ expansion ∈ expansions, _))

/-- A part of letters without an expansion is without one. -/
theorem HasNoExpansion.of_cons (h : HasNoExpansion (letter :: letters)) : HasNoExpansion letters :=
  fun expansion hmem hinner =>
    h expansion hmem (hinner.trans (List.suffix_cons letter letters).isInfix)

/-- A character at the beginning of a text has one letter as its upper case if there is no
expansion in the upper case of the text. -/
theorem exists_upper_eq_singleton {rest : List Char} (h : HasNoExpansion (upper c ++ rest)) :
    ∃ letter, upper c = [letter] := by
  cases hascii : isAscii c with
  | true => exact ⟨c.toUpper, if_pos hascii⟩
  | false =>
      rcases upper_outside hascii with hrow | ⟨codes, hmem, hcodes⟩
      · exact ⟨_, hrow⟩
      · have hprefix : codes.map Char.ofNat <+: upper c ++ rest := by
          rw [hcodes]
          exact List.prefix_append _ rest
        exact absurd hprefix.isInfix (h _ hmem)

/-- A text has letters as its upper case when each character has one of them, if there is no
expansion among the letters. -/
theorem flatMap_upper_eq_iff (hletters : HasNoExpansion letters) :
    text.flatMap upper = letters ↔
      List.Forall₂ (fun letter c => upper c = [letter]) letters text := by
  induction text generalizing letters with
  | nil => simp [eq_comm]
  | cons c text ih =>
      rw [List.flatMap_cons, List.forall₂_cons_right_iff]
      constructor
      · rintro rfl
        obtain ⟨letter, hupper⟩ := exists_upper_eq_singleton hletters
        rw [hupper, List.singleton_append] at hletters ⊢
        exact ⟨letter, _, rfl, (ih hletters.of_cons).1 rfl, rfl⟩
      · rintro ⟨letter, rest, hupper, hrest, rfl⟩
        rw [hupper, (ih hletters.of_cons).2 hrest, List.singleton_append]

/-- A text has a word of capital letters as its upper case exactly when its ASCII form spells the
word, if there is no expansion among the letters. -/
theorem upperCase_eq_iff {text word : String}
    (hcapital : ∀ letter ∈ word.toList, letter.isUpper = true)
    (hletters : HasNoExpansion word.toList) :
    upperCase text = word ↔ Spells word.toList (text.toList.map asciiForm) := by
  have hspells : List.Forall₂ (fun letter c => upper c = [letter]) word.toList text.toList ↔
      List.Forall₂ (fun letter c => asciiForm c = letter ∨ asciiForm c = letter.toLower)
        word.toList text.toList := by
    constructor <;> intro h
    · exact ((List.forall₂_and_left _ _).2 ⟨hcapital, h⟩).imp
        fun _ _ hletter => (upper_eq_singleton_iff hletter.1).1 hletter.2
    · exact ((List.forall₂_and_left _ _).2 ⟨hcapital, h⟩).imp
        fun _ _ hletter => (upper_eq_singleton_iff hletter.1).2 hletter.2
  rw [Spells, List.forall₂_map_right_iff, ← hspells, ← flatMap_upper_eq_iff hletters, upperCase,
    ← String.toList_inj, String.toList_ofList]

end Remittance.Text
