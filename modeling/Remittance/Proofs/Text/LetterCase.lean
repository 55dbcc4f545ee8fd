import Remittance.Text.LetterCase

/-!
# ASCII letters in lower and upper case

Lower case moves a capital letter of ASCII by 32 code points and keeps every other character, so
it leaves the letter the same (`sameLetter_toLower`). Upper case moves a small letter back, so a
character has a capital letter as its upper case in two ways (`toUpper_eq_iff`). What does not tell
the case of a letter, or holds of no letter, is the same of a character and of its lower case
(`fold_toLower`, `upper_toLower`, `apply_toLower`).
-/

namespace Remittance.Text

variable {c : Char}

/-- The code point of a capital letter of ASCII lies among those of the 26. -/
theorem isUpper_iff : c.isUpper = true ↔ 65 ≤ c.toNat ∧ c.toNat ≤ 90 := by
  show decide (c.val ≥ 'A'.val ∧ c.val ≤ 'Z'.val) = true ↔ _
  rw [decide_eq_true_iff, ge_iff_le, UInt32.le_iff_toNat_le, UInt32.le_iff_toNat_le]
  exact Iff.rfl

/-- Lower case moves a capital letter by 32 code points. -/
theorem toNat_toLower (h : c.isUpper = true) : c.toLower.toNat = c.toNat + 32 := by
  have hrange := isUpper_iff.1 h
  have hmoved : c.toLower.toNat = (c.val + 32).toNat :=
    congrArg Char.toNat (dif_pos (of_decide_eq_true h))
  rw [hmoved, UInt32.toNat_add]
  exact Nat.mod_eq_of_lt (show c.toNat + 32 < 2 ^ 32 by omega)

/-- Lower case keeps every character that is not a capital letter. -/
theorem toLower_of_not_isUpper (h : ¬c.isUpper = true) : c.toLower = c :=
  dif_neg fun hrange => h (decide_eq_true hrange)

/-- A small letter of ASCII lies between the first and the last one. -/
theorem isLower_iff_val : c.isLower = true ↔ 'a'.val ≤ c.val ∧ c.val ≤ 'z'.val := by
  show (decide (c.val ≥ 'a'.val) && decide (c.val ≤ 'z'.val)) = true ↔ _
  rw [Bool.and_eq_true, decide_eq_true_iff, decide_eq_true_iff]

/-- The code point of a small letter of ASCII lies among those of the 26. -/
theorem isLower_iff : c.isLower = true ↔ 97 ≤ c.toNat ∧ c.toNat ≤ 122 := by
  rw [isLower_iff_val, UInt32.le_iff_toNat_le, UInt32.le_iff_toNat_le]
  exact Iff.rfl

/-- Upper case moves a small letter by 32 code points. -/
theorem toNat_toUpper (h : c.isLower = true) : c.toUpper.toNat + 32 = c.toNat := by
  have hrange := isLower_iff.1 h
  have hletter : 'a'.val ≤ c.val ∧ c.val ≤ 'z'.val := isLower_iff_val.1 h
  have hmoved : c.toUpper.val = c.val + ('A'.val - 'a'.val) := by
    unfold Char.toUpper
    rw [dif_pos hletter]
  -- The difference of the two letters wraps around, so adding it goes back.
  have hgap : ('A'.val - 'a'.val).toNat = 2 ^ 32 - 32 := by decide
  have hcode : c.toUpper.toNat = (c.toNat + (2 ^ 32 - 32)) % 2 ^ 32 := by
    rw [← Char.toNat_val, hmoved, UInt32.toNat_add, hgap, Char.toNat_val]
  omega

/-- Upper case keeps every character that is not a small letter. -/
theorem toUpper_of_not_isLower (h : ¬c.isLower = true) : c.toUpper = c :=
  dif_neg fun hletter => h (isLower_iff_val.2 hletter)

/-- The upper case of a character is a capital letter when the character is that letter, in either
case. -/
theorem toUpper_eq_iff {letter : Char} (hletter : letter.isUpper = true) :
    c.toUpper = letter ↔ c = letter ∨ c = letter.toLower := by
  have hrange := isUpper_iff.1 hletter
  have hmoved := toNat_toLower hletter
  rw [← Char.toNat_inj, ← Char.toNat_inj, ← Char.toNat_inj, hmoved]
  by_cases hlower : c.isLower = true
  · have hsmall := isLower_iff.1 hlower
    have hback := toNat_toUpper hlower
    omega
  · have hsmall := mt isLower_iff.2 hlower
    rw [toUpper_of_not_isLower hlower]
    omega

/-- A capital letter is ASCII, and so is its lower case. -/
theorem isAscii_of_isUpper (h : c.isUpper = true) :
    isAscii c = true ∧ isAscii c.toLower = true := by
  have hrange := isUpper_iff.1 h
  have hmoved := toNat_toLower h
  simp only [isAscii, decide_eq_true_eq]
  omega

/-- A letter in lower case is no capital letter. -/
theorem not_isUpper_toLower (c : Char) : ¬c.toLower.isUpper = true := by
  by_cases hupper : c.isUpper = true
  · have hrange := isUpper_iff.1 hupper
    have hmoved := toNat_toLower hupper
    rw [isUpper_iff]
    omega
  · rwa [toLower_of_not_isUpper hupper]

/-- Lower case does not change the folded form of a character. -/
theorem fold_toLower (c : Char) : fold c.toLower = fold c := by
  have hlower : lower c.toLower = lower c := by
    by_cases hupper : c.isUpper = true
    · obtain ⟨hascii, hsmall⟩ := isAscii_of_isUpper hupper
      rw [lower, lower, if_pos hsmall, if_pos hascii,
        toLower_of_not_isUpper (not_isUpper_toLower c)]
    · rw [toLower_of_not_isUpper hupper]
  simp [fold, hlower]

/-- A letter in lower case is the same letter. -/
theorem sameLetter_toLower (letter : Char) : sameLetter letter letter.toLower = true := by
  simp [sameLetter, fold_toLower]

/-- Lower case does not change the upper case of a character. -/
theorem upper_toLower (c : Char) : upper c.toLower = upper c := by
  by_cases hupper : c.isUpper = true
  · obtain ⟨hascii, hsmall⟩ := isAscii_of_isUpper hupper
    have hback : c.toLower.toUpper = c := (toUpper_eq_iff hupper).2 (.inr rfl)
    have hkept : c.toUpper = c := (toUpper_eq_iff hupper).2 (.inl rfl)
    rw [upper, upper, if_pos hsmall, if_pos hascii, hback, hkept]
  · rw [toLower_of_not_isUpper hupper]

/-- A letter of ASCII is a capital or a small one. -/
theorem isAlpha_iff : c.isAlpha = true ↔ c.isUpper = true ∨ c.isLower = true := by
  show (c.isUpper || c.isLower) = true ↔ _
  rw [Bool.or_eq_true]

/-- A test that no letter of ASCII passes does not tell a character from its lower case. -/
theorem apply_toLower {passes : Char → Bool}
    (hletter : ∀ c : Char, c.isAlpha = true → passes c = false) (c : Char) :
    passes c.toLower = passes c := by
  by_cases hupper : c.isUpper = true
  · have hrange := isUpper_iff.1 hupper
    have hmoved := toNat_toLower hupper
    have hlower : c.toLower.isLower = true := by rw [isLower_iff]; omega
    rw [hletter c (isAlpha_iff.2 (.inl hupper)), hletter _ (isAlpha_iff.2 (.inr hlower))]
  · rw [toLower_of_not_isUpper hupper]

end Remittance.Text
