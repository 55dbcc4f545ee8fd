import Remittance.Amount
import Remittance.Proofs.Text.Digits
import Remittance.Proofs.Text.Words

/-!
# Reading amounts

`Writes` is the written form of an amount, said without the reader: its decimal text with zeros in
front, and no other (`writes_iff`). Whenever a text is read, it is read as an amount exactly when it
writes one (`read_eq_some_iff`). It is not read when it `IsTooLong`, and only then
(`read_error_iff`). An amount that is read can be written out and read again (`read_repr`). The
three answers of the reader are told by the text alone (`read_exact`).
-/

namespace Remittance.Amount

/-- The text writes a positive number in ASCII digits, with any zeros in front. -/
def Writes (text : String) (amount : Nat) : Prop :=
  text.toList ≠ [] ∧ (∀ c ∈ text.toList, c.isDigit = true) ∧ Text.number text.toList = amount ∧
    0 < amount

theorem isDigits_iff {text : List Char} :
    isDigits text = true ↔ text ≠ [] ∧ ∀ c ∈ text, c.isDigit = true := by
  simp [isDigits, List.isEmpty_eq_false_iff]

variable {text : String} {amount : Nat}

/-- A text writes at most one amount. -/
theorem Writes.unique {other : Nat} (h : Writes text amount) (hother : Writes text other) :
    amount = other :=
  h.2.2.1.symm.trans hother.2.2.1

/-- An amount is written by its decimal text with zeros in front, and by no other text. -/
theorem writes_iff :
    Writes text amount ↔ 0 < amount ∧ ∃ zeros, text = Text.numeral zeros amount := by
  rw [Text.exists_eq_numeral_iff]
  constructor
  · rintro ⟨hne, hall, hvalue, hpos⟩
    exact ⟨hpos, hne, hall, hvalue⟩
  · rintro ⟨hpos, hne, hall, hvalue⟩
    exact ⟨hne, hall, hvalue, hpos⟩

/-- What is read is what the text writes. -/
theorem writes_of_read (h : read text = .ok (some amount)) : Writes text amount := by
  rw [read] at h
  split at h
  · simp at h
  · rename_i hdigits
    split at h
    · simp at h
    · rw [Except.ok.injEq] at h
      split at h
      · simp at h
      · rename_i hzero
        obtain ⟨hne, hall⟩ := isDigits_iff.1 (by simpa using hdigits)
        exact ⟨hne, hall, Option.some.inj h, Option.some.inj h ▸ Nat.pos_of_ne_zero hzero⟩

/-- A text that is read as no amount writes none. -/
theorem not_writes_of_read (h : read text = .ok none) (amount : Nat) : ¬ Writes text amount := by
  rintro ⟨hne, hall, hvalue, hpos⟩
  rw [read, isDigits_iff.2 ⟨hne, hall⟩] at h
  simp only [Bool.not_true, Bool.false_eq_true, if_false] at h
  split at h
  · simp at h
  · rw [Except.ok.injEq, hvalue, if_neg (by omega)] at h
    simp at h

/-- The text has only ASCII digits, and more of them than an integer that is read may have. -/
def IsTooLong (text : String) : Prop :=
  (∀ c ∈ text.toList, c.isDigit = true) ∧ 4300 < text.toList.length

/-- A text is not read exactly when it is a number that is too long, and the fault tells its
length. -/
theorem read_error_iff {fault : Fault} :
    read text = .error fault ↔ IsTooLong text ∧ fault = .digitLimit text.toList.length := by
  rw [read]
  by_cases hdigits : isDigits text.toList = true
  · have hall := (isDigits_iff.1 hdigits).2
    by_cases hlimit : digitLimit < text.toList.length
    · have hlong : IsTooLong text := ⟨hall, hlimit⟩
      simp [hdigits, hlimit, hlong, eq_comm]
    · have hshort : ¬ IsTooLong text := fun h => hlimit h.2
      simp [hdigits, hlimit, hshort]
  · have hshort : ¬ IsTooLong text := by
      rintro ⟨hall, hlength⟩
      exact hdigits (isDigits_iff.2 ⟨List.ne_nil_of_length_pos (by omega), hall⟩)
    simp [hdigits, hshort]

/-- A text is read as the amount that it writes, unless it is too long. -/
theorem read_eq_some_iff :
    read text = .ok (some amount) ↔ Writes text amount ∧ text.toList.length ≤ digitLimit := by
  constructor
  · intro h
    have hwrites := writes_of_read h
    refine ⟨hwrites, ?_⟩
    by_contra hlength
    have hfault := read_error_iff.2 ⟨⟨hwrites.2.1, Nat.not_le.1 hlength⟩, rfl⟩
    simp [h] at hfault
  · rintro ⟨hwrites, hlength⟩
    cases hread : read text with
    | error fault => exact absurd (read_error_iff.1 hread).1.2 (Nat.not_lt.2 hlength)
    | ok found =>
        cases found with
        | none => exact absurd hwrites (not_writes_of_read hread amount)
        | some other => rw [(writes_of_read hread).unique hwrites]

/-- A text is read as no amount exactly when it writes none and is not too long. -/
theorem read_eq_none_iff :
    read text = .ok none ↔ ¬ IsTooLong text ∧ ∀ amount, ¬ Writes text amount := by
  cases hread : read text with
  | error fault =>
      have hlong := (read_error_iff.1 hread).1
      exact iff_of_false (by simp) fun hnone => hnone.1 hlong
  | ok found =>
      cases found with
      | none =>
          refine iff_of_true rfl ⟨fun hlong => ?_, not_writes_of_read hread⟩
          have hfault := read_error_iff.2 ⟨hlong, rfl⟩
          simp [hread] at hfault
      | some amount =>
          have hwrites := writes_of_read hread
          exact iff_of_false (by simp) fun hnone => hnone.2 amount hwrites

/-- A positive number is written by its digits. -/
theorem writes_repr (h : 0 < amount) : Writes amount.repr amount :=
  writes_iff.2 ⟨h, 0, by simp [Text.numeral]⟩

/-- No text writes an amount in fewer digits than its own. -/
theorem Writes.length_repr_le (h : Writes text amount) :
    amount.repr.toList.length ≤ text.toList.length := by
  obtain ⟨hne, hall, hvalue, -⟩ := h
  rw [Nat.toList_repr, Nat.length_toDigits_le_iff (by decide) (List.length_pos_iff.2 hne), ← hvalue]
  exact Text.number_lt hall

/-- A smaller number has no more digits. -/
theorem length_repr_le_of_le {smaller larger : Nat} (h : smaller ≤ larger) :
    smaller.repr.toList.length ≤ larger.repr.toList.length := by
  rw [Nat.toList_repr, Nat.toList_repr]
  have hlength : 0 < (Nat.toDigits 10 larger).length := List.length_pos_iff.2 Nat.toDigits_ne_nil
  have hlarger := (Nat.length_toDigits_le_iff (by decide) hlength).1 le_rfl
  exact (Nat.length_toDigits_le_iff (by decide) hlength).2 (h.trans_lt hlarger)

/-- An amount that is read from some text is read from its own digits. -/
theorem read_repr (h : read text = .ok (some amount)) :
    read amount.repr = .ok (some amount) := by
  obtain ⟨hwrites, hlength⟩ := read_eq_some_iff.1 h
  exact read_eq_some_iff.2 ⟨writes_repr hwrites.2.2.2, hwrites.length_repr_le.trans hlength⟩

/-- A text that writes an amount is a plain word. -/
theorem Writes.isPlain (h : Writes text amount) : Text.IsPlain text.toList := by
  refine Text.isPlain_of_visible h.1 ?_
  intro c hc
  have hdigit := Text.isDigit_iff.1 (h.2.1 c hc)
  omega

/-- A number that is too long is no integer that can be read. -/
theorem IsTooLong.readInteger (h : IsTooLong text) :
    Text.readInteger text = .error (.digitLimit text.toList.length) := by
  have hlimit : digitLimit < text.toList.length := h.2
  have hempty : text.toList ≠ [] := List.ne_nil_of_length_pos (Nat.zero_lt_of_lt hlimit)
  have hread := Text.readInteger_ofList hempty h.1
  rwa [String.ofList_toList, if_pos hlimit] at hread

/-- A text is read as an amount exactly when it is the decimal text of that amount, which is
positive, with any zeros in front, and has no more than 4300 characters. Reading it fails exactly
when it has more characters and all of them are ASCII digits, with the fault of reading it as an
integer. Every other text is read as no amount. -/
theorem read_exact (text : String) :
    (∀ amount, read text = .ok (some amount) ↔
        0 < amount ∧ text.length ≤ 4300 ∧ ∃ zeros, text = Text.numeral zeros amount) ∧
      (∀ fault, read text = .error fault ↔
        IsTooLong text ∧ fault = .digitLimit text.length ∧
          Text.readInteger text = .error fault) ∧
      (read text = .ok none ↔
        ¬ IsTooLong text ∧
          ¬ ∃ amount zeros, 0 < amount ∧ text = Text.numeral zeros amount) := by
  rw [← String.length_toList]
  refine ⟨fun amount => ?_, fun fault => ?_, ?_⟩
  · rw [read_eq_some_iff, writes_iff]
    constructor
    · rintro ⟨⟨hpos, hzeros⟩, hlength⟩
      exact ⟨hpos, hlength, hzeros⟩
    · rintro ⟨hpos, hlength, hzeros⟩
      exact ⟨⟨hpos, hzeros⟩, hlength⟩
  · rw [read_error_iff]
    constructor
    · rintro ⟨hlong, rfl⟩
      exact ⟨hlong, rfl, hlong.readInteger⟩
    · rintro ⟨hlong, hfault, -⟩
      exact ⟨hlong, hfault⟩
  · simp only [read_eq_none_iff, writes_iff, exists_and_left, not_exists]

end Remittance.Amount
