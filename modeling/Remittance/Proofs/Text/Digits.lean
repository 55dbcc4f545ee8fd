import Mathlib.Algebra.Group.Nat.Defs
import Mathlib.Data.List.TakeWhile
import Remittance.Text.Numeral

/-!
# ASCII digits as numerals

A text of ASCII digits has no white space, sign, or underscore, and its digits need no conversion,
so it is read as the number it writes (`readInteger_digits`). The texts of digits that write a number
are its decimal text and the same with zeros in front (`exists_eq_numeral_iff`).
-/

namespace Remittance.Text

/-- The code point of an ASCII digit lies among those of the ten digits. -/
theorem isDigit_iff {c : Char} : c.isDigit = true ↔ 48 ≤ c.toNat ∧ c.toNat ≤ 57 := by
  simp only [Char.isDigit, Bool.and_eq_true, decide_eq_true_eq, UInt32.le_iff_toNat_le]
  exact Iff.rfl

/-- An ASCII digit is no white space. -/
theorem isSpace_of_isDigit {c : Char} (h : c.isDigit = true) : isSpace c = false := by
  rw [isDigit_iff] at h
  simp only [isSpace, Bool.or_eq_false_iff, Bool.and_eq_false_iff, decide_eq_false_iff_not,
    beq_eq_false_iff_ne]
  omega

/-- Trimming drops nothing when no character is one to drop. -/
theorem trimWith_of_all {drops : Char → Bool} {text : List Char}
    (h : ∀ c ∈ text, drops c = false) : trimWith drops text = text := by
  have hkeeps : ∀ text : List Char, (∀ c ∈ text, drops c = false) →
      text.dropWhile drops = text := by
    intro text h
    exact List.dropWhile_eq_self_iff.2 fun hpos => by simp [h _ (List.getElem_mem hpos)]
  rw [trimWith, hkeeps text h, hkeeps text.reverse fun c hc => h c (List.mem_reverse.1 hc),
    List.reverse_reverse]

/-- The text writes a number in a certain count of ASCII digits. -/
def WritesNumber (count : Nat) (digits : List Char) (value : Nat) : Prop :=
  digits.length = count ∧ (∀ c ∈ digits, c.isDigit = true) ∧ number digits = value

variable {digits : List Char}

/-- A first digit is the number that the others are read on from. -/
theorem number_cons (c : Char) (rest : List Char) :
    number (c :: rest) = Nat.ofDigitChars 10 rest (c.toNat - 48) := by
  rw [number, Nat.ofDigitChars_cons, Nat.mul_zero, Nat.zero_add]
  rfl

/-- A number has no more digits than are written. -/
theorem number_lt (h : ∀ c ∈ digits, c.isDigit = true) : number digits < 10 ^ digits.length := by
  induction digits with
  | nil => exact Nat.one_pos
  | cons c rest ih =>
      have hrest := ih fun d hd => h d (List.mem_cons_of_mem c hd)
      have hdigit := isDigit_iff.1 (h c List.mem_cons_self)
      have hcons : number (c :: rest) = 10 ^ rest.length * (c.toNat - 48) + number rest :=
        (number_cons c rest).trans Nat.ofDigitChars_eq_ofDigitChars_zero
      have hvalue : 10 ^ rest.length * (c.toNat - 48) ≤ 10 ^ rest.length * 9 :=
        Nat.mul_le_mul_left _ (by omega)
      rw [hcons, List.length_cons, Nat.pow_succ]
      omega

/-- Zeros in front of digits do not change their number. -/
theorem number_replicate_append (count : Nat) (digits : List Char) :
    number (List.replicate count '0' ++ digits) = number digits := by
  induction count with
  | zero => rfl
  | succ count ih =>
      rw [List.replicate_succ, List.cons_append, number_cons]
      exact ih

/-- Zeros and the decimal digits of a number write that number. -/
theorem writesNumber_zeros (zeros value : Nat) :
    WritesNumber (zeros + (Nat.toDigits 10 value).length)
      (List.replicate zeros '0' ++ Nat.toDigits 10 value) value := by
  refine ⟨?_, ?_, ?_⟩
  · rw [List.length_append, List.length_replicate]
  · intro c hc
    rcases List.mem_append.1 hc with hzero | hdigit
    · rw [List.eq_of_mem_replicate hzero]
      rfl
    · exact Nat.isDigit_of_mem_toDigits (by decide) (by decide) hdigit
  · exact (number_replicate_append _ _).trans Nat.ofDigitChars_ten_toDigits

/-- A digit is the one that its value is written with. -/
theorem digitChar_of_isDigit {c : Char} (h : c.isDigit = true) :
    Nat.digitChar (c.toNat - 48) = c := by
  rw [isDigit_iff] at h
  apply Char.toNat_inj.1
  rw [Nat.toNat_digitChar_of_lt_ten (by omega)]
  omega

/-- Reading on from a positive number writes the digits that are read behind its own. -/
theorem toDigits_ofDigitChars {start : Nat} (hstart : 0 < start)
    (h : ∀ c ∈ digits, c.isDigit = true) :
    Nat.toDigits 10 (Nat.ofDigitChars 10 digits start) = Nat.toDigits 10 start ++ digits := by
  induction digits generalizing start with
  | nil => rw [Nat.ofDigitChars_nil, List.append_nil]
  | cons c rest ih =>
      have hdigit := isDigit_iff.1 (h c List.mem_cons_self)
      have hlast : Nat.toDigits 10 (c.toNat - 48) = [c] := by
        rw [Nat.toDigits_of_lt_base (by omega), digitChar_of_isDigit (h c List.mem_cons_self)]
      have hnext : 0 < 10 * start + (c.toNat - 48) := by omega
      calc Nat.toDigits 10 (Nat.ofDigitChars 10 (c :: rest) start)
          = Nat.toDigits 10 (10 * start + (c.toNat - 48)) ++ rest := by
            rw [Nat.ofDigitChars_cons]
            exact ih hnext fun d hd => h d (List.mem_cons_of_mem c hd)
        _ = Nat.toDigits 10 start ++ [c] ++ rest := by
            rw [← Nat.toDigits_append_toDigits (by decide) hstart (by omega), hlast]
        _ = Nat.toDigits 10 start ++ c :: rest := by
            rw [List.append_assoc, List.singleton_append]

/-- Digits are those of the number that they write, with zeros in front. -/
theorem exists_eq_zeros_append (hempty : digits ≠ []) (h : ∀ c ∈ digits, c.isDigit = true) :
    ∃ zeros, digits = List.replicate zeros '0' ++ Nat.toDigits 10 (number digits) := by
  -- Zeros are taken off one by one. Behind them the number is positive, unless all were zeros,
  -- of which the last is the decimal text of the number.
  induction digits with
  | nil => exact absurd rfl hempty
  | cons c rest ih =>
      have hrest : ∀ d ∈ rest, d.isDigit = true := fun d hd => h d (List.mem_cons_of_mem c hd)
      by_cases hzero : c = '0'
      · subst hzero
        rcases eq_or_ne rest [] with rfl | hmore
        · exact ⟨0, rfl⟩
        · obtain ⟨zeros, hzeros⟩ := ih hmore hrest
          have hnumber : number ('0' :: rest) = number rest := number_replicate_append 1 rest
          refine ⟨zeros + 1, ?_⟩
          rw [hnumber, List.replicate_succ, List.cons_append, ← hzeros]
      · have hc := h c List.mem_cons_self
        have hdigit := isDigit_iff.1 hc
        have hcode : c.toNat ≠ 48 := fun hcode => hzero (Char.toNat_inj.1 hcode)
        have hstart : 0 < c.toNat - 48 := by omega
        refine ⟨0, ?_⟩
        rw [number_cons, toDigits_ofDigitChars hstart hrest, Nat.toDigits_of_lt_base (by omega),
          digitChar_of_isDigit hc]
        rfl

/-- The decimal text of a number with zeros in front. -/
def numeral (zeros value : Nat) : String :=
  String.ofList (List.replicate zeros '0') ++ value.repr

theorem toList_numeral (zeros value : Nat) :
    (numeral zeros value).toList = List.replicate zeros '0' ++ Nat.toDigits 10 value := by
  rw [numeral, String.toList_append, String.toList_ofList, Nat.toList_repr]

/-- A text writes a number in digits exactly when it is the decimal text of the number with zeros
in front. -/
theorem exists_eq_numeral_iff {text : String} {value : Nat} :
    (∃ zeros, text = numeral zeros value) ↔
      text.toList ≠ [] ∧ (∀ c ∈ text.toList, c.isDigit = true) ∧ number text.toList = value := by
  constructor
  · rintro ⟨zeros, rfl⟩
    obtain ⟨-, hdigits, hvalue⟩ := writesNumber_zeros zeros value
    rw [toList_numeral]
    exact ⟨List.append_ne_nil_of_right_ne_nil _ Nat.toDigits_ne_nil, hdigits, hvalue⟩
  · rintro ⟨hempty, hdigits, rfl⟩
    obtain ⟨zeros, hzeros⟩ := exists_eq_zeros_append hempty hdigits
    exact ⟨zeros, String.toList_inj.1 (hzeros.trans (toList_numeral _ _).symm)⟩

/-- Digits have no sign before them. -/
theorem takeSign_digits (h : ∀ c ∈ digits, c.isDigit = true) :
    takeSign digits = (false, digits) := by
  rw [takeSign]
  · rintro rest rfl
    simpa using h '+' (by simp)
  · rintro rest rfl
    simpa using h '-' (by simp)

/-- Digits that are ASCII stay as they are. -/
theorem plainDigits_digits (h : ∀ c ∈ digits, c.isDigit = true) : plainDigits digits = digits := by
  calc plainDigits digits
      = digits.map id := List.map_congr_left fun c hc => by simp [plainDigit?, h c hc]
    _ = digits := List.map_id digits

/-- A run of digits has no underscore that could be out of place. -/
theorem isSpaced_digits {afterOther : Bool} (hstart : afterOther = true ∨ digits ≠ [])
    (h : ∀ c ∈ digits, c.isDigit = true) : isSpaced afterOther digits = true := by
  induction digits generalizing afterOther with
  | nil => simpa [isSpaced] using hstart
  | cons c rest ih =>
      have hunderscore : c ≠ '_' := by
        rintro rfl
        simpa using h '_' (by simp)
      rw [isSpaced, if_neg (by simpa using hunderscore)]
      exact ih (.inl rfl) fun d hd => h d (by simp [hd])

/-- Digits are read as the number they write, unless there are too many of them. -/
theorem readInteger_ofList (hempty : digits ≠ []) (h : ∀ c ∈ digits, c.isDigit = true) :
    readInteger (String.ofList digits) =
      if digitLimit < digits.length then .error (.digitLimit digits.length)
      else .ok (number digits : Int) := by
  have htrim : trimWith isSpace digits = digits :=
    trimWith_of_all fun c hc => isSpace_of_isDigit (h c hc)
  have hrun : digits.takeWhile inDigitRun = digits :=
    List.takeWhile_eq_self_iff.2 fun c hc => by simp [inDigitRun, h c hc]
  have hfilter : digits.filter (·.isDigit) = digits := List.filter_eq_self.2 h
  simp [readInteger, htrim, plainDigits_digits h, takeSign_digits h, hrun,
    isSpaced_digits (.inr hempty) h, hfilter, runNumber, withSign]

/-- Digits are read as the number they write, up to the limit on their count. -/
theorem readInteger_digits (hempty : digits ≠ []) (h : ∀ c ∈ digits, c.isDigit = true)
    (hlimit : digits.length ≤ digitLimit) :
    readInteger (String.ofList digits) = .ok (number digits : Int) := by
  rw [readInteger_ofList hempty h, if_neg (Nat.not_lt.2 hlimit)]

/-- A number that is written in digits is read. -/
theorem WritesNumber.read {count value : Nat} (h : WritesNumber count digits value)
    (hcount : 0 < count) (hlimit : count ≤ digitLimit) :
    readInteger (String.ofList digits) = .ok (value : Int) := by
  obtain ⟨hlength, hdigits, hvalue⟩ := h
  have hempty : digits ≠ [] := List.ne_nil_of_length_pos (by omega)
  rw [readInteger_digits hempty hdigits (by omega), hvalue]

end Remittance.Text
