import Remittance.Currency
import Remittance.Proofs.Text.Capitals

/-!
# Supported currencies

A currency is supported in any letter case (`isSupported_iff`), and also when a long s stands for
an s in it (`isSupported_iff_spells`). The normalized code of a supported one is a plain word in
normal form, and so names the same currency.
-/

namespace Remittance.Currency

variable {code : String}

/-- A currency is supported when its upper-case code is one of the four. -/
theorem isSupported_iff :
    isSupported code = true ↔ Text.upperCase code ∈ ["NGN", "USD", "GBP", "GHS"] := by
  rw [isSupported, List.contains_iff_mem]
  exact Iff.rfl

/-- The normalized code is a supported one when the code, with a long s taken for an s, spells
it. -/
theorem normalize_eq_iff {name : String} (hname : name ∈ supported) :
    normalize code = name ↔ Text.Spells name.toList (code.toList.map Text.asciiForm) := by
  have hcapital : ∀ name ∈ supported, name.toList.all (·.isUpper) = true := by decide
  have hexpansion : ∀ name ∈ supported, Text.HasNoExpansion name.toList := by decide +kernel
  exact Text.upperCase_eq_iff (List.all_eq_true.1 (hcapital name hname)) (hexpansion name hname)

/-- A currency is supported when its code, with a long s taken for an s, spells one of the four. -/
theorem isSupported_iff_spells :
    isSupported code = true ↔
      ∃ name ∈ supported, Text.Spells name.toList (code.toList.map Text.asciiForm) := by
  rw [isSupported, List.contains_iff_mem]
  constructor
  · intro hmem
    exact ⟨_, hmem, (normalize_eq_iff hmem).1 rfl⟩
  · rintro ⟨name, hname, hspells⟩
    exact (normalize_eq_iff hname).2 hspells ▸ hname

/-- The only character outside ASCII that the code of a supported currency can hold is the long
s. -/
theorem isAscii_or_eq_of_isSupported (h : isSupported code = true) :
    ∀ c ∈ code.toList, Text.isAscii c = true ∨ c = 'ſ' := by
  intro c hc
  obtain ⟨name, hname, hspells⟩ := isSupported_iff_spells.1 h
  have hletters : ∀ name ∈ supported, name.toList.all (fun letter =>
      [letter, letter.toLower].all fun form => form != 'i' && Text.isAscii form) = true := by decide
  obtain ⟨letter, hletter, hsame⟩ :=
    hspells.exists_letter (Text.asciiForm c) (List.mem_map_of_mem hc)
  have hforms := List.all_eq_true.1 (hletters name hname) letter hletter
  have hform := List.all_eq_true.1 hforms (Text.asciiForm c) (by simpa using hsame)
  rw [Bool.and_eq_true, bne_iff_ne] at hform
  by_cases hlong : c = 'ſ'
  · exact .inr hlong
  · by_cases hdotless : c = 'ı'
    · rw [hdotless] at hform
      exact absurd rfl hform.1
    · rw [Text.asciiForm, if_neg hdotless, if_neg hlong] at hform
      exact .inl hform.2

/-- A normalized code is in normal form. -/
theorem normalize_normalize (code : String) : normalize (normalize code) = normalize code :=
  Text.upperCase_upperCase code

/-- The normalized code of a supported currency is supported. -/
theorem isSupported_normalize (h : isSupported code = true) :
    isSupported (normalize code) = true := by
  unfold isSupported
  rw [normalize_normalize]
  exact h

/-- The normalized code of a supported currency is a plain word. -/
theorem isPlain_normalize (h : isSupported code = true) :
    Text.IsPlain (normalize code).toList := by
  have hplain : ∀ code ∈ supported, Text.IsPlain code.toList := by decide
  exact hplain _ (isSupported_iff.1 h)

end Remittance.Currency
