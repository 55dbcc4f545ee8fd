import Remittance.Proofs.Account.Ids
import Remittance.Proofs.Currency
import Remittance.Proofs.Settlement.Answers

/-!
# Currencies of accepted instructions

An accepted instruction and its two accounts name one supported currency, in any letter case and
with a long s for an s (`settle_currencies`). The long s is the only character outside ASCII in
the code of a supported currency. It is one, so such a code need not be the name of a currency in
some letter case of ASCII (`not_isSupported_iff_spells_name`).
-/

namespace Remittance.Settlement

open Text (Spells asciiForm)

variable {accounts : List Account} {text : String} {today : Calendar.Date} {outcome : Outcome}

/-- The codes of accepted instructions. -/
def acceptedCodes : List Code :=
  [.executed, .scheduled]

/-- The codes name one supported currency, in any letter case and with a long s for an s. -/
def NameOneCurrency (codes : List String) : Prop :=
  ∃ name ∈ Currency.supported, ∀ code ∈ codes, Spells name.toList (code.toList.map asciiForm)

/-- Codes with the same normalized form name one currency if one of them is supported. -/
theorem nameOneCurrency_of_normalize {code : String} {codes : List String}
    (hcode : Currency.isSupported code = true)
    (h : ∀ other ∈ codes, Currency.normalize other = Currency.normalize code) :
    NameOneCurrency codes := by
  rw [Currency.isSupported, List.contains_iff_mem] at hcode
  exact ⟨_, hcode, fun other hmem => (Currency.normalize_eq_iff hcode).1 (h other hmem)⟩

/-- An accepted instruction is in a supported currency, on which its accounts agree. -/
theorem accountVerdict_accepted {order : Instruction} {amount : Nat} {debit credit : Account}
    {code : Code} (hcode : code ∈ acceptedCodes)
    (h : accountVerdict order amount debit credit today = .ok code) :
    Currency.isSupported order.currency = true ∧ currenciesAgree order debit credit = true := by
  unfold accountVerdict at h
  split at h
  · cases h
    simp [acceptedCodes] at hcode
  rename_i hsupported
  split at h
  · cases h
    simp [acceptedCodes] at hcode
  rename_i hagree
  exact ⟨by simpa using hsupported, by simpa using hagree⟩

/-- The ids of an accepted instruction resolve, and its accounts are in its currency. -/
theorem orderVerdict_accepted {order : Instruction} {amount : Nat} {code : Code}
    (hcode : code ∈ acceptedCodes) (h : orderVerdict order amount accounts today = .ok code) :
    ∃ debit credit, Admissible accounts order debit credit := by
  rcases orderVerdict_cases order amount accounts today with
    ⟨idCode, hmem, hverdict⟩ | ⟨debit, credit, hresolves, hverdict⟩
  · obtain rfl : idCode = code := Except.ok.inj (hverdict.symm.trans h)
    have hapart : ∀ code ∈ acceptedCodes, code ∉ idCodes := by decide
    exact absurd hmem (hapart _ hcode)
  · obtain ⟨hsupported, hagree⟩ := accountVerdict_accepted hcode (hverdict.symm.trans h)
    exact ⟨debit, credit, ⟨hresolves, hsupported, hagree⟩⟩

/-- An accepted outcome is that of an instruction which is admissible. -/
theorem Settles.accepted (h : Settles accounts text today outcome)
    (hcode : outcome.code ∈ acceptedCodes) :
    ∃ order debit credit, Instruction.parse? text = some order ∧
      Admissible accounts order debit credit := by
  cases h with
  | unreadable => simp [acceptedCodes, Outcome.unreadable, Outcome.failed, Outcome.refused] at hcode
  | invalidAmount => simp [acceptedCodes, Outcome.failed, Outcome.refused] at hcode
  | decided order amount code horder hamount hverdict =>
      rw [outcomeOf_code] at hcode
      obtain ⟨debit, credit, hadmissible⟩ := orderVerdict_accepted hcode hverdict
      exact ⟨order, debit, credit, horder, hadmissible⟩

/-- An admissible instruction and its accounts name one currency. -/
theorem Admissible.nameOneCurrency {order : Instruction} {debit credit : Account}
    (h : Admissible accounts order debit credit) :
    NameOneCurrency [order.currency, debit.currency, credit.currency] := by
  have hagree := h.agree
  simp only [currenciesAgree, Bool.and_eq_true, beq_iff_eq] at hagree
  refine nameOneCurrency_of_normalize h.supported ?_
  simp only [List.forall_mem_cons, List.not_mem_nil, false_implies, implies_true, and_true]
  exact ⟨trivial, hagree.2, hagree.1.symm.trans hagree.2⟩

/-- A currency is supported exactly when its code spells one of the four names, in any letter case
and with a long s for an s, and it holds no other character outside ASCII. An accepted instruction
and its two accounts name one such currency. -/
theorem settle_currencies (accounts : List Account) (text : String) (today : Calendar.Date) :
    (∀ code, Currency.isSupported code = true ↔ NameOneCurrency [code]) ∧
      (∀ code, Currency.isSupported code = true →
        ∀ c ∈ code.toList, Text.isAscii c = true ∨ c = 'ſ') ∧
      ∀ outcome, (settle accounts text today).answer = .ok outcome →
        outcome.code ∈ acceptedCodes →
        ∃ order debit credit, Instruction.parse? text = some order ∧
          Account.IsFirst accounts order.debitId debit ∧
          Account.IsFirst accounts order.creditId credit ∧
          NameOneCurrency [order.currency, debit.currency, credit.currency] := by
  refine ⟨?_, fun code => Currency.isAscii_or_eq_of_isSupported, ?_⟩
  · intro code
    rw [Currency.isSupported_iff_spells, NameOneCurrency]
    simp only [List.mem_singleton, forall_eq]
  · intro outcome hanswer hcode
    obtain ⟨order, debit, credit, horder, hadmissible⟩ := (settles_iff.1 hanswer).accepted hcode
    exact ⟨order, debit, credit, horder, Account.find?_eq_some_iff.1 hadmissible.debit_found,
      Account.find?_eq_some_iff.1 hadmissible.credit_found, hadmissible.nameOneCurrency⟩

/-- An instruction with a long s in its currency waits for its date. -/
theorem settle_currencies_long_s :
    let accounts : List Account := [⟨"a", 0, "GHS"⟩, ⟨"b", 0, "Gh\u017f"⟩]
    let text := "CREDIT 5 gH\u017f TO ACCOUNT b FOR DEBIT FROM ACCOUNT a ON 2026-02-01"
    let today : Calendar.Date := ⟨2026, 1, 15, by decide⟩
    (Currency.isSupported "gH\u017f" = true ∧
        ∀ c ∈ "gH\u017f".toList, Text.isAscii c = true ∨ c = 'ſ') ∧
      ∃ outcome, (settle accounts text today).answer = .ok outcome ∧
        outcome.code = .scheduled ∧ outcome.code ∈ acceptedCodes ∧
        ∃ order debit credit, Instruction.parse? text = some order ∧
          Account.IsFirst accounts order.debitId debit ∧
          Account.IsFirst accounts order.creditId credit ∧
          NameOneCurrency [order.currency, debit.currency, credit.currency] := by
  have hanswer : (settle [⟨"a", 0, "GHS"⟩, ⟨"b", 0, "Gh\u017f"⟩]
      "CREDIT 5 gH\u017f TO ACCOUNT b FOR DEBIT FROM ACCOUNT a ON 2026-02-01"
      ⟨2026, 1, 15, by decide⟩).answer =
      .ok (.scheduled ⟨some .credit, some 5, some "GHS", some "a", some "b", some "2026-02-01"⟩
        [⟨"a", 0, 0, "GHS"⟩, ⟨"b", 0, 0, "GHS"⟩]) := by rfl
  intro accounts text today
  obtain ⟨-, hlong, hsame⟩ := settle_currencies accounts text today
  exact ⟨⟨by rfl, hlong _ (by rfl)⟩, _, hanswer, rfl, by decide, hsame _ hanswer (by decide)⟩

/-- A currency can be supported whose code is not one of the names in any letter case, and a
payment in it is carried out. -/
theorem not_isSupported_iff_spells_name :
    (¬ ∀ code, Currency.isSupported code = true ↔
      ∃ name ∈ Currency.supported, Spells name.toList code.toList) ∧
      (settle [⟨"a", 100, "u\u017fd"⟩, ⟨"b", 0, "USD"⟩]
        "DEBIT 5 u\u017fd FROM ACCOUNT a FOR CREDIT TO ACCOUNT b"
        ⟨2026, 1, 15, by decide⟩).answer.map Outcome.code = .ok .executed := by
  refine ⟨?_, by rfl⟩
  intro hspells
  exact absurd ((hspells "u\u017fd").1 (by rfl)) (by decide)

end Remittance.Settlement
