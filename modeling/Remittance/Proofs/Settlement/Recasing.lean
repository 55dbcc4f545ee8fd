import Remittance.Proofs.Amount
import Remittance.Proofs.Instruction.Recasing
import Remittance.Settlement.Report

/-!
# Settling texts in another letter case

An amount has no letters, and a currency is compared in upper case, so the case of a letter of
ASCII counts only in the two ids and the date. Texts that agree up to letter case are read alike,
and where they also agree in these words they are settled in the same way (`settle_recased`).
-/

namespace Remittance

open Text (AgreeUpToCase)

/-- A text in lower case is read as the same amount. -/
theorem Amount.read_toLower (text : String) : read text.toLower = read text := by
  have hdigit : Char.isDigit ∘ Char.toLower = Char.isDigit := funext Text.isDigit_toLower
  have hsame : isDigits (text.toList.map Char.toLower) = isDigits text.toList := by
    simp [isDigits, List.all_map, hdigit]
  rw [read, read, Text.toList_toLower, hsame]
  by_cases hdigits : isDigits text.toList = true
  · have hkept : text.toList.map Char.toLower = text.toList := by
      rw [List.map_congr_left fun c hc => Text.toLower_of_isDigit ((isDigits_iff.1 hdigits).2 c hc),
        List.map_id']
    rw [hkept]
  · simp [hdigits]

/-- The words of an instruction in which letter case counts: the two ids and the date. -/
def Instruction.exactWords (order : Instruction) : String × String × Option String :=
  (order.debitId, order.creditId, order.executeBy)

namespace Settlement

/-- The instructions say the same, apart from how the amount and the currency are written. -/
structure SameTerms (order other : Instruction) : Prop where
  directive : order.directive = other.directive
  amount : Amount.read order.amount = Amount.read other.amount
  currency : Currency.normalize order.currency = Currency.normalize other.currency
  debitId : order.debitId = other.debitId
  creditId : order.creditId = other.creditId
  executeBy : order.executeBy = other.executeBy

variable {order other : Instruction}

/-- Instructions of the same terms come to the same verdict. -/
theorem SameTerms.orderVerdict_eq (h : SameTerms order other) (amount : Nat)
    (accounts : List Account) (today : Calendar.Date) :
    orderVerdict order amount accounts today = orderVerdict other amount accounts today := by
  have hsupported : Currency.isSupported order.currency = Currency.isSupported other.currency := by
    rw [Currency.isSupported, Currency.isSupported, h.currency]
  have haccount : accountVerdict order amount = accountVerdict other amount := by
    funext debit credit today
    have hagree : currenciesAgree order debit credit = currenciesAgree other debit credit := by
      rw [currenciesAgree, currenciesAgree, h.currency]
    rw [accountVerdict, accountVerdict, hsupported, hagree, h.executeBy]
  rw [orderVerdict, orderVerdict, haccount, h.debitId, h.creditId]

/-- Outcomes repeat the same of instructions of the same terms. -/
theorem SameTerms.ofInstruction_eq (h : SameTerms order other) (amount : Option Int) :
    Fields.ofInstruction order amount none = Fields.ofInstruction other amount none := by
  simp only [Fields.ofInstruction, h.directive, h.currency, h.debitId, h.creditId, h.executeBy]

/-- Instructions of the same terms are judged in the same way. -/
theorem SameTerms.judge_eq (h : SameTerms order other) (accounts : List Account)
    (today : Calendar.Date) : judge order accounts today = judge other accounts today := by
  have houtcome : ∀ amount, outcomeOf order amount accounts = outcomeOf other amount accounts := by
    intro amount
    funext code
    simp only [outcomeOf, h.ofInstruction_eq, h.debitId, h.creditId]
  simp only [judge, h.amount, h.ofInstruction_eq, h.orderVerdict_eq, houtcome]

/-- Instructions that agree up to letter case, and fully in the words in which it counts, have the
same terms. -/
theorem sameTerms_of_agreesUpToCase (h : order.AgreesUpToCase other)
    (hexact : order.exactWords = other.exactWords) : SameTerms order other := by
  simp only [Instruction.exactWords, Prod.mk.injEq] at hexact
  obtain ⟨hdebitId, hcreditId, hexecuteBy⟩ := hexact
  refine ⟨h.directive, ?_, ?_, hdebitId, hcreditId, hexecuteBy⟩
  · have hamount : order.amount.toLower = other.amount.toLower :=
      Text.agreeUpToCase_iff.1 (h.parts .amount)
    rw [← Amount.read_toLower, hamount, Amount.read_toLower]
  · have hcurrency : order.currency.toLower = other.currency.toLower :=
      Text.agreeUpToCase_iff.1 (h.parts .currency)
    rw [Currency.normalize, ← Text.upperCase_toLower, hcurrency, Text.upperCase_toLower]
    rfl

/-- Texts that agree up to the case of letters of ASCII are read as instructions that agree up to
it, or neither is read. If the ids and the date are the same, or neither text is read, both are
settled in the same way, whatever the accounts and the day are. -/
theorem settle_recased {text other : String} (h : AgreeUpToCase text other) :
    Option.Rel Instruction.AgreesUpToCase (Instruction.parse? text) (Instruction.parse? other) ∧
      ((Instruction.parse? text).map Instruction.exactWords =
          (Instruction.parse? other).map Instruction.exactWords →
        ∀ accounts today, settle accounts text today = settle accounts other today) := by
  have hread := Instruction.parse?_agree h
  refine ⟨hread, fun hexact accounts today => ?_⟩
  unfold settle
  generalize Instruction.parse? text = found at hread hexact ⊢
  generalize Instruction.parse? other = foundOther at hread hexact ⊢
  cases hread with
  | none => rfl
  | some hagree =>
      have hterms := sameTerms_of_agreesUpToCase hagree (Option.some.inj hexact)
      simp only [hterms.judge_eq, hterms.directive, Journal.Record.ofOutcome, hterms.debitId,
        hterms.creditId]

/-- A long s in the currency is no letter of ASCII and stays as it is. Both texts are read, and the
amount is moved. -/
theorem settle_recased_long_s :
    let text := "DEBIT 5 u\u017fD from ACCOUNT a FOR credit TO account b"
    let other := "debit 5 U\u017fd FROM account a for CREDIT to ACCOUNT b"
    let accounts : List Account := [⟨"a", 5, "USD"⟩, ⟨"b", 0, "Usd"⟩]
    let today : Calendar.Date := ⟨2026, 1, 15, by decide⟩
    AgreeUpToCase text other ∧
      (Instruction.parse? text).map Instruction.exactWords =
        (Instruction.parse? other).map Instruction.exactWords ∧
      Option.Rel Instruction.AgreesUpToCase (Instruction.parse? text)
        (Instruction.parse? other) ∧
      settle accounts text today = settle accounts other today ∧
      Instruction.parse? text = some ⟨.debit, "5", "u\u017fD", "a", "b", none⟩ ∧
      Instruction.parse? other = some ⟨.debit, "5", "U\u017fd", "a", "b", none⟩ ∧
      (settle accounts other today).answer =
        .ok (.executed ⟨some .debit, some 5, some "USD", some "a", some "b", none⟩
          [⟨"a", 0, 5, "USD"⟩, ⟨"b", 5, 0, "USD"⟩]) := by
  have hfirst : Instruction.parse? "DEBIT 5 u\u017fD from ACCOUNT a FOR credit TO account b" =
      some ⟨.debit, "5", "u\u017fD", "a", "b", none⟩ := by rfl
  have hsecond : Instruction.parse? "debit 5 U\u017fd FROM account a for CREDIT to ACCOUNT b" =
      some ⟨.debit, "5", "U\u017fd", "a", "b", none⟩ := by rfl
  have hanswer : (settle [⟨"a", 5, "USD"⟩, ⟨"b", 0, "Usd"⟩]
      "DEBIT 5 u\u017fD from ACCOUNT a FOR credit TO account b" ⟨2026, 1, 15, by decide⟩).answer =
        .ok (.executed ⟨some .debit, some 5, some "USD", some "a", some "b", none⟩
          [⟨"a", 0, 5, "USD"⟩, ⟨"b", 5, 0, "USD"⟩]) := by rfl
  intro text other accounts today
  have hagree : AgreeUpToCase text other := by decide
  have hexact : (Instruction.parse? text).map Instruction.exactWords =
      (Instruction.parse? other).map Instruction.exactWords := by
    rw [hfirst, hsecond]
    rfl
  obtain ⟨hread, hsettle⟩ := settle_recased hagree
  have hsame := hsettle hexact accounts today
  exact ⟨hagree, hexact, hread, hsame, hfirst, hsecond,
    (congrArg Report.answer hsame).symm.trans hanswer⟩

end Settlement

end Remittance
