import Remittance.Proofs.Calendar.DateText
import Remittance.Settlement.Verdict

/-!
# Verdicts

Every instruction with a valid amount comes to a verdict (`orderVerdict_total`), since a date that
is compared with another one is well formed. A rule on the ids decides the verdict, or the ids
resolve to two accounts and a rule on these does (`orderVerdict_cases`). The balance decides on an
instruction that is due and `Admissible`, and no other is executed (`orderVerdict_executed_iff`).
-/

namespace Remittance.Settlement

/-- The ids of an instruction are valid and different, and they resolve to these two accounts. -/
structure Resolves (accounts : List Account) (order : Instruction) (debit credit : Account) :
    Prop where
  debit_valid : Account.isId order.debitId = true
  credit_valid : Account.isId order.creditId = true
  distinct : order.debitId ≠ order.creditId
  debit_found : Account.find? accounts order.debitId = some debit
  credit_found : Account.find? accounts order.creditId = some credit

/-- The codes of the rules on the two ids of an instruction. -/
def idCodes : List Code :=
  [.invalidAccountId, .sameAccount, .accountNotFound]

/-- The codes of the rules on the two accounts, with those of an instruction that breaks none. -/
def accountCodes : List Code :=
  [.unsupportedCurrency, .currencyMismatch, .invalidDate, .scheduled, .insufficientFunds,
    .executed]

/-- Where the two ids resolve in one list to what becomes of the accounts in another, a rule on the
ids decides both verdicts, or the ids resolve and the rules on the accounts decide both. -/
theorem orderVerdict_cases_of_map {change : Account → Account} {accounts other : List Account}
    {order : Instruction}
    (hdebit : Account.find? other order.debitId =
      (Account.find? accounts order.debitId).map change)
    (hcredit : Account.find? other order.creditId =
      (Account.find? accounts order.creditId).map change)
    (amount : Nat) (today : Calendar.Date) :
    (∃ code ∈ idCodes, orderVerdict order amount accounts today = .ok code ∧
        orderVerdict order amount other today = .ok code) ∨
      ∃ debit credit, Resolves accounts order debit credit ∧
        orderVerdict order amount accounts today =
          accountVerdict order amount debit credit today ∧
        orderVerdict order amount other today =
          accountVerdict order amount (change debit) (change credit) today := by
  unfold orderVerdict
  rw [hdebit, hcredit]
  split
  · exact .inl ⟨.invalidAccountId, by decide, rfl, rfl⟩
  rename_i hvalid
  simp only [Bool.or_eq_true, Bool.not_eq_true', not_or, Bool.not_eq_false] at hvalid
  split
  · exact .inl ⟨.sameAccount, by decide, rfl, rfl⟩
  rename_i hdistinct
  cases hdebitFound : Account.find? accounts order.debitId with
  | none => exact .inl ⟨.accountNotFound, by decide, rfl, rfl⟩
  | some debit =>
      cases hcreditFound : Account.find? accounts order.creditId with
      | none => exact .inl ⟨.accountNotFound, by decide, rfl, rfl⟩
      | some credit =>
          exact .inr ⟨debit, credit,
            { debit_valid := hvalid.1
              credit_valid := hvalid.2
              distinct := by simpa using hdistinct
              debit_found := hdebitFound
              credit_found := hcreditFound }, rfl, rfl⟩

/-- Either a rule on the ids decides the verdict, or the ids resolve and the rules on the accounts
decide it. -/
theorem orderVerdict_cases (order : Instruction) (amount : Nat) (accounts : List Account)
    (today : Calendar.Date) :
    (∃ code ∈ idCodes, orderVerdict order amount accounts today = .ok code) ∨
      ∃ debit credit, Resolves accounts order debit credit ∧
        orderVerdict order amount accounts today =
          accountVerdict order amount debit credit today := by
  rcases orderVerdict_cases_of_map Option.map_id'.symm Option.map_id'.symm amount today with
    ⟨code, hcode, hverdict, -⟩ | ⟨debit, credit, hresolves, hverdict, -⟩
  · exact .inl ⟨code, hcode, hverdict⟩
  · exact .inr ⟨debit, credit, hresolves, hverdict⟩

/-- The timing of an instruction can always be told: only a well-formed date is compared. -/
theorem timing_total (executeBy : Option String) (today : Calendar.Date) :
    ∃ verdict, timing executeBy today = .ok verdict := by
  cases executeBy with
  | none => exact ⟨.now, rfl⟩
  | some date =>
      by_cases hdate : Calendar.isDateText date = true
      · obtain ⟨year, month, day, hwrites⟩ := Calendar.isDateText_iff.1 hdate
        obtain ⟨isLater, hfuture, -⟩ := Calendar.isFuture_of_writes hwrites today
        exact ⟨if isLater then .later else .now, by simp [timing, hdate, hfuture, Except.map]⟩
      · exact ⟨.undated, by simp [timing, hdate]⟩

/-- The rules on the accounts come to a verdict, with a code of theirs. -/
theorem accountVerdict_total (order : Instruction) (amount : Nat) (debit credit : Account)
    (today : Calendar.Date) :
    ∃ code ∈ accountCodes, accountVerdict order amount debit credit today = .ok code := by
  obtain ⟨verdict, htiming⟩ := timing_total order.executeBy today
  unfold accountVerdict
  rw [htiming]
  split
  · exact ⟨.unsupportedCurrency, by simp [accountCodes], rfl⟩
  split
  · exact ⟨.currencyMismatch, by simp [accountCodes], rfl⟩
  cases verdict with
  | undated => exact ⟨.invalidDate, by simp [accountCodes], rfl⟩
  | later => exact ⟨.scheduled, by simp [accountCodes], rfl⟩
  | now =>
      refine ⟨_, ?_, rfl⟩
      split <;> simp [accountCodes]

/-- The codes of the rules are those on the ids and those on the accounts. -/
theorem orderVerdict_mem {order : Instruction} {amount : Nat} {accounts : List Account}
    {today : Calendar.Date} {code : Code}
    (h : orderVerdict order amount accounts today = .ok code) :
    code ∈ idCodes ++ accountCodes := by
  rcases orderVerdict_cases order amount accounts today with
    ⟨idCode, hmem, hid⟩ | ⟨debit, credit, -, haccount⟩
  · obtain rfl : idCode = code := Except.ok.inj (hid.symm.trans h)
    exact List.mem_append_left _ hmem
  · obtain ⟨accountCode, hmem, htotal⟩ := accountVerdict_total order amount debit credit today
    obtain rfl : accountCode = code := Except.ok.inj (htotal.symm.trans (haccount.symm.trans h))
    exact List.mem_append_right _ hmem

/-- An instruction with a valid amount comes to a verdict. -/
theorem orderVerdict_total (order : Instruction) (amount : Nat) (accounts : List Account)
    (today : Calendar.Date) : ∃ code, orderVerdict order amount accounts today = .ok code := by
  rcases orderVerdict_cases order amount accounts today with
    ⟨code, -, hverdict⟩ | ⟨debit, credit, -, hverdict⟩
  · exact ⟨code, hverdict⟩
  · obtain ⟨code, -, hcode⟩ := accountVerdict_total order amount debit credit today
    exact ⟨code, hverdict.trans hcode⟩

/-- An instruction breaks no rule, except perhaps one on its date or on the balance: its ids
resolve to accounts in its currency, which is a supported one. -/
structure Admissible (accounts : List Account) (order : Instruction) (debit credit : Account) :
    Prop extends Resolves accounts order debit credit where
  supported : Currency.isSupported order.currency = true
  agree : currenciesAgree order debit credit = true

section Executed

variable {accounts : List Account} {order : Instruction} {debit credit : Account} {amount : Nat}
  {today : Calendar.Date}

/-- The balance decides on an admissible instruction that is due. -/
theorem Admissible.verdict (h : Admissible accounts order debit credit)
    (hnow : timing order.executeBy today = .ok .now) (amount : Nat) :
    orderVerdict order amount accounts today =
      .ok (if debit.balance < amount then .insufficientFunds else .executed) := by
  rw [orderVerdict, h.debit_valid, h.credit_valid, beq_eq_false_iff_ne.2 h.distinct,
    h.debit_found, h.credit_found]
  show accountVerdict order amount debit credit today = _
  rw [accountVerdict, h.supported, h.agree, hnow]
  rfl

/-- The verdict of success on two accounts rests on every rule about them. -/
theorem accountVerdict_executed
    (h : accountVerdict order amount debit credit today = .ok .executed) :
    Currency.isSupported order.currency = true ∧ currenciesAgree order debit credit = true ∧
      timing order.executeBy today = .ok .now ∧ (amount : Int) ≤ debit.balance := by
  unfold accountVerdict at h
  split at h
  · simp at h
  rename_i hsupported
  split at h
  · simp at h
  rename_i hagree
  split at h
  · simp at h
  · simp at h
  · simp at h
  · rename_i hnow
    split at h
    · simp at h
    · rename_i hcovered
      exact ⟨by simpa using hsupported, by simpa using hagree, hnow, Int.not_lt.1 hcovered⟩

/-- The verdict of success is that on an admissible instruction which is due and covered. -/
theorem orderVerdict_executed_iff :
    orderVerdict order amount accounts today = .ok .executed ↔
      ∃ debit credit, Admissible accounts order debit credit ∧
        timing order.executeBy today = .ok .now ∧ (amount : Int) ≤ debit.balance := by
  constructor
  · intro h
    rcases orderVerdict_cases order amount accounts today with
      ⟨code, hmem, hverdict⟩ | ⟨debit, credit, hresolves, hverdict⟩
    · rw [h, Except.ok.injEq] at hverdict
      exact absurd hmem (hverdict ▸ by decide)
    · rw [h] at hverdict
      obtain ⟨hsupported, hagree, hnow, hcovered⟩ := accountVerdict_executed hverdict.symm
      exact ⟨debit, credit, ⟨hresolves, hsupported, hagree⟩, hnow, hcovered⟩
  · rintro ⟨debit, credit, hadmissible, hnow, hcovered⟩
    rw [hadmissible.verdict hnow, if_neg (Int.not_lt.2 hcovered)]

end Executed

end Remittance.Settlement
