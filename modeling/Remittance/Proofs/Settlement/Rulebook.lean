import Remittance.Proofs.Account.Ids
import Remittance.Proofs.Calendar.DateText
import Remittance.Proofs.Currency
import Remittance.Proofs.Instruction.Parts
import Remittance.Proofs.Settlement.Answers

/-!
# The rulebook

The business rules as an ordered table, said of the words of an instruction and of the accounts
without the functions that check them. `Decides` picks the first rule that applies. Every answer
to a text carries the code that the table decides, and no other (`settle_decides`), however many
rules the text breaks at once.
-/

namespace Remittance.Settlement

/-- A row of the table: the code of an instruction to which the rule applies. -/
structure Rule where
  code : Code
  applies : Prop

/-- The first rule of the table that applies has this code. -/
inductive Decides : List Rule → Code → Prop where
  | here {rule rules} : rule.applies → Decides (rule :: rules) rule.code
  | later {rule rules code} : ¬ rule.applies → Decides rules code → Decides (rule :: rules) code

/-- A table decides at most one code. -/
theorem Decides.unique {rules : List Rule} {code other : Code} (h : Decides rules code)
    (hother : Decides rules other) : code = other := by
  induction h with
  | here happlies =>
      cases hother with
      | here => rfl
      | later hnot => exact absurd happlies hnot
  | later hnot _ ih =>
      cases hother with
      | here happlies => exact absurd happlies hnot
      | later _ hrest => exact ih hrest

/-- The instruction has a date, and it is not written as one. -/
def IsUndated (executeBy : Option String) : Prop :=
  ∃ date, executeBy = some date ∧ ¬ ∃ year month day, Calendar.Writes date year month day

/-- The instruction has a date, and the day that it stands for comes after another one. -/
def IsLater (executeBy : Option String) (today : Calendar.Date) : Prop :=
  ∃ date year month day, executeBy = some date ∧ Calendar.Writes date year month day ∧
    Calendar.Precedes (today.year, today.month, today.day) (Calendar.rolled year month day)

/-- The rules on the two ids. -/
def idRules (accounts : List Account) (order : Instruction) : List Rule :=
  [⟨.invalidAccountId,
      ¬ Account.AreIdCharacters order.debitId ∨ ¬ Account.AreIdCharacters order.creditId⟩,
    ⟨.sameAccount, order.debitId = order.creditId⟩,
    ⟨.accountNotFound,
      (¬ ∃ account ∈ accounts, account.id = order.debitId) ∨
        ¬ ∃ account ∈ accounts, account.id = order.creditId⟩]

/-- The rules on the currencies of an instruction and of the accounts that it names. -/
def currencyRules (accounts : List Account) (order : Instruction) : List Rule :=
  [⟨.unsupportedCurrency, Text.upperCase order.currency ∉ ["NGN", "USD", "GBP", "GHS"]⟩,
    ⟨.currencyMismatch,
      ¬ ∃ debit credit, Account.IsFirst accounts order.debitId debit ∧
        Account.IsFirst accounts order.creditId credit ∧
        Text.upperCase debit.currency = Text.upperCase credit.currency ∧
        Text.upperCase debit.currency = Text.upperCase order.currency⟩]

/-- The rules on the date of an instruction and on the balance, of which the last applies to
every instruction. -/
def executionRules (accounts : List Account) (today : Calendar.Date) (order : Instruction) :
    List Rule :=
  [⟨.invalidDate, IsUndated order.executeBy⟩,
    ⟨.scheduled, IsLater order.executeBy today⟩,
    ⟨.insufficientFunds,
      ∃ amount debit, Amount.Writes order.amount amount ∧
        Account.IsFirst accounts order.debitId debit ∧ debit.balance < amount⟩,
    ⟨.executed, True⟩]

/-- The table of rules for an instruction, or for a text that holds none. -/
def rulebook (accounts : List Account) (today : Calendar.Date) : Option Instruction → List Rule
  | none => [⟨.malformed, True⟩]
  | some order =>
      ⟨.invalidAmount, ¬ ∃ amount, Amount.Writes order.amount amount⟩ ::
        (idRules accounts order ++ (currencyRules accounts order ++
          executionRules accounts today order))

variable {accounts : List Account} {today : Calendar.Date} {order : Instruction}
  {amount : Nat} {debit credit : Account} {code : Code}

/-- Comparing a written date with another day tells whether it comes later. -/
theorem isFuture_eq_isLater {date : String}
    (hdate : ∃ year month day, Calendar.Writes date year month day) (today : Calendar.Date) :
    ∃ isLater, Calendar.isFuture date today = .ok isLater ∧
      (isLater = true ↔ IsLater (some date) today) := by
  obtain ⟨year, month, day, hwrites⟩ := hdate
  obtain ⟨isLater, hfuture, hiff⟩ := Calendar.isFuture_of_writes hwrites today
  refine ⟨isLater, hfuture, fun h => ⟨date, year, month, day, rfl, hwrites, hiff.1 h⟩, ?_⟩
  rintro ⟨_, year', month', day', hsame, hwrites', hprecedes⟩
  cases hsame
  -- The comparison gives one answer, so it does not matter in which way the date is read.
  obtain ⟨isLater', hfuture', hiff'⟩ := Calendar.isFuture_of_writes hwrites' today
  rw [hfuture, Except.ok.injEq] at hfuture'
  rw [hfuture']
  exact hiff'.2 hprecedes

/-- The timing of an instruction follows from the day that its date stands for. -/
theorem timing_spec {executeBy : Option String} {verdict : Timing}
    (h : timing executeBy today = .ok verdict) :
    (verdict = .undated ↔ IsUndated executeBy) ∧ (verdict = .later ↔ IsLater executeBy today) := by
  cases executeBy with
  | none =>
      cases h
      simp [IsUndated, IsLater]
  | some date =>
      by_cases hdate : ∃ year month day, Calendar.Writes date year month day
      · obtain ⟨isLater, hfuture, hlater⟩ := isFuture_eq_isLater hdate today
        have hdated : ¬ IsUndated (some date) := by
          rintro ⟨_, hsame, hnot⟩
          cases hsame
          exact hnot hdate
        simp only [timing, Calendar.isDateText_iff.2 hdate, hfuture, Except.map] at h
        cases isLater <;> cases h <;> simp [hdated, ← hlater]
      · have hform : Calendar.isDateText date = false := by
          rw [← Bool.not_eq_true, Calendar.isDateText_iff]
          exact hdate
        have hnever : ¬ IsLater (some date) today := by
          rintro ⟨_, year, month, day, hsame, hwrites, -⟩
          cases hsame
          exact hdate ⟨year, month, day, hwrites⟩
        have hundated : IsUndated (some date) := ⟨date, rfl, hdate⟩
        simp only [timing, hform] at h
        cases h
        simp [hundated, hnever]

/-- The currencies agree as the rule on them says, which looks the accounts up. -/
theorem currenciesAgree_iff (hdebit : Account.IsFirst accounts order.debitId debit)
    (hcredit : Account.IsFirst accounts order.creditId credit) :
    currenciesAgree order debit credit = true ↔
      ∃ debit credit, Account.IsFirst accounts order.debitId debit ∧
        Account.IsFirst accounts order.creditId credit ∧
        Text.upperCase debit.currency = Text.upperCase credit.currency ∧
        Text.upperCase debit.currency = Text.upperCase order.currency := by
  simp only [currenciesAgree, Currency.normalize, Bool.and_eq_true, beq_iff_eq]
  constructor
  · intro hsame
    exact ⟨debit, credit, hdebit, hcredit, hsame⟩
  · rintro ⟨debit', credit', hdebit', hcredit', hsame⟩
    rwa [hdebit.unique hdebit', hcredit.unique hcredit']

/-- The debit account is short of the amount as the rule on it says. -/
theorem short_iff (hamount : Amount.Writes order.amount amount)
    (hdebit : Account.IsFirst accounts order.debitId debit) :
    debit.balance < amount ↔
      ∃ amount debit, Amount.Writes order.amount amount ∧
        Account.IsFirst accounts order.debitId debit ∧ debit.balance < amount := by
  constructor
  · intro hshort
    exact ⟨amount, debit, hamount, hdebit, hshort⟩
  · rintro ⟨amount', debit', hamount', hdebit', hshort⟩
    rwa [hamount.unique hamount', hdebit.unique hdebit']

/-- The verdict on an instruction whose accounts are found is decided by the rules on currencies
and execution. -/
theorem accountVerdict_decides (hamount : Amount.Writes order.amount amount)
    (hdebit : Account.IsFirst accounts order.debitId debit)
    (hcredit : Account.IsFirst accounts order.creditId credit)
    (h : accountVerdict order amount debit credit today = .ok code) :
    Decides (currencyRules accounts order ++ executionRules accounts today order) code := by
  unfold accountVerdict at h
  split at h
  · rename_i hunsupported
    cases h
    refine .here ?_
    rw [← Currency.isSupported_iff]
    simpa using hunsupported
  rename_i hsupported
  refine .later (by rw [← Currency.isSupported_iff]; simpa using hsupported) ?_
  split at h
  · rename_i hdiffer
    cases h
    refine .here ?_
    rw [← currenciesAgree_iff hdebit hcredit]
    simpa using hdiffer
  rename_i hsame
  refine .later (by rw [← currenciesAgree_iff hdebit hcredit]; simpa using hsame) ?_
  split at h
  · simp at h
  · rename_i htiming
    cases h
    exact .here ((timing_spec htiming).1.1 rfl)
  · rename_i htiming
    obtain ⟨hundated, hlater⟩ := timing_spec htiming
    cases h
    exact .later (fun hnot => by simpa using hundated.2 hnot) (.here (hlater.1 rfl))
  · rename_i htiming
    obtain ⟨hundated, hlater⟩ := timing_spec htiming
    refine .later (fun hnot => by simpa using hundated.2 hnot) ?_
    refine .later (fun hnot => by simpa using hlater.2 hnot) ?_
    split at h
    · rename_i hshort
      cases h
      exact .here ((short_iff hamount hdebit).1 hshort)
    · rename_i hcovered
      cases h
      exact .later (fun hshort => hcovered ((short_iff hamount hdebit).2 hshort)) (.here trivial)

/-- The verdict on an instruction with a valid amount is decided by the rules behind the one on
amounts. -/
theorem orderVerdict_decides (hwords : ∀ wanted, order.part wanted ≠ "")
    (hamount : Amount.Writes order.amount amount)
    (h : orderVerdict order amount accounts today = .ok code) :
    Decides (idRules accounts order ++ (currencyRules accounts order ++
      executionRules accounts today order)) code := by
  have hdebitId := Account.isId_iff (hwords .debitId)
  have hcreditId := Account.isId_iff (hwords .creditId)
  simp only [Instruction.part] at hdebitId hcreditId
  unfold orderVerdict at h
  split at h
  · rename_i hcharacters
    cases h
    refine .here ?_
    rw [← hdebitId, ← hcreditId]
    simpa using hcharacters
  rename_i hcharacters
  refine .later ?_ ?_
  · rw [← hdebitId, ← hcreditId]
    simpa using hcharacters
  split at h
  · rename_i hsame
    cases h
    exact .here (beq_iff_eq.1 hsame)
  rename_i hdistinct
  refine .later (fun hsame => hdistinct (beq_iff_eq.2 hsame)) ?_
  split at h
  · rename_i debit credit hdebit hcredit
    refine .later ?_ ?_
    · rw [← Account.find?_eq_none_iff, ← Account.find?_eq_none_iff, hdebit, hcredit]
      simp
    · exact accountVerdict_decides hamount (Account.find?_eq_some_iff.1 hdebit)
        (Account.find?_eq_some_iff.1 hcredit) h
  · rename_i hmissing
    cases h
    refine .here ?_
    rw [← Account.find?_eq_none_iff, ← Account.find?_eq_none_iff]
    cases hdebit : Account.find? accounts order.debitId with
    | none => exact .inl rfl
    | some debit =>
        cases hcredit : Account.find? accounts order.creditId with
        | none => exact .inr rfl
        | some credit => exact absurd hcredit (hmissing debit credit hdebit)

/-- Whichever way a text is settled, the table decides the code of the outcome. -/
theorem Settles.decides {text : String} {outcome : Outcome}
    (h : Settles accounts text today outcome) :
    Decides (rulebook accounts today (Instruction.parse? text)) outcome.code := by
  cases h with
  | unreadable horder =>
      rw [horder]
      exact .here trivial
  | invalidAmount order horder hamount =>
      rw [horder]
      refine .here ?_
      rintro ⟨amount, hwrites⟩
      exact Amount.not_writes_of_read hamount amount hwrites
  | decided order amount code horder hamount hverdict =>
      have hwrites := Amount.writes_of_read hamount
      rw [horder, outcomeOf_code]
      exact .later (fun hnot => hnot ⟨amount, hwrites⟩)
        (orderVerdict_decides (Instruction.parse?_part_ne_empty horder) hwrites hverdict)

/-- Whatever the accounts, the text, and the date, an answer carries the code of the first rule
of the table that applies, and no other code is decided. -/
theorem settle_decides {text : String} {outcome : Outcome}
    (h : (settle accounts text today).answer = .ok outcome) (code : Code) :
    Decides (rulebook accounts today (Instruction.parse? text)) code ↔ outcome.code = code := by
  have hdecides := (settles_iff.1 h).decides
  constructor
  · intro hcode
    exact hdecides.unique hcode
  · rintro rfl
    exact hdecides

/-- An instruction on an overdrawn account waits for the third of March, which is the day that
the 31st of February of its date runs on to. -/
theorem settle_decides_scheduled :
    ∃ outcome, (settle [⟨"a", -5, "usd"⟩, ⟨"a", 900, "NGN"⟩, ⟨"b", 0, "USD"⟩]
        "debit 500 Usd from account a for credit to account b on 2023-02-31"
        ⟨2023, 3, 2, by decide⟩).answer = .ok outcome ∧
      Decides (rulebook [⟨"a", -5, "usd"⟩, ⟨"a", 900, "NGN"⟩, ⟨"b", 0, "USD"⟩]
        ⟨2023, 3, 2, by decide⟩ (Instruction.parse?
          "debit 500 Usd from account a for credit to account b on 2023-02-31")) .scheduled :=
  ⟨_, by rfl, (settle_decides (by rfl) .scheduled).2 (by rfl)⟩

end Remittance.Settlement
