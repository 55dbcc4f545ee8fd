import Remittance.Proofs.Account.Ids
import Remittance.Proofs.Account.Places
import Remittance.Proofs.Settlement.Answers

/-!
# What outcomes report about accounts

Where the ids of an instruction resolve, its outcome reports the two accounts that they resolve to,
in the order of the list, and no outcome reports anything else. `settle_reports` says for every
code which accounts are reported, and with which balances.
-/

namespace Remittance

namespace Snapshot

/-- The snapshot of an account whose balance changes by this much. -/
def ofChange (account : Account) (change : Int) : Snapshot where
  id := account.id
  balance := account.balance + change
  balanceBefore := account.balance
  currency := Text.upperCase account.currency

theorem ofChange_zero (account : Account) : ofChange account 0 = ofAccount account := by
  simp [ofChange, ofAccount, Currency.normalize]

/-- A transfer between two accounts takes the amount from one and gives it to the other. -/
theorem transfer_pair {debit credit : Account} (hdistinct : debit.id ≠ credit.id) (amount : Int) :
    transfer [ofAccount debit, ofAccount credit] debit.id credit.id amount =
      [ofChange debit (-amount), ofChange credit amount] := by
  simp [transfer, shift, ofAccount, ofChange, Currency.normalize, hdistinct.symm,
    Int.sub_eq_add_neg]

/-- Snapshots keep the order of their places in a transfer. -/
theorem pairwise_place_transfer {accounts : List Account} {snapshots : List Snapshot}
    (h : snapshots.Pairwise fun first second =>
      Account.place accounts first.id < Account.place accounts second.id)
    (debit credit : String) (amount : Int) :
    (transfer snapshots debit credit amount).Pairwise fun first second =>
      Account.place accounts first.id < Account.place accounts second.id := by
  rw [transfer, List.pairwise_map]
  simpa only [shift_id] using h

end Snapshot

namespace Settlement

variable {accounts : List Account} {text : String} {today : Calendar.Date} {outcome : Outcome}

/-- The codes of the outcomes that report no accounts. -/
def bareCodes : List Code :=
  [.malformed, .invalidAmount, .invalidAccountId, .sameAccount, .accountNotFound]

/-- The snapshots are those of the two accounts that the ids of an instruction resolve to, after
an amount has moved between them, in the order in which the first account with each id stands in
the list. -/
structure Reports (accounts : List Account) (order : Instruction) (debit credit : Account)
    (moved : Int) (snapshots : List Snapshot) : Prop where
  distinct : order.debitId ≠ order.creditId
  debit_first : Account.IsFirst accounts order.debitId debit
  credit_first : Account.IsFirst accounts order.creditId credit
  pair : snapshots.Perm [.ofChange debit (-moved), .ofChange credit moved]
  in_order : snapshots.Pairwise fun first second =>
    Account.place accounts first.id < Account.place accounts second.id

/-- The codes of the rules on the ids report no accounts. -/
theorem outcomeOf_snapshots_of_mem_idCodes {code : Code} (hcode : code ∈ idCodes)
    (order : Instruction) (amount : Nat) (accounts : List Account) :
    (outcomeOf order amount accounts code).snapshots = [] := by
  simp only [idCodes, List.mem_cons, List.not_mem_nil, or_false] at hcode
  rcases hcode with rfl | rfl | rfl <;> rfl

/-- Under a code of the rules on the ids, an outcome does not depend on the accounts. -/
theorem outcomeOf_of_mem_idCodes {code : Code} (hcode : code ∈ idCodes) (order : Instruction)
    (amount : Nat) (accounts other : List Account) :
    outcomeOf order amount accounts code = outcomeOf order amount other code := by
  simp only [idCodes, List.mem_cons, List.not_mem_nil, or_false] at hcode
  rcases hcode with rfl | rfl | rfl <;> rfl

/-- The codes of the rules on the accounts report the accounts, after the transfer if the
instruction is executed. -/
theorem outcomeOf_snapshots_of_mem_accountCodes {code : Code} (hcode : code ∈ accountCodes)
    (order : Instruction) (amount : Nat) (accounts : List Account) :
    (outcomeOf order amount accounts code).snapshots =
      if code = .executed then
        Snapshot.transfer (Snapshot.ofAccounts accounts order.debitId order.creditId)
          order.debitId order.creditId amount
      else Snapshot.ofAccounts accounts order.debitId order.creditId := by
  simp only [accountCodes, List.mem_cons, List.not_mem_nil, or_false] at hcode
  rcases hcode with rfl | rfl | rfl | rfl | rfl | rfl <;> rfl

/-- What becomes of a snapshot under a code of the rules on the accounts. -/
def settled (order : Instruction) (amount : Nat) (code : Code) (snapshot : Snapshot) : Snapshot :=
  if code = .executed then
    snapshot.shift (snapshot.id == order.debitId) (snapshot.id == order.creditId) amount
  else snapshot

/-- Whatever becomes of a snapshot, it says the same of the account before. -/
@[simp] theorem account_settled (order : Instruction) (amount : Nat) (code : Code)
    (snapshot : Snapshot) : (settled order amount code snapshot).account = snapshot.account := by
  unfold settled
  split
  · exact snapshot.account_shift _ _ _
  · rfl

/-- The codes of the rules on the accounts report what becomes of each snapshot. -/
theorem outcomeOf_snapshots_eq_map {code : Code} (hcode : code ∈ accountCodes)
    (order : Instruction) (amount : Nat) (accounts : List Account) :
    (outcomeOf order amount accounts code).snapshots =
      (Snapshot.ofAccounts accounts order.debitId order.creditId).map
        (settled order amount code) := by
  rw [outcomeOf_snapshots_of_mem_accountCodes hcode]
  unfold settled
  split
  · rfl
  · exact (List.map_id _).symm

/-- Once its ids resolve, the outcome of an instruction reports both accounts. -/
theorem Resolves.reports {order : Instruction} {debit credit : Account} {code : Code}
    (h : Resolves accounts order debit credit) (hcode : code ∈ accountCodes) (amount : Nat) :
    Reports accounts order debit credit (if code = .executed then amount else 0)
      (outcomeOf order amount accounts code).snapshots := by
  have hpair := Snapshot.ofAccounts_perm h.distinct h.debit_found h.credit_found
  have hplaces := Snapshot.pairwise_place_ofAccounts accounts order.debitId order.creditId
  have hdebit := Account.find?_eq_some_iff.1 h.debit_found
  have hcredit := Account.find?_eq_some_iff.1 h.credit_found
  rw [outcomeOf_snapshots_of_mem_accountCodes hcode]
  by_cases hexecuted : code = .executed
  · simp only [hexecuted, if_true]
    refine ⟨h.distinct, hdebit, hcredit, ?_, Snapshot.pairwise_place_transfer hplaces _ _ _⟩
    have hdebitId := Account.find?_id h.debit_found
    have hcreditId := Account.find?_id h.credit_found
    have hdistinct : debit.id ≠ credit.id := by
      rw [hdebitId, hcreditId]
      exact h.distinct
    rw [← Snapshot.transfer_pair hdistinct, hdebitId, hcreditId]
    exact hpair.map _
  · simp only [hexecuted, if_false]
    refine ⟨h.distinct, hdebit, hcredit, ?_, hplaces⟩
    rwa [Int.neg_zero, Snapshot.ofChange_zero, Snapshot.ofChange_zero]

/-- An executed instruction moves its amount, which the debit account covers, and no other
instruction moves anything. -/
def MovesOnlyExecuted (outcome : Outcome) (debit : Account) (moved : Int) : Prop :=
  (outcome.code = .executed →
    outcome.fields.amount = some moved ∧ 0 < moved ∧ 0 ≤ debit.balance - moved) ∧
  (outcome.code ≠ .executed → moved = 0)

/-- Whichever way a text is settled, its outcome reports nothing under one of the codes for that,
or it reports the accounts of the instruction under a code of the rules on these. -/
theorem Settles.reports (h : Settles accounts text today outcome) :
    (outcome.code ∈ bareCodes ∧ outcome.snapshots = []) ∨
      (outcome.code ∈ accountCodes ∧ ∃ order debit credit moved,
        Instruction.parse? text = some order ∧
          Reports accounts order debit credit moved outcome.snapshots ∧
          MovesOnlyExecuted outcome debit moved) := by
  cases h with
  | unreadable horder => exact .inl ⟨List.mem_cons_self, rfl⟩
  | invalidAmount order horder hamount =>
      exact .inl ⟨List.mem_cons_of_mem _ List.mem_cons_self, rfl⟩
  | decided order amount code horder hamount hverdict =>
      rw [outcomeOf_code]
      rcases orderVerdict_cases order amount accounts today with
        ⟨idCode, hmem, hid⟩ | ⟨debit, credit, hresolves, haccount⟩
      · obtain rfl : idCode = code := Except.ok.inj (hid.symm.trans hverdict)
        have hbare : ∀ code ∈ idCodes, code ∈ bareCodes := by decide
        exact .inl ⟨hbare _ hmem, outcomeOf_snapshots_of_mem_idCodes hmem order amount accounts⟩
      · rw [hverdict] at haccount
        obtain ⟨accountCode, hmem, htotal⟩ :=
          accountVerdict_total order amount debit credit today
        obtain rfl : accountCode = code := Except.ok.inj (htotal.symm.trans haccount.symm)
        refine .inr ⟨hmem, order, debit, credit, _, horder, hresolves.reports hmem amount, ?_, ?_⟩
        · rw [outcomeOf_code]
          rintro rfl
          have hpos := (Amount.writes_of_read hamount).2.2.2
          obtain ⟨-, -, -, hcovered⟩ := accountVerdict_executed htotal
          exact ⟨rfl, by simpa using hpos, by simpa using hcovered⟩
        · rw [outcomeOf_code]
          intro hcode
          rw [if_neg hcode]

/-- An outcome reports no accounts exactly under the codes of `bareCodes`. Under every other code
it reports the two accounts that the ids of the instruction resolve to, and their balances differ
from those before by the amount, which the debit account covers, if the instruction is executed,
and not at all otherwise. -/
theorem settle_reports (h : (settle accounts text today).answer = .ok outcome) :
    (outcome.snapshots = [] ↔ outcome.code ∈ bareCodes) ∧
      (outcome.code ∉ bareCodes → ∃ order debit credit moved,
        Instruction.parse? text = some order ∧
          Reports accounts order debit credit moved outcome.snapshots ∧
          MovesOnlyExecuted outcome debit moved) := by
  rcases (settles_iff.1 h).reports with
    ⟨hcode, hnone⟩ | ⟨hcode, order, debit, credit, moved, horder, hreports, hmoved⟩
  · exact ⟨by simp [hcode, hnone], fun hnot => absurd hcode hnot⟩
  · have hnot : ∀ code ∈ accountCodes, code ∉ bareCodes := by decide
    have hsome : outcome.snapshots ≠ [] := by
      intro hnone
      simpa [hnone] using hreports.pair
    exact ⟨by simp [hnot _ hcode, hsome],
      fun _ => ⟨order, debit, credit, moved, horder, hreports, hmoved⟩⟩

/-- The credit account stands first, and both ids occur again behind the two accounts. -/
theorem settle_reports_credit_first :
    let accounts : List Account :=
      [⟨"b", 5, "usd"⟩, ⟨"b", 70, "NGN"⟩, ⟨"a", 500, "Usd"⟩, ⟨"b", 0, "USD"⟩, ⟨"a", 9, "USD"⟩]
    let text := "DEBIT 500 usd FROM ACCOUNT a FOR CREDIT TO ACCOUNT b"
    let outcome : Outcome := .executed ⟨some .debit, some 500, some "USD", some "a", some "b", none⟩
      [⟨"b", 505, 5, "USD"⟩, ⟨"a", 0, 500, "USD"⟩]
    (settle accounts text ⟨2026, 1, 15, by decide⟩).answer = .ok outcome ∧
      outcome.code ∉ bareCodes ∧
      ∃ order debit credit moved, Instruction.parse? text = some order ∧
        Reports accounts order debit credit moved outcome.snapshots ∧
        MovesOnlyExecuted outcome debit moved :=
  ⟨by rfl, by decide,
    (@settle_reports _ _ ⟨2026, 1, 15, by decide⟩ _ (by rfl)).2 (by decide)⟩

end Settlement

end Remittance
