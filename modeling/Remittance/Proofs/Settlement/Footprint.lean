import Remittance.Proofs.Account.Places
import Remittance.Proofs.Settlement.Verdicts

/-!
# What a judgement depends on

Of all accounts the verdict on an instruction reads the balance and the currency of the one that is
debited and the currency of the one that is credited (`orderVerdict_congr`). Its outcome adds the
snapshots of the two, and so depends on the two accounts and their order: where the snapshots are
reported in another arrangement, nothing else of the outcome changes (`judge_arranged`).
-/

namespace Remittance

namespace Snapshot

/-- The snapshot of the account that an id resolves to. -/
def of? (accounts : List Account) (id : String) : Option Snapshot :=
  (Account.find? accounts id).map ofAccount

theorem of?_eq_none_iff {accounts : List Account} {id : String} :
    of? accounts id = none ↔ Account.find? accounts id = none :=
  Option.map_eq_none_iff

theorem of?_eq_some_iff {accounts : List Account} {id : String} {snapshot : Snapshot} :
    of? accounts id = some snapshot ↔
      ∃ account, Account.find? accounts id = some account ∧ ofAccount account = snapshot :=
  Option.map_eq_some_iff

/-- Where an id looks the same in two lists, it resolves in the second if it does in the first, to
an account with the same snapshot. -/
theorem exists_of_of?_eq {accounts other : List Account} {id : String} {account : Account}
    (h : of? accounts id = of? other id) (hfound : Account.find? accounts id = some account) :
    ∃ counterpart, Account.find? other id = some counterpart ∧
      ofAccount counterpart = ofAccount account :=
  of?_eq_some_iff.1 (h.symm.trans (of?_eq_some_iff.2 ⟨account, hfound, rfl⟩))

end Snapshot

/-- Everything that an outcome says, except about the accounts. -/
def Outcome.withoutSnapshots (outcome : Outcome) : Outcome :=
  { outcome with snapshots := [] }

/-- The outcome with its snapshots in another arrangement. -/
def Outcome.arranged (arrange : List Snapshot → List Snapshot) (outcome : Outcome) : Outcome :=
  { outcome with snapshots := arrange outcome.snapshots }

namespace Settlement

open Snapshot (ofAccount of?)

/-- The rules on the accounts read the snapshot of the debit account and the currency of the
credit account. -/
theorem accountVerdict_congr {debit credit debit' credit' : Account}
    (hdebit : ofAccount debit = ofAccount debit')
    (hcredit : (ofAccount credit).currency = (ofAccount credit').currency) (order : Instruction)
    (amount : Nat) (today : Calendar.Date) :
    accountVerdict order amount debit credit today =
      accountVerdict order amount debit' credit' today := by
  have hbalance : debit.balance = debit'.balance := congrArg Snapshot.balance hdebit
  have hcurrency : Currency.normalize debit.currency = Currency.normalize debit'.currency :=
    congrArg Snapshot.currency hdebit
  have hother : Currency.normalize credit.currency = Currency.normalize credit'.currency := hcredit
  rw [accountVerdict, accountVerdict, currenciesAgree, currenciesAgree, hbalance, hcurrency, hother]

variable {order : Instruction} {accounts other : List Account}

/-- The verdict on an instruction reads the snapshot of the debit account and the currency of the
credit account. -/
theorem orderVerdict_congr (hdebit : of? accounts order.debitId = of? other order.debitId)
    (hcredit : (of? accounts order.creditId).map (·.currency) =
      (of? other order.creditId).map (·.currency)) (amount : Nat) (today : Calendar.Date) :
    orderVerdict order amount accounts today = orderVerdict order amount other today := by
  unfold orderVerdict
  cases hfound : Account.find? accounts order.debitId with
  | none =>
      rw [Snapshot.of?_eq_none_iff.2 hfound, eq_comm, Snapshot.of?_eq_none_iff] at hdebit
      rw [hdebit]
  | some debit =>
      obtain ⟨debit', hfound', hsame⟩ := Snapshot.exists_of_of?_eq hdebit hfound
      cases hcreditFound : Account.find? accounts order.creditId with
      | none =>
          rw [Snapshot.of?_eq_none_iff.2 hcreditFound, Option.map_none, eq_comm,
            Option.map_eq_none_iff, Snapshot.of?_eq_none_iff] at hcredit
          rw [hfound', hcredit]
      | some credit =>
          rw [Snapshot.of?_eq_some_iff.2 ⟨credit, hcreditFound, rfl⟩, Option.map_some, eq_comm,
            Option.map_eq_some_iff] at hcredit
          obtain ⟨snapshot, hsnapshot, hcurrency⟩ := hcredit
          obtain ⟨credit', hcreditFound', rfl⟩ := Snapshot.of?_eq_some_iff.1 hsnapshot
          rw [hfound', hcreditFound']
          simp only [accountVerdict_congr hsame.symm hcurrency.symm]

/-- What an outcome says apart from the accounts depends on the instruction, its amount, and the
code. -/
theorem outcomeOf_withoutSnapshots (order : Instruction) (amount : Nat)
    (accounts other : List Account) (code : Code) :
    (outcomeOf order amount accounts code).withoutSnapshots =
      (outcomeOf order amount other code).withoutSnapshots := by
  cases code <;> rfl

/-- A view of the judgements on two lists is the same when it is for every valid amount. -/
theorem judge_map_congr {View : Type} (view : Outcome → View) (today : Calendar.Date)
    (h : ∀ amount : Nat,
      ((orderVerdict order amount accounts today).map (outcomeOf order amount accounts)).map view =
        ((orderVerdict order amount other today).map (outcomeOf order amount other)).map view) :
    (judge order accounts today).map view = (judge order other today).map view := by
  unfold judge
  cases Amount.read order.amount with
  | error fault => rfl
  | ok amount =>
      cases amount with
      | none => rfl
      | some amount => exact h amount

/-- An instruction is judged in the same way, apart from the snapshots, wherever its verdict is the
same. -/
theorem judge_withoutSnapshots (hdebit : of? accounts order.debitId = of? other order.debitId)
    (hcredit : (of? accounts order.creditId).map (·.currency) =
      (of? other order.creditId).map (·.currency)) (today : Calendar.Date) :
    (judge order accounts today).map Outcome.withoutSnapshots =
      (judge order other today).map Outcome.withoutSnapshots := by
  refine judge_map_congr Outcome.withoutSnapshots today fun amount => ?_
  rw [orderVerdict_congr hdebit hcredit]
  cases orderVerdict order amount other today with
  | error fault => rfl
  | ok code =>
      exact congrArg Except.ok (outcomeOf_withoutSnapshots order amount accounts other code)

/-- The two accounts of an instruction look the same in both lists, and stand in the same order. -/
structure SameView (order : Instruction) (accounts other : List Account) : Prop where
  debit : of? accounts order.debitId = of? other order.debitId
  credit : of? accounts order.creditId = of? other order.creditId
  in_order : Account.place accounts order.debitId < Account.place accounts order.creditId ↔
    Account.place other order.debitId < Account.place other order.creditId

/-- Accounts that look the same are reported with the same snapshots, in the order in which they
stand. -/
theorem Resolves.ofAccounts_other {debit credit : Account}
    (h : Resolves accounts order debit credit)
    (hdebit : of? accounts order.debitId = of? other order.debitId)
    (hcredit : of? accounts order.creditId = of? other order.creditId) :
    Snapshot.ofAccounts other order.debitId order.creditId =
      if Account.place other order.debitId < Account.place other order.creditId then
        [ofAccount debit, ofAccount credit]
      else [ofAccount credit, ofAccount debit] := by
  obtain ⟨debit', hdebitFound, hsameDebit⟩ := Snapshot.exists_of_of?_eq hdebit h.debit_found
  obtain ⟨credit', hcreditFound, hsameCredit⟩ := Snapshot.exists_of_of?_eq hcredit h.credit_found
  rw [Snapshot.ofAccounts_eq h.distinct hdebitFound hcreditFound, hsameDebit, hsameCredit]

/-- Accounts that look the same and stand in the same order are reported in the same way. -/
theorem SameView.ofAccounts_eq (h : SameView order accounts other) {debit credit : Account}
    (hresolves : Resolves accounts order debit credit) :
    Snapshot.ofAccounts accounts order.debitId order.creditId =
      Snapshot.ofAccounts other order.debitId order.creditId := by
  rw [hresolves.ofAccounts_other rfl rfl, hresolves.ofAccounts_other h.debit h.credit]
  simp only [h.in_order]

section Arranged

variable {arrange : List Snapshot → List Snapshot}

/-- An outcome is arranged as its snapshots are. -/
theorem outcomeOf_arranged (hnil : arrange [] = [])
    (hmap : ∀ (change : Snapshot → Snapshot) snapshots,
      arrange (snapshots.map change) = (arrange snapshots).map change)
    (h : Snapshot.ofAccounts accounts order.debitId order.creditId =
      arrange (Snapshot.ofAccounts other order.debitId order.creditId))
    (amount : Nat) (code : Code) :
    outcomeOf order amount accounts code =
      (outcomeOf order amount other code).arranged arrange := by
  have htransfer : Snapshot.transfer (arrange (Snapshot.ofAccounts other order.debitId
      order.creditId)) order.debitId order.creditId amount =
        arrange (Snapshot.transfer (Snapshot.ofAccounts other order.debitId order.creditId)
          order.debitId order.creditId amount) := (hmap _ _).symm
  cases code <;>
    simp only [outcomeOf, h, htransfer, Outcome.arranged, Outcome.executed, Outcome.scheduled,
      Outcome.failed, Outcome.refused, hnil]

/-- Where the accounts of an instruction look the same in two lists, it is judged in the same way
in both, except that the snapshots are arranged as they are reported. -/
theorem judge_arranged (hnil : arrange [] = [])
    (hmap : ∀ (change : Snapshot → Snapshot) snapshots,
      arrange (snapshots.map change) = (arrange snapshots).map change)
    (hdebit : of? accounts order.debitId = of? other order.debitId)
    (hcredit : of? accounts order.creditId = of? other order.creditId)
    (h : ∀ debit credit, Resolves accounts order debit credit →
      Snapshot.ofAccounts accounts order.debitId order.creditId =
        arrange (Snapshot.ofAccounts other order.debitId order.creditId))
    (today : Calendar.Date) :
    judge order accounts today = (judge order other today).map (Outcome.arranged arrange) := by
  unfold judge
  split
  · rfl
  · simp only [Except.map, Outcome.arranged, Outcome.failed, Outcome.refused, hnil]
  · rename_i amount hamount
    rw [← orderVerdict_congr hdebit (congrArg (Option.map (·.currency)) hcredit)]
    rcases orderVerdict_cases order amount accounts today with
      ⟨code, hmem, hcode⟩ | ⟨debit, credit, hresolves, -⟩
    · -- A rule on the ids decides, and its outcome has no snapshots.
      rw [hcode]
      simp only [idCodes, List.mem_cons, List.not_mem_nil, or_false] at hmem
      rcases hmem with rfl | rfl | rfl <;>
        simp only [Except.map, outcomeOf, Outcome.arranged, Outcome.failed, Outcome.refused, hnil]
    · have houtcome := outcomeOf_arranged hnil hmap (h debit credit hresolves) amount
      cases orderVerdict order amount accounts today with
      | error fault => rfl
      | ok code => exact congrArg Except.ok (houtcome code)

end Arranged

/-- An instruction is judged in the same way wherever its two accounts look the same and are
reported in the same way. -/
theorem judge_congr_of_reports (hdebit : of? accounts order.debitId = of? other order.debitId)
    (hcredit : of? accounts order.creditId = of? other order.creditId)
    (h : ∀ debit credit, Resolves accounts order debit credit →
      Snapshot.ofAccounts accounts order.debitId order.creditId =
        Snapshot.ofAccounts other order.debitId order.creditId)
    (today : Calendar.Date) : judge order accounts today = judge order other today := by
  have hnil : id ([] : List Snapshot) = [] := rfl
  have hjudge := judge_arranged hnil (fun _ _ => rfl) hdebit hcredit h today
  rwa [show Outcome.arranged id = id from rfl, Except.map_id] at hjudge

/-- An instruction is judged in the same way wherever its two accounts look the same and stand in
the same order. -/
theorem judge_congr (h : SameView order accounts other) (today : Calendar.Date) :
    judge order accounts today = judge order other today :=
  judge_congr_of_reports h.debit h.credit (fun _ _ => h.ofAccounts_eq) today

end Settlement

end Remittance
