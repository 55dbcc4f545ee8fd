import Remittance.Ledger
import Remittance.Proofs.Settlement.Footprint
import Remittance.Proofs.Settlement.Reports
import Remittance.Proofs.Settlement.Waiting

/-!
# What balances decide

Of all balances only that of the debit account bears on an answer, and only by whether it covers
the amount of an instruction which breaks no rule and is due. Where the credit account has another
balance, nothing but its own snapshot changes, and where the debit account has another one, the
verdict is at most taken anew by comparing it with the amount (`settle_reads_threshold`).
-/

namespace Remittance

open Ledger (setBalance)

namespace Account

/-- The account, with another balance if it has this id. -/
def rebalanced (id : String) (balance : Int) (account : Account) : Account :=
  if account.id = id then { account with balance := balance } else account

variable {id : String} {balance : Int} {account : Account}

theorem rebalanced_of_eq (h : account.id = id) :
    account.rebalanced id balance = { account with balance := balance } :=
  if_pos h

theorem rebalanced_of_ne (h : account.id ≠ id) : account.rebalanced id balance = account :=
  if_neg h

/-- Another balance is seen in what its id resolves to, and nowhere else. -/
theorem find?_setBalance (id : String) (balance : Int) (accounts : List Account)
    (other : String) :
    find? (setBalance id balance accounts) other =
      (find? accounts other).map (rebalanced id balance) := by
  induction accounts with
  | nil => rfl
  | cons account rest ih =>
      rw [setBalance, find?_cons]
      by_cases hid : account.id = id
      · rw [if_pos hid, find?_cons]
        by_cases hother : account.id = other
        · rw [if_pos hother, if_pos hother, Option.map_some, rebalanced_of_eq hid]
        · rw [if_neg hother, if_neg hother]
          cases hfound : find? rest other with
          | none => rfl
          | some found =>
              have hne : found.id ≠ id := by
                rw [find?_id hfound, ← hid]
                exact Ne.symm hother
              rw [Option.map_some, rebalanced_of_ne hne]
      · rw [if_neg hid, find?_cons, ih]
        split
        · rw [Option.map_some, rebalanced_of_ne hid]
        · rfl

end Account

namespace Snapshot

/-- The snapshot, with another balance before and after if it has this id. -/
def rebalanced (id : String) (balance : Int) (snapshot : Snapshot) : Snapshot :=
  if snapshot.id = id then { snapshot with balance := balance, balanceBefore := balance }
  else snapshot

variable {id : String} {balance : Int} {snapshot : Snapshot}

theorem rebalanced_of_ne (h : snapshot.id ≠ id) : snapshot.rebalanced id balance = snapshot :=
  if_neg h

@[simp] theorem rebalanced_id (id : String) (balance : Int) (snapshot : Snapshot) :
    (snapshot.rebalanced id balance).id = snapshot.id := by
  unfold rebalanced
  split <;> rfl

@[simp] theorem rebalanced_currency (id : String) (balance : Int) (snapshot : Snapshot) :
    (snapshot.rebalanced id balance).currency = snapshot.currency := by
  unfold rebalanced
  split <;> rfl

/-- Another balance is seen in the snapshots that are collected of its id, and nowhere else. -/
theorem collect_setBalance (id : String) (balance : Int) (debit credit : String)
    (seen : List String) (accounts : List Account) :
    collect debit credit seen (setBalance id balance accounts) =
      (collect debit credit seen accounts).map (rebalanced id balance) := by
  induction accounts generalizing seen with
  | nil => rfl
  | cons account rest ih =>
      rw [setBalance]
      by_cases hid : account.id = id
      · -- What is collected behind the first account with the id has other ids.
        have hrest : ∀ seen : List String,
            ((id = debit ∨ id = credit) → id ∈ seen) →
            (collect debit credit seen rest).map (rebalanced id balance) =
              collect debit credit seen rest := by
          intro seen hseen
          refine (List.map_congr_left fun snapshot hmem => ?_).trans (List.map_id _)
          obtain ⟨hwanted, hunseen, -⟩ := mem_collect.1 hmem
          refine rebalanced_of_ne fun hsame => ?_
          rw [hsame] at hwanted hunseen
          exact hunseen (hseen hwanted)
        rw [if_pos hid, collect_cons, collect_cons]
        simp only [hid]
        split
        · rw [List.map_cons, hrest (id :: seen) fun _ => List.mem_cons_self]
          simp [ofAccount, rebalanced, hid]
        · rename_i hwanted
          refine (hrest seen fun hmine => ?_).symm
          exact Decidable.byContradiction fun hunseen => hwanted ⟨hmine, hunseen⟩
      · rw [if_neg hid, collect_cons, collect_cons]
        split
        · rw [List.map_cons, ih, rebalanced_of_ne (by simpa using hid)]
        · exact ih seen

/-- Another balance is seen in the snapshot that is reported of its id, and nowhere else. -/
theorem ofAccounts_setBalance (id : String) (balance : Int) (accounts : List Account)
    (debit credit : String) :
    ofAccounts (setBalance id balance accounts) debit credit =
      (ofAccounts accounts debit credit).map (rebalanced id balance) :=
  collect_setBalance id balance debit credit [] accounts

end Snapshot

namespace Settlement

open Account (find?_setBalance)

variable {accounts : List Account} {order : Instruction} {text : String} {today : Calendar.Date}
  {outcome : Outcome}

/-- No rule reads the balance of the credit account. -/
theorem orderVerdict_setBalance_credit (balance : Int) (order : Instruction) (amount : Nat)
    (accounts : List Account) (today : Calendar.Date) :
    orderVerdict order amount (setBalance order.creditId balance accounts) today =
      orderVerdict order amount accounts today := by
  rcases orderVerdict_cases_of_map (find?_setBalance order.creditId balance accounts _)
      (find?_setBalance order.creditId balance accounts _) amount today with
    ⟨code, -, hbefore, hafter⟩ | ⟨debit, credit, hresolves, hbefore, hafter⟩
  · rw [hbefore, hafter]
  · have hcredit := Account.find?_id hresolves.credit_found
    have hdebit : debit.id ≠ order.creditId := by
      rw [Account.find?_id hresolves.debit_found]
      exact hresolves.distinct
    rw [hbefore, hafter, Account.rebalanced_of_ne hdebit, Account.rebalanced_of_eq hcredit]
    rfl

/-- The code that an instruction is given once its debit account has another balance. Only one that
breaks no rule and is due is decided anew. -/
def decideAgain (amount : Nat) (balance : Int) (code : Code) : Code :=
  if code ∈ dueCodes then if balance < amount then .insufficientFunds else .executed else code

/-- The rules on the accounts compare the balance of the debit account with the amount at the end,
and read it nowhere else. -/
theorem accountVerdict_balance (balance : Int) (order : Instruction) (amount : Nat)
    (debit credit : Account) (today : Calendar.Date) :
    accountVerdict order amount { debit with balance := balance } credit today =
      (accountVerdict order amount debit credit today).map (decideAgain amount balance) := by
  unfold accountVerdict
  split
  · rfl
  have hagree : currenciesAgree order { debit with balance := balance } credit =
      currenciesAgree order debit credit := rfl
  rw [hagree]
  split
  · rfl
  split
  · rfl
  · rfl
  · rfl
  · have hdue : (if debit.balance < amount then Code.insufficientFunds else .executed) ∈
        dueCodes := by
      split <;> simp [dueCodes]
    show _ = Except.ok (decideAgain amount balance _)
    rw [decideAgain, if_pos hdue]

/-- The balance of the debit account is compared with the amount of an instruction that breaks no
rule and is due, and no rule reads it otherwise. -/
theorem orderVerdict_setBalance_debit (balance : Int) (order : Instruction) (amount : Nat)
    (accounts : List Account) (today : Calendar.Date) :
    orderVerdict order amount (setBalance order.debitId balance accounts) today =
      (orderVerdict order amount accounts today).map (decideAgain amount balance) := by
  rcases orderVerdict_cases_of_map (find?_setBalance order.debitId balance accounts _)
      (find?_setBalance order.debitId balance accounts _) amount today with
    ⟨code, hcode, hbefore, hafter⟩ | ⟨debit, credit, hresolves, hbefore, hafter⟩
  · have hapart : ∀ code ∈ idCodes, code ∉ dueCodes := by decide
    rw [hbefore, hafter]
    show _ = Except.ok (decideAgain amount balance code)
    rw [decideAgain, if_neg (hapart code hcode)]
  · have hdebit := Account.find?_id hresolves.debit_found
    have hcredit : credit.id ≠ order.debitId := by
      rw [Account.find?_id hresolves.credit_found]
      exact hresolves.distinct.symm
    rw [hbefore, hafter, Account.rebalanced_of_eq hdebit, Account.rebalanced_of_ne hcredit]
    exact accountVerdict_balance balance order amount debit credit today

/-- The second snapshot is of the same account in the same currency, and it is the first one unless
it has this id. -/
def SameUnless (id : String) (first second : Snapshot) : Prop :=
  second.id = first.id ∧ second.currency = first.currency ∧ (first.id ≠ id → second = first)

/-- The second snapshot is of the same account in the same currency, and it starts from the same
balance unless it has this id. -/
def SameStart (id : String) (first second : Snapshot) : Prop :=
  second.id = first.id ∧ second.currency = first.currency ∧
    (first.id ≠ id → second.balanceBefore = first.balanceBefore)

theorem SameUnless.sameStart {id : String} {first second : Snapshot}
    (h : SameUnless id first second) : SameStart id first second :=
  ⟨h.1, h.2.1, fun hid => congrArg Snapshot.balanceBefore (h.2.2 hid)⟩

/-- Whatever becomes of a snapshot and of the one with another balance, both are of one account. -/
theorem sameStart_settled (id : String) (balance : Int) (order : Instruction) (amount : Nat)
    (first second : Code) (snapshot : Snapshot) :
    SameStart id (settled order amount first snapshot)
      (settled order amount second (snapshot.rebalanced id balance)) := by
  have hfirst := Account.mk.inj (account_settled order amount first snapshot)
  have hsecond := Account.mk.inj
    (account_settled order amount second (snapshot.rebalanced id balance))
  refine ⟨?_, ?_, fun hid => ?_⟩
  · rw [hsecond.1, hfirst.1, Snapshot.rebalanced_id]
  · rw [hsecond.2.2, hfirst.2.2, Snapshot.rebalanced_currency]
  · rw [hfirst.1] at hid
    rw [hsecond.2.1, hfirst.2.1, Snapshot.rebalanced_of_ne hid]

/-- Under codes of the rules on the accounts, outcomes report the same accounts where one of them
has another balance. -/
theorem forall₂_sameStart (id : String) (balance : Int) {first second : Code}
    (hfirst : first ∈ accountCodes) (hsecond : second ∈ accountCodes) (order : Instruction)
    (amount : Nat) (accounts : List Account) :
    List.Forall₂ (SameStart id) (outcomeOf order amount accounts first).snapshots
      (outcomeOf order amount (setBalance id balance accounts) second).snapshots := by
  rw [outcomeOf_snapshots_eq_map hfirst, outcomeOf_snapshots_eq_map hsecond,
    Snapshot.ofAccounts_setBalance, List.map_map, List.forall₂_map_left_iff,
    List.forall₂_map_right_iff, List.forall₂_same]
  exact fun snapshot _ => sameStart_settled id balance order amount first second snapshot

/-- Under one code, outcomes report the same snapshots where an account has another balance, but for
the snapshot of this account. -/
theorem forall₂_sameUnless (id : String) (balance : Int) {code : Code}
    (hcode : code ∈ idCodes ++ accountCodes) (order : Instruction) (amount : Nat)
    (accounts : List Account) :
    List.Forall₂ (SameUnless id) (outcomeOf order amount accounts code).snapshots
      (outcomeOf order amount (setBalance id balance accounts) code).snapshots := by
  rcases List.mem_append.1 hcode with hid | haccount
  · rw [outcomeOf_snapshots_of_mem_idCodes hid, outcomeOf_snapshots_of_mem_idCodes hid]
    exact .nil
  · rw [outcomeOf_snapshots_eq_map haccount, outcomeOf_snapshots_eq_map haccount,
      Snapshot.ofAccounts_setBalance, List.map_map, List.forall₂_map_left_iff,
      List.forall₂_map_right_iff, List.forall₂_same]
    intro snapshot _
    obtain ⟨hid, hcurrency, -⟩ := sameStart_settled id balance order amount code code snapshot
    refine ⟨hid, hcurrency, fun hne => ?_⟩
    rw [(Account.mk.inj (account_settled order amount code snapshot)).1] at hne
    rw [Function.comp_apply, Snapshot.rebalanced_of_ne hne]

/-- Another balance of the credit account changes the snapshot of this account and nothing else. -/
theorem settle_setBalance_credit (h : (settle accounts text today).answer = .ok outcome)
    (horder : Instruction.parse? text = some order) (balance : Int) :
    ∃ changed,
      (settle (setBalance order.creditId balance accounts) text today).answer = .ok changed ∧
        changed.withoutSnapshots = outcome.withoutSnapshots ∧
        List.Forall₂ (SameUnless order.creditId) outcome.snapshots changed.snapshots := by
  cases settles_iff.1 h with
  | unreadable hnone => exact nomatch hnone.symm.trans horder
  | invalidAmount other hother hamount =>
      exact ⟨_, settles_iff.2 (.invalidAmount other hother hamount), rfl, .nil⟩
  | decided other amount code hother hamount hverdict =>
      obtain rfl : other = order := Option.some.inj (hother.symm.trans horder)
      have hagain := (orderVerdict_setBalance_credit balance other amount accounts today).trans
        hverdict
      exact ⟨_, settles_iff.2 (.decided other amount code hother hamount hagain),
        outcomeOf_withoutSnapshots .., forall₂_sameUnless _ _ (orderVerdict_mem hverdict) ..⟩

/-- An instruction that is decided anew is executed if the balance covers the amount and refused for
insufficient funds if it does not. -/
theorem decideAgain_of_due {code : Code} (hcode : code ∈ dueCodes) (amount : Nat) (balance : Int) :
    (decideAgain amount balance code = .executed ↔ (amount : Int) ≤ balance) ∧
      (decideAgain amount balance code = .insufficientFunds ↔ balance < amount) := by
  rw [decideAgain, if_pos hcode]
  by_cases hshort : balance < amount
  · rw [if_pos hshort]
    exact ⟨iff_of_false (by decide) (Int.not_le.2 hshort), iff_of_true rfl hshort⟩
  · rw [if_neg hshort]
    exact ⟨iff_of_true rfl (Int.not_lt.1 hshort), iff_of_false (by decide) hshort⟩

/-- Another balance of the debit account changes its snapshot. Whether an instruction that breaks no
rule and is due is executed is decided anew, and every other one is answered as before. -/
theorem settle_setBalance_debit (h : (settle accounts text today).answer = .ok outcome)
    (horder : Instruction.parse? text = some order) (balance : Int) :
    ∃ changed,
      (settle (setBalance order.debitId balance accounts) text today).answer = .ok changed ∧
        changed.fields = outcome.fields ∧
        List.Forall₂ (SameStart order.debitId) outcome.snapshots changed.snapshots ∧
        (outcome.code ∉ dueCodes →
          changed.withoutSnapshots = outcome.withoutSnapshots ∧
            List.Forall₂ (SameUnless order.debitId) outcome.snapshots changed.snapshots) ∧
        (outcome.code ∈ dueCodes → ∃ amount, outcome.fields.amount = some amount ∧
          (changed.code = .executed ↔ amount ≤ balance) ∧
          (changed.code = .insufficientFunds ↔ balance < amount)) := by
  cases settles_iff.1 h with
  | unreadable hnone => exact nomatch hnone.symm.trans horder
  | invalidAmount other hother hamount =>
      have hapart : Code.invalidAmount ∉ dueCodes := by decide
      exact ⟨_, settles_iff.2 (.invalidAmount other hother hamount), rfl, .nil,
        fun _ => ⟨rfl, .nil⟩, fun hdue => absurd hdue hapart⟩
  | decided other amount code hother hamount hverdict =>
      obtain rfl : other = order := Option.some.inj (hother.symm.trans horder)
      have hagain := orderVerdict_setBalance_debit balance other amount accounts today
      rw [hverdict] at hagain
      refine ⟨_, settles_iff.2 (.decided other amount _ hother hamount hagain), ?_⟩
      rw [outcomeOf_fields, outcomeOf_fields, outcomeOf_code, outcomeOf_code]
      by_cases hdue : code ∈ dueCodes
      · have haccount : ∀ code ∈ dueCodes, code ∈ accountCodes := by decide
        have hstays : decideAgain amount balance code ∈ dueCodes := by
          rw [decideAgain, if_pos hdue]
          split <;> simp [dueCodes]
        exact ⟨rfl, forall₂_sameStart _ _ (haccount _ hdue) (haccount _ hstays) ..,
          fun hnot => absurd hdue hnot,
          fun _ => ⟨amount, rfl, decideAgain_of_due hdue amount balance⟩⟩
      · rw [decideAgain, if_neg hdue]
        have hsame := forall₂_sameUnless other.debitId balance (orderVerdict_mem hverdict) other
          amount accounts
        exact ⟨rfl, hsame.imp fun _ _ => SameUnless.sameStart,
          fun _ => ⟨outcomeOf_withoutSnapshots .., hsame⟩, fun hnot => absurd hnot hdue⟩

/-- An answer reads of all balances that of the debit account alone, and compares it with the amount
of an instruction that breaks no rule and is due. Any other balance of the credit account changes
its own snapshot and nothing else. Any other balance of the debit account leaves every answer as it
is, but for its own snapshot, except that an instruction which is executed or short of funds is
executed with a balance from the amount on and short of funds with one below. -/
theorem settle_reads_threshold (h : (settle accounts text today).answer = .ok outcome)
    (horder : Instruction.parse? text = some order) (balance : Int) :
    (∃ changed,
      (settle (setBalance order.creditId balance accounts) text today).answer = .ok changed ∧
        changed.withoutSnapshots = outcome.withoutSnapshots ∧
        List.Forall₂ (SameUnless order.creditId) outcome.snapshots changed.snapshots) ∧
    ∃ changed,
      (settle (setBalance order.debitId balance accounts) text today).answer = .ok changed ∧
        changed.fields = outcome.fields ∧
        List.Forall₂ (SameStart order.debitId) outcome.snapshots changed.snapshots ∧
        (outcome.code ∉ dueCodes →
          changed.withoutSnapshots = outcome.withoutSnapshots ∧
            List.Forall₂ (SameUnless order.debitId) outcome.snapshots changed.snapshots) ∧
        (outcome.code ∈ dueCodes → ∃ amount, outcome.fields.amount = some amount ∧
          (changed.code = .executed ↔ amount ≤ balance) ∧
          (changed.code = .insufficientFunds ↔ balance < amount)) :=
  ⟨settle_setBalance_credit h horder balance, settle_setBalance_debit h horder balance⟩

/-- A payment is executed with just its amount in the debit account, and short of funds with one
unit less, also where the id occurs again and the credit account is overdrawn. -/
theorem settle_reads_threshold_exact :
    let accounts : List Account := [⟨"b", -3, "Usd"⟩, ⟨"a", 900, "usd"⟩, ⟨"a", 9, "USD"⟩]
    let text := "DEBIT 0500 usd FROM ACCOUNT a FOR CREDIT TO ACCOUNT b"
    let today : Calendar.Date := ⟨2026, 1, 15, by decide⟩
    let outcome : Outcome := .executed ⟨some .debit, some 500, some "USD", some "a", some "b", none⟩
      [⟨"b", 497, -3, "USD"⟩, ⟨"a", 400, 900, "USD"⟩]
    (settle accounts text today).answer = .ok outcome ∧
      Instruction.parse? text = some ⟨.debit, "0500", "usd", "a", "b", none⟩ ∧
      (∃ changed, (settle (setBalance "b" 7 accounts) text today).answer = .ok changed ∧
        changed.withoutSnapshots = outcome.withoutSnapshots ∧
        List.Forall₂ (SameUnless "b") outcome.snapshots changed.snapshots) ∧
      (∃ changed, (settle (setBalance "a" 500 accounts) text today).answer = .ok changed ∧
        changed.code = .executed) ∧
      ∃ changed, (settle (setBalance "a" 499 accounts) text today).answer = .ok changed ∧
        changed.code = .insufficientFunds := by
  have hanswer : (settle [⟨"b", -3, "Usd"⟩, ⟨"a", 900, "usd"⟩, ⟨"a", 9, "USD"⟩]
      "DEBIT 0500 usd FROM ACCOUNT a FOR CREDIT TO ACCOUNT b" ⟨2026, 1, 15, by decide⟩).answer =
      .ok (.executed ⟨some .debit, some 500, some "USD", some "a", some "b", none⟩
        [⟨"b", 497, -3, "USD"⟩, ⟨"a", 400, 900, "USD"⟩]) := by rfl
  have horder : Instruction.parse? "DEBIT 0500 usd FROM ACCOUNT a FOR CREDIT TO ACCOUNT b" =
      some ⟨.debit, "0500", "usd", "a", "b", none⟩ := by rfl
  intro accounts text today outcome
  have hdue : outcome.code ∈ dueCodes := by decide
  obtain ⟨exact, hexact, -, -, -, hthreshold⟩ := (settle_reads_threshold hanswer horder 500).2
  obtain ⟨short, hshort, -, -, -, hbelow⟩ := (settle_reads_threshold hanswer horder 499).2
  obtain ⟨amount, hamount, hcovered, -⟩ := hthreshold hdue
  obtain ⟨amount', hamount', -, hmissing⟩ := hbelow hdue
  obtain rfl : 500 = amount := Option.some.inj hamount
  obtain rfl : 500 = amount' := Option.some.inj hamount'
  exact ⟨hanswer, horder, (settle_reads_threshold hanswer horder 7).1,
    ⟨exact, hexact, hcovered.2 (by decide)⟩, ⟨short, hshort, hmissing.2 (by decide)⟩⟩

end Settlement

end Remittance
