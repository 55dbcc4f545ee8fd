import Remittance.Account.Snapshot

/-!
# Snapshots and the accounts they are taken of

`mem_ofAccounts` says which snapshots an instruction reports: one of the account that each of its
ids resolves to. No id has two of them, and a transfer keeps every id and every balance from before.
-/

namespace Remittance

namespace Account

/-- An id resolves to an account with that id. -/
theorem find?_id {accounts : List Account} {id : String} {account : Account}
    (h : find? accounts id = some account) : account.id = id := by
  simpa [find?] using List.find?_some h

/-- The first account of a list is the one that its id resolves to. -/
theorem find?_cons (account : Account) (rest : List Account) (id : String) :
    find? (account :: rest) id = if account.id = id then some account else find? rest id := by
  by_cases hid : account.id = id <;> simp [find?, hid]

end Account

namespace Snapshot

@[simp] theorem ofAccount_id (account : Account) : (ofAccount account).id = account.id := rfl

/-- The account that a snapshot says there was before, with the currency in normal form. -/
def account (snapshot : Snapshot) : Account where
  id := snapshot.id
  balance := snapshot.balanceBefore
  currency := snapshot.currency

/-- An account is collected when its id is wanted and not among those seen. -/
theorem collect_cons (debit credit : String) (seen : List String) (account : Account)
    (rest : List Account) :
    collect debit credit seen (account :: rest) =
      if (account.id = debit ∨ account.id = credit) ∧ account.id ∉ seen then
        ofAccount account :: collect debit credit (account.id :: seen) rest
      else collect debit credit seen rest := by
  simp [collect]

/-- The snapshots collected are those of accounts that a wanted id resolves to, as long as the id
is not among those seen. -/
theorem mem_collect {debit credit : String} {seen : List String} {accounts : List Account}
    {snapshot : Snapshot} :
    snapshot ∈ collect debit credit seen accounts ↔
      (snapshot.id = debit ∨ snapshot.id = credit) ∧ snapshot.id ∉ seen ∧
        ∃ account, Account.find? accounts snapshot.id = some account ∧
          snapshot = ofAccount account := by
  induction accounts generalizing seen with
  | nil => simp [collect, Account.find?]
  | cons account rest ih =>
      rw [collect_cons, Account.find?_cons]
      by_cases hid : account.id = snapshot.id
      · -- Whatever is collected behind the head has another id.
        rw [hid, if_pos rfl]
        split
        · rename_i hwanted
          simp [ih, hwanted]
        · rename_i hwanted
          rw [ih]
          constructor <;> rintro ⟨hmine, hunseen, -⟩ <;> exact absurd ⟨hmine, hunseen⟩ hwanted
      · have hne : snapshot ≠ ofAccount account := by
          rintro rfl
          exact hid rfl
        rw [if_neg hid]
        split
        · simp [ih, hne, Ne.symm hid]
        · exact ih

/-- No id is collected twice. -/
theorem nodup_collect (debit credit : String) (seen : List String) (accounts : List Account) :
    ((collect debit credit seen accounts).map (·.id)).Nodup := by
  induction accounts generalizing seen with
  | nil => simp [collect]
  | cons account rest ih =>
      rw [collect_cons]
      split
      · simp only [List.map_cons, List.nodup_cons]
        refine ⟨?_, ih _⟩
        intro hmem
        obtain ⟨later, hlater, hid⟩ := List.mem_map.1 hmem
        have hunseen := (mem_collect.1 hlater).2.1
        exact hunseen (by rw [hid]; simp [ofAccount])
      · exact ih seen

/-- An instruction reports the accounts that its two ids resolve to. -/
theorem mem_ofAccounts {accounts : List Account} {debit credit : String} {snapshot : Snapshot} :
    snapshot ∈ ofAccounts accounts debit credit ↔
      (snapshot.id = debit ∨ snapshot.id = credit) ∧
        ∃ account, Account.find? accounts snapshot.id = some account ∧
          snapshot = ofAccount account := by
  simp [ofAccounts, mem_collect]

/-- No id is reported twice. -/
theorem nodup_ofAccounts (accounts : List Account) (debit credit : String) :
    ((ofAccounts accounts debit credit).map (·.id)).Nodup :=
  nodup_collect debit credit [] accounts

/-- The account that a wanted id resolves to is reported. -/
theorem ofAccount_mem_ofAccounts {accounts : List Account} {debit credit id : String}
    {account : Account} (hwanted : id = debit ∨ id = credit)
    (h : Account.find? accounts id = some account) :
    ofAccount account ∈ ofAccounts accounts debit credit := by
  have hid : (ofAccount account).id = id := Account.find?_id h
  refine mem_ofAccounts.2 ⟨?_, account, ?_, rfl⟩
  · rwa [hid]
  · rwa [hid]

/-- A reported snapshot starts from the balance of the account that its id resolves to. -/
theorem balanceBefore_ofAccounts {accounts : List Account} {debit credit : String}
    {snapshot : Snapshot} (h : snapshot ∈ ofAccounts accounts debit credit) :
    snapshot.balance = snapshot.balanceBefore ∧
      ∃ account, Account.find? accounts snapshot.id = some account ∧
        account.balance = snapshot.balanceBefore := by
  obtain ⟨-, account, hfound, heq⟩ := mem_ofAccounts.1 h
  exact ⟨by rw [heq]; rfl, account, hfound, by rw [heq]; rfl⟩

section Shift

variable (snapshot : Snapshot) (isDebited isCredited : Bool) (amount : Int)

@[simp] theorem shift_id : (snapshot.shift isDebited isCredited amount).id = snapshot.id := by
  cases isDebited <;> cases isCredited <;> rfl

@[simp] theorem shift_balanceBefore :
    (snapshot.shift isDebited isCredited amount).balanceBefore = snapshot.balanceBefore := by
  cases isDebited <;> cases isCredited <;> rfl

/-- A shift keeps what a snapshot says of the account before. -/
@[simp] theorem account_shift :
    (snapshot.shift isDebited isCredited amount).account = snapshot.account := by
  cases isDebited <;> cases isCredited <;> rfl

end Shift

/-- A transfer keeps the ids in order. -/
@[simp] theorem map_id_transfer (snapshots : List Snapshot) (debit credit : String)
    (amount : Int) :
    (transfer snapshots debit credit amount).map (·.id) = snapshots.map (·.id) := by
  simp [transfer]

end Snapshot

end Remittance
