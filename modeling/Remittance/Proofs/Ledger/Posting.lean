import Mathlib.Algebra.Ring.Int.Defs
import Remittance.Ledger
import Remittance.Proofs.Account.Snapshots

/-!
# Posting to accounts

`post` adds a change of balance for each id to the first account with that id. Postings add up, so
the accounts after any number of them are one posting away from the accounts at the beginning.
`writeBack_eq_post` says that writing snapshots back is a posting of the changes that they report.
-/

namespace Remittance.Ledger

/-- The accounts with a change of balance for each id, which only the first account with that id
takes. -/
def post (change : String → Int) : List Account → List Account
  | [] => []
  | account :: rest =>
      { account with balance := account.balance + change account.id } ::
        post (fun id => if id = account.id then 0 else change id) rest

/-- A posting without a change leaves the accounts as they are. -/
@[simp] theorem post_zero (accounts : List Account) : post (fun _ => 0) accounts = accounts := by
  induction accounts with
  | nil => rfl
  | cons account rest ih => simp [post, ih]

/-- Two postings are one posting of the sums of their changes. -/
theorem post_post (first second : String → Int) (accounts : List Account) :
    post second (post first accounts) = post (fun id => first id + second id) accounts := by
  induction accounts generalizing first second with
  | nil => rfl
  | cons account rest ih =>
      have hrest : (fun id => (if id = account.id then 0 else first id) +
            if id = account.id then 0 else second id) =
          fun id => if id = account.id then 0 else first id + second id := by
        funext id
        split <;> simp
      simp only [post, ih, hrest, Int.add_assoc]

/-- A posting changes one balance at most at each position: that of an account which is the first
with its id. -/
theorem getElem?_post (change : String → Int) (accounts : List Account) (position : Nat) :
    (post change accounts)[position]? = accounts[position]?.map fun account =>
      if account.id ∈ (accounts.take position).map (·.id) then account
      else { account with balance := account.balance + change account.id } := by
  induction accounts generalizing change position with
  | nil => rfl
  | cons account rest ih =>
      cases position with
      | zero => simp [post]
      | succ position =>
          simp only [post, List.getElem?_cons_succ, ih, List.take_succ_cons, List.map_cons,
            List.mem_cons]
          congr 1
          funext later
          by_cases hid : later.id = account.id
          · rw [if_pos (Or.inl hid), if_pos hid, Int.add_zero]
            exact ite_self _
          · simp [hid]

@[simp] theorem map_id_post (change : String → Int) (accounts : List Account) :
    (post change accounts).map (·.id) = accounts.map (·.id) := by
  induction accounts generalizing change with
  | nil => rfl
  | cons account rest ih => simp [post, ih]

@[simp] theorem map_currency_post (change : String → Int) (accounts : List Account) :
    (post change accounts).map (·.currency) = accounts.map (·.currency) := by
  induction accounts generalizing change with
  | nil => rfl
  | cons account rest ih => simp [post, ih]

/-- A posting is seen in the account that an id resolves to. -/
theorem find?_post (change : String → Int) (accounts : List Account) (id : String) :
    Account.find? (post change accounts) id =
      (Account.find? accounts id).map fun account =>
        { account with balance := account.balance + change id } := by
  induction accounts generalizing change with
  | nil => rfl
  | cons account rest ih =>
      by_cases hid : account.id = id
      · subst hid
        simp [Account.find?, post]
      · have hother : ¬ id = account.id := fun h => hid h.symm
        have hrest := ih (fun id => if id = account.id then 0 else change id)
        simp only [Account.find?, hother, if_false] at hrest
        simp [Account.find?, post, hid, hrest]

/-- The change of the balance of one id only. -/
def single (id : String) (change : Int) : String → Int :=
  fun other => if other = id then change else 0

/-- A posting to one id stops at the first account with it. -/
theorem post_single_cons (id : String) (change : Int) (account : Account) (rest : List Account) :
    post (single id change) (account :: rest) =
      if account.id = id then { account with balance := account.balance + change } :: rest
      else account :: post (single id change) rest := by
  rw [post]
  split
  · rename_i hid
    have hrest : (fun other => if other = account.id then 0 else single id change other) =
        fun _ => 0 := by
      funext other
      rw [single, hid]
      split <;> rfl
    rw [hrest, post_zero, single, if_pos hid]
  · rename_i hid
    have hrest : (fun other => if other = account.id then 0 else single id change other) =
        single id change := by
      funext other
      split
      · rename_i hother
        rw [single, if_neg (hother ▸ hid)]
      · rfl
    rw [hrest, single, if_neg hid, Int.add_zero]

/-- The change of the balance of each id when an amount moves from one id to another. -/
def transferred (debit credit : String) (amount : Int) : String → Int :=
  fun id => (if credit = id then amount else 0) - if debit = id then amount else 0

/-- The debit id loses what moves between two ids. -/
theorem transferred_debit {debit credit : String} (h : debit ≠ credit) (amount : Int) :
    transferred debit credit amount debit = -amount := by
  rw [transferred, if_neg h.symm, if_pos rfl, Int.zero_sub]

/-- The credit id gains what moves between two ids. -/
theorem transferred_credit {debit credit : String} (h : debit ≠ credit) (amount : Int) :
    transferred debit credit amount credit = amount := by
  rw [transferred, if_pos rfl, if_neg h, Int.sub_zero]

/-- Amounts that move between the same two ids add up. -/
theorem transferred_add (debit credit : String) (first second : Int) (id : String) :
    transferred debit credit first id + transferred debit credit second id =
      transferred debit credit (first + second) id := by
  unfold transferred
  split <;> split <;> omega

/-- An amount that moves back takes its change back. -/
theorem transferred_add_back (debit credit : String) (amount : Int) (id : String) :
    transferred debit credit amount id + transferred credit debit amount id = 0 := by
  unfold transferred
  omega

/-- Setting a balance posts the difference to the balance before. -/
theorem setBalance_eq_post {accounts : List Account} {id : String} {account : Account}
    (h : Account.find? accounts id = some account) (balance : Int) :
    setBalance id balance accounts = post (single id (balance - account.balance)) accounts := by
  induction accounts with
  | nil => simp [Account.find?] at h
  | cons head rest ih =>
      rw [Account.find?_cons] at h
      rw [post_single_cons]
      split at h
      · rename_i hid
        cases h
        simp only [setBalance, hid, if_true]
        congr 2
        omega
      · rename_i hid
        simp [setBalance, hid, ih h]

/-- The change of the balance of an id that snapshots report. -/
def reported (snapshots : List Snapshot) (id : String) : Int :=
  (snapshots.map fun snapshot =>
    if snapshot.id = id then snapshot.balance - snapshot.balanceBefore else 0).sum

@[simp] theorem reported_cons (snapshot : Snapshot) (rest : List Snapshot) (id : String) :
    reported (snapshot :: rest) id =
      (if snapshot.id = id then snapshot.balance - snapshot.balanceBefore else 0) +
        reported rest id := by
  simp [reported]

/-- No change is reported for an id without a snapshot. -/
theorem reported_eq_zero {snapshots : List Snapshot} {id : String}
    (h : id ∉ snapshots.map (·.id)) : reported snapshots id = 0 := by
  induction snapshots with
  | nil => rfl
  | cons snapshot rest ih =>
      simp only [List.map_cons, List.mem_cons, not_or] at h
      simp [Ne.symm h.1, ih h.2]

/-- Where no id has two snapshots, each snapshot reports the change of its id. -/
theorem reported_of_mem {snapshots : List Snapshot} {snapshot : Snapshot}
    (hdistinct : (snapshots.map (·.id)).Nodup) (h : snapshot ∈ snapshots) :
    reported snapshots snapshot.id = snapshot.balance - snapshot.balanceBefore := by
  induction snapshots with
  | nil => simp at h
  | cons head rest ih =>
      simp only [List.map_cons, List.nodup_cons] at hdistinct
      rcases List.mem_cons.1 h with rfl | hmem
      · simp [reported_eq_zero hdistinct.1]
      · have hne : head.id ≠ snapshot.id := by
          intro heq
          exact hdistinct.1 (heq ▸ List.mem_map_of_mem hmem)
        simp [hne, ih hdistinct.2 hmem]

/-- Writing back snapshots with distinct ids, each of which starts from the balance of the account
that its id resolves to, posts the changes that they report. -/
theorem writeBack_eq_post {accounts : List Account} {snapshots : List Snapshot}
    (hdistinct : (snapshots.map (·.id)).Nodup)
    (hbefore : ∀ snapshot ∈ snapshots, ∃ account,
      Account.find? accounts snapshot.id = some account ∧
        account.balance = snapshot.balanceBefore) :
    writeBack accounts snapshots = post (reported snapshots) accounts := by
  induction snapshots generalizing accounts with
  | nil => exact (post_zero accounts).symm
  | cons snapshot rest ih =>
      simp only [List.map_cons, List.nodup_cons] at hdistinct
      obtain ⟨account, hfound, hbalance⟩ := hbefore snapshot (by simp)
      have hset := setBalance_eq_post hfound snapshot.balance
      -- No later snapshot has this id, so each still starts from the balance that it found.
      have hlater : ∀ later ∈ rest, ∃ account,
          Account.find? (setBalance snapshot.id snapshot.balance accounts) later.id =
            some account ∧ account.balance = later.balanceBefore := by
        intro later hmem
        obtain ⟨other, hother, hotherBalance⟩ := hbefore later (by simp [hmem])
        have hne : later.id ≠ snapshot.id := by
          intro heq
          exact hdistinct.1 (heq ▸ List.mem_map_of_mem hmem)
        exact ⟨other, by simp [hset, find?_post, hother, single, hne], hotherBalance⟩
      calc writeBack accounts (snapshot :: rest)
          = writeBack (setBalance snapshot.id snapshot.balance accounts) rest := rfl
        _ = post (reported rest) (setBalance snapshot.id snapshot.balance accounts) :=
            ih hdistinct.2 hlater
        _ = post (reported (snapshot :: rest)) accounts := by
            rw [hset, post_post]
            congr 1
            funext id
            rw [reported_cons, hbalance]
            by_cases hid : id = snapshot.id
            · simp [single, hid]
            · simp [single, hid, Ne.symm hid]

end Remittance.Ledger
