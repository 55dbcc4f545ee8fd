import Remittance.Proofs.Ledger.Runs

/-!
# Conservation of money

No run makes or loses money. `final_conserves` says what a run leaves of each account: its id, its
currency, and its place always, and its balance except for what the answers credit to and debit
from the first account with an id. Since an instruction moves money only between accounts of one
currency, the total in each currency stays what it was.
-/

namespace Remittance.Ledger

/-- The total balance of the accounts in the currency with this normalized code. -/
def total (code : String) (accounts : List Account) : Int :=
  ((accounts.filter fun account => Currency.normalize account.currency == code).map
    (·.balance)).sum

/-- An account counts for the total in its own currency. -/
theorem total_cons (code : String) (account : Account) (rest : List Account) :
    total code (account :: rest) =
      (if Currency.normalize account.currency = code then account.balance else 0) +
        total code rest := by
  by_cases hcode : Currency.normalize account.currency = code <;> simp [total, hcode]

/-- A posting to one id changes the total in the currency of the account that the id resolves
to. -/
theorem total_post_single {accounts : List Account} {account : Account}
    (h : Account.find? accounts account.id = some account) (code : String) (change : Int) :
    total code (post (single account.id change) accounts) =
      total code accounts + if Currency.normalize account.currency = code then change else 0 := by
  induction accounts with
  | nil => simp [Account.find?] at h
  | cons head rest ih =>
      rw [Account.find?_cons] at h
      rw [post_single_cons]
      split at h
      · cases h
        simp only [if_true, total_cons]
        split <;> omega
      · rename_i hid
        simp only [hid, if_false, total_cons, ih h]
        omega

/-- What leaves one account comes to another of the same currency. -/
theorem total_post_transfer {accounts : List Account} {debit credit : Account} {amount : Int}
    (h : Settlement.Transferable accounts debit credit amount) (code : String) :
    total code (post (transferred debit.id credit.id amount) accounts) = total code accounts := by
  let debited := post (single debit.id (-amount)) accounts
  -- The debit comes first, and the account to be credited is not the one that it changes.
  have hcredit : Account.find? debited credit.id = some credit := by
    simp [debited, find?_post, h.credit_found, single, h.distinct.symm]
  have hsplit : post (transferred debit.id credit.id amount) accounts =
      post (single credit.id amount) debited := by
    rw [post_post]
    congr 1
    funext id
    simp only [transferred, single, eq_comm (a := id)]
    split <;> split <;> omega
  rw [hsplit, total_post_single hcredit, total_post_single h.debit_found, h.same_currency]
  split <;> omega

/-- A step keeps the total in each currency. -/
theorem total_next (code : String) (accounts : List Account) (step : Step) :
    total code (next accounts step) = total code accounts := by
  cases hanswer : answer accounts step with
  | error fault => rw [next, hanswer, after]
  | ok outcome =>
      by_cases hcode : outcome.code = .executed
      · obtain ⟨debit, credit, amount, htransferable, hdebit, hcredit, hamount, -⟩ :=
          (Settlement.settles_iff.1 hanswer).executed hcode
        rw [next_of_executed hanswer hcode hdebit hcredit hamount]
        exact total_post_transfer htransferable code
      · rw [next_eq_post, hanswer]
        simp [moved, hcode]

/-- A run keeps the total in each currency. -/
theorem total_final (code : String) (accounts : List Account) (steps : List Step) :
    total code (final accounts steps) = total code accounts := by
  induction steps generalizing accounts with
  | nil => rfl
  | cons step rest ih => exact (ih (next accounts step)).trans (total_next code accounts step)

/-- A run leaves the accounts in place, with their ids and currencies. The first account with an
id gains what the answers credit to the id and loses what they debit from it, every other account
keeps its balance, and so does the total in each currency. -/
theorem final_conserves (initial : List Account) (steps : List Step) :
    let last := final initial steps
    ((run initial steps).map (·.2)).getLastD initial = last ∧
      last.length = initial.length ∧
      last.map (·.id) = initial.map (·.id) ∧
      last.map (·.currency) = initial.map (·.currency) ∧
      (∀ position : Nat, last[position]? = initial[position]?.map fun account =>
        if account.id ∈ (initial.take position).map (·.id) then account
        else { account with
          balance := account.balance + credited (answers initial steps) account.id -
            debited (answers initial steps) account.id }) ∧
      ∀ code, total code last = total code initial := by
  intro last
  have hlast : last = post (fun id => credited (answers initial steps) id -
      debited (answers initial steps) id) initial := final_eq_post initial steps
  have hids : last.map (·.id) = initial.map (·.id) := by rw [hlast, map_id_post]
  refine ⟨getLastD_run initial steps, ?_, hids, ?_, ?_, fun code => total_final code initial steps⟩
  · simpa using congrArg List.length hids
  · rw [hlast, map_currency_post]
  · intro position
    rw [hlast, getElem?_post]
    simp only [Int.add_sub_assoc]

end Remittance.Ledger
