import Remittance.Account.Basic
import Remittance.Currency

/-!
# Snapshots

What an outcome reports about the accounts an instruction names: the balance before and after,
and the normalized currency. `Snapshot.ofAccounts` takes the first account of each id in the order
of the list, and `Snapshot.transfer` moves an amount between two ids. `Snapshot.transferSupplied`
does so for an amount and ids of any type, as a caller supplies them.
-/

namespace Remittance

/-- The reported state of an account. -/
structure Snapshot where
  id : String
  balance : Int
  balanceBefore : Int
  currency : String
deriving Repr, DecidableEq

namespace Snapshot

/-- The state of an account that nothing has happened to. -/
def ofAccount (account : Account) : Snapshot where
  id := account.id
  balance := account.balance
  balanceBefore := account.balance
  currency := Currency.normalize account.currency

/-- Snapshots of the accounts with a wanted id that is not among those seen. -/
def collect (debit credit : String) (seen : List String) : List Account → List Snapshot
  | [] => []
  | account :: rest =>
      if (account.id == debit || account.id == credit) && !seen.contains account.id then
        ofAccount account :: collect debit credit (account.id :: seen) rest
      else collect debit credit seen rest

/-- Snapshots of the first account with each of the two ids, in the order of the list. -/
def ofAccounts (accounts : List Account) (debit credit : String) : List Snapshot :=
  collect debit credit [] accounts

/-- The snapshot after an amount has left its account or come to it. An account that is both
debited and credited only loses the amount. -/
def shift (snapshot : Snapshot) (isDebited isCredited : Bool) (amount : Int) : Snapshot :=
  if isDebited then { snapshot with balance := snapshot.balance - amount }
  else if isCredited then { snapshot with balance := snapshot.balance + amount }
  else snapshot

/-- The snapshots after an amount has moved from one id to another. -/
def transfer (snapshots : List Snapshot) (debit credit : String) (amount : Int) :
    List Snapshot :=
  snapshots.map fun snapshot =>
    snapshot.shift (snapshot.id == debit) (snapshot.id == credit) amount

/-- The id that a member of a set is, if it is a text. Lists and objects are members of no set. -/
def member (value : Value) : Except Fault (Option String) :=
  match value with
  | .list _ | .object _ => .error (.noMember value.typeName)
  | value => .ok value.text?

/-- Snapshots of the first account with each of two supplied ids. A value that is no text is the
id of no account. -/
def ofSuppliedIds (accounts : List Account) (debit credit : Value) :
    Except Fault (List Snapshot) := do
  match ← member debit, ← member credit with
  | some debit, some credit => .ok (ofAccounts accounts debit credit)
  | some id, none | none, some id => .ok (ofAccounts accounts id id)
  | none, none => .ok []

/-- Read the entries of a snapshot. -/
def ofEntries (entries : List (String × Value)) : Checked Snapshot :=
  let id := Field.required entries "id" Field.text
  let balance := Field.required entries "balance" Field.integer
  let balanceBefore := Field.required entries "balance_before" Field.integer
  let currency := Field.required entries "currency" Field.text
  Checked.apply (Checked.apply (Checked.apply (id.map Snapshot.mk) balance) balanceBefore) currency

/-- Read a snapshot. -/
def ofValue : Value → Checked Snapshot
  | .object entries => ofEntries entries
  | _ => .refuse (.notRecord "AccountSnapshot")

/-- Read snapshots one by one up to the first that is invalid, and report its issues. -/
def ofValues (values : List Value) : Checked (List Snapshot) :=
  values.mapM ofValue

/-- Read the snapshots that a value stands for. -/
def ofSupplied (supplied : Value) : Except Fault (List Snapshot) :=
  (Field.items supplied).bind fun values => (ofValues values).mapError .invalid

/-- The snapshot after a double has left its account or come to it. The balance is rounded to a
double before and after. A double with a fraction, which no field takes, moves nothing. -/
def shiftDouble (snapshot : Snapshot) (isDebited isCredited : Bool) (amount : Double) :
    Except Fault Snapshot :=
  if !isDebited && !isCredited then .ok snapshot
  else if !Double.covers snapshot.balance then .error .beyondDouble
  else
    let rounded := { snapshot with balance := Double.nearest snapshot.balance }
    let moved := rounded.shift isDebited isCredited (amount.toInt?.getD 0)
    .ok { moved with balance := Double.nearest moved.balance }

/-- The snapshot after a supplied amount has left its account or come to it. -/
def shiftSupplied (snapshot : Snapshot) (isDebited isCredited : Bool) :
    Value → Except Fault Snapshot
  | .int amount => .ok (snapshot.shift isDebited isCredited amount)
  | .bool amount => .ok (snapshot.shift isDebited isCredited (if amount then 1 else 0))
  | .double amount => snapshot.shiftDouble isDebited isCredited amount
  | amount =>
      if isDebited then .error (.unmovable '-' amount.typeName)
      else if isCredited then .error (.unmovable '+' amount.typeName)
      else .ok snapshot

/-- The snapshots after a supplied amount has moved from one supplied id to another. A value that
is no text is the id of no account. -/
def transferSupplied (snapshots : List Snapshot) (debit credit amount : Value) :
    Except Fault (List Snapshot) :=
  snapshots.mapM fun snapshot =>
    snapshot.shiftSupplied (some snapshot.id == debit.text?) (some snapshot.id == credit.text?)
      amount

/-- Texts as ids and an integer as the amount make the transfer of snapshots. -/
theorem transferSupplied_int (snapshots : List Snapshot) (debit credit : String) (amount : Int) :
    transferSupplied snapshots (.text debit) (.text credit) (.int amount) =
      .ok (transfer snapshots debit credit amount) := by
  induction snapshots with
  | nil => rfl
  | cons snapshot rest ih =>
      simp only [transferSupplied, transfer, List.mapM_cons, List.map_cons] at ih ⊢
      rw [ih]
      rfl

end Snapshot

end Remittance
