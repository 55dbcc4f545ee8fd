import Remittance.Settlement.Report

/-!
# Ledgers

A run of instructions over one list of accounts. After each instruction the balances that its
outcome reports are written back, each to the first account with the id. An instruction that gives
a fault leaves the accounts as they are.
-/

namespace Remittance.Ledger

/-- An instruction text and the date on which it is settled. -/
structure Step where
  instruction : String
  today : Calendar.Date

/-- The accounts with the balance of the first one with this id replaced. -/
def setBalance (id : String) (balance : Int) : List Account → List Account
  | [] => []
  | account :: rest =>
      if account.id = id then { account with balance := balance } :: rest
      else account :: setBalance id balance rest

/-- The accounts with the balances of snapshots written back, in order. -/
def writeBack (accounts : List Account) (snapshots : List Snapshot) : List Account :=
  snapshots.foldl (fun accounts snapshot => setBalance snapshot.id snapshot.balance accounts)
    accounts

/-- The answer to a step on these accounts. -/
def answer (accounts : List Account) (step : Step) : Except Fault Outcome :=
  (Settlement.settle accounts step.instruction step.today).answer

/-- The accounts after a step with this answer. -/
def after (accounts : List Account) : Except Fault Outcome → List Account
  | .ok outcome => writeBack accounts outcome.snapshots
  | .error _ => accounts

/-- The accounts after a step. -/
def next (accounts : List Account) (step : Step) : List Account :=
  after accounts (answer accounts step)

/-- The answer to each step of a run with the accounts after it. -/
def run (accounts : List Account) : List Step → List (Except Fault Outcome × List Account)
  | [] => []
  | step :: rest => (answer accounts step, next accounts step) :: run (next accounts step) rest

/-- The accounts after a run. -/
def final (accounts : List Account) (steps : List Step) : List Account :=
  steps.foldl next accounts

end Remittance.Ledger
