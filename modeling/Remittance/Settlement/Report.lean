import Remittance.Instruction.Parser
import Remittance.Journal.Record
import Remittance.Settlement.Verdict

/-!
# Settling instructions

`settle` reads an instruction and judges it against valid accounts. `processWith` does the same for
accounts and instructions as they are supplied, and validates the accounts first. The validation of
a value as an account is given from outside; `process` settles with that of `Account.ofValue`. All
give a report: the answer, or the fault in its place, and the records written to the log on the way.
-/

namespace Remittance.Settlement

/-- An answer and the log records that were written before it. -/
structure Report where
  records : List Journal.Record
  answer : Except Fault Outcome

/-- Settle on a date that may be out of range, in which case nothing else is done. -/
def onDate (today : Except Fault Calendar.Date) (settle : Calendar.Date → Report) : Report :=
  match today with
  | .error fault => ⟨[], .error fault⟩
  | .ok today => settle today

/-- Settle the instruction that a text holds. -/
def settle (accounts : List Account) (text : String) (today : Calendar.Date) : Report :=
  match Instruction.parse? text with
  | none => ⟨[.unreadable], .ok .unreadable⟩
  | some order =>
      let recognized := Journal.Record.recognized order.directive
      match judge order accounts today with
      | .error fault => ⟨[recognized], .error fault⟩
      | .ok outcome => ⟨[recognized, .ofOutcome order outcome], .ok outcome⟩

/-- An account as it is supplied: validated, or a value that is still to be read. -/
inductive Entry where
  | account (account : Account)
  | value (value : Value)

variable (validate : Value → Checked Account)

/-- The account that an entry stands for. A validated account is taken as it is. -/
def Entry.read : Entry → Checked Account
  | .account known => .ok known
  | .value supplied => validate supplied

/-- Settle a supplied instruction against supplied accounts. The first invalid account is
reported whatever the instruction is. -/
def processWith (entries : List Entry) (instruction : Value) (today : Calendar.Date) : Report :=
  match entries.mapM (Entry.read validate) with
  | .error issues => ⟨[], .error (.invalid issues)⟩
  | .ok accounts => settle accounts instruction.asText today

/-- Settle a supplied instruction against the accounts that a value stands for. -/
def processValueWith (accounts instruction : Value) (today : Calendar.Date) : Report :=
  match Field.items accounts with
  | .error fault => ⟨[], .error fault⟩
  | .ok values => processWith validate (values.map .value) instruction today

/-- Settle a supplied instruction against supplied accounts. -/
def process : List Entry → Value → Calendar.Date → Report :=
  processWith (Account.ofValue (.notRecord "Account"))

/-- Settle a supplied instruction against the accounts that a value stands for. -/
def processValue : Value → Value → Calendar.Date → Report :=
  processValueWith (Account.ofValue (.notRecord "Account"))

end Remittance.Settlement
