import Remittance.Account.Snapshot
import Remittance.Instruction.Basic
import Remittance.Outcome.Code

/-!
# Outcomes

The one shape of answer to every instruction, whether it was carried out, put off, or refused.
`Outcome.failed`, `Outcome.executed`, and `Outcome.scheduled` build the three kinds.
-/

namespace Remittance

/-- What an outcome repeats of the instruction. Nothing is known of one that cannot be read. -/
structure Fields where
  directive : Option Directive
  amount : Option Int
  currency : Option String
  debitId : Option String
  creditId : Option String
  executeBy : Option String
deriving Repr, DecidableEq

namespace Fields

/-- No field is known. -/
def unknown : Fields where
  directive := none
  amount := none
  currency := none
  debitId := none
  creditId := none
  executeBy := none

/-- The fields of an instruction, with the amount as far as it is validated. A currency that is
not given is the normalized one of the instruction. -/
def ofInstruction (order : Instruction) (amount : Option Int) (currency : Option String) :
    Fields where
  directive := some order.directive
  amount := amount
  currency := some (currency.getD (Currency.normalize order.currency))
  debitId := some order.debitId
  creditId := some order.creditId
  executeBy := order.executeBy

end Fields

/-- Whether an instruction was carried out, put off, or refused. -/
inductive Status where
  | successful
  | pending
  | failed
deriving Repr, DecidableEq

/-- The name of a status in answers. -/
def Status.name : Status → String
  | .successful => "successful"
  | .pending => "pending"
  | .failed => "failed"

/-- The answer to an instruction. -/
structure Outcome where
  fields : Fields
  status : Status
  reason : String
  code : Code
  snapshots : List Snapshot
deriving Repr, DecidableEq

namespace Outcome

/-- An instruction refused for a reason. -/
def refused (code : Code) (reason : String) (fields : Fields) (snapshots : List Snapshot) :
    Outcome where
  fields := fields
  status := .failed
  reason := reason
  code := code
  snapshots := snapshots

/-- An instruction refused for the fixed reason of the code. -/
def failed (code : Code) (fields : Fields) (snapshots : List Snapshot) : Outcome :=
  refused code code.reason fields snapshots

/-- A text that is no instruction. -/
def unreadable : Outcome :=
  failed .malformed .unknown []

/-- An instruction carried out, with the snapshots after the transfer. -/
def executed (fields : Fields) (snapshots : List Snapshot) : Outcome where
  fields := fields
  status := .successful
  reason := Code.executed.reason
  code := .executed
  snapshots := snapshots

/-- An instruction put off, with the snapshots as they are. -/
def scheduled (fields : Fields) (snapshots : List Snapshot) : Outcome where
  fields := fields
  status := .pending
  reason := Code.scheduled.reason
  code := .scheduled
  snapshots := snapshots

end Outcome

end Remittance
