import Remittance.Outcome.Basic

/-!
# Log records

What settling an instruction reports to the log. A record is made from the directive, the codes,
and, for an accepted instruction, the two account ids.
-/

namespace Remittance.Journal

/-- An event that the log reports. -/
inductive Record where
  /-- A text was read as an instruction of one form. -/
  | recognized (directive : Directive)
  /-- A text was no instruction. -/
  | unreadable
  /-- An instruction was refused. -/
  | rejected (directive : Directive) (code : Code) (reason : String)
  /-- An instruction was carried out or put off. -/
  | accepted (directive : Directive) (status : Status) (code : Code) (debit credit : String)
deriving Repr, DecidableEq

namespace Record

/-- The name of a record's level. -/
def level : Record → String
  | recognized _ => "DEBUG"
  | _ => "INFO"

/-- The name of the logger that a record is written to. -/
def logger : Record → String
  | recognized _ => "payinstruct.engine.grammar"
  | _ => "payinstruct.engine.processor"

/-- The text of a record. -/
def text : Record → String
  | recognized directive => "Instruction matched " ++ directive.name ++ " grammar"
  | unreadable => "Instruction rejected: " ++ Code.malformed.name
  | rejected directive code reason =>
      directive.name ++ " instruction rejected: " ++ code.name ++ " (" ++ reason ++ ")"
  | accepted directive status code debit credit =>
      directive.name ++ " instruction " ++ status.name ++ ": " ++ code.name ++ " (" ++ debit ++
        " -> " ++ credit ++ ")"

/-- The record of an instruction and its outcome. -/
def ofOutcome (order : Instruction) (outcome : Outcome) : Record :=
  if outcome.status = .failed then rejected order.directive outcome.code outcome.reason
  else accepted order.directive outcome.status outcome.code order.debitId order.creditId

end Record

end Remittance.Journal
