import Remittance.Outcome.Basic

/-!
# Outcomes from supplied fields

Fields as a caller supplies them are the entries of an object. `Outcome.completed` and
`Outcome.refusedWith` validate them last, after the transfer, so that a transfer that cannot be
made is reported before an invalid field.
-/

namespace Remittance

namespace Fields

/-- Read a directive by its name. -/
def directiveField (value : Value) : Checked Directive :=
  match value.text?.bind Directive.ofName? with
  | some directive => .ok directive
  | none => .refuse .notDirective

/-- Read fields from the entries of an object, in which each may be absent. -/
def ofEntries (entries : List (String × Value)) : Checked Fields :=
  let directive := Field.perhaps entries "type" directiveField
  let amount := Field.perhaps entries "amount" Field.integer
  let text (name : String) := Field.perhaps entries name Field.text
  Checked.apply (Checked.apply (Checked.apply (Checked.apply (Checked.apply
    (directive.map Fields.mk) amount) (text "currency")) (text "debit_account"))
    (text "credit_account")) (text "execute_by")

/-- The entries that repeat an instruction, with a supplied amount and currency. A null currency
stands for the normalized one of the instruction. -/
def entriesOf (order : Instruction) (amount currency : Value) : List (String × Value) :=
  let stated := match currency with
    | .null => .text (Currency.normalize order.currency)
    | currency => currency
  let date := match order.executeBy with
    | some date => .text date
    | none => .null
  [("type", .text order.directive.name), ("amount", amount), ("currency", stated),
    ("debit_account", .text order.debitId), ("credit_account", .text order.creditId),
    ("execute_by", date)]

/-- The names of the entries that an outcome adds to its fields, in order. -/
def addedNames : List String :=
  ["status", "status_reason", "status_code", "accounts"]

/-- Read the fields of an outcome. An entry that the outcome adds may not be among them. -/
def ofSupplied : Value → Except Fault Fields
  | .object entries =>
      match addedNames.find? fun name => entries.any (·.1 == name) with
      | some name => .error (.repeatedField name)
      | none => (ofEntries entries).mapError .invalid
  | value => .error (.notFields value.typeName)

/-- The value of a field that has to be present. -/
def field (fields : Value) (name : String) : Except Fault Value :=
  match fields with
  | .object entries =>
      match entries.lookup name with
      | some value => .ok value
      | none => .error (.absentField name)
  | value => .error (.noField value.typeName)

/-- The snapshots after the transfer that the fields name. -/
def transfer (fields : Value) (snapshots : List Snapshot) : Except Fault (List Snapshot) := do
  let debit ← field fields "debit_account"
  let credit ← field fields "credit_account"
  let amount ← field fields "amount"
  Snapshot.transferSupplied snapshots debit credit amount

end Fields

namespace Outcome

/-- The outcome of an instruction with these fields that passed every check, carried out now or
put off. -/
def completed (supplied : Value) (snapshots : List Snapshot) (now : Bool) :
    Except Fault Outcome :=
  if now then do
    let moved ← Fields.transfer supplied snapshots
    let fields ← Fields.ofSupplied supplied
    .ok (executed fields moved)
  else (Fields.ofSupplied supplied).map fun fields => scheduled fields snapshots

/-- An instruction with these fields, refused with a code. Void fields are none, and a void reason
stands for the fixed reason of the code. -/
def refusedWith (code : Code) (reason supplied : Value) (snapshots : List Snapshot) :
    Except Fault Outcome := do
  let sentence ← if reason.isVoid then .ok code.reason else reason.sentence
  let fields ← Fields.ofSupplied (if supplied.isVoid then .object [] else supplied)
  .ok (refused code sentence fields snapshots)

end Outcome

end Remittance
