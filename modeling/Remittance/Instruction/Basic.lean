import Remittance.Currency
import Remittance.Value.Written

/-!
# Instructions

A payment instruction moves an amount from a debit account to a credit account, at once or on a
stated date. It is written in one of two forms, which name the accounts in opposite order.
`Directive.steps` is the form that begins with a directive.
-/

namespace Remittance

/-- The directive that opens an instruction. -/
inductive Directive where
  | debit
  | credit
deriving Repr, DecidableEq

/-- The keyword of a directive. -/
def Directive.name : Directive → String
  | .debit => "DEBIT"
  | .credit => "CREDIT"

/-- The directive with this name. -/
def Directive.ofName? (name : String) : Option Directive :=
  [Directive.debit, .credit].find? (·.name == name)

/-- The directive that a value names. -/
def Directive.ofValue (value : Value) : Except Fault Directive :=
  match value.text?.bind Directive.ofName? with
  | some directive => .ok directive
  | none => value.written.bind fun literal => .error (.unknownDirective literal)

/-- An instruction as written: its words are not validated. -/
structure Instruction where
  directive : Directive
  amount : String
  currency : String
  debitId : String
  creditId : String
  executeBy : Option String
deriving Repr, DecidableEq

/-- The words of an instruction that every form has. -/
inductive Part where
  | amount
  | currency
  | debitId
  | creditId
deriving Repr, DecidableEq

/-- The instruction with one of its words replaced. -/
def Instruction.set (order : Instruction) (part : Part) (word : String) : Instruction :=
  match part with
  | .amount => { order with amount := word }
  | .currency => { order with currency := word }
  | .debitId => { order with debitId := word }
  | .creditId => { order with creditId := word }

/-- An instruction of which no word is known yet. -/
def Instruction.blank (directive : Directive) : Instruction where
  directive := directive
  amount := ""
  currency := ""
  debitId := ""
  creditId := ""
  executeBy := none

/-- One step of a form: the next word is a part of the instruction, or the text up to a keyword
is passed over. -/
inductive FormStep where
  | part (part : Part)
  | keyword (word : String)
deriving Repr, DecidableEq

/-- The steps of a form after its directive. -/
def Directive.steps : Directive → List FormStep
  | .debit =>
      [.part .amount, .part .currency, .keyword "FROM", .keyword "ACCOUNT", .part .debitId,
        .keyword "FOR", .keyword "CREDIT", .keyword "TO", .keyword "ACCOUNT", .part .creditId]
  | .credit =>
      [.part .amount, .part .currency, .keyword "TO", .keyword "ACCOUNT", .part .creditId,
        .keyword "FOR", .keyword "DEBIT", .keyword "FROM", .keyword "ACCOUNT", .part .debitId]

/-- The keyword before the date of an instruction. -/
def dateKeyword : String := "ON"

end Remittance
