import Remittance.Value.Written

/-!
# Status codes

The codes that outcomes carry, each with a fixed reason. No reason depends on the instruction.
-/

namespace Remittance

/-- What became of an instruction. -/
inductive Code where
  | invalidAmount
  | currencyMismatch
  | unsupportedCurrency
  | insufficientFunds
  | sameAccount
  | accountNotFound
  | invalidAccountId
  | invalidDate
  | missingKeyword
  | keywordOrder
  | malformed
  | executed
  | scheduled
deriving Repr, DecidableEq

namespace Code

/-- Every code. -/
def all : List Code :=
  [invalidAmount, currencyMismatch, unsupportedCurrency, insufficientFunds, sameAccount,
    accountNotFound, invalidAccountId, invalidDate, missingKeyword, keywordOrder, malformed,
    executed, scheduled]

/-- The four characters that identify a code. -/
def name : Code → String
  | invalidAmount => "AM01"
  | currencyMismatch => "CU01"
  | unsupportedCurrency => "CU02"
  | insufficientFunds => "AC01"
  | sameAccount => "AC02"
  | accountNotFound => "AC03"
  | invalidAccountId => "AC04"
  | invalidDate => "DT01"
  | missingKeyword => "SY01"
  | keywordOrder => "SY02"
  | malformed => "SY03"
  | executed => "AP00"
  | scheduled => "AP02"

/-- The reason that is reported with a code. -/
def reason : Code → String
  | invalidAmount => "Amount must be a positive integer"
  | currencyMismatch => "Account currency mismatch"
  | unsupportedCurrency => "Unsupported currency. Only NGN, USD, GBP, and GHS are supported"
  | insufficientFunds => "Insufficient funds in debit account"
  | sameAccount => "Debit and credit accounts cannot be the same"
  | accountNotFound => "Account not found"
  | invalidAccountId => "Invalid account ID format"
  | invalidDate => "Invalid date format. Expected YYYY-MM-DD"
  | missingKeyword => "Missing required keyword"
  | keywordOrder => "Invalid keyword order"
  | malformed => "Malformed instruction: unable to parse keywords"
  | executed => "Transaction executed successfully"
  | scheduled => "Transaction scheduled for future execution"

/-- The code that a value names. -/
def ofValue (value : Value) : Except Fault Code :=
  match value.text?.bind fun text => all.find? (·.name == text) with
  | some code => .ok code
  | none => value.written.bind fun literal => .error (.unknownCode literal)

end Code

end Remittance
