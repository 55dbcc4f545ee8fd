import Remittance.Amount
import Remittance.Calendar.DateText
import Remittance.Outcome.Basic

/-!
# Verdicts

The business rules, in their order. `verdict` gives the code of the first rule that an instruction
breaks, or the code of success. Rules on the words of the instruction come first, then the look-up
of the two accounts, then the rules that compare the instruction with the accounts.
-/

namespace Remittance.Settlement

/-- When an instruction is to be carried out. -/
inductive Timing where
  | now
  | later
  | undated
deriving Repr, DecidableEq

/-- The timing of an instruction with this date, which is undated when the date is not well
formed. -/
def timing (executeBy : Option String) (today : Calendar.Date) : Except Fault Timing :=
  match executeBy with
  | none => .ok .now
  | some date =>
      if !Calendar.isDateText date then .ok .undated
      else (Calendar.isFuture date today).map fun isFuture => if isFuture then .later else .now

/-- The codes of the instruction and the two accounts agree up to letter case. -/
def currenciesAgree (order : Instruction) (debit credit : Account) : Bool :=
  Currency.normalize debit.currency == Currency.normalize credit.currency &&
    Currency.normalize debit.currency == Currency.normalize order.currency

/-- The verdict on an instruction whose accounts are found. -/
def accountVerdict (order : Instruction) (amount : Nat) (debit credit : Account)
    (today : Calendar.Date) : Except Fault Code :=
  if !Currency.isSupported order.currency then .ok .unsupportedCurrency
  else if !currenciesAgree order debit credit then .ok .currencyMismatch
  else
    match timing order.executeBy today with
    | .error fault => .error fault
    | .ok .undated => .ok .invalidDate
    | .ok .later => .ok .scheduled
    | .ok .now => .ok (if debit.balance < amount then .insufficientFunds else .executed)

/-- The verdict on an instruction with a valid amount. -/
def orderVerdict (order : Instruction) (amount : Nat) (accounts : List Account)
    (today : Calendar.Date) : Except Fault Code :=
  if !Account.isId order.debitId || !Account.isId order.creditId then .ok .invalidAccountId
  else if order.debitId == order.creditId then .ok .sameAccount
  else
    match Account.find? accounts order.debitId, Account.find? accounts order.creditId with
    | some debit, some credit => accountVerdict order amount debit credit today
    | _, _ => .ok .accountNotFound

/-- The outcome of an instruction on which the verdict is this code. Snapshots are reported once
both accounts are found, and only an executed instruction moves its amount. -/
def outcomeOf (order : Instruction) (amount : Nat) (accounts : List Account) (code : Code) :
    Outcome :=
  let fields := Fields.ofInstruction order (some amount) none
  let snapshots := Snapshot.ofAccounts accounts order.debitId order.creditId
  match code with
  | .executed =>
      .executed fields (Snapshot.transfer snapshots order.debitId order.creditId amount)
  | .scheduled => .scheduled fields snapshots
  | .invalidAccountId | .sameAccount | .accountNotFound => .failed code fields []
  | _ => .failed code fields snapshots

/-- The outcome of an instruction. -/
def judge (order : Instruction) (accounts : List Account) (today : Calendar.Date) :
    Except Fault Outcome :=
  match Amount.read order.amount with
  | .error fault => .error fault
  | .ok none => .ok (.failed .invalidAmount (Fields.ofInstruction order none none) [])
  | .ok (some amount) =>
      (orderVerdict order amount accounts today).map (outcomeOf order amount accounts)

end Remittance.Settlement
