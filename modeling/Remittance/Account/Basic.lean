import Remittance.Validation.Field

/-!
# Accounts

An account as the caller supplies it. Ids are compared exactly, and where an id occurs more than
once the first account with it counts. `ofValue` is one way to validate a value as an account.
-/

namespace Remittance

/-- An account with its balance in minor units. -/
structure Account where
  id : String
  balance : Int
  currency : String
deriving Repr, DecidableEq

namespace Account

/-- The first account with this id. -/
def find? (accounts : List Account) (id : String) : Option Account :=
  accounts.find? (·.id == id)

/-- The character may occur in an account id of an instruction. -/
def isIdCharacter (c : Char) : Bool :=
  c.isAlphanum || c == '-' || c == '.' || c == '@'

/-- The text is well formed as an account id: ASCII letters, digits, and `-`, `.`, `@`, at least
one of them. -/
def isId (text : String) : Bool :=
  let characters := text.toList
  !characters.isEmpty && characters.all isIdCharacter

/-- Read the entries of an account. -/
def ofEntries (entries : List (String × Value)) : Checked Account :=
  let id := Field.required entries "id" Field.text
  let balance := Field.required entries "balance" Field.integer
  let currency := Field.required entries "currency" Field.text
  Checked.apply (Checked.apply (id.map Account.mk) balance) currency

/-- Read an account, reporting `shape` for a value that is no object. -/
def ofValue (shape : Problem) : Value → Checked Account
  | .object entries => ofEntries entries
  | _ => .refuse shape

/-- Read accounts one by one up to the first that is invalid, and report its issues. -/
def ofValues (values : List Value) : Checked (List Account) :=
  values.mapM (ofValue (.notRecord "Account"))

/-- Read the accounts that a value stands for. -/
def ofSupplied (supplied : Value) : Except Fault (List Account) :=
  (Field.items supplied).bind fun values => (ofValues values).mapError .invalid

end Account

end Remittance
