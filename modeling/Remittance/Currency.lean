import Remittance.Fault
import Remittance.Text.LetterCase

/-!
# Currencies

A currency is named by a code in any letter case, and compared by its upper case. Four codes are
supported.
-/

namespace Remittance.Currency

/-- The codes in which payments are made. -/
def supported : List String :=
  ["NGN", "USD", "GBP", "GHS"]

/-- The form of a currency code under which codes are compared. -/
def normalize (code : String) : String :=
  Text.upperCase code

/-- The code names a supported currency in some letter case. -/
def isSupported (code : String) : Bool :=
  supported.contains (normalize code)

/-- The normalized code that a value holds. An absent or empty value holds the empty code. -/
def ofValue (value : Value) : Except Fault String :=
  if value.isVoid then .ok ""
  else
    match value.text? with
    | some code => .ok (normalize code)
    | none => .error (.noLetters value.typeName)

end Remittance.Currency
