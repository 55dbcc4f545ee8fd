import Remittance.Number.Width
import Remittance.Text.Whole
import Remittance.Validation.Issue
import Remittance.Value

/-!
# Fields of supplied data

Reading the fields of an object. A text field takes a text and nothing else. An integer field
also takes booleans, doubles without a fraction within 64 bits, and texts that write an integer.
Where a list is expected, `items` tells which values another value stands for. These are the rules of
one way to validate accounts, `Account.ofValue`; instructions are settled with any.
-/

namespace Remittance.Field

variable {α : Type}

/-- Read a text. -/
def text : Value → Checked String
  | .text value => .ok value
  | _ => .refuse .notText

/-- Read an integer from a double, which lies strictly between the ends of the 64-bit range. -/
def integerOfDouble (number : Double) : Checked Int :=
  if !number.isFinite then .refuse .notFinite
  else
    match number.toInt? with
    | none => .refuse .fractional
    | some value =>
        if -limit64 < value && value < limit64 then .ok value else .refuse .tooLarge

/-- Read an integer. -/
def integer : Value → Checked Int
  | .int value => .ok value
  | .bool value => .ok (if value then 1 else 0)
  | .double number => integerOfDouble number
  | .text value =>
      match Text.readWhole value with
      | .ok number => .ok number
      | .error .malformed => .refuse .unreadableInteger
      | .error .tooLong => .refuse .tooLarge
  | _ => .refuse .notInteger

/-- Read null as nothing and any other value as `read` does. -/
def optional (read : Value → Checked α) : Value → Checked (Option α)
  | .null => .ok none
  | value => (read value).map some

/-- Read the entry of an object that has to be present. -/
def required (entries : List (String × Value)) (name : String) (read : Value → Checked α) :
    Checked α :=
  match entries.lookup name with
  | none => .error [⟨.missing, [.key name]⟩]
  | some value => (read value).under (.key name)

/-- Read the entry of an object that may be absent or null. -/
def perhaps (entries : List (String × Value)) (name : String) (read : Value → Checked α) :
    Checked (Option α) :=
  match entries.lookup name with
  | none => .ok none
  | some value => (optional read value).under (.key name)

/-- The values that stand one by one for the items of a list. A text stands for its characters,
and an object for its names. -/
def items : Value → Except Fault (List Value)
  | .list items => .ok items
  | .text value => .ok (value.toList.map fun c => .text c.toString)
  | .object entries => .ok (entries.map fun entry => .text entry.1)
  | value => .error (.noItems value.typeName)

end Remittance.Field
