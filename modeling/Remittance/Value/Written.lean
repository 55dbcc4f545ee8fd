import Remittance.Fault
import Remittance.Number.Width

/-!
# Written values

Values in messages and in the bodies of requests. No value can be written that holds an integer of
too many digits, and no body that holds a double that is not finite.
-/

namespace Remittance.Value

/-- Why a value that is neither a list nor an object cannot be written in a message. -/
def messageFault? : Value → Option Fault
  | .int number => if fitsText number then none else some .unwritable
  | _ => none

/-- The value as error messages show it. -/
def written (value : Value) : Except Fault String :=
  match value.scalars.findSome? messageFault? with
  | some fault => .error fault
  | none => .ok value.literal

/-- The text that stands for a value in a sentence: a text itself, and any other value as error
messages show it. -/
def sentence : Value → Except Fault String
  | .text value => .ok value
  | value => value.written

/-- Why a value cannot be written as a body. What comes first in it is reported. -/
def bodyFault? (value : Value) : Option Fault :=
  value.scalars.findSome? fun
    | .double number => if number.isFinite then none else some .unsendable
    | scalar => scalar.messageFault?

end Remittance.Value
