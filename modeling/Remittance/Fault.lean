import Remittance.Service.Address.Flaw
import Remittance.Text.Quoted
import Remittance.Validation.Issue
import Remittance.Value

/-!
# Faults

The causes for which an operation gives no answer, each with the text that reports it. A payment
that breaks a business rule is no fault: it has a failed outcome.
-/

namespace Remittance

/-- A cause for which an operation gives no answer. -/
inductive Fault where
  /-- Supplied data is invalid. -/
  | invalid (issues : List Issue)
  /-- A text is not an integer. -/
  | notInteger (text : String)
  /-- An integer has more digits than may be read. -/
  | digitLimit (count : Nat)
  /-- An integer has more digits than may be written. -/
  | unwritable
  /-- A date has fewer than three parts. -/
  | tooFewParts (count : Nat)
  /-- A date has more than three parts. -/
  | tooManyParts
  /-- A year lies outside the calendar. -/
  | yearOutOfRange (year : Int)
  /-- A month lies outside the year. -/
  | monthOutOfRange
  /-- A part of a date does not fit into 64 bits. -/
  | beyond64
  /-- A day count does not fit into 32 bits. -/
  | beyond32
  /-- A part of a date exceeds the largest 32-bit integer. -/
  | above32
  /-- A part of a date lies below the least 32-bit integer. -/
  | below32
  /-- A day count is too large for a duration. -/
  | tooManyDays (days : Int)
  /-- A day lies outside the calendar. -/
  | dateOutOfRange
  /-- A position lies before the text. -/
  | beforeText
  /-- A position lies below the least 64-bit integer. -/
  | positionBelow64
  /-- The start of a search lies below the least 64-bit integer. -/
  | startBelow64
  /-- A value has no letters to upper-case. -/
  | noLetters (typeName : String)
  /-- A value has no parts to split into. -/
  | noParts (typeName : String)
  /-- A value cannot be a member of a set. -/
  | noMember (typeName : String)
  /-- A value has no items. -/
  | noItems (typeName : String)
  /-- A value that is no number was to be moved as an amount. -/
  | unmovable (operator : Char) (typeName : String)
  /-- A balance that is to be moved by a double is beyond all doubles. -/
  | beyondDouble
  /-- A field that is needed is absent. -/
  | absentField (name : String)
  /-- A value in place of an object has no fields to look one up in. -/
  | noField (typeName : String)
  /-- A value in place of an object has no fields to repeat. -/
  | notFields (typeName : String)
  /-- A supplied field has the name of one that an outcome adds. -/
  | repeatedField (name : String)
  /-- A value names no directive. -/
  | unknownDirective (literal : String)
  /-- A value names no status code. -/
  | unknownCode (literal : String)
  /-- A name stands for a text that is no log level. -/
  | unknownLevel (text : String)
  /-- A name stands for a value that can be no log level. -/
  | notLevel (literal : String)
  /-- An address cannot be used. -/
  | badAddress (flaw : Service.Address.Flaw)
  /-- An address names a scheme of which no requests are known. -/
  | unknownScheme (name : String)
  /-- A body holds a double that is no number or infinite. -/
  | unsendable
  /-- A variable holds a null character. -/
  | nullCharacter
  /-- The name of a variable holds an equals sign. -/
  | badVariable
  /-- The name of a variable is empty. -/
  | unnamedVariable
  /-- The value of a variable is no text. -/
  | notVariable (typeName : String)
  /-- A text that is to hold a value is empty. -/
  | emptyText
deriving Repr, DecidableEq

namespace Fault

/-- The text that reports a fault. -/
def message : Fault → String
  | invalid issues => "; ".intercalate (issues.map (·.problem.message))
  | notInteger text =>
      "invalid literal for int() with base 10: " ++
        String.ofList ((Text.quote text).toList.take 200)
  | digitLimit count =>
      "Exceeds the limit (4300 digits) for integer string conversion: value has " ++ count.repr ++
        " digits; use sys.set_int_max_str_digits() to increase the limit"
  | unwritable =>
      "Exceeds the limit (4300 digits) for integer string conversion; " ++
        "use sys.set_int_max_str_digits() to increase the limit"
  | tooFewParts count => "not enough values to unpack (expected 3, got " ++ count.repr ++ ")"
  | tooManyParts => "too many values to unpack (expected 3)"
  | yearOutOfRange year => "year " ++ Value.integerText year ++ " is out of range"
  | monthOutOfRange => "month must be in 1..12"
  | beyond64 => "Python int too large to convert to C long"
  | beyond32 => "Python int too large to convert to C int"
  | above32 => "signed integer is greater than maximum"
  | below32 => "signed integer is less than minimum"
  | tooManyDays days =>
      "days=" ++ Value.integerText days ++ "; must have magnitude <= 999999999"
  | dateOutOfRange => "date value out of range"
  | beforeText => "string index out of range"
  | positionBelow64 => "cannot fit 'int' into an index-sized integer"
  | startBelow64 => "Python int too large to convert to C ssize_t"
  | noLetters typeName => "'" ++ typeName ++ "' object has no attribute 'upper'"
  | noParts typeName => "'" ++ typeName ++ "' object has no attribute 'split'"
  | noMember typeName => "unhashable type: '" ++ typeName ++ "'"
  | noItems typeName => "'" ++ typeName ++ "' object is not iterable"
  | unmovable operator typeName =>
      "unsupported operand type(s) for " ++ operator.toString ++ ": 'int' and '" ++ typeName ++ "'"
  | beyondDouble => "int too large to convert to float"
  | absentField name => Text.quote name
  | noField typeName =>
      if typeName = "list" then "list indices must be integers or slices, not str"
      else if typeName = "str" then "string indices must be integers, not 'str'"
      else "'" ++ typeName ++ "' object is not subscriptable"
  | notFields typeName =>
      "payinstruct.models.result.PaymentResult() argument after ** must be a mapping, not " ++
        typeName
  | repeatedField name =>
      "payinstruct.models.result.PaymentResult() got multiple values for keyword argument '" ++
        name ++ "'"
  | unknownDirective literal => literal ++ " is not a valid InstructionType"
  | unknownCode literal => literal ++ " is not a valid StatusCode"
  | unknownLevel text => "Unknown level: " ++ Text.quote text
  | notLevel literal => "Level not an integer or a valid string: " ++ literal
  | badAddress flaw => flaw.message
  | unknownScheme name => Text.quote name
  | unsendable => "Out of range float values are not JSON compliant"
  | nullCharacter => "embedded null byte"
  | badVariable => "illegal environment variable name"
  | unnamedVariable => "[Errno 22] Invalid argument"
  | notVariable typeName => "str expected, not " ++ typeName
  | emptyText => "Expecting value: line 1 column 1 (char 0)"

end Fault

end Remittance
