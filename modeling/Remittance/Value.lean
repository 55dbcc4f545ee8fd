import Remittance.Number.Shortest
import Remittance.Text.Quoted

/-!
# Values

The untyped data that callers supply. Integers have any size and are distinct from doubles, and
an object keeps its entries in order. `Value.literal` writes a value as error messages show it.
-/

namespace Remittance

/-- A value as a caller supplies it. -/
inductive Value where
  | null
  | bool (value : Bool)
  | int (value : Int)
  | double (value : Double)
  | text (value : String)
  | list (items : List Value)
  | object (entries : List (String × Value))

namespace Value

/-- The name of a value's type in error messages. -/
def typeName : Value → String
  | null => "NoneType"
  | bool _ => "bool"
  | int _ => "int"
  | double _ => "float"
  | text _ => "str"
  | list _ => "list"
  | object _ => "dict"

/-- The value counts as absent: null, false, zero, or empty. -/
def isVoid : Value → Bool
  | null => true
  | bool value => !value
  | int value => value == 0
  | double value => value.isZero
  | text value => value.isEmpty
  | list items => items.isEmpty
  | object entries => entries.isEmpty

/-- The text that the value is, if it is one. -/
def text? : Value → Option String
  | text value => some value
  | _ => none

/-- The text that the value is. Any other value counts as the empty text. -/
def asText (value : Value) : String :=
  value.text?.getD ""

/-- The decimal text of an integer. -/
def integerText (number : Int) : String :=
  if number < 0 then "-" ++ number.natAbs.repr else number.natAbs.repr

mutual
/-- Write a value as error messages show it. -/
def literal : Value → String
  | null => "None"
  | bool true => "True"
  | bool false => "False"
  | int number => integerText number
  | double number => number.text
  | text value => Text.quote value
  | list items => "[" ++ ", ".intercalate (itemLiterals items) ++ "]"
  | object entries => "\x7b" ++ ", ".intercalate (entryLiterals entries) ++ "\x7d"

/-- Write the items of a list. -/
def itemLiterals : List Value → List String
  | [] => []
  | item :: rest => item.literal :: itemLiterals rest

/-- Write the entries of an object, each name before its value. -/
def entryLiterals : List (String × Value) → List String
  | [] => []
  | (name, value) :: rest => (Text.quote name ++ ": " ++ value.literal) :: entryLiterals rest
end

mutual
/-- What the value holds that is neither a list nor an object, in order. -/
def scalars : Value → List Value
  | list items => itemScalars items
  | object entries => entryScalars entries
  | value => [value]

/-- What the items of a list hold that is neither a list nor an object. -/
def itemScalars : List Value → List Value
  | [] => []
  | item :: rest => item.scalars ++ itemScalars rest

/-- What the entries of an object hold that is neither a list nor an object. -/
def entryScalars : List (String × Value) → List Value
  | [] => []
  | (_, value) :: rest => value.scalars ++ entryScalars rest
end

end Value

end Remittance
