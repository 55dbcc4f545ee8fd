/-!
# Validation issues

What is wrong with supplied data, and where. An issue pairs a problem with the path that leads to
it from the value under validation.
-/

namespace Remittance

/-- What is wrong with one supplied value. -/
inductive Problem where
  | missing
  | notText
  | notList
  | notRecord (name : String)
  | notFields
  | notInteger
  | unreadableInteger
  | fractional
  | tooLarge
  | notFinite
  | notDirective
deriving Repr, DecidableEq

namespace Problem

/-- The tag that identifies a problem in an answer. -/
def tag : Problem → String
  | missing => "missing"
  | notText => "string_type"
  | notList => "list_type"
  | notRecord _ => "model_type"
  | notFields => "model_attributes_type"
  | notInteger => "int_type"
  | unreadableInteger => "int_parsing"
  | fractional => "int_from_float"
  | tooLarge => "int_parsing_size"
  | notFinite => "finite_number"
  | notDirective => "enum"

/-- The sentence that explains a problem. -/
def message : Problem → String
  | missing => "Field required"
  | notText => "Input should be a valid string"
  | notList => "Input should be a valid list"
  | notRecord name => "Input should be a valid dictionary or instance of " ++ name
  | notFields => "Input should be a valid dictionary or object to extract fields from"
  | notInteger => "Input should be a valid integer"
  | unreadableInteger =>
      "Input should be a valid integer, unable to parse string as an integer"
  | fractional => "Input should be a valid integer, got a number with a fractional part"
  | tooLarge => "Unable to parse input string as an integer, exceeded maximum size"
  | notFinite => "Input should be a finite number"
  | notDirective => "Input should be 'DEBIT' or 'CREDIT'"

end Problem

/-- One step into a value: to the entry of an object or to an item of a list. -/
inductive PathStep where
  | key (name : String)
  | index (position : Nat)
deriving Repr, DecidableEq

/-- A problem and the path to it. -/
structure Issue where
  problem : Problem
  path : List PathStep
deriving Repr, DecidableEq

/-- The issue as seen one step further out. -/
def Issue.under (step : PathStep) (issue : Issue) : Issue :=
  { issue with path := step :: issue.path }

/-- The outcome of validation: a value, or every issue found. -/
abbrev Checked (α : Type) := Except (List Issue) α

namespace Checked

variable {α β : Type}

/-- The issues that were found. -/
def issues : Checked α → List Issue
  | .ok _ => []
  | .error found => found

/-- The value with one problem of its own. -/
def refuse (problem : Problem) : Checked α :=
  .error [⟨problem, []⟩]

/-- The outcome with its issues seen one step further out. -/
def under (step : PathStep) : Checked α → Checked α
  | .ok value => .ok value
  | .error found => .error (found.map (Issue.under step))

/-- Apply a checked function to a checked argument, keeping the issues of both. -/
def apply (function : Checked (α → β)) (argument : Checked α) : Checked β :=
  match function, argument with
  | .ok f, .ok value => .ok (f value)
  | function, argument => .error (function.issues ++ argument.issues)

/-- Check the items of a list from an index on, keeping the issues of all. -/
def everyFrom (check : α → Checked β) (position : Nat) : List α → Checked (List β)
  | [] => .ok []
  | item :: rest =>
      apply (((check item).under (.index position)).map List.cons)
        (everyFrom check (position + 1) rest)

/-- Check the items of a list, keeping the issues of all. -/
def every (check : α → Checked β) (items : List α) : Checked (List β) :=
  everyFrom check 0 items

end Checked

end Remittance
