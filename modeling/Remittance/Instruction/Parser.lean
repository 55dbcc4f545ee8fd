import Remittance.Instruction.Basic
import Remittance.Text.Blank
import Remittance.Text.Keyword

/-!
# Reading instructions

`Instruction.parse?` reads an instruction from any text. The text is normalized and then followed
along the steps of the form whose directive it begins with. A part is the next word, a keyword is
looked for in all the remaining text, and the blanks around what remains are dropped after each
step. A date is read where the keyword for it and a word after it are found.
-/

namespace Remittance.Instruction

/-- The next word and the text that remains after it. -/
def takeWord? (text : List Char) : Option (List Char × List Char) :=
  let word := Text.nextWord text
  if word.isEmpty then none else some (word, Text.trim (text.drop word.length))

/-- The text that remains after a keyword. -/
def pass? (keyword : String) (text : List Char) : Option (List Char) :=
  (Text.after? keyword.toList text).map Text.trim

/-- Follow the steps of a form along the text, which gives the instruction with its parts filled
in and the text that remains. -/
def follow? : List FormStep → Instruction → List Char → Option (Instruction × List Char)
  | [], order, text => some (order, text)
  | .part part :: steps, order, text =>
      match takeWord? text with
      | some (word, rest) => follow? steps (order.set part (String.ofList word)) rest
      | none => none
  | .keyword keyword :: steps, order, text =>
      match pass? keyword text with
      | some rest => follow? steps order rest
      | none => none

/-- The date in the text that remains after the steps of a form. -/
def date? (text : List Char) : Option String :=
  match pass? dateKeyword text with
  | some rest => (takeWord? rest).map fun found => String.ofList found.1
  | none => none

/-- Read an instruction of the form that begins with a directive, from a text as it is. -/
def parseForm? (directive : Directive) (text : List Char) : Option Instruction :=
  let keyword := directive.name.toList
  if Text.leads keyword text then
    match follow? directive.steps (blank directive) (Text.trim (text.drop keyword.length)) with
    | some (order, rest) => some { order with executeBy := date? rest }
    | none => none
  else none

/-- Read an instruction of either form from a text. -/
def parse? (text : String) : Option Instruction :=
  let normalized := Text.normalize text.toList
  parseForm? .debit normalized <|> parseForm? .credit normalized

end Remittance.Instruction
