import Remittance.Text.Numeral

/-!
# Amounts

Reading the amount of an instruction. An amount is written in ASCII digits alone, leading zeros
included, and is positive. Any other text is no amount, except that a number of too many digits
cannot be read at all.
-/

namespace Remittance.Amount

/-- The characters are ASCII digits, and there is at least one. -/
def isDigits (text : List Char) : Bool :=
  !text.isEmpty && text.all (·.isDigit)

/-- Read an amount, which is nothing when the text does not write a positive number. -/
def read (text : String) : Except Fault (Option Nat) :=
  let digits := text.toList
  if !isDigits digits then .ok none
  else if digitLimit < digits.length then .error (.digitLimit digits.length)
  else
    let value := Text.number digits
    .ok (if value = 0 then none else some value)

end Remittance.Amount
