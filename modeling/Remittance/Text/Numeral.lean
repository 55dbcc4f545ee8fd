import Remittance.Fault
import Remittance.Number.Width
import Remittance.Text.Blank

/-!
# Numerals

Reading integers from text. A numeral is a sign, if any, and digits, between which single
underscores may stand. `readInteger` reads digits of every script with white space around them.
-/

namespace Remittance.Text

/-- The first digits of the scripts outside ASCII that write numbers in base ten. Their other
digits follow in order. -/
def zeroDigits : List Nat :=
  [0x0660, 0x06F0, 0x07C0, 0x0966, 0x09E6, 0x0A66, 0x0AE6, 0x0B66, 0x0BE6, 0x0C66, 0x0CE6, 0x0D66,
   0x0DE6, 0x0E50, 0x0ED0, 0x0F20, 0x1040, 0x1090, 0x17E0, 0x1810, 0x1946, 0x19D0, 0x1A80, 0x1A90,
   0x1B50, 0x1BB0, 0x1C40, 0x1C50, 0xA620, 0xA8D0, 0xA900, 0xA9D0, 0xA9F0, 0xAA50, 0xABF0, 0xFF10,
   0x104A0, 0x10D30, 0x11066, 0x110F0, 0x11136, 0x111D0, 0x112F0, 0x11450, 0x114D0, 0x11650,
   0x116C0, 0x11730, 0x118E0, 0x11950, 0x11C50, 0x11D50, 0x11DA0, 0x16A60, 0x16AC0, 0x16B50,
   0x1D7CE, 0x1D7D8, 0x1D7E2, 0x1D7EC, 0x1D7F6, 0x1E140, 0x1E2F0, 0x1E950, 0x1FBF0]

/-- The ASCII digit with the value of this digit, of whatever script. -/
def plainDigit? (c : Char) : Option Char :=
  if c.isDigit then some c
  else
    (zeroDigits.find? fun first => first ≤ c.toNat && c.toNat < first + 10).map fun first =>
      Char.ofNat (0x30 + (c.toNat - first))

/-- The characters with their digits written in ASCII. -/
def plainDigits (text : List Char) : List Char :=
  text.map fun c => (plainDigit? c).getD c

/-- The number that ASCII digits write in base ten. -/
def number (digits : List Char) : Nat :=
  Nat.ofDigitChars 10 digits 0

/-- Take a sign off the text, and say whether it was a minus. -/
def takeSign : List Char → Bool × List Char
  | '+' :: rest => (false, rest)
  | '-' :: rest => (true, rest)
  | text => (false, text)

/-- The text does not end in an underscore and has each underscore between two other characters.
`afterOther` says that a character other than an underscore stands before the text. -/
def isSpaced (afterOther : Bool) : List Char → Bool
  | [] => afterOther
  | c :: rest => if c == '_' then afterOther && isSpaced false rest else isSpaced true rest

/-- The character may stand in a run of digits. -/
def inDigitRun (c : Char) : Bool :=
  c.isDigit || c == '_'

/-- The number that a run of digits and underscores writes. -/
def runNumber (run : List Char) : Nat :=
  number (run.filter (·.isDigit))

/-- The integer with this magnitude. -/
def withSign (negative : Bool) (magnitude : Nat) : Int :=
  if negative then -(magnitude : Int) else magnitude

/-- Read an integer with white space around it and digits of any script. Too many digits are
reported where the digits are well written, whatever follows them. -/
def readInteger (text : String) : Except Fault Int :=
  let (negative, body) := takeSign (plainDigits (trimWith isSpace text.toList))
  let run := body.takeWhile inDigitRun
  let count := (run.filter (·.isDigit)).length
  if !isSpaced false run then .error (.notInteger text)
  else if digitLimit < count then .error (.digitLimit count)
  else if body.length ≠ run.length then .error (.notInteger text)
  else .ok (withSign negative (runNumber run))

end Remittance.Text
