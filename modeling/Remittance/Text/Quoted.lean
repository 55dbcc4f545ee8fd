import Remittance.Text.Printable

/-!
# Quoted text

The quoted form of a text, as error messages show it. Single quotes surround the text unless it
holds single quotes and no double ones. A backslash, the surrounding quote, and every character
that is not printable are written as escapes.
-/

namespace Remittance.Text

/-- The number in lower-case hexadecimal, with zeros in front up to this many digits. -/
def hexadecimal (width number : Nat) : List Char :=
  let digits := Nat.toDigits 16 number
  List.replicate (width - digits.length) '0' ++ digits

/-- The form of one character inside the quotes. -/
def escape (quotes c : Char) : List Char :=
  if c == '\\' || c == quotes then ['\\', c]
  else if c == '\t' then ['\\', 't']
  else if c == '\n' then ['\\', 'n']
  else if c == '\r' then ['\\', 'r']
  else if isPrintable c then [c]
  else if c.toNat ≤ 0xFF then '\\' :: 'x' :: hexadecimal 2 c.toNat
  else if c.toNat ≤ 0xFFFF then '\\' :: 'u' :: hexadecimal 4 c.toNat
  else '\\' :: 'U' :: hexadecimal 8 c.toNat

/-- The quotes that surround the text. -/
def surroundingQuote (text : List Char) : Char :=
  if text.contains '\'' && !text.contains '"' then '"' else '\''

/-- The quoted form of a text. -/
def quote (text : String) : String :=
  let quotes := surroundingQuote text.toList
  String.ofList (quotes :: text.toList.flatMap (escape quotes) ++ [quotes])

end Remittance.Text
