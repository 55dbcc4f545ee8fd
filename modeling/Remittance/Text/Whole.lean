import Remittance.Text.Numeral

/-!
# Whole numbers of supplied data

A strict numeral is a minus, if any, and ASCII digits without a zero in front, and `readStrict`
reads nothing else. `readWhole` also takes a number that is written more freely: `tidy` rewrites it
as a strict numeral, without white space, a plus, zeros in front, underscores, and a fraction of
zeros. Only a text that begins as a strict numeral is ever too long; one that has to be rewritten
is malformed instead.
-/

namespace Remittance.Text

/-- Why a text is not read as a whole number. -/
inductive Flaw where
  /-- The text writes no whole number. -/
  | malformed
  /-- The number is too long to be read. -/
  | tooLong
deriving Repr, DecidableEq

/-- Take a minus off the text, and say whether there was one. -/
def takeMinus : List Char → Bool × List Char
  | '-' :: rest => (true, rest)
  | text => (false, text)

/-- Read a strict numeral. Its digits are counted before the text behind them is looked at. -/
def readStrict (text : List Char) : Except Flaw Int :=
  let (negative, body) := takeMinus text
  let digits := body.takeWhile (·.isDigit)
  if body = ['0'] then .ok 0
  else if digits.isEmpty || digits.head? = some '0' then .error .malformed
  else if digitLimit < digits.length then .error .tooLong
  else if digits.length < body.length then .error .malformed
  else .ok (withSign negative (number digits))

/-- The text behind a run of zeros and underscores, which a digit or a minus ends. At a point or
the end of the text, the last character of the run stays. `last` is the character before the
text. -/
def behindZeros (last : Char) : List Char → Option (List Char)
  | [] => some [last]
  | c :: rest =>
      if c == '0' || c == '_' then behindZeros c rest
      else if c == '.' then some (last :: c :: rest)
      else if c.isDigit || c == '-' then some (c :: rest)
      else none

/-- Take zeros off the front of a text that begins with a digit. -/
def dropZeros : List Char → Option (List Char)
  | [] => none
  | c :: rest =>
      if c == '0' then behindZeros c rest
      else if c.isDigit then some (c :: rest)
      else none

/-- A point and zeros behind it. -/
def isZeroFraction : List Char → Bool
  | [] => false
  | c :: zeros => c == '.' && !zeros.isEmpty && zeros.all (· == '0')

/-- Take a fraction of zeros off the text. -/
def dropFraction (text : List Char) : List Char :=
  if isZeroFraction (text.dropWhile (· != '.')) then text.takeWhile (· != '.') else text

/-- Take the underscores off a text in which each stands between two other characters. -/
def dropUnderscores (text : List Char) : List Char :=
  if isSpaced false text then text.filter (· != '_') else text

/-- Rewrite a whole number as a strict numeral. A minus may stand behind the zeros in front. -/
def tidy (text : List Char) : Option (List Char) :=
  let (negative, body) := takeSign (trimWith isSpace text)
  (dropZeros body).map fun rest =>
    let digits := dropUnderscores (dropFraction rest)
    if negative then '-' :: digits else digits

/-- Read a whole number of supplied data. -/
def readWhole (text : String) : Except Flaw Int :=
  match readStrict text.toList with
  | .error .malformed =>
      match (tidy text.toList).map readStrict with
      | some (.ok value) => .ok value
      | _ => .error .malformed
  | result => result

end Remittance.Text
