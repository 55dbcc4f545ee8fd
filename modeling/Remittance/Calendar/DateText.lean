import Remittance.Calendar.Date
import Remittance.Number.Width
import Remittance.Text.Numeral
import Remittance.Text.Piece

/-!
# Dates as text

The written form year-month-day. `isDateText` tells whether a text has the form that instructions
may use, with a day up to 31 in every month. `isFuture` reads a text more freely: any three
integers are a date as long as year and month exist, and days past the end of the month run on
into the months after it.
-/

namespace Remittance.Calendar

/-- The number lies between two others. -/
def isBetween (least greatest number : Nat) : Bool :=
  least ≤ number && number ≤ greatest

/-- The text is a date with a four-digit year from 1900 on, a two-digit month up to 12, and a
two-digit day up to 31. -/
def isDateText (text : String) : Bool :=
  match text.toList with
  | [y1, y2, y3, y4, '-', m1, m2, '-', d1, d2] =>
      [y1, y2, y3, y4, m1, m2, d1, d2].all (·.isDigit) &&
        isBetween 1900 9999 (Text.number [y1, y2, y3, y4]) &&
        isBetween 1 12 (Text.number [m1, m2]) &&
        isBetween 1 31 (Text.number [d1, d2])
  | _ => false

/-- Read the three parts of a date as integers. Parts are read in order, up to one too many,
before they are counted. -/
def readParts (text : String) : Except Fault (Int × Int × Int) :=
  let parts := Text.pieces '-' text.toList
  match (parts.take 4).mapM fun part => Text.readInteger (String.ofList part) with
  | .error fault => .error fault
  | .ok [year, month, day] => .ok (year, month, day)
  | .ok read => .error (if read.length < 3 then .tooFewParts read.length else .tooManyParts)

/-- The fault of a year or month that is no 32-bit integer. -/
def widthFault? (number : Int) : Option Fault :=
  if !fits64 number then some .beyond64
  else if limit32 ≤ number then some .above32
  else if number < -limit32 then some .below32
  else none

/-- The fault of a year and month that name no month of the calendar. -/
def monthFault? (year month : Int) : Option Fault :=
  widthFault? year <|> widthFault? month <|>
    (if year < 1 || 9999 < year then some (.yearOutOfRange year) else none) <|>
    (if month < 1 || 12 < month then some .monthOutOfRange else none)

/-- The fault of a number of days that no duration has. -/
def durationFault? (days : Int) : Option Fault :=
  if !fits32 days then some .beyond32
  else if days < -999999999 || 999999999 < days then some (.tooManyDays days)
  else none

/-- The number of the day that lies this many days after the first of a month. -/
def rolledDayNumber (year month days : Int) : Except Fault Nat :=
  match monthFault? year month <|> durationFault? days with
  | some fault => .error fault
  | none =>
      let number := dayNumber year.toNat month.toNat 1 + days
      if number < 1 || lastDayNumber < number then .error .dateOutOfRange
      else .ok number.toNat

/-- The date that a text writes lies after this date. -/
def isFuture (text : String) (today : Date) : Except Fault Bool :=
  match readParts text with
  | .error fault => .error fault
  | .ok (year, month, day) =>
      (rolledDayNumber year month (day - 1)).map fun number => decide (today.number < number)

/-- The date that a supplied text writes lies after a date that may be out of range. -/
def isFutureSupplied (value : Value) (today : Except Fault Date) : Except Fault Bool :=
  match today, value with
  | .error fault, _ => .error fault
  | .ok today, .text text => isFuture text today
  | .ok _, value => .error (.noParts value.typeName)

/-- The number in decimal, with zeros in front up to this many digits. -/
def padded (width number : Nat) : List Char :=
  let digits := Nat.toDigits 10 number
  List.replicate (width - digits.length) '0' ++ digits

/-- The written form of a date. -/
def Date.text (date : Date) : String :=
  String.ofList
    (padded 4 date.year ++ '-' :: padded 2 date.month ++ '-' :: padded 2 date.day)

/-- The date that a text in the written form stands for. -/
def Date.ofText? (text : String) : Option Date :=
  match text.toList with
  | [y1, y2, y3, y4, '-', m1, m2, '-', d1, d2] =>
      if [y1, y2, y3, y4, m1, m2, d1, d2].all (·.isDigit) then
        Date.of? (Text.number [y1, y2, y3, y4]) (Text.number [m1, m2]) (Text.number [d1, d2])
      else none
  | _ => none

end Remittance.Calendar
