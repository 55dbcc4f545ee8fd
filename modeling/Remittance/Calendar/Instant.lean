import Remittance.Calendar.Date
import Remittance.Fault

/-!
# Instants

A point in time as a clock with an offset shows it, and the date it has in universal time.
-/

namespace Remittance.Calendar

/-- The local date and time of day of a clock, and the minutes by which the clock is ahead of
universal time. -/
structure Instant where
  date : Date
  second : Nat
  offset : Int

/-- The date of an instant in universal time, which is the local one or a neighbour of it. -/
def Instant.utcDate (instant : Instant) : Except Fault Date :=
  let second := (instant.second : Int) - instant.offset * 60
  let date? :=
    if second < 0 then instant.date.previous?
    else if 86400 ≤ second then instant.date.next?
    else some instant.date
  match date? with
  | some date => .ok date
  | none => .error .dateOutOfRange

end Remittance.Calendar
