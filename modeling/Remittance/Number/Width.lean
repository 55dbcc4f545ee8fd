/-!
# Widths of integers

The ranges of the signed integers that 32 and 64 bits hold, and of those that text holds.
-/

namespace Remittance

/-- The least number above the 32-bit range, whose negative is the least number within it. -/
def limit32 : Int := 0x80000000

/-- The least number above the 64-bit range, whose negative is the least number within it. -/
def limit64 : Int := 0x8000000000000000

/-- The number is a signed 32-bit integer. -/
def fits32 (number : Int) : Bool :=
  -limit32 ≤ number && number < limit32

/-- The number is a signed 64-bit integer. -/
def fits64 (number : Int) : Bool :=
  -limit64 ≤ number && number < limit64

/-- The most digits of an integer that is read from text or written to it. -/
def digitLimit : Nat := 4300

/-- The number of digits of an integer. -/
def digitCount (number : Int) : Nat :=
  (Nat.toDigits 10 number.natAbs).length

/-- The number has few enough digits to be written. -/
def fitsText (number : Int) : Bool :=
  digitCount number ≤ digitLimit

end Remittance
