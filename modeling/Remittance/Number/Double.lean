/-!
# Binary64 numbers

A double is kept as its bit pattern. A finite one stands for its significand times a power of
two, exactly, so whether it is an integer and which one is a matter of natural arithmetic.
-/

namespace Remittance

/-- A number in the IEEE 754 binary64 format. -/
structure Double where
  bits : UInt64
deriving Repr, DecidableEq

namespace Double

/-- The number of different fractions, which is 2 to the power 52. -/
def fractionCount : Nat := 0x10000000000000

/-- The number of different exponents, which is 2 to the power 11. -/
def exponentCount : Nat := 0x800

/-- The sign bit is set. -/
def isNegative (x : Double) : Bool :=
  fractionCount * exponentCount ≤ x.bits.toNat

/-- The biased exponent. -/
def exponentField (x : Double) : Nat :=
  x.bits.toNat / fractionCount % exponentCount

/-- The stored fraction. -/
def fractionField (x : Double) : Nat :=
  x.bits.toNat % fractionCount

/-- The double is neither an infinity nor a NaN. -/
def isFinite (x : Double) : Bool :=
  x.exponentField + 1 < exponentCount

/-- The double is not a number. -/
def isNaN (x : Double) : Bool :=
  !x.isFinite && x.fractionField ≠ 0

/-- The double is one of the two zeros. -/
def isZero (x : Double) : Bool :=
  x.exponentField == 0 && x.fractionField == 0

/-- The significand of a finite double, whose magnitude is `significand * 2 ^ exponent`. -/
def significand (x : Double) : Nat :=
  if x.exponentField = 0 then x.fractionField else fractionCount + x.fractionField

/-- The exponent of a finite double, whose magnitude is `significand * 2 ^ exponent`. -/
def exponent (x : Double) : Int :=
  if x.exponentField = 0 then -1074 else (x.exponentField : Int) - 1075

/-- The integer with this magnitude and the sign of the double. -/
def signed (x : Double) (magnitude : Nat) : Int :=
  if x.isNegative then -(magnitude : Int) else magnitude

/-- The integer that a finite double is, if it has no fraction. -/
def toInt? (x : Double) : Option Int :=
  if !x.isFinite then none
  else if 0 ≤ x.exponent then some (x.signed (x.significand * Nat.pow 2 x.exponent.toNat))
  else
    let unit := Nat.pow 2 (-x.exponent).toNat
    if x.significand % unit = 0 then some (x.signed (x.significand / unit)) else none

/-- The least magnitude beyond all doubles, halfway from the greatest double to the next power of
two. -/
def bound : Nat := Nat.pow 2 1024 - Nat.pow 2 970

/-- The integer lies within the range of doubles, to which it can be rounded. -/
def covers (value : Int) : Bool :=
  value.natAbs < bound

/-- The integer that the double nearest to an integer stands for. A tie goes to the even
significand. -/
def nearest (value : Int) : Int :=
  let unit := Nat.pow 2 (value.natAbs.log2 - 52)
  let count := value.natAbs / unit
  let rest := value.natAbs % unit
  let isUp := unit < 2 * rest || (unit == 2 * rest && count % 2 == 1)
  let magnitude := (if isUp then count + 1 else count) * unit
  if value < 0 then -(magnitude : Int) else magnitude

end Double

end Remittance
