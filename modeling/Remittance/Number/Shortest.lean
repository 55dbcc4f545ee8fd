import Remittance.Number.Double

/-!
# Shortest decimals

The text of a double with the fewest digits that read back as the same double. Among decimals of
one length the nearest to the double is taken, and of two equally near the one with an even last
digit. Numbers from 0.0001 up to 10^16 are written positionally and the others with an exponent.
-/

namespace Remittance

/-- The decimal number `digits * 10 ^ exponent`. -/
structure Decimal where
  digits : Nat
  exponent : Int
deriving Repr, DecidableEq

namespace Double

/-- Compare `digits * 10 ^ tens` with `units * 2 ^ twos`. -/
def compareScaled (digits : Nat) (tens : Int) (units : Nat) (twos : Int) : Ordering :=
  compare (digits * Nat.pow 10 tens.toNat * Nat.pow 2 (-twos).toNat)
    (units * Nat.pow 2 twos.toNat * Nat.pow 10 (-tens).toNat)

/-- The next double below lies at half the distance of the next double above. -/
def isNarrowBelow (x : Double) : Bool :=
  x.fractionField == 0 && 1 < x.exponentField

/-- The decimal is one of those that round to the magnitude of the double. They form an interval
that reaches half way to each neighbour, ends included when the significand is even. -/
def readsBack (x : Double) (decimal : Decimal) : Bool :=
  let lowest := if x.isNarrowBelow then 4 * x.significand - 1 else 4 * x.significand - 2
  let highest := 4 * x.significand + 2
  let inclusive := x.significand % 2 == 0
  let fromBelow := compareScaled decimal.digits decimal.exponent lowest (x.exponent - 2)
  let fromAbove := compareScaled decimal.digits decimal.exponent highest (x.exponent - 2)
  (fromBelow == .gt || (inclusive && fromBelow == .eq)) &&
    (fromAbove == .lt || (inclusive && fromAbove == .eq))

/-- The magnitude of the double in units of `10 ^ tens`, rounded down. -/
def floorOnGrid (x : Double) (tens : Int) : Nat :=
  x.significand * Nat.pow 2 x.exponent.toNat * Nat.pow 10 (-tens).toNat /
    (Nat.pow 10 tens.toNat * Nat.pow 2 (-x.exponent).toNat)

/-- The multiple of `10 ^ tens` that reads back and is nearest to the double, if one does. -/
def onGrid? (x : Double) (tens : Int) : Option Decimal :=
  let floor := x.floorOnGrid tens
  let below : Decimal := ⟨floor, tens⟩
  let above : Decimal := ⟨floor + 1, tens⟩
  match x.readsBack below, x.readsBack above with
  | true, false => some below
  | false, true => some above
  | false, false => none
  | true, true =>
      match compareScaled (2 * floor + 1) tens (2 * x.significand) x.exponent with
      | .gt => some below
      | .lt => some above
      | .eq => some (if floor % 2 = 0 then below else above)

/-- The least power of ten above the magnitude of a double other than zero. -/
def decimalScale (x : Double) : Int :=
  let guess := ((Nat.log2 x.significand : Int) + x.exponent) * 30103 / 100000 - 1
  let isAbove (tens : Int) := compareScaled 1 tens x.significand x.exponent == .gt
  (((List.range 5).map fun (step : Nat) => guess + step).find? isAbove).getD (guess + 5)

/-- The magnitude of the double as a decimal, in full. -/
def exactDecimal (x : Double) : Decimal :=
  if 0 ≤ x.exponent then ⟨x.significand * Nat.pow 2 x.exponent.toNat, 0⟩
  else ⟨x.significand * Nat.pow 5 (-x.exponent).toNat, x.exponent⟩

/-- The shortest decimal that reads back as the magnitude of a double other than zero. -/
def shortest (x : Double) : Decimal :=
  ((List.range 17).findSome? fun (count : Nat) => x.onGrid? (x.decimalScale - (count + 1))).getD
    x.exactDecimal

end Double

/-- Write a decimal other than zero. -/
def Decimal.layout (decimal : Decimal) : List Char :=
  let all := Nat.toDigits 10 decimal.digits
  let digits := (all.reverse.dropWhile (· == '0')).reverse
  let leading := decimal.exponent + all.length - 1
  if -4 ≤ leading && leading < 0 then
    '0' :: '.' :: List.replicate (-leading - 1).toNat '0' ++ digits
  else if 0 ≤ leading && leading < 16 then
    let whole := leading.toNat + 1
    let fraction := digits.drop whole
    digits.take whole ++ List.replicate (whole - digits.length) '0' ++
      '.' :: (if fraction.isEmpty then ['0'] else fraction)
  else
    let power := Nat.toDigits 10 leading.natAbs
    digits.take 1 ++ (if digits.length ≤ 1 then [] else '.' :: digits.drop 1) ++
      'e' :: (if leading < 0 then '-' else '+') ::
        (List.replicate (2 - power.length) '0' ++ power)

/-- The text of a double. -/
def Double.text (x : Double) : String :=
  let sign := if x.isNegative then ['-'] else []
  if x.isNaN then "nan"
  else if !x.isFinite then String.ofList (sign ++ ['i', 'n', 'f'])
  else if x.isZero then String.ofList (sign ++ ['0', '.', '0'])
  else String.ofList (sign ++ x.shortest.layout)

end Remittance
