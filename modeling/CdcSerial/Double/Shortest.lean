import CdcSerial.Double.Rounding
import CdcSerial.Text.Numeral

/-!
# The shortest decimal of a double

Every finite double is the nearest double to a whole interval of numbers. Its shortest decimal is
the one with the coarsest last place that lies in this interval; of two such decimals the nearer
one, and if both are equally near a `Tie` decides. Decimals are written out in full, without an
exponent.
-/

namespace CdcSerial

/-- Which of two equally near decimals is taken. -/
inductive Tie where
  | up
  | even
deriving DecidableEq

/-- The number `digits * 10 ^ power`. -/
structure Decimal where
  digits : Nat
  power : Int
deriving DecidableEq

namespace Decimal

/-- The value of a decimal. -/
def toRatio (decimal : Decimal) : Ratio :=
  (Ratio.mk decimal.digits 1).scaleTen decimal.power

/-- The decimal in full: all digits before the point, and the places behind it if there are any. -/
def plain (decimal : Decimal) : String :=
  if 0 ≤ decimal.power then Numeral.decimal (decimal.digits * Nat.pow 10 decimal.power.toNat)
  else
    let places := (-decimal.power).toNat
    Numeral.decimal (decimal.digits / Nat.pow 10 places) ++ "." ++
      String.ofList (Numeral.writePadded 10 places (decimal.digits % Nat.pow 10 places))

end Decimal

namespace Double

/-- The lower end of the numbers whose nearest double is this one. -/
def lowerEnd (value : Double) : Ratio :=
  if value.fractionField = 0 ∧ 1 < value.exponentField then
    (Ratio.mk (4 * value.mantissa - 1) 1).scaleTwo (value.exponent - 2)
  else (Ratio.mk (2 * value.mantissa - 1) 1).scaleTwo (value.exponent - 1)

/-- The upper end of the numbers whose nearest double is this one. -/
def upperEnd (value : Double) : Ratio :=
  (Ratio.mk (2 * value.mantissa + 1) 1).scaleTwo (value.exponent - 1)

/-- Whether a ratio has this double as its nearest; the ends belong to an even mantissa. -/
def claims (value : Double) (ratio : Ratio) : Bool :=
  if value.mantissa % 2 = 0 then value.lowerEnd.le ratio && ratio.le value.upperEnd
  else value.lowerEnd.lt ratio && ratio.lt value.upperEnd

/--
The decimal whose last place is `10 ^ power` and whose nearest double is this one, if there is one.
Only the two neighbours of the value on that grid can be.
-/
def onGrid? (tie : Tie) (value : Double) (power : Int) : Option Decimal :=
  let scaled := value.size.scaleTen (-power)
  let below := scaled.floor
  let low : Decimal := ⟨below, power⟩
  let high : Decimal := ⟨below + 1, power⟩
  let twiceRest := 2 * (scaled.numerator % scaled.denominator)
  match decide (0 < below) && value.claims low.toRatio, value.claims high.toRatio with
  | true, true =>
    if twiceRest < scaled.denominator then some low
    else if scaled.denominator < twiceRest then some high
    else match tie with
      | .up => some high
      | .even => some (if below % 2 = 0 then low else high)
  | true, false => some low
  | false, true => some high
  | false, false => none

/-- The first hit on the grids from `10 ^ (steps - 345)` downwards. -/
def firstOnGrid (tie : Tie) (value : Double) : Nat → Decimal
  | 0 => ⟨0, 0⟩
  | steps + 1 => (onGrid? tie value ((steps : Int) - 345)).getD (firstOnGrid tie value steps)

/-- The shortest decimal of the size of a finite value that is not zero. -/
def shortest (tie : Tie) (value : Double) : Decimal :=
  firstOnGrid tie value 656

/-- The text of a value: shortest digits in full, `NaN`, or an infinity. -/
def text (value : Double) : String :=
  let sign := if value.negative then "-" else ""
  if value.isNaN then "NaN"
  else if !value.isFinite then sign ++ "inf"
  else if value.isZero then sign ++ "0"
  else sign ++ (shortest .up value).plain

end Double

end CdcSerial
