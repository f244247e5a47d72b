import CdcSerial.Double.Basic

/-!
# Rounding to doubles

The double nearest to a ratio of whole numbers, where a tie goes to the even mantissa. The decimal
text of a double is an exact ratio that is rounded once.
-/

namespace CdcSerial

/-- A quotient of whole numbers. The denominator is meant to be positive. -/
structure Ratio where
  numerator : Nat
  denominator : Nat
deriving DecidableEq

namespace Ratio

/-- The ratio times a power of two. -/
def scaleTwo (ratio : Ratio) (power : Int) : Ratio :=
  if 0 ≤ power then ⟨ratio.numerator * Nat.pow 2 power.toNat, ratio.denominator⟩
  else ⟨ratio.numerator, ratio.denominator * Nat.pow 2 (-power).toNat⟩

/-- The ratio times a power of ten. -/
def scaleTen (ratio : Ratio) (power : Int) : Ratio :=
  if 0 ≤ power then ⟨ratio.numerator * Nat.pow 10 power.toNat, ratio.denominator⟩
  else ⟨ratio.numerator, ratio.denominator * Nat.pow 10 (-power).toNat⟩

/-- Numerical order, by cross multiplication. -/
def lt (left right : Ratio) : Bool :=
  decide (left.numerator * right.denominator < right.numerator * left.denominator)

/-- Numerical order or equality, by cross multiplication. -/
def le (left right : Ratio) : Bool :=
  decide (left.numerator * right.denominator ≤ right.numerator * left.denominator)

/-- The whole number below or at the ratio. -/
def floor (ratio : Ratio) : Nat := ratio.numerator / ratio.denominator

/-- The whole number nearest to the ratio; a tie goes to the even one. -/
def nearest (ratio : Ratio) : Nat :=
  let below := ratio.floor
  let twiceRest := 2 * (ratio.numerator % ratio.denominator)
  if twiceRest < ratio.denominator then below
  else if ratio.denominator < twiceRest then below + 1
  else if below % 2 = 0 then below
  else below + 1

end Ratio

namespace Double

/-- The size of a finite value as a ratio. -/
def size (value : Double) : Ratio :=
  (Ratio.mk value.mantissa 1).scaleTwo value.exponent

/--
The power of two of the last mantissa bit of the double nearest to a positive ratio: the one that
leaves fifty-three bits before the point, but none below the smallest double.
-/
def lastBit (ratio : Ratio) : Int :=
  let guess : Int := (ratio.numerator.log2 : Int) - ratio.denominator.log2 - 53
  let exact := if (ratio.scaleTwo (-guess)).floor < 0x20000000000000 then guess else guess + 1
  max (-1074) exact

/--
The double nearest to a ratio, an infinity if the ratio is too large. Adding the rounded mantissa
to the exponent bits also carries a mantissa that was rounded up to the next power of two.
-/
def ofRatio (negative : Bool) (ratio : Ratio) : Double :=
  if ratio.numerator = 0 then zero negative
  else
    let last := lastBit ratio
    let rounded := (ratio.scaleTwo (-last)).nearest
    let magnitude := (last + 1074).toNat * 0x10000000000000 + rounded
    if magnitude < 0x7FF0000000000000 then ofMagnitudeWord negative magnitude
    else infinity negative

/--
The double nearest to `digits * 10 ^ power`. Where the power alone makes that too large or too small
for a double, the ratio is not worked out.
-/
def ofDecimal (negative : Bool) (digits : Nat) (power : Int) : Double :=
  if digits = 0 ∨ power < -400 - (digits.log2 : Int) then zero negative
  else if 400 < power then infinity negative
  else ofRatio negative ((Ratio.mk digits 1).scaleTen power)

end Double

end CdcSerial
