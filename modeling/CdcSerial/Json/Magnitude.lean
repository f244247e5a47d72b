import CdcSerial.Double.Rounding
import CdcSerial.Json.Value

/-!
# The double of a number literal

A literal denotes the number that its digits, its point and its power of ten spell out. Its double
is the nearest one, however many digits there are. A literal beyond the largest double has none, and
one below the smallest is zero.
-/

namespace CdcSerial

namespace Json

namespace Number

/-- The whole number that all digits of a literal form, the point left out. -/
def digits (number : Number) : Nat :=
  (Numeral.accumulate 10 0 (number.whole ++ number.fraction.getD [])).getD 0

/-- The power of ten of the last digit of a literal. -/
def lastPlace (number : Number) : Int :=
  let written : Int := match number.power with
    | none => 0
    | some (negative, power) =>
      let size := (Numeral.accumulate 10 0 power).getD 0
      if negative then -(size : Int) else size
  written - (number.fraction.getD []).length

/-- The double that a literal denotes, if a double can hold it. -/
def toDouble? (number : Number) : Option Double :=
  (some (Double.ofDecimal number.negative number.digits number.lastPlace)).filter Double.isFinite

end Number

end Json

end CdcSerial
