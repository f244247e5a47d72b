/-!
# Double-precision numbers

A double is its 64-bit word: one sign bit, eleven exponent bits and fifty-two fraction bits. All
reasoning about values goes through exact whole numbers, so that no rounding is hidden: a finite
double is `mantissa * 2 ^ exponent` with its sign, and doubles compare as their words do.
-/

namespace CdcSerial

/-- A double-precision number, given by its word. -/
structure Double where
  word : UInt64
deriving DecidableEq, Inhabited

namespace Double

/-- Whether the sign bit is set. Zeros and NaNs have a sign too. -/
def negative (value : Double) : Bool := decide (0x8000000000000000 ≤ value.word.toNat)

/-- The word without its sign bit. -/
def magnitudeWord (value : Double) : Nat := value.word.toNat % 0x8000000000000000

/-- The eleven exponent bits. -/
def exponentField (value : Double) : Nat := value.magnitudeWord / 0x10000000000000

/-- The fifty-two fraction bits. -/
def fractionField (value : Double) : Nat := value.magnitudeWord % 0x10000000000000

/-- Whether the value is neither an infinity nor a NaN. -/
def isFinite (value : Double) : Bool := decide (value.exponentField < 2047)

/-- Whether the value is not a number. -/
def isNaN (value : Double) : Bool :=
  decide (value.exponentField = 2047) && decide (value.fractionField ≠ 0)

/-- Whether the value is a zero of either sign. -/
def isZero (value : Double) : Bool := decide (value.magnitudeWord = 0)

/--
The whole number that, scaled by the power of two in `exponent`, is the size of a finite value.
-/
def mantissa (value : Double) : Nat :=
  if value.exponentField = 0 then value.fractionField else 0x10000000000000 + value.fractionField

/-- The power of two of the mantissa's last bit. -/
def exponent (value : Double) : Int :=
  if value.exponentField = 0 then -1074 else (value.exponentField : Int) - 1075

/-- The double of the given sign whose word without the sign bit is given. -/
def ofMagnitudeWord (negative : Bool) (magnitude : Nat) : Double :=
  ⟨UInt64.ofNat ((if negative then 0x8000000000000000 else 0) + magnitude)⟩

/-- Zero with the given sign. -/
def zero (negative : Bool) : Double := ofMagnitudeWord negative 0

/-- The infinity of the given sign. -/
def infinity (negative : Bool) : Double := ofMagnitudeWord negative 0x7FF0000000000000

/-- A number that is none. -/
def nan : Double := ofMagnitudeWord false 0x7FF8000000000000

/-- The value with the other sign. -/
def neg (value : Double) : Double :=
  ofMagnitudeWord (!value.negative) value.magnitudeWord

/--
The place of a value in the order of the doubles. Words of one sign are ordered as their values
are, both zeros share a place, and a NaN has none.
-/
def rank? (value : Double) : Option Int :=
  if value.isNaN then none
  else if value.negative then some (-(value.magnitudeWord : Int))
  else some value.magnitudeWord

/-- Numerical order. A NaN is below nothing and nothing is below it. -/
def lt (left right : Double) : Bool :=
  match left.rank?, right.rank? with
  | some leftRank, some rightRank => decide (leftRank < rightRank)
  | _, _ => false

/-- Numerical equality: both zeros are equal and a NaN equals nothing. -/
def same (left right : Double) : Bool :=
  match left.rank?, right.rank? with
  | some leftRank, some rightRank => decide (leftRank = rightRank)
  | _, _ => false

end Double

end CdcSerial
