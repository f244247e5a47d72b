import CdcSerial.Text.Numeral

/-!
# Durations

A length of time in whole nanoseconds. The seconds of a duration fit 64 bits, so not every duration
has a double. The text of a duration is exact: it uses the largest unit in which the value is at
least one and drops the zeros that end the fraction.
-/

namespace CdcSerial

/-- A length of time of less than `2 ^ 64` seconds, in nanoseconds. -/
structure Duration where
  nanoseconds : Nat
  fits : nanoseconds < 18446744073709551616000000000
deriving DecidableEq

namespace Duration

/-- The duration of so many nanoseconds, if it is in range. -/
def ofNanoseconds? (nanoseconds : Nat) : Option Duration :=
  if fits : nanoseconds < 18446744073709551616000000000 then some ⟨nanoseconds, fits⟩ else none

/-- The duration of so many whole seconds and further nanoseconds, if it is in range. -/
def ofParts? (seconds nanoseconds : Nat) : Option Duration :=
  ofNanoseconds? (seconds * 1000000000 + nanoseconds)

/-- No time at all. As a transfer timeout it means that there is none. -/
def zero : Duration := ⟨0, by decide⟩

instance : Inhabited Duration := ⟨zero⟩

/-- The duration of so many milliseconds, as far as thirty-two bits hold. -/
def ofMilliseconds (milliseconds : UInt32) : Duration :=
  ⟨milliseconds.toNat * 1000000, by have := milliseconds.toNat_lt; omega⟩

/-- The whole seconds. -/
def seconds (duration : Duration) : Nat := duration.nanoseconds / 1000000000

/-- The nanoseconds beyond the whole seconds. -/
def subsecond (duration : Duration) : Nat := duration.nanoseconds % 1000000000

/-- Twice the duration, if it is in range. -/
def double? (duration : Duration) : Option Duration :=
  ofNanoseconds? (2 * duration.nanoseconds)

/-- The whole milliseconds, as a thirty-two bit word that keeps the low bits. -/
def millisecondWord (duration : Duration) : UInt32 :=
  UInt32.ofNat (duration.nanoseconds / 1000000)

/-- The characters without the zeros that end them. -/
def dropTrailingZeros (digits : List Char) : List Char :=
  (digits.reverse.dropWhile (· == '0')).reverse

/-- The number `value / 10 ^ places` as an exact decimal, without a fraction that is zero. -/
def decimalFraction (value places : Nat) : String :=
  let whole := Numeral.decimal (value / Nat.pow 10 places)
  let fraction := dropTrailingZeros (Numeral.writePadded 10 places (value % Nat.pow 10 places))
  if fraction.isEmpty then whole else whole ++ "." ++ String.ofList fraction

/-- The text of a duration in the largest unit in which it is at least one. -/
def text (duration : Duration) : String :=
  let value := duration.nanoseconds
  if 1000000000 ≤ value then decimalFraction value 9 ++ "s"
  else if 1000000 ≤ value then decimalFraction value 6 ++ "ms"
  else if 1000 ≤ value then decimalFraction value 3 ++ "µs"
  else Numeral.decimal value ++ "ns"

end Duration

end CdcSerial
