/-!
# Numerals

Unsigned whole numbers written in a radix from two to sixteen. Writing uses lower-case digits
without leading zeros; reading takes digits of either case, any number of leading zeros and at
most one leading plus sign. Only ASCII digits count.
-/

namespace CdcSerial

namespace Numeral

/-- The value of an ASCII digit in the given radix. -/
def digitValue? (radix : Nat) (character : Char) : Option Nat :=
  let code := character.toNat
  let value? : Option Nat :=
    if 48 ≤ code ∧ code ≤ 57 then some (code - 48)
    else if 97 ≤ code ∧ code ≤ 102 then some (code - 87)
    else if 65 ≤ code ∧ code ≤ 70 then some (code - 55)
    else none
  value?.filter (· < radix)

/-- The number that a run of digits denotes when `start` stands in front of them. -/
def accumulate (radix : Nat) (start : Nat) : List Char → Option Nat
  | [] => some start
  | character :: rest => do
    let value ← digitValue? radix character
    accumulate radix (start * radix + value) rest

/-- One or more digits. -/
def readDigits? (radix : Nat) : List Char → Option Nat
  | [] => none
  | digits => accumulate radix 0 digits

/-- One or more digits behind at most one plus sign, of value at most `limit`. -/
def read? (radix limit : Nat) (text : List Char) : Option Nat :=
  let digits := match text with
    | '+' :: rest => rest
    | _ => text
  (readDigits? radix digits).filter (· ≤ limit)

/-- The digits of a number, most significant first. -/
def write (radix number : Nat) : List Char :=
  Nat.toDigits radix number

/-- The digits of a number behind as many zeros as make the text `width` characters long. -/
def writePadded (radix width number : Nat) : List Char :=
  let digits := write radix number
  List.replicate (width - digits.length) '0' ++ digits

/-- Decimal text. -/
def decimal (number : Nat) : String :=
  String.ofList (write 10 number)

/-- Hexadecimal text in lower case. -/
def hex (number : Nat) : String :=
  String.ofList (write 16 number)

/-- Hexadecimal text in lower case with at least `width` digits. -/
def hexPadded (width number : Nat) : String :=
  String.ofList (writePadded 16 width number)

end Numeral

end CdcSerial
