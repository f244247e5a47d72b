import CdcSerial.Double.Rounding
import CdcSerial.Text.Numeral

/-!
# Reading doubles

A decimal text is an optional sign, digits around an optional point and an optional power of ten;
`inf`, `infinity` and `nan` are read in any case. The result is the nearest double.
-/

namespace CdcSerial

namespace Double

/-- Whether a character is an ASCII decimal digit. -/
def isDigit (character : Char) : Bool := (Numeral.digitValue? 10 character).isSome

/-- The number of a run of decimal digits; the empty run counts as zero. -/
def digitsValue (digits : List Char) : Nat := (Numeral.accumulate 10 0 digits).getD 0

/-- A sign in front of a text, and the text behind it. -/
def splitSign : List Char → Bool × List Char
  | '-' :: rest => (true, rest)
  | '+' :: rest => (false, rest)
  | text => (false, text)

/-- A power of ten at the end of a text: nothing, or a mark, an optional sign and digits. -/
def readPower? : List Char → Option Int
  | [] => some 0
  | mark :: rest =>
    if mark = 'e' ∨ mark = 'E' then
      let (negative, digits) := splitSign rest
      (Numeral.readDigits? 10 digits).map fun power => if negative then -(power : Int) else power
    else none

/-- An unsigned decimal with the given sign in front of it. -/
def readUnsigned? (negative : Bool) (text : List Char) : Option Double :=
  let whole := text.takeWhile isDigit
  let afterWhole := text.dropWhile isDigit
  let (fraction, afterFraction) := match afterWhole with
    | '.' :: rest => (rest.takeWhile isDigit, rest.dropWhile isDigit)
    | rest => ([], rest)
  if whole.isEmpty && fraction.isEmpty then none
  else (readPower? afterFraction).map fun power =>
    ofDecimal negative (digitsValue (whole ++ fraction)) (power - fraction.length)

/-- The double that a text denotes. -/
def read? (text : String) : Option Double :=
  let (negative, body) := splitSign text.toList
  let name := body.map Char.toLower
  if name = "inf".toList ∨ name = "infinity".toList then some (infinity negative)
  else if name = "nan".toList then some (if negative then nan.neg else nan)
  else readUnsigned? negative body

end Double

end CdcSerial
