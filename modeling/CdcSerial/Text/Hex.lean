import CdcSerial.Text.Numeral

/-!
# Bytes in hexadecimal

A byte is two lower-case hexadecimal digits. A list of bytes is their digits one after the other,
or, for people to read, the bytes in brackets divided by commas.
-/

namespace CdcSerial

namespace Hex

/-- The two digits of a byte. -/
def byte (value : UInt8) : String :=
  Numeral.hexPadded 2 value.toNat

/-- The digits of all bytes, without anything between them. -/
def encode (bytes : List UInt8) : String :=
  String.join (bytes.map byte)

/-- Bytes from pairs of digits, if the text consists of such pairs. -/
def decodeChars? : List Char → Option (List UInt8)
  | [] => some []
  | high :: low :: rest => do
    let value ← Numeral.readDigits? 16 [high, low]
    let bytes ← decodeChars? rest
    return UInt8.ofNat value :: bytes
  | [_] => none

/-- Bytes from a text of hexadecimal digits. -/
def decode? (text : String) : Option (List UInt8) :=
  decodeChars? text.toList

/-- The bytes in brackets, divided by commas. -/
def listing (bytes : List UInt8) : String :=
  "[" ++ String.intercalate ", " (bytes.map byte) ++ "]"

end Hex

end CdcSerial
