import CdcSerial.Error

/-!
# Line coding

The framing of a serial line: baud rate, data bits, stop bits and parity. The device takes it as
seven bytes: the baud rate in four bytes, least significant first, then one byte each for stop bits,
parity and data bits. A code that the device does not know reads as one stop bit or as no parity.
-/

namespace CdcSerial

/-- How many stop bits end a character. -/
inductive StopBits where
  | one
  | oneAndHalf
  | two
deriving DecidableEq, Inhabited

namespace StopBits

/-- The doubles nearest to 1.4 and 1.6, between which a request means one and a half stop bits. -/
def window : Double × Double := (⟨0x3FF6666666666666⟩, ⟨0x3FF999999999999A⟩)

/-- The double two. -/
def twoValue : Double := ⟨0x4000000000000000⟩

/-- The stop bits for a requested number: one, unless the number is about 1.5 or exactly 2. -/
def ofRequested (value : Double) : StopBits :=
  if window.1.lt value && value.lt window.2 then .oneAndHalf
  else if value.same twoValue then .two
  else .one

/-- The code of the stop bits in the payload. -/
def code : StopBits → UInt8
  | .one => 0
  | .oneAndHalf => 1
  | .two => 2

/-- The stop bits of a code. -/
def ofCode (code : UInt8) : StopBits :=
  if code = 1 then .oneAndHalf else if code = 2 then .two else .one

/-- The short form of the stop bits. -/
def label : StopBits → String
  | .one => "1"
  | .oneAndHalf => "1.5"
  | .two => "2"

end StopBits

/-- How characters are checked. -/
inductive Parity where
  | none
  | odd
  | even
  | mark
  | space
deriving DecidableEq, Inhabited

namespace Parity

/-- The name of a parity, in lower case. -/
def name : Parity → String
  | .none => "none"
  | .odd => "odd"
  | .even => "even"
  | .mark => "mark"
  | .space => "space"

/-- All parities. -/
def all : List Parity := [.none, .odd, .even, .mark, .space]

/-- The parity of a name, where ASCII case does not count. -/
def ofName? (name : String) : Option Parity :=
  all.find? fun parity => parity.name.toList == name.toList.map Char.toLower

/-- The parity of a name; an unknown name means none. -/
def ofName (name : String) : Parity := (ofName? name).getD .none

/-- The code of a parity in the payload. -/
def code : Parity → UInt8
  | .none => 0
  | .odd => 1
  | .even => 2
  | .mark => 3
  | .space => 4

/-- The parity of a code. -/
def ofCode (code : UInt8) : Parity :=
  if code = 1 then .odd
  else if code = 2 then .even
  else if code = 3 then .mark
  else if code = 4 then .space
  else .none

/-- The short form of a parity. -/
def label : Parity → String
  | .none => "N"
  | .odd => "O"
  | .even => "E"
  | .mark => "M"
  | .space => "S"

end Parity

/-- The framing of a serial line. -/
structure LineConfig where
  baudRate : UInt32 := 9600
  dataBits : UInt8 := 8
  stopBits : StopBits := .one
  parity : Parity := .none
deriving DecidableEq, Inhabited

namespace LineConfig

/-- The length of the payload. -/
def payloadSize : Nat := 7

/-- The payload of a line configuration. -/
def pack (config : LineConfig) : List UInt8 :=
  [ config.baudRate.toUInt8,
    (config.baudRate >>> 8).toUInt8,
    (config.baudRate >>> 16).toUInt8,
    (config.baudRate >>> 24).toUInt8,
    config.stopBits.code,
    config.parity.code,
    config.dataBits ]

/-- The line configuration of a payload. Bytes beyond the seventh do not count. -/
def unpack (payload : List UInt8) : Except Error LineConfig :=
  match payload with
  | byte0 :: byte1 :: byte2 :: byte3 :: stopBits :: parity :: dataBits :: _ =>
    .ok {
      baudRate := byte0.toUInt32 ||| (byte1.toUInt32 <<< 8) ||| (byte2.toUInt32 <<< 16)
        ||| (byte3.toUInt32 <<< 24)
      dataBits
      stopBits := .ofCode stopBits
      parity := .ofCode parity }
  | short => .error (.invalidConfig (.payload short.length))

/-- The text of a line configuration, such as `9600 8N1`. -/
def text (config : LineConfig) : String :=
  Numeral.decimal config.baudRate.toNat ++ " " ++ Numeral.decimal config.dataBits.toNat
    ++ config.parity.label ++ config.stopBits.label

end LineConfig

end CdcSerial
