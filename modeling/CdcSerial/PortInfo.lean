import CdcSerial.Address
import CdcSerial.Json.Writer

/-!
# Listed ports

What is known of a port that was found: its address, the ids and release number of its device, and
the strings that the device could be asked for.
-/

namespace CdcSerial

/-- A listed port. Strings that are absent, unreadable or empty are left out. -/
structure PortInfo where
  comName : String
  manufacturer : Option String := none
  serialNumber : Option String := none
  deviceName : Option String := none
  vendorId : UInt16
  productId : UInt16
  bcdDevice : UInt16
  address : Address
deriving DecidableEq

namespace PortInfo

/--
One line about a port: its name, and what it has of device name, manufacturer and serial number.
-/
def text (port : PortInfo) : String :=
  port.comName
    ++ (match port.deviceName with
      | some name => " " ++ name
      | none => "")
    ++ (match port.manufacturer with
      | some name => " (" ++ name ++ ")"
      | none => "")
    ++ (match port.serialNumber with
      | some number => " [" ++ number ++ "]"
      | none => "")

/-- The JSON object of a port, without the absent strings. -/
def toJson (port : PortInfo) : Json.Value :=
  let string (key : String) (value : Option String) : List (String × Json.Value) :=
    match value with
    | some text => [(key, .ofString text)]
    | none => []
  .ofMembers <|
    [("comName", .ofString port.comName)]
      ++ string "manufacturer" port.manufacturer
      ++ string "serialNumber" port.serialNumber
      ++ string "deviceName" port.deviceName
      ++ [ ("vendorId", .ofNat port.vendorId.toNat),
        ("productId", .ofNat port.productId.toNat),
        ("bcdDevice", .ofNat port.bcdDevice.toNat) ]

end PortInfo

end CdcSerial
