import CdcSerial.Bench.Script

/-!
# Scripted devices

A device of a bench has the ids and strings that it reports, a kernel driver that may be bound to
it, a script for the calls on it and a queue of what its bulk transfers will meet.
-/

namespace CdcSerial

namespace Bench

/-- What reading a string of a device meets. -/
inductive StringEntry where
  | text (text : String)
  | bytes (bytes : List UInt8)
  | failed (status : Status)
deriving DecidableEq

/-- A scripted device. -/
structure Device where
  vendorId : UInt16 := 0x16C0
  productId : UInt16 := 0x2AAF
  bcdDevice : UInt16 := 0x0100
  manufacturerIndex : Option UInt8 := none
  serialNumberIndex : Option UInt8 := none
  productIndex : Option UInt8 := none
  strings : List (UInt8 × StringEntry) := []
  kernelDriver : Bool := false
  bus : UInt8 := 1
  /-- The address on the bus; by default one more than the number of the device. -/
  busAddress : Option UInt8 := none
  script : Script := {}
  polls : List Poll := []
deriving DecidableEq, Inhabited

namespace Device

/-- The candidate of a device where the bus enumerates in one call. -/
def candidate (device : Device) (number : Nat) : Candidate where
  device := number
  vendorId := device.vendorId
  productId := device.productId
  bcdDevice := device.bcdDevice
  manufacturerIndex := device.manufacturerIndex
  serialNumberIndex := device.serialNumberIndex
  productIndex := device.productIndex

/-- The descriptor of a device. -/
def descriptor (device : Device) : Descriptor where
  vendorId := device.vendorId
  productId := device.productId
  bcdDevice := device.bcdDevice
  manufacturerIndex := device.manufacturerIndex.getD 0
  serialNumberIndex := device.serialNumberIndex.getD 0
  productIndex := device.productIndex.getD 0

/-- The device in the list of a context. -/
def attached (device : Device) (number : Nat) : Attached where
  device := number
  bus := device.bus
  address := device.busAddress.getD (UInt8.ofNat (number + 1))

/-- The text of bytes, if they are one. -/
def textOf? (bytes : List UInt8) : Except Status String :=
  match String.fromUTF8? ⟨bytes.toArray⟩ with
  | some text => .ok text
  | none => .error .other

/-- A string of a device, of which at most `limit` bytes are transferred where there is a limit. -/
def readString (device : Device) (limit : Option Nat) (index : UInt8) : Except Status String :=
  let cut (bytes : List UInt8) : List UInt8 :=
    match limit with
    | some limit => bytes.take limit
    | none => bytes
  match device.strings.lookup index with
  | none => .error .invalidParameter
  | some (.failed status) => .error status
  | some (.text text) => textOf? (cut text.toUTF8.toList)
  | some (.bytes bytes) => textOf? (cut bytes)

end Device

end Bench

end CdcSerial
