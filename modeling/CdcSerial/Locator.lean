import CdcSerial.PortInfo
import CdcSerial.Profile
import CdcSerial.Usb.Procedure

/-!
# Finding ports

A locator lists the ports of one vendor and turns an address back into a device. Listing opens each
device of the vendor for a moment to read its strings, and leaves out those that cannot be opened.
The index of a port is the number of ports of the same product that were listed before it. Resolving
an address counts all enumerated twins, whether or not they can be opened.
-/

namespace CdcSerial

/-- Where to look for devices, and of which vendor. -/
structure Locator where
  source : Source
  vendorId : UInt16 := Profile.vendorId

namespace Locator

/-- The index of the next port of a product, while sixteen bits can hold it. -/
def nextIndex? (found : List PortInfo) (productId : UInt16) : Option UInt16 :=
  let count := found.countP (·.productId == productId)
  if count < 65536 then some (UInt16.ofNat count) else none

/-- A string of a device, if the device has it, it can be read and it is not empty. -/
def readText (handle : Handle) : Option UInt8 → Procedure (Option String)
  | none => return none
  | some index => do
    match ← Procedure.ask (.readString handle index) with
    | .ok text => return if text.isEmpty then none else some text
    | .error status =>
      Procedure.note .trace
        ("String descriptor " ++ Numeral.decimal index.toNat ++ " unreadable: " ++ status.text)
      return none

/-- The port of an open device that is the given one of its product. -/
def describe (candidate : Candidate) (handle : Handle) (index : UInt16) : Procedure PortInfo := do
  let address : Address := ⟨candidate.vendorId, candidate.productId, index⟩
  let manufacturer ← readText handle candidate.manufacturerIndex
  let serialNumber ← readText handle candidate.serialNumberIndex
  let deviceName ← readText handle candidate.productIndex
  return {
    comName := address.text
    manufacturer
    serialNumber
    deviceName
    vendorId := candidate.vendorId
    productId := candidate.productId
    bcdDevice := candidate.bcdDevice
    address }

/-- A message about a device that is left out. -/
def skipped (candidate : Candidate) (reason : String) : Procedure Unit :=
  Procedure.note .debug
    ("Skipping " ++ Numeral.hexPadded 4 candidate.vendorId.toNat ++ ":"
      ++ Numeral.hexPadded 4 candidate.productId.toNat ++ ": " ++ reason)

/-- The ports of the remaining candidates behind those found so far. -/
def listFrom (locator : Locator) (context : Option Nat) (found : List PortInfo) :
    List Candidate → Procedure (List PortInfo)
  | [] => return found
  | candidate :: rest =>
    if candidate.vendorId ≠ locator.vendorId then listFrom locator context found rest
    else do
      match ← Procedure.ask (.openDevice context candidate.device) with
      | .error status =>
        skipped candidate ("cannot open (" ++ status.text ++ ")")
        listFrom locator context found rest
      | .ok handle =>
        match nextIndex? found candidate.productId with
        | none =>
          skipped candidate "index space exhausted"
          Procedure.ask (.closeHandle handle)
          listFrom locator context found rest
        | some index =>
          let port ← describe candidate handle index
          Procedure.ask (.closeHandle handle)
          listFrom locator context (found ++ [port]) rest

/-- The ports that can be opened, in discovery order. -/
def list (locator : Locator) : Procedure (Except Error (List PortInfo)) := do
  match ← locator.source.enumerate with
  | .error error => return .error error
  | .ok discovery =>
    let ports ← listFrom locator discovery.context [] discovery.candidates
    discovery.forget
    Procedure.note .debug ("Found " ++ Numeral.decimal ports.length ++ " BLP ports")
    return .ok ports

/-- The candidate that an address names among those enumerated. -/
def pick? (address : Address) (candidates : List Candidate) : Option Candidate :=
  (candidates.filter fun candidate =>
    address.covers candidate.vendorId candidate.productId)[address.index.toNat]?

/-- The device that an address names, with the context in which it was found. -/
def resolve (locator : Locator) (address : Address) :
    Procedure (Except Error (Discovery × Candidate)) := do
  if address.vendorId ≠ locator.vendorId then
    return .error (.unsupportedVendor address.vendorId)
  else
    match ← locator.source.enumerate with
    | .error error => return .error error
    | .ok discovery =>
      match pick? address discovery.candidates with
      | some candidate => return .ok (discovery, candidate)
      | none =>
        discovery.forget
        return .error (.deviceNotFound address.text)

end Locator

end CdcSerial
