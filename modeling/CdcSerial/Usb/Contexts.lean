import CdcSerial.Usb.Procedure
import CdcSerial.Usb.Version

/-!
# Enumeration through contexts

Here each enumeration makes a context of its own, lists the devices in it and reads their
descriptors one by one. Only one enumeration runs at a time. A device whose descriptor cannot be
read is left out.
-/

namespace CdcSerial

/-- The candidate that a descriptor describes. The release number takes the way over its parts. -/
def Candidate.ofDescriptor (device : Nat) (descriptor : Descriptor) : Candidate where
  device := device
  vendorId := descriptor.vendorId
  productId := descriptor.productId
  bcdDevice := (Version.ofBcd descriptor.bcdDevice).toBcd
  manufacturerIndex := (some descriptor.manufacturerIndex).filter (· ≠ 0)
  serialNumberIndex := (some descriptor.serialNumberIndex).filter (· ≠ 0)
  productIndex := (some descriptor.productIndex).filter (· ≠ 0)

namespace Source

/-- The candidates of listed devices, without those whose descriptor cannot be read. -/
def describe : List Attached → Procedure (List Candidate)
  | [] => return []
  | attached :: rest => do
    match ← Procedure.ask (.readDescriptor attached.device) with
    | .ok descriptor =>
      let candidates ← describe rest
      return .ofDescriptor attached.device descriptor :: candidates
    | .error status =>
      Procedure.note .trace
        ("Skipping bus " ++ Numeral.decimal attached.bus.toNat ++ " addr "
          ++ Numeral.decimal attached.address.toNat ++ ": no device descriptor ("
          ++ status.text ++ ")")
      describe rest

/--
The devices that a new context sees. A context in which nothing was found is given up at once.
-/
def discover : Procedure (Except Error Discovery) := do
  match ← Procedure.ask .createContext with
  | .error status => return .error (.usb status)
  | .ok context =>
    match ← Procedure.ask (.listDevices context) with
    | .error status =>
      Procedure.ask (.forget context)
      return .error (.usb status)
    | .ok devices =>
      let candidates ← describe devices
      Procedure.note .debug
        ("Enumerated " ++ Numeral.decimal candidates.length ++ " USB devices")
      if candidates.isEmpty then
        Procedure.ask (.forget context)
        return .ok ⟨none, []⟩
      else
        return .ok ⟨some context, candidates⟩

/-- The source that enumerates through contexts, one enumeration at a time. -/
def contexts : Source where
  enumerate := do
    Procedure.ask .lockDiscovery
    let outcome ← discover
    Procedure.ask .unlockDiscovery
    return outcome

end Source

end CdcSerial
