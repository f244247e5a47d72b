import CdcSerial.Line.Control
import CdcSerial.Locator
import CdcSerial.Settings

/-!
# Reaching and leaving a device

Opening a port finds the device, opens it, detaches a kernel driver where asked, claims the
interface, sends the line coding and starts the writer. If a step fails, everything before it is
undone: an interface that was claimed is released once, and an open handle is closed. Leaving a
device releases the interface and closes the handle, whether or not the release succeeds.
-/

namespace CdcSerial

namespace Connection

/-- Release an interface where a failure cannot be reported any more. -/
def releaseQuietly (handle : Handle) (interface : UInt8) : Procedure Unit := do
  match ← Procedure.ask (.releaseInterface handle interface) with
  | .ok () => return ()
  | .error status =>
    Procedure.note .warn
      ("Failed to release interface " ++ Numeral.decimal interface.toNat ++ ": " ++ status.text)

/--
Detach an active kernel driver, if that is wanted. A driver that cannot be asked for counts as none.
-/
def detachDriver (settings : Settings) (handle : Handle) : Procedure (Except Error Unit) := do
  if settings.detachKernelDriver then
    match ← Procedure.ask (.kernelDriverActive handle settings.interface) with
    | .ok true =>
      Procedure.note .debug
        ("Detaching kernel driver from interface " ++ Numeral.decimal settings.interface.toNat)
      match ← Procedure.ask (.detachKernelDriver handle settings.interface) with
      | .ok () => return .ok ()
      | .error status => return .error (.detachFailed status)
    | _ => return .ok ()
  else return .ok ()

/-- Send the line coding and start the writer on a claimed interface, or release it again. -/
def configure (settings : Settings) (config : LineConfig) (handle : Handle) :
    Procedure (Except Error Unit) := do
  match ← LineCommand.sendAll handle settings.controlTimeout [.coding config] with
  | .error error =>
    releaseQuietly handle settings.interface
    return .error error
  | .ok () =>
    match ← Procedure.ask .startWorker with
    | .ok () => return .ok ()
    | .error cause =>
      releaseQuietly handle settings.interface
      return .error (.system cause)

/-- Make an open device ready for transfers. -/
def prepare (settings : Settings) (config : LineConfig) (handle : Handle) :
    Procedure (Except Error Unit) := do
  match ← detachDriver settings handle with
  | .error error => return .error error
  | .ok () =>
    match ← Procedure.ask (.claimInterface handle settings.interface) with
    | .error status => return .error (.claimFailed status)
    | .ok () => configure settings config handle

/-- Open a candidate and make it ready. The handle is closed again if that fails. -/
def attach (settings : Settings) (config : LineConfig) (context : Option Nat)
    (candidate : Candidate) : Procedure (Except Error Handle) := do
  match ← Procedure.ask (.openDevice context candidate.device) with
  | .error status => return .error (.openFailed status)
  | .ok handle =>
    match ← prepare settings config handle with
    | .ok () => return .ok handle
    | .error error =>
      Procedure.ask (.closeHandle handle)
      return .error error

/-- Find the device of an address and make it ready. -/
def establish (locator : Locator) (settings : Settings) (address : Address)
    (config : LineConfig) : Procedure (Except Error Handle) := do
  match ← locator.resolve address with
  | .error error => return .error error
  | .ok (discovery, candidate) =>
    let outcome ← attach settings config discovery.context candidate
    discovery.forget
    return outcome

/-- Release the interface and close the handle. -/
def leave (settings : Settings) (handle : Handle) : Procedure (Except Error Unit) := do
  let released ← Procedure.ask (.releaseInterface handle settings.interface)
  Procedure.ask (.closeHandle handle)
  match released with
  | .ok () => return .ok ()
  | .error status => return .error (.releaseFailed status)

end Connection

end CdcSerial
