import CdcSerial.Bench.Device
import CdcSerial.Usb.Contexts

/-!
# The bench

A bench answers requests from the scripts of its devices. It comes in three styles. In the first,
the bus enumerates in one call and handles can do everything. In the second, handles know nothing of
kernel drivers. In the third, devices are found through contexts; a context ends with the last thing
that was found or opened in it, an interface that is still claimed when its handle is closed is
released once more, an endpoint must fit the direction of its transfer, and timeouts are whole
milliseconds in thirty-two bits.

Each kind of call has a gate. A call at a closed gate waits in front of it, before its result is
looked up. A bulk transfer that meets a hold waits until it is ended from outside.
-/

namespace CdcSerial

/-- How a bench is built. -/
inductive Bench.Style where
  | scripted
  | plain
  | contexts
deriving DecidableEq

namespace Bench

/-- Whether a bulk transfer of a handle is held. -/
inductive Hold where
  | none
  | held
  | ended (poll : Poll)
deriving DecidableEq

/-- A handle that was given out. -/
structure OpenHandle where
  device : Nat
  context : Option Nat
  claimed : List UInt8 := []
  isOpen : Bool := true
  hold : Hold := .none
deriving DecidableEq

end Bench

/-- A bench with its devices, which are numbered in the order in which they were made. -/
structure Bench where
  style : Bench.Style := .scripted
  devices : Array Bench.Device := #[]
  /-- The numbers of the attached devices in the order in which they are found. -/
  order : List Nat := []
  /-- The script of the calls that belong to no device. -/
  script : Bench.Script := {}
  closedGates : List Bench.Point := []
  handles : List Bench.OpenHandle := []
  /-- For each context, whether the devices found in it are still in use. -/
  contexts : List Bool := []
  /-- Whether somebody enumerates and keeps others from it. -/
  isSearched : Bool := false
  log : List Bench.Event := []
deriving DecidableEq, Inhabited

namespace Bench

/-- Note what a call did. -/
def note (bench : Bench) (event : Event) : Bench := { bench with log := bench.log ++ [event] }

/-- Change a device. -/
def changeDevice (bench : Bench) (device : Nat) (change : Device → Device) : Bench :=
  { bench with devices := bench.devices.modify device change }

/-- Change a handle. -/
def changeHandle (bench : Bench) (handle : Handle) (change : OpenHandle → OpenHandle) : Bench :=
  { bench with handles := bench.handles.modify handle.number change }

/-- The device of a handle. -/
def deviceOf (bench : Bench) (handle : Handle) : Nat :=
  (bench.handles[handle.number]?.map (·.device)).getD 0

/-- Take the next result for a kind of call that belongs to no device. -/
def takeShared (bench : Bench) (point : Point) : Result × Bench :=
  let (result, script) := bench.script.take point
  (result, { bench with script })

/-- Take the next result for a kind of call on a device. -/
def takeDevice (bench : Bench) (device : Nat) (point : Point) : Result × Bench :=
  match bench.devices[device]? with
  | some found =>
    let (result, script) := found.script.take point
    (result, bench.changeDevice device fun device => { device with script })
  | none => (.ok, bench)

/-- Attach devices at a place in the order, one after the other, or behind all others. -/
def attach (bench : Bench) (devices : List Device) (place : Option Nat) : Bench :=
  let numbers := List.range' bench.devices.size devices.length
  let place := place.getD bench.order.length
  { bench with
    devices := bench.devices.appendList devices
    order := bench.order.take place ++ numbers ++ bench.order.drop place }

/-- Take a device out of the order. Handles that are open keep working. -/
def detach (bench : Bench) (device : Nat) : Bench :=
  { bench with order := bench.order.filter (· ≠ device) }

/-- Close a gate. -/
def closeGate (bench : Bench) (point : Point) : Bench :=
  { bench with closedGates := point :: bench.closedGates.filter (· ≠ point) }

/-- Open a gate. -/
def openGate (bench : Bench) (point : Point) : Bench :=
  { bench with closedGates := bench.closedGates.filter (· ≠ point) }

/-- Whether a gate is closed. -/
def isClosed (bench : Bench) (point : Point) : Bool := bench.closedGates.contains point

/-- Whether this bench finds devices through contexts. -/
def usesContexts (bench : Bench) : Bool := decide (bench.style = .contexts)

/-- Whether this bench knows kernel drivers. -/
def knowsDrivers (bench : Bench) : Bool := decide (bench.style ≠ .plain)

/-- Whether an endpoint receives from the device. -/
def isInput (endpoint : UInt8) : Bool := decide (endpoint &&& 0x80 ≠ 0)

/-- Whether an endpoint fits the direction of a transfer, where this is looked at. -/
def fits (bench : Bench) (endpoint : UInt8) (input : Bool) : Bool :=
  !bench.usesContexts || isInput endpoint == input

/-- A timeout as it reaches the device. -/
def timeout (bench : Bench) (duration : Duration) : Duration :=
  if bench.usesContexts then .ofMilliseconds duration.millisecondWord else duration

/-- The interfaces that closing a handle releases. -/
def leftovers (bench : Bench) (handle : Handle) : List UInt8 :=
  if bench.usesContexts then (bench.handles[handle.number]?.map (·.claimed)).getD [] else []

/-- The gate that a request has to pass. -/
def gate? (bench : Bench) : Request → Option Point
  | .enumerate => some .enumerate
  | .createContext => some .createContext
  | .listDevices _ => some .listDevices
  | .openDevice _ _ => some .openDevice
  | .kernelDriverActive _ _ => if bench.knowsDrivers then some .kernelActive else none
  | .detachKernelDriver _ _ => if bench.knowsDrivers then some .detach else none
  | .claimInterface _ _ => some .claim
  | .releaseInterface _ _ => some .release
  | .control _ _ => some .control
  | .bulkOut _ endpoint _ _ => if bench.fits endpoint false then some .write else none
  | .closeHandle handle => if (bench.leftovers handle).isEmpty then none else some .release
  | _ => none

/-- Whether a request has to wait now. -/
def blocks (bench : Bench) (request : Request) : Bool :=
  (match bench.gate? request with
    | some point => bench.isClosed point
    | none => false)
  || (match request with
    | .lockDiscovery => bench.isSearched
    | _ => false)

/-- Whether a context still has an open handle or devices in use. -/
def isContextUsed (bench : Bench) (context : Nat) : Bool :=
  bench.contexts[context]? == some true
    || bench.handles.any fun handle => handle.isOpen && handle.context == some context

/-- End a context that is not used any more. -/
def endContext (bench : Bench) (context : Option Nat) : Bench :=
  match context with
  | some context => if bench.isContextUsed context then bench else bench.note .exitContext
  | none => bench

/-- Give out a handle. -/
def giveHandle (bench : Bench) (context : Option Nat) (device : Nat) : Handle × Bench :=
  (⟨bench.handles.length⟩,
    { bench with handles := bench.handles ++ [⟨device, context, [], true, .none⟩] })

/-- Release an interface, and remember that it is not claimed any more if that succeeds. -/
def release (bench : Bench) (handle : Handle) (interface : UInt8) : Result × Bench :=
  let device := bench.deviceOf handle
  let (result, bench) := bench.takeDevice device .release
  let bench := bench.note (.release device interface result)
  match result.status? with
  | some _ => (result, bench)
  | none =>
    (result, bench.changeHandle handle fun handle =>
      { handle with claimed := handle.claimed.filter (· ≠ interface) })

/-- Close a handle: release what is left, and end its context if it was the last thing there. -/
def closeHandle (bench : Bench) (handle : Handle) : Bench :=
  let released := (bench.leftovers handle).foldl
    (fun bench interface => (bench.release handle interface).2) bench
  let closed := (released.changeHandle handle ({ · with isOpen := false })).note
    (.close (bench.deviceOf handle))
  closed.endContext ((bench.handles[handle.number]?).bind (·.context))

/-- What a bulk transfer from the device gives that meets a poll. Nothing if it is held. -/
def meet (bench : Bench) (handle : Handle) (endpoint : UInt8) (size : Nat) (timeout : Duration)
    (poll : Poll) : Option BulkIn × Bench :=
  let device := bench.deviceOf handle
  let logged (result : Result) : Bench :=
    (bench.changeHandle handle ({ · with hold := .none })).note
      (.poll device endpoint size (bench.timeout timeout) result)
  match poll with
  | .data bytes =>
    if bytes.length ≤ size then (some (.received bytes), logged (.count bytes.length))
    else (some (.failed .overflow), logged (.failed .overflow))
  | .failed status => (some (.failed status), logged (.failed status))
  | .hold => (none, bench.changeHandle handle ({ · with hold := .held }))
  | .crash => (some .crashed, logged .crash)

/--
A bulk transfer from the device: it meets the next poll of the device, and with none there it times
out without leaving a trace.
-/
def bulkIn (bench : Bench) (handle : Handle) (endpoint : UInt8) (size : Nat)
    (timeout : Duration) : Option BulkIn × Bench :=
  if bench.fits endpoint true then
    let device := bench.deviceOf handle
    match (bench.handles[handle.number]?.map (·.hold)).getD .none with
    | .held => (none, bench)
    | .ended poll => bench.meet handle endpoint size timeout poll
    | .none =>
      match (bench.devices[device]?.map (·.polls)).getD [] with
      | [] => (some (.failed .timeout), bench)
      | poll :: rest =>
        (bench.changeDevice device ({ · with polls := rest })).meet handle endpoint size
          timeout poll
  else (some (.failed .invalidParameter), bench)

/-- Whether a bulk transfer on this handle would only time out now. -/
def isQuiet (bench : Bench) (handle : Handle) (endpoint : UInt8) : Bool :=
  bench.fits endpoint true
    && (bench.handles[handle.number]?.map (·.hold)).getD .none == .none
    && ((bench.devices[bench.deviceOf handle]?.map (·.polls)).getD []).isEmpty

/-- End the hold of a device's transfer with what it shall meet, if one is held. -/
def endHold? (bench : Bench) (device : Nat) (poll : Poll) : Option Bench := do
  let number ← bench.handles.findIdx? fun handle => handle.device == device && handle.hold == .held
  return bench.changeHandle ⟨number⟩ ({ · with hold := .ended poll })

/-- A bulk transfer to the device. -/
def bulkOut (bench : Bench) (handle : Handle) (endpoint : UInt8) (data : List UInt8)
    (timeout : Duration) : BulkOut × Bench :=
  if bench.fits endpoint false then
    let device := bench.deviceOf handle
    let (result, bench) := bench.takeDevice device .write
    let bench := bench.note (.write device endpoint data (bench.timeout timeout) result)
    match result with
    | .failed status => (.failed status, bench)
    | .crash => (.crashed, bench)
    | moved => (.accepted (moved.moved data.length), bench)
  else (.failed .invalidParameter, bench)

/-- A control transfer. -/
def control (bench : Bench) (handle : Handle) (transfer : ControlTransfer) :
    Except Status Nat × Bench :=
  let device := bench.deviceOf handle
  let (result, bench) := bench.takeDevice device .control
  let sent := { transfer with timeout := bench.timeout transfer.timeout }
  (result.toReply (result.moved transfer.data.length), bench.note (.control device sent result))

/--
Answer a request that does not have to wait; a bulk transfer from the device may still be held.
-/
def perform (bench : Bench) : (request : Request) → Option request.Reply × Bench
  | .enumerate =>
    let (result, bench) := bench.takeShared .enumerate
    let candidates := bench.order.filterMap fun number =>
      bench.devices[number]?.map (·.candidate number)
    (some (result.toReply candidates), bench.note (.enumerate result))
  | .lockDiscovery => (some (), { bench with isSearched := true })
  | .unlockDiscovery => (some (), { bench with isSearched := false })
  | .createContext =>
    let (result, bench) := bench.takeShared .createContext
    let bench := bench.note (.createContext result)
    match result.status? with
    | some status => (some (.error status), bench)
    | none =>
      (some (.ok bench.contexts.length), { bench with contexts := bench.contexts ++ [true] })
  | .listDevices _ =>
    let (result, bench) := bench.takeShared .listDevices
    let attached := bench.order.filterMap fun number =>
      bench.devices[number]?.map (·.attached number)
    (some (result.toReply attached), bench.note (.listDevices result))
  | .readDescriptor device =>
    let (result, bench) := bench.takeDevice device .readDescriptor
    let descriptor := ((bench.devices[device]?).getD {}).descriptor
    (some (result.toReply descriptor), bench.note (.readDescriptor device result))
  | .forget context =>
    (some (), ({ bench with contexts := bench.contexts.set context false }).endContext
      (some context))
  | .openDevice context device =>
    let (result, bench) := bench.takeDevice device .openDevice
    let bench := bench.note (.openDevice device result)
    match result.status? with
    | some status => (some (.error status), bench)
    | none =>
      let (handle, bench) := bench.giveHandle context device
      (some (.ok handle), bench)
  | .readString handle index =>
    let device := bench.deviceOf handle
    let limit := if bench.usesContexts then some 255 else none
    (some (((bench.devices[device]?).getD {}).readString limit index),
      bench.note (.readString device index))
  | .kernelDriverActive handle interface =>
    if bench.knowsDrivers then
      let device := bench.deviceOf handle
      let (result, bench) := bench.takeDevice device .kernelActive
      let active := ((bench.devices[device]?).getD {}).kernelDriver
      (some (result.toReply active), bench.note (.kernelActive device interface result))
    else (some (.ok false), bench)
  | .detachKernelDriver handle interface =>
    if bench.knowsDrivers then
      let device := bench.deviceOf handle
      let (result, bench) := bench.takeDevice device .detach
      let bench := bench.note (.detach device interface result)
      match result.status? with
      | some status => (some (.error status), bench)
      | none => (some (.ok ()), bench.changeDevice device ({ · with kernelDriver := false }))
    else (some (.ok ()), bench)
  | .claimInterface handle interface =>
    let device := bench.deviceOf handle
    let (result, bench) := bench.takeDevice device .claim
    let bench := bench.note (.claim device interface result)
    match result.status? with
    | some status => (some (.error status), bench)
    | none =>
      (some (.ok ()), bench.changeHandle handle fun handle =>
        { handle with claimed := handle.claimed ++ [interface] })
  | .releaseInterface handle interface =>
    let (result, bench) := bench.release handle interface
    (some (result.toReply ()), bench)
  | .control handle transfer =>
    let (reply, bench) := bench.control handle transfer
    (some reply, bench)
  | .bulkIn handle endpoint size timeout => bench.bulkIn handle endpoint size timeout
  | .bulkOut handle endpoint data timeout =>
    let (reply, bench) := bench.bulkOut handle endpoint data timeout
    (some reply, bench)
  | .closeHandle handle => (some (), bench.closeHandle handle)
  | .startWorker =>
    let (result, bench) := bench.takeShared .worker
    match result.status? with
    | some _ => (some (.error .noThread), bench)
    | none => (some (.ok ()), bench)

/-- Answer a request, unless it has to wait. -/
def serve (bench : Bench) (request : Request) : Option request.Reply × Bench :=
  if bench.blocks request then (none, bench) else bench.perform request

/-- Run a procedure until it ends or has to wait, collecting its messages. -/
def run {Result : Type} (bench : Bench) :
    Procedure Result → Option Result × List Message × Bench
  | .done result => (some result, [], bench)
  | .say message next =>
    let (result, messages, bench) := bench.run next
    (result, message :: messages, bench)
  | .call request next =>
    match bench.serve request with
    | (some reply, bench) => bench.run (next reply)
    | (none, bench) => (none, [], bench)

/-- The source of devices that goes with a style. -/
def Style.source : Style → Source
  | .contexts => .contexts
  | _ => .direct

end Bench

end CdcSerial
