import CdcSerial.Error

/-!
# Requests to the bus

Everything that is asked of the USB system, with the type of the reply to each request. A request is
made at one moment and answered at a later one. Some replies say that the thread that made the
request crashed; only bulk transfers can do that.
-/

namespace CdcSerial

/-- An open device. Numbers are never given out twice. -/
structure Handle where
  number : Nat
deriving DecidableEq

/-- A device as enumeration finds it, before it is opened. -/
structure Candidate where
  device : Nat
  vendorId : UInt16
  productId : UInt16
  bcdDevice : UInt16
  manufacturerIndex : Option UInt8
  serialNumberIndex : Option UInt8
  productIndex : Option UInt8
deriving DecidableEq

/-- What one enumeration found, in discovery order, and the context that keeps it valid. -/
structure Discovery where
  context : Option Nat
  candidates : List Candidate
deriving DecidableEq

/-- A device in the list of a context. -/
structure Attached where
  device : Nat
  bus : UInt8
  address : UInt8
deriving DecidableEq

/-- A device descriptor. A string index of zero means that there is no such string. -/
structure Descriptor where
  vendorId : UInt16
  productId : UInt16
  bcdDevice : UInt16
  manufacturerIndex : UInt8
  serialNumberIndex : UInt8
  productIndex : UInt8
deriving DecidableEq

/-- A control transfer from the host. -/
structure ControlTransfer where
  requestType : UInt8
  request : UInt8
  value : UInt16
  index : UInt16
  data : List UInt8
  timeout : Duration
deriving DecidableEq

/-- How a bulk transfer from the device ends. -/
inductive BulkIn where
  | received (data : List UInt8)
  | failed (status : Status)
  | crashed
deriving DecidableEq

/-- How a bulk transfer to the device ends. -/
inductive BulkOut where
  | accepted (count : Nat)
  | failed (status : Status)
  | crashed
deriving DecidableEq

/-- A request to the bus. -/
inductive Request where
  /-- Find all devices, where the bus does this in one call. -/
  | enumerate
  /-- Wait until nobody else enumerates, and keep others from it. -/
  | lockDiscovery
  /-- Let others enumerate again. -/
  | unlockDiscovery
  /-- Make a context. -/
  | createContext
  /-- List the devices that a context sees. -/
  | listDevices (context : Nat)
  /-- Read the descriptor of a device. -/
  | readDescriptor (device : Nat)
  /-- Give up the devices that were found in a context. -/
  | forget (context : Nat)
  /-- Open a device that was found. -/
  | openDevice (context : Option Nat) (device : Nat)
  /-- Read a string of the device. -/
  | readString (handle : Handle) (index : UInt8)
  /-- Ask whether a kernel driver is bound to an interface. -/
  | kernelDriverActive (handle : Handle) (interface : UInt8)
  /-- Detach the kernel driver from an interface. -/
  | detachKernelDriver (handle : Handle) (interface : UInt8)
  /-- Claim an interface. -/
  | claimInterface (handle : Handle) (interface : UInt8)
  /-- Release an interface. -/
  | releaseInterface (handle : Handle) (interface : UInt8)
  /-- Make a control transfer. -/
  | control (handle : Handle) (transfer : ControlTransfer)
  /-- Receive up to `size` bytes. -/
  | bulkIn (handle : Handle) (endpoint : UInt8) (size : Nat) (timeout : Duration)
  /-- Send bytes. -/
  | bulkOut (handle : Handle) (endpoint : UInt8) (data : List UInt8) (timeout : Duration)
  /-- Close an open device. -/
  | closeHandle (handle : Handle)
  /-- Start a worker thread. -/
  | startWorker
deriving DecidableEq

/-- The type of the reply to a request. -/
@[reducible]
def Request.Reply : Request → Type
  | .enumerate => Except Status (List Candidate)
  | .lockDiscovery => Unit
  | .unlockDiscovery => Unit
  | .createContext => Except Status Nat
  | .listDevices _ => Except Status (List Attached)
  | .readDescriptor _ => Except Status Descriptor
  | .forget _ => Unit
  | .openDevice _ _ => Except Status Handle
  | .readString _ _ => Except Status String
  | .kernelDriverActive _ _ => Except Status Bool
  | .detachKernelDriver _ _ => Except Status Unit
  | .claimInterface _ _ => Except Status Unit
  | .releaseInterface _ _ => Except Status Unit
  | .control _ _ => Except Status Nat
  | .bulkIn _ _ _ _ => BulkIn
  | .bulkOut _ _ _ _ => BulkOut
  | .closeHandle _ => Unit
  | .startWorker => Except SystemError Unit

end CdcSerial
