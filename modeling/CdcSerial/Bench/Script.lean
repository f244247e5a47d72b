import CdcSerial.Usb.Request

/-!
# Scripts

A bench stands in for the USB system. What its calls return is written down beforehand: each result
is meant for one kind of call, and calls take their results in order. A call for which nothing is
written succeeds. What the calls did is kept as events.
-/

namespace CdcSerial

namespace Bench

/-- The kinds of calls whose results can be scripted. -/
inductive Point where
  | enumerate
  | createContext
  | listDevices
  | readDescriptor
  | openDevice
  | kernelActive
  | detach
  | claim
  | release
  | control
  | write
  | worker
deriving DecidableEq

/-- The result of a scripted call. A count is meant for calls that return one. -/
inductive Result where
  | ok
  | count (number : Nat)
  | failed (status : Status)
  | crash
deriving DecidableEq

namespace Result

/-- The status of a call that can only succeed or fail. -/
def status? : Result → Option Status
  | .failed status => some status
  | _ => none

/-- What a call gives that returns the value if it succeeds. -/
def toReply {Value : Type} (result : Result) (value : Value) : Except Status Value :=
  match result.status? with
  | some status => .error status
  | none => .ok value

/-- How many bytes a transfer of so many bytes moved. -/
def moved (result : Result) (length : Nat) : Nat :=
  match result with
  | .count number => number
  | _ => length

end Result

/-- Results that are still to come, each for one kind of call. -/
structure Script where
  entries : List (Point × Result) := []
deriving DecidableEq, Inhabited

namespace Script

/-- Add results for a kind of call behind those already there. -/
def append (script : Script) (point : Point) (results : List Result) : Script :=
  ⟨script.entries ++ results.map (point, ·)⟩

/-- The next result for a kind of call, and the script without it. -/
def take (script : Script) (point : Point) : Result × Script :=
  (((script.entries.find? (·.1 == point)).map (·.2)).getD .ok,
    ⟨script.entries.eraseP (·.1 == point)⟩)

end Script

/-- What a bulk transfer from a device meets. -/
inductive Poll where
  | data (bytes : List UInt8)
  | failed (status : Status)
  /-- It stays in progress until somebody ends it. -/
  | hold
  | crash
deriving DecidableEq

/-- What one call on the bench did. -/
inductive Event where
  | enumerate (result : Result)
  | createContext (result : Result)
  | listDevices (result : Result)
  | readDescriptor (device : Nat) (result : Result)
  | exitContext
  | openDevice (device : Nat) (result : Result)
  | readString (device : Nat) (index : UInt8)
  | kernelActive (device : Nat) (interface : UInt8) (result : Result)
  | detach (device : Nat) (interface : UInt8) (result : Result)
  | claim (device : Nat) (interface : UInt8) (result : Result)
  | release (device : Nat) (interface : UInt8) (result : Result)
  | control (device : Nat) (transfer : ControlTransfer) (result : Result)
  | write (device : Nat) (endpoint : UInt8) (data : List UInt8) (timeout : Duration)
      (result : Result)
  | poll (device : Nat) (endpoint : UInt8) (size : Nat) (timeout : Duration) (result : Result)
  | close (device : Nat)
  | sleep (duration : Duration)
deriving DecidableEq

end Bench

end CdcSerial
