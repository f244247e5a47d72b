import CdcSerial.Profile

/-!
# Settings

How a connection talks to its device: the interface and endpoints, the timeouts of the transfers,
and how long closing waits for a read to stop.
-/

namespace CdcSerial

/-- The settings of a connection. The defaults are those of the device family. -/
structure Settings where
  interface : UInt8 := Profile.dataInterface
  endpointIn : UInt8 := Profile.endpointIn
  endpointOut : UInt8 := Profile.endpointOut
  pollTimeout : Duration := Profile.pollTimeout
  writeTimeout : Duration := .zero
  controlTimeout : Duration := .zero
  closeDeadline : Option Duration := none
  detachKernelDriver : Bool := true
deriving DecidableEq, Inhabited

namespace Settings

/--
How long closing waits for a read to stop: the given deadline, or twice the poll timeout. The double
is taken in either case, so that settings whose double is out of range have no deadline at all.
-/
def effectiveDeadline? (settings : Settings) : Option Duration :=
  settings.pollTimeout.double?.map fun double => settings.closeDeadline.getD double

end Settings

end CdcSerial
