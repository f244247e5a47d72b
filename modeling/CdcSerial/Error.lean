import CdcSerial.Double.Shortest
import CdcSerial.Duration
import CdcSerial.Line.Request
import CdcSerial.Usb.Status

/-!
# Errors

Everything that can go wrong with a port, as causes. The wording of a cause is in one place, and so
is what a cause means to a byte stream, which knows only a kind and a text.
-/

namespace CdcSerial

/-- Results are compared as their values or errors are. -/
instance instDecidableEqResult {Failure Value : Type} [DecidableEq Failure] [DecidableEq Value] :
    DecidableEq (Except Failure Value)
  | .ok left, .ok right => decidable_of_iff (left = right) ⟨congrArg _, Except.ok.inj⟩
  | .error left, .error right => decidable_of_iff (left = right) ⟨congrArg _, Except.error.inj⟩
  | .ok _, .error _ => isFalse (fun equal => nomatch equal)
  | .error _, .ok _ => isFalse (fun equal => nomatch equal)

/-- The direction of a bulk transfer, seen from the host. -/
inductive Direction where
  | input
  | output
deriving DecidableEq

/-- The wording of a direction. -/
def Direction.text : Direction → String
  | .input => "IN"
  | .output => "OUT"

/-- The kinds of failure that a system call or a byte stream knows. -/
inductive SystemError.Kind where
  | notFound
  | permissionDenied
  | connectionRefused
  | connectionReset
  | hostUnreachable
  | networkUnreachable
  | connectionAborted
  | notConnected
  | addrInUse
  | addrNotAvailable
  | networkDown
  | brokenPipe
  | alreadyExists
  | wouldBlock
  | notADirectory
  | isADirectory
  | directoryNotEmpty
  | readOnlyFilesystem
  | staleNetworkFileHandle
  | invalidInput
  | invalidData
  | timedOut
  | writeZero
  | storageFull
  | notSeekable
  | quotaExceeded
  | fileTooLarge
  | resourceBusy
  | executableFileBusy
  | deadlock
  | tooManyLinks
  | argumentListTooLong
  | interrupted
  | unsupported
  | unexpectedEof
  | outOfMemory
  | other
deriving DecidableEq

/-- A failure of the system or of a byte stream. -/
structure SystemError where
  kind : SystemError.Kind
  text : String
deriving DecidableEq

namespace SystemError

/-- The system has no room for another thread. -/
def noThread : SystemError := ⟨.wouldBlock, "Resource temporarily unavailable (os error 11)"⟩

/-- A line of input is no text. -/
def notText : SystemError := ⟨.invalidData, "stream did not contain valid UTF-8"⟩

/-- A stream took none of the bytes that were left. -/
def writeZero : SystemError := ⟨.writeZero, "failed to write whole buffer"⟩

/-- A stream ended before the buffer was full. -/
def unexpectedEnd : SystemError := ⟨.unexpectedEof, "failed to fill whole buffer"⟩

end SystemError

/-- Why a requested line configuration is none. -/
inductive ConfigFault where
  | dataBits (value : UInt8)
  | stopBits (value : Double)
  | parity (name : String)
  | payload (length : Nat)
  | baudRate (text : String)
  | described (text : String)
deriving DecidableEq

/-- The wording of a fault. -/
def ConfigFault.text : ConfigFault → String
  | .dataBits value => "dataBits is invalid: " ++ Numeral.decimal value.toNat
  | .stopBits value => "stopBits is invalid: " ++ value.text
  | .parity name => "parity is invalid: " ++ name
  | .payload length =>
    "line coding payload is " ++ Numeral.decimal length ++ " bytes, expected 7"
  | .baudRate text => "bad baud rate: " ++ text
  | .described text => text

/-- The causes for which an operation on a port fails. -/
inductive Error where
  | usb (status : Status)
  | system (cause : SystemError)
  | unsupportedVendor (vendorId : UInt16)
  | deviceNotFound (address : String)
  | invalidAddress (text : String)
  | invalidConfig (fault : ConfigFault)
  | invalidRange (offset length bufferLength : Nat)
  | alreadyOpen
  | notOpen
  | openFailed (status : Status)
  | claimFailed (status : Status)
  | releaseFailed (status : Status)
  | detachFailed (status : Status)
  | controlFailed (request : UInt8) (status : Status)
  | transferFailed (direction : Direction) (status : Status)
  | readInProgress
  | cancelTimeout (waited : Duration)
  | workerLost
deriving DecidableEq

namespace Error

/-- The wording of an error. -/
def message : Error → String
  | .usb status => "USB error: " ++ status.text
  | .system cause => "I/O error: " ++ cause.text
  | .unsupportedVendor vendorId =>
    "Unsupported vendor 0x" ++ Numeral.hexPadded 4 vendorId.toNat
      ++ ": only BLP devices are supported"
  | .deviceNotFound address => "Device not found: " ++ address
  | .invalidAddress text =>
    "Invalid device address '" ++ text ++ "': expected usb:<vid>:<pid>:<index>"
  | .invalidConfig fault => "Invalid port configuration: " ++ fault.text
  | .invalidRange offset length bufferLength =>
    "Read of " ++ Numeral.decimal length ++ " bytes at offset " ++ Numeral.decimal offset
      ++ " exceeds buffer of " ++ Numeral.decimal bufferLength ++ " bytes"
  | .alreadyOpen => "Port is already open"
  | .notOpen => "Port is not open"
  | .openFailed status => "Failed to open USB device: " ++ status.text
  | .claimFailed status => "Failed to claim USB interface: " ++ status.text
  | .releaseFailed status => "Failed to release USB interface: " ++ status.text
  | .detachFailed status => "Failed to detach kernel driver: " ++ status.text
  | .controlFailed request status =>
    "Control transfer " ++ ClassRequest.name request ++ " (0x"
      ++ Numeral.hexPadded 2 request.toNat ++ ") failed: " ++ status.text
  | .transferFailed direction status =>
    "Bulk " ++ direction.text ++ " transfer failed: " ++ status.text
  | .readInProgress => "A read is already in progress"
  | .cancelTimeout waited => "Read worker did not stop within " ++ waited.text
  | .workerLost => "Transfer worker exited without a result"

/-- The USB status that an error carries. -/
def status? : Error → Option Status
  | .usb status => some status
  | .openFailed status => some status
  | .claimFailed status => some status
  | .releaseFailed status => some status
  | .detachFailed status => some status
  | .controlFailed _ status => some status
  | .transferFailed _ status => some status
  | _ => none

/-- Whether an error comes from a USB call. -/
def isUsb (error : Error) : Bool := error.status?.isSome

/-- Whether an error means that time ran out. -/
def isTimeout : Error → Bool
  | .cancelTimeout _ => true
  | .usb .timeout => true
  | .transferFailed _ .timeout => true
  | .controlFailed _ .timeout => true
  | _ => false

/-- The text of the failure beneath an error, where it has one of its own. -/
def cause? : Error → Option String
  | .usb status => some status.text
  | .system cause => some cause.text
  | _ => none

/-- The kind of failure that a byte stream reports for an error. -/
def streamKind (error : Error) : SystemError.Kind :=
  match error with
  | .system cause => cause.kind
  | .notOpen => .notConnected
  | .invalidRange _ _ _ => .invalidInput
  | .invalidAddress _ => .invalidInput
  | .invalidConfig _ => .invalidInput
  | .deviceNotFound _ => .notFound
  | .readInProgress => .wouldBlock
  | _ => if error.isTimeout then .timedOut else .other

/-- The failure that a byte stream reports for an error. -/
def toSystemError (error : Error) : SystemError := ⟨error.streamKind, error.message⟩

end Error

end CdcSerial
