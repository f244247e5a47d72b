/-!
# USB status

Why a USB call failed. Every failing call has exactly one of these causes, with one fixed text.
-/

namespace CdcSerial

/-- The cause of a failed USB call. -/
inductive Status where
  | inputOutput
  | invalidParameter
  | access
  | noDevice
  | notFound
  | busy
  | timeout
  | overflow
  | pipe
  | interrupted
  | noMemory
  | notSupported
  | badDescriptor
  | other
deriving DecidableEq

namespace Status

/-- The wording of a status. -/
def text : Status → String
  | .inputOutput => "Input/Output Error"
  | .invalidParameter => "Invalid parameter"
  | .access => "Access denied (insufficient permissions)"
  | .noDevice => "No such device (it may have been disconnected)"
  | .notFound => "Entity not found"
  | .busy => "Resource busy"
  | .timeout => "Operation timed out"
  | .overflow => "Overflow"
  | .pipe => "Pipe error"
  | .interrupted => "System call interrupted (perhaps due to signal)"
  | .noMemory => "Insufficient memory"
  | .notSupported => "Operation not supported or unimplemented on this platform"
  | .badDescriptor => "Malformed descriptor"
  | .other => "Other error"

end Status

end CdcSerial
