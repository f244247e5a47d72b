/-!
# Class requests

The control requests that set up a serial line: the line coding, the state of the control lines,
and a break. All of them go from the host to an interface of the device.
-/

namespace CdcSerial

namespace ClassRequest

/-- Request type of a class request from the host to an interface. -/
def requestType : UInt8 := 0x21

/-- Code of the request that sets baud rate, stop bits, parity and data bits. -/
def setLineCoding : UInt8 := 0x20

/-- Code of the request that sets the control lines. -/
def setControlLineState : UInt8 := 0x22

/-- Code of the request that starts or ends a break. -/
def sendBreak : UInt8 := 0x23

/-- The name of a request code. -/
def name (code : UInt8) : String :=
  if code = setLineCoding then "SET_LINE_CODING"
  else if code = setControlLineState then "SET_CONTROL_LINE_STATE"
  else if code = sendBreak then "SEND_BREAK"
  else "UNKNOWN"

/-- The bit of the data terminal ready line in the control line state. -/
def dtrBit : UInt16 := 1

/-- The bit of the request to send line in the control line state. -/
def rtsBit : UInt16 := 2

/-- The break value that lasts until it is ended. -/
def breakOn : UInt16 := 0xFFFF

/-- The break value that ends a break. -/
def breakOff : UInt16 := 0

end ClassRequest

end CdcSerial
