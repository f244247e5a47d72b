import CdcSerial.Duration

/-!
# The device family

What all supported devices share: their vendor, the interface that carries the data with its two
bulk endpoints, and the size of a packet.
-/

namespace CdcSerial

namespace Profile

/-- Only devices of this vendor are listed or opened. -/
def vendorId : UInt16 := 0x16C0

/-- The interface that is claimed while a port is open. -/
def dataInterface : UInt8 := 1

/-- The bulk endpoint from the device. -/
def endpointIn : UInt8 := 0x81

/-- The bulk endpoint to the device. -/
def endpointOut : UInt8 := 0x01

/-- How many bytes one bulk transfer from the device asks for. -/
def packetSize : Nat := 64

/-- How long one bulk transfer from the device waits. -/
def pollTimeout : Duration := Duration.ofMilliseconds 200

end Profile

end CdcSerial
