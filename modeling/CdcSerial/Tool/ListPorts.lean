import CdcSerial.Tool.Console

/-!
# Listing the ports

A program that prints the ports that are there, first one after the other and then as JSON.
-/

namespace CdcSerial

namespace Tool

/-- Two lines about a port. -/
def portLines (port : PortInfo) : String :=
  "  " ++ port.text ++ "\n"
    ++ "    vid " ++ Numeral.hexPadded 4 port.vendorId.toNat
    ++ "  pid " ++ Numeral.hexPadded 4 port.productId.toNat
    ++ "  bcdDevice " ++ Numeral.hexPadded 4 port.bcdDevice.toNat ++ "\n"

/-- Print all ports. -/
def listPorts : Program Unit := do
  match ← list with
  | [] => printLine noDevice
  | ports =>
    printLine ("Found " ++ Numeral.decimal ports.length ++ " port(s):")
    print (String.join (ports.map portLines))
    printLine ("\n" ++ (Json.Value.array (ports.map (·.toJson))).toLines)

end Tool

end CdcSerial
