import CdcSerial.Text.Hex
import CdcSerial.Tool.Console

/-!
# Trying out the control of a line

A program that opens the first port and walks it through several framings, all four combinations of
the two signals, and a short break.
-/

namespace CdcSerial

namespace Tool

/-- The framings that are tried. -/
def framings : List LineConfig :=
  [ { baudRate := 115200 },
    { baudRate := 57600, parity := .even },
    { baudRate := 19200, dataBits := 7, parity := .odd, stopBits := .two },
    { baudRate := 9600 } ]

/-- The combinations of the signals DTR and RTS that are tried. -/
def signals : List (Bool × Bool) := [(true, false), (false, true), (true, true), (false, false)]

/-- The text of a signal. -/
def level (signal : Bool) : String := if signal then "1" else "0"

/-- Set a framing. -/
def tryFraming (config : LineConfig) : Program Unit := do
  let _ ← call (.setLineConfig config)
  printLine ("Line coding  " ++ config.text ++ "  " ++ Hex.listing config.pack)

/-- Set the signals and look at them for a tenth of a second. -/
def trySignals (dtr rts : Bool) : Program Unit := do
  let _ ← call (.set { dtr := some dtr, rts := some rts })
  printLine ("DTR=" ++ level dtr ++ " RTS=" ++ level rts)
  sleep (.ofMilliseconds 100)

/-- Hold a break for a quarter of a second. -/
def tryBreak : Program Unit := do
  let _ ← call (.set { brk := some true })
  printLine "Break on"
  sleep (.ofMilliseconds 250)
  let _ ← call (.set { brk := some false })
  printLine "Break off"

/-- Walk the first port through all settings. -/
def lineControl : Program Unit := do
  match ← list with
  | [] => printLine noDevice
  | port :: _ =>
    printLine ("Using " ++ port.text)
    let config : LineConfig := {}
    let _ ← call (.openPort port.address config)
    printLine ("Opened at " ++ config.text)
    framings.forM tryFraming
    signals.forM fun (dtr, rts) => trySignals dtr rts
    tryBreak
    let _ ← call .close
    printLine "Closed"

end Tool

end CdcSerial
