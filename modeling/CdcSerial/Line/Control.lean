import CdcSerial.Line.Options
import CdcSerial.Usb.Procedure

/-!
# Line control

Commands for the serial line of an open device. Each command is one control transfer. A partial
update is a plan: break first, then the data terminal ready line, then the request to send line,
each only if it is supplied. A plan is sent command by command and ends with the first that fails.
Calls for the line are made one after the other, and a call that fails does not keep the next from
being made.
-/

namespace CdcSerial

/-- One command for the line. -/
inductive LineCommand where
  | coding (config : LineConfig)
  | dtr (assert : Bool)
  | rts (assert : Bool)
  | brk (assert : Bool)
deriving DecidableEq

namespace LineCommand

/-- The request code of a command. -/
def code : LineCommand → UInt8
  | .coding _ => ClassRequest.setLineCoding
  | .dtr _ => ClassRequest.setControlLineState
  | .rts _ => ClassRequest.setControlLineState
  | .brk _ => ClassRequest.sendBreak

/--
The value of a command. A control line command carries only the bit of its own line, since the state
of the other line is not known.
-/
def value : LineCommand → UInt16
  | .coding _ => 0
  | .dtr assert => if assert then ClassRequest.dtrBit else 0
  | .rts assert => if assert then ClassRequest.rtsBit else 0
  | .brk assert => if assert then ClassRequest.breakOn else ClassRequest.breakOff

/-- The data of a command. -/
def data : LineCommand → List UInt8
  | .coding config => config.pack
  | _ => []

/-- The control transfer of a command. -/
def transfer (command : LineCommand) (timeout : Duration) : ControlTransfer where
  requestType := ClassRequest.requestType
  request := command.code
  value := command.value
  index := 0
  data := command.data
  timeout := timeout

/-- What the journal tells before a command is sent. -/
def announcement : LineCommand → String
  | .coding config => "SET_LINE_CODING " ++ config.text
  | .dtr assert => "SET_CONTROL_LINE_STATE dtr=" ++ (if assert then "true" else "false")
  | .rts assert => "SET_CONTROL_LINE_STATE rts=" ++ (if assert then "true" else "false")
  | .brk assert => "SEND_BREAK " ++ (if assert then "on" else "off")

/-- Send commands in order, up to the first that fails. -/
def sendAll (handle : Handle) (timeout : Duration) :
    List LineCommand → Procedure (Except Error Unit)
  | [] => return .ok ()
  | command :: rest => do
    Procedure.note .debug command.announcement
    match ← Procedure.ask (.control handle (command.transfer timeout)) with
    | .ok _ => sendAll handle timeout rest
    | .error status => return .error (.controlFailed command.code status)

end LineCommand

/-- The commands for control lines, each only if it is supplied. -/
def LineCommand.lineState (dtr rts : Option Bool) : List LineCommand :=
  (dtr.map LineCommand.dtr).toList ++ (rts.map LineCommand.rts).toList

/-- The commands of a partial update, in the order in which they are sent. -/
def SetOptions.plan (options : SetOptions) : List LineCommand :=
  (options.brk.map LineCommand.brk).toList ++ LineCommand.lineState options.dtr options.rts

/-- A call for the line. -/
inductive LineCall where
  | coding (config : LineConfig)
  | state (dtr rts : Option Bool)
  | brk (assert : Bool)
  | update (options : SetOptions)

namespace LineCall

/-- The commands of a call. -/
def commands : LineCall → List LineCommand
  | .coding config => [.coding config]
  | .state dtr rts => LineCommand.lineState dtr rts
  | .brk assert => [.brk assert]
  | .update options => options.plan

/-- Make calls one after the other, whatever comes of them. -/
def sendEach (handle : Handle) (timeout : Duration) :
    List LineCall → Procedure (List (Except Error Unit))
  | [] => return []
  | first :: rest => do
    let result ← LineCommand.sendAll handle timeout first.commands
    let results ← sendEach handle timeout rest
    return result :: results

end LineCall

end CdcSerial
