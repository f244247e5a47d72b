import CdcSerial.Tool.LineControl
import CdcSerial.Tool.ListPorts
import CdcSerial.Tool.Terminal

/-!
# Command line

The three programs under one command. No USB system can be reached from here, so that the programs
find a bus without devices.
-/

namespace CdcSerial

namespace Tool

/-- The program of a command line with its input. -/
def program? (arguments : List String) (input : List UInt8) : Option (Program Unit) :=
  match arguments with
  | "list-ports" :: _ => some listPorts
  | "line-control" :: _ => some lineControl
  | "terminal" :: rest => some (terminal rest input)
  | _ => none

/-- How the command is used. -/
def usage : String :=
  "usage: list-ports | line-control | terminal [usb:16c0:<pid>:<index>] [baud]\n"

/-- The report of a command line. -/
def Report.ofArguments (arguments : List String) (input : List UInt8) : Report :=
  match program? arguments input with
  | some program => program.report { style := .contexts }
  | none => ⟨2, [], usage, []⟩

/-- All that can be read from a stream, behind what was read before. -/
partial def readAll (stream : IO.FS.Stream) (before : ByteArray) : IO ByteArray := do
  let bytes ← stream.read 4096
  if bytes.isEmpty then return before else readAll stream (before ++ bytes)

end Tool

end CdcSerial

/-- Run the program that the arguments name. -/
def main (arguments : List String) : IO UInt32 := do
  let input ← match arguments with
    | "terminal" :: _ => CdcSerial.Tool.readAll (← IO.getStdin) .empty
    | _ => pure .empty
  let report := CdcSerial.Tool.Report.ofArguments arguments input.toList
  let stdout ← IO.getStdout
  stdout.write ⟨report.output.toArray⟩
  stdout.flush
  IO.eprint report.errors
  return report.status
