import CdcSerial.Bench.Trial

/-!
# Command-line programs

A program uses one connection over a bench. It prints, makes calls that may fail, sleeps, and may
leave a reader in the background that copies what the port receives to the output. An error that
nobody handles ends it. What a program leaves behind is a report.

The connection goes with the program, and an open port is closed by that, before the error is
printed. But as long as the reader still reads, it holds on to the connection, and then nobody
closes the port.
-/

namespace CdcSerial

namespace Tool

/-- What a program has at hand. -/
structure Console where
  trial : Trial
  output : List UInt8 := []
  errors : String := ""
  /-- The errand of the reader in the background, while it reads. -/
  reader : Option Nat := none

/-- What is left of a program. -/
structure Report where
  status : UInt32
  output : List UInt8
  errors : String
  events : List Bench.Event

/-- A program that may end with an error. -/
abbrev Program (Value : Type) : Type := ExceptT Error (StateM Console) Value

/-- Print bytes. -/
def printBytes (bytes : List UInt8) : Program Unit :=
  modify fun console => { console with output := console.output ++ bytes }

/-- Print a text. -/
def print (text : String) : Program Unit := printBytes text.toUTF8.toList

/-- Print a text and end the line. -/
def printLine (text : String) : Program Unit := print (text ++ "\n")

/-- Wait for some time. -/
def sleep (duration : Duration) : Program Unit :=
  modify fun console =>
    { console with
      trial := { console.trial with bench := console.trial.bench.note (.sleep duration) } }

/-- Make a call on the connection. -/
def call (call : Call) : Program Trial.Reply := do
  let console ← get
  let (trial, reply) := console.trial.step (.call call)
  set { console with trial }
  match reply with
  | .failed error _ => throw error
  | reply => return reply

/-- The ports that are there. -/
def list : Program (List PortInfo) := do
  match ← call .list with
  | .ports found => return found
  | _ => return []

/-- What is printed if there is no port. -/
def noDevice : String := "No BLP device found"

/--
The console at the end of a program: the connection has gone, unless the reader still holds it.
-/
def Console.leave (console : Console) : Console :=
  if console.reader.isSome then console
  else { console with trial := console.trial.dropConnection }

/-- The report of a program over a bench. -/
def Program.report (program : Program Unit) (bench : Bench) : Report :=
  let (result, console) := program.run.run ⟨Trial.start bench {}, [], "", none⟩
  let console := console.leave
  let events := console.trial.bench.log
  match result with
  | .ok () => ⟨0, console.output, console.errors, events⟩
  | .error error =>
    ⟨1, console.output, console.errors ++ "Error: " ++ error.message ++ "\n", events⟩

end Tool

end CdcSerial
