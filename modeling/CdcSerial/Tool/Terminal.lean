import CdcSerial.Tool.Console

/-!
# A minimal terminal

A program that prints what a port receives and sends it the lines of its input. The port is the
first argument or else the first that is there; the baud rate is the second argument. The input
comes when the port has nothing more to say, and the program ends with it.
-/

namespace CdcSerial

namespace Tool

/-- The size of the buffer of the reader. -/
def readerBuffer : List UInt8 := List.replicate 64 0

/--
Let the reader go on after one of its reads, which ended with a reply, for so many further reads. It
prints the bytes that came and reads again. It ends with a read that brings nothing, because then
the port was closed, and with an error.
-/
def Console.hear : Nat → Trial.Reply → Console → Console
  | _, .blocked (some task), console => { console with reader := some task }
  | reads + 1, .stored (count + 1) buffer, console =>
    let (trial, reply) :=
      console.trial.step (.call (.read readerBuffer 0 readerBuffer.length))
    Console.hear reads reply
      { console with trial, output := console.output ++ buffer.take (count + 1) }
  | _, .failed .notOpen _, console => { console with reader := none }
  | _, .failed error _, console =>
    { console with
      errors := console.errors ++ "\nRead error: " ++ error.message ++ "\n"
      reader := none }
  | _, _, console => { console with reader := none }

/-- Leave a reader in the background. -/
def startReader : Program Unit :=
  modify fun console =>
    let (trial, reply) :=
      console.trial.step (.call (.read readerBuffer 0 readerBuffer.length))
    { console with trial }.hear console.trial.patience reply

/-- Let the reader go on if its read has ended. -/
def attendReader : Program Unit :=
  modify fun console =>
    match console.reader.bind fun task => console.trial.errands[task]? with
    | some { outcome := some reply, .. } => console.hear console.trial.patience reply
    | _ => console

/--
The lines of an input. A line ends with a line feed or with a carriage return and a line feed; the
last one may also end with the input.
-/
def inputLines : List UInt8 → List (List UInt8)
  | [] => []
  | 13 :: 10 :: rest => [] :: inputLines rest
  | 10 :: rest => [] :: inputLines rest
  | byte :: rest =>
    match inputLines rest with
    | [] => [[byte]]
    | line :: lines => (byte :: line) :: lines

/-- Send a line, with the end that a line has on the wire. -/
def sendLine (line : List UInt8) : Program Unit := do
  if (String.fromUTF8? ⟨line.toArray⟩).isNone then throw (.system .notText)
  let _ ← call (.write (line ++ [13, 10]))
  attendReader

/-- The options for a baud rate that is given as text, or the usual ones. -/
def terminalOptions (baud : Option String) : Except Error OpenOptions :=
  match baud with
  | none => .ok {}
  | some text =>
    match Numeral.read? 10 4294967295 text.toList with
    | some rate => .ok { baudRate := UInt32.ofNat rate }
    | none => .error (.invalidConfig (.baudRate text))

/-- Connect to a port, and go on until the input ends. -/
def converse (path : String) (baud : Option String) (input : List UInt8) : Program Unit := do
  let options ← liftExcept (terminalOptions baud)
  let _ ← call (.openWith path options)
  let _ ← call (.set { dtr := some true, rts := some true })
  printLine ("Connected to " ++ path ++ " at " ++ Numeral.decimal options.baudRate.toNat
    ++ " baud (Ctrl+D to quit)\n")
  startReader
  (inputLines input).forM sendLine
  let _ ← call .close
  attendReader
  printLine "\nDisconnected"

/-- Converse with the port of the arguments, or with the first that is there. -/
def terminal (arguments : List String) (input : List UInt8) : Program Unit :=
  match arguments with
  | path :: rest => converse path rest.head? input
  | [] => do
    match ← list with
    | [] => printLine noDevice
    | port :: _ => converse port.comName none input

end Tool

end CdcSerial
