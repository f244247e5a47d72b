import CdcSerial.Line.Control
import CdcSerial.Locator
import CdcSerial.Settings

/-!
# The state of a connection

A connection owns at most one open port. Any number of callers use it at the same time, each read
that has to poll has a worker, and each open port has a worker for its writes. The state holds
everything that these threads share, and for each thread the point it has reached. Between two
points a thread does one thing that no other thread can interrupt: it changes what is shared under a
lock, or it makes a request to the bus, or it takes the reply.

Sessions, reads, writes and calls are numbered in the order in which they begin and are never
removed.
-/

namespace CdcSerial

/-- The life of a port: the only way round is closed, opening, opened, closing, closed. -/
inductive Lifecycle where
  | closed
  | opening
  | opened
  | closing
deriving DecidableEq, Inhabited

/-- What a connection holds while its port is open. -/
structure Link where
  session : Nat
  reader : Option Nat
  address : Address
  line : LineConfig
deriving DecidableEq

/-- Where the worker of a session's writes stands. -/
inductive WriterStage where
  /-- It waits for a write or for the end of the session. -/
  | waiting
  /-- A bulk transfer with the data of a write is in progress. -/
  | writing (write : Nat)
  /-- The transfer crashed, and the queue is still there. -/
  | unwinding
  /-- It is about to give up its clone of the handle. -/
  | leaving
  /-- Its clone was the last, and the handle is being closed. -/
  | closing
  | ended
deriving DecidableEq

/-- What belongs to one opening of a device and may outlive the link. -/
structure Session where
  handle : Handle
  /-- How many owners share the handle. -/
  clones : Nat
  /-- How many configuration calls hold a ticket. -/
  tickets : Nat
  /-- The call whose control transfer is in progress, if any. -/
  lane : Option Nat
  /-- The writes that were accepted and have not begun. -/
  queue : List Nat
  /-- Whether no more writes can come. -/
  hungUp : Bool
  writer : WriterStage
deriving DecidableEq

/-- What a reader of a read's state sees. -/
inductive ReadPhase where
  | idle
  | polling
  | completed
  | cancelled
  | failed
deriving DecidableEq

/-- The phases that a read never leaves. -/
def ReadPhase.isTerminal : ReadPhase → Bool
  | .completed => true
  | .cancelled => true
  | .failed => true
  | _ => false

/-- How a read ends: its last phase, and the bytes or the error that waiting for it gives. -/
structure ReadEnding where
  phase : ReadPhase
  outcome : Except Error (List UInt8)
deriving DecidableEq

/-- Where the worker of a read stands. -/
inductive ReaderStage where
  /-- It is about to look whether the read was cancelled. -/
  | checking
  /-- A bulk transfer is in progress. -/
  | polling
  /-- Bytes have come and are still to be divided. -/
  | received (data : List UInt8)
  /-- It is about to give up its clone of the handle. -/
  | leaving (ending : ReadEnding)
  /-- Its clone was the last, and the handle is being closed. -/
  | closing (ending : ReadEnding)
  /-- It is about to report how the read ends. -/
  | reporting (ending : ReadEnding)
  | ended (ending : ReadEnding)
deriving DecidableEq

/-- What became of the right to a read's outcome. Waiting uses it up, so nobody waits twice. -/
inductive Custody where
  /-- Whoever started the read still has it. -/
  | kept
  /-- Somebody waits for the read. -/
  | awaited
  /-- Somebody has waited and has the outcome. -/
  | resolved
deriving DecidableEq

/-- A read that was started. -/
structure Read where
  session : Nat
  length : Nat
  cancelled : Bool
  stage : ReaderStage
  custody : Custody
deriving DecidableEq

namespace Read

/-- How the read ended, once it has. -/
def ending? (read : Read) : Option ReadEnding :=
  match read.stage with
  | .ended ending => some ending
  | _ => none

/-- The phase that others see. -/
def phase (read : Read) : ReadPhase :=
  match read.ending? with
  | some ending => ending.phase
  | none => .polling

/-- Whether the worker has reported. -/
def isFinished (read : Read) : Bool := read.ending?.isSome

end Read

/-- What became of a write. -/
inductive WriteState where
  | queued
  | answered (result : Except Error Nat)
  | lost
deriving DecidableEq

/-- A write that was accepted. -/
structure Write where
  session : Nat
  data : List UInt8
  state : WriteState
deriving DecidableEq

/-- A procedure in the hands of a caller, who may have made its next request already. -/
structure Running (Result : Type) where
  procedure : Procedure Result
  begun : Bool := false

/-- What a caller gets who has waited for a read. -/
inductive ReadTarget where
  /-- All its bytes. -/
  | bytes
  /-- A buffer in which the bytes stand from the offset on. -/
  | into (buffer : List UInt8) (offset : Nat)
deriving DecidableEq

/-- What a successful call gives. -/
inductive Answer where
  | done
  | ports (ports : List PortInfo)
  | bytes (data : List UInt8)
  | stored (count : Nat) (buffer : List UInt8)
  | accepted (count : Nat)
deriving DecidableEq

/-- How a call ends: with a result, or not at all because a duration could not be doubled. -/
inductive Ending where
  | returned (result : Except Error Answer)
  | overflowed
deriving DecidableEq

/-- Where a caller stands. -/
inductive Task where
  /-- Listing ports. -/
  | listing (run : Running (Except Error (List PortInfo)))
  /-- Opening: reaching the device. -/
  | opening (address : Address) (config : LineConfig) (run : Running (Except Error Handle))
  /-- Opening: about to empty the backlog. -/
  | clearing (address : Address) (config : LineConfig) (session : Nat)
  /-- Opening: about to install the link. -/
  | installing (address : Address) (config : LineConfig) (session : Nat)
  /-- Opening failed: about to be closed again. -/
  | retreating (address : Address) (error : Error)
  /-- Waiting until a read ends. -/
  | awaitingRead (read : Nat) (target : ReadTarget)
  /-- About to put bytes back that do not fit the buffer. -/
  | puttingBack (data : List UInt8) (buffer : List UInt8) (offset : Nat)
  /-- Waiting until a write ends. -/
  | awaitingWrite (write : Nat)
  /-- Configuring the line; `line` is what is to be remembered if it succeeds. -/
  | configuring (session : Nat) (line : Option LineConfig) (run : Running (Except Error Unit))
  /-- Configured: about to give up the clone of the handle. -/
  | returningClone (session : Nat) (line : Option LineConfig) (result : Except Error Unit)
  /-- Configured: about to give up the ticket. -/
  | returningTicket (session : Nat) (line : Option LineConfig) (result : Except Error Unit)
  /-- Configured: about to remember the line configuration. -/
  | recording (line : LineConfig)
  /-- Closing: about to cancel the recorded read. -/
  | cancelling (read : Nat)
  /-- Closing: waiting until the recorded read ends or the deadline passes. -/
  | awaitingReader (read : Nat) (deadline : Duration)
  /-- Closing: the deadline passed, about to be open again. -/
  | reverting (deadline : Duration)
  /-- Closing: about to take the link. -/
  | takingLink
  /-- Closing: waiting until the writer has ended. -/
  | draining (session : Nat)
  /-- Closing: waiting until no ticket is out. -/
  | idling (session : Nat)
  /-- Closing: about to become the only owner of the handle. -/
  | regaining (session : Nat)
  /-- Closing: releasing the interface and closing the handle. -/
  | releasing (run : Running (Except Error Unit))
  /-- Closing: about to be closed. -/
  | settling (result : Except Error Unit)
  | finished (ending : Ending)

/-- What a caller asks of a connection. -/
inductive Call where
  | list
  | openPort (address : Address) (config : LineConfig)
  | openWith (path : String) (options : OpenOptions)
  | read (buffer : List UInt8) (offset length : Nat)
  | write (data : List UInt8)
  | set (options : SetOptions)
  | setLineConfig (config : LineConfig)
  | close
  | wait (read : Nat)
  | waitInto (read : Nat) (buffer : List UInt8) (offset : Nat)

/-- The buffer that a caller lends to a call. -/
def Call.buffer? : Call → Option (List UInt8)
  | .read buffer _ _ => some buffer
  | .waitInto _ buffer _ => some buffer
  | _ => none

/-- What a caller is told at the end of a call. -/
inductive Response where
  | answered (answer : Answer)
  /-- There was an error, and a buffer that was lent to the call is as it was. -/
  | failed (error : Error) (buffer : Option (List UInt8))
  | overflowed
deriving DecidableEq

/-- What the end of a call tells the caller who has lent a buffer to it or none. -/
def Ending.response (buffer : Option (List UInt8)) : Ending → Response
  | .returned (.ok answer) => .answered answer
  | .returned (.error error) => .failed error buffer
  | .overflowed => .overflowed

/-- A connection with all its threads. -/
structure Connection where
  locator : Locator
  settings : Settings
  state : Lifecycle := .closed
  link : Option Link := none
  /-- Bytes that were received and not delivered; the next read delivers them. -/
  backlog : List UInt8 := []
  sessions : List Session := []
  reads : List Read := []
  writes : List Write := []
  tasks : List Task := []
  /-- The messages since somebody last looked. -/
  journal : List Message := []

namespace Connection

/-- Add a message to the journal. -/
def say (connection : Connection) (level : Level) (text : String) : Connection :=
  { connection with journal := connection.journal ++ [⟨level, text⟩] }

/-- Move a caller to another point. -/
def setTask (connection : Connection) (call : Nat) (task : Task) : Connection :=
  { connection with tasks := connection.tasks.set call task }

/-- Change a session. -/
def changeSession (connection : Connection) (session : Nat) (change : Session → Session) :
    Connection :=
  { connection with sessions := connection.sessions.modify session change }

/-- Change a read. -/
def changeRead (connection : Connection) (read : Nat) (change : Read → Read) : Connection :=
  { connection with reads := connection.reads.modify read change }

/-- Change a write. -/
def changeWrite (connection : Connection) (write : Nat) (change : Write → Write) : Connection :=
  { connection with writes := connection.writes.modify write change }

/-- The link, if the port is open. -/
def openLink? (connection : Connection) : Option Link :=
  if connection.state = .opened then connection.link else none

/-- Whether the port is open. -/
def isOpen (connection : Connection) : Bool := decide (connection.state = .opened)

/-- The address of the port that is held. -/
def address? (connection : Connection) : Option Address := connection.link.map (·.address)

/-- The line configuration that was last recorded for the port that is held. -/
def lineConfig? (connection : Connection) : Option LineConfig := connection.link.map (·.line)

end Connection

end CdcSerial
