import CdcSerial.Connection.State

/-!
# Reads

A read asks for up to some number of bytes and takes the first that come. Bytes left over from
earlier reads are in the backlog and are served first, without polling. Otherwise a worker polls
until a packet comes, until a transfer fails, or until the read is cancelled. Bytes beyond what the
read asked for, and bytes that come after it was cancelled, go to the end of the backlog; bytes that
a caller could not take go back to its front.
-/

namespace CdcSerial

/-- A request that a thread has made, and how the thread goes on with the reply. -/
structure Pending (State : Type) where
  request : Request
  resume : request.Reply → State

namespace Connection

/-- What happens to a request for bytes. -/
inductive Admission where
  /-- It is refused. -/
  | refused (error : Error)
  /-- It is served at once with these bytes, which leaves the others in the backlog. -/
  | served (data rest : List UInt8)
  /-- A worker has to poll for it. -/
  | polls (link : Link)
deriving DecidableEq

/-- Whether the read that a link records is still under way. -/
def isReading (connection : Connection) (link : Link) : Bool :=
  match link.reader.bind (connection.reads[·]?) with
  | some read => !read.isFinished
  | none => false

/-- What would happen to a request for so many bytes now. -/
def admission (connection : Connection) (length : Nat) : Admission :=
  match connection.openLink? with
  | none => .refused .notOpen
  | some link =>
    if connection.isReading link then .refused .readInProgress
    else if length = 0 then .served [] connection.backlog
    else if connection.backlog.isEmpty then .polls link
    else .served (connection.backlog.take length) (connection.backlog.drop length)

/-- Record which read the port is busy with. -/
def recordReader (connection : Connection) (reader : Option Nat) : Connection :=
  { connection with link := connection.link.map ({ · with reader }) }

/-- Add a read and give its number. -/
def addRead (connection : Connection) (read : Read) : Connection × Nat :=
  ({ connection with reads := connection.reads ++ [read] }, connection.reads.length)

/--
Start a read of up to `length` bytes. `started` is how the system answers if a worker has to be
started; the read that was recorded before is forgotten even if that fails.
-/
def startRead (connection : Connection) (length : Nat) (started : Except SystemError Unit) :
    Connection × Except Error Nat :=
  match connection.admission length with
  | .refused error => (connection, .error error)
  | .served data rest =>
    let served :=
      if length = 0 then connection
      else connection.say .debug
        ("Read served " ++ Numeral.decimal data.length ++ " bytes from backlog")
    let session := (connection.link.map (·.session)).getD 0
    let (connection, number) :=
      ({ served.recordReader none with backlog := rest }).addRead
        ⟨session, length, false, .ended ⟨.completed, .ok data⟩, .kept⟩
    (connection, .ok number)
  | .polls link =>
    match started with
    | .error cause => (connection.recordReader none, .error (.system cause))
    | .ok () =>
      let (connection, number) :=
        (connection.changeSession link.session fun session =>
          { session with clones := session.clones + 1 }).addRead
          ⟨link.session, length, false, .checking, .kept⟩
      (connection.recordReader (some number), .ok number)

/-- Hand over the right to a read's outcome. -/
def setCustody (connection : Connection) (read : Nat) (custody : Custody) : Connection :=
  connection.changeRead read ({ · with custody })

/-- Ask a read to stop. -/
def cancel (connection : Connection) (read : Nat) : Connection :=
  connection.changeRead read ({ · with cancelled := true })

/-- Move the worker of a read to another point. -/
def setReader (connection : Connection) (read : Nat) (stage : ReaderStage) : Connection :=
  connection.changeRead read ({ · with stage })

/--
Divide the bytes that came for a read: to a cancelled read nothing is delivered, and otherwise as
much as it asked for. All the rest goes to the end of the backlog.
-/
def divide (connection : Connection) (number : Nat) (read : Read) (data : List UInt8) :
    Connection :=
  if read.cancelled then
    ({ connection with backlog := connection.backlog ++ data }).setReader number
      (.leaving ⟨.cancelled, .ok []⟩)
  else
    ({ connection with backlog := connection.backlog ++ data.drop read.length }).setReader number
      (.leaving ⟨.completed, .ok (data.take read.length)⟩)

/-- Give up one clone of a session's handle. -/
def dropClone (connection : Connection) (session : Nat) : Connection :=
  connection.changeSession session fun session => { session with clones := session.clones - 1 }

/-- Whether a session's handle has one owner left. -/
def isLastClone (connection : Connection) (session : Nat) : Bool :=
  match connection.sessions[session]? with
  | some session => decide (session.clones ≤ 1)
  | none => false

/-- What the worker of a read does next without the bus, if it can go on. -/
def advanceReader? (connection : Connection) (number : Nat) : Option Connection := do
  let read ← connection.reads[number]?
  match read.stage with
  | .checking =>
    if read.cancelled then
      return connection.setReader number (.leaving ⟨.cancelled, .ok []⟩)
    else return connection.setReader number .polling
  | .polling => none
  | .received data => return connection.divide number read data
  | .leaving ending =>
    let last := connection.isLastClone read.session
    return (connection.dropClone read.session).setReader number
      (if last then .closing ending else .reporting ending)
  | .closing _ => none
  | .reporting ending => return connection.setReader number (.ended ending)
  | .ended _ => none

/-- The point of a reader after a poll. An empty packet and a timeout decide nothing. -/
def afterPoll : BulkIn → ReaderStage
  | .received [] => .checking
  | .received data => .received data
  | .failed .timeout => .checking
  | .failed status => .leaving ⟨.failed, .error (.transferFailed .input status)⟩
  | .crashed => .leaving ⟨.failed, .error .workerLost⟩

/-- The request that the worker of a read waits for. -/
def readerPending? (connection : Connection) (number : Nat) : Option (Pending Connection) := do
  let read ← connection.reads[number]?
  let session ← connection.sessions[read.session]?
  match read.stage with
  | .polling =>
    return {
      request := .bulkIn session.handle connection.settings.endpointIn Profile.packetSize
        connection.settings.pollTimeout
      resume := fun reply => connection.setReader number (afterPoll reply) }
  | .closing ending =>
    return {
      request := .closeHandle session.handle
      resume := fun _ => connection.setReader number (.reporting ending) }
  | _ => none

/-- The buffer with bytes from an offset on, if they fit. -/
def store? (buffer : List UInt8) (offset : Nat) (data : List UInt8) : Option (List UInt8) :=
  if offset + data.length ≤ buffer.length then
    some (buffer.take offset ++ data ++ buffer.drop (offset + data.length))
  else none

/-- Put bytes back in front of the backlog. -/
def putBack (connection : Connection) (data : List UInt8) : Connection :=
  { connection with backlog := data ++ connection.backlog }

end Connection

end CdcSerial
