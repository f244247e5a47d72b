import CdcSerial.Connection.Procedures
import CdcSerial.Connection.Writes

/-!
# Calls

What callers do, point by point. A call begins with one look at the state, after which it either
ends at once with an error or has its place. Opening, configuring and closing then go on in several
steps, between which other callers and the workers take their turns.
-/

namespace CdcSerial

namespace Task

/-- The end of a call with an error. -/
def failed (error : Error) : Task := .finished (.returned (.error error))

/-- The end of a call with an answer. -/
def succeeded (answer : Answer) : Task := .finished (.returned (.ok answer))

/-- The end of a call that has nothing to tell but success or failure. -/
def ended : Except Error Unit → Task
  | .ok () => succeeded .done
  | .error error => failed error

end Task

namespace Connection

/-- Begin to open a port at an address. -/
def enterOpen (connection : Connection) (address : Address) (config : LineConfig) :
    Connection × Task :=
  if connection.state = .closed then
    (({ connection with state := .opening }).say .debug
        ("Opening " ++ address.text ++ " (" ++ config.text ++ ")"),
      .opening address config
        ⟨establish connection.locator connection.settings address config, false⟩)
  else (connection, Task.failed .alreadyOpen)

/-- Begin to open a port from the text of its address and loosely typed options. -/
def enterOpenWith (connection : Connection) (path : String) (options : OpenOptions) :
    Connection × Task :=
  match options.validate with
  | .error error => (connection, Task.failed error)
  | .ok () =>
    match Address.parse path with
    | .error error => (connection, Task.failed error)
    | .ok address => connection.enterOpen address options.lineConfig

/-- Begin to wait for a read. -/
def enterWait (connection : Connection) (read : Nat) (target : ReadTarget) : Connection × Task :=
  (connection.setCustody read .awaited, .awaitingRead read target)

/-- Begin to read into a buffer. -/
def enterRead (connection : Connection) (buffer : List UInt8) (offset length : Nat)
    (started : Except SystemError Unit) : Connection × Task :=
  if buffer.length < offset + length then
    (connection, Task.failed (.invalidRange offset length buffer.length))
  else
    match connection.startRead length started with
    | (connection, .error error) => (connection, Task.failed error)
    | (connection, .ok read) => connection.enterWait read (.into buffer offset)

/-- Begin to write and wait for it. -/
def enterWrite (connection : Connection) (data : List UInt8) : Connection × Task :=
  match connection.startWrite data with
  | (connection, .error error) => (connection, Task.failed error)
  | (connection, .ok write) => (connection, .awaitingWrite write)

/-- Begin to configure: take a ticket and a clone of the handle. -/
def enterConfigure (connection : Connection) (line : Option LineConfig)
    (commands : List LineCommand) : Connection × Task :=
  match connection.openLink? with
  | none => (connection, Task.failed .notOpen)
  | some link =>
    match connection.sessions[link.session]? with
    | none => (connection, Task.failed .notOpen)
    | some session =>
      (connection.changeSession link.session fun session =>
          { session with clones := session.clones + 1, tickets := session.tickets + 1 },
        .configuring link.session line
          ⟨LineCommand.sendAll session.handle connection.settings.controlTimeout commands, false⟩)

/-- Begin to close. -/
def enterClose (connection : Connection) : Connection × Task :=
  match connection.openLink? with
  | none => (connection, Task.failed .notOpen)
  | some link =>
    (({ connection with state := .closing }).say .debug "Closing",
      match link.reader with
      | some read => .cancelling read
      | none => .takingLink)

/-- Begin a call. `started` is how the system answers if the call has to start a worker. -/
def enter (connection : Connection) (call : Call) (started : Except SystemError Unit) :
    Connection × Task :=
  match call with
  | .list => (connection, .listing ⟨connection.locator.list, false⟩)
  | .openPort address config => connection.enterOpen address config
  | .openWith path options => connection.enterOpenWith path options
  | .read buffer offset length => connection.enterRead buffer offset length started
  | .write data => connection.enterWrite data
  | .set options => connection.enterConfigure none options.plan
  | .setLineConfig config => connection.enterConfigure (some config) [.coding config]
  | .close => connection.enterClose
  | .wait read => connection.enterWait read .bytes
  | .waitInto read buffer offset => connection.enterWait read (.into buffer offset)

/-- Begin a call and give it the next number. -/
def invoke (connection : Connection) (call : Call) (started : Except SystemError Unit) :
    Connection :=
  let (connection, task) := connection.enter call started
  { connection with tasks := connection.tasks ++ [task] }

/-- Whether a call would have to start a worker if it began now. -/
def needsWorker (connection : Connection) : Call → Bool
  | .read buffer offset length =>
    decide (offset + length ≤ buffer.length) &&
      (match connection.admission length with
        | .polls _ => true
        | _ => false)
  | _ => false

/-- Hand over the control lane of a session. -/
def setLane (connection : Connection) (session : Nat) (lane : Option Nat) : Connection :=
  connection.changeSession session ({ · with lane })

/-- Take the control lane of a session for a call, if it is free. -/
def takeLane? (connection : Connection) (session call : Nat) : Option Connection := do
  match (← connection.sessions[session]?).lane with
  | none => return connection.setLane session (some call)
  | some _ => none

/--
Go on with a procedure as far as the next request: write its message, begin its request, or end it.
`keep` says where the caller stands with the rest, `begun?` is the state with the request begun, if
it may begin, and `finish` says what happens at the end.
-/
def advanceRun {Result : Type} (connection : Connection) (call : Nat) (run : Running Result)
    (keep : Running Result → Task) (begun? : Option Connection)
    (finish : Result → Connection) : Option Connection :=
  match run.procedure with
  | .done result => some (finish result)
  | .say message next =>
    some ((connection.say message.level message.text).setTask call (keep ⟨next, false⟩))
  | .call _ _ =>
    if run.begun then none
    else begun?.map fun begun => begun.setTask call (keep { run with begun := true })

/-- The request of a procedure that has begun it. -/
def runPending? {Result : Type} (run : Running Result) (resume : Running Result → Connection) :
    Option (Pending Connection) :=
  if run.begun then
    match run.procedure with
    | .call request next => some ⟨request, fun reply => resume ⟨next reply, false⟩⟩
    | _ => none
  else none

/--
The session of a device that has just been made ready: the link and the writer share its handle.
-/
def newSession (handle : Handle) : Session where
  handle := handle
  clones := 2
  tickets := 0
  lane := none
  queue := []
  hungUp := false
  writer := .waiting

/-- The end of reaching a device. -/
def endOpening (connection : Connection) (call : Nat) (address : Address) (config : LineConfig) :
    Except Error Handle → Connection
  | .ok handle =>
    ({ connection with sessions := connection.sessions ++ [newSession handle] }).setTask call
      (.clearing address config connection.sessions.length)
  | .error error => connection.setTask call (.retreating address error)

/-- The end of waiting for a read: fetch its outcome. -/
def resolve (connection : Connection) (call read : Nat) (target : ReadTarget)
    (ending : ReadEnding) : Connection :=
  let fetched := connection.setCustody read .resolved
  match ending.outcome with
  | .error error => fetched.setTask call (Task.failed error)
  | .ok data =>
    match target with
    | .bytes => fetched.setTask call (Task.succeeded (.bytes data))
    | .into buffer offset =>
      match store? buffer offset data with
      | some stored => fetched.setTask call (Task.succeeded (.stored data.length stored))
      | none => fetched.setTask call (.puttingBack data buffer offset)

/-- The end of waiting for a write. -/
def writeEnding? : WriteState → Option Task
  | .queued => none
  | .answered (.ok count) => some (Task.succeeded (.accepted count))
  | .answered (.error error) => some (Task.failed error)
  | .lost => some (Task.failed .workerLost)

/-- What a caller does after giving back its ticket. -/
def afterTicket (line : Option LineConfig) (result : Except Error Unit) : Task :=
  match result, line with
  | .ok (), some line => .recording line
  | result, _ => Task.ended result

/-- Remember the line configuration of the port that is held, if one is. -/
def recordLine (connection : Connection) (line : LineConfig) : Connection :=
  { connection with link := connection.link.map fun link => { link with line } }

/-- Take the link and tell the writer that no more writes will come. -/
def takeLink (connection : Connection) (call : Nat) : Connection :=
  match connection.link with
  | some link =>
    (({ connection with link := none }).changeSession link.session
      ({ · with hungUp := true })).setTask call (.draining link.session)
  | none => connection.setTask call (.settling (.ok ()))

/--
Become the only owner of a handle. That takes the only clone; if there are others, the clone is
given up and the interface counts as busy.
-/
def regain (connection : Connection) (call number : Nat) (session : Session) : Connection :=
  if session.clones = 1 then
    (connection.dropClone number).setTask call
      (.releasing ⟨leave connection.settings session.handle, false⟩)
  else
    (connection.dropClone number).setTask call (.settling (.error (.releaseFailed .busy)))

/-- The last step of closing. -/
def settle (connection : Connection) (call : Nat) (result : Except Error Unit) : Connection :=
  let closed := { connection with state := .closed }
  let told := match result with
    | .ok () => closed.say .info "Closed"
    | .error error => closed.say .warn ("Closed with error: " ++ error.message)
  told.setTask call (Task.ended result)

/-- What a caller does next without the bus, if it can go on. -/
def advanceCall? (connection : Connection) (call : Nat) : Option Connection := do
  match ← connection.tasks[call]? with
  | .listing run =>
    connection.advanceRun call run .listing (some connection) fun result =>
      connection.setTask call <| match result with
        | .ok ports => Task.succeeded (.ports ports)
        | .error error => Task.failed error
  | .opening address config run =>
    connection.advanceRun call run (.opening address config) (some connection)
      (connection.endOpening call address config)
  | .clearing address config session =>
    return ({ connection with backlog := [] }).setTask call (.installing address config session)
  | .installing address config session =>
    return (({ connection with
        link := some ⟨session, none, address, config⟩
        state := .opened }).say .info
      ("Opened " ++ address.text ++ " at " ++ config.text)).setTask call (Task.succeeded .done)
  | .retreating address error =>
    return (({ connection with state := .closed }).say .warn
      ("Failed to open " ++ address.text ++ ": " ++ error.message)).setTask call (Task.failed error)
  | .awaitingRead read target =>
    let ending ← (← connection.reads[read]?).ending?
    return connection.resolve call read target ending
  | .puttingBack data buffer offset =>
    return (connection.putBack data).setTask call
      (Task.failed (.invalidRange offset data.length buffer.length))
  | .awaitingWrite write =>
    let task ← writeEnding? (← connection.writes[write]?).state
    return connection.setTask call task
  | .configuring session line run =>
    connection.advanceRun call run (.configuring session line) (connection.takeLane? session call)
      fun result => connection.setTask call (.returningClone session line result)
  | .returningClone session line result =>
    return (connection.dropClone session).setTask call (.returningTicket session line result)
  | .returningTicket session line result =>
    return (connection.changeSession session fun session =>
      { session with tickets := session.tickets - 1 }).setTask call (afterTicket line result)
  | .recording line =>
    return (connection.recordLine line).setTask call (Task.succeeded .done)
  | .cancelling read =>
    let cancelled := connection.cancel read
    return cancelled.setTask call <| match connection.settings.effectiveDeadline? with
      | some deadline => .awaitingReader read deadline
      | none => .finished .overflowed
  | .awaitingReader read _ =>
    if (← connection.reads[read]?).isFinished then return connection.setTask call .takingLink
    else none
  | .reverting deadline =>
    return (({ connection with state := .opened }).say .warn
      ("Read worker still running after " ++ deadline.text)).setTask call
      (Task.failed (.cancelTimeout deadline))
  | .takingLink => return connection.takeLink call
  | .draining session =>
    if (← connection.sessions[session]?).writer = .ended then
      return connection.setTask call (.idling session)
    else none
  | .idling session =>
    if (← connection.sessions[session]?).tickets = 0 then
      return connection.setTask call (.regaining session)
    else none
  | .regaining session => return connection.regain call session (← connection.sessions[session]?)
  | .releasing run =>
    connection.advanceRun call run .releasing (some connection) fun result =>
      connection.setTask call (.settling result)
  | .settling result => return connection.settle call result
  | .finished _ => none

/-- The request that a caller waits for. -/
def callPending? (connection : Connection) (call : Nat) : Option (Pending Connection) := do
  match ← connection.tasks[call]? with
  | .listing run => runPending? run fun run => connection.setTask call (.listing run)
  | .opening address config run =>
    runPending? run fun run => connection.setTask call (.opening address config run)
  | .configuring session line run =>
    runPending? run fun run =>
      (connection.setLane session none).setTask call (.configuring session line run)
  | .releasing run => runPending? run fun run => connection.setTask call (.releasing run)
  | _ => none

/-- The deadline of a closing caller passes while the recorded read is still under way. -/
def expire? (connection : Connection) (call : Nat) : Option Connection := do
  match ← connection.tasks[call]? with
  | .awaitingReader read deadline =>
    if (← connection.reads[read]?).isFinished then none
    else return connection.setTask call (.reverting deadline)
  | _ => none

/--
Give up a connection for good. A link that it still holds is dropped: no more writes will come, and
if nobody else shares the handle, it is the one to be closed.
-/
def abandon (connection : Connection) : Connection × Option Handle :=
  match connection.link with
  | none => (connection, none)
  | some link =>
    let last := connection.isLastClone link.session
    let dropped := (({ connection with link := none }).changeSession link.session
      ({ · with hungUp := true })).dropClone link.session
    (dropped, if last then (connection.sessions[link.session]?).map (·.handle) else none)

end Connection

end CdcSerial
