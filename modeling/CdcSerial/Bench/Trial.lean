import CdcSerial.Bench.Bus
import CdcSerial.Connection.Step
import CdcSerial.Stream

/-!
# Trials

A trial uses a connection over a bench, step by step. After each step all threads go on until none
of them can: each has ended, waits for another, stands at a closed gate, is held, or polls a device
that has nothing to say. So the outcome of a step does not depend on who is faster. Only then do
deadlines pass.

A call that cannot end yet goes on in the background. It gets a number under which its outcome can
be fetched later.
-/

namespace CdcSerial

namespace Trial

/-- What a connection shows of itself. -/
structure Info where
  state : Lifecycle
  address : Option Address
  line : Option LineConfig
  settings : Settings
  vendorId : UInt16
deriving DecidableEq

/-- The outcome of a step. -/
inductive Reply where
  | ok
  | refused
  | noConnection
  | nothingHeld
  | noSuchRead
  | noSuchWrite
  | noSuchTask
  | blocked (task : Option Nat)
  | info (info : Info)
  | ports (ports : List PortInfo)
  | startedRead (read : Nat)
  | startedWrite (write : Nat)
  | phase (phase : ReadPhase)
  | bytes (data : List UInt8)
  | stored (count : Nat) (buffer : List UInt8)
  | accepted (count : Nat)
  | failed (error : Error) (buffer : Option (List UInt8))
  | streamFailed (error : SystemError) (buffer : Option (List UInt8))
  | outOfRange (start length : Nat)
  | overflowed
deriving DecidableEq

/-- What an errand is about. -/
inductive Errand.Kind where
  /-- A call, with the buffer that was lent to it. -/
  | call (buffer : Option (List UInt8))
  | stream (job : Stream.Job)
deriving DecidableEq

/-- Somebody who waits for a call on a connection. -/
structure Errand where
  connection : Nat
  call : Nat
  kind : Errand.Kind
  outcome : Option Reply := none
  fetched : Bool := false
deriving DecidableEq

/-- A step of a trial. -/
inductive Step where
  | push (device : Nat) (polls : List Bench.Poll)
  | endHold (device : Nat) (poll : Bench.Poll)
  | script (device : Nat) (point : Bench.Point) (results : List Bench.Result)
  | closeGate (point : Bench.Point)
  | openGate (point : Bench.Point)
  | attach (devices : List Bench.Device) (place : Option Nat)
  | remove (device : Nat)
  | renew (settings : Settings)
  | drop
  | info
  | call (call : Call)
  | startRead (length : Nat)
  | startWrite (data : List UInt8)
  | stream (job : Stream.Job)
  | flush
  | phase (read : Nat)
  | cancel (read : Nat)
  | wait (read : Nat)
  | waitInto (read : Nat) (buffer : List UInt8) (offset : Nat)
  | waitWrite (write : Nat)
  | join (task : Nat)

end Trial

/-- A trial: a bench, the connections that were made over it, and what is still to be fetched. -/
structure Trial where
  bench : Bench
  connections : List Connection := []
  /-- The connection in use. -/
  current : Option Nat := none
  /-- The reads that were started: the connection and the number there, until they are fetched. -/
  reads : List (Option (Nat × Nat)) := []
  /-- The writes that were started: the connection and the number there, until they are fetched. -/
  writes : List (Option (Nat × Nat)) := []
  errands : List Trial.Errand := []
  messages : List Message := []

namespace Trial

/-- Put a connection back and take over its messages. -/
def keep (trial : Trial) (number : Nat) (connection : Connection) : Trial :=
  { trial with
    connections := trial.connections.set number { connection with journal := [] }
    messages := trial.messages ++ connection.journal }

/-- Add a fresh connection and use it. -/
def connect (trial : Trial) (settings : Settings) : Trial :=
  { trial with
    connections :=
      trial.connections ++ [.fresh ⟨trial.bench.style.source, Profile.vendorId⟩ settings]
    current := some trial.connections.length }

/-- A trial with one fresh connection over a bench. -/
def start (bench : Bench) (settings : Settings) : Trial :=
  ({ bench } : Trial).connect settings

/-- The connection in use. -/
def connection? (trial : Trial) : Option (Nat × Connection) := do
  let number ← trial.current
  return (number, ← trial.connections[number]?)

/-- The state of the connection in use. -/
def state? (trial : Trial) : Option Lifecycle := trial.connection?.map (·.2.state)

/-- Whether a thread has nothing to do but poll a device that has nothing to say. -/
def isIdle (trial : Trial) (connection : Connection) (thread : Thread) (request : Request) : Bool :=
  match thread, request with
  | .reader number, .bulkIn handle endpoint _ _ =>
    trial.bench.isQuiet handle endpoint
      && !((connection.reads[number]?.map (·.cancelled)).getD false)
  | _, _ => false

/-- Let a thread do one thing, and say whether it did. -/
def visit (trial : Trial) (number : Nat) (thread : Thread) : Trial × Bool :=
  match trial.connections[number]? with
  | none => (trial, false)
  | some connection =>
    match connection.advance? thread with
    | some advanced => (trial.keep number advanced, true)
    | none =>
      match connection.pending? thread with
      | none => (trial, false)
      | some pending =>
        if trial.isIdle connection thread pending.request then (trial, false)
        else
          match trial.bench.serve pending.request with
          | (some reply, bench) => (({ trial with bench }).keep number (pending.resume reply), true)
          | (none, bench) => ({ trial with bench }, false)

/-- Begin a call on a connection; the number of the call. -/
def invoke (trial : Trial) (number : Nat) (connection : Connection) (call : Call) : Trial × Nat :=
  let (started, bench) :=
    if connection.needsWorker call then
      match trial.bench.perform .startWorker with
      | (some reply, bench) => (reply, bench)
      | (none, bench) => (.ok (), bench)
    else (.ok (), trial.bench)
  (({ trial with bench }).keep number (connection.invoke call started), connection.tasks.length)

/-- The reply for what a caller is told. -/
def Reply.ofResponse : Response → Reply
  | .answered .done => .ok
  | .answered (.ports found) => .ports found
  | .answered (.bytes data) => .bytes data
  | .answered (.stored count contents) => .stored count contents
  | .answered (.accepted count) => .accepted count
  | .failed error buffer => .failed error buffer
  | .overflowed => .overflowed

/-- The reply for the end of a stream job. -/
def Reply.ofOutcome : Stream.Outcome → Reply
  | .stored count buffer => .stored count buffer
  | .accepted count => .accepted count
  | .done => .ok
  | .failed error buffer => .streamFailed error buffer
  | .outOfRange start length => .outOfRange start length
  | .overflowed => .overflowed

/-- Change an errand. -/
def changeErrand (trial : Trial) (number : Nat) (change : Errand → Errand) : Trial :=
  { trial with errands := trial.errands.modify number change }

/-- Let an errand go on if its call has ended, and say whether it did. -/
def visitErrand (trial : Trial) (number : Nat) : Trial × Bool :=
  match trial.errands[number]? with
  | none => (trial, false)
  | some errand =>
    match errand.outcome, trial.connections[errand.connection]? with
    | none, some connection =>
      match connection.tasks[errand.call]? with
      | some (.finished ending) =>
        match errand.kind with
        | .call buffer =>
          let reply := Reply.ofResponse (ending.response buffer)
          (trial.changeErrand number ({ · with outcome := some reply }), true)
        | .stream job =>
          match job.resume ending with
          | .ended outcome =>
            (trial.changeErrand number ({ · with outcome := some (.ofOutcome outcome) }), true)
          | .next job call =>
            let (trial, task) := trial.invoke errand.connection connection call
            (trial.changeErrand number ({ · with call := task, kind := .stream job }), true)
      | _ => (trial, false)
    | _, _ => (trial, false)

/-- The threads of a connection that may still have something to do. -/
def threads (connection : Connection) : List Thread :=
  (List.range connection.sessions.length).map .writer
    ++ (List.range connection.reads.length).map .reader
    ++ (List.range connection.tasks.length).map .call

/-- Let every thread and every errand do one thing, and say whether any did. -/
def sweep (trial : Trial) : Trial × Bool :=
  let swept := (List.range trial.connections.length).foldl
    (fun (state : Trial × Bool) number =>
      ((state.1.connections[number]?.map threads).getD []).foldl
        (fun (state : Trial × Bool) thread =>
          let (trial, moved) := state.1.visit number thread
          (trial, state.2 || moved))
        state)
    (trial, false)
  (List.range trial.errands.length).foldl
    (fun (state : Trial × Bool) number =>
      let (trial, moved) := state.1.visitErrand number
      (trial, state.2 || moved))
    swept

/-- Let a deadline pass, if somebody waits for one. -/
def expire? (trial : Trial) : Option Trial :=
  (List.range trial.connections.length).findSome? fun number => do
    let connection ← trial.connections[number]?
    let expired ← (List.range connection.tasks.length).findSome? connection.expire?
    return trial.keep number expired

/-- An upper bound for the number of sweeps after which everything has come to rest. -/
def patience (trial : Trial) : Nat :=
  let devices := trial.bench.devices
  let scripted := devices.foldl
    (fun count device => count + device.script.entries.length + device.polls.length)
    trial.bench.script.entries.length
  let queued := trial.connections.foldl
    (fun count connection => connection.sessions.foldl (· + ·.queue.length) count) 0
  100 + 20 * (devices.size + scripted + queued + trial.errands.length)

/-- Go on until nothing moves any more, or for at most so many sweeps. -/
def settleWithin : Nat → Trial → Trial
  | 0, trial => trial
  | sweeps + 1, trial =>
    match trial.sweep with
    | (trial, true) => settleWithin sweeps trial
    | (trial, false) =>
      match trial.expire? with
      | some trial => settleWithin sweeps trial
      | none => trial

/-- Go on until nothing moves any more. -/
def settle (trial : Trial) : Trial := settleWithin trial.patience trial

/-- Send somebody on an errand: the reply if it ends at once, and its number otherwise. -/
def engage (trial : Trial) (number : Nat) (connection : Connection) (kind : Errand.Kind)
    (call : Call) : Trial × Reply :=
  let (trial, task) := trial.invoke number connection call
  let place := trial.errands.length
  let errand : Errand := { connection := number, call := task, kind }
  let settled := ({ trial with errands := trial.errands ++ [errand] } : Trial).settle
  match settled.errands[place]?.bind (·.outcome) with
  | some reply => ({ settled with errands := settled.errands.take place }, reply)
  | none => (settled, .blocked (some place))

/-- Whether the writer of an open port is at the gate. -/
def isWriterHeld (connection : Connection) : Bool :=
  match connection.openLink?.bind fun link => connection.sessions[link.session]? with
  | some session =>
    match session.writer with
    | .writing _ => true
    | _ => false
  | none => false

/-- Whether a caller is configuring an open port. -/
def isConfiguring (connection : Connection) : Bool :=
  connection.isOpen && connection.tasks.any fun task =>
    match task with
    | .configuring _ _ _ => true
    | _ => false

/-- Whether a call would race with another one, so that its outcome would be a matter of luck. -/
def races (connection : Connection) : Call → Bool
  | .write _ => isWriterHeld connection
  | .set _ => isConfiguring connection
  | .setLineConfig _ => isConfiguring connection
  | _ => false

/-- Whether a stream job would race with another write. -/
def jobRaces (connection : Connection) : Stream.Job → Bool
  | .write _ => isWriterHeld connection
  | .send _ => isWriterHeld connection
  | _ => false

/-- Whether somebody waits for a call, or a gate is closed. -/
def isBusy (trial : Trial) : Bool :=
  !trial.bench.closedGates.isEmpty || trial.errands.any (·.outcome.isNone)

/-- Drop the connection in use. An open port is closed first. -/
def dropConnection (trial : Trial) : Trial :=
  match trial.connection? with
  | none => trial
  | some (number, connection) =>
    let closed :=
      if connection.isOpen then
        let (closed, reply) := trial.engage number connection (.call none) .close
        match reply with
        | .failed error _ =>
          { closed with
            messages := closed.messages ++ [⟨.debug, "Close on drop failed: " ++ error.message⟩] }
        | _ => closed
      else trial
    match closed.connections[number]? with
    | none => { closed with current := none }
    | some connection =>
      let (abandoned, handle) := connection.abandon
      let kept := { closed.keep number abandoned with current := none }
      match handle with
      | some handle => { kept with bench := (kept.bench.perform (.closeHandle handle)).2 }
      | none => kept

/-- A read that was started and not fetched yet. -/
def startedRead? (trial : Trial) (read : Nat) : Option (Nat × Nat × Connection × Read) := do
  let (connection, number) ← (trial.reads[read]?).join
  let found ← trial.connections[connection]?
  return (connection, number, found, ← found.reads[number]?)

/-- Fetch a read that was started, if it has ended. -/
def fetch (trial : Trial) (read : Nat) (buffer : Option (List UInt8)) (call : Nat → Call) :
    Trial × Reply :=
  match trial.startedRead? read with
  | none => (trial, .noSuchRead)
  | some (connection, number, found, state) =>
    if state.isFinished then
      ({ trial with reads := trial.reads.set read none }).engage connection found (.call buffer)
        (call number)
    else (trial, .blocked none)

/-- Start a stream job, which may end at once. -/
def startJob (trial : Trial) (number : Nat) (connection : Connection) (job : Stream.Job) :
    Trial × Reply :=
  match job.start with
  | .ended outcome => (trial, .ofOutcome outcome)
  | .next job call => trial.engage number connection (.stream job) call

/-- Start a read without waiting for it. -/
def startRead (trial : Trial) (number : Nat) (connection : Connection) (length : Nat) :
    Trial × Reply :=
  let (started, bench) :=
    match connection.admission length, trial.bench.perform .startWorker with
    | .polls _, (some reply, bench) => (reply, bench)
    | _, _ => (.ok (), trial.bench)
  match connection.startRead length started with
  | (connection, .ok read) =>
    (({ trial with bench, reads := trial.reads ++ [some (number, read)] }).keep number connection,
      .startedRead trial.reads.length)
  | (connection, .error error) =>
      (({ trial with bench }).keep number connection, .failed error none)

/-- Start a write without waiting for it. -/
def startWrite (trial : Trial) (number : Nat) (connection : Connection) (data : List UInt8) :
    Trial × Reply :=
  match connection.startWrite data with
  | (connection, .ok write) =>
    (({ trial with writes := trial.writes ++ [some (number, write)] }).keep number connection,
      .startedWrite trial.writes.length)
  | (connection, .error error) => (trial.keep number connection, .failed error none)

/-- Fetch a write that was started, if it has ended. -/
def fetchWrite (trial : Trial) (write : Nat) : Trial × Reply :=
  let found? : Option WriteState := do
    let (connection, number) ← (trial.writes[write]?).join
    return (← (← trial.connections[connection]?).writes[number]?).state
  match found? with
  | none => (trial, .noSuchWrite)
  | some .queued => (trial, .blocked none)
  | some (.answered (.ok count)) =>
    ({ trial with writes := trial.writes.set write none }, .accepted count)
  | some (.answered (.error error)) =>
    ({ trial with writes := trial.writes.set write none }, .failed error none)
  | some .lost =>
    ({ trial with writes := trial.writes.set write none }, .failed .workerLost none)

/-- Fetch the outcome of a call in the background. -/
def join (trial : Trial) (task : Nat) : Trial × Reply :=
  match trial.errands[task]? with
  | none => (trial, .noSuchTask)
  | some errand =>
    match errand.fetched, errand.outcome with
    | true, _ => (trial, .noSuchTask)
    | false, none => (trial, .blocked (some task))
    | false, some reply => (trial.changeErrand task ({ · with fetched := true }), reply)

/-- What a connection shows of itself. -/
def describe (connection : Connection) : Info where
  state := connection.state
  address := connection.address?
  line := connection.lineConfig?
  settings := connection.settings
  vendorId := connection.locator.vendorId

/-- Do a step on the connection in use. -/
def onConnection (trial : Trial) (act : Nat → Connection → Trial × Reply) : Trial × Reply :=
  match trial.connection? with
  | none => (trial, .noConnection)
  | some (number, connection) => act number connection

/-- Add results to the script of a device, or to the shared one. -/
def extendScript (bench : Bench) (device : Nat) (point : Bench.Point)
    (results : List Bench.Result) : Bench :=
  match point with
  | .enumerate | .createContext | .listDevices | .worker =>
    { bench with script := bench.script.append point results }
  | _ => bench.changeDevice device fun device =>
      { device with script := device.script.append point results }

/-- Do a step, before everything goes on. -/
def act (trial : Trial) (step : Step) : Trial × Reply :=
  match step with
  | .push device polls =>
    ({ trial with bench := trial.bench.changeDevice device fun device =>
        { device with polls := device.polls ++ polls } }, .ok)
  | .endHold device poll =>
    match trial.bench.endHold? device poll with
    | some bench => ({ trial with bench }, .ok)
    | none => (trial, .nothingHeld)
  | .script device point results =>
    ({ trial with bench := extendScript trial.bench device point results }, .ok)
  | .closeGate point => ({ trial with bench := trial.bench.closeGate point }, .ok)
  | .openGate point => ({ trial with bench := trial.bench.openGate point }, .ok)
  | .attach devices place =>
    ({ trial with bench := trial.bench.attach devices place }, .ok)
  | .remove device => ({ trial with bench := trial.bench.detach device }, .ok)
  | .renew settings =>
    if trial.isBusy then (trial, .refused)
    else (trial.dropConnection.connect settings, .ok)
  | .drop => if trial.isBusy then (trial, .refused) else (trial.dropConnection, .ok)
  | .info => trial.onConnection fun _ connection => (trial, .info (describe connection))
  | .call call =>
    trial.onConnection fun number connection =>
      if races connection call then (trial, .refused)
      else trial.engage number connection (.call call.buffer?) call
  | .startRead length =>
    trial.onConnection fun number connection => trial.startRead number connection length
  | .startWrite data =>
    trial.onConnection fun number connection => trial.startWrite number connection data
  | .stream job =>
    trial.onConnection fun number connection =>
      if jobRaces connection job then (trial, .refused)
      else trial.startJob number connection job
  | .flush => trial.onConnection fun _ _ => (trial, .ok)
  | .phase read =>
    match trial.startedRead? read with
    | some (_, _, _, state) => (trial, .phase state.phase)
    | none => (trial, .noSuchRead)
  | .cancel read =>
    match trial.startedRead? read with
    | some (connection, number, found, _) => (trial.keep connection (found.cancel number), .ok)
    | none => (trial, .noSuchRead)
  | .wait read => trial.fetch read none .wait
  | .waitInto read buffer offset =>
    trial.fetch read (some buffer) fun number => .waitInto number buffer offset
  | .waitWrite write => trial.fetchWrite write
  | .join task => trial.join task

/-- Do a step and let everything go on until nothing moves any more. -/
def step (trial : Trial) (step : Step) : Trial × Reply :=
  let (trial, reply) := trial.act step
  (trial.settle, reply)

/-- Take the events and messages since the last time. -/
def observe (trial : Trial) : List Bench.Event × List Message × Trial :=
  (trial.bench.log, trial.messages,
    { trial with bench := { trial.bench with log := [] }, messages := [] })

end Trial

end CdcSerial
