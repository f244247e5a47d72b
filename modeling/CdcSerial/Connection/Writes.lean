import CdcSerial.Connection.Reads

/-!
# Writes

Writes are queued and sent one by one by the worker of the session, each in one bulk transfer and in
the order in which they were accepted. A failed transfer answers its own write only. A transfer that
crashes takes the worker with it: its write and all that are queued are lost, and later writes are
refused until the port has been opened anew.
-/

namespace CdcSerial

namespace WriterStage

/-- Whether the queue still exists, so that writes can be added. -/
def hasQueue : WriterStage → Bool
  | .waiting => true
  | .writing _ => true
  | .unwinding => true
  | _ => false

end WriterStage

namespace Connection

/-- Start a write of all the bytes in one transfer. -/
def startWrite (connection : Connection) (data : List UInt8) : Connection × Except Error Nat :=
  match connection.openLink? with
  | none => (connection, .error .notOpen)
  | some link =>
    match connection.sessions[link.session]? with
    | none => (connection, .error .workerLost)
    | some session =>
      if session.writer.hasQueue then
        let number := connection.writes.length
        let queued := connection.changeSession link.session fun session =>
          { session with queue := session.queue ++ [number] }
        ({ queued with writes := connection.writes ++ [⟨link.session, data, .queued⟩] }, .ok number)
      else (connection, .error .workerLost)

/-- Move the worker of a session's writes to another point. -/
def setWriter (connection : Connection) (session : Nat) (stage : WriterStage) : Connection :=
  connection.changeSession session ({ · with writer := stage })

/-- Settle what becomes of a write. -/
def settleWrite (connection : Connection) (write : Nat) (state : WriteState) : Connection :=
  connection.changeWrite write ({ · with state })

/-- Lose all the writes of a queue. -/
def loseAll (connection : Connection) (queue : List Nat) : Connection :=
  queue.foldl (fun connection write => connection.settleWrite write .lost) connection

/-- What the worker of a session's writes does next without the bus, if it can go on. -/
def advanceWriter? (connection : Connection) (number : Nat) : Option Connection := do
  let session ← connection.sessions[number]?
  match session.writer with
  | .waiting =>
    match session.queue with
    | write :: rest =>
      return connection.changeSession number
        ({ · with queue := rest, writer := .writing write })
    | [] => if session.hungUp then return connection.setWriter number .leaving else none
  | .writing _ => none
  | .unwinding =>
    return (connection.loseAll session.queue).changeSession number
      ({ · with queue := [], writer := .leaving })
  | .leaving =>
    let last := connection.isLastClone number
    return (connection.dropClone number).setWriter number (if last then .closing else .ended)
  | .closing => none
  | .ended => none

/-- The state after a bulk transfer with the data of a write. -/
def afterWrite (connection : Connection) (session write : Nat) : BulkOut → Connection
  | .accepted count =>
    (connection.settleWrite write (.answered (.ok count))).setWriter session .waiting
  | .failed status =>
    (connection.settleWrite write (.answered (.error (.transferFailed .output status)))).setWriter
      session .waiting
  | .crashed => (connection.settleWrite write .lost).setWriter session .unwinding

/-- The request that the worker of a session's writes waits for. -/
def writerPending? (connection : Connection) (number : Nat) : Option (Pending Connection) := do
  let session ← connection.sessions[number]?
  match session.writer with
  | .writing write =>
    let data := (connection.writes[write]?.map (·.data)).getD []
    return {
      request := .bulkOut session.handle connection.settings.endpointOut data
        connection.settings.writeTimeout
      resume := fun reply => connection.afterWrite number write reply }
  | .closing =>
    return {
      request := .closeHandle session.handle
      resume := fun _ => connection.setWriter number .ended }
  | _ => none

end Connection

end CdcSerial
