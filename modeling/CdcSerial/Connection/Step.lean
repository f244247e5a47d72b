import CdcSerial.Connection.Calls

/-!
# Steps of a connection

The threads of a connection are its callers, the workers of its reads and the workers of its
sessions' writes. They take turns in any order. An `Action` is one turn: a new caller or request
arrives, a thread goes on by itself, the bus answers a thread, or a deadline passes. A state is
reachable if some course of actions leads to it from a fresh connection.
-/

namespace CdcSerial

/-- A thread of a connection, by its number. -/
inductive Thread where
  | call (number : Nat)
  | reader (number : Nat)
  | writer (number : Nat)
deriving DecidableEq

/-- How a bus answers requests at one moment. -/
def Replies : Type := (request : Request) → request.Reply

namespace Connection

/-- What a thread does next without the bus, if it can go on. -/
def advance? (connection : Connection) : Thread → Option Connection
  | .call number => connection.advanceCall? number
  | .reader number => connection.advanceReader? number
  | .writer number => connection.advanceWriter? number

/-- The request that a thread waits for. -/
def pending? (connection : Connection) : Thread → Option (Pending Connection)
  | .call number => connection.callPending? number
  | .reader number => connection.readerPending? number
  | .writer number => connection.writerPending? number

/-- One turn. -/
inductive Action where
  /-- A caller arrives; the system answers so if the call has to start a worker. -/
  | invoke (call : Call) (started : Except SystemError Unit)
  /-- Somebody starts a read without waiting for it. -/
  | startRead (length : Nat) (started : Except SystemError Unit)
  /-- Somebody starts a write without waiting for it. -/
  | startWrite (data : List UInt8)
  /-- Somebody cancels a read. -/
  | cancel (read : Nat)
  /-- A thread goes on by itself. -/
  | advance (thread : Thread)
  /-- The bus answers the request of a thread. -/
  | answer (thread : Thread) (replies : Replies)
  /-- The deadline of a closing caller passes. -/
  | expire (call : Nat)

/-- Whether a caller can make a call: one can wait only for a read that nobody has waited for. -/
def permits (connection : Connection) : Call → Bool
  | .wait read => connection.reads[read]?.any (·.custody == .kept)
  | .waitInto read _ _ => connection.reads[read]?.any (·.custody == .kept)
  | _ => true

/-- The state after an action, if the action is possible. -/
def step? (connection : Connection) : Action → Option Connection
  | .invoke call started =>
    if connection.permits call then some (connection.invoke call started) else none
  | .startRead length started => some (connection.startRead length started).1
  | .startWrite data => some (connection.startWrite data).1
  | .cancel read => some (connection.cancel read)
  | .advance thread => connection.advance? thread
  | .answer thread replies =>
    (connection.pending? thread).map fun pending => pending.resume (replies pending.request)
  | .expire call => connection.expire? call

/-- The state after a course of actions, if all of them are possible. -/
def run? (connection : Connection) : List Action → Option Connection
  | [] => some connection
  | action :: rest => do run? (← connection.step? action) rest

/-- A connection that has not done anything. -/
def fresh (locator : Locator) (settings : Settings) : Connection where
  locator := locator
  settings := settings

/-- A state that some course of actions leads to. -/
def Reachable (locator : Locator) (settings : Settings) (connection : Connection) : Prop :=
  ∃ actions, (fresh locator settings).run? actions = some connection

/-- The request and reply that an action completes, if it completes one. -/
def exchange? (connection : Connection) :
    Action → Option (Thread × (request : Request) × request.Reply)
  | .answer thread replies =>
    (connection.pending? thread).map fun pending =>
      (thread, ⟨pending.request, replies pending.request⟩)
  | _ => none

end Connection

end CdcSerial
