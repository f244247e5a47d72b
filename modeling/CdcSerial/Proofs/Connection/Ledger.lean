import CdcSerial.Proofs.Connection.Soundness
import Mathlib.Data.List.Forall2
import Mathlib.Data.List.Nodup

/-!
# The ledger of a session's writes

The writes that were accepted for a session, in order, are those that its worker has sent, one
transfer for each, and behind them those that it has not sent. Where the worker stands says what the
second part is: the queue with the write in progress before it, nothing once the worker has stopped,
or what was lost when a transfer crashed. A crash can only be the last transfer.

`Ledger` states this for one session. `Errand` says what a step can do with writes, and it is the
steps of the worker of a session and the acceptance of a write that a ledger is kept along.
-/

namespace CdcSerial

/-- What waiting for a write gives, once it gives something. -/
def WriteState.result? : WriteState → Option (Except Error Nat)
  | .queued => none
  | .answered result => some result
  | .lost => some (.error .workerLost)

namespace BulkOut

/-- The result of the write whose transfer ends so. -/
def result : BulkOut → Except Error Nat
  | .accepted count => .ok count
  | .failed status => .error (.transferFailed .output status)
  | .crashed => .error .workerLost

/-- The state of the write whose transfer ends so. -/
def outcome : BulkOut → WriteState
  | .accepted count => .answered (.ok count)
  | .failed status => .answered (.error (.transferFailed .output status))
  | .crashed => .lost

/-- The point of a writer after a transfer that ends so. -/
def next : BulkOut → WriterStage
  | .crashed => .unwinding
  | _ => .waiting

theorem result?_outcome (reply : BulkOut) : reply.outcome.result? = some reply.result := by
  cases reply <;> rfl

end BulkOut

/-- A bulk transfer to a device, and how it ended. -/
structure Transmission where
  endpoint : UInt8
  data : List UInt8
  timeout : Duration
  reply : BulkOut

/-- The bulk transfer to a device that an event is. -/
def transmission? : Event → Option Transmission
  | ⟨.bulkOut _ endpoint data timeout, reply⟩ => some ⟨endpoint, data, timeout, reply⟩
  | _ => none

/-- The bulk transfers to devices among events. -/
def transmissions (events : List Event) : List Transmission := events.filterMap transmission?

theorem transmissions_append (first second : List Event) :
    transmissions (first ++ second) = transmissions first ++ transmissions second :=
  List.filterMap_append

/--
A write that was accepted: its number, its data and the caller that waits for it, if one does.
-/
structure Acceptance where
  write : Nat
  data : List UInt8
  caller : Option Nat

namespace Connection

/-- The number that a write to a session gets if it is started now. -/
def takes? (connection : Connection) (number : Nat) (data : List UInt8) : Option Nat :=
  match connection.openLink?, (connection.startWrite data).2 with
  | some link, .ok write => if link.session = number then some write else none
  | _, _ => none

/-- The write to a session that an action starts, if it is accepted. -/
def acceptance? (connection : Connection) (number : Nat) : Action → Option Acceptance
  | .startWrite data => (connection.takes? number data).map fun write => ⟨write, data, none⟩
  | .invoke (.write data) _ =>
    (connection.takes? number data).map fun write => ⟨write, data, some connection.tasks.length⟩
  | _ => none

/-- The writes that were accepted for a session, in order. -/
def acceptances (start : Connection) (number : Nat) (actions : List Action) : List Acceptance :=
  start.along (fun before action _ => (before.acceptance? number action).toList) actions

/-- What waiting for a write gives now. -/
def resolution? (connection : Connection) (write : Nat) : Option (Except Error Nat) :=
  connection.writes[write]?.bind (·.state.result?)

/-! ### Ledgers -/

/--
What remains to be sent, whether a transfer has crashed and what became of what remains, for a
writer at a point with a queue.
-/
inductive Desk : WriterStage → List Nat → List Nat → Bool → WriteState → Prop where
  | waiting {queue} : Desk .waiting queue queue false .queued
  | writing {write queue} : Desk (.writing write) queue (write :: queue) false .queued
  | unwinding {queue} : Desk .unwinding queue queue true .queued
  | stopped {stage} (dead : stage.hasQueue = false) : Desk stage [] [] false .queued
  | lost {stage unsent} (dead : stage.hasQueue = false) : Desk stage [] unsent true .lost

theorem Desk.of_over {stage next : WriterStage} {queue unsent : List Nat} {crashed : Bool}
    {state : WriteState} (was : stage.hasQueue = false) (is : next.hasQueue = false)
    (desk : Desk stage queue unsent crashed state) : Desk next queue unsent crashed state := by
  cases desk with
  | stopped => exact .stopped is
  | lost => exact .lost is
  | _ => cases was

/-- Whether the last transfer has crashed; no other has. -/
inductive Ends : Bool → List Transmission → Prop where
  | well {sent} (intact : ∀ transmission ∈ sent, transmission.reply ≠ .crashed) : Ends false sent
  | badly {earlier last} (intact : ∀ transmission ∈ earlier, transmission.reply ≠ .crashed)
      (crash : last.reply = .crashed) : Ends true (earlier ++ [last])

/-- That an accepted write is there, and its state. -/
def Filed (writes : List Write) (number : Nat) (state : WriteState) (acceptance : Acceptance) :
    Prop :=
  writes[acceptance.write]? = some ⟨number, acceptance.data, state⟩

/-- That an accepted write was sent and is in the state that goes with the reply. -/
structure Sent (settings : Settings) (writes : List Write) (number : Nat) (acceptance : Acceptance)
    (transmission : Transmission) : Prop where
  endpoint : transmission.endpoint = settings.endpointOut
  data : transmission.data = acceptance.data
  timeout : transmission.timeout = settings.writeTimeout
  filed : Filed writes number transmission.reply.outcome acceptance

/-- What was accepted for a session has been sent in order or remains. -/
structure Ledger (settings : Settings) (writes : List Write) (number : Nat)
    (accepted : List Acceptance) (sent : List Transmission) (stage : WriterStage)
    (queue : List Nat) : Prop where
  distinct : (accepted.map (·.write)).Nodup
  divided : ∃ done unsent crashed state, accepted = done ++ unsent ∧
    List.Forall₂ (Sent settings writes number) done sent ∧
    (∀ acceptance ∈ unsent, Filed writes number state acceptance) ∧ Ends crashed sent ∧
    Desk stage queue (unsent.map (·.write)) crashed state

/-- After a transfer the queue is what remains, and the writer goes on with it unless it crashed. -/
theorem Ends.of_reply {sent : List Transmission} (last : Transmission) (queue : List Nat)
    (intact : ∀ transmission ∈ sent, transmission.reply ≠ .crashed) :
    ∃ crashed,
      Ends crashed (sent ++ [last]) ∧ Desk last.reply.next queue queue crashed .queued := by
  have goesOn (fine : last.reply ≠ .crashed) : Ends false (sent ++ [last]) := by
    apply Ends.well
    intro transmission member
    rcases List.mem_append.mp member with old | new
    · exact intact transmission old
    · exact List.mem_singleton.mp new ▸ fine
  cases reply : last.reply with
  | accepted count => exact ⟨false, goesOn (by simp [reply]), .waiting⟩
  | failed status => exact ⟨false, goesOn (by simp [reply]), .waiting⟩
  | crashed => exact ⟨true, .badly intact reply, .unwinding⟩

namespace Ledger

variable {settings : Settings} {writes after : List Write} {number : Nat}
  {accepted : List Acceptance} {sent : List Transmission} {stage next : WriterStage}
  {queue : List Nat}

theorem empty : Ledger settings writes number [] [] .waiting [] where
  distinct := List.nodup_nil
  divided := ⟨[], [], false, .queued, rfl, .nil, nofun, .well nofun, .waiting⟩

/-- Every accepted write is there. -/
theorem filed (ledger : Ledger settings writes number accepted sent stage queue)
    {acceptance : Acceptance} (member : acceptance ∈ accepted) :
    ∃ state, Filed writes number state acceptance := by
  rcases ledger.divided with ⟨done, unsent, crashed, state, rfl, pairs, remains, -, -⟩
  rcases List.mem_append.mp member with early | late
  · rcases List.getElem?_of_mem early with ⟨place, found⟩
    rcases List.getElem?_eq_some_iff.mp found with ⟨inside, rfl⟩
    have paired := List.forall₂_iff_get.mp pairs
    exact ⟨_, (paired.2 place inside (paired.1 ▸ inside)).filed⟩
  · exact ⟨state, remains acceptance late⟩

/-- What remains while there is a queue waits to be sent, and the queue is the end of it. -/
theorem queued (ledger : Ledger settings writes number accepted sent stage queue)
    {write : Nat} (waits : write ∈ queue ∨ stage = .writing write) :
    ∃ data, writes[write]? = some ⟨number, data, .queued⟩ := by
  rcases ledger.divided with ⟨done, unsent, crashed, state, -, -, remains, -, desk⟩
  have listed : write ∈ unsent.map (·.write) ∧ state = .queued := by
    generalize unsent.map (·.write) = numbers at desk
    cases desk with
    | waiting => simpa using waits
    | writing => simpa [or_comm, eq_comm] using waits
    | unwinding => simpa using waits
    | stopped dead =>
        rcases waits with inQueue | rfl
        · cases inQueue
        · cases dead
    | lost dead =>
        rcases waits with inQueue | rfl
        · cases inQueue
        · cases dead
  rcases List.mem_map.mp listed.1 with ⟨acceptance, member, rfl⟩
  exact ⟨acceptance.data, listed.2 ▸ remains acceptance member⟩

theorem sent_of_writes {done : List Acceptance}
    (pairs : List.Forall₂ (Sent settings writes number) done sent)
    (same : ∀ acceptance ∈ done, after[acceptance.write]? = writes[acceptance.write]?) :
    List.Forall₂ (Sent settings after number) done sent := by
  have both := (List.forall₂_and_left done sent).mpr ⟨same, pairs⟩
  apply both.imp
  rintro acceptance transmission ⟨kept, was⟩
  refine ⟨was.endpoint, was.data, was.timeout, ?_⟩
  rw [Filed, kept]
  exact was.filed

/-- A ledger depends on the accepted writes only. -/
theorem of_writes (ledger : Ledger settings writes number accepted sent stage queue)
    (same : ∀ acceptance ∈ accepted, after[acceptance.write]? = writes[acceptance.write]?) :
    Ledger settings after number accepted sent stage queue := by
  rcases ledger with ⟨distinct, done, unsent, crashed, state, rfl, pairs, remains, ends, desk⟩
  refine ⟨distinct, done, unsent, crashed, state, rfl, ?_, ?_, ends, desk⟩
  · apply sent_of_writes pairs
    intro acceptance member
    exact same acceptance (List.mem_append_left _ member)
  · intro acceptance member
    rw [Filed, same acceptance (List.mem_append_right _ member)]
    exact remains acceptance member

/-- The writer goes on without a transfer. -/
theorem of_desk {further : List Nat}
    (ledger : Ledger settings writes number accepted sent stage queue)
    (moves : ∀ {unsent crashed state}, Desk stage queue unsent crashed state →
      Desk next further unsent crashed state) :
    Ledger settings writes number accepted sent next further := by
  rcases ledger with ⟨distinct, done, unsent, crashed, state, split, pairs, remains, ends, desk⟩
  exact ⟨distinct, done, unsent, crashed, state, split, pairs, remains, ends, moves desk⟩

/-- A write is accepted while there is a queue. -/
theorem accept {new : Acceptance}
    (ledger : Ledger settings writes number accepted sent stage queue)
    (alive : stage.hasQueue = true) (unknown : new.write ∉ accepted.map (·.write))
    (same : ∀ acceptance ∈ accepted, after[acceptance.write]? = writes[acceptance.write]?)
    (entered : Filed after number .queued new) :
    Ledger settings after number (accepted ++ [new]) sent stage (queue ++ [new.write]) := by
  rcases ledger.of_writes same with
    ⟨distinct, done, unsent, crashed, state, rfl, pairs, remains, ends, desk⟩
  have moves :
      Desk stage (queue ++ [new.write]) (unsent.map (·.write) ++ [new.write]) crashed state ∧
      state = .queued := by
    generalize unsent.map (·.write) = numbers at desk
    cases desk with
    | waiting => exact ⟨.waiting, rfl⟩
    | writing => exact ⟨.writing, rfl⟩
    | unwinding => exact ⟨.unwinding, rfl⟩
    | stopped dead => simp [dead] at alive
    | lost dead => simp [dead] at alive
  refine ⟨?_, done, unsent ++ [new], crashed, state, ?_, pairs, ?_, ends, ?_⟩
  · rw [List.map_append, List.map_singleton]
    exact List.nodup_append.mpr ⟨distinct, List.nodup_singleton _, fun one old other fresh => by
      cases List.mem_singleton.mp fresh
      exact fun equal => unknown (equal ▸ old)⟩
  · rw [List.append_assoc]
  · intro acceptance member
    rcases List.mem_append.mp member with old | fresh
    · exact remains acceptance old
    · rw [List.mem_singleton.mp fresh, moves.2]
      exact entered
  · simpa using moves.1

/-- A writer whose transfer crashed loses what it has not sent. -/
theorem unwind (ledger : Ledger settings writes number accepted sent .unwinding queue)
    (kept : ∀ write, write ∉ queue → after[write]? = writes[write]?)
    (lost : ∀ write ∈ queue, after[write]? = writes[write]?.map ({ · with state := .lost })) :
    Ledger settings after number accepted sent .leaving [] := by
  rcases ledger with ⟨distinct, done, unsent, crashed, state, rfl, pairs, remains, ends, desk⟩
  generalize numbered : unsent.map (·.write) = numbers at desk
  cases desk with
  | stopped dead => cases dead
  | lost dead => cases dead
  | unwinding =>
      refine ⟨distinct, done, unsent, true, .lost, rfl, ?_, ?_, ends, .lost rfl⟩
      · rw [List.map_append, List.nodup_append] at distinct
        apply sent_of_writes pairs
        intro acceptance member
        apply kept
        intro inQueue
        rw [← numbered] at inQueue
        exact distinct.2.2 _ (List.mem_map_of_mem member) _ inQueue rfl
      · intro acceptance member
        have inQueue : acceptance.write ∈ queue := numbered ▸ List.mem_map_of_mem member
        rw [Filed, lost _ inQueue,
          show writes[acceptance.write]? = _ from remains acceptance member]
        rfl

/--
A transfer ends: its write is settled, and the writer goes on to the next one unless it crashed.
-/
theorem wrote {write : Nat} {data : List UInt8} {state : WriteState} (reply : BulkOut)
    (ledger : Ledger settings writes number accepted sent (.writing write) queue)
    (was : writes[write]? = some ⟨number, data, state⟩)
    (settled : after[write]? = some ⟨number, data, reply.outcome⟩)
    (kept : ∀ other, other ≠ write → after[other]? = writes[other]?) :
    Ledger settings after number accepted
      (sent ++ [⟨settings.endpointOut, data, settings.writeTimeout, reply⟩]) reply.next queue := by
  rcases ledger with ⟨distinct, done, unsent, crashed, state, rfl, pairs, remains, ends, desk⟩
  have whole := distinct
  rw [List.map_append, List.nodup_append] at distinct
  rcases distinct with ⟨-, distinct, apart⟩
  generalize numbered : unsent.map (·.write) = numbers at desk
  cases desk with
  | stopped dead => cases dead
  | lost dead => cases dead
  | writing =>
      rcases List.map_eq_cons_iff.mp numbered with ⟨first, rest, rfl, rfl, rfl⟩
      cases ends with
      | well intact =>
          have here := remains first List.mem_cons_self
          rw [Filed, was, Option.some.injEq, Write.mk.injEq] at here
          rw [List.map_cons, List.nodup_cons] at distinct
          obtain ⟨crashed, ends, desk⟩ := Ends.of_reply
            ⟨settings.endpointOut, data, settings.writeTimeout, reply⟩ (rest.map (·.write)) intact
          refine ⟨whole, done ++ [first], rest, crashed, .queued, by simp, ?_, ?_, ends, desk⟩
          · apply List.rel_append
            · apply sent_of_writes pairs
              intro acceptance member
              apply kept
              exact apart _ (List.mem_map_of_mem member) _ List.mem_cons_self
            · refine .cons ⟨rfl, here.2.1, rfl, ?_⟩ .nil
              rw [Filed, settled, here.2.1]
          · intro acceptance member
            rw [Filed, kept]
            · exact remains acceptance (List.mem_cons_of_mem _ member)
            · intro same
              exact distinct.1 (same ▸ List.mem_map_of_mem member)

end Ledger

/-! ### What a step does with writes -/

/-- The point of a session's writer and its queue. -/
def desk (connection : Connection) (number : Nat) : Option (WriterStage × List Nat) :=
  connection.sessions[number]?.map fun session => (session.writer, session.queue)

theorem desk_of_getElem? {connection : Connection} {number : Nat} {session : Session}
    (found : connection.sessions[number]? = some session) :
    connection.desk number = some (session.writer, session.queue) := by
  simp [desk, found]

theorem desk_of_modify {before after : Connection} {changed : Nat} {change : Session → Session}
    (sessions : after.sessions = before.sessions.modify changed change)
    (same : ∀ session, (change session).writer = session.writer ∧
      (change session).queue = session.queue) (number : Nat) :
    after.desk number = before.desk number := by
  simp only [desk, sessions, List.getElem?_modify]
  cases before.sessions[number]? with
  | none => rfl
  | some session => by_cases here : changed = number <;> simp [here, same]

theorem desk_changeSession_ne (connection : Connection) {changed number : Nat}
    (change : Session → Session) (ne : changed ≠ number) :
    (connection.changeSession changed change).desk number = connection.desk number := by
  simp [desk, changeSession, ne]

theorem desk_changeSession_self {connection : Connection} {number : Nat} {session : Session}
    (found : connection.sessions[number]? = some session) (change : Session → Session) :
    (connection.changeSession number change).desk number =
      some ((change session).writer, (change session).queue) := by
  simp [desk, changeSession, found]

/-- What a step does with the writes and the writers of sessions. -/
inductive Errand (before : Connection) : Action → Option Exchange → Connection → Prop where
  | aside {action exchange? after}
      (desks : ∀ number, after.desk number = before.desk number ∨
        before.desk number = none ∧ after.desk number = some (.waiting, []))
      (writes : after.writes = before.writes)
      (refused : ∀ number, before.acceptance? number action = none)
      (silent : ∀ number, transmissions (eventsOf (.writer number) exchange?.toList) = []) :
      Errand before action exchange? after
  | accepts {action after session stage queue} (new : Acceptance)
      (here : before.desk session = some (stage, queue)) (alive : stage.hasQueue = true)
      (numbered : new.write = before.writes.length)
      (taken : ∀ number, before.acceptance? number action =
        if session = number then some new else none)
      (writes : after.writes = before.writes ++ [⟨session, new.data, .queued⟩])
      (queued : after.desk session = some (stage, queue ++ [new.write]))
      (elsewhere : ∀ number, number ≠ session → after.desk number = before.desk number) :
      Errand before action none after
  | turns {number session after} (found : before.sessions[number]? = some session)
      (turn : WriterTurn before number session after) :
      Errand before (.advance (.writer number)) none after
  | answered {number session request replies after}
      (found : before.sessions[number]? = some session)
      (answer : WriterAnswer before number session request (replies request) after) :
      Errand before (.answer (.writer number) replies)
        (some (.writer number, ⟨request, replies request⟩)) after

section Errands

variable {before after : Connection} {action : Action} {exchange? : Option Exchange}

theorem ReadStart.desk_eq {length : Nat} {result : Except Error Nat}
    (start : ReadStart before length after result) (number : Nat) :
    after.desk number = before.desk number := by
  cases start with
  | polls => exact desk_of_modify rfl (by simp) number
  | _ => rfl

theorem startWrite_of_start {data : List UInt8} {result : Except Error Nat}
    (start : WriteStart before data after result) : before.startWrite data = (after, result) := by
  cases start with
  | notOpen closed => simp [startWrite, closed]
  | workerLost opened dead =>
      rename_i link
      cases found : before.sessions[link.session]? with
      | none => simp [startWrite, opened, found]
      | some session => simp [startWrite, opened, found, dead session found]
  | queued opened found alive => simp [startWrite, opened, found, alive, changeSession]

theorem takes?_of_error {data : List UInt8} {error : Error}
    (start : WriteStart before data after (.error error)) (number : Nat) :
    before.takes? number data = none := by
  unfold takes?
  rw [startWrite_of_start start]
  cases before.openLink? <;> rfl

theorem Refusal.acceptance?_eq {call : Call} {error : Error} (reason : Refusal before call error)
    (started : Except SystemError Unit) (number : Nat) :
    before.acceptance? number (.invoke call started) = none := by
  cases reason with
  | alreadyOpen asked => cases asked <;> rfl
  | notWritten start => simp [acceptance?, takes?_of_error start]
  | notConfigurable asked => cases asked <;> rfl
  | _ => rfl

/-- A write that is accepted, whoever starts it. -/
theorem Errand.of_queued {data : List UInt8} {write : Nat} {caller : Option Nat}
    {tasks : List Task} (start : WriteStart before data after (.ok write))
    (accepts : ∀ number, before.acceptance? number action =
      (before.takes? number data).map fun write => ⟨write, data, caller⟩) :
    Errand before action none { after with tasks } := by
  have result := startWrite_of_start start
  cases start with
  | @queued link session opened found alive =>
      refine .accepts ⟨before.writes.length, data, caller⟩ (desk_of_getElem? found) alive rfl ?_ rfl
        ?_ ?_
      · intro number
        rw [accepts, takes?, result, opened]
        by_cases same : link.session = number <;> simp [same]
      · exact desk_changeSession_self found _
      · intro number ne
        exact desk_changeSession_ne before _ (Ne.symm ne)

theorem Entry.errand {call : Call} {task : Task} (entry : Entry before call after task)
    (started : Except SystemError Unit) :
    Errand before (.invoke call started) none (after.addTask task) := by
  cases entry with
  | refuses reason =>
      exact .aside (fun _ => .inl rfl) rfl (reason.acceptance?_eq started) fun _ => rfl
  | opens asked closed =>
      refine .aside (fun _ => .inl rfl) rfl (fun _ => ?_) fun _ => rfl
      cases asked <;> rfl
  | reads fits start =>
      exact .aside (fun number => .inl (start.desk_eq number)) start.frame.2.2.2 (fun _ => rfl)
        fun _ => rfl
  | readFails fits start =>
      exact .aside (fun number => .inl (start.desk_eq number)) start.frame.2.2.2 (fun _ => rfl)
        fun _ => rfl
  | writes start => exact .of_queued start fun _ => rfl
  | configures asked opened found =>
      refine .aside (fun number => .inl ?_) rfl (fun _ => ?_) fun _ => rfl
      · exact desk_of_modify rfl (by simp) number
      · cases asked <;> rfl
  | _ => exact .aside (fun _ => .inl rfl) rfl (fun _ => rfl) fun _ => rfl

theorem Turn.desk_eq {call : Nat} {task next : Task} (turn : Turn before call task after next)
    (number : Nat) : after.desk number = before.desk number ∨
      before.desk number = none ∧ after.desk number = some (.waiting, []) := by
  cases turn with
  | lists progress =>
      rcases progress.only_tells with ⟨journal, rfl⟩
      exact .inl rfl
  | opens progress =>
      rcases progress.only_tells with ⟨journal, rfl⟩
      exact .inl rfl
  | releases progress =>
      rcases progress.only_tells with ⟨journal, rfl⟩
      exact .inl rfl
  | configures progress =>
      rcases progress.only_lane with ⟨journal, rfl⟩ | rfl
      · exact .inl rfl
      · exact .inl (desk_of_modify rfl (by simp) number)
  | @reached address config handle begun =>
      rcases Nat.lt_trichotomy number before.sessions.length with old | new | outside
      · left
        simp [desk, List.getElem?_append_left old]
      · right
        simp [desk, new, newSession]
      · left
        have beyond : (before.sessions ++ [newSession handle]).length ≤ number := by simpa
        simp [desk, List.getElem?_eq_none beyond, Nat.le_of_lt outside]
  | returnsClone => exact .inl (desk_of_modify rfl (by simp) number)
  | returnsTicket => exact .inl (desk_of_modify rfl (by simp) number)
  | takesLink => exact .inl (desk_of_modify rfl (by simp) number)
  | regains => exact .inl (desk_of_modify rfl (by simp) number)
  | findsOwners => exact .inl (desk_of_modify rfl (by simp) number)
  | _ => exact .inl rfl

theorem Turn.writes_eq {call : Nat} {task next : Task} (turn : Turn before call task after next) :
    after.writes = before.writes := by
  cases turn with
  | lists progress =>
      rcases progress.only_tells with ⟨journal, rfl⟩
      rfl
  | opens progress =>
      rcases progress.only_tells with ⟨journal, rfl⟩
      rfl
  | releases progress =>
      rcases progress.only_tells with ⟨journal, rfl⟩
      rfl
  | configures progress =>
      obtain ⟨journal, rfl⟩ | rfl := progress.only_lane <;> rfl
  | _ => rfl

theorem CallAnswer.desk_eq {call : Nat} {task next : Task} {request : Request}
    {reply : request.Reply} (answer : CallAnswer before call task request reply after next)
    (number : Nat) : after.desk number = before.desk number := by
  cases answer with
  | configuring => exact desk_of_modify rfl (by simp) number
  | _ => rfl

theorem ReaderTurn.desk_eq {read : Read} {stage : ReaderStage}
    (turn : ReaderTurn before read after stage) (number : Nat) :
    after.desk number = before.desk number := by
  cases turn with
  | leaves => exact desk_of_modify rfl (by simp) number
  | leavesLast => exact desk_of_modify rfl (by simp) number
  | _ => rfl

theorem Move.errand (move : Move before action exchange? after) :
    Errand before action exchange? after := by
  cases move with
  | enters permitted entry => exact entry.errand _
  | startsRead start =>
      exact .aside (fun number => .inl (start.desk_eq number)) start.frame.2.2.2 (fun _ => rfl)
        fun _ => rfl
  | startsWrite start =>
      rename_i data result
      cases result with
      | ok write => exact .of_queued start fun _ => rfl
      | error error =>
          have refused (number : Nat) : before.acceptance? number (.startWrite data) = none := by
            simp [acceptance?, takes?_of_error start]
          cases start with
          | notOpen => exact .aside (fun _ => .inl rfl) rfl refused fun _ => rfl
          | workerLost => exact .aside (fun _ => .inl rfl) rfl refused fun _ => rfl
  | cancels => exact .aside (fun _ => .inl rfl) rfl (fun _ => rfl) fun _ => rfl
  | turns stands turn => exact .aside turn.desk_eq turn.writes_eq (fun _ => rfl) fun _ => rfl
  | answered stands answer =>
      refine .aside (fun number => .inl (answer.desk_eq number)) ?_ (fun _ => rfl) fun number => ?_
      · rcases answer.frame with ⟨-, sessions, rfl⟩
        rfl
      · rw [Option.toList_some, eventsOf_of_ne (by simp)]
        rfl
  | readerTurns found turn =>
      refine .aside (fun number => .inl (turn.desk_eq number)) ?_ (fun _ => rfl) fun _ => rfl
      rcases turn.frame with ⟨backlog, sessions, rfl⟩
      rfl
  | readerAnswered found held answer =>
      refine .aside (fun _ => .inl rfl) rfl (fun _ => rfl) fun number => ?_
      rw [Option.toList_some, eventsOf_of_ne (by simp)]
      rfl
  | writerTurns found turn => exact .turns found turn
  | writerAnswered found answer => exact .answered found answer
  | expires => exact .aside (fun _ => .inl rfl) rfl (fun _ => rfl) fun _ => rfl

end Errands

/-! ### The ledgers of all sessions -/

/--
Every session has a ledger, and for sessions that have not begun nothing was accepted or sent.
-/
structure Ledgers (settings : Settings) (accepted : Nat → List Acceptance)
    (exchanges : List Exchange) (connection : Connection) : Prop where
  kept : ∀ {number stage queue}, connection.desk number = some (stage, queue) →
    Ledger settings connection.writes number (accepted number)
      (transmissions (eventsOf (.writer number) exchanges)) stage queue
  unused : ∀ {number}, connection.desk number = none →
    accepted number = [] ∧ transmissions (eventsOf (.writer number) exchanges) = []

theorem fresh_ledgers (locator : Locator) (settings : Settings) :
    Ledgers settings (fun _ => []) [] (fresh locator settings) where
  kept := nofun
  unused _ := ⟨rfl, rfl⟩

theorem loseAll_writes (connection : Connection) (queue : List Nat) (write : Nat) :
    (connection.loseAll queue).writes[write]? =
      if write ∈ queue then connection.writes[write]?.map ({ · with state := .lost })
      else connection.writes[write]? := by
  induction queue generalizing connection with
  | nil => rfl
  | cons first rest ih =>
      change ((connection.settleWrite first .lost).loseAll rest).writes[write]? = _
      rw [ih]
      simp only [settleWrite, changeWrite, List.getElem?_modify, List.mem_cons]
      cases connection.writes[write]? with
      | none => simp
      | some found =>
          by_cases here : first = write
          · simp [here]
          · by_cases later : write ∈ rest <;> simp [here, later, Ne.symm here]

theorem afterWrite_eq (connection : Connection) (number write : Nat) (reply : BulkOut) :
    connection.afterWrite number write reply =
      (connection.settleWrite write reply.outcome).setWriter number reply.next := by
  cases reply <;> rfl

/--
A step of the worker of a session: the ledger goes on, and of the writes at most those change that
wait in that session.
-/
structure Serves (settings : Settings) (before after : Connection) (number : Nat)
    (accepted : List Acceptance) (sent : List Transmission) : Prop where
  ledger : ∀ {stage queue}, after.desk number = some (stage, queue) →
    Ledger settings after.writes number accepted sent stage queue
  present : after.desk number ≠ none
  elsewhere : ∀ {other}, other ≠ number → after.desk other = before.desk other
  changed : ∀ write : Nat, after.writes[write]? = before.writes[write]? ∨
    ∃ data, before.writes[write]? = some ⟨number, data, .queued⟩

section Service

variable {settings : Settings} {before after : Connection} {number : Nat} {session : Session}
  {accepted : List Acceptance} {sent : List Transmission}

/-- A step that changes the point of the writer and its queue, and the writes as told. -/
theorem Serves.of_change {middle : Connection} (found : middle.sessions[number]? = some session)
    (desks : ∀ other, middle.desk other = before.desk other) (change : Session → Session)
    (ledger : Ledger settings middle.writes number accepted sent (change session).writer
      (change session).queue)
    (changed : ∀ write : Nat, middle.writes[write]? = before.writes[write]? ∨
      ∃ data, before.writes[write]? = some ⟨number, data, .queued⟩) :
    Serves settings before (middle.changeSession number change) number accepted sent := by
  have here := desk_changeSession_self found change
  refine ⟨?_, ?_, ?_, changed⟩
  · intro stage queue stands
    rw [here, Option.some.injEq, Prod.mk.injEq] at stands
    rcases stands with ⟨rfl, rfl⟩
    exact ledger
  · simp [here]
  · intro other ne
    rw [desk_changeSession_ne middle change (Ne.symm ne), desks]

theorem WriterTurn.serves (turn : WriterTurn before number session after)
    (found : before.sessions[number]? = some session)
    (ledger : Ledger settings before.writes number accepted sent session.writer session.queue) :
    Serves settings before after number accepted sent := by
  have dropped : (before.dropClone number).sessions[number]? =
      some { session with clones := session.clones - 1 } := by
    simp [dropClone, changeSession, found]
  cases turn with
  | picks waiting queued =>
      apply Serves.of_change found (fun _ => rfl) _ _ fun _ => .inl rfl
      rw [waiting, queued] at ledger
      apply ledger.of_desk
      intro unsent crashed state desk
      cases desk
      exact .writing
  | stops waiting empty hungUp =>
      apply Serves.of_change found (fun _ => rfl) _ _ fun _ => .inl rfl
      change Ledger settings before.writes number accepted sent .leaving session.queue
      rw [waiting, empty] at ledger
      rw [empty]
      apply ledger.of_desk
      intro unsent crashed state desk
      cases desk with
      | waiting => exact .stopped rfl
      | stopped was => cases was
      | lost was => cases was
  | unwinds unwinding =>
      have waits {write : Nat} (inside : write ∈ session.queue) := ledger.queued (.inl inside)
      rw [unwinding] at ledger
      have lost := before.loseAll_writes session.queue
      rcases loseAll_frame before session.queue with ⟨writes, frame⟩
      apply Serves.of_change (by rw [frame]; exact found) (fun _ => by rw [frame]; rfl)
      · apply ledger.unwind
        · intro write outside
          rw [lost, if_neg outside]
        · intro write inside
          rw [lost, if_pos inside]
      · intro write
        by_cases inside : write ∈ session.queue
        · exact .inr (waits inside)
        · exact .inl (by rw [lost, if_neg inside])
  | leaves leaving others =>
      rw [leaving] at ledger
      exact Serves.of_change dropped (desk_of_modify rfl (by simp)) _
        (ledger.of_desk (Desk.of_over rfl rfl))
        fun _ => .inl rfl
  | leavesLast leaving last =>
      rw [leaving] at ledger
      exact Serves.of_change dropped (desk_of_modify rfl (by simp)) _
        (ledger.of_desk (Desk.of_over rfl rfl))
        fun _ => .inl rfl

theorem WriterAnswer.serves {request : Request} {reply : request.Reply}
    (answer : WriterAnswer before number session request reply after)
    (set : before.settings = settings) (found : before.sessions[number]? = some session)
    (ledger : Ledger settings before.writes number accepted sent session.writer session.queue) :
    Serves settings before after number accepted
      (sent ++ transmissions [⟨request, reply⟩]) := by
  cases answer with
  | @wrote write reply writing =>
      rcases ledger.queued (.inr writing) with ⟨data, was⟩
      rw [writing] at ledger
      rw [afterWrite_eq, set, was]
      have stays : (before.settleWrite write reply.outcome).sessions[number]? =
          some session := found
      have desks (other : Nat) :
        (before.settleWrite write reply.outcome).desk other = before.desk other := rfl
      apply Serves.of_change stays desks
      · apply ledger.wrote reply was
        · simp [settleWrite, changeWrite, was]
        · intro other ne
          simp [settleWrite, changeWrite, Ne.symm ne]
      · intro other
        by_cases here : other = write
        · exact .inr ⟨data, here ▸ was⟩
        · exact .inl (by simp [settleWrite, changeWrite, Ne.symm here])
  | @closed reply closing =>
      rw [closing] at ledger
      have silent : transmissions [⟨.closeHandle session.handle, reply⟩] = [] := rfl
      rw [silent, List.append_nil]
      exact Serves.of_change found (fun _ => rfl) _ (ledger.of_desk (Desk.of_over rfl rfl))
        fun _ => .inl rfl

end Service

theorem eventsOf_singleton (thread : Thread) (event : Event) :
    eventsOf thread [(thread, event)] = [event] := by
  simp [eventsOf]

namespace Ledgers

variable {settings : Settings} {accepted : Nat → List Acceptance} {exchanges : List Exchange}
  {before after : Connection} {action : Action} {exchange? : Option Exchange}

theorem of_serves {number : Nat} (more : List Exchange)
    (ledgers : Ledgers settings accepted exchanges before)
    (serves : Serves settings before after number (accepted number)
      (transmissions (eventsOf (.writer number) (exchanges ++ more))))
    (others : ∀ {other}, other ≠ number → eventsOf (.writer other) more = []) :
    Ledgers settings accepted (exchanges ++ more) after := by
  constructor
  · intro other stage queue here
    by_cases same : other = number
    · subst same
      exact serves.ledger here
    · rw [serves.elsewhere same] at here
      rw [eventsOf_append, others same, List.append_nil]
      have ledger := ledgers.kept here
      apply ledger.of_writes
      intro acceptance member
      rcases ledger.filed member with ⟨state, filed⟩
      rcases serves.changed acceptance.write with kept | ⟨data, waits⟩
      · exact kept
      · -- A write that the worker settles is one of its own session.
        rw [Filed, waits, Option.some.injEq, Write.mk.injEq] at filed
        exact absurd filed.1.symm same
  · intro other gone
    have ne : other ≠ number := by
      rintro rfl
      exact serves.present gone
    rw [serves.elsewhere ne] at gone
    rw [eventsOf_append, others ne, List.append_nil]
    exact ledgers.unused gone

theorem of_accepted {session : Nat} {stage : WriterStage} {queue : List Nat} {new : Acceptance}
    (ledgers : Ledgers settings accepted exchanges before)
    (here : before.desk session = some (stage, queue)) (alive : stage.hasQueue = true)
    (numbered : new.write = before.writes.length)
    (writes : after.writes = before.writes ++ [⟨session, new.data, .queued⟩])
    (queued : after.desk session = some (stage, queue ++ [new.write]))
    (elsewhere : ∀ number, number ≠ session → after.desk number = before.desk number) :
    Ledgers settings (fun number => accepted number ++ if session = number then [new] else [])
      exchanges after := by
  have inside {number : Nat} {acceptance : Acceptance} {stage : WriterStage} {queue : List Nat}
      (ledger : Ledger settings before.writes number (accepted number)
        (transmissions (eventsOf (.writer number) exchanges)) stage queue)
      (member : acceptance ∈ accepted number) : acceptance.write < before.writes.length := by
    rcases ledger.filed member with ⟨state, filed⟩
    exact (List.getElem?_eq_some_iff.mp filed).1
  have same {place : Nat} (old : place < before.writes.length) :
      after.writes[place]? = before.writes[place]? := by
    rw [writes, List.getElem?_append_left old]
  constructor
  · intro number stage' queue' stands
    by_cases this : session = number
    · subst this
      rw [queued, Option.some.injEq, Prod.mk.injEq] at stands
      rcases stands with ⟨rfl, rfl⟩
      have ledger := ledgers.kept here
      rw [if_pos rfl]
      apply ledger.accept alive
      · intro known
        rcases List.mem_map.mp known with ⟨acceptance, member, equal⟩
        have old := inside ledger member
        omega
      · intro acceptance member
        exact same (inside ledger member)
      · rw [Filed, writes, numbered, List.getElem?_concat_length]
    · rw [elsewhere number (Ne.symm this)] at stands
      rw [if_neg this, List.append_nil]
      have ledger := ledgers.kept stands
      apply ledger.of_writes
      intro acceptance member
      exact same (inside ledger member)
  · intro number gone
    have ne : session ≠ number := by
      rintro rfl
      simp [queued] at gone
    rw [elsewhere number (Ne.symm ne)] at gone
    rw [if_neg ne, List.append_nil]
    exact ledgers.unused gone

theorem of_errand (ledgers : Ledgers settings accepted exchanges before)
    (set : before.settings = settings) (errand : Errand before action exchange? after) :
    Ledgers settings (fun number => accepted number ++ (before.acceptance? number action).toList)
      (exchanges ++ exchange?.toList) after := by
  cases errand with
  | aside desks writes refused silent =>
      simp only [refused, Option.toList_none, List.append_nil]
      constructor
      · intro number stage queue stands
        rw [eventsOf_append, transmissions_append, silent, List.append_nil, writes]
        rcases desks number with same | ⟨bare, new⟩
        · exact ledgers.kept (same ▸ stands)
        · rw [new, Option.some.injEq, Prod.mk.injEq] at stands
          rcases stands with ⟨rfl, rfl⟩
          rw [(ledgers.unused bare).1, (ledgers.unused bare).2]
          exact .empty
      · intro number gone
        rw [eventsOf_append, transmissions_append, silent, List.append_nil]
        rcases desks number with same | ⟨bare, new⟩
        · exact ledgers.unused (same ▸ gone)
        · exact ledgers.unused bare
  | accepts new here alive numbered taken writes queued elsewhere =>
      have accepts := ledgers.of_accepted here alive numbered writes queued elsewhere
      rw [Option.toList_none, List.append_nil]
      simpa only [taken, apply_ite Option.toList, Option.toList_some,
        Option.toList_none] using accepts
  | @turns number session _ found turn =>
      simp only [acceptance?, Option.toList_none, List.append_nil]
      have serves := turn.serves found (ledgers.kept (desk_of_getElem? found))
      have further := ledgers.of_serves [] (by rwa [List.append_nil]) fun _ => rfl
      rwa [List.append_nil] at further
  | @answered number session request replies _ found answer =>
      simp only [acceptance?, Option.toList_none, Option.toList_some, List.append_nil (accepted _)]
      have serves := answer.serves set found (ledgers.kept (desk_of_getElem? found))
      rw [← transmissions_append, ← eventsOf_singleton (.writer number),
        ← eventsOf_append] at serves
      apply ledgers.of_serves _ serves
      intro other ne
      exact eventsOf_of_ne (by simpa using Ne.symm ne) _

/-- What waiting for a write gives does not change any more. -/
theorem resolution?_of_errand {write : Nat} {result : Except Error Nat}
    (ledgers : Ledgers settings accepted exchanges before) (set : before.settings = settings)
    (errand : Errand before action exchange? after)
    (settled : before.resolution? write = some result) : after.resolution? write = some result := by
  have of_serves {number : Nat} {mine : List Acceptance} {sent : List Transmission}
      (serves : Serves settings before after number mine sent) :
      after.resolution? write = some result := by
    rcases serves.changed write with kept | ⟨data, waits⟩
    · rw [resolution?, kept]
      exact settled
    · simp [resolution?, waits, WriteState.result?] at settled
  cases errand with
  | aside desks writes =>
      rw [resolution?, writes]
      exact settled
  | accepts new here alive numbered taken writes =>
      rcases Option.bind_eq_some_iff.mp settled with ⟨found, there, -⟩
      rcases List.getElem?_eq_some_iff.mp there with ⟨inside, -⟩
      rw [resolution?, writes, List.getElem?_append_left inside]
      exact settled
  | turns found turn => exact of_serves (turn.serves found (ledgers.kept (desk_of_getElem? found)))
  | answered found answer =>
      exact of_serves (answer.serves set found (ledgers.kept (desk_of_getElem? found)))

end Ledgers

theorem ledgers_of_run {locator : Locator} {settings : Settings} {actions : List Action}
    {connection : Connection} (ran : (fresh locator settings).run? actions = some connection) :
    Ledgers settings (fun number => (fresh locator settings).acceptances number actions)
      ((fresh locator settings).exchanges actions) connection := by
  refine run_induction (motive := fun actions connection =>
    Ledgers settings (fun number => (fresh locator settings).acceptances number actions)
      ((fresh locator settings).exchanges actions) connection)
      (fresh_ledgers locator settings) ?_ ran
  intro actions middle action final ranBefore ledgers stepped
  have set := (sound_of_run ranBefore).placed.set
  have further := ledgers.of_errand set (Move.of_step? stepped).errand
  simpa only [acceptances, along_concat ranBefore stepped, exchanges_concat ranBefore stepped]
    using further

end Connection

end CdcSerial
