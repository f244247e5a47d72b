import CdcSerial.Proofs.Connection.Serving
import CdcSerial.Proofs.Connection.Writing

/-!
# A write among others

Whatever goes on around it, a write that was accepted stays as it is until one of two things
happens: a transfer with its own data ends, or it is lost with the worker of its session. From then
on it does not change any more.

On a quiet port a caller that writes has the port for itself: until its call ends, all turns are its
own or those of the worker of its session (`Dispatching.acts`).
-/

namespace CdcSerial

namespace Connection

/-! ### What becomes of a write -/

/-- The transfer with the data of a write that an exchange is. -/
def transmissionFor? (connection : Connection) (number : Nat) : Exchange → Option Transmission
  | (.writer session, event) =>
    if (connection.desk session).map Prod.fst = some (.writing number) then transmission? event
    else none
  | _ => none

theorem transmission?_of_transmissionFor? {connection : Connection} {number : Nat}
    {exchange : Exchange} {last : Transmission}
    (made : connection.transmissionFor? number exchange = some last) :
    transmission? exchange.2 = some last := by
  rcases exchange with ⟨thread, event⟩
  cases thread with
  | writer session => exact (Option.ite_none_right_eq_some.mp made).2
  | _ => cases made

/-- What a step makes of a write, and the transfer with its data that the step completes. -/
inductive WriteFate (write : Write) : Option Transmission → Option Write → Prop where
  | stays : WriteFate write none (some write)
  | answered {last : Transmission} (waited : write.state = .queued)
      (data : last.data = write.data) :
      WriteFate write (some last) (some { write with state := last.reply.outcome })
  | lost (waited : write.state = .queued) :
      WriteFate write none (some { write with state := .lost })

section Fates

variable {settings : Settings} {accepted : Nat → List Acceptance} {exchanges : List Exchange}
  {before after : Connection} {action : Action} {exchange? : Option Exchange} {number : Nat}
  {write : Write}

theorem transmissionFor?_of_silent
    (silent : ∀ session, transmissions (eventsOf (.writer session) exchange?.toList) = []) :
    exchange?.bind (before.transmissionFor? number) = none := by
  cases exchange? with
  | none => rfl
  | some exchange =>
      rcases exchange with ⟨thread, event⟩
      cases thread with
      | writer session =>
          have nothing := silent session
          rw [Option.toList_some, eventsOf_singleton, transmissions, List.filterMap_cons] at nothing
          cases sent : transmission? event with
          | some last => simp [sent] at nothing
          | none => simp [transmissionFor?, sent]
      | _ => rfl

theorem WriterTurn.writeFate {place : Nat} {session : Session}
    (ledgers : Ledgers settings accepted exchanges before)
    (found : before.sessions[place]? = some session)
    (turn : WriterTurn before place session after) (stored : before.writes[number]? = some write) :
    WriteFate write none after.writes[number]? := by
  cases turn with
  | unwinds =>
      change WriteFate write none (before.loseAll session.queue).writes[number]?
      rw [loseAll_writes, stored]
      split
      · next inside =>
          rcases (ledgers.kept (desk_of_getElem? found)).queued (.inl inside) with ⟨data, waits⟩
          cases stored.symm.trans waits
          exact .lost rfl
      · exact .stays
  | _ => exact stored ▸ .stays

theorem WriterAnswer.writeFate {place : Nat} {session : Session} {request : Request}
    {reply : request.Reply} (ledgers : Ledgers settings accepted exchanges before)
    (found : before.sessions[place]? = some session)
    (answer : WriterAnswer before place session request reply after)
    (stored : before.writes[number]? = some write) :
    WriteFate write (before.transmissionFor? number (.writer place, ⟨request, reply⟩))
      after.writes[number]? := by
  have here := desk_of_getElem? found
  cases answer with
  | closed =>
      simp only [transmissionFor?, transmission?, ite_self]
      exact stored ▸ .stays
  | @wrote current reply writing =>
      rw [afterWrite_eq]
      change WriteFate write _ (before.settleWrite current reply.outcome).writes[number]?
      by_cases own : current = number
      · subst own
        rcases (ledgers.kept here).queued (.inr writing) with ⟨data, waits⟩
        cases stored.symm.trans waits
        simp only [transmissionFor?, here, Option.map_some, writing, if_true, transmission?, stored,
          Option.getD_some, settleWrite, changeWrite, List.getElem?_modify_eq]
        exact .answered rfl rfl
      · have other : WriterStage.writing current ≠ .writing number := by simpa using own
        simp only [transmissionFor?, here, Option.map_some, writing, Option.some.injEq, other,
          if_false, settleWrite, changeWrite, List.getElem?_modify_ne _ _ own, stored]
        exact .stays

theorem Move.writeFate (ledgers : Ledgers settings accepted exchanges before)
    (move : Move before action exchange? after) (stored : before.writes[number]? = some write) :
    WriteFate write (exchange?.bind (before.transmissionFor? number)) after.writes[number]? := by
  cases move.errand with
  | aside desks writes refused silent =>
      rw [transmissionFor?_of_silent silent, writes, stored]
      exact .stays
  | accepts new here alive numbered taken writes =>
      rcases List.getElem?_eq_some_iff.mp stored with ⟨inside, -⟩
      rw [writes, List.getElem?_append_left inside, stored]
      exact .stays
  | turns found turn => exact turn.writeFate ledgers found stored
  | answered found answer => exact answer.writeFate ledgers found stored

end Fates

/-! ### A write on a quiet port -/

/-- The port is open, and the worker of its writes waits for one. -/
def TakesWrites (connection : Connection) : Prop :=
  ∃ link session, connection.openLink? = some link ∧
    connection.sessions[link.session]? = some session ∧ session.writer = .waiting

/-- A caller waits for a write to a session, and nobody but its worker has anything else to do. -/
structure Dispatching (call write place : Nat) (session : Session) (connection : Connection) :
    Prop where
  opened : connection.openLink?.map Link.session = some place
  alone : Alone call connection
  stands : connection.tasks[call]? = some (.awaitingWrite write)
  reads : ∀ read ∈ connection.reads, read.isFinished = true
  found : connection.sessions[place]? = some session
  wanted : session.hungUp = false
  others : ∀ {other idle}, connection.sessions[other]? = some idle → other ≠ place →
    idle.isIdle = true

/-- The turns of the caller and of the worker while a write is on its way. -/
inductive Dispatched (before : Connection) (call write place : Nat) (session : Session) :
    Option Exchange → Connection → Prop where
  | works {after} (turn : WriterTurn before place session after) :
      Dispatched before call write place session none after
  | hears {request reply after} (answer : WriterAnswer before place session request reply after) :
      Dispatched before call write place session (some (.writer place, ⟨request, reply⟩)) after
  | fetches {changed next} (turn : Turn before call (.awaitingWrite write) changed next) :
      Dispatched before call write place session none (changed.setTask call next)

/--
Where a write is that is alone on its way: what waiting for it gives, where the worker stands, its
queue, and how many turns are left.
-/
inductive Leg (write : Nat) : Option (Except Error Nat) → WriterStage → List Nat → Nat → Prop where
  | queued : Leg write none .waiting [write] 3
  | sending : Leg write none (.writing write) [] 2
  | settled {result} : Leg write (some result) .waiting [] 1

section Turns

variable {before after : Connection} {action : Action} {exchange? : Option Exchange}
  {call write place : Nat} {session : Session}

namespace Dispatching

/-- Only the caller and the worker of its session take turns. -/
theorem acts (dispatching : Dispatching call write place session before)
    (move : Move before action exchange? after) (turned : action.thread?.isSome = true) :
    Dispatched before call write place session exchange? after := by
  have worker {other : Nat} {busy : Session} (found : before.sessions[other]? = some busy)
      (working : busy.isIdle = false) : other = place ∧ busy = session := by
    obtain rfl : other = place := by
      by_contra apart
      cases working.symm.trans (dispatching.others found apart)
    exact ⟨rfl, Option.some.inj (found.symm.trans dispatching.found)⟩
  cases move with
  | enters | startsRead | startsWrite | cancels => cases turned
  | turns stands turn =>
      rcases dispatching.alone.caller dispatching.stands stands turn.not_over with ⟨rfl, rfl⟩
      exact .fetches turn
  | answered stands answer =>
      rcases dispatching.alone.caller dispatching.stands stands answer.not_over with ⟨rfl, rfl⟩
      cases answer
  | readerTurns found turn =>
      cases turn.unfinished.symm.trans (dispatching.reads _ (List.mem_of_getElem? found))
  | readerAnswered found held answer =>
      cases answer.unfinished.symm.trans (dispatching.reads _ (List.mem_of_getElem? found))
  | writerTurns found turn =>
      rcases worker found turn.not_idle with ⟨rfl, rfl⟩
      exact .works turn
  | writerAnswered found answer =>
      rcases worker found answer.not_idle with ⟨rfl, rfl⟩
      exact .hears answer
  | expires stands => cases (dispatching.alone.caller dispatching.stands stands rfl).2

/-- The worker goes on with its work, and the state of a write may change. -/
theorem changeSession (dispatching : Dispatching call write place session before)
    (writes : List Write) (change : Session → Session) (wanted : (change session).hungUp = false) :
    Dispatching call write place (change session)
      (({ before with writes }).changeSession place change) where
  opened := dispatching.opened
  alone := ⟨dispatching.alone.ended⟩
  stands := dispatching.stands
  reads := dispatching.reads
  found := by simp [Connection.changeSession, dispatching.found]
  wanted := wanted
  others := by
    intro other idle found apart
    refine dispatching.others ?_ apart
    simpa [Connection.changeSession, List.getElem?_modify, apart.symm] using found

/-- When the caller has what it waited for and the queue is empty, the port is quiet. -/
theorem quiet {ending : Ending} (dispatching : Dispatching call write place session before)
    (waiting : session.writer = .waiting) (empty : session.queue = []) :
    (before.setTask call (.finished ending)).Quiet where
  opened := by
    rcases Option.map_eq_some_iff.mp dispatching.opened with ⟨link, opened, -⟩
    exact Option.isSome_iff_exists.mpr ⟨link, opened⟩
  calls := by
    intro task member
    rcases List.getElem?_of_mem member with ⟨other, found⟩
    by_cases own : other = call
    · subst own
      cases found.symm.trans (setTask_getElem?_self dispatching.stands _)
      rfl
    · refine dispatching.alone.ended ?_ own
      simpa [setTask, List.getElem?_set, Ne.symm own] using found
  reads := dispatching.reads
  writers := by
    intro idle member
    rcases List.getElem?_of_mem member with ⟨other, found⟩
    by_cases own : other = place
    · subst own
      cases found.symm.trans dispatching.found
      simp [Session.isIdle, waiting, empty, dispatching.wanted]
    · exact dispatching.others found own

theorem takesWrites (dispatching : Dispatching call write place session before)
    (waiting : session.writer = .waiting) : before.TakesWrites := by
  rcases Option.map_eq_some_iff.mp dispatching.opened with ⟨link, opened, rfl⟩
  exact ⟨link, session, opened, dispatching.found, waiting⟩

/-- A worker with a write in its queue picks it. -/
theorem of_works (dispatching : Dispatching call write place session before)
    {resolution? : Option (Except Error Nat)} {rank : Nat}
    (leg : Leg write resolution? session.writer session.queue rank)
    (turn : WriterTurn before place session after) :
    after.writes = before.writes ∧ ∃ later less, less < rank ∧
      Dispatching call write place later after ∧
      Leg write resolution? later.writer later.queue less := by
  cases turn with
  | picks waiting queued =>
      refine ⟨rfl, _, 2, ?_, dispatching.changeSession before.writes _ dispatching.wanted, ?_⟩
      all_goals
        rw [waiting, queued] at leg
        cases leg
      · decide
      · exact .sending
  | stops _ _ hungUp => cases dispatching.wanted.symm.trans hungUp
  | unwinds unwinding =>
      rw [unwinding] at leg
      cases leg
  | leaves leaving =>
      rw [leaving] at leg
      cases leg
  | leavesLast leaving =>
      rw [leaving] at leg
      cases leg

/-- The end of a transfer settles the write, unless it crashes. -/
theorem of_hears {settings : Settings} {accepted : Nat → List Acceptance}
    {exchanges : List Exchange} {request : Request} {reply : request.Reply} {rank : Nat}
    (dispatching : Dispatching call write place session before)
    (ledgers : Ledgers settings accepted exchanges before)
    (leg : Leg write (before.resolution? write) session.writer session.queue rank)
    (answer : WriterAnswer before place session request reply after) :
    ∃ last, before.transmissionFor? write (.writer place, ⟨request, reply⟩) = some last ∧
      (last.reply ≠ .crashed → ∃ later less, less < rank ∧
        Dispatching call write place later after ∧
        Leg write (after.resolution? write) later.writer later.queue less) := by
  generalize before.resolution? write = resolution? at leg
  cases answer with
  | closed closing =>
      rw [closing] at leg
      cases leg
  | @wrote current reply writing =>
      have here := desk_of_getElem? dispatching.found
      rcases (ledgers.kept here).queued (.inr writing) with ⟨data, stored⟩
      rw [writing] at leg here
      generalize empty : session.queue = queue at leg
      cases leg with
      | sending =>
          refine ⟨⟨before.settings.endpointOut, (before.writes[write]?.map (·.data)).getD [],
            before.settings.writeTimeout, reply⟩, ?_, ?_⟩
          · simp only [transmissionFor?, here, Option.map_some, if_true, transmission?]
          intro intact
          have goesOn : reply.next = .waiting := by
            cases reply with
            | accepted | failed => rfl
            | crashed => exact absurd rfl intact
          have settled : (before.afterWrite place write reply).resolution? write =
              some reply.result := by
            rw [afterWrite_eq, ← reply.result?_outcome]
            simp [resolution?, setWriter, Connection.changeSession, settleWrite, changeWrite,
              stored]
          refine ⟨{ session with writer := reply.next }, 1, by decide, ?_, ?_⟩
          · rw [afterWrite_eq]
            exact dispatching.changeSession _ ({ · with writer := reply.next }) dispatching.wanted
          · rw [settled, goesOn]
            exact empty.symm ▸ .settled

/-- A caller that fetches something has got to the end. -/
theorem of_fetches {changed : Connection} {next : Task} {rank : Nat}
    (leg : Leg write (before.resolution? write) session.writer session.queue rank)
    (turn : Turn before call (.awaitingWrite write) changed next) :
    changed = before ∧ (∃ ending, next = .finished ending) ∧ session.writer = .waiting ∧
      session.queue = [] ∧ 0 < rank := by
  cases turn with
  | fetchesWrite found ended =>
      rcases writeEnding?_result ended with ⟨result, settled, rfl⟩
      have given : before.resolution? write = some result := by simp [resolution?, found, settled]
      rw [given] at leg
      generalize session.writer = stage at leg
      generalize session.queue = queue at leg
      cases leg with
      | settled => exact ⟨rfl, ⟨_, rfl⟩, rfl, rfl, Nat.one_pos⟩

theorem ready_of_queued {rest : List Nat}
    (dispatching : Dispatching call write place session before)
    (waiting : session.writer = .waiting) (queued : session.queue = write :: rest) :
    ∃ after, before.step? (.advance (.writer place)) = some after := by
  simp [step?, advance?, advanceWriter?, dispatching.found, waiting, queued]

/-- A worker that sends takes any reply, which may depend on the data. -/
theorem ready_of_sending (dispatching : Dispatching call write place session before)
    (writing : session.writer = .writing write) (device : List UInt8 → BulkOut) :
    ∃ replies after handle endpoint data timeout,
      before.step? (.answer (.writer place) replies) = some after ∧
        before.exchange? (.answer (.writer place) replies) =
          some (.writer place, ⟨.bulkOut handle endpoint data timeout, device data⟩) := by
  generalize offered : (before.writes[write]?.map (·.data)).getD [] = data
  rcases exists_replies (.bulkOut session.handle before.settings.endpointOut data
    before.settings.writeTimeout) (device data) with ⟨replies, replied⟩
  refine ⟨replies, before.afterWrite place write (device data), session.handle,
    before.settings.endpointOut, data, before.settings.writeTimeout, ?_, ?_⟩
  all_goals subst offered
  · simp [step?, pending?, writerPending?, dispatching.found, writing, replied]
  · simp [exchange?, pending?, writerPending?, dispatching.found, writing, replied]

theorem ready_of_settled {result : Except Error Nat}
    (dispatching : Dispatching call write place session before)
    (settled : before.resolution? write = some result) :
    ∃ after, before.step? (.advance (.call call)) = some after := by
  rcases Option.bind_eq_some_iff.mp settled with ⟨entry, stored, given⟩
  simp only [step?, advance?, advanceCall?, dispatching.stands, stored, Option.bind_eq_bind,
    Option.bind_some]
  cases state : entry.state with
  | queued => simp [state, WriteState.result?] at given
  | answered result => cases result <;> exact ⟨_, rfl⟩
  | lost => exact ⟨_, rfl⟩

end Dispatching

/-! ### The beginning of a write -/

/-- A caller whose write is accepted waits for it. -/
theorem WriteStart.invoke {data : List UInt8} {number : Nat}
    (start : WriteStart before data after (.ok number)) (started : Except SystemError Unit) :
    before.invoke (.write data) started = after.addTask (.awaitingWrite number) := by
  simp [Connection.invoke, enter, enterWrite, startWrite_of_start start, addTask]

/-- A write is refused only if the port is not open or its worker is gone. -/
theorem WriteStart.refused {data : List UInt8} {error : Error}
    (start : WriteStart before data after (.error error)) :
    after = before ∧ (error = .notOpen ∨ error = .workerLost) ∧ ¬before.TakesWrites := by
  cases start with
  | notOpen closed =>
      refine ⟨rfl, .inl rfl, ?_⟩
      rintro ⟨link, session, opened, -⟩
      cases closed.symm.trans opened
  | workerLost opened dead =>
      refine ⟨rfl, .inr rfl, ?_⟩
      rintro ⟨link, session, also, found, waiting⟩
      cases opened.symm.trans also
      have lost := dead session found
      rw [waiting] at lost
      cases lost

theorem WriteStart.invoke_refused {data : List UInt8} {error : Error}
    (start : WriteStart before data after (.error error)) (started : Except SystemError Unit) :
    before.invoke (.write data) started = before.addTask (Task.failed error) := by
  rcases start.refused with ⟨rfl, -⟩
  simp [Connection.invoke, enter, enterWrite, startWrite_of_start start, addTask]

/-- A write on a quiet port is alone in the queue. -/
theorem Quiet.dispatching (quiet : before.Quiet) (takes : before.TakesWrites) (data : List UInt8)
    (started : Except SystemError Unit) :
    ∃ place session, Dispatching before.tasks.length before.writes.length place session
        (before.invoke (.write data) started) ∧
      Leg before.writes.length
        ((before.invoke (.write data) started).resolution? before.writes.length) session.writer
        session.queue 3 := by
  rcases takes with ⟨link, session, opened, found, waiting⟩
  have idle := quiet.writers session (List.mem_of_getElem? found)
  simp only [Session.isIdle, waiting, Bool.and_eq_true, List.isEmpty_iff, Bool.not_eq_true'] at idle
  rcases idle with ⟨empty, wanted⟩
  have alive : session.writer.hasQueue = true := by simp [waiting, WriterStage.hasQueue]
  have start : WriteStart before data _ (.ok before.writes.length) := .queued opened found alive
  have unanswered :
      (before.invoke (.write data) started).resolution? before.writes.length = none := by
    simp [start.invoke started, addTask, resolution?, WriteState.result?]
  rw [unanswered, start.invoke started]
  refine ⟨link.session, { session with queue := session.queue ++ [before.writes.length] },
    ⟨?_, ⟨?_⟩, ?_, quiet.reads, ?_, wanted, ?_⟩, ?_⟩
  · exact congrArg (Option.map Link.session) opened
  · intro other task stands apart
    rw [addTask, List.getElem?_append_left (by grind)] at stands
    exact quiet.calls task (List.mem_of_getElem? stands)
  · simp [addTask]
  · simp [addTask, found]
  · intro other idle found apart
    refine quiet.writers idle (List.mem_of_getElem? (i := other) ?_)
    simpa [addTask, List.getElem?_modify, apart.symm] using found
  · rw [waiting, empty]
    exact .queued

end Turns

end Connection

end CdcSerial
