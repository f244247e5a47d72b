import CdcSerial.Proofs.Connection.Reaching
import CdcSerial.Proofs.Connection.Succession

/-!
# Who uses a device

The workers and the configuring calls use the device of a session only while somebody holds its
link, so none of them is the last owner of the handle and none has to close it. `Touch` says who
can make a request on a handle: a caller that has opened it and still reaches for it or lists it,
an owner while the link is held, or the caller that leaves the device.
-/

namespace CdcSerial

/-- Whether the worker of a read is closing the handle. -/
def ReaderStage.isClosing : ReaderStage → Bool
  | .closing _ => true
  | _ => false

namespace Connection

/-! ### Workers do not close handles -/

/-- No worker is closing a handle. -/
structure Unclosed (connection : Connection) : Prop where
  reader : ∀ read ∈ connection.reads, read.stage.isClosing = false
  writer : ∀ session ∈ connection.sessions, session.writer ≠ .closing

theorem isLastClone_eq_false {connection : Connection} {number : Nat} {session : Session}
    (found : connection.sessions[number]? = some session)
    (shared : 1 < (connection.account number).clones) : connection.isLastClone number = false := by
  rw [account_of_getElem? found] at shared
  simp only [Session.account] at shared
  simp [isLastClone, found, shared]

/-- The worker of a read is not the last owner, since the link is in its place. -/
theorem Owned.reader_not_last {connection : Connection} {number : Nat} {read : Read}
    (owned : connection.Owned) (recorded : connection.Recorded)
    (found : connection.reads[number]? = some read) (holds : read.stage.holdsClone = true) :
    connection.isLastClone read.session = false := by
  rcases books_right_iff.mp (owned.right read.session) with ⟨clones, -, -⟩
  have counted := readerClones_pos found holds
  have linked : connection.isLinked read.session = true := by
    simp [isLinked, recorded.unfinished (unfinished_of_holdsClone found holds)]
  rcases exists_session_of_pos (owned.right read.session) (by omega) with ⟨session, here⟩
  refine isLastClone_eq_false here ?_
  simp only [linked, Bool.toNat_true] at clones
  omega

/-- The writer of a session is not the last owner, since the link outlives it. -/
theorem Owned.writer_not_last {connection : Connection} {number : Nat} {session : Session}
    (owned : connection.Owned) (found : connection.sessions[number]? = some session)
    (holds : session.writer.holdsClone = true) : connection.isLastClone number = false := by
  rcases books_right_iff.mp (owned.right number) with ⟨clones, -, outlives⟩
  have writing : (connection.account number).writing = true := by
    rw [account_of_getElem? found]
    exact holds
  refine isLastClone_eq_false found ?_
  simp only [writing, Bool.true_eq_false, false_and, imp_false, Bool.toNat_true] at clones outlives
  omega

theorem fresh_unclosed (locator : Locator) (settings : Settings) :
    (fresh locator settings).Unclosed where
  reader := by
    intro read member
    cases member
  writer := by
    intro session member
    cases member

namespace Unclosed

variable {before after : Connection}

theorem of_same (unclosed : before.Unclosed) (reads : after.reads = before.reads)
    (sessions : after.sessions = before.sessions) : after.Unclosed :=
  ⟨reads ▸ unclosed.reader, sessions ▸ unclosed.writer⟩

theorem of_session {number : Nat} {change : Session → Session} (unclosed : before.Unclosed)
    (reads : after.reads = before.reads)
    (sessions : after.sessions = before.sessions.modify number change)
    (keeps : ∀ session, session.writer ≠ .closing → (change session).writer ≠ .closing) :
    after.Unclosed := by
  refine ⟨reads ▸ unclosed.reader, ?_⟩
  rw [sessions]
  exact forall_mem_modify number unclosed.writer fun session _ => keeps session

theorem of_read {number : Nat} {change : Read → Read} (unclosed : before.Unclosed)
    (reads : after.reads = before.reads.modify number change)
    (sessions : after.sessions = before.sessions)
    (keeps : ∀ read, read.stage.isClosing = false → (change read).stage.isClosing = false) :
    after.Unclosed := by
  refine ⟨?_, sessions ▸ unclosed.writer⟩
  rw [reads]
  exact forall_mem_modify number unclosed.reader fun read _ => keeps read

theorem addRead {read : Read} (unclosed : before.Unclosed) (keeps : read.stage.isClosing = false)
    (reads : after.reads = before.reads ++ [read]) (sessions : after.sessions = before.sessions) :
    after.Unclosed := by
  refine ⟨fun other member => ?_, sessions ▸ unclosed.writer⟩
  rw [reads] at member
  rcases List.mem_append.mp member with old | new
  · exact unclosed.reader other old
  · exact List.mem_singleton.mp new ▸ keeps

theorem of_readStart {length : Nat} {result : Except Error Nat} (unclosed : before.Unclosed)
    (start : ReadStart before length after result) : after.Unclosed := by
  cases start with
  | refused => exact unclosed
  | notStarted => exact unclosed.of_same rfl rfl
  | served => exact unclosed.addRead rfl rfl rfl
  | @polls link =>
      have shared : (before.changeSession link.session fun session =>
          { session with clones := session.clones + 1 }).Unclosed :=
        unclosed.of_session rfl rfl fun _ => id
      exact shared.addRead rfl rfl rfl

theorem of_writeStart {data : List UInt8} {result : Except Error Nat} (unclosed : before.Unclosed)
    (start : WriteStart before data after result) : after.Unclosed := by
  cases start with
  | queued => exact unclosed.of_session rfl rfl fun _ => id
  | _ => exact unclosed

theorem of_entry {call : Call} {task : Task} (unclosed : before.Unclosed)
    (entry : Entry before call after task) : after.Unclosed := by
  cases entry with
  | reads fits start => exact (unclosed.of_readStart start).of_read rfl rfl fun _ => id
  | readFails fits start => exact unclosed.of_readStart start
  | waits => exact unclosed.of_read rfl rfl fun _ => id
  | waitsInto => exact unclosed.of_read rfl rfl fun _ => id
  | writes start => exact unclosed.of_writeStart start
  | configures => exact unclosed.of_session rfl rfl fun _ => id
  | _ => exact unclosed.of_same rfl rfl

theorem of_turn {call : Nat} {task next : Task} (unclosed : before.Unclosed)
    (turn : Turn before call task after next) : after.Unclosed := by
  cases turn with
  | lists progress =>
      rcases progress.only_tells with ⟨journal, rfl⟩
      exact unclosed.of_same rfl rfl
  | opens progress =>
      rcases progress.only_tells with ⟨journal, rfl⟩
      exact unclosed.of_same rfl rfl
  | releases progress =>
      rcases progress.only_tells with ⟨journal, rfl⟩
      exact unclosed.of_same rfl rfl
  | configures progress =>
      rcases progress.only_lane with ⟨journal, rfl⟩ | rfl
      · exact unclosed.of_same rfl rfl
      · exact unclosed.of_session rfl rfl fun _ => id
  | reached =>
      refine ⟨unclosed.reader, fun session member => ?_⟩
      rcases List.mem_append.mp member with old | new
      · exact unclosed.writer session old
      · simp [List.mem_singleton.mp new, newSession]
  | fetchesError => exact unclosed.of_read rfl rfl fun _ => id
  | fetchesBytes => exact unclosed.of_read rfl rfl fun _ => id
  | stores => exact unclosed.of_read rfl rfl fun _ => id
  | spills => exact unclosed.of_read rfl rfl fun _ => id
  | cancels => exact unclosed.of_read rfl rfl fun _ => id
  | overflows => exact unclosed.of_read rfl rfl fun _ => id
  | returnsClone => exact unclosed.of_session rfl rfl fun _ => id
  | returnsTicket => exact unclosed.of_session rfl rfl fun _ => id
  | takesLink => exact unclosed.of_session rfl rfl fun _ => id
  | regains => exact unclosed.of_session rfl rfl fun _ => id
  | findsOwners => exact unclosed.of_session rfl rfl fun _ => id
  | _ => exact unclosed.of_same rfl rfl

theorem of_readerTurn {number : Nat} {read : Read} {stage : ReaderStage}
    (unclosed : before.Unclosed) (owned : before.Owned) (recorded : before.Recorded)
    (found : before.reads[number]? = some read) (turn : ReaderTurn before read after stage) :
    (after.setReader number stage).Unclosed := by
  cases turn with
  | leaves =>
      have dropped : (before.dropClone read.session).Unclosed :=
        unclosed.of_session rfl rfl fun _ => id
      exact dropped.of_read rfl rfl fun _ _ => rfl
  | leavesLast leaving last =>
      have shared := owned.reader_not_last recorded found (by rw [leaving]; rfl)
      rw [shared] at last
      cases last
  | _ => exact unclosed.of_read rfl rfl fun _ _ => rfl

theorem of_readerAnswer {number : Nat} {read : Read} {session : Session} {request : Request}
    {reply : request.Reply} {stage : ReaderStage} (unclosed : before.Unclosed)
    (answer : ReaderAnswer before read session request reply stage) :
    (before.setReader number stage).Unclosed := by
  refine unclosed.of_read rfl rfl fun _ _ => ?_
  cases answer with
  | @polled reply =>
      cases reply with
      | received data => cases data <;> rfl
      | failed status => cases status <;> rfl
      | crashed => rfl
  | closed => rfl

theorem of_writerTurn {number : Nat} {session : Session} (unclosed : before.Unclosed)
    (owned : before.Owned) (found : before.sessions[number]? = some session)
    (turn : WriterTurn before number session after) : after.Unclosed := by
  cases turn with
  | picks => exact unclosed.of_session rfl rfl fun _ _ => nofun
  | stops => exact unclosed.of_session rfl rfl fun _ _ => nofun
  | unwinds =>
      rcases loseAll_frame before session.queue with ⟨writes, eq⟩
      rw [eq]
      exact unclosed.of_session rfl rfl fun _ _ => nofun
  | leaves =>
      have dropped : (before.dropClone number).Unclosed := unclosed.of_session rfl rfl fun _ => id
      exact dropped.of_session rfl rfl fun _ _ => nofun
  | leavesLast leaving last =>
      have shared := owned.writer_not_last found (by rw [leaving]; rfl)
      rw [shared] at last
      cases last

theorem of_writerAnswer {number : Nat} {session : Session} {request : Request}
    {reply : request.Reply} (unclosed : before.Unclosed)
    (answer : WriterAnswer before number session request reply after) : after.Unclosed := by
  cases answer with
  | @wrote write reply => cases reply <;> exact unclosed.of_session rfl rfl fun _ _ => nofun
  | closed => exact unclosed.of_session rfl rfl fun _ _ => nofun

theorem of_move {action : Action} {exchange? : Option Exchange} (unclosed : before.Unclosed)
    (owned : before.Owned) (recorded : before.Recorded)
    (move : Move before action exchange? after) : after.Unclosed := by
  cases move with
  | enters permitted entry => exact (unclosed.of_entry entry).of_same rfl rfl
  | startsRead start => exact unclosed.of_readStart start
  | startsWrite start => exact unclosed.of_writeStart start
  | cancels => exact unclosed.of_read rfl rfl fun _ => id
  | turns stands turn => exact (unclosed.of_turn turn).of_same rfl rfl
  | answered stands answer =>
      cases answer with
      | configuring => exact unclosed.of_session rfl rfl fun _ => id
      | _ => exact unclosed.of_same rfl rfl
  | readerTurns found turn => exact unclosed.of_readerTurn owned recorded found turn
  | readerAnswered found held answer => exact unclosed.of_readerAnswer answer
  | writerTurns found turn => exact unclosed.of_writerTurn owned found turn
  | writerAnswered found answer => exact unclosed.of_writerAnswer answer
  | expires => exact unclosed.of_same rfl rfl

end Unclosed

theorem unclosed_of_run {locator : Locator} {settings : Settings} {actions : List Action}
    {connection : Connection} (ran : (fresh locator settings).run? actions = some connection) :
    connection.Unclosed := by
  refine run_induction (motive := fun _ connection => connection.Unclosed)
    (fresh_unclosed locator settings) ?_ ran
  intro actions middle action final ranBefore unclosed stepped
  have sound := sound_of_run ranBefore
  exact unclosed.of_move sound.owned sound.recorded (.of_step? stepped)

/-! ### Owners use a device while the link is held -/

theorem holdsLink_of_pos {connection : Connection} {number : Nat}
    (held : 0 < connection.linkHolders number) : connection.HoldsLink number := by
  cases linked : connection.isLinked number with
  | true =>
      simp only [isLinked, decide_eq_true_eq] at linked
      rcases Option.map_eq_some_iff.mp linked with ⟨_, duty, rfl⟩
      rcases Option.map_eq_some_iff.mp duty with ⟨link, found, rfl⟩
      exact .of_link found
  | false =>
      simp only [linkHolders, linked, Bool.toNat_false, Nat.zero_add] at held
      rcases List.countP_pos_iff.mp held with ⟨task, member, stake⟩
      exact .inr ⟨task, member, by simpa using stake⟩

theorem Recorded.reader_holdsLink {connection : Connection} {number : Nat} {read : Read}
    (recorded : connection.Recorded) (found : connection.reads[number]? = some read)
    (running : read.isFinished = false) : connection.HoldsLink read.session := by
  obtain ⟨link, held, duty⟩ :=
    Option.map_eq_some_iff.mp (recorded.unfinished ⟨read, found, rfl, running⟩)
  simp only [Prod.mk.injEq] at duty
  exact .inl ⟨link, held, duty.1⟩

theorem Owned.writer_holdsLink {connection : Connection} {number : Nat} {session : Session}
    (owned : connection.Owned) (found : connection.sessions[number]? = some session)
    (holds : session.writer.holdsClone = true) : connection.HoldsLink number := by
  apply holdsLink_of_pos
  by_contra loose
  have outlives := (owned.right number).outlives (by simpa [books] using loose)
  simp [books, account_of_getElem? found, Session.account, holds] at outlives

theorem Owned.configurer_holdsLink {connection : Connection} {number : Nat} {task : Task}
    (owned : connection.Owned) (member : task ∈ connection.tasks)
    (stake : task.stake = .clone number) : connection.HoldsLink number := by
  apply holdsLink_of_pos
  by_contra loose
  have outlives := (owned.right number).outlives (by simpa [books] using loose)
  have tickets := (owned.right number).tickets
  have counted := stakeCount_pos member
  rw [stake] at counted
  simp only [books, ticketHolders] at outlives tickets
  omega

/-! ### Which callers transfer data -/

end Connection

/-- Whether a caller is at a request that can be a control transfer. -/
def Task.isControlling : Task → Bool
  | .opening _ _ run => run.begun
  | .configuring _ _ run => run.begun
  | _ => false

namespace Connection

/-- A caller makes no bulk transfer, and no transfer at all unless it opens or configures. -/
theorem Sound.transfers {locator : Locator} {settings : Settings} {calls : List Call}
    {exchanges : List Exchange} {before after : Connection} {call : Nat} {task next : Task}
    {request : Request} {reply : request.Reply} (aloof : locator.source.Aloof)
    (sound : Sound locator settings calls exchanges before)
    (stands : before.tasks[call]? = some task)
    (answer : CallAnswer before call task request reply after next) :
    request.isBulk = false ∧ (request.isTransfer = true → task.isControlling = true) := by
  rcases sound.placed.exists_standing stands with ⟨made, -, standing⟩
  generalize eventsOf (.call call) exchanges = events at standing
  have still (unsent : request.isTransfer = false) :
      request.isBulk = false ∧ (request.isTransfer = true → task.isControlling = true) :=
    ⟨Request.not_bulk_of_not_transfer unsent, by simp [unsent]⟩
  cases answer with
  | listing =>
      cases standing with
      | lists path => exact still ((Locator.list_transfersNothing aloof).of_path path).1
      | closes closing => cases closing
  | opening =>
      cases standing with
      | opens asked path =>
          exact ⟨((establish_sparesBulk aloof _ _ _).of_path path).1, fun _ => rfl⟩
      | closes closing => cases closing
  | configuring =>
      cases standing with
      | configures asked held path =>
          exact ⟨((LineCommand.sendAll_sparesBulk _ _ _).of_path path).1, fun _ => rfl⟩
      | closes closing => cases closing
  | releasing =>
      cases standing with
      | releases held path => exact still ((leave_transfersNothing _ _).of_path path).1
      | closes closing => cases closing

/-! ### Requests on a handle -/

end Connection

/-- Whether a caller still looks for devices and uses only those that it has opened. -/
def Task.isReaching : Task → Bool
  | .listing _ => true
  | .opening _ _ _ => true
  | _ => false

namespace Connection

/-- Who can make a request on a handle. -/
inductive Touch (before : Connection) (exchanges : List Exchange) (handle : Handle) :
    Thread → Event → Connection → Prop where
  | opener {call task event after} (stands : before.tasks[call]? = some task)
      (reaching : task.isReaching = true)
      (opened : handle ∈ openings (eventsOf (.call call) exchanges)) :
      Touch before exchanges handle (.call call) event after
  | owner {thread event after number} (held : before.handles[number]? = some handle)
      (holds : before.HoldsLink number) (transfers : event.1.isTransfer = true) :
      Touch before exchanges handle thread event after
  | leaver {call request next reply}
      (stands : before.tasks[call]? = some (.releasing ⟨.call request next, true⟩))
      (last : before.handles.getLast? = some handle) :
      Touch before exchanges handle (.call call) ⟨request, reply⟩
        (before.setTask call (.releasing ⟨next reply, false⟩))

theorem Move.touch {locator : Locator} {settings : Settings} {calls : List Call}
    {exchanges : List Exchange} {before after : Connection} {action : Action} {thread : Thread}
    {event : Event} {handle : Handle} (aloof : locator.source.Aloof)
    (sound : Sound locator settings calls exchanges before) (newest : before.Newest)
    (unclosed : before.Unclosed) (move : Move before action (some (thread, event)) after)
    (here : event.1.handle? = some handle) :
    Touch before exchanges handle thread event after := by
  cases move with
  | @answered call task request replies changed next stands answer =>
      rcases sound.placed.exists_standing stands with ⟨made, -, standing⟩
      generalize seen : eventsOf (.call call) exchanges = events at standing
      have member := List.mem_of_getElem? stands
      cases answer with
      | listing =>
          cases standing with
          | lists path =>
              exact .opener stands rfl
                (seen ▸ Locator.list_request aloof path (replies request) here)
          | closes closing => cases closing
      | opening =>
          cases standing with
          | opens asked path =>
              exact .opener stands rfl (seen ▸ establish_request aloof path (replies request) here)
          | closes closing => cases closing
      | configuring =>
          cases standing with
          | configures asked held path =>
              rcases ((LineCommand.sendAll_asks _ _ _).of_path path).1 with ⟨command, -, rfl⟩
              cases here
              exact .owner held (sound.owned.configurer_holdsLink member rfl) rfl
          | closes closing => cases closing
      | releasing =>
          rcases newest.leaving member with ⟨device, events, last, path⟩
          have manages := ((leave_asks _ _).of_path path).1
          have same := manages.1.symm.trans here
          cases same
          exact .leaver stands last
  | readerAnswered found held answer =>
      cases answer with
      | polled polling =>
          cases here
          refine .owner (handles_getElem? held) (sound.recorded.reader_holdsLink found ?_) rfl
          exact Read.isFinished_eq_false.mpr (by simp [polling])
      | closed closing =>
          have working := unclosed.reader _ (List.mem_of_getElem? found)
          rw [closing] at working
          cases working
  | writerAnswered found answer =>
      cases answer with
      | wrote writing =>
          cases here
          exact .owner (handles_getElem? found)
            (sound.owned.writer_holdsLink found (by rw [writing]; rfl)) rfl
      | closed closing => exact absurd closing (unclosed.writer _ (List.mem_of_getElem? found))

end Connection

end CdcSerial
