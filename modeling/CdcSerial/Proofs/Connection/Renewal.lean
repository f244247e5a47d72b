import CdcSerial.Proofs.Connection.Graft
import CdcSerial.Proofs.Connection.Transitions

/-!
# A closed connection is as good as new

Take a connection that is closed after any course of actions, with all its calls ended. Its workers
have ended too, so nothing of its past goes on by itself (`Spent`), and it is the graft of a fresh
connection on it. Only the backlog is left over, and the next session empties it before anybody can
look: as long as it is there, nobody has used it (`Unread`).

So the closed connection and a fresh one go the same way. A course of the fresh one is a course of
the closed one with all numbers shifted, and the closed one has no other courses as long as nobody
uses a read of the past. On the way both make the same requests and show the same (`Shows`).
-/

namespace CdcSerial

namespace Connection

/-! ### Nothing of the past goes on -/

/-- All calls, reads and writers have ended. -/
structure Spent (connection : Connection) : Prop where
  calls : ∀ task ∈ connection.tasks, task.isOver = true
  readers : ∀ read ∈ connection.reads, read.isFinished = true
  writers : ∀ session ∈ connection.sessions, session.writer = .ended

section Spent

variable {locator : Locator} {settings : Settings} {actions : List Action} {closed : Connection}

theorem spent_of_closed (ran : (fresh locator settings).run? actions = some closed)
    (shut : closed.state = .closed) (idle : ∀ task ∈ closed.tasks, task.isOver = true) :
    closed.Spent := by
  have sound := sound_of_run ran
  have loose := sound.orderly.not_holdsLink_of_closed shut
  refine ⟨idle, fun read member => ?_, fun session member => ?_⟩
  · rcases List.getElem?_of_mem member with ⟨number, found⟩
    by_contra running
    exact loose _ (sound.recorded.reader_holdsLink found (by simpa using running))
  · rcases List.getElem?_of_mem member with ⟨number, found⟩
    have unclosed := (unclosed_of_run ran).writer session member
    by_contra running
    refine loose _ (sound.owned.writer_holdsLink found ?_)
    cases stage : session.writer <;> simp_all [WriterStage.holdsClone]

/-- A closed connection is the graft of a fresh one on it, with its backlog left over. -/
theorem graft_fresh (ran : (fresh locator settings).run? actions = some closed)
    (shut : closed.state = .closed) :
    graft closed (some closed.backlog) (fresh locator settings) = closed := by
  have sound := sound_of_run ran
  have bare := sound.orderly.link_eq_none (.inl shut)
  have located := sound.placed.located
  have set := sound.placed.set
  cases closed
  simp_all [graft, fresh]

variable {past : Connection}

/-- A thread is one of `now`, or it is at its end. -/
theorem Spent.thread_cases (spent : past.Spent) (stale : Option (List UInt8)) (now : Connection)
    (thread : Thread) :
    (∃ own : Thread, thread = own.shift past.tally) ∨
      (graft past stale now).advance? thread = none ∧
        (graft past stale now).pending? thread = none := by
  cases thread with
  | call number =>
      rcases Nat.lt_or_ge number past.tasks.length with old | new
      · right
        have stands : (graft past stale now).tasks[number]? = some past.tasks[number] := by
          rw [graft, List.getElem?_append_left old, List.getElem?_eq_getElem old]
        have ended := spent.calls _ (List.getElem_mem old)
        cases task : past.tasks[number] with
        | finished ending =>
            simp [advance?, advanceCall?, pending?, callPending?, stands, task]
        | _ => simp [task, Task.isOver] at ended
      · exact .inl ⟨.call (number - past.tasks.length), by simp [Thread.shift, tally]; omega⟩
  | reader number =>
      rcases Nat.lt_or_ge number past.reads.length with old | new
      · right
        have found : (graft past stale now).reads[number]? = some past.reads[number] := by
          rw [graft, List.getElem?_append_left old, List.getElem?_eq_getElem old]
        rcases Read.isFinished_eq_true.mp (spent.readers _ (List.getElem_mem old)) with
          ⟨ending, ended⟩
        refine ⟨by simp [advance?, advanceReader?, found, ended], ?_⟩
        cases held : (graft past stale now).sessions[past.reads[number].session]? <;>
          simp [pending?, readerPending?, found, held, ended]
      · exact .inl ⟨.reader (number - past.reads.length), by simp [Thread.shift, tally]; omega⟩
  | writer number =>
      rcases Nat.lt_or_ge number past.sessions.length with old | new
      · right
        have found : (graft past stale now).sessions[number]? = some past.sessions[number] := by
          rw [graft, List.getElem?_append_left old, List.getElem?_eq_getElem old]
        have ended := spent.writers _ (List.getElem_mem old)
        simp [advance?, advanceWriter?, pending?, writerPending?, found, ended]
      · exact .inl ⟨.writer (number - past.sessions.length), by simp [Thread.shift, tally]; omega⟩

theorem exists_call_shift {tally : Tally} {call : Call} {started : Except SystemError Unit}
    (spares : ∀ number ∈ (Action.invoke call started).read?, tally.reads ≤ number) :
    ∃ own : Call, call = own.shift tally := by
  cases call with
  | wait number =>
      have late := spares number rfl
      exact ⟨.wait (number - tally.reads), by simp [Call.shift]; omega⟩
  | waitInto number buffer offset =>
      have late := spares number rfl
      exact ⟨.waitInto (number - tally.reads) buffer offset, by simp [Call.shift]; omega⟩
  | list => exact ⟨.list, rfl⟩
  | openPort address config => exact ⟨.openPort address config, rfl⟩
  | openWith path options => exact ⟨.openWith path options, rfl⟩
  | read buffer offset length => exact ⟨.read buffer offset length, rfl⟩
  | write data => exact ⟨.write data, rfl⟩
  | set options => exact ⟨.set options, rfl⟩
  | setLineConfig config => exact ⟨.setLineConfig config, rfl⟩
  | close => exact ⟨.close, rfl⟩

/-- An action that is possible and uses no read of the past is one of `now`. -/
theorem Spent.exists_shift {stale : Option (List UInt8)} {now final : Connection} {action : Action}
    (spent : past.Spent) (stepped : (graft past stale now).step? action = some final)
    (spares : ∀ number ∈ action.read?, past.reads.length ≤ number) :
    ∃ own : Action, action = own.shift past.tally := by
  cases action with
  | invoke call started =>
      obtain ⟨own, rfl⟩ : ∃ own : Call, call = own.shift past.tally := exists_call_shift spares
      exact ⟨.invoke own started, rfl⟩
  | startRead length started => exact ⟨.startRead length started, rfl⟩
  | startWrite data => exact ⟨.startWrite data, rfl⟩
  | cancel number =>
      have late := spares number rfl
      exact ⟨.cancel (number - past.reads.length), by simp [Action.shift, tally]; omega⟩
  | advance thread =>
      obtain ⟨own, rfl⟩ | ⟨still, -⟩ := spent.thread_cases stale now thread
      · exact ⟨.advance own, rfl⟩
      · cases still.symm.trans stepped
  | answer thread replies =>
      obtain ⟨own, rfl⟩ | ⟨-, still⟩ := spent.thread_cases stale now thread
      · exact ⟨.answer own replies, rfl⟩
      · simp [step?, still] at stepped
  | expire call =>
      rcases Nat.lt_or_ge call past.tasks.length with old | new
      · have stands : (graft past stale now).tasks[call]? = some past.tasks[call] := by
          rw [graft, List.getElem?_append_left old, List.getElem?_eq_getElem old]
        have ended := spent.calls _ (List.getElem_mem old)
        cases task : past.tasks[call] with
        | finished ending => simp [step?, expire?, stands, task] at stepped
        | _ => simp [task, Task.isOver] at ended
      · exact ⟨.expire (call - past.tasks.length), by simp [Action.shift, tally]; omega⟩

end Spent

/-! ### The backlog is emptied before it is used -/

namespace Unread

variable {before after : Connection}

theorem of_same (unread : before.Unread) (link : after.link = before.link)
    (reads : after.reads = before.reads) (tasks : after.tasks = before.tasks) : after.Unread :=
  ⟨link.trans unread.link, reads.trans unread.reads, tasks ▸ unread.unused⟩

theorem addTask {task : Task} (unread : before.Unread) (unused : task.usesBacklog = false) :
    (before.addTask task).Unread := by
  refine ⟨unread.link, unread.reads, fun other member => ?_⟩
  rcases List.mem_append.mp member with old | new
  · exact unread.unused other old
  · exact List.mem_singleton.mp new ▸ unused

theorem setTask {call : Nat} {next : Task} (unread : before.Unread)
    (unused : next.usesBacklog = false) : (before.setTask call next).Unread := by
  refine ⟨unread.link, unread.reads, fun other member => ?_⟩
  rcases mem_setTask member with old | rfl
  · exact unread.unused other old
  · exact unused

theorem changeRead (unread : before.Unread) (number : Nat) (change : Read → Read) :
    (before.changeRead number change).Unread := by
  refine ⟨unread.link, ?_, unread.unused⟩
  simp [Connection.changeRead, unread.reads]

theorem openLink?_eq (unread : before.Unread) : before.openLink? = none := by
  simp [openLink?, unread.link]

theorem of_readStart {length : Nat} {result : Except Error Nat} (unread : before.Unread)
    (start : ReadStart before length after result) : after.Unread := by
  have shut := unread.openLink?_eq
  cases start with
  | refused => exact unread
  | served journal opened => cases shut.symm.trans opened
  | notStarted cause opened => cases shut.symm.trans opened
  | polls opened => cases shut.symm.trans opened

theorem of_entry {call : Call} {task : Task} (unread : before.Unread)
    (entry : Entry before call after task) : (after.addTask task).Unread := by
  have shut := unread.openLink?_eq
  cases entry with
  | reads fits start => exact ((unread.of_readStart start).changeRead _ _).addTask rfl
  | readFails fits start => exact (unread.of_readStart start).addTask rfl
  | waits => exact (unread.changeRead _ _).addTask rfl
  | waitsInto => exact (unread.changeRead _ _).addTask rfl
  | writes start =>
      rcases start.frame with ⟨sessions, writes, rfl⟩
      exact addTask (unread.of_same rfl rfl rfl) rfl
  | configures asked opened => cases shut.symm.trans opened
  | closesReading opened => cases shut.symm.trans opened
  | closesIdle opened => cases shut.symm.trans opened
  | _ => exact addTask (unread.of_same rfl rfl rfl) rfl

theorem of_turn {call : Nat} {task next : Task} (unread : before.Unread)
    (stands : before.tasks[call]? = some task) (keeps : task.isClearing = false)
    (turn : Turn before call task after next) : (after.setTask call next).Unread := by
  have unused := unread.unused task (List.mem_of_getElem? stands)
  have unfound {number : Nat} {read : Read} (found : before.reads[number]? = some read) :
      False := by
    simp [unread.reads] at found
  have same (link : after.link = before.link) (reads : after.reads = before.reads)
      (tasks : after.tasks = before.tasks) (next_unused : next.usesBacklog = false) :
      (after.setTask call next).Unread := (unread.of_same link reads tasks).setTask next_unused
  cases turn with
  | lists progress =>
      rcases progress.only_tells with ⟨journal, rfl⟩
      exact same rfl rfl rfl rfl
  | opens progress =>
      rcases progress.only_tells with ⟨journal, rfl⟩
      exact same rfl rfl rfl rfl
  | releases progress =>
      rcases progress.only_tells with ⟨journal, rfl⟩
      exact same rfl rfl rfl rfl
  | configures progress =>
      obtain ⟨journal, rfl⟩ | rfl := progress.only_lane <;> exact same rfl rfl rfl rfl
  | clears => cases keeps
  | installs => cases unused
  | putsBack => cases unused
  | fetchesError found => exact (unfound found).elim
  | fetchesBytes found => exact (unfound found).elim
  | stores found => exact (unfound found).elim
  | spills found => exact (unfound found).elim
  | fetchesWrite found ended =>
      rcases writeEnding?_eq_some ended with ⟨result, rfl⟩
      exact same rfl rfl rfl rfl
  | @returnsTicket session line result =>
      refine same rfl rfl rfl ?_
      cases result <;> cases line <;> rfl
  | records => exact same (by simp [recordLine, unread.link]) rfl rfl rfl
  | cancels => exact (unread.changeRead _ _).setTask rfl
  | overflows => exact (unread.changeRead _ _).setTask rfl
  | takesLink held => cases unread.link.symm.trans held
  | _ => exact same rfl rfl rfl rfl

/-- Without a link and reads, the backlog is not used before it is emptied. -/
theorem of_move {action : Action} {exchange? : Option Exchange} (unread : before.Unread)
    (keeps : before.clears action = false) (move : Move before action exchange? after) :
    after.Unread := by
  cases move with
  | enters permitted entry => exact unread.of_entry entry
  | startsRead start => exact unread.of_readStart start
  | startsWrite start =>
      rcases start.frame with ⟨sessions, writes, rfl⟩
      exact unread.of_same rfl rfl rfl
  | cancels => exact unread.changeRead _ _
  | turns stands turn => exact unread.of_turn stands (by simpa [clears, stands] using keeps) turn
  | answered stands answer =>
      cases answer <;> exact setTask (unread.of_same rfl rfl rfl) rfl
  | readerTurns found turn => simp [unread.reads] at found
  | readerAnswered found => simp [unread.reads] at found
  | writerTurns found turn =>
      rcases turn.frame with ⟨sessions, writes, rfl⟩
      exact unread.of_same rfl rfl rfl
  | writerAnswered found answer =>
      rcases answer.frame with ⟨sessions, writes, rfl⟩
      exact unread.of_same rfl rfl rfl
  | expires => exact unread.setTask rfl

end Unread

theorem fresh_unread (locator : Locator) (settings : Settings) : (fresh locator settings).Unread :=
  ⟨rfl, rfl, fun _ member => (List.not_mem_nil member).elim⟩

/-! ### Both go the same way -/

/-- One connection is another one after a past whose backlog, if still there, nobody has used. -/
def Resumes (past now later : Connection) : Prop :=
  ∃ stale, (stale = none ∨ now.Unread) ∧ later = graft past stale now

namespace Resumes

variable {past now later : Connection}

theorem step {action : Action} {after : Connection} (resumes : Resumes past now later)
    (stepped : now.step? action = some after) :
    ∃ final, later.step? (action.shift past.tally) = some final ∧ Resumes past after final := by
  rcases resumes with ⟨stale, unread, rfl⟩
  refine ⟨graft past (if now.clears action then none else stale) after, ?_, _, ?_, rfl⟩
  · rw [step?_graft past unread, stepped, Option.map_some]
  · cases keeps : now.clears action with
    | true => exact .inl rfl
    | false => exact unread.imp_right fun unread => unread.of_move keeps (.of_step? stepped)

theorem of_step {action : Action} {final : Connection} (resumes : Resumes past now later)
    (spent : past.Spent) (stepped : later.step? action = some final)
    (spares : ∀ number ∈ action.read?, past.reads.length ≤ number) :
    ∃ own after, action = own.shift past.tally ∧ now.step? own = some after := by
  rcases resumes with ⟨stale, unread, rfl⟩
  rcases spent.exists_shift stepped spares with ⟨own, rfl⟩
  rw [step?_graft past unread] at stepped
  rcases Option.map_eq_some_iff.mp stepped with ⟨after, went, -⟩
  exact ⟨own, after, rfl, went⟩

theorem exchange? (resumes : Resumes past now later) (action : Action) :
    later.exchange? (action.shift past.tally) =
      (now.exchange? action).map fun exchange => (exchange.1.shift past.tally, exchange.2) := by
  rcases resumes with ⟨stale, -, rfl⟩
  exact exchange?_graft past stale now action

end Resumes

/-- How a call ended, if it has. -/
def callEnding? (connection : Connection) (call : Nat) : Option Ending :=
  match connection.tasks[call]? with
  | some (.finished ending) => some ending
  | _ => none

/--
What `later` shows of all that began after a past is what `now` shows: the port, how calls and
writes have ended and where reads are, what the bus is being asked for, and what starting a read or
a write would give.
-/
structure Shows (tally : Tally) (now later : Connection) : Prop where
  state : later.state = now.state
  address : later.address? = now.address?
  line : later.lineConfig? = now.lineConfig?
  calls : ∀ call, later.callEnding? (tally.calls + call) = now.callEnding? call
  reads : ∀ number, later.reads[tally.reads + number]?.map Read.phase =
    now.reads[number]?.map Read.phase
  writes : ∀ number, later.writes[tally.writes + number]?.map (·.state) =
    now.writes[number]?.map (·.state)
  asked : ∀ thread, (later.pending? (thread.shift tally)).map (·.request) =
    (now.pending? thread).map (·.request)
  others : ∀ thread pending, later.pending? thread = some pending →
    ∃ own : Thread, thread = own.shift tally
  startRead : ∀ length started, (later.startRead length started).2 =
    (now.startRead length started).2.map (tally.reads + ·)
  startWrite : ∀ data, (later.startWrite data).2 = (now.startWrite data).2.map (tally.writes + ·)

theorem Resumes.shows {past now later : Connection} (resumes : Resumes past now later)
    (spent : past.Spent) : Shows past.tally now later := by
  rcases resumes with ⟨stale, unread, rfl⟩
  constructor
  · rfl
  · simp only [address?, graft_link, Option.map_map]
    rfl
  · simp only [lineConfig?, graft_link, Option.map_map]
    rfl
  · intro call
    simp only [callEnding?, graft_task]
    cases now.tasks[call]? with
    | none => rfl
    | some task => cases task <;> rfl
  · intro number
    rw [graft_read, Option.map_map]
    rfl
  · intro number
    rw [graft_write, Option.map_map]
    rfl
  · intro thread
    rw [pending?_graft, Option.map_map]
    rfl
  · intro thread pending waits
    rcases spent.thread_cases stale now thread with own | ⟨-, still⟩
    · exact own
    · cases still.symm.trans waits
  · intro length started
    rw [startRead_graft past now (unread.imp_right (·.link))]
  · intro data
    rw [startWrite_graft]

/-! ### Along a course -/

section Courses

variable {locator : Locator} {settings : Settings} {earlier : List Action} {closed : Connection}

theorem resumes_of_run (ran : (fresh locator settings).run? earlier = some closed)
    (shut : closed.state = .closed) {actions : List Action} {now : Connection}
    (runs : (fresh locator settings).run? actions = some now) :
    ∃ later, closed.run? (actions.map (·.shift closed.tally)) = some later ∧
      Resumes closed now later ∧ closed.exchanges (actions.map (·.shift closed.tally)) =
        ((fresh locator settings).exchanges actions).map fun exchange =>
          (exchange.1.shift closed.tally, exchange.2) := by
  refine run_induction (motive := fun actions now => ∃ later,
    closed.run? (actions.map (·.shift closed.tally)) = some later ∧ Resumes closed now later ∧
      closed.exchanges (actions.map (·.shift closed.tally)) =
        ((fresh locator settings).exchanges actions).map fun exchange =>
          (exchange.1.shift closed.tally, exchange.2)) ?_ ?_ runs
  · exact ⟨closed, rfl, ⟨_, .inr (fresh_unread locator settings), (graft_fresh ran shut).symm⟩, rfl⟩
  · intro actions middle action final ranBefore before stepped
    rcases before with ⟨later, runsBefore, resumes, same⟩
    rcases resumes.step stepped with ⟨further, went, still⟩
    rw [List.map_append, List.map_singleton]
    refine ⟨further, run?_concat_eq_some.mpr ⟨later, runsBefore, went⟩, still, ?_⟩
    rw [exchanges_concat runsBefore went, exchanges_concat ranBefore stepped, same, List.map_append,
      resumes.exchange?]
    cases middle.exchange? action <;> rfl

/-- A closed connection has no courses but those of a fresh one. -/
theorem exists_course (ran : (fresh locator settings).run? earlier = some closed)
    (shut : closed.state = .closed) (spent : closed.Spent) {further : List Action}
    {later : Connection} (drops : closed.DropsReads further)
    (runs : closed.run? further = some later) :
    ∃ actions now, (fresh locator settings).run? actions = some now ∧
      further = actions.map (·.shift closed.tally) := by
  refine run_induction (motive := fun further later => closed.DropsReads further →
    ∃ actions now, (fresh locator settings).run? actions = some now ∧
      further = actions.map (·.shift closed.tally)) ?_ ?_ runs drops
  · intro _
    exact ⟨[], _, rfl, rfl⟩
  · intro further middle action final runsBefore before stepped drops
    rcases before fun action member => drops action (List.mem_append_left _ member) with
      ⟨actions, now, ranOwn, rfl⟩
    rcases resumes_of_run ran shut ranOwn with ⟨later, runsToo, resumes, -⟩
    cases runsBefore.symm.trans runsToo
    rcases resumes.of_step spent stepped (drops action (by simp)) with ⟨own, after, rfl, went⟩
    exact ⟨actions ++ [own], after, run?_concat_eq_some.mpr ⟨now, ranOwn, went⟩, by simp⟩

/--
A connection that is closed after any course of actions, with all its calls ended, behaves like a
fresh one. Every course of a fresh connection is, with all numbers shifted, a course of the closed
one, and every course of the closed one in which nobody uses a read of the past is of this kind. The
two make the same requests and get the same replies, and they show the same after it.
-/
theorem closed_renews (ran : (fresh locator settings).run? earlier = some closed)
    (shut : closed.state = .closed) (idle : ∀ task ∈ closed.tasks, task.isOver = true) :
    (∀ actions now, (fresh locator settings).run? actions = some now →
      ∃ later, closed.run? (actions.map (·.shift closed.tally)) = some later ∧
        Shows closed.tally now later ∧
        closed.exchanges (actions.map (·.shift closed.tally)) =
          ((fresh locator settings).exchanges actions).map fun exchange =>
            (exchange.1.shift closed.tally, exchange.2)) ∧
    ∀ further later, closed.DropsReads further → closed.run? further = some later →
      ∃ actions now, further = actions.map (·.shift closed.tally) ∧
        (fresh locator settings).run? actions = some now ∧ Shows closed.tally now later ∧
        closed.exchanges further =
          ((fresh locator settings).exchanges actions).map fun exchange =>
            (exchange.1.shift closed.tally, exchange.2) := by
  have spent := spent_of_closed ran shut idle
  refine ⟨fun actions now runs => ?_, fun further later drops runs => ?_⟩
  · rcases resumes_of_run ran shut runs with ⟨later, runsToo, resumes, same⟩
    exact ⟨later, runsToo, resumes.shows spent, same⟩
  · rcases exists_course ran shut spent drops runs with ⟨actions, now, ranOwn, rfl⟩
    rcases resumes_of_run ran shut ranOwn with ⟨reached, runsToo, resumes, same⟩
    cases runs.symm.trans runsToo
    exact ⟨actions, now, rfl, ranOwn, resumes.shows spent, same⟩

end Courses

/-- A read of one byte receives two, and the port is closed while the other is in the backlog. -/
def leavesBacklog : List Action :=
  List.flatten
    [Sample.opens,
      [.startRead 1 (.ok ()), .advance (.reader 0),
        .answer (.reader 0) (Sample.bus [1, 2] (.ok ())), .advance (.reader 0),
        .advance (.reader 0), .advance (.reader 0), .invoke .close (.ok ()), .advance (.call 1),
        .advance (.call 1), .advance (.call 1), .advance (.writer 0), .advance (.writer 0),
        .advance (.call 1), .advance (.call 1), .advance (.call 1)],
      asks 1 granting 2, [.advance (.call 1), .advance (.call 1)]]

/-- The port is opened again. -/
def reopens : List Action := Sample.opens.map (·.shift (Sample.after leavesBacklog).tally)

theorem leavesBacklog_renews :
    ∃ closed later, Sample.connection.run? leavesBacklog = some closed ∧ closed.state = .closed ∧
      closed.backlog = [2] ∧ closed.run? reopens = some later ∧ later.backlog = [] ∧
      Shows closed.tally (Sample.after Sample.opens) later ∧
      ∃ actions now, reopens = actions.map (·.shift closed.tally) ∧
        Sample.connection.run? actions = some now ∧ Shows closed.tally now later := by
  have ran : Sample.connection.run? leavesBacklog = some (Sample.after leavesBacklog) := rfl
  have opens : Sample.connection.run? Sample.opens = some (Sample.after Sample.opens) := rfl
  have shut : (Sample.after leavesBacklog).state = .closed := rfl
  have left : (Sample.after leavesBacklog).backlog = [2] := rfl
  have again : (Sample.after leavesBacklog).run? reopens =
      some (Sample.after (leavesBacklog ++ reopens)) := rfl
  have emptied : (Sample.after (leavesBacklog ++ reopens)).backlog = [] := rfl
  have idle : ∀ task ∈ (Sample.after leavesBacklog).tasks, task.isOver = true := by decide
  have drops : (Sample.after leavesBacklog).DropsReads reopens := by
    rw [DropsReads]
    decide
  have renews := closed_renews ran shut idle
  obtain ⟨later, runs, shows, -⟩ := renews.1 _ _ opens
  obtain ⟨actions, now, shifted, ranOwn, shows', -⟩ := renews.2 _ _ drops again
  cases runs.symm.trans again
  exact ⟨_, _, ran, shut, left, again, emptied, shows, actions, now, shifted, ranOwn, shows'⟩

end Connection

end CdcSerial
