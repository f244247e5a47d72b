import CdcSerial.Proofs.Connection.Completion
import CdcSerial.Proofs.Connection.Lanes

/-!
# A read on a quiet port

A port is quiet if it is open and nobody has anything to do. A caller that then reads has the port
for itself: until its call ends, all turns are its own or those of the worker of its read
(`Serving.acts`), and there is always one to take. When the call has ended, the port is quiet again.
-/

namespace CdcSerial

/-- Whether the worker of a session's writes has nothing to do. -/
def Session.isIdle (session : Session) : Bool :=
  match session.writer with
  | .waiting => session.queue.isEmpty && !session.hungUp
  | .ended => true
  | _ => false

namespace Connection

/-- The port is open, and nobody has anything to do. -/
structure Quiet (connection : Connection) : Prop where
  opened : connection.openLink?.isSome = true
  calls : ∀ task ∈ connection.tasks, task.isOver = true
  reads : ∀ read ∈ connection.reads, read.isFinished = true
  writers : ∀ session ∈ connection.sessions, session.isIdle = true

/-- A caller waits for a read that fills a buffer, and nobody else has anything to do. -/
structure Serving (call number : Nat) (buffer : List UInt8) (read : Read)
    (connection : Connection) : Prop where
  opened : connection.openLink?.isSome = true
  alone : Alone call connection
  stands : connection.tasks[call]? = some (.awaitingRead number (.into buffer 0))
  found : connection.reads[number]? = some read
  asked : read.length = buffer.length
  wanted : read.cancelled = false
  others : ∀ {other finished}, connection.reads[other]? = some finished → other ≠ number →
    finished.isFinished = true
  writers : ∀ session ∈ connection.sessions, session.isIdle = true

/-- The turns of the caller and of the worker while a read is served. -/
inductive Served (before : Connection) (call number : Nat) (buffer : List UInt8) (read : Read) :
    Option Exchange → Connection → Prop where
  | works {changed stage} (turn : ReaderTurn before read changed stage) :
      Served before call number buffer read none (changed.setReader number stage)
  | hears {session request reply stage}
      (answer : ReaderAnswer before read session request reply stage) :
      Served before call number buffer read (some (.reader number, ⟨request, reply⟩))
        (before.setReader number stage)
  | fetches {changed next}
      (turn : Turn before call (.awaitingRead number (.into buffer 0)) changed next) :
      Served before call number buffer read none (changed.setTask call next)

theorem exists_replies (request : Request) (reply : request.Reply) :
    ∃ replies : Replies, replies request = reply := by
  classical
  exact ⟨Function.update (fun other => Classical.choice other.nonempty_reply) request reply,
    Function.update_self request reply _⟩

section Turns

variable {locator : Locator} {settings : Settings} {before after : Connection} {action : Action}
  {exchange? : Option Exchange} {call number : Nat} {buffer : List UInt8} {read : Read}

theorem Reachable.of_step? (reachable : Reachable locator settings before)
    (stepped : before.step? action = some after) : Reachable locator settings after := by
  rcases reachable with ⟨actions, ran⟩
  exact ⟨actions ++ [action], run?_concat_eq_some.mpr ⟨before, ran, stepped⟩⟩

theorem WriterTurn.not_idle {session : Session} (turn : WriterTurn before number session after) :
    session.isIdle = false := by
  cases turn <;> simp [Session.isIdle, *]

theorem WriterAnswer.not_idle {session : Session} {request : Request} {reply : request.Reply}
    (answer : WriterAnswer before number session request reply after) : session.isIdle = false := by
  cases answer <;> simp [Session.isIdle, *]

/-- On a quiet port nobody takes a turn. -/
theorem Quiet.still (quiet : before.Quiet) (move : Move before action exchange? after) :
    action.thread? = none := by
  cases move with
  | enters | startsRead | startsWrite | cancels => rfl
  | turns stands turn =>
      cases turn.not_over.symm.trans (quiet.calls _ (List.mem_of_getElem? stands))
  | answered stands answer =>
      cases answer.not_over.symm.trans (quiet.calls _ (List.mem_of_getElem? stands))
  | readerTurns found turn =>
      cases turn.unfinished.symm.trans (quiet.reads _ (List.mem_of_getElem? found))
  | readerAnswered found held answer =>
      cases answer.unfinished.symm.trans (quiet.reads _ (List.mem_of_getElem? found))
  | writerTurns found turn =>
      cases turn.not_idle.symm.trans (quiet.writers _ (List.mem_of_getElem? found))
  | writerAnswered found answer =>
      cases answer.not_idle.symm.trans (quiet.writers _ (List.mem_of_getElem? found))
  | expires stands => cases quiet.calls _ (List.mem_of_getElem? stands)

theorem not_quiet_of_step? (turned : action.thread?.isSome = true)
    (stepped : before.step? action = some after) : ¬before.Quiet := by
  intro quiet
  simp [quiet.still (Move.of_step? stepped)] at turned

/-- A caller that has something to do while another one is alone is that one. -/
theorem Alone.caller {other : Nat} {task busy : Task} (alone : Alone call before)
    (stands : before.tasks[call]? = some task) (there : before.tasks[other]? = some busy)
    (unfinished : busy.isOver = false) : other = call ∧ busy = task := by
  obtain rfl : other = call := by
    by_contra apart
    cases unfinished.symm.trans (alone.ended there apart)
  exact ⟨rfl, Option.some.inj (there.symm.trans stands)⟩

namespace Serving

/-- Only the caller and the worker of its read take turns. -/
theorem acts (serving : Serving call number buffer read before)
    (move : Move before action exchange? after) (turned : action.thread?.isSome = true) :
    Served before call number buffer read exchange? after := by
  have worker {other : Nat} {unfinished : Read} (found : before.reads[other]? = some unfinished)
      (running : unfinished.isFinished = false) : other = number ∧ unfinished = read := by
    obtain rfl : other = number := by
      by_contra apart
      cases running.symm.trans (serving.others found apart)
    exact ⟨rfl, Option.some.inj (found.symm.trans serving.found)⟩
  cases move with
  | enters | startsRead | startsWrite | cancels => cases turned
  | turns stands turn =>
      rcases serving.alone.caller serving.stands stands turn.not_over with ⟨rfl, rfl⟩
      exact .fetches turn
  | answered stands answer =>
      rcases serving.alone.caller serving.stands stands answer.not_over with ⟨rfl, rfl⟩
      cases answer
  | readerTurns found turn =>
      rcases worker found turn.unfinished with ⟨rfl, rfl⟩
      exact .works turn
  | readerAnswered found held answer =>
      rcases worker found answer.unfinished with ⟨rfl, rfl⟩
      exact .hears answer
  | writerTurns found turn =>
      cases turn.not_idle.symm.trans (serving.writers _ (List.mem_of_getElem? found))
  | writerAnswered found answer =>
      cases answer.not_idle.symm.trans (serving.writers _ (List.mem_of_getElem? found))
  | expires stands => cases (serving.alone.caller serving.stands stands rfl).2

/-- The worker moves to another point. -/
theorem setReader (serving : Serving call number buffer read before) (stage : ReaderStage)
    (backlog : List UInt8) {sessions : List Session}
    (writers : ∀ session ∈ sessions, session.isIdle = true) :
    Serving call number buffer { read with stage }
      (({ before with backlog, sessions }).setReader number stage) where
  opened := serving.opened
  alone := ⟨serving.alone.ended⟩
  stands := serving.stands
  found := by simp [Connection.setReader, changeRead, serving.found]
  asked := serving.asked
  wanted := serving.wanted
  others := by
    intro other finished found apart
    refine serving.others ?_ apart
    simpa [Connection.setReader, changeRead, List.getElem?_modify, apart.symm] using found
  writers := writers

theorem of_readerTurn {stage : ReaderStage} (serving : Serving call number buffer read before)
    (turn : ReaderTurn before read after stage) :
    Serving call number buffer { read with stage } (after.setReader number stage) := by
  have dropped : ∀ session ∈ (before.dropClone read.session).sessions, session.isIdle = true :=
    forall_mem_modify read.session serving.writers fun _ _ idle => idle
  cases turn with
  | stops | polls | reports => exact serving.setReader _ before.backlog serving.writers
  | keepsAll | divides => exact serving.setReader _ _ serving.writers
  | leaves | leavesLast => exact serving.setReader _ before.backlog dropped

/-- A worker in the middle of its work can always go on. -/
theorem ready_of_worker (serving : Serving call number buffer read before)
    (working : read.stage ≠ .polling) (unclosed : read.stage.isClosing = false)
    (running : read.isFinished = false) :
    ∃ after, before.step? (.advance (.reader number)) = some after := by
  simp only [step?, advance?, advanceReader?, serving.found, Option.bind_eq_bind, Option.bind_some]
  cases stage : read.stage with
  | polling => exact absurd stage working
  | closing => simp [stage, ReaderStage.isClosing] at unclosed
  | ended => simp [Read.isFinished, Read.ending?, stage] at running
  | checking => simp [serving.wanted]
  | received => exact ⟨_, rfl⟩
  | leaving => exact ⟨_, rfl⟩
  | reporting => exact ⟨_, rfl⟩

/-- A worker that polls takes any reply. -/
theorem ready_of_polling (serving : Serving call number buffer read before) (owned : before.Owned)
    (polling : read.stage = .polling) (reply : BulkIn) :
    ∃ action after, action.thread?.isSome = true ∧ before.step? action = some after ∧
      ∃ handle endpoint size timeout, before.exchange? action =
        some (.reader number, ⟨.bulkIn handle endpoint size timeout, reply⟩) := by
  have held := readerClones_pos serving.found (by simp [polling, ReaderStage.holdsClone])
  rcases exists_session_of_pos (owned.right read.session) (by omega) with ⟨session, known⟩
  rcases exists_replies (.bulkIn session.handle before.settings.endpointIn Profile.packetSize
    before.settings.pollTimeout) reply with ⟨replies, replied⟩
  refine ⟨.answer (.reader number) replies, before.setReader number (afterPoll reply), rfl, ?_,
    session.handle, before.settings.endpointIn, Profile.packetSize, before.settings.pollTimeout, ?_⟩
  · simp [step?, pending?, readerPending?, serving.found, known, polling, replied]
  · simp [exchange?, pending?, readerPending?, serving.found, known, polling, replied]

/-- A caller whose read has ended can fetch what it gives. -/
theorem ready_of_ended {ending : ReadEnding} (serving : Serving call number buffer read before)
    (ended : read.stage = .ended ending) :
    ∃ after, before.step? (.advance (.call call)) = some after := by
  simp [step?, advance?, advanceCall?, serving.stands, serving.found, Read.ending?, ended]

/-- When the caller has what it waited for, the port is quiet. -/
theorem quiet {ending : Ending} {reader : ReadEnding}
    (serving : Serving call number buffer read before) (ended : read.stage = .ended reader) :
    ((before.setCustody number .resolved).setTask call (.finished ending)).Quiet where
  opened := serving.opened
  calls := by
    intro task member
    rcases List.getElem?_of_mem member with ⟨place, found⟩
    by_cases own : place = call
    · subst own
      cases found.symm.trans (setTask_getElem?_self serving.stands _)
      rfl
    · refine serving.alone.ended ?_ own
      simpa [setTask, setCustody, changeRead, List.getElem?_set, Ne.symm own] using found
  reads := by
    refine forall_mem_modify number ?_ fun _ _ finished => finished
    intro finished member
    rcases List.getElem?_of_mem member with ⟨place, found⟩
    by_cases own : place = number
    · subst own
      cases found.symm.trans serving.found
      exact Read.isFinished_eq_true.mpr ⟨reader, ended⟩
    · exact serving.others found own
  writers := serving.writers

theorem ended_of_fetch {next : Task} (serving : Serving call number buffer read before)
    (turn : Turn before call (.awaitingRead number (.into buffer 0)) after next) :
    ∃ ending, read.stage = .ended ending := by
  cases turn with
  | fetchesError found ended | stores found ended | spills found ended =>
      cases found.symm.trans serving.found
      exact ⟨_, ended⟩

/-- A caller that gets bytes that fit has them at the beginning of its buffer. -/
theorem of_fetch {data : List UInt8} {phase : ReadPhase} {next : Task}
    (serving : Serving call number buffer read before)
    (turn : Turn before call (.awaitingRead number (.into buffer 0)) after next)
    (ended : read.stage = .ended ⟨phase, .ok data⟩) (fits : data.length ≤ buffer.length) :
    after = before.setCustody number .resolved ∧
      next = Task.succeeded (.stored data.length (data ++ buffer.drop data.length)) := by
  cases turn with
  | fetchesError found failed =>
      cases found.symm.trans serving.found
      cases ended.symm.trans failed
  | stores found given stored =>
      cases found.symm.trans serving.found
      cases ended.symm.trans given
      refine ⟨rfl, ?_⟩
      simp only [store?, Nat.zero_add, fits, if_true, Option.some.injEq] at stored
      simp [← stored]
  | spills found given short =>
      cases found.symm.trans serving.found
      cases ended.symm.trans given
      simp [store?, fits] at short

end Serving

/-! ### The beginning of a read -/

theorem Quiet.isReading (quiet : before.Quiet) (link : Link) : before.isReading link = false := by
  unfold Connection.isReading
  split
  · rename_i read found
    rcases Option.bind_eq_some_iff.mp found with ⟨number, -, stored⟩
    simp [quiet.reads read (List.mem_of_getElem? stored)]
  · rfl

/-- On a quiet port a read can be started if its worker can. -/
theorem Quiet.startRead (quiet : before.Quiet) (length : Nat) :
    ∃ after, before.startRead length (.ok ()) = (after, .ok before.reads.length) ∧
      ReadStart before length after (.ok before.reads.length) := by
  have started : (before.startRead length (.ok ())).2 = .ok before.reads.length := by
    rcases Option.isSome_iff_exists.mp quiet.opened with ⟨link, opened⟩
    simp only [Connection.startRead, admission, opened, quiet.isReading,
      Bool.false_eq_true, if_false]
    split_ifs <;> rfl
  have start := ReadStart.of_startRead before length (.ok ())
  rw [started] at start
  exact ⟨_, Prod.ext rfl started, start⟩

/-- The caller of the read that was added last begins to wait for it. -/
theorem Serving.of_entry (quiet : before.Quiet) (opened : after.openLink?.isSome = true)
    (tasks : after.tasks = before.tasks) (reads : after.reads = before.reads ++ [read])
    (asked : read.length = buffer.length) (wanted : read.cancelled = false)
    (writers : ∀ session ∈ after.sessions, session.isIdle = true) :
    Serving before.tasks.length before.reads.length buffer { read with custody := .awaited }
      ((after.setCustody before.reads.length .awaited).addTask
        (.awaitingRead before.reads.length (.into buffer 0))) where
  opened := opened
  alone := by
    constructor
    intro other task stands apart
    simp only [addTask, setCustody, changeRead, tasks] at stands
    rw [List.getElem?_append_left (by grind)] at stands
    exact quiet.calls task (List.mem_of_getElem? stands)
  stands := by simp [addTask, setCustody, changeRead, tasks]
  found := by simp [addTask, setCustody, changeRead, reads]
  asked := asked
  wanted := wanted
  others := by
    intro other finished found apart
    simp only [addTask, setCustody, changeRead, reads, List.getElem?_modify] at found
    rw [List.getElem?_append_left (by grind)] at found
    refine quiet.reads finished (List.mem_of_getElem? (i := other) ?_)
    simpa [apart.symm] using found
  writers := writers

/-- A read on a quiet port either has to poll or is served from the backlog. -/
theorem Quiet.serving (quiet : before.Quiet) (wanted : buffer ≠ []) :
    ∃ read, Serving before.tasks.length before.reads.length buffer read
        (before.invoke (.read buffer 0 buffer.length) (.ok ())) ∧
      (before.backlog = [] ∧ read.stage = .checking ∧
          (before.invoke (.read buffer 0 buffer.length) (.ok ())).backlog = [] ∨
        before.backlog ≠ [] ∧
          read.stage = .ended ⟨.completed, .ok (before.backlog.take buffer.length)⟩ ∧
          (before.invoke (.read buffer 0 buffer.length) (.ok ())).backlog =
            before.backlog.drop buffer.length) := by
  rcases quiet.startRead buffer.length with ⟨after, started, start⟩
  have entered : before.invoke (.read buffer 0 buffer.length) (.ok ()) =
      (after.setCustody before.reads.length .awaited).addTask
        (.awaitingRead before.reads.length (.into buffer 0)) := by
    simp [invoke, enter, enterRead, enterWait, started, addTask]
  rw [entered]
  cases start with
  | served journal opened idle ready =>
      have state := (openLink?_eq_some.mp opened).1
      refine ⟨_, .of_entry quiet (by simp [openLink?, state]) rfl rfl rfl rfl quiet.writers,
        .inr ⟨?_, rfl, rfl⟩⟩
      simpa [wanted] using ready
  | polls opened idle wanted empty =>
      have state := (openLink?_eq_some.mp opened).1
      refine ⟨_, .of_entry quiet (by simp [openLink?, state]) rfl rfl rfl rfl ?_,
        .inl ⟨empty, rfl, empty⟩⟩
      exact forall_mem_modify _ quiet.writers fun _ _ idle => idle

end Turns

end Connection

end CdcSerial
