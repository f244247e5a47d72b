import CdcSerial.Proofs.Connection.Opening
import CdcSerial.Proofs.Connection.Stopping

/-!
# The way out of an open port

A call that closes an open port tells the recorded read to stop and waits for it until its deadline.
Until then it has changed nothing but the state of the lifecycle: the link is in its place, what the
device has sent stays in the backlog, and nobody can take bytes from there. If the deadline passes
first, the call puts the state back and is done. Otherwise it takes the link, and from there on
there is no way back: it waits for the writer and for tickets, and leaves the device of the session
whose link it took.

`Exit` says for each point of the call what has happened on the way to it, and `Outcome` what has
happened when it ends.
-/

namespace CdcSerial

/-- The line configuration that a caller is about to record. -/
def Task.recording? : Task → Option LineConfig
  | .recording line => some line
  | _ => none

/-- The session whose link a closing caller has taken and whose device it has not begun to leave. -/
def Task.taken? : Task → Option Nat
  | .draining session => some session
  | .idling session => some session
  | .regaining session => some session
  | _ => none

theorem Read.not_isTerminal_of_unfinished {read : Read} (unfinished : read.isFinished = false) :
    read.phase.isTerminal = false := by
  rw [Read.isFinished, Option.isSome_eq_false_iff, Option.isNone_iff_eq_none] at unfinished
  simp [Read.phase, unfinished, ReadPhase.isTerminal]

namespace Connection

/-- The line configuration that an action records. -/
def recording? (connection : Connection) : Action → Option LineConfig
  | .advance (.call call) => connection.tasks[call]?.bind Task.recording?
  | _ => none

/-- The line configurations that are recorded in a course of actions, in order. -/
def recordings (start : Connection) (actions : List Action) : List LineConfig :=
  start.along (fun before action _ => (before.recording? action).toList) actions

/-- What is as it was while a call waits that wants to close the port. -/
structure Pause (start begun : Connection) (link : Link) (during : List Action)
    (connection : Connection) : Prop where
  held : connection.link =
    some { link with line := (begun.recordings during).getLast?.getD link.line }
  backlog : start.backlog <:+: connection.backlog

/-- That a closing call tells a read to stop: what comes later, and the state in which it does. -/
inductive Told (begun : Connection) (call number : Nat) :
    List Action → List Action → Connection → Prop where
  | tells {earlier later before told} (ran : begun.run? earlier = some before)
      (stands : before.tasks[call]? = some (.cancelling number))
      (stepped : before.step? (.advance (.call call)) = some told) :
      Told begun call number (earlier ++ .advance (.call call) :: later) later told

/-- That the deadline of a closing call passes while others see its read polling. -/
inductive Late (begun : Connection) (call number : Nat) : List Action → Prop where
  | passes {earlier later before record} (ran : begun.run? earlier = some before)
      (found : before.reads[number]? = some record) (running : record.phase.isTerminal = false) :
      Late begun call number (earlier ++ .expire call :: later)

/-- That a closing call has told the recorded read to stop, if there is one. -/
structure Warned (begun : Connection) (call : Nat) (link : Link) (during : List Action) : Prop where
  told : ∀ {number}, link.reader = some number →
    ∃ later told, Told begun call number during later told

open Procedure in
/--
How far a call is with closing the port of a link. It began in the state `begun`, and what happened
since is `during`.
-/
inductive Exit (settings : Settings) (start begun : Connection) (link : Link) (handle : Handle)
    (call : Nat) (during : List Action) (connection : Connection) : Task → Prop where
  | cancelling {number} (recorded : link.reader = some number)
      (pause : Pause start begun link during connection) :
      Exit settings start begun link handle call during connection (.cancelling number)
  | awaiting {number deadline} (recorded : link.reader = some number)
      (warned : Warned begun call link during)
      (known : settings.effectiveDeadline? = some deadline)
      (pause : Pause start begun link during connection) :
      Exit settings start begun link handle call during connection (.awaitingReader number deadline)
  | reverting {number deadline} (recorded : link.reader = some number)
      (warned : Warned begun call link during) (late : Late begun call number during)
      (known : settings.effectiveDeadline? = some deadline)
      (pause : Pause start begun link during connection) :
      Exit settings start begun link handle call during connection (.reverting deadline)
  | taking (warned : Warned begun call link during)
      (pause : Pause start begun link during connection) :
      Exit settings start begun link handle call during connection .takingLink
  | waiting {task} (taken : task.taken? = some link.session)
      (warned : Warned begun call link during) :
      Exit settings start begun link handle call during connection task
  | releasing {run} (warned : Warned begun call link during)
      (path : Path (leave settings handle) (eventsOf (.call call) (begun.exchanges during))
        run.procedure) :
      Exit settings start begun link handle call during connection (.releasing run)
  | settling {result} (warned : Warned begun call link during)
      (path : Path (leave settings handle) (eventsOf (.call call) (begun.exchanges during))
        (.done result)) :
      Exit settings start begun link handle call during connection (.settling result)

open Procedure in
/-- What has happened when a call ends that closes the port of a link. -/
inductive Outcome (settings : Settings) (start begun : Connection) (link : Link) (handle : Handle)
    (call : Nat) (during : List Action) (final : Connection) : Ending → Prop where
  | reverts {number deadline} (recorded : link.reader = some number)
      (warned : Warned begun call link during) (late : Late begun call number during)
      (known : settings.effectiveDeadline? = some deadline)
      (pause : Pause start begun link during final) (opened : final.state = .opened)
      (silent : eventsOf (.call call) (begun.exchanges during) = []) :
      Outcome settings start begun link handle call during final
        (.returned (.error (.cancelTimeout deadline)))
  | departs {result} (warned : Warned begun call link during)
      (path : Path (leave settings handle) (eventsOf (.call call) (begun.exchanges during))
        (.done result)) (closed : final.state = .closed) (bare : final.link = none) :
      Outcome settings start begun link handle call during final
        (.returned (result.map fun _ => .done))

/-! ### Waiting changes nothing -/

section Waiting

variable {before after : Connection} {action : Action} {exchange? : Option Exchange} {call : Nat}
  {task : Task}

/--
That a step does nothing with the link but to record a line, and takes nothing from the backlog.
-/
structure Calm (before : Connection) (action : Action) (after : Connection) : Prop where
  link : after.link = before.link.map fun link =>
    { link with line := (before.recording? action).getD link.line }
  backlog : before.backlog <:+: after.backlog

theorem Calm.of_link (link : after.link = before.link) (backlog : before.backlog <:+: after.backlog)
    (silent : before.recording? action = none) : Calm before action after where
  link := by
    rw [link, silent]
    cases before.link <;> rfl
  backlog := backlog

theorem ReadStart.eq_of_closing {length : Nat} {result : Except Error Nat}
    (start : ReadStart before length after result) (closing : before.state = .closing) :
    after = before := by
  have shut : before.openLink? = none := openLink?_eq_none (by simp [closing])
  cases start with
  | refused => rfl
  | served journal opened => cases shut.symm.trans opened
  | notStarted cause opened => cases shut.symm.trans opened
  | polls opened => cases shut.symm.trans opened

theorem Entry.calm {made : Call} (entry : Entry before made after task)
    (started : Except SystemError Unit) (closing : before.state = .closing) :
    Calm before (.invoke made started) (after.addTask task) := by
  cases entry with
  | reads fits start =>
      cases start.eq_of_closing closing
      exact .of_link rfl List.infix_rfl rfl
  | readFails fits start =>
      cases start.eq_of_closing closing
      exact .of_link rfl List.infix_rfl rfl
  | writes start =>
      rcases start.frame with ⟨sessions, writes, rfl⟩
      exact .of_link rfl List.infix_rfl rfl
  | _ => exact .of_link rfl List.infix_rfl rfl

/--
The turns that change the link otherwise are those of opening the port and of taking the link.
-/
theorem Turn.calm {next : Task} (turn : Turn before call task after next)
    (stands : before.tasks[call]? = some task) (part : task.part ≠ .opener)
    (kept : after.link.isSome = true) :
    Calm before (.advance (.call call)) (after.setTask call next) := by
  have silent (other : task.recording? = none) :
      before.recording? (.advance (.call call)) = none := by
    simp [recording?, stands, other]
  cases turn with
  | lists progress =>
      rcases progress.only_tells with ⟨journal, rfl⟩
      exact .of_link rfl List.infix_rfl (silent rfl)
  | releases progress =>
      rcases progress.only_tells with ⟨journal, rfl⟩
      exact .of_link rfl List.infix_rfl (silent rfl)
  | configures progress =>
      obtain ⟨journal, rfl⟩ | rfl := progress.only_lane <;>
        exact .of_link rfl List.infix_rfl (silent rfl)
  | @putsBack data =>
      exact .of_link rfl (List.suffix_append data before.backlog).isInfix (silent rfl)
  | @records line =>
      have recorded : before.recording? (.advance (.call call)) = some line := by
        simp [recording?, stands, Task.recording?]
      refine ⟨?_, List.infix_rfl⟩
      rw [recorded]
      rfl
  | opens | reached | notReached | clears | installs | retreats => exact absurd rfl part
  | takesLink => cases kept
  | _ => exact .of_link rfl List.infix_rfl (silent rfl)

theorem ReaderTurn.backlog_prefix {read : Read} {stage : ReaderStage}
    (turn : ReaderTurn before read after stage) : before.backlog <+: after.backlog := by
  cases turn with
  | keepsAll => exact List.prefix_append _ _
  | divides => exact List.prefix_append _ _
  | _ => exact List.prefix_rfl

/-- While a call waits that wants to close the port, steps are calm until it takes the link. -/
theorem Move.calm (move : Move before action exchange? after) (orderly : before.Orderly)
    (stands : before.tasks[call]? = some task) (part : task.part = .stopper)
    (kept : after.link.isSome = true) : Calm before action after := by
  have closing := (orderly.of_stopper (List.mem_of_getElem? stands) part).1
  cases move with
  | enters permitted entry => exact entry.calm _ closing
  | startsRead start =>
      cases start.eq_of_closing closing
      exact .of_link rfl List.infix_rfl rfl
  | startsWrite start =>
      rcases start.frame with ⟨sessions, writes, rfl⟩
      exact .of_link rfl List.infix_rfl rfl
  | turns stood turn =>
      refine turn.calm stood (fun opener => ?_) kept
      have opening := (orderly.of_opener (List.mem_of_getElem? stood) opener).1
      cases closing.symm.trans opening
  | answered stood answer =>
      rcases answer.frame with ⟨-, sessions, rfl⟩
      exact .of_link rfl List.infix_rfl rfl
  | readerTurns found turn =>
      have grown := turn.backlog_prefix
      rcases turn.frame with ⟨backlog, sessions, rfl⟩
      exact .of_link rfl grown.isInfix rfl
  | writerTurns found turn =>
      rcases turn.frame with ⟨sessions, writes, rfl⟩
      exact .of_link rfl List.infix_rfl rfl
  | writerAnswered found answer =>
      rcases answer.frame with ⟨sessions, writes, rfl⟩
      exact .of_link rfl List.infix_rfl rfl
  | _ => exact .of_link rfl List.infix_rfl rfl

end Waiting

/-! ### One step -/

section Steps

variable {locator : Locator} {settings : Settings} {calls : List Call} {exchanges : List Exchange}
  {start begun before after : Connection} {link : Link} {handle : Handle} {call : Nat}
  {during : List Action} {action : Action} {task : Task}

theorem Pause.of_calm (pause : Pause start begun link during before)
    (ran : begun.run? during = some before) (stepped : before.step? action = some after)
    (calm : Calm before action after) : Pause start begun link (during ++ [action]) after where
  held := by
    have recorded : begun.recordings (during ++ [action]) =
        begun.recordings during ++ (before.recording? action).toList := along_concat ran stepped
    rw [calm.link, pause.held, recorded, Option.map_some]
    cases before.recording? action <;> simp
  backlog := pause.backlog.trans calm.backlog

theorem Told.concat {number : Nat} {later : List Action} {told : Connection}
    (tells : Told begun call number during later told) (action : Action) :
    Told begun call number (during ++ [action]) (later ++ [action]) told := by
  cases tells with
  | tells ran stands stepped =>
      rw [List.append_assoc, List.cons_append]
      exact .tells ran stands stepped

theorem Late.concat {number : Nat} (late : Late begun call number during) (action : Action) :
    Late begun call number (during ++ [action]) := by
  cases late with
  | passes ran found running =>
      rw [List.append_assoc, List.cons_append]
      exact .passes ran found running

theorem Warned.concat (warned : Warned begun call link during) (action : Action) :
    Warned begun call link (during ++ [action]) := by
  constructor
  intro number recorded
  rcases warned.told recorded with ⟨later, told, tells⟩
  exact ⟨_, told, tells.concat action⟩

theorem eventsOf_concat_of_quiet {thread : Thread} (ran : begun.run? during = some before)
    (stepped : before.step? action = some after)
    (quiet : eventsOf thread (before.exchange? action).toList = []) :
    eventsOf thread (begun.exchanges (during ++ [action])) =
      eventsOf thread (begun.exchanges during) := by
  rw [exchanges_concat ran stepped, eventsOf_append, quiet, List.append_nil]

theorem eventsOf_exchange?_of_other {thread : Thread} (other : action.thread? ≠ some thread) :
    eventsOf thread (before.exchange? action).toList = [] := by
  cases action with
  | answer mover replies =>
      have apart : mover ≠ thread := by simpa [Action.thread?] using other
      cases asks : before.pending? mover with
      | none => simp [exchange?, asks, eventsOf]
      | some pending => simp [exchange?, asks, eventsOf, apart]
  | _ => rfl

/-- Others leave a closing call where it is. -/
theorem Exit.of_other (exit : Exit settings start begun link handle call during before task)
    (orderly : before.Orderly) (ran : begun.run? during = some before)
    (stands : before.tasks[call]? = some task) (stepped : before.step? action = some after)
    (other : action.thread? ≠ some (.call call)) :
    after.tasks[call]? = some task ∧
      Exit settings start begun link handle call (during ++ [action]) after task := by
  have move := Move.of_step? stepped
  have stood := move.stands_of_other stands other
  have events := eventsOf_concat_of_quiet ran stepped (eventsOf_exchange?_of_other other)
  have further (part : task.part = .stopper) (pause : Pause start begun link during before) :
      Pause start begun link (during ++ [action]) after := by
    have kept := ((orderly.of_move move).of_stopper (List.mem_of_getElem? stood) part).2
    exact pause.of_calm ran stepped (move.calm orderly stands part kept)
  refine ⟨stood, ?_⟩
  cases exit with
  | cancelling recorded pause => exact .cancelling recorded (further rfl pause)
  | awaiting recorded warned known pause =>
      exact .awaiting recorded (warned.concat action) known (further rfl pause)
  | reverting recorded warned late known pause =>
      exact .reverting recorded (warned.concat action) (late.concat action) known
        (further rfl pause)
  | taking warned pause => exact .taking (warned.concat action) (further rfl pause)
  | waiting taken warned => exact .waiting taken (warned.concat action)
  | releasing warned path => exact .releasing (warned.concat action) (events ▸ path)
  | settling warned path => exact .settling (warned.concat action) (events ▸ path)

/-- That a closing call goes on or ends, as it should. -/
def Proceeds (settings : Settings) (start begun : Connection) (link : Link) (handle : Handle)
    (call : Nat) (during : List Action) (connection : Connection) : Prop :=
  (∃ next, connection.tasks[call]? = some next ∧
    Exit settings start begun link handle call during connection next) ∨
  ∃ ending, connection.tasks[call]? = some (.finished ending) ∧
    Outcome settings start begun link handle call during connection ending

theorem Exit.not_over (exit : Exit settings start begun link handle call during before task) :
    task.isOver = false := by
  cases exit with
  | @waiting task taken =>
      cases task with
      | finished => cases taken
      | _ => rfl
  | _ => rfl

/-- A turn of the call itself. -/
theorem Exit.of_turn {changed : Connection} {next : Task}
    (exit : Exit settings start begun link handle call during before task)
    (sound : Sound locator settings calls exchanges before)
    (device : before.handles[link.session]? = some handle)
    (silent : task.approachesClose = true → eventsOf (.call call) (begun.exchanges during) = [])
    (fits : settings.effectiveDeadline? ≠ none) (ran : begun.run? during = some before)
    (stands : before.tasks[call]? = some task) (turn : Turn before call task changed next)
    (stepped : before.step? (.advance (.call call)) = some (changed.setTask call next)) :
    Proceeds settings start begun link handle call (during ++ [.advance (.call call)])
      (changed.setTask call next) := by
  have member := List.mem_of_getElem? stands
  have stood : (changed.setTask call next).tasks[call]? = some next :=
    setTask_getElem?_self (turn.tasks_eq ▸ stands) next
  have events : eventsOf (.call call) (begun.exchanges (during ++ [.advance (.call call)])) =
      eventsOf (.call call) (begun.exchanges during) := eventsOf_concat_of_quiet ran stepped rfl
  have further (part : task.part = .stopper) (pause : Pause start begun link during before)
      (kept : changed.link = before.link) :
      Pause start begun link (during ++ [.advance (.call call)]) (changed.setTask call next) := by
    have linked : changed.link.isSome = true := by rw [kept, pause.held]; rfl
    exact pause.of_calm ran stepped ((Move.of_step? stepped).calm sound.orderly stands part linked)
  cases exit with
  | cancelling recorded pause =>
      cases turn with
      | cancels known =>
          rw [sound.placed.set] at known
          refine .inl ⟨_, stood, .awaiting recorded ⟨?_⟩ known (further rfl pause rfl)⟩
          intro number again
          cases recorded.symm.trans again
          exact ⟨[], _, .tells ran stands stepped⟩
      | overflows unknown => exact absurd (sound.placed.set ▸ unknown) fits
  | awaiting recorded warned known pause =>
      cases turn with
      | readerStopped => exact .inl ⟨_, stood, .taking (warned.concat _) (further rfl pause rfl)⟩
  | reverting recorded warned late known pause =>
      cases turn with
      | reverts =>
          exact .inr ⟨_, stood, .reverts recorded (warned.concat _) (late.concat _) known
            (further rfl pause rfl) rfl (events.trans (silent rfl))⟩
  | taking warned pause =>
      cases turn with
      | takesLink held =>
          cases pause.held.symm.trans held
          exact .inl ⟨_, stood, .waiting rfl (warned.concat _)⟩
      | findsNoLink bare => cases bare.symm.trans pause.held
  | waiting taken warned =>
      cases turn with
      | drained => exact .inl ⟨_, stood, .waiting taken (warned.concat _)⟩
      | idled => exact .inl ⟨_, stood, .waiting taken (warned.concat _)⟩
      | @regains number session found =>
          cases taken
          cases device.symm.trans (handles_getElem? found)
          refine .inl ⟨_, stood, .releasing (warned.concat _) ?_⟩
          rw [events, silent rfl, sound.placed.set]
          exact .here
      | findsOwners found shared =>
          exact absurd (sound.owned.sole sound.orderly sound.recorded member found) shared
      | _ => cases taken
  | releasing warned path =>
      cases turn with
      | releases progress =>
          exact .inl ⟨_, stood, .releasing (warned.concat _) (events ▸ path.of_progress progress)⟩
      | released => exact .inl ⟨_, stood, .settling (warned.concat _) (events ▸ path)⟩
  | settling warned path =>
      have bare := (sound.orderly.of_leaver member rfl).2
      cases turn with
      | closes =>
          refine .inr ⟨_, stood, .departs (warned.concat _) (events ▸ path) rfl ?_⟩
          exact bare
      | closesWithError =>
          refine .inr ⟨_, stood, .departs (warned.concat _) (events ▸ path) rfl ?_⟩
          exact bare

/-- An answer of the bus to the call itself. -/
theorem Exit.of_answer {changed : Connection} {next : Task} {request : Request}
    {reply : request.Reply}
    (exit : Exit settings start begun link handle call during before task)
    (answer : CallAnswer before call task request reply changed next)
    (events : eventsOf (.call call) (begun.exchanges (during ++ [action])) =
      eventsOf (.call call) (begun.exchanges during) ++ [⟨request, reply⟩]) :
    Exit settings start begun link handle call (during ++ [action]) after next := by
  cases answer with
  | releasing =>
      cases exit with
      | releasing warned path =>
          exact .releasing (warned.concat action) (events ▸ path.answers reply)
      | waiting taken => cases taken
  | _ =>
      cases exit with
      | waiting taken => cases taken

/-- Whatever happens, a closing call goes on or ends as it should. -/
theorem Exit.of_step (exit : Exit settings start begun link handle call during before task)
    (sound : Sound locator settings calls exchanges before)
    (device : before.handles[link.session]? = some handle)
    (silent : task.approachesClose = true → eventsOf (.call call) (begun.exchanges during) = [])
    (fits : settings.effectiveDeadline? ≠ none) (ran : begun.run? during = some before)
    (stands : before.tasks[call]? = some task) (stepped : before.step? action = some after) :
    Proceeds settings start begun link handle call (during ++ [action]) after := by
  by_cases own : action.thread? = some (.call call)
  · generalize seen : before.exchange? action = exchange?
    have move := Move.of_step? stepped
    rw [seen] at move
    cases move with
    | turns stood turn =>
        cases own
        cases stands.symm.trans stood
        exact exit.of_turn sound device silent fits ran stands turn stepped
    | @answered _ _ request replies changed next stood answer =>
        cases own
        cases stands.symm.trans stood
        have tasks : changed.tasks = before.tasks := by
          rcases answer.frame with ⟨-, sessions, rfl⟩
          rfl
        refine .inl ⟨_, setTask_getElem?_self (tasks ▸ stands) next, exit.of_answer answer ?_⟩
        rw [exchanges_concat ran stepped, eventsOf_append, seen]
        simp [eventsOf]
    | @expires _ number deadline record stood found unfinished =>
        cases own
        cases stands.symm.trans stood
        refine .inl ⟨_, setTask_getElem?_self stands _, ?_⟩
        cases exit with
        | awaiting recorded warned known pause =>
            refine .reverting recorded (warned.concat _) ?_ known (pause.of_calm ran stepped ?_)
            · exact .passes ran found (Read.not_isTerminal_of_unfinished unfinished)
            · exact .of_link rfl List.infix_rfl rfl
        | waiting taken => cases taken
    | enters | startsRead | startsWrite | cancels => cases own
    | readerTurns | readerAnswered | writerTurns | writerAnswered => cases own
  · rcases exit.of_other sound.orderly ran stands stepped own with ⟨stood, further⟩
    exact .inl ⟨task, stood, further⟩

end Steps

/-! ### Runs -/

section Runs

variable {locator : Locator} {settings : Settings} {actions during : List Action}
  {start begun connection : Connection} {link : Link} {handle : Handle}
  {started : Except SystemError Unit}

/-- A session keeps its handle while a call is under way. -/
theorem handle_of_begun {made : Call} (device : start.handles[link.session]? = some handle)
    (begins : start.step? (.invoke made started) = some begun)
    (ran : begun.run? during = some connection) :
    connection.handles[link.session]? = some handle := by
  have keeps {before after : Connection} {action : Action}
      (held : before.handles[link.session]? = some handle)
      (stepped : before.step? action = some after) :
        after.handles[link.session]? = some handle := by
    rcases (Move.of_step? stepped).keeps with ⟨more, keeps⟩
    rw [keeps.handles, List.getElem?_append_left (List.getElem?_eq_some_iff.mp held).1, held]
  exact run_induction
    (motive := fun _ connection => connection.handles[link.session]? = some handle)
    (keeps device begins) (fun _ held stepped => keeps held stepped) ran

/-- Before a closing call leaves the device it has asked nothing of the bus. -/
theorem eventsOf_of_approachesClose {task : Task}
    (ran : (fresh locator settings).run? actions = some start)
    (begins : start.step? (.invoke .close started) = some begun)
    (ranOn : (fresh locator settings).run? (actions ++ [.invoke .close started] ++ during) =
      some connection)
    (stands : connection.tasks[start.tasks.length]? = some task)
    (approaches : task.approachesClose = true) :
    eventsOf (.call start.tasks.length) (begun.exchanges during) = [] := by
  rw [← eventsOf_begun during ran begins]
  rcases (sound_of_run ranOn).placed.exists_standing stands with ⟨call, -, standing⟩
  generalize eventsOf (.call start.tasks.length) _ = events at standing ⊢
  cases standing with
  | closes => rfl
  | _ => cases approaches

/-- The first point of a call that closes an open port. -/
theorem exit_of_begins (opened : start.openLink? = some link)
    (begins : start.step? (.invoke .close started) = some begun) :
    ∃ task, begun.tasks[start.tasks.length]? = some task ∧
      Exit settings start begun link handle start.tasks.length [] begun task := by
  have held := (openLink?_eq_some.mp opened).2
  cases Move.of_step? begins with
  | enters permitted entry =>
      cases entry with
      | refuses reason =>
          cases reason with
          | alreadyOpen asked => cases asked
          | notConfigurable asked => cases asked
          | notOpen shut => cases shut.symm.trans opened
      | opens asked => cases asked
      | configures asked => cases asked
      | closesReading openedToo recorded =>
          cases opened.symm.trans openedToo
          exact ⟨_, by simp [addTask, say], .cancelling recorded ⟨held, List.infix_rfl⟩⟩
      | closesIdle openedToo unrecorded =>
          cases opened.symm.trans openedToo
          refine ⟨_, by simp [addTask, say], .taking ⟨?_⟩ ⟨held, List.infix_rfl⟩⟩
          intro number recorded
          cases unrecorded.symm.trans recorded

variable (ran : (fresh locator settings).run? actions = some start)
  (device : start.handles[link.session]? = some handle) (fits : settings.effectiveDeadline? ≠ none)
  (begins : start.step? (.invoke .close started) = some begun)

include ran device fits begins

/-- A step of a run in which a closing call is under way. -/
theorem proceeds_of_step {before after : Connection} {action : Action} {task : Task}
    (ranDuring : begun.run? during = some before) (stepped : before.step? action = some after)
    (stands : before.tasks[start.tasks.length]? = some task)
    (exit : Exit settings start begun link handle start.tasks.length during before task) :
    Proceeds settings start begun link handle start.tasks.length (during ++ [action]) after := by
  have ranBegun := run?_concat_eq_some.mpr ⟨start, ran, begins⟩
  have ranOn : (fresh locator settings).run? (actions ++ [.invoke .close started] ++ during) =
      some before := by
    rw [run?_append, ranBegun]
    exact ranDuring
  exact exit.of_step (sound_of_run ranOn) (handle_of_begun device begins ranDuring)
    (eventsOf_of_approachesClose ran begins ranOn stands) fits ranDuring stands stepped

/-- Where a closing call stands until it ends. -/
theorem exit_of_run (opened : start.openLink? = some link)
    (ranDuring : begun.run? during = some connection) :
    ∃ task, connection.tasks[start.tasks.length]? = some task ∧ (task.isOver = false →
      Exit settings start begun link handle start.tasks.length during connection task) := by
  refine run_induction (motive := fun during connection =>
    ∃ task, connection.tasks[start.tasks.length]? = some task ∧ (task.isOver = false →
      Exit settings start begun link handle start.tasks.length during connection task)) ?_
        ?_ ranDuring
  · rcases exit_of_begins opened begins with ⟨task, stands, exit⟩
    exact ⟨task, stands, fun _ => exit⟩
  · rintro during before action after ranDuring ⟨task, stands, exit⟩ stepped
    cases done : task.isOver with
    | true =>
        cases task with
        | finished ending =>
            exact ⟨_, ((Move.of_step? stepped).finished stands).1, nofun⟩
        | _ => cases done
    | false =>
        rcases proceeds_of_step ran device fits begins ranDuring stepped stands (exit done) with
          ⟨next, stood, further⟩ | ⟨ending, ended, -⟩
        · exact ⟨next, stood, fun _ => further⟩
        · exact ⟨_, ended, nofun⟩

/-- How a closing call ends. -/
theorem outcome_of_run {before final : Connection} {action : Action} {ending : Ending}
    (opened : start.openLink? = some link) (ranDuring : begun.run? during = some before)
    (unfinished : ∀ earlier, before.tasks[start.tasks.length]? ≠ some (.finished earlier))
    (stepped : before.step? action = some final)
    (ended : final.tasks[start.tasks.length]? = some (.finished ending)) :
    Outcome settings start begun link handle start.tasks.length
      (during ++ [action]) final ending := by
  rcases exit_of_run ran device fits begins opened ranDuring with ⟨task, stands, exit⟩
  have busy : task.isOver = false := by
    cases task with
    | finished earlier => exact absurd stands (unfinished earlier)
    | _ => rfl
  rcases proceeds_of_step ran device fits begins ranDuring stepped stands (exit busy) with
    ⟨next, stood, further⟩ | ⟨same, endedToo, outcome⟩
  · cases stood.symm.trans ended
    cases further.not_over
  · cases endedToo.symm.trans ended
    exact outcome

end Runs

end Connection

end CdcSerial
