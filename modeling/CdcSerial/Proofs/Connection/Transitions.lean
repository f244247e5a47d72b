import CdcSerial.Proofs.Connection.Closing
import CdcSerial.Proofs.Connection.Succession

/-!
# The ways round the lifecycle

The lifecycle changes in seven ways, and each change is made by one call: a call that opens or
closes the port makes it in the step in which the call passes its look at the state, or in the step
in which it returns. `Transition` lists the changes with what the call returns in the step.

A call that has passed its look at the state is inside until it ends. There is one such call while
the port is opening or closing and none otherwise, unless a caller that closes could not compute its
deadline: such a caller goes away and leaves the port closing.
-/

namespace CdcSerial

/-- What a call has returned, if it has. -/
def Task.result? : Task → Option (Except Error Answer)
  | .finished (.returned result) => some result
  | _ => none

/-- Whether a call has ended. -/
def Task.isOver : Task → Bool
  | .finished _ => true
  | _ => false

/-- The calls that change the lifecycle. -/
inductive Call.Switches : Call → Prop where
  | opens {call address config} (asked : call.AsksFor address config) : Switches call
  | closes : Switches .close

/-- The calls that need an open port. A read whose range does not fit its buffer needs none. -/
inductive Call.NeedsPort : Call → Prop where
  | read {buffer offset length} (fits : offset + length ≤ buffer.length) :
      NeedsPort (.read buffer offset length)
  | write {data} : NeedsPort (.write data)
  | set {options} : NeedsPort (.set options)
  | setLineConfig {config} : NeedsPort (.setLineConfig config)
  | close : NeedsPort .close

/-- A change of the lifecycle, with the call that makes it and what the call returns in the step. -/
inductive Transition : Call → Option (Except Error Answer) → Lifecycle → Lifecycle → Prop where
  | opens {call address config} (asked : call.AsksFor address config) :
      Transition call none .closed .opening
  | opened {call address config} (asked : call.AsksFor address config) :
      Transition call (some (.ok .done)) .opening .opened
  | notOpened {call address config error} (asked : call.AsksFor address config) :
      Transition call (some (.error error)) .opening .closed
  | closes : Transition .close none .opened .closing
  | closed : Transition .close (some (.ok .done)) .closing .closed
  | notReleased {status} :
      Transition .close (some (.error (.releaseFailed status))) .closing .closed
  | reverts {deadline} :
      Transition .close (some (.error (.cancelTimeout deadline))) .closing .opened

theorem Transition.of_closing {call : Call} {result? : Option (Except Error Answer)}
    {state : Lifecycle} (transition : Transition call result? state .closing) :
    state = .opened := by
  cases transition
  rfl

theorem Task.result?_of_part {task : Task} (inside : task.part ≠ .bystander) :
    task.result? = none := by
  cases task <;> simp_all [Task.part, Task.result?]

section Standing

variable {locator : Locator} {settings : Settings} {handles : List Handle} {events : List Event}
  {call : Call} {task : Task}

theorem Call.Switches.not_awaits {number : Nat} {target : ReadTarget} (switches : call.Switches)
    (asked : call.Awaits number target) : False := by
  cases switches with
  | opens opening => cases opening <;> cases asked
  | closes => cases asked

theorem Call.Switches.not_configures {line : Option LineConfig} {commands : List LineCommand}
    (switches : call.Switches) (asked : call.Configures line commands) : False := by
  cases switches with
  | opens opening => cases opening <;> cases asked
  | closes => cases asked

/-- The callers with a part in the life of the port are those whose call opens or closes it. -/
theorem Standing.part_ne_bystander_iff
    (standing : Standing locator settings handles call events task) :
    task.part ≠ .bystander ↔ call.Switches ∧ task.isOver = false := by
  constructor
  · intro inside
    cases standing with
    | opens asked => exact ⟨.opens asked, rfl⟩
    | clears asked => exact ⟨.opens asked, rfl⟩
    | installs asked => exact ⟨.opens asked, rfl⟩
    | retreats asked => exact ⟨.opens asked, rfl⟩
    | closes closing =>
        refine ⟨.closes, ?_⟩
        cases task <;> simp_all [Task.approachesClose, Task.isOver]
    | releases => exact ⟨.closes, rfl⟩
    | settles => exact ⟨.closes, rfl⟩
    | _ => exact absurd rfl inside
  · rintro ⟨switches, unfinished⟩
    cases standing with
    | lists =>
        cases switches with
        | opens asked => cases asked
    | awaitsRead asked => exact (switches.not_awaits asked).elim
    | putsBack asked => exact (switches.not_awaits asked).elim
    | awaitsWrite =>
        cases switches with
        | opens asked => cases asked
    | configures asked => exact (switches.not_configures asked).elim
    | returnsClone asked => exact (switches.not_configures asked).elim
    | returnsTicket asked => exact (switches.not_configures asked).elim
    | records asked => exact (switches.not_configures asked).elim
    | closes closing => cases task <;> simp_all [Task.approachesClose, Task.part]
    | _ => simp_all [Task.part, Task.isOver]

end Standing

namespace Connection

/-- That a call opens or closes the port, has passed its look at the state and has not ended. -/
def Inside (calls : List Call) (connection : Connection) (number : Nat) : Prop :=
  ∃ call task, calls[number]? = some call ∧ call.Switches ∧
    connection.tasks[number]? = some task ∧ task.isOver = false

/--
A call that begins now returns an error at once. Only the list of callers changes, and whatever
happens later, the call has asked nothing of the bus.
-/
def Refuses (connection : Connection) (call : Call) (error : Error) : Prop :=
  ∀ started, connection.step? (.invoke call started) =
      some (connection.addTask (Task.failed error)) ∧
    ∀ further final, (connection.addTask (Task.failed error)).run? further = some final →
      final.tasks[connection.tasks.length]? = some (Task.failed error) ∧
        eventsOf (.call connection.tasks.length)
          ((connection.addTask (Task.failed error)).exchanges further) = []

/-! ### Who is inside -/

section Sound

variable {locator : Locator} {settings : Settings} {calls : List Call} {exchanges : List Exchange}
  {connection : Connection}

theorem Placed.inside_iff (placed : Placed locator settings calls exchanges connection)
    {number : Nat} :
    Inside calls connection number ↔
      ∃ task, connection.tasks[number]? = some task ∧ task.part ≠ .bystander := by
  constructor
  · rintro ⟨call, task, made, switches, stands, unfinished⟩
    exact ⟨task, stands,
      (placed.stands made stands).part_ne_bystander_iff.mpr ⟨switches, unfinished⟩⟩
  · rintro ⟨task, stands, inside⟩
    rcases placed.exists_standing stands with ⟨call, made, standing⟩
    rcases standing.part_ne_bystander_iff.mp inside with ⟨switches, unfinished⟩
    exact ⟨call, task, made, switches, stands, unfinished⟩

theorem Sound.inside_unique (sound : Sound locator settings calls exchanges connection)
    {one other : Nat} (first : Inside calls connection one)
    (second : Inside calls connection other) : one = other := by
  rcases sound.placed.inside_iff.mp first with ⟨task, stands, inside⟩
  rcases sound.placed.inside_iff.mp second with ⟨rival, standsToo, insideToo⟩
  by_contra ne
  exact inside (sound.orderly.bystander_of_other standsToo insideToo stands ne)

theorem Sound.exists_inside_iff (sound : Sound locator settings calls exchanges connection) :
    (∃ number, Inside calls connection number) ↔ 0 < connection.insiders := by
  constructor
  · rintro ⟨number, within⟩
    rcases sound.placed.inside_iff.mp within with ⟨task, stands, inside⟩
    exact insiders_pos (List.mem_of_getElem? stands) inside
  · intro counted
    rcases List.countP_pos_iff.mp counted with ⟨task, member, inside⟩
    rcases List.getElem?_of_mem member with ⟨number, stands⟩
    exact ⟨number, sound.placed.inside_iff.mpr ⟨task, stands, by simpa using inside⟩⟩

end Sound

/-! ### Turns of those inside -/

section Turns

variable {locator : Locator} {settings : Settings} {handles : List Handle} {events : List Event}
  {before after : Connection} {call : Call} {number : Nat} {task next : Task}

theorem Passage.of_bystander {state state' : Lifecycle} {linked linked' : Bool} {part : Part}
    (passage : Passage state linked .bystander state' linked' part) :
    state' = state ∧ part = .bystander := by
  cases passage
  exact ⟨rfl, rfl⟩

theorem Turn.state_of_bystander (turn : Turn before number task after next)
    (outside : task.part = .bystander) : after.state = before.state := by
  have passage := turn.passage
  rw [outside] at passage
  exact passage.of_bystander.1

/-- A caller inside stays inside, returns and changes the lifecycle, or has no deadline. -/
theorem Turn.outcome (turn : Turn before number task after next) (orderly : before.Orderly)
    (member : task ∈ before.tasks) (standing : Standing locator settings handles call events task)
    (inside : task.part ≠ .bystander) :
    (next.part ≠ .bystander ∧ after.state = before.state) ∨
      Transition call next.result? before.state after.state ∨
        next = .finished .overflowed ∧ after.state = before.state ∧
          before.settings.effectiveDeadline? = none := by
  cases turn with
  | opens progress =>
      rcases progress.only_tells with ⟨journal, rfl⟩
      exact .inl ⟨by simp [Task.part], rfl⟩
  | releases progress =>
      rcases progress.only_tells with ⟨journal, rfl⟩
      exact .inl ⟨by simp [Task.part], rfl⟩
  | installs =>
      rw [(orderly.of_opener member rfl).1]
      cases standing with
      | installs asked => exact .inr (.inl (.opened asked))
      | closes closing => cases closing
  | retreats =>
      rw [(orderly.of_opener member rfl).1]
      cases standing with
      | retreats asked => exact .inr (.inl (.notOpened asked))
      | closes closing => cases closing
  | overflows unknown => exact .inr (.inr ⟨rfl, rfl, unknown⟩)
  | reverts =>
      rw [(orderly.of_stopper member rfl).1]
      cases standing with
      | closes => exact .inr (.inl .reverts)
  | closes =>
      rw [(orderly.of_leaver member rfl).1]
      cases standing with
      | settles => exact .inr (.inl .closed)
      | closes closing => cases closing
  | closesWithError =>
      rw [(orderly.of_leaver member rfl).1]
      cases standing with
      | settles held path =>
          rcases leave_path path with ⟨released, -, failed⟩
          cases released with
          | ok _ => cases failed
          | error status =>
              cases failed
              exact .inr (.inl .notReleased)
      | closes closing => cases closing
  | reached => exact .inl ⟨by simp [Task.part], rfl⟩
  | notReached => exact .inl ⟨by simp [Task.part], rfl⟩
  | clears => exact .inl ⟨by simp [Task.part], rfl⟩
  | cancels => exact .inl ⟨by simp [Task.part], rfl⟩
  | readerStopped => exact .inl ⟨by simp [Task.part], rfl⟩
  | takesLink => exact .inl ⟨by simp [Task.part], rfl⟩
  | findsNoLink => exact .inl ⟨by simp [Task.part], rfl⟩
  | drained => exact .inl ⟨by simp [Task.part], rfl⟩
  | idled => exact .inl ⟨by simp [Task.part], rfl⟩
  | regains => exact .inl ⟨by simp [Task.part], rfl⟩
  | findsOwners => exact .inl ⟨by simp [Task.part], rfl⟩
  | released => exact .inl ⟨by simp [Task.part], rfl⟩
  | _ => exact absurd rfl inside

end Turns

/-! ### Steps -/

section Steps

variable {locator : Locator} {settings : Settings} {calls : List Call}
  {exchanges : List Exchange} {before after : Connection} {action : Action}
  {exchange? : Option Exchange}

theorem Entry.transition {call : Call} {task : Task} (entry : Entry before call after task) :
    after.state = before.state ∨
      task.part ≠ .bystander ∧ Transition call task.result? before.state after.state := by
  cases entry with
  | opens asked closed =>
      rw [closed]
      exact .inr ⟨by simp [Task.part], .opens asked⟩
  | closesReading opened recorded =>
      rw [(openLink?_eq_some.mp opened).1]
      exact .inr ⟨by simp [Task.part], .closes⟩
  | closesIdle opened idle =>
      rw [(openLink?_eq_some.mp opened).1]
      exact .inr ⟨by simp [Task.part], .closes⟩
  | reads fits start => exact .inl start.frame.1
  | readFails fits start => exact .inl start.frame.1
  | writes start =>
      rcases start.frame with ⟨sessions, writes, rfl⟩
      exact .inl rfl
  | _ => exact .inl rfl

/-- The lifecycle changes only when a call begins or its caller takes a turn. -/
theorem Move.state_or_caller (move : Move before action exchange? after) :
    after.state = before.state ∨
      (∃ call entered task, action.call? = some call ∧ Entry before call entered task ∧
        after = entered.addTask task) ∨
      ∃ number task changed next, before.tasks[number]? = some task ∧
        Turn before number task changed next ∧ after = changed.setTask number next := by
  cases move.concern with
  | enters entry => exact .inr (.inl ⟨_, _, _, rfl, entry, rfl⟩)
  | startsRead start => exact .inl start.frame.1
  | turns stands turn => exact .inr (.inr ⟨_, _, _, _, stands, turn, rfl⟩)
  | answered stands answer =>
      rcases answer.frame with ⟨-, sessions, rfl⟩
      exact .inl rfl
  | expires => exact .inl rfl
  | nobody state link tasks => exact .inl state

/-- Every change of the lifecycle is a transition of a call that had not returned before. -/
theorem Move.transition (sound : Sound locator settings calls exchanges before)
    (move : Move before action exchange? after) (changes : after.state ≠ before.state) :
    ∃ (number : Nat) (call : Call) (task : Task),
      (calls ++ action.call?.toList)[number]? = some call ∧
      before.tasks[number]?.bind Task.result? = none ∧ after.tasks[number]? = some task ∧
      Transition call task.result? before.state after.state := by
  rcases move.state_or_caller with
    same | ⟨call, entered, task, made, entry, rfl⟩ |
      ⟨number, task, changed, next, stands, turn, rfl⟩
  · exact absurd same changes
  · refine ⟨before.tasks.length, call, task, ?_, ?_, ?_, ?_⟩
    · rw [← sound.placed.count, made]
      simp
    · simp
    · simp [addTask, entry.arrival.2.2]
    · rcases entry.transition with same | ⟨-, transition⟩
      · exact absurd same changes
      · exact transition
  · rcases sound.placed.exists_standing stands with ⟨call, made, standing⟩
    have inside : task.part ≠ .bystander := by
      intro outside
      exact changes (turn.state_of_bystander outside)
    have stood : changed.tasks[number]? = some task := by rw [turn.tasks_eq, stands]
    refine ⟨number, call, next, ?_, ?_, setTask_getElem?_self stood next, ?_⟩
    · rw [List.getElem?_append_left (List.getElem?_eq_some_iff.mp made).1, made]
    · simp [stands, Task.result?_of_part inside]
    · rcases turn.outcome sound.orderly (List.mem_of_getElem? stands) standing inside with
        ⟨-, same⟩ | transition | ⟨-, same, -⟩
      · exact absurd same changes
      · exact transition
      · exact absurd same changes

/-- A call inside that returns makes the change of the lifecycle that goes with its result. -/
theorem Move.transition_of_result (sound : Sound locator settings calls exchanges before)
    (move : Move before action exchange? after) {number : Nat} {call : Call}
    {result : Except Error Answer} (made : calls[number]? = some call)
    (within : Inside calls before number)
    (returned : after.tasks[number]?.bind Task.result? = some result) :
    Transition call (some result) before.state after.state := by
  rcases sound.placed.inside_iff.mp within with ⟨task, stands, inside⟩
  cases move.fate stands with
  | stays stood => simp [stood, Task.result?_of_part inside] at returned
  | @turns changed next turn =>
      have stood : changed.tasks[number]? = some task := by rw [turn.tasks_eq, stands]
      rw [setTask_getElem?_self stood next, Option.bind_some] at returned
      rcases turn.outcome sound.orderly (List.mem_of_getElem? stands)
          (sound.placed.stands made stands) inside with ⟨further, -⟩ | transition | ⟨rfl, -⟩
      · rw [Task.result?_of_part further] at returned
        cases returned
      · rw [returned] at transition
        exact transition
      · cases returned
  | @answered request reply changed next answer =>
      rcases answer.frame with ⟨part, sessions, rfl⟩
      have stood : { before with sessions }.tasks[number]? = some task := stands
      rw [setTask_getElem?_self stood next, Option.bind_some,
        Task.result?_of_part (part ▸ inside)] at returned
      cases returned
  | expires stopping =>
      rw [setTask_getElem?_self stands, Option.bind_some] at returned
      cases returned

/-- If deadlines can be computed, a caller stays inside as long as the port is closing. -/
theorem Move.insiders_pos_of_closing (sound : Sound locator settings calls exchanges before)
    (computable : settings.effectiveDeadline? ≠ none) (move : Move before action exchange? after)
    (attended : before.state = .closing → 0 < before.insiders) (closing : after.state = .closing) :
    0 < after.insiders := by
  have of_turn {number : Nat} {task next : Task} {changed : Connection}
      (stands : before.tasks[number]? = some task) (inside : task.part ≠ .bystander)
      (turn : Turn before number task changed next) (closing : changed.state = .closing) :
      0 < (changed.setTask number next).insiders := by
    rcases sound.placed.exists_standing stands with ⟨call, -, standing⟩
    have member := List.mem_of_getElem? stands
    have stood : changed.tasks[number]? = some task := by rw [turn.tasks_eq, stands]
    rcases turn.outcome sound.orderly member standing inside with
      ⟨further, -⟩ | transition | ⟨-, -, unknown⟩
    · exact insiders_pos (List.mem_of_getElem? (setTask_getElem?_self stood next)) further
    · have state := sound.orderly.state_of_insiders (insiders_pos member inside)
      rw [closing] at transition
      simp [transition.of_closing] at state
    · rw [sound.placed.set] at unknown
      exact absurd unknown computable
  by_cases same : after.state = before.state
  · rcases List.countP_pos_iff.mp (attended (same ▸ closing)) with ⟨task, member, inside⟩
    simp only [decide_eq_true_eq] at inside
    rcases List.getElem?_of_mem member with ⟨number, stands⟩
    cases move.fate stands with
    | stays stood => exact insiders_pos (List.mem_of_getElem? stood) inside
    | turns turn => exact of_turn stands inside turn closing
    | @answered request reply changed next answer =>
        rcases answer.frame with ⟨part, sessions, rfl⟩
        exact insiders_pos (List.mem_of_getElem? (setTask_getElem?_self stands next))
          (part ▸ inside)
    | expires stopping =>
        exact insiders_pos (List.mem_of_getElem? (setTask_getElem?_self stands _))
          (by simp [Task.part])
  · rcases move.state_or_caller with
      kept | ⟨call, entered, task, -, entry, rfl⟩ | ⟨number, task, changed, next, stands, turn, rfl⟩
    · exact absurd kept same
    · rcases entry.transition with kept | ⟨inside, -⟩
      · exact absurd kept same
      · exact insiders_pos (by simp [addTask]) inside
    · refine of_turn stands ?_ turn closing
      intro outside
      exact same (turn.state_of_bystander outside)

end Steps

/-! ### Refusals -/

/-- A call that has ended stays as it is and asks nothing of the bus. -/
theorem Move.finished {before after : Connection} {action : Action} {exchange? : Option Exchange}
    {number : Nat} {ending : Ending} (move : Move before action exchange? after)
    (ended : before.tasks[number]? = some (.finished ending)) :
    after.tasks[number]? = some (.finished ending) ∧
      eventsOf (.call number) exchange?.toList = [] := by
  have silent : eventsOf (.call number) exchange?.toList = [] := by
    cases move with
    | @answered call task request replies changed next stands answer =>
        apply eventsOf_of_ne
        rintro ⟨⟩
        rw [ended] at stands
        cases stands
        cases answer
    | readerAnswered => exact eventsOf_of_ne (by simp) _
    | writerAnswered => exact eventsOf_of_ne (by simp) _
    | _ => rfl
  refine ⟨?_, silent⟩
  cases move.fate ended with
  | stays stands => exact stands
  | turns turn => cases turn
  | answered answer => cases answer
  | expires stopping => cases stopping

theorem run_of_finished {start final : Connection} {actions : List Action} {number : Nat}
    {ending : Ending} (ended : start.tasks[number]? = some (.finished ending))
    (ran : start.run? actions = some final) :
    final.tasks[number]? = some (.finished ending) ∧
      eventsOf (.call number) (start.exchanges actions) = [] := by
  refine run_induction (motive := fun actions final =>
    final.tasks[number]? = some (.finished ending) ∧
      eventsOf (.call number) (start.exchanges actions) = []) ⟨ended, rfl⟩ ?_ ran
  rintro actions middle action final ranBefore ⟨stays, silent⟩ stepped
  rcases (Move.of_step? stepped).finished stays with ⟨staysOn, quiet⟩
  refine ⟨staysOn, ?_⟩
  rw [exchanges_concat ranBefore stepped, eventsOf_append, silent, quiet, List.append_nil]

theorem Refuses.of_enter {connection : Connection} {call : Call} {error : Error}
    (permitted : connection.permits call = true)
    (enters : ∀ started, connection.enter call started = (connection, Task.failed error)) :
    connection.Refuses call error := by
  intro started
  refine ⟨by simp [step?, permitted, invoke, enters started, addTask], ?_⟩
  intro further final ran
  exact run_of_finished (by simp [addTask, Task.failed]) ran

theorem refuses_of_asksFor {connection : Connection} {call : Call} {address : Address}
    {config : LineConfig} (busy : connection.state ≠ .closed)
    (asked : call.AsksFor address config) :
    connection.Refuses call .alreadyOpen := by
  cases asked with
  | port =>
      apply Refuses.of_enter rfl
      intro started
      simp [enter, enterOpen, busy]
  | text valid parsed =>
      apply Refuses.of_enter rfl
      intro started
      simp [enter, enterOpenWith, valid, parsed, enterOpen, busy]

theorem openLink?_eq_none {connection : Connection} (shut : connection.state ≠ .opened) :
    connection.openLink? = none := by
  simp [openLink?, shut]

theorem startRead_of_not_opened {connection : Connection} (shut : connection.state ≠ .opened)
    (length : Nat) (started : Except SystemError Unit) :
    connection.startRead length started = (connection, .error .notOpen) := by
  simp [startRead, admission, openLink?_eq_none shut]

theorem startWrite_of_not_opened {connection : Connection} (shut : connection.state ≠ .opened)
    (data : List UInt8) : connection.startWrite data = (connection, .error .notOpen) := by
  simp [startWrite, openLink?_eq_none shut]

theorem refuses_of_needsPort {connection : Connection} {call : Call}
    (shut : connection.state ≠ .opened) (needs : call.NeedsPort) :
    connection.Refuses call .notOpen := by
  cases needs with
  | read fits =>
      apply Refuses.of_enter rfl
      intro started
      simp [enter, enterRead, Nat.not_lt.mpr fits, startRead_of_not_opened shut]
  | write =>
      apply Refuses.of_enter rfl
      intro started
      simp [enter, enterWrite, startWrite_of_not_opened shut]
  | set =>
      apply Refuses.of_enter rfl
      intro started
      simp [enter, enterConfigure, openLink?_eq_none shut]
  | setLineConfig =>
      apply Refuses.of_enter rfl
      intro started
      simp [enter, enterConfigure, openLink?_eq_none shut]
  | close =>
      apply Refuses.of_enter rfl
      intro started
      simp [enter, enterClose, openLink?_eq_none shut]

/-! ### Courses of actions -/

theorem effectiveDeadline?_ne_none {settings : Settings}
    (fits : settings.pollTimeout.double? ≠ none) : settings.effectiveDeadline? ≠ none := by
  simp [Settings.effectiveDeadline?, fits]

theorem insiders_pos_of_run {locator : Locator} {settings : Settings} {actions : List Action}
    {connection : Connection} (computable : settings.effectiveDeadline? ≠ none)
    (ran : (fresh locator settings).run? actions = some connection) :
    connection.state = .closing → 0 < connection.insiders := by
  refine run_induction (motive := fun _ connection =>
    connection.state = .closing → 0 < connection.insiders) (by simp [fresh]) ?_ ran
  intro actions middle action final ranBefore attended stepped
  exact (Move.of_step? stepped).insiders_pos_of_closing (sound_of_run ranBefore) computable attended

/--
After every course of actions, if twice the poll timeout is a duration: there is no link while the
port is closed or opening and one while it is open; at most one call is inside opening or closing,
and one is exactly while the port is opening or closing; every step that changes the lifecycle is a
transition of a call that had not returned, and a call inside that returns makes the transition
that goes with its result; and where the port is not closed or not open, the calls that need it so
are refused without a request to the bus or a change of the port.
-/
theorem lifecycle_transitions {locator : Locator} {settings : Settings} {actions : List Action}
    {connection : Connection} (fits : settings.pollTimeout.double? ≠ none)
    (ran : (fresh locator settings).run? actions = some connection) :
    ((connection.state = .closed ∨ connection.state = .opening) → connection.link = none) ∧
    (connection.state = .opened → connection.link.isSome = true) ∧
    (∀ one other, Inside (calls actions) connection one → Inside (calls actions) connection other →
      one = other) ∧
    ((∃ number, Inside (calls actions) connection number) ↔
      connection.state = .opening ∨ connection.state = .closing) ∧
    (∀ action final, connection.step? action = some final →
      (final.state ≠ connection.state → ∃ (number : Nat) (call : Call) (task : Task),
        (calls (actions ++ [action]))[number]? = some call ∧
          connection.tasks[number]?.bind Task.result? = none ∧ final.tasks[number]? = some task ∧
          Transition call task.result? connection.state final.state) ∧
      ∀ number call result, (calls actions)[number]? = some call →
        Inside (calls actions) connection number →
        final.tasks[number]?.bind Task.result? = some result →
        Transition call (some result) connection.state final.state) ∧
    (connection.state ≠ .closed → ∀ call address config, call.AsksFor address config →
      connection.Refuses call .alreadyOpen) ∧
    (connection.state ≠ .opened → (∀ call, call.NeedsPort → connection.Refuses call .notOpen) ∧
      (∀ length started, connection.startRead length started = (connection, .error .notOpen)) ∧
      ∀ data, connection.startWrite data = (connection, .error .notOpen)) := by
  have sound := sound_of_run ran
  have attended := insiders_pos_of_run (effectiveDeadline?_ne_none fits) ran
  refine ⟨sound.orderly.link_eq_none, sound.orderly.linked_of_opened, ?_, ?_, ?_, ?_, ?_⟩
  · intro one other first second
    exact sound.inside_unique first second
  · rw [sound.exists_inside_iff]
    exact ⟨sound.orderly.state_of_insiders, Or.rec sound.orderly.insiders_of_opening attended⟩
  · intro action final stepped
    have move := Move.of_step? stepped
    refine ⟨fun changes => ?_, fun number call result made within returned => ?_⟩
    · rw [calls_concat]
      exact move.transition sound changes
    · exact move.transition_of_result sound made within returned
  · intro busy call address config asked
    exact refuses_of_asksFor busy asked
  · intro shut
    exact ⟨fun call => refuses_of_needsPort shut, startRead_of_not_opened shut,
      startWrite_of_not_opened shut⟩

/-- A caller closes the port while a read polls, and its deadline passes. -/
def closesInVain : List Action :=
  Sample.opens ++
    [.startRead 4 (.ok ()), .advance (.reader 0), .invoke .close (.ok ()), .advance (.call 1),
      .expire 1]

theorem closesInVain_reverts :
    ∃ connection final, Sample.connection.run? closesInVain = some connection ∧
      connection.step? (.advance (.call 1)) = some final ∧
      Inside (calls closesInVain) connection 1 ∧
      Transition .close (some (.error (.cancelTimeout (.ofMilliseconds 400)))) connection.state
        final.state ∧
      connection.Refuses (.write [1]) .notOpen ∧
      ∀ number, Inside (calls closesInVain) connection number → number = 1 := by
  have ran : Sample.connection.run? closesInVain = some (Sample.after closesInVain) := rfl
  have stepped : (Sample.after closesInVain).step? (.advance (.call 1)) =
    some (Sample.after (closesInVain ++ [.advance (.call 1)])) := rfl
  have inside : Inside (calls closesInVain) (Sample.after closesInVain) 1 :=
    ⟨_, _, rfl, .closes, rfl, rfl⟩
  rcases lifecycle_transitions (by decide) ran with ⟨-, -, unique, -, changes, -, refused⟩
  refine ⟨_, _, ran, stepped, inside, ?_, ?_, ?_⟩
  · exact (changes _ _ stepped).2 1 .close _ rfl inside rfl
  · exact (refused (by decide)).1 _ .write
  · exact fun number within => unique _ _ within inside

end Connection

end CdcSerial
