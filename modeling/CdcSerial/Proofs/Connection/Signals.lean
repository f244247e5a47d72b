import CdcSerial.Proofs.Connection.Completion

/-!
# The levels of the control lines

A device takes the levels of both control lines from the value of one request, each from its own
bit. An update sends a request for each line that it supplies, and as it does not know the level of
the other line, the request carries the bit of its own line only. So every request makes the other
line low, and only the last request counts: a line that is high after its last update is low again
as soon as the other line is supplied, be it in a later update or in the same one.

`values_of_updates` says what goes over the bus: if updates are made one after the other and all of
them succeed, the device accepts the values that they send, in order and nothing else.
`level_eq_supplied_iff` says when a line has the level that was last supplied for it.
-/

namespace CdcSerial

/-- A control line of a device. -/
inductive ControlLine where
  | dtr
  | rts
deriving DecidableEq

namespace ControlLine

/-- The line with which a line shares its requests. -/
def other : ControlLine → ControlLine
  | .dtr => .rts
  | .rts => .dtr

/-- The bit of a line in the value of a request. -/
def bit : ControlLine → UInt16
  | .dtr => ClassRequest.dtrBit
  | .rts => ClassRequest.rtsBit

end ControlLine

/-- The levels of the control lines of a device; `true` is high. -/
abbrev Levels : Type := ControlLine → Bool

namespace Levels

/-- The value of a request for the control lines that a device accepts. -/
def value? : Event → Option UInt16
  | ⟨.control _ transfer, .ok _⟩ =>
    if transfer.request = ClassRequest.setControlLineState then some transfer.value else none
  | _ => none

/-- What a device makes of a value: every line takes the level of its bit. -/
def ofValue (value : UInt16) : Levels := fun line => decide (value &&& line.bit ≠ 0)

/-- The levels after everything that was asked of a device. -/
def after (initial : Levels) (events : List Event) : Levels :=
  events.foldl (fun levels event => ((value? event).map ofValue).getD levels) initial

/-- The last value that a device accepts decides both levels. -/
theorem after_eq (initial : Levels) (events : List Event) :
    initial.after events = ((events.filterMap value?).getLast?.map ofValue).getD initial := by
  induction events using List.reverseRecOn with
  | nil => rfl
  | append_singleton events event ih =>
      rw [after] at ih ⊢
      rw [List.foldl_append, ih, List.filterMap_append]
      cases accepted : value? event <;> simp [accepted]

end Levels

namespace SetOptions

/-- The level that an update supplies for a line. -/
def level? (options : SetOptions) : ControlLine → Option Bool
  | .dtr => options.dtr
  | .rts => options.rts

/-- The line that an update supplies last. -/
def lastLine? (options : SetOptions) : Option ControlLine :=
  if options.rts.isSome then some .rts else if options.dtr.isSome then some .dtr else none

/-- The values that an update sends for the control lines. -/
def lineValues (options : SetOptions) : List UInt16 :=
  (LineCommand.lineState options.dtr options.rts).map LineCommand.value

end SetOptions

namespace Levels

/-- The level that was last supplied for each line, or the initial one. -/
def supplied (initial : Levels) (updates : List SetOptions) : Levels := fun line =>
  (updates.filterMap (·.level? line)).getLast?.getD (initial line)

/-- The line that was supplied last. -/
def lastLine? (updates : List SetOptions) : Option ControlLine :=
  (updates.filterMap SetOptions.lastLine?).getLast?

theorem ofValue_value (level : Bool) (line : ControlLine) :
    ofValue (LineCommand.dtr level).value line = (level && decide (line = .dtr)) ∧
      ofValue (LineCommand.rts level).value line = (level && decide (line = .rts)) := by
  cases level <;> cases line <;> decide

/-- A line is high exactly if the last level that it got was high and the other got none since. -/
theorem ofValue_lineValues (initial : Levels) (updates : List SetOptions) (line : ControlLine) :
    ((updates.flatMap SetOptions.lineValues).getLast?.map ofValue).getD initial line =
      (initial.supplied updates line && decide (lastLine? updates ≠ some line.other)) := by
  induction updates using List.reverseRecOn with
  | nil => simp [supplied, lastLine?]
  | append_singleton updates options ih =>
      rcases options with ⟨brk, dtr, rts⟩
      cases dtr <;> cases rts <;> cases line <;>
        simp_all [supplied, lastLine?, SetOptions.lineValues, SetOptions.lastLine?,
          SetOptions.level?, LineCommand.lineState, ofValue_value, ControlLine.other]

/--
A line keeps the level that was last supplied for it, unless that is high and the other line came
after it.
-/
theorem eq_supplied_iff (initial : Levels) (updates : List SetOptions) (line : ControlLine) :
    ((updates.flatMap SetOptions.lineValues).getLast?.map ofValue).getD initial line =
        initial.supplied updates line ↔
      (initial.supplied updates line = true → lastLine? updates ≠ some line.other) := by
  rw [ofValue_lineValues]
  cases initial.supplied updates line <;> simp

end Levels

/-! ### What an update sends -/

section Updates

open Connection Procedure

/-- The value that a command sends for the control lines. -/
def LineCommand.lineValue? (command : LineCommand) : Option UInt16 :=
  if command.code = ClassRequest.setControlLineState then some command.value else none

theorem SetOptions.plan_lineValues (options : SetOptions) :
    options.plan.filterMap LineCommand.lineValue? = options.lineValues := by
  rcases options with ⟨_ | brk, _ | dtr, _ | rts⟩ <;> rfl

theorem LineCommand.sendAll_values {handle : Handle} {timeout : Duration}
    {commands : List LineCommand} {events : List Event}
    (path : Path (sendAll handle timeout commands) events (.done (.ok ()))) :
    events.filterMap Levels.value? = commands.filterMap lineValue? := by
  induction commands generalizing events with
  | nil =>
      rcases path.of_done with ⟨rfl, -⟩
      rfl
  | cons command rest ih =>
      cases path with
      | say path =>
          cases path with
          | call reply path =>
              cases reply with
              | error status => cases path
              | ok count =>
                  rw [List.filterMap_cons, List.filterMap_cons, ih path]
                  rfl

variable {locator : Locator} {settings : Settings} {handles : List Handle} {options : SetOptions}
  {events : List Event} {task : Task}

/-- Where a caller can stand whose update is in progress. -/
inductive Updating (settings : Settings) (handles : List Handle) (options : SetOptions)
    (events : List Event) : Task → Prop where
  | sends {session handle run} (held : handles[session]? = some handle)
      (path : Path (LineCommand.sendAll handle settings.controlTimeout options.plan) events
        run.procedure) : Updating settings handles options events (.configuring session none run)
  | returnsClone {session handle result}
      (path : Path (LineCommand.sendAll handle settings.controlTimeout options.plan) events
        (.done result)) :
        Updating settings handles options events (.returningClone session none result)
  | returnsTicket {session handle result}
      (path : Path (LineCommand.sendAll handle settings.controlTimeout options.plan) events
        (.done result)) :
        Updating settings handles options events (.returningTicket session none result)

theorem Standing.updating (standing : Standing locator settings handles (.set options) events task)
    (busy : task.isOver = false) : Updating settings handles options events task := by
  cases standing with
  | opens asked => cases asked
  | clears asked => cases asked
  | installs asked => cases asked
  | retreats asked => cases asked
  | awaitsRead asked => cases asked
  | putsBack asked => cases asked
  | configures asked held path =>
      cases asked
      exact .sends held path
  | returnsClone asked held path =>
      cases asked
      exact .returnsClone path
  | returnsTicket asked held path =>
      cases asked
      exact .returnsTicket path
  | records asked => cases asked
  | _ => cases busy

end Updates

namespace Connection

open Procedure

/-- The states in which a course of actions makes calls. -/
def callStarts (connection : Connection) (actions : List Action) : List Connection :=
  connection.along (fun before action _ => (action.call?.map fun _ => before).toList) actions

/-- The values for the control lines that the device of a handle accepts. -/
def valuesOn (handle : Handle) (exchanges : List Exchange) : List UInt16 :=
  (onHandle handle (log exchanges)).filterMap Levels.value?

/--
Where a connection stands whose callers make updates one after the other: between two of them the
device has accepted what all of them send, and during one also what this one has sent so far.
`all` are the exchanges from the beginning and `recent` those since the first update.
-/
inductive Updates (handle : Handle) (calls : List Call) (all recent : List Exchange)
    (connection : Connection) : List SetOptions → Prop where
  | rests {updates} (idle : ∀ task ∈ connection.tasks, task.isOver = true)
      (sent : valuesOn handle recent = updates.flatMap SetOptions.lineValues) :
      Updates handle calls all recent connection updates
  | sends {updates options call task} (asked : calls[call]? = some (.set options))
      (stands : connection.tasks[call]? = some task) (busy : task.isOver = false)
      (alone : Alone call connection)
      (sent : valuesOn handle recent = updates.flatMap SetOptions.lineValues ++
        (eventsOf (.call call) all).filterMap Levels.value?) :
      Updates handle calls all recent connection (updates ++ [options])

theorem valuesOn_append (handle : Handle) (first second : List Exchange) :
    valuesOn handle (first ++ second) = valuesOn handle first ++ valuesOn handle second := by
  simp [valuesOn, log, onHandle]

namespace Updates

variable {locator : Locator} {settings : Settings} {handle : Handle} {calls : List Call}
  {all recent : List Exchange} {before after : Connection} {updates : List SetOptions}

/-- A caller in progress makes the last of the updates. -/
theorem of_busy {call : Nat} {task : Task} (state : Updates handle calls all recent before updates)
    (sound : Sound locator settings calls all before) (stands : before.tasks[call]? = some task)
    (busy : task.isOver = false) :
    ∃ earlier options, updates = earlier ++ [options] ∧ calls[call]? = some (.set options) ∧
      Alone call before ∧
        Updating settings before.handles options (eventsOf (.call call) all) task ∧
      valuesOn handle recent = earlier.flatMap SetOptions.lineValues ++
        (eventsOf (.call call) all).filterMap Levels.value? := by
  cases state with
  | rests idle => simp [idle task (List.mem_of_getElem? stands)] at busy
  | @sends earlier options caller found asked standing unfinished alone sent =>
      obtain rfl : call = caller := by
        by_contra other
        simp [alone.ended stands other] at busy
      exact ⟨earlier, options, rfl, asked, alone,
        (sound.placed.stands asked stands).updating busy, sent⟩

/-- No session begins while updates are made. -/
theorem handles_eq {action : Action} {exchange? : Option Exchange}
    (state : Updates handle calls all recent before updates)
    (sound : Sound locator settings calls all before) (move : Move before action exchange? after) :
    after.handles = before.handles := by
  rcases move.succession with ⟨-, call, address, config, device, begun, stands, -⟩ | ⟨same, -⟩
  · rcases state.of_busy sound stands rfl with ⟨_, _, -, -, -, updating, -⟩
    cases updating
  · exact same

theorem of_aside (more : List Exchange) (state : Updates handle calls all recent before updates)
    (tasks : after.tasks = before.tasks) (still : valuesOn handle more = [])
    (others : ∀ call, eventsOf (.call call) more = []) :
    Updates handle calls (all ++ more) (recent ++ more) after updates := by
  cases state with
  | rests idle sent =>
      refine .rests (tasks ▸ idle) ?_
      rw [valuesOn_append, still, List.append_nil, sent]
  | sends asked stands busy alone sent =>
      refine .sends asked (tasks ▸ stands) busy ⟨tasks ▸ alone.ended⟩ ?_
      rw [valuesOn_append, eventsOf_append, still, others, List.append_nil, List.append_nil, sent]

theorem of_entry {task : Task} {options : SetOptions}
    (state : Updates handle calls all recent before updates)
    (sound : Sound locator settings calls all before)
    (entry : Entry before (.set options) after task)
    (idle : ∀ task ∈ before.tasks, task.isOver = true)
    (granted : ∀ {ending}, task = .finished ending → ending = .returned (.ok .done)) :
    Updates handle (calls ++ [.set options]) all recent (after.addTask task)
      (updates ++ [options]) := by
  have sent : valuesOn handle recent = updates.flatMap SetOptions.lineValues := by
    cases state with
    | rests _ sent => exact sent
    | sends _ stands busy => simp [idle _ (List.mem_of_getElem? stands)] at busy
  have tasks := entry.arrival.2.2
  cases entry with
  | refuses => cases granted rfl
  | opens asked => cases asked
  | configures =>
      have asked : (calls ++ [.set options])[before.tasks.length]? = some (.set options) := by
        rw [← sound.placed.count, List.getElem?_concat_length]
      refine .sends asked (List.getElem?_concat_length (l := before.tasks)) rfl ⟨?_⟩ ?_
      · intro other task stands apart
        rcases List.getElem?_eq_some_iff.mp stands with ⟨inside, -⟩
        simp only [addTask, tasks, List.length_append, List.length_singleton] at inside
        rw [addTask, tasks, List.getElem?_append_left (by omega)] at stands
        exact idle task (List.mem_of_getElem? stands)
      · rw [sound.placed.silent (Nat.le_refl _), sent, List.filterMap_nil, List.append_nil]

theorem of_turn {call : Nat} {task next : Task}
    (state : Updates handle calls all recent before updates)
    (sound : Sound locator settings calls all before) (stands : before.tasks[call]? = some task)
    (turn : Turn before call task after next) (alone : Alone call (after.setTask call next))
    (granted : ∀ {ending}, next = .finished ending → ending = .returned (.ok .done)) :
    Updates handle calls all recent (after.setTask call next) updates := by
  rcases state.of_busy sound stands turn.not_over with
    ⟨earlier, options, rfl, asked, -, updating, sent⟩
  have stood := setTask_getElem?_self (turn.tasks_eq.symm ▸ stands) next
  have goes (busy : next.isOver = false) :
      Updates handle calls all recent (after.setTask call next) (earlier ++ [options]) :=
    .sends asked stood busy alone sent
  cases turn with
  | configures => exact goes rfl
  | configured => exact goes rfl
  | returnsClone => exact goes rfl
  | @returnsTicket session line result =>
      -- the update has succeeded, so all of it was sent
      generalize eventsOf (.call call) all = events at updating sent
      cases updating with
      | returnsTicket path =>
          cases result with
          | error error => cases granted rfl
          | ok _ =>
              refine .rests ?_ ?_
              · intro task member
                rcases List.getElem?_of_mem member with ⟨place, found⟩
                by_cases own : place = call
                · subst own
                  cases found.symm.trans stood
                  rfl
                · exact alone.ended found own
              · rw [sent, LineCommand.sendAll_values path, SetOptions.plan_lineValues]
                simp
  | _ => cases updating

theorem of_answer {call : Nat} {task next : Task} {request : Request} {reply : request.Reply}
    (state : Updates handle calls all recent before updates)
    (sound : Sound locator settings calls all before) (newest : before.Newest)
    (device : before.handles.getLast? = some handle) (stands : before.tasks[call]? = some task)
    (answer : CallAnswer before call task request reply after next)
    (alone : Alone call (after.setTask call next)) :
    Updates handle calls (all ++ [(.call call, ⟨request, reply⟩)])
      (recent ++ [(.call call, ⟨request, reply⟩)]) (after.setTask call next) updates := by
  rcases state.of_busy sound stands answer.not_over with
    ⟨earlier, options, rfl, asked, -, updating, sent⟩
  cases answer with
  | @configuring session _ _ _ _ =>
      have last :=
        newest.linked (sound.owned.configurer_holdsLink (List.mem_of_getElem? stands) rfl)
      refine .sends asked (setTask_getElem?_self stands _) rfl alone ?_
      rw [valuesOn_append, eventsOf_append, sent, List.filterMap_append, List.append_assoc]
      generalize eventsOf (.call call) all = events at updating
      cases updating with
      | @sends _ own _ held path =>
          have here : own = handle := by
            have length : before.handles.length = session + 1 := by simp [handles, last]
            rw [List.getLast?_eq_getElem?, length, Nat.add_sub_cancel, held] at device
            exact Option.some.inj device
          rcases ((LineCommand.sendAll_asks _ _ _).of_path path).1 with ⟨command, -, rfl⟩
          simp [valuesOn, log, onHandle, eventsOf, Request.handle?, here]
  | _ => cases updating

/-- Workers of reads and writes send nothing for the control lines. -/
theorem valuesOn_of_bulk {thread : Thread} {event : Event} (handle : Handle)
    (other : ∀ device transfer, event.1 ≠ .control device transfer) :
    valuesOn handle [(thread, event)] = [] := by
  have valueless : Levels.value? event = none := by
    rcases event with ⟨request, reply⟩
    cases request with
    | control device transfer => exact absurd rfl (other device transfer)
    | _ => rfl
  by_cases here : event.1.handle? = some handle <;> simp [valuesOn, log, onHandle, here, valueless]

theorem of_uncalled {action : Action} {exchange? : Option Exchange}
    (state : Updates handle calls all recent before updates)
    (sound : Sound locator settings calls all before) (newest : before.Newest)
    (device : before.handles.getLast? = some handle) (move : Move before action exchange? after)
    (uncalled : action.call? = none)
    (granted : ∀ (call : Nat) {ending : Ending},
      (∀ task ∈ before.tasks[call]?, task.isOver = false) →
      after.tasks[call]? = some (.finished ending) → ending = .returned (.ok .done)) :
    Updates handle calls (all ++ exchange?.toList) (recent ++ exchange?.toList) after updates := by
  have alone {call : Nat} {task : Task} {mover : Thread} (stands : before.tasks[call]? = some task)
      (busy : task.isOver = false) (acts : action.thread? = some mover) : Alone call after := by
    rcases state.of_busy sound stands busy with ⟨_, _, -, -, alone, -, -⟩
    exact alone.of_move sound move acts
  cases move with
  | enters => cases uncalled
  | startsRead start => exact state.of_aside [] start.frame.2.2.1 rfl fun _ => rfl
  | startsWrite start =>
      rcases start.frame with ⟨sessions, writes, rfl⟩
      exact state.of_aside [] rfl rfl fun _ => rfl
  | cancels => exact state.of_aside [] rfl rfl fun _ => rfl
  | @turns call task changed next stands turn =>
      rw [Option.toList_none, List.append_nil, List.append_nil]
      refine state.of_turn sound stands turn (alone stands turn.not_over rfl) fun ended => ?_
      refine granted call ?_ (ended ▸ setTask_getElem?_self (turn.tasks_eq.symm ▸ stands) next)
      rintro _ found
      cases stands.symm.trans found
      exact turn.not_over
  | answered stands answer =>
      exact state.of_answer sound newest device stands answer (alone stands answer.not_over rfl)
  | readerTurns found turn =>
      rcases turn.frame with ⟨backlog, sessions, rfl⟩
      exact state.of_aside [] rfl rfl fun _ => rfl
  | readerAnswered found held answer =>
      refine state.of_aside [_] rfl (valuesOn_of_bulk handle ?_) fun _ => eventsOf_of_ne (by simp) _
      cases answer <;> nofun
  | writerTurns found turn =>
      rcases turn.frame with ⟨sessions, writes, rfl⟩
      exact state.of_aside [] rfl rfl fun _ => rfl
  | writerAnswered found answer =>
      rcases answer.frame with ⟨sessions, writes, rfl⟩
      refine state.of_aside [_] rfl (valuesOn_of_bulk handle ?_) fun _ => eventsOf_of_ne (by simp) _
      generalize { before with sessions, writes } = changed at answer
      cases answer <;> nofun
  | expires stands =>
      rcases state.of_busy sound stands rfl with ⟨_, _, -, -, -, updating, -⟩
      cases updating

theorem of_move {action : Action} {exchange? : Option Exchange} {more : List SetOptions}
    (state : Updates handle calls all recent before updates)
    (sound : Sound locator settings calls all before) (newest : before.Newest)
    (device : before.handles.getLast? = some handle) (move : Move before action exchange? after)
    (asked : more.map .set = action.call?.toList)
    (inTurn : action.call?.isSome = true → ∀ task ∈ before.tasks, task.isOver = true)
    (granted : ∀ (call : Nat) {ending : Ending},
      (∀ task ∈ before.tasks[call]?, task.isOver = false) →
      after.tasks[call]? = some (.finished ending) → ending = .returned (.ok .done)) :
    Updates handle (calls ++ action.call?.toList) (all ++ exchange?.toList)
      (recent ++ exchange?.toList) after (updates ++ more) := by
  cases action with
  | invoke call started =>
      cases move with
      | enters permitted entry =>
          obtain ⟨options, rfl, rfl⟩ : ∃ options, more = [options] ∧ call = .set options := by
            rcases more with _ | ⟨options, _ | _⟩ <;> simp [Action.call?] at asked
            exact ⟨options, rfl, asked.symm⟩
          rw [Option.toList_none, List.append_nil, List.append_nil]
          refine state.of_entry sound entry (inTurn rfl) fun ended => ?_
          refine granted before.tasks.length (by simp) ?_
          rw [addTask, entry.arrival.2.2, List.getElem?_concat_length, ended]
  | _ =>
      cases List.map_eq_nil_iff.mp asked
      rw [List.append_nil]
      exact (List.append_nil calls).symm ▸ state.of_uncalled sound newest device move rfl granted

end Updates

section Course

variable {locator : Locator} {settings : Settings} {earlier during : List Action}
  {start final : Connection} {link : Link} {session : Session} {updates : List SetOptions}

/-- Calls that were over at the start of a course stay over. -/
theorem finished_of_run (idle : ∀ task ∈ start.tasks, task.isOver = true)
    (runs : start.run? during = some final) {call : Nat} (old : call < start.tasks.length) :
    ∃ ending, final.tasks[call]? = some (.finished ending) := by
  have finished := idle _ (List.getElem_mem old)
  have stood := List.getElem?_eq_getElem old
  generalize start.tasks[call] = task at finished stood
  cases task with
  | finished ending => exact ⟨ending, (run_of_finished stood runs).1⟩
  | _ => cases finished

theorem updates_of_run (ran : (fresh locator settings).run? earlier = some start) {handle : Handle}
    (device : start.handles.getLast? = some handle)
    (idle : ∀ task ∈ start.tasks, task.isOver = true) (runs : start.run? during = some final)
    (asked : updates.map .set = calls during)
    (inTurn : ∀ state ∈ start.callStarts during, ∀ task ∈ state.tasks, task.isOver = true)
    (granted : ∀ {call ending}, start.tasks.length ≤ call →
      final.tasks[call]? = some (.finished ending) → ending = .returned (.ok .done)) :
    final.handles = start.handles ∧
      Updates handle (calls (earlier ++ during))
        ((fresh locator settings).exchanges (earlier ++ during))
        (start.exchanges during) final updates := by
  refine run_induction (motive := fun during final => ∀ updates : List SetOptions,
    updates.map .set = calls during →
    (∀ state ∈ start.callStarts during, ∀ task ∈ state.tasks, task.isOver = true) →
    (∀ {call ending}, start.tasks.length ≤ call →
      final.tasks[call]? = some (.finished ending) → ending = .returned (.ok .done)) →
    final.handles = start.handles ∧
      Updates handle (calls (earlier ++ during))
        ((fresh locator settings).exchanges (earlier ++ during))
        (start.exchanges during) final updates) ?_ ?_ runs updates asked inTurn granted
  · intro updates asked _ _
    cases List.map_eq_nil_iff.mp asked
    exact ⟨rfl, .rests idle rfl⟩
  · intro actions middle action final ranBefore ih stepped updates asked inTurn granted
    have move := Move.of_step? stepped
    have ranThrough : (fresh locator settings).run? (earlier ++ actions) = some middle := by
      rw [run?_append, ran]
      exact ranBefore
    rw [calls_concat, List.map_eq_append_iff] at asked
    rcases asked with ⟨updates, more, rfl, asked, askedNow⟩
    rw [callStarts, along_concat ranBefore stepped] at inTurn
    rcases ih updates asked (fun state member => inTurn state (List.mem_append_left _ member))
      (fun new ended => granted new (move.finished ended).1) with ⟨same, state⟩
    have sound := sound_of_run ranThrough
    refine ⟨(state.handles_eq sound move).trans same, ?_⟩
    rw [← List.append_assoc, calls_concat, exchanges_concat ranThrough stepped,
      exchanges_concat ranBefore stepped]
    refine state.of_move sound (newest_of_run ranThrough) (same ▸ device) move askedNow ?_ ?_
    · intro calling
      refine inTurn middle (List.mem_append_right _ ?_)
      rcases Option.isSome_iff_exists.mp calling with ⟨call, made⟩
      simp [made]
    · intro call ending fresh ended
      -- a call that was over at the start cannot end now
      refine granted ?_ ended
      by_contra old
      rcases finished_of_run idle ranBefore (by omega : call < start.tasks.length) with
        ⟨first, still⟩
      simp [still, Task.isOver] at fresh

/--
If updates of an open port are made one after the other and all of them succeed, the device accepts
the values that they send for the control lines, in order, and no others.
-/
theorem values_of_updates (ran : (fresh locator settings).run? earlier = some start)
    (opened : start.openLink? = some link) (found : start.sessions[link.session]? = some session)
    (idle : ∀ task ∈ start.tasks, task.isOver = true) (runs : start.run? during = some final)
    (asked : calls during = updates.map .set)
    (inTurn : ∀ state ∈ start.callStarts during, ∀ task ∈ state.tasks, task.isOver = true)
    (granted : ∀ task ∈ final.tasks.drop start.tasks.length, task = Task.succeeded .done) :
    (start.requestsOn session.handle during).filterMap Levels.value? =
      updates.flatMap SetOptions.lineValues := by
  have last := (newest_of_run ran).linked (.of_link (openLink?_eq_some.mp opened).2)
  have device : start.handles.getLast? = some session.handle := by
    have length : start.handles.length = link.session + 1 := by simp [handles, last]
    rw [List.getLast?_eq_getElem?, length, Nat.add_sub_cancel, handles_getElem? found]
  have ended {call : Nat} {task : Task} (new : start.tasks.length ≤ call)
      (stands : final.tasks[call]? = some task) : task = Task.succeeded .done := by
    refine granted task (List.mem_of_getElem? (i := call - start.tasks.length) ?_)
    rw [List.getElem?_drop, Nat.add_sub_cancel' new, stands]
  have state := (updates_of_run ran device idle runs asked.symm inTurn fun new stands =>
    Task.finished.inj (ended new stands)).2
  cases state with
  | rests _ sent => exact sent
  | @sends _ _ call task asked stands busy =>
      rcases Nat.lt_or_ge call start.tasks.length with old | new
      · rcases finished_of_run idle runs old with ⟨ending, finished⟩
        cases stands.symm.trans finished
        cases busy
      · cases ended new stands
        cases busy

/--
If updates of an open port are made one after the other and all of them succeed, a control line has
the level that was last supplied for it, or else its initial one, exactly if that level is low or
the other line was not supplied after it.
-/
theorem level_eq_supplied_iff (ran : (fresh locator settings).run? earlier = some start)
    (opened : start.openLink? = some link) (found : start.sessions[link.session]? = some session)
    (idle : ∀ task ∈ start.tasks, task.isOver = true) (runs : start.run? during = some final)
    (asked : calls during = updates.map .set)
    (inTurn : ∀ state ∈ start.callStarts during, ∀ task ∈ state.tasks, task.isOver = true)
    (granted : ∀ task ∈ final.tasks.drop start.tasks.length, task = Task.succeeded .done)
    (initial : Levels) (line : ControlLine) :
    initial.after (start.requestsOn session.handle during) line = initial.supplied updates line ↔
      (initial.supplied updates line = true → Levels.lastLine? updates ≠ some line.other) := by
  rw [Levels.after_eq, values_of_updates ran opened found idle runs asked inTurn granted]
  exact Levels.eq_supplied_iff initial updates line

end Course

/-- Two updates of different lines. -/
def bothLines : List SetOptions := [{ dtr := some true }, { rts := some true }]

/-- The two updates are made on an open port, one after the other. -/
def raisesBoth : List Action :=
  List.flatten
    [[.invoke (.set { dtr := some true }) (.ok ()), .advance (.call 1)], asks 1 granting 1,
      List.replicate 3 (.advance (.call 1)),
      [.invoke (.set { rts := some true }) (.ok ()), .advance (.call 2)], asks 2 granting 1,
      List.replicate 3 (.advance (.call 2))]

theorem raisesBoth_keeps_rts :
    let start := Sample.after Sample.opens
    let low : Levels := fun _ => false
    calls raisesBoth = bothLines.map .set ∧
      (Sample.after (Sample.opens ++ raisesBoth)).tasks = List.replicate 3 (Task.succeeded .done) ∧
      low.after (start.requestsOn ⟨Sample.candidate.device⟩ raisesBoth) .rts =
        low.supplied bothLines .rts := by
  have ran : Sample.connection.run? Sample.opens = some (Sample.after Sample.opens) := rfl
  have runs : (Sample.after Sample.opens).run? raisesBoth =
    some (Sample.after (Sample.opens ++ raisesBoth)) := rfl
  have asked : calls raisesBoth = bothLines.map .set := rfl
  have tasks : (Sample.after (Sample.opens ++ raisesBoth)).tasks =
    List.replicate 3 (Task.succeeded .done) := rfl
  have inTurn : ∀ state ∈ (Sample.after Sample.opens).callStarts raisesBoth, ∀ task ∈ state.tasks,
      task.isOver = true := by decide
  have granted : ∀ task ∈ (Sample.after (Sample.opens ++ raisesBoth)).tasks.drop 1,
      task = Task.succeeded .done := fun task member =>
    List.eq_of_mem_replicate (tasks ▸ List.mem_of_mem_drop member)
  refine ⟨asked, tasks, ?_⟩
  exact (level_eq_supplied_iff ran rfl rfl (by decide) runs asked inTurn granted _ .rts).mpr
    (by decide)

/-- Both updates have succeeded, but the line of the first is low again. -/
theorem raisesBoth_drops_dtr :
    let start := Sample.after Sample.opens
    let low : Levels := fun _ => false
    calls raisesBoth = bothLines.map .set ∧
      (Sample.after (Sample.opens ++ raisesBoth)).tasks = List.replicate 3 (Task.succeeded .done) ∧
      low.supplied bothLines .dtr = true ∧
      low.after (start.requestsOn ⟨Sample.candidate.device⟩ raisesBoth) .dtr = false :=
  ⟨rfl, rfl, rfl, rfl⟩

end Connection

end CdcSerial
