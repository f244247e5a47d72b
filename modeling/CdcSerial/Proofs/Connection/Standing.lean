import CdcSerial.Proofs.Connection.Ownership

/-!
# Where each call stands

A call goes through a fixed course of points, and at each of them it is known what it has asked of
the bus. `Standing call events task` says that a caller who made `call` can stand at `task` after
the requests and replies `events`. For calls that run a procedure, `events` is a path through it.
-/

namespace CdcSerial

/-- That a call waits for a read, and what its caller gets. -/
inductive Call.Awaits : Call → Nat → ReadTarget → Prop where
  | reads {buffer offset length number} :
      Awaits (.read buffer offset length) number (.into buffer offset)
  | waits {number} : Awaits (.wait number) number .bytes
  | waitsInto {number buffer offset} :
      Awaits (.waitInto number buffer offset) number (.into buffer offset)

/-- Whether a point belongs to closing, up to where the handle is taken. -/
def Task.approachesClose : Task → Bool
  | .cancelling _ => true
  | .awaitingReader _ _ => true
  | .reverting _ => true
  | .takingLink => true
  | .draining _ => true
  | .idling _ => true
  | .regaining _ => true
  | _ => false

open Connection Procedure in
/--
Where a caller can stand, given its call and what it has asked of the bus. `handles` are those
of the sessions.
-/
inductive Standing (locator : Locator) (settings : Settings) (handles : List Handle) :
    Call → List Event → Task → Prop where
  | refused {call error connection} (reason : Refusal connection call error) :
      Standing locator settings handles call [] (.finished (.returned (.error error)))
  | lists {events run} (path : Path locator.list events run.procedure) :
      Standing locator settings handles .list events (.listing run)
  | listed {events result} (path : Path locator.list events (.done result)) :
      Standing locator settings handles .list events (.finished (.returned (result.map .ports)))
  | opens {call address config events run} (asked : call.AsksFor address config)
      (path : Path (establish locator settings address config) events run.procedure) :
      Standing locator settings handles call events (.opening address config run)
  | clears {call address config events handle session} (asked : call.AsksFor address config)
      (path : Path (establish locator settings address config) events (.done (.ok handle)))
      (held : handles[session]? = some handle) :
      Standing locator settings handles call events (.clearing address config session)
  | installs {call address config events handle session} (asked : call.AsksFor address config)
      (path : Path (establish locator settings address config) events (.done (.ok handle)))
      (held : handles[session]? = some handle) :
      Standing locator settings handles call events (.installing address config session)
  | opened {call address config events handle} (asked : call.AsksFor address config)
      (path : Path (establish locator settings address config) events (.done (.ok handle)))
      (held : handle ∈ handles) :
      Standing locator settings handles call events (.finished (.returned (.ok .done)))
  | retreats {call address config events error} (asked : call.AsksFor address config)
      (path : Path (establish locator settings address config) events (.done (.error error))) :
      Standing locator settings handles call events (.retreating address error)
  | notOpened {call address config events error} (asked : call.AsksFor address config)
      (path : Path (establish locator settings address config) events (.done (.error error))) :
      Standing locator settings handles call events (.finished (.returned (.error error)))
  | notRead {buffer offset length before after error}
      (start : ReadStart before length after (.error error)) :
      Standing locator settings handles (.read buffer offset length) []
        (.finished (.returned (.error error)))
  | awaitsRead {call number target} (asked : call.Awaits number target) :
      Standing locator settings handles call [] (.awaitingRead number target)
  | putsBack {call number data buffer offset} (asked : call.Awaits number (.into buffer offset)) :
      Standing locator settings handles call [] (.puttingBack data buffer offset)
  | fetched {call number target result} (asked : call.Awaits number target) :
      Standing locator settings handles call [] (.finished (.returned result))
  | awaitsWrite {data number} :
      Standing locator settings handles (.write data) [] (.awaitingWrite number)
  | written {data result} :
      Standing locator settings handles (.write data) [] (.finished (.returned result))
  | configures {call line commands events session handle run}
      (asked : call.Configures line commands) (held : handles[session]? = some handle)
      (path :
        Path (LineCommand.sendAll handle settings.controlTimeout commands) events run.procedure) :
      Standing locator settings handles call events (.configuring session line run)
  | returnsClone {call line commands events session handle result}
      (asked : call.Configures line commands) (held : handles[session]? = some handle)
      (path : Path (LineCommand.sendAll handle settings.controlTimeout commands) events
        (.done result)) :
      Standing locator settings handles call events (.returningClone session line result)
  | returnsTicket {call line commands events session handle result}
      (asked : call.Configures line commands) (held : handles[session]? = some handle)
      (path : Path (LineCommand.sendAll handle settings.controlTimeout commands) events
        (.done result)) :
      Standing locator settings handles call events (.returningTicket session line result)
  | records {call line commands events handle}
      (asked : call.Configures (some line) commands) (held : handle ∈ handles)
      (path : Path (LineCommand.sendAll handle settings.controlTimeout commands) events
        (.done (.ok ()))) :
      Standing locator settings handles call events (.recording line)
  | configured {call line commands events handle result}
      (asked : call.Configures line commands) (held : handle ∈ handles)
      (path : Path (LineCommand.sendAll handle settings.controlTimeout commands) events
        (.done result)) :
      Standing locator settings handles call events
        (.finished (.returned (result.map fun _ => .done)))
  | closes {task} (closing : task.approachesClose = true) :
      Standing locator settings handles .close [] task
  | overflows : Standing locator settings handles .close [] (.finished .overflowed)
  | reverts {deadline} :
      Standing locator settings handles .close []
        (.finished (.returned (.error (.cancelTimeout deadline))))
  | releases {events handle run} (held : handle ∈ handles)
      (path : Path (leave settings handle) events run.procedure) :
      Standing locator settings handles .close events (.releasing run)
  | settles {events handle result} (held : handle ∈ handles)
      (path : Path (leave settings handle) events (.done result)) :
      Standing locator settings handles .close events (.settling result)
  | closed {events handle result} (held : handle ∈ handles)
      (path : Path (leave settings handle) events (.done result)) :
      Standing locator settings handles .close events
        (.finished (.returned (result.map fun _ => .done)))

/-- A session that is added does not change where others stand. -/
theorem Standing.mono {locator : Locator} {settings : Settings} {handles more : List Handle}
    {call : Call} {events : List Event} {task : Task}
    (standing : Standing locator settings handles call events task) :
    Standing locator settings (handles ++ more) call events task := by
  have kept {session : Nat} {handle : Handle} (held : handles[session]? = some handle) :
      (handles ++ more)[session]? = some handle := by
    rcases List.getElem?_eq_some_iff.mp held with ⟨inside, rfl⟩
    rw [List.getElem?_append_left inside]
    exact held
  cases standing with
  | refused reason => exact .refused reason
  | lists path => exact .lists path
  | listed path => exact .listed path
  | opens asked path => exact .opens asked path
  | clears asked path held => exact .clears asked path (kept held)
  | installs asked path held => exact .installs asked path (kept held)
  | opened asked path held => exact .opened asked path (List.mem_append_left more held)
  | retreats asked path => exact .retreats asked path
  | notOpened asked path => exact .notOpened asked path
  | notRead start => exact .notRead start
  | awaitsRead asked => exact .awaitsRead asked
  | putsBack asked => exact .putsBack asked
  | fetched asked => exact .fetched asked
  | awaitsWrite => exact .awaitsWrite
  | written => exact .written
  | configures asked held path => exact .configures asked (kept held) path
  | returnsClone asked held path => exact .returnsClone asked (kept held) path
  | returnsTicket asked held path => exact .returnsTicket asked (kept held) path
  | records asked held path => exact .records asked (List.mem_append_left more held) path
  | configured asked held path => exact .configured asked (List.mem_append_left more held) path
  | closes closing => exact .closes closing
  | overflows => exact .overflows
  | reverts => exact .reverts
  | releases held path => exact .releases (List.mem_append_left more held) path
  | settles held path => exact .settles (List.mem_append_left more held) path
  | closed held path => exact .closed (List.mem_append_left more held) path

namespace Connection

/-- The requests of a thread, with their replies. -/
def eventsOf (thread : Thread) (exchanges : List Exchange) : List Event :=
  (exchanges.filter fun exchange => decide (exchange.1 = thread)).map (·.2)

theorem eventsOf_append (thread : Thread) (first second : List Exchange) :
    eventsOf thread (first ++ second) = eventsOf thread first ++ eventsOf thread second := by
  simp [eventsOf]

theorem eventsOf_of_ne {thread other : Thread} (ne : other ≠ thread) (event : Event) :
    eventsOf thread [(other, event)] = [] := by
  simp [eventsOf, ne]

theorem mem_eventsOf {thread : Thread} {exchanges : List Exchange} {event : Event} :
    event ∈ eventsOf thread exchanges ↔ (thread, event) ∈ exchanges := by
  simp only [eventsOf, List.mem_map, List.mem_filter, decide_eq_true_eq]
  constructor
  · rintro ⟨⟨_, _⟩, ⟨found, rfl⟩, rfl⟩
    exact found
  · intro member
    exact ⟨(thread, event), ⟨member, rfl⟩, rfl⟩

/-- The handles of the sessions. -/
def handles (connection : Connection) : List Handle := connection.sessions.map (·.handle)

theorem handles_getElem? {connection : Connection} {number : Nat} {session : Session}
    (found : connection.sessions[number]? = some session) :
    connection.handles[number]? = some session.handle := by
  simp [handles, found]

theorem handles_changeSession (connection : Connection) (number : Nat) (change : Session → Session)
    (same : ∀ session, (change session).handle = session.handle) :
    (connection.changeSession number change).handles = connection.handles :=
  map_modify_of_eq connection.sessions number same

theorem handles_dropClone (connection : Connection) (number : Nat) :
    (connection.dropClone number).handles = connection.handles :=
  handles_changeSession connection number _ fun _ => rfl

theorem handles_setWriter (connection : Connection) (number : Nat) (stage : WriterStage) :
    (connection.setWriter number stage).handles = connection.handles :=
  handles_changeSession connection number _ fun _ => rfl

theorem handles_setLane (connection : Connection) (number : Nat) (lane : Option Nat) :
    (connection.setLane number lane).handles = connection.handles :=
  handles_changeSession connection number _ fun _ => rfl

end Connection

open Connection

variable {locator : Locator} {settings : Settings} {handles : List Handle} {call : Call}
  {events : List Event} {task next : Task}

theorem Standing.of_entry {before after : Connection} (located : before.locator = locator)
    (set : before.settings = settings) (entry : Entry before call after task) :
    Standing locator settings before.handles call [] task := by
  subst located set
  cases entry with
  | refuses reason => exact .refused reason
  | lists => exact .lists .here
  | opens asked => exact .opens asked .here
  | reads => exact .awaitsRead .reads
  | readFails fits start => exact .notRead start
  | waits => exact .awaitsRead .waits
  | waitsInto => exact .awaitsRead .waitsInto
  | writes => exact .awaitsWrite
  | configures asked opened found => exact .configures asked (handles_getElem? found) .here
  | closesReading => exact .closes rfl
  | closesIdle => exact .closes rfl

theorem Standing.of_answer {before after : Connection} {number : Nat} {request : Request}
    {reply : request.Reply} (standing : Standing locator settings handles call events task)
    (answer : CallAnswer before number task request reply after next) :
    Standing locator settings handles call (events ++ [⟨request, reply⟩]) next := by
  cases answer with
  | listing =>
      cases standing with
      | lists path => exact .lists (path.answers reply)
      | closes closing => cases closing
  | opening =>
      cases standing with
      | opens asked path => exact .opens asked (path.answers reply)
      | closes closing => cases closing
  | configuring =>
      cases standing with
      | configures asked held path => exact .configures asked held (path.answers reply)
      | closes closing => cases closing
  | releasing =>
      cases standing with
      | releases held path => exact .releases held (path.answers reply)
      | closes closing => cases closing

/-- A procedure that goes on without the bus stays on its path. -/
theorem Procedure.Path.of_progress {Result : Type} {procedure : Procedure Result}
    {before after : Connection} {begun? : Option Connection} {run further : Running Result}
    (path : Procedure.Path procedure events run.procedure)
    (progress : Progress before begun? run after further) :
    Procedure.Path procedure events further.procedure := by
  cases progress with
  | tells => exact path.tells
  | begins => exact path

/--
A call that configured remembers the line configuration if there is one and it succeeded, and
else ends.
-/
theorem Standing.of_afterTicket {line : Option LineConfig} {commands : List LineCommand}
    {handle : Handle} {result : Except Error Unit} (asked : call.Configures line commands)
    (held : handle ∈ handles)
    (path : Procedure.Path (LineCommand.sendAll handle settings.controlTimeout commands) events
      (.done result)) :
    Standing locator settings handles call events (afterTicket line result) := by
  cases result with
  | error error =>
      cases line with
      | none => exact .configured asked held path
      | some line => exact .configured asked held path
  | ok _ =>
      cases line with
      | none => exact .configured asked held path
      | some line => exact .records asked held path

theorem writeEnding?_eq_some {state : WriteState} (ended : writeEnding? state = some task) :
    ∃ result, task = .finished (.returned result) := by
  cases state with
  | queued => cases ended
  | answered result =>
      cases result <;> cases ended <;> exact ⟨_, rfl⟩
  | lost =>
      cases ended
      exact ⟨_, rfl⟩

/-- A caller that goes on without the bus stands where its call can be. -/
theorem Standing.of_turn {before after : Connection} {number : Nat}
    (standing : Standing locator settings before.handles call events task)
    (set : before.settings = settings) (turn : Turn before number task after next)
    (linked : task = .takingLink → before.link ≠ none)
    (sole : ∀ session owner, task = .regaining session → before.sessions[session]? = some owner →
      owner.clones = 1) :
    Standing locator settings after.handles call events next := by
  subst set
  cases turn with
  | lists progress =>
      rcases progress.only_tells with ⟨journal, rfl⟩
      cases standing with
      | lists path => exact .lists (path.of_progress progress)
      | closes closing => cases closing
  | listed =>
      cases standing with
      | lists path => exact .listed path
      | closes closing => cases closing
  | listingFailed =>
      cases standing with
      | lists path => exact .listed path
      | closes closing => cases closing
  | opens progress =>
      rcases progress.only_tells with ⟨journal, rfl⟩
      cases standing with
      | opens asked path => exact .opens asked (path.of_progress progress)
      | closes closing => cases closing
  | reached =>
      cases standing with
      | opens asked path =>
          refine .clears asked path ?_
          simp [Connection.handles, newSession]
      | closes closing => cases closing
  | notReached =>
      cases standing with
      | opens asked path => exact .retreats asked path
      | closes closing => cases closing
  | clears =>
      cases standing with
      | clears asked path held => exact .installs asked path held
      | closes closing => cases closing
  | installs =>
      cases standing with
      | installs asked path held => exact .opened asked path (List.mem_of_getElem? held)
      | closes closing => cases closing
  | retreats =>
      cases standing with
      | retreats asked path => exact .notOpened asked path
      | closes closing => cases closing
  | fetchesError =>
      cases standing with
      | awaitsRead asked => exact .fetched asked
      | closes closing => cases closing
  | fetchesBytes =>
      cases standing with
      | awaitsRead asked => exact .fetched asked
      | closes closing => cases closing
  | stores =>
      cases standing with
      | awaitsRead asked => exact .fetched asked
      | closes closing => cases closing
  | spills =>
      cases standing with
      | awaitsRead asked => exact .putsBack asked
      | closes closing => cases closing
  | putsBack =>
      cases standing with
      | putsBack asked => exact .fetched asked
      | closes closing => cases closing
  | fetchesWrite found ended =>
      rcases writeEnding?_eq_some ended with ⟨result, rfl⟩
      cases standing with
      | awaitsWrite => exact .written
      | closes closing => cases closing
  | configures progress =>
      have same : after.handles = before.handles := by
        rcases progress.only_lane with ⟨journal, rfl⟩ | rfl
        · rfl
        · exact handles_setLane before _ _
      rw [same]
      cases standing with
      | configures asked held path => exact .configures asked held (path.of_progress progress)
      | closes closing => cases closing
  | configured =>
      cases standing with
      | configures asked held path => exact .returnsClone asked held path
      | closes closing => cases closing
  | returnsClone =>
      cases standing with
      | returnsClone asked held path =>
          rw [handles_dropClone]
          exact .returnsTicket asked held path
      | closes closing => cases closing
  | returnsTicket =>
      cases standing with
      | returnsTicket asked held path =>
          rw [handles_changeSession]
          · exact .of_afterTicket asked (List.mem_of_getElem? held) path
          · exact fun _ => rfl
      | closes closing => cases closing
  | records =>
      cases standing with
      | records asked held path => exact .configured asked held path
      | closes closing => cases closing
  | cancels =>
      cases standing with
      | closes => exact .closes rfl
  | overflows =>
      cases standing with
      | closes => exact .overflows
  | readerStopped =>
      cases standing with
      | closes => exact .closes rfl
  | reverts =>
      cases standing with
      | closes => exact .reverts
  | takesLink =>
      cases standing with
      | closes => exact .closes rfl
  | findsNoLink bare => exact absurd bare (linked rfl)
  | drained =>
      cases standing with
      | closes => exact .closes rfl
  | idled =>
      cases standing with
      | closes => exact .closes rfl
  | regains found =>
      cases standing with
      | closes =>
          rw [handles_dropClone]
          exact .releases (List.mem_of_getElem? (handles_getElem? found)) .here
  | findsOwners found shared => exact absurd (sole _ _ rfl found) shared
  | releases progress =>
      rcases progress.only_tells with ⟨journal, rfl⟩
      cases standing with
      | releases held path => exact .releases held (path.of_progress progress)
      | closes closing => cases closing
  | released =>
      cases standing with
      | releases held path => exact .settles held path
      | closes closing => cases closing
  | closes =>
      cases standing with
      | settles held path => exact .closed held path
      | closes closing => cases closing
  | closesWithError =>
      cases standing with
      | settles held path => exact .closed held path
      | closes closing => cases closing

end CdcSerial
