import CdcSerial.Proofs.Connection.Provenance

/-!
# A connection with a past

Sessions, reads, writes and calls are numbered in the order in which they begin, and a connection
keeps all of them. `graft past stale now` is the connection `now` with those of `past` in front: the
numbers of `now` are shifted, and whatever else `past` holds is gone, except that a backlog of the
past may still be there in the place of the one of `now`.

The threads of `now` do not notice. A step of `now` is a step of the graft with the numbers of the
action shifted, and it leads to the graft of the state after it (`step?_graft`). A stale backlog
makes no difference as long as nobody looks at it.
-/

namespace CdcSerial

/-- How many sessions, reads, writes and calls there have been. -/
structure Tally where
  sessions : Nat
  reads : Nat
  writes : Nat
  calls : Nat

/-! ### Shifted numbers -/

namespace WriterStage

/-- The stage of a worker whose write comes after so many others. -/
def shift (tally : Tally) : WriterStage → WriterStage
  | .writing write => .writing (tally.writes + write)
  | stage => stage

@[simp]
theorem hasQueue_shift (tally : Tally) (stage : WriterStage) :
    (stage.shift tally).hasQueue = stage.hasQueue := by
  cases stage <;> rfl

@[simp]
theorem shift_eq_ended (tally : Tally) (stage : WriterStage) :
    stage.shift tally = .ended ↔ stage = .ended := by
  cases stage <;> simp [shift]

end WriterStage

/-- A session after so much else. -/
def Session.shift (tally : Tally) (session : Session) : Session :=
  { session with
    lane := session.lane.map (tally.calls + ·)
    queue := session.queue.map (tally.writes + ·)
    writer := session.writer.shift tally }

/-- A read after so much else. -/
def Read.shift (tally : Tally) (read : Read) : Read :=
  { read with session := tally.sessions + read.session }

/-- A write after so much else. -/
def Write.shift (tally : Tally) (write : Write) : Write :=
  { write with session := tally.sessions + write.session }

/-- A link after so much else. -/
def Link.shift (tally : Tally) (link : Link) : Link :=
  { link with
    session := tally.sessions + link.session
    reader := link.reader.map (tally.reads + ·) }

/-- The point of a caller after so much else. -/
def Task.shift (tally : Tally) : Task → Task
  | .clearing address config session => .clearing address config (tally.sessions + session)
  | .installing address config session => .installing address config (tally.sessions + session)
  | .awaitingRead read target => .awaitingRead (tally.reads + read) target
  | .awaitingWrite write => .awaitingWrite (tally.writes + write)
  | .configuring session line run => .configuring (tally.sessions + session) line run
  | .returningClone session line result => .returningClone (tally.sessions + session) line result
  | .returningTicket session line result => .returningTicket (tally.sessions + session) line result
  | .cancelling read => .cancelling (tally.reads + read)
  | .awaitingReader read deadline => .awaitingReader (tally.reads + read) deadline
  | .draining session => .draining (tally.sessions + session)
  | .idling session => .idling (tally.sessions + session)
  | .regaining session => .regaining (tally.sessions + session)
  | task => task

/-- A call after so much else. -/
def Call.shift (tally : Tally) : Call → Call
  | .wait number => .wait (tally.reads + number)
  | .waitInto number buffer offset => .waitInto (tally.reads + number) buffer offset
  | call => call

/-- A thread after so much else. -/
def Thread.shift (tally : Tally) : Thread → Thread
  | .call number => .call (tally.calls + number)
  | .reader number => .reader (tally.reads + number)
  | .writer number => .writer (tally.sessions + number)

/-- An action after so much else. -/
def Connection.Action.shift (tally : Tally) : Action → Action
  | .invoke call started => .invoke (call.shift tally) started
  | .cancel read => .cancel (tally.reads + read)
  | .advance thread => .advance (thread.shift tally)
  | .answer thread replies => .answer (thread.shift tally) replies
  | .expire call => .expire (tally.calls + call)
  | action => action

/-- The same request with another way to go on. -/
def Pending.map {First Second : Type} (change : First → Second) (pending : Pending First) :
    Pending Second :=
  ⟨pending.request, fun reply => change (pending.resume reply)⟩

namespace Connection

/-- How much a connection has seen. -/
def tally (connection : Connection) : Tally :=
  ⟨connection.sessions.length, connection.reads.length, connection.writes.length,
    connection.tasks.length⟩

/-- A connection with what another one has seen in front, and perhaps with a stale backlog. -/
def graft (past : Connection) (stale : Option (List UInt8)) (now : Connection) : Connection where
  locator := now.locator
  settings := now.settings
  state := now.state
  link := now.link.map (·.shift past.tally)
  backlog := stale.getD now.backlog
  sessions := past.sessions ++ now.sessions.map (·.shift past.tally)
  reads := past.reads ++ now.reads.map (·.shift past.tally)
  writes := past.writes ++ now.writes.map (·.shift past.tally)
  tasks := past.tasks ++ now.tasks.map (·.shift past.tally)
  journal := past.journal ++ now.journal

section Graft

variable (past : Connection) (stale : Option (List UInt8)) (now : Connection)

/-! ### What is found in a graft -/

@[simp]
theorem graft_settings : (graft past stale now).settings = now.settings := rfl

@[simp]
theorem graft_state : (graft past stale now).state = now.state := rfl

@[simp]
theorem graft_link : (graft past stale now).link = now.link.map (·.shift past.tally) := rfl

@[simp]
theorem graft_backlog : (graft past none now).backlog = now.backlog := rfl

@[simp]
theorem graft_session (number : Nat) :
    (graft past stale now).sessions[past.tally.sessions + number]? =
      now.sessions[number]?.map (·.shift past.tally) :=
  (getElem?_behind ..).trans List.getElem?_map

@[simp]
theorem graft_read (number : Nat) :
    (graft past stale now).reads[past.tally.reads + number]? =
      now.reads[number]?.map (·.shift past.tally) :=
  (getElem?_behind ..).trans List.getElem?_map

@[simp]
theorem graft_write (number : Nat) :
    (graft past stale now).writes[past.tally.writes + number]? =
      now.writes[number]?.map (·.shift past.tally) :=
  (getElem?_behind ..).trans List.getElem?_map

@[simp]
theorem graft_task (call : Nat) :
    (graft past stale now).tasks[past.tally.calls + call]? =
      now.tasks[call]?.map (·.shift past.tally) :=
  (getElem?_behind ..).trans List.getElem?_map

@[simp]
theorem graft_writes_length :
    (graft past stale now).writes.length = past.tally.writes + now.writes.length := by
  simp [graft, tally]

@[simp]
theorem graft_sessions_length :
    (graft past stale now).sessions.length = past.tally.sessions + now.sessions.length := by
  simp [graft, tally]

@[simp]
theorem graft_openLink? :
    (graft past stale now).openLink? = now.openLink?.map (·.shift past.tally) := by
  by_cases opened : now.state = .opened <;> simp [openLink?, opened]

/-! ### What is changed in a graft -/

@[simp]
theorem graft_say (level : Level) (text : String) :
    (graft past stale now).say level text = graft past stale (now.say level text) := by
  simp [say, graft]

@[simp]
theorem graft_setTask (call : Nat) (task : Task) :
    (graft past stale now).setTask (past.tally.calls + call) (task.shift past.tally) =
      graft past stale (now.setTask call task) := by
  simp only [setTask, graft, List.map_set, ← set_behind]
  rfl

theorem graft_changeSession (number : Nat) (change changed : Session → Session)
    (agree : ∀ session, (change session).shift past.tally = changed (session.shift past.tally)) :
    (graft past stale now).changeSession (past.tally.sessions + number) changed =
      graft past stale (now.changeSession number change) := by
  simp only [changeSession, graft, map_modify _ _ agree, ← modify_behind]
  rfl

theorem graft_changeRead (number : Nat) (change changed : Read → Read)
    (agree : ∀ read, (change read).shift past.tally = changed (read.shift past.tally)) :
    (graft past stale now).changeRead (past.tally.reads + number) changed =
      graft past stale (now.changeRead number change) := by
  simp only [changeRead, graft, map_modify _ _ agree, ← modify_behind]
  rfl

theorem graft_changeWrite (number : Nat) (change changed : Write → Write)
    (agree : ∀ write, (change write).shift past.tally = changed (write.shift past.tally)) :
    (graft past stale now).changeWrite (past.tally.writes + number) changed =
      graft past stale (now.changeWrite number change) := by
  simp only [changeWrite, graft, map_modify _ _ agree, ← modify_behind]
  rfl

@[simp]
theorem graft_dropClone (number : Nat) :
    (graft past stale now).dropClone (past.tally.sessions + number) =
      graft past stale (now.dropClone number) :=
  graft_changeSession past stale now number _ _ fun _ => rfl

@[simp]
theorem graft_setWriter (number : Nat) (stage : WriterStage) :
    (graft past stale now).setWriter (past.tally.sessions + number) (stage.shift past.tally) =
      graft past stale (now.setWriter number stage) :=
  graft_changeSession past stale now number _ _ fun _ => rfl

@[simp]
theorem graft_setLane (number : Nat) (lane : Option Nat) :
    (graft past stale now).setLane (past.tally.sessions + number)
        (lane.map (past.tally.calls + ·)) =
      graft past stale (now.setLane number lane) :=
  graft_changeSession past stale now number _ _ fun _ => rfl

@[simp]
theorem graft_setCustody (number : Nat) (custody : Custody) :
    (graft past stale now).setCustody (past.tally.reads + number) custody =
      graft past stale (now.setCustody number custody) :=
  graft_changeRead past stale now number _ _ fun _ => rfl

@[simp]
theorem graft_cancel (number : Nat) :
    (graft past stale now).cancel (past.tally.reads + number) =
      graft past stale (now.cancel number) :=
  graft_changeRead past stale now number _ _ fun _ => rfl

@[simp]
theorem graft_setReader (number : Nat) (stage : ReaderStage) :
    (graft past stale now).setReader (past.tally.reads + number) stage =
      graft past stale (now.setReader number stage) :=
  graft_changeRead past stale now number _ _ fun _ => rfl

@[simp]
theorem graft_settleWrite (number : Nat) (state : WriteState) :
    (graft past stale now).settleWrite (past.tally.writes + number) state =
      graft past stale (now.settleWrite number state) :=
  graft_changeWrite past stale now number _ _ fun _ => rfl

@[simp]
theorem graft_loseAll (queue : List Nat) :
    (graft past stale now).loseAll (queue.map (past.tally.writes + ·)) =
      graft past stale (now.loseAll queue) := by
  unfold loseAll
  induction queue generalizing now with
  | nil => rfl
  | cons write rest ih => simp only [List.map_cons, List.foldl_cons, graft_settleWrite, ih]

@[simp]
theorem graft_isLastClone (number : Nat) :
    (graft past stale now).isLastClone (past.tally.sessions + number) = now.isLastClone number := by
  simp only [isLastClone, graft_session]
  cases now.sessions[number]? <;> rfl

/-! ### Starting reads and writes -/

@[simp]
theorem isFinished_shift (tally : Tally) (read : Read) :
    (read.shift tally).isFinished = read.isFinished := rfl

theorem graft_addWrite (write : Write) :
    { graft past stale now with
        writes := (graft past stale now).writes ++ [write.shift past.tally] } =
      graft past stale { now with writes := now.writes ++ [write] } := by
  simp [graft]

theorem startWrite_graft (data : List UInt8) :
    (graft past stale now).startWrite data =
      (graft past stale (now.startWrite data).1,
        (now.startWrite data).2.map (past.tally.writes + ·)) := by
  cases opened : now.openLink? with
  | none => simp [startWrite, opened, Except.map]
  | some link =>
      have there : (link.shift past.tally).session = past.tally.sessions + link.session := rfl
      cases found : now.sessions[link.session]? with
      | none => simp [startWrite, opened, there, found, Except.map]
      | some session =>
          have queue : (session.shift past.tally).writer.hasQueue = session.writer.hasQueue := by
            simp [Session.shift]
          cases alive : session.writer.hasQueue with
          | false => simp [startWrite, opened, there, found, queue, alive, Except.map]
          | true =>
              have queued := graft_changeSession past stale now link.session
                (fun session => { session with queue := session.queue ++ [now.writes.length] })
                (fun session => { session with
                  queue := session.queue ++ [past.tally.writes + now.writes.length] })
                fun session => by simp [Session.shift]
              simp only [startWrite, opened, graft_openLink?, Option.map_some, there, graft_session,
                found, queue, alive, if_true, graft_writes_length, queued, Except.map,
                Prod.mk.injEq, and_true]
              exact graft_addWrite past stale (now.changeSession link.session _)
                ⟨link.session, data, .queued⟩

@[simp]
theorem graft_isReading (link : Link) :
    (graft past stale now).isReading (link.shift past.tally) = now.isReading link := by
  cases recorded : link.reader with
  | none => simp [isReading, Link.shift, recorded]
  | some number =>
      cases found : now.reads[number]? <;> simp [isReading, Link.shift, recorded, found]

/-- What happens to a request for bytes after so much else. -/
def Admission.shift (tally : Tally) : Admission → Admission
  | .polls link => .polls (link.shift tally)
  | admission => admission

@[simp]
theorem graft_admission (length : Nat) :
    (graft past none now).admission length = (now.admission length).shift past.tally := by
  cases opened : now.openLink? with
  | none => simp [admission, opened, Admission.shift]
  | some link =>
      simp only [admission, graft_openLink?, opened, Option.map_some, graft_isReading,
        graft_backlog]
      cases now.isReading link with
      | true => rfl
      | false =>
          by_cases zero : length = 0
          · simp [zero, Admission.shift]
          · by_cases empty : now.backlog.isEmpty = true <;> simp [zero, empty, Admission.shift]

theorem link_of_served {length : Nat} {data rest : List UInt8}
    (served : now.admission length = .served data rest) : ∃ link, now.link = some link := by
  cases opened : now.openLink? with
  | none => simp [admission, opened] at served
  | some link => exact ⟨link, (openLink?_eq_some.mp opened).2⟩

variable {stale} in
/-- A read is started from the backlog of the graft, which is that of `now` if there is a link. -/
theorem startRead_graft (plain : stale = none ∨ now.link = none) (length : Nat)
    (started : Except SystemError Unit) :
    (graft past stale now).startRead length started =
      (graft past stale (now.startRead length started).1,
        (now.startRead length started).2.map (past.tally.reads + ·)) := by
  rcases plain with rfl | bare
  · cases admitted : now.admission length with
    | refused error => simp [startRead, admitted, Admission.shift, Except.map]
    | served data rest =>
        rcases link_of_served now admitted with ⟨link, held⟩
        by_cases zero : length = 0
        · subst zero
          simp only [startRead, graft_admission, admitted, Admission.shift, if_true, addRead,
            recordReader, Except.map]
          simp [graft, held, Link.shift, Read.shift, tally]
        · simp only [startRead, graft_admission, admitted, Admission.shift, zero, if_false, addRead,
            recordReader, Except.map]
          simp [graft, held, Link.shift, Read.shift, say, tally]
    | polls link =>
        cases started with
        | error cause =>
            simp only [startRead, graft_admission, admitted, Admission.shift, recordReader,
              Except.map]
            simp [graft, Function.comp_def, Link.shift]
        | ok _ =>
            have cloned := graft_changeSession past none now link.session
              (fun session => { session with clones := session.clones + 1 })
              (fun session => { session with clones := session.clones + 1 }) fun _ => rfl
            simp only [startRead, graft_admission, admitted, Admission.shift]
            rw [show (link.shift past.tally).session = past.tally.sessions + link.session from rfl,
              cloned]
            simp only [addRead, recordReader, Except.map]
            simp [graft, Function.comp_def, Link.shift, Read.shift, tally]
  · have closed : now.openLink? = none := by simp [openLink?, bare]
    simp [startRead, admission, closed, Except.map]

/-! ### Beginning calls -/

@[simp]
theorem failed_shift (tally : Tally) (error : Error) :
    (Task.failed error).shift tally = Task.failed error := rfl

theorem enterOpen_graft (address : Address) (config : LineConfig) :
    (graft past stale now).enterOpen address config =
      (graft past stale (now.enterOpen address config).1,
        (now.enterOpen address config).2.shift past.tally) := by
  by_cases closed : now.state = .closed
  · simp only [enterOpen, graft_state, closed, if_true]
    exact Prod.ext (graft_say past stale { now with state := .opening } _ _) rfl
  · simp [enterOpen, closed]

theorem enterConfigure_graft (line : Option LineConfig) (commands : List LineCommand) :
    (graft past stale now).enterConfigure line commands =
      (graft past stale (now.enterConfigure line commands).1,
        (now.enterConfigure line commands).2.shift past.tally) := by
  cases opened : now.openLink? with
  | none => simp [enterConfigure, opened]
  | some link =>
      have there : (link.shift past.tally).session = past.tally.sessions + link.session := rfl
      cases found : now.sessions[link.session]? with
      | none => simp [enterConfigure, opened, there, found]
      | some session =>
          have entered := graft_changeSession past stale now link.session
            (fun session => { session with
              clones := session.clones + 1, tickets := session.tickets + 1 })
            (fun session => { session with
              clones := session.clones + 1, tickets := session.tickets + 1 })
            fun _ => rfl
          simp only [enterConfigure, graft_openLink?, opened, Option.map_some, there, graft_session,
            found, entered]
          rfl

theorem enterClose_graft :
    (graft past stale now).enterClose =
      (graft past stale now.enterClose.1, now.enterClose.2.shift past.tally) := by
  cases opened : now.openLink? with
  | none => simp [enterClose, opened]
  | some link =>
      have said := graft_say past stale { now with state := .closing } .debug "Closing"
      simp only [enterClose, graft_openLink?, opened, Option.map_some]
      cases recorded : link.reader <;>
        exact Prod.ext said (by simp [Link.shift, recorded, Task.shift])

theorem enterRead_graft (plain : stale = none ∨ now.link = none) (buffer : List UInt8)
    (offset length : Nat) (started : Except SystemError Unit) :
    (graft past stale now).enterRead buffer offset length started =
      (graft past stale (now.enterRead buffer offset length started).1,
        (now.enterRead buffer offset length started).2.shift past.tally) := by
  by_cases long : buffer.length < offset + length
  · simp [enterRead, long]
  · simp only [enterRead, long, if_false, startRead_graft past now plain]
    generalize now.startRead length started = outcome
    rcases outcome with ⟨after, error | number⟩
    · rfl
    · simp [Except.map, enterWait, Task.shift]

theorem enter_graft (plain : stale = none ∨ now.link = none) (call : Call)
    (started : Except SystemError Unit) :
    (graft past stale now).enter (call.shift past.tally) started =
      (graft past stale (now.enter call started).1,
        (now.enter call started).2.shift past.tally) := by
  cases call with
  | list => rfl
  | openPort address config => exact enterOpen_graft past stale now address config
  | openWith path options =>
      simp only [Call.shift, enter, enterOpenWith]
      cases options.validate with
      | error error => rfl
      | ok _ =>
          cases Address.parse path with
          | error error => rfl
          | ok address => exact enterOpen_graft past stale now address options.lineConfig
  | read buffer offset length =>
      exact enterRead_graft past stale now plain buffer offset length started
  | write data =>
      simp only [Call.shift, enter, enterWrite, startWrite_graft]
      generalize now.startWrite data = outcome
      rcases outcome with ⟨after, error | number⟩ <;> rfl
  | set options => exact enterConfigure_graft past stale now none options.plan
  | setLineConfig config => exact enterConfigure_graft past stale now (some config) [.coding config]
  | close => exact enterClose_graft past stale now
  | wait number => simp [Call.shift, enter, enterWait, Task.shift]
  | waitInto number buffer offset => simp [Call.shift, enter, enterWait, Task.shift]

theorem invoke_graft (plain : stale = none ∨ now.link = none) (call : Call)
    (started : Except SystemError Unit) :
    (graft past stale now).invoke (call.shift past.tally) started =
      graft past stale (now.invoke call started) := by
  simp only [invoke, enter_graft past stale now plain]
  simp [graft]

/-! ### Callers -/

theorem advanceRun_graft {Result : Type} (call : Nat) (run : Running Result)
    (begun? : Option Connection) {keep keptHere : Running Result → Task}
    {finish finishHere : Result → Connection}
    (keeps : ∀ next, keptHere next = (keep next).shift past.tally)
    (finishes : ∀ result, finishHere result = graft past stale (finish result)) :
    (graft past stale now).advanceRun (past.tally.calls + call) run keptHere
        (begun?.map (graft past stale)) finishHere =
      (now.advanceRun call run keep begun? finish).map (graft past stale) := by
  rcases run with ⟨procedure, begun⟩
  cases procedure with
  | done result => simp [advanceRun, finishes]
  | say message next => simp [advanceRun, keeps]
  | call request next => cases begun <;> cases begun? <;> simp [advanceRun, keeps]

theorem takeLane?_graft (session call : Nat) :
    (graft past stale now).takeLane? (past.tally.sessions + session) (past.tally.calls + call) =
      (now.takeLane? session call).map (graft past stale) := by
  cases found : now.sessions[session]? with
  | none => simp [takeLane?, found]
  | some there =>
      cases vacant : there.lane with
      | none =>
          have taken := graft_setLane past stale now session (some call)
          simpa [takeLane?, found, Session.shift, vacant] using taken
      | some holder => simp [takeLane?, found, Session.shift, vacant]

theorem resolve_graft (call number : Nat) (target : ReadTarget) (ending : ReadEnding) :
    (graft past stale now).resolve (past.tally.calls + call) (past.tally.reads + number) target
        ending =
      graft past stale (now.resolve call number target ending) := by
  have moves (task : Task) (same : task.shift past.tally = task) :
      ((graft past stale now).setCustody (past.tally.reads + number) .resolved).setTask
          (past.tally.calls + call) task =
        graft past stale ((now.setCustody number .resolved).setTask call task) := by
    rw [graft_setCustody]
    nth_rewrite 1 [← same]
    exact graft_setTask past stale (now.setCustody number .resolved) call task
  rcases ending with ⟨phase, error | data⟩
  · exact moves (Task.failed error) rfl
  · cases target with
    | bytes => exact moves (Task.succeeded (.bytes data)) rfl
    | into buffer offset =>
        cases fits : store? buffer offset data with
        | some stored =>
            simp only [resolve, fits]
            exact moves (Task.succeeded (.stored data.length stored)) rfl
        | none =>
            simp only [resolve, fits]
            exact moves (.puttingBack data buffer offset) rfl

theorem takeLink_graft (call : Nat) :
    (graft past stale now).takeLink (past.tally.calls + call) =
      graft past stale (now.takeLink call) := by
  cases held : now.link with
  | none =>
      simp only [takeLink, graft_link, held, Option.map_none]
      exact graft_setTask past stale now call (.settling (.ok ()))
  | some link =>
      have hangsUp := graft_changeSession past stale { now with link := none } link.session
        ({ · with hungUp := true }) ({ · with hungUp := true }) fun _ => rfl
      simp only [takeLink, graft_link, held, Option.map_some]
      refine Eq.trans ?_ (graft_setTask past stale _ call (.draining link.session))
      rw [← hangsUp]
      rfl

theorem regain_graft (call number : Nat) (session : Session) :
    (graft past stale now).regain (past.tally.calls + call) (past.tally.sessions + number)
        (session.shift past.tally) =
      graft past stale (now.regain call number session) := by
  have clones : (session.shift past.tally).clones = session.clones := rfl
  by_cases sole : session.clones = 1
  · simp only [regain, clones, sole, if_true, graft_dropClone]
    exact graft_setTask past stale (now.dropClone number) call
      (.releasing ⟨leave now.settings session.handle, false⟩)
  · simp only [regain, clones, sole, if_false, graft_dropClone]
    exact graft_setTask past stale (now.dropClone number) call
      (.settling (.error (.releaseFailed .busy)))

theorem settle_graft (call : Nat) (result : Except Error Unit) :
    (graft past stale now).settle (past.tally.calls + call) result =
      graft past stale (now.settle call result) := by
  have closes (level : Level) (text : String) :
      ({ graft past stale now with state := .closed }).say level text =
        graft past stale (({ now with state := .closed }).say level text) :=
    graft_say past stale { now with state := .closed } level text
  cases result with
  | ok _ =>
      simp only [settle, closes]
      exact graft_setTask past stale _ call (Task.ended (.ok ()))
  | error error =>
      simp only [settle, closes]
      exact graft_setTask past stale _ call (Task.ended (.error error))

@[simp]
theorem afterTicket_shift (tally : Tally) (line : Option LineConfig) (result : Except Error Unit) :
    (afterTicket line result).shift tally = afterTicket line result := by
  cases result <;> cases line <;> rfl

@[simp]
theorem writeEnding?_shift (tally : Tally) {state : WriteState} {task : Task}
    (ended : writeEnding? state = some task) : task.shift tally = task := by
  rcases writeEnding?_eq_some ended with ⟨result, rfl⟩
  rfl

/-- A caller that empties the backlog empties also a stale one. -/
theorem advanceCall?_graft_of_clearing {call session : Nat} {address : Address}
    {config : LineConfig}
    (stands : now.tasks[call]? = some (.clearing address config session)) :
    (graft past stale now).advanceCall? (past.tally.calls + call) =
      (now.advanceCall? call).map (graft past none) := by
  simp only [advanceCall?, graft_task, stands, Option.map_some]
  exact congrArg some (graft_setTask past none { now with backlog := [] } call
    (.installing address config session))

@[simp]
theorem graft_recordLine (line : LineConfig) :
    (graft past stale now).recordLine line = graft past stale (now.recordLine line) := by
  simp only [recordLine, graft, Option.map_map]
  rfl

theorem endOpening_graft (call : Nat) (address : Address) (config : LineConfig)
    (result : Except Error Handle) :
    (graft past stale now).endOpening (past.tally.calls + call) address config result =
      graft past stale (now.endOpening call address config result) := by
  cases result with
  | error error => exact graft_setTask past stale now call (.retreating address error)
  | ok handle =>
      have grown : ({ graft past stale now with
          sessions := (graft past stale now).sessions ++ [newSession handle] } : Connection) =
          graft past stale { now with sessions := now.sessions ++ [newSession handle] } := by
        simp [graft, newSession, Session.shift, WriterStage.shift]
      simp only [endOpening, graft_sessions_length]
      rw [grown]
      exact graft_setTask past stale _ call (.clearing address config now.sessions.length)

/-- What a caller of `now` does next, it does in the graft, unless it changes the backlog. -/
theorem advanceCall?_graft {call : Nat}
    (unstale : stale = none ∨ ∀ task, now.tasks[call]? = some task →
      task.isClearing = false ∧ task.returned? = none) :
    (graft past stale now).advanceCall? (past.tally.calls + call) =
      (now.advanceCall? call).map (graft past stale) := by
  have moves (changed : Connection) (task : Task) := graft_setTask past stale changed call task
  cases stands : now.tasks[call]? with
  | none => simp [advanceCall?, stands]
  | some task =>
      have plain (touches : task.isClearing = true ∨ task.returned? ≠ none) : stale = none := by
        rcases unstale with bare | spares
        · exact bare
        · rcases spares task stands with ⟨unclearing, unreturning⟩
          simp [unclearing, unreturning] at touches
      cases task <;> simp only [advanceCall?, graft_task, stands, Option.map_some, Task.shift,
        Option.bind_eq_bind, Option.bind_some, Option.pure_def]
      case listing run =>
        refine advanceRun_graft past stale now call run (some now) (fun _ => rfl) ?_
        rintro (error | ports)
        · exact moves now (Task.failed error)
        · exact moves now (Task.succeeded (.ports ports))
      case opening address config run =>
        exact advanceRun_graft past stale now call run (some now) (fun _ => rfl)
          (endOpening_graft past stale now call address config)
      case clearing address config session =>
        cases plain (.inl rfl)
        exact congrArg some (moves { now with backlog := [] } (.installing address config session))
      case installing address config session =>
        refine congrArg some (Eq.trans ?_ (moves _ (Task.succeeded .done)))
        rw [← graft_say]
        rfl
      case retreating address error =>
        refine congrArg some (Eq.trans ?_ (moves _ (Task.failed error)))
        rw [← graft_say]
        rfl
      case awaitingRead number target =>
        simp only [graft_read]
        cases now.reads[number]? with
        | none => rfl
        | some read =>
            have ending : (read.shift past.tally).ending? = read.ending? := rfl
            simp only [Option.map_some, Option.bind_some, ending]
            cases read.ending? with
            | none => rfl
            | some ending =>
                exact congrArg some (resolve_graft past stale now call number target ending)
      case puttingBack data buffer offset =>
        cases plain (.inr (Option.some_ne_none _))
        exact congrArg some (moves (now.putBack data) (Task.failed _))
      case awaitingWrite number =>
        simp only [graft_write]
        cases now.writes[number]? with
        | none => rfl
        | some write =>
            have state : (write.shift past.tally).state = write.state := rfl
            simp only [Option.map_some, Option.bind_some, state]
            cases ended : writeEnding? write.state with
            | none => rfl
            | some next =>
                have same := writeEnding?_shift past.tally ended
                simp only [Option.bind_some, Option.map_some]
                rw [← moves, same]
      case configuring session line run =>
        rw [takeLane?_graft]
        exact advanceRun_graft past stale now call run _ (fun _ => rfl) fun result =>
          moves now (.returningClone session line result)
      case returningClone session line result =>
        rw [graft_dropClone]
        exact congrArg some (moves _ (.returningTicket session line result))
      case returningTicket session line result =>
        have returned := graft_changeSession past stale now session
          (fun session => { session with tickets := session.tickets - 1 })
          (fun session => { session with tickets := session.tickets - 1 }) fun _ => rfl
        have moved := moves (now.changeSession session fun session =>
          { session with tickets := session.tickets - 1 }) (afterTicket line result)
        rw [afterTicket_shift] at moved
        rw [returned]
        exact congrArg some moved
      case recording line =>
        rw [graft_recordLine]
        exact congrArg some (moves _ (Task.succeeded .done))
      case cancelling number =>
        simp only [graft_cancel, graft_settings]
        cases now.settings.effectiveDeadline? with
        | none => exact congrArg some (moves _ (.finished .overflowed))
        | some deadline => exact congrArg some (moves _ (.awaitingReader number deadline))
      case awaitingReader number deadline =>
        simp only [graft_read]
        cases now.reads[number]? with
        | none => rfl
        | some read =>
            simp only [Option.map_some, Option.bind_some]
            by_cases finished : read.isFinished = true
            · simp only [isFinished_shift, finished, if_true]
              exact congrArg some (moves now .takingLink)
            · simp only [isFinished_shift, finished]
              rfl
      case reverting deadline =>
        refine congrArg some (Eq.trans ?_ (moves _ (Task.failed (.cancelTimeout deadline))))
        rw [← graft_say]
        rfl
      case takingLink => exact congrArg some (takeLink_graft past stale now call)
      case draining number =>
        simp only [graft_session]
        cases now.sessions[number]? with
        | none => rfl
        | some session =>
            have writer : (session.shift past.tally).writer = session.writer.shift past.tally := rfl
            simp only [Option.map_some, Option.bind_some, writer, WriterStage.shift_eq_ended]
            split
            · exact congrArg some (moves now (.idling number))
            · rfl
      case idling number =>
        simp only [graft_session]
        cases now.sessions[number]? with
        | none => rfl
        | some session =>
            have tickets : (session.shift past.tally).tickets = session.tickets := rfl
            simp only [Option.map_some, Option.bind_some, tickets]
            split
            · exact congrArg some (moves now (.regaining number))
            · rfl
      case regaining number =>
        simp only [graft_session]
        cases now.sessions[number]? with
        | none => rfl
        | some session => exact congrArg some (regain_graft past stale now call number session)
      case releasing run =>
        exact advanceRun_graft past stale now call run (some now) (fun _ => rfl) fun result =>
          moves now (.settling result)
      case settling result => exact congrArg some (settle_graft past stale now call result)
      case finished ending => rfl

theorem runPending?_graft {Result : Type} (run : Running Result)
    {resume resumeHere : Running Result → Connection}
    (resumes : ∀ next, resumeHere next = graft past stale (resume next)) :
    runPending? run resumeHere = (runPending? run resume).map (·.map (graft past stale)) := by
  rcases run with ⟨procedure, begun⟩
  cases begun with
  | false => rfl
  | true => cases procedure <;> simp [runPending?, Pending.map, resumes]

theorem callPending?_graft (call : Nat) :
    (graft past stale now).callPending? (past.tally.calls + call) =
      (now.callPending? call).map (·.map (graft past stale)) := by
  have moves (changed : Connection) (task : Task) := graft_setTask past stale changed call task
  cases stands : now.tasks[call]? with
  | none => simp [callPending?, stands]
  | some task =>
      cases task <;> simp only [callPending?, graft_task, stands, Option.map_some, Task.shift,
        Option.bind_eq_bind, Option.bind_some, Option.map_none]
      case listing run =>
        exact runPending?_graft past stale run fun next => moves now (.listing next)
      case opening address config run =>
        exact runPending?_graft past stale run fun next => moves now (.opening address config next)
      case configuring session line run =>
        refine runPending?_graft past stale run fun next => ?_
        have freed := graft_setLane past stale now session none
        rw [Option.map_none] at freed
        rw [freed]
        exact moves _ (.configuring session line next)
      case releasing run =>
        exact runPending?_graft past stale run fun next => moves now (.releasing next)

theorem expire?_graft (call : Nat) :
    (graft past stale now).expire? (past.tally.calls + call) =
      (now.expire? call).map (graft past stale) := by
  cases stands : now.tasks[call]? with
  | none => simp [expire?, stands]
  | some task =>
      cases task <;> simp only [expire?, graft_task, stands, Option.map_some, Task.shift,
        Option.bind_eq_bind, Option.bind_some, Option.map_none]
      case awaitingReader number deadline =>
        simp only [graft_read]
        cases now.reads[number]? with
        | none => rfl
        | some read =>
            simp only [Option.map_some, Option.bind_some]
            by_cases finished : read.isFinished = true
            · simp only [isFinished_shift, finished, if_true]
              rfl
            · simp only [isFinished_shift, finished]
              exact congrArg some (graft_setTask past stale now call (.reverting deadline))

/-! ### Workers -/

/-- What the worker of a read does next, it does in the graft, unless it divides what came. -/
theorem advanceReader?_graft {number : Nat}
    (unstale : stale = none ∨ now.reads[number]? = none) :
    (graft past stale now).advanceReader? (past.tally.reads + number) =
      (now.advanceReader? number).map (graft past stale) := by
  cases found : now.reads[number]? with
  | none => simp [advanceReader?, found]
  | some read =>
      obtain rfl : stale = none := unstale.resolve_right (by simp [found])
      have moves (changed : Connection) (stage : ReaderStage) :=
        graft_setReader past none changed number stage
      have stage : (read.shift past.tally).stage = read.stage := rfl
      have cancelled : (read.shift past.tally).cancelled = read.cancelled := rfl
      have session : (read.shift past.tally).session = past.tally.sessions + read.session := rfl
      simp only [advanceReader?, graft_read, found, Option.map_some, Option.bind_eq_bind,
        Option.bind_some, Option.pure_def, stage, cancelled, session]
      cases read.stage with
      | checking =>
          dsimp only
          split
          · exact congrArg some (moves now _)
          · exact congrArg some (moves now _)
      | polling => rfl
      | received data =>
          simp only [divide, cancelled]
          split
          · exact congrArg some (moves { now with backlog := now.backlog ++ data } _)
          · exact congrArg some
              (moves { now with backlog := now.backlog ++ data.drop read.length } _)
      | leaving ending =>
          simp only [graft_isLastClone, graft_dropClone]
          exact congrArg some (moves _ _)
      | closing ending => rfl
      | reporting ending => exact congrArg some (moves now _)
      | ended ending => rfl

theorem readerPending?_graft (number : Nat) :
    (graft past stale now).readerPending? (past.tally.reads + number) =
      (now.readerPending? number).map (·.map (graft past stale)) := by
  have moves (stage : ReaderStage) := graft_setReader past stale now number stage
  cases found : now.reads[number]? with
  | none => simp [readerPending?, found]
  | some read =>
      have there : (read.shift past.tally).session = past.tally.sessions + read.session := rfl
      have stage : (read.shift past.tally).stage = read.stage := rfl
      cases held : now.sessions[read.session]? with
      | none => simp [readerPending?, found, there, held]
      | some session =>
          have handle : (session.shift past.tally).handle = session.handle := rfl
          cases standing : read.stage <;>
            simp [readerPending?, found, there, held, stage, standing, handle, Pending.map]

theorem advanceWriter?_graft (number : Nat) :
    (graft past stale now).advanceWriter? (past.tally.sessions + number) =
      (now.advanceWriter? number).map (graft past stale) := by
  have moves (changed : Connection) (stage : WriterStage) :=
    graft_setWriter past stale changed number stage
  cases found : now.sessions[number]? with
  | none => simp [advanceWriter?, found]
  | some session =>
      simp only [advanceWriter?, graft_session, found, Option.map_some, Option.bind_eq_bind,
        Option.bind_some, Option.pure_def, Session.shift]
      cases session.writer with
      | waiting =>
          dsimp only [WriterStage.shift]
          cases session.queue with
          | nil =>
              simp only [List.map_nil]
              cases session.hungUp with
              | true => exact congrArg some (moves now .leaving)
              | false => rfl
          | cons write rest =>
              exact congrArg some (graft_changeSession past stale now number
                ({ · with queue := rest, writer := .writing write }) _ fun _ => rfl)
      | writing write => rfl
      | unwinding =>
          dsimp only [WriterStage.shift]
          rw [graft_loseAll]
          exact congrArg some (graft_changeSession past stale _ number
            ({ · with queue := [], writer := .leaving }) _ fun _ => rfl)
      | leaving =>
          dsimp only [WriterStage.shift]
          rw [graft_isLastClone, graft_dropClone]
          cases now.isLastClone number with
          | true => exact congrArg some (moves _ .closing)
          | false => exact congrArg some (moves _ .ended)
      | closing => rfl
      | ended => rfl

theorem afterWrite_graft (number write : Nat) (reply : BulkOut) :
    (graft past stale now).afterWrite (past.tally.sessions + number) (past.tally.writes + write)
        reply =
      graft past stale (now.afterWrite number write reply) := by
  cases reply with
  | accepted count =>
      simp only [afterWrite, graft_settleWrite]
      exact graft_setWriter past stale _ number .waiting
  | failed status =>
      simp only [afterWrite, graft_settleWrite]
      exact graft_setWriter past stale _ number .waiting
  | crashed =>
      simp only [afterWrite, graft_settleWrite]
      exact graft_setWriter past stale _ number .unwinding

theorem writerPending?_graft (number : Nat) :
    (graft past stale now).writerPending? (past.tally.sessions + number) =
      (now.writerPending? number).map (·.map (graft past stale)) := by
  cases found : now.sessions[number]? with
  | none => simp [writerPending?, found]
  | some session =>
      cases standing : session.writer with
      | writing write =>
          have data : ((·.data) ∘ (·.shift past.tally) : Write → List UInt8) = (·.data) := rfl
          simp [writerPending?, found, Session.shift, standing, WriterStage.shift, Pending.map,
            afterWrite_graft, data]
      | closing =>
          have ended := graft_setWriter past stale now number .ended
          rw [show WriterStage.ended.shift past.tally = .ended from rfl] at ended
          simp [writerPending?, found, Session.shift, standing, WriterStage.shift, Pending.map,
            ended]
      | _ => simp [writerPending?, found, Session.shift, standing, WriterStage.shift]

/-! ### Steps -/

@[simp]
theorem permits_graft (call : Call) :
    (graft past stale now).permits (call.shift past.tally) = now.permits call := by
  cases call with
  | wait number =>
      cases found : now.reads[number]? <;> simp [permits, Call.shift, found, Read.shift]
  | waitInto number buffer offset =>
      cases found : now.reads[number]? <;> simp [permits, Call.shift, found, Read.shift]
  | _ => rfl

theorem pending?_graft (thread : Thread) :
    (graft past stale now).pending? (thread.shift past.tally) =
      (now.pending? thread).map (·.map (graft past stale)) := by
  cases thread with
  | call number => exact callPending?_graft past stale now number
  | reader number => exact readerPending?_graft past stale now number
  | writer number => exact writerPending?_graft past stale now number

theorem exchange?_graft (action : Action) :
    (graft past stale now).exchange? (action.shift past.tally) =
      (now.exchange? action).map fun exchange => (exchange.1.shift past.tally, exchange.2) := by
  cases action with
  | answer thread replies =>
      simp only [exchange?, Action.shift, pending?_graft, Option.map_map]
      rfl
  | _ => rfl

end Graft

end Connection

/-- Whether a caller has emptied the backlog or is about to put bytes back. -/
def Task.usesBacklog : Task → Bool
  | .installing _ _ _ => true
  | .puttingBack _ _ _ => true
  | _ => false

namespace Connection

/-- Nobody has used the backlog: there is no link and no read, and nobody is about to have one. -/
structure Unread (connection : Connection) : Prop where
  link : connection.link = none
  reads : connection.reads = []
  unused : ∀ task ∈ connection.tasks, task.usesBacklog = false

/-- Whether an action empties the backlog. -/
def clears (connection : Connection) : Action → Bool
  | .advance (.call call) => connection.tasks[call]?.any Task.isClearing
  | _ => false

/--
A step of `now` is a step of the graft. A stale backlog is still there afterwards, unless the step
empties the backlog.
-/
theorem step?_graft (past : Connection) {stale : Option (List UInt8)} {now : Connection}
    (unread : stale = none ∨ now.Unread) (action : Action) :
    (graft past stale now).step? (action.shift past.tally) =
      (now.step? action).map (graft past (if now.clears action then none else stale)) := by
  cases action with
  | invoke call started =>
      have plain : stale = none ∨ now.link = none := unread.imp_right (·.link)
      simp only [step?, Action.shift, permits_graft, invoke_graft past stale now plain, clears]
      split <;> rfl
  | startRead length started =>
      have plain : stale = none ∨ now.link = none := unread.imp_right (·.link)
      simp only [step?, Action.shift, startRead_graft past now plain]
      rfl
  | startWrite data =>
      simp only [step?, Action.shift, startWrite_graft]
      rfl
  | cancel number =>
      simp only [step?, Action.shift, graft_cancel]
      rfl
  | advance thread =>
      cases thread with
      | call number =>
          simp only [step?, Action.shift, Thread.shift, advance?]
          cases clearing : now.clears (.advance (.call number)) with
          | true =>
              cases stands : now.tasks[number]? with
              | none => simp [clears, stands] at clearing
              | some task =>
                  cases task with
                  | clearing address config session =>
                      exact advanceCall?_graft_of_clearing past stale now stands
                  | _ => simp [clears, stands, Task.isClearing] at clearing
          | false =>
              refine advanceCall?_graft past stale now
                (unread.imp_right fun unread task stands => ?_)
              have unused := unread.unused task (List.mem_of_getElem? stands)
              refine ⟨by simpa [clears, stands] using clearing, ?_⟩
              cases task <;> first | rfl | cases unused
      | reader number =>
          have unstale : stale = none ∨ now.reads[number]? = none :=
            unread.imp_right fun unread => by simp [unread.reads]
          exact advanceReader?_graft past stale now unstale
      | writer number => exact advanceWriter?_graft past stale now number
  | answer thread replies =>
      simp only [step?, Action.shift, pending?_graft, Option.map_map]
      rfl
  | expire call => exact expire?_graft past stale now call

end Connection

end CdcSerial
