import CdcSerial.Proofs.Connection.Reads
import CdcSerial.Proofs.Connection.Renewal

/-!
# Forgetting a read that has ended

The link goes on recording a read after its worker has ended, and a caller that closes the port then
cancels a read that is over and waits for what has happened. `forget number connection` is the
connection without all this: the read is not recorded, counts as cancelled, and whoever waits for it
while closing need not. As long as the read has ended, nobody notices. A step of the connection is
the same step of the one that has forgotten (`step?_forget`), except that a caller which closes the
port may take a turn or two more before it takes the link, in which nothing happens
(`forget_of_idle`).

So nobody can tell two connections apart that differ only in what they would forget, whichever of
them has a caller that needs more turns (`indistinct_of_forget`).
-/

namespace CdcSerial

/-- The point of a caller that does not wait for a read while it closes the port. -/
def Task.forget (number : Nat) : Task → Task
  | .cancelling read => if read = number then .takingLink else .cancelling read
  | .awaitingReader read deadline =>
    if read = number then .takingLink else .awaitingReader read deadline
  | task => task

/-- A read that counts as cancelled. -/
def Read.told (read : Read) : Read := { read with cancelled := true }

/-- A link that does not record a read. -/
def Link.forget (number : Nat) (link : Link) : Link :=
  { link with reader := if link.reader = some number then none else link.reader }

theorem Task.forget_eq_self {number : Nat} {task : Task} (other : task.stopped? ≠ some number) :
    task.forget number = task := by
  cases task with
  | cancelling read => exact if_neg fun same => other (congrArg some same)
  | awaitingReader read deadline => exact if_neg fun same => other (congrArg some same)
  | _ => rfl

theorem Task.forget_of_stopped? {number : Nat} {task : Task} (stops : task.stopped? = some number) :
    task.forget number = .takingLink := by
  cases task with
  | cancelling read => exact if_pos (Option.some.inj stops)
  | awaitingReader read deadline => exact if_pos (Option.some.inj stops)
  | _ => cases stops

namespace Connection

/-- A connection that has forgotten a read. -/
def forget (number : Nat) (connection : Connection) : Connection :=
  { connection with
    link := connection.link.map (·.forget number)
    reads := connection.reads.modify number Read.told
    tasks := connection.tasks.map (·.forget number) }

/-- That the worker of a read has ended. -/
def HasEnded (number : Nat) (connection : Connection) : Prop :=
  ∃ read, connection.reads[number]? = some read ∧ read.isFinished = true

/-- A turn of a caller that closes the port and waits for a read. -/
def idles (number : Nat) (connection : Connection) : Action → Bool
  | .advance (.call call) => (connection.tasks[call]?.bind Task.stopped?) == some number
  | _ => false

section Forget

variable {number : Nat} {connection : Connection}

/-! ### What is found -/

theorem forget_task (call : Nat) :
    (connection.forget number).tasks[call]? = connection.tasks[call]?.map (·.forget number) :=
  List.getElem?_map

theorem forget_read {place : Nat} {read : Read} (found : connection.reads[place]? = some read) :
    ∃ told, (connection.forget number).reads[place]? = some { read with cancelled := told } ∧
      (place ≠ number → told = read.cancelled) := by
  by_cases here : number = place
  · exact ⟨true, by simp [forget, found, here, Read.told], fun apart => absurd here.symm apart⟩
  · exact ⟨read.cancelled, by simp [forget, found, here], fun _ => rfl⟩

theorem forget_read_eq_none {place : Nat} (missing : connection.reads[place]? = none) :
    (connection.forget number).reads[place]? = none := by
  simpa [forget] using missing

theorem forget_reads_length : (connection.forget number).reads.length = connection.reads.length :=
  List.length_modify ..

@[simp]
theorem forget_openLink? :
    (connection.forget number).openLink? = connection.openLink?.map (·.forget number) := by
  by_cases opened : connection.state = .opened <;> simp [openLink?, forget, opened]

/-! ### What is changed -/

@[simp]
theorem forget_say (level : Level) (text : String) :
    (connection.forget number).say level text = (connection.say level text).forget number := rfl

theorem forget_setTask (connection : Connection) (call : Nat) (task : Task) :
    (connection.forget number).setTask call (task.forget number) =
      (connection.setTask call task).forget number := by
  simp [setTask, forget, List.map_set]

theorem forget_addTask (task : Task) :
    (connection.forget number).addTask (task.forget number) =
      (connection.addTask task).forget number := by
  simp [addTask, forget]

@[simp]
theorem forget_changeSession (session : Nat) (change : Session → Session) :
    (connection.forget number).changeSession session change =
      (connection.changeSession session change).forget number := rfl

@[simp]
theorem forget_dropClone (session : Nat) :
    (connection.forget number).dropClone session = (connection.dropClone session).forget number :=
  rfl

@[simp]
theorem forget_setLane (session : Nat) (lane : Option Nat) :
    (connection.forget number).setLane session lane =
      (connection.setLane session lane).forget number :=
  rfl

@[simp]
theorem forget_settleWrite (write : Nat) (state : WriteState) :
    (connection.forget number).settleWrite write state =
      (connection.settleWrite write state).forget number := rfl

@[simp]
theorem forget_loseAll (queue : List Nat) :
    (connection.forget number).loseAll queue = (connection.loseAll queue).forget number := by
  unfold loseAll
  induction queue generalizing connection with
  | nil => rfl
  | cons write rest ih => simp only [List.foldl_cons, forget_settleWrite, ih]

theorem forget_changeRead {change : Read → Read} (place : Nat)
    (agree : ∀ read : Read, change read.told = (change read).told) :
    (connection.forget number).changeRead place change =
      (connection.changeRead place change).forget number := by
  simp only [changeRead, forget, modify_comm agree place number connection.reads]

@[simp]
theorem forget_setCustody (place : Nat) (custody : Custody) :
    (connection.forget number).setCustody place custody =
      (connection.setCustody place custody).forget number :=
  forget_changeRead place fun _ => rfl

@[simp]
theorem forget_cancel (place : Nat) :
    (connection.forget number).cancel place = (connection.cancel place).forget number :=
  forget_changeRead place fun _ => rfl

@[simp]
theorem forget_setReader (connection : Connection) (place : Nat) (stage : ReaderStage) :
    (connection.forget number).setReader place stage =
      (connection.setReader place stage).forget number :=
  forget_changeRead place fun _ => rfl

@[simp]
theorem forget_recordLine (line : LineConfig) :
    (connection.forget number).recordLine line = (connection.recordLine line).forget number := by
  simp only [recordLine, forget, Option.map_map]
  rfl

/-! ### Starting reads and writes -/

theorem startWrite_forget (data : List UInt8) :
    (connection.forget number).startWrite data =
      ((connection.startWrite data).1.forget number, (connection.startWrite data).2) := by
  cases opened : connection.openLink? with
  | none => simp [startWrite, opened]
  | some link =>
      have session : (link.forget number).session = link.session := rfl
      have sessions : (connection.forget number).sessions = connection.sessions := rfl
      cases found : connection.sessions[link.session]? with
      | none => simp [startWrite, opened, session, sessions, found]
      | some there =>
          cases alive : there.writer.hasQueue with
          | false => simp [startWrite, opened, session, sessions, found, alive]
          | true =>
              simp only [startWrite, forget_openLink?, opened, Option.map_some, session,
                sessions, found, alive, if_true]
              rfl

/-- A read that has ended does not keep others from being started, recorded or not. -/
theorem forget_isReading (ended : connection.HasEnded number) (link : Link) :
    (connection.forget number).isReading (link.forget number) = connection.isReading link := by
  rcases ended with ⟨read, found, finished⟩
  cases recorded : link.reader with
  | none => simp [isReading, Link.forget, recorded]
  | some place =>
      by_cases here : place = number
      · subst here
        simp [isReading, Link.forget, recorded, found, finished]
      · cases there : connection.reads[place]? with
        | none => simp [isReading, Link.forget, recorded, here, there, forget_read_eq_none there]
        | some other =>
            rcases @forget_read number connection place other there with ⟨told, kept, -⟩
            simp [isReading, Link.forget, recorded, here, there, kept, Read.isFinished,
              Read.ending?]

/-- What would happen to a request for bytes, if a read were forgotten. -/
def Admission.forget (number : Nat) : Admission → Admission
  | .polls link => .polls (link.forget number)
  | admission => admission

theorem forget_admission (ended : connection.HasEnded number) (length : Nat) :
    (connection.forget number).admission length = (connection.admission length).forget number := by
  have backlog : (connection.forget number).backlog = connection.backlog := rfl
  cases opened : connection.openLink? with
  | none => simp [admission, opened, Admission.forget]
  | some link =>
      simp only [admission, forget_openLink?, opened, Option.map_some,
        forget_isReading ended, backlog]
      cases connection.isReading link with
      | true => rfl
      | false =>
          by_cases zero : length = 0
          · simp [zero, Admission.forget]
          · by_cases empty : connection.backlog.isEmpty = true <;>
              simp [zero, empty, Admission.forget]

theorem forget_recordReader {reader : Option Nat} (other : reader ≠ some number) :
    (connection.forget number).recordReader reader =
      (connection.recordReader reader).forget number := by
  have same : (Link.forget number ∘ fun link : Link => { link with reader }) =
      (fun link => { link with reader }) ∘ Link.forget number := by
    funext link
    simp [Link.forget, other]
  simp only [recordReader, forget, Option.map_map, same]

theorem forget_addRead (ended : connection.HasEnded number) (read : Read) :
    (connection.forget number).addRead read =
      ((connection.addRead read).1.forget number, (connection.addRead read).2) := by
  rcases ended with ⟨old, found, -⟩
  have grown := modify_concat (List.getElem?_eq_some_iff.mp found).1 Read.told read
  refine Prod.ext ?_ forget_reads_length
  simp only [addRead, forget, grown]

/-- A read is started in the same way if one that has ended is forgotten. -/
theorem startRead_forget (ended : connection.HasEnded number) (length : Nat)
    (started : Except SystemError Unit) :
    (connection.forget number).startRead length started =
      ((connection.startRead length started).1.forget number,
        (connection.startRead length started).2) := by
  have kept (changed : Connection) (same : changed.reads = connection.reads) :
      changed.HasEnded number := by
    rw [HasEnded, same]
    exact ended
  have cleared (changed : Connection) :
      (changed.forget number).recordReader none = (changed.recordReader none).forget number :=
    forget_recordReader nofun
  have session : ((connection.forget number).link.map (·.session)).getD 0 =
      (connection.link.map (·.session)).getD 0 := by
    simp only [forget, Option.map_map]
    rfl
  simp only [startRead, forget_admission ended, session]
  cases connection.admission length with
  | refused error => rfl
  | served data rest =>
      have serves (said : Connection) (same : said.reads = connection.reads) (read : Read) :
          ({ (said.forget number).recordReader none with backlog := rest }).addRead read =
            ((({ said.recordReader none with backlog := rest }).addRead read).1.forget number,
              (({ said.recordReader none with backlog := rest }).addRead read).2) := by
        rw [cleared]
        exact @forget_addRead number { said.recordReader none with backlog := rest }
          (kept _ same) read
      by_cases zero : length = 0
      · simp only [Admission.forget, zero, if_true, serves connection rfl]
      · simp only [Admission.forget, zero, if_false, forget_say, serves (connection.say _ _) rfl]
  | polls link =>
      cases started with
      | error cause => simp only [Admission.forget, cleared]
      | ok _ =>
          have inside : number < connection.reads.length := by
            rcases ended with ⟨old, found, -⟩
            exact (List.getElem?_eq_some_iff.mp found).1
          have other : some connection.reads.length ≠ some number := by
            simp only [ne_eq, Option.some.injEq]
            omega
          have cloned :=
            @forget_addRead number (connection.changeSession link.session fun session =>
            { session with clones := session.clones + 1 }) (kept _ rfl)
              ⟨link.session, length, false, .checking, .kept⟩
          have recorded := @forget_recordReader number ((connection.changeSession link.session
            fun session => { session with clones := session.clones + 1 }).addRead
              ⟨link.session, length, false, .checking, .kept⟩).1 _ other
          simp only [Admission.forget, Link.forget, forget_changeSession, cloned]
          exact Prod.ext recorded rfl

/-! ### Beginning calls -/

theorem enterOpen_forget (address : Address) (config : LineConfig) :
    (connection.forget number).enterOpen address config =
      ((connection.enterOpen address config).1.forget number,
        (connection.enterOpen address config).2.forget number) := by
  have state : (connection.forget number).state = connection.state := rfl
  by_cases closed : connection.state = .closed
  · simp only [enterOpen, state, closed, if_true]
    rfl
  · simp only [enterOpen, state, closed, if_false]
    rfl

theorem enterConfigure_forget (line : Option LineConfig) (commands : List LineCommand) :
    (connection.forget number).enterConfigure line commands =
      ((connection.enterConfigure line commands).1.forget number,
        (connection.enterConfigure line commands).2.forget number) := by
  cases opened : connection.openLink? with
  | none => simp [enterConfigure, opened, Task.failed, Task.forget]
  | some link =>
      have session : (link.forget number).session = link.session := rfl
      have sessions : (connection.forget number).sessions = connection.sessions := rfl
      simp only [enterConfigure, forget_openLink?, opened, Option.map_some, session, sessions]
      cases connection.sessions[link.session]? <;> rfl

/-- A caller that begins to close the port need not wait for a read that is forgotten. -/
theorem enterClose_forget :
    (connection.forget number).enterClose =
      (connection.enterClose.1.forget number, connection.enterClose.2.forget number) := by
  cases opened : connection.openLink? with
  | none => simp [enterClose, opened, Task.failed, Task.forget]
  | some link =>
      simp only [enterClose, forget_openLink?, opened, Option.map_some]
      refine Prod.ext rfl ?_
      cases recorded : link.reader with
      | none => simp [Link.forget, recorded, Task.forget]
      | some place =>
          by_cases here : place = number <;> simp [Link.forget, recorded, here, Task.forget]

theorem enterRead_forget (ended : connection.HasEnded number) (buffer : List UInt8)
    (offset length : Nat) (started : Except SystemError Unit) :
    (connection.forget number).enterRead buffer offset length started =
      ((connection.enterRead buffer offset length started).1.forget number,
        (connection.enterRead buffer offset length started).2.forget number) := by
  by_cases long : buffer.length < offset + length
  · simp only [enterRead, long, if_true]
    rfl
  · simp only [enterRead, long, if_false, startRead_forget ended]
    generalize connection.startRead length started = outcome
    rcases outcome with ⟨after, error | place⟩
    · rfl
    · simp only [enterWait, forget_setCustody]
      rfl

theorem enter_forget (ended : connection.HasEnded number) (call : Call)
    (started : Except SystemError Unit) :
    (connection.forget number).enter call started =
      ((connection.enter call started).1.forget number,
        (connection.enter call started).2.forget number) := by
  cases call with
  | list => rfl
  | openPort address config => exact enterOpen_forget address config
  | openWith path options =>
      simp only [enter, enterOpenWith]
      cases options.validate with
      | error error => rfl
      | ok _ =>
          cases Address.parse path with
          | error error => rfl
          | ok address => exact enterOpen_forget address options.lineConfig
  | read buffer offset length => exact enterRead_forget ended buffer offset length started
  | write data =>
      simp only [enter, enterWrite, startWrite_forget]
      generalize connection.startWrite data = outcome
      rcases outcome with ⟨after, error | place⟩ <;> rfl
  | set options => exact enterConfigure_forget none options.plan
  | setLineConfig config => exact enterConfigure_forget (some config) [.coding config]
  | close => exact enterClose_forget
  | wait place => simp [enter, enterWait, Task.forget]
  | waitInto place buffer offset => simp [enter, enterWait, Task.forget]

theorem invoke_forget (ended : connection.HasEnded number) (call : Call)
    (started : Except SystemError Unit) :
    (connection.forget number).invoke call started =
      (connection.invoke call started).forget number := by
  simp only [invoke, enter_forget ended]
  exact forget_addTask _

/-! ### Callers -/

theorem advanceRun_forget {Result : Type} (call : Nat) (run : Running Result)
    (begun? : Option Connection) {keep : Running Result → Task}
    {finish finishHere : Result → Connection}
    (keeps : ∀ next, (keep next).forget number = keep next)
    (finishes : ∀ result, finishHere result = (finish result).forget number) :
    (connection.forget number).advanceRun call run keep (begun?.map (·.forget number)) finishHere =
      (connection.advanceRun call run keep begun? finish).map (·.forget number) := by
  have moves (changed : Connection) (next : Running Result) :
      (changed.forget number).setTask call (keep next) =
        (changed.setTask call (keep next)).forget number := by
    rw [← forget_setTask, keeps]
  rcases run with ⟨procedure, begun⟩
  cases procedure with
  | done result => simp [advanceRun, finishes]
  | say message next => simp [advanceRun, moves]
  | call request next => cases begun <;> cases begun? <;> simp [advanceRun, moves]

theorem takeLane?_forget (session call : Nat) :
    (connection.forget number).takeLane? session call =
      (connection.takeLane? session call).map (·.forget number) := by
  have sessions : (connection.forget number).sessions = connection.sessions := rfl
  simp only [takeLane?, sessions]
  cases connection.sessions[session]? with
  | none => rfl
  | some there => cases vacant : there.lane <;> simp [vacant]

theorem resolve_forget (call place : Nat) (target : ReadTarget) (ending : ReadEnding) :
    (connection.forget number).resolve call place target ending =
      (connection.resolve call place target ending).forget number := by
  have moves (task : Task) (same : task.forget number = task) :
      ((connection.forget number).setCustody place .resolved).setTask call task =
        ((connection.setCustody place .resolved).setTask call task).forget number := by
    rw [forget_setCustody, ← forget_setTask, same]
  rcases ending with ⟨phase, error | data⟩
  · exact moves (Task.failed error) rfl
  · cases target with
    | bytes => exact moves (Task.succeeded (.bytes data)) rfl
    | into buffer offset =>
        cases fits : store? buffer offset data with
        | some stored =>
            simp only [resolve, fits]
            exact moves (Task.succeeded (.stored data.length stored)) rfl
        | none =>
            simp only [resolve, fits]
            exact moves (.puttingBack data buffer offset) rfl

theorem takeLink_forget (call : Nat) :
    (connection.forget number).takeLink call = (connection.takeLink call).forget number := by
  cases held : connection.link with
  | none =>
      have bare : (connection.forget number).link = none := by simp [forget, held]
      simp only [takeLink, bare, held]
      exact forget_setTask _ call (.settling (.ok ()))
  | some link =>
      have hangsUp : ({ connection.forget number with link := none } : Connection) =
          ({ connection with link := none }).forget number := rfl
      have session : (link.forget number).session = link.session := rfl
      have there : (connection.forget number).link = some (link.forget number) := by
        simp [forget, held]
      simp only [takeLink, there, held, session, hangsUp, forget_changeSession]
      exact forget_setTask _ call (.draining link.session)

theorem regain_forget (call session : Nat) (there : Session) :
    (connection.forget number).regain call session there =
      (connection.regain call session there).forget number := by
  by_cases sole : there.clones = 1
  · simp only [regain, sole, if_true, forget_dropClone]
    exact forget_setTask _ call (.releasing ⟨leave connection.settings there.handle, false⟩)
  · simp only [regain, sole, if_false, forget_dropClone]
    exact forget_setTask _ call (.settling (.error (.releaseFailed .busy)))

theorem settle_forget (call : Nat) (result : Except Error Unit) :
    (connection.forget number).settle call result =
      (connection.settle call result).forget number := by
  have closes : ({ connection.forget number with state := .closed } : Connection) =
      ({ connection with state := .closed }).forget number := rfl
  cases result with
  | ok _ =>
      simp only [settle, closes, forget_say]
      exact forget_setTask _ call (Task.ended (.ok ()))
  | error error =>
      simp only [settle, closes, forget_say]
      exact forget_setTask _ call (Task.ended (.error error))

theorem endOpening_forget (call : Nat) (address : Address) (config : LineConfig)
    (result : Except Error Handle) :
    (connection.forget number).endOpening call address config result =
      (connection.endOpening call address config result).forget number := by
  cases result with
  | error error => exact forget_setTask _ call (.retreating address error)
  | ok handle =>
      exact forget_setTask { connection with
        sessions := connection.sessions ++ [newSession handle] }
        call (.clearing address config connection.sessions.length)

theorem afterTicket_forget (line : Option LineConfig) (result : Except Error Unit) :
    (afterTicket line result).forget number = afterTicket line result := by
  cases result <;> cases line <;> rfl

theorem writeEnding?_forget {state : WriteState} {task : Task}
    (ended : writeEnding? state = some task) : task.forget number = task := by
  rcases writeEnding?_eq_some ended with ⟨result, rfl⟩
  rfl

/-- A caller goes on as if a read were forgotten, unless it waits for that read. -/
theorem advanceCall?_forget {call : Nat}
    (busy : (connection.tasks[call]?.bind Task.stopped?) ≠ some number) :
    (connection.forget number).advanceCall? call =
      (connection.advanceCall? call).map (·.forget number) := by
  have sessions : (connection.forget number).sessions = connection.sessions := rfl
  have writes : (connection.forget number).writes = connection.writes := rfl
  cases stands : connection.tasks[call]? with
  | none => simp [advanceCall?, forget_task, stands]
  | some task =>
      have kept : task.forget number = task := by
        refine Task.forget_eq_self ?_
        simpa [stands] using busy
      cases task <;> simp only [advanceCall?, forget_task, stands, Option.map_some, kept,
        Option.bind_eq_bind, Option.bind_some, Option.pure_def, sessions, writes]
      case listing run =>
        refine advanceRun_forget call run (some connection) (fun _ => rfl) ?_
        rintro (error | ports)
        · exact forget_setTask connection call (Task.failed error)
        · exact forget_setTask connection call (Task.succeeded (.ports ports))
      case opening address config run =>
        exact advanceRun_forget call run (some connection) (fun _ => rfl)
          (endOpening_forget call address config)
      case clearing address config session =>
        exact congrArg some
          (forget_setTask { connection with backlog := [] } call
            (.installing address config session))
      case installing address config session =>
        refine congrArg some (Eq.trans ?_ (forget_setTask _ call (Task.succeeded .done)))
        rfl
      case retreating address error =>
        refine congrArg some (Eq.trans ?_ (forget_setTask _ call (Task.failed error)))
        rfl
      case awaitingRead place target =>
        cases found : connection.reads[place]? with
        | none => simp [forget_read_eq_none found]
        | some read =>
            rcases @forget_read number connection place read found with ⟨told, there, -⟩
            have same : ({ read with cancelled := told } : Read).ending? = read.ending? := rfl
            simp only [there, Option.bind_some, same]
            cases read.ending? with
            | none => rfl
            | some ending => exact congrArg some (resolve_forget call place target ending)
      case puttingBack data buffer offset =>
        exact congrArg some (forget_setTask (connection.putBack data) call (Task.failed _))
      case awaitingWrite write =>
        cases connection.writes[write]? with
        | none => rfl
        | some there =>
            simp only [Option.bind_some]
            cases ended : writeEnding? there.state with
            | none => rfl
            | some next =>
                have moved := @forget_setTask number connection call next
                rw [writeEnding?_forget ended] at moved
                exact congrArg some moved
      case configuring session line run =>
        rw [takeLane?_forget]
        exact advanceRun_forget call run _ (fun _ => rfl) fun result =>
          forget_setTask connection call (.returningClone session line result)
      case returningClone session line result =>
        exact congrArg some
          (forget_setTask (connection.dropClone session) call
            (.returningTicket session line result))
      case returningTicket session line result =>
        have moved := @forget_setTask number (connection.changeSession session fun session =>
          { session with tickets := session.tickets - 1 }) call (afterTicket line result)
        rw [afterTicket_forget] at moved
        exact congrArg some moved
      case recording line =>
        rw [forget_recordLine]
        exact congrArg some (forget_setTask (connection.recordLine line) call
          (Task.succeeded .done))
      case cancelling place =>
        have settings : (connection.forget number).settings = connection.settings := rfl
        simp only [forget_cancel, settings]
        cases connection.settings.effectiveDeadline? with
        | none =>
            exact congrArg some (forget_setTask (connection.cancel place) call
              (.finished .overflowed))
        | some deadline =>
            have moved := @forget_setTask number (connection.cancel place) call
              (.awaitingReader place deadline)
            rw [Task.forget_eq_self (by simpa [stands, Task.stopped?] using busy)] at moved
            exact congrArg some moved
      case awaitingReader place deadline =>
        cases found : connection.reads[place]? with
        | none => simp [forget_read_eq_none found]
        | some read =>
            rcases @forget_read number connection place read found with ⟨told, there, -⟩
            have same : ({ read with cancelled := told } : Read).isFinished = read.isFinished := rfl
            simp only [there, Option.bind_some, same]
            cases read.isFinished with
            | false => rfl
            | true => exact congrArg some (forget_setTask connection call .takingLink)
      case reverting deadline =>
        refine congrArg some (Eq.trans ?_
          (forget_setTask _ call (Task.failed (.cancelTimeout deadline))))
        rfl
      case takingLink => exact congrArg some (takeLink_forget call)
      case draining session =>
        cases connection.sessions[session]? with
        | none => rfl
        | some there =>
            simp only [Option.bind_some]
            split
            · exact congrArg some (forget_setTask connection call (.idling session))
            · rfl
      case idling session =>
        cases connection.sessions[session]? with
        | none => rfl
        | some there =>
            simp only [Option.bind_some]
            split
            · exact congrArg some (forget_setTask connection call (.regaining session))
            · rfl
      case regaining session =>
        cases connection.sessions[session]? with
        | none => rfl
        | some there => exact congrArg some (regain_forget call session there)
      case releasing run =>
        exact advanceRun_forget call run (some connection) (fun _ => rfl) fun result =>
          forget_setTask connection call (.settling result)
      case settling result => exact congrArg some (settle_forget call result)
      case finished ending => rfl

theorem runPending?_forget {Result : Type} (run : Running Result)
    {resume resumeHere : Running Result → Connection}
    (resumes : ∀ next, resumeHere next = (resume next).forget number) :
    runPending? run resumeHere = (runPending? run resume).map (·.map (·.forget number)) := by
  rcases run with ⟨procedure, begun⟩
  cases begun with
  | false => rfl
  | true => cases procedure <;> simp [runPending?, Pending.map, resumes]

theorem callPending?_forget (call : Nat) :
    (connection.forget number).callPending? call =
      (connection.callPending? call).map (·.map (·.forget number)) := by
  cases stands : connection.tasks[call]? with
  | none => simp [callPending?, forget_task, stands]
  | some task =>
      by_cases busy : task.stopped? = some number
      · have forgotten := Task.forget_of_stopped? busy
        cases task <;> simp only [callPending?, forget_task, stands, Option.map_some, forgotten,
          Option.bind_eq_bind, Option.bind_some, Option.map_none]
        all_goals cases busy
      · have kept := Task.forget_eq_self busy
        cases task <;> simp only [callPending?, forget_task, stands, Option.map_some, kept,
          Option.bind_eq_bind, Option.bind_some, Option.map_none]
        case listing run =>
          exact runPending?_forget run fun next => forget_setTask connection call (.listing next)
        case opening address config run =>
          exact runPending?_forget run fun next =>
            forget_setTask connection call (.opening address config next)
        case configuring session line run =>
          exact runPending?_forget run fun next =>
            forget_setTask (connection.setLane session none) call (.configuring session line next)
        case releasing run =>
          exact runPending?_forget run fun next => forget_setTask connection call (.releasing next)

theorem expire?_forget (ended : connection.HasEnded number) (call : Nat) :
    (connection.forget number).expire? call = (connection.expire? call).map (·.forget number) := by
  cases stands : connection.tasks[call]? with
  | none => simp [expire?, forget_task, stands]
  | some task =>
      by_cases busy : task.stopped? = some number
      · -- The read has ended, so its deadline cannot pass any more.
        rcases ended with ⟨read, found, finished⟩
        have forgotten := Task.forget_of_stopped? busy
        cases task <;> simp only [expire?, forget_task, stands, Option.map_some, forgotten,
          Option.bind_eq_bind, Option.bind_some, Option.map_none]
        case awaitingReader place deadline =>
          cases busy
          simp [found, finished]
      · have kept := Task.forget_eq_self busy
        cases task <;> simp only [expire?, forget_task, stands, Option.map_some, kept,
          Option.bind_eq_bind, Option.bind_some, Option.map_none]
        case awaitingReader place deadline =>
          cases found : connection.reads[place]? with
          | none => simp [forget_read_eq_none found]
          | some read =>
              rcases @forget_read number connection place read found with ⟨told, there, -⟩
              have same : ({ read with cancelled := told } : Read).isFinished =
                  read.isFinished := rfl
              simp only [there, Option.bind_some, same]
              cases read.isFinished with
              | true => rfl
              | false => exact congrArg some (forget_setTask _ call (.reverting deadline))

/-! ### Workers -/

theorem forget_isLastClone (session : Nat) :
    (connection.forget number).isLastClone session = connection.isLastClone session := rfl

theorem advanceReader?_forget (ended : connection.HasEnded number) (place : Nat) :
    (connection.forget number).advanceReader? place =
      (connection.advanceReader? place).map (·.forget number) := by
  cases found : connection.reads[place]? with
  | none => simp [advanceReader?, found, forget_read_eq_none found]
  | some read =>
      rcases @forget_read number connection place read found with ⟨told, there, same⟩
      by_cases here : place = number
      · subst here
        rcases ended with ⟨old, foundOld, finished⟩
        cases found.symm.trans foundOld
        rcases Read.isFinished_eq_true.mp finished with ⟨ending, stands⟩
        simp [advanceReader?, found, there, stands]
      · rw [same here] at there
        simp only [advanceReader?, there, found, Option.bind_eq_bind, Option.bind_some,
          Option.pure_def]
        cases read.stage with
        | checking =>
            dsimp only
            split
            · exact congrArg some (forget_setReader connection place _)
            · exact congrArg some (forget_setReader connection place _)
        | polling => rfl
        | received data =>
            simp only [divide]
            split
            · exact congrArg some
                (forget_setReader { connection with backlog := connection.backlog ++ data } place _)
            · exact congrArg some (forget_setReader
                { connection with backlog := connection.backlog ++ data.drop read.length } place _)
        | leaving ending =>
            simp only [forget_isLastClone, forget_dropClone]
            exact congrArg some (forget_setReader _ place _)
        | closing ending => rfl
        | reporting ending => exact congrArg some (forget_setReader connection place _)
        | ended ending => rfl

theorem readerPending?_forget (place : Nat) :
    (connection.forget number).readerPending? place =
      (connection.readerPending? place).map (·.map (·.forget number)) := by
  have sessions : (connection.forget number).sessions = connection.sessions := rfl
  have settings : (connection.forget number).settings = connection.settings := rfl
  cases found : connection.reads[place]? with
  | none => simp [readerPending?, found, forget_read_eq_none found]
  | some read =>
      rcases @forget_read number connection place read found with ⟨told, there, -⟩
      cases held : connection.sessions[read.session]? with
      | none => simp [readerPending?, found, there, sessions, held]
      | some session =>
          cases standing : read.stage <;>
            simp [readerPending?, found, there, sessions, settings, held, standing, Pending.map]

theorem advanceWriter?_forget (session : Nat) :
    (connection.forget number).advanceWriter? session =
      (connection.advanceWriter? session).map (·.forget number) := by
  have sessions : (connection.forget number).sessions = connection.sessions := rfl
  simp only [advanceWriter?, sessions]
  cases connection.sessions[session]? with
  | none => rfl
  | some there =>
      simp only [Option.bind_eq_bind, Option.bind_some, Option.pure_def]
      cases there.writer with
      | waiting =>
          cases there.queue with
          | nil => cases there.hungUp <;> rfl
          | cons write rest => rfl
      | unwinding =>
          simp only [forget_loseAll]
          rfl
      | leaving => rfl
      | _ => rfl

theorem writerPending?_forget (session : Nat) :
    (connection.forget number).writerPending? session =
      (connection.writerPending? session).map (·.map (·.forget number)) := by
  have sessions : (connection.forget number).sessions = connection.sessions := rfl
  simp only [writerPending?, sessions]
  cases connection.sessions[session]? with
  | none => rfl
  | some there =>
      simp only [Option.bind_eq_bind, Option.bind_some, Option.pure_def]
      cases there.writer with
      | writing write =>
          have goes (reply : BulkOut) : (connection.forget number).afterWrite session write reply =
              (connection.afterWrite session write reply).forget number := by
            cases reply <;> rfl
          simp only [Option.map_some, Pending.map, goes]
          rfl
      | _ => rfl

/-! ### Steps -/

theorem permits_forget (call : Call) :
    (connection.forget number).permits call = connection.permits call := by
  have same (place : Nat) : (connection.forget number).reads[place]?.any (·.custody == .kept) =
      connection.reads[place]?.any (·.custody == .kept) := by
    cases found : connection.reads[place]? with
    | none => rw [forget_read_eq_none found]
    | some read =>
        rcases @forget_read number connection place read found with ⟨told, there, -⟩
        rw [there]
        rfl
  cases call with
  | wait place => exact same place
  | waitInto place buffer offset => exact same place
  | _ => rfl

theorem pending?_forget (thread : Thread) :
    (connection.forget number).pending? thread =
      (connection.pending? thread).map (·.map (·.forget number)) := by
  cases thread with
  | call place => exact callPending?_forget place
  | reader place => exact readerPending?_forget place
  | writer place => exact writerPending?_forget place

theorem exchange?_forget (action : Action) :
    (connection.forget number).exchange? action = connection.exchange? action := by
  cases action with
  | answer thread replies =>
      simp only [exchange?, pending?_forget, Option.map_map]
      rfl
  | _ => rfl

/-- A step is the same step if a read that has ended is forgotten, unless a caller idles. -/
theorem step?_forget (ended : connection.HasEnded number) {action : Action}
    (busy : connection.idles number action = false) :
    (connection.forget number).step? action = (connection.step? action).map (·.forget number) := by
  cases action with
  | invoke call started =>
      simp only [step?, permits_forget, invoke_forget ended]
      split <;> rfl
  | startRead length started =>
      simp only [step?, startRead_forget ended]
      rfl
  | startWrite data =>
      simp only [step?, startWrite_forget]
      rfl
  | cancel place =>
      simp only [step?, forget_cancel]
      rfl
  | advance thread =>
      cases thread with
      | call place => exact advanceCall?_forget (by simpa [idles] using busy)
      | reader place => exact advanceReader?_forget ended place
      | writer place => exact advanceWriter?_forget place
  | answer thread replies =>
      simp only [step?, pending?_forget, Option.map_map]
      rfl
  | expire call => exact expire?_forget ended call

end Forget

/-! ### Callers that idle -/

section Idle

variable {number : Nat} {connection next : Connection} {action : Action} {deadline : Duration}

theorem HasEnded.of_step (ended : connection.HasEnded number)
    (stepped : connection.step? action = some next) : next.HasEnded number := by
  rcases ended with ⟨read, found, finished⟩
  rcases (Move.of_step? stepped).readFate found with ⟨later, there, fate⟩
  rcases Read.isFinished_eq_true.mp finished with ⟨ending, stopped⟩
  exact ⟨later, there, Read.isFinished_eq_true.mpr ⟨ending, fate.ended stopped⟩⟩

theorem exists_of_idles (idles : connection.idles number action = true) :
    ∃ call task, action = .advance (.call call) ∧ connection.tasks[call]? = some task ∧
      task.stopped? = some number := by
  cases action with
  | advance thread =>
      cases thread with
      | call call =>
          simp only [Connection.idles, beq_iff_eq, Option.bind_eq_some_iff] at idles
          rcases idles with ⟨task, stands, stops⟩
          exact ⟨call, task, rfl, stands, stops⟩
      | _ => cases idles
  | _ => cases idles

theorem forget_setTask_of_stopped? {call : Nat} {task later : Task}
    (stands : connection.tasks[call]? = some task) (stops : task.stopped? = some number)
    (same : later.forget number = .takingLink) :
    (connection.setTask call later).forget number = connection.forget number := by
  have stood : (connection.forget number).tasks[call]? = some .takingLink := by
    rw [forget_task, stands, Option.map_some, Task.forget_of_stopped? stops]
  rw [← forget_setTask, same, setTask]
  rcases List.getElem?_eq_some_iff.mp stood with ⟨inside, here⟩
  rw [← here, List.set_getElem_self]

theorem forget_cancel_self :
    (connection.cancel number).forget number = connection.forget number := by
  have twice : (Read.told ∘ fun read : Read => { read with cancelled := true }) = Read.told := rfl
  simp only [cancel, changeRead, forget, List.modify_modify_eq, twice]

theorem step?_of_cancelling {call : Nat}
    (known : connection.settings.effectiveDeadline? = some deadline)
    (stands : connection.tasks[call]? = some (.cancelling number)) :
    connection.step? (.advance (.call call)) =
      some ((connection.cancel number).setTask call (.awaitingReader number deadline)) := by
  simp [step?, advance?, advanceCall?, stands, known]

theorem step?_of_awaitingReader {call : Nat} (ended : connection.HasEnded number)
    (stands : connection.tasks[call]? = some (.awaitingReader number deadline)) :
    connection.step? (.advance (.call call)) = some (connection.setTask call .takingLink) := by
  rcases ended with ⟨read, found, finished⟩
  simp [step?, advance?, advanceCall?, stands, found, finished]

theorem forget_cancelled {call : Nat}
    (stands : connection.tasks[call]? = some (.cancelling number)) :
    ((connection.cancel number).setTask call (.awaitingReader number deadline)).forget number =
      connection.forget number := by
  have stood : (connection.cancel number).tasks[call]? = some (.cancelling number) := stands
  have same : (Task.awaitingReader number deadline).forget number = .takingLink := if_pos rfl
  rw [forget_setTask_of_stopped? stood rfl same, forget_cancel_self]

/-- A read has ended, and a caller that closes the port knows how long to wait for it. -/
structure Closable (number : Nat) (deadline : Duration) (connection : Connection) : Prop where
  ended : connection.HasEnded number
  known : connection.settings.effectiveDeadline? = some deadline

theorem Closable.of_step (closable : connection.Closable number deadline)
    (stepped : connection.step? action = some next) : next.Closable number deadline := by
  rcases (Move.of_step? stepped).keeps with ⟨more, keeps⟩
  exact ⟨closable.ended.of_step stepped, keeps.settings ▸ closable.known⟩

/-- Nothing happens when a caller idles. -/
theorem forget_of_idle (closable : connection.Closable number deadline)
    (idles : connection.idles number action = true)
    (stepped : connection.step? action = some next) :
    next.forget number = connection.forget number := by
  rcases exists_of_idles idles with ⟨call, task, rfl, stands, stops⟩
  cases task with
  | cancelling place =>
      cases stops
      cases (step?_of_cancelling closable.known stands).symm.trans stepped
      exact forget_cancelled stands
  | awaitingReader place given =>
      cases stops
      cases (step?_of_awaitingReader closable.ended stands).symm.trans stepped
      exact forget_setTask_of_stopped? stands rfl rfl
  | _ => cases stops

end Idle

/-! ### Runs -/

/-- What others can do and see: all but the turns of callers. -/
def Action.isVisible : Action → Bool
  | .advance (.call _) => false
  | _ => true

/--
Two courses of actions, one of each of two connections, that differ only in turns of callers and
have the same requests and replies.
-/
structure Matches (first second : Connection) (actions others : List Action) : Prop where
  visible : others.filter Action.isVisible = actions.filter Action.isVisible
  exchanged : second.exchanges others = first.exchanges actions

section Runs

variable {number : Nat} {start second middle final reached further : Connection}
  {actions others turns : List Action} {action : Action} {deadline : Duration}

theorem Matches.symm (same : Matches start second actions others) :
    Matches second start others actions :=
  ⟨same.visible.symm, same.exchanged.symm⟩

theorem Matches.trans {third : Connection} {more : List Action}
    (same : Matches start second actions others) (again : Matches second third others more) :
    Matches start third actions more :=
  ⟨again.visible.trans same.visible, again.exchanged.trans same.exchanged⟩

/-- Both take the same step. -/
theorem Matches.step (same : Matches start second actions others)
    (ran : start.run? actions = some middle) (stepped : middle.step? action = some final)
    (ranToo : second.run? others = some reached) (steppedToo : reached.step? action = some further)
    (exchange : reached.exchange? action = middle.exchange? action) :
    Matches start second (actions ++ [action]) (others ++ [action]) where
  visible := by rw [List.filter_append, List.filter_append, same.visible]
  exchanged := by
    rw [exchanges_concat ran stepped, exchanges_concat ranToo steppedToo, same.exchanged, exchange]

/-- The first takes turns of callers that ask for nothing. -/
theorem Matches.of_turns (same : Matches start second actions others)
    (ran : start.run? actions = some middle) (hidden : turns.filter Action.isVisible = [])
    (silent : middle.exchanges turns = []) : Matches start second (actions ++ turns) others where
  visible := by rw [List.filter_append, hidden, List.append_nil, same.visible]
  exchanged := by
    have appended : start.exchanges (actions ++ turns) =
      start.exchanges actions ++ middle.exchanges turns := along_append ran turns
    rw [appended, silent, List.append_nil, same.exchanged]

theorem hidden_of_idles (idles : middle.idles number action = true) :
    [action].filter Action.isVisible = [] ∧ middle.exchanges [action] = [] := by
  rcases exists_of_idles idles with ⟨call, task, rfl, -, -⟩
  refine ⟨rfl, ?_⟩
  cases stepped : middle.step? (.advance (.call call)) <;>
    simp [exchanges, along, stepped, exchange?]

/-- A course of a connection is one of the connection that has forgotten, without the idle turns. -/
theorem forget_run (closable : start.Closable number deadline)
    (ran : start.run? actions = some final) :
    final.Closable number deadline ∧
      ∃ others, (start.forget number).run? others = some (final.forget number) ∧
        Matches start (start.forget number) actions others := by
  refine run_induction (motive := fun actions final => final.Closable number deadline ∧
    ∃ others, (start.forget number).run? others = some (final.forget number) ∧
      Matches start (start.forget number) actions others) ⟨closable, [], rfl, rfl, rfl⟩ ?_ ran
  rintro actions middle action final ranBefore ⟨closable, others, ranToo, same⟩ stepped
  refine ⟨closable.of_step stepped, ?_⟩
  cases idles : middle.idles number action with
  | true =>
      rcases hidden_of_idles idles with ⟨hidden, silent⟩
      refine ⟨others, ?_, same.of_turns ranBefore hidden silent⟩
      rw [ranToo, forget_of_idle closable idles stepped]
  | false =>
      have steppedToo : (middle.forget number).step? action = some (final.forget number) := by
        rw [step?_forget closable.ended idles, stepped, Option.map_some]
      exact ⟨others ++ [action], run?_concat_eq_some.mpr ⟨_, ranToo, steppedToo⟩,
        same.step ranBefore stepped ranToo steppedToo (exchange?_forget action)⟩

/-- Before an action the caller can take the turns in which it idles. -/
theorem exists_ready (closable : middle.Closable number deadline) (action : Action) :
    ∃ turns ready, middle.run? turns = some ready ∧ ready.Closable number deadline ∧
      ready.forget number = middle.forget number ∧ ready.idles number action = false ∧
      turns.filter Action.isVisible = [] ∧ middle.exchanges turns = [] := by
  cases idles : middle.idles number action with
  | false => exact ⟨[], middle, rfl, closable, rfl, idles, rfl, rfl⟩
  | true =>
      rcases exists_of_idles idles with ⟨call, task, rfl, stands, stops⟩
      have last {before : Connection} {given : Duration}
          (closable : before.Closable number deadline)
          (stands : before.tasks[call]? = some (.awaitingReader number given)) :
          ∃ ready, before.step? (.advance (.call call)) = some ready ∧
            ready.Closable number deadline ∧ ready.forget number = before.forget number ∧
            ready.idles number (.advance (.call call)) = false := by
        have stepped := step?_of_awaitingReader closable.ended stands
        refine ⟨_, stepped, closable.of_step stepped, forget_setTask_of_stopped? stands rfl rfl, ?_⟩
        simp [Connection.idles, setTask_getElem?_self stands, Task.stopped?]
      cases task with
      | awaitingReader place given =>
          cases stops
          rcases last closable stands with ⟨ready, stepped, still, same, unready⟩
          refine ⟨[.advance (.call call)], ready, ?_, still, same, unready, rfl, ?_⟩
          · simp [run?, stepped]
          · simp [exchanges, along, stepped, exchange?]
      | cancelling place =>
          cases stops
          have stepped := step?_of_cancelling closable.known stands
          have stood : (middle.cancel number).tasks[call]? = some (.cancelling number) := stands
          rcases last (closable.of_step stepped) (setTask_getElem?_self stood _) with
            ⟨ready, steppedOn, still, same, unready⟩
          refine ⟨[.advance (.call call), .advance (.call call)], ready, ?_, still,
            same.trans (forget_cancelled stands), unready, rfl, ?_⟩
          · simp [run?, stepped, steppedOn]
          · simp [exchanges, along, stepped, steppedOn, exchange?]
      | _ => cases stops

/--
A course of the connection that has forgotten is one of the connection, with idle turns added.
-/
theorem run_of_forget (closable : start.Closable number deadline)
    (ran : (start.forget number).run? actions = some final) :
    ∃ others reached, start.run? others = some reached ∧ reached.Closable number deadline ∧
      reached.forget number = final ∧ Matches (start.forget number) start actions others := by
  refine run_induction (motive := fun actions final => ∃ others reached,
    start.run? others = some reached ∧ reached.Closable number deadline ∧
      reached.forget number = final ∧ Matches (start.forget number) start actions others)
    ⟨[], start, rfl, closable, rfl, rfl, rfl⟩ ?_ ran
  rintro actions _ action final ranBefore ⟨others, middle, ranToo, closable, rfl, same⟩ stepped
  rcases exists_ready closable action with
    ⟨turns, ready, turned, still, forgotten, unready, hidden, silent⟩
  rw [← forgotten, step?_forget still.ended unready, Option.map_eq_some_iff] at stepped
  rcases stepped with ⟨reached, steppedToo, rfl⟩
  have ranOn : start.run? (others ++ turns) = some ready := by
    rw [run?_append, ranToo]
    exact turned
  have caughtUp : Matches (start.forget number) start actions (others ++ turns) :=
    (same.symm.of_turns ranToo hidden silent).symm
  have steppedThere : (middle.forget number).step? action = some (reached.forget number) := by
    rw [← forgotten, step?_forget still.ended unready, steppedToo, Option.map_some]
  refine ⟨others ++ turns ++ [action], reached, run?_concat_eq_some.mpr ⟨ready, ranOn, steppedToo⟩,
    still.of_step steppedToo, rfl, caughtUp.step ranBefore steppedThere ranOn steppedToo ?_⟩
  rw [← forgotten, exchange?_forget]

end Runs

/-! ### What is shown -/

/--
Two connections show the same: the port, the backlog, the sessions with their devices, how calls,
reads and writes have ended, which calls can be made, what the bus is being asked for, and what
starting a read or a write would give.
-/
structure Alike (first second : Connection) : Prop where
  state : second.state = first.state
  address : second.address? = first.address?
  line : second.lineConfig? = first.lineConfig?
  backlog : second.backlog = first.backlog
  sessions : second.sessions = first.sessions
  calls : ∀ call, second.callEnding? call = first.callEnding? call
  reads : ∀ number : Nat,
      second.reads[number]?.map Read.ending? = first.reads[number]?.map Read.ending?
  writes : second.writes = first.writes
  journal : second.journal = first.journal
  permits : ∀ call, second.permits call = first.permits call
  asked : ∀ thread,
      (second.pending? thread).map (·.request) = (first.pending? thread).map (·.request)
  startRead : ∀ length started,
    (second.startRead length started).2 = (first.startRead length started).2
  startWrite : ∀ data, (second.startWrite data).2 = (first.startWrite data).2

/--
One connection can do all that another one can, with the same requests and replies: for every course
of the one there is a course of the other that differs only in turns of callers, and then they show
the same.
-/
def Follows (first second : Connection) : Prop :=
  ∀ actions final, first.run? actions = some final → ∃ others reached,
    second.run? others = some reached ∧ Matches first second actions others ∧ Alike final reached

/-- Nobody can tell two connections apart, whatever is done with them. -/
def Indistinct (first second : Connection) : Prop := Follows first second ∧ Follows second first

section Alike

variable {first second : Connection} {number : Nat} {deadline : Duration}

theorem Alike.refl (connection : Connection) : Alike connection connection :=
  ⟨rfl, rfl, rfl, rfl, rfl, fun _ => rfl, fun _ => rfl, rfl, rfl, fun _ => rfl, fun _ => rfl,
    fun _ _ => rfl, fun _ => rfl⟩

theorem Alike.symm (alike : Alike first second) : Alike second first where
  state := alike.state.symm
  address := alike.address.symm
  line := alike.line.symm
  backlog := alike.backlog.symm
  sessions := alike.sessions.symm
  calls call := (alike.calls call).symm
  reads number := (alike.reads number).symm
  writes := alike.writes.symm
  journal := alike.journal.symm
  permits call := (alike.permits call).symm
  asked thread := (alike.asked thread).symm
  startRead length started := (alike.startRead length started).symm
  startWrite data := (alike.startWrite data).symm

theorem Alike.trans {third : Connection} (alike : Alike first second) (again : Alike second third) :
    Alike first third where
  state := again.state.trans alike.state
  address := again.address.trans alike.address
  line := again.line.trans alike.line
  backlog := again.backlog.trans alike.backlog
  sessions := again.sessions.trans alike.sessions
  calls call := (again.calls call).trans (alike.calls call)
  reads number := (again.reads number).trans (alike.reads number)
  writes := again.writes.trans alike.writes
  journal := again.journal.trans alike.journal
  permits call := (again.permits call).trans (alike.permits call)
  asked thread := (again.asked thread).trans (alike.asked thread)
  startRead length started :=
    (again.startRead length started).trans (alike.startRead length started)
  startWrite data := (again.startWrite data).trans (alike.startWrite data)

/-- That a read which has ended is forgotten does not show. -/
theorem alike_forget {connection : Connection} (ended : connection.HasEnded number) :
    Alike connection (connection.forget number) where
  state := rfl
  address := by
    simp only [address?, forget, Option.map_map]
    rfl
  line := by
    simp only [lineConfig?, forget, Option.map_map]
    rfl
  backlog := rfl
  sessions := rfl
  calls := by
    intro call
    simp only [callEnding?, forget_task]
    cases connection.tasks[call]? with
    | none => rfl
    | some task =>
        by_cases busy : task.stopped? = some number
        · rw [Option.map_some, Task.forget_of_stopped? busy]
          cases task <;> first | rfl | cases busy
        · rw [Option.map_some, Task.forget_eq_self busy]
  reads := by
    intro place
    cases found : connection.reads[place]? with
    | none => rw [forget_read_eq_none found]
    | some read =>
        rcases @forget_read number connection place read found with ⟨told, there, -⟩
        rw [there]
        rfl
  writes := rfl
  journal := rfl
  permits := permits_forget
  asked := by
    intro thread
    rw [pending?_forget, Option.map_map]
    rfl
  startRead := by
    intro length started
    rw [startRead_forget ended]
  startWrite := by
    intro data
    rw [startWrite_forget]

/-- A course of a connection is followed by every other one that forgets to the same. -/
theorem follows_of_forget (closable : first.Closable number deadline)
    (closableToo : second.Closable number deadline)
    (same : first.forget number = second.forget number) : Follows first second := by
  intro actions final ran
  rcases forget_run closable ran with ⟨still, fewer, ranFewer, matchesFewer⟩
  rw [same] at ranFewer matchesFewer
  rcases run_of_forget closableToo ranFewer with
    ⟨others, reached, ranToo, stillToo, forgotten, matchesMore⟩
  refine ⟨others, reached, ranToo, matchesFewer.trans matchesMore, ?_⟩
  have back := alike_forget stillToo.ended
  rw [forgotten] at back
  exact (alike_forget still.ended).trans back.symm

theorem indistinct_of_forget (closable : first.Closable number deadline)
    (closableToo : second.Closable number deadline)
    (same : first.forget number = second.forget number) : Indistinct first second :=
  ⟨follows_of_forget closable closableToo same, follows_of_forget closableToo closable same.symm⟩

theorem Indistinct.refl (connection : Connection) : Indistinct connection connection := by
  have same : Follows connection connection := by
    intro actions final ran
    exact ⟨actions, final, ran, ⟨rfl, rfl⟩, .refl final⟩
  exact ⟨same, same⟩

end Alike

end Connection

end CdcSerial
