import CdcSerial.Proofs.Connection.Course

/-!
# What one step can do

The step function of a connection is opened here once and for all. Each kind of thread has a
relation with one constructor for each thing that it can do, guards included, and `Move` puts them
together: a step of `Connection.step?` is a `Move`. Invariants are then proved by going through
the constructors.

A turn of a caller changes what is shared and the point of that caller. The two parts are kept
apart: in `Turn before call task after next` the state `after` still has the caller at the old
point, and the state after the turn is `after.setTask call next`.
-/

namespace CdcSerial

namespace Connection

/--
A caller with a procedure writes its next message or begins its next request. `begun?` is the
state with the request begun, if it may begin.
-/
inductive Progress {Result : Type} (before : Connection) (begun? : Option Connection) :
    Running Result → Connection → Running Result → Prop where
  | tells {message next begun} :
      Progress before begun? ⟨.say message next, begun⟩ (before.say message.level message.text)
        ⟨next, false⟩
  | begins {request next after} (free : begun? = some after) :
      Progress before begun? ⟨.call request next, false⟩ after ⟨.call request next, true⟩

/-- What a caller at a given point does next without the bus. -/
inductive Turn (before : Connection) (call : Nat) : Task → Connection → Task → Prop where
  | lists {run after next} (progress : Progress before (some before) run after next) :
      Turn before call (.listing run) after (.listing next)
  | listed {ports begun} :
      Turn before call (.listing ⟨.done (.ok ports), begun⟩) before (Task.succeeded (.ports ports))
  | listingFailed {error begun} :
      Turn before call (.listing ⟨.done (.error error), begun⟩) before (Task.failed error)
  | opens {address config run after next}
      (progress : Progress before (some before) run after next) :
      Turn before call (.opening address config run) after (.opening address config next)
  | reached {address config handle begun} :
      Turn before call (.opening address config ⟨.done (.ok handle), begun⟩)
        { before with sessions := before.sessions ++ [newSession handle] }
        (.clearing address config before.sessions.length)
  | notReached {address config error begun} :
      Turn before call (.opening address config ⟨.done (.error error), begun⟩) before
        (.retreating address error)
  | clears {address config session} :
      Turn before call (.clearing address config session) { before with backlog := [] }
        (.installing address config session)
  | installs {address config session} :
      Turn before call (.installing address config session)
        (({ before with link := some ⟨session, none, address, config⟩, state := .opened }).say .info
          ("Opened " ++ address.text ++ " at " ++ config.text))
        (Task.succeeded .done)
  | retreats {address error} :
      Turn before call (.retreating address error)
        (({ before with state := .closed }).say .warn
          ("Failed to open " ++ address.text ++ ": " ++ error.message))
        (Task.failed error)
  | fetchesError {number target read phase error} (found : before.reads[number]? = some read)
      (ended : read.stage = .ended ⟨phase, .error error⟩) :
      Turn before call (.awaitingRead number target) (before.setCustody number .resolved)
        (Task.failed error)
  | fetchesBytes {number read phase data} (found : before.reads[number]? = some read)
      (ended : read.stage = .ended ⟨phase, .ok data⟩) :
      Turn before call (.awaitingRead number .bytes) (before.setCustody number .resolved)
        (Task.succeeded (.bytes data))
  | stores {number read phase data buffer offset stored} (found : before.reads[number]? = some read)
      (ended : read.stage = .ended ⟨phase, .ok data⟩)
      (fits : store? buffer offset data = some stored) :
      Turn before call (.awaitingRead number (.into buffer offset))
        (before.setCustody number .resolved)
        (Task.succeeded (.stored data.length stored))
  | spills {number read phase data buffer offset} (found : before.reads[number]? = some read)
      (ended : read.stage = .ended ⟨phase, .ok data⟩)
      (short : store? buffer offset data = none) :
      Turn before call (.awaitingRead number (.into buffer offset))
        (before.setCustody number .resolved)
        (.puttingBack data buffer offset)
  | putsBack {data buffer offset} :
      Turn before call (.puttingBack data buffer offset) (before.putBack data)
        (Task.failed (.invalidRange offset data.length buffer.length))
  | fetchesWrite {number write next} (found : before.writes[number]? = some write)
      (ended : writeEnding? write.state = some next) :
      Turn before call (.awaitingWrite number) before next
  | configures {session line run after next}
      (progress : Progress before (before.takeLane? session call) run after next) :
      Turn before call (.configuring session line run) after (.configuring session line next)
  | configured {session line result begun} :
      Turn before call (.configuring session line ⟨.done result, begun⟩) before
        (.returningClone session line result)
  | returnsClone {session line result} :
      Turn before call (.returningClone session line result) (before.dropClone session)
        (.returningTicket session line result)
  | returnsTicket {session line result} :
      Turn before call (.returningTicket session line result)
        (before.changeSession session fun session =>
          { session with tickets := session.tickets - 1 })
        (afterTicket line result)
  | records {line} :
      Turn before call (.recording line) (before.recordLine line) (Task.succeeded .done)
  | cancels {read deadline} (known : before.settings.effectiveDeadline? = some deadline) :
      Turn before call (.cancelling read) (before.cancel read) (.awaitingReader read deadline)
  | overflows {read} (unknown : before.settings.effectiveDeadline? = none) :
      Turn before call (.cancelling read) (before.cancel read) (.finished .overflowed)
  | readerStopped {number deadline read} (found : before.reads[number]? = some read)
      (stopped : read.isFinished = true) :
      Turn before call (.awaitingReader number deadline) before .takingLink
  | reverts {deadline} :
      Turn before call (.reverting deadline)
        (({ before with state := .opened }).say .warn
          ("Read worker still running after " ++ deadline.text))
        (Task.failed (.cancelTimeout deadline))
  | takesLink {link} (held : before.link = some link) :
      Turn before call .takingLink
        (({ before with link := none }).changeSession link.session ({ · with hungUp := true }))
        (.draining link.session)
  | findsNoLink (bare : before.link = none) :
      Turn before call .takingLink before (.settling (.ok ()))
  | drained {number session} (found : before.sessions[number]? = some session)
      (ended : session.writer = .ended) :
      Turn before call (.draining number) before (.idling number)
  | idled {number session} (found : before.sessions[number]? = some session)
      (idle : session.tickets = 0) :
      Turn before call (.idling number) before (.regaining number)
  | regains {number session} (found : before.sessions[number]? = some session)
      (sole : session.clones = 1) :
      Turn before call (.regaining number) (before.dropClone number)
        (.releasing ⟨leave before.settings session.handle, false⟩)
  | findsOwners {number session} (found : before.sessions[number]? = some session)
      (shared : session.clones ≠ 1) :
      Turn before call (.regaining number) (before.dropClone number)
        (.settling (.error (.releaseFailed .busy)))
  | releases {run after next} (progress : Progress before (some before) run after next) :
      Turn before call (.releasing run) after (.releasing next)
  | released {result begun} :
      Turn before call (.releasing ⟨.done result, begun⟩) before (.settling result)
  | closes :
      Turn before call (.settling (.ok ())) (({ before with state := .closed }).say .info "Closed")
        (Task.succeeded .done)
  | closesWithError {error} :
      Turn before call (.settling (.error error))
        (({ before with state := .closed }).say .warn ("Closed with error: " ++ error.message))
        (Task.failed error)

/-- The bus answers the request of a caller at a given point. -/
inductive CallAnswer (before : Connection) (call : Nat) :
    Task → (request : Request) → request.Reply → Connection → Task → Prop where
  | listing {request next reply} :
      CallAnswer before call (.listing ⟨.call request next, true⟩) request reply before
        (.listing ⟨next reply, false⟩)
  | opening {address config request next reply} :
      CallAnswer before call (.opening address config ⟨.call request next, true⟩) request
        reply before
        (.opening address config ⟨next reply, false⟩)
  | configuring {session line request next reply} :
      CallAnswer before call (.configuring session line ⟨.call request next, true⟩) request reply
        (before.setLane session none) (.configuring session line ⟨next reply, false⟩)
  | releasing {request next reply} :
      CallAnswer before call (.releasing ⟨.call request next, true⟩) request reply before
        (.releasing ⟨next reply, false⟩)

/-- What the worker of a read does next without the bus; the worker is still at its old point. -/
inductive ReaderTurn (before : Connection) (read : Read) : Connection → ReaderStage → Prop where
  | stops (checking : read.stage = .checking) (cancelled : read.cancelled = true) :
      ReaderTurn before read before (.leaving ⟨.cancelled, .ok []⟩)
  | polls (checking : read.stage = .checking) (wanted : read.cancelled = false) :
      ReaderTurn before read before .polling
  | keepsAll {data} (received : read.stage = .received data) (cancelled : read.cancelled = true) :
      ReaderTurn before read { before with backlog := before.backlog ++ data }
        (.leaving ⟨.cancelled, .ok []⟩)
  | divides {data} (received : read.stage = .received data) (wanted : read.cancelled = false) :
      ReaderTurn before read { before with backlog := before.backlog ++ data.drop read.length }
        (.leaving ⟨.completed, .ok (data.take read.length)⟩)
  | leaves {ending} (leaving : read.stage = .leaving ending)
      (others : before.isLastClone read.session = false) :
      ReaderTurn before read (before.dropClone read.session) (.reporting ending)
  | leavesLast {ending} (leaving : read.stage = .leaving ending)
      (last : before.isLastClone read.session = true) :
      ReaderTurn before read (before.dropClone read.session) (.closing ending)
  | reports {ending} (reporting : read.stage = .reporting ending) :
      ReaderTurn before read before (.ended ending)

/-- The bus answers the worker of a read. -/
inductive ReaderAnswer (before : Connection) (read : Read) (session : Session) :
    (request : Request) → request.Reply → ReaderStage → Prop where
  | polled {reply} (polling : read.stage = .polling) :
      ReaderAnswer before read session
        (.bulkIn session.handle before.settings.endpointIn Profile.packetSize
          before.settings.pollTimeout) reply (afterPoll reply)
  | closed {ending reply} (closing : read.stage = .closing ending) :
      ReaderAnswer before read session (.closeHandle session.handle) reply (.reporting ending)

/-- What the worker of a session's writes does next without the bus. -/
inductive WriterTurn (before : Connection) (number : Nat) (session : Session) :
    Connection → Prop where
  | picks {write rest} (waiting : session.writer = .waiting)
      (queued : session.queue = write :: rest) :
      WriterTurn before number session
        (before.changeSession number ({ · with queue := rest, writer := .writing write }))
  | stops (waiting : session.writer = .waiting) (empty : session.queue = [])
      (hungUp : session.hungUp = true) :
      WriterTurn before number session (before.setWriter number .leaving)
  | unwinds (unwinding : session.writer = .unwinding) :
      WriterTurn before number session
        ((before.loseAll session.queue).changeSession number
          ({ · with queue := [], writer := .leaving }))
  | leaves (leaving : session.writer = .leaving) (others : before.isLastClone number = false) :
      WriterTurn before number session ((before.dropClone number).setWriter number .ended)
  | leavesLast (leaving : session.writer = .leaving) (last : before.isLastClone number = true) :
      WriterTurn before number session ((before.dropClone number).setWriter number .closing)

/-- The bus answers the worker of a session's writes. -/
inductive WriterAnswer (before : Connection) (number : Nat) (session : Session) :
    (request : Request) → request.Reply → Connection → Prop where
  | wrote {write reply} (writing : session.writer = .writing write) :
      WriterAnswer before number session
        (.bulkOut session.handle before.settings.endpointOut
          ((before.writes[write]?.map (·.data)).getD []) before.settings.writeTimeout) reply
        (before.afterWrite number write reply)
  | closed {reply} (closing : session.writer = .closing) :
      WriterAnswer before number session (.closeHandle session.handle) reply
        (before.setWriter number .ended)

/-- What starting a read does. Messages are left open. -/
inductive ReadStart (before : Connection) (length : Nat) :
    Connection → Except Error Nat → Prop where
  | refused {error} (reason : before.admission length = .refused error) :
      ReadStart before length before (.error error)
  | served {link} (journal : List Message) (opened : before.openLink? = some link)
      (idle : before.isReading link = false) (ready : length = 0 ∨ before.backlog ≠ []) :
      ReadStart before length
        { before with
          link := some { link with reader := none }
          backlog := before.backlog.drop length
          reads := before.reads ++ [⟨link.session, length, false,
            .ended ⟨.completed, .ok (before.backlog.take length)⟩, .kept⟩]
          journal }
        (.ok before.reads.length)
  | notStarted {link} (cause : SystemError) (opened : before.openLink? = some link)
      (idle : before.isReading link = false) (wanted : length ≠ 0) (empty : before.backlog = []) :
      ReadStart before length { before with link := some { link with reader := none } }
        (.error (.system cause))
  | polls {link} (opened : before.openLink? = some link)
      (idle : before.isReading link = false) (wanted : length ≠ 0) (empty : before.backlog = []) :
      ReadStart before length
        { before with
          link := some { link with reader := some before.reads.length }
          sessions := before.sessions.modify link.session fun session =>
            { session with clones := session.clones + 1 }
          reads := before.reads ++ [⟨link.session, length, false, .checking, .kept⟩] }
        (.ok before.reads.length)

/-- What starting a write does. -/
inductive WriteStart (before : Connection) (data : List UInt8) :
    Connection → Except Error Nat → Prop where
  | notOpen (closed : before.openLink? = none) : WriteStart before data before (.error .notOpen)
  | workerLost {link} (opened : before.openLink? = some link)
      (dead : ∀ session, before.sessions[link.session]? = some session →
        session.writer.hasQueue = false) :
      WriteStart before data before (.error .workerLost)
  | queued {link session} (opened : before.openLink? = some link)
      (found : before.sessions[link.session]? = some session)
      (alive : session.writer.hasQueue = true) :
      WriteStart before data
        { before with
          sessions := before.sessions.modify link.session fun session =>
            { session with queue := session.queue ++ [before.writes.length] }
          writes := before.writes ++ [⟨link.session, data, .queued⟩] }
        (.ok before.writes.length)

end Connection

/-- That a call asks for a port to be opened at an address with a line configuration. -/
inductive Call.AsksFor : Call → Address → LineConfig → Prop where
  | port {address config} : AsksFor (.openPort address config) address config
  | text {path options address} (valid : options.validate = .ok ())
      (parsed : Address.parse path = .ok address) :
      AsksFor (.openWith path options) address options.lineConfig

/-- That a call configures the line by commands, and what is to be remembered if it succeeds. -/
inductive Call.Configures : Call → Option LineConfig → List LineCommand → Prop where
  | lines {options} : Configures (.set options) none options.plan
  | coding {config} : Configures (.setLineConfig config) (some config) [.coding config]

theorem Read.ending?_eq_some {read : Read} {ending : ReadEnding} :
    read.ending? = some ending ↔ read.stage = .ended ending := by
  unfold ending?
  cases read.stage <;> simp

namespace Connection

/-- Why a call ends at once with an error. -/
inductive Refusal (before : Connection) : Call → Error → Prop where
  | alreadyOpen {call address config} (asked : call.AsksFor address config)
      (busy : before.state ≠ .closed) : Refusal before call .alreadyOpen
  | badOptions {path options error} (invalid : options.validate = .error error) :
      Refusal before (.openWith path options) error
  | badPath {path options error} (valid : options.validate = .ok ())
      (unreadable : Address.parse path = .error error) :
      Refusal before (.openWith path options) error
  | outside {buffer offset length} (long : buffer.length < offset + length) :
      Refusal before (.read buffer offset length) (.invalidRange offset length buffer.length)
  | notWritten {data error} (start : WriteStart before data before (.error error)) :
      Refusal before (.write data) error
  | notConfigurable {call line commands} (asked : call.Configures line commands)
      (closed : ∀ link, before.openLink? = some link → before.sessions[link.session]? = none) :
      Refusal before call .notOpen
  | notOpen (closed : before.openLink? = none) : Refusal before .close .notOpen

/-- What a call does when it begins, and the point that its caller then has. -/
inductive Entry (before : Connection) : Call → Connection → Task → Prop where
  | refuses {call error} (reason : Refusal before call error) :
      Entry before call before (Task.failed error)
  | lists : Entry before .list before (.listing ⟨before.locator.list, false⟩)
  | opens {call address config} (asked : call.AsksFor address config)
      (closed : before.state = .closed) :
      Entry before call
        (({ before with state := .opening }).say .debug
          ("Opening " ++ address.text ++ " (" ++ config.text ++ ")"))
        (.opening address config
          ⟨establish before.locator before.settings address config, false⟩)
  | reads {buffer offset length after number} (fits : offset + length ≤ buffer.length)
      (start : ReadStart before length after (.ok number)) :
      Entry before (.read buffer offset length) (after.setCustody number .awaited)
        (.awaitingRead number (.into buffer offset))
  | readFails {buffer offset length after error} (fits : offset + length ≤ buffer.length)
      (start : ReadStart before length after (.error error)) :
      Entry before (.read buffer offset length) after (Task.failed error)
  | waits {number} :
      Entry before (.wait number) (before.setCustody number .awaited) (.awaitingRead number .bytes)
  | waitsInto {number buffer offset} :
      Entry before (.waitInto number buffer offset) (before.setCustody number .awaited)
        (.awaitingRead number (.into buffer offset))
  | writes {data after number} (start : WriteStart before data after (.ok number)) :
      Entry before (.write data) after (.awaitingWrite number)
  | configures {call line commands link session} (asked : call.Configures line commands)
      (opened : before.openLink? = some link)
      (found : before.sessions[link.session]? = some session) :
      Entry before call
        (before.changeSession link.session fun session =>
          { session with clones := session.clones + 1, tickets := session.tickets + 1 })
        (.configuring link.session line
          ⟨LineCommand.sendAll session.handle before.settings.controlTimeout commands, false⟩)
  | closesReading {link number} (opened : before.openLink? = some link)
      (recorded : link.reader = some number) :
      Entry before .close (({ before with state := .closing }).say .debug "Closing")
        (.cancelling number)
  | closesIdle {link} (opened : before.openLink? = some link) (idle : link.reader = none) :
      Entry before .close (({ before with state := .closing }).say .debug "Closing") .takingLink

/-- Give a new caller the next number. -/
def addTask (connection : Connection) (task : Task) : Connection :=
  { connection with tasks := connection.tasks ++ [task] }

/-- One step: the action, the exchange with the bus that it completes, and the state after it. -/
inductive Move (before : Connection) : Action → Option Exchange → Connection → Prop where
  | enters {call started after task} (permitted : before.permits call = true)
      (entry : Entry before call after task) :
      Move before (.invoke call started) none (after.addTask task)
  | startsRead {length started after result} (start : ReadStart before length after result) :
      Move before (.startRead length started) none after
  | startsWrite {data after result} (start : WriteStart before data after result) :
      Move before (.startWrite data) none after
  | cancels {read} : Move before (.cancel read) none (before.cancel read)
  | turns {call task after next} (stands : before.tasks[call]? = some task)
      (turn : Turn before call task after next) :
      Move before (.advance (.call call)) none (after.setTask call next)
  | answered {call task request replies after next} (stands : before.tasks[call]? = some task)
      (answer : CallAnswer before call task request (replies request) after next) :
      Move before (.answer (.call call) replies) (some (.call call, ⟨request, replies request⟩))
        (after.setTask call next)
  | readerTurns {number read after stage} (found : before.reads[number]? = some read)
      (turn : ReaderTurn before read after stage) :
      Move before (.advance (.reader number)) none (after.setReader number stage)
  | readerAnswered {number read session request replies stage}
      (found : before.reads[number]? = some read)
      (held : before.sessions[read.session]? = some session)
      (answer : ReaderAnswer before read session request (replies request) stage) :
      Move before (.answer (.reader number) replies)
        (some (.reader number, ⟨request, replies request⟩)) (before.setReader number stage)
  | writerTurns {number session after} (found : before.sessions[number]? = some session)
      (turn : WriterTurn before number session after) :
      Move before (.advance (.writer number)) none after
  | writerAnswered {number session request replies after}
      (found : before.sessions[number]? = some session)
      (answer : WriterAnswer before number session request (replies request) after) :
      Move before (.answer (.writer number) replies)
        (some (.writer number, ⟨request, replies request⟩)) after
  | expires {call number deadline read}
      (stands : before.tasks[call]? = some (.awaitingReader number deadline))
      (found : before.reads[number]? = some read) (unfinished : read.isFinished = false) :
      Move before (.expire call) none (before.setTask call (.reverting deadline))

/-! ### Every step is a move -/

theorem openLink?_eq_some {connection : Connection} {link : Link} :
    connection.openLink? = some link ↔
      connection.state = .opened ∧ connection.link = some link := by
  simp [openLink?]

theorem Progress.of_advanceRun {Result : Type} {before after : Connection} {call : Nat}
    {run : Running Result} {keep : Running Result → Task} {begun? : Option Connection}
    {finish : Result → Connection}
    (advanced : before.advanceRun call run keep begun? finish = some after) :
    (∃ result begun, run = ⟨.done result, begun⟩ ∧ after = finish result) ∨
      ∃ changed next, Progress before begun? run changed next ∧
        after = changed.setTask call (keep next) := by
  rcases run with ⟨procedure, begun⟩
  cases procedure with
  | done result =>
      simp only [advanceRun, Option.some.injEq] at advanced
      exact .inl ⟨result, begun, rfl, advanced.symm⟩
  | say message next =>
      simp only [advanceRun, Option.some.injEq] at advanced
      exact .inr ⟨_, _, .tells, advanced.symm⟩
  | call request next =>
      simp only [advanceRun] at advanced
      cases begun with
      | true => simp at advanced
      | false =>
          simp only [Bool.false_eq_true, if_false, Option.map_eq_some_iff] at advanced
          rcases advanced with ⟨changed, free, eq⟩
          exact .inr ⟨changed, _, .begins free, eq.symm⟩

theorem Turn.of_advanceCall? {before after : Connection} {call : Nat}
    (advanced : before.advanceCall? call = some after) :
    ∃ task changed next, before.tasks[call]? = some task ∧ Turn before call task changed next ∧
      after = changed.setTask call next := by
  rcases Option.bind_eq_some_iff.mp advanced with ⟨task, stands, advanced⟩
  cases task with
  | listing run =>
      obtain ⟨result, begun, rfl, rfl⟩ | ⟨changed, next, progress, rfl⟩ :=
        Progress.of_advanceRun advanced
      · cases result with
        | ok ports => exact ⟨_, _, _, stands, .listed, rfl⟩
        | error error => exact ⟨_, _, _, stands, .listingFailed, rfl⟩
      · exact ⟨_, _, _, stands, .lists progress, rfl⟩
  | opening address config run =>
      obtain ⟨result, begun, rfl, rfl⟩ | ⟨changed, next, progress, rfl⟩ :=
        Progress.of_advanceRun advanced
      · cases result with
        | ok handle => exact ⟨_, _, _, stands, .reached, rfl⟩
        | error error => exact ⟨_, _, _, stands, .notReached, rfl⟩
      · exact ⟨_, _, _, stands, .opens progress, rfl⟩
  | clearing address config session =>
      cases advanced
      exact ⟨_, _, _, stands, .clears, rfl⟩
  | installing address config session =>
      cases advanced
      exact ⟨_, _, _, stands, .installs, rfl⟩
  | retreating address error =>
      cases advanced
      exact ⟨_, _, _, stands, .retreats, rfl⟩
  | awaitingRead number target =>
      rcases Option.bind_eq_some_iff.mp advanced with ⟨read, found, advanced⟩
      rcases Option.bind_eq_some_iff.mp advanced with ⟨⟨phase, outcome⟩, ended, advanced⟩
      replace ended := Read.ending?_eq_some.mp ended
      cases advanced
      cases outcome with
      | error error => exact ⟨_, _, _, stands, .fetchesError found ended, rfl⟩
      | ok data =>
          cases target with
          | bytes => exact ⟨_, _, _, stands, .fetchesBytes found ended, rfl⟩
          | into buffer offset =>
              simp only [resolve]
              cases fits : store? buffer offset data with
              | some stored => exact ⟨_, _, _, stands, .stores found ended fits, rfl⟩
              | none => exact ⟨_, _, _, stands, .spills found ended fits, rfl⟩
  | puttingBack data buffer offset =>
      cases advanced
      exact ⟨_, _, _, stands, .putsBack, rfl⟩
  | awaitingWrite number =>
      rcases Option.bind_eq_some_iff.mp advanced with ⟨write, found, advanced⟩
      rcases Option.bind_eq_some_iff.mp advanced with ⟨next, ended, advanced⟩
      cases advanced
      exact ⟨_, _, _, stands, .fetchesWrite found ended, rfl⟩
  | configuring session line run =>
      obtain ⟨result, begun, rfl, rfl⟩ | ⟨changed, next, progress, rfl⟩ :=
        Progress.of_advanceRun advanced
      · exact ⟨_, _, _, stands, .configured, rfl⟩
      · exact ⟨_, _, _, stands, .configures progress, rfl⟩
  | returningClone session line result =>
      cases advanced
      exact ⟨_, _, _, stands, .returnsClone, rfl⟩
  | returningTicket session line result =>
      cases advanced
      exact ⟨_, _, _, stands, .returnsTicket, rfl⟩
  | recording line =>
      cases advanced
      exact ⟨_, _, _, stands, .records, rfl⟩
  | cancelling read =>
      cases advanced
      cases known : before.settings.effectiveDeadline? with
      | some deadline => exact ⟨_, _, _, stands, .cancels known, rfl⟩
      | none => exact ⟨_, _, _, stands, .overflows known, rfl⟩
  | awaitingReader number deadline =>
      rcases Option.bind_eq_some_iff.mp advanced with ⟨read, found, advanced⟩
      cases stopped : read.isFinished with
      | false => simp [stopped] at advanced
      | true =>
          simp only [stopped, if_true] at advanced
          cases advanced
          exact ⟨_, _, _, stands, .readerStopped found stopped, rfl⟩
  | reverting deadline =>
      cases advanced
      exact ⟨_, _, _, stands, .reverts, rfl⟩
  | takingLink =>
      cases advanced
      simp only [takeLink]
      cases held : before.link with
      | some link => exact ⟨_, _, _, stands, .takesLink held, rfl⟩
      | none => exact ⟨_, _, _, stands, .findsNoLink held, rfl⟩
  | draining number =>
      rcases Option.bind_eq_some_iff.mp advanced with ⟨session, found, advanced⟩
      by_cases ended : session.writer = .ended
      · simp only [ended, if_true] at advanced
        cases advanced
        exact ⟨_, _, _, stands, .drained found ended, rfl⟩
      · simp [ended] at advanced
  | idling number =>
      rcases Option.bind_eq_some_iff.mp advanced with ⟨session, found, advanced⟩
      by_cases idle : session.tickets = 0
      · simp only [idle, if_true] at advanced
        cases advanced
        exact ⟨_, _, _, stands, .idled found idle, rfl⟩
      · simp [idle] at advanced
  | regaining number =>
      rcases Option.bind_eq_some_iff.mp advanced with ⟨session, found, advanced⟩
      cases advanced
      simp only [regain]
      by_cases sole : session.clones = 1
      · simp only [sole, if_true]
        exact ⟨_, _, _, stands, .regains found sole, rfl⟩
      · simp only [sole, if_false]
        exact ⟨_, _, _, stands, .findsOwners found sole, rfl⟩
  | releasing run =>
      obtain ⟨result, begun, rfl, rfl⟩ | ⟨changed, next, progress, rfl⟩ :=
        Progress.of_advanceRun advanced
      · exact ⟨_, _, _, stands, .released, rfl⟩
      · exact ⟨_, _, _, stands, .releases progress, rfl⟩
  | settling result =>
      cases advanced
      cases result with
      | ok _ => exact ⟨_, _, _, stands, .closes, rfl⟩
      | error error => exact ⟨_, _, _, stands, .closesWithError, rfl⟩
  | finished ending => cases advanced

theorem runPending?_eq_some {Result : Type} {run : Running Result}
    {resume : Running Result → Connection} {pending : Pending Connection}
    (waits : runPending? run resume = some pending) :
    ∃ request next, run = ⟨.call request next, true⟩ ∧
      pending = ⟨request, fun reply => resume ⟨next reply, false⟩⟩ := by
  rcases run with ⟨procedure, begun⟩
  cases begun with
  | false => simp [runPending?] at waits
  | true =>
      cases procedure with
      | done result => simp [runPending?] at waits
      | say message next => simp [runPending?] at waits
      | call request next =>
          simp only [runPending?, if_true, Option.some.injEq] at waits
          exact ⟨request, next, rfl, waits.symm⟩

theorem CallAnswer.of_callPending? {before : Connection} {call : Nat} {pending : Pending Connection}
    (waits : before.callPending? call = some pending) (reply : pending.request.Reply) :
    ∃ task changed next, before.tasks[call]? = some task ∧
      CallAnswer before call task pending.request reply changed next ∧
      pending.resume reply = changed.setTask call next := by
  rcases Option.bind_eq_some_iff.mp waits with ⟨task, stands, waits⟩
  cases task with
  | listing run =>
      rcases runPending?_eq_some waits with ⟨request, next, rfl, rfl⟩
      exact ⟨_, _, _, stands, .listing, rfl⟩
  | opening address config run =>
      rcases runPending?_eq_some waits with ⟨request, next, rfl, rfl⟩
      exact ⟨_, _, _, stands, .opening, rfl⟩
  | configuring session line run =>
      rcases runPending?_eq_some waits with ⟨request, next, rfl, rfl⟩
      exact ⟨_, _, _, stands, .configuring, rfl⟩
  | releasing run =>
      rcases runPending?_eq_some waits with ⟨request, next, rfl, rfl⟩
      exact ⟨_, _, _, stands, .releasing, rfl⟩
  | _ => cases waits

theorem ReaderTurn.of_advanceReader? {before after : Connection} {number : Nat}
    (advanced : before.advanceReader? number = some after) :
    ∃ read changed stage, before.reads[number]? = some read ∧
      ReaderTurn before read changed stage ∧ after = changed.setReader number stage := by
  rcases Option.bind_eq_some_iff.mp advanced with ⟨read, found, advanced⟩
  cases stage : read.stage with
  | checking =>
      simp only [stage] at advanced
      cases cancelled : read.cancelled with
      | true =>
          simp only [cancelled, if_true] at advanced
          cases advanced
          exact ⟨_, _, _, found, .stops stage cancelled, rfl⟩
      | false =>
          simp only [cancelled, Bool.false_eq_true, if_false] at advanced
          cases advanced
          exact ⟨_, _, _, found, .polls stage cancelled, rfl⟩
  | polling => simp [stage] at advanced
  | received data =>
      simp only [stage] at advanced
      cases advanced
      simp only [divide]
      cases cancelled : read.cancelled with
      | true => exact ⟨_, _, _, found, .keepsAll stage cancelled, rfl⟩
      | false => exact ⟨_, _, _, found, .divides stage cancelled, rfl⟩
  | leaving ending =>
      simp only [stage] at advanced
      cases advanced
      cases last : before.isLastClone read.session with
      | true => exact ⟨_, _, _, found, .leavesLast stage last, rfl⟩
      | false => exact ⟨_, _, _, found, .leaves stage last, rfl⟩
  | closing ending => simp [stage] at advanced
  | reporting ending =>
      simp only [stage] at advanced
      cases advanced
      exact ⟨_, _, _, found, .reports stage, rfl⟩
  | ended ending => simp [stage] at advanced

theorem ReaderAnswer.of_readerPending? {before : Connection} {number : Nat}
    {pending : Pending Connection} (waits : before.readerPending? number = some pending)
    (reply : pending.request.Reply) :
    ∃ read session stage, before.reads[number]? = some read ∧
      before.sessions[read.session]? = some session ∧
      ReaderAnswer before read session pending.request reply stage ∧
      pending.resume reply = before.setReader number stage := by
  rcases Option.bind_eq_some_iff.mp waits with ⟨read, found, waits⟩
  rcases Option.bind_eq_some_iff.mp waits with ⟨session, held, waits⟩
  cases stage : read.stage with
  | polling =>
      simp only [stage] at waits
      cases waits
      exact ⟨_, _, _, found, held, .polled stage, rfl⟩
  | closing ending =>
      simp only [stage] at waits
      cases waits
      exact ⟨_, _, _, found, held, .closed stage, rfl⟩
  | _ => simp [stage] at waits

theorem WriterTurn.of_advanceWriter? {before after : Connection} {number : Nat}
    (advanced : before.advanceWriter? number = some after) :
    ∃ session, before.sessions[number]? = some session ∧
      WriterTurn before number session after := by
  rcases Option.bind_eq_some_iff.mp advanced with ⟨session, found, advanced⟩
  refine ⟨session, found, ?_⟩
  cases stage : session.writer with
  | waiting =>
      simp only [stage] at advanced
      cases queued : session.queue with
      | nil =>
          simp only [queued] at advanced
          cases hungUp : session.hungUp with
          | true =>
              simp only [hungUp, if_true] at advanced
              cases advanced
              exact .stops stage queued hungUp
          | false => simp [hungUp] at advanced
      | cons write rest =>
          simp only [queued] at advanced
          cases advanced
          exact .picks stage queued
  | writing write => simp [stage] at advanced
  | unwinding =>
      simp only [stage] at advanced
      cases advanced
      exact .unwinds stage
  | leaving =>
      simp only [stage] at advanced
      cases advanced
      cases last : before.isLastClone number with
      | true => exact .leavesLast stage last
      | false => exact .leaves stage last
  | closing => simp [stage] at advanced
  | ended => simp [stage] at advanced

theorem WriterAnswer.of_writerPending? {before : Connection} {number : Nat}
    {pending : Pending Connection} (waits : before.writerPending? number = some pending)
    (reply : pending.request.Reply) :
    ∃ session, before.sessions[number]? = some session ∧
      WriterAnswer before number session pending.request reply (pending.resume reply) := by
  rcases Option.bind_eq_some_iff.mp waits with ⟨session, found, waits⟩
  refine ⟨session, found, ?_⟩
  cases stage : session.writer with
  | writing write =>
      simp only [stage] at waits
      cases waits
      exact .wrote stage
  | closing =>
      simp only [stage] at waits
      cases waits
      exact .closed stage
  | _ => simp [stage] at waits

theorem ReadStart.of_startRead (before : Connection) (length : Nat)
    (started : Except SystemError Unit) :
    ReadStart before length (before.startRead length started).1
      (before.startRead length started).2 := by
  cases opened : before.openLink? with
  | none =>
      have refused : before.admission length = .refused .notOpen := by
        simp [admission, opened]
      simp only [startRead, refused]
      exact .refused refused
  | some link =>
      have held : before.link = some link := (openLink?_eq_some.mp opened).2
      cases idle : before.isReading link with
      | true =>
          have refused : before.admission length = .refused .readInProgress := by
            simp [admission, opened, idle]
          simp only [startRead, refused]
          exact .refused refused
      | false =>
          by_cases zero : length = 0
          · subst zero
            have served : before.admission 0 = .served [] before.backlog := by
              simp [admission, opened, idle]
            simpa [startRead, served, recordReader, addRead, held] using
              ReadStart.served before.journal opened idle (.inl rfl)
          · by_cases empty : before.backlog = []
            · have polls : before.admission length = .polls link := by
                simp [admission, opened, idle, zero, empty]
              cases started with
              | error cause =>
                  simpa [startRead, polls, recordReader, held] using
                    ReadStart.notStarted cause opened idle zero empty
              | ok _ =>
                  simpa [startRead, polls, recordReader, addRead, changeSession, held] using
                    ReadStart.polls opened idle zero empty
            · have served : before.admission length =
                  .served (before.backlog.take length) (before.backlog.drop length) := by
                simp [admission, opened, idle, zero, empty]
              simpa [startRead, served, recordReader, addRead, held, zero, say] using
                ReadStart.served _ opened idle (.inr empty)

theorem WriteStart.of_startWrite (before : Connection) (data : List UInt8) :
    WriteStart before data (before.startWrite data).1 (before.startWrite data).2 := by
  cases opened : before.openLink? with
  | none =>
      simp only [startWrite, opened]
      exact .notOpen opened
  | some link =>
      cases found : before.sessions[link.session]? with
      | none =>
          simp only [startWrite, opened, found]
          exact .workerLost opened (by simp [found])
      | some session =>
          cases alive : session.writer.hasQueue with
          | true =>
              simp only [startWrite, opened, found, alive, if_true, changeSession]
              exact .queued opened found alive
          | false =>
              simp only [startWrite, opened, found, alive, Bool.false_eq_true, if_false]
              exact .workerLost opened (by simp [found, alive])

theorem Entry.of_enterOpen {before : Connection} {call : Call} {address : Address}
    {config : LineConfig} (asked : call.AsksFor address config) :
    Entry before call (before.enterOpen address config).1 (before.enterOpen address config).2 := by
  by_cases closed : before.state = .closed
  · simp only [enterOpen, closed, if_true]
    exact .opens asked closed
  · simp only [enterOpen, closed, if_false]
    exact .refuses (.alreadyOpen asked closed)

theorem Entry.of_enterConfigure {before : Connection} {call : Call} {line : Option LineConfig}
    {commands : List LineCommand} (asked : call.Configures line commands) :
    Entry before call (before.enterConfigure line commands).1
      (before.enterConfigure line commands).2 := by
  cases opened : before.openLink? with
  | none =>
      simp only [enterConfigure, opened]
      exact .refuses (.notConfigurable asked (by simp [opened]))
  | some link =>
      cases found : before.sessions[link.session]? with
      | none =>
          simp only [enterConfigure, opened, found]
          refine .refuses (.notConfigurable asked fun other eq => ?_)
          cases opened.symm.trans eq
          exact found
      | some session =>
          simp only [enterConfigure, opened, found]
          exact .configures asked opened found

theorem Entry.of_enterRead (before : Connection) (buffer : List UInt8) (offset length : Nat)
    (started : Except SystemError Unit) :
    Entry before (.read buffer offset length) (before.enterRead buffer offset length started).1
      (before.enterRead buffer offset length started).2 := by
  by_cases fits : offset + length ≤ buffer.length
  · have start := ReadStart.of_startRead before length started
    simp only [enterRead, Nat.not_lt.mpr fits, if_false]
    generalize before.startRead length started = outcome at start
    rcases outcome with ⟨after, error | number⟩
    · exact .readFails fits start
    · exact .reads fits start
  · simp only [enterRead, Nat.lt_of_not_le fits, if_true]
    exact .refuses (.outside (Nat.lt_of_not_le fits))

theorem Entry.of_enter (before : Connection) (call : Call) (started : Except SystemError Unit) :
    Entry before call (before.enter call started).1 (before.enter call started).2 := by
  cases call with
  | list => exact .lists
  | openPort address config => exact .of_enterOpen .port
  | openWith path options =>
      simp only [enter, enterOpenWith]
      cases valid : options.validate with
      | error error => exact .refuses (.badOptions valid)
      | ok _ =>
          cases parsed : Address.parse path with
          | error error => exact .refuses (.badPath valid parsed)
          | ok address => exact .of_enterOpen (.text valid parsed)
  | read buffer offset length => exact .of_enterRead before buffer offset length started
  | write data =>
      have start := WriteStart.of_startWrite before data
      simp only [enter, enterWrite]
      generalize before.startWrite data = outcome at start
      rcases outcome with ⟨after, error | number⟩
      · cases start with
        | notOpen closed => exact .refuses (.notWritten (.notOpen closed))
        | workerLost opened dead => exact .refuses (.notWritten (.workerLost opened dead))
      · exact .writes start
  | set options => exact .of_enterConfigure .lines
  | setLineConfig config => exact .of_enterConfigure .coding
  | close =>
      simp only [enter, enterClose]
      cases opened : before.openLink? with
      | none => exact .refuses (.notOpen opened)
      | some link =>
          cases recorded : link.reader with
          | some number =>
              simp only [recorded]
              exact .closesReading opened recorded
          | none =>
              simp only [recorded]
              exact .closesIdle opened recorded
  | wait read => exact .waits
  | waitInto read buffer offset => exact .waitsInto

/-- Every step is a move. -/
theorem Move.of_step? {before after : Connection} {action : Action}
    (stepped : before.step? action = some after) :
    Move before action (before.exchange? action) after := by
  cases action with
  | invoke call started =>
      simp only [step?] at stepped
      cases permitted : before.permits call with
      | false => simp [permitted] at stepped
      | true =>
          simp only [permitted, if_true] at stepped
          cases stepped
          exact .enters permitted (.of_enter before call started)
  | startRead length started =>
      cases stepped
      exact .startsRead (.of_startRead before length started)
  | startWrite data =>
      cases stepped
      exact .startsWrite (.of_startWrite before data)
  | cancel read =>
      cases stepped
      exact .cancels
  | advance thread =>
      cases thread with
      | call number =>
          rcases Turn.of_advanceCall? stepped with ⟨task, changed, next, stands, turn, rfl⟩
          exact .turns stands turn
      | reader number =>
          rcases ReaderTurn.of_advanceReader? stepped with ⟨read, changed, stage, found, turn, rfl⟩
          exact .readerTurns found turn
      | writer number =>
          rcases WriterTurn.of_advanceWriter? stepped with ⟨session, found, turn⟩
          exact .writerTurns found turn
  | answer thread replies =>
      rcases Option.map_eq_some_iff.mp stepped with ⟨pending, waits, rfl⟩
      simp only [exchange?, waits, Option.map_some]
      cases thread with
      | call number =>
          obtain ⟨task, changed, next, stands, answer, eq⟩ :=
            CallAnswer.of_callPending? waits (replies pending.request)
          rw [eq]
          exact .answered stands answer
      | reader number =>
          obtain ⟨read, session, stage, found, held, answer, eq⟩ :=
            ReaderAnswer.of_readerPending? waits (replies pending.request)
          rw [eq]
          exact .readerAnswered found held answer
      | writer number =>
          obtain ⟨session, found, answer⟩ :=
            WriterAnswer.of_writerPending? waits (replies pending.request)
          exact .writerAnswered found answer
  | expire call =>
      rcases Option.bind_eq_some_iff.mp stepped with ⟨task, stands, expired⟩
      cases task with
      | awaitingReader number deadline =>
          rcases Option.bind_eq_some_iff.mp expired with ⟨read, found, expired⟩
          cases unfinished : read.isFinished with
          | true => simp [unfinished] at expired
          | false =>
              simp only [unfinished, Bool.false_eq_true, if_false] at expired
              cases expired
              exact .expires stands found unfinished
      | _ => cases expired

end Connection

end CdcSerial
