import CdcSerial.Proofs.Connection.Moves
import CdcSerial.Proofs.Lists

/-!
# The life of a port

Opening and closing take several steps, between which everybody else takes turns. What keeps them
apart is the lifecycle: it moves on in the same step in which a caller takes up a part in it, and
back when the caller lays the part down. `Orderly` says which parts are taken in each state and
whether the link is in its place. A turn of a caller changes the lifecycle only in one of the ways
of `Passage`, so it suffices to look at those.
-/

namespace CdcSerial

/-- What a caller has to do with the life of the port. -/
inductive Part where
  | bystander
  /-- It opens the port. -/
  | opener
  /-- It closes the port, and the link is still in its place. -/
  | stopper
  /-- It closes the port and has taken the link. -/
  | leaver
deriving DecidableEq

/-- The part that goes with the point of a caller. -/
def Task.part : Task → Part
  | .opening _ _ _ => .opener
  | .clearing _ _ _ => .opener
  | .installing _ _ _ => .opener
  | .retreating _ _ => .opener
  | .cancelling _ => .stopper
  | .awaitingReader _ _ => .stopper
  | .reverting _ => .stopper
  | .takingLink => .stopper
  | .draining _ => .leaver
  | .idling _ => .leaver
  | .regaining _ => .leaver
  | .releasing _ => .leaver
  | .settling _ => .leaver
  | _ => .bystander

namespace Connection

/-- How many callers have a part. -/
def partCount (connection : Connection) (part : Part) : Nat :=
  connection.tasks.countP fun task => decide (task.part = part)

/--
The state of the lifecycle, whether the link is in its place, and how many callers are openers,
stoppers and leavers. A closing port without a stopper is one whose deadline could not be
computed.
-/
inductive Balance : Lifecycle → Bool → Nat → Nat → Nat → Prop where
  | closed : Balance .closed false 0 0 0
  | opening : Balance .opening false 1 0 0
  | opened : Balance .opened true 0 0 0
  | stopping : Balance .closing true 0 1 0
  | stuck : Balance .closing true 0 0 0
  | leaving : Balance .closing false 0 0 1

namespace Balance

variable {state : Lifecycle} {linked : Bool} {openers stoppers leavers : Nat}

theorem of_opener (balance : Balance state linked openers stoppers leavers)
    (occupied : 0 < openers) :
    state = .opening ∧ linked = false := by
  cases balance with
  | opening => exact ⟨rfl, rfl⟩
  | _ => contradiction

theorem of_stopper (balance : Balance state linked openers stoppers leavers)
    (occupied : 0 < stoppers) :
    state = .closing ∧ linked = true := by
  cases balance with
  | stopping => exact ⟨rfl, rfl⟩
  | _ => contradiction

theorem of_leaver (balance : Balance state linked openers stoppers leavers)
    (occupied : 0 < leavers) :
    state = .closing ∧ linked = false := by
  cases balance with
  | leaving => exact ⟨rfl, rfl⟩
  | _ => contradiction

/-- The link has at most one place: the connection, or a caller that opens or closes the port. -/
theorem one_place (balance : Balance state linked openers stoppers leavers) :
    linked.toNat + openers + leavers ≤ 1 := by
  cases balance <;> decide

theorem insiders_le_one (balance : Balance state linked openers stoppers leavers) :
    openers + stoppers + leavers ≤ 1 := by
  cases balance <;> decide

theorem state_of_insiders (balance : Balance state linked openers stoppers leavers)
    (occupied : 0 < openers + stoppers + leavers) : state = .opening ∨ state = .closing := by
  cases balance <;> simp at occupied ⊢

theorem insiders_of_opening (balance : Balance .opening linked openers stoppers leavers) :
    0 < openers + stoppers + leavers := by
  cases balance
  decide

theorem linked_of_opened (balance : Balance .opened linked openers stoppers leavers) :
    linked = true := by
  cases balance
  rfl

theorem not_linked (balance : Balance state linked openers stoppers leavers)
    (bare : state = .closed ∨ state = .opening) : linked = false := by
  cases balance <;> simp at bare ⊢

end Balance

/-- The parts that callers have go with the state of the lifecycle. -/
def Orderly (connection : Connection) : Prop :=
  Balance connection.state connection.link.isSome (connection.partCount .opener)
    (connection.partCount .stopper) (connection.partCount .leaver)

/--
How a turn of a caller can change the lifecycle, the place of the link and the part of the
caller.
-/
inductive Passage : Lifecycle → Bool → Part → Lifecycle → Bool → Part → Prop where
  | stays {state linked part} : Passage state linked part state linked part
  | installs {state linked} : Passage state linked .opener .opened true .bystander
  | retreats {state linked} : Passage state linked .opener .closed linked .bystander
  | overflows {state linked} : Passage state linked .stopper state linked .bystander
  | reverts {state linked} : Passage state linked .stopper .opened linked .bystander
  | takes {state linked} : Passage state linked .stopper state false .leaver
  | closes {state linked} : Passage state linked .leaver .closed linked .bystander

/-- How a call can change the lifecycle when it begins, and the part that its caller takes up. -/
inductive Arrival : Lifecycle → Lifecycle → Part → Prop where
  | stays {state} : Arrival state state .bystander
  | opens : Arrival .closed .opening .opener
  | closes : Arrival .opened .closing .stopper

theorem Arrival.balance {state state' : Lifecycle} {linked : Bool} {part : Part}
    {openers stoppers leavers : Nat} (arrival : Arrival state state' part)
    (balance : Balance state linked openers stoppers leavers) :
    Balance state' linked (openers + (decide (part = .opener)).toNat)
      (stoppers + (decide (part = .stopper)).toNat)
        (leavers + (decide (part = .leaver)).toNat) := by
  cases arrival with
  | stays => exact balance
  | opens =>
      cases balance
      exact .opening
  | closes =>
      cases balance
      exact .stopping

theorem Passage.balance {state state' : Lifecycle} {linked linked' : Bool} {part part' : Part}
    {openers stoppers leavers openers' stoppers' leavers' : Nat}
    (passage : Passage state linked part state' linked' part')
    (balance : Balance state linked openers stoppers leavers)
    (openersEq : openers' + (decide (part = .opener)).toNat =
      openers + (decide (part' = .opener)).toNat)
    (stoppersEq : stoppers' + (decide (part = .stopper)).toNat =
      stoppers + (decide (part' = .stopper)).toNat)
    (leaversEq : leavers' + (decide (part = .leaver)).toNat =
      leavers + (decide (part' = .leaver)).toNat) :
    Balance state' linked' openers' stoppers' leavers' := by
  cases passage with
  | stays =>
      rw [Nat.add_right_cancel openersEq, Nat.add_right_cancel stoppersEq,
        Nat.add_right_cancel leaversEq]
      exact balance
  | installs =>
      cases balance <;> simp at openersEq stoppersEq leaversEq
      subst openersEq stoppersEq leaversEq
      exact .opened
  | retreats =>
      cases balance <;> simp at openersEq stoppersEq leaversEq
      subst openersEq stoppersEq leaversEq
      exact .closed
  | overflows =>
      cases balance <;> simp at openersEq stoppersEq leaversEq
      subst openersEq stoppersEq leaversEq
      exact .stuck
  | reverts =>
      cases balance <;> simp at openersEq stoppersEq leaversEq
      subst openersEq stoppersEq leaversEq
      exact .opened
  | takes =>
      cases balance <;> simp at openersEq stoppersEq leaversEq
      subst openersEq stoppersEq leaversEq
      exact .leaving
  | closes =>
      cases balance <;> simp at openersEq stoppersEq leaversEq
      subst openersEq stoppersEq leaversEq
      exact .closed

/-! ### What callers change -/

/-- A procedure that takes no lane changes nothing that is shared but the journal. -/
theorem Progress.only_tells {Result : Type} {before after : Connection} {run next : Running Result}
    (progress : Progress before (some before) run after next) :
    ∃ journal, after = { before with journal := journal } := by
  cases progress with
  | tells => exact ⟨_, rfl⟩
  | begins free =>
      cases free
      exact ⟨before.journal, rfl⟩

theorem takeLane?_eq_some {before after : Connection} {session call : Nat}
    (taken : before.takeLane? session call = some after) :
    after = before.setLane session (some call) := by
  rcases Option.bind_eq_some_iff.mp taken with ⟨found, _, taken⟩
  cases free : found.lane with
  | none =>
      simp only [free] at taken
      cases taken
      rfl
  | some holder => simp [free] at taken

/-- A procedure that configures the line changes at most the journal or the holder of the lane. -/
theorem Progress.only_lane {Result : Type} {before after : Connection} {session call : Nat}
    {run next : Running Result}
    (progress : Progress before (before.takeLane? session call) run after next) :
    (∃ journal, after = { before with journal := journal }) ∨
      after = before.setLane session (some call) := by
  cases progress with
  | tells => exact .inl ⟨_, rfl⟩
  | begins free => exact .inr (takeLane?_eq_some free)

theorem writeEnding?_part {state : WriteState} {task : Task}
    (ended : writeEnding? state = some task) : task.part = .bystander := by
  cases state with
  | queued => cases ended
  | answered result => cases result <;> cases ended <;> rfl
  | lost => cases ended; rfl

theorem afterTicket_part (line : Option LineConfig) (result : Except Error Unit) :
    (afterTicket line result).part = .bystander := by
  cases result <;> cases line <;> rfl

theorem Turn.passage {before after : Connection} {call : Nat} {task next : Task}
    (turn : Turn before call task after next) :
    Passage before.state before.link.isSome task.part after.state after.link.isSome next.part := by
  cases turn with
  | lists progress =>
      rcases progress.only_tells with ⟨journal, rfl⟩
      exact .stays
  | opens progress =>
      rcases progress.only_tells with ⟨journal, rfl⟩
      exact .stays
  | releases progress =>
      rcases progress.only_tells with ⟨journal, rfl⟩
      exact .stays
  | configures progress =>
      obtain ⟨journal, rfl⟩ | rfl := progress.only_lane <;> exact .stays
  | installs => exact .installs
  | retreats => exact .retreats
  | overflows => exact .overflows
  | reverts => exact .reverts
  | takesLink => exact .takes
  | findsNoLink bare =>
      simp only [bare, Option.isSome_none]
      exact .takes
  | closes => exact .closes
  | closesWithError => exact .closes
  | fetchesWrite found ended =>
      rw [writeEnding?_part ended]
      exact .stays
  | returnsTicket =>
      rw [afterTicket_part]
      exact .stays
  | records =>
      simp only [recordLine, Option.isSome_map]
      exact .stays
  | _ => exact .stays

theorem Turn.tasks_eq {before after : Connection} {call : Nat} {task next : Task}
    (turn : Turn before call task after next) : after.tasks = before.tasks := by
  cases turn with
  | lists progress =>
      rcases progress.only_tells with ⟨journal, rfl⟩
      rfl
  | opens progress =>
      rcases progress.only_tells with ⟨journal, rfl⟩
      rfl
  | releases progress =>
      rcases progress.only_tells with ⟨journal, rfl⟩
      rfl
  | configures progress =>
      obtain ⟨journal, rfl⟩ | rfl := progress.only_lane <;> rfl
  | _ => rfl

/-- An answer of the bus changes at most the holder of the lane, and a caller keeps its part. -/
theorem CallAnswer.frame {before after : Connection} {call : Nat} {task next : Task}
    {request : Request} {reply : request.Reply}
    (answer : CallAnswer before call task request reply after next) :
    next.part = task.part ∧ ∃ sessions, after = { before with sessions := sessions } := by
  cases answer <;> exact ⟨rfl, _, rfl⟩

/-! ### What workers and the start of transfers change -/

theorem loseAll_frame (connection : Connection) (queue : List Nat) :
    ∃ writes, connection.loseAll queue = { connection with writes := writes } := by
  induction queue generalizing connection with
  | nil => exact ⟨connection.writes, rfl⟩
  | cons write rest ih =>
      rcases ih (connection.settleWrite write .lost) with ⟨writes, eq⟩
      exact ⟨writes, eq⟩

theorem WriterTurn.frame {before after : Connection} {number : Nat} {session : Session}
    (turn : WriterTurn before number session after) :
    ∃ sessions writes, after = { before with sessions := sessions, writes := writes } := by
  cases turn with
  | unwinds =>
      rcases loseAll_frame before session.queue with ⟨writes, eq⟩
      rw [eq]
      exact ⟨_, _, rfl⟩
  | _ => exact ⟨_, before.writes, rfl⟩

theorem WriterAnswer.frame {before after : Connection} {number : Nat} {session : Session}
    {request : Request} {reply : request.Reply}
    (answer : WriterAnswer before number session request reply after) :
    ∃ sessions writes, after = { before with sessions := sessions, writes := writes } := by
  cases answer with
  | @wrote write reply =>
      cases reply with
      | accepted count => exact ⟨_, _, rfl⟩
      | failed status => exact ⟨_, _, rfl⟩
      | crashed => exact ⟨_, _, rfl⟩
  | closed => exact ⟨_, before.writes, rfl⟩

theorem ReaderTurn.frame {before after : Connection} {read : Read} {stage : ReaderStage}
    (turn : ReaderTurn before read after stage) :
    ∃ backlog sessions, after = { before with backlog := backlog, sessions := sessions } := by
  cases turn with
  | keepsAll => exact ⟨_, before.sessions, rfl⟩
  | divides => exact ⟨_, before.sessions, rfl⟩
  | _ => exact ⟨before.backlog, _, rfl⟩

theorem ReadStart.frame {before after : Connection} {length : Nat} {result : Except Error Nat}
    (start : ReadStart before length after result) :
    after.state = before.state ∧ after.link.isSome = before.link.isSome ∧
      after.tasks = before.tasks ∧ after.writes = before.writes := by
  cases start with
  | refused => exact ⟨rfl, rfl, rfl, rfl⟩
  | served journal opened => exact ⟨rfl, by simp [(openLink?_eq_some.mp opened).2], rfl, rfl⟩
  | notStarted cause opened => exact ⟨rfl, by simp [(openLink?_eq_some.mp opened).2], rfl, rfl⟩
  | polls opened => exact ⟨rfl, by simp [(openLink?_eq_some.mp opened).2], rfl, rfl⟩

theorem WriteStart.frame {before after : Connection} {data : List UInt8}
    {result : Except Error Nat} (start : WriteStart before data after result) :
    ∃ sessions writes, after = { before with sessions := sessions, writes := writes } := by
  cases start with
  | queued => exact ⟨_, _, rfl⟩
  | _ => exact ⟨before.sessions, before.writes, rfl⟩

/-! ### Whom a move concerns -/

/--
Whether a call, a caller or a new read is concerned by a move. Any other move is one of a worker, of
a write or of a cancellation, and leaves the lifecycle, the link and every caller as they are.
-/
inductive Concern (before : Connection) : Action → Option Exchange → Connection → Prop where
  | enters {call started after task} (entry : Entry before call after task) :
      Concern before (.invoke call started) none (after.addTask task)
  | startsRead {length started after result} (start : ReadStart before length after result) :
      Concern before (.startRead length started) none after
  | turns {call task after next} (stands : before.tasks[call]? = some task)
      (turn : Turn before call task after next) :
      Concern before (.advance (.call call)) none (after.setTask call next)
  | answered {call task request replies after next} (stands : before.tasks[call]? = some task)
      (answer : CallAnswer before call task request (replies request) after next) :
      Concern before (.answer (.call call) replies) (some (.call call, ⟨request, replies request⟩))
        (after.setTask call next)
  | expires {call number deadline}
      (stands : before.tasks[call]? = some (.awaitingReader number deadline)) :
      Concern before (.expire call) none (before.setTask call (.reverting deadline))
  | nobody {action exchange? after} (state : after.state = before.state)
      (link : after.link = before.link) (tasks : after.tasks = before.tasks) :
      Concern before action exchange? after

theorem Move.concern {before after : Connection} {action : Action} {exchange? : Option Exchange}
    (move : Move before action exchange? after) : Concern before action exchange? after := by
  cases move with
  | enters permitted entry => exact .enters entry
  | startsRead start => exact .startsRead start
  | turns stands turn => exact .turns stands turn
  | answered stands answer => exact .answered stands answer
  | expires stands => exact .expires stands
  | startsWrite start =>
      rcases start.frame with ⟨sessions, writes, rfl⟩
      exact .nobody rfl rfl rfl
  | readerTurns found turn =>
      rcases turn.frame with ⟨backlog, sessions, rfl⟩
      exact .nobody rfl rfl rfl
  | writerTurns found turn =>
      rcases turn.frame with ⟨sessions, writes, rfl⟩
      exact .nobody rfl rfl rfl
  | writerAnswered found answer =>
      rcases answer.frame with ⟨sessions, writes, rfl⟩
      exact .nobody rfl rfl rfl
  | cancels => exact .nobody rfl rfl rfl
  | readerAnswered => exact .nobody rfl rfl rfl

/-! ### The lifecycle is orderly -/

theorem Entry.arrival {before after : Connection} {call : Call} {task : Task}
    (entry : Entry before call after task) :
    Arrival before.state after.state task.part ∧ after.link.isSome = before.link.isSome ∧
      after.tasks = before.tasks := by
  cases entry with
  | opens asked closed =>
      rw [closed]
      exact ⟨.opens, rfl, rfl⟩
  | closesReading opened recorded =>
      rw [(openLink?_eq_some.mp opened).1]
      exact ⟨.closes, rfl, rfl⟩
  | closesIdle opened idle =>
      rw [(openLink?_eq_some.mp opened).1]
      exact ⟨.closes, rfl, rfl⟩
  | reads fits start =>
      rcases start.frame with ⟨state, linked, tasks, _⟩
      exact ⟨state ▸ .stays, linked, tasks⟩
  | readFails fits start =>
      rcases start.frame with ⟨state, linked, tasks, _⟩
      exact ⟨state ▸ .stays, linked, tasks⟩
  | writes start =>
      rcases start.frame with ⟨sessions, writes, rfl⟩
      exact ⟨.stays, rfl, rfl⟩
  | _ => exact ⟨.stays, rfl, rfl⟩

theorem fresh_orderly (locator : Locator) (settings : Settings) :
    (fresh locator settings).Orderly := .closed

theorem Orderly.of_passage {before after : Connection} {call : Nat} {task next : Task}
    (orderly : before.Orderly) (stands : before.tasks[call]? = some task)
    (tasks : after.tasks = before.tasks)
    (passage : Passage before.state before.link.isSome task.part after.state after.link.isSome
      next.part) : (after.setTask call next).Orderly := by
  have counted (part : Part) : (after.setTask call next).partCount part +
      (decide (task.part = part)).toNat =
        before.partCount part + (decide (next.part = part)).toNat := by
    rw [← tasks] at stands
    simpa only [partCount, setTask, tasks] using countP_set_add next stands
  exact passage.balance orderly (counted .opener) (counted .stopper) (counted .leaver)

theorem Orderly.of_move {before after : Connection} {action : Action} {exchange? : Option Exchange}
    (orderly : before.Orderly) (move : Move before action exchange? after) : after.Orderly := by
  cases move.concern with
  | enters entry =>
      rcases entry.arrival with ⟨arrival, linked, tasks⟩
      simp only [Orderly, partCount, addTask, tasks, countP_concat, linked]
      exact arrival.balance orderly
  | startsRead start =>
      rcases start.frame with ⟨state, linked, tasks, _⟩
      simpa only [Orderly, partCount, state, linked, tasks] using orderly
  | turns stands turn => exact orderly.of_passage stands turn.tasks_eq turn.passage
  | answered stands answer =>
      rcases answer.frame with ⟨part, sessions, rfl⟩
      exact orderly.of_passage stands rfl (part ▸ .stays)
  | expires stands => exact orderly.of_passage stands rfl .stays
  | nobody state link tasks => simpa only [Orderly, partCount, state, link, tasks] using orderly

/-! ### What an orderly lifecycle excludes -/

theorem partCount_pos {connection : Connection} {task : Task} (member : task ∈ connection.tasks) :
    0 < connection.partCount task.part :=
  List.countP_pos_iff.mpr ⟨task, member, by simp⟩

theorem Orderly.of_opener {connection : Connection} {task : Task} (orderly : connection.Orderly)
    (member : task ∈ connection.tasks) (part : task.part = .opener) :
    connection.state = .opening ∧ connection.link = none := by
  rcases Balance.of_opener orderly (part ▸ partCount_pos member) with ⟨state, linked⟩
  exact ⟨state, by simpa using linked⟩

theorem Orderly.of_stopper {connection : Connection} {task : Task} (orderly : connection.Orderly)
    (member : task ∈ connection.tasks) (part : task.part = .stopper) :
    connection.state = .closing ∧ connection.link.isSome = true :=
  Balance.of_stopper orderly (part ▸ partCount_pos member)

theorem Orderly.of_leaver {connection : Connection} {task : Task} (orderly : connection.Orderly)
    (member : task ∈ connection.tasks) (part : task.part = .leaver) :
    connection.state = .closing ∧ connection.link = none := by
  rcases Balance.of_leaver orderly (part ▸ partCount_pos member) with ⟨state, linked⟩
  exact ⟨state, by simpa using linked⟩

/-- While a port is open for calls, nobody opens or closes it. -/
theorem Orderly.bystander_of_openLink? {connection : Connection} {link : Link} {task : Task}
    (orderly : connection.Orderly) (opened : connection.openLink? = some link)
    (member : task ∈ connection.tasks) : task.part = .bystander := by
  have state := (openLink?_eq_some.mp opened).1
  cases part : task.part with
  | bystander => rfl
  | opener => simp [(orderly.of_opener member part).1] at state
  | stopper => simp [(orderly.of_stopper member part).1] at state
  | leaver => simp [(orderly.of_leaver member part).1] at state

/-! ### Who is inside -/

/-- How many callers are in the middle of opening or closing the port. -/
def insiders (connection : Connection) : Nat :=
  connection.tasks.countP fun task => decide (task.part ≠ .bystander)

theorem insiders_eq (connection : Connection) :
    connection.insiders = connection.partCount .opener + connection.partCount .stopper +
      connection.partCount .leaver := by
  unfold insiders partCount
  induction connection.tasks with
  | nil => rfl
  | cons task rest ih =>
      simp only [List.countP_cons, ih]
      cases task.part <;> simp <;> omega

theorem insiders_pos {connection : Connection} {task : Task} (member : task ∈ connection.tasks)
    (inside : task.part ≠ .bystander) : 0 < connection.insiders :=
  List.countP_pos_iff.mpr ⟨task, member, by simp [inside]⟩

namespace Orderly

variable {connection : Connection}

theorem insiders_le_one (orderly : connection.Orderly) : connection.insiders ≤ 1 := by
  rw [insiders_eq]
  exact Balance.insiders_le_one orderly

/-- Beside a caller that opens or closes the port there is no other. -/
theorem bystander_of_other {call other : Nat} {task rival : Task} (orderly : connection.Orderly)
    (stands : connection.tasks[call]? = some task) (part : task.part ≠ .bystander)
    (stood : connection.tasks[other]? = some rival) (apart : other ≠ call) :
    rival.part = .bystander := by
  have counted := orderly.insiders_le_one
  by_contra inside
  have two : 2 ≤ connection.insiders :=
    countP_two_places apart stood stands (by simp [inside]) (by simp [part])
  omega

theorem state_of_insiders (orderly : connection.Orderly) (occupied : 0 < connection.insiders) :
    connection.state = .opening ∨ connection.state = .closing := by
  rw [insiders_eq] at occupied
  exact Balance.state_of_insiders orderly occupied

theorem insiders_of_opening (orderly : connection.Orderly) (opening : connection.state = .opening) :
    0 < connection.insiders := by
  unfold Orderly at orderly
  rw [opening] at orderly
  rw [insiders_eq]
  exact orderly.insiders_of_opening

theorem linked_of_opened (orderly : connection.Orderly) (opened : connection.state = .opened) :
    connection.link.isSome = true := by
  unfold Orderly at orderly
  rw [opened] at orderly
  exact orderly.linked_of_opened

theorem link_eq_none (orderly : connection.Orderly)
    (bare : connection.state = .closed ∨ connection.state = .opening) : connection.link = none := by
  simpa using Balance.not_linked orderly bare

end Orderly

end Connection

end CdcSerial
