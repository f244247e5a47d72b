import CdcSerial.Proofs.Connection.Transitions
import CdcSerial.Proofs.Connection.Usage

/-!
# One transfer on each lane

Data reach a device and come from it on three lanes: bulk input, bulk output and control. At no time
are two transfers in progress on the same lane, whoever makes them.

The worker of a read polls only while the link records it, and the link records one read. The worker
of a session's writes sends only while the link of its session is held, and only the last session
has a link. A call that configures the line makes its transfer with the lane of its session in its
hands (`Laned`), and a call that opens the port makes its transfer while nobody holds a link, so
that nobody configures.
-/

namespace CdcSerial

/-- The lanes on which a device transfers data. -/
inductive Lane where
  | input
  | output
  | control
deriving DecidableEq

/-- The lane of a transfer. -/
def Request.lane? : Request → Option Lane
  | .bulkIn _ _ _ _ => some .input
  | .bulkOut _ _ _ _ => some .output
  | .control _ _ => some .control
  | _ => none

theorem Request.nonempty_reply (request : Request) : Nonempty request.Reply := by
  cases request with
  | bulkIn => exact ⟨.crashed⟩
  | bulkOut => exact ⟨.crashed⟩
  | lockDiscovery | unlockDiscovery | forget | closeHandle => exact ⟨()⟩
  | startWorker => exact ⟨.ok ()⟩
  | _ => exact ⟨.error .busy⟩

/-- The session whose control lane a caller has taken. -/
def Task.lane? : Task → Option Nat
  | .configuring session _ run => if run.begun then some session else none
  | _ => none

namespace Connection

/-- The lane on which a thread has a transfer in progress. -/
def lane? (connection : Connection) (thread : Thread) : Option Lane :=
  (connection.pending? thread).bind fun pending => pending.request.lane?

/-- For each session the call that has its control lane. -/
def lanes (connection : Connection) : List (Option Nat) :=
  connection.sessions.map (·.lane)

/-- A caller that has taken the control lane of a session is the one that the session names. -/
structure Laned (connection : Connection) : Prop where
  named : ∀ {call number : Nat} {task : Task}, connection.tasks[call]? = some task →
    task.lane? = some number → connection.lanes[number]? = some (some call)

/-! ### Which steps change the lanes -/

section Lanes

variable {before after : Connection}

theorem lanes_changeSession (connection : Connection) (number : Nat) {change : Session → Session}
    (same : ∀ session, (change session).lane = session.lane) :
    (connection.changeSession number change).lanes = connection.lanes :=
  map_modify_of_eq connection.sessions number same

theorem lanes_setLane (connection : Connection) (number : Nat) (lane : Option Nat) :
    (connection.setLane number lane).lanes = connection.lanes.modify number fun _ => lane := by
  simp only [lanes, setLane, changeSession]
  apply List.ext_getElem?
  intro other
  simp only [List.getElem?_map, List.getElem?_modify]
  cases connection.sessions[other]? with
  | none => simp
  | some session => by_cases same : number = other <;> simp [same]

theorem lanes_of_takeLane? {call session : Nat}
    (taken : before.takeLane? session call = some after) :
    before.lanes[session]? = some none := by
  rcases Option.bind_eq_some_iff.mp taken with ⟨old, found, taken⟩
  cases vacant : old.lane with
  | none => simp [lanes, found, vacant]
  | some holder => simp [vacant] at taken

theorem ReadStart.lanes_eq {length : Nat} {result : Except Error Nat}
    (start : ReadStart before length after result) : after.lanes = before.lanes := by
  cases start with
  | polls => exact lanes_changeSession before _ fun _ => rfl
  | _ => rfl

theorem WriteStart.lanes_eq {data : List UInt8} {result : Except Error Nat}
    (start : WriteStart before data after result) : after.lanes = before.lanes := by
  cases start with
  | queued => exact lanes_changeSession before _ fun _ => rfl
  | _ => rfl

theorem Entry.lanes_eq {call : Call} {task : Task} (entry : Entry before call after task) :
    after.lanes = before.lanes := by
  cases entry with
  | reads fits start => exact start.lanes_eq
  | readFails fits start => exact start.lanes_eq
  | writes start => exact start.lanes_eq
  | configures => exact lanes_changeSession before _ fun _ => rfl
  | _ => rfl

theorem ReaderTurn.lanes_eq {read : Read} {stage : ReaderStage}
    (turn : ReaderTurn before read after stage) : after.lanes = before.lanes := by
  cases turn with
  | leaves => exact lanes_changeSession before _ fun _ => rfl
  | leavesLast => exact lanes_changeSession before _ fun _ => rfl
  | _ => rfl

theorem WriterTurn.lanes_eq {number : Nat} {session : Session}
    (turn : WriterTurn before number session after) : after.lanes = before.lanes := by
  have dropped : (before.dropClone number).lanes = before.lanes :=
    lanes_changeSession before number fun _ => rfl
  cases turn with
  | picks => exact lanes_changeSession before _ fun _ => rfl
  | stops => exact lanes_changeSession before _ fun _ => rfl
  | unwinds =>
      rcases loseAll_frame before session.queue with ⟨writes, eq⟩
      rw [eq]
      exact lanes_changeSession _ _ fun _ => rfl
  | leaves => exact Eq.trans (lanes_changeSession _ _ fun _ => rfl) dropped
  | leavesLast => exact Eq.trans (lanes_changeSession _ _ fun _ => rfl) dropped

theorem WriterAnswer.lanes_eq {number : Nat} {session : Session} {request : Request}
    {reply : request.Reply} (answer : WriterAnswer before number session request reply after) :
    after.lanes = before.lanes := by
  cases answer with
  | @wrote write reply => cases reply <;> exact lanes_changeSession _ _ fun _ => rfl
  | closed => exact lanes_changeSession before _ fun _ => rfl

/-! ### Whoever has a lane is named by its session -/

theorem fresh_laned (locator : Locator) (settings : Settings) :
    (fresh locator settings).Laned where
  named := by
    intro call task number stands
    simp [fresh] at stands

namespace Laned

theorem of_same (laned : before.Laned) (tasks : after.tasks = before.tasks)
    (lanes : after.lanes = before.lanes) : after.Laned := by
  constructor
  intro call task number stands taken
  rw [lanes]
  exact laned.named (tasks ▸ stands) taken

theorem of_entrant {task : Task} (laned : before.Laned) (free : task.lane? = none) :
    (before.addTask task).Laned := by
  constructor
  intro call other number stands taken
  rw [addTask, List.getElem?_append] at stands
  split at stands
  · exact laned.named stands taken
  · have new := List.mem_singleton.mp (List.mem_of_getElem? stands)
    rw [new, free] at taken
    cases taken

/-- A caller has taken its lane, or has none; the other callers keep theirs. -/
theorem of_turner {call : Nat} {next : Task} (laned : before.Laned)
    (tasks : after.tasks = before.tasks)
    (own : ∀ {number}, next.lane? = some number → after.lanes[number]? = some (some call))
    (others : ∀ {other number : Nat}, other ≠ call → before.lanes[number]? = some (some other) →
      after.lanes[number]? = some (some other)) : (after.setTask call next).Laned := by
  constructor
  intro other task number stands taken
  rw [setTask, List.getElem?_set] at stands
  split at stands
  · rename_i same
    subst same
    split at stands
    · cases stands
      exact own taken
    · cases stands
  · rename_i ne
    exact others (Ne.symm ne) (laned.named (tasks ▸ stands) taken)

theorem of_free {call : Nat} {next : Task} (laned : before.Laned)
    (tasks : after.tasks = before.tasks) (lanes : after.lanes = before.lanes)
    (free : next.lane? = none) : (after.setTask call next).Laned := by
  refine laned.of_turner tasks (fun taken => ?_) fun _ held => lanes ▸ held
  rw [free] at taken
  cases taken

theorem of_configures {call session : Nat} {line : Option LineConfig}
    {run next : Running (Except Error Unit)} (laned : before.Laned)
    (progress : Progress before (before.takeLane? session call) run after next) :
    (after.setTask call (.configuring session line next)).Laned := by
  cases progress with
  | tells => exact laned.of_free rfl rfl rfl
  | begins free =>
      have here := lanes_of_takeLane? free
      cases takeLane?_eq_some free
      refine laned.of_turner rfl ?_ ?_
      · rintro number taken
        simp only [Task.lane?, if_true, Option.some.injEq] at taken
        subst taken
        simp [lanes_setLane, here]
      · intro other number _ held
        have elsewhere : session ≠ number := by
          rintro rfl
          rw [here] at held
          cases held
        simp [lanes_setLane, elsewhere, held]

theorem of_turn {call : Nat} {task next : Task} (laned : before.Laned)
    (turn : Turn before call task after next) : (after.setTask call next).Laned := by
  cases turn with
  | lists progress =>
      rcases progress.only_tells with ⟨journal, rfl⟩
      exact laned.of_free rfl rfl rfl
  | opens progress =>
      rcases progress.only_tells with ⟨journal, rfl⟩
      exact laned.of_free rfl rfl rfl
  | releases progress =>
      rcases progress.only_tells with ⟨journal, rfl⟩
      exact laned.of_free rfl rfl rfl
  | configures progress => exact laned.of_configures progress
  | reached =>
      refine laned.of_turner rfl nofun fun _ held => ?_
      rw [lanes, List.map_append,
        List.getElem?_append_left (by simpa [lanes] using (List.getElem?_eq_some_iff.mp held).1)]
      exact held
  | fetchesWrite found ended =>
      rcases writeEnding?_eq_some ended with ⟨result, rfl⟩
      exact laned.of_free rfl rfl rfl
  | @returnsTicket session line result =>
      refine laned.of_free rfl (lanes_changeSession before _ fun _ => rfl) ?_
      unfold afterTicket
      split
      · rfl
      · cases result <;> rfl
  | returnsClone => exact laned.of_free rfl (lanes_changeSession before _ fun _ => rfl) rfl
  | takesLink => exact laned.of_free rfl (lanes_changeSession _ _ fun _ => rfl) rfl
  | regains => exact laned.of_free rfl (lanes_changeSession before _ fun _ => rfl) rfl
  | findsOwners => exact laned.of_free rfl (lanes_changeSession before _ fun _ => rfl) rfl
  | _ => exact laned.of_free rfl rfl rfl

theorem of_answer {call : Nat} {task next : Task} {request : Request} {reply : request.Reply}
    (laned : before.Laned) (stands : before.tasks[call]? = some task)
    (answer : CallAnswer before call task request reply after next) :
    (after.setTask call next).Laned := by
  cases answer with
  | @configuring session line request next reply =>
      have mine : before.lanes[session]? = some (some call) := laned.named stands rfl
      refine laned.of_turner rfl nofun fun {other number} ne held => ?_
      have elsewhere : session ≠ number := by
        rintro rfl
        rw [mine, Option.some.injEq, Option.some.injEq] at held
        exact ne held.symm
      simp [lanes_setLane, elsewhere, held]
  | _ => exact laned.of_free rfl rfl rfl

theorem of_move {action : Action} {exchange? : Option Exchange} (laned : before.Laned)
    (move : Move before action exchange? after) : after.Laned := by
  cases move with
  | enters permitted entry =>
      refine (laned.of_same entry.arrival.2.2 entry.lanes_eq).of_entrant ?_
      cases entry <;> rfl
  | startsRead start => exact laned.of_same start.frame.2.2.1 start.lanes_eq
  | startsWrite start =>
      have lanes := start.lanes_eq
      rcases start.frame with ⟨sessions, writes, rfl⟩
      exact laned.of_same rfl lanes
  | cancels => exact laned.of_same rfl rfl
  | turns stands turn => exact laned.of_turn turn
  | answered stands answer => exact laned.of_answer stands answer
  | readerTurns found turn =>
      have lanes := turn.lanes_eq
      rcases turn.frame with ⟨backlog, sessions, rfl⟩
      exact laned.of_same rfl lanes
  | readerAnswered => exact laned.of_same rfl rfl
  | writerTurns found turn =>
      have lanes := turn.lanes_eq
      rcases turn.frame with ⟨sessions, writes, rfl⟩
      exact laned.of_same rfl lanes
  | writerAnswered found answer =>
      have lanes := answer.lanes_eq
      rcases answer.frame with ⟨sessions, writes, rfl⟩
      exact laned.of_same rfl lanes
  | expires => exact laned.of_free rfl rfl rfl

end Laned

end Lanes

theorem laned_of_run {locator : Locator} {settings : Settings} {actions : List Action}
    {connection : Connection} (ran : (fresh locator settings).run? actions = some connection) :
    connection.Laned := by
  refine run_induction (motive := fun _ connection => connection.Laned)
    (fresh_laned locator settings) ?_ ran
  intro actions middle action final _ laned stepped
  exact laned.of_move (.of_step? stepped)

/-! ### Who is on a lane -/

/-- The threads that can be on a lane, with the point at which they are. -/
inductive Occupant (connection : Connection) : Lane → Thread → Prop where
  | reader {number read} (found : connection.reads[number]? = some read)
      (polling : read.stage = .polling) : Occupant connection .input (.reader number)
  | writer {number session write} (found : connection.sessions[number]? = some session)
      (writing : session.writer = .writing write) : Occupant connection .output (.writer number)
  | caller {call task} (stands : connection.tasks[call]? = some task)
      (controls : task.isControlling = true) : Occupant connection .control (.call call)

section Occupants

variable {locator : Locator} {settings : Settings} {calls : List Call} {exchanges : List Exchange}
  {connection : Connection} {lane : Lane}

theorem Sound.occupant {thread : Thread} (aloof : locator.source.Aloof)
    (sound : Sound locator settings calls exchanges connection)
    (busy : connection.lane? thread = some lane) : connection.Occupant lane thread := by
  rcases Option.bind_eq_some_iff.mp busy with ⟨pending, waits, here⟩
  rcases pending.request.nonempty_reply with ⟨reply⟩
  cases thread with
  | call call =>
      obtain ⟨task, changed, next, stands, answer, -⟩ := CallAnswer.of_callPending? waits reply
      rcases sound.transfers aloof stands answer with ⟨spares, controls⟩
      cases asked : pending.request <;> rw [asked] at here spares controls <;>
        simp only [Request.lane?, Option.some.injEq, reduceCtorEq] at here
      case control =>
        subst here
        exact .caller stands (controls rfl)
      all_goals cases spares
  | reader number =>
      obtain ⟨read, session, stage, found, held, answer, -⟩ :=
        ReaderAnswer.of_readerPending? waits reply
      rcases pending with ⟨request, resume⟩
      cases answer with
      | polled polling =>
          cases here
          exact .reader found polling
      | closed => cases here
  | writer number =>
      obtain ⟨session, found, answer⟩ := WriterAnswer.of_writerPending? waits reply
      rcases pending with ⟨request, resume⟩
      generalize Pending.resume ⟨request, resume⟩ reply = after at answer
      cases answer with
      | wrote writing =>
          cases here
          exact .writer found writing
      | closed => cases here

/-- While a caller reaches for a device, nobody holds a link and nobody configures. -/
theorem Sound.not_holdsLink_of_opening (sound : Sound locator settings calls exchanges connection)
    {address : Address} {config : LineConfig} {run : Running (Except Error Handle)}
    (member : .opening address config run ∈ connection.tasks) (number : Nat) :
    ¬connection.HoldsLink number := by
  rintro (⟨link, held, -⟩ | ⟨task, other, stake⟩)
  · rw [(sound.orderly.of_opener member rfl).2] at held
    cases held
  · have same := sound.orderly.alone member other (.inl rfl) (part_of_link_stake stake)
    subst same
    cases stake

theorem Sound.controller_unique (sound : Sound locator settings calls exchanges connection)
    (newest : connection.Newest) (laned : connection.Laned) {one other : Nat} {task rival : Task}
    (stands : connection.tasks[one]? = some task)
    (standsToo : connection.tasks[other]? = some rival)
    (controls : task.isControlling = true) (controlsToo : rival.isControlling = true) :
    one = other := by
  have holds {call session : Nat} {line : Option LineConfig} {run : Running (Except Error Unit)}
      (here : connection.tasks[call]? = some (.configuring session line run)) :
      connection.HoldsLink session :=
    sound.owned.configurer_holdsLink (List.mem_of_getElem? here) rfl
  cases task <;> cases rival <;>
    simp only [Task.isControlling, Bool.false_eq_true] at controls controlsToo
  case opening.opening =>
    -- both are inside opening, where there is room for one
    exact sound.inside_unique (sound.placed.inside_iff.mpr ⟨_, stands, by simp [Task.part]⟩)
      (sound.placed.inside_iff.mpr ⟨_, standsToo, by simp [Task.part]⟩)
  case opening.configuring =>
    exact absurd (holds standsToo) (sound.not_holdsLink_of_opening (List.mem_of_getElem? stands) _)
  case configuring.opening =>
    exact absurd (holds stands) (sound.not_holdsLink_of_opening (List.mem_of_getElem? standsToo) _)
  case configuring.configuring session _ _ rivalSession _ _ =>
    -- both configure the last session, and its lane names one call
    have last := newest.linked (holds stands)
    have lastToo := newest.linked (holds standsToo)
    obtain rfl : session = rivalSession := by omega
    have named : connection.lanes[session]? = some (some one) :=
      laned.named stands (by simp [Task.lane?, controls])
    have namedToo : connection.lanes[session]? = some (some other) :=
      laned.named standsToo (by simp [Task.lane?, controlsToo])
    rw [named, Option.some.injEq, Option.some.injEq] at namedToo
    exact namedToo

theorem Sound.occupant_unique (sound : Sound locator settings calls exchanges connection)
    (newest : connection.Newest) (laned : connection.Laned) {one other : Thread}
    (first : connection.Occupant lane one) (second : connection.Occupant lane other) :
    one = other := by
  cases first with
  | @reader number read found polling =>
      cases second with
      | @reader rival readToo foundToo pollingToo =>
          have duty := sound.recorded.unfinished
            ⟨read, found, rfl, Read.isFinished_eq_false.mpr (by simp [polling])⟩
          have dutyToo := sound.recorded.unfinished
            ⟨readToo, foundToo, rfl, Read.isFinished_eq_false.mpr (by simp [pollingToo])⟩
          rw [duty] at dutyToo
          simp only [Option.some.injEq, Prod.mk.injEq] at dutyToo
          rw [dutyToo.2]
  | writer found writing =>
      cases second with
      | writer foundToo writingToo =>
          have last := newest.linked (sound.owned.writer_holdsLink found (by rw [writing]; rfl))
          have lastToo :=
            newest.linked (sound.owned.writer_holdsLink foundToo (by rw [writingToo]; rfl))
          congr 1
          omega
  | caller stands controls =>
      cases second with
      | caller standsToo controlsToo =>
          rw [sound.controller_unique newest laned stands standsToo controls controlsToo]

end Occupants

/--
After every course of actions, with a source of devices that leaves open devices alone: no two
threads have a transfer in progress on the same lane, on whatever handles they make it.
-/
theorem transfer_unique_on_lane {locator : Locator} {settings : Settings} {actions : List Action}
    {connection : Connection} (aloof : locator.source.Aloof)
    (ran : (fresh locator settings).run? actions = some connection) {lane : Lane}
    {one other : Thread} (busy : connection.lane? one = some lane)
    (busyToo : connection.lane? other = some lane) : one = other := by
  have sound := sound_of_run ran
  exact sound.occupant_unique (newest_of_run ran) (laned_of_run ran) (sound.occupant aloof busy)
    (sound.occupant aloof busyToo)

/-- A read polls, a write is sent, and of two callers that configure the line the first sends. -/
def fillsLanes : List Action :=
  Sample.opens ++
    [.startRead 4 (.ok ()), .advance (.reader 0), .startWrite [1], .advance (.writer 0),
      .invoke (.setLineConfig {}) (.ok ()), .invoke (.set { dtr := some true }) (.ok ()),
      .advance (.call 1), .advance (.call 1), .advance (.call 2)]

theorem fillsLanes_alone :
    ∃ connection, Sample.connection.run? fillsLanes = some connection ∧
      connection.lane? (.reader 0) = some .input ∧ connection.lane? (.writer 0) = some .output ∧
      connection.lane? (.call 1) = some .control ∧
      connection.step? (.advance (.call 2)) = none ∧
      (∀ thread, connection.lane? thread = some .input → thread = .reader 0) ∧
      (∀ thread, connection.lane? thread = some .output → thread = .writer 0) ∧
      ∀ thread, connection.lane? thread = some .control → thread = .call 1 := by
  have ran : Sample.connection.run? fillsLanes = some (Sample.after fillsLanes) := rfl
  have input : (Sample.after fillsLanes).lane? (.reader 0) = some .input := rfl
  have output : (Sample.after fillsLanes).lane? (.writer 0) = some .output := rfl
  have control : (Sample.after fillsLanes).lane? (.call 1) = some .control := rfl
  refine ⟨_, ran, input, output, control, rfl, ?_, ?_, ?_⟩
  · exact fun thread busy => transfer_unique_on_lane Source.direct_aloof ran busy input
  · exact fun thread busy => transfer_unique_on_lane Source.direct_aloof ran busy output
  · exact fun thread busy => transfer_unique_on_lane Source.direct_aloof ran busy control

end Connection

end CdcSerial
