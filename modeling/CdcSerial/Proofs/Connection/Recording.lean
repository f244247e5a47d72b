import CdcSerial.Proofs.Connection.Lifecycle

/-!
# The recorded read

The link records the read that the port is busy with. A new read is admitted only when the
recorded one has ended, so a worker that has not ended is always the recorded one, and a caller
that closes the port need only wait for that one. `Recorded` states this, and that nobody takes
the link before all workers have ended.
-/

namespace CdcSerial

/-- The read that a closing caller waits for. -/
def Task.stopped? : Task → Option Nat
  | .cancelling read => some read
  | .awaitingReader read _ => some read
  | _ => none

theorem Task.part_of_stopped? {task : Task} {number : Nat} (stops : task.stopped? = some number) :
    task.part = .stopper := by
  cases task with
  | cancelling => rfl
  | awaitingReader => rfl
  | _ => cases stops

theorem Read.isFinished_eq_true {read : Read} :
    read.isFinished = true ↔ ∃ ending, read.stage = .ended ending := by
  simp only [isFinished, Option.isSome_iff_exists, ending?_eq_some]

theorem Read.isFinished_eq_false {read : Read} :
    read.isFinished = false ↔ ∀ ending, read.stage ≠ .ended ending := by
  rw [← Bool.not_eq_true, isFinished_eq_true, not_exists]

namespace Connection

/-- The session and the recorded read of the link, if there is a link. -/
def duty? (connection : Connection) : Option (Nat × Option Nat) :=
  connection.link.map fun link => (link.session, link.reader)

/-- A read of a session whose worker has not ended. -/
def Unfinished (connection : Connection) (number session : Nat) : Prop :=
  ∃ read, connection.reads[number]? = some read ∧ read.session = session ∧ read.isFinished = false

/-- A worker that has not ended is recorded, and nobody takes the link while there is one. -/
structure Recorded (connection : Connection) : Prop where
  unfinished : ∀ {number session}, connection.Unfinished number session →
    connection.duty? = some (session, some number)
  stopping : ∀ {task number}, task ∈ connection.tasks → task.stopped? = some number →
    ∃ session, connection.duty? = some (session, some number)
  taking : .takingLink ∈ connection.tasks →
    ∀ {number session}, ¬connection.Unfinished number session

/-! ### Reads that stay unfinished -/

/--
A change of a read that keeps its session and does not revive its worker adds no unfinished
read.
-/
theorem Unfinished.of_changeRead {connection : Connection} {changed number session : Nat}
    {change : Read → Read}
    (unfinished : (connection.changeRead changed change).Unfinished number session)
    (keeps : ∀ read, connection.reads[changed]? = some read → (change read).session = read.session ∧
      ((change read).isFinished = false → read.isFinished = false)) :
    connection.Unfinished number session := by
  rcases unfinished with ⟨read, found, inSession, running⟩
  simp only [changeRead, List.getElem?_modify] at found
  rcases Option.map_eq_some_iff.mp found with ⟨old, oldFound, eq⟩
  by_cases same : changed = number
  · subst same
    simp only [if_true] at eq
    subst eq
    exact ⟨old, oldFound, (keeps old oldFound).1 ▸ inSession, (keeps old oldFound).2 running⟩
  · simp only [same, if_false] at eq
    subst eq
    exact ⟨old, oldFound, inSession, running⟩

theorem Unfinished.of_setCustody {connection : Connection} {changed number session : Nat}
    {custody : Custody}
    (unfinished : (connection.setCustody changed custody).Unfinished number session) :
    connection.Unfinished number session :=
  unfinished.of_changeRead fun _ _ => ⟨rfl, id⟩

theorem Unfinished.of_cancel {connection : Connection} {changed number session : Nat}
    (unfinished : (connection.cancel changed).Unfinished number session) :
    connection.Unfinished number session :=
  unfinished.of_changeRead fun _ _ => ⟨rfl, id⟩

theorem ReaderTurn.unfinished {before after : Connection} {read : Read} {stage : ReaderStage}
    (turn : ReaderTurn before read after stage) : read.isFinished = false := by
  rw [Read.isFinished_eq_false]
  intro ending ended
  cases turn <;> simp_all

theorem ReaderAnswer.unfinished {before : Connection} {read : Read} {session : Session}
    {request : Request} {reply : request.Reply} {stage : ReaderStage}
    (answer : ReaderAnswer before read session request reply stage) : read.isFinished = false := by
  rw [Read.isFinished_eq_false]
  intro ending ended
  cases answer <;> simp_all

theorem Unfinished.of_setReader {connection : Connection} {changed number session : Nat}
    {read : Read} {stage : ReaderStage} (found : connection.reads[changed]? = some read)
    (running : read.isFinished = false)
    (unfinished : (connection.setReader changed stage).Unfinished number session) :
    connection.Unfinished number session := by
  refine unfinished.of_changeRead fun old oldFound => ⟨rfl, fun _ => ?_⟩
  rw [found, Option.some.injEq] at oldFound
  exact oldFound ▸ running

theorem Unfinished.of_concat {before after : Connection} {read : Read} {number session : Nat}
    (reads : after.reads = before.reads ++ [read])
    (unfinished : after.Unfinished number session) :
    before.Unfinished number session ∨
      number = before.reads.length ∧ session = read.session ∧ read.isFinished = false := by
  rcases unfinished with ⟨found, foundAt, inSession, running⟩
  rw [reads, List.getElem?_append] at foundAt
  split at foundAt
  · exact .inl ⟨found, foundAt, inSession, running⟩
  · rename_i outside
    rcases List.getElem?_eq_some_iff.mp foundAt with ⟨inside, eq⟩
    simp only [List.length_singleton] at inside
    simp only [List.getElem_singleton] at eq
    subst eq
    exact .inr ⟨by omega, inSession.symm, running⟩

/-! ### The recorded read stays recorded -/

/--
A step keeps the record if it does not touch the link, revives no worker and makes nobody stop
one.
-/
theorem Recorded.of_quiet {before after : Connection} (recorded : before.Recorded)
    (duty : after.duty? = before.duty?)
    (unfinished : ∀ {number session}, after.Unfinished number session →
      before.Unfinished number session)
    (tasks : ∀ task ∈ after.tasks, task ∈ before.tasks ∨ task.part ≠ .stopper) :
    after.Recorded where
  unfinished := fun running => duty ▸ recorded.unfinished (unfinished running)
  stopping := by
    intro task number member stops
    rcases tasks task member with old | other
    · exact duty ▸ recorded.stopping old stops
    · exact absurd (Task.part_of_stopped? stops) other
  taking := by
    intro member number session running
    rcases tasks _ member with old | other
    · exact recorded.taking old (unfinished running)
    · exact absurd rfl other

theorem duty?_of_openLink? {connection : Connection} {link : Link}
    (opened : connection.openLink? = some link) :
    connection.duty? = some (link.session, link.reader) := by
  simp [duty?, (openLink?_eq_some.mp opened).2]

theorem Recorded.none_unfinished {connection : Connection} {link : Link} {number session : Nat}
    (recorded : connection.Recorded) (opened : connection.openLink? = some link)
    (idle : connection.isReading link = false) : ¬connection.Unfinished number session := by
  intro unfinished
  have duty := recorded.unfinished unfinished
  rcases unfinished with ⟨read, found, inSession, running⟩
  rw [duty?_of_openLink? opened, Option.some.injEq, Prod.mk.injEq] at duty
  simp [isReading, duty.2, found, running] at idle

/-- Where nobody opens or closes the port, the record is only about the workers. -/
theorem Recorded.of_bystanders {connection : Connection}
    (bystanders : ∀ task ∈ connection.tasks, task.part = .bystander)
    (unfinished : ∀ {number session}, connection.Unfinished number session →
      connection.duty? = some (session, some number)) : connection.Recorded where
  unfinished := unfinished
  stopping := by
    intro task number member stops
    have part := Task.part_of_stopped? stops
    simp [bystanders task member] at part
  taking := by
    intro member
    cases bystanders _ member

theorem Recorded.of_readStart {before after : Connection} {length : Nat}
    {result : Except Error Nat} (recorded : before.Recorded) (orderly : before.Orderly)
    (start : ReadStart before length after result) : after.Recorded := by
  cases start with
  | refused => exact recorded
  | served journal opened idle ready =>
      refine .of_bystanders (fun task member => orderly.bystander_of_openLink? opened member) ?_
      intro number session unfinished
      rcases unfinished.of_concat rfl with old | ⟨_, _, running⟩
      · exact absurd old (recorded.none_unfinished opened idle)
      · cases running
  | notStarted cause opened idle =>
      refine .of_bystanders (fun task member => orderly.bystander_of_openLink? opened member) ?_
      intro number session unfinished
      exact absurd unfinished (recorded.none_unfinished opened idle)
  | polls opened idle wanted empty =>
      refine .of_bystanders (fun task member => orderly.bystander_of_openLink? opened member) ?_
      intro number session unfinished
      rcases unfinished.of_concat rfl with old | ⟨rfl, rfl, _⟩
      · exact absurd old (recorded.none_unfinished opened idle)
      · rfl

/-- A new caller that stops no worker does not touch the record. -/
theorem Recorded.of_entrant {before after : Connection} {task : Task} (recorded : before.Recorded)
    (duty : after.duty? = before.duty?)
    (unfinished : ∀ {number session}, after.Unfinished number session →
      before.Unfinished number session)
    (tasks : after.tasks = before.tasks) (part : task.part ≠ .stopper) :
    (after.addTask task).Recorded := by
  refine recorded.of_quiet duty unfinished ?_
  intro other member
  rcases List.mem_append.mp member with old | new
  · exact .inl (tasks ▸ old)
  · exact .inr (List.mem_singleton.mp new ▸ part)

theorem Recorded.of_entry {before after : Connection} {call : Call} {task : Task}
    (recorded : before.Recorded) (orderly : before.Orderly) (entry : Entry before call after task) :
    (after.addTask task).Recorded := by
  cases entry with
  | refuses => exact recorded.of_entrant rfl id rfl (by simp [Task.failed, Task.part])
  | lists => exact recorded.of_entrant rfl id rfl (by simp [Task.part])
  | opens asked closed => exact recorded.of_entrant rfl id rfl (by simp [Task.part])
  | reads fits start =>
      exact (recorded.of_readStart orderly start).of_entrant rfl Unfinished.of_setCustody rfl
        (by simp [Task.part])
  | readFails fits start =>
      exact (recorded.of_readStart orderly start).of_entrant rfl id rfl
        (by simp [Task.failed, Task.part])
  | waits => exact recorded.of_entrant rfl Unfinished.of_setCustody rfl (by simp [Task.part])
  | waitsInto => exact recorded.of_entrant rfl Unfinished.of_setCustody rfl (by simp [Task.part])
  | writes start =>
      rcases start.frame with ⟨sessions, writes, rfl⟩
      exact recorded.of_entrant rfl id rfl (by simp [Task.part])
  | configures asked opened found => exact recorded.of_entrant rfl id rfl (by simp [Task.part])
  | closesReading opened noted =>
      refine ⟨recorded.unfinished, ?_, ?_⟩
      · intro task number member stops
        rcases List.mem_append.mp member with old | new
        · exact recorded.stopping old stops
        · rw [List.mem_singleton.mp new] at stops
          simp only [Task.stopped?, Option.some.injEq] at stops
          subst stops
          exact ⟨_, noted ▸ duty?_of_openLink? opened⟩
      · intro member
        rcases List.mem_append.mp member with old | new
        · exact recorded.taking old
        · cases List.mem_singleton.mp new
  | closesIdle opened idle =>
      have ended : ∀ {number session}, ¬before.Unfinished number session :=
        recorded.none_unfinished opened (by simp [isReading, idle])
      refine ⟨recorded.unfinished, ?_, fun _ => ended⟩
      intro task number member stops
      rcases List.mem_append.mp member with old | new
      · exact recorded.stopping old stops
      · rw [List.mem_singleton.mp new] at stops
        cases stops

theorem mem_setTask {connection : Connection} {call : Nat} {next task : Task}
    (member : task ∈ (connection.setTask call next).tasks) :
    task ∈ connection.tasks ∨ task = next :=
  List.mem_or_eq_of_mem_set member

/-- A turn that does not touch the link, revives no worker and leaves the caller no stopper. -/
theorem Recorded.of_turner {before after : Connection} {call : Nat} {next : Task}
    (recorded : before.Recorded) (duty : after.duty? = before.duty?)
    (unfinished : ∀ {number session}, after.Unfinished number session →
      before.Unfinished number session)
    (tasks : after.tasks = before.tasks) (part : next.part ≠ .stopper) :
    (after.setTask call next).Recorded := by
  refine recorded.of_quiet duty unfinished ?_
  intro task member
  rcases mem_setTask member with old | rfl
  · exact .inl (tasks ▸ old)
  · exact .inr part

theorem Recorded.of_turn {before after : Connection} {call : Nat} {task next : Task}
    (recorded : before.Recorded) (orderly : before.Orderly)
    (later : (after.setTask call next).Orderly) (stands : before.tasks[call]? = some task)
    (turn : Turn before call task after next) : (after.setTask call next).Recorded := by
  have member := List.mem_of_getElem? stands
  cases turn with
  | lists progress =>
      rcases progress.only_tells with ⟨journal, rfl⟩
      exact recorded.of_turner rfl id rfl (by simp [Task.part])
  | opens progress =>
      rcases progress.only_tells with ⟨journal, rfl⟩
      exact recorded.of_turner rfl id rfl (by simp [Task.part])
  | releases progress =>
      rcases progress.only_tells with ⟨journal, rfl⟩
      exact recorded.of_turner rfl id rfl (by simp [Task.part])
  | configures progress =>
      obtain ⟨journal, rfl⟩ | rfl := progress.only_lane <;>
        exact recorded.of_turner rfl id rfl (by simp [Task.part])
  | installs =>
      -- Before the link is installed there is none, so all workers have ended.
      have bare := (orderly.of_opener member rfl).2
      have ended {number session : Nat} : ¬before.Unfinished number session := by
        intro unfinished
        have duty := recorded.unfinished unfinished
        simp [duty?, bare] at duty
      refine .of_bystanders (fun task member => ?_) fun unfinished => absurd unfinished ended
      exact later.bystander_of_openLink? (openLink?_eq_some.mpr ⟨rfl, rfl⟩) member
  | takesLink held =>
      -- The caller was the only stopper, and the workers have ended.
      have gone {task : Task} (member : task ∈ (Connection.setTask _ call _).tasks) :
          task.part ≠ .stopper := fun part => by
        have linked := (later.of_stopper member part).2
        cases linked
      refine ⟨fun unfinished => absurd unfinished (recorded.taking member), ?_, ?_⟩
      · intro task number member stops
        exact absurd (Task.part_of_stopped? stops) (gone member)
      · intro member
        exact absurd rfl (gone member)
  | cancels known =>
      refine ⟨fun unfinished => recorded.unfinished unfinished.of_cancel, ?_, ?_⟩
      · intro task number later stops
        rcases mem_setTask later with old | rfl
        · exact recorded.stopping old stops
        · exact recorded.stopping member stops
      · intro later number session unfinished
        rcases mem_setTask later with old | same
        · exact recorded.taking old unfinished.of_cancel
        · cases same
  | overflows unknown =>
      exact recorded.of_turner rfl Unfinished.of_cancel rfl (by simp [Task.part])
  | readerStopped found stopped =>
      -- A worker that has not ended would be the recorded one, and that one has.
      rcases recorded.stopping member rfl with ⟨recordedSession, duty⟩
      refine ⟨recorded.unfinished, ?_, ?_⟩
      · intro task number later stops
        rcases mem_setTask later with old | rfl
        · exact recorded.stopping old stops
        · cases stops
      · intro _ number session unfinished
        have same := recorded.unfinished unfinished
        rw [duty] at same
        simp only [Option.some.injEq, Prod.mk.injEq] at same
        rcases unfinished with ⟨read, foundAt, _, running⟩
        change before.reads[number]? = some read at foundAt
        rw [← same.2, found, Option.some.injEq] at foundAt
        simp [← foundAt, stopped] at running
  | records =>
      refine recorded.of_turner ?_ id rfl (by simp [Task.succeeded, Task.part])
      simp [duty?, recordLine, Function.comp_def]
  | fetchesWrite found ended =>
      exact recorded.of_turner rfl id rfl (by simp [writeEnding?_part ended])
  | returnsTicket => exact recorded.of_turner rfl id rfl (by simp [afterTicket_part])
  | fetchesError found ended =>
      exact recorded.of_turner rfl Unfinished.of_setCustody rfl (by simp [Task.failed, Task.part])
  | fetchesBytes found ended =>
      exact recorded.of_turner rfl Unfinished.of_setCustody rfl
        (by simp [Task.succeeded, Task.part])
  | stores found ended fits =>
      exact recorded.of_turner rfl Unfinished.of_setCustody rfl
        (by simp [Task.succeeded, Task.part])
  | spills found ended short =>
      exact recorded.of_turner rfl Unfinished.of_setCustody rfl (by simp [Task.part])
  | _ => exact recorded.of_turner rfl id rfl (by simp [Task.failed, Task.succeeded, Task.part])

theorem fresh_recorded (locator : Locator) (settings : Settings) :
    (fresh locator settings).Recorded where
  unfinished := fun ⟨_, found, _⟩ => by cases found
  stopping := fun member => by cases member
  taking := fun member => by cases member

theorem Recorded.of_move {before after : Connection} {action : Action}
    {exchange? : Option Exchange} (recorded : before.Recorded) (orderly : before.Orderly)
    (move : Move before action exchange? after) : after.Recorded := by
  have later := orderly.of_move move
  cases move with
  | enters permitted entry => exact recorded.of_entry orderly entry
  | startsRead start => exact recorded.of_readStart orderly start
  | startsWrite start =>
      rcases start.frame with ⟨sessions, writes, rfl⟩
      exact recorded.of_quiet rfl id fun task member => .inl member
  | cancels => exact recorded.of_quiet rfl Unfinished.of_cancel fun task member => .inl member
  | turns stands turn => exact recorded.of_turn orderly later stands turn
  | @answered call task request replies changed next stands answer =>
      have part : next.part ≠ .stopper := by cases answer <;> simp [Task.part]
      rcases answer.frame with ⟨_, sessions, rfl⟩
      exact recorded.of_turner rfl id rfl part
  | readerTurns found turn =>
      have running := turn.unfinished
      rcases turn.frame with ⟨backlog, sessions, rfl⟩
      exact recorded.of_quiet rfl (Unfinished.of_setReader found running)
        fun task member => .inl member
  | readerAnswered found held answer =>
      exact recorded.of_quiet rfl (Unfinished.of_setReader found answer.unfinished)
        fun task member => .inl member
  | writerTurns found turn =>
      rcases turn.frame with ⟨sessions, writes, rfl⟩
      exact recorded.of_quiet rfl id fun task member => .inl member
  | writerAnswered found answer =>
      rcases answer.frame with ⟨sessions, writes, rfl⟩
      exact recorded.of_quiet rfl id fun task member => .inl member
  | expires stands found unfinished =>
      refine ⟨recorded.unfinished, ?_, ?_⟩
      · intro task number later stops
        rcases mem_setTask later with old | rfl
        · exact recorded.stopping old stops
        · cases stops
      · intro later
        rcases mem_setTask later with old | same
        · exact recorded.taking old
        · cases same

end Connection

end CdcSerial
