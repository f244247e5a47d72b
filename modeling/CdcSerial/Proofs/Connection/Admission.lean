import CdcSerial.Proofs.Connection.Forgetting
import CdcSerial.Proofs.Connection.Polling
import CdcSerial.Proofs.Connection.Ranges

/-!
# Which reads are admitted

A port serves one worker of a read at a time. `latest?` looks back along a course of actions for the
worker that was started last in a session, and a new read is refused exactly while that one has not
reached a terminal phase. A read that is not refused is served from the backlog or gets a worker of
its own.

A start that fails leaves no trace, with one exception. Before it asks the system for a worker it
forgets the read that was recorded, and this is seen if no close could return because of that read:
the failed start has made the port closable (`Blocked`).
-/

namespace CdcSerial

namespace Connection

/-! ### The worker that was started last -/

/-- The session and the number of the read for which a step starts a worker. -/
def spawns (before : Connection) (_ : Action) (after : Connection) : List (Nat × Nat) :=
  match after.reads[before.reads.length]? with
  | some read => if read.isFinished then [] else [(read.session, before.reads.length)]
  | none => []

/-- The read whose worker was the last one to be started in a session. -/
def latest? (start : Connection) (actions : List Action) (session : Nat) : Option Nat :=
  ((start.along spawns actions).filter (·.1 == session)).getLast?.map (·.2)

section Latest

variable {before after : Connection} {action : Action} {exchange? : Option Exchange}
  {number session : Nat} {read : Read}

/-- A worker is started where none is at work. -/
theorem ReadStart.spawn {length : Nat} {result : Except Error Nat} (recorded : before.Recorded)
    (start : ReadStart before length after result) (new : before.reads.length ≤ number)
    (found : after.reads[number]? = some read) (running : read.isFinished = false) :
    number = before.reads.length ∧ ∀ {other session}, ¬before.Unfinished other session := by
  have inside := (List.getElem?_eq_some_iff.mp found).1
  cases start with
  | refused => omega
  | notStarted =>
      change number < before.reads.length at inside
      omega
  | served journal opened idle =>
      rw [List.getElem?_append_right new] at found
      cases List.mem_singleton.mp (List.mem_of_getElem? found)
      cases running
  | polls opened idle =>
      simp only [List.length_append, List.length_singleton] at inside
      exact ⟨by omega, recorded.none_unfinished opened idle⟩

theorem Move.spawn (recorded : before.Recorded) (move : Move before action exchange? after)
    (new : before.reads.length ≤ number) (found : after.reads[number]? = some read)
    (running : read.isFinished = false) :
    number = before.reads.length ∧ ∀ {other session}, ¬before.Unfinished other session := by
  rcases move.exists_start new found with ⟨length, changed, result, same, start, there, stage, -⟩
  refine start.spawn recorded new there ?_
  rw [Read.isFinished_eq_false, stage]
  exact Read.isFinished_eq_false.mp running

/-- A worker that has not ended is still at work or was started in the step. -/
theorem Move.unfinished_cases (recorded : before.Recorded)
    (move : Move before action exchange? after) (unfinished : after.Unfinished number session) :
    before.Unfinished number session ∧ spawns before action after = [] ∨
      spawns before action after = [(session, number)] := by
  rcases unfinished with ⟨read, found, rfl, running⟩
  rcases Nat.lt_or_ge number before.reads.length with old | new
  · have there := List.getElem?_eq_getElem old
    rcases move.readFate there with ⟨next, thereNext, fate⟩
    cases found.symm.trans thereNext
    have stays : before.Unfinished number read.session := by
      refine ⟨_, there, fate.frame.2.symm, ?_⟩
      rw [Read.isFinished_eq_false]
      intro ending ended
      exact Read.isFinished_eq_false.mp running ending (fate.ended ended)
    refine .inl ⟨stays, ?_⟩
    unfold spawns
    cases added : after.reads[before.reads.length]? with
    | none => rfl
    | some other =>
        cases finished : other.isFinished with
        | true => simp [finished]
        | false => exact absurd stays (move.spawn recorded (Nat.le_refl _) added finished).2
  · right
    rcases move.spawn recorded new found running with ⟨rfl, -⟩
    simp [spawns, found, running]

/-- A worker that has not ended is the one that was started last in its session. -/
theorem latest?_of_run {locator : Locator} {settings : Settings} {actions : List Action}
    {connection : Connection} (ran : (fresh locator settings).run? actions = some connection)
    (unfinished : connection.Unfinished number session) :
    (fresh locator settings).latest? actions session = some number := by
  refine run_induction (motive := fun actions connection => ∀ {number session},
    connection.Unfinished number session →
      (fresh locator settings).latest? actions session = some number) ?_ ?_ ran unfinished
  · rintro number session ⟨read, found, -⟩
    cases found
  intro actions middle action final ranBefore holds stepped number session unfinished
  have appended : (fresh locator settings).along spawns (actions ++ [action]) =
    (fresh locator settings).along spawns actions ++ spawns middle action final :=
    along_concat ranBefore stepped
  rcases (Move.of_step? stepped).unfinished_cases (sound_of_run ranBefore).recorded unfinished with
    ⟨before, empty⟩ | one
  · rw [latest?, appended, empty, List.append_nil]
    exact holds before
  · rw [latest?, appended, one]
    simp

end Latest

/-! ### Refusal -/

section Refusal

variable {connection : Connection} {link : Link} {length : Nat}

theorem startRead_of_reading {started : Except SystemError Unit}
    (opened : connection.openLink? = some link)
    (reading : connection.isReading link = true) :
    connection.startRead length started = (connection, .error .readInProgress) := by
  simp [startRead, admission, opened, reading]

/-- Where a worker is needed, the system decides. -/
theorem startRead_result (started : Except SystemError Unit)
    (opened : connection.openLink? = some link)
    (idle : connection.isReading link = false) (wanted : length ≠ 0)
    (empty : connection.backlog = []) :
    (connection.startRead length started).2 =
      match started with
      | .ok () => .ok connection.reads.length
      | .error cause => .error (.system cause) := by
  have polls : connection.admission length = .polls link := by
    simp [admission, opened, idle, wanted, empty]
  cases started with
  | ok _ => simp [startRead, polls, addRead, changeSession]
  | error cause => simp [startRead, polls]

/-- The recorded read is at work just while the worker that was started last is. -/
theorem isReading_iff {locator : Locator} {settings : Settings} {actions : List Action}
    (ran : (fresh locator settings).run? actions = some connection)
    (opened : connection.openLink? = some link) :
    connection.isReading link = true ↔ ∃ number read,
      (fresh locator settings).latest? actions link.session = some number ∧
        connection.reads[number]? = some read ∧ read.phase.isTerminal = false := by
  have recorded := (sound_of_run ran).recorded
  have conclusive := conclusive_of_run ran
  constructor
  · intro reading
    unfold isReading at reading
    cases noted : link.reader.bind (connection.reads[·]?) with
    | none => simp [noted] at reading
    | some read =>
        rcases Option.bind_eq_some_iff.mp noted with ⟨number, -, found⟩
        have running : read.isFinished = false := by simpa [noted] using reading
        have unfinished : connection.Unfinished number read.session := ⟨read, found, rfl, running⟩
        have duty := recorded.unfinished unfinished
        rw [duty?_of_openLink? opened, Option.some.injEq, Prod.mk.injEq] at duty
        refine ⟨number, read, ?_, found, (conclusive.isTerminal_eq found).trans running⟩
        rw [duty.1]
        exact latest?_of_run ran unfinished
  · rintro ⟨number, read, -, found, running⟩
    rw [conclusive.isTerminal_eq found] at running
    have duty := recorded.unfinished ⟨read, found, rfl, running⟩
    rw [duty?_of_openLink? opened, Option.some.injEq, Prod.mk.injEq] at duty
    simp [isReading, duty.2, found, running]

end Refusal

/-! ### Reads that are admitted -/

/-- What starting a read does not touch. -/
structure Untouched (before after : Connection) : Prop where
  state : after.state = before.state
  address : after.address? = before.address?
  line : after.lineConfig? = before.lineConfig?
  writes : after.writes = before.writes
  tasks : after.tasks = before.tasks

/--
A read of a session has been served: it is complete with the first bytes of the backlog, as many as
it asks for or there are, the others stay, and nobody polls.
-/
structure ServesRead (before : Connection) (session length : Nat) (after : Connection) : Prop where
  untouched : Untouched before after
  sessions : after.sessions = before.sessions
  reads : ∃ taken, before.backlog = taken ++ after.backlog ∧
    taken.length = min length before.backlog.length ∧
    after.reads = before.reads ++
      [⟨session, length, false, .ended ⟨.completed, .ok taken⟩, .kept⟩]
  silent : ∀ actions final, after.run? actions = some final →
    eventsOf (.reader before.reads.length) (after.exchanges actions) = []

/--
A read of a session has a worker of its own, which has a clone of the handle and does nothing but
poll as the settings say.
-/
structure SpawnsRead (before : Connection) (session length : Nat) (after : Connection) : Prop where
  untouched : Untouched before after
  backlog : after.backlog = before.backlog
  sessions : after.sessions =
    before.sessions.modify session fun session => { session with clones := session.clones + 1 }
  reads : after.reads = before.reads ++ [⟨session, length, false, .checking, .kept⟩]
  recorded : after.reader? = some before.reads.length
  works : ∀ actions final, after.run? actions = some final → ∃ handle next,
    final.reads[before.reads.length]? = some next ∧
      Worked after handle before.reads.length ⟨session, length, false, .checking, .kept⟩ next
        actions final

section Admitted

variable {connection after : Connection} {number length : Nat} {link : Link}

theorem untouched_of_link {reader : Option Nat} {backlog : List UInt8} {sessions : List Session}
    {reads : List Read} {journal : List Message} (held : connection.link = some link) :
    Untouched connection
      { connection with link := some { link with reader }, backlog, sessions, reads, journal } :=
  ⟨rfl, by simp [address?, held], by simp [lineConfig?, held], rfl, rfl⟩

/-- The worker of a read that has ended asks for nothing. -/
theorem silent_of_ended {read : Read} {ending : ReadEnding} {actions : List Action}
    {final : Connection} (found : connection.reads[number]? = some read)
    (ended : read.stage = .ended ending) (ran : connection.run? actions = some final) :
    eventsOf (.reader number) (connection.exchanges actions) = [] := by
  refine run_induction (motive := fun actions _ =>
    eventsOf (.reader number) (connection.exchanges actions) = []) rfl ?_ ran
  intro actions middle action final ranBefore silent stepped
  rcases read_of_run (fun fate => fate.ended) found ended ranBefore with ⟨next, there, still⟩
  rw [exchanges_concat ranBefore stepped, eventsOf_append, silent, List.nil_append]
  cases action with
  | answer asker replies =>
      by_cases own : asker = .reader number
      · subst own
        have unasked : middle.pending? (.reader number) = none := by
          cases held : middle.sessions[next.session]? <;>
            simp [pending?, readerPending?, there, still, held]
        simp [exchange?, unasked, eventsOf]
      · cases waits : middle.pending? asker with
        | none => simp [exchange?, waits, eventsOf]
        | some pending => simp [exchange?, waits, eventsOf, own]
  | _ => rfl

/-- A read that finds bytes, or wants none, is served. -/
theorem ReadStart.servesRead {result : Except Error Nat}
    (start : ReadStart connection length after result) (opened : connection.openLink? = some link)
    (idle : connection.isReading link = false) (ready : length = 0 ∨ connection.backlog ≠ []) :
    result = .ok connection.reads.length ∧ ServesRead connection link.session length after := by
  cases start with
  | refused reason =>
      rcases admission_eq_refused.mp reason with ⟨shut, -⟩ | ⟨same, openedToo, reading, -⟩
      · cases shut.symm.trans opened
      · cases openedToo.symm.trans opened
        cases idle.symm.trans reading
  | notStarted cause _ _ wanted empty => exact absurd empty (ready.resolve_left wanted)
  | polls _ _ wanted empty => exact absurd empty (ready.resolve_left wanted)
  | served journal openedToo =>
      cases openedToo.symm.trans opened
      have held := (openLink?_eq_some.mp opened).2
      refine ⟨rfl, untouched_of_link held, rfl, ?_, ?_⟩
      · refine ⟨connection.backlog.take length, ?_, List.length_take, rfl⟩
        exact (List.take_append_drop length connection.backlog).symm
      · intro actions final ran
        exact silent_of_ended List.getElem?_concat_length rfl ran

/-- A read that gets a worker keeps it. -/
theorem ReadStart.spawnsRead {locator : Locator} {settings : Settings} {actions : List Action}
    (start : ReadStart connection length after (.ok number))
    (ran : (fresh locator settings).run? actions = some after)
    (opened : connection.openLink? = some link) (wanted : length ≠ 0)
    (empty : connection.backlog = []) : SpawnsRead connection link.session length after := by
  cases start with
  | served journal _ _ ready => exact absurd empty (ready.resolve_left wanted)
  | polls openedToo =>
      cases openedToo.symm.trans opened
      have held := (openLink?_eq_some.mp opened).2
      refine ⟨untouched_of_link held, rfl, rfl, rfl, rfl, ?_⟩
      intro more final ranOn
      exact worked_of_run ran List.getElem?_concat_length rfl ranOn

end Admitted

/-! ### Starts that fail -/

/--
That no close of the port would return: it would have a read to wait for, and twice the poll timeout
is out of range.
-/
def Blocked (connection : Connection) : Prop :=
  connection.reader? ≠ none ∧ connection.settings.effectiveDeadline? = none

/-- That a close has no read to wait for, and that nobody waits for one. -/
structure Unhindered (connection : Connection) : Prop where
  unrecorded : connection.reader? = none
  calm : ∀ task ∈ connection.tasks, task.stopped? = none

section Failing

variable {before after : Connection} {action : Action} {call number : Nat} {link : Link}

theorem Turn.unhindered {task next : Task} (turn : Turn before call task after next)
    (calm : task.stopped? = none) : next.stopped? = none ∧ next ≠ .finished .overflowed := by
  cases turn with
  | cancels => cases calm
  | overflows => cases calm
  | @fetchesWrite number write next found ended =>
      unfold writeEnding? at ended
      split at ended <;> cases ended <;> exact ⟨rfl, by simp [Task.failed, Task.succeeded]⟩
  | returnsTicket =>
      unfold afterTicket
      split
      · exact ⟨rfl, by simp⟩
      · unfold Task.ended
        split <;> exact ⟨rfl, by simp [Task.failed, Task.succeeded]⟩
  | _ => exact ⟨rfl, by simp [Task.failed, Task.succeeded]⟩

/-- A close that has no read to wait for does not overflow. -/
theorem Unhindered.of_step (free : before.Unhindered)
    (kind : action.isVisible = false ∨ action = .invoke .close (.ok ()))
    (stepped : before.step? action = some after) :
    after.Unhindered ∧ ∀ call : Nat, after.tasks[call]? = some (.finished .overflowed) →
      before.tasks[call]? = some (.finished .overflowed) := by
  have move := Move.of_step? stepped
  generalize before.exchange? action = exchange? at move
  cases move with
  | @turns mover task changed next stands turn =>
      rcases turn.unhindered (free.calm task (List.mem_of_getElem? stands)) with ⟨calm, unfailed⟩
      refine ⟨⟨?_, ?_⟩, ?_⟩
      · rcases turn.reader?_eq with same | gone
        · exact same.trans free.unrecorded
        · exact gone
      · intro other member
        rcases mem_setTask member with old | rfl
        · exact free.calm other (turn.tasks_eq ▸ old)
        · exact calm
      · intro call ended
        simp only [setTask, turn.tasks_eq, List.getElem?_set] at ended
        split at ended
        · simp only [Option.ite_none_right_eq_some, Option.some.injEq] at ended
          exact absurd ended.2 unfailed
        · exact ended
  | @enters made started changed task permitted entry =>
      rcases kind with hidden | same
      · cases hidden
      have entered : changed.reader? = none ∧ changed.tasks = before.tasks ∧ task.stopped? = none ∧
          task ≠ .finished .overflowed := by
        cases same
        cases entry with
        | refuses reason => exact ⟨free.unrecorded, rfl, rfl, by simp [Task.failed]⟩
        | opens asked => cases asked
        | configures asked => cases asked
        | closesReading opened recorded =>
            have noted := free.unrecorded
            simp [reader?, (openLink?_eq_some.mp opened).2, recorded] at noted
        | closesIdle => exact ⟨free.unrecorded, rfl, rfl, by simp⟩
      rcases entered with ⟨unrecorded, tasks, calm, unfailed⟩
      refine ⟨⟨unrecorded, ?_⟩, ?_⟩
      · intro other member
        rcases List.mem_append.mp member with old | new
        · exact free.calm other (tasks ▸ old)
        · exact List.mem_singleton.mp new ▸ calm
      · intro call ended
        rw [addTask, tasks, List.getElem?_append] at ended
        split at ended
        · exact ended
        · exact absurd (List.mem_singleton.mp (List.mem_of_getElem? ended)).symm unfailed
  | _ => rcases kind with hidden | same <;> contradiction

theorem Unhindered.of_run {actions : List Action} (free : before.Unhindered)
    (kinds : ∀ action ∈ actions, action.isVisible = false ∨ action = .invoke .close (.ok ()))
    (ran : before.run? actions = some after)
    (ended : after.tasks[call]? = some (.finished .overflowed)) :
    before.tasks[call]? = some (.finished .overflowed) := by
  have holds := run_induction (motive := fun actions after =>
    (∀ action ∈ actions, action.isVisible = false ∨ action = .invoke .close (.ok ())) →
      after.Unhindered ∧ (after.tasks[call]? = some (.finished .overflowed) →
        before.tasks[call]? = some (.finished .overflowed))) (fun _ => ⟨free, id⟩) ?_ ran kinds
  · exact holds.2 ended
  intro actions middle action final ranBefore holds stepped kinds
  rcases holds fun other member => kinds other (List.mem_append_left _ member) with ⟨free, earlier⟩
  rcases free.of_step (kinds action List.mem_concat_self) stepped with ⟨still, back⟩
  exact ⟨still, fun ended => earlier (back call ended)⟩

/-- A close of a blocked port overflows. -/
theorem Blocked.overflows (blocked : before.Blocked) (opened : before.state = .opened) :
    ∃ final,
      before.run? [.invoke .close (.ok ()), .advance (.call before.tasks.length)] = some final ∧
      final.callEnding? before.tasks.length = some .overflowed := by
  rcases Option.ne_none_iff_exists'.mp blocked.1 with ⟨number, noted⟩
  rcases Option.bind_eq_some_iff.mp noted with ⟨link, held, recorded⟩
  have usable : before.openLink? = some link := openLink?_eq_some.mpr ⟨opened, held⟩
  simp [run?, step?, permits, invoke, enter, enterClose, usable, recorded, advance?, advanceCall?,
    blocked.2, say, cancel, changeRead, setTask, callEnding?]

/-- What a close of a blocked port does cannot be had where a close has nothing to wait for. -/
theorem Blocked.not_follows (blocked : before.Blocked) (opened : before.state = .opened)
    (free : after.Unhindered) (tasks : after.tasks = before.tasks) : ¬Follows before after := by
  intro follows
  rcases blocked.overflows opened with ⟨final, ran, ended⟩
  rcases follows _ final ran with ⟨others, reached, ranToo, same, alike⟩
  have kinds : ∀ action ∈ others, action.isVisible = false ∨ action = .invoke .close (.ok ()) := by
    intro action member
    cases visible : action.isVisible with
    | false => exact .inl rfl
    | true =>
        right
        have seen := List.mem_filter.mpr ⟨member, visible⟩
        rw [same.visible] at seen
        exact List.mem_singleton.mp seen
  have endedToo : reached.callEnding? before.tasks.length = some .overflowed :=
    (alike.calls _).trans ended
  have stands : reached.tasks[before.tasks.length]? = some (.finished .overflowed) := by
    unfold callEnding? at endedToo
    split at endedToo
    · rename_i ending found
      cases endedToo
      exact found
    · cases endedToo
  have early := free.of_run kinds ranToo stands
  rw [tasks, List.getElem?_eq_none (Nat.le_refl _)] at early
  cases early

/-- The recorded read of a port that admits another one has ended. -/
theorem hasEnded_of_idle (noted : before.Noted) (opened : before.openLink? = some link)
    (idle : before.isReading link = false) (recorded : link.reader = some number) :
    before.HasEnded number := by
  have held := (openLink?_eq_some.mp opened).2
  have inside : number < before.reads.length := noted number (by simp [reader?, held, recorded])
  refine ⟨_, List.getElem?_eq_getElem inside, ?_⟩
  simpa [isReading, recorded, List.getElem?_eq_getElem inside] using idle

/-- While a port is open nobody waits for a read to close it. -/
theorem Orderly.unhindered (orderly : before.Orderly) (opened : before.openLink? = some link) :
    Unhindered { before with link := some { link with reader := none } } := by
  refine ⟨rfl, fun task member => ?_⟩
  cases stops : task.stopped? with
  | none => rfl
  | some other =>
      have bystander := orderly.bystander_of_openLink? opened member
      rw [Task.part_of_stopped? stops] at bystander
      cases bystander

theorem forget_of_recorded (held : before.link = some link) (recorded : link.reader = some number) :
    ({ before with link := some { link with reader := none } } : Connection).forget number =
      before.forget number := by
  simp [forget, held, Link.forget, recorded]

/-- A start that fails does not show, and makes a difference only if the port was blocked. -/
theorem ReadStart.of_error {length : Nat} {error : Error} (orderly : before.Orderly)
    (noted : before.Noted) (start : ReadStart before length after (.error error)) :
    Alike before after ∧
      (Indistinct before after ↔ ¬(before.Blocked ∧ ∃ cause, error = .system cause)) := by
  cases start with
  | refused reason =>
      have refused : ¬∃ cause, error = .system cause := by
        rintro ⟨cause, rfl⟩
        rcases admission_eq_refused.mp reason with ⟨-, other⟩ | ⟨link, -, -, other⟩ <;> cases other
      exact ⟨.refl before, fun _ failed => refused failed.2, fun _ => .refl before⟩
  | @notStarted link cause opened idle =>
      have held := (openLink?_eq_some.mp opened).2
      cases recorded : link.reader with
      | none =>
          have same : { before with link := some { link with reader := none } } = before := by
            rw [← recorded, ← held]
          rw [same]
          refine ⟨.refl before, fun _ failed => failed.1.1 ?_, fun _ => .refl before⟩
          simp [reader?, held, recorded]
      | some number =>
          have ended := hasEnded_of_idle noted opened idle recorded
          have endedToo :
              HasEnded number { before with link := some { link with reader := none } } :=
            ended
          have same := forget_of_recorded held recorded
          have back := alike_forget endedToo
          rw [same] at back
          refine ⟨(alike_forget ended).trans back.symm, ?_, ?_⟩
          · rintro indistinct ⟨blocked, -⟩
            have free := orderly.unhindered opened
            exact blocked.not_follows (openLink?_eq_some.mp opened).1 free rfl indistinct.1
          · intro unblocked
            cases known : before.settings.effectiveDeadline? with
            | none =>
                refine absurd ⟨⟨?_, known⟩, cause, rfl⟩ unblocked
                simp [reader?, held, recorded]
            | some deadline => exact indistinct_of_forget ⟨ended, known⟩ ⟨endedToo, known⟩ same.symm

end Failing

/--
Which reads are admitted. A port that is not open refuses all reads, and an open one refuses them
just while the worker that was started last in the session has not reached a terminal phase. A read
that is not refused is served from the backlog, or a worker polls for it, if the system grants one.
A start that fails does not show. From then on nothing is different, except that a failure to start
a worker makes a port closable that was blocked.
-/
theorem read_admission {locator : Locator} {settings : Settings} {actions : List Action}
    {connection after : Connection} {length : Nat} {started : Except SystemError Unit}
    {result : Except Error Nat} (ran : (fresh locator settings).run? actions = some connection)
    (begun : connection.startRead length started = (after, result)) :
    (connection.state ≠ .opened → result = .error .notOpen) ∧
    (connection.state = .opened → ∃ link, connection.link = some link ∧
      (result = .error .readInProgress ↔ ∃ number read,
        (fresh locator settings).latest? actions link.session = some number ∧
          connection.reads[number]? = some read ∧ read.phase.isTerminal = false) ∧
      (result ≠ .error .readInProgress →
        (length = 0 ∨ connection.backlog ≠ [] →
          result = .ok connection.reads.length ∧ ServesRead connection link.session length after) ∧
        (length ≠ 0 → connection.backlog = [] →
          (started = .ok () → result = .ok connection.reads.length ∧
            SpawnsRead connection link.session length after) ∧
          ∀ cause, started = .error cause → result = .error (.system cause)))) ∧
    ∀ error, result = .error error → Alike connection after ∧
      (Indistinct connection after ↔ ¬(connection.Blocked ∧ ∃ cause, error = .system cause)) := by
  have sound := sound_of_run ran
  have start : ReadStart connection length after result := by
    have start := ReadStart.of_startRead connection length started
    rwa [begun] at start
  have ranOn : (fresh locator settings).run? (actions ++ [.startRead length started]) =
      some after := by
    refine run?_concat_eq_some.mpr ⟨connection, ran, ?_⟩
    rw [step?, begun]
  refine ⟨?_, ?_, ?_⟩
  · intro shut
    rw [startRead_of_not_opened shut, Prod.mk.injEq] at begun
    exact begun.2.symm
  · intro isOpen
    rcases Option.isSome_iff_exists.mp (sound.orderly.linked_of_opened isOpen) with ⟨link, held⟩
    have opened : connection.openLink? = some link := openLink?_eq_some.mpr ⟨isOpen, held⟩
    have refuses : result = .error .readInProgress ↔ connection.isReading link = true := by
      constructor
      · rintro rfl
        cases start with
        | refused reason =>
            rcases admission_eq_refused.mp reason with ⟨-, other⟩ | ⟨same, openedToo, reading, -⟩
            · cases other
            · cases openedToo.symm.trans opened
              exact reading
      · intro reading
        rw [startRead_of_reading opened reading, Prod.mk.injEq] at begun
        exact begun.2.symm
    refine ⟨link, held, refuses.trans (isReading_iff ran opened), ?_⟩
    intro admitted
    have idle : connection.isReading link = false := by simpa [refuses] using admitted
    refine ⟨start.servesRead opened idle, fun wanted empty => ?_⟩
    have answered := startRead_result started opened idle wanted empty
    rw [begun] at answered
    constructor
    · rintro rfl
      subst answered
      exact ⟨rfl, start.spawnsRead ranOn opened wanted empty⟩
    · rintro cause rfl
      exact answered
  · rintro error rfl
    exact start.of_error sound.orderly (noted_of_run ran)

/-- A port is open, and a read has received the byte that it asked for. -/
def readsOne : List Action :=
  Sample.opens ++ [.startRead 1 (.ok ()), .advance (.reader 0),
    .answer (.reader 0) (Sample.bus [5] (.ok ())), .advance (.reader 0), .advance (.reader 0),
    .advance (.reader 0)]

theorem readsOne_admits :
    let connection := Sample.after readsOne
    connection.reader? = some 0 ∧
      (connection.startRead 4 (.error .noThread)).2 = .error (.system .noThread) ∧
      Indistinct connection (connection.startRead 4 (.error .noThread)).1 ∧
      SpawnsRead connection 0 4 (connection.startRead 4 (.ok ())).1 := by
  intro connection
  have ran : Sample.connection.run? readsOne = some connection := rfl
  have opened : connection.state = .opened := rfl
  have session : connection.link.map (·.session) = some 0 := rfl
  have empty : connection.backlog = [] := rfl
  have known : connection.settings.effectiveDeadline?.isSome = true := rfl
  have fails : (connection.startRead 4 (.error .noThread)).2 = .error (.system .noThread) := rfl
  have works : (connection.startRead 4 (.ok ())).2 = .ok connection.reads.length := rfl
  refine ⟨rfl, fails, ?_, ?_⟩
  · refine ((read_admission ran (Prod.eta _).symm).2.2 _ fails).2.mpr ?_
    rintro ⟨⟨-, unknown⟩, -⟩
    rw [unknown] at known
    cases known
  · rcases (read_admission ran (Prod.eta _).symm).2.1 opened with ⟨link, held, -, admits⟩
    rw [held, Option.map_some, Option.some.injEq] at session
    rw [works] at admits
    exact session ▸ (((admits nofun).2 nofun empty).1 rfl).2

/-- A caller closes a port where no read is recorded. -/
def closesIdly : List Action :=
  List.flatten
    [[.invoke .close (.ok ()), .advance (.call 1), .advance (.writer 0), .advance (.writer 0),
        .advance (.call 1), .advance (.call 1), .advance (.call 1)],
      asks 1 (Sample.bus [] (.ok ())) 2, [.advance (.call 1), .advance (.call 1)]]

/--
A start that fails is not as if it had not been made. Without it a close does not return and the
port is closing for ever, and with it the port can be closed.
-/
theorem failed_start_unblocks :
    ∃ connection stuck closed,
      (fresh { source := .direct } unbounded).run? readsOne = some connection ∧
      (connection.startRead 1 (.error .noThread)).2 = .error (.system .noThread) ∧
      connection.run? [.invoke .close (.ok ()), .advance (.call 1)] = some stuck ∧
      stuck.callEnding? 1 = some .overflowed ∧
      (∀ more later, stuck.run? more = some later → later.state = .closing) ∧
      (connection.startRead 1 (.error .noThread)).1.run? closesIdly = some closed ∧
      closed.callEnding? 1 = some (.returned (.ok .done)) ∧ closed.state = .closed := by
  have wedged : Wedged (((fresh { source := .direct } unbounded).run?
    (readsOne ++ [.invoke .close (.ok ()), .advance (.call 1)])).getD Sample.connection) :=
    ⟨rfl, by decide⟩
  refine ⟨_, _, _, rfl, rfl, rfl, rfl, ?_, rfl, rfl, rfl⟩
  intro more later ran
  exact (wedged.of_run ran).closing

end Connection

end CdcSerial
