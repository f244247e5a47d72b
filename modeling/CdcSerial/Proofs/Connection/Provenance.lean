import CdcSerial.Proofs.Connection.Discipline
import CdcSerial.Proofs.Connection.Reception
import Mathlib.Data.List.Perm.Subperm

/-!
# Where delivered bytes come from

The backlog belongs to the connection and is emptied when a session begins. A caller that waited for
a read of an earlier session can still put bytes back after that, and reads of the new session then
deliver them. This is the only way in which a read can deliver bytes that its own session did not
receive.

The argument is a count. For one session and one value of a byte, `held` counts what its reads have
for whoever waits for them, and `returning` what callers of its reads are about to put back. While
the backlog is that of the session, what was received or strayed in has been delivered, is held, is
on its way back or is in the backlog. `Conserves` says so of one step and `Traced` of a course;
after the end of the session bytes can only disappear.
-/

namespace CdcSerial

/-- Whether a caller is about to empty the backlog. -/
def Task.isClearing : Task → Bool
  | .clearing _ _ _ => true
  | _ => false

theorem Task.part_of_isClearing {task : Task} (clearing : task.isClearing = true) :
    task.part = .opener := by
  cases task <;> first | rfl | cases clearing

/-- The bytes that a read has for whoever waits for it, if it is a read of the session. -/
def Read.keptFor (number : Nat) (read : Read) : List UInt8 :=
  if read.session = number ∧ read.custody ≠ .resolved then read.stage.held else []

namespace Connection

/-- How many sessions have emptied the backlog. The backlog is that of the last of them. -/
def cleared (connection : Connection) : Nat :=
  connection.sessions.length - connection.tasks.countP Task.isClearing

/-- The session of the read that a caller waits for. -/
def awaitedSession? (connection : Connection) (call : Nat) : Option Nat :=
  ((connection.tasks[call]?.bind Task.awaited?).bind (connection.reads[·]?)).map (·.session)

/-- The session of the read that a new caller waits for. -/
def waiter (before : Connection) (action : Action) (after : Connection) : List (Option Nat) :=
  match action with
  | .invoke _ _ => [after.awaitedSession? before.tasks.length]
  | _ => []

/-- For each call of a course of actions, the session of the read that it waits for. -/
def waiters (connection : Connection) (actions : List Action) : List (Option Nat) :=
  connection.along waiter actions

/-- The bytes that a step delivers to a caller that waited for a read of the session. -/
def deliveryIn (number : Nat) (before : Connection) (action : Action) (after : Connection) :
    List UInt8 :=
  match action with
  | .advance (.call call) =>
    if before.awaitedSession? call = some number then delivery before action after else []
  | _ => []

/-- All bytes that the reads of a session deliver. -/
def deliveredIn (connection : Connection) (number : Nat) (actions : List Action) : List UInt8 :=
  connection.along (deliveryIn number) actions

/-- The bytes that the worker of a read of the session receives on the handle of the session. -/
def receptionIn (number : Nat) (before : Connection) (action : Action) (_ : Connection) :
    List UInt8 :=
  match action with
  | .answer (.reader reader) _ =>
    match before.reads[reader]?, before.handles[number]? with
    | some read, some handle =>
      if read.session = number then receivedOn handle (before.exchange? action).toList else []
    | _, _ => []
  | _ => []

/-- All bytes that the workers of a session's reads receive on its handle. -/
def receivedIn (connection : Connection) (number : Nat) (actions : List Action) : List UInt8 :=
  connection.along (receptionIn number) actions

/--
The bytes that a step puts into the backlog of the session and that are not from its reads, where
`owner` says of which session the read is that a caller waited for.
-/
def strays (owner : Nat → Option Nat) (number : Nat) (before : Connection) (action : Action)
    (_ : Connection) : List UInt8 :=
  match action with
  | .advance (.call call) =>
    if before.cleared = number + 1 ∧ owner call ≠ some number then (before.returned? call).getD []
    else []
  | _ => []

/--
All bytes that callers put back while the backlog is that of the session and that are from reads of
other sessions.
-/
def strayedInto (connection : Connection) (number : Nat) (actions : List Action) : List UInt8 :=
  connection.along (strays (fun call => (connection.waiters actions)[call]?.join) number) actions

/-- How often a byte is among what the reads of a session have for whoever waits for them. -/
def held (connection : Connection) (number : Nat) (byte : UInt8) : Nat :=
  (connection.reads.map fun read => (read.keptFor number).count byte).sum

/-- How often a byte is among what callers of a session's reads are about to put back. -/
def returning (connection : Connection) (owner : Nat → Option Nat) (number : Nat) (byte : UInt8) :
    Nat :=
  (connection.tasks.mapIdx fun call task =>
    if owner call = some number then (task.returned?.getD []).count byte else 0).sum

/-! ### How the counts change -/

section Counts

variable {before after : Connection} {number : Nat} {byte : UInt8} {owner : Nat → Option Nat}

theorem held_changeRead {changed : Nat} {read : Read}
    (found : before.reads[changed]? = some read) (change : Read → Read) :
    (before.changeRead changed change).held number byte + (read.keptFor number).count byte =
      before.held number byte + ((change read).keptFor number).count byte := by
  have replaced : before.reads.modify changed change = before.reads.set changed (change read) := by
    simp [List.modify_eq_set_getElem?, found]
  simp only [held, changeRead, replaced, List.map_set]
  apply sum_set_add
  simp [found]

theorem held_cancel (connection : Connection) (cancelled : Nat) :
    (connection.cancel cancelled).held number byte = connection.held number byte := by
  cases found : connection.reads[cancelled]? with
  | none =>
      simp [held, cancel, changeRead, List.modify_eq_self (List.getElem?_eq_none_iff.mp found)]
  | some read =>
      have moved :
          (connection.cancel cancelled).held number byte + (read.keptFor number).count byte =
          connection.held number byte + (read.keptFor number).count byte :=
        held_changeRead found ({ · with cancelled := true })
      omega

theorem held_concat {read : Read} (reads : after.reads = before.reads ++ [read]) :
    after.held number byte = before.held number byte + (read.keptFor number).count byte := by
  simp [held, reads]

theorem returning_setTask {call : Nat} {task : Task} (next : Task)
    (stands : before.tasks[call]? = some task) (tasks : after.tasks = before.tasks) :
    (after.setTask call next).returning owner number byte +
        (if owner call = some number then (task.returned?.getD []).count byte else 0) =
      before.returning owner number byte +
        (if owner call = some number then (next.returned?.getD []).count byte else 0) := by
  simp only [returning, setTask, tasks, List.mapIdx_set]
  apply sum_set_add
  simp [stands]

theorem returning_setTask_of_none {call : Nat} {task next : Task}
    (stands : before.tasks[call]? = some task) (tasks : after.tasks = before.tasks)
    (had : task.returned? = none) (free : next.returned? = none) :
    (after.setTask call next).returning owner number byte = before.returning owner number byte := by
  have moved : (after.setTask call next).returning owner number byte + _ =
      before.returning owner number byte + _ := returning_setTask next stands tasks
  simpa only [had, free, Nat.add_right_cancel_iff] using moved

theorem returning_addTask (connection : Connection) {task : Task} (free : task.returned? = none) :
    (connection.addTask task).returning owner number byte =
      connection.returning owner number byte := by
  simp [returning, addTask, List.mapIdx_concat, free]

theorem cleared_setTask {call : Nat} {task next : Task}
    (stands : before.tasks[call]? = some task) (tasks : after.tasks = before.tasks)
    (sessions : after.sessions.length = before.sessions.length)
    (same : next.isClearing = task.isClearing) :
    (after.setTask call next).cleared = before.cleared := by
  have moved : (before.tasks.set call next).countP Task.isClearing + task.isClearing.toNat =
      before.tasks.countP Task.isClearing + next.isClearing.toNat := countP_set_add next stands
  rw [same] at moved
  simp only [cleared, setTask, tasks, sessions]
  omega

theorem cleared_addTask (connection : Connection) {task : Task} (free : task.isClearing = false) :
    (connection.addTask task).cleared = connection.cleared := by
  simp only [cleared, addTask]
  rw [countP_concat, free]
  rfl

/-! ### Whose backlog it is -/

variable {locator : Locator} {settings : Settings} {calls : List Call} {exchanges : List Exchange}
  {connection : Connection}

/-- While a port has a link, the backlog is that of the link's session. -/
theorem Orderly.cleared_of_link {link : Link} (orderly : connection.Orderly)
    (newest : connection.Newest) (held : connection.link = some link) :
    connection.cleared = link.session + 1 := by
  have last := newest.linked (HoldsLink.of_link held)
  have unclearing : connection.tasks.countP Task.isClearing = 0 := by
    rw [List.countP_eq_zero]
    intro task member clearing
    rw [(orderly.of_opener member (Task.part_of_isClearing clearing)).2] at held
    cases held
  rw [cleared, unclearing, ← last]
  rfl

theorem Orderly.countP_isClearing {address : Address} {config : LineConfig} {session : Nat}
    (orderly : connection.Orderly) (member : .clearing address config session ∈ connection.tasks) :
    connection.tasks.countP Task.isClearing = 1 := by
  have clearing : 0 < connection.tasks.countP Task.isClearing :=
    List.countP_pos_iff.mpr ⟨_, member, rfl⟩
  have few : connection.tasks.countP Task.isClearing ≤ connection.partCount .opener := by
    apply List.countP_mono_left
    intro task _ clearing
    simp [Task.part_of_isClearing clearing]
  have place := Balance.one_place orderly
  omega

/-- The backlog is that of the session whose read has a worker. -/
theorem Recorded.cleared_of_unfinished {place session : Nat} (recorded : connection.Recorded)
    (orderly : connection.Orderly) (newest : connection.Newest)
    (unfinished : connection.Unfinished place session) : connection.cleared = session + 1 := by
  rcases Option.map_eq_some_iff.mp (recorded.unfinished unfinished) with ⟨link, held, duty⟩
  simp only [Prod.mk.injEq] at duty
  rw [orderly.cleared_of_link newest held, duty.1]

end Counts

/-! ### What a step does with bytes -/

/--
What a step does with the bytes of a session: what is delivered to callers of its reads, received on
its handle, and put into its backlog by others.
-/
structure Conserves (owner : Nat → Option Nat) (number : Nat) (byte : UInt8)
    (before after : Connection) (delivered received strayed : List UInt8) : Prop where
  begins : after.cleared = before.cleared ∨
    after.cleared = before.cleared + 1 ∧ after.backlog = []
  /-- While the backlog is that of the session, nothing is lost and nothing else comes. -/
  live : before.cleared = number + 1 → after.cleared = before.cleared →
    received.count byte + strayed.count byte + (before.held number byte +
        before.returning owner number byte + before.backlog.count byte) =
      delivered.count byte + (after.held number byte + after.returning owner number byte +
        after.backlog.count byte)
  /-- Otherwise nothing comes. -/
  still : before.cleared ≠ number + 1 ∨ after.cleared ≠ before.cleared →
    received = [] ∧ strayed = [] ∧
      delivered.count byte + (after.held number byte + after.returning owner number byte) ≤
        before.held number byte + before.returning owner number byte

namespace Conserves

variable {owner : Nat → Option Nat} {number : Nat} {byte : UInt8} {before after : Connection}

theorem of_same (held : after.held number byte = before.held number byte)
    (returning : after.returning owner number byte = before.returning owner number byte)
    (backlog : after.backlog = before.backlog) (cleared : after.cleared = before.cleared) :
    Conserves owner number byte before after [] [] [] where
  begins := .inl cleared
  live _ _ := by
    rw [held, returning, backlog]
    simp
  still _ := by
    rw [held, returning]
    simp

theorem of_frame (reads : after.reads = before.reads) (tasks : after.tasks = before.tasks)
    (sessions : after.sessions.length = before.sessions.length)
    (backlog : after.backlog = before.backlog) :
    Conserves owner number byte before after [] [] [] := by
  apply of_same
  · simp only [held, reads]
  · simp only [returning, tasks]
  · exact backlog
  · simp only [cleared, tasks, sessions]

/-- A step that is made for the session whose backlog it is. -/
theorem of_live {session : Nat} {received : List UInt8} (live : before.cleared = session + 1)
    (cleared : after.cleared = before.cleared)
    (returning : after.returning owner number byte = before.returning owner number byte)
    (here : session = number → received.count byte + (before.held number byte +
      before.backlog.count byte) = after.held number byte + after.backlog.count byte)
    (elsewhere : session ≠ number → received = [] ∧
      after.held number byte = before.held number byte) :
    Conserves owner number byte before after [] received [] where
  begins := .inl cleared
  live there _ := by
    have balanced := here (by omega)
    rw [returning, List.count_nil]
    omega
  still dead := by
    have away : session ≠ number := by
      rintro rfl
      exact dead.elim (· live) (· cleared)
    rcases elsewhere away with ⟨unheld, held⟩
    rw [held, returning]
    exact ⟨unheld, rfl, by simp⟩

/-! ### Workers -/

theorem of_reader {changed : Nat} {read : Read} {stage : ReaderStage} {received : List UInt8}
    (found : before.reads[changed]? = some read) (unresolved : read.custody ≠ .resolved)
    (live : before.cleared = read.session + 1) (reads : after.reads = before.reads)
    (tasks : after.tasks = before.tasks)
    (sessions : after.sessions.length = before.sessions.length)
    (heard : read.session ≠ number → received = [])
    (balanced : read.session = number →
      received.count byte + (read.stage.held.count byte + before.backlog.count byte) =
        stage.held.count byte + after.backlog.count byte) :
    Conserves owner number byte before (after.setReader changed stage) [] received [] := by
  have moved : (after.setReader changed stage).held number byte + (read.keptFor number).count byte =
      before.held number byte +
        (({ read with stage := stage } : Read).keptFor number).count byte := by
    have same : after.held number byte = before.held number byte := by simp only [held, reads]
    rw [← same]
    exact held_changeRead (reads ▸ found) ({ · with stage := stage })
  have cleared : (after.setReader changed stage).cleared = before.cleared := by
    simp only [Connection.cleared, setReader, changeRead, tasks, sessions]
  have returning : (after.setReader changed stage).returning owner number byte =
      before.returning owner number byte := by
    simp only [Connection.returning, setReader, changeRead, tasks]
  refine of_live live cleared returning (fun here => ?_) (fun away => ⟨heard away, ?_⟩)
  · have whole := balanced here
    simp only [Read.keptFor, here, unresolved, ne_eq, not_false_eq_true, and_self, if_true] at moved
    change received.count byte + (before.held number byte + before.backlog.count byte) =
      (after.setReader changed stage).held number byte + after.backlog.count byte
    omega
  · simpa [Read.keptFor, away] using moved

theorem of_readerTurn {changed : Nat} {read : Read} {stage : ReaderStage}
    (found : before.reads[changed]? = some read) (unresolved : read.custody ≠ .resolved)
    (live : before.cleared = read.session + 1) (turn : ReaderTurn before read after stage) :
    Conserves owner number byte before (after.setReader changed stage) [] [] [] := by
  have kept : after.reads = before.reads ∧ after.tasks = before.tasks := by
    rcases turn.frame with ⟨backlog, sessions, rfl⟩
    exact ⟨rfl, rfl⟩
  have sessions : after.sessions.length = before.sessions.length := turn.keeps.length
  refine of_reader found unresolved live kept.1 kept.2 sessions (fun _ => rfl) (fun _ => ?_)
  cases turn with
  | keepsAll came =>
      simp only [came, ReaderStage.held, ReadEnding.bytes, List.count_append, List.count_nil]
      omega
  | @divides data came =>
      have divided := congrArg (List.count byte) (List.take_append_drop read.length data)
      rw [List.count_append] at divided
      simp only [came, ReaderStage.held, ReadEnding.bytes, List.count_append, List.count_nil]
      omega
  | stops checking => simp [checking, ReaderStage.held, ReadEnding.bytes]
  | polls checking => simp [checking, ReaderStage.held]
  | leaves leaving => simp [leaving, ReaderStage.held, dropClone, changeSession]
  | leavesLast leaving => simp [leaving, ReaderStage.held, dropClone, changeSession]
  | reports reporting => simp [reporting, ReaderStage.held]

theorem of_readerAnswer {changed : Nat} {read : Read} {session : Session} {request : Request}
    {reply : request.Reply} {stage : ReaderStage} (found : before.reads[changed]? = some read)
    (unresolved : read.custody ≠ .resolved) (live : before.cleared = read.session + 1)
    (answer : ReaderAnswer before read session request reply stage) :
    Conserves owner number byte before (before.setReader changed stage) []
      (if read.session = number then
        received session.handle (.reader changed, ⟨request, reply⟩) else []) [] := by
  refine of_reader found unresolved live rfl rfl rfl (fun away => if_neg away) (fun here => ?_)
  rw [if_pos here]
  cases answer with
  | polled polling =>
      rw [← held_afterPoll, polling]
      simp [ReaderStage.held]
  | closed closing => simp [closing, ReaderStage.held, received]

/-! ### Starting reads -/

theorem of_addRead {read : Read} (kept : read.custody = .kept)
    (live : before.cleared = read.session + 1) (reads : after.reads = before.reads ++ [read])
    (tasks : after.tasks = before.tasks)
    (sessions : after.sessions.length = before.sessions.length)
    (taken : read.stage.held ++ after.backlog = before.backlog) :
    Conserves owner number byte before after [] [] [] := by
  have grown : after.held number byte = _ := held_concat reads
  have cleared : after.cleared = before.cleared := by
    simp only [Connection.cleared, tasks, sessions]
  have returning : after.returning owner number byte = before.returning owner number byte := by
    simp only [Connection.returning, tasks]
  refine of_live live cleared returning (fun here => ?_) (fun away => ⟨rfl, ?_⟩)
  · rw [grown, ← taken, List.count_append, List.count_nil]
    simp only [Read.keptFor, here, kept, ne_eq, reduceCtorEq, not_false_eq_true, and_self, if_true]
    omega
  · rw [grown]
    simp [Read.keptFor, away]

theorem of_readStart {length : Nat} {result : Except Error Nat} (orderly : before.Orderly)
    (newest : before.Newest) (start : ReadStart before length after result) :
    Conserves owner number byte before after [] [] [] := by
  cases start with
  | refused => exact of_same rfl rfl rfl rfl
  | notStarted => exact of_same rfl rfl rfl rfl
  | served journal opened =>
      have live := orderly.cleared_of_link newest (openLink?_eq_some.mp opened).2
      exact of_addRead rfl live rfl rfl rfl (List.take_append_drop _ _)
  | polls opened idle wanted empty =>
      have live := orderly.cleared_of_link newest (openLink?_eq_some.mp opened).2
      exact of_addRead rfl live rfl rfl (List.length_modify ..) rfl

/-! ### Callers -/

theorem of_custody {changed : Nat} {read : Read} {custody : Custody}
    (found : before.reads[changed]? = some read) (unresolved : read.custody ≠ .resolved)
    (still : custody ≠ .resolved) :
    (before.setCustody changed custody).held number byte = before.held number byte := by
  have moved : (before.setCustody changed custody).held number byte +
      (read.keptFor number).count byte = before.held number byte +
        (({ read with custody := custody } : Read).keptFor number).count byte :=
    held_changeRead found ({ · with custody := custody })
  simp only [Read.keptFor, unresolved, still, ne_eq, not_false_eq_true, and_true] at moved
  omega

theorem trans_same {middle : Connection} {received : List UInt8}
    (conserves : Conserves owner number byte before middle [] received [])
    (held : after.held number byte = middle.held number byte)
    (returning : after.returning owner number byte = middle.returning owner number byte)
    (backlog : after.backlog = middle.backlog) (cleared : after.cleared = middle.cleared) :
    Conserves owner number byte before after [] received [] where
  begins := by
    rw [cleared, backlog]
    exact conserves.begins
  live := by
    rw [held, returning, backlog, cleared]
    exact conserves.live
  still := by
    rw [held, returning, cleared]
    exact conserves.still

/-- A caller begins to wait for a read. -/
theorem of_wait {changed : Nat} {read : Read} {target : ReadTarget}
    (found : before.reads[changed]? = some read) (kept : read.custody = .kept) :
    Conserves owner number byte before
      ((before.setCustody changed .awaited).addTask (.awaitingRead changed target)) [] [] [] := by
  refine of_same ?_ ?_ rfl ?_
  · exact of_custody found (by simp [kept]) (by simp)
  · exact returning_addTask (before.setCustody changed .awaited) rfl
  · exact cleared_addTask (before.setCustody changed .awaited) rfl

theorem of_entrant {task : Task} (reads : after.reads = before.reads)
    (tasks : after.tasks = before.tasks)
    (sessions : after.sessions.length = before.sessions.length)
    (backlog : after.backlog = before.backlog) (free : task.returned? = none)
    (unclearing : task.isClearing = false) :
    Conserves owner number byte before (after.addTask task) [] [] [] := by
  refine of_same ?_ ?_ backlog ?_
  · simp only [held, addTask, reads]
  · rw [returning_addTask after free]
    simp only [returning, tasks]
  · rw [cleared_addTask after unclearing]
    simp only [cleared, tasks, sessions]

theorem of_entry {call : Call} {task : Task} (orderly : before.Orderly) (newest : before.Newest)
    (permitted : before.permits call = true) (entry : Entry before call after task) :
    Conserves owner number byte before (after.addTask task) [] [] [] := by
  cases entry with
  | @reads buffer offset length started changed fits start =>
      rcases start.started with ⟨rfl, read, reads, kept⟩
      have found : started.reads[before.reads.length]? = some read := by
        rw [reads, List.getElem?_concat_length]
      refine (of_readStart orderly newest start).trans_same ?_ ?_ rfl ?_
      · exact of_custody found (by simp [kept]) (by simp)
      · exact returning_addTask (started.setCustody before.reads.length .awaited) rfl
      · exact cleared_addTask (started.setCustody before.reads.length .awaited) rfl
  | readFails fits start =>
      refine (of_readStart orderly newest start).trans_same rfl ?_ rfl ?_
      · exact returning_addTask after rfl
      · exact cleared_addTask after rfl
  | waits =>
      rcases kept_of_permits permitted with ⟨read, found, kept⟩
      exact of_wait found kept
  | waitsInto =>
      rcases kept_of_permits permitted with ⟨read, found, kept⟩
      exact of_wait found kept
  | writes start =>
      have sessions := start.keeps.length
      rcases start.frame with ⟨changed, writes, rfl⟩
      exact of_entrant rfl rfl sessions rfl rfl rfl
  | configures => exact of_entrant rfl rfl (List.length_modify ..) rfl rfl rfl
  | _ => exact of_entrant rfl rfl rfl rfl rfl rfl

theorem of_turner {call : Nat} {task next : Task} (stands : before.tasks[call]? = some task)
    (tasks : after.tasks = before.tasks)
    (held : after.held number byte = before.held number byte)
    (backlog : after.backlog = before.backlog)
    (sessions : after.sessions.length = before.sessions.length) (had : task.returned? = none)
    (free : next.returned? = none) (same : next.isClearing = task.isClearing) :
    Conserves owner number byte before (after.setTask call next) [] [] [] := by
  refine of_same held ?_ backlog (cleared_setTask stands tasks sessions same)
  exact returning_setTask_of_none stands tasks had free

/-- A caller gets what the read brought that it waited for, and perhaps has to put it back. -/
theorem of_fetch {call changed : Nat} {read : Read} {target : ReadTarget} {ending : ReadEnding}
    {next : Task} (stands : before.tasks[call]? = some (.awaitingRead changed target))
    (found : before.reads[changed]? = some read) (unresolved : read.custody ≠ .resolved)
    (ended : read.stage = .ended ending) (owned : owner call = some read.session)
    (unclearing : next.isClearing = false)
    (gets : next.returned? = none ∧
      (Task.awaitingRead changed target).delivered next = ending.bytes ∨
      ∃ buffer offset, next = .puttingBack ending.bytes buffer offset) :
    Conserves owner number byte before ((before.setCustody changed .resolved).setTask call next)
      (if read.session = number then (Task.awaitingRead changed target).delivered next else [])
      [] [] := by
  have fetched : (before.setCustody changed .resolved).held number byte +
      (read.keptFor number).count byte = before.held number byte +
        (({ read with custody := .resolved } : Read).keptFor number).count byte :=
    held_changeRead found ({ · with custody := .resolved })
  have moved :
      ((before.setCustody changed .resolved).setTask call next).returning owner number byte +
      (if owner call = some number then 0 else 0) = before.returning owner number byte +
        (if owner call = some number then (next.returned?.getD []).count byte else 0) :=
    returning_setTask next stands rfl
  have cleared : ((before.setCustody changed .resolved).setTask call next).cleared =
      before.cleared :=
    cleared_setTask stands rfl rfl unclearing
  have passed : (if read.session = number then (Task.awaitingRead changed target).delivered next
        else []).count byte +
      (((before.setCustody changed .resolved).setTask call next).held number byte +
        ((before.setCustody changed .resolved).setTask call next).returning owner number byte) =
      before.held number byte + before.returning owner number byte := by
    change _ + ((before.setCustody changed .resolved).held number byte + _) = _
    by_cases here : read.session = number
    · simp only [owned, here, Read.keptFor, unresolved, ended, ReaderStage.held, ne_eq,
        not_false_eq_true, and_self, not_true_eq_false, and_false, if_true, if_false,
        List.count_nil] at fetched moved ⊢
      rcases gets with ⟨free, bytes⟩ | ⟨buffer, offset, rfl⟩
      · rw [free, Option.getD_none, List.count_nil] at moved
        rw [bytes]
        omega
      · simp only [Task.returned?, Option.getD_some] at moved
        simp only [Task.delivered, List.count_nil]
        omega
    · simp only [owned, here, Read.keptFor, Option.some.injEq, false_and, if_false,
        List.count_nil] at fetched moved ⊢
      omega
  refine ⟨.inl cleared, fun _ _ => ?_, fun _ => ⟨rfl, rfl, Nat.le_of_eq passed⟩⟩
  change _ = _ + (_ + before.backlog.count byte)
  rw [List.count_nil]
  omega

theorem of_putBack {call : Nat} {data buffer : List UInt8} {offset : Nat} {next : Task}
    (stands : before.tasks[call]? = some (.puttingBack data buffer offset))
    (free : next.returned? = none) (unclearing : next.isClearing = false) :
    Conserves owner number byte before ((before.putBack data).setTask call next) [] []
      (if before.cleared = number + 1 ∧ owner call ≠ some number then data else []) := by
  have moved : ((before.putBack data).setTask call next).returning owner number byte +
      (if owner call = some number then data.count byte else 0) =
        before.returning owner number byte +
          (if owner call = some number then (next.returned?.getD []).count byte else 0) :=
    returning_setTask next stands rfl
  have cleared : ((before.putBack data).setTask call next).cleared = before.cleared :=
    cleared_setTask stands rfl rfl unclearing
  rw [free, Option.getD_none, List.count_nil, ite_self] at moved
  constructor
  · exact .inl cleared
  · intro live _
    change _ + _ + _ = _ + (before.held number byte + _ + (data ++ before.backlog).count byte)
    rw [List.count_append]
    by_cases own : owner call = some number
    · simp only [own, if_true, ne_eq, not_true_eq_false, and_false, if_false,
        List.count_nil] at moved ⊢
      omega
    · simp only [own, live, if_false, ne_eq, not_false_eq_true, and_self, if_true,
        List.count_nil] at moved ⊢
      omega
  · intro dead
    have away : before.cleared ≠ number + 1 := dead.resolve_right (· cleared)
    refine ⟨rfl, if_neg (away ·.1), ?_⟩
    change _ + (before.held number byte + _) ≤ _
    rw [List.count_nil]
    split at moved <;> omega

theorem of_clears {call session : Nat} {address : Address} {config : LineConfig}
    (orderly : before.Orderly) (newest : before.Newest)
    (stands : before.tasks[call]? = some (.clearing address config session)) :
    Conserves owner number byte before
      (({ before with backlog := [] }).setTask call (.installing address config session)) []
      [] [] := by
  have member := List.mem_of_getElem? stands
  have last := newest.linked (.inr ⟨_, member, rfl⟩)
  have alone := orderly.countP_isClearing member
  have counted :
      (before.tasks.set call (.installing address config session)).countP Task.isClearing +
      1 = before.tasks.countP Task.isClearing + 0 := countP_set_add _ stands
  have cleared : (({ before with backlog := [] }).setTask call
      (.installing address config session)).cleared = before.cleared + 1 := by
    simp only [Connection.cleared, setTask]
    omega
  refine ⟨.inr ⟨cleared, rfl⟩, fun _ same => ?_, fun _ => ⟨rfl, rfl, ?_⟩⟩
  · exact absurd (cleared.symm.trans same) (Nat.succ_ne_self _)
  · have same : (({ before with backlog := [] }).setTask call
        (.installing address config session)).returning owner number byte =
          before.returning owner number byte := returning_setTask_of_none stands rfl rfl rfl
    change _ + (before.held number byte + _) ≤ _
    rw [same, List.count_nil]
    omega

theorem of_reached {call : Nat} {task : Task} {address : Address} {config : LineConfig}
    {handle : Handle} (stands : before.tasks[call]? = some task) (had : task.returned? = none)
    (unclearing : task.isClearing = false) :
    Conserves owner number byte before
      (({ before with sessions := before.sessions ++ [newSession handle] }).setTask call
        (.clearing address config before.sessions.length)) [] [] [] := by
  have counted : (before.tasks.set call (.clearing address config before.sessions.length)).countP
      Task.isClearing + task.isClearing.toNat = before.tasks.countP Task.isClearing + 1 :=
    countP_set_add _ stands
  refine of_same rfl ?_ rfl ?_
  · exact returning_setTask_of_none stands rfl had rfl
  · rw [unclearing, Bool.toNat_false] at counted
    simp only [cleared, setTask, List.length_append, List.length_singleton]
    omega

theorem of_turn {call : Nat} {task next : Task} (orderly : before.Orderly) (newest : before.Newest)
    (custodial : before.Custodial) (stands : before.tasks[call]? = some task)
    (owned : ∀ {changed target read}, task = .awaitingRead changed target →
      before.reads[changed]? = some read → owner call = some read.session)
    (turn : Turn before call task after next) :
    Conserves owner number byte before (after.setTask call next)
      (if before.awaitedSession? call = some number then task.delivered next else []) []
      (if before.cleared = number + 1 ∧ owner call ≠ some number then task.returned?.getD []
        else []) := by
  have quiet (conserves : Conserves owner number byte before (after.setTask call next) [] [] [])
      (delivers : task.delivered next = []) (had : task.returned? = none) :
      Conserves owner number byte before (after.setTask call next)
        (if before.awaitedSession? call = some number then task.delivered next else []) []
        (if before.cleared = number + 1 ∧ owner call ≠ some number then task.returned?.getD []
          else []) := by
    rw [delivers, had, Option.getD_none, ite_self, ite_self]
    exact conserves
  have fetch {changed : Nat} {read : Read} {target : ReadTarget} {ending : ReadEnding}
      (waits : task = .awaitingRead changed target) (found : before.reads[changed]? = some read)
      (ended : read.stage = .ended ending) (unclearing : next.isClearing = false)
      (gets : next.returned? = none ∧
          (Task.awaitingRead changed target).delivered next = ending.bytes ∨
        ∃ buffer offset, next = .puttingBack ending.bytes buffer offset) :
      Conserves owner number byte before ((before.setCustody changed .resolved).setTask call next)
        (if before.awaitedSession? call = some number then task.delivered next else []) []
        (if before.cleared = number + 1 ∧ owner call ≠ some number then task.returned?.getD []
          else []) := by
    subst waits
    have awaited := custodial.awaited_of_stands stands found
    have session : before.awaitedSession? call = some read.session := by
      simp [awaitedSession?, stands, Task.awaited?, found]
    simp only [session, Option.some.injEq, Task.returned?, Option.getD_none, ite_self]
    exact of_fetch stands found (by simp [awaited]) ended (owned rfl found) unclearing gets
  cases turn with
  | clears => exact quiet (of_clears orderly newest stands) rfl rfl
  | reached =>
      exact quiet (of_reached stands rfl rfl) rfl rfl
  | lists progress =>
      rcases progress.only_tells with ⟨journal, rfl⟩
      exact quiet (of_turner stands rfl rfl rfl rfl rfl rfl rfl) rfl rfl
  | opens progress =>
      rcases progress.only_tells with ⟨journal, rfl⟩
      exact quiet (of_turner stands rfl rfl rfl rfl rfl rfl rfl) rfl rfl
  | releases progress =>
      rcases progress.only_tells with ⟨journal, rfl⟩
      exact quiet (of_turner stands rfl rfl rfl rfl rfl rfl rfl) rfl rfl
  | configures progress =>
      obtain ⟨journal, rfl⟩ | rfl := progress.only_lane
      · exact quiet (of_turner stands rfl rfl rfl rfl rfl rfl rfl) rfl rfl
      · exact quiet (of_turner stands rfl rfl rfl (List.length_modify ..) rfl rfl rfl) rfl rfl
  | fetchesError found ended => exact fetch rfl found ended rfl (.inl ⟨rfl, rfl⟩)
  | fetchesBytes found ended => exact fetch rfl found ended rfl (.inl ⟨rfl, rfl⟩)
  | stores found ended fits => exact fetch rfl found ended rfl (.inl ⟨rfl, take_of_store? fits⟩)
  | spills found ended => exact fetch rfl found ended rfl (.inr ⟨_, _, rfl⟩)
  | putsBack =>
      rw [show Task.delivered _ _ = [] from rfl, ite_self]
      exact of_putBack stands rfl rfl
  | fetchesWrite found ended =>
      rcases writeEnding?_eq_some ended with ⟨result, rfl⟩
      exact quiet (of_turner stands rfl rfl rfl rfl rfl rfl rfl) rfl rfl
  | @returnsTicket session line result =>
      have free : (afterTicket line result).returned? = none ∧
          (afterTicket line result).isClearing = false := by
        cases result <;> cases line <;> exact ⟨rfl, rfl⟩
      exact quiet (of_turner stands rfl rfl rfl (List.length_modify ..) rfl free.1 free.2) rfl rfl
  | cancels => exact quiet (of_turner stands rfl (held_cancel before _) rfl rfl rfl rfl rfl) rfl rfl
  | overflows =>
      exact quiet (of_turner stands rfl (held_cancel before _) rfl rfl rfl rfl rfl) rfl rfl
  | returnsClone =>
      exact quiet (of_turner stands rfl rfl rfl (List.length_modify ..) rfl rfl rfl) rfl rfl
  | takesLink =>
      exact quiet (of_turner stands rfl rfl rfl (List.length_modify ..) rfl rfl rfl) rfl rfl
  | regains =>
      exact quiet (of_turner stands rfl rfl rfl (List.length_modify ..) rfl rfl rfl) rfl rfl
  | findsOwners =>
      exact quiet (of_turner stands rfl rfl rfl (List.length_modify ..) rfl rfl rfl) rfl rfl
  | _ => exact quiet (of_turner stands rfl rfl rfl rfl rfl rfl rfl) rfl rfl

theorem receptionIn_of_answer {reader : Nat} {read : Read} {session : Session} {replies : Replies}
    {event : Event} (found : before.reads[reader]? = some read)
    (held : before.sessions[read.session]? = some session)
    (exchanged : before.exchange? (.answer (.reader reader) replies) =
      some (.reader reader, event)) :
    receptionIn number before (.answer (.reader reader) replies) after =
      if read.session = number then received session.handle (.reader reader, event) else [] := by
  by_cases here : read.session = number
  · have device : before.handles[number]? = some session.handle := here ▸ handles_getElem? held
    simp [receptionIn, found, device, here, exchanged, receivedOn]
  · cases device : before.handles[number]? <;> simp [receptionIn, found, device, here]

theorem of_move {action : Action} {exchange? : Option Exchange} (orderly : before.Orderly)
    (recorded : before.Recorded) (newest : before.Newest) (custodial : before.Custodial)
    (owned : ∀ {call changed target read},
      before.tasks[call]? = some (.awaitingRead changed target) →
      before.reads[changed]? = some read → owner call = some read.session)
    (move : Move before action exchange? after) (exchanged : before.exchange? action = exchange?) :
    Conserves owner number byte before after (deliveryIn number before action after)
      (receptionIn number before action after) (strays owner number before action after) := by
  cases move with
  | enters permitted entry => exact of_entry orderly newest permitted entry
  | startsRead start => exact of_readStart orderly newest start
  | startsWrite start =>
      have sessions := start.keeps.length
      rcases start.frame with ⟨changed, writes, rfl⟩
      exact of_frame rfl rfl sessions rfl
  | cancels => exact of_same (held_cancel before _) rfl rfl rfl
  | @turns call task changed next stands turn =>
      have conserves : Conserves owner number byte before (changed.setTask call next) _ [] _ :=
        of_turn orderly newest custodial stands
          (fun waits found => owned (waits ▸ stands) found) turn
      have returned : before.returned? call = task.returned? := by simp [returned?, stands]
      rw [← returned, ← delivery_of_stands stands turn.tasks_eq] at conserves
      exact conserves
  | answered stands answer =>
      cases answer with
      | configuring => exact of_turner stands rfl rfl rfl (List.length_modify ..) rfl rfl rfl
      | _ => exact of_turner stands rfl rfl rfl rfl rfl rfl rfl
  | readerTurns found turn =>
      have live := recorded.cleared_of_unfinished orderly newest ⟨_, found, rfl, turn.unfinished⟩
      exact of_readerTurn found (custodial.unresolved found turn.unfinished) live turn
  | @readerAnswered reader read session request replies stage found held answer =>
      have live := recorded.cleared_of_unfinished orderly newest ⟨_, found, rfl, answer.unfinished⟩
      have unresolved := custodial.unresolved found answer.unfinished
      rw [receptionIn_of_answer found held exchanged]
      exact of_readerAnswer found unresolved live answer
  | writerTurns found turn =>
      have sessions := turn.keeps.length
      rcases turn.frame with ⟨changed, writes, rfl⟩
      exact of_frame rfl rfl sessions rfl
  | writerAnswered found answer =>
      have sessions := answer.keeps.length
      rcases answer.frame with ⟨changed, writes, rfl⟩
      exact of_frame rfl rfl sessions rfl
  | expires stands => exact of_turner stands rfl rfl rfl rfl rfl rfl rfl

end Conserves

/-! ### Who waits for reads of which session -/

section Waiters

variable {before after : Connection}

/-- The sessions of all reads. -/
def readSessions (connection : Connection) : List Nat := connection.reads.map (·.session)

theorem readSessions_changeRead (connection : Connection) (changed : Nat) {change : Read → Read}
    (same : ∀ read, (change read).session = read.session) :
    (connection.changeRead changed change).readSessions = connection.readSessions :=
  map_modify_of_eq connection.reads changed same

/-- New reads are those of the session whose link is there. -/
theorem ReadStart.readSessions_eq {length : Nat} {result : Except Error Nat}
    (start : ReadStart before length after result) :
    ∃ more, after.readSessions = before.readSessions ++ more ∧
      ∀ session ∈ more, before.link.map (·.session) = some session := by
  have linked {link : Link} (opened : before.openLink? = some link) :
      ∀ session ∈ [link.session], before.link.map (·.session) = some session := by
    intro session new
    rw [(openLink?_eq_some.mp opened).2, List.mem_singleton.mp new]
    rfl
  cases start with
  | refused => exact ⟨[], (List.append_nil _).symm, nofun⟩
  | notStarted => exact ⟨[], (List.append_nil _).symm, nofun⟩
  | served journal opened => exact ⟨_, List.map_append, linked opened⟩
  | polls opened => exact ⟨_, List.map_append, linked opened⟩

theorem Turn.readSessions_eq {call : Nat} {task next : Task}
    (turn : Turn before call task after next) : after.readSessions = before.readSessions := by
  cases turn with
  | lists progress =>
      rcases progress.only_tells with ⟨journal, rfl⟩
      rfl
  | opens progress =>
      rcases progress.only_tells with ⟨journal, rfl⟩
      rfl
  | releases progress =>
      rcases progress.only_tells with ⟨journal, rfl⟩
      rfl
  | configures progress => obtain ⟨journal, rfl⟩ | rfl := progress.only_lane <;> rfl
  | fetchesError => exact readSessions_changeRead before _ fun _ => rfl
  | fetchesBytes => exact readSessions_changeRead before _ fun _ => rfl
  | stores => exact readSessions_changeRead before _ fun _ => rfl
  | spills => exact readSessions_changeRead before _ fun _ => rfl
  | cancels => exact readSessions_changeRead before _ fun _ => rfl
  | overflows => exact readSessions_changeRead before _ fun _ => rfl
  | _ => rfl

theorem Entry.readSessions_eq {call : Call} {task : Task} (entry : Entry before call after task) :
    ∃ more, after.readSessions = before.readSessions ++ more ∧
      ∀ session ∈ more, before.link.map (·.session) = some session := by
  have same (eq : after.readSessions = before.readSessions) :
      ∃ more, after.readSessions = before.readSessions ++ more ∧
        ∀ session ∈ more, before.link.map (·.session) = some session :=
          ⟨[], by rw [eq, List.append_nil], nofun⟩
  cases entry with
  | @reads buffer offset length started changed fits start =>
      rcases start.readSessions_eq with ⟨more, grown, linked⟩
      have kept : (started.setCustody changed .awaited).readSessions = started.readSessions :=
        readSessions_changeRead started _ fun _ => rfl
      exact ⟨more, kept.trans grown, linked⟩
  | readFails fits start => exact start.readSessions_eq
  | waits => exact same (readSessions_changeRead before _ fun _ => rfl)
  | waitsInto => exact same (readSessions_changeRead before _ fun _ => rfl)
  | writes start =>
      rcases start.frame with ⟨sessions, writes, rfl⟩
      exact same rfl
  | _ => exact same rfl

theorem Move.readSessions_eq {action : Action} {exchange? : Option Exchange}
    (move : Move before action exchange? after) :
    ∃ more, after.readSessions = before.readSessions ++ more ∧
      ∀ session ∈ more, before.link.map (·.session) = some session := by
  have same (eq : after.readSessions = before.readSessions) :
      ∃ more, after.readSessions = before.readSessions ++ more ∧
        ∀ session ∈ more, before.link.map (·.session) = some session :=
          ⟨[], by rw [eq, List.append_nil], nofun⟩
  cases move with
  | enters permitted entry => exact entry.readSessions_eq
  | startsRead start => exact start.readSessions_eq
  | startsWrite start =>
      rcases start.frame with ⟨sessions, writes, rfl⟩
      exact same rfl
  | cancels => exact same (readSessions_changeRead before _ fun _ => rfl)
  | turns stands turn => exact same turn.readSessions_eq
  | answered stands answer =>
      rcases answer.frame with ⟨-, sessions, rfl⟩
      exact same rfl
  | @readerTurns number read changed stage found turn =>
      rcases turn.frame with ⟨backlog, sessions, rfl⟩
      exact same (readSessions_changeRead { before with backlog, sessions } _ fun _ => rfl)
  | readerAnswered => exact same (readSessions_changeRead before _ fun _ => rfl)
  | writerTurns found turn =>
      rcases turn.frame with ⟨sessions, writes, rfl⟩
      exact same rfl
  | writerAnswered found answer =>
      rcases answer.frame with ⟨sessions, writes, rfl⟩
      exact same rfl
  | expires => exact same rfl

theorem Turn.awaited?_eq_none {call : Nat} {task next : Task}
    (turn : Turn before call task after next) : next.awaited? = none := by
  cases turn with
  | fetchesWrite found ended => exact writeEnding?_awaited ended
  | returnsTicket => exact afterTicket_awaited _ _
  | _ => rfl

/-- A caller that waits for a read has done nothing else. -/
theorem Fate.awaited?_eq {call read : Nat} {task next : Task} {exchange? : Option Exchange}
    (fate : Fate before call task exchange? after) (stands : before.tasks[call]? = some task)
    (stood : after.tasks[call]? = some next) (waits : next.awaited? = some read) :
    task.awaited? = some read := by
  cases fate with
  | stays same =>
      rw [same, Option.some.injEq] at stood
      rw [stood, waits]
  | @turns changed later turn =>
      have stoodThere : changed.tasks[call]? = some task := by rw [turn.tasks_eq, stands]
      rw [setTask_getElem?_self stoodThere later] at stood
      cases stood
      rw [turn.awaited?_eq_none] at waits
      cases waits
  | @answered request reply changed later answer =>
      have stoodThere : changed.tasks[call]? = some task := by
        rcases answer.frame with ⟨-, sessions, rfl⟩
        exact stands
      rw [setTask_getElem?_self stoodThere later] at stood
      cases stood
      cases answer <;> cases waits
  | expires =>
      rw [setTask_getElem?_self stands] at stood
      cases stood
      cases waits

theorem Custodial.exists_read {connection : Connection} {call read : Nat} {task : Task}
    (custodial : connection.Custodial) (stands : connection.tasks[call]? = some task)
    (waits : task.awaited? = some read) :
    ∃ session, connection.readSessions[read]? = some session := by
  have count := custodial.awaited read
  have waited : 0 < connection.awaitCount read :=
    List.countP_pos_iff.mpr ⟨task, List.mem_of_getElem? stands, by simp [waits]⟩
  cases found : connection.reads[read]? with
  | none => simp [count, claim?, found] at waited
  | some record => exact ⟨record.session, by simp [readSessions, found]⟩

theorem awaitedSession?_eq_some {connection : Connection} {call session : Nat} :
    connection.awaitedSession? call = some session ↔ ∃ task read,
      connection.tasks[call]? = some task ∧ task.awaited? = some read ∧
        connection.readSessions[read]? = some session := by
  simp only [awaitedSession?, readSessions, List.getElem?_map, Option.map_eq_some_iff,
    Option.bind_eq_some_iff]
  constructor
  · rintro ⟨record, ⟨read, ⟨task, stands, waits⟩, found⟩, same⟩
    exact ⟨task, read, stands, waits, record, found, same⟩
  · rintro ⟨task, read, stands, waits, record, found, same⟩
    exact ⟨record, ⟨read, ⟨task, stands, waits⟩, found⟩, same⟩

end Waiters

section Run

variable {locator : Locator} {settings : Settings} {actions : List Action} {connection : Connection}

theorem waiters_length (ran : (fresh locator settings).run? actions = some connection) :
    ((fresh locator settings).waiters actions).length = connection.tasks.length := by
  refine run_induction (motive := fun actions connection =>
    ((fresh locator settings).waiters actions).length = connection.tasks.length) rfl ?_ ran
  intro actions middle action final ranBefore same stepped
  have count := (sound_of_run (run?_concat_eq_some.mpr ⟨_, ranBefore, stepped⟩)).placed.count
  rw [calls_concat, List.length_append, (sound_of_run ranBefore).placed.count] at count
  rw [waiters, along_concat ranBefore stepped, List.length_append, ← waiters, same, ← count]
  cases action <;> rfl

/-- The session of the read that a caller waits for does not change. -/
theorem waiters_getElem? (ran : (fresh locator settings).run? actions = some connection)
    {call session : Nat} (waits : connection.awaitedSession? call = some session) :
    ((fresh locator settings).waiters actions)[call]? = some (some session) := by
  refine run_induction (motive := fun actions connection => ∀ call session,
    connection.awaitedSession? call = some session →
      ((fresh locator settings).waiters actions)[call]? = some (some session)) ?_ ?_ ran
        call session
    waits
  · intro call session waits
    cases waits
  · intro actions middle action final ranBefore earlier stepped call session waits
    have length := waiters_length ranBefore
    have further := waiters_length (run?_concat_eq_some.mpr ⟨_, ranBefore, stepped⟩)
    have grown : (fresh locator settings).waiters (actions ++ [action]) =
        (fresh locator settings).waiters actions ++ waiter middle action final :=
      along_concat ranBefore stepped
    rcases awaitedSession?_eq_some.mp waits with ⟨task, read, stood, awaits, found⟩
    rw [grown] at further ⊢
    by_cases old : call < middle.tasks.length
    · have move := Move.of_step? stepped
      have stands := List.getElem?_eq_getElem old
      have awaited := (move.fate stands).awaited?_eq stands stood awaits
      rcases (custodial_of_run ranBefore).exists_read stands awaited with ⟨same, foundBefore⟩
      rcases move.readSessions_eq with ⟨more, kept, -⟩
      rw [kept, List.getElem?_append_left (List.getElem?_eq_some_iff.mp foundBefore).1] at found
      rw [List.getElem?_append_left (by omega)]
      exact earlier call session (awaitedSession?_eq_some.mpr ⟨_, read, stands, awaited, found⟩)
    · have inside := (List.getElem?_eq_some_iff.mp stood).1
      cases action with
      | invoke made started =>
          simp only [waiter, List.length_append, List.length_singleton] at further ⊢
          have last : call = middle.tasks.length := by omega
          rw [last] at waits ⊢
          rw [← length, List.getElem?_concat_length, length, waits]
      | _ =>
          simp only [waiter, List.append_nil] at further
          omega

/-! ### Along a course -/

/--
What is known of the bytes of a session after a course: before the session has emptied the backlog,
nothing has come; while the backlog is its own, everything is accounted for; and no more is
delivered, held or on its way back than has come.
-/
structure Traced (owner : Nat → Option Nat) (number : Nat) (byte : UInt8) (connection : Connection)
    (delivered received strayed : List UInt8) : Prop where
  early : connection.cleared ≤ number → received.count byte + strayed.count byte = 0
  live : connection.cleared = number + 1 → received.count byte + strayed.count byte =
    delivered.count byte + (connection.held number byte + connection.returning owner number byte +
      connection.backlog.count byte)
  late : delivered.count byte + (connection.held number byte +
    connection.returning owner number byte) ≤ received.count byte + strayed.count byte

theorem Traced.of_conserves {owner : Nat → Option Nat} {number : Nat} {byte : UInt8}
    {before after : Connection} {delivered received strayed brought heard put : List UInt8}
    (traced : Traced owner number byte before delivered received strayed)
    (conserves : Conserves owner number byte before after brought heard put) :
    Traced owner number byte after (delivered ++ brought) (received ++ heard) (strayed ++ put) := by
  have late := traced.late
  by_cases own : before.cleared = number + 1 ∧ after.cleared = before.cleared
  · have balance := conserves.live own.1 own.2
    have whole := traced.live own.1
    constructor
    · omega
    · intro _
      simp only [List.count_append]
      omega
    · simp only [List.count_append]
      omega
  · have still := conserves.still (by omega)
    rcases still with ⟨rfl, rfl, fewer⟩
    simp only [List.append_nil]
    constructor
    · intro unbegun
      rcases conserves.begins with same | ⟨more, -⟩ <;> exact traced.early (by omega)
    · intro live
      rcases conserves.begins with same | ⟨more, empty⟩
      · omega
      · have unreceived := traced.early (by omega)
        rw [List.count_append, empty, List.count_nil]
        omega
    · rw [List.count_append]
      omega

theorem traced_of_run (ran : (fresh locator settings).run? actions = some connection)
    (number : Nat) (byte : UInt8) {owner : Nat → Option Nat}
    (named : ∀ call session,
      ((fresh locator settings).waiters actions)[call]? = some (some session) →
      owner call = some session) :
    Traced owner number byte connection ((fresh locator settings).deliveredIn number actions)
      ((fresh locator settings).receivedIn number actions)
      ((fresh locator settings).along (strays owner number) actions) := by
  refine run_induction (motive := fun actions connection =>
    (∀ call session, ((fresh locator settings).waiters actions)[call]? = some (some session) →
      owner call = some session) →
    Traced owner number byte connection ((fresh locator settings).deliveredIn number actions)
      ((fresh locator settings).receivedIn number actions)
      ((fresh locator settings).along (strays owner number) actions)) ?_ ?_ ran named
  · intro _
    exact ⟨fun _ => rfl, fun _ => rfl, Nat.le_refl _⟩
  · intro actions middle action final ranBefore traced stepped named
    have sound := sound_of_run ranBefore
    have grown : (fresh locator settings).waiters (actions ++ [action]) =
        (fresh locator settings).waiters actions ++ waiter middle action final :=
      along_concat ranBefore stepped
    have namedBefore : ∀ call session,
        ((fresh locator settings).waiters actions)[call]? = some (some session) →
          owner call = some session := by
      intro call session waits
      apply named
      rw [grown, List.getElem?_append_left (List.getElem?_eq_some_iff.mp waits).1, waits]
    simp only [deliveredIn, receivedIn, along_concat ranBefore stepped]
    refine (traced namedBefore).of_conserves (.of_move sound.orderly sound.recorded
      (newest_of_run ranBefore) (custodial_of_run ranBefore) ?_ (Move.of_step? stepped) rfl)
    intro call changed target read stands found
    apply namedBefore
    apply waiters_getElem? ranBefore
    simp [awaitedSession?, stands, Task.awaited?, found]

/--
A read delivers nothing but what the workers of its session's reads received on the handle of the
session, and what callers of reads of other sessions put back after the session had emptied the
backlog. Nothing is delivered more often than it came.
-/
theorem delivered_subperm_received (ran : (fresh locator settings).run? actions = some connection)
    (number : Nat) :
    ((fresh locator settings).deliveredIn number actions).Subperm
      ((fresh locator settings).receivedIn number actions ++
        (fresh locator settings).strayedInto number actions) := by
  rw [List.subperm_ext_iff]
  intro byte _
  have named : ∀ call session : Nat,
      ((fresh locator settings).waiters actions)[call]? = some (some session) →
        ((fresh locator settings).waiters actions)[call]?.join = some session := by
    intro call session waits
    rw [waits, Option.join_some]
  have late := (traced_of_run ran number byte named).late
  rw [List.count_append, strayedInto]
  omega

end Run

-- The course below is long enough for its run to need this.
set_option maxRecDepth 1000

/--
The bytes of a read are fetched after the port was closed and opened again, into a buffer that is
too small for them. The next read delivers them, and a third one what the new session receives.
-/
def fetchesLate : List Action :=
  List.flatten
    [Sample.opens,
      [.startRead 2 (.ok ()), .advance (.reader 0),
        .answer (.reader 0) (Sample.bus [1, 2] (.ok ())), .advance (.reader 0),
        .advance (.reader 0), .advance (.reader 0), .invoke .close (.ok ()), .advance (.call 1),
        .advance (.call 1), .advance (.call 1), .advance (.writer 0), .advance (.writer 0),
        .advance (.call 1), .advance (.call 1), .advance (.call 1)],
      asks 1 (Sample.bus [] (.ok ())) 2,
      [.advance (.call 1), .advance (.call 1),
        .invoke (.openPort ⟨Profile.vendorId, 7, 0⟩ {}) (.ok ())],
      asks 2 granting 3, [.advance (.call 2)], asks 2 granting 2,
      [.advance (.call 2), .advance (.call 2), .advance (.call 2),
        .invoke (.waitInto 0 [0] 0) (.ok ()), .advance (.call 3), .advance (.call 3),
        .invoke (.read [0, 0, 0, 0] 0 4) (.ok ()), .advance (.call 4),
        .invoke (.read [0, 0, 0] 1 2) (.ok ()), .advance (.reader 2),
        .answer (.reader 2) (Sample.bus [8, 9] (.ok ())), .advance (.reader 2),
        .advance (.reader 2), .advance (.reader 2), .advance (.call 5)]]

theorem fetchesLate_accounted :
    Sample.connection.run? fetchesLate = some (Sample.after fetchesLate) ∧
      List.Subperm [1, 2, 8, 9] ([8, 9] ++ Sample.connection.strayedInto 1 fetchesLate) := by
  have ran : Sample.connection.run? fetchesLate = some (Sample.after fetchesLate) := rfl
  exact ⟨ran, delivered_subperm_received ran 1⟩

/-- A session delivers bytes that only the session before it received. -/
theorem fetchesLate_crosses :
    Sample.connection.receivedIn 0 fetchesLate = [1, 2] ∧
      Sample.connection.deliveredIn 1 fetchesLate = [1, 2, 8, 9] ∧
      Sample.connection.receivedIn 1 fetchesLate = [8, 9] ∧
      ¬(Sample.connection.deliveredIn 1 fetchesLate).Subperm
        (Sample.connection.receivedIn 1 fetchesLate) := by
  have delivered : Sample.connection.deliveredIn 1 fetchesLate = [1, 2, 8, 9] := rfl
  have received : Sample.connection.receivedIn 1 fetchesLate = [8, 9] := rfl
  refine ⟨rfl, delivered, received, fun within => ?_⟩
  have fewer := within.length_le
  rw [delivered, received] at fewer
  simp at fewer

end Connection

end CdcSerial
