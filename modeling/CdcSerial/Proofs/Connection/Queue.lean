import CdcSerial.Proofs.Connection.Conservation
import CdcSerial.Proofs.Connection.Reads

/-!
# The queue of a session's bytes

What a session has received and not delivered is at three kinds of places: with reads that nobody
has fetched, in the hands of callers that put bytes back, and in the backlog. Read off in this
order, and the reads in the order in which they were started, these bytes are `undelivered`. Reads
take from the front of the backlog, and workers poll only if it is empty, so `undelivered` is a
queue: bytes come in at its end and keep their places until they are delivered (`Shift`).

Putting back is what can break the queue. A read that has ended may be overtaken: others can be
started, and take bytes that came later, before anybody fetches it. If its bytes then go to the
front of the backlog, they are behind those of the younger reads. So the queue is kept as long as a
fetch that does not fit its buffer finds no younger read that has bytes or still waits for some, and
no read is started before the bytes are back (`FreeBehind`).
-/

namespace CdcSerial

/-- Whether nothing more comes from a read: it was fetched, or it has ended with nothing. -/
def Read.isSpent (read : Read) : Bool :=
  decide (read.custody = .resolved) || (read.stage.held.isEmpty && !read.stage.isPolling)

theorem Read.keptFor_of_isSpent {read : Read} (spent : read.isSpent = true) (number : Nat) :
    read.keptFor number = [] := by
  simp only [isSpent, Bool.or_eq_true, decide_eq_true_eq, Bool.and_eq_true,
    List.isEmpty_iff] at spent
  unfold keptFor
  split
  · next here =>
      rcases spent with fetched | ⟨nothing, -⟩
      · exact absurd fetched here.2
      · exact nothing
  · rfl

theorem Read.keptFor_of_resolved {read : Read} (fetched : read.custody = .resolved) (number : Nat) :
    read.keptFor number = [] := by
  simp [keptFor, fetched]

theorem Read.keptFor_of_unresolved {read : Read} {number : Nat} (here : read.session = number)
    (unresolved : read.custody ≠ .resolved) : read.keptFor number = read.stage.held := by
  simp [keptFor, here, unresolved]

namespace Connection

/--
What a session has received and not delivered: the bytes of reads that nobody has fetched, in the
order in which the reads were started, the bytes that callers are about to put back, and the
backlog.
-/
def undelivered (connection : Connection) (number : Nat) : List UInt8 :=
  connection.reads.flatMap (Read.keptFor number) ++ (connection.unreturned ++ connection.backlog)

/-- What reads of a session have that were started before a given one. -/
def older (connection : Connection) (number place : Nat) : List UInt8 :=
  (connection.reads.take place).flatMap (Read.keptFor number)

/-- What reads of a session have that were started after a given one. -/
def younger (connection : Connection) (number place : Nat) : List UInt8 :=
  (connection.reads.drop (place + 1)).flatMap (Read.keptFor number)

/-- Nothing comes from reads that were started after a given one, and nobody puts bytes back. -/
structure FreeBehind (connection : Connection) (place : Nat) : Prop where
  spent : ∀ read ∈ connection.reads.drop (place + 1), read.isSpent = true
  returned : connection.unreturned = []

instance (connection : Connection) (place : Nat) : Decidable (connection.FreeBehind place) :=
  decidable_of_iff ((∀ read ∈ connection.reads.drop (place + 1), read.isSpent = true) ∧
      connection.unreturned = [])
    ⟨fun ⟨spent, returned⟩ => ⟨spent, returned⟩, fun free => ⟨free.spent, free.returned⟩⟩

/-- The bytes that a caller has to put back after its step. -/
def excess (connection : Connection) : Action → List UInt8
  | .advance (.call call) => (connection.returned? call).getD []
  | _ => []

/-- Where the workers of the reads stand. -/
def stages (connection : Connection) : List ReaderStage := connection.reads.map (·.stage)

/-- What keeps the bytes that were received and not delivered a queue. -/
structure Lineup (connection : Connection) : Prop where
  /-- Only the worker of the youngest read may still run. -/
  last : ∀ {place stage}, connection.stages[place]? = some stage →
    (∀ ending, stage ≠ .ended ending) → place + 1 = connection.stages.length
  /-- While it polls, there is nothing that a read would have to deliver first. -/
  first : ∀ stage ∈ connection.stages, stage.isPolling = true →
    connection.unreturned = [] ∧ connection.backlog = []
  /-- Only one caller has bytes to put back. -/
  single : ∀ {call data}, connection.returned? call = some data →
    data = [] ∨ connection.unreturned = data

section Step

variable {before after : Connection} {number place : Nat}

/-! ### How the places change -/

theorem undelivered_split {read : Read} (found : before.reads[place]? = some read) :
    before.undelivered number = before.older number place ++ (read.keptFor number ++
      (before.younger number place ++ (before.unreturned ++ before.backlog))) := by
  rw [undelivered, flatMap_split found, older, younger]
  simp only [List.append_assoc]

theorem undelivered_changeRead {read : Read} {change : Read → Read}
    (found : before.reads[place]? = some read)
    (reads : after.reads = before.reads.modify place change) :
    after.undelivered number = before.older number place ++ ((change read).keptFor number ++
      (before.younger number place ++ (after.unreturned ++ after.backlog))) := by
  rw [undelivered, reads, modify_eq_set found, flatMap_set found, older, younger]
  simp only [List.append_assoc]

theorem stages_changeRead_of_eq (connection : Connection) (changed : Nat) {change : Read → Read}
    (same : ∀ read, (change read).stage = read.stage) :
    (connection.changeRead changed change).stages = connection.stages :=
  map_modify_of_eq connection.reads changed same

theorem stages_setReader (connection : Connection) (changed : Nat) (stage : ReaderStage) :
    (connection.setReader changed stage).stages = connection.stages.set changed stage := by
  apply List.ext_getElem?
  intro other
  simp only [stages, setReader, changeRead, List.getElem?_map, List.getElem?_modify,
    List.getElem?_set, List.length_map]
  by_cases here : changed = other
  · subst here
    cases found : connection.reads[changed]? with
    | none => simp [List.getElem?_eq_none_iff.mp found]
    | some read => simp [(List.getElem?_eq_some_iff.mp found).1]
  · simp [here]

theorem unreturned_addTask (connection : Connection) {task : Task} (free : task.returned? = none) :
    (connection.addTask task).unreturned = connection.unreturned := by
  simp [unreturned, addTask, free]

/-- What callers put back before and after one of them moves on. -/
theorem unreturned_setTask {call : Nat} {task : Task} (stands : before.tasks[call]? = some task)
    (tasks : after.tasks = before.tasks) (next : Task) :
    ∃ left right, before.unreturned = left ++ (task.returned?.getD [] ++ right) ∧
      (after.setTask call next).unreturned = left ++ (next.returned?.getD [] ++ right) := by
  refine ⟨_, _, flatMap_split stands, ?_⟩
  rw [unreturned, setTask, tasks]
  exact flatMap_set stands next

theorem unreturned_setTask_of_none {call : Nat} {task next : Task}
    (stands : before.tasks[call]? = some task) (tasks : after.tasks = before.tasks)
    (had : task.returned? = none) (free : next.returned? = none) :
    (after.setTask call next).unreturned = before.unreturned := by
  rcases unreturned_setTask stands tasks next with ⟨left, right, old, new⟩
  rw [old, new, had, free]


theorem returned?_setTask_of_none {call : Nat} {task next : Task}
    (stands : before.tasks[call]? = some task) (tasks : after.tasks = before.tasks)
    (had : task.returned? = none) (free : next.returned? = none) (other : Nat) :
    (after.setTask call next).returned? other = before.returned? other := by
  rw [returned?_setTask next stands tasks]
  by_cases here : other = call
  · rw [if_pos here, free, here]
    simp [returned?, stands, had]
  · rw [if_neg here]

/-- A caller that has bytes to put back while nobody has any has none. -/
theorem returned?_of_unreturned {call : Nat} {data : List UInt8}
    (settled : before.unreturned = []) (returning : before.returned? call = some data) :
    data = [] := by
  rcases Option.bind_eq_some_iff.mp returning with ⟨task, stands, puts⟩
  have all := List.flatMap_eq_nil_iff.mp settled task (List.mem_of_getElem? stands)
  simpa [puts] using all

/--
What a step does to a session's queue: bytes come in at its end, or those of a read are fetched.
They are delivered, and what was behind them moves up.
-/
inductive Shift (number : Nat) (before after : Connection) (delivered received : List UInt8) :
    Option Nat → Prop where
  | grows (nothing : delivered = [])
      (grows : after.undelivered number = before.undelivered number ++ received) :
      Shift number before after delivered received none
  | fetches {place rest} (silent : received = [])
      (had : before.undelivered number = before.older number place ++ (delivered ++ rest))
      (has : after.undelivered number = before.older number place ++ rest) :
      Shift number before after delivered received (some place)

namespace Lineup

/-- A step that moves no byte and no worker. -/
theorem of_same (lineup : before.Lineup) (stages : after.stages = before.stages)
    (returns : ∀ call, after.returned? call = before.returned? call)
    (unreturned : after.unreturned = before.unreturned)
    (backlog : after.backlog = before.backlog) : after.Lineup where
  last := by
    rw [stages]
    exact lineup.last
  first := by
    rw [stages, unreturned, backlog]
    exact lineup.first
  single := by
    intro call data returning
    rw [returns] at returning
    rw [unreturned]
    exact lineup.single returning

/-! ### Workers -/

theorem younger_of_unfinished {read : Read} (lineup : before.Lineup)
    (found : before.reads[place]? = some read) (unfinished : read.isFinished = false) :
    before.reads.drop (place + 1) = [] := by
  have last : place + 1 = before.stages.length :=
    lineup.last (by simp [stages, found]) (Read.isFinished_eq_false.mp unfinished)
  simp only [stages, List.length_map] at last
  exact List.drop_eq_nil_iff.mpr (Nat.le_of_eq last.symm)

/-- A read that has ended was started before one whose worker runs. -/
theorem lt_of_unfinished {read other : Read} {ending : ReadEnding} {elsewhere : Nat}
    (lineup : before.Lineup) (found : before.reads[place]? = some read)
    (ended : read.stage = .ended ending) (there : before.reads[elsewhere]? = some other)
    (unfinished : other.isFinished = false) : place < elsewhere := by
  have inside := (List.getElem?_eq_some_iff.mp found).1
  have last : elsewhere + 1 = before.stages.length :=
    lineup.last (by simp [stages, there]) (Read.isFinished_eq_false.mp unfinished)
  have apart : elsewhere ≠ place := by
    rintro rfl
    rw [found, Option.some.injEq] at there
    exact Read.isFinished_eq_false.mp unfinished ending (there ▸ ended)
  simp only [stages, List.length_map] at last
  omega

theorem of_reader {read : Read} {stage : ReaderStage} (lineup : before.Lineup)
    (found : before.reads[place]? = some read) (unfinished : read.isFinished = false)
    (reads : after.reads = before.reads) (tasks : after.tasks = before.tasks)
    (first : stage.isPolling = true → read.stage.isPolling = true ∧
      after.backlog = before.backlog) :
    (after.setReader place stage).Lineup := by
  have length : place + 1 = before.stages.length :=
    lineup.last (by simp [stages, found]) (Read.isFinished_eq_false.mp unfinished)
  have moved : (after.setReader place stage).stages = before.stages.set place stage := by
    rw [stages_setReader, Connection.stages, Connection.stages, reads]
  refine ⟨?_, ?_, ?_⟩
  · intro other there elsewhere running
    rw [moved, List.length_set]
    by_cases here : other = place
    · rw [here]
      exact length
    · rw [moved, List.getElem?_set_ne (Ne.symm here)] at elsewhere
      exact lineup.last elsewhere running
  · intro there member polling
    have same : (after.setReader place stage).unreturned = before.unreturned := by
      simp only [unreturned, setReader, changeRead, tasks]
    rw [moved] at member
    rw [same]
    rcases List.mem_iff_getElem?.mp member with ⟨other, elsewhere⟩
    by_cases here : other = place
    · rw [here, List.getElem?_set_self (by omega), Option.some.injEq] at elsewhere
      subst elsewhere
      rcases first polling with ⟨polled, kept⟩
      have empty :=
        lineup.first read.stage (List.mem_map.mpr ⟨read, List.mem_of_getElem? found, rfl⟩)
        polled
      exact ⟨empty.1, kept.trans empty.2⟩
    · -- No other worker runs.
      rw [List.getElem?_set_ne (Ne.symm here)] at elsewhere
      have running : ∀ ending, there ≠ .ended ending := by
        rintro ending rfl
        cases polling
      have there := lineup.last elsewhere running
      omega
  · intro call data returning
    have same : (after.setReader place stage).unreturned = before.unreturned := by
      simp only [unreturned, setReader, changeRead, tasks]
    rw [same]
    apply @lineup.single call
    simpa only [returned?, setReader, changeRead, tasks] using returning

/-- The worker of the youngest read adds to the end of the queue. -/
theorem undelivered_setReader {read : Read} {stage : ReaderStage} {received : List UInt8}
    (lineup : before.Lineup) (found : before.reads[place]? = some read)
    (here : read.session = number) (unresolved : read.custody ≠ .resolved)
    (unfinished : read.isFinished = false) (reads : after.reads = before.reads)
    (tasks : after.tasks = before.tasks)
    (all : (read.stage.isPolling = true → before.unreturned = [] ∧ before.backlog = []) →
      stage.held ++ (before.unreturned ++ after.backlog) =
        read.stage.held ++ (before.unreturned ++ before.backlog) ++ received) :
    (after.setReader place stage).undelivered number = before.undelivered number ++ received := by
  have newest : before.younger number place = [] := by
    rw [younger, lineup.younger_of_unfinished found unfinished, List.flatMap_nil]
  have same : (after.setReader place stage).unreturned = before.unreturned := by
    simp only [unreturned, setReader, changeRead, tasks]
  have moved := all fun polling => lineup.first read.stage
    (List.mem_map.mpr ⟨read, List.mem_of_getElem? found, rfl⟩) polling
  have grows : (after.setReader place stage).undelivered number =
      before.older number place ++ (({ read with stage := stage } : Read).keptFor number ++
        (before.younger number place ++
          ((after.setReader place stage).unreturned ++ after.backlog))) :=
    @undelivered_changeRead before (after.setReader place stage) number place read
      ({ · with stage := stage }) found (congrArg (List.modify · place _) reads)
  have holds : ({ read with stage := stage } : Read).keptFor number = stage.held :=
    Read.keptFor_of_unresolved here unresolved
  rw [grows, undelivered_split found, holds, newest, same,
    Read.keptFor_of_unresolved here unresolved, List.nil_append, List.nil_append,
    List.append_assoc, moved]

/-! ### Starting reads -/

/-- A read is started when no worker runs and nobody puts bytes back. -/
theorem of_addRead {read : Read} (lineup : before.Lineup)
    (idle : ∀ stage ∈ before.stages, ∃ ending, stage = .ended ending)
    (returned : before.unreturned = []) (reads : after.reads = before.reads ++ [read])
    (tasks : after.tasks = before.tasks)
    (first : read.stage.isPolling = true → after.backlog = []) : after.Lineup := by
  have grown : after.stages = before.stages ++ [read.stage] := by
    simp [stages, reads]
  have same : after.unreturned = before.unreturned := by
    simp only [unreturned, tasks]
  refine ⟨?_, ?_, ?_⟩
  · intro place stage found running
    rw [grown, List.getElem?_append] at found
    split at found
    · rcases idle stage (List.mem_of_getElem? found) with ⟨ending, ended⟩
      exact absurd ended (running ending)
    · have inside := (List.getElem?_eq_some_iff.mp found).1
      rw [grown]
      simp only [List.length_append, List.length_singleton] at inside ⊢
      omega
  · intro stage member polling
    rw [grown] at member
    rcases List.mem_append.mp member with old | new
    · rcases idle stage old with ⟨ending, rfl⟩
      cases polling
    · rw [List.mem_singleton.mp new] at polling
      exact ⟨same.trans returned, first polling⟩
  · intro call data returning
    rw [same]
    apply @lineup.single call
    simpa only [returned?, tasks] using returning

theorem undelivered_addRead {read : Read} (here : read.session = number)
    (unresolved : read.custody ≠ .resolved) (returned : before.unreturned = [])
    (reads : after.reads = before.reads ++ [read]) (tasks : after.tasks = before.tasks)
    (all : read.stage.held ++ after.backlog = before.backlog) :
    after.undelivered number = before.undelivered number := by
  have same : after.unreturned = before.unreturned := by
    simp only [unreturned, tasks]
  rw [undelivered, undelivered, same, returned, reads, List.flatMap_append, List.flatMap_singleton,
    Read.keptFor_of_unresolved here unresolved, ← all, List.nil_append, List.nil_append,
    List.append_assoc]

theorem of_readStart {length : Nat} {result : Except Error Nat} (lineup : before.Lineup)
    (recorded : before.Recorded)
    (linked : ∀ {link}, before.openLink? = some link → link.session = number)
    (start : ReadStart before length after result)
    (returned : after.reads.length ≠ before.reads.length → before.unreturned = []) :
    after.Lineup ∧ after.undelivered number = before.undelivered number := by
  have idle {link : Link} (opened : before.openLink? = some link)
      (free : before.isReading link = false) :
      ∀ stage ∈ before.stages, ∃ ending, stage = .ended ending := by
    intro stage member
    rcases List.mem_map.mp member with ⟨read, among, rfl⟩
    rcases List.mem_iff_getElem?.mp among with ⟨place, found⟩
    by_contra running
    refine recorded.none_unfinished opened free ⟨read, found, rfl, ?_⟩
    exact Read.isFinished_eq_false.mpr fun ending ended => running ⟨ending, ended⟩
  cases start with
  | refused => exact ⟨lineup, rfl⟩
  | notStarted cause opened =>
      exact ⟨lineup.of_same rfl (fun _ => rfl) rfl rfl, rfl⟩
  | served journal opened free =>
      have settled := returned (by simp)
      exact ⟨lineup.of_addRead (idle opened free) settled rfl rfl nofun,
        undelivered_addRead (linked opened) (by simp) settled rfl rfl (List.take_append_drop _ _)⟩
  | polls opened free wanted empty =>
      have settled := returned (by simp)
      exact ⟨lineup.of_addRead (idle opened free) settled rfl rfl (fun _ => empty),
        undelivered_addRead (linked opened) (by simp) settled rfl rfl rfl⟩

/-! ### Callers -/

theorem of_entrant {task : Task} (lineup : before.Lineup) (stages : after.stages = before.stages)
    (tasks : after.tasks = before.tasks) (backlog : after.backlog = before.backlog)
    (free : task.returned? = none) : (after.addTask task).Lineup := by
  refine lineup.of_same stages (fun call => ?_) ?_ backlog
  · rw [returned?_addTask after free]
    simp only [returned?, tasks]
  · rw [unreturned_addTask after free]
    simp only [unreturned, tasks]

theorem undelivered_entrant {task : Task}
    (kept : after.reads.flatMap (Read.keptFor number) = before.reads.flatMap (Read.keptFor number))
    (tasks : after.tasks = before.tasks) (backlog : after.backlog = before.backlog)
    (free : task.returned? = none) :
    (after.addTask task).undelivered number = before.undelivered number := by
  have same : (after.addTask task).unreturned = before.unreturned := by
    rw [unreturned_addTask after free]
    simp only [unreturned, tasks]
  rw [undelivered, undelivered, same]
  change after.reads.flatMap _ ++ (_ ++ after.backlog) = _
  rw [kept, backlog]

theorem of_wait {read : Read} {target : ReadTarget} (lineup : before.Lineup)
    (found : before.reads[place]? = some read) (kept : read.custody = .kept) :
    ((before.setCustody place .awaited).addTask (.awaitingRead place target)).Lineup ∧
      ((before.setCustody place .awaited).addTask (.awaitingRead place target)).undelivered number =
        before.undelivered number := by
  have holds : ({ read with custody := .awaited } : Read).keptFor number = read.keptFor number := by
    simp [Read.keptFor, kept]
  refine ⟨lineup.of_entrant (stages_changeRead_of_eq before place fun _ => rfl) rfl rfl rfl,
    undelivered_entrant ?_ rfl rfl rfl⟩
  rw [setCustody, changeRead, modify_eq_set found, flatMap_set found, flatMap_split found, holds]

theorem of_entry {call : Call} {task : Task} (lineup : before.Lineup) (recorded : before.Recorded)
    (linked : ∀ {link}, before.openLink? = some link → link.session = number)
    (permitted : before.permits call = true) (entry : Entry before call after task)
    (returned : after.reads.length ≠ before.reads.length → before.unreturned = []) :
    (after.addTask task).Lineup ∧
      (after.addTask task).undelivered number = before.undelivered number := by
  have quiet {changed : Connection} (reads : changed.reads = before.reads)
      (tasks : changed.tasks = before.tasks) (backlog : changed.backlog = before.backlog)
      (free : task.returned? = none) : (changed.addTask task).Lineup ∧
        (changed.addTask task).undelivered number = before.undelivered number :=
    ⟨lineup.of_entrant (by rw [stages, stages, reads]) tasks backlog free,
      undelivered_entrant (by rw [reads]) tasks backlog free⟩
  cases entry with
  | @reads buffer offset length started number' fits start =>
      rcases start.started with ⟨rfl, read, reads, kept⟩
      rcases lineup.of_readStart recorded linked start (fun ne => returned (by
        simpa [setCustody, changeRead] using ne)) with ⟨still, same⟩
      have found : started.reads[before.reads.length]? = some read := by
        rw [reads, List.getElem?_concat_length]
      have waits := @of_wait started number _ read (.into buffer offset) still found kept
      exact ⟨waits.1, waits.2.trans same⟩
  | readFails fits start =>
      rcases lineup.of_readStart recorded linked start returned with ⟨still, same⟩
      exact ⟨still.of_entrant rfl rfl rfl rfl, (undelivered_entrant rfl rfl rfl rfl).trans same⟩
  | waits =>
      rcases kept_of_permits permitted with ⟨read, found, kept⟩
      exact lineup.of_wait found kept
  | waitsInto =>
      rcases kept_of_permits permitted with ⟨read, found, kept⟩
      exact lineup.of_wait found kept
  | writes start =>
      rcases start.frame with ⟨sessions, writes, rfl⟩
      exact quiet rfl rfl rfl rfl
  | _ => exact quiet rfl rfl rfl rfl

theorem of_turner {call : Nat} {task next : Task} (lineup : before.Lineup)
    (stands : before.tasks[call]? = some task) (stages : after.stages = before.stages)
    (tasks : after.tasks = before.tasks) (backlog : after.backlog = before.backlog)
    (had : task.returned? = none) (free : next.returned? = none) :
    (after.setTask call next).Lineup :=
  lineup.of_same stages (returned?_setTask_of_none stands tasks had free)
    (unreturned_setTask_of_none stands tasks had free) backlog

theorem undelivered_turner {call : Nat} {task next : Task}
    (stands : before.tasks[call]? = some task)
    (kept : after.reads.flatMap (Read.keptFor number) = before.reads.flatMap (Read.keptFor number))
    (tasks : after.tasks = before.tasks) (backlog : after.backlog = before.backlog)
    (had : task.returned? = none) (free : next.returned? = none) :
    (after.setTask call next).undelivered number = before.undelivered number := by
  rw [undelivered, undelivered, unreturned_setTask_of_none stands tasks had free]
  change after.reads.flatMap _ ++ (_ ++ after.backlog) = _
  rw [kept, backlog]

/-- What a caller gets leaves the queue at the place of the read that it fetches. -/
theorem undelivered_fetch {call : Nat} {read : Read} {target : ReadTarget} {next : Task}
    (stands : before.tasks[call]? = some (.awaitingRead place target))
    (found : before.reads[place]? = some read) (here : read.session = number)
    (unresolved : read.custody ≠ .resolved) (free : next.returned? = none) :
    before.undelivered number = before.older number place ++ (read.stage.held ++
        (before.younger number place ++ (before.unreturned ++ before.backlog))) ∧
      ((before.setCustody place .resolved).setTask call next).undelivered number =
        before.older number place ++
          (before.younger number place ++ (before.unreturned ++ before.backlog)) := by
  have rest : ((before.setCustody place .resolved).setTask call next).unreturned =
      before.unreturned :=
    unreturned_setTask_of_none stands rfl rfl free
  have moved : ((before.setCustody place .resolved).setTask call next).undelivered number =
      before.older number place ++ (({ read with custody := .resolved } : Read).keptFor number ++
        (before.younger number place ++
          (((before.setCustody place .resolved).setTask call next).unreturned ++
            before.backlog))) :=
    @undelivered_changeRead before ((before.setCustody place .resolved).setTask call next)
      number place
      read ({ · with custody := .resolved }) found rfl
  rw [undelivered_split found, Read.keptFor_of_unresolved here unresolved, moved, rest,
    Read.keptFor_of_resolved rfl, List.nil_append]
  exact ⟨rfl, rfl⟩

/-- Bytes that are fetched and do not fit stay where they are, with only the backlog behind them. -/
theorem of_spill {call : Nat} {read : Read} {ending : ReadEnding} {buffer : List UInt8}
    {offset : Nat} (lineup : before.Lineup)
    (stands : before.tasks[call]? = some (.awaitingRead place (.into buffer offset)))
    (found : before.reads[place]? = some read) (here : read.session = number)
    (unresolved : read.custody ≠ .resolved) (ended : read.stage = .ended ending)
    (unfetched : ∀ read ∈ before.reads, read.stage.isPolling = true → read.custody ≠ .resolved)
    (free : ending.bytes ≠ [] → before.FreeBehind place) :
    let after :=
      (before.setCustody place .resolved).setTask call (.puttingBack ending.bytes buffer offset)
    after.Lineup ∧ after.undelivered number = before.undelivered number := by
  intro after
  have stages : after.stages = before.stages :=
    stages_changeRead_of_eq before place fun _ => rfl
  have returns (other : Nat) : after.returned? other =
      if other = call then some ending.bytes else before.returned? other :=
    returned?_setTask (.puttingBack ending.bytes buffer offset) stands rfl other
  rcases @unreturned_setTask before (before.setCustody place .resolved) call _ stands rfl
    (.puttingBack ending.bytes buffer offset) with ⟨left, right, old, new⟩
  have moved : after.undelivered number = before.older number place ++
      (({ read with custody := .resolved } : Read).keptFor number ++
        (before.younger number place ++ (after.unreturned ++ before.backlog))) :=
    @undelivered_changeRead before after number place read
      ({ · with custody := .resolved }) found rfl
  by_cases nothing : ending.bytes = []
  · have same : after.unreturned = before.unreturned := by
      have holds : (Task.puttingBack ending.bytes buffer offset).returned?.getD [] = [] := nothing
      rw [holds] at new
      exact new.trans old.symm
    have held : read.stage.held = [] := by rw [ended, ReaderStage.held, nothing]
    refine ⟨⟨?_, ?_, ?_⟩, ?_⟩
    · rw [stages]
      exact lineup.last
    · rw [stages, same]
      exact lineup.first
    · intro other data returning
      rw [returns] at returning
      rw [same]
      split at returning
      · cases returning
        exact .inl nothing
      · exact lineup.single returning
    · rw [moved, same, undelivered_split found, Read.keptFor_of_unresolved here unresolved, held,
        Read.keptFor_of_resolved rfl]
  · have clear := free nothing
    rw [clear.returned, eq_comm, List.append_eq_nil_iff, List.append_eq_nil_iff] at old
    have same : after.unreturned = ending.bytes := by
      simpa [old.1, old.2.2, Task.returned?] using new
    have newest : before.younger number place = [] :=
      List.flatMap_eq_nil_iff.mpr fun other member =>
        Read.keptFor_of_isSpent (clear.spent other member) number
    refine ⟨⟨?_, ?_, ?_⟩, ?_⟩
    · rw [stages]
      exact lineup.last
    · -- A worker that polls would be one of a younger read.
      intro stage member polling
      rw [stages] at member
      rcases List.mem_map.mp member with ⟨other, among, rfl⟩
      rcases List.mem_iff_getElem?.mp among with ⟨elsewhere, there⟩
      have unfinished : other.isFinished = false := by
        refine Read.isFinished_eq_false.mpr fun ending stopped => ?_
        rw [stopped] at polling
        cases polling
      have apart := lineup.lt_of_unfinished found ended there unfinished
      have behind : other ∈ before.reads.drop (place + 1) := by
        rw [List.mem_iff_getElem?]
        refine ⟨elsewhere - (place + 1), ?_⟩
        rw [List.getElem?_drop,
          show place + 1 + (elsewhere - (place + 1)) = elsewhere by omega, there]
      have spent := clear.spent other behind
      simp [Read.isSpent, polling, unfetched other among polling] at spent
    · intro other data returning
      rw [returns] at returning
      rw [same]
      split at returning
      · cases returning
        exact .inr rfl
      · exact .inl (returned?_of_unreturned clear.returned returning)
    · rw [moved, same, undelivered_split found, Read.keptFor_of_unresolved here unresolved,
        newest, ended, clear.returned, Read.keptFor_of_resolved rfl]
      rfl

/-- Bytes that are put back become the front of the backlog, right where they were in the queue. -/
theorem of_putBack {call : Nat} {data buffer : List UInt8} {offset : Nat} {next : Task}
    (lineup : before.Lineup) (stands : before.tasks[call]? = some (.puttingBack data buffer offset))
    (free : next.returned? = none) :
    ((before.putBack data).setTask call next).Lineup ∧
      ((before.putBack data).setTask call next).undelivered number = before.undelivered number := by
  have returning : before.returned? call = some data := by
    simp [returned?, stands, Task.returned?]
  have returns (other : Nat) : ((before.putBack data).setTask call next).returned? other =
      if other = call then next.returned? else before.returned? other :=
    returned?_setTask next stands rfl other
  rcases @unreturned_setTask before (before.putBack data) call _ stands rfl next with
    ⟨left, right, old, new⟩
  simp only [Task.returned?, Option.getD_some] at old
  simp only [free, Option.getD_none, List.nil_append] at new
  have others {other : Nat} {kept : List UInt8}
      (returning : ((before.putBack data).setTask call next).returned? other = some kept) :
      before.returned? other = some kept := by
    rw [returns] at returning
    split at returning
    · rw [free] at returning
      cases returning
    · exact returning
  -- Either there is nothing to put back, or all that is to be put back is with this caller.
  rcases lineup.single returning with rfl | whole
  · have same : ((before.putBack []).setTask call next).unreturned = before.unreturned := by
      rw [old, new, List.nil_append]
    refine ⟨⟨lineup.last, ?_, ?_⟩, ?_⟩
    · rw [same]
      exact lineup.first
    · intro other kept returning
      rw [same]
      exact lineup.single (others returning)
    · rw [undelivered, undelivered, same]
      rfl
  · have rest : left = [] ∧ right = [] := by
      rw [whole] at old
      have lengths := congrArg List.length old
      simp only [List.length_append] at lengths
      exact ⟨List.eq_nil_of_length_eq_zero (by omega), List.eq_nil_of_length_eq_zero (by omega)⟩
    have emptied : ((before.putBack data).setTask call next).unreturned = [] := by
      rw [new, rest.1, rest.2, List.nil_append]
    refine ⟨⟨lineup.last, ?_, ?_⟩, ?_⟩
    · intro stage member polling
      rcases lineup.first stage member polling with ⟨returned, empty⟩
      refine ⟨emptied, ?_⟩
      rw [whole] at returned
      simp [setTask, putBack, returned, empty]
    · intro other kept returning
      exact .inl (returned?_of_unreturned emptied returning)
    · rw [undelivered, undelivered, emptied, whole]
      rfl

theorem of_handover {call : Nat} {read : Read} {target : ReadTarget} {ending : ReadEnding}
    {next : Task} (lineup : before.Lineup) (custodial : before.Custodial)
    (stands : before.tasks[call]? = some (.awaitingRead place target))
    (found : before.reads[place]? = some read) (here : read.session = number)
    (ended : read.stage = .ended ending) (free : next.returned? = none)
    (gets : (Task.awaitingRead place target).delivered next = ending.bytes) :
    ((before.setCustody place .resolved).setTask call next).Lineup ∧
      Shift number before ((before.setCustody place .resolved).setTask call next)
        ((Task.awaitingRead place target).delivered next) [] (some place) := by
  have unresolved : read.custody ≠ .resolved := by
    rw [custodial.awaited_of_stands stands found]
    simp
  have stages : (before.setCustody place .resolved).stages = before.stages :=
    stages_changeRead_of_eq before place fun _ => rfl
  rcases undelivered_fetch stands found here unresolved free with ⟨had, has⟩
  rw [ended, ReaderStage.held, ← gets] at had
  exact ⟨lineup.of_turner stands stages rfl rfl rfl free, .fetches rfl had has⟩

theorem of_turn {call : Nat} {task next : Task} (lineup : before.Lineup)
    (custodial : before.Custodial) (stands : before.tasks[call]? = some task)
    (waits : ∀ {place target read}, task = .awaitingRead place target →
      before.reads[place]? = some read → read.session = number)
    (uncleared : ∀ address config session, task ≠ .clearing address config session)
    (free : ∀ {place target}, task = .awaitingRead place target → next.returned?.getD [] ≠ [] →
      before.FreeBehind place)
    (turn : Turn before call task after next) :
    (after.setTask call next).Lineup ∧
      Shift number before (after.setTask call next) (task.delivered next) [] task.awaited? := by
  have quiet {changed : Connection} (stages : changed.stages = before.stages)
      (kept : changed.reads.flatMap (Read.keptFor number) =
        before.reads.flatMap (Read.keptFor number))
      (tasks : changed.tasks = before.tasks) (backlog : changed.backlog = before.backlog)
      (had : task.returned? = none) (has : next.returned? = none)
      (delivers : task.delivered next = []) : (changed.setTask call next).Lineup ∧
        Shift number before (changed.setTask call next) (task.delivered next) [] none := by
    refine ⟨lineup.of_turner stands stages tasks backlog had has, .grows delivers ?_⟩
    rw [undelivered_turner stands kept tasks backlog had has, List.append_nil]
  have cancelled (read : Nat) : (before.cancel read).stages = before.stages ∧
      (before.cancel read).reads.flatMap (Read.keptFor number) =
        before.reads.flatMap (Read.keptFor number) :=
    ⟨stages_changeRead_of_eq before read fun _ => rfl,
      flatMap_of_map_eq (map_modify_of_eq before.reads read fun _ => rfl)⟩
  cases turn with
  | clears => exact absurd rfl (uncleared _ _ _)
  | lists progress =>
      rcases progress.only_tells with ⟨journal, rfl⟩
      exact quiet rfl rfl rfl rfl rfl rfl rfl
  | opens progress =>
      rcases progress.only_tells with ⟨journal, rfl⟩
      exact quiet rfl rfl rfl rfl rfl rfl rfl
  | releases progress =>
      rcases progress.only_tells with ⟨journal, rfl⟩
      exact quiet rfl rfl rfl rfl rfl rfl rfl
  | configures progress =>
      obtain ⟨journal, rfl⟩ | rfl := progress.only_lane <;> exact quiet rfl rfl rfl rfl rfl rfl rfl
  | fetchesError found ended =>
      exact lineup.of_handover custodial stands found (waits rfl found) ended rfl rfl
  | fetchesBytes found ended =>
      exact lineup.of_handover custodial stands found (waits rfl found) ended rfl rfl
  | stores found ended fits =>
      exact lineup.of_handover custodial stands found (waits rfl found) ended rfl
        (take_of_store? fits)
  | @spills place read phase data buffer offset found ended =>
      have unresolved : read.custody ≠ .resolved := by
        rw [custodial.awaited_of_stands stands found]
        simp
      have unfetched : ∀ other ∈ before.reads, other.stage.isPolling = true →
          other.custody ≠ .resolved := by
        intro other member polling
        rcases List.mem_iff_getElem?.mp member with ⟨elsewhere, there⟩
        refine custodial.unresolved there (Read.isFinished_eq_false.mpr fun ending stopped => ?_)
        rw [stopped] at polling
        cases polling
      have moved :=
        lineup.of_spill stands found (waits rfl found) unresolved ended unfetched (free rfl)
      have had := @undelivered_split before number place read found
      exact ⟨moved.1, .fetches rfl had (moved.2.trans had)⟩
  | @putsBack data buffer offset =>
      have moved := @of_putBack before number call data buffer offset
        (Task.failed (.invalidRange offset data.length buffer.length)) lineup stands rfl
      exact ⟨moved.1, .grows rfl (moved.2.trans (List.append_nil _).symm)⟩
  | fetchesWrite found ended =>
      rcases writeEnding?_eq_some ended with ⟨result, rfl⟩
      exact quiet rfl rfl rfl rfl rfl rfl rfl
  | @returnsTicket session line result =>
      have has : (afterTicket line result).returned? = none := by
        cases result <;> cases line <;> rfl
      exact quiet rfl rfl rfl rfl rfl has rfl
  | cancels => exact quiet (cancelled _).1 (cancelled _).2 rfl rfl rfl rfl rfl
  | overflows => exact quiet (cancelled _).1 (cancelled _).2 rfl rfl rfl rfl rfl
  | _ => exact quiet rfl rfl rfl rfl rfl rfl rfl

/-! ### Every step -/

theorem of_readerTurn {read : Read} {stage : ReaderStage} (lineup : before.Lineup)
    (found : before.reads[place]? = some read) (here : read.session = number)
    (unresolved : read.custody ≠ .resolved) (turn : ReaderTurn before read after stage) :
    (after.setReader place stage).Lineup ∧
      (after.setReader place stage).undelivered number = before.undelivered number := by
  have unfinished := turn.unfinished
  have frame : after.reads = before.reads ∧ after.tasks = before.tasks := by
    rcases turn.frame with ⟨backlog, sessions, rfl⟩
    exact ⟨rfl, rfl⟩
  have grows (all : (read.stage.isPolling = true → before.unreturned = [] ∧ before.backlog = []) →
      stage.held ++ (before.unreturned ++ after.backlog) =
        read.stage.held ++ (before.unreturned ++ before.backlog) ++ []) :
      (after.setReader place stage).undelivered number = before.undelivered number ++ [] :=
    lineup.undelivered_setReader found here unresolved unfinished frame.1 frame.2 all
  refine ⟨lineup.of_reader found unfinished frame.1 frame.2 ?_,
    (grows ?_).trans (List.append_nil _)⟩
  · intro polling
    cases turn with
    | polls checking => simp [checking, ReaderStage.isPolling]
    | _ => cases polling
  · intro first
    rw [List.append_nil]
    cases turn with
    | stops checking => rw [checking]; rfl
    | polls checking => rw [checking]; rfl
    | keepsAll came =>
        rcases first (by rw [came]; rfl) with ⟨returned, empty⟩
        simp [came, returned, empty, ReaderStage.held, ReadEnding.bytes]
    | divides came =>
        rcases first (by rw [came]; rfl) with ⟨returned, empty⟩
        simp [came, returned, empty, ReaderStage.held, ReadEnding.bytes]
    | leaves leaving => rw [leaving]; rfl
    | leavesLast leaving => rw [leaving]; rfl
    | reports reporting => rw [reporting]; rfl

theorem of_readerAnswer {read : Read} {stage : ReaderStage} {session : Session} {request : Request}
    {reply : request.Reply} (lineup : before.Lineup)
    (found : before.reads[place]? = some read) (here : read.session = number)
    (unresolved : read.custody ≠ .resolved)
    (answer : ReaderAnswer before read session request reply stage) :
    (before.setReader place stage).Lineup ∧
      (before.setReader place stage).undelivered number = before.undelivered number ++
        received session.handle (.reader place, ⟨request, reply⟩) := by
  have unfinished := answer.unfinished
  refine ⟨lineup.of_reader found unfinished rfl rfl ?_,
    lineup.undelivered_setReader found here unresolved unfinished rfl rfl ?_⟩
  · intro polling
    cases answer with
    | polled polled => exact ⟨by rw [polled]; rfl, rfl⟩
    | closed => cases polling
  · intro first
    cases answer with
    | polled polling =>
        rcases first (by rw [polling]; rfl) with ⟨returned, empty⟩
        rw [polling, returned, empty]
        exact (List.append_nil _).trans (held_afterPoll session.handle _ _ _ place _)
    | closed closing =>
        rw [closing]
        exact (List.append_nil _).symm

theorem of_move {action : Action} {exchange? : Option Exchange} {handle : Handle}
    (lineup : before.Lineup) (custodial : before.Custodial) (recorded : before.Recorded)
    (linked : ∀ {link}, before.openLink? = some link → link.session = number)
    (polled : ∀ {place session}, before.Unfinished place session → session = number)
    (device : ∀ {session}, before.sessions[number]? = some session → session.handle = handle)
    (waits : ∀ {call place : Nat} {target : ReadTarget} {read : Read},
      before.tasks[call]? = some (.awaitingRead place target) → before.reads[place]? = some read →
        read.session = number)
    (uncleared : ∀ address config session, .clearing address config session ∉ before.tasks)
    (returned : after.reads.length ≠ before.reads.length → before.unreturned = [])
    (free : after.excess action ≠ [] → ∀ place ∈ before.fetched? action, before.FreeBehind place)
    (move : Move before action exchange? after) :
    after.Lineup ∧ Shift number before after (delivery before action after)
      (receivedOn handle exchange?.toList) (before.fetched? action) := by
  have quiet {changed : Connection} {delivered received : List UInt8}
      (delivers : delivered = []) (hears : received = [])
      (moved : changed.Lineup ∧ changed.undelivered number = before.undelivered number) :
      changed.Lineup ∧ Shift number before changed delivered received none := by
    refine ⟨moved.1, .grows delivers ?_⟩
    rw [hears, moved.2, List.append_nil]
  cases move with
  | enters permitted entry =>
      exact quiet rfl rfl (lineup.of_entry recorded linked permitted entry returned)
  | startsRead start => exact quiet rfl rfl (lineup.of_readStart recorded linked start returned)
  | startsWrite start =>
      rcases start.frame with ⟨sessions, writes, rfl⟩
      exact quiet rfl rfl ⟨lineup.of_same rfl (fun _ => rfl) rfl rfl, rfl⟩
  | @cancels read =>
      have kept : (before.cancel read).reads.flatMap (Read.keptFor number) =
          before.reads.flatMap (Read.keptFor number) :=
        flatMap_of_map_eq (map_modify_of_eq before.reads read fun _ => rfl)
      refine quiet rfl rfl ⟨lineup.of_same (stages_changeRead_of_eq before read fun _ => rfl)
        (fun _ => rfl) rfl rfl, ?_⟩
      rw [undelivered, kept]
      rfl
  | @turns call task changed next stands turn =>
      have fetched : before.fetched? (.advance (.call call)) = task.awaited? := by
        simp [fetched?, stands]
      have spills : (changed.setTask call next).excess (.advance (.call call)) =
          next.returned?.getD [] := by
        rw [excess, returned?_setTask next stands turn.tasks_eq, if_pos rfl]
      rw [fetched, spills] at free
      rw [delivery_of_stands stands turn.tasks_eq, fetched]
      refine lineup.of_turn custodial stands (fun here found => waits (here ▸ stands) found)
        (fun address config session same => ?_) (fun here spilled => ?_) turn
      · exact uncleared address config session (same ▸ List.mem_of_getElem? stands)
      · exact free spilled _ (by rw [here]; rfl)
  | answered stands answer =>
      refine quiet rfl rfl ?_
      cases answer <;>
        exact ⟨lineup.of_turner stands rfl rfl rfl rfl rfl,
          undelivered_turner stands rfl rfl rfl rfl rfl⟩
  | readerTurns found turn =>
      have here := polled ⟨_, found, rfl, turn.unfinished⟩
      exact quiet rfl rfl
        (lineup.of_readerTurn found here (custodial.unresolved found turn.unfinished) turn)
  | @readerAnswered place read session request replies stage found held answer =>
      have here := polled ⟨_, found, rfl, answer.unfinished⟩
      have moved := lineup.of_readerAnswer found here
        (custodial.unresolved found answer.unfinished) answer
      refine ⟨moved.1, .grows rfl ?_⟩
      rw [moved.2, device (here ▸ held)]
      exact congrArg _ (List.append_nil _).symm
  | writerTurns found turn =>
      rcases turn.frame with ⟨sessions, writes, rfl⟩
      exact quiet rfl rfl ⟨lineup.of_same rfl (fun _ => rfl) rfl rfl, rfl⟩
  | writerAnswered found answer =>
      rcases answer.frame with ⟨sessions, writes, rfl⟩
      exact quiet rfl rfl ⟨lineup.of_same rfl (fun _ => rfl) rfl rfl, rfl⟩
  | expires stands =>
      exact quiet rfl rfl ⟨lineup.of_turner stands rfl rfl rfl rfl rfl,
        undelivered_turner stands rfl rfl rfl rfl rfl⟩

end Lineup

end Step

end Connection

end CdcSerial
