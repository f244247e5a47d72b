import CdcSerial.Proofs.Connection.Soundness

/-!
# Who waits for which read

Waiting uses up the right to the outcome of a read, so each read has at most one caller that waits
for it, and as long as it has one, the read counts as awaited. The outcome is fetched when the
worker has reported, so a read that is resolved has ended.
-/

namespace CdcSerial

/-- The read that a caller waits for. -/
def Task.awaited? : Task → Option Nat
  | .awaitingRead read _ => some read
  | _ => none

namespace Connection

/-- How many callers wait for a read. -/
def awaitCount (connection : Connection) (number : Nat) : Nat :=
  connection.tasks.countP fun task => decide (task.awaited? = some number)

/-- What became of the right to the outcome of a read, and where its worker stands. -/
def claim? (connection : Connection) (number : Nat) : Option (Custody × ReaderStage) :=
  connection.reads[number]?.map fun read => (read.custody, read.stage)

/-- The read that somebody uses with an action. -/
def Action.read? : Action → Option Nat
  | .invoke (.wait read) _ => some read
  | .invoke (.waitInto read _ _) _ => some read
  | .cancel read => some read
  | _ => none

/--
Whoever has started a read of the connection so far has used it up or has dropped it: no action to
come uses the read.
-/
def DropsReads (connection : Connection) (further : List Action) : Prop :=
  ∀ action ∈ further, ∀ number ∈ action.read?, connection.reads.length ≤ number

/-- A read is awaited exactly while one caller waits for it, and resolved only when it has ended. -/
structure Custodial (connection : Connection) : Prop where
  awaited : ∀ number, connection.awaitCount number =
    (decide ((connection.claim? number).map (·.1) = some .awaited)).toNat
  resolved : ∀ {number stage}, connection.claim? number = some (.resolved, stage) →
    ∃ ending, stage = .ended ending

theorem fresh_custodial (locator : Locator) (settings : Settings) :
    (fresh locator settings).Custodial where
  awaited _ := rfl
  resolved := by
    intro number stage found
    cases found

/-! ### How claims change -/

theorem claim?_of_getElem? {connection : Connection} {number : Nat} {read : Read}
    (found : connection.reads[number]? = some read) :
    connection.claim? number = some (read.custody, read.stage) := by
  simp [claim?, found]

theorem claim?_changeRead {connection : Connection} {changed : Nat} {read : Read}
    (found : connection.reads[changed]? = some read) (change : Read → Read) (number : Nat) :
    (connection.changeRead changed change).claim? number =
      if number = changed then some ((change read).custody, (change read).stage)
      else connection.claim? number := by
  simp only [claim?, changeRead, List.getElem?_modify]
  by_cases here : number = changed
  · subst here
    simp [found]
  · simp [here, Ne.symm here]

theorem claim?_cancel (connection : Connection) (cancelled number : Nat) :
    (connection.cancel cancelled).claim? number = connection.claim? number := by
  cases found : connection.reads[cancelled]? with
  | none =>
      simp [claim?, cancel, changeRead, List.modify_eq_self (List.getElem?_eq_none_iff.mp found)]
  | some read =>
      rw [cancel, claim?_changeRead found]
      by_cases here : number = cancelled
      · rw [if_pos here, here, claim?_of_getElem? found]
      · rw [if_neg here]

theorem claim?_concat {before after : Connection} {read : Read}
    (reads : after.reads = before.reads ++ [read]) (number : Nat) :
    after.claim? number =
      if number = before.reads.length then some (read.custody, read.stage)
      else before.claim? number := by
  simp only [claim?, reads, List.getElem?_append]
  by_cases inside : number < before.reads.length
  · simp [inside, Nat.ne_of_lt inside]
  · by_cases last : number = before.reads.length
    · simp [last]
    · have outside : [read][number - before.reads.length]? = none := by
        rw [List.getElem?_eq_none_iff, List.length_singleton]
        omega
      simp [inside, last, outside]

theorem claim?_length (connection : Connection) :
    connection.claim? connection.reads.length = none := by
  simp [claim?]

theorem awaitCount_setTask {before after : Connection} {call : Nat} {task : Task} (next : Task)
    (stands : before.tasks[call]? = some task) (tasks : after.tasks = before.tasks)
    (number : Nat) :
    (after.setTask call next).awaitCount number + (decide (task.awaited? = some number)).toNat =
      before.awaitCount number + (decide (next.awaited? = some number)).toNat := by
  simp only [awaitCount, setTask, tasks]
  exact countP_set_add next stands

theorem awaitCount_addTask (connection : Connection) (task : Task) (number : Nat) :
    (connection.addTask task).awaitCount number =
      connection.awaitCount number + (decide (task.awaited? = some number)).toNat :=
  countP_concat task

theorem claim?_setReader {before after : Connection} {changed : Nat} {read : Read}
    (found : before.reads[changed]? = some read) (reads : after.reads = before.reads)
    (stage : ReaderStage) (number : Nat) :
    (after.setReader changed stage).claim? number =
      if number = changed then some (read.custody, stage) else before.claim? number := by
  rw [setReader, claim?_changeRead (reads ▸ found)]
  simp only [claim?, reads]

/-! ### Claims stay in order -/

/-- The outcome of a read whose worker has not ended has not been fetched. -/
theorem Custodial.unresolved {connection : Connection} {number : Nat} {read : Read}
    (custodial : connection.Custodial) (found : connection.reads[number]? = some read)
    (running : read.isFinished = false) : read.custody ≠ .resolved := by
  intro fetched
  rcases custodial.resolved (fetched ▸ claim?_of_getElem? found) with ⟨ending, ended⟩
  exact Read.isFinished_eq_false.mp running ending ended

theorem Custodial.awaited_of_stands {connection : Connection} {call number : Nat} {read : Read}
    {target : ReadTarget} (custodial : connection.Custodial)
    (stands : connection.tasks[call]? = some (.awaitingRead number target))
    (found : connection.reads[number]? = some read) : read.custody = .awaited := by
  have count := custodial.awaited number
  have waits : 0 < connection.awaitCount number :=
    List.countP_pos_iff.mpr ⟨_, List.mem_of_getElem? stands, by simp [Task.awaited?]⟩
  by_contra other
  simp [count, claim?_of_getElem? found, other] at waits

theorem Custodial.of_same {before after : Connection} (custodial : before.Custodial)
    (tasks : ∀ number, after.awaitCount number = before.awaitCount number)
    (claims : ∀ number, after.claim? number = before.claim? number) : after.Custodial where
  awaited number := by rw [tasks, claims, custodial.awaited]
  resolved := by
    intro number stage found
    rw [claims] at found
    exact custodial.resolved found

theorem Custodial.of_setReader {before after : Connection} {changed : Nat} {read : Read}
    {stage : ReaderStage} (custodial : before.Custodial)
    (found : before.reads[changed]? = some read) (running : ∀ ending, read.stage ≠ .ended ending)
    (tasks : after.tasks = before.tasks) (reads : after.reads = before.reads) :
    (after.setReader changed stage).Custodial := by
  have claims := claim?_setReader found reads stage
  have counts (number : Nat) : (after.setReader changed stage).awaitCount number =
      before.awaitCount number := by
    simp only [awaitCount, setReader, changeRead, tasks]
  constructor
  · intro number
    rw [counts, claims, custodial.awaited]
    by_cases here : number = changed
    · rw [if_pos here, here, claim?_of_getElem? found]
      rfl
    · rw [if_neg here]
  · intro number other held
    rw [claims] at held
    by_cases here : number = changed
    · simp only [if_pos here, Option.some.injEq, Prod.mk.injEq] at held
      rcases custodial.resolved (held.1 ▸ claim?_of_getElem? found) with ⟨ending, ended⟩
      exact absurd ended (running ending)
    · rw [if_neg here] at held
      exact custodial.resolved held

theorem Custodial.of_addRead {before after : Connection} {read : Read}
    (custodial : before.Custodial) (kept : read.custody = .kept)
    (tasks : after.tasks = before.tasks) (reads : after.reads = before.reads ++ [read]) :
    after.Custodial := by
  have claims := claim?_concat reads
  constructor
  · intro number
    have counts : after.awaitCount number = before.awaitCount number := by
      simp only [awaitCount, tasks]
    rw [counts, claims, custodial.awaited]
    by_cases here : number = before.reads.length
    · rw [if_pos here, here, claim?_length, kept]
      rfl
    · rw [if_neg here]
  · intro number stage held
    rw [claims] at held
    by_cases here : number = before.reads.length
    · simp [if_pos here, kept] at held
    · rw [if_neg here] at held
      exact custodial.resolved held

theorem Custodial.of_wait {connection : Connection} {number : Nat} {read : Read}
    {target : ReadTarget} (custodial : connection.Custodial)
    (found : connection.reads[number]? = some read) (kept : read.custody = .kept) :
    ((connection.setCustody number .awaited).addTask (.awaitingRead number target)).Custodial := by
  have claims (other : Nat) :
      ((connection.setCustody number .awaited).addTask (.awaitingRead number target)).claim? other =
        if other = number then some (.awaited, read.stage) else connection.claim? other :=
    claim?_changeRead found _ other
  constructor
  · intro other
    rw [claims, awaitCount_addTask]
    change connection.awaitCount other + (decide (some number = some other)).toNat = _
    rw [custodial.awaited]
    by_cases here : other = number
    · subst here
      simp [claim?_of_getElem? found, kept]
    · have unasked : decide (some number = some other) = false := by simp [Ne.symm here]
      rw [if_neg here, unasked]
      rfl
  · intro other stage held
    rw [claims] at held
    by_cases here : other = number
    · simp [if_pos here] at held
    · rw [if_neg here] at held
      exact custodial.resolved held

theorem Custodial.of_fetch {connection : Connection} {call number : Nat} {read : Read}
    {target : ReadTarget} {ending : ReadEnding} {next : Task} (custodial : connection.Custodial)
    (stands : connection.tasks[call]? = some (.awaitingRead number target))
    (found : connection.reads[number]? = some read) (ended : read.stage = .ended ending)
    (free : next.awaited? = none) :
    ((connection.setCustody number .resolved).setTask call next).Custodial := by
  have claims (other : Nat) :
      ((connection.setCustody number .resolved).setTask call next).claim? other =
        if other = number then some (.resolved, read.stage) else connection.claim? other :=
    claim?_changeRead found _ other
  constructor
  · intro other
    have counts : ((connection.setCustody number .resolved).setTask call next).awaitCount other +
        (decide (some number = some other)).toNat = connection.awaitCount other := by
      refine (awaitCount_setTask next stands rfl other).trans ?_
      rw [free]
      rfl
    have before := custodial.awaited other
    rw [claims]
    by_cases here : other = number
    · subst here
      simp at counts ⊢
      have one : connection.awaitCount other ≤ 1 := by
        rw [before]
        exact Bool.toNat_le _
      omega
    · simp only [Option.some.injEq, Ne.symm here, decide_false, Bool.toNat_false,
        Nat.add_zero] at counts
      rw [if_neg here, counts, before]
  · intro other stage held
    rw [claims] at held
    by_cases here : other = number
    · simp only [if_pos here, Option.some.injEq, Prod.mk.injEq] at held
      exact ⟨ending, held.2.symm.trans ended⟩
    · rw [if_neg here] at held
      exact custodial.resolved held

theorem ReadStart.custodial {before after : Connection} {length : Nat}
    {result : Except Error Nat} (custodial : before.Custodial)
    (start : ReadStart before length after result) : after.Custodial := by
  cases start with
  | refused => exact custodial
  | served journal opened => exact custodial.of_addRead rfl rfl rfl
  | notStarted cause opened => exact custodial.of_same (fun _ => rfl) (fun _ => rfl)
  | polls opened => exact custodial.of_addRead rfl rfl rfl

/-- The read that was started is the last, and nobody waits for it. -/
theorem ReadStart.started {before after : Connection} {length number : Nat}
    (start : ReadStart before length after (.ok number)) :
    number = before.reads.length ∧ ∃ read, after.reads = before.reads ++ [read] ∧
      read.custody = .kept := by
  cases start with
  | served journal opened => exact ⟨rfl, _, rfl, rfl⟩
  | polls opened => exact ⟨rfl, _, rfl, rfl⟩

theorem kept_of_permits {connection : Connection} {number : Nat}
    (permitted : connection.reads[number]?.any (·.custody == .kept) = true) :
    ∃ read, connection.reads[number]? = some read ∧ read.custody = .kept := by
  cases found : connection.reads[number]? with
  | none => simp [found] at permitted
  | some read =>
      refine ⟨read, rfl, ?_⟩
      simpa [found] using permitted

theorem Custodial.of_entrant {before after : Connection} {task : Task}
    (custodial : before.Custodial) (tasks : after.tasks = before.tasks)
    (claims : ∀ number, after.claim? number = before.claim? number) (free : task.awaited? = none) :
    (after.addTask task).Custodial := by
  refine custodial.of_same (fun number => ?_) claims
  rw [awaitCount_addTask, free]
  simp [awaitCount, tasks]

theorem Custodial.of_entry {before after : Connection} {call : Call} {task : Task}
    (custodial : before.Custodial) (permitted : before.permits call = true)
    (entry : Entry before call after task) : (after.addTask task).Custodial := by
  cases entry with
  | reads fits start =>
      rcases start.started with ⟨rfl, read, reads, unasked⟩
      refine (start.custodial custodial).of_wait ?_ unasked
      rw [reads, List.getElem?_concat_length]
  | readFails fits start => exact (start.custodial custodial).of_entrant rfl (fun _ => rfl) rfl
  | waits =>
      rcases kept_of_permits permitted with ⟨read, found, unasked⟩
      exact custodial.of_wait found unasked
  | waitsInto =>
      rcases kept_of_permits permitted with ⟨read, found, unasked⟩
      exact custodial.of_wait found unasked
  | writes start =>
      rcases start.frame with ⟨sessions, writes, rfl⟩
      exact custodial.of_entrant rfl (fun _ => rfl) rfl
  | _ => exact custodial.of_entrant rfl (fun _ => rfl) rfl

/-- A turn of a caller that waits for no read before or after it. -/
theorem Custodial.of_turner {before after : Connection} {call : Nat} {task next : Task}
    (custodial : before.Custodial) (stands : before.tasks[call]? = some task)
    (tasks : after.tasks = before.tasks)
    (claims : ∀ number, after.claim? number = before.claim? number) (had : task.awaited? = none)
    (free : next.awaited? = none) : (after.setTask call next).Custodial := by
  refine custodial.of_same (fun number => ?_) claims
  have moved := awaitCount_setTask next stands tasks number
  rw [had, free] at moved
  exact moved

theorem writeEnding?_awaited {state : WriteState} {task : Task}
    (ended : writeEnding? state = some task) : task.awaited? = none := by
  rcases writeEnding?_eq_some ended with ⟨result, rfl⟩
  rfl

theorem afterTicket_awaited (line : Option LineConfig) (result : Except Error Unit) :
    (afterTicket line result).awaited? = none := by
  cases result <;> cases line <;> rfl

theorem Custodial.of_turn {before after : Connection} {call : Nat} {task next : Task}
    (custodial : before.Custodial) (stands : before.tasks[call]? = some task)
    (turn : Turn before call task after next) : (after.setTask call next).Custodial := by
  cases turn with
  | lists progress =>
      rcases progress.only_tells with ⟨journal, rfl⟩
      exact custodial.of_turner stands rfl (fun _ => rfl) rfl rfl
  | opens progress =>
      rcases progress.only_tells with ⟨journal, rfl⟩
      exact custodial.of_turner stands rfl (fun _ => rfl) rfl rfl
  | releases progress =>
      rcases progress.only_tells with ⟨journal, rfl⟩
      exact custodial.of_turner stands rfl (fun _ => rfl) rfl rfl
  | configures progress =>
      obtain ⟨journal, rfl⟩ | rfl := progress.only_lane <;>
        exact custodial.of_turner stands rfl (fun _ => rfl) rfl rfl
  | fetchesError found ended => exact custodial.of_fetch stands found ended rfl
  | fetchesBytes found ended => exact custodial.of_fetch stands found ended rfl
  | stores found ended => exact custodial.of_fetch stands found ended rfl
  | spills found ended => exact custodial.of_fetch stands found ended rfl
  | fetchesWrite found ended =>
      exact custodial.of_turner stands rfl (fun _ => rfl) rfl (writeEnding?_awaited ended)
  | returnsTicket =>
      exact custodial.of_turner stands rfl (fun _ => rfl) rfl (afterTicket_awaited _ _)
  | cancels => exact custodial.of_turner stands rfl (claim?_cancel before _) rfl rfl
  | overflows => exact custodial.of_turner stands rfl (claim?_cancel before _) rfl rfl
  | _ => exact custodial.of_turner stands rfl (fun _ => rfl) rfl rfl

theorem Custodial.of_move {before after : Connection} {action : Action}
    {exchange? : Option Exchange} (custodial : before.Custodial)
    (move : Move before action exchange? after) : after.Custodial := by
  cases move with
  | enters permitted entry => exact custodial.of_entry permitted entry
  | startsRead start => exact start.custodial custodial
  | startsWrite start =>
      rcases start.frame with ⟨sessions, writes, rfl⟩
      exact custodial.of_same (fun _ => rfl) fun _ => rfl
  | cancels => exact custodial.of_same (fun _ => rfl) (claim?_cancel before _)
  | turns stands turn => exact custodial.of_turn stands turn
  | answered stands answer =>
      cases answer <;> exact custodial.of_turner stands rfl (fun _ => rfl) rfl rfl
  | readerTurns found turn =>
      have running := Read.isFinished_eq_false.mp turn.unfinished
      rcases turn.frame with ⟨backlog, sessions, rfl⟩
      exact custodial.of_setReader found running rfl rfl
  | readerAnswered found held answer =>
      exact custodial.of_setReader found (Read.isFinished_eq_false.mp answer.unfinished) rfl rfl
  | writerTurns found turn =>
      rcases turn.frame with ⟨sessions, writes, rfl⟩
      exact custodial.of_same (fun _ => rfl) fun _ => rfl
  | writerAnswered found answer =>
      rcases answer.frame with ⟨sessions, writes, rfl⟩
      exact custodial.of_same (fun _ => rfl) fun _ => rfl
  | expires stands => exact custodial.of_turner stands rfl (fun _ => rfl) rfl rfl

theorem custodial_of_run {locator : Locator} {settings : Settings} {actions : List Action}
    {connection : Connection} (ran : (fresh locator settings).run? actions = some connection) :
    connection.Custodial :=
  run_induction (motive := fun _ connection => connection.Custodial)
    (fresh_custodial locator settings)
    (fun _ custodial stepped => custodial.of_move (.of_step? stepped)) ran

end Connection

end CdcSerial
