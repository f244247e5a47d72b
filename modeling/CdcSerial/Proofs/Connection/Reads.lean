import CdcSerial.Proofs.Connection.Custody

/-!
# What becomes of one read

A step changes at most one read. Its worker moves on, by itself or because the bus has answered, a
caller begins to wait for it, fetches it or cancels it, or nothing happens to it. What holds of a
read along a run is proved by going through these cases.
-/

namespace CdcSerial

namespace Connection

/-- The read that a step of a caller fetches. -/
def fetched? (connection : Connection) : Action → Option Nat
  | .advance (.call call) => connection.tasks[call]?.bind Task.awaited?
  | _ => none

/-- What a step makes of a read. -/
inductive ReadFate (before : Connection) (place : Nat) (read : Read) :
    Action → Option Exchange → Read → Prop where
  | stays {action exchange?} : ReadFate before place read action exchange? read
  | asked {action exchange?} (kept : read.custody = .kept) :
      ReadFate before place read action exchange? { read with custody := .awaited }
  | fetched {action exchange? ending} (fetched : before.fetched? action = some place)
      (ended : read.stage = .ended ending) :
      ReadFate before place read action exchange? { read with custody := .resolved }
  | cancelled {action exchange?} :
      ReadFate before place read action exchange? { read with cancelled := true }
  | turned {changed stage} (turn : ReaderTurn before read changed stage) :
      ReadFate before place read (.advance (.reader place)) none { read with stage := stage }
  | answered {session request replies stage} (held : before.sessions[read.session]? = some session)
      (answer : ReaderAnswer before read session request (replies request) stage) :
      ReadFate before place read (.answer (.reader place) replies)
        (some (.reader place, ⟨request, replies request⟩)) { read with stage := stage }

section

variable {before after : Connection} {place : Nat} {read : Read} {action : Action}
  {exchange? : Option Exchange}

theorem ReadFate.of_changeRead {changed : Nat} {change : Read → Read}
    (found : before.reads[place]? = some read)
    (reads : after.reads = before.reads.modify changed change)
    (fate : changed = place → ReadFate before place read action exchange? (change read)) :
    ∃ next, after.reads[place]? = some next ∧ ReadFate before place read action exchange? next := by
  rw [reads, List.getElem?_modify, found]
  by_cases here : changed = place
  · exact ⟨change read, by simp [here], fate here⟩
  · exact ⟨read, by simp [here], .stays⟩

theorem ReadFate.of_append {more : List Read} (found : before.reads[place]? = some read)
    (reads : after.reads = before.reads ++ more) :
    ∃ next, after.reads[place]? = some next ∧ ReadFate before place read action exchange? next := by
  rw [reads, List.getElem?_append_left (List.getElem?_eq_some_iff.mp found).1]
  exact ⟨read, found, .stays⟩

theorem ReadStart.reads_append {length : Nat} {result : Except Error Nat}
    (start : ReadStart before length after result) :
    ∃ more, after.reads = before.reads ++ more := by
  cases start with
  | refused => exact ⟨[], (List.append_nil _).symm⟩
  | notStarted => exact ⟨[], (List.append_nil _).symm⟩
  | served => exact ⟨_, rfl⟩
  | polls => exact ⟨_, rfl⟩

theorem ReadFate.of_entry {call : Call} {task : Task} (permitted : before.permits call = true)
    (entry : Entry before call after task) (found : before.reads[place]? = some read) :
    ∃ next, after.reads[place]? = some next ∧ ReadFate before place read action exchange? next := by
  have asked {changed : Nat} (kept : before.reads[changed]?.any (·.custody == .kept) = true) :
      ∃ next, (before.setCustody changed .awaited).reads[place]? = some next ∧
        ReadFate before place read action exchange? next := by
    refine ReadFate.of_changeRead found rfl fun here => ?_
    rcases kept_of_permits kept with ⟨same, there, unasked⟩
    rw [here, found, Option.some.injEq] at there
    exact .asked (there ▸ unasked)
  cases entry with
  | @reads buffer offset length started number fits start =>
      rcases start.started with ⟨rfl, new, reads, -⟩
      have inside := (List.getElem?_eq_some_iff.mp found).1
      have there : (started.setCustody before.reads.length .awaited).reads[place]? =
          before.reads[place]? := by
        have apart : before.reads.length ≠ place := by omega
        simp [setCustody, changeRead, apart, reads,
          List.getElem?_append_left inside]
      exact ⟨read, there.trans found, .stays⟩
  | readFails fits start =>
      rcases start.reads_append with ⟨more, reads⟩
      exact ReadFate.of_append found reads
  | waits => exact asked permitted
  | waitsInto => exact asked permitted
  | writes start =>
      rcases start.frame with ⟨sessions, writes, rfl⟩
      exact ⟨read, found, .stays⟩
  | _ => exact ⟨read, found, .stays⟩

theorem ReadFate.of_turn {call : Nat} {task next : Task} (stands : before.tasks[call]? = some task)
    (turn : Turn before call task after next) (found : before.reads[place]? = some read) :
    ∃ next, after.reads[place]? = some next ∧
      ReadFate before place read (.advance (.call call)) exchange? next := by
  have fetches {number : Nat} {target : ReadTarget} {other : Read} {ending : ReadEnding}
      (waits : task = .awaitingRead number target) (there : before.reads[number]? = some other)
      (ended : other.stage = .ended ending) :
      ∃ next, (before.setCustody number .resolved).reads[place]? = some next ∧
        ReadFate before place read (.advance (.call call)) exchange? next := by
    refine ReadFate.of_changeRead found rfl fun here => ?_
    subst here
    rw [found, Option.some.injEq] at there
    exact .fetched (by simp [fetched?, stands, waits, Task.awaited?]) (there ▸ ended)
  cases turn with
  | lists progress =>
      rcases progress.only_tells with ⟨journal, rfl⟩
      exact ⟨read, found, .stays⟩
  | opens progress =>
      rcases progress.only_tells with ⟨journal, rfl⟩
      exact ⟨read, found, .stays⟩
  | releases progress =>
      rcases progress.only_tells with ⟨journal, rfl⟩
      exact ⟨read, found, .stays⟩
  | configures progress =>
      obtain ⟨journal, rfl⟩ | rfl := progress.only_lane <;> exact ⟨read, found, .stays⟩
  | fetchesError there ended => exact fetches rfl there ended
  | fetchesBytes there ended => exact fetches rfl there ended
  | stores there ended => exact fetches rfl there ended
  | spills there ended => exact fetches rfl there ended
  | cancels => exact ReadFate.of_changeRead found rfl fun _ => .cancelled
  | overflows => exact ReadFate.of_changeRead found rfl fun _ => .cancelled
  | _ => exact ⟨read, found, .stays⟩

/--
A read stays in its place, and each step does one of the few things with it that are possible.
-/
theorem Move.readFate (move : Move before action exchange? after)
    (found : before.reads[place]? = some read) :
    ∃ next, after.reads[place]? = some next ∧ ReadFate before place read action exchange? next := by
  cases move with
  | @enters made started changed task permitted entry =>
      change ∃ next, changed.reads[place]? = some next ∧ _
      exact ReadFate.of_entry permitted entry found
  | startsRead start =>
      rcases start.reads_append with ⟨more, reads⟩
      exact ReadFate.of_append found reads
  | startsWrite start =>
      rcases start.frame with ⟨sessions, writes, rfl⟩
      exact ⟨read, found, .stays⟩
  | cancels => exact ReadFate.of_changeRead found rfl fun _ => .cancelled
  | @turns call task changed next stands turn =>
      change ∃ next, changed.reads[place]? = some next ∧ _
      exact ReadFate.of_turn stands turn found
  | answered stands answer => cases answer <;> exact ⟨read, found, .stays⟩
  | @readerTurns number other changed stage there turn =>
      have reads : changed.reads = before.reads := by
        rcases turn.frame with ⟨backlog, sessions, rfl⟩
        rfl
      refine ReadFate.of_changeRead found (congrArg (List.modify · number _) reads) fun here => ?_
      subst here
      rw [found, Option.some.injEq] at there
      exact .turned (there ▸ turn)
  | @readerAnswered number other session request replies stage there held answer =>
      refine ReadFate.of_changeRead found rfl fun here => ?_
      subst here
      rw [found, Option.some.injEq] at there
      subst there
      exact .answered held answer
  | writerTurns there turn =>
      rcases turn.frame with ⟨sessions, writes, rfl⟩
      exact ⟨read, found, .stays⟩
  | writerAnswered there answer =>
      rcases answer.frame with ⟨sessions, writes, rfl⟩
      exact ⟨read, found, .stays⟩
  | expires => exact ⟨read, found, .stays⟩

/-- A read is fetched when its worker has reported, and once. -/
theorem Move.fetched (move : Move before action exchange? after)
    (fetched : before.fetched? action = some place) :
    ∃ read ending, before.reads[place]? = some read ∧ read.stage = .ended ending ∧
      after.reads[place]? = some { read with custody := .resolved } := by
  have resolves {number call : Nat} {other : Read} {ending : ReadEnding} {next : Task}
      (there : before.reads[number]? = some other) (ended : other.stage = .ended ending) :
      ∃ read ending, before.reads[number]? = some read ∧ read.stage = .ended ending ∧
        ((before.setCustody number .resolved).setTask call next).reads[number]? =
          some { read with custody := .resolved } := by
    refine ⟨other, ending, there, ended, ?_⟩
    simp [setTask, setCustody, changeRead, there]
  cases move with
  | @turns call task changed next stands turn =>
      simp only [fetched?, stands, Option.bind_some] at fetched
      cases turn with
      | fetchesError there ended =>
          cases fetched
          exact resolves there ended
      | fetchesBytes there ended =>
          cases fetched
          exact resolves there ended
      | stores there ended =>
          cases fetched
          exact resolves there ended
      | spills there ended =>
          cases fetched
          exact resolves there ended
      | _ => cases fetched
  | _ => cases fetched

/-- A read that has ended has ended for good. -/
theorem ReadFate.ended {next : Read} {ending : ReadEnding}
    (fate : ReadFate before place read action exchange? next)
    (ended : read.stage = .ended ending) : next.stage = .ended ending := by
  cases fate with
  | stays => exact ended
  | asked => exact ended
  | fetched => exact ended
  | cancelled => exact ended
  | turned turn => exact absurd ended (Read.isFinished_eq_false.mp turn.unfinished ending)
  | answered held answer =>
      exact absurd ended (Read.isFinished_eq_false.mp answer.unfinished ending)

end

end Connection

end CdcSerial
