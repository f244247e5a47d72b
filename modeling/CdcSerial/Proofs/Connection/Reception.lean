import CdcSerial.Proofs.Connection.Custody
import CdcSerial.Proofs.Connection.Succession

/-!
# What was received is delivered

Bytes that come from the device take one of four ways: to the caller that waits for the read,
behind the backlog if the read did not ask for so many, behind the backlog if the read was
cancelled in the meantime, and back in front of the backlog if they do not fit the buffer of the
caller. As long as reads are made one at a time, nothing is lost, doubled or put in another order:
what was delivered and what is in the backlog is what was received.

`Flow` is the invariant. It follows the bytes while they are on their way: in the hands of the
worker of the one read that is not resolved, or of the one caller that puts bytes back.
-/

namespace CdcSerial

/-- The bytes with which a read ends. -/
def ReadEnding.bytes (ending : ReadEnding) : List UInt8 :=
  match ending.outcome with
  | .ok data => data
  | .error _ => []

/-- The bytes that the worker of a read has for whoever waits for the read. -/
def ReaderStage.held : ReaderStage → List UInt8
  | .checking => []
  | .polling => []
  | .received data => data
  | .leaving ending => ending.bytes
  | .closing ending => ending.bytes
  | .reporting ending => ending.bytes
  | .ended ending => ending.bytes

/-- Whether the worker of a read still polls or divides what came. -/
def ReaderStage.isPolling : ReaderStage → Bool
  | .checking => true
  | .polling => true
  | .received _ => true
  | _ => false

/-- The bytes that a caller is about to put back. -/
def Task.returned? : Task → Option (List UInt8)
  | .puttingBack data _ _ => some data
  | _ => none

/-- The bytes that an answer hands to a caller who asked for them in this form. -/
def ReadTarget.delivered : ReadTarget → Answer → List UInt8
  | .bytes, .bytes data => data
  | .into _ offset, .stored count buffer => (buffer.drop offset).take count
  | _, _ => []

/-- The bytes that a caller gets by going from one point to the next. -/
def Task.delivered : Task → Task → List UInt8
  | .awaitingRead _ target, .finished (.returned (.ok answer)) => target.delivered answer
  | _, _ => []

namespace Connection

/-- The bytes that a step delivers to a caller. -/
def delivery (before : Connection) (action : Action) (after : Connection) : List UInt8 :=
  match action with
  | .advance (.call call) =>
    match before.tasks[call]?, after.tasks[call]? with
    | some task, some next => task.delivered next
    | _, _ => []
  | _ => []

/-- All bytes that a course of actions delivers to callers, in order. -/
def deliveries (connection : Connection) (actions : List Action) : List UInt8 :=
  connection.along delivery actions

/-- The bytes that the worker of a read receives from a device. -/
def received (handle : Handle) : Exchange → List UInt8
  | (.reader _, ⟨.bulkIn device _ _ _, .received data⟩) => if device = handle then data else []
  | _ => []

/-- All bytes that workers of reads receive from a device, in order. -/
def receivedOn (handle : Handle) (exchanges : List Exchange) : List UInt8 :=
  exchanges.flatMap (received handle)

/-- The states in which a course of actions starts reads. -/
def readStarts (connection : Connection) (actions : List Action) : List Connection :=
  connection.along (fun before _ after =>
    if after.reads.length = before.reads.length then [] else [before]) actions

/-- The outcome of every read has been fetched, and what did not fit is back in the backlog. -/
structure Settled (connection : Connection) : Prop where
  resolved : ∀ read ∈ connection.reads, read.custody = .resolved
  unreturned : ∀ task ∈ connection.tasks, task.returned? = none

instance (connection : Connection) : Decidable connection.Settled :=
  decidable_of_iff ((∀ read ∈ connection.reads, read.custody = .resolved) ∧
      ∀ task ∈ connection.tasks, task.returned? = none)
    ⟨fun ⟨resolved, unreturned⟩ => ⟨resolved, unreturned⟩,
      fun settled => ⟨settled.resolved, settled.unreturned⟩⟩

/-- The bytes that a caller is about to put back. -/
def returned? (connection : Connection) (call : Nat) : Option (List UInt8) :=
  connection.tasks[call]?.bind Task.returned?

/--
Everything that was received has been delivered, is held at one place, or is in the backlog, in
this order.
-/
structure Reading (connection : Connection) (number : Nat) (stage : ReaderStage)
    (delivered received : List UInt8) : Prop where
  others : ∀ {other custody place}, connection.claim? other = some (custody, place) →
    other ≠ number → custody = .resolved
  unreturned : ∀ call, connection.returned? call = none
  -- A worker polls only if the backlog is empty, and nothing is added to it before the worker does.
  first : stage.isPolling = true → connection.backlog = []
  all : delivered ++ (stage.held ++ connection.backlog) = received

/-- Where the bytes are that were received and not delivered. -/
inductive Flow (connection : Connection) (delivered received : List UInt8) : Prop where
  | settled (resolved : ∀ {number custody stage},
        connection.claim? number = some (custody, stage) → custody = .resolved)
      (unreturned : ∀ call, connection.returned? call = none)
      (all : delivered ++ connection.backlog = received)
  | reading {number custody stage} (found : connection.claim? number = some (custody, stage))
      (unresolved : custody ≠ .resolved)
      (reading : connection.Reading number stage delivered received)
  | returning {call data} (returning : connection.returned? call = some data)
      (resolved : ∀ {number custody stage},
        connection.claim? number = some (custody, stage) → custody = .resolved)
      (others : ∀ other, other ≠ call → connection.returned? other = none)
      (all : delivered ++ (data ++ connection.backlog) = received)

theorem Settled.claim_resolved {connection : Connection} {number : Nat} {custody : Custody}
    {stage : ReaderStage} (settled : connection.Settled)
    (found : connection.claim? number = some (custody, stage)) : custody = .resolved := by
  rcases Option.map_eq_some_iff.mp found with ⟨read, member, eq⟩
  cases eq
  exact settled.resolved read (List.mem_of_getElem? member)

theorem Settled.returned?_eq_none {connection : Connection} (settled : connection.Settled)
    (call : Nat) : connection.returned? call = none := by
  unfold returned?
  cases stands : connection.tasks[call]? with
  | none => rfl
  | some task => exact settled.unreturned task (List.mem_of_getElem? stands)

theorem returned?_addTask (connection : Connection) {task : Task} (free : task.returned? = none)
    (call : Nat) : (connection.addTask task).returned? call = connection.returned? call := by
  simp only [returned?, addTask, List.getElem?_append]
  by_cases inside : call < connection.tasks.length
  · simp [inside]
  · cases place : [task][call - connection.tasks.length]? with
    | none => simp [inside]
    | some found =>
        have same := List.mem_singleton.mp (List.mem_of_getElem? place)
        simp [inside, same, free]

theorem returned?_setTask {before after : Connection} {call : Nat} {task : Task} (next : Task)
    (stands : before.tasks[call]? = some task) (tasks : after.tasks = before.tasks) (other : Nat) :
    (after.setTask call next).returned? other =
      if other = call then next.returned? else before.returned? other := by
  rcases List.getElem?_eq_some_iff.mp stands with ⟨inside, -⟩
  simp only [returned?, setTask, tasks]
  by_cases here : other = call
  · subst here
    simp [inside]
  · simp [here, List.getElem?_set_ne (Ne.symm here)]

theorem take_of_store? {buffer stored data : List UInt8} {offset : Nat}
    (fits : store? buffer offset data = some stored) :
    (stored.drop offset).take data.length = data := by
  unfold store? at fits
  split at fits
  · cases fits
    have reaches : (buffer.take offset).length = offset := by
      rw [List.length_take]
      omega
    rw [List.append_assoc, List.drop_left' reaches, List.take_left]
  · cases fits

theorem delivery_of_stands {before after : Connection} {call : Nat} {task next : Task}
    (stands : before.tasks[call]? = some task) (tasks : after.tasks = before.tasks) :
    delivery before (.advance (.call call)) (after.setTask call next) = task.delivered next := by
  rcases List.getElem?_eq_some_iff.mp stands with ⟨inside, rfl⟩
  simp [delivery, setTask, tasks, inside]

theorem held_afterPoll (handle : Handle) (endpoint : UInt8) (size : Nat) (timeout : Duration)
    (number : Nat) (reply : BulkIn) : (afterPoll reply).held =
      received handle (.reader number, ⟨.bulkIn handle endpoint size timeout, reply⟩) := by
  cases reply with
  | received data => cases data <;> simp [afterPoll, received, ReaderStage.held]
  | failed status => cases status <;> rfl
  | crashed => rfl

namespace Flow

variable {before after : Connection} {delivered received : List UInt8} {number : Nat}
  {custody : Custody} {stage : ReaderStage}

/-- When nothing is on its way, what was received has been delivered or is in the backlog. -/
theorem balanced (flow : Flow before delivered received) (settled : before.Settled) :
    delivered ++ before.backlog = received := by
  cases flow with
  | settled resolved unreturned all => exact all
  | reading found unresolved reading => exact absurd (settled.claim_resolved found) unresolved
  | returning returning resolved others all =>
      rw [settled.returned?_eq_none] at returning
      cases returning

/-- A read that is not resolved is the only one. -/
theorem of_unresolved (flow : Flow before delivered received)
    (found : before.claim? number = some (custody, stage)) (unresolved : custody ≠ .resolved) :
    before.Reading number stage delivered received := by
  cases flow with
  | settled resolved => exact absurd (resolved found) unresolved
  | @reading other _ place elsewhere _ reading =>
      by_cases same : number = other
      · subst same
        rw [found] at elsewhere
        cases elsewhere
        exact reading
      · exact absurd (reading.others found same) unresolved
  | returning returning resolved => exact absurd (resolved found) unresolved

/-- A step that changes no read, no caller that puts bytes back, and not the backlog. -/
theorem of_same (flow : Flow before delivered received)
    (claims : ∀ number, after.claim? number = before.claim? number)
    (returns : ∀ call, after.returned? call = before.returned? call)
    (backlog : after.backlog = before.backlog) : Flow after delivered received := by
  cases flow with
  | settled resolved unreturned all =>
      refine .settled (fun {number custody stage} found => ?_) (fun call => ?_) (backlog ▸ all)
      · rw [claims] at found
        exact resolved found
      · rw [returns, unreturned]
  | reading found unresolved reading =>
      refine .reading ((claims _).trans found) unresolved ⟨?_, ?_, ?_, ?_⟩
      · intro other custody place elsewhere
        rw [claims] at elsewhere
        exact reading.others elsewhere
      · intro call
        rw [returns, reading.unreturned]
      · rw [backlog]
        exact reading.first
      · rw [backlog]
        exact reading.all
  | returning returning resolved others all =>
      refine .returning ((returns _).trans returning) (fun {number custody stage} found => ?_)
        (fun other ne => ?_) (backlog ▸ all)
      · rw [claims] at found
        exact resolved found
      · rw [returns, others other ne]

theorem of_reading {custody' : Custody} {stage' : ReaderStage} {delivered' received' : List UInt8}
    (flow : Flow before delivered received)
    (found : before.claim? number = some (custody, stage)) (unresolved : custody ≠ .resolved)
    (claims : ∀ other, after.claim? other =
      if other = number then some (custody', stage') else before.claim? other)
    (still : custody' ≠ .resolved)
    (returns : ∀ call, after.returned? call = before.returned? call)
    (first : stage'.isPolling = true → stage.isPolling = true ∧ after.backlog = before.backlog)
    (all : (stage.isPolling = true → before.backlog = []) →
      delivered ++ (stage.held ++ before.backlog) = received →
      delivered' ++ (stage'.held ++ after.backlog) = received') :
    Flow after delivered' received' := by
  have reading := flow.of_unresolved found unresolved
  have here : after.claim? number = some (custody', stage') := by
    rw [claims, if_pos rfl]
  refine .reading here still ⟨?_, ?_, ?_, all reading.first reading.all⟩
  · intro other custody place elsewhere ne
    rw [claims, if_neg ne] at elsewhere
    exact reading.others elsewhere ne
  · intro call
    rw [returns, reading.unreturned]
  · intro polling
    rcases first polling with ⟨polled, same⟩
    rw [same, reading.first polled]

/-! ### Workers -/

theorem of_readerTurn {read : Read} (flow : Flow before delivered received)
    (custodial : before.Custodial) (found : before.reads[number]? = some read)
    (turn : ReaderTurn before read after stage) :
    Flow (after.setReader number stage) delivered received := by
  have unresolved : read.custody ≠ .resolved := custodial.unresolved found turn.unfinished
  have kept : after.reads = before.reads ∧ after.tasks = before.tasks := by
    rcases turn.frame with ⟨backlog, sessions, rfl⟩
    exact ⟨rfl, rfl⟩
  have claims := claim?_setReader found kept.1 stage
  have returns (call : Nat) :
      (after.setReader number stage).returned? call = before.returned? call := by
    simp only [returned?, setReader, changeRead, kept.2]
  refine flow.of_reading (claim?_of_getElem? found) unresolved claims unresolved returns ?_ ?_
  · intro polling
    cases turn with
    | polls checking => simp [checking, ReaderStage.isPolling, setReader, changeRead]
    | _ => cases polling
  · intro first all
    cases turn with
    | stops checking =>
        rw [checking] at all
        exact all
    | polls checking =>
        rw [checking] at all
        exact all
    | keepsAll came =>
        simp only [came, ReaderStage.isPolling, forall_const] at first
        simpa [came, first, ReaderStage.held, ReadEnding.bytes, setReader, changeRead] using all
    | divides came =>
        simp only [came, ReaderStage.isPolling, forall_const] at first
        simpa [came, first, ReaderStage.held, ReadEnding.bytes, setReader, changeRead] using all
    | leaves leaving =>
        rw [leaving] at all
        exact all
    | leavesLast leaving =>
        rw [leaving] at all
        exact all
    | reports reporting =>
        rw [reporting] at all
        exact all

theorem of_readerAnswer {read : Read} {session : Session} {request : Request}
    {reply : request.Reply} (flow : Flow before delivered received)
    (custodial : before.Custodial) (found : before.reads[number]? = some read)
    (answer : ReaderAnswer before read session request reply stage) :
    Flow (before.setReader number stage) delivered
      (received ++ Connection.received session.handle (.reader number, ⟨request, reply⟩)) := by
  have unresolved : read.custody ≠ .resolved := custodial.unresolved found answer.unfinished
  refine flow.of_reading (claim?_of_getElem? found) unresolved (claim?_setReader found rfl stage)
    unresolved (fun _ => rfl) ?_ ?_
  · intro polling
    cases answer with
    | polled polled => exact ⟨by rw [polled]; rfl, rfl⟩
    | closed => cases polling
  · intro first all
    cases answer with
    | @polled reply polling =>
        have empty : before.backlog = [] := first (by rw [polling]; rfl)
        simp only [polling, ReaderStage.held, empty, List.append_nil] at all
        simp only [setReader, changeRead, empty, all, List.append_nil]
        rw [held_afterPoll]
    | closed closing =>
        rw [closing] at all
        exact all.trans (List.append_nil received).symm

/-! ### Starting reads -/

/-- A read is started when all others are resolved, and takes over what was in the backlog. -/
theorem of_addRead {read : Read} (flow : Flow before delivered received)
    (settled : before.Settled) (kept : read.custody = .kept)
    (reads : after.reads = before.reads ++ [read]) (tasks : after.tasks = before.tasks)
    (first : read.stage.isPolling = true → after.backlog = [])
    (all : read.stage.held ++ after.backlog = before.backlog) : Flow after delivered received := by
  have claims := claim?_concat reads
  refine .reading (by rw [claims, if_pos rfl]) (by simp [kept]) ⟨?_, ?_, first, ?_⟩
  · intro other custody place elsewhere ne
    rw [claims, if_neg ne] at elsewhere
    exact settled.claim_resolved elsewhere
  · intro call
    have unreturned := settled.returned?_eq_none call
    simpa only [returned?, tasks] using unreturned
  · rw [all]
    exact flow.balanced settled

theorem of_readStart {length : Nat} {result : Except Error Nat}
    (flow : Flow before delivered received) (start : ReadStart before length after result)
    (alone : after.reads.length ≠ before.reads.length → before.Settled) :
    Flow after delivered received := by
  cases start with
  | refused => exact flow
  | notStarted cause opened => exact flow.of_same (fun _ => rfl) (fun _ => rfl) rfl
  | served journal opened =>
      exact flow.of_addRead (alone (by simp)) rfl rfl rfl nofun (List.take_append_drop _ _)
  | polls opened idle wanted empty =>
      exact flow.of_addRead (alone (by simp)) rfl rfl rfl (fun _ => empty) rfl

/-! ### Callers -/

theorem of_wait {read : Read} {target : ReadTarget} (flow : Flow before delivered received)
    (found : before.reads[number]? = some read) (kept : read.custody = .kept) :
    Flow ((before.setCustody number .awaited).addTask (.awaitingRead number target)) delivered
      received := by
  refine flow.of_reading (claim?_of_getElem? found) (by simp [kept])
    (claim?_changeRead found ({ · with custody := .awaited })) (by simp)
    (returned?_addTask (before.setCustody number .awaited) rfl) (fun polling => ⟨polling, rfl⟩) ?_
  exact fun _ all => all

theorem of_entrant {task : Task} (flow : Flow before delivered received)
    (reads : after.reads = before.reads) (tasks : after.tasks = before.tasks)
    (backlog : after.backlog = before.backlog) (free : task.returned? = none) :
    Flow (after.addTask task) delivered received := by
  refine flow.of_same (fun number => ?_) (fun call => ?_) backlog
  · simp only [claim?, addTask, reads]
  · rw [returned?_addTask after free]
    simp only [returned?, tasks]

theorem of_entry {call : Call} {task : Task} (flow : Flow before delivered received)
    (permitted : before.permits call = true) (entry : Entry before call after task)
    (alone : after.reads.length ≠ before.reads.length → before.Settled) :
    Flow (after.addTask task) delivered received := by
  cases entry with
  | @reads buffer offset length started number fits start =>
      rcases start.started with ⟨rfl, read, reads, kept⟩
      refine (flow.of_readStart start fun ne => alone ?_).of_wait ?_ kept
      · simpa [setCustody, changeRead] using ne
      · rw [reads, List.getElem?_concat_length]
  | readFails fits start => exact (flow.of_readStart start alone).of_entrant rfl rfl rfl rfl
  | waits =>
      rcases kept_of_permits permitted with ⟨read, found, kept⟩
      exact flow.of_wait found kept
  | waitsInto =>
      rcases kept_of_permits permitted with ⟨read, found, kept⟩
      exact flow.of_wait found kept
  | writes start =>
      rcases start.frame with ⟨sessions, writes, rfl⟩
      exact flow.of_entrant rfl rfl rfl rfl
  | _ => exact flow.of_entrant rfl rfl rfl rfl

theorem of_turner {call : Nat} {task next : Task} (flow : Flow before delivered received)
    (stands : before.tasks[call]? = some task) (tasks : after.tasks = before.tasks)
    (claims : ∀ number, after.claim? number = before.claim? number)
    (backlog : after.backlog = before.backlog) (had : task.returned? = none)
    (free : next.returned? = none) : Flow (after.setTask call next) delivered received := by
  refine flow.of_same claims (fun other => ?_) backlog
  rw [returned?_setTask next stands tasks]
  by_cases here : other = call
  · rw [if_pos here, free, here]
    simp [returned?, stands, had]
  · rw [if_neg here]

/-- A caller gets what the read brought that it waited for, and perhaps has to put it back. -/
theorem of_fetch {call : Nat} {read : Read} {target : ReadTarget} {ending : ReadEnding}
    {next : Task} (flow : Flow before delivered received) (custodial : before.Custodial)
    (stands : before.tasks[call]? = some (.awaitingRead number target))
    (found : before.reads[number]? = some read) (ended : read.stage = .ended ending)
    (gets : next.returned? = none ∧
      (Task.awaitingRead number target).delivered next = ending.bytes ∨
      ∃ buffer offset, next = .puttingBack ending.bytes buffer offset) :
    Flow ((before.setCustody number .resolved).setTask call next)
      (delivered ++ (Task.awaitingRead number target).delivered next) received := by
  have reading := flow.of_unresolved (claim?_of_getElem? found)
    (custodial.awaited_of_stands stands found ▸ by simp)
  have claims (other : Nat) :
      ((before.setCustody number .resolved).setTask call next).claim? other =
        if other = number then some (.resolved, read.stage) else before.claim? other :=
    claim?_changeRead found _ other
  have resolved {other : Nat} {custody : Custody} {place : ReaderStage}
      (elsewhere : ((before.setCustody number .resolved).setTask call next).claim? other =
        some (custody, place)) : custody = .resolved := by
    rw [claims] at elsewhere
    by_cases here : other = number
    · rw [if_pos here] at elsewhere
      cases elsewhere
      rfl
    · rw [if_neg here] at elsewhere
      exact reading.others elsewhere here
  have returns (other : Nat) :
      ((before.setCustody number .resolved).setTask call next).returned? other =
        if other = call then next.returned? else before.returned? other :=
    returned?_setTask next stands rfl other
  have all := reading.all
  rw [ended] at all
  rcases gets with ⟨free, bytes⟩ | ⟨buffer, offset, rfl⟩
  · refine .settled resolved (fun other => ?_) ?_
    · rw [returns, free, reading.unreturned]
      exact ite_self none
    · rw [bytes, List.append_assoc]
      exact all
  · refine .returning (by rw [returns, if_pos rfl, Task.returned?]) resolved (fun other ne => ?_) ?_
    · rw [returns, if_neg ne, reading.unreturned]
    · change delivered ++ [] ++ _ = _
      rw [List.append_nil]
      exact all

theorem of_putBack {call : Nat} {data buffer : List UInt8} {offset : Nat} {next : Task}
    (flow : Flow before delivered received)
    (stands : before.tasks[call]? = some (.puttingBack data buffer offset))
    (free : next.returned? = none) :
    Flow ((before.putBack data).setTask call next) delivered received := by
  have here : before.returned? call = some data := by
    simp [returned?, stands, Task.returned?]
  cases flow with
  | settled resolved unreturned all =>
      rw [unreturned] at here
      cases here
  | reading found unresolved reading =>
      rw [reading.unreturned] at here
      cases here
  | @returning other put returning resolved others all =>
      have same : call = other := by
        by_contra ne
        rw [others call ne] at here
        cases here
      subst same
      rw [here] at returning
      cases returning
      refine .settled resolved (fun other => ?_) all
      have returns : ((before.putBack data).setTask call next).returned? other =
          if other = call then next.returned? else before.returned? other :=
        returned?_setTask next stands rfl other
      rw [returns, free]
      by_cases elsewhere : other = call
      · rw [if_pos elsewhere]
      · rw [if_neg elsewhere, others other elsewhere]

theorem of_turn {call : Nat} {task next : Task} (flow : Flow before delivered received)
    (custodial : before.Custodial) (stands : before.tasks[call]? = some task)
    (uncleared : ∀ address config session, task ≠ .clearing address config session)
    (turn : Turn before call task after next) :
    Flow (after.setTask call next) (delivered ++ task.delivered next) received := by
  have quiet (kept : Flow (after.setTask call next) delivered received)
      (delivers : task.delivered next = []) :
      Flow (after.setTask call next) (delivered ++ task.delivered next) received := by
    rw [delivers, List.append_nil]
    exact kept
  cases turn with
  | clears => exact absurd rfl (uncleared _ _ _)
  | lists progress =>
      rcases progress.only_tells with ⟨journal, rfl⟩
      exact quiet (flow.of_turner stands rfl (fun _ => rfl) rfl rfl rfl) rfl
  | opens progress =>
      rcases progress.only_tells with ⟨journal, rfl⟩
      exact quiet (flow.of_turner stands rfl (fun _ => rfl) rfl rfl rfl) rfl
  | releases progress =>
      rcases progress.only_tells with ⟨journal, rfl⟩
      exact quiet (flow.of_turner stands rfl (fun _ => rfl) rfl rfl rfl) rfl
  | configures progress =>
      obtain ⟨journal, rfl⟩ | rfl := progress.only_lane <;>
        exact quiet (flow.of_turner stands rfl (fun _ => rfl) rfl rfl rfl) rfl
  | fetchesError found ended => exact flow.of_fetch custodial stands found ended (.inl ⟨rfl, rfl⟩)
  | fetchesBytes found ended => exact flow.of_fetch custodial stands found ended (.inl ⟨rfl, rfl⟩)
  | stores found ended fits =>
      exact flow.of_fetch custodial stands found ended (.inl ⟨rfl, take_of_store? fits⟩)
  | spills found ended => exact flow.of_fetch custodial stands found ended (.inr ⟨_, _, rfl⟩)
  | putsBack => exact quiet (flow.of_putBack stands rfl) rfl
  | fetchesWrite found ended =>
      rcases writeEnding?_eq_some ended with ⟨result, rfl⟩
      exact quiet (flow.of_turner stands rfl (fun _ => rfl) rfl rfl rfl) rfl
  | @returnsTicket session line result =>
      have free : (afterTicket line result).returned? = none := by
        cases result <;> cases line <;> rfl
      exact quiet (flow.of_turner stands rfl (fun _ => rfl) rfl rfl free) rfl
  | cancels => exact quiet (flow.of_turner stands rfl (claim?_cancel before _) rfl rfl rfl) rfl
  | overflows => exact quiet (flow.of_turner stands rfl (claim?_cancel before _) rfl rfl rfl) rfl
  | _ => exact quiet (flow.of_turner stands rfl (fun _ => rfl) rfl rfl rfl) rfl

/-- A step keeps track of all bytes if reads are started one at a time and no session begins. -/
theorem of_move {action : Action} {exchange? : Option Exchange} {handle : Handle}
    (flow : Flow before delivered received) (custodial : before.Custodial)
    (move : Move before action exchange? after)
    (alone : after.reads.length ≠ before.reads.length → before.Settled)
    (uncleared : ∀ address config session, .clearing address config session ∉ before.tasks)
    (polled : ∀ {number place : Nat} {session : Session}, before.Unfinished number place →
      before.sessions[place]? = some session → session.handle = handle) :
    Flow after (delivered ++ delivery before action after)
      (received ++ receivedOn handle exchange?.toList) := by
  have quiet (kept : Flow after delivered received) (delivers : delivery before action after = [])
      (hears : receivedOn handle exchange?.toList = []) : Flow after
        (delivered ++ delivery before action after)
        (received ++ receivedOn handle exchange?.toList) := by
    rw [delivers, hears, List.append_nil, List.append_nil]
    exact kept
  cases move with
  | enters permitted entry => exact quiet (flow.of_entry permitted entry alone) rfl rfl
  | startsRead start => exact quiet (flow.of_readStart start alone) rfl rfl
  | startsWrite start =>
      rcases start.frame with ⟨sessions, writes, rfl⟩
      exact quiet (flow.of_same (fun _ => rfl) (fun _ => rfl) rfl) rfl rfl
  | cancels => exact quiet (flow.of_same (claim?_cancel before _) (fun _ => rfl) rfl) rfl rfl
  | turns stands turn =>
      change Flow _ _ (received ++ [])
      rw [delivery_of_stands stands turn.tasks_eq, List.append_nil]
      refine flow.of_turn custodial stands (fun address config session same => ?_) turn
      exact uncleared address config session (same ▸ List.mem_of_getElem? stands)
  | answered stands answer =>
      refine quiet ?_ rfl rfl
      cases answer <;> exact flow.of_turner stands rfl (fun _ => rfl) rfl rfl rfl
  | readerTurns found turn => exact quiet (flow.of_readerTurn custodial found turn) rfl rfl
  | readerAnswered found held answer =>
      have device := polled ⟨_, found, rfl, answer.unfinished⟩ held
      change Flow _ (delivered ++ []) (received ++ (_ ++ []))
      rw [List.append_nil, List.append_nil, ← device]
      exact flow.of_readerAnswer custodial found answer
  | writerTurns found turn =>
      rcases turn.frame with ⟨sessions, writes, rfl⟩
      exact quiet (flow.of_same (fun _ => rfl) (fun _ => rfl) rfl) rfl rfl
  | writerAnswered found answer =>
      rcases answer.frame with ⟨sessions, writes, rfl⟩
      exact quiet (flow.of_same (fun _ => rfl) (fun _ => rfl) rfl) rfl rfl
  | expires stands => exact quiet (flow.of_turner stands rfl (fun _ => rfl) rfl rfl rfl) rfl rfl

end Flow

/-! ### One session -/

/-- Only a caller that begins a session comes to empty the backlog. -/
theorem Move.uncleared {before after : Connection} {action : Action} {exchange? : Option Exchange}
    (move : Move before action exchange? after)
    (fixed : after.sessions.length = before.sessions.length)
    (uncleared : ∀ address config session, .clearing address config session ∉ before.tasks)
    (address : Address) (config : LineConfig) (session : Nat) :
    .clearing address config session ∉ after.tasks := by
  intro member
  generalize came : Task.clearing address config session = task at member
  cases move.origin member with
  | stays old => exact uncleared _ _ _ (came ▸ old)
  | enters entry => cases entry <;> cases came
  | turns stands turn =>
      cases turn with
      | reached => simp [setTask] at fixed
      | fetchesWrite found ended =>
          rcases writeEnding?_eq_some ended with ⟨result, eq⟩
          rw [eq] at came
          cases came
      | @returnsTicket number line result =>
          have part := afterTicket_part line result
          rw [← came] at part
          cases part
      | _ => cases came
  | answered stands answer => cases answer <;> cases came
  | expires => cases came

/-- While a session is the last, it is the one whose device workers poll. -/
theorem Sound.polled {locator : Locator} {settings : Settings} {calls : List Call}
    {exchanges : List Exchange} {connection : Connection} {number place last : Nat}
    {session : Session} (sound : Sound locator settings calls exchanges connection)
    (newest : connection.Newest) (count : last + 1 = connection.sessions.length)
    (unfinished : connection.Unfinished number place)
    (found : connection.sessions[place]? = some session) :
    connection.handles[last]? = some session.handle := by
  rcases Option.map_eq_some_iff.mp (sound.recorded.unfinished unfinished) with ⟨link, held, duty⟩
  simp only [Prod.mk.injEq] at duty
  have linked := newest.linked (HoldsLink.of_link held)
  have same : place = last := by omega
  exact same ▸ handles_getElem? found

section Session

variable {locator : Locator} {settings : Settings} {earlier during : List Action}
  {start begun final : Connection} {opener number : Nat} {address : Address} {config : LineConfig}

theorem begun_of_clearing (stands : start.tasks[opener]? = some (.clearing address config number))
    (opens : start.step? (.advance (.call opener)) = some begun) :
    begun = ({ start with backlog := [] }).setTask opener (.installing address config number) := by
  simpa [step?, advance?, advanceCall?, stands] using opens.symm

theorem last_of_clearing (ran : (fresh locator settings).run? earlier = some start)
    (stands : start.tasks[opener]? = some (.clearing address config number))
    (opens : start.step? (.advance (.call opener)) = some begun) :
    number + 1 = begun.sessions.length := by
  rw [begun_of_clearing stands opens]
  exact (newest_of_run ran).linked (.inr ⟨_, List.mem_of_getElem? stands, rfl⟩)

/-- What stays while a session is the last: no session begins and no caller empties the backlog. -/
structure Lasts (begun now : Connection) : Prop where
  handles : now.handles = begun.handles
  uncleared : ∀ address config session, .clearing address config session ∉ now.tasks

theorem Lasts.of_clearing (ran : (fresh locator settings).run? earlier = some start)
    (stands : start.tasks[opener]? = some (.clearing address config number))
    (opens : start.step? (.advance (.call opener)) = some begun) : Lasts begun begun := by
  refine ⟨rfl, fun address' config' session member => ?_⟩
  -- Whoever opens a port is alone in that, and this caller goes on to install the link.
  have orderly := (sound_of_run (run?_concat_eq_some.mpr ⟨_, ran, opens⟩)).orderly
  have stood : .installing address config number ∈ begun.tasks := by
    rw [begun_of_clearing stands opens]
    rcases List.getElem?_eq_some_iff.mp stands with ⟨inside, -⟩
    exact List.mem_of_getElem? (List.getElem?_set_self inside)
  cases orderly.alone stood member (.inl rfl) (.inl rfl)

theorem Lasts.of_move {middle : Connection} {action : Action} {exchange? : Option Exchange}
    (lasts : Lasts begun middle) (move : Move middle action exchange? final)
    (fixed : final.sessions.length = middle.sessions.length) : Lasts begun final := by
  rcases move.keeps with ⟨more, keeps⟩
  have grown := keeps.length
  have unchanged : more = [] := List.eq_nil_of_length_eq_zero (by omega)
  refine ⟨?_, move.uncleared fixed lasts.uncleared⟩
  rw [keeps.handles, unchanged, List.append_nil, lasts.handles]

theorem sessions_length_le {actions : List Action} (runs : begun.run? actions = some final) :
    begun.sessions.length ≤ final.sessions.length := by
  refine run_induction (motive := fun _ final => begun.sessions.length ≤ final.sessions.length)
    (Nat.le_refl _) ?_ runs
  intro actions middle action final _ least stepped
  rcases (Move.of_step? stepped).keeps with ⟨more, keeps⟩
  have grown := keeps.length
  omega

/-- What holds when a session begins and is kept by every step while it is the last. -/
theorem session_induction {motive : List Action → Connection → Prop}
    (ran : (fresh locator settings).run? earlier = some start)
    (stands : start.tasks[opener]? = some (.clearing address config number))
    (opens : start.step? (.advance (.call opener)) = some begun) (begins : motive [] begun)
    (goes : ∀ {during middle action final}, begun.run? during = some middle →
      (fresh locator settings).run? (earlier ++ .advance (.call opener) :: during) = some middle →
      Lasts begun middle → Lasts begun final → middle.step? action = some final →
      motive during middle → motive (during ++ [action]) final)
    (runs : begun.run? during = some final)
    (fixed : final.sessions.length = begun.sessions.length) :
    Lasts begun final ∧ motive during final := by
  refine run_induction (motive := fun during final =>
    final.sessions.length = begun.sessions.length → Lasts begun final ∧ motive during final)
    (fun _ => ⟨.of_clearing ran stands opens, begins⟩) ?_ runs fixed
  intro during middle action final runsBefore earlierHolds stepped fixed
  have move := Move.of_step? stepped
  rcases move.keeps with ⟨more, keeps⟩
  have grown := keeps.length
  have least := sessions_length_le runsBefore
  rcases earlierHolds (by omega) with ⟨lasts, holds⟩
  have ranBefore : (fresh locator settings).run? (earlier ++ .advance (.call opener) :: during) =
      some middle := by
    rw [run?_append, ran]
    simp only [Option.bind_some, run?, opens]
    exact runsBefore
  have still := lasts.of_move move (by omega)
  exact ⟨still, goes runsBefore ranBefore lasts still stepped holds⟩

theorem Flow.of_clearing (stands : start.tasks[opener]? = some (.clearing address config number))
    (settled : start.Settled) :
    Flow (({ start with backlog := [] }).setTask opener (.installing address config number))
    [] [] := by
  refine .settled (fun found => settled.claim_resolved found) (fun call => ?_) rfl
  have returns : (({ start with backlog := [] }).setTask opener
      (.installing address config number)).returned? call =
        if call = opener then none else start.returned? call :=
    returned?_setTask (.installing address config number) stands rfl call
  rw [returns, settled.returned?_eq_none]
  exact ite_self none

/--
What holds while a session is the last: no caller empties the backlog, and all bytes are
accounted for.
-/
structure Streams (begun : Connection) (handle : Handle) (during : List Action)
    (final : Connection) : Prop where
  handles : final.handles = begun.handles
  uncleared : ∀ address config session, .clearing address config session ∉ final.tasks
  flow : Flow final (begun.deliveries during) (receivedOn handle (begun.exchanges during))

theorem streams_of_run (ran : (fresh locator settings).run? earlier = some start)
    (stands : start.tasks[opener]? = some (.clearing address config number))
    (settled : start.Settled) (opens : start.step? (.advance (.call opener)) = some begun)
    {handle : Handle} (held : begun.handles[number]? = some handle)
    (runs : begun.run? during = some final) :
    begun.sessions.length ≤ final.sessions.length ∧
      (final.sessions.length = begun.sessions.length →
        (∀ state ∈ begun.readStarts during, state.Settled) →
          begun.Streams handle during final) := by
  refine ⟨sessions_length_le runs, fun fixed alone => ?_⟩
  have last := last_of_clearing ran stands opens
  have along : Lasts begun final ∧ ((∀ state ∈ begun.readStarts during, state.Settled) →
      Flow final (begun.deliveries during) (receivedOn handle (begun.exchanges during))) := by
    refine session_induction ran stands opens (motive := fun during final =>
      (∀ state ∈ begun.readStarts during, state.Settled) →
        Flow final (begun.deliveries during) (receivedOn handle (begun.exchanges during)))
      (fun _ => ?_) ?_ runs fixed
    · rw [begun_of_clearing stands opens]
      exact .of_clearing stands settled
    · intro during middle action final runsBefore ranBefore lasts still stepped flows alone
      simp only [readStarts, along_concat runsBefore stepped, List.mem_append] at alone
      have flow := flows fun state member => alone state (.inl member)
      rw [deliveries, along_concat runsBefore stepped, exchanges_concat runsBefore stepped,
        receivedOn, List.flatMap_append]
      refine flow.of_move (custodial_of_run ranBefore) (Move.of_step? stepped) (fun ne => ?_)
        lasts.uncleared ?_
      · exact alone middle (.inr (by simp [ne]))
      · intro number' place session unfinished found
        have count : number + 1 = middle.sessions.length :=
          last.trans (by simpa [Connection.handles] using congrArg List.length lasts.handles.symm)
        have polled :=
          (sound_of_run ranBefore).polled (newest_of_run ranBefore) count unfinished found
        rw [lasts.handles, held, Option.some.injEq] at polled
        exact polled.symm
  exact ⟨along.1.handles, along.1.uncleared, along.2 alone⟩

/--
Everything that the workers of a session's reads receive is delivered to callers or kept in the
backlog, once and in order. The session begins where its opener empties the backlog and lasts
until another one begins. Before that, and whenever a read is started, the outcomes of all earlier
reads have been fetched.
-/
theorem delivered_append_backlog (ran : (fresh locator settings).run? earlier = some start)
    (stands : start.tasks[opener]? = some (.clearing address config number))
    (settled : start.Settled) (opens : start.step? (.advance (.call opener)) = some begun)
    (runs : begun.run? during = some final)
    (lasts : final.sessions.length = begun.sessions.length)
    (alone : ∀ state ∈ begun.readStarts during, state.Settled) (finished : final.Settled) :
    ∃ session, final.sessions[number]? = some session ∧
      begun.deliveries during ++ final.backlog =
        receivedOn session.handle (begun.exchanges during) := by
  have last := last_of_clearing ran stands opens
  obtain ⟨session, found⟩ : ∃ session, final.sessions[number]? = some session :=
    ⟨_, List.getElem?_eq_getElem (by omega)⟩
  obtain ⟨handle, held⟩ : ∃ handle, begun.handles[number]? = some handle :=
    ⟨_, List.getElem?_eq_getElem (by simp [Connection.handles]; omega)⟩
  obtain ⟨handles, -, flow⟩ :=
    (streams_of_run ran stands settled opens held runs).2 lasts alone
  have same : session.handle = handle := by
    have there := handles_getElem? found
    rw [handles, held, Option.some.injEq] at there
    exact there.symm
  exact ⟨session, found, same ▸ flow.balanced finished⟩

end Session

/--
After the port is open: a read of which the caller's buffer is too small for what came, a read
served from what was put back, a read that takes the rest, and a read that is cancelled while
bytes come.
-/
def readsInTurn : List Action :=
  [.advance (.call 0), .startRead 2 (.ok ()), .advance (.reader 0),
    .answer (.reader 0) (Sample.bus [1, 2, 3, 4, 5] (.ok ())), .advance (.reader 0),
    .advance (.reader 0), .advance (.reader 0), .invoke (.waitInto 0 [0] 0) (.ok ()),
    .advance (.call 1), .advance (.call 1), .invoke (.read [0, 0, 0, 0] 1 3) (.ok ()),
    .advance (.call 2), .startRead 9 (.ok ()), .invoke (.wait 2) (.ok ()), .advance (.call 3),
    .startRead 4 (.ok ()), .advance (.reader 3), .cancel 3,
    .answer (.reader 3) (Sample.bus [6, 7] (.ok ())), .advance (.reader 3), .advance (.reader 3),
    .advance (.reader 3), .invoke (.wait 3) (.ok ()), .advance (.call 4)]

theorem readsInTurn_delivered :
    let begun := Sample.after (Sample.reaches ++ [.advance (.call 0)])
    let final := Sample.after (Sample.reaches ++ [.advance (.call 0)] ++ readsInTurn)
    begun.run? readsInTurn = some final ∧ begun.deliveries readsInTurn = [1, 2, 3, 4, 5] ∧
      final.backlog = [6, 7] ∧ ∃ session, final.sessions[0]? = some session ∧
        begun.deliveries readsInTurn ++ final.backlog =
          receivedOn session.handle (begun.exchanges readsInTurn) := by
  have started : Sample.connection.run? Sample.reaches = some (Sample.after Sample.reaches) := rfl
  have stands : (Sample.after Sample.reaches).tasks[0]? =
      some (.clearing ⟨Sample.candidate.vendorId, Sample.candidate.productId, 0⟩ {} 0) := rfl
  have settled : (Sample.after Sample.reaches).Settled := by decide
  have alone : ∀ state ∈ (Sample.after (Sample.reaches ++ [.advance (.call 0)])).readStarts
      readsInTurn, state.Settled := by decide
  have finished :
      (Sample.after (Sample.reaches ++ [.advance (.call 0)] ++ readsInTurn)).Settled := by
    decide
  have lasts :
      (Sample.after (Sample.reaches ++ [.advance (.call 0)] ++ readsInTurn)).sessions.length =
      (Sample.after (Sample.reaches ++ [.advance (.call 0)])).sessions.length := by decide
  exact ⟨rfl, rfl, rfl,
    delivered_append_backlog started stands settled rfl rfl lasts alone finished⟩

end Connection

end CdcSerial
