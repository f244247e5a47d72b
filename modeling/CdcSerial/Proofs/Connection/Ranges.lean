import CdcSerial.Proofs.Connection.Stopping
import CdcSerial.Proofs.Connection.Transitions

/-!
# Reading into a buffer

A call that reads into a buffer names a range of it. If the range does not lie in the buffer, the
call is over before anything else has happened. Otherwise the read that it starts gives no more
bytes than the range has room for, so the bytes always fit when they are stored, and all other
places of the buffer stay as they were.

The bound comes from the two ways in which a read gets bytes: the backlog is cut to the length that
was asked for, and so is the packet that a worker has received.
-/

namespace CdcSerial

namespace Connection

/-! ### How many bytes a read gives -/

/-- What is known of a read that asked for `length` bytes, as far as its worker has decided. -/
structure Measured (length : Nat) (read : Read) : Prop where
  asked : read.length = length
  received : ∀ {data}, read.stage = .received data → data ≠ []
  few : ∀ {phase data}, read.stage.decided? = some ⟨phase, .ok data⟩ → data.length ≤ length
  empty : ∀ {phase}, read.stage.decided? = some ⟨phase, .ok []⟩ →
    length = 0 ∨ phase = .cancelled ∧ read.cancelled = true
  error : ∀ {phase error}, read.stage.decided? = some ⟨phase, .error error⟩ →
    ∀ start count size, error ≠ .invalidRange start count size

section Measured

variable {before after : Connection} {number length : Nat} {read next : Read} {action : Action}
  {exchange? : Option Exchange}

/-- A worker that has not decided knows nothing but its length. -/
theorem Measured.of_undecided (asked : read.length = length)
    (undecided : read.stage.decided? = Option.none)
    (received : ∀ {data}, read.stage = .received data → data ≠ []) : Measured length read := by
  refine ⟨asked, received, ?_, ?_, ?_⟩ <;> simp [undecided]

/-- Which way a worker that has decided goes on does not matter. -/
theorem Measured.of_decided {stage : ReaderStage} (measured : Measured length read)
    (same : stage.decided? = read.stage.decided?) (undivided : ∀ data, stage ≠ .received data) :
    Measured length { read with stage } where
  asked := measured.asked
  received := fun came => absurd came (undivided _)
  few := fun decided => measured.few (same.symm.trans decided)
  empty := fun decided => measured.empty (same.symm.trans decided)
  error := fun decided => measured.error (same.symm.trans decided)

theorem Measured.of_cancelled (asked : read.length = length) (told : read.cancelled = true) :
    Measured length { read with stage := .leaving ⟨.cancelled, .ok []⟩ } where
  asked := asked
  received := nofun
  few := by
    rintro phase data ⟨⟩
    exact Nat.zero_le _
  empty := by
    rintro phase ⟨⟩
    exact .inr ⟨rfl, told⟩
  error := nofun

theorem Measured.of_failed {failure : Error} (asked : read.length = length)
    (other : ∀ start count size, failure ≠ .invalidRange start count size) :
    Measured length { read with stage := .leaving ⟨.failed, .error failure⟩ } where
  asked := asked
  received := nofun
  few := nofun
  empty := nofun
  error := by
    rintro phase error ⟨⟩
    exact other

theorem Measured.of_completed {data : List UInt8} (asked : read.length = length)
    (decision : read.stage.decided? = some ⟨.completed, .ok (data.take length)⟩)
    (undivided : ∀ data, read.stage ≠ .received data) (ready : length = 0 ∨ data ≠ []) :
    Measured length read where
  asked := asked
  received := fun came => absurd came (undivided _)
  few := by
    intro phase bytes decided
    cases decision.symm.trans decided
    exact List.length_take_le _ _
  empty := by
    intro phase decided
    have given := decision.symm.trans decided
    simp only [Option.some.injEq, ReadEnding.mk.injEq, Except.ok.injEq,
      List.take_eq_nil_iff] at given
    exact .inl (given.2.elim id fun empty => ready.resolve_right (not_not_intro empty))
  error := by
    intro phase error decided
    cases decision.symm.trans decided

/-- A request for bytes is refused where the port is not open or a read is under way. -/
theorem admission_eq_refused {error : Error} :
    before.admission length = .refused error ↔ before.openLink? = none ∧ error = .notOpen ∨
      ∃ link, before.openLink? = some link ∧ before.isReading link = true ∧
        error = .readInProgress := by
  unfold admission
  cases before.openLink? with
  | none => simp [@eq_comm _ error]
  | some link =>
      cases reading : before.isReading link with
      | true => simp [reading, @eq_comm _ error]
      | false =>
          simp only [reading, Bool.false_eq_true, if_false, reduceCtorEq, false_and,
            Option.some.injEq, false_or, exists_eq_left', iff_false]
          split_ifs <;> simp

theorem Measured.of_poll (asked : read.length = length) (reply : BulkIn) :
    Measured length { read with stage := afterPoll reply } := by
  cases reply with
  | received data =>
      cases data with
      | nil => exact .of_undecided asked rfl (by simp [afterPoll])
      | cons first rest =>
          refine .of_undecided asked rfl ?_
          rintro data ⟨⟩
          exact List.cons_ne_nil first rest
  | failed status =>
      cases status with
      | timeout => exact .of_undecided asked rfl (by simp [afterPoll])
      | _ => exact .of_failed asked (by simp)
  | crashed => exact .of_failed asked (by simp)

/-- No step makes a read give more than it was asked for. -/
theorem ReadFate.measured (fate : ReadFate before number read action exchange? next)
    (measured : Measured length read) : Measured length next := by
  cases fate with
  | stays => exact measured
  | asked => exact ⟨measured.asked, measured.received, measured.few, measured.empty, measured.error⟩
  | fetched =>
      exact ⟨measured.asked, measured.received, measured.few, measured.empty, measured.error⟩
  | cancelled =>
      refine ⟨measured.asked, measured.received, measured.few, ?_, measured.error⟩
      intro phase decided
      exact (measured.empty decided).imp_right fun stopped => ⟨stopped.1, rfl⟩
  | turned turn =>
      cases turn with
      | stops checking told => exact .of_cancelled measured.asked told
      | polls => exact .of_undecided measured.asked rfl (by simp)
      | keepsAll received told => exact .of_cancelled measured.asked told
      | divides received wanted =>
          refine .of_completed measured.asked ?_ (by simp) (.inr (measured.received received))
          rw [ReaderStage.decided?, measured.asked]
      | leaves leaving => exact measured.of_decided (leaving ▸ rfl) (by simp)
      | leavesLast leaving => exact measured.of_decided (leaving ▸ rfl) (by simp)
      | reports reporting => exact measured.of_decided (reporting ▸ rfl) (by simp)
  | answered held answer =>
      cases answer with
      | polled => exact .of_poll measured.asked _
      | closed closing => exact measured.of_decided (closing ▸ rfl) (by simp)

/-- A read that is started gives no more than it was asked for, be it from the backlog. -/
theorem ReadStart.measured (start : ReadStart before length after (.ok number)) :
    number = before.reads.length ∧
      ∃ read, after.reads = before.reads ++ [read] ∧ Measured length read := by
  cases start with
  | served journal opened idle ready =>
      exact ⟨rfl, _, rfl, .of_completed rfl rfl (by simp) ready⟩
  | polls => exact ⟨rfl, _, rfl, .of_undecided rfl rfl (by simp)⟩

end Measured

/-! ### Storing the bytes -/

theorem store?_eq_some {buffer data stored : List UInt8} {offset : Nat} :
    store? buffer offset data = some stored ↔ offset + data.length ≤ buffer.length ∧
      buffer.take offset ++ data ++ buffer.drop (offset + data.length) = stored := by
  simp [store?]

theorem getElem?_store_of_inside {buffer data stored : List UInt8} {offset place : Nat}
    (fits : store? buffer offset data = some stored) (least : offset ≤ place)
    (most : place < offset + data.length) : stored[place]? = data[place - offset]? := by
  rcases store?_eq_some.mp fits with ⟨room, rfl⟩
  have before : (buffer.take offset).length = offset := by
    rw [List.length_take]
    omega
  rw [List.append_assoc, List.getElem?_append_right (by omega), before,
    List.getElem?_append_left (by omega)]

theorem getElem?_store_of_outside {buffer data stored : List UInt8} {offset place : Nat}
    (fits : store? buffer offset data = some stored)
    (outside : place < offset ∨ offset + data.length ≤ place) :
    stored[place]? = buffer[place]? := by
  rcases store?_eq_some.mp fits with ⟨room, rfl⟩
  have before : (buffer.take offset).length = offset := by
    rw [List.length_take]
    omega
  rcases outside with ahead | behind
  · rw [List.append_assoc, List.getElem?_append_left (by omega), List.getElem?_take_of_lt ahead]
  · rw [List.getElem?_append_right (by rw [List.length_append]; omega), List.getElem?_drop,
      List.length_append, before]
    congr 1
    omega

/-! ### Calls -/

/--
What whoever reads up to `length` bytes into a buffer is told, where `read?` is the read that the
call has started: some bytes of that read stand from the offset on and all other places are as they
were, or there is an error and the buffer is as it was.
-/
inductive InRange (read? : Option Read) (buffer : List UInt8) (offset length : Nat) :
    Response → Prop where
  | stored {read phase data stored} (found : read? = some read)
      (ended : read.stage = .ended ⟨phase, .ok data⟩) (few : data.length ≤ length)
      (empty : data = [] → length = 0 ∨ phase = .cancelled ∧ read.cancelled = true)
      (inside : ∀ place, offset ≤ place → place < offset + data.length →
        stored[place]? = data[place - offset]?)
      (outside : ∀ place, place < offset ∨ offset + data.length ≤ place →
        stored[place]? = buffer[place]?) :
      InRange read? buffer offset length (.answered (.stored data.length stored))
  | failed {error} (other : ∀ start count size, error ≠ .invalidRange start count size) :
      InRange read? buffer offset length (.failed error (some buffer))

/-- A call that reads into a range of its buffer waits for its read or has ended. -/
inductive Fetching (read? : Option Read) (number : Nat) (buffer : List UInt8)
    (offset length : Nat) : Task → Prop where
  | waits {read} (found : read? = some read) (measured : Measured length read) :
      Fetching read? number buffer offset length (.awaitingRead number (.into buffer offset))
  | told {ending} (reply : InRange read? buffer offset length
      (ending.response (Call.read buffer offset length).buffer?)) :
      Fetching read? number buffer offset length (.finished ending)

section Fetching

variable {before after final : Connection} {action : Action} {exchange? : Option Exchange}
  {buffer : List UInt8} {call number offset length : Nat} {task : Task}

/-- What was told of a read that had ended is still true. -/
theorem InRange.of_move {reply : Response}
    (inRange : InRange before.reads[number]? buffer offset length reply)
    (move : Move before action exchange? after) :
    InRange after.reads[number]? buffer offset length reply := by
  cases inRange with
  | stored found ended few empty inside outside =>
      rcases move.readFate found with ⟨next, there, fate⟩
      refine .stored there (fate.ended ended) few ?_ inside outside
      intro nothing
      exact (empty nothing).imp_right fun stopped => ⟨stopped.1, fate.told stopped.2⟩
  | failed other => exact .failed other

/-- Where a call waits for its read, the bytes fit when they come. -/
theorem Turn.inRange {read : Read} {next : Task} (fits : offset + length ≤ buffer.length)
    (found : before.reads[number]? = some read) (measured : Measured length read)
    (turn : Turn before call (.awaitingRead number (.into buffer offset)) after next) :
    Fetching after.reads[number]? number buffer offset length next := by
  have there : (before.setCustody number .resolved).reads[number]? =
      some { read with custody := .resolved } := by
    simp [setCustody, changeRead, found]
  cases turn with
  | fetchesError held ended =>
      cases found.symm.trans held
      have decided : read.stage.decided? = some ⟨_, .error _⟩ := congrArg ReaderStage.decided? ended
      exact .told (.failed (measured.error decided))
  | @stores _ _ phase data _ _ stored held ended stores =>
      cases found.symm.trans held
      have decided : read.stage.decided? = some ⟨phase, .ok data⟩ :=
        congrArg ReaderStage.decided? ended
      refine .told (.stored there ended (measured.few decided) ?_ ?_ ?_)
      · rintro rfl
        exact measured.empty decided
      · exact fun place => getElem?_store_of_inside stores
      · exact fun place => getElem?_store_of_outside stores
  | @spills _ _ phase data _ _ held ended short =>
      cases found.symm.trans held
      have decided : read.stage.decided? = some ⟨phase, .ok data⟩ :=
        congrArg ReaderStage.decided? ended
      have few := measured.few decided
      have room : offset + data.length ≤ buffer.length := by omega
      simp [store?, room] at short

theorem Fetching.of_move (fits : offset + length ≤ buffer.length)
    (stands : before.tasks[call]? = some task)
    (reading : Fetching before.reads[number]? number buffer offset length task)
    (move : Move before action exchange? after) :
    ∃ next, after.tasks[call]? = some next ∧
      Fetching after.reads[number]? number buffer offset length next := by
  cases reading with
  | waits found measured =>
      rcases move.readFate found with ⟨next, there, fate⟩
      cases move.fate stands with
      | stays same => exact ⟨_, same, .waits there (fate.measured measured)⟩
      | @turns changed later turn =>
          have fetches : Fetching changed.reads[number]? number buffer offset length later :=
            turn.inRange fits found measured
          exact ⟨later, setTask_getElem?_self (turn.tasks_eq ▸ stands) later, fetches⟩
      | answered answer => cases answer
      | expires stopping => cases stopping
  | told reply => exact ⟨_, (move.finished stands).1, .told (reply.of_move move)⟩

/-- Where a call stands that has just begun to read into a range of its buffer. -/
theorem Fetching.of_entry {task : Task} (fits : offset + length ≤ buffer.length)
    (entry : Entry before (.read buffer offset length) after task) :
    Fetching after.reads[before.reads.length]? before.reads.length buffer offset length task := by
  cases entry with
  | refuses reason =>
      cases reason with
      | alreadyOpen asked => cases asked
      | outside long => omega
      | notConfigurable asked => cases asked
  | opens asked => cases asked
  | configures asked => cases asked
  | readFails _ start =>
      refine .told (.failed ?_)
      cases start with
      | refused reason =>
          obtain ⟨-, rfl⟩ | ⟨link, -, -, rfl⟩ := admission_eq_refused.mp reason <;> simp
      | notStarted => simp
  | reads _ start =>
      rcases start.measured with ⟨rfl, read, reads, measured⟩
      have still : Measured length { read with custody := .awaited } :=
        ⟨measured.asked, measured.received, measured.few, measured.empty, measured.error⟩
      refine .waits ?_ still
      simp [setCustody, changeRead, reads]

/-- A call that reads into a range of its buffer never leaves the range, whatever happens. -/
theorem fetching_of_run {start : Connection} {actions : List Action}
    (fits : offset + length ≤ buffer.length) (stands : start.tasks[call]? = some task)
    (fetching : Fetching start.reads[number]? number buffer offset length task)
    (ran : start.run? actions = some final) :
    ∃ next, final.tasks[call]? = some next ∧
      Fetching final.reads[number]? number buffer offset length next := by
  refine run_induction (motive := fun _ final => ∃ next, final.tasks[call]? = some next ∧
    Fetching final.reads[number]? number buffer offset length next) ⟨task, stands, fetching⟩ ?_ ran
  rintro actions middle action final - ⟨next, stood, fetching⟩ stepped
  exact fetching.of_move fits stood (Move.of_step? stepped)

end Fetching

/--
A call that reads into a range which does not lie in its buffer is over at once, in whatever state
the connection is, and all else is as before. If the range lies in the buffer, the call waits for a
read of its own or has ended, and then it has stored bytes of that read in its range or the buffer
is as it was. It never puts bytes back and never fails because of the range.
-/
theorem read_stays_in_range (before : Connection) (buffer : List UInt8) (offset length : Nat)
    (started : Except SystemError Unit) :
    ∃ after, before.step? (.invoke (.read buffer offset length) started) = some after ∧
      (buffer.length < offset + length →
        after = before.addTask (Task.failed (.invalidRange offset length buffer.length))) ∧
      ∀ later final, after.run? later = some final →
        ∃ task, final.tasks[before.tasks.length]? = some task ∧
          (buffer.length < offset + length →
            task = Task.failed (.invalidRange offset length buffer.length)) ∧
          (offset + length ≤ buffer.length →
            Fetching final.reads[before.reads.length]? before.reads.length buffer offset length
              task) := by
  have stepped : before.step? (.invoke (.read buffer offset length) started) =
      some (before.invoke (.read buffer offset length) started) := by
    simp [step?, permits]
  have refused (long : buffer.length < offset + length) :
      before.invoke (.read buffer offset length) started =
        before.addTask (Task.failed (.invalidRange offset length buffer.length)) := by
    simp [invoke, enter, enterRead, long, addTask]
  refine ⟨_, stepped, refused, ?_⟩
  intro later final ran
  rcases Nat.lt_or_ge buffer.length (offset + length) with long | fits
  · rw [refused long] at ran
    have ended : (before.addTask (Task.failed (.invalidRange offset length buffer.length))).tasks[
        before.tasks.length]? = some (Task.failed (.invalidRange offset length buffer.length)) :=
      List.getElem?_concat_length
    exact ⟨_, (run_of_finished ended ran).1, fun _ => rfl, fun fits => by omega⟩
  · have entry := Entry.of_enter before (.read buffer offset length) started
    have stands : (before.invoke (.read buffer offset length) started).tasks[before.tasks.length]? =
        some (before.enter (.read buffer offset length) started).2 := by
      simp only [invoke, entry.arrival.2.2]
      exact List.getElem?_concat_length
    have begins : Fetching (before.enter (.read buffer offset length) started).1.reads[
        before.reads.length]? before.reads.length buffer offset length _ := .of_entry fits entry
    rcases fetching_of_run fits stands begins ran with ⟨task, stood, fetching⟩
    exact ⟨task, stood, fun long => by omega, fun _ => fetching⟩

/-- A packet of three bytes comes for a call that reads two. -/
def fills : List Action :=
  [.advance (.reader 0), .answer (.reader 0) (Sample.bus [7, 8, 9] (.ok ())), .advance (.reader 0),
    .advance (.reader 0), .advance (.reader 0), .advance (.call 1)]

theorem fills_in_range :
    (∃ begun, (Sample.after Sample.opens).step? (.invoke (.read [0, 0, 0, 0] 1 2) (.ok ())) =
        some begun ∧
      ∃ final, begun.run? fills = some final ∧
        final.tasks[1]? = some (Task.succeeded (.stored 2 [0, 7, 8, 0])) ∧
        Fetching final.reads[0]? 0 [0, 0, 0, 0] 1 2 (Task.succeeded (.stored 2 [0, 7, 8, 0]))) ∧
      (Sample.after Sample.opens).step? (.invoke (.read [0, 0, 0, 0] 3 2) (.ok ())) =
        some ((Sample.after Sample.opens).addTask (Task.failed (.invalidRange 3 2 4))) := by
  constructor
  · rcases read_stays_in_range (Sample.after Sample.opens) [0, 0, 0, 0] 1 2 (.ok ()) with
      ⟨begun, stepped, -, ends⟩
    have ran : begun.run? fills = some (Sample.after
        (Sample.opens ++ [.invoke (.read [0, 0, 0, 0] 1 2) (.ok ())] ++ fills)) := by
      cases stepped
      rfl
    rcases ends fills _ ran with ⟨task, stands, -, within⟩
    have stored : task = Task.succeeded (.stored 2 [0, 7, 8, 0]) := by
      cases stands
      rfl
    subst stored
    exact ⟨begun, stepped, _, ran, stands, within (by decide)⟩
  · rcases read_stays_in_range (Sample.after Sample.opens) [0, 0, 0, 0] 3 2 (.ok ()) with
      ⟨begun, stepped, refused, -⟩
    rw [stepped, refused (by decide)]
    rfl

end Connection

end CdcSerial
