import CdcSerial.Proofs.Connection.Stopping
import CdcSerial.Proofs.Connection.Transitions

/-!
# The worker of a read, from its first look to its report

What can be seen of a worker is when it looks whether to stop, what its polls bring, when it gives
up its clone of the handle, and when its read gets a terminal phase. `Work` says which sequences of
such sights there are: rounds in which a poll brings nothing, then one `Resolution`, then the clone
is given up, then the read ends. The resolution alone fixes how the read ends and which bytes the
worker adds to the backlog. Cancelling sets the flag that the worker looks at, so it may come
between any two of its turns.
-/

namespace CdcSerial

/--
Whether a worker polls no further after a reply. An empty packet and a timeout decide nothing.
-/
def BulkIn.isDecisive : BulkIn → Bool
  | .received data => !data.isEmpty
  | .failed status => decide (status ≠ .timeout)
  | .crashed => true

namespace Connection

/-- What can be seen of the worker of a read. -/
inductive Sight where
  /-- It looks whether to stop, before it polls. -/
  | looked (cancelled : Bool)
  /-- A poll comes back. -/
  | polled (reply : BulkIn)
  /-- It looks whether to stop, when bytes have come. -/
  | divided (cancelled : Bool)
  /-- It gives up its clone of the handle. -/
  | left
  /-- The phase of its read becomes terminal. -/
  | reported
deriving DecidableEq

/-- What a worker looks at when it goes on by itself. -/
def looks (read : Read) : List Sight :=
  match read.stage with
  | .checking => [.looked read.cancelled]
  | .received _ => [.divided read.cancelled]
  | _ => []

/-- Whether one clone of the handle of a read's session is given up. -/
def leaves (read : Read) (before after : Connection) : List Sight :=
  if (after.account read.session).clones + 1 = (before.account read.session).clones then [.left]
    else []

/-- What a step shows of the worker of a read by its exchange with the bus. -/
def pollReply? (thread : Thread) : Option Exchange → Option BulkIn
  | some (asker, ⟨.bulkIn _ _ _ _, reply⟩) => if asker = thread then some reply else none
  | _ => none

/-- Whether a read gets a terminal phase. -/
def reports (read next : Read) : List Sight :=
  if read.phase.isTerminal = false ∧ next.phase.isTerminal = true then [.reported] else []

/-- Whether the worker of a read goes on by itself. -/
def Action.isTurnOf (number : Nat) : Action → Bool
  | .advance (.reader mover) => decide (mover = number)
  | _ => false

/-- What a step shows of the worker of a read. -/
def sights (number : Nat) (before : Connection) (action : Action) (after : Connection) :
    List Sight :=
  match before.reads[number]?, after.reads[number]? with
  | some read, some next =>
    (if action.isTurnOf number then looks read ++ leaves read before after else []) ++
      ((pollReply? (.reader number) (before.exchange? action)).map .polled).toList ++
        reports read next
  | _, _ => []

/-- What the worker of a read adds to the backlog in a step. -/
def deposits (number : Nat) (before : Connection) (action : Action) (after : Connection) :
    List UInt8 :=
  if action.thread? = some (.reader number) then after.backlog.drop before.backlog.length else []

/-! ### The work -/

/--
How a worker resolves a read of `length` bytes: the last things that are seen of it, how the read
ends, and what is added to the backlog.
-/
inductive Resolution (length : Nat) : List Sight → ReadEnding → List UInt8 → Prop where
  | stopped : Resolution length [.looked true] ⟨.cancelled, .ok []⟩ []
  | completed {data} (full : data ≠ []) :
      Resolution length [.looked false, .polled (.received data), .divided false]
        ⟨.completed, .ok (data.take length)⟩ (data.drop length)
  | late {data} (full : data ≠ []) :
      Resolution length [.looked false, .polled (.received data), .divided true]
        ⟨.cancelled, .ok []⟩ data
  | failed {status} (fatal : status ≠ .timeout) :
      Resolution length [.looked false, .polled (.failed status)]
        ⟨.failed, .error (.transferFailed .input status)⟩ []
  | lost : Resolution length [.looked false, .polled .crashed] ⟨.failed, .error .workerLost⟩ []

/-- Rounds of a worker whose polls have brought nothing. -/
def idleRounds (replies : List BulkIn) : List Sight :=
  replies.flatMap fun reply => [.looked false, .polled reply]

/--
What has been seen of a worker that looks after a read of `length` bytes, where it stands then, and
what it has added to the backlog.
-/
inductive Work (length : Nat) : List Sight → ReaderStage → List UInt8 → Prop where
  | checking {vain} (idle : ∀ reply ∈ vain, reply.isDecisive = false) :
      Work length (idleRounds vain) .checking []
  | polling {vain} (idle : ∀ reply ∈ vain, reply.isDecisive = false) :
      Work length (idleRounds vain ++ [.looked false]) .polling []
  | received {vain data} (idle : ∀ reply ∈ vain, reply.isDecisive = false) (full : data ≠ []) :
      Work length (idleRounds vain ++ [.looked false, .polled (.received data)]) (.received data) []
  | leaving {vain last ending added} (idle : ∀ reply ∈ vain, reply.isDecisive = false)
      (resolution : Resolution length last ending added) :
      Work length (idleRounds vain ++ last) (.leaving ending) added
  | reporting {vain last ending added} (idle : ∀ reply ∈ vain, reply.isDecisive = false)
      (resolution : Resolution length last ending added) :
      Work length (idleRounds vain ++ last ++ [.left]) (.reporting ending) added
  | ended {vain last ending added} (idle : ∀ reply ∈ vain, reply.isDecisive = false)
      (resolution : Resolution length last ending added) :
      Work length (idleRounds vain ++ last ++ [.left, .reported]) (.ended ending) added

theorem idleRounds_concat (replies : List BulkIn) (reply : BulkIn) :
    idleRounds (replies ++ [reply]) = idleRounds replies ++ [.looked false] ++ [.polled reply] := by
  simp [idleRounds]

theorem Resolution.isTerminal {length : Nat} {last : List Sight} {ending : ReadEnding}
    {added : List UInt8} (resolution : Resolution length last ending added) :
    ending.phase.isTerminal = true := by
  cases resolution <;> rfl

section Sights

variable {before after : Connection} {number : Nat} {read next : Read} {action : Action}

theorem sights_eq (found : before.reads[number]? = some read)
    (there : after.reads[number]? = some next) :
    sights number before action after =
      (if action.isTurnOf number then looks read ++ leaves read before after else []) ++
        ((pollReply? (.reader number) (before.exchange? action)).map .polled).toList ++
        reports read next := by
  simp [sights, found, there]

theorem pollReply?_of_other {thread : Thread} (other : action.thread? ≠ some thread) :
    pollReply? thread (before.exchange? action) = none := by
  cases action with
  | answer asker replies =>
      have apart : asker ≠ thread := by simpa [Action.thread?] using other
      cases waits : before.pending? asker with
      | none => simp [exchange?, waits, pollReply?]
      | some pending =>
          rcases pending with ⟨request, resume⟩
          cases request <;> simp [exchange?, waits, pollReply?, apart]
  | _ => rfl

/-- A worker that does not end in the step does not report in it. -/
theorem reports_eq_nil (unended : ∀ ending, next.stage ≠ .ended ending) :
    reports read next = [] := by
  have phase : next.phase = .polling := by
    cases stage : next.stage with
    | ended ending => exact absurd stage (unended ending)
    | _ => simp [Read.phase, Read.ending?, stage]
  simp [reports, phase, ReadPhase.isTerminal]

theorem reports_self (same : next.stage = read.stage) : reports read next = [] := by
  simp [reports, Read.phase, Read.ending?, same]

/-- Others leave the worker of a read where it is and show nothing of it. -/
theorem ReadFate.of_other {exchange? : Option Exchange}
    (fate : ReadFate before number read action exchange? next)
    (other : action.thread? ≠ some (.reader number)) : next.stage = read.stage := by
  cases fate with
  | turned => exact absurd rfl other
  | answered => exact absurd rfl other
  | _ => rfl

theorem ReadFate.frame {exchange? : Option Exchange}
    (fate : ReadFate before number read action exchange? next) :
    next.length = read.length ∧ next.session = read.session := by
  cases fate <;> exact ⟨rfl, rfl⟩

theorem sights_of_other (found : before.reads[number]? = some read)
    (there : after.reads[number]? = some next) (same : next.stage = read.stage)
    (other : action.thread? ≠ some (.reader number)) : sights number before action after = [] := by
  have unturned : action.isTurnOf number = false := by
    cases action with
    | advance thread =>
        cases thread with
        | reader mover => simpa [Action.isTurnOf, Action.thread?] using other
        | _ => rfl
    | _ => rfl
  simp [sights_eq found there, unturned, pollReply?_of_other other, reports_self same]

end Sights

/-! ### Turns of the worker -/

section Turns

variable {before changed : Connection} {number length : Nat} {read : Read} {stage : ReaderStage}
  {seen : List Sight} {added : List UInt8}

/-- What a worker adds to the backlog it adds at the end. -/
theorem ReaderTurn.backlog_eq (turn : ReaderTurn before read changed stage) :
    changed.backlog = before.backlog ++ changed.backlog.drop before.backlog.length := by
  cases turn <;> simp [dropClone, changeSession]

theorem leaves_dropClone {session : Session} (held : before.sessions[read.session]? = some session)
    (others : before.isLastClone read.session = false) :
    leaves read before (before.dropClone read.session) = [.left] := by
  have many : 1 < session.clones := by simpa [isLastClone, held] using others
  have one : ((before.dropClone read.session).account read.session).clones + 1 =
      (before.account read.session).clones := by
    rw [dropClone, account_changeSession held, if_pos rfl, account_of_getElem? held]
    exact Nat.sub_add_cancel (Nat.le_of_lt many)
  rw [leaves, if_pos one]

theorem reports_ended {ending : ReadEnding} (reporting : read.stage = .reporting ending)
    (terminal : ending.phase.isTerminal = true) :
    reports read { read with stage := .ended ending } = [.reported] := by
  have before : read.phase = .polling := by simp [Read.phase, Read.ending?, reporting]
  rw [reports, before, if_pos ⟨rfl, terminal⟩]

/-- A turn of the worker goes on with its work. -/
theorem Work.of_turn {session : Session} (work : Work length seen read.stage added)
    (asked : read.length = length) (found : before.reads[number]? = some read)
    (held : before.sessions[read.session]? = some session)
    (turn : ReaderTurn before read changed stage) (unclosed : stage.isClosing = false) :
    Work length
      (seen ++ sights number before (.advance (.reader number)) (changed.setReader number stage))
      stage (added ++ deposits number before (.advance (.reader number))
        (changed.setReader number stage)) := by
  have there : (changed.setReader number stage).reads[number]? = some { read with stage } := by
    rcases turn.frame with ⟨backlog, sessions, rfl⟩
    simp [setReader, changeRead, found]
  have seesTurn :
      sights number before (.advance (.reader number)) (changed.setReader number stage) =
      looks read ++ leaves read before changed ++ reports read { read with stage } := by
    simp [sights_eq found there, Action.isTurnOf, exchange?, pollReply?]
    rfl
  have adds : deposits number before (.advance (.reader number)) (changed.setReader number stage) =
      changed.backlog.drop before.backlog.length := by
    simp [deposits, Action.thread?, setReader, changeRead]
  rw [seesTurn, adds]
  generalize stands : read.stage = stood at work
  cases turn with
  | stops checking cancelled =>
      cases stands.symm.trans checking
      cases work with
      | checking idle =>
          simpa [looks, checking, cancelled, leaves, reports_eq_nil] using
            Work.leaving idle .stopped
  | polls checking wanted =>
      cases stands.symm.trans checking
      cases work with
      | checking idle =>
          simpa [looks, checking, wanted, leaves, reports_eq_nil] using Work.polling idle
  | keepsAll received cancelled =>
      cases stands.symm.trans received
      cases work with
      | received idle full =>
          simpa [looks, received, cancelled, leaves, account, reports_eq_nil] using
            Work.leaving idle (.late full)
  | divides received wanted =>
      cases stands.symm.trans received
      cases work with
      | received idle full =>
          simpa [looks, received, wanted, leaves, account, reports_eq_nil, asked] using
            Work.leaving idle (.completed full)
  | leaves leaving others =>
      cases stands.symm.trans leaving
      cases work with
      | leaving idle resolution =>
          have backlog : (before.dropClone read.session).backlog = before.backlog := rfl
          simpa [looks, leaving, leaves_dropClone held others, reports_eq_nil, backlog] using
            Work.reporting idle resolution
  | leavesLast leaving last => cases unclosed
  | reports reporting =>
      cases stands.symm.trans reporting
      cases work with
      | reporting idle resolution =>
          simpa [looks, reporting, leaves, reports_ended reporting resolution.isTerminal] using
            Work.ended idle resolution

/-- A poll that comes back resolves the read, brings its bytes or was in vain. -/
theorem Work.of_poll (work : Work length seen .polling added) (reply : BulkIn) :
    Work length (seen ++ [.polled reply]) (afterPoll reply) added := by
  cases work with
  | @polling vain idle =>
      have again (nothing : reply.isDecisive = false) :
          Work length (idleRounds vain ++ [.looked false] ++ [.polled reply]) .checking [] := by
        rw [← idleRounds_concat]
        refine .checking fun other member => ?_
        rcases List.mem_append.mp member with old | new
        · exact idle other old
        · exact List.mem_singleton.mp new ▸ nothing
      have resolves {ending : ReadEnding}
          (resolution : Resolution length [.looked false, .polled reply] ending []) :
          Work length (idleRounds vain ++ [.looked false] ++ [.polled reply])
            (.leaving ending) [] := by
        rw [List.append_assoc]
        exact .leaving idle resolution
      cases reply with
      | received data =>
          cases data with
          | nil => exact again rfl
          | cons first rest =>
              rw [List.append_assoc]
              exact .received idle (List.cons_ne_nil first rest)
      | failed status =>
          cases status with
          | timeout => exact again rfl
          | _ => exact resolves (.failed (by simp))
      | crashed => exact resolves .lost

/-- The answer to a worker goes on with its work, and it is that to a poll. -/
theorem Work.of_answer {session : Session} {replies : Replies} {request : Request}
    (work : Work length seen read.stage added) (found : before.reads[number]? = some read)
    (exchanged : before.exchange? (.answer (.reader number) replies) =
      some (.reader number, ⟨request, replies request⟩))
    (answer : ReaderAnswer before read session request (replies request) stage)
    (unclosed : read.stage.isClosing = false) :
    Work length (seen ++ sights number before (.answer (.reader number) replies)
        (before.setReader number stage)) stage
      (added ++ deposits number before (.answer (.reader number) replies)
        (before.setReader number stage)) ∧
    ∃ reply : BulkIn, sights number before (.answer (.reader number) replies)
        (before.setReader number stage) = [.polled reply] ∧
      (⟨request, replies request⟩ : Event) = ⟨.bulkIn session.handle before.settings.endpointIn
        Profile.packetSize before.settings.pollTimeout, reply⟩ := by
  have there : (before.setReader number stage).reads[number]? = some { read with stage } := by
    simp [setReader, changeRead, found]
  have adds : deposits number before (.answer (.reader number) replies)
      (before.setReader number stage) = [] := by
    simp [deposits, Action.thread?, setReader, changeRead]
  rw [adds, List.append_nil, sights_eq found there, exchanged]
  cases answer with
  | polled polling =>
      rw [polling] at work
      have silent (reply : BulkIn) : reports read { read with stage := afterPoll reply } = [] := by
        refine reports_eq_nil fun ending => ?_
        change afterPoll reply ≠ .ended ending
        unfold afterPoll
        split <;> simp
      simp only [Action.isTurnOf, Bool.false_eq_true, if_false, pollReply?, if_true,
        Option.map_some, Option.toList_some, List.nil_append, silent, List.append_nil]
      exact ⟨work.of_poll _, _, rfl, rfl⟩
  | closed closing => simp [closing, ReaderStage.isClosing] at unclosed

end Turns

/-! ### Runs -/

/-- The replies to polls among what is seen of a worker. -/
def Sight.reply? : Sight → Option BulkIn
  | .polled reply => some reply
  | _ => none

theorem replies_looks (read : Read) : (looks read).filterMap Sight.reply? = [] := by
  unfold looks
  split <;> rfl

theorem replies_leaves (read : Read) (before after : Connection) :
    (leaves read before after).filterMap Sight.reply? = [] := by
  unfold leaves
  split <;> rfl

theorem replies_reports (read next : Read) : (reports read next).filterMap Sight.reply? = [] := by
  unfold reports
  split <;> rfl

/-- The poll of a worker with the reply to it. -/
def pollEvent (settings : Settings) (handle : Handle) (reply : BulkIn) : Event :=
  ⟨.bulkIn handle settings.endpointIn Profile.packetSize settings.pollTimeout, reply⟩

/-- What the worker of a read has done along a course of actions from `start` on. -/
structure Worked (start : Connection) (handle : Handle) (number : Nat) (read next : Read)
    (actions : List Action) (connection : Connection) : Prop where
  settings : connection.settings = start.settings
  handles : connection.handles[read.session]? = some handle
  length : next.length = read.length
  session : next.session = read.session
  work : Work read.length (start.along (sights number) actions) next.stage
    (start.along (deposits number) actions)
  requests : eventsOf (.reader number) (start.exchanges actions) =
    ((start.along (sights number) actions).filterMap Sight.reply?).map
      (pollEvent start.settings handle)

section Runs

variable {start middle final : Connection} {handle : Handle} {number : Nat} {read next later : Read}
  {actions : List Action} {action : Action}

/-- What the settings and the handle are is known for good. -/
theorem Worked.kept (worked : Worked start handle number read next actions middle)
    (stepped : middle.step? action = some final) :
    final.settings = start.settings ∧ final.handles[read.session]? = some handle := by
  rcases (Move.of_step? stepped).keeps with ⟨more, keeps⟩
  refine ⟨keeps.settings.trans worked.settings, ?_⟩
  rw [keeps.handles, List.getElem?_append_left (List.getElem?_eq_some_iff.mp worked.handles).1]
  exact worked.handles

theorem Worked.of_other (worked : Worked start handle number read next actions middle)
    (ran : start.run? actions = some middle) (stepped : middle.step? action = some final)
    (found : middle.reads[number]? = some next) (there : final.reads[number]? = some later)
    (fate : ReadFate middle number next action (middle.exchange? action) later)
    (other : action.thread? ≠ some (.reader number)) :
    Worked start handle number read later (actions ++ [action]) final := by
  rcases worked.kept stepped with ⟨settings, handles⟩
  rcases fate.frame with ⟨length, session⟩
  have unseen := sights_of_other found there (fate.of_other other) other
  have unadded : deposits number middle action final = [] := by simp [deposits, other]
  have unasked : eventsOf (.reader number) (middle.exchange? action).toList = [] := by
    cases action with
    | answer asker replies =>
        have apart : asker ≠ .reader number := by simpa [Action.thread?] using other
        cases waits : middle.pending? asker with
        | none => simp [exchange?, waits, eventsOf]
        | some pending => simp [exchange?, waits, eventsOf, apart]
    | _ => rfl
  refine ⟨settings, handles, length.trans worked.length, session.trans worked.session, ?_, ?_⟩
  · rw [along_concat ran stepped, along_concat ran stepped, unseen, unadded, List.append_nil,
      List.append_nil, fate.of_other other]
    exact worked.work
  · rw [exchanges_concat ran stepped, eventsOf_append, unasked, List.append_nil,
      along_concat ran stepped, unseen, List.append_nil]
    exact worked.requests

theorem Worked.of_advance (worked : Worked start handle number read next actions middle)
    (owned : middle.Owned) (recorded : middle.Recorded) (unclosed : final.Unclosed)
    (ran : start.run? actions = some middle)
    (stepped : middle.step? (.advance (.reader number)) = some final)
    (found : middle.reads[number]? = some next) :
    ∃ later, final.reads[number]? = some later ∧
      Worked start handle number read later (actions ++ [.advance (.reader number)]) final := by
  rcases worked.kept stepped with ⟨settings, handles⟩
  have move : Move middle (.advance (.reader number)) none final := Move.of_step? stepped
  cases move with
  | @readerTurns _ same changed stage found' turn =>
      cases found.symm.trans found'
      have there : (changed.setReader number stage).reads[number]? = some { next with stage } := by
        rcases turn.frame with ⟨backlog, sessions, rfl⟩
        simp [setReader, changeRead, found]
      rcases exists_session_of_unfinished recorded owned found turn.unfinished with ⟨session, held⟩
      have goes := worked.work.of_turn worked.length found held turn
        (unclosed.reader _ (List.mem_of_getElem? there))
      have silent : (sights number middle (.advance (.reader number))
          (changed.setReader number stage)).filterMap Sight.reply? = [] := by
        rw [sights_eq found there]
        simp [Action.isTurnOf, exchange?, pollReply?, replies_looks, replies_leaves,
          replies_reports]
      refine ⟨_, there, settings, handles, worked.length, worked.session, ?_, ?_⟩
      · rw [along_concat ran stepped, along_concat ran stepped]
        exact goes
      · rw [exchanges_concat ran stepped, along_concat ran stepped, List.filterMap_append, silent,
          List.append_nil, ← worked.requests]
        simp [exchange?]

theorem Worked.of_reply {replies : Replies}
    (worked : Worked start handle number read next actions middle) (unclosed : middle.Unclosed)
    (ran : start.run? actions = some middle)
    (stepped : middle.step? (.answer (.reader number) replies) = some final)
    (found : middle.reads[number]? = some next) :
    ∃ later, final.reads[number]? = some later ∧
      Worked start handle number read later (actions ++ [.answer (.reader number) replies])
        final := by
  rcases worked.kept stepped with ⟨settings, handles⟩
  have move := Move.of_step? stepped
  generalize exchanged : middle.exchange? (.answer (.reader number) replies) = exchange? at move
  cases move with
  | @readerAnswered _ same session request _ stage found' held answer =>
      cases found.symm.trans found'
      have there : (middle.setReader number stage).reads[number]? = some { next with stage } := by
        simp [setReader, changeRead, found]
      have known : session.handle = handle := by
        have here := handles_getElem? held
        rw [worked.session, worked.handles, Option.some.injEq] at here
        exact here.symm
      rcases worked.work.of_answer found exchanged answer
        (unclosed.reader _ (List.mem_of_getElem? found))
        with ⟨goes, reply, sees, asks⟩
      refine ⟨_, there, settings, handles, worked.length, worked.session, ?_, ?_⟩
      · rw [along_concat ran stepped, along_concat ran stepped]
        exact goes
      · rw [exchanges_concat ran stepped, eventsOf_append, worked.requests,
          along_concat ran stepped, sees, exchanged, asks, worked.settings, known]
        simp [eventsOf, Sight.reply?, pollEvent]

/-- What the worker of a read does along a course of actions, from one of its looks on. -/
theorem worked_of_run {locator : Locator} {settings : Settings} {earlier : List Action}
    (ran : (fresh locator settings).run? earlier = some start)
    (found : start.reads[number]? = some read) (checking : read.stage = .checking)
    (ranOn : start.run? actions = some final) :
    ∃ handle next, final.reads[number]? = some next ∧
      Worked start handle number read next actions final := by
  have sound := sound_of_run ran
  have running : read.isFinished = false := by simp [Read.isFinished, Read.ending?, checking]
  rcases exists_session_of_unfinished sound.recorded sound.owned found running with ⟨session, held⟩
  refine ⟨session.handle, ?_⟩
  refine run_induction (motive := fun actions final => ∃ next, final.reads[number]? = some next ∧
    Worked start session.handle number read next actions final) ⟨read, found, ?_⟩ ?_ ranOn
  · have begins : Work read.length (idleRounds []) .checking [] := .checking (by simp)
    exact ⟨rfl, handles_getElem? held, rfl, rfl, checking ▸ begins, rfl⟩
  rintro actions middle action final ranBefore ⟨next, there, worked⟩ stepped
  have reached : (fresh locator settings).run? (earlier ++ actions) = some middle := by
    rw [run?_append, ran]
    exact ranBefore
  have reachedNext := run?_concat_eq_some.mpr ⟨middle, reached, stepped⟩
  by_cases own : action.thread? = some (.reader number)
  · cases action with
    | advance thread =>
        cases own
        have sound := sound_of_run reached
        exact worked.of_advance sound.owned sound.recorded (unclosed_of_run reachedNext) ranBefore
          stepped there
    | answer thread replies =>
        cases own
        exact worked.of_reply (unclosed_of_run reached) ranBefore stepped there
    | _ => cases own
  · rcases (Move.of_step? stepped).readFate there with ⟨later, thereLater, fate⟩
    exact ⟨later, thereLater, worked.of_other ranBefore stepped there thereLater fate own⟩

end Runs

/-! ### Waiting for a read -/

/-- Where a call that waits for a read stands: it waits, or it has the outcome of the read. -/
inductive AwaitsRead (read? : Option Read) (number : Nat) : Task → Prop where
  | waits : AwaitsRead read? number (.awaitingRead number .bytes)
  | returned {read ending} (found : read? = some read) (ended : read.stage = .ended ending) :
      AwaitsRead read? number (.finished (.returned (ending.outcome.map .bytes)))

section Waiting

variable {before after : Connection} {call number : Nat} {task : Task} {action : Action}
  {exchange? : Option Exchange}

theorem AwaitsRead.of_move (stands : before.tasks[call]? = some task)
    (waiting : AwaitsRead before.reads[number]? number task)
    (move : Move before action exchange? after) :
    ∃ next, after.tasks[call]? = some next ∧ AwaitsRead after.reads[number]? number next := by
  cases waiting with
  | waits =>
      cases move.fate stands with
      | stays same => exact ⟨_, same, .waits⟩
      | @turns changed later turn =>
          refine ⟨later, setTask_getElem?_self (turn.tasks_eq ▸ stands) later, ?_⟩
          have resolved {read : Read} (found : before.reads[number]? = some read) :
              (before.setCustody number .resolved).reads[number]? =
                some { read with custody := .resolved } := by
            simp [setCustody, changeRead, found]
          cases turn with
          | fetchesError found ended => exact .returned (resolved found) ended
          | fetchesBytes found ended => exact .returned (resolved found) ended
      | answered answer => cases answer
      | expires stopping => cases stopping
  | returned found ended =>
      rcases move.readFate found with ⟨next, there, fate⟩
      exact ⟨_, (move.finished stands).1, .returned there (fate.ended ended)⟩

/-- A call that waits for a read is given the outcome of that read and nothing else. -/
theorem awaitsRead_of_run {locator : Locator} {settings : Settings} {actions : List Action}
    {connection : Connection} (ran : (fresh locator settings).run? actions = some connection)
    (made : (calls actions)[call]? = some (.wait number)) :
    ∃ task,
      connection.tasks[call]? = some task ∧ AwaitsRead connection.reads[number]? number task := by
  refine run_induction (motive := fun actions connection => ∀ {call number},
    (calls actions)[call]? = some (.wait number) → ∃ task, connection.tasks[call]? = some task ∧
      AwaitsRead connection.reads[number]? number task) (by simp [calls]) ?_ ran made
  intro actions middle action final ranBefore holds stepped call number made
  have count := (sound_of_run ranBefore).placed.count
  have move := Move.of_step? stepped
  rw [calls_concat] at made
  rcases Nat.lt_or_ge call (calls actions).length with old | new
  · rw [List.getElem?_append_left old] at made
    rcases holds made with ⟨task, stands, waiting⟩
    exact waiting.of_move stands move
  · rw [List.getElem?_append_right new] at made
    cases action with
    | invoke entered started =>
        have inside := (List.getElem?_eq_some_iff.mp made).1
        cases List.mem_singleton.mp (List.mem_of_getElem? made)
        have last : call = middle.tasks.length := by
          simp only [Action.call?, Option.toList_some, List.length_singleton] at inside
          omega
        subst last
        generalize middle.exchange? _ = exchange? at move
        cases move with
        | enters permitted entry =>
            cases entry with
            | waits => exact ⟨_, List.getElem?_concat_length, .waits⟩
            | refuses reason =>
                cases reason with
                | alreadyOpen asked => cases asked
                | notConfigurable asked => cases asked
            | opens asked => cases asked
            | configures asked => cases asked
    | _ => simp [Action.call?] at made

/-- Once the worker has reported, a call that waits can take the outcome. -/
theorem step?_of_awaiting {connection : Connection} {read : Read} {ending : ReadEnding}
    (stands : connection.tasks[call]? = some (.awaitingRead number .bytes))
    (found : connection.reads[number]? = some read) (ended : read.stage = .ended ending) :
    ∃ after, connection.step? (.advance (.call call)) = some after ∧
      after.tasks[call]? = some (.finished (.returned (ending.outcome.map .bytes))) := by
  refine ⟨connection.resolve call number .bytes ending, ?_, ?_⟩
  · simp [step?, advance?, advanceCall?, stands, found, Read.ending?, ended]
  · have stood : (connection.setCustody number .resolved).tasks[call]? =
        some (.awaitingRead number .bytes) := stands
    rcases ending with ⟨phase, error | data⟩
    · exact setTask_getElem?_self stood _
    · exact setTask_getElem?_self stood _

end Waiting

/-! ### The whole of a worker -/

section Whole

variable {connection before after : Connection} {number : Nat} {read : Read} {action : Action}

/-- The only bytes of the backlog that a worker touches are those that it adds. -/
theorem backlog_eq_of_worker (own : action.thread? = some (.reader number))
    (stepped : before.step? action = some after) :
    after.backlog = before.backlog ++ deposits number before action after := by
  rw [deposits, if_pos own]
  have move := Move.of_step? stepped
  generalize before.exchange? action = exchange? at move
  cases move with
  | readerTurns found turn => exact turn.backlog_eq
  | readerAnswered => simp [setReader, changeRead]
  | _ => cases own

/-- A worker that has not ended can go on, whatever the bus answers. -/
theorem step?_of_worker (recorded : connection.Recorded) (owned : connection.Owned)
    (unclosed : connection.Unclosed) (found : connection.reads[number]? = some read)
    (running : read.isFinished = false) (replies : Replies) :
    ∃ action after,
      (action = .advance (.reader number) ∨ action = .answer (.reader number) replies) ∧
      connection.step? action = some after := by
  rcases exists_session_of_unfinished recorded owned found running with ⟨session, held⟩
  have unclosing := unclosed.reader _ (List.mem_of_getElem? found)
  have turns (goes : (connection.advanceReader? number).isSome = true) : ∃ action after,
      (action = .advance (.reader number) ∨ action = .answer (.reader number) replies) ∧
        connection.step? action = some after := by
    rcases Option.isSome_iff_exists.mp goes with ⟨after, advanced⟩
    exact ⟨_, after, .inl rfl, advanced⟩
  cases stage : read.stage with
  | checking =>
      apply turns
      cases told : read.cancelled <;> simp [advanceReader?, found, stage, told]
  | polling =>
      have waits : (connection.readerPending? number).isSome = true := by
        simp [readerPending?, found, held, stage]
      rcases Option.isSome_iff_exists.mp waits with ⟨pending, waits⟩
      exact ⟨_, _, .inr rfl, Option.map_eq_some_iff.mpr ⟨pending, waits, rfl⟩⟩
  | received data =>
      apply turns
      simp [advanceReader?, found, stage]
  | leaving ending =>
      apply turns
      simp [advanceReader?, found, stage]
  | reporting ending =>
      apply turns
      simp [advanceReader?, found, stage]
  | closing ending => simp [stage, ReaderStage.isClosing] at unclosing
  | ended ending => simp [Read.isFinished, Read.ending?, stage] at running

end Whole

/--
The worker of a read polls until a reply decides or it has seen that it is to stop, and then
resolves the read in the way that this fixes. It has given up its clone before the read ends. Until
then it can always go on. How the read has ended never changes, and whoever waits for it is given
just that.
-/
theorem worker_resolves_read {locator : Locator} {settings : Settings}
    {earlier actions : List Action} {start final : Connection} {number : Nat} {read : Read}
    (ran : (fresh locator settings).run? earlier = some start)
    (found : start.reads[number]? = some read) (checking : read.stage = .checking)
    (ranOn : start.run? actions = some final) :
    (∀ before action after, action.thread? = some (.reader number) →
      before.step? action = some after →
      after.backlog = before.backlog ++ deposits number before action after) ∧
    ∃ handle next, final.reads[number]? = some next ∧
      Worked start handle number read next actions final ∧
      (next.isFinished = false → ∀ replies, ∃ action after,
        (action = .advance (.reader number) ∨ action = .answer (.reader number) replies) ∧
          final.step? action = some after) ∧
      (∀ ending, next.stage = .ended ending → ∀ later last, final.run? later = some last →
        ∃ same, last.reads[number]? = some same ∧ same.stage = .ended ending) ∧
      ∀ call, (calls (earlier ++ actions))[call]? = some (.wait number) →
        ∃ task, final.tasks[call]? = some task ∧ AwaitsRead final.reads[number]? number task ∧
          ∀ ending, next.stage = .ended ending → task.isOver = false →
            ∃ after, final.step? (.advance (.call call)) = some after ∧
              after.tasks[call]? = some (.finished (.returned (ending.outcome.map .bytes))) := by
  refine ⟨fun before action after => backlog_eq_of_worker, ?_⟩
  rcases worked_of_run ran found checking ranOn with ⟨handle, next, there, worked⟩
  have reached : (fresh locator settings).run? (earlier ++ actions) = some final := by
    rw [run?_append, ran]
    exact ranOn
  have sound := sound_of_run reached
  refine ⟨handle, next, there, worked, ?_, ?_, ?_⟩
  · exact fun running => step?_of_worker sound.recorded sound.owned
      (unclosed_of_run reached) there running
  · intro ending ended later last ranLater
    exact read_of_run (fun fate => fate.ended) there ended ranLater
  · intro call made
    rcases awaitsRead_of_run reached made with ⟨task, stands, waiting⟩
    refine ⟨task, stands, waiting, fun ending ended unfinished => ?_⟩
    cases waiting with
    | waits => exact step?_of_awaiting stands there ended
    | returned => cases unfinished

/-- An empty packet and then three bytes come for a read of two, and a caller waits for it. -/
def waitsForTwo : List Action :=
  [.advance (.reader 0), .answer (.reader 0) (Sample.bus [] (.ok ())), .advance (.reader 0),
    .answer (.reader 0) (Sample.bus [7, 8, 9] (.ok ())), .advance (.reader 0), .advance (.reader 0),
    .advance (.reader 0)]

theorem waitsForTwo_resolves :
    let started := Sample.opens ++ [.startRead 2 (.ok ()), .invoke (.wait 0) (.ok ())]
    (Sample.after started).along (sights 0) waitsForTwo =
        [.looked false, .polled (.received []), .looked false, .polled (.received [7, 8, 9]),
          .divided false, .left, .reported] ∧
      (Sample.after started).along (deposits 0) waitsForTwo = [9] ∧
      ∃ handle next, (Sample.after (started ++ waitsForTwo)).reads[0]? = some next ∧
        next.stage = .ended ⟨.completed, .ok [7, 8]⟩ ∧
        Worked (Sample.after started) handle 0 ⟨0, 2, false, .checking, .awaited⟩ next waitsForTwo
          (Sample.after (started ++ waitsForTwo)) ∧
        ∃ after, (Sample.after (started ++ waitsForTwo)).step? (.advance (.call 1)) = some after ∧
          after.tasks[1]? = some (.finished (.returned (.ok (.bytes [7, 8])))) := by
  intro started
  refine ⟨by decide, by decide, ?_⟩
  have ran : Sample.connection.run? started = some (Sample.after started) := rfl
  have found : (Sample.after started).reads[0]? = some ⟨0, 2, false, .checking, .awaited⟩ := rfl
  have ranOn : (Sample.after started).run? waitsForTwo =
      some (Sample.after (started ++ waitsForTwo)) := rfl
  rcases worker_resolves_read ran found rfl ranOn with ⟨-, handle, next, there, worked, -, -, waits⟩
  have ended : next.stage = .ended ⟨.completed, .ok [7, 8]⟩ := by
    cases there
    rfl
  rcases waits 1 rfl with ⟨task, stands, -, takes⟩
  have unfinished : task.isOver = false := by
    cases stands
    rfl
  exact ⟨handle, next, there, ended, worked, takes _ ended unfinished⟩

end Connection

end CdcSerial
