import CdcSerial.Proofs.Connection.Completion
import CdcSerial.Proofs.Connection.Serving
import CdcSerial.Proofs.Connection.Writing

/-!
# Writers are at work while the port is open

The worker of a session's writes stops for one of two reasons: it was told that no more writes will
come, or a transfer crashed. It is told so when a closing call takes the link, and the link does not
come back. So while the port is open its writer takes writes and goes on with them unless a transfer
has crashed, also after a call has tried in vain to close the port.

`Tenure` says what a turn of a caller does with the link and with the sign that no more writes will
come. In a fair run a writer that has a write in its queue gets to it, since each of its turns
brings the write nearer to the front.
-/

namespace CdcSerial

/-- The session that a caller has reached and is about to install. -/
def Task.reached? : Task → Option Nat
  | .clearing _ _ session => some session
  | .installing _ _ session => some session
  | _ => none

theorem Task.part_of_reached? {task : Task} {number : Nat} (reached : task.reached? = some number) :
    task.part = .opener := by
  cases task <;> first | rfl | cases reached

namespace Connection

/-- What a turn of a caller does with the link and with the signs for writers. -/
inductive Tenure (before : Connection) (task : Task) : Connection → Task → Prop where
  | keeps {after next} (signs : after.hungUps = before.hungUps)
      (session : after.link.map (·.session) = before.link.map (·.session))
      (reached : next.reached? = none ∨ next.reached? = task.reached?) :
      Tenure before task after next
  | founds {after next} (signs : after.hungUps = before.hungUps ++ [false])
      (link : after.link = before.link) (reached : next.reached? = some before.hungUps.length) :
      Tenure before task after next
  | installs {after next number} (signs : after.hungUps = before.hungUps)
      (was : task.reached? = some number) (link : after.link.map (·.session) = some number)
      (reached : next.reached? = none) : Tenure before task after next
  | takes {after next link}
      (signs : after.hungUps = before.hungUps.modify link.session fun _ => true)
      (held : before.link = some link) (gone : after.link = none) (part : task.part = .stopper)
      (reached : next.reached? = none) : Tenure before task after next

section Tenure

variable {before after : Connection} {call : Nat} {task next : Task}

theorem hungUps_hangUp (connection : Connection) (number : Nat) :
    (connection.changeSession number ({ · with hungUp := true })).hungUps =
      connection.hungUps.modify number fun _ => true := by
  simp only [hungUps, changeSession]
  apply List.ext_getElem?
  intro other
  simp only [List.getElem?_map, List.getElem?_modify]
  cases connection.sessions[other]? with
  | none => simp
  | some session => by_cases same : number = other <;> simp [same]

theorem Turn.tenure (turn : Turn before call task after next) : Tenure before task after next := by
  cases turn with
  | lists progress =>
      rcases progress.only_tells with ⟨journal, rfl⟩
      exact .keeps rfl rfl (.inl rfl)
  | opens progress =>
      rcases progress.only_tells with ⟨journal, rfl⟩
      exact .keeps rfl rfl (.inl rfl)
  | releases progress =>
      rcases progress.only_tells with ⟨journal, rfl⟩
      exact .keeps rfl rfl (.inl rfl)
  | configures progress =>
      obtain ⟨journal, rfl⟩ | rfl := progress.only_lane
      · exact .keeps rfl rfl (.inl rfl)
      · exact .keeps (hungUps_changeSession before _ fun _ => rfl) rfl (.inl rfl)
  | reached =>
      refine .founds ?_ rfl ?_
      · simp [hungUps, newSession]
      · simp [Task.reached?, hungUps]
  | clears => exact .keeps rfl rfl (.inr rfl)
  | installs => exact .installs rfl rfl rfl rfl
  | fetchesWrite found ended =>
      rcases writeEnding?_eq_some ended with ⟨result, rfl⟩
      exact .keeps rfl rfl (.inl rfl)
  | returnsClone => exact .keeps (hungUps_dropClone before _) rfl (.inl rfl)
  | @returnsTicket session line result =>
      refine .keeps (hungUps_changeSession before _ fun _ => rfl) rfl (.inl ?_)
      unfold afterTicket
      split
      · rfl
      · cases result <;> rfl
  | records =>
      refine .keeps rfl ?_ (.inl rfl)
      cases held : before.link <;> simp [recordLine, held]
  | @takesLink link held =>
      exact .takes (hungUps_hangUp { before with link := none } link.session) held rfl rfl rfl
  | regains => exact .keeps (hungUps_dropClone before _) rfl (.inl rfl)
  | findsOwners => exact .keeps (hungUps_dropClone before _) rfl (.inl rfl)
  | _ => exact .keeps rfl rfl (.inl rfl)

end Tenure

/-! ### The writer of an open port was not told to stop -/

/-- The writer of the session that is installed, or about to be, was not told to stop. -/
structure Attended (connection : Connection) : Prop where
  linked : ∀ {number}, connection.link.map (·.session) = some number →
    connection.hungUps[number]? = some false
  reached : ∀ {task number}, task ∈ connection.tasks → task.reached? = some number →
    connection.hungUps[number]? = some false

section Attended

variable {before after : Connection} {action : Action} {exchange? : Option Exchange}

theorem Attended.of_same (attended : before.Attended) (signs : after.hungUps = before.hungUps)
    (session : after.link.map (·.session) = before.link.map (·.session))
    (tasks : ∀ task ∈ after.tasks, task.reached? = none ∨ task ∈ before.tasks) :
    after.Attended where
  linked := by
    intro number linked
    rw [signs]
    exact attended.linked (session ▸ linked)
  reached := by
    intro task number member reached
    rw [signs]
    rcases tasks task member with unreached | old
    · cases unreached.symm.trans reached
    · exact attended.reached old reached

theorem Attended.of_tenure {call : Nat} {task next : Task} (attended : before.Attended)
    (orderly : before.Orderly) (stands : before.tasks[call]? = some task)
    (tasks : after.tasks = before.tasks) (tenure : Tenure before task after next) :
    (after.setTask call next).Attended := by
  have member := List.mem_of_getElem? stands
  have built (linked : ∀ number, after.link.map (·.session) = some number →
        after.hungUps[number]? = some false)
      (mine : ∀ number, next.reached? = some number → after.hungUps[number]? = some false)
      (others : ∀ task ∈ before.tasks, ∀ number, task.reached? = some number →
        after.hungUps[number]? = some false) : (after.setTask call next).Attended := by
    refine ⟨linked _, ?_⟩
    intro task number member reached
    rcases mem_setTask member with among | rfl
    · exact others task (tasks ▸ among) number reached
    · exact mine number reached
  cases tenure with
  | keeps signs session reached =>
      rw [signs] at built
      apply built
      · intro number linked
        exact attended.linked (session ▸ linked)
      · intro number now
        rcases reached with unreached | same
        · cases unreached.symm.trans now
        · exact attended.reached member (same ▸ now)
      · intro task among number was
        exact attended.reached among was
  | founds signs link reached =>
      have kept {number : Nat} (sign : before.hungUps[number]? = some false) :
          after.hungUps[number]? = some false := by
        rw [signs, List.getElem?_append_left (List.getElem?_eq_some_iff.mp sign).1, sign]
      apply built
      · intro number linked
        exact kept (attended.linked (link ▸ linked))
      · intro number now
        cases reached.symm.trans now
        simp [signs]
      · intro task among number was
        exact kept (attended.reached among was)
  | installs signs was link reached =>
      rw [signs] at built
      apply built
      · intro number linked
        cases link.symm.trans linked
        exact attended.reached member was
      · intro number now
        cases reached.symm.trans now
      · intro task among number was
        exact attended.reached among was
  | takes signs held gone part reached =>
      apply built
      · intro number linked
        simp [gone] at linked
      · intro number now
        cases reached.symm.trans now
      · intro task among number was
        have opening := (orderly.of_opener among (Task.part_of_reached? was)).1
        cases opening.symm.trans (orderly.of_stopper member part).1

theorem duty?_session (connection : Connection) :
    connection.duty?.map (·.1) = connection.link.map (·.session) := by
  cases held : connection.link <;> simp [duty?, held]

theorem ReadStart.hungUps_eq {length : Nat} {result : Except Error Nat}
    (start : ReadStart before length after result) : after.hungUps = before.hungUps := by
  cases start with
  | polls => exact hungUps_changeSession before _ fun _ => rfl
  | _ => rfl

theorem WriteStart.hungUps_eq {data : List UInt8} {result : Except Error Nat}
    (start : WriteStart before data after result) : after.hungUps = before.hungUps := by
  cases start with
  | queued => exact hungUps_changeSession before _ fun _ => rfl
  | _ => rfl

theorem Entry.hungUps_eq {made : Call} {task : Task} (entry : Entry before made after task) :
    after.hungUps = before.hungUps := by
  cases entry with
  | reads fits start => exact start.hungUps_eq
  | readFails fits start => exact start.hungUps_eq
  | writes start => exact start.hungUps_eq
  | configures => exact hungUps_changeSession before _ fun _ => rfl
  | _ => rfl

theorem Attended.of_move (attended : before.Attended) (orderly : before.Orderly)
    (move : Move before action exchange? after) : after.Attended := by
  cases move with
  | @enters made started changed task permitted entry =>
      have session := entry.session_eq
      rw [duty?_session, duty?_session] at session
      refine attended.of_same entry.hungUps_eq session ?_
      intro other member
      rw [addTask, entry.arrival.2.2] at member
      rcases List.mem_append.mp member with old | new
      · exact .inr old
      · cases List.mem_singleton.mp new
        cases entry <;> exact .inl rfl
  | startsRead start =>
      have session := start.session_eq
      rw [duty?_session, duty?_session] at session
      refine attended.of_same start.hungUps_eq session ?_
      rw [start.frame.2.2.1]
      exact fun _ => .inr
  | startsWrite start =>
      have signs := start.hungUps_eq
      rcases start.frame with ⟨sessions, writes, rfl⟩
      exact attended.of_same signs rfl fun _ => .inr
  | cancels => exact attended.of_same rfl rfl fun _ => .inr
  | turns stands turn => exact attended.of_tenure orderly stands turn.tasks_eq turn.tenure
  | @answered call task request replies changed next stands answer =>
      have tenure : Tenure before task changed next :=
        .keeps answer.aside.hungUps answer.aside.session (.inl (by cases answer <;> rfl))
      rcases answer.frame with ⟨-, sessions, rfl⟩
      exact attended.of_tenure orderly stands rfl tenure
  | @readerTurns number read changed stage found turn =>
      have aside : Aside before (changed.setReader number stage) := turn.aside
      rcases turn.frame with ⟨backlog, sessions, rfl⟩
      exact attended.of_same aside.hungUps aside.session fun _ => .inr
  | readerAnswered => exact attended.of_same rfl rfl fun _ => .inr
  | writerTurns found turn =>
      have aside := turn.aside
      rcases turn.frame with ⟨sessions, writes, rfl⟩
      exact attended.of_same aside.hungUps aside.session fun _ => .inr
  | writerAnswered found answer =>
      have aside := answer.aside
      rcases answer.frame with ⟨sessions, writes, rfl⟩
      exact attended.of_same aside.hungUps aside.session fun _ => .inr
  | expires stands =>
      exact attended.of_tenure orderly stands rfl (.keeps rfl rfl (.inl rfl))

end Attended

theorem attended_of_run {locator : Locator} {settings : Settings} {actions : List Action}
    {connection : Connection} (ran : (fresh locator settings).run? actions = some connection) :
    connection.Attended := by
  refine run_induction (motive := fun _ connection => connection.Attended) ⟨?_, ?_⟩ ?_ ran
  · intro number linked
    cases linked
  · intro task number member
    cases member
  intro _ _ _ _ ranBefore attended stepped
  exact attended.of_move (sound_of_run ranBefore).orderly (Move.of_step? stepped)

/-! ### Why a writer stops -/

section Stopping

variable {before after : Connection} {action : Action} {exchange? : Option Exchange} {number : Nat}

theorem Tenure.hungUp {task next : Task} (tenure : Tenure before task after next)
    (told : before.hungUps[number]? = some true) : after.hungUps[number]? = some true := by
  cases tenure with
  | keeps signs => rw [signs, told]
  | founds signs =>
      rw [signs, List.getElem?_append_left (List.getElem?_eq_some_iff.mp told).1, told]
  | installs signs => rw [signs, told]
  | takes signs =>
      rw [signs, List.getElem?_modify, told]
      simp

/-- A writer that was told to stop is not told otherwise. -/
theorem Move.hungUp (move : Move before action exchange? after)
    (told : before.hungUps[number]? = some true) : after.hungUps[number]? = some true := by
  have same (signs : after.hungUps = before.hungUps) : after.hungUps[number]? = some true := by
    rw [signs, told]
  cases move with
  | enters permitted entry => exact same entry.hungUps_eq
  | startsRead start => exact same start.hungUps_eq
  | startsWrite start => exact same start.hungUps_eq
  | cancels => exact same rfl
  | turns stands turn => exact turn.tenure.hungUp told
  | answered stands answer => exact same answer.aside.hungUps
  | readerTurns found turn => exact same turn.aside.hungUps
  | readerAnswered => exact same rfl
  | writerTurns found turn => exact same turn.aside.hungUps
  | writerAnswered found answer => exact same answer.aside.hungUps
  | expires => exact same rfl

theorem Ledger.crash_of_unwinding {settings : Settings} {writes : List Write}
    {accepted : List Acceptance} {sent : List Transmission} {queue : List Nat}
    (ledger : Ledger settings writes number accepted sent .unwinding queue) :
    ∃ transmission ∈ sent, transmission.reply = .crashed := by
  rcases ledger.divided with ⟨done, unsent, crashed, state, -, -, -, ends, desk⟩
  generalize unsent.map (·.write) = numbers at desk
  cases desk with
  | stopped dead => cases dead
  | lost dead => cases dead
  | unwinding =>
      cases ends with
      | badly _ crash => exact ⟨_, List.mem_append_right _ List.mem_cons_self, crash⟩

/-- After which turns a writer takes no more writes. -/
theorem WriterTurn.stops_for {session : Session} {stage : WriterStage} {queue : List Nat}
    (turn : WriterTurn before number session after)
    (found : before.sessions[number]? = some session)
    (here : after.desk number = some (stage, queue)) (dead : stage.hasQueue = false) :
    session.hungUp = true ∨ session.writer = .unwinding ∨ session.writer.hasQueue = false := by
  cases turn with
  | picks =>
      rw [desk_changeSession_self found] at here
      cases here
      cases dead
  | stops waiting empty hungUp => exact .inl hungUp
  | unwinds unwinding => exact .inr (.inl unwinding)
  | leaves leaving => exact .inr (.inr (by rw [leaving]; rfl))
  | leavesLast leaving => exact .inr (.inr (by rw [leaving]; rfl))

/-- A transfer does not keep a writer from taking writes; only what the writer does next may. -/
theorem WriterAnswer.stops_for {session : Session} {request : Request} {reply : request.Reply}
    {stage : WriterStage} {queue : List Nat}
    (answer : WriterAnswer before number session request reply after)
    (found : before.sessions[number]? = some session)
    (here : after.desk number = some (stage, queue)) (dead : stage.hasQueue = false) :
    session.writer.hasQueue = false := by
  cases answer with
  | @wrote write reply =>
      have there : (before.settleWrite write reply.outcome).sessions[number]? =
          some session := found
      rw [afterWrite_eq, setWriter, desk_changeSession_self there] at here
      cases here
      cases reply <;> cases dead
  | closed closing =>
      rw [closing]
      rfl

/-- A writer that takes no more writes was told to stop, or a transfer crashed. -/
theorem told_or_crashed {locator : Locator} {settings : Settings} {actions : List Action}
    {connection : Connection} (ran : (fresh locator settings).run? actions = some connection)
    {stage : WriterStage} {queue : List Nat} (here : connection.desk number = some (stage, queue))
    (dead : stage.hasQueue = false) :
    connection.hungUps[number]? = some true ∨
      ∃ transmission ∈ transmissions (eventsOf (.writer number)
        ((fresh locator settings).exchanges actions)), transmission.reply = .crashed := by
  refine run_induction (motive := fun actions connection => ∀ number stage queue,
    connection.desk number = some (stage, queue) → stage.hasQueue = false →
    connection.hungUps[number]? = some true ∨
      ∃ transmission ∈ transmissions (eventsOf (.writer number)
        ((fresh locator settings).exchanges actions)), transmission.reply = .crashed)
        (fun _ _ _ impossible => by cases impossible) ?_
    ran number stage queue here dead
  intro actions before action after ranBefore known stepped number stage queue here dead
  have move := Move.of_step? stepped
  rw [exchanges_concat ranBefore stepped, eventsOf_append, transmissions_append]
  have goesOn {was : WriterStage} {old : List Nat} (there : before.desk number = some (was, old))
      (ended : was.hasQueue = false) : after.hungUps[number]? = some true ∨
        ∃ transmission ∈ transmissions (eventsOf (.writer number)
          ((fresh locator settings).exchanges actions)) ++
          transmissions (eventsOf (.writer number) (before.exchange? action).toList),
          transmission.reply = .crashed := by
    rcases known number was old there ended with told | ⟨transmission, member, crash⟩
    · exact .inl (move.hungUp told)
    · exact .inr ⟨transmission, List.mem_append_left _ member, crash⟩
  have stays {number : Nat} (told : before.hungUps[number]? = some true) := move.hungUp told
  have ledgers := ledgers_of_run ranBefore
  have errand := move.errand
  generalize before.exchange? action = exchange? at errand goesOn ⊢
  cases errand with
  | aside desks =>
      rcases desks number with same | ⟨-, new⟩
      · exact goesOn (same ▸ here) dead
      · cases new.symm.trans here
        cases dead
  | @accepts _ _ session _ _ new there alive _ _ _ queued elsewhere =>
      by_cases own : number = session
      · subst own
        cases queued.symm.trans here
        cases alive.symm.trans dead
      · exact goesOn (elsewhere number own ▸ here) dead
  | @turns worker session _ found turn =>
      have ledger := ledgers.kept (desk_of_getElem? found)
      by_cases own : number = worker
      · subst own
        rcases turn.stops_for found here dead with told | unwinding | ended
        · exact .inl (stays (by simp [hungUps, found, told]))
        · rw [unwinding] at ledger
          rcases ledger.crash_of_unwinding with ⟨transmission, member, crash⟩
          exact .inr ⟨transmission, List.mem_append_left _ member, crash⟩
        · exact goesOn (desk_of_getElem? found) ended
      · exact goesOn ((turn.serves found ledger).elsewhere own ▸ here) dead
  | @answered worker session request replies _ found answer =>
      have ledger := ledgers.kept (desk_of_getElem? found)
      by_cases own : number = worker
      · subst own
        exact goesOn (desk_of_getElem? found) (answer.stops_for found here dead)
      · have set := (sound_of_run ranBefore).placed.set
        exact goesOn ((answer.serves set found ledger).elsewhere own ▸ here) dead

/-- An open port takes writes unless a transfer has crashed. -/
theorem startWrite_of_open {locator : Locator} {settings : Settings} {actions : List Action}
    {connection : Connection} {link : Link}
    (ran : (fresh locator settings).run? actions = some connection)
    (opened : connection.openLink? = some link)
    (intact : ∀ transmission ∈ transmissions (eventsOf (.writer link.session)
      ((fresh locator settings).exchanges actions)), transmission.reply ≠ .crashed)
    (data : List UInt8) :
    ∃ next stage queue, WriteStart connection data next (.ok connection.writes.length) ∧
      next.desk link.session = some (stage, queue ++ [connection.writes.length]) ∧
      stage.hasQueue = true := by
  have held := (openLink?_eq_some.mp opened).2
  rcases (sound_of_run ran).owned.exists_session held with ⟨session, found⟩
  have here := desk_of_getElem? found
  have alive : session.writer.hasQueue = true := by
    cases dead : session.writer.hasQueue with
    | true => rfl
    | false =>
        rcases told_or_crashed ran here dead with told | ⟨transmission, member, crash⟩
        · cases told.symm.trans ((attended_of_run ran).linked (by simp [held]))
        · exact absurd crash (intact transmission member)
  exact ⟨_, session.writer, session.queue, .queued opened found alive,
    desk_changeSession_self found _, alive⟩

end Stopping

/-! ### A write in the queue gets its turn -/

/-- How many turns of the writer there are at most until a write is settled. -/
inductive Ahead (write : Nat) : WriterStage → List Nat → Nat → Prop where
  | queued {front back} : Ahead write .waiting (front ++ write :: back) (2 * front.length + 2)
  | behind {other front back} :
      Ahead write (.writing other) (front ++ write :: back) (2 * front.length + 3)
  | sending {queue} : Ahead write (.writing write) queue 1
  | unwinding {queue} (member : write ∈ queue) : Ahead write .unwinding queue 1

section Ahead

variable {settings : Settings} {before after : Connection} {number write rank : Nat}
  {session : Session} {accepted : List Acceptance} {sent : List Transmission}

theorem exists_ahead {stage : WriterStage} {queue : List Nat} (alive : stage.hasQueue = true) :
    ∃ rank, Ahead write stage (queue ++ [write]) rank := by
  cases stage with
  | waiting => exact ⟨_, .queued⟩
  | writing other => exact ⟨_, .behind⟩
  | unwinding => exact ⟨_, .unwinding (by simp)⟩
  | _ => cases alive

theorem WriterTurn.ahead (turn : WriterTurn before number session after)
    (found : before.sessions[number]? = some session)
    (ledger : Ledger settings before.writes number accepted sent session.writer session.queue)
    (ahead : Ahead write session.writer session.queue rank) :
    (∃ result, after.resolution? write = some result) ∨
      ∃ less stage queue, less < rank ∧ after.desk number = some (stage, queue) ∧
        Ahead write stage queue less := by
  cases turn with
  | @picks first rest waiting queued =>
      have here := desk_changeSession_self found
        ({ · with queue := rest, writer := .writing first })
      rw [waiting, queued] at ahead
      generalize line : first :: rest = queue at ahead
      cases ahead with
      | @queued front back =>
          cases front with
          | nil =>
              cases line
              exact .inr ⟨1, _, _, by simp, here, .sending⟩
          | cons _ front =>
              cases line
              exact .inr ⟨_, _, _, by simp only [List.length_cons]; omega, here, .behind⟩
  | stops waiting empty =>
      rw [waiting, empty] at ahead
      generalize line : [] = queue at ahead
      cases ahead with
      | queued => simp at line
  | unwinds unwinding =>
      rw [unwinding] at ahead
      cases ahead with
      | unwinding member =>
          rcases ledger.queued (.inl member) with ⟨data, was⟩
          refine .inl ⟨.error .workerLost, ?_⟩
          change ((before.loseAll session.queue).writes[write]?).bind _ = _
          rw [loseAll_writes, if_pos member, was]
          rfl
  | leaves leaving =>
      rw [leaving] at ahead
      cases ahead
  | leavesLast leaving =>
      rw [leaving] at ahead
      cases ahead

theorem WriterAnswer.ahead {request : Request} {reply : request.Reply}
    (answer : WriterAnswer before number session request reply after)
    (found : before.sessions[number]? = some session)
    (ledger : Ledger settings before.writes number accepted sent session.writer session.queue)
    (ahead : Ahead write session.writer session.queue rank) :
    (∃ result, after.resolution? write = some result) ∨
      ∃ less stage queue, less < rank ∧ after.desk number = some (stage, queue) ∧
        Ahead write stage queue less := by
  cases answer with
  | @wrote other reply writing =>
      have there : (before.settleWrite other reply.outcome).sessions[number]? =
          some session := found
      have here := desk_changeSession_self there ({ · with writer := reply.next })
      rw [afterWrite_eq]
      have waits := @Ledger.queued _ _ _ _ _ _ _ ledger other (.inr writing)
      rw [writing] at ahead
      generalize line : session.queue = queue at ahead here
      cases ahead with
      | @behind _ front back =>
          cases reply with
          | crashed => exact .inr ⟨1, _, _, by omega, here, .unwinding (by simp)⟩
          | _ => exact .inr ⟨_, _, _, by omega, here, .queued⟩
      | sending =>
          rcases waits with ⟨data, was⟩
          refine .inl ⟨reply.result, ?_⟩
          change ((before.settleWrite write reply.outcome).writes[write]?).bind _ = _
          simp [settleWrite, changeWrite, was, BulkOut.result?_outcome]
  | closed closing =>
      rw [closing] at ahead
      cases ahead

theorem Ahead.ready {connection : Connection} {stage : WriterStage} {queue : List Nat}
    (ahead : Ahead write stage queue rank) (here : connection.desk number = some (stage, queue)) :
    connection.Ready (.writer number) := by
  rcases Option.map_eq_some_iff.mp here with ⟨session, found, at'⟩
  rcases Prod.mk.inj at' with ⟨stands, lined⟩
  cases ahead with
  | @queued front back =>
      apply ready_of_advance?
      cases front <;> simp [advance?, advanceWriter?, found, stands, lined]
  | behind =>
      apply ready_of_pending?
      simp [pending?, writerPending?, found, stands]
  | sending =>
      apply ready_of_pending?
      simp [pending?, writerPending?, found, stands]
  | unwinding =>
      apply ready_of_advance?
      simp [advance?, advanceWriter?, found, stands]

end Ahead

section Runs

variable {locator : Locator} {settings : Settings} {before after : Connection}
  {number write rank : Nat}
  {thread mover : Thread} {action : Action}

theorem Errand.desk_of_other {exchange? : Option Exchange} {desk : WriterStage × List Nat}
    (errand : Errand before action exchange? after) (acts : action.thread? = some mover)
    (other : ∀ worker, mover ≠ .writer worker) (here : before.desk number = some desk) :
    after.desk number = some desk := by
  cases errand with
  | aside desks =>
      rcases desks number with same | ⟨gone, -⟩
      · exact same.trans here
      · cases gone.symm.trans here
  | @accepts _ _ session _ _ new _ _ _ taken =>
      have accepted := taken session
      cases action <;> simp [acceptance?] at accepted <;> cases acts
  | turns =>
      cases acts
      exact absurd rfl (other _)
  | answered =>
      cases acts
      exact absurd rfl (other _)

/-- A state in which a write of a session waits for its turn. -/
structure Lined (locator : Locator) (settings : Settings) (number write rank : Nat)
    (thread : Thread) (connection : Connection) : Prop where
  reachable : Reachable locator settings connection
  worker : thread = .writer number
  ahead : ∃ stage queue, connection.desk number = some (stage, queue) ∧ Ahead write stage queue rank

theorem Lined.of_step (lined : Lined locator settings number write rank thread before)
    (acts : action.thread? = some mover) (stepped : before.step? action = some after) :
    (∃ result, after.resolution? write = some result) ∨
      (∃ less other, less < rank ∧ Lined locator settings number write less other after) ∨
        Lined locator settings number write rank thread after ∧ mover ≠ thread := by
  rcases lined with ⟨⟨actions, ran⟩, rfl, stage, queue, here, ahead⟩
  have reachable : Reachable locator settings after := Reachable.of_step? ⟨actions, ran⟩ stepped
  have ledgers := ledgers_of_run ran
  have stays (same : after.desk number = before.desk number) :
      Lined locator settings number write rank (.writer number) after :=
    ⟨reachable, rfl, stage, queue, same.trans here, ahead⟩
  have moved (progress : (∃ result, after.resolution? write = some result) ∨
      ∃ less stage queue, less < rank ∧ after.desk number = some (stage, queue) ∧
        Ahead write stage queue less) :
      (∃ result, after.resolution? write = some result) ∨
        (∃ less other, less < rank ∧ Lined locator settings number write less other after) ∨
          Lined locator settings number write rank (.writer number) after ∧
            mover ≠ .writer number := by
    rcases progress with resolved | ⟨less, stage, queue, lower, there, nearer⟩
    · exact .inl resolved
    · exact .inr (.inl ⟨less, _, lower, reachable, rfl, stage, queue, there, nearer⟩)
  have move := Move.of_step? stepped
  by_cases other : ∀ worker, mover ≠ .writer worker
  · exact .inr
      (.inr ⟨stays ((move.errand.desk_of_other acts other here).trans here.symm), other number⟩)
  generalize before.exchange? action = exchange? at move
  cases move with
  | @writerTurns worker session _ found turn =>
      cases acts
      have ledger := ledgers.kept (desk_of_getElem? found)
      by_cases own : number = worker
      · subst own
        cases (desk_of_getElem? found).symm.trans here
        exact moved (turn.ahead found ledger ahead)
      · exact .inr
          (.inr ⟨stays ((turn.serves found ledger).elsewhere own), by simpa using Ne.symm own⟩)
  | @writerAnswered worker session request replies _ found answer =>
      cases acts
      have ledger := ledgers.kept (desk_of_getElem? found)
      by_cases own : number = worker
      · subst own
        cases (desk_of_getElem? found).symm.trans here
        exact moved (answer.ahead found ledger ahead)
      · have set := (sound_of_run ran).placed.set
        exact .inr (.inr ⟨stays ((answer.serves set found ledger).elsewhere own),
          by simpa using Ne.symm own⟩)
  | turns | answered | readerTurns | readerAnswered | expires =>
      cases acts
      exact absurd nofun other
  | _ => cases acts

/-- In a fair run a write that waits for its turn is settled. -/
theorem FairRun.write_settled {start : Connection} {run : Nat → Connection}
    {course : Nat → Option Action} (fair : FairRun start run course)
    (lined : Lined locator settings number write rank (.writer number) start) :
    ∃ time result, (run time).resolution? write = some result := by
  rw [← fair.begins] at lined
  refine @FairRun.eventually start run course
    (fun rank thread connection => Lined locator settings number write rank thread connection)
    (fun connection => ∃ result, connection.resolution? write = some result) fair ?_ Lined.of_step
    rank _ 0 lined
  rintro rank thread connection ⟨-, rfl, stage, queue, here, ahead⟩
  exact ⟨ahead.ready here, nofun⟩

end Runs

end Connection

end CdcSerial
