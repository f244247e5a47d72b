import CdcSerial.Proofs.Connection.Lanes
import CdcSerial.Proofs.Connection.Opening
import CdcSerial.Proofs.Connection.Serving

/-!
# Tickets come back

A call that configures the line has a ticket of the session until it has given its clone back, and a
call that closes the port waits for the last ticket. Its transfers wait for the control lane, which
another configuring call may have. Whoever has the lane is in the middle of a transfer, so the lane
comes free when the bus answers.

`Debts` counts the steps that the callers with tickets still have to take. No turn makes them more,
and each turn of such a caller makes them fewer. At any time the caller that has the lane can go on,
and if nobody has it, then any of them. So in a fair run all tickets come back, and closing ends
whatever else goes on.
-/

namespace CdcSerial

theorem LineCommand.sendAll_within (handle : Handle) (timeout : Duration)
    (commands : List LineCommand) :
    (sendAll handle timeout commands).Within (3 * commands.length) := by
  induction commands with
  | nil => exact .done
  | cons command rest ih =>
      change Procedure.Within _ (3 * rest.length + 2 + 1)
      apply Procedure.Within.say
      apply Procedure.Within.call
      intro reply
      cases reply with
      | ok count => exact ih
      | error status => exact .done

/-- The session of which a caller has a ticket. -/
def Task.ticket? : Task → Option Nat
  | .configuring session _ _ => some session
  | .returningClone session _ _ => some session
  | .returningTicket session _ _ => some session
  | _ => none

/-- A bound for the steps that a caller takes until it has no ticket. -/
inductive Task.Owes : Task → Nat → Prop where
  | configuring {session line run steps} (short : run.Within steps) :
      Owes (.configuring session line run) (steps + 3)
  | returningClone {session line result} : Owes (.returningClone session line result) 2
  | returningTicket {session line result} : Owes (.returningTicket session line result) 1
  | nothing {task} (free : task.ticket? = none) : Owes task 0

/-- The same for all callers together. -/
inductive Debts : List Task → Nat → Prop where
  | nil : Debts [] 0
  | cons {task tasks due rest} (owes : task.Owes due) (debts : Debts tasks rest) :
      Debts (task :: tasks) (due + rest)

/-- That a caller owes no more than before, and less if it had a ticket. -/
structure Task.Pays (task next : Task) : Prop where
  lowers : ∀ {due}, task.Owes due →
    ∃ less, next.Owes less ∧ less ≤ due ∧ (task.ticket?.isSome → less < due)

section Debts

variable {tasks : List Task} {task next : Task} {total : Nat}

theorem Task.Pays.of_free (had : task.ticket? = none) (has : next.ticket? = none) :
    task.Pays next :=
  ⟨fun _ => ⟨0, .nothing has, Nat.zero_le _, by simp [had]⟩⟩

theorem Task.Owes.free (owes : task.Owes 0) : task.ticket? = none := by
  cases owes with
  | nothing free => exact free

theorem Task.Pays.free (pays : task.Pays next) (had : task.ticket? = none) :
    next.ticket? = none := by
  rcases pays.lowers (.nothing had) with ⟨less, owes, atMost, -⟩
  cases Nat.le_zero.mp atMost
  exact owes.free

theorem Debts.set {place : Nat} (debts : Debts tasks total) (stands : tasks[place]? = some task)
    (pays : task.Pays next) :
    ∃ less, Debts (tasks.set place next) less ∧ less ≤ total ∧
      (task.ticket?.isSome → less < total) := by
  induction debts generalizing place with
  | nil => cases stands
  | @cons first rest due more owes debts ih =>
      cases place with
      | zero =>
          cases stands
          rcases pays.lowers owes with ⟨less, owesLess, atMost, fewer⟩
          exact ⟨less + more, .cons owesLess debts, by omega,
            fun had => by have := fewer had; omega⟩
      | succ place =>
          rcases ih stands with ⟨less, debtsLess, atMost, fewer⟩
          exact ⟨due + less, .cons owes debtsLess, by omega, fun had => by have := fewer had; omega⟩

theorem Debts.concat {due : Nat} (debts : Debts tasks total) (owes : task.Owes due) :
    ∃ more, Debts (tasks ++ [task]) more := by
  induction debts with
  | nil => exact ⟨_, .cons owes .nil⟩
  | cons first debts ih =>
      rcases ih with ⟨more, further⟩
      exact ⟨_, .cons first further⟩

end Debts

namespace Connection

/-! ### What callers owe -/

/-- What an action makes of the callers. -/
inductive Hands (tasks : List Task) : Option Thread → List Task → Prop where
  | stay {thread?} (worker : ∀ call, thread? ≠ some (.call call)) : Hands tasks thread? tasks
  | enters {task due} (owes : task.Owes due) : Hands tasks none (tasks ++ [task])
  | turns {call task next} (stands : tasks[call]? = some task) (pays : task.Pays next) :
      Hands tasks (some (.call call)) (tasks.set call next)

section Owing

variable {before after : Connection} {call : Nat} {task next : Task}

theorem afterTicket_ticket? (line : Option LineConfig) (result : Except Error Unit) :
    (afterTicket line result).ticket? = none := by
  unfold afterTicket
  split
  · rfl
  · cases result <;> rfl

theorem Turn.pays (turn : Turn before call task after next) : task.Pays next := by
  cases turn with
  | configures progress =>
      constructor
      intro due owes
      cases owes with
      | configuring short =>
          rcases Running.Within.of_progress short progress with ⟨less, lower, further⟩
          exact ⟨less + 3, .configuring further, by omega, fun _ => by omega⟩
      | nothing free => cases free
  | configured =>
      constructor
      intro due owes
      cases owes with
      | configuring short => exact ⟨2, .returningClone, by omega, fun _ => by omega⟩
      | nothing free => cases free
  | returnsClone =>
      constructor
      intro due owes
      cases owes with
      | returningClone => exact ⟨1, .returningTicket, by omega, fun _ => by omega⟩
      | nothing free => cases free
  | returnsTicket =>
      constructor
      intro due owes
      cases owes with
      | returningTicket =>
          exact ⟨0, .nothing (afterTicket_ticket? _ _), by omega, fun _ => by omega⟩
      | nothing free => cases free
  | fetchesWrite found ended =>
      rcases writeEnding?_eq_some ended with ⟨result, rfl⟩
      exact Task.Pays.of_free rfl rfl
  | _ => exact Task.Pays.of_free rfl rfl

theorem CallAnswer.pays {request : Request} {reply : request.Reply}
    (answer : CallAnswer before call task request reply after next) : task.Pays next := by
  cases answer with
  | configuring =>
      constructor
      intro due owes
      cases owes with
      | configuring short =>
          cases short with
          | asking rest =>
              exact ⟨_, .configuring (.resting (rest reply)), by omega, fun _ => by omega⟩
      | nothing free => cases free
  | _ => exact Task.Pays.of_free rfl rfl

theorem Entry.owes {made : Call} (entry : Entry before made after task) : ∃ due, task.Owes due := by
  cases entry with
  | configures => exact ⟨_, .configuring (.resting (LineCommand.sendAll_within _ _ _))⟩
  | _ => exact ⟨0, .nothing rfl⟩

theorem Move.hands {action : Action} {exchange? : Option Exchange}
    (move : Move before action exchange? after) :
    Hands before.tasks action.thread? after.tasks := by
  cases move with
  | @enters made started changed task permitted entry =>
      rcases entry.owes with ⟨due, owes⟩
      rw [addTask, entry.arrival.2.2]
      exact .enters owes
  | startsRead start =>
      rw [start.frame.2.2.1]
      exact .stay (by simp [Action.thread?])
  | startsWrite start =>
      rcases start.frame with ⟨sessions, writes, rfl⟩
      exact .stay (by simp [Action.thread?])
  | cancels => exact .stay (by simp [Action.thread?])
  | turns stands turn =>
      rw [setTask, turn.tasks_eq]
      exact .turns stands turn.pays
  | answered stands answer =>
      have pays := answer.pays
      rcases answer.frame with ⟨-, sessions, rfl⟩
      exact .turns stands pays
  | readerTurns found turn =>
      rcases turn.frame with ⟨backlog, sessions, rfl⟩
      exact .stay (by simp [Action.thread?])
  | readerAnswered => exact .stay (by simp [Action.thread?])
  | writerTurns found turn =>
      rcases turn.frame with ⟨sessions, writes, rfl⟩
      exact .stay (by simp [Action.thread?])
  | writerAnswered found answer =>
      rcases answer.frame with ⟨sessions, writes, rfl⟩
      exact .stay (by simp [Action.thread?])
  | @expires call number deadline read stands =>
      have pays : Task.Pays (.awaitingReader number deadline) (.reverting deadline) :=
        Task.Pays.of_free rfl rfl
      exact .turns stands pays

end Owing

theorem exists_debts {locator : Locator} {settings : Settings} {connection : Connection}
    (reachable : Reachable locator settings connection) :
    ∃ total, Debts connection.tasks total := by
  rcases reachable with ⟨actions, ran⟩
  refine run_induction (motive := fun _ connection => ∃ total, Debts connection.tasks total)
    ⟨0, .nil⟩ ?_ ran
  rintro _ before action after _ ⟨total, debts⟩ stepped
  have hands := (Move.of_step? stepped).hands
  generalize action.thread? = thread?, after.tasks = tasks at hands
  cases hands with
  | stay => exact ⟨total, debts⟩
  | enters owes => exact debts.concat owes
  | turns stands pays =>
      rcases debts.set stands pays with ⟨less, further, -⟩
      exact ⟨less, further⟩

/-! ### Whoever has the lane is in the middle of a transfer -/

/-- A call that a session names as the one on its control lane has a transfer in progress there. -/
structure Staffed (connection : Connection) : Prop where
  staffed : ∀ {number call : Nat}, connection.lanes[number]? = some (some call) →
    ∃ line request next, connection.tasks[call]? =
      some (.configuring number line ⟨.call request next, true⟩)

section Staffed

variable {before after : Connection}

theorem Turn.not_asking {call number : Nat} {line : Option LineConfig} {request : Request}
    {rest : request.Reply → Procedure (Except Error Unit)} {next : Task} :
    ¬Turn before call (.configuring number line ⟨.call request rest, true⟩) after next := by
  intro turn
  cases turn with
  | configures progress => cases progress

/--
What a turn of a caller does to the lanes: a new session has a free one, or a free one is taken.
-/
inductive LaneShift (before : List (Option Nat)) (call : Nat) :
    Task → Task → List (Option Nat) → Prop where
  | grows {task next more} (free : ∀ lane ∈ more, lane = none) :
      LaneShift before call task next (before ++ more)
  | takes {number line request rest} (free : before[number]? = some none) :
      LaneShift before call (.configuring number line ⟨.call request rest, false⟩)
        (.configuring number line ⟨.call request rest, true⟩)
          (before.modify number fun _ => some call)

theorem Turn.laneShift {call : Nat} {task next : Task} (turn : Turn before call task after next) :
    LaneShift before.lanes call task next after.lanes := by
  have same (lanes : after.lanes = before.lanes) :
      LaneShift before.lanes call task next after.lanes := by
    rw [lanes]
    simpa using @LaneShift.grows before.lanes call task next [] (by simp)
  cases turn with
  | lists progress =>
      rcases progress.only_tells with ⟨journal, rfl⟩
      exact same rfl
  | opens progress =>
      rcases progress.only_tells with ⟨journal, rfl⟩
      exact same rfl
  | releases progress =>
      rcases progress.only_tells with ⟨journal, rfl⟩
      exact same rfl
  | configures progress =>
      cases progress with
      | tells => exact same rfl
      | begins free =>
          have vacant := lanes_of_takeLane? free
          cases takeLane?_eq_some free
          rw [lanes_setLane]
          exact .takes vacant
  | @reached address config handle begun =>
      have grown : lanes { before with sessions := before.sessions ++ [newSession handle] } =
          before.lanes ++ [none] := by
        simp [lanes, newSession]
      rw [grown]
      exact .grows (by simp)
  | returnsClone => exact same (lanes_changeSession before _ fun _ => rfl)
  | returnsTicket => exact same (lanes_changeSession before _ fun _ => rfl)
  | takesLink => exact same (lanes_changeSession _ _ fun _ => rfl)
  | regains => exact same (lanes_changeSession before _ fun _ => rfl)
  | findsOwners => exact same (lanes_changeSession before _ fun _ => rfl)
  | _ => exact same rfl

theorem Move.lanes_of_worker {action : Action} {exchange? : Option Exchange}
    (move : Move before action exchange? after)
    (worker : ∀ call, action.thread? ≠ some (.call call)) :
    after.lanes = before.lanes := by
  cases move with
  | enters permitted entry => exact entry.lanes_eq
  | startsRead start => exact start.lanes_eq
  | startsWrite start => exact start.lanes_eq
  | cancels => rfl
  | turns => exact absurd rfl (worker _)
  | answered => exact absurd rfl (worker _)
  | readerTurns found turn => exact turn.lanes_eq
  | readerAnswered => rfl
  | writerTurns found turn => exact turn.lanes_eq
  | writerAnswered found answer => exact answer.lanes_eq
  | expires => rfl

theorem Staffed.of_move {action : Action} {exchange? : Option Exchange} (staffed : before.Staffed)
    (move : Move before action exchange? after) : after.Staffed := by
  constructor
  intro number call named
  have kept (lane : before.lanes[number]? = some (some call))
      (other : action.thread? ≠ some (.call call)) :
      ∃ line request next, after.tasks[call]? =
        some (.configuring number line ⟨.call request next, true⟩) := by
    rcases staffed.staffed lane with ⟨line, request, next, stands⟩
    exact ⟨line, request, next, move.stands_of_other stands other⟩
  by_cases worker : ∀ call, action.thread? ≠ some (.call call)
  · exact kept (move.lanes_of_worker worker ▸ named) (worker call)
  cases move with
  | @turns mover task changed next stands turn =>
      have shift := turn.laneShift
      change changed.lanes[number]? = some (some call) at named
      generalize changed.lanes = lanes at shift named
      cases shift with
      | grows free =>
          have lane := getElem?_of_grown (fun taken => by cases free _ taken) named
          refine kept lane ?_
          rintro ⟨⟩
          rcases staffed.staffed lane with ⟨line, request, rest, asking⟩
          cases asking.symm.trans stands
          exact turn.not_asking
      | @takes taken line request rest free =>
          rw [List.getElem?_modify] at named
          by_cases here : taken = number
          · subst here
            have own : mover = call := by simpa [free] using named
            subst own
            exact ⟨line, request, rest, setTask_getElem?_self (turn.tasks_eq ▸ stands) _⟩
          · have lane : before.lanes[number]? = some (some call) := by simpa [here] using named
            refine kept lane ?_
            rintro ⟨⟩
            rcases staffed.staffed lane with ⟨_, _, _, asking⟩
            cases asking.symm.trans stands
  | @answered mover task request replies changed next stands answer =>
      have elsewhere (lane : before.lanes[number]? = some (some call))
          (apart : ∀ line run, task ≠ .configuring number line run) :
          some (Thread.call mover) ≠ some (.call call) := by
        rintro ⟨⟩
        rcases staffed.staffed lane with ⟨line, request, rest, asking⟩
        exact apart _ _ (Option.some.inj (stands.symm.trans asking))
      cases answer with
      | @configuring session line request rest reply =>
          change (before.setLane session none).lanes[number]? = some (some call) at named
          rw [lanes_setLane, List.getElem?_modify] at named
          have here : session ≠ number := by
            rintro rfl
            cases found : before.lanes[session]? <;> simp [found] at named
          have lane : before.lanes[number]? = some (some call) := by simpa [here] using named
          refine kept lane (elsewhere lane ?_)
          rintro line run ⟨⟩
          exact here rfl
      | _ => exact kept named (elsewhere named nofun)
  | @expires mover read deadline record stands =>
      refine kept named ?_
      rintro ⟨⟩
      rcases staffed.staffed named with ⟨line, request, rest, asking⟩
      cases asking.symm.trans stands
  | _ => exact absurd nofun worker

end Staffed

theorem staffed_of_run {locator : Locator} {settings : Settings} {connection : Connection}
    (reachable : Reachable locator settings connection) : connection.Staffed := by
  rcases reachable with ⟨actions, ran⟩
  refine run_induction (motive := fun _ connection => connection.Staffed) ⟨?_⟩ ?_ ran
  · intro number call named
    cases named
  intro _ _ _ _ _ staffed stepped
  exact staffed.of_move (Move.of_step? stepped)

/-! ### Who can go on -/

/-- That nobody has a ticket. -/
def TicketFree (connection : Connection) : Prop := ∀ task ∈ connection.tasks, task.ticket? = none

/-- That a caller has a ticket of a session, and no other caller has the lane of the session. -/
structure Engaged (connection : Connection) (number call : Nat) : Prop where
  holds : ∃ task, connection.tasks[call]? = some task ∧ task.ticket? = some number
  lane : connection.lanes[number]? = some none ∨ connection.lanes[number]? = some (some call)

section Engaged

variable {before after connection : Connection} {number call : Nat}

theorem exists_session_of_ticket {task : Task} (owned : connection.Owned)
    (stands : connection.tasks[call]? = some task) (holds : task.ticket? = some number) :
    ∃ session, connection.sessions[number]? = some session := by
  have member := List.mem_of_getElem? stands
  have counted {stake : Stake} (has : task.stake = stake) : 0 < connection.stakeCount stake :=
    List.countP_pos_iff.mpr ⟨task, member, decide_eq_true has⟩
  have held :
      0 < connection.stakeCount (.clone number) + connection.stakeCount (.ticket number) := by
    cases task with
    | configuring =>
        cases holds
        exact Nat.add_pos_left (counted rfl) _
    | returningClone =>
        cases holds
        exact Nat.add_pos_left (counted rfl) _
    | returningTicket =>
        cases holds
        exact Nat.add_pos_right _ (counted rfl)
    | _ => cases holds
  exact exists_session_of_pos (owned.right number) (by omega)

theorem Engaged.ready (engaged : connection.Engaged number call) (owned : connection.Owned)
    (staffed : connection.Staffed) : connection.Ready (.call call) := by
  rcases engaged.holds with ⟨task, stands, holds⟩
  rcases exists_session_of_ticket owned stands holds with ⟨session, found⟩
  cases task with
  | configuring home line run =>
      cases holds
      rcases run with ⟨procedure, begun⟩
      cases procedure with
      | done result =>
          apply ready_of_advance?
          simp [advance?, advanceCall?, advanceRun, stands]
      | say message next =>
          apply ready_of_advance?
          simp [advance?, advanceCall?, advanceRun, stands]
      | call request next =>
          cases begun with
          | true =>
              apply ready_of_pending?
              simp [pending?, callPending?, runPending?, stands]
          | false =>
              apply ready_of_advance?
              rcases engaged.lane with free | mine
              · have vacant : session.lane = none := by simpa [lanes, found] using free
                simp [advance?, advanceCall?, advanceRun, stands, takeLane?, found, vacant]
              · rcases staffed.staffed mine with ⟨_, _, _, asking⟩
                cases asking.symm.trans stands
  | returningClone =>
      apply ready_of_advance?
      simp [advance?, advanceCall?, stands]
  | returningTicket =>
      apply ready_of_advance?
      simp [advance?, advanceCall?, stands]
  | _ => cases holds

/-- As long as somebody has a ticket, somebody with a ticket can go on. -/
theorem ticketFree_or_engaged (owned : connection.Owned) (staffed : connection.Staffed) :
    connection.TicketFree ∨ ∃ number call, connection.Engaged number call := by
  by_cases free : connection.TicketFree
  · exact .inl free
  · simp only [TicketFree, not_forall] at free
    rcases free with ⟨task, member, has⟩
    rcases Option.ne_none_iff_exists'.mp has with ⟨number, holds⟩
    rcases List.getElem?_of_mem member with ⟨call, stands⟩
    rcases exists_session_of_ticket owned stands holds with ⟨session, found⟩
    refine .inr ⟨number, ?_⟩
    cases lane : session.lane with
    | none => exact ⟨call, ⟨task, stands, holds⟩, .inl (by simp [lanes, found, lane])⟩
    | some other =>
        have named : connection.lanes[number]? = some (some other) := by simp [lanes, found, lane]
        rcases staffed.staffed named with ⟨line, request, next, asking⟩
        exact ⟨other, ⟨_, asking, rfl⟩, .inr named⟩

/-- A step of somebody without a ticket leaves the lanes as they are. -/
theorem Move.lane_of_free {action : Action} {exchange? : Option Exchange} {lane : Option Nat}
    (move : Move before action exchange? after)
    (free : ∀ {mover task}, action.thread? = some (.call mover) → before.tasks[mover]? = some task →
      task.ticket? = none)
    (found : before.lanes[number]? = some lane) : after.lanes[number]? = some lane := by
  by_cases worker : ∀ call, action.thread? ≠ some (.call call)
  · rw [move.lanes_of_worker worker, found]
  cases move with
  | @turns mover task changed next stands turn =>
      have shift := turn.laneShift
      change changed.lanes[number]? = some lane
      generalize changed.lanes = lanes at shift
      cases shift with
      | grows =>
          rw [List.getElem?_append_left (List.getElem?_eq_some_iff.mp found).1, found]
      | takes => cases free rfl stands
  | answered stands answer =>
      cases answer with
      | configuring => cases free rfl stands
      | _ => exact found
  | expires => exact found
  | _ => exact absurd nofun worker

end Engaged

/-! ### Fair runs -/

section Runs

variable {locator : Locator} {settings : Settings} {before after : Connection} {action : Action}
  {mover thread : Thread} {rank : Nat}

/-- A state in which somebody has a ticket, with a bound for the turns until nobody has one. -/
structure Encumbered (locator : Locator) (settings : Settings) (rank : Nat) (thread : Thread)
    (connection : Connection) : Prop where
  reachable : Reachable locator settings connection
  debts : Debts connection.tasks rank
  engaged : ∃ number call, thread = .call call ∧ connection.Engaged number call

theorem Encumbered.ready {connection : Connection}
    (encumbered : Encumbered locator settings rank thread connection) :
    connection.Ready thread ∧ ∀ number, thread ≠ .reader number := by
  rcases encumbered.engaged with ⟨number, call, rfl, engaged⟩
  rcases encumbered.reachable with ⟨actions, ran⟩
  exact ⟨engaged.ready (sound_of_run ran).owned (staffed_of_run ⟨actions, ran⟩), nofun⟩

theorem Encumbered.of_step (encumbered : Encumbered locator settings rank thread before)
    (acts : action.thread? = some mover) (stepped : before.step? action = some after) :
    after.TicketFree ∨ (∃ less other, less < rank ∧ Encumbered locator settings less other after) ∨
      Encumbered locator settings rank thread after ∧ mover ≠ thread := by
  have move := Move.of_step? stepped
  have reachable : Reachable locator settings after := encumbered.reachable.of_step? stepped
  have lowers {less : Nat} (debts : Debts after.tasks less) (lower : less < rank) :
      after.TicketFree ∨ ∃ less other, less < rank ∧
        Encumbered locator settings less other after := by
    rcases reachable with ⟨actions, ran⟩
    rcases ticketFree_or_engaged (sound_of_run ran).owned (staffed_of_run ⟨actions, ran⟩) with
      free | ⟨number, call, engaged⟩
    · exact .inl free
    · exact .inr ⟨less, .call call, lower, ⟨actions, ran⟩, debts, number, call, rfl, engaged⟩
  rcases encumbered.engaged with ⟨number, call, rfl, ⟨task, stands, holds⟩, lane⟩
  have stays (other : mover ≠ .call call) (debts : Debts after.tasks rank)
      (free : ∀ {mover task}, action.thread? = some (.call mover) →
        before.tasks[mover]? = some task → task.ticket? = none) :
      Encumbered locator settings rank (.call call) after := by
    refine ⟨reachable, debts, number, call, rfl, ⟨task, ?_, holds⟩, ?_⟩
    · exact move.stands_of_other stands (by simpa [acts] using other)
    · exact lane.imp (move.lane_of_free free) (move.lane_of_free free)
  have hands := move.hands
  rw [acts] at hands
  generalize ended : after.tasks = tasks at hands
  cases hands with
  | stay worker =>
      have other : mover ≠ .call call := fun own => worker call (congrArg some own)
      refine .inr (.inr ⟨stays other (ended ▸ encumbered.debts) ?_, other⟩)
      intro mover task own
      exact absurd (acts ▸ own) (worker mover)
  | @turns turner held next there pays =>
      rcases encumbered.debts.set there pays with ⟨less, debts, atMost, fewer⟩
      rw [← ended] at debts
      cases has : held.ticket? with
      | some session =>
          rcases lowers debts (fewer (by simp [has])) with free | lower
          · exact .inl free
          · exact .inr (.inl lower)
      | none =>
          rcases Nat.eq_or_lt_of_le atMost with rfl | lower
          · have other : Thread.call turner ≠ .call call := by
              rintro ⟨⟩
              cases stands.symm.trans there
              cases has.symm.trans holds
            refine .inr (.inr ⟨stays other debts ?_, other⟩)
            intro mover task own stood
            cases acts.symm.trans own
            cases there.symm.trans stood
            exact has
          · rcases lowers debts lower with free | lower
            · exact .inl free
            · exact .inr (.inl lower)

theorem TicketFree.of_step (free : before.TicketFree) (acts : action.thread? = some mover)
    (stepped : before.step? action = some after) : after.TicketFree := by
  have hands := (Move.of_step? stepped).hands
  rw [acts] at hands
  intro task member
  generalize after.tasks = tasks at hands member
  cases hands with
  | stay => exact free task member
  | turns stands pays =>
      rcases List.mem_or_eq_of_mem_set member with old | rfl
      · exact free task old
      · exact pays.free (free _ (List.mem_of_getElem? stands))

theorem TicketFree.ticketHolders_eq_zero {connection : Connection} (free : connection.TicketFree)
    (number : Nat) : connection.ticketHolders number = 0 := by
  have unclaimed {task : Task} (member : task ∈ connection.tasks) :
      task.stake ≠ .clone number ∧ task.stake ≠ .ticket number := by
    have ticketless := free task member
    cases task with
    | configuring | returningClone | returningTicket => cases ticketless
    | _ => exact ⟨nofun, nofun⟩
  have clones : connection.stakeCount (.clone number) = 0 :=
    List.countP_eq_zero.mpr fun task member => by simpa using (unclaimed member).1
  have tickets : connection.stakeCount (.ticket number) = 0 :=
    List.countP_eq_zero.mpr fun task member => by simpa using (unclaimed member).2
  rw [ticketHolders, clones, tickets]

variable {start : Connection} {run : Nat → Connection} {course : Nat → Option Action}

/-- What every turn of a thread keeps holds at all later times of a fair run. -/
theorem FairRun.keeps {Holds : Connection → Prop} (fair : FairRun start run course)
    (step : ∀ {before after action mover}, Holds before → action.thread? = some mover →
      before.step? action = some after → Holds after)
    {time : Nat} (holds : Holds (run time)) (waiting : Nat) : Holds (run (time + waiting)) := by
  induction waiting with
  | zero => exact holds
  | succ waiting ih =>
      cases acts : course (time + waiting) with
      | none =>
          rw [← Nat.add_assoc, fair.rests acts]
          exact ih
      | some action =>
          rcases Option.isSome_iff_exists.mp (fair.turns acts) with ⟨mover, turn⟩
          exact step ih turn (fair.steps acts)

theorem FairRun.reachable (fair : FairRun start run course)
    (reached : Reachable locator settings start) (time : Nat) :
    Reachable locator settings (run time) := by
  have keeps := @FairRun.keeps start run course (Reachable locator settings) fair
    (fun reached _ stepped => reached.of_step? stepped) 0 (by rwa [fair.begins]) time
  rwa [Nat.zero_add] at keeps

/-- In a fair run all tickets come back. -/
theorem FairRun.tickets_return (fair : FairRun start run course)
    (reached : Reachable locator settings start) : ∃ time, (run time).TicketFree := by
  rcases reached with ⟨actions, ran⟩
  rw [← fair.begins] at ran
  rcases exists_debts ⟨actions, ran⟩ with ⟨total, debts⟩
  rcases ticketFree_or_engaged (sound_of_run ran).owned (staffed_of_run ⟨actions, ran⟩) with
    free | ⟨number, call, engaged⟩
  · exact ⟨0, free⟩
  · exact fair.eventually Encumbered.ready Encumbered.of_step
      (⟨⟨actions, ran⟩, debts, number, call, rfl, engaged⟩ :
        Encumbered locator settings total (.call call) (run 0))

/-! ### Configuring among others -/

section Configuring

variable {call : Nat}

/-- The points of a call that configures the line. -/
inductive Configuring : Task → Prop where
  | busy {task session} (holds : task.ticket? = some session) : Configuring task
  | recording {line} : Configuring (.recording line)
  | returned {result} : Configuring (.finished (.returned result))

theorem Configuring.afterTicket (line : Option LineConfig) (result : Except Error Unit) :
    Configuring (afterTicket line result) := by
  unfold Connection.afterTicket
  split
  · exact .recording
  · cases result <;> exact .returned

theorem Configuring.of_step {task : Task} (configuring : Configuring task)
    (stands : before.tasks[call]? = some task) (stepped : before.step? action = some after) :
    ∃ next, after.tasks[call]? = some next ∧ Configuring next := by
  have fate := (Move.of_step? stepped).fate stands
  generalize before.exchange? action = exchange? at fate
  cases fate with
  | stays stays => exact ⟨task, stays, configuring⟩
  | @turns changed next turn =>
      refine ⟨next, setTask_getElem?_self (turn.tasks_eq ▸ stands) next, ?_⟩
      cases turn with
      | configures => exact .busy rfl
      | configured => exact .busy rfl
      | returnsClone => exact .busy rfl
      | returnsTicket => exact .afterTicket _ _
      | records => exact .returned
      | _ =>
          cases configuring with
          | busy holds => cases holds
  | @answered request reply changed next answer =>
      have tasks : changed.tasks = before.tasks := by
        rcases answer.frame with ⟨-, sessions, rfl⟩
        rfl
      refine ⟨next, setTask_getElem?_self (tasks ▸ stands) next, ?_⟩
      cases answer with
      | configuring => exact .busy rfl
      | _ =>
          cases configuring with
          | busy holds => cases holds
  | expires stopping =>
      cases configuring with
      | busy holds => cases task <;> simp [Task.ticket?, Task.part] at holds stopping
      | recording => cases stopping
      | returned => cases stopping

/-- The last step of a call that configures the line. -/
theorem Move.returned_of_recording {exchange? : Option Exchange} {line : LineConfig}
    (move : Move before action exchange? after) (own : action.thread? = some (.call call))
    (stands : before.tasks[call]? = some (.recording line)) :
    after.tasks[call]? = some (Task.succeeded .done) := by
  cases move with
  | turns stood turn =>
      cases own
      cases stands.symm.trans stood
      cases turn with
      | records => exact @setTask_getElem?_self (before.recordLine line) call _ stood _
  | answered stood answer =>
      cases own
      cases stands.symm.trans stood
      cases answer
  | expires stood =>
      cases own
      cases stands.symm.trans stood
  | _ => cases own

/-- In a fair run a call that configures the line returns. -/
theorem FairRun.configuring_returns (fair : FairRun start run course)
    (reached : Reachable locator settings start) {task : Task}
    (stands : start.tasks[call]? = some task) (configuring : Configuring task) :
    ∃ time result, (run time).tasks[call]? = some (.finished (.returned result)) := by
  rcases fair.tickets_return reached with ⟨time, free⟩
  have keeps := @FairRun.keeps start run course
    (fun connection => ∃ task, connection.tasks[call]? = some task ∧ Configuring task) fair
    (fun ⟨task, stands, configuring⟩ _ stepped => configuring.of_step stands stepped) 0
    (by rw [fair.begins]; exact ⟨task, stands, configuring⟩) time
  rw [Nat.zero_add] at keeps
  rcases keeps with ⟨task, stands, configuring⟩
  cases configuring with
  | busy holds => cases (free _ (List.mem_of_getElem? stands)).symm.trans holds
  | returned => exact ⟨time, _, stands⟩
  | @recording line =>
      obtain ⟨later, action, acts, own, waits⟩ := @takes_turn start run course fair (.call call)
        (fun connection => connection.tasks[call]? = some (.recording line)) (fun _ => nofun)
        (fun stands => ready_of_advance? (by simp [advance?, advanceCall?, stands]))
        (fun stands other stepped => (Move.of_step? stepped).stands_of_other stands other)
          time stands
      exact ⟨later + 1, _, (Move.of_step? (fair.steps acts)).returned_of_recording own waits⟩

end Configuring

/-! ### Closing among others -/

variable {reading : Bool} {call : Nat}

/-- A call that closes the port, and nobody has a ticket. -/
structure Departing (locator : Locator) (settings : Settings) (reading : Bool) (call rank : Nat)
    (thread : Thread) (connection : Connection) : Prop where
  reachable : Reachable locator settings connection
  free : connection.TicketFree
  leaving : Leaving settings reading call connection rank thread

theorem Departing.ready {connection : Connection}
    (departing : Departing locator settings reading call rank thread connection) :
    connection.Ready thread ∧ ∀ number, thread ≠ .reader number := by
  rcases departing.reachable with ⟨actions, ran⟩
  refine ⟨departing.leaving.ready (sound_of_run ran).owned fun number _ =>
    departing.free.ticketHolders_eq_zero number, ?_⟩
  rintro number rfl
  rcases departing.leaving.thread_eq with own | ⟨other, writes⟩
  · cases own
  · cases writes

theorem Departing.of_step (departing : Departing locator settings reading call rank thread before)
    (acts : action.thread? = some mover) (stepped : before.step? action = some after) :
    Left settings reading call after ∨
      (∃ less other, less < rank ∧ Departing locator settings reading call less other after) ∨
        Departing locator settings reading call rank thread after ∧ mover ≠ thread := by
  rcases departing.reachable with ⟨actions, ran⟩
  have reachable : Reachable locator settings after := Reachable.of_step? ⟨actions, ran⟩ stepped
  have free := departing.free.of_step acts stepped
  rcases departing.leaving.of_move (sound_of_run ran) (Move.of_step? stepped) acts with
    left | ⟨less, other, lower, leaving⟩ | ⟨leaving, apart⟩
  · exact .inl left
  · exact .inr (.inl ⟨less, other, lower, reachable, free, leaving⟩)
  · exact .inr (.inr ⟨⟨reachable, free, leaving⟩, apart⟩)

/-- A call that closes the port is on its way until it has left. -/
theorem FairRun.leaving_or_left (fair : FairRun start run course)
    (reached : Reachable locator settings start)
    (leaving : ∃ rank thread, Leaving settings reading call start rank thread) (time : Nat) :
    (∃ earlier, Left settings reading call (run earlier)) ∨
      ∃ rank thread, Leaving settings reading call (run time) rank thread := by
  induction time with
  | zero =>
      rw [fair.begins]
      exact .inr leaving
  | succ time ih =>
      rcases ih with left | ⟨rank, thread, leaving⟩
      · exact .inl left
      · cases acts : course time with
        | none =>
            rw [fair.rests acts]
            exact .inr ⟨rank, thread, leaving⟩
        | some action =>
            rcases Option.isSome_iff_exists.mp (fair.turns acts) with ⟨mover, turn⟩
            rcases fair.reachable reached time with ⟨actions, ran⟩
            rcases leaving.of_move (sound_of_run ran) (Move.of_step? (fair.steps acts)) turn with
              left | ⟨less, other, -, further⟩ | ⟨further, -⟩
            · exact .inl ⟨time + 1, left⟩
            · exact .inr ⟨less, other, further⟩
            · exact .inr ⟨rank, thread, further⟩

/-- Closing comes to an end, whoever else uses the port. -/
theorem FairRun.leaves (fair : FairRun start run course)
    (reached : Reachable locator settings start)
    (leaving : ∃ rank thread, Leaving settings reading call start rank thread) :
    ∃ time, Left settings reading call (run time) := by
  rcases fair.tickets_return reached with ⟨time, free⟩
  rcases fair.leaving_or_left reached leaving time with left | ⟨rank, thread, leaving⟩
  · exact left
  · exact fair.eventually Departing.ready Departing.of_step
      (⟨fair.reachable reached time, free, leaving⟩ :
        Departing locator settings reading call rank thread (run time))

end Runs

end Connection

end CdcSerial
