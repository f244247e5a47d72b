import CdcSerial.Proofs.Connection.Fairness
import CdcSerial.Proofs.Connection.Ledger
import CdcSerial.Proofs.Connection.Provenance
import CdcSerial.Proofs.Connection.Transitions

/-!
# Closing comes to an end

A call that closes the port goes through its points one by one. At most of them it can always go on;
it waits for the recorded read or the deadline, for the writer, and for the tickets of callers that
configure. `Leaving` gives each point a rank and says whose turn it is. While a port is closing no
more writes come, so the effort of the writer only gets less and can be part of the rank.

If calls are made one after the other, nobody has a ticket, and in a fair run every close ends. It
ends with a result unless it has to wait for a read and the poll timeout has no double. Then it ends
without one and the port is closing for ever, even if a deadline was given.
-/

namespace CdcSerial

/--
That a procedure ends after so many steps at most. A request takes two: it is made and answered.
-/
inductive Procedure.Within {Result : Type} : Procedure Result → Nat → Prop where
  | done {result steps} : Within (.done result) steps
  | say {message next steps} (rest : next.Within steps) : Within (.say message next) (steps + 1)
  | call {request next steps} (rest : ∀ reply, (next reply).Within steps) :
      Within (.call request next) (steps + 2)

/-- The same for a procedure in the hands of a caller. -/
inductive Running.Within {Result : Type} : Running Result → Nat → Prop where
  | resting {procedure steps} (rest : procedure.Within steps) : Within ⟨procedure, false⟩ steps
  | asking {request next steps} (rest : ∀ reply, (next reply).Within steps) :
      Within ⟨.call request next, true⟩ (steps + 1)

/-- How many steps a writer takes until it has ended, if no more writes come. -/
def WriterStage.effort (queue : List Nat) : WriterStage → Nat
  | .waiting => 2 * queue.length + 3
  | .writing _ => 2 * queue.length + 4
  | .unwinding => 3
  | .leaving => 2
  | .closing => 1
  | .ended => 0

theorem Standing.settling_result {locator : Locator} {settings : Settings} {handles : List Handle}
    {call : Call} {events : List Event} {result : Except Error Unit}
    (standing : Standing locator settings handles call events (.settling result)) :
    ∃ released : Except Status Unit, result = released.mapError .releaseFailed := by
  cases standing with
  | settles held path =>
      rcases Connection.leave_path path with ⟨released, -, rfl⟩
      exact ⟨released, rfl⟩
  | closes closing => cases closing

namespace Connection

/-- How a call that closes the port ends, and the state in which it leaves the port. -/
inductive CloseEnding (settings : Settings) : Ending → Lifecycle → Prop where
  | closed : CloseEnding settings (.returned (.ok .done)) .closed
  | notReleased {status} :
      CloseEnding settings (.returned (.error (.releaseFailed status))) .closed
  | reverted {double} (fits : settings.pollTimeout.double? = some double) :
      CloseEnding settings
        (.returned (.error (.cancelTimeout (settings.closeDeadline.getD double)))) .opened
  | overflowed : CloseEnding settings .overflowed .closing

/-- The effort of the writer of a session. -/
def effort (connection : Connection) (number : Nat) : Nat :=
  ((connection.desk number).map fun desk => desk.1.effort desk.2).getD 0

/-- Which sessions have been told that no more writes will come. -/
def hungUps (connection : Connection) : List Bool := connection.sessions.map (·.hungUp)

/--
How far a call is with closing the port: its point, a bound for the turns that remain, and the
thread whose turn it is. `reading` says whether a read was recorded when the call began.
-/
inductive Leaving (settings : Settings) (reading : Bool) (call : Nat) (connection : Connection) :
    Nat → Thread → Prop where
  | cancelling {read link} (stands : connection.tasks[call]? = some (.cancelling read))
      (held : connection.link = some link) (started : read < connection.reads.length)
      (recorded : reading = true) :
      Leaving settings reading call connection (connection.effort link.session + 12) (.call call)
  | awaiting {read deadline link}
      (stands : connection.tasks[call]? = some (.awaitingReader read deadline))
      (held : connection.link = some link) (started : read < connection.reads.length)
      (known : settings.effectiveDeadline? = some deadline) :
      Leaving settings reading call connection (connection.effort link.session + 11) (.call call)
  | reverting {deadline} (stands : connection.tasks[call]? = some (.reverting deadline))
      (known : settings.effectiveDeadline? = some deadline) :
      Leaving settings reading call connection 1 (.call call)
  | taking {link} (stands : connection.tasks[call]? = some .takingLink)
      (held : connection.link = some link)
      (able : ¬(settings.effectiveDeadline? = none ∧ reading = true)) :
      Leaving settings reading call connection (connection.effort link.session + 10) (.call call)
  | draining {number} (stands : connection.tasks[call]? = some (.draining number))
      (told : connection.hungUps[number]? = some true)
      (able : ¬(settings.effectiveDeadline? = none ∧ reading = true)) :
      Leaving settings reading call connection (connection.effort number + 9)
        (if connection.effort number = 0 then .call call else .writer number)
  | idling {number} (stands : connection.tasks[call]? = some (.idling number))
      (told : connection.hungUps[number]? = some true)
      (able : ¬(settings.effectiveDeadline? = none ∧ reading = true)) :
      Leaving settings reading call connection 8 (.call call)
  | regaining {number} (stands : connection.tasks[call]? = some (.regaining number))
      (told : connection.hungUps[number]? = some true)
      (able : ¬(settings.effectiveDeadline? = none ∧ reading = true)) :
      Leaving settings reading call connection 7 (.call call)
  | releasing {run steps} (stands : connection.tasks[call]? = some (.releasing run))
      (short : run.Within steps) (able : ¬(settings.effectiveDeadline? = none ∧ reading = true)) :
      Leaving settings reading call connection (steps + 2) (.call call)
  | settling {result} (stands : connection.tasks[call]? = some (.settling result))
      (able : ¬(settings.effectiveDeadline? = none ∧ reading = true)) :
      Leaving settings reading call connection 1 (.call call)

/-- That a call has closed the port or failed to, as it should. -/
def Left (settings : Settings) (reading : Bool) (call : Nat) (connection : Connection) : Prop :=
  ∃ ending, connection.tasks[call]? = some (.finished ending) ∧
    CloseEnding settings ending connection.state ∧
    (ending = .overflowed ↔ settings.effectiveDeadline? = none ∧ reading = true)

/-! ### Others -/

section Workers

variable {before after : Connection} {number : Nat}

theorem effort_of_desk (same : after.desk number = before.desk number) :
    after.effort number = before.effort number := by
  simp only [effort, same]

theorem hungUps_changeSession (connection : Connection) (changed : Nat) {change : Session → Session}
    (same : ∀ session, (change session).hungUp = session.hungUp) :
    (connection.changeSession changed change).hungUps = connection.hungUps :=
  map_modify_of_eq connection.sessions changed same

theorem hungUps_setWriter (connection : Connection) (changed : Nat) (stage : WriterStage) :
    (connection.setWriter changed stage).hungUps = connection.hungUps :=
  hungUps_changeSession connection changed fun _ => rfl

theorem hungUps_dropClone (connection : Connection) (changed : Nat) :
    (connection.dropClone changed).hungUps = connection.hungUps :=
  hungUps_changeSession connection changed fun _ => rfl

/-- What workers, and callers that neither open nor close the port, leave as it is. -/
structure Aside (before after : Connection) : Prop where
  session : after.link.map (·.session) = before.link.map (·.session)
  hungUps : after.hungUps = before.hungUps
  reads : after.reads.length = before.reads.length

theorem ReaderTurn.aside {read : Read} {stage : ReaderStage}
    (turn : ReaderTurn before read after stage) : Aside before (after.setReader number stage) := by
  have reads : (after.setReader number stage).reads.length = before.reads.length := by
    rcases turn.frame with ⟨backlog, sessions, rfl⟩
    simp [setReader, changeRead]
  cases turn with
  | leaves => exact ⟨rfl, hungUps_dropClone before _, reads⟩
  | leavesLast => exact ⟨rfl, hungUps_dropClone before _, reads⟩
  | _ => exact ⟨rfl, rfl, reads⟩

theorem WriterTurn.aside {session : Session} (turn : WriterTurn before number session after) :
    Aside before after := by
  cases turn with
  | unwinds =>
      rcases loseAll_frame before session.queue with ⟨writes, frame⟩
      rw [frame]
      exact ⟨rfl, hungUps_changeSession { before with writes } _ fun _ => rfl, rfl⟩
  | leaves => exact ⟨rfl, by rw [hungUps_setWriter, hungUps_dropClone], rfl⟩
  | leavesLast => exact ⟨rfl, by rw [hungUps_setWriter, hungUps_dropClone], rfl⟩
  | _ => exact ⟨rfl, hungUps_changeSession before _ fun _ => rfl, rfl⟩

theorem WriterAnswer.aside {session : Session} {request : Request} {reply : request.Reply}
    (answer : WriterAnswer before number session request reply after) : Aside before after := by
  cases answer with
  | @wrote write reply =>
      rw [afterWrite_eq]
      exact ⟨rfl, hungUps_setWriter (before.settleWrite write _) _ _, rfl⟩
  | closed => exact ⟨rfl, hungUps_setWriter before _ _, rfl⟩

/-- A caller that neither opens nor closes the port leaves all that a closing call waits for. -/
theorem Turn.aside {call : Nat} {task next : Task} (turn : Turn before call task after next)
    (part : task.part = .bystander) : Aside before (after.setTask call next) := by
  have reads : after.reads.length = before.reads.length := by
    simpa [readSessions] using congrArg List.length turn.readSessions_eq
  cases turn with
  | lists progress =>
      rcases progress.only_tells with ⟨journal, rfl⟩
      exact ⟨rfl, rfl, rfl⟩
  | configures progress =>
      obtain ⟨journal, rfl⟩ | rfl := progress.only_lane
      · exact ⟨rfl, rfl, rfl⟩
      · exact ⟨rfl, hungUps_changeSession before _ fun _ => rfl, rfl⟩
  | returnsClone => exact ⟨rfl, hungUps_dropClone before _, rfl⟩
  | returnsTicket => exact ⟨rfl, hungUps_changeSession before _ fun _ => rfl, rfl⟩
  | records =>
      refine ⟨?_, rfl, rfl⟩
      cases held : before.link <;> simp [recordLine, setTask, held]
  | fetchesError => exact ⟨rfl, rfl, reads⟩
  | fetchesBytes => exact ⟨rfl, rfl, reads⟩
  | stores => exact ⟨rfl, rfl, reads⟩
  | spills => exact ⟨rfl, rfl, reads⟩
  | listed => exact ⟨rfl, rfl, rfl⟩
  | listingFailed => exact ⟨rfl, rfl, rfl⟩
  | putsBack => exact ⟨rfl, rfl, rfl⟩
  | fetchesWrite => exact ⟨rfl, rfl, rfl⟩
  | configured => exact ⟨rfl, rfl, rfl⟩
  | _ => cases part

theorem Turn.desk_of_bystander {call : Nat} {task next : Task}
    (turn : Turn before call task after next) (part : task.part = .bystander) (number : Nat) :
    after.desk number = before.desk number := by
  rcases turn.desk_eq number with same | ⟨gone, new⟩
  · exact same
  · have lengths := congrArg List.length (turn.aside part).hungUps
    simp only [hungUps, setTask, List.length_map] at lengths
    simp only [desk, Option.map_eq_none_iff, List.getElem?_eq_none_iff] at gone
    rcases Option.map_eq_some_iff.mp new with ⟨session, found, -⟩
    have inside := (List.getElem?_eq_some_iff.mp found).1
    omega

theorem CallAnswer.aside {call : Nat} {task next : Task} {request : Request} {reply : request.Reply}
    (answer : CallAnswer before call task request reply after next) :
    Aside before (after.setTask call next) := by
  cases answer with
  | configuring => exact ⟨rfl, hungUps_changeSession before _ fun _ => rfl, rfl⟩
  | _ => exact ⟨rfl, rfl, rfl⟩

/-- A step of a writer takes some of its effort and nothing of the effort of others. -/
structure Works (before after : Connection) (number : Nat) : Prop where
  less : after.effort number < before.effort number
  others : ∀ other, other ≠ number → after.effort other = before.effort other

theorem Works.of_change {middle : Connection} {session : Session}
    (found : middle.sessions[number]? = some session)
    (desks : ∀ other, middle.desk other = before.desk other) (change : Session → Session)
    (less : (change session).writer.effort (change session).queue <
      session.writer.effort session.queue) :
    Works before (middle.changeSession number change) number where
  less := by
    have here : before.desk number = some (session.writer, session.queue) := by
      rw [← desks, desk_of_getElem? found]
    simp only [effort, desk_changeSession_self found change, here, Option.map_some,
      Option.getD_some]
    exact less
  others other ne := by
    apply effort_of_desk
    rw [desk_changeSession_ne middle change (Ne.symm ne), desks]

theorem Works.le (works : Works before after number) (other : Nat) :
    after.effort other ≤ before.effort other := by
  by_cases here : other = number
  · exact here ▸ Nat.le_of_lt works.less
  · exact Nat.le_of_eq (works.others other here)

theorem WriterTurn.works {session : Session} (turn : WriterTurn before number session after)
    (found : before.sessions[number]? = some session) : Works before after number := by
  have dropped : (before.dropClone number).sessions[number]? =
      some { session with clones := session.clones - 1 } := by
    simp [dropClone, changeSession, found]
  have desks : ∀ other, (before.dropClone number).desk other = before.desk other :=
    desk_of_modify rfl (by simp)
  cases turn with
  | picks waiting queued =>
      apply Works.of_change found (fun _ => rfl)
      simp only [waiting, queued, WriterStage.effort, List.length_cons]
      omega
  | stops waiting empty =>
      apply Works.of_change found (fun _ => rfl)
      simp [waiting, empty, WriterStage.effort]
  | unwinds unwinding =>
      rcases loseAll_frame before session.queue with ⟨writes, frame⟩
      apply Works.of_change (by rw [frame]; exact found) (fun _ => by rw [frame]; rfl)
      simp [unwinding, WriterStage.effort]
  | leaves leaving =>
      apply Works.of_change dropped desks
      simp [leaving, WriterStage.effort]
  | leavesLast leaving =>
      apply Works.of_change dropped desks
      simp [leaving, WriterStage.effort]

theorem WriterAnswer.works {session : Session} {request : Request} {reply : request.Reply}
    (answer : WriterAnswer before number session request reply after)
    (found : before.sessions[number]? = some session) : Works before after number := by
  cases answer with
  | @wrote write reply writing =>
      rw [afterWrite_eq]
      have stays : (before.settleWrite write reply.outcome).sessions[number]? =
          some session := found
      have desks (other : Nat) :
        (before.settleWrite write reply.outcome).desk other = before.desk other := rfl
      apply Works.of_change stays desks
      rw [writing]
      cases reply <;> simp only [BulkOut.next, WriterStage.effort] <;> omega
  | closed closing =>
      apply Works.of_change found (fun _ => rfl)
      simp [closing, WriterStage.effort]

end Workers

/-! ### Steps of the workers -/

section Steps

variable {settings : Settings} {reading : Bool} {call rank : Nat} {thread : Thread}
  {before after : Connection}

/-- A call that closes stays where it is while others go on, and has to wait no longer for them. -/
theorem Leaving.of_aside (leaving : Leaving settings reading call before rank thread)
    (aside : Aside before after) (keeps : after.tasks[call]? = before.tasks[call]?)
    (efforts : ∀ number, after.effort number ≤ before.effort number) :
    ∃ less other, Leaving settings reading call after less other ∧
      (less < rank ∨ less = rank ∧ other = thread ∧
        ∀ number, thread = .writer number → after.effort number = before.effort number) := by
  have waits {number more : Nat}
      (leaving : Leaving settings reading call after (after.effort number + more) (.call call)) :
      ∃ less other, Leaving settings reading call after less other ∧
        (less < before.effort number + more ∨
          less = before.effort number + more ∧ other = .call call ∧ ∀ number,
            .call call = Thread.writer number → after.effort number = before.effort number) := by
    refine ⟨_, _, leaving, ?_⟩
    rcases Nat.eq_or_lt_of_le (efforts number) with equal | less
    · exact .inr ⟨by rw [equal], rfl, nofun⟩
    · exact .inl (by omega)
  have stays {rank : Nat} (leaving : Leaving settings reading call after rank (.call call)) :
      ∃ less other, Leaving settings reading call after less other ∧
        (less < rank ∨ less = rank ∧ other = .call call ∧ ∀ number,
            .call call = Thread.writer number → after.effort number = before.effort number) :=
    ⟨_, _, leaving, .inr ⟨rfl, rfl, nofun⟩⟩
  have holds {link : Link} (held : before.link = some link) :
      ∃ next, after.link = some next ∧ next.session = link.session := by
    have session := aside.session
    rw [held, Option.map_some, Option.map_eq_some_iff] at session
    exact session
  cases leaving with
  | cancelling stands held started recorded =>
      rcases holds held with ⟨link, heldStill, same⟩
      rw [← keeps] at stands
      rw [← aside.reads] at started
      rw [← same]
      exact waits (.cancelling stands heldStill started recorded)
  | awaiting stands held started known =>
      rcases holds held with ⟨link, heldStill, same⟩
      rw [← keeps] at stands
      rw [← aside.reads] at started
      rw [← same]
      exact waits (.awaiting stands heldStill started known)
  | reverting stands known =>
      rw [← keeps] at stands
      exact stays (.reverting stands known)
  | taking stands held able =>
      rcases holds held with ⟨link, heldStill, same⟩
      rw [← keeps] at stands
      rw [← same]
      exact waits (.taking stands heldStill able)
  | @draining number stands told able =>
      rw [← keeps] at stands
      rw [← aside.hungUps] at told
      refine ⟨_, _, .draining stands told able, ?_⟩
      rcases Nat.eq_or_lt_of_le (efforts number) with equal | less
      · refine .inr ⟨by rw [equal], by rw [equal], ?_⟩
        intro other turn
        split at turn
        · cases turn
        · cases turn
          exact equal
      · exact .inl (by omega)
  | idling stands told able =>
      rw [← keeps] at stands
      rw [← aside.hungUps] at told
      exact stays (.idling stands told able)
  | regaining stands told able =>
      rw [← keeps] at stands
      rw [← aside.hungUps] at told
      exact stays (.regaining stands told able)
  | releasing stands short able =>
      rw [← keeps] at stands
      exact stays (.releasing stands short able)
  | settling stands able =>
      rw [← keeps] at stands
      exact stays (.settling stands able)

/-! ### Steps of the call -/

variable {locator : Locator} {calls : List Call} {exchanges : List Exchange}

theorem leave_within (settings : Settings) (handle : Handle) :
    (leave settings handle).Within 4 := by
  apply Procedure.Within.call
  intro released
  apply Procedure.Within.call
  intro _
  cases released <;> exact .done

theorem Running.Within.of_progress {Result : Type} {run next : Running Result} {steps : Nat}
    {begun? : Option Connection} {changed : Connection} (short : run.Within steps)
    (progress : Progress before begun? run changed next) :
    ∃ less, less < steps ∧ next.Within less := by
  cases progress with
  | tells =>
      cases short with
      | resting rest =>
          cases rest with
          | say rest => exact ⟨_, Nat.lt_succ_self _, .resting rest⟩
  | begins =>
      cases short with
      | resting rest =>
          cases rest with
          | call rest => exact ⟨_, Nat.lt_succ_self _, .asking rest⟩

theorem Sound.settling_result {result : Except Error Unit}
    (sound : Sound locator settings calls exchanges before)
    (stands : before.tasks[call]? = some (.settling result)) :
    ∃ released : Except Status Unit, result = released.mapError .releaseFailed := by
  rcases sound.placed.exists_standing stands with ⟨asked, -, standing⟩
  exact standing.settling_result

/-- A turn of the call brings it nearer to its end. -/
theorem Leaving.of_turn {changed : Connection} {task next : Task}
    (leaving : Leaving settings reading call before rank thread)
    (sound : Sound locator settings calls exchanges before)
    (stands : before.tasks[call]? = some task) (turn : Turn before call task changed next) :
    Left settings reading call (changed.setTask call next) ∨
      ∃ less other, less < rank ∧
        Leaving settings reading call (changed.setTask call next) less other := by
  have stood : changed.tasks[call]? = some task := by rw [turn.tasks_eq, stands]
  have stoodNext := setTask_getElem?_self stood next
  have member := List.mem_of_getElem? stands
  cases leaving with
  | cancelling here held started recorded =>
      cases here.symm.trans stands
      cases turn with
      | cancels known =>
          rw [sound.placed.set] at known
          refine .inr
            ⟨_, _, ?_, .awaiting stoodNext held (by simpa [setTask, cancel, changeRead]) known⟩
          exact Nat.lt_succ_self _
      | overflows unknown =>
          rw [sound.placed.set] at unknown
          refine .inl ⟨_, stoodNext, ?_, by simp [unknown, recorded]⟩
          change CloseEnding settings .overflowed before.state
          rw [(sound.orderly.of_stopper member rfl).1]
          exact .overflowed
  | awaiting here held started known =>
      cases here.symm.trans stands
      cases turn with
      | readerStopped =>
          refine .inr ⟨_, _, ?_, .taking stoodNext held (by simp [known])⟩
          exact Nat.lt_succ_self _
  | reverting here known =>
      cases here.symm.trans stands
      cases turn with
      | reverts =>
          refine .inl ⟨_, stoodNext, ?_, by simp [known]⟩
          rcases Option.map_eq_some_iff.mp known with ⟨double, fits, rfl⟩
          exact .reverted fits
  | @taking link here held able =>
      cases here.symm.trans stands
      cases turn with
      | takesLink linked =>
          cases held.symm.trans linked
          rcases sound.owned.exists_session held with ⟨session, found⟩
          have same : ((({ before with link := none }).changeSession link.session
              ({ · with hungUp := true })).setTask call (.draining link.session)).effort
              link.session = before.effort link.session :=
            effort_of_desk (desk_of_modify rfl (by simp) _)
          refine .inr ⟨_, _, ?_, .draining stoodNext ?_ able⟩
          · rw [same]
            exact Nat.lt_succ_self _
          · simp [hungUps, setTask, changeSession, found]
      | findsNoLink bare => cases bare.symm.trans held
  | draining here told able =>
      cases here.symm.trans stands
      cases turn with
      | drained =>
          refine .inr ⟨_, _, ?_, .idling stoodNext told able⟩
          omega
  | idling here told able =>
      cases here.symm.trans stands
      cases turn with
      | idled => exact .inr ⟨_, _, by decide, .regaining stoodNext told able⟩
  | regaining here told able =>
      cases here.symm.trans stands
      cases turn with
      | regains =>
          exact .inr ⟨_, _, by decide, .releasing stoodNext (.resting (leave_within _ _)) able⟩
      | findsOwners => exact .inr ⟨_, _, by decide, .settling stoodNext able⟩
  | releasing here short able =>
      cases here.symm.trans stands
      cases turn with
      | releases progress =>
          rcases Running.Within.of_progress short progress with ⟨less, lower, further⟩
          exact .inr ⟨_, _, by omega, .releasing stoodNext further able⟩
      | released => exact .inr ⟨_, _, by omega, .settling stoodNext able⟩
  | settling here able =>
      cases here.symm.trans stands
      rcases sound.settling_result stands with ⟨released, rfl⟩
      cases released with
      | ok _ =>
          cases turn
          exact .inl ⟨_, stoodNext, .closed, by simp [able]⟩
      | error status =>
          cases turn
          exact .inl ⟨_, stoodNext, .notReleased, by simp [able]⟩

/-- An answer to the call brings it nearer to its end. -/
theorem Leaving.of_answer {changed : Connection} {task next : Task} {request : Request}
    {reply : request.Reply} (leaving : Leaving settings reading call before rank thread)
    (stands : before.tasks[call]? = some task)
    (answer : CallAnswer before call task request reply changed next) :
    ∃ less other,
      less < rank ∧ Leaving settings reading call (changed.setTask call next) less other := by
  cases leaving with
  | releasing here short able =>
      cases here.symm.trans stands
      cases answer with
      | releasing =>
          cases short with
          | asking rest =>
              refine ⟨_, _, ?_,
                .releasing (setTask_getElem?_self here _) (.resting (rest reply)) able⟩
              omega
  | _ => cases answer <;> simp_all

theorem Leaving.of_expiry {number : Nat} {deadline : Duration}
    (leaving : Leaving settings reading call before rank thread)
    (stands : before.tasks[call]? = some (.awaitingReader number deadline)) :
    ∃ less other, less < rank ∧
      Leaving settings reading call (before.setTask call (.reverting deadline)) less other := by
  have stoodNext := setTask_getElem?_self stands (.reverting deadline)
  cases leaving with
  | awaiting here held started known =>
      cases here.symm.trans stands
      exact ⟨_, _, by omega, .reverting stoodNext known⟩
  | _ => simp_all

theorem Leaving.thread_eq (leaving : Leaving settings reading call before rank thread) :
    thread = .call call ∨ ∃ number, thread = .writer number := by
  cases leaving with
  | draining => split <;> simp
  | _ => exact .inl rfl

/-- A turn of another thread brings the call nearer to its end unless the call waits for a third. -/
theorem Leaving.of_other {mover : Thread}
    (leaving : Leaving settings reading call before rank thread) (aside : Aside before after)
    (keeps : after.tasks[call]? = before.tasks[call]?)
    (efforts : ∀ number, after.effort number ≤ before.effort number)
    (works : ∀ number, mover = .writer number → after.effort number < before.effort number)
    (other : mover ≠ .call call) :
    (∃ less other, less < rank ∧ Leaving settings reading call after less other) ∨
      Leaving settings reading call after rank thread ∧ mover ≠ thread := by
  rcases leaving.of_aside aside keeps efforts with ⟨less, next, further, lower | ⟨rfl, rfl, same⟩⟩
  · exact .inl ⟨less, next, lower, further⟩
  · refine .inr ⟨further, ?_⟩
    rintro rfl
    rcases leaving.thread_eq with own | ⟨number, writes⟩
    · exact other own
    · have progress := works number writes
      have unchanged := same number writes
      omega

theorem Leaving.exists_task (leaving : Leaving settings reading call before rank thread) :
    ∃ task, before.tasks[call]? = some task ∧ task.part ≠ .bystander := by
  cases leaving with
  | _ stands => exact ⟨_, stands, nofun⟩

/-- That all calls but one have ended. -/
structure Alone (call : Nat) (connection : Connection) : Prop where
  ended : ∀ {other task}, connection.tasks[other]? = some task → other ≠ call → task.isOver = true

theorem Turn.not_over {task next : Task} {changed : Connection}
    (turn : Turn before call task changed next) : task.isOver = false := by
  cases turn <;> rfl

theorem CallAnswer.not_over {task next : Task} {request : Request} {reply : request.Reply}
    {changed : Connection} (answer : CallAnswer before call task request reply changed next) :
    task.isOver = false := by
  cases answer <;> rfl

/-- Whatever happens, the call comes nearer to its end or waits for the same thread as before. -/
theorem Leaving.of_move {action : Action} {mover : Thread} {exchange? : Option Exchange}
    (leaving : Leaving settings reading call before rank thread)
    (sound : Sound locator settings calls exchanges before)
    (move : Move before action exchange? after) (acts : action.thread? = some mover) :
    Left settings reading call after ∨
      (∃ less other, less < rank ∧ Leaving settings reading call after less other) ∨
        Leaving settings reading call after rank thread ∧ mover ≠ thread := by
  rcases leaving.exists_task with ⟨own, stood, part⟩
  have apart {number : Nat} (next : Task) (other : number ≠ call) :
      (before.tasks.set number next)[call]? = before.tasks[call]? := List.getElem?_set_ne other
  cases move with
  | enters => cases acts
  | startsRead => cases acts
  | startsWrite => cases acts
  | cancels => cases acts
  | @turns number task changed next stands turn =>
      cases acts
      by_cases mine : number = call
      · subst mine
        rcases leaving.of_turn sound stands turn with left | further
        · exact .inl left
        · exact .inr (.inl further)
      · have bystander := sound.orderly.bystander_of_other stood part stands mine
        have efforts (other : Nat) :
            (changed.setTask number next).effort other = before.effort other :=
          effort_of_desk (turn.desk_of_bystander bystander other)
        refine .inr (leaving.of_other (turn.aside bystander) ?_
          (fun other => Nat.le_of_eq (efforts other)) (by simp) (by simpa using mine))
        rw [setTask, turn.tasks_eq]
        exact apart next mine
  | @answered number task request replies changed next stands answer =>
      cases acts
      by_cases mine : number = call
      · subst mine
        exact .inr (.inl (leaving.of_answer stands answer))
      · have efforts (other : Nat) :
            (changed.setTask number next).effort other = before.effort other :=
          effort_of_desk (answer.desk_eq other)
        have aside := answer.aside
        rcases answer.frame with ⟨-, sessions, rfl⟩
        exact .inr (leaving.of_other aside (apart next mine)
          (fun other => Nat.le_of_eq (efforts other)) (by simp) (by simpa using mine))
  | @expires number read deadline record stands =>
      cases acts
      by_cases mine : number = call
      · subst mine
        exact .inr (.inl (leaving.of_expiry stands))
      · cases sound.orderly.bystander_of_other stood part stands mine
  | readerTurns found turn =>
      cases acts
      refine .inr (leaving.of_other turn.aside ?_ (fun number => ?_) (by simp) (by simp))
      · rcases turn.frame with ⟨backlog, sessions, rfl⟩
        rfl
      · exact Nat.le_of_eq (effort_of_desk (turn.desk_eq number))
  | readerAnswered =>
      cases acts
      refine .inr (leaving.of_other ⟨rfl, rfl, ?_⟩ rfl (fun _ => Nat.le_refl _) (by simp) (by simp))
      simp [setReader, changeRead]
  | writerTurns found turn =>
      cases acts
      have works := turn.works found
      have aside := turn.aside
      rcases turn.frame with ⟨sessions, writes, rfl⟩
      refine .inr (leaving.of_other aside rfl works.le ?_ (by simp))
      rintro _ ⟨⟩
      exact works.less
  | writerAnswered found answer =>
      cases acts
      have works := answer.works found
      have aside := answer.aside
      rcases answer.frame with ⟨sessions, writes, rfl⟩
      refine .inr (leaving.of_other aside rfl works.le ?_ (by simp))
      rintro _ ⟨⟩
      exact works.less

end Steps

/-! ### Whose turn it is -/

section Turns

variable {settings : Settings} {reading : Bool} {call rank number : Nat} {thread : Thread}
  {connection : Connection}

theorem ready_of_advance? (goes : (connection.advance? thread).isSome = true) :
    connection.Ready thread := by
  rcases Option.isSome_iff_exists.mp goes with ⟨next, advanced⟩
  exact ⟨.advance thread, next, rfl, advanced⟩

theorem ready_of_pending? (waits : (connection.pending? thread).isSome = true) :
    connection.Ready thread := by
  rcases Option.isSome_iff_exists.mp waits with ⟨pending, asks⟩
  refine ⟨.answer thread (Sample.bus [] (.ok ())),
    pending.resume (Sample.bus [] (.ok ()) pending.request), rfl, ?_⟩
  simp only [step?, asks, Option.map_some]

theorem ready_of_awaitingReader {read : Nat} {deadline : Duration}
    (stands : connection.tasks[call]? = some (.awaitingReader read deadline))
    (started : read < connection.reads.length) : connection.Ready (.call call) := by
  obtain ⟨record, found⟩ : ∃ record, connection.reads[read]? = some record :=
    ⟨_, List.getElem?_eq_getElem started⟩
  cases stopped : record.isFinished with
  | true =>
      apply ready_of_advance?
      simp [advance?, advanceCall?, stands, found, stopped]
  | false =>
      refine ⟨.expire call, connection.setTask call (.reverting deadline), rfl, ?_⟩
      simp [step?, expire?, stands, found, stopped]

/-- A procedure in the hands of a caller never waits for other callers. -/
theorem ready_of_releasing {run : Running (Except Error Unit)} {steps : Nat}
    (stands : connection.tasks[call]? = some (.releasing run)) (short : run.Within steps) :
    connection.Ready (.call call) := by
  cases short with
  | resting rest =>
      apply ready_of_advance?
      cases rest <;> simp [advance?, advanceCall?, advanceRun, stands]
  | asking =>
      apply ready_of_pending?
      simp [pending?, callPending?, runPending?, stands]

theorem exists_session_of_hungUps (told : connection.hungUps[number]? = some true) :
    ∃ session, connection.sessions[number]? = some session ∧ session.hungUp = true := by
  simpa [hungUps] using told

/-- A writer that has been told that no more writes will come goes on until it has ended. -/
theorem ready_of_hungUp (told : connection.hungUps[number]? = some true)
    (busy : connection.effort number ≠ 0) : connection.Ready (.writer number) := by
  rcases exists_session_of_hungUps told with ⟨session, found, hungUp⟩
  cases stage : session.writer with
  | waiting =>
      apply ready_of_advance?
      cases queued : session.queue <;> simp [advance?, advanceWriter?, found, stage, queued, hungUp]
  | writing write =>
      apply ready_of_pending?
      simp [pending?, writerPending?, found, stage]
  | unwinding =>
      apply ready_of_advance?
      simp [advance?, advanceWriter?, found, stage]
  | leaving =>
      apply ready_of_advance?
      simp [advance?, advanceWriter?, found, stage]
  | closing =>
      apply ready_of_pending?
      simp [pending?, writerPending?, found, stage]
  | ended => simp [effort, desk_of_getElem? found, stage, WriterStage.effort] at busy

theorem ready_of_drained (stands : connection.tasks[call]? = some (.draining number))
    (told : connection.hungUps[number]? = some true) (rests : connection.effort number = 0) :
    connection.Ready (.call call) := by
  rcases exists_session_of_hungUps told with ⟨session, found, -⟩
  have ended : session.writer = .ended := by
    simp only [effort, desk_of_getElem? found, Option.map_some, Option.getD_some] at rests
    cases stage : session.writer <;> simp [stage, WriterStage.effort] at rests ⊢
  apply ready_of_advance?
  simp [advance?, advanceCall?, stands, found, ended]

/-- Calls that have ended have no stake in a session. -/
theorem Alone.stakeCount_eq_zero {task : Task} {stake : Stake} (alone : Alone call connection)
    (stands : connection.tasks[call]? = some task) (other : task.stake ≠ stake)
    (real : stake ≠ .none) : connection.stakeCount stake = 0 := by
  apply List.countP_eq_zero.mpr
  intro member isMember
  rcases List.getElem?_of_mem isMember with ⟨place, found⟩
  rw [decide_eq_true_eq]
  rintro rfl
  by_cases here : place = call
  · subst here
    cases found.symm.trans stands
    exact other rfl
  · have done := alone.ended found here
    cases member <;> simp_all [Task.isOver, Task.stake]

/-- A call that waits for tickets goes on when nobody has one. -/
theorem ready_of_idling (owned : connection.Owned)
    (stands : connection.tasks[call]? = some (.idling number))
    (told : connection.hungUps[number]? = some true) (free : connection.ticketHolders number = 0) :
    connection.Ready (.call call) := by
  rcases exists_session_of_hungUps told with ⟨session, found, -⟩
  have idle : session.tickets = 0 := by
    have right : (connection.account number).tickets = connection.ticketHolders number :=
      (owned.right number).tickets
    rw [free] at right
    simpa [account, found, Session.account] using right
  apply ready_of_advance?
  simp [advance?, advanceCall?, stands, found, idle]

/-- Nobody has a ticket while a call is alone in closing the port. -/
theorem Alone.ticketHolders_eq_zero (alone : Alone call connection)
    (stands : connection.tasks[call]? = some (.idling number)) :
    connection.ticketHolders number = 0 := by
  rw [ticketHolders, alone.stakeCount_eq_zero stands (by simp [Task.stake]) (by simp),
    alone.stakeCount_eq_zero stands (by simp [Task.stake]) (by simp)]

/-- The thread that a closing call waits for can go on, if nobody has a ticket in the end. -/
theorem Leaving.ready (leaving : Leaving settings reading call connection rank thread)
    (owned : connection.Owned)
    (free : ∀ number, connection.tasks[call]? = some (.idling number) →
      connection.ticketHolders number = 0) : connection.Ready thread := by
  cases leaving with
  | awaiting stands held started => exact ready_of_awaitingReader stands started
  | draining stands told =>
      split
      · next rests => exact ready_of_drained stands told rests
      · next busy => exact ready_of_hungUp told busy
  | idling stands told => exact ready_of_idling owned stands told (free _ stands)
  | regaining stands told =>
      rcases exists_session_of_hungUps told with ⟨session, found, -⟩
      apply ready_of_advance?
      simp [advance?, advanceCall?, stands, found]
  | releasing stands short => exact ready_of_releasing stands short
  | cancelling stands =>
      apply ready_of_advance?
      simp [advance?, advanceCall?, stands]
  | reverting stands =>
      apply ready_of_advance?
      simp [advance?, advanceCall?, stands]
  | taking stands =>
      apply ready_of_advance?
      simp [advance?, advanceCall?, stands]
  | settling stands =>
      apply ready_of_advance?
      simp [advance?, advanceCall?, stands]

end Turns

/-! ### The recorded read -/

section Recorded

variable {before after : Connection}

/-- The number of the recorded read. -/
def reader? (connection : Connection) : Option Nat := connection.link.bind (·.reader)

/-- That the recorded read exists. -/
def Noted (connection : Connection) : Prop :=
  ∀ number, connection.reader? = some number → number < connection.reads.length

theorem ReadStart.reader?_eq {length : Nat} {result : Except Error Nat}
    (start : ReadStart before length after result) :
    after.reader? = before.reader? ∨ after.reader? = none ∨
      after.reader? = some before.reads.length ∧ before.reads.length < after.reads.length := by
  cases start with
  | refused => exact .inl rfl
  | served => exact .inr (.inl rfl)
  | notStarted => exact .inr (.inl rfl)
  | polls => exact .inr (.inr ⟨rfl, by simp⟩)

theorem Turn.reader?_eq {call : Nat} {task next : Task} (turn : Turn before call task after next) :
    after.reader? = before.reader? ∨ after.reader? = none := by
  cases turn with
  | installs => exact .inr rfl
  | takesLink => exact .inr rfl
  | records =>
      refine .inl ?_
      cases held : before.link <;> simp [reader?, recordLine, held]
  | lists progress =>
      rcases progress.only_tells with ⟨journal, rfl⟩
      exact .inl rfl
  | opens progress =>
      rcases progress.only_tells with ⟨journal, rfl⟩
      exact .inl rfl
  | releases progress =>
      rcases progress.only_tells with ⟨journal, rfl⟩
      exact .inl rfl
  | configures progress => obtain ⟨journal, rfl⟩ | rfl := progress.only_lane <;> exact .inl rfl
  | _ => exact .inl rfl

theorem Move.reader?_eq {action : Action} {exchange? : Option Exchange}
    (move : Move before action exchange? after) :
    after.reader? = before.reader? ∨ after.reader? = none ∨
      after.reader? = some before.reads.length ∧ before.reads.length < after.reads.length := by
  cases move.concern with
  | enters entry =>
      cases entry with
      | reads fits start =>
          rcases start.reader?_eq with same | gone | ⟨new, more⟩
          · exact .inl same
          · exact .inr (.inl gone)
          · exact .inr (.inr ⟨new, by simpa [addTask, setCustody, changeRead] using more⟩)
      | readFails fits start => exact start.reader?_eq
      | writes start =>
          rcases start.frame with ⟨sessions, writes, rfl⟩
          exact .inl rfl
      | _ => exact .inl rfl
  | startsRead start => exact start.reader?_eq
  | turns stands turn =>
      rcases turn.reader?_eq with same | gone
      · exact .inl same
      · exact .inr (.inl gone)
  | answered stands answer =>
      rcases answer.frame with ⟨-, sessions, rfl⟩
      exact .inl rfl
  | expires => exact .inl rfl
  | nobody state link tasks => exact .inl (congrArg (·.bind Link.reader) link)

theorem Noted.of_move {action : Action} {exchange? : Option Exchange} (noted : before.Noted)
    (move : Move before action exchange? after) : after.Noted := by
  intro number recorded
  have grown : before.reads.length ≤ after.reads.length := by
    rcases move.readSessions_eq with ⟨more, sessions, -⟩
    have lengths := congrArg List.length sessions
    simp only [readSessions, List.length_append, List.length_map] at lengths
    omega
  rcases move.reader?_eq with same | gone | ⟨new, more⟩
  · exact Nat.lt_of_lt_of_le (noted number (same ▸ recorded)) grown
  · cases gone.symm.trans recorded
  · cases new.symm.trans recorded
    exact more

theorem noted_of_run {locator : Locator} {settings : Settings} {actions : List Action}
    {connection : Connection} (ran : (fresh locator settings).run? actions = some connection) :
    connection.Noted := by
  refine run_induction (motive := fun _ connection => connection.Noted) ?_ ?_ ran
  · intro number recorded
    cases recorded
  intro _ _ _ _ _ noted stepped
  exact noted.of_move (Move.of_step? stepped)

end Recorded

/-! ### Ports that stay closing -/

/-- That a port is closing and nobody closes it. -/
structure Wedged (connection : Connection) : Prop where
  closing : connection.state = .closing
  outside : ∀ task ∈ connection.tasks, task.part = .bystander

section Wedging

variable {before after : Connection}

theorem Arrival.of_closing {state : Lifecycle} {part : Part}
    (arrival : Arrival .closing state part) :
    state = .closing ∧ part = .bystander := by
  cases arrival
  exact ⟨rfl, rfl⟩

theorem Wedged.of_passage {changed : Connection} {call : Nat} {task next : Task}
    (wedged : before.Wedged) (stands : before.tasks[call]? = some task)
    (tasks : changed.tasks = before.tasks)
    (passage : Passage before.state before.link.isSome task.part changed.state changed.link.isSome
      next.part) : (changed.setTask call next).Wedged := by
  rw [wedged.closing, wedged.outside task (List.mem_of_getElem? stands)] at passage
  refine ⟨passage.of_bystander.1, ?_⟩
  intro other member
  rcases mem_setTask member with old | rfl
  · exact wedged.outside other (tasks ▸ old)
  · exact passage.of_bystander.2

theorem Wedged.of_move {action : Action} {exchange? : Option Exchange} (wedged : before.Wedged)
    (move : Move before action exchange? after) : after.Wedged := by
  cases move.concern with
  | enters entry =>
      rcases entry.arrival with ⟨arrival, -, tasks⟩
      rw [wedged.closing] at arrival
      refine ⟨arrival.of_closing.1, ?_⟩
      intro other member
      rcases List.mem_append.mp member with old | new
      · exact wedged.outside other (tasks ▸ old)
      · cases List.mem_singleton.mp new
        exact arrival.of_closing.2
  | startsRead start =>
      rcases start.frame with ⟨state, -, tasks, -⟩
      exact ⟨state.trans wedged.closing, tasks ▸ wedged.outside⟩
  | turns stands turn => exact wedged.of_passage stands turn.tasks_eq turn.passage
  | answered stands answer =>
      rcases answer.frame with ⟨part, sessions, rfl⟩
      exact wedged.of_passage stands rfl (part ▸ .stays)
  | expires stands => exact wedged.of_passage stands rfl .stays
  | nobody state link tasks => exact ⟨state.trans wedged.closing, tasks ▸ wedged.outside⟩

theorem Wedged.of_run {start final : Connection} {actions : List Action} (wedged : start.Wedged)
    (ran : start.run? actions = some final) : final.Wedged := by
  refine run_induction (motive := fun _ final => final.Wedged) wedged ?_ ran
  intro _ _ _ _ _ wedged stepped
  exact wedged.of_move (Move.of_step? stepped)

end Wedging

/-! ### Fair runs -/

section Runs

variable {locator : Locator} {settings : Settings} {reading : Bool} {call : Nat}
  {before after : Connection} {action : Action} {mover : Thread}

theorem Alone.of_move {calls : List Call} {exchanges : List Exchange} {exchange? : Option Exchange}
    (alone : Alone call before) (sound : Sound locator settings calls exchanges before)
    (move : Move before action exchange? after) (acts : action.thread? = some mover) :
    Alone call after := by
  constructor
  intro other task stands apart
  have kept : after.tasks.length = before.tasks.length := by
    have later := (sound.of_move move).placed.count
    rw [← later, ← sound.placed.count, Action.call?_eq_none acts]
    simp
  have inside : other < before.tasks.length := kept ▸ (List.getElem?_eq_some_iff.mp stands).1
  obtain ⟨old, stood⟩ : ∃ old, before.tasks[other]? = some old :=
    ⟨_, List.getElem?_eq_getElem inside⟩
  have done := alone.ended stood apart
  cases old with
  | finished ending =>
      cases (move.finished stood).1.symm.trans stands
      rfl
  | _ => cases done

/-- A state along a run in which a call is alone in closing the port. -/
structure Underway (locator : Locator) (settings : Settings) (reading : Bool) (call rank : Nat)
    (thread : Thread) (connection : Connection) : Prop where
  reachable : Reachable locator settings connection
  alone : Alone call connection
  leaving : Leaving settings reading call connection rank thread

theorem Underway.ready {rank : Nat} {thread : Thread} {connection : Connection}
    (underway : Underway locator settings reading call rank thread connection) :
    connection.Ready thread ∧ ∀ number, thread ≠ .reader number := by
  rcases underway.reachable with ⟨actions, ran⟩
  refine ⟨underway.leaving.ready (sound_of_run ran).owned fun number stands =>
    underway.alone.ticketHolders_eq_zero stands, ?_⟩
  rintro number rfl
  rcases underway.leaving.thread_eq with own | ⟨other, writes⟩
  · cases own
  · cases writes

theorem Underway.of_step {rank : Nat} {thread : Thread}
    (underway : Underway locator settings reading call rank thread before)
    (acts : action.thread? = some mover) (stepped : before.step? action = some after) :
    (Left settings reading call after ∧ Alone call after) ∨
      (∃ less other, less < rank ∧ Underway locator settings reading call less other after) ∨
        Underway locator settings reading call rank thread after ∧ mover ≠ thread := by
  rcases underway.reachable with ⟨actions, ran⟩
  have move := Move.of_step? stepped
  have sound := sound_of_run ran
  have alone := underway.alone.of_move sound move acts
  have reachable : Reachable locator settings after :=
    ⟨actions ++ [action], run?_concat_eq_some.mpr ⟨before, ran, stepped⟩⟩
  rcases underway.leaving.of_move sound move acts with
    left | ⟨less, other, lower, leaving⟩ | ⟨leaving, apart⟩
  · exact .inl ⟨left, alone⟩
  · exact .inr (.inl ⟨less, other, lower, reachable, alone, leaving⟩)
  · exact .inr (.inr ⟨⟨reachable, alone, leaving⟩, apart⟩)

/-- What a call does first that closes an open port. -/
theorem exists_leaving {actions : List Action} {connection begun : Connection} {link : Link}
    {started : Except SystemError Unit}
    (ran : (fresh locator settings).run? actions = some connection)
    (opened : connection.openLink? = some link)
    (begins : connection.step? (.invoke .close started) = some begun) :
    (∃ task, begun.tasks = connection.tasks ++ [task]) ∧
      ∃ rank thread,
        Leaving settings link.reader.isSome connection.tasks.length begun rank thread := by
  have held := (openLink?_eq_some.mp opened).2
  cases Move.of_step? begins with
  | enters permitted entry =>
      cases entry with
      | refuses reason =>
          cases reason with
          | alreadyOpen asked => cases asked
          | notConfigurable asked => cases asked
          | notOpen shut => cases shut.symm.trans opened
      | opens asked => cases asked
      | configures asked => cases asked
      | @closesReading _ number openedToo recorded =>
          cases opened.symm.trans openedToo
          have started := noted_of_run ran number (by simp [reader?, held, recorded])
          refine ⟨⟨_, rfl⟩, _, _, .cancelling ?_ held started (by simp [recorded])⟩
          simp [addTask, say]
      | closesIdle openedToo unrecorded =>
          cases opened.symm.trans openedToo
          refine ⟨⟨_, rfl⟩, _, _, .taking ?_ held (by simp [unrecorded])⟩
          simp [addTask, say]

/-- A call that begins to close the port while no other is under way. -/
theorem exists_underway {actions : List Action} {connection begun : Connection} {link : Link}
    {started : Except SystemError Unit}
    (ran : (fresh locator settings).run? actions = some connection)
    (opened : connection.openLink? = some link)
    (idle : ∀ task ∈ connection.tasks, task.isOver = true)
    (begins : connection.step? (.invoke .close started) = some begun) :
    ∃ rank thread, Underway locator settings link.reader.isSome connection.tasks.length rank thread
      begun := by
  have reachable : Reachable locator settings begun :=
    ⟨_, run?_concat_eq_some.mpr ⟨connection, ran, begins⟩⟩
  rcases exists_leaving ran opened begins with ⟨⟨task, tasks⟩, rank, thread, leaving⟩
  refine ⟨rank, thread, reachable, ⟨?_⟩, leaving⟩
  intro other task stands apart
  have inside := (List.getElem?_eq_some_iff.mp stands).1
  rw [tasks, List.length_append, List.length_singleton] at inside
  rw [tasks, List.getElem?_append_left (by omega)] at stands
  exact idle task (List.mem_of_getElem? stands)

theorem wedged_of_overflowed {connection : Connection} (alone : Alone call connection)
    (ended : connection.tasks[call]? = some (.finished .overflowed))
    (left : CloseEnding settings .overflowed connection.state) : connection.Wedged := by
  refine ⟨?_, ?_⟩
  · generalize connection.state = state at left ⊢
    cases left
    rfl
  · intro task member
    rcases List.getElem?_of_mem member with ⟨place, stands⟩
    by_cases here : place = call
    · subst here
      cases stands.symm.trans ended
      rfl
    · have done := alone.ended stands here
      cases task with
      | finished => rfl
      | _ => cases done

/--
If calls are made one after the other, every close of an open port comes to an end, whatever the
settings are and whatever the bus answers. It returns and leaves the port closed or, if it has
waited in vain for as long as the settings say, open. The only exception is a close that has a read
to wait for while twice the poll timeout is out of range, and then the port is closing for ever.
-/
theorem close_ends {actions : List Action} {connection begun : Connection} {link : Link}
    {started : Except SystemError Unit} {run : Nat → Connection} {course : Nat → Option Action}
    (ran : (fresh locator settings).run? actions = some connection)
    (opened : connection.openLink? = some link)
    (idle : ∀ task ∈ connection.tasks, task.isOver = true)
    (begins : connection.step? (.invoke .close started) = some begun)
    (fair : FairRun begun run course) :
    ∃ time ending, (run time).tasks[connection.tasks.length]? = some (.finished ending) ∧
      CloseEnding settings ending (run time).state ∧
      (ending = .overflowed ↔ settings.pollTimeout.double? = none ∧ link.reader ≠ none) ∧
      (ending = .overflowed →
        ∀ more final, (run time).run? more = some final → final.state = .closing) := by
  rcases exists_underway ran opened idle begins with ⟨rank, thread, underway⟩
  rw [← fair.begins] at underway
  rcases fair.eventually Underway.ready Underway.of_step underway with
    ⟨time, ⟨ending, ended, left, overflow⟩, alone⟩
  refine ⟨time, ending, ended, left, ?_, ?_⟩
  · rw [overflow, Settings.effectiveDeadline?, Option.map_eq_none_iff, Option.isSome_iff_ne_none]
  · rintro rfl more final ranOn
    exact ((wedged_of_overflowed alone ended left).of_run ranOn).closing

end Runs

/-- Where all calls and all writers have ended, only workers of reads can go on. -/
theorem not_ready_of_over {connection : Connection} {thread : Thread}
    (done : ∀ task ∈ connection.tasks, task.isOver = true)
    (ended : ∀ session ∈ connection.sessions, session.writer = .ended)
    (other : ∀ number, thread ≠ .reader number) : ¬connection.Ready thread := by
  rintro ⟨action, next, acts, stepped⟩
  have busy {task : Task} {number : Nat} (stands : connection.tasks[number]? = some task) :
      task.isOver ≠ false := by
    simp [done task (List.mem_of_getElem? stands)]
  have move := Move.of_step? stepped
  generalize connection.exchange? action = exchange? at move
  cases move with
  | turns stands turn => exact busy stands turn.not_over
  | answered stands answer => exact busy stands answer.not_over
  | expires stands => exact busy stands rfl
  | writerTurns found turn =>
      have stage := ended _ (List.mem_of_getElem? found)
      cases turn <;> simp_all
  | writerAnswered found answer =>
      have stage := ended _ (List.mem_of_getElem? found)
      cases answer <;> simp_all
  | readerTurns =>
      cases acts
      exact other _ rfl
  | readerAnswered =>
      cases acts
      exact other _ rfl
  | _ => cases acts

/-- A port is open, a read polls, and a write is queued. -/
def loaded : List Action :=
  Sample.opens ++ [.startRead 4 (.ok ()), .advance (.reader 0), .startWrite [1, 2]]

/-- The read receives a byte after it was cancelled, the write is sent, and the release fails. -/
def unloads : List Action :=
  List.flatten
    [[.advance (.call 1), .answer (.reader 0) (Sample.bus [5] (.ok ())), .advance (.reader 0),
        .advance (.reader 0), .advance (.reader 0), .advance (.call 1), .advance (.call 1),
        .advance (.writer 0), .answer (.writer 0) (Sample.bus [] (.ok ())), .advance (.writer 0),
        .advance (.writer 0), .advance (.call 1), .advance (.call 1), .advance (.call 1)],
      asks 1 (Sample.bus [] (.error .busy)) 2, [.advance (.call 1), .advance (.call 1)]]

theorem unloads_ends :
    ∃ begun, (Sample.after loaded).step? (.invoke .close (.ok ())) = some begun ∧
      FairRun begun (FairRun.follow begun unloads) (unloads[·]?) ∧
      ∃ time ending,
        (FairRun.follow begun unloads time).tasks[1]? = some (.finished ending) ∧
        CloseEnding Sample.connection.settings ending (FairRun.follow begun unloads time).state ∧
        ending ≠ .overflowed := by
  have ran : Sample.connection.run? loaded = some (Sample.after loaded) := rfl
  have begins : (Sample.after loaded).step? (.invoke .close (.ok ())) =
    some (Sample.after (loaded ++ [.invoke .close (.ok ())])) := rfl
  have fair : FairRun _ _ _ :=
    FairRun.of_course (show (Sample.after (loaded ++ [.invoke .close (.ok ())])).run? unloads =
      some (Sample.after (loaded ++ [.invoke .close (.ok ())] ++ unloads)) from rfl)
      (by decide) fun thread => not_ready_of_over (by decide) (by decide)
  rcases close_ends ran rfl (by decide) begins fair with ⟨time, ending, ended, left, overflow, -⟩
  refine ⟨_, begins, fair, time, ending, ended, left, ?_⟩
  intro overflows
  cases (overflow.mp overflows).1

/-- A deadline of a second beside a poll timeout that cannot be doubled. -/
def unbounded : Settings :=
  { detachKernelDriver := false
    pollTimeout := ⟨18446744073709551615000000000, by decide⟩
    closeDeadline := some (.ofMilliseconds 1000) }

/-- A port with a recorded read is closed. -/
def closesUnbounded : List Action :=
  Sample.opens ++ [.startRead 4 (.ok ()), .invoke .close (.ok ()), .advance (.call 1)]

/-- A close does not return although its deadline was given, and the port stays closing. -/
theorem closesUnbounded_overflows :
    unbounded.closeDeadline = some (.ofMilliseconds 1000) ∧
      ∃ final, (fresh { source := .direct } unbounded).run? closesUnbounded = some final ∧
        final.tasks[1]? = some (.finished .overflowed) ∧
        ∀ more later, final.run? more = some later → later.state = .closing := by
  have wedged : Wedged (((fresh { source := .direct } unbounded).run? closesUnbounded).getD
    Sample.connection) := ⟨rfl, by decide⟩
  refine ⟨rfl, _, rfl, rfl, ?_⟩
  intro more later ran
  exact (wedged.of_run ran).closing

end Connection

end CdcSerial
