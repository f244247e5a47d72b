import CdcSerial.Proofs.Connection.Soundness

/-!
# Closing regains the handle

A caller that closes the port waits for the recorded read, for the writer and for the calls that
configure the line, and then expects to own the handle alone. It always does: each of the others
gives up its clone before it reports its end.
-/

namespace CdcSerial

/-- The course of leaving a device: the interface is released and the handle is closed. -/
theorem Connection.leave_path {settings : Settings} {handle : Handle} {events : List Event}
    {result : Except Error Unit}
    (path : Procedure.Path (leave settings handle) events (.done result)) :
    ∃ released : Except Status Unit,
      events = [⟨.releaseInterface handle settings.interface, released⟩,
        ⟨.closeHandle handle, ()⟩] ∧ result = released.mapError .releaseFailed := by
  cases path with
  | call released path =>
      cases path with
      | call reply path =>
          cases released with
          | ok _ =>
              rcases path.of_done with ⟨rfl, eq⟩
              cases eq
              exact ⟨_, rfl, rfl⟩
          | error status =>
              rcases path.of_done with ⟨rfl, eq⟩
              cases eq
              exact ⟨_, rfl, rfl⟩

/-- A close that reports a failed release has made the release that failed. -/
theorem Standing.release_failed {locator : Locator} {settings : Settings} {handles : List Handle}
    {events : List Event} {status : Status}
    (standing : Standing locator settings handles .close events
      (.finished (.returned (.error (.releaseFailed status))))) :
    ∃ handle, (⟨.releaseInterface handle settings.interface, .error status⟩ : Event) ∈ events := by
  generalize ended : Task.finished (.returned (.error (.releaseFailed status))) = task at standing
  cases standing with
  | refused reason =>
      cases reason with
      | alreadyOpen asked => cases asked
      | notConfigurable asked => cases asked
      | notOpen => cases ended
  | @closed _ handle result held path =>
      rcases Connection.leave_path path with ⟨released, rfl, rfl⟩
      cases released with
      | ok _ => cases ended
      | error cause =>
          cases ended
          exact ⟨handle, by simp⟩
  | closes closing =>
      subst ended
      cases closing
  | opens asked => cases asked
  | clears asked => cases asked
  | installs asked => cases asked
  | opened asked => cases asked
  | retreats asked => cases asked
  | notOpened asked => cases asked
  | awaitsRead asked => cases asked
  | putsBack asked => cases asked
  | fetched asked => cases asked
  | configures asked => cases asked
  | returnsClone asked => cases asked
  | returnsTicket asked => cases asked
  | records asked => cases asked
  | configured asked => cases asked
  | overflows => cases ended
  | reverts => cases ended
  | releases => cases ended
  | settles => cases ended

theorem WriterStage.holdsClone_le (stage : WriterStage) :
    stage.holdsClone.toNat ≤ (decide (stage ≠ .ended)).toNat := by
  cases stage <;> simp [holdsClone]

namespace Connection

/-- How many reads of a session have not come to a terminal phase. -/
def openReads (connection : Connection) (number : Nat) : Nat :=
  connection.reads.countP fun read => decide (read.session = number) && !read.phase.isTerminal

/-- A worker with a clone has not reported: others still see its read polling. -/
theorem readerClones_le_openReads (connection : Connection) (number : Nat) :
    connection.readerClones number ≤ connection.openReads number := by
  apply List.countP_mono_left
  intro read _ holds
  simp only [Bool.and_eq_true, decide_eq_true_eq] at holds ⊢
  refine ⟨holds.1, ?_⟩
  cases stage : read.stage with
  | ended ending => simp [stage, ReaderStage.holdsClone] at holds
  | _ => simp [Read.phase, Read.ending?, stage, ReadPhase.isTerminal]

theorem step?_of_regaining {connection : Connection} {call number : Nat} {session : Session}
    (stands : connection.tasks[call]? = some (.regaining number))
    (found : connection.sessions[number]? = some session) :
    connection.step? (.advance (.call call)) = some (connection.regain call number session) := by
  simp [step?, advance?, advanceCall?, stands, found]

/--
After every course of actions: the clones of the handle of a session whose link somebody holds are
those of the link, the writer, the worker of a read and the configuring calls, and no owner that
has reported its end has one; the tickets are those that callers have, so that giving one back
never finds none; and a caller that is about to take the handle goes on to release the interface.
So closing fails to release only if the bus says so.
-/
theorem closing_regains_handle {locator : Locator} {settings : Settings} {actions : List Action}
    {connection : Connection} (ran : (fresh locator settings).run? actions = some connection) :
    (∀ number session, connection.HoldsLink number → connection.sessions[number]? = some session →
      session.clones = 1 + session.writer.holdsClone.toNat + connection.readerClones number +
          connection.callClones number ∧
        connection.readerClones number ≤ 1 ∧
        session.clones ≤ 1 + (decide (session.writer ≠ .ended)).toNat +
          connection.openReads number + session.tickets) ∧
    (∀ number session, connection.sessions[number]? = some session →
      session.tickets = connection.ticketHolders number) ∧
    (∀ line result number, .returningTicket number line result ∈ connection.tasks →
      ∃ session, connection.sessions[number]? = some session ∧ 0 < session.tickets) ∧
    (∀ call number, connection.tasks[call]? = some (.regaining number) →
      ∃ session, connection.sessions[number]? = some session ∧
        connection.step? (.advance (.call call)) =
          some ((connection.dropClone number).setTask call
            (.releasing ⟨leave settings session.handle, false⟩))) ∧
    ∀ call status, (calls actions)[call]? = some .close →
      connection.tasks[call]? = some (.finished (.returned (.error (.releaseFailed status)))) →
      ∃ handle, (.call call, ⟨.releaseInterface handle settings.interface, .error status⟩) ∈
        (fresh locator settings).exchanges actions := by
  have sound := sound_of_run ran
  refine ⟨?_, ?_, ?_, ?_, ?_⟩
  · intro number session holds found
    have one := sound.orderly.linkHolders_le_one number
    have held := holds.linkHolders_pos
    rcases sound.owned.right number with ⟨clones, tickets, -⟩
    have reading := connection.readerClones_le_openReads number
    have writing := session.writer.holdsClone_le
    simp only [books, account_of_getElem? found, Session.account, callClones,
      ticketHolders] at clones tickets ⊢
    refine ⟨by omega, sound.recorded.readerClones_le_one number, by omega⟩
  · intro number session found
    rcases sound.owned.right number with ⟨-, tickets, -⟩
    simpa only [books, account_of_getElem? found, Session.account] using tickets
  · intro line result number member
    have held : 0 < connection.stakeCount (.ticket number) := stakeCount_pos member
    rcases exists_session_of_pos (sound.owned.right number) (by omega) with ⟨session, found⟩
    rcases sound.owned.right number with ⟨-, tickets, -⟩
    simp only [books, account_of_getElem? found, Session.account, ticketHolders] at tickets
    exact ⟨session, found, by omega⟩
  · intro call number stands
    have member := List.mem_of_getElem? stands
    have held : 0 < connection.stakeCount (.link number) := stakeCount_pos member
    rcases exists_session_of_pos (sound.owned.right number) (by omega) with ⟨session, found⟩
    have sole := sound.owned.sole sound.orderly sound.recorded member found
    refine ⟨session, found, ?_⟩
    rw [step?_of_regaining stands found, regain, if_pos sole, sound.placed.set]
  · intro call status made ended
    rcases (sound.placed.stands made ended).release_failed with ⟨handle, member⟩
    exact ⟨handle, mem_eventsOf.mp member⟩

/--
A caller closes the port while a read polls and another caller configures, and the bus refuses
the release.
-/
def closesBusily : List Action :=
  Sample.opens ++
    [.startRead 4 (.ok ()), .invoke (.set { dtr := some true }) (.ok ()), .invoke .close (.ok ()),
      .advance (.call 2), .advance (.reader 0), .advance (.reader 0), .advance (.reader 0),
      .advance (.call 2), .advance (.call 2), .advance (.writer 0), .advance (.writer 0),
      .advance (.call 2), .advance (.call 1), .advance (.call 1),
      .answer (.call 1) (Sample.bus [] (.ok ())), .advance (.call 1), .advance (.call 1),
      .advance (.call 1), .advance (.call 2), .advance (.call 2), .advance (.call 2),
      .answer (.call 2) (Sample.bus [] (.error .busy)), .advance (.call 2),
      .answer (.call 2) (Sample.bus [] (.error .busy)), .advance (.call 2), .advance (.call 2)]

theorem closesBusily_released :
    ∃ connection, Sample.connection.run? closesBusily = some connection ∧
      (calls closesBusily)[2]? = some .close ∧
      connection.tasks[2]? = some (.finished (.returned (.error (.releaseFailed .busy)))) ∧
      ∃ handle, (.call 2, ⟨.releaseInterface handle Profile.dataInterface, .error .busy⟩) ∈
        Sample.connection.exchanges closesBusily :=
  ⟨_, rfl, rfl, rfl, (closing_regains_handle rfl).2.2.2.2 2 .busy rfl rfl⟩

end Connection

end CdcSerial
