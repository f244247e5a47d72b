import CdcSerial.Proofs.Connection.Exits
import CdcSerial.Proofs.Connection.Scheduling
import CdcSerial.Proofs.Connection.Tickets
import CdcSerial.Proofs.Connection.Writers

/-!
# The two outcomes of closing

A call that closes an open port either gives up or goes through with it. If the recorded read has
not ended when the deadline passes, the port is open again as if nobody had tried to close it: what
it accepted is kept and it goes on to serve. Otherwise the port is closed and nothing of it remains:
the read has ended, all writes have been sent unless the writer crashed, and the interface has been
released, once, before the handle was closed.

The read that was told to stop ends as cancelled and without bytes, unless its worker had decided
before that or its last poll failed.
-/

namespace CdcSerial

/-- Whether a request releases an interface. -/
def Request.isRelease : Request → Bool
  | .releaseInterface _ _ => true
  | _ => false

theorem Approach.not_release {interface : UInt8} {handle : Handle} {events : List Event}
    (approach : Approach interface handle events) :
    ∀ event ∈ events, event.1.isRelease = false := by
  cases approach <;> simp [Request.isRelease]

/-- While a device is in use its interface has not been released. -/
theorem History.not_release {interface : UInt8} {handle : Handle} {events : List Event}
    (history : History interface handle .ready events) :
    ∀ event ∈ events, event.1.isRelease = false := by
  cases history with
  | ready sent unclaimed codes only =>
      have transfers {event : Event} (transfer : event.1.isTransfer = true) :
          event.1.isRelease = false := by
        rcases event with ⟨request, reply⟩
        cases request <;> first | rfl | cases transfer
      simp only [List.mem_append, List.mem_cons, List.not_mem_nil, or_false]
      rintro event ((before | rfl | rfl) | after)
      · exact unclaimed.not_release event before
      · rfl
      · rfl
      · exact transfers (only event after)

/-- Before an interface is released it has not been released. -/
theorem Phase.not_release_before {interface number : UInt8} {handle : Handle} {phase : Phase}
    {earlier later : List Event} {released : Except Status Unit}
    (here : ∀ event ∈ earlier, event.1.handle? = some handle)
    (accepted : Phase.after? interface
      (earlier ++ ⟨.releaseInterface handle number, released⟩ :: later) = some phase) :
    ∀ event ∈ earlier, event.1.isRelease = false := by
  rcases exists_next?_of_after? accepted with ⟨reached, further, before, step⟩
  simp only [next?, Option.ite_none_right_eq_some] at step
  rcases step with ⟨⟨-, rfl⟩, -⟩
  exact (History.of_after? here before).not_release

namespace Connection

/-! ### Writes -/

/-- That an accepted write has been sent and answered, or was lost because a transfer crashed. -/
inductive Handled (connection : Connection) (requests : List Event) (place : Nat)
    (acceptance : Acceptance) : Prop where
  | sent {transmission} (made : (transmissions requests)[place]? = some transmission)
      (data : transmission.data = acceptance.data)
      (answered : connection.resolution? acceptance.write = some transmission.reply.result)
  | lost {transmission} (member : transmission ∈ transmissions requests)
      (crash : transmission.reply = .crashed)
      (answered : connection.resolution? acceptance.write = some (.error .workerLost))

/-- That a write waits for its turn or is being sent. -/
def Waiting (connection : Connection) (number write : Nat) : Prop :=
  ∃ stage queue, connection.desk number = some (stage, queue) ∧
    (stage = .writing write ∨ write ∈ queue)

/-- A write that has not been handled waits at a writer that still takes writes. -/
theorem Ledger.handled_or_waiting {settings : Settings} {connection : Connection}
    {number place : Nat} {accepted : List Acceptance} {requests : List Event} {stage : WriterStage}
    {queue : List Nat} {acceptance : Acceptance}
    (ledger : Ledger settings connection.writes number accepted
      (transmissions requests) stage queue)
    (took : accepted[place]? = some acceptance) :
    Handled connection requests place acceptance ∨
      stage.hasQueue = true ∧ (stage = .writing acceptance.write ∨ acceptance.write ∈ queue) := by
  rcases ledger.divided with ⟨done, unsent, crashed, state, rfl, pairs, remains, ends, desk⟩
  rcases Nat.lt_or_ge place done.length with inside | beyond
  · rcases List.forall₂_iff_get.mp pairs with ⟨same, paired⟩
    have there : place < (transmissions requests).length := same ▸ inside
    rw [List.getElem?_append_left inside] at took
    rcases List.getElem?_eq_some_iff.mp took with ⟨-, rfl⟩
    have sent := paired place inside there
    refine .inl (.sent (List.getElem?_eq_getElem there) sent.data ?_)
    exact (resolution?_of_filed sent.filed).trans (BulkOut.result?_outcome _)
  · rw [List.getElem?_append_right beyond] at took
    have member := List.mem_of_getElem? took
    have filed := remains acceptance member
    have listed : acceptance.write ∈ unsent.map (·.write) := List.mem_map_of_mem member
    generalize unsent.map (·.write) = numbers at desk listed
    cases desk with
    | waiting => exact .inr ⟨rfl, .inr listed⟩
    | writing =>
        refine .inr ⟨rfl, ?_⟩
        rcases List.mem_cons.mp listed with rfl | queued
        · exact .inl rfl
        · exact .inr queued
    | unwinding => exact .inr ⟨rfl, .inr listed⟩
    | stopped => cases listed
    | lost =>
        generalize sentAll : transmissions requests = sent at ends
        cases ends with
        | badly intact crash =>
            exact .inl (.lost (sentAll ▸ List.mem_append_right _ (List.mem_singleton_self _)) crash
              (resolution?_of_filed filed))

/-! ### A bus that is always the same -/

/-- In a run in which a bus gives all the answers, every reply is its own. -/
theorem reply_of_steady {replies : Replies} {start : Connection} {actions : List Action}
    (steady : ∀ action ∈ actions, ∃ thread, TurnOf replies thread action) :
    ∀ exchange ∈ start.exchanges actions, exchange.2.2 = replies exchange.2.1 := by
  induction actions generalizing start with
  | nil => simp [exchanges, along]
  | cons action rest ih =>
      intro exchange made
      rw [exchanges, along] at made
      cases stepped : start.step? action with
      | none => simp [stepped] at made
      | some next =>
          simp only [stepped, List.mem_append, Option.mem_toList] at made
          rcases made with new | old
          · rcases steady action List.mem_cons_self with ⟨thread, turn⟩
            cases turn with
            | answered =>
                rcases Option.map_eq_some_iff.mp new with ⟨pending, -, rfl⟩
                rfl
            | _ => cases new
          · exact ih (fun other member => steady other (List.mem_cons_of_mem _ member)) exchange old

/-- A call that has ended in a run ended in one of its turns. -/
theorem FairRun.exists_last_turn {start : Connection} {run : Nat → Connection}
    {course : Nat → Option Action} {call time : Nat} {ending : Ending}
    (fair : FairRun start run course)
    (unfinished : ∀ earlier, start.tasks[call]? ≠ some (.finished earlier))
    (ended : (run time).tasks[call]? = some (.finished ending)) :
    ∃ before action, course before = some action ∧
      (∀ earlier, (run before).tasks[call]? ≠ some (.finished earlier)) ∧
      (run (before + 1)).tasks[call]? = some (.finished ending) := by
  induction time with
  | zero => exact absurd (fair.begins ▸ ended) (unfinished ending)
  | succ time ih =>
      cases acts : course time with
      | none => exact ih (fair.rests acts ▸ ended)
      | some action =>
          by_cases done : ∃ earlier, (run time).tasks[call]? = some (.finished earlier)
          · rcases done with ⟨earlier, done⟩
            have still := ((Move.of_step? (fair.steps acts)).finished done).1
            cases still.symm.trans ended
            exact ih done
          · exact ⟨time, action, acts, not_exists.mp done, ended⟩

/-! ### Trying again -/

section Again

variable {locator : Locator} {settings : Settings} {connection : Connection} {link : Link}

/-- The deadline of a closing call does not pass after the read has ended. -/
theorem Late.not_of_ended {begun : Connection} {call number : Nat} {during : List Action}
    {read : Read} (late : Late begun call number during) (conclusive : begun.Conclusive)
    (found : begun.reads[number]? = some read) : read.isFinished = false := by
  cases finished : read.ending? with
  | none => rw [Read.isFinished, finished, Option.isSome_none]
  | some ending =>
      have ended := Read.ending?_eq_some.mp finished
      have terminal := conclusive.terminal found (by rw [ended, ReaderStage.decided?])
      cases late with
      | passes ran there running =>
          obtain ⟨next, thereToo, still⟩ : ∃ next, _ ∧ next.stage = .ended ending :=
            read_of_run (fun fate => fate.ended) found ended ran
          cases there.symm.trans thereToo
          simp [Read.phase, Read.ending?, still, terminal] at running

/--
A read that was told to stop, if one is recorded, can come to its end while nothing else happens.
-/
theorem exists_stopped_link (reachable : Reachable locator settings connection)
    (told : ∀ {number}, link.reader = some number →
      ∃ read, connection.reads[number]? = some read ∧ read.cancelled = true) :
    ∃ actions after, connection.run? actions = some after ∧ Apart connection after ∧
      ∀ {number}, link.reader = some number →
        ∃ read, after.reads[number]? = some read ∧ read.isFinished = true := by
  cases recorded : link.reader with
  | none => exact ⟨[], connection, rfl, ⟨rfl, rfl, rfl⟩, by simp⟩
  | some number =>
      rcases told recorded with ⟨read, found, cancelled⟩
      rcases exists_stopped reachable found cancelled with
        ⟨actions, after, next, ran, apart, there, finished⟩
      refine ⟨actions, after, ran, apart, ?_⟩
      rintro _ ⟨⟩
      exact ⟨next, there, finished⟩

/--
A call that closes the port succeeds if the read has ended and the bus releases the interface.
-/
theorem Outcome.succeeds {start begun final : Connection} {handle : Handle} {call : Nat}
    {during : List Action} {ending : Ending} {replies : Replies}
    (outcome : Outcome settings start begun link handle call during final ending)
    (conclusive : begun.Conclusive)
    (stopped : ∀ {number}, link.reader = some number →
      ∃ read, begun.reads[number]? = some read ∧ read.isFinished = true)
    (steady : ∀ action ∈ during, ∃ thread, TurnOf replies thread action)
    (grants : replies (.releaseInterface handle settings.interface) = .ok ()) :
    ending = .returned (.ok .done) ∧ final.state = .closed ∧ final.link = none := by
  cases outcome with
  | reverts recorded warned late =>
      rcases stopped recorded with ⟨read, found, finished⟩
      cases finished.symm.trans (late.not_of_ended conclusive found)
  | departs warned path closed bare =>
      rcases leave_path path with ⟨released, events, rfl⟩
      have made : (.call call, ⟨.releaseInterface handle settings.interface, released⟩) ∈
          begun.exchanges during := by
        rw [← mem_eventsOf, events]
        exact List.mem_cons_self
      have granted : released = .ok () := (reply_of_steady steady _ made).trans grants
      subst granted
      exact ⟨rfl, closed, bare⟩

/--
A port whose recorded read has ended can be closed: threads take turns, and the bus grants all.
-/
theorem exists_closing {actions : List Action}
    (ran : (fresh locator settings).run? actions = some connection)
    (opened : connection.openLink? = some link) (fits : settings.effectiveDeadline? ≠ none)
    (stopped : ∀ {number}, link.reader = some number →
      ∃ read, connection.reads[number]? = some read ∧ read.isFinished = true) :
    ∃ closing closed, connection.run? (.invoke .close (.ok ()) :: closing) = some closed ∧
      closed.tasks[connection.tasks.length]? = some (Task.succeeded .done) ∧
      closed.state = .closed ∧ closed.link = none := by
  rcases (sound_of_run ran).owned.exists_session (openLink?_eq_some.mp opened).2 with
    ⟨session, found⟩
  obtain ⟨begun, begins⟩ : ∃ begun, connection.step? (.invoke .close (.ok ())) = some begun :=
    ⟨_, rfl⟩
  have ranBegun := run?_concat_eq_some.mpr ⟨connection, ran, begins⟩
  let replies : Replies := Sample.bus [] (.ok ())
  have fair := rounds_fair begun replies
  rcases fair.leaves ⟨_, ranBegun⟩ (exists_leaving ran opened begins).2 with
    ⟨time, ending, ended, -, -⟩
  obtain ⟨task, stands, exit⟩ : ∃ task, begun.tasks[connection.tasks.length]? = some task ∧
      Exit settings connection begun link session.handle connection.tasks.length [] begun task :=
    exit_of_begins opened begins
  have unfinished : ∀ earlier,
      begun.tasks[connection.tasks.length]? ≠ some (.finished earlier) := by
    rintro earlier ended
    cases stands.symm.trans ended
    cases exit.not_over
  rcases fair.exists_last_turn unfinished ended with ⟨last, action, acts, still, endedThen⟩
  rcases fair.exists_course last with ⟨during, ranDuring, taken⟩
  have outcome := outcome_of_run ran (handles_getElem? found) fits begins opened ranDuring still
    (fair.steps acts) endedThen
  have steady : ∀ turn ∈ during ++ [action], ∃ thread, TurnOf replies thread turn := by
    intro turn member
    rcases List.mem_append.mp member with old | new
    · rcases taken turn old with ⟨earlier, takes⟩
      exact ⟨_, (turn?_eq_some takes).1⟩
    · exact ⟨_, (turn?_eq_some (List.mem_singleton.mp new ▸ acts)).1⟩
  have stoppedThen {number : Nat} (recorded : link.reader = some number) :
      ∃ read, begun.reads[number]? = some read ∧ read.isFinished = true := by
    rcases stopped recorded with ⟨read, there, finished⟩
    rcases (Move.of_step? begins).readFate there with ⟨next, thereThen, fate⟩
    rcases Option.isSome_iff_exists.mp finished with ⟨ending, ends⟩
    have still := Read.ending?_eq_some.mpr (fate.ended (Read.ending?_eq_some.mp ends))
    exact ⟨next, thereThen, by rw [Read.isFinished, still, Option.isSome_some]⟩
  rcases outcome.succeeds (conclusive_of_run ranBegun) stoppedThen steady rfl with
    ⟨rfl, closed, bare⟩
  refine ⟨during ++ [action], _, ?_, endedThen, closed, bare⟩
  rw [run?, begins]
  exact run?_concat_eq_some.mpr ⟨_, ranDuring, fair.steps acts⟩

/-- A port whose recorded read was told to stop can be closed. -/
theorem exists_closed (reachable : Reachable locator settings connection)
    (opened : connection.openLink? = some link) (fits : settings.effectiveDeadline? ≠ none)
    (told : ∀ {number}, link.reader = some number →
      ∃ read, connection.reads[number]? = some read ∧ read.cancelled = true) :
    ∃ stopping closing closed,
      connection.run? (stopping ++ .invoke .close (.ok ()) :: closing) = some closed ∧
      closed.tasks[connection.tasks.length]? = some (Task.succeeded .done) ∧
      closed.state = .closed ∧ closed.link = none := by
  rcases exists_stopped_link reachable told with ⟨stopping, after, stops, apart, stopped⟩
  rcases reachable with ⟨actions, ran⟩
  have ranAfter : (fresh locator settings).run? (actions ++ stopping) = some after := by
    rw [run?_append, ran]
    exact stops
  have openedAfter : after.openLink? = some link := by
    rw [openLink?_eq_some] at opened ⊢
    rw [apart.state, apart.link]
    exact opened
  rcases exists_closing ranAfter openedAfter fits stopped with
    ⟨closing, closed, ranClosing, ended, shut⟩
  refine ⟨stopping, closing, closed, ?_, apart.tasks ▸ ended, shut⟩
  rw [run?_append, stops]
  exact ranClosing

end Again

/-! ### The interface -/

section Interface

variable {locator : Locator} {settings : Settings} {actions : List Action} {connection : Connection}
  {handle : Handle} {number : Nat} (aloof : locator.source.Aloof)
  (ran : (fresh locator settings).run? actions = some connection)
  (once : (openings (log ((fresh locator settings).exchanges actions))).Nodup)
  (device : connection.handles[number]? = some handle)

include aloof ran once device

/-- While the link of a session is in its place, its interface has not been released. -/
theorem not_release_of_link {link : Link} (held : connection.link = some link)
    (here : link.session = number) :
    ∀ event ∈ (fresh locator settings).requestsOn handle actions, event.1.isRelease = false := by
  have sound := sound_of_run ran
  rcases (disciplined_of_run aloof ran once).served device with ⟨phase, accepted, service⟩
  cases service with
  | serving => exact (History.of_after? (fun event => of_mem_onHandle) accepted).not_release
  | leaving last member => cases held.symm.trans (sound.orderly.of_leaver member rfl).2
  | left lost => exact absurd (here ▸ HoldsLink.of_link held) lost

/--
When the port is closed, the interface has been released once, just before the handle was closed.
-/
theorem released_once {call : Nat} {released : Except Status Unit}
    (closed : connection.state = .closed)
    (made : (.call call, ⟨.releaseInterface handle settings.interface, released⟩) ∈
      (fresh locator settings).exchanges actions) :
    ∃ earlier, (fresh locator settings).requestsOn handle actions =
        earlier ++ [⟨.releaseInterface handle settings.interface, released⟩,
          ⟨.closeHandle handle, ()⟩] ∧
      ∀ event ∈ earlier, event.1.isRelease = false := by
  rcases (disciplined_of_run aloof ran once).served device with ⟨phase, accepted, service⟩
  cases service.dropped_of_closed (sound_of_run ran).orderly closed
  have here {event : Event} (member : event ∈ (fresh locator settings).requestsOn handle actions) :
      event.1.handle? = some handle := of_mem_onHandle member
  cases History.of_after? (fun event => here) accepted with
  | dropped lifetime =>
      have claimed := claimed_of_run aloof ran (List.mem_of_getElem? device)
      rcases exists_release lifetime claimed with ⟨earlier, last, whole⟩
      have whole : (fresh locator settings).requestsOn handle actions = earlier ++
        [⟨.releaseInterface handle settings.interface, last⟩, ⟨.closeHandle handle, ()⟩] := whole
      have unreleased : ∀ event ∈ earlier, event.1.isRelease = false := by
        rw [requestsOn] at whole
        rw [whole] at accepted
        refine Phase.not_release_before (fun event member => here ?_) accepted
        rw [requestsOn, whole]
        exact List.mem_append_left _ member
      -- the release of the call is the only one
      have asked : (⟨.releaseInterface handle settings.interface, released⟩ : Event) ∈
          (fresh locator settings).requestsOn handle actions := by
        refine List.mem_filter.mpr ⟨List.mem_map_of_mem made, ?_⟩
        simp [Request.handle?]
      rw [whole, List.mem_append] at asked
      rcases asked with before | after
      · cases unreleased _ before
      · have same : released = last := by simpa using after
        exact ⟨earlier, same ▸ whole, unreleased⟩

end Interface

/-! ### The outstanding read -/

/--
How the recorded read ends that a closing call has told to stop: as its worker had decided before,
or as in `StopEnding`.
-/
structure Resolves (begun : Connection) (call : Nat) (link : Link) (during : List Action) :
    Prop where
  ends : ∀ {number}, link.reader = some number → ∃ later told record,
    Told begun call number during later told ∧ told.reads[number]? = some record ∧
      record.cancelled = true ∧
      ∀ {more last read ending}, told.run? more = some last → last.reads[number]? = some read →
        read.ending? = some ending →
        record.stage.decided? = some ending ∨
          record.stage.decided? = none ∧ StopEnding number (told.exchanges more) ending

section Outstanding

variable {locator : Locator} {settings : Settings} {actions during later : List Action}
  {start begun told final : Connection} {link : Link} {started : Except SystemError Unit}
  {call number : Nat}

theorem Told.exists_record {read : Read} (tells : Told begun call number during later told)
    (found : begun.reads[number]? = some read) :
    ∃ record, told.reads[number]? = some record ∧ record.cancelled = true := by
  cases tells with
  | @tells earlier later before told ran stands stepped =>
      obtain ⟨record, there, -⟩ : ∃ record, _ ∧ True := read_of_run (fun _ => id) found trivial ran
      have cancelled : (before.cancel number).reads[number]? =
          some { record with cancelled := true } := by
        simp [cancel, changeRead, there]
      cases Move.of_step? stepped with
      | turns stood turn =>
          cases stands.symm.trans stood
          cases turn with
          | cancels => exact ⟨_, cancelled, rfl⟩
          | overflows => exact ⟨_, cancelled, rfl⟩

theorem Told.run?_eq (tells : Told begun call number during later told)
    (ran : begun.run? during = some final) : told.run? later = some final := by
  cases tells with
  | tells ranEarlier stands stepped =>
      rw [run?_append, ranEarlier, Option.bind_some, run?, stepped] at ran
      exact ran

/-- What happens to a read after it was told to stop. -/
theorem ending_of_told {told last : Connection} {more : List Action} {record read : Read}
    {ending : ReadEnding} (found : told.reads[number]? = some record)
    (cancelled : record.cancelled = true) (ran : told.run? more = some last)
    (there : last.reads[number]? = some read) (ended : read.ending? = some ending) :
    record.stage.decided? = some ending ∨
      record.stage.decided? = none ∧ StopEnding number (told.exchanges more) ending := by
  have decided : read.stage.decided? = some ending := by
    rw [Read.ending?_eq_some.mp ended, ReaderStage.decided?]
  cases before : record.stage.decided? with
  | none =>
      rcases stopping_of_run found cancelled before ran with ⟨next, thereToo, stopping⟩
      cases there.symm.trans thereToo
      exact .inr ⟨rfl, stopping.decided decided⟩
  | some earlier =>
      rcases decided_of_run found before ran with ⟨next, thereToo, still⟩
      cases there.symm.trans thereToo
      cases still.symm.trans decided
      exact .inl rfl

theorem exists_read_of_begins (ran : (fresh locator settings).run? actions = some start)
    (held : start.link = some link)
    (begins : start.step? (.invoke .close started) = some begun)
    (recorded : link.reader = some number) : ∃ read, begun.reads[number]? = some read := by
  have inside := noted_of_run ran number (by simp [reader?, held, recorded])
  rcases (Move.of_step? begins).readFate (List.getElem?_eq_getElem inside) with ⟨read, there, -⟩
  exact ⟨read, there⟩

end Outstanding

/-! ### Both outcomes -/

/--
That a call gave up closing the port of a link: the port is open as before and goes on to serve. The
call began after `course`, and what happened since is `during`.
-/
structure Reverted (locator : Locator) (settings : Settings) (start begun : Connection)
    (link : Link) (handle : Handle) (course during : List Action) (deadline : Duration)
    (final : Connection) (ending : Ending) : Prop where
  returned : ending = .returned (.error (.cancelTimeout deadline))
  /-- The recorded read was still polling when the deadline passed. -/
  late : ∃ number, link.reader = some number ∧ Late begun start.tasks.length number during
  opened : final.state = .opened
  /-- The address is the same, and so is the line configuration if none was recorded meanwhile. -/
  kept : Pause start begun link during final
  silent : eventsOf (.call start.tasks.length) (begun.exchanges during) = []
  unreleased : ∀ event ∈ (fresh locator settings).requestsOn handle (course ++ during),
    event.1.isRelease = false
  writes : ∀ {place acceptance},
    ((fresh locator settings).acceptances link.session (course ++ during))[place]? =
      some acceptance →
    Handled final ((fresh locator settings).requestsOn handle (course ++ during)) place acceptance ∨
      final.Waiting link.session acceptance.write
  /-- Unless a transfer has crashed, writes are accepted, and each of them is settled. -/
  takesWrites : (∀ transmission ∈
      transmissions ((fresh locator settings).requestsOn handle (course ++ during)),
      transmission.reply ≠ .crashed) →
    ∀ data, ∃ next, final.startWrite data = (next, .ok final.writes.length) ∧
      ∀ {run turns}, FairRun next run turns →
        ∃ time result, (run time).resolution? final.writes.length = some result
  /-- Calls that configure the line go to the device and return. -/
  takesCommands : ∀ {made line commands}, made.Configures line commands → ∀ response, ∃ next,
    final.step? (.invoke made response) = some next ∧
      next.tasks[final.tasks.length]? = some (.configuring link.session line
        ⟨LineCommand.sendAll handle settings.controlTimeout commands, false⟩) ∧
      ∀ {run turns}, FairRun next run turns →
        ∃ time result, (run time).tasks[final.tasks.length]? = some (.finished (.returned result))
  /-- The read can stop, and then the next call can close the port. -/
  closable : ∃ stopping closing closed,
    final.run? (stopping ++ .invoke .close (.ok ()) :: closing) = some closed ∧
      closed.tasks[final.tasks.length]? = some (Task.succeeded .done) ∧
      closed.state = .closed ∧ closed.link = none

/--
That a call closed the port of a link, where `released` is what the bus said to the release. The
call began after `course`, and what happened since is `during`.
-/
structure Departed (locator : Locator) (settings : Settings) (start begun : Connection)
    (link : Link) (handle : Handle) (course during : List Action) (final : Connection)
    (ending : Ending) (released : Except Status Unit) : Prop where
  returned : ending = .returned ((released.mapError .releaseFailed).map fun _ => .done)
  closed : final.state = .closed
  bare : final.link = none
  stopped : ∀ read ∈ final.reads, read.phase.isTerminal = true
  writes : ∀ {place acceptance},
    ((fresh locator settings).acceptances link.session (course ++ during))[place]? =
      some acceptance →
    Handled final ((fresh locator settings).requestsOn handle (course ++ during)) place acceptance
  left : eventsOf (.call start.tasks.length) (begun.exchanges during) =
    [⟨.releaseInterface handle settings.interface, released⟩, ⟨.closeHandle handle, ()⟩]
  /-- The interface was not released before. -/
  once : ∃ earlier, (fresh locator settings).requestsOn handle (course ++ during) =
      earlier ++ [⟨.releaseInterface handle settings.interface, released⟩,
        ⟨.closeHandle handle, ()⟩] ∧
    ∀ event ∈ earlier, event.1.isRelease = false

section Outcomes

variable {locator : Locator} {settings : Settings} {actions : List Action} {connection : Connection}
  {link : Link} {handle : Handle}

/-- When nobody holds a link, all reads have ended. -/
theorem isTerminal_of_bare (ran : (fresh locator settings).run? actions = some connection)
    (closed : connection.state = .closed) {read : Read} (member : read ∈ connection.reads) :
    read.phase.isTerminal = true := by
  rcases List.getElem?_of_mem member with ⟨number, found⟩
  have sound := sound_of_run ran
  rw [(conclusive_of_run ran).isTerminal_eq found]
  cases running : read.isFinished with
  | true => rfl
  | false =>
      have duty := sound.recorded.unfinished ⟨read, found, rfl, running⟩
      rcases Option.map_eq_some_iff.mp duty with ⟨link, held, -⟩
      exact absurd (HoldsLink.of_link held) (sound.orderly.not_holdsLink_of_closed closed _)

/-- An open port takes writes unless a transfer has crashed, and in a fair run they are settled. -/
theorem write_settles {data : List UInt8}
    (ran : (fresh locator settings).run? actions = some connection)
    (opened : connection.openLink? = some link)
    (intact : ∀ transmission ∈ transmissions (eventsOf (.writer link.session)
      ((fresh locator settings).exchanges actions)), transmission.reply ≠ .crashed) :
    ∃ next, connection.startWrite data = (next, .ok connection.writes.length) ∧
      ∀ {run course}, FairRun next run course →
        ∃ time result, (run time).resolution? connection.writes.length = some result := by
  rcases startWrite_of_open ran opened intact data with ⟨next, stage, queue, starts, desk, alive⟩
  have taken := startWrite_of_start starts
  have stepped : connection.step? (.startWrite data) = some next := by rw [step?, taken]
  obtain ⟨rank, ahead⟩ : ∃ rank, Ahead connection.writes.length stage
      (queue ++ [connection.writes.length]) rank := exists_ahead alive
  have lined : Lined locator settings link.session connection.writes.length rank
      (.writer link.session) next :=
    ⟨Reachable.of_step? ⟨actions, ran⟩ stepped, rfl, _, _, desk, ahead⟩
  exact ⟨next, taken, fun fair => fair.write_settled lined⟩

/-- An open port takes calls that configure the line, and in a fair run they return. -/
theorem configuring_returns {session : Session} {made : Call} {line : Option LineConfig}
    {commands : List LineCommand} (asked : made.Configures line commands)
    (response : Except SystemError Unit)
    (ran : (fresh locator settings).run? actions = some connection)
    (opened : connection.openLink? = some link)
    (found : connection.sessions[link.session]? = some session) :
    ∃ next, connection.step? (.invoke made response) = some next ∧
      next.tasks[connection.tasks.length]? = some (.configuring link.session line
        ⟨LineCommand.sendAll session.handle settings.controlTimeout commands, false⟩) ∧
      ∀ {run course}, FairRun next run course → ∃ time result,
        (run time).tasks[connection.tasks.length]? = some (.finished (.returned result)) := by
  obtain ⟨next, stepped, stands⟩ : ∃ next, connection.step? (.invoke made response) = some next ∧
      next.tasks[connection.tasks.length]? = some (.configuring link.session line
        ⟨LineCommand.sendAll session.handle connection.settings.controlTimeout commands,
          false⟩) := by
    cases asked <;> simp [step?, permits, invoke, enter, enterConfigure, opened, found,
      changeSession]
  rw [(sound_of_run ran).placed.set] at stands
  exact ⟨next, stepped, stands, fun fair =>
    fair.configuring_returns (Reachable.of_step? ⟨actions, ran⟩ stepped) stands (.busy rfl)⟩

section Both

variable {start begun final : Connection} {during : List Action} {deadline : Duration}
  {started : Except SystemError Unit} {ending : Ending} (aloof : locator.source.Aloof)
  (known : settings.effectiveDeadline? = some deadline)
  (ran : (fresh locator settings).run? actions = some start) (held : start.link = some link)
  (begins : start.step? (.invoke .close started) = some begun)
  (ranDuring : begun.run? during = some final)
  (device : final.handles[link.session]? = some handle)
  (once : (openings (log ((fresh locator settings).exchanges
    (actions ++ [.invoke .close started] ++ during)))).Nodup)

include ran held begins in
theorem Warned.resolves (warned : Warned begun start.tasks.length link during) :
    Resolves begun start.tasks.length link during := by
  constructor
  intro number recorded
  rcases exists_read_of_begins ran held begins recorded with ⟨read, found⟩
  rcases warned.told recorded with ⟨later, told, tells⟩
  rcases tells.exists_record found with ⟨record, there, cancelled⟩
  exact ⟨later, told, record, tells, there, cancelled, ending_of_told there cancelled⟩

include aloof known ran held begins ranDuring device once

/-- What holds at the end of a call that closes the port. -/
theorem Outcome.reverted_or_departed
    (outcome : Outcome settings start begun link handle start.tasks.length during final ending) :
    Reverted locator settings start begun link handle (actions ++ [.invoke .close started]) during
        deadline final ending ∨
      ∃ released, Departed locator settings start begun link handle
        (actions ++ [.invoke .close started]) during final ending released := by
  have ranBegun := run?_concat_eq_some.mpr ⟨start, ran, begins⟩
  have ranFinal : (fresh locator settings).run? (actions ++ [.invoke .close started] ++ during) =
      some final := by
    rw [run?_append, ranBegun]
    exact ranDuring
  have sound := sound_of_run ranFinal
  obtain ⟨session, found, rfl⟩ : ∃ session, final.sessions[link.session]? = some session ∧
      session.handle = handle := by
    rw [handles, List.getElem?_map] at device
    exact Option.map_eq_some_iff.mp device
  have ledger := ledger_on_handle aloof ranFinal once found
  cases outcome with
  | @reverts number same recorded warned late sure pause opened silent =>
      cases known.symm.trans sure
      have openedAgain := openLink?_eq_some.mpr ⟨opened, pause.held⟩
      refine .inl ⟨rfl, ⟨number, recorded, late⟩, opened, pause, silent, ?_, ?_, ?_, ?_, ?_⟩
      · exact not_release_of_link aloof ranFinal once device pause.held rfl
      · intro place acceptance took
        rcases ledger.handled_or_waiting took with handled | ⟨-, waits⟩
        · exact .inl handled
        · exact .inr ⟨session.writer, session.queue, desk_of_getElem? found, waits⟩
      · intro intact data
        have distinct := (disciplined_of_run aloof ranFinal once).distinct
        rw [transmissions_requestsOn aloof ranFinal distinct device] at intact
        exact write_settles ranFinal openedAgain intact
      · intro made line commands asked response
        have returns := configuring_returns asked response ranFinal openedAgain found
        exact returns
      · refine exists_closed ⟨_, ranFinal⟩ openedAgain (by simp [known]) fun {number} recorded => ?_
        rcases exists_read_of_begins ran held begins recorded with ⟨read, there⟩
        rcases warned.told recorded with ⟨later, told, tells⟩
        rcases tells.exists_record there with ⟨record, thereThen, cancelled⟩
        exact read_of_run (fun fate => fate.told) thereThen cancelled (tells.run?_eq ranDuring)
  | departs warned path closed bare =>
      rcases leave_path path with ⟨released, events, rfl⟩
      refine .inr ⟨released, rfl, closed, bare, fun read => isTerminal_of_bare ranFinal closed, ?_,
        events, ?_⟩
      · intro place acceptance took
        have lost := sound.orderly.not_holdsLink_of_closed closed link.session
        rcases ledger.handled_or_waiting took with handled | ⟨alive, -⟩
        · exact handled
        · cases alive.symm.trans (sound.owned.writer_over found lost)
      · have made : (.call start.tasks.length,
            ⟨.releaseInterface session.handle settings.interface, released⟩) ∈
              (fresh locator settings).exchanges
                (actions ++ [.invoke .close started] ++ during) := by
          rw [← mem_eventsOf, eventsOf_begun during ran begins, events]
          exact List.mem_cons_self
        exact released_once aloof ranFinal once device closed made

end Both

/--
A call that closes an open port ends in every fair run, whatever the bus answers and whatever else
goes on, if twice the poll timeout is in range. It ends in one of two ways. Either the recorded read
is still polling when the deadline passes, and then the port is open as before and goes on to serve;
or the port is closed with nothing left to do, and the result of the call is that of the only
release of the interface. In both cases a recorded read that was told to stop before its worker had
decided ends as cancelled with no bytes, or with the error of a poll that came back after that.

The source of devices must leave open devices alone while it enumerates, and the bus must give out
each handle once.
-/
theorem close_reverts_or_departs {double : Duration} {start begun : Connection}
    {started : Except SystemError Unit} (aloof : locator.source.Aloof)
    (fits : settings.pollTimeout.double? = some double)
    (ran : (fresh locator settings).run? actions = some start) (opened : start.state = .opened)
    (begins : start.step? (.invoke .close started) = some begun) :
    ∃ link session, start.link = some link ∧ start.sessions[link.session]? = some session ∧
      (∀ {run course}, FairRun begun run course → ∃ time result,
        (run time).tasks[start.tasks.length]? = some (.finished (.returned result))) ∧
      ∀ {during before action final ending}, begun.run? during = some before →
        (∀ earlier, before.tasks[start.tasks.length]? ≠ some (.finished earlier)) →
        before.step? action = some final →
        final.tasks[start.tasks.length]? = some (.finished ending) →
        (openings (log ((fresh locator settings).exchanges
          (actions ++ [.invoke .close started] ++ (during ++ [action]))))).Nodup →
        (Reverted locator settings start begun link session.handle
            (actions ++ [.invoke .close started]) (during ++ [action])
            (settings.closeDeadline.getD double) final ending ∨
          ∃ released, Departed locator settings start begun link session.handle
            (actions ++ [.invoke .close started]) (during ++ [action]) final ending released) ∧
        Resolves begun start.tasks.length link (during ++ [action]) := by
  have known : settings.effectiveDeadline? = some (settings.closeDeadline.getD double) := by
    rw [Settings.effectiveDeadline?, fits, Option.map_some]
  have able : settings.effectiveDeadline? ≠ none := by simp [known]
  have sound := sound_of_run ran
  rcases Option.isSome_iff_exists.mp (sound.orderly.linked_of_opened opened) with ⟨link, held⟩
  rcases sound.owned.exists_session held with ⟨session, found⟩
  have openedLink := openLink?_eq_some.mpr ⟨opened, held⟩
  have device := handles_getElem? found
  refine ⟨link, session, held, found, ?_, ?_⟩
  · intro run course fair
    have reached := run?_concat_eq_some.mpr ⟨start, ran, begins⟩
    rcases fair.leaves ⟨_, reached⟩ (exists_leaving ran openedLink begins).2 with
      ⟨time, ending, ended, -, overflows⟩
    cases ending with
    | returned result => exact ⟨time, result, ended⟩
    | overflowed => exact absurd (overflows.mp rfl).1 able
  · intro during before action final ending ranDuring unfinished stepped ended once
    have outcome :=
      outcome_of_run ran device able begins openedLink ranDuring unfinished stepped ended
    have ranOn := run?_concat_eq_some.mpr ⟨before, ranDuring, stepped⟩
    have deviceThen := handle_of_begun device begins ranOn
    refine ⟨outcome.reverted_or_departed aloof known ran held begins ranOn deviceThen once, ?_⟩
    cases outcome with
    | reverts recorded warned => exact warned.resolves ran held begins
    | departs warned => exact warned.resolves ran held begins

end Outcomes

/-- A call begins to close a port with a read that polls and a write in the queue. -/
def closing : List Action := loaded ++ [.invoke .close (.ok ())]

/-- The deadline passes while the read polls, and the call is about to give up. -/
def waitsInVain : List Action := [.advance (.call 1), .expire 1]

/-- The read stops, the write is sent, the release fails, and the call is about to end. -/
def unloadsAll : List Action := unloads.dropLast

/-- Both outcomes are possible. -/
theorem loaded_reverts_or_departs :
    ∃ link handle,
      Reverted Sample.connection.locator Sample.connection.settings (Sample.after loaded)
        (Sample.after closing) link handle closing (waitsInVain ++ [.advance (.call 1)])
        (.ofMilliseconds 400) (Sample.after (closing ++ waitsInVain ++ [.advance (.call 1)]))
        (.returned (.error (.cancelTimeout (.ofMilliseconds 400)))) ∧
      Departed Sample.connection.locator Sample.connection.settings (Sample.after loaded)
        (Sample.after closing) link handle closing (unloadsAll ++ [.advance (.call 1)])
        (Sample.after (closing ++ unloadsAll ++ [.advance (.call 1)]))
        (.returned (.error (.releaseFailed .busy))) (.error .busy) := by
  have ran : Sample.connection.run? loaded = some (Sample.after loaded) := rfl
  have opened : (Sample.after loaded).state = .opened := rfl
  have begins : (Sample.after loaded).step? (.invoke .close (.ok ())) =
    some (Sample.after closing) := rfl
  have fits : Sample.connection.settings.pollTimeout.double? = some (.ofMilliseconds 400) := rfl
  rcases close_reverts_or_departs Source.direct_aloof fits ran opened begins with
    ⟨link, session, -, -, -, outcomes⟩
  have once {during : List Action}
      (opens : openings (log (Sample.connection.exchanges (closing ++ during))) = [⟨3⟩]) :
      (openings (log (Sample.connection.exchanges (closing ++ during)))).Nodup := by
    rw [opens]
    decide
  have unfinished {connection : Connection} {task : Task}
      (stands : connection.tasks[(Sample.after loaded).tasks.length]? = some task)
      (busy : task.isOver = false) (earlier : Ending) :
      connection.tasks[(Sample.after loaded).tasks.length]? ≠ some (.finished earlier) := by
    rintro ended
    cases stands.symm.trans ended
    cases busy
  refine ⟨link, session.handle, ?_, ?_⟩
  · have waits : (Sample.after closing).run? waitsInVain =
      some (Sample.after (closing ++ waitsInVain)) := rfl
    have stands :
        (Sample.after (closing ++ waitsInVain)).tasks[(Sample.after loaded).tasks.length]? =
      some (.reverting (.ofMilliseconds 400)) := rfl
    have stepped : (Sample.after (closing ++ waitsInVain)).step? (.advance (.call 1)) =
      some (Sample.after (closing ++ waitsInVain ++ [.advance (.call 1)])) := rfl
    have again : (Sample.after (closing ++ waitsInVain ++ [.advance (.call 1)])).state =
        .opened := rfl
    rcases (outcomes waits (unfinished stands rfl) stepped rfl (once rfl)).1 with
      reverted | ⟨_, departed⟩
    · exact reverted
    · cases again.symm.trans departed.closed
  · have goes : (Sample.after closing).run? unloadsAll =
      some (Sample.after (closing ++ unloadsAll)) := rfl
    have stands :
        (Sample.after (closing ++ unloadsAll)).tasks[(Sample.after loaded).tasks.length]? =
      some (.settling (.error (.releaseFailed .busy))) := rfl
    have stepped : (Sample.after (closing ++ unloadsAll)).step? (.advance (.call 1)) =
      some (Sample.after (closing ++ unloadsAll ++ [.advance (.call 1)])) := rfl
    have shut : (Sample.after (closing ++ unloadsAll ++ [.advance (.call 1)])).state =
        .closed := rfl
    rcases (outcomes goes (unfinished stands rfl) stepped rfl (once rfl)).1 with
      reverted | ⟨released, departed⟩
    · cases shut.symm.trans reverted.opened
    · cases released with
      | ok _ => cases departed.returned
      | error status =>
          cases departed.returned
          exact departed

/-- A bus on which transfers from the device fail. -/
def silenced : Replies
  | .bulkIn _ _ _ _ => .failed .inputOutput
  | request => Sample.bus [] (.ok ()) request

/--
A read that was told to stop while it polled need not end as cancelled: after the call has given up,
its poll fails, and so does the read.
-/
theorem stopped_read_fails :
    ∃ told final last read, Sample.connection.run? (closing ++ [.advance (.call 1)]) = some told ∧
      (told.reads[0]?.map fun record => (record.cancelled, record.stage)) = some (true, .polling) ∧
      told.run? [.expire 1, .advance (.call 1)] = some final ∧
      final.tasks[1]? =
        some (.finished (.returned (.error (.cancelTimeout (.ofMilliseconds 400))))) ∧
      final.run? [.answer (.reader 0) silenced, .advance (.reader 0), .advance (.reader 0)] =
        some last ∧
      last.reads[0]? = some read ∧
      read.ending? = some ⟨.failed, .error (.transferFailed .input .inputOutput)⟩ ∧
      read.ending? ≠ some ⟨.cancelled, .ok []⟩ :=
  ⟨_, _, _, _, rfl, rfl, rfl, rfl, rfl, rfl, rfl, nofun⟩

end Connection

end CdcSerial
