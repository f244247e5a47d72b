import CdcSerial.Proofs.Connection.Discipline
import CdcSerial.Proofs.Connection.Ledger
import CdcSerial.Proofs.Connection.Transitions

/-!
# Writes are sent in the order in which they were accepted

The ledger of a session speaks of what its worker sends. Here it is read as a statement about the
device: nobody but the worker sends anything to the handle of its session, so the transfers on the
handle are those of the ledger. What the bus is still asked for is covered too, since a course goes
on with any answer to it.

When the port is closed, nobody holds the link, so the worker has ended; unless a transfer crashed,
it has sent everything, and it did so before the interface was released.
-/

namespace CdcSerial

theorem Request.exists_handle {request : Request} (sends : request.isOutput = true) :
    ∃ handle, request.handle? = some handle := by
  cases request with
  | bulkOut => exact ⟨_, rfl⟩
  | _ => cases sends

theorem isOutput_of_transmission? {event : Event} {transmission : Transmission}
    (sends : transmission? event = some transmission) : event.1.isOutput = true := by
  rcases event with ⟨request, reply⟩
  cases request <;> simp_all [transmission?, Request.isOutput]

namespace Connection

open Procedure

/-! ### Who sends -/

section Sending

variable {locator : Locator} {settings : Settings} {actions : List Action} {connection : Connection}

/-- Only the worker of a session sends data, and it sends them to the device of the session. -/
theorem Move.sender {calls : List Call} {exchanges : List Exchange} {before after : Connection}
    {action : Action} {thread : Thread} {event : Event} (aloof : locator.source.Aloof)
    (sound : Sound locator settings calls exchanges before)
    (move : Move before action (some (thread, event)) after) (sends : event.1.isOutput = true) :
    ∃ number, thread = .writer number ∧ before.handles[number]? = event.1.handle? := by
  cases move with
  | @answered call task request replies changed next stands answer =>
      have withheld := Request.not_output_of_not_bulk (sound.transfers aloof stands answer).1
      rw [withheld] at sends
      cases sends
  | readerAnswered found held answer => cases answer <;> cases sends
  | @writerAnswered number session request replies _ found answer =>
      cases answer with
      | wrote writing => exact ⟨number, rfl, handles_getElem? found⟩
      | closed closing => cases sends

theorem sender_of_run (aloof : locator.source.Aloof)
    (ran : (fresh locator settings).run? actions = some connection) {thread : Thread}
    {event : Event} (made : (thread, event) ∈ (fresh locator settings).exchanges actions)
    (sends : event.1.isOutput = true) :
    ∃ number, thread = .writer number ∧ connection.handles[number]? = event.1.handle? := by
  refine run_induction (motive := fun actions connection => ∀ thread (event : Event),
    (thread, event) ∈ (fresh locator settings).exchanges actions → event.1.isOutput = true →
      ∃ number, thread = .writer number ∧ connection.handles[number]? = event.1.handle?)
    ?_ ?_ ran thread event made sends
  · intro thread event made
    cases made
  · intro actions middle action final ranBefore senders stepped thread event made sends
    have move := Move.of_step? stepped
    rcases move.keeps with ⟨more, keeps⟩
    have earlier : ∃ number,
        thread = .writer number ∧ middle.handles[number]? = event.1.handle? := by
      rw [exchanges_concat ranBefore stepped] at made
      rcases List.mem_append.mp made with old | new
      · exact senders thread event old sends
      · rw [Option.mem_toList] at new
        rw [new] at move
        exact move.sender aloof (sound_of_run ranBefore) sends
    rcases earlier with ⟨number, writes, held⟩
    refine ⟨number, writes, ?_⟩
    rcases Request.exists_handle sends with ⟨handle, here⟩
    rw [here] at held ⊢
    rw [keeps.handles, List.getElem?_append_left (List.getElem?_eq_some_iff.mp held).1, held]

/-- The transfers to the device of a session are those that its worker makes. -/
theorem transmissions_requestsOn (aloof : locator.source.Aloof)
    (ran : (fresh locator settings).run? actions = some connection)
    (distinct : connection.handles.Nodup) {number : Nat} {handle : Handle}
    (held : connection.handles[number]? = some handle) :
    transmissions ((fresh locator settings).requestsOn handle actions) =
      transmissions (eventsOf (.writer number) ((fresh locator settings).exchanges actions)) := by
  simp only [transmissions, requestsOn, onHandle, log, eventsOf, List.filterMap_map,
    List.filterMap_filter, List.filter_map]
  apply List.filterMap_congr
  rintro ⟨thread, event⟩ made
  cases sends : transmission? event with
  | none => simp [sends]
  | some transmission =>
      obtain ⟨other, rfl, here⟩ := sender_of_run aloof ran made (isOutput_of_transmission? sends)
      by_cases same : other = number
      · subst same
        rw [held] at here
        simp [sends, ← here]
      · have apart : event.1.handle? ≠ some handle := by
          intro also
          rw [also] at here
          exact same (((List.getElem?_inj (List.getElem?_eq_some_iff.mp here).1 distinct).mp
            (here.trans held.symm)))
        simp [apart, same]

theorem ledger_on_handle (aloof : locator.source.Aloof)
    (ran : (fresh locator settings).run? actions = some connection)
    (once : (openings (log ((fresh locator settings).exchanges actions))).Nodup) {number : Nat}
    {session : Session} (found : connection.sessions[number]? = some session) :
    Ledger settings connection.writes number ((fresh locator settings).acceptances number actions)
      (transmissions ((fresh locator settings).requestsOn session.handle actions)) session.writer
      session.queue := by
  have distinct := (disciplined_of_run aloof ran once).distinct
  rw [transmissions_requestsOn aloof ran distinct (handles_getElem? found)]
  exact (ledgers_of_run ran).kept (desk_of_getElem? found)

end Sending

/-! ### What a ledger says -/

theorem Ends.of_split {crashed : Bool} {earlier later : List Transmission} {last : Transmission}
    (ends : Ends crashed (earlier ++ last :: later)) (crash : last.reply = .crashed) :
    crashed = true ∧ later = [] := by
  generalize whole : earlier ++ last :: later = sent at ends
  cases ends with
  | well intact =>
      subst whole
      exact absurd crash (intact last (by simp))
  | @badly first final intact =>
      refine ⟨rfl, ?_⟩
      rcases List.eq_nil_or_concat later with empty | ⟨front, end', rfl⟩
      · exact empty
      · rw [List.concat_eq_append, ← List.cons_append, ← List.append_assoc] at whole
        have same := (List.append_inj' whole rfl).1
        exact absurd crash (intact last (by simp [← same]))

namespace Ledger

variable {settings : Settings} {writes : List Write} {number : Nat} {accepted : List Acceptance}
  {sent : List Transmission} {stage : WriterStage} {queue : List Nat}

theorem sent_data {done : List Acceptance}
    (pairs : List.Forall₂ (Sent settings writes number) done sent) :
    sent.map (·.data) = done.map (·.data) := by
  induction pairs with
  | nil => rfl
  | cons first rest ih => simp [first.data, ih]

theorem sent_prefix (ledger : Ledger settings writes number accepted sent stage queue) :
    sent.map (·.data) <+: accepted.map (·.data) := by
  rcases ledger.divided with ⟨done, unsent, crashed, state, rfl, pairs, -, -, -⟩
  rw [sent_data pairs, List.map_append]
  exact List.prefix_append _ _

theorem sent_so (ledger : Ledger settings writes number accepted sent stage queue)
    {transmission : Transmission} (member : transmission ∈ sent) :
    transmission.endpoint = settings.endpointOut ∧
      transmission.timeout = settings.writeTimeout := by
  rcases ledger.divided with ⟨done, unsent, crashed, state, -, pairs, -, -, -⟩
  clear ledger
  induction pairs with
  | nil => cases member
  | cons first rest ih =>
      rcases List.mem_cons.mp member with rfl | later
      · exact ⟨first.endpoint, first.timeout⟩
      · exact ih later

/-- The write at a place is in the state that goes with the transfer at that place. -/
theorem filed_of_sent (ledger : Ledger settings writes number accepted sent stage queue)
    {place : Nat} {acceptance : Acceptance} {transmission : Transmission}
    (took : accepted[place]? = some acceptance) (made : sent[place]? = some transmission) :
    Filed writes number transmission.reply.outcome acceptance := by
  rcases ledger.divided with ⟨done, unsent, crashed, state, rfl, pairs, -, -, -⟩
  rcases List.forall₂_iff_get.mp pairs with ⟨same, paired⟩
  rcases List.getElem?_eq_some_iff.mp made with ⟨inside, rfl⟩
  rw [List.getElem?_append_left (by omega)] at took
  rcases List.getElem?_eq_some_iff.mp took with ⟨there, rfl⟩
  exact (paired place there inside).filed

/-- What was not sent waits, or was lost in a crash. -/
theorem filed_of_unsent (ledger : Ledger settings writes number accepted sent stage queue)
    {place : Nat} {acceptance : Acceptance} (took : accepted[place]? = some acceptance)
    (beyond : sent.length ≤ place) : ∃ crashed state, Ends crashed sent ∧
      Filed writes number state acceptance ∧
      (state = .queued ∧ (crashed = true → stage = .unwinding) ∨
        state = .lost ∧ crashed = true ∧ stage.hasQueue = false) := by
  rcases ledger.divided with ⟨done, unsent, crashed, state, rfl, pairs, remains, ends, desk⟩
  rw [List.getElem?_append_right (by rw [pairs.length_eq]; exact beyond)] at took
  refine ⟨crashed, state, ends, remains acceptance (List.mem_of_getElem? took), ?_⟩
  generalize unsent.map (·.write) = numbers at desk
  cases desk with
  | waiting => exact .inl ⟨rfl, nofun⟩
  | writing => exact .inl ⟨rfl, nofun⟩
  | unwinding => exact .inl ⟨rfl, fun _ => rfl⟩
  | stopped dead => exact .inl ⟨rfl, nofun⟩
  | lost dead => exact .inr ⟨rfl, rfl, dead⟩

/-- After a crash the writer is about to lose what remains, or has lost it. -/
theorem stage_of_crash {earlier later : List Transmission} {last : Transmission}
    (ledger : Ledger settings writes number accepted (earlier ++ last :: later) stage queue)
    (crash : last.reply = .crashed) :
    later = [] ∧ (stage = .unwinding ∨ stage.hasQueue = false) := by
  rcases ledger.divided with ⟨done, unsent, crashed, state, -, -, -, ends, desk⟩
  rcases ends.of_split crash with ⟨rfl, last⟩
  refine ⟨last, ?_⟩
  generalize unsent.map (·.write) = numbers at desk
  cases desk with
  | unwinding => exact .inl rfl
  | lost dead => exact .inr dead

/-- Without a crash a writer that has stopped has sent everything. -/
theorem all_sent (ledger : Ledger settings writes number accepted sent stage queue)
    (dead : stage.hasQueue = false)
    (intact : ∀ transmission ∈ sent, transmission.reply ≠ .crashed) :
    sent.map (·.data) = accepted.map (·.data) := by
  rcases ledger.divided with ⟨done, unsent, crashed, state, rfl, pairs, -, ends, desk⟩
  rw [sent_data pairs]
  generalize numbered : unsent.map (·.write) = numbers at desk
  cases desk with
  | stopped => simp [List.map_eq_nil_iff.mp numbered]
  | lost =>
      cases ends with
      | badly _ crash => exact absurd crash (intact _ (by simp))
  | _ => cases dead

end Ledger

theorem resolution?_of_filed {connection : Connection} {number : Nat} {state : WriteState}
    {acceptance : Acceptance} (filed : Filed connection.writes number state acceptance) :
    connection.resolution? acceptance.write = state.result? := by
  rw [resolution?, show connection.writes[acceptance.write]? = _ from filed]
  rfl

/-- After a crash, what was not sent before it is lost, except while the writer unwinds. -/
theorem Ledger.lost_of_crash {settings : Settings} {connection : Connection} {number place : Nat}
    {accepted : List Acceptance} {earlier later : List Transmission} {last : Transmission}
    {stage : WriterStage} {queue : List Nat} {acceptance : Acceptance}
    (ledger : Ledger settings connection.writes number accepted
      (earlier ++ last :: later) stage queue)
    (crash : last.reply = .crashed) (settled : stage ≠ .unwinding) (behind : earlier.length ≤ place)
    (took : accepted[place]? = some acceptance) :
    connection.resolution? acceptance.write = some (.error .workerLost) := by
  rcases ledger.stage_of_crash crash with ⟨rfl, -⟩
  rcases Nat.eq_or_lt_of_le behind with rfl | beyond
  · have filed := ledger.filed_of_sent took (List.getElem?_concat_length ..)
    rw [resolution?_of_filed filed, crash]
    rfl
  · have unsent : (earlier ++ [last]).length ≤ place := by simpa
    rcases ledger.filed_of_unsent took unsent with
      ⟨crashed, state, ends, filed, ⟨-, unwinds⟩ | ⟨rfl, -⟩⟩
    · exact absurd (unwinds (ends.of_split crash).1) settled
    · rw [resolution?_of_filed filed]
      rfl

/-! ### Going on -/

section Further

variable {locator : Locator} {settings : Settings} {actions : List Action} {connection : Connection}
  {number : Nat} {session : Session}

theorem Move.keepsSession {before after : Connection} {action : Action}
    {exchange? : Option Exchange} (move : Move before action exchange? after)
    (found : before.sessions[number]? = some session) :
    ∃ later, after.sessions[number]? = some later ∧ later.handle = session.handle := by
  rcases move.keeps with ⟨more, keeps⟩
  have held := handles_getElem? found
  have kept : after.handles[number]? = some session.handle := by
    rw [keeps.handles, List.getElem?_append_left (List.getElem?_eq_some_iff.mp held).1, held]
  rw [handles, List.getElem?_map] at kept
  exact Option.map_eq_some_iff.mp kept

theorem acceptances_concat {start middle final : Connection} {action : Action}
    (ran : start.run? actions = some middle) (stepped : middle.step? action = some final) :
    start.acceptances number (actions ++ [action]) =
      start.acceptances number actions ++ (middle.acceptance? number action).toList :=
  along_concat ran stepped

/-- With the transfer that a thread is waiting for there is still a ledger. -/
theorem ledger_of_pending (aloof : locator.source.Aloof)
    (ran : (fresh locator settings).run? actions = some connection)
    (once : (openings (log ((fresh locator settings).exchanges actions))).Nodup)
    (found : connection.sessions[number]? = some session) {thread : Thread}
    {pending : Pending Connection} {endpoint : UInt8} {data : List UInt8} {timeout : Duration}
    (waits : connection.pending? thread = some pending)
    (asks : pending.request = .bulkOut session.handle endpoint data timeout) :
    ∃ writes stage queue reply, Ledger settings writes number
      ((fresh locator settings).acceptances number actions)
      (transmissions ((fresh locator settings).requestsOn session.handle actions) ++
        [⟨endpoint, data, timeout, reply⟩]) stage queue := by
  rcases pending with ⟨request, resume⟩
  subst asks
  let replies : Replies := Sample.bus [] (.ok ())
  rcases run?_answer ran waits replies with ⟨final, ranOn, seen⟩
  rcases run?_concat_eq_some.mp ranOn with ⟨middle, ranBefore, stepped⟩
  cases ran.symm.trans ranBefore
  rcases (Move.of_step? stepped).keepsSession found with ⟨later, foundOn, same⟩
  have onceOn : (openings (log ((fresh locator settings).exchanges
      (actions ++ [.answer thread replies])))).Nodup := by
    rw [seen, log_concat, openings_concat]
    simpa [opened?] using once
  have ledger := ledger_on_handle aloof ranOn onceOn foundOn
  rw [same, requestsOn, seen, log_concat, onHandle_append, onHandle_singleton rfl,
    transmissions_append, acceptances_concat ran stepped] at ledger
  simp only [acceptance?, Option.toList_none, List.append_nil] at ledger
  exact ⟨final.writes, later.writer, later.queue,
    replies (.bulkOut session.handle endpoint data timeout), ledger⟩

/-- A writer whose transfer crashed goes on to lose what remains. -/
theorem unwinds_of_run (aloof : locator.source.Aloof)
    (ran : (fresh locator settings).run? actions = some connection)
    (once : (openings (log ((fresh locator settings).exchanges actions))).Nodup)
    (found : connection.sessions[number]? = some session)
    (unwinding : session.writer = .unwinding) :
    ∃ next, connection.step? (.advance (.writer number)) = some next ∧
      Ledger settings next.writes number ((fresh locator settings).acceptances number actions)
        (transmissions ((fresh locator settings).requestsOn session.handle actions))
          .leaving [] := by
  have stepped : connection.step? (.advance (.writer number)) =
      some ((connection.loseAll session.queue).changeSession number
        ({ · with queue := [], writer := .leaving })) := by
    simp [step?, advance?, advanceWriter?, found, unwinding]
  refine ⟨_, stepped, ?_⟩
  have ranOn := run?_concat_eq_some.mpr ⟨connection, ran, stepped⟩
  have seen := exchanges_concat ran stepped
  simp only [exchange?, Option.toList_none, List.append_nil] at seen
  have foundOn : ((connection.loseAll session.queue).changeSession number
      ({ · with queue := [], writer := .leaving })).sessions[number]? =
        some { session with queue := [], writer := .leaving } := by
    rcases loseAll_frame connection session.queue with ⟨writes, frame⟩
    simp [frame, changeSession, found]
  have ledger := ledger_on_handle aloof ranOn (seen ▸ once) foundOn
  rw [requestsOn, seen, acceptances_concat ran stepped] at ledger
  simpa only [requestsOn, acceptance?, Option.toList_none, List.append_nil] using ledger

/-! ### Closing -/

theorem Owned.writer_over (owned : connection.Owned)
    (found : connection.sessions[number]? = some session)
    (lost : ¬connection.HoldsLink number) : session.writer.hasQueue = false := by
  cases holds : session.writer.holdsClone with
  | true => exact absurd (owned.writer_holdsLink found holds) lost
  | false =>
      cases stage : session.writer <;> simp_all [WriterStage.holdsClone, WriterStage.hasQueue]

/-- While the interface of a session is being released, nobody holds the link. -/
theorem not_holdsLink_of_release (aloof : locator.source.Aloof)
    (ran : (fresh locator settings).run? actions = some connection)
    (once : (openings (log ((fresh locator settings).exchanges actions))).Nodup)
    (found : connection.sessions[number]? = some session) {thread : Thread}
    {pending : Pending Connection} {interface : UInt8}
    (waits : connection.pending? thread = some pending)
    (asks : pending.request = .releaseInterface session.handle interface) :
    ¬connection.HoldsLink number := by
  rcases pending with ⟨request, resume⟩
  subst asks
  let replies : Replies := Sample.bus [] (.ok ())
  obtain ⟨final, stepped⟩ : ∃ final, connection.step? (.answer thread replies) = some final := by
    simp [step?, waits]
  have move := Move.of_step? stepped
  have sound := sound_of_run ran
  rw [exchange?, waits, Option.map_some] at move
  cases move.touch aloof sound (newest_of_run ran) (unclosed_of_run ran) rfl with
  | opener stands reaching opened =>
      have member := List.mem_of_getElem? (handles_getElem? found)
      rw [(disciplined_of_run aloof ran once).not_reaching once member stands opened] at reaching
      cases reaching
  | owner held holds transfers => cases transfers
  | leaver stands last => exact sound.orderly.not_holdsLink (List.mem_of_getElem? stands) number

/-- The interface of the device of a session was claimed. -/
theorem claimed_of_run (aloof : locator.source.Aloof)
    (ran : (fresh locator settings).run? actions = some connection) {handle : Handle}
    (held : handle ∈ connection.handles) :
    ⟨.claimInterface handle settings.interface, .ok ()⟩ ∈
      (fresh locator settings).requestsOn handle actions := by
  refine run_induction (motive := fun actions connection => ∀ handle ∈ connection.handles,
    ⟨.claimInterface handle settings.interface, .ok ()⟩ ∈
      (fresh locator settings).requestsOn handle actions)
        (fun _ impossible => by cases impossible) ?_ ran
    handle held
  intro actions middle action final ranBefore claimed stepped handle held
  have sound := sound_of_run ranBefore
  rw [requestsOn, exchanges_concat ranBefore stepped, log, List.map_append, onHandle_append]
  apply List.mem_append_left
  rcases (Move.of_step? stepped).succession with
    ⟨-, call, address, config, device, begun, stands, rfl⟩ | ⟨handles, -⟩
  · have grown : handle ∈ middle.handles ∨ handle = device := by
      simpa [Connection.handles, setTask, newSession] using held
    rcases grown with old | rfl
    · exact claimed handle old
    · rcases sound.reached aloof stands with ⟨-, reaches⟩
      have history := History.of_after? (fun event => of_mem_onHandle) reaches
      have member := (history.claimed_of_use (.inr rfl)).1
      simp only [onHandle, List.mem_filter, mem_eventsOf] at member ⊢
      exact ⟨List.mem_map_of_mem member.1, member.2⟩
  · exact claimed handle (handles ▸ held)

end Further

/-- A lifetime with a claimed interface ends with the release and the closing of the handle. -/
theorem exists_release {interface : UInt8} {handle : Handle} {events : List Event}
    (lifetime : Lifetime interface handle events)
    (claimed : ⟨.claimInterface handle interface, .ok ()⟩ ∈ events) :
    ∃ earlier released, events =
      earlier ++ [⟨.releaseInterface handle interface, released⟩, ⟨.closeHandle handle, ()⟩] := by
  have approached {approach : List Event} (unclaimed : Approach interface handle approach) :
      ⟨.claimInterface handle interface, .ok ()⟩ ∉ approach := by
    cases unclaimed <;> simp
  cases lifetime with
  | notDetached => simp at claimed
  | notClaimed status unclaimed => simp [approached unclaimed] at claimed
  | served coding sent released => exact ⟨_, released, rfl⟩

/-! ### Callers that wait -/

theorem writeEnding?_result {state : WriteState} {task : Task}
    (ended : writeEnding? state = some task) :
    ∃ result,
      state.result? = some result ∧ task = .finished (.returned (result.map .accepted)) := by
  cases state with
  | queued => cases ended
  | answered result =>
      refine ⟨result, rfl, ?_⟩
      cases result <;> cases ended <;> rfl
  | lost =>
      cases ended
      exact ⟨_, rfl, rfl⟩

theorem startWrite_of_takes? {before : Connection} {number write : Nat} {data : List UInt8}
    (takes : before.takes? number data = some write) :
    ∃ after, before.startWrite data = (after, .ok write) := by
  unfold takes? at takes
  rcases outcome : before.startWrite data with ⟨after, error | place⟩
  · rw [outcome] at takes
    cases opened : before.openLink? <;> simp [opened] at takes
  · rw [outcome] at takes
    cases opened : before.openLink? with
    | none => simp [opened] at takes
    | some link =>
        simp only [opened, Option.ite_none_right_eq_some, Option.some.injEq] at takes
        exact ⟨after, by rw [takes.2]⟩

/-- A caller whose write is accepted waits for it. -/
theorem awaits_of_acceptance? {before after : Connection} {action : Action} {number call : Nat}
    {acceptance : Acceptance} (accepts : before.acceptance? number action = some acceptance)
    (calls : acceptance.caller = some call) (stepped : before.step? action = some after) :
    after.tasks[call]? = some (.awaitingWrite acceptance.write) := by
  cases action with
  | invoke made started =>
      cases made with
      | write data =>
          rcases Option.map_eq_some_iff.mp accepts with ⟨write, takes, rfl⟩
          cases calls
          rcases startWrite_of_takes? takes with ⟨later, outcome⟩
          have start := WriteStart.of_startWrite before data
          rw [outcome] at start
          rcases start.frame with ⟨sessions, writes, rfl⟩
          simp only [step?, permits, invoke, enter, enterWrite, outcome, if_true,
            Option.some.injEq] at stepped
          subst stepped
          simp
      | _ => cases accepts
  | startWrite data =>
      rcases Option.map_eq_some_iff.mp accepts with ⟨write, takes, rfl⟩
      cases calls
  | _ => cases accepts

theorem Fate.awaited {before after : Connection} {call write : Nat} {exchange? : Option Exchange}
    (fate : Fate before call (.awaitingWrite write) exchange? after)
    (stands : before.tasks[call]? = some (.awaitingWrite write)) :
    after.tasks[call]? = some (.awaitingWrite write) ∨
      ∃ result, after.resolution? write = some result ∧
        after.tasks[call]? = some (.finished (.returned (result.map .accepted))) := by
  cases fate with
  | stays stood => exact .inl stood
  | turns turn =>
      cases turn with
      | fetchesWrite found ended =>
          rcases writeEnding?_result ended with ⟨result, settled, rfl⟩
          refine .inr ⟨result, ?_, setTask_getElem?_self stands _⟩
          change before.resolution? write = some result
          simp [resolution?, found, settled]
  | answered answer => cases answer
  | expires stopping => cases stopping

/-- A caller that started a write waits for it or has returned what became of it. -/
theorem returned_of_run {locator : Locator} {settings : Settings} {actions : List Action}
    {connection : Connection} (ran : (fresh locator settings).run? actions = some connection)
    {number call : Nat} {acceptance : Acceptance}
    (took : acceptance ∈ (fresh locator settings).acceptances number actions)
    (calls : acceptance.caller = some call) :
    connection.tasks[call]? = some (.awaitingWrite acceptance.write) ∨
      ∃ result, connection.resolution? acceptance.write = some result ∧
        connection.tasks[call]? = some (.finished (.returned (result.map .accepted))) := by
  refine run_induction (motive := fun actions connection =>
    acceptance ∈ (fresh locator settings).acceptances number actions →
      (connection.tasks[call]? = some (.awaitingWrite acceptance.write) ∨
        ∃ result, connection.resolution? acceptance.write = some result ∧
          connection.tasks[call]? = some (.finished (.returned (result.map .accepted)))))
    (fun impossible => by cases impossible) ?_ ran took
  intro actions middle action final ranBefore waits stepped took
  have move := Move.of_step? stepped
  rw [acceptances_concat ranBefore stepped] at took
  rcases List.mem_append.mp took with old | new
  · rcases waits old with stands | ⟨result, settled, ended⟩
    · exact (move.fate stands).awaited stands
    · have set := (sound_of_run ranBefore).placed.set
      exact .inr ⟨result, (ledgers_of_run ranBefore).resolution?_of_errand set move.errand settled,
        (move.finished ended).1⟩
  · rw [Option.mem_toList] at new
    exact .inl (awaits_of_acceptance? new calls stepped)

/-! ### All writes of a session -/

/--
What holds of the writes of a session: `accepted` are those that were accepted for it and `requests`
the requests on its handle.
-/
structure OrderedWrites (settings : Settings) (connection : Connection) (number : Nat)
    (session : Session) (accepted : List Acceptance) (requests : List Event) : Prop where
  /-- What was sent is what was accepted first, each write whole and once. -/
  sent : (transmissions requests).map (·.data) <+: accepted.map (·.data)
  sentSo : ∀ transmission ∈ transmissions requests,
    transmission.endpoint = settings.endpointOut ∧ transmission.timeout = settings.writeTimeout
  /-- The same with a transfer that is in progress. -/
  sending : ∀ thread pending endpoint data timeout, connection.pending? thread = some pending →
    pending.request = .bulkOut session.handle endpoint data timeout →
    endpoint = settings.endpointOut ∧ timeout = settings.writeTimeout ∧
      (transmissions requests).map (·.data) ++ [data] <+: accepted.map (·.data)
  /-- Waiting for a write gives how its own transfer ended. -/
  answered : ∀ (place : Nat) (acceptance : Acceptance) (transmission : Transmission),
    accepted[place]? = some acceptance → (transmissions requests)[place]? = some transmission →
      connection.resolution? acceptance.write = some transmission.reply.result
  unanswered : ∀ place acceptance, accepted[place]? = some acceptance →
    (transmissions requests).length ≤ place →
    connection.resolution? acceptance.write = none ∨
      connection.resolution? acceptance.write = some (.error .workerLost) ∧
        ∃ transmission ∈ transmissions requests, transmission.reply = .crashed
  /-- A caller that started a write and waited for it has returned just that. -/
  returned : ∀ acceptance ∈ accepted, ∀ call result, acceptance.caller = some call →
    connection.tasks[call]?.bind Task.result? = some result →
    ∃ outcome, connection.resolution? acceptance.write = some outcome ∧
      result = outcome.map .accepted
  /--
  Nothing is sent after a transfer that crashed. Its write, all that were accepted later and all
  that come are lost, once the worker has taken the one step in which it drops its queue.
  -/
  crashed : ∀ earlier last later, transmissions requests = earlier ++ last :: later →
    last.reply = .crashed →
    later = [] ∧
    (∀ thread pending endpoint data timeout, connection.pending? thread = some pending →
      pending.request ≠ .bulkOut session.handle endpoint data timeout) ∧
    (session.writer ≠ .unwinding →
      (∀ place acceptance, earlier.length ≤ place → accepted[place]? = some acceptance →
        connection.resolution? acceptance.write = some (.error .workerLost)) ∧
      ∀ link data, connection.openLink? = some link → link.session = number →
        connection.startWrite data = (connection, .error .workerLost)) ∧
    (session.writer = .unwinding →
      ∃ next, connection.step? (.advance (.writer number)) = some next ∧
      ∀ place acceptance, earlier.length ≤ place → accepted[place]? = some acceptance →
        next.resolution? acceptance.write = some (.error .workerLost))
  /-- Unless a transfer crashed, everything is sent when the release of the interface begins. -/
  releasing : (∀ transmission ∈ transmissions requests, transmission.reply ≠ .crashed) →
    ∀ thread pending interface, connection.pending? thread = some pending →
    pending.request = .releaseInterface session.handle interface →
    (transmissions requests).map (·.data) = accepted.map (·.data)
  closed : (∀ transmission ∈ transmissions requests, transmission.reply ≠ .crashed) →
    connection.state = .closed → ∃ earlier released later,
      requests =
        earlier ++ ⟨.releaseInterface session.handle settings.interface, released⟩ :: later ∧
        (transmissions earlier).map (·.data) = accepted.map (·.data)

theorem startWrite_of_dead {connection : Connection} {link : Link} {session : Session}
    (opened : connection.openLink? = some link)
    (found : connection.sessions[link.session]? = some session)
    (dead : session.writer.hasQueue = false) (data : List UInt8) :
    connection.startWrite data = (connection, .error .workerLost) := by
  simp [startWrite, opened, found, dead]

/--
After every course of actions, for every session: writes are sent in the order in which they were
accepted, each in one transfer of its own that answers it; a transfer that fails does not stop the
later ones, one that crashes loses its own write and all later ones; and unless one has crashed, the
interface is released only after all of them.

The source of devices must leave open devices alone while it enumerates, and the bus must give out
each handle once.
-/
theorem writes_sent_in_order {locator : Locator} {settings : Settings} {actions : List Action}
    {connection : Connection} {number : Nat} {session : Session} (aloof : locator.source.Aloof)
    (ran : (fresh locator settings).run? actions = some connection)
    (once : (openings (log ((fresh locator settings).exchanges actions))).Nodup)
    (found : connection.sessions[number]? = some session) :
    OrderedWrites settings connection number session
      ((fresh locator settings).acceptances number actions)
      ((fresh locator settings).requestsOn session.handle actions) := by
  have sound := sound_of_run ran
  have ledger := ledger_on_handle aloof ran once found
  have held := handles_getElem? found
  constructor
  case sent => exact ledger.sent_prefix
  case sentSo =>
    intro transmission member
    exact ledger.sent_so member
  case sending =>
    intro thread pending endpoint data timeout waits asks
    rcases ledger_of_pending aloof ran once found waits asks with
      ⟨writes, stage, queue, reply, further⟩
    rcases further.sent_so (List.mem_append_right _ (List.mem_singleton_self _)) with
      ⟨endpoint, within⟩
    have first := further.sent_prefix
    rw [List.map_append] at first
    exact ⟨endpoint, within, first⟩
  case answered =>
    intro place acceptance transmission took made
    rw [resolution?_of_filed (ledger.filed_of_sent took made), BulkOut.result?_outcome]
  case unanswered =>
    intro place acceptance took beyond
    rcases ledger.filed_of_unsent took beyond with
      ⟨crashed, state, ends, filed, ⟨rfl, -⟩ | ⟨rfl, rfl, -⟩⟩
    · exact .inl (resolution?_of_filed filed)
    · refine .inr ⟨resolution?_of_filed filed, ?_⟩
      generalize transmissions _ = sent at ends
      cases ends with
      | badly intact crash => exact ⟨_, List.mem_append_right _ (List.mem_singleton_self _), crash⟩
  case returned =>
    intro acceptance took call result calls ended
    rcases returned_of_run ran took calls with stands | ⟨outcome, settled, stands⟩
    · rw [stands] at ended
      cases ended
    · rw [stands] at ended
      cases ended
      exact ⟨outcome, settled, rfl⟩
  case crashed =>
    intro earlier last later split crash
    rw [split] at ledger
    rcases ledger.stage_of_crash crash with ⟨last, stage⟩
    refine ⟨last, ?_, ?_, ?_⟩
    · intro thread pending endpoint data timeout waits asks
      rcases ledger_of_pending aloof ran once found waits asks with
        ⟨writes, stage, queue, reply, further⟩
      rw [split, List.append_assoc, List.cons_append] at further
      simpa using (further.stage_of_crash crash).1
    · intro settled
      refine ⟨fun place acceptance => ledger.lost_of_crash crash settled, ?_⟩
      rintro link data opened rfl
      exact startWrite_of_dead opened found (stage.resolve_left settled) data
    · intro unwinding
      rcases unwinds_of_run aloof ran once found unwinding with ⟨next, stepped, further⟩
      rw [split] at further
      exact ⟨next, stepped, fun place acceptance => further.lost_of_crash crash nofun⟩
  case releasing =>
    intro intact thread pending interface waits asks
    have lost := not_holdsLink_of_release aloof ran once found waits asks
    exact ledger.all_sent (sound.owned.writer_over found lost) intact
  case closed =>
    intro intact shut
    have lost := sound.orderly.not_holdsLink_of_closed shut number
    have all := ledger.all_sent (sound.owned.writer_over found lost) intact
    rcases (disciplined_of_run aloof ran once).served held with ⟨phase, accepted, service⟩
    cases service.dropped_of_closed sound.orderly shut
    have claimed := claimed_of_run aloof ran (List.mem_of_getElem? held)
    cases History.of_after? (fun event => of_mem_onHandle) accepted with
    | dropped lifetime =>
        rcases exists_release lifetime claimed with ⟨earlier, released, whole⟩
        refine ⟨earlier, released, _, whole, ?_⟩
        rw [← all, requestsOn, whole, transmissions_append]
        simp [transmissions, transmission?]

/-- A bus that does not take data. -/
def stalling : Replies
  | .bulkOut _ _ _ _ => .failed .pipe
  | request => Sample.bus [] (.ok ()) request

/--
Two writes are started, the second by a caller that waits for it. The transfer of the first fails,
and the port is closed while the second is being sent.
-/
def writesInTurn : List Action :=
  Sample.opens ++
    [.startWrite [7, 8], .invoke (.write [9]) (.ok ()), .advance (.writer 0),
      .answer (.writer 0) stalling, .advance (.writer 0), .invoke .close (.ok ()),
      .answer (.writer 0) (Sample.bus [] (.ok ())), .advance (.call 1), .advance (.call 2),
      .advance (.writer 0), .advance (.writer 0), .advance (.call 2), .advance (.call 2),
      .advance (.call 2)] ++
    asks 2 (Sample.bus [] (.ok ())) 2 ++ [.advance (.call 2), .advance (.call 2)]

theorem writesInTurn_answered :
    Sample.connection.run? writesInTurn = some (Sample.after writesInTurn) ∧
      Sample.connection.acceptances 0 writesInTurn = [⟨0, [7, 8], none⟩, ⟨1, [9], some 1⟩] ∧
      (Sample.after writesInTurn).resolution? 0 = some (.error (.transferFailed .output .pipe)) ∧
      (Sample.after writesInTurn).resolution? 1 = some (.ok 1) ∧
      ∃ earlier released later, Sample.connection.requestsOn ⟨3⟩ writesInTurn =
          earlier ++ ⟨.releaseInterface ⟨3⟩ Profile.dataInterface, released⟩ :: later ∧
        (transmissions earlier).map (·.data) = [[7, 8], [9]] := by
  have ran : Sample.connection.run? writesInTurn = some (Sample.after writesInTurn) := rfl
  have opens : openings (log (Sample.connection.exchanges writesInTurn)) = [⟨3⟩] := rfl
  have once : (openings (log (Sample.connection.exchanges writesInTurn))).Nodup := by
    rw [opens]
    decide
  have sent : transmissions (Sample.connection.requestsOn ⟨3⟩ writesInTurn) =
    [⟨Profile.endpointOut, [7, 8], .zero, .failed .pipe⟩,
      ⟨Profile.endpointOut, [9], .zero, .accepted 1⟩] := rfl
  have found : (Sample.after writesInTurn).sessions[0]? =
    some ⟨⟨3⟩, 0, 0, none, [], true, .ended⟩ := rfl
  have ordered := writes_sent_in_order Source.direct_aloof ran once found
  refine ⟨ran, rfl, ordered.answered 0 _ _ rfl rfl, ordered.answered 1 _ _ rfl rfl,
    ordered.closed ?_ rfl⟩
  change ∀ transmission ∈ transmissions (Sample.connection.requestsOn ⟨3⟩ writesInTurn), _
  rw [sent]
  decide

end Connection

end CdcSerial
