import CdcSerial.Proofs.Connection.Dispatch
import CdcSerial.Stream
import Mathlib.Logic.Relation

/-!
# Sending all of some data

A stream sends data in one write after the other. A device may accept only the beginning of what a
transfer offers; the next one then offers the rest. The stream succeeds if everything was accepted.
It fails at once if a transfer fails or if nothing is accepted, so that what was accepted is the
beginning of the data and never has a gap.

`Trail` says how transfers follow each other, and `Concludes` how they end. A `Sending` is a stream
with its connection. Its invariant `Phase` is kept whatever else goes on in the connection: the
transfers with the data of its own writes are a trail, and perhaps one more that ends it. What can
disturb a stream, such as another call that closes the port, is marked by the parameter `troubled`.
On a quiet port with a device that works there is nothing of the kind, and every course ends
(`Place`).
-/

namespace CdcSerial

/-- That a transfer of so many bytes can end so if the device works. -/
def BulkOut.Fits (reply : BulkOut) (offered : Nat) : Prop :=
  match reply with
  | .accepted count => count ≤ offered
  | .failed _ => True
  | .crashed => False

namespace Transmission

/-- The bytes that the device accepted. -/
def piece (transmission : Transmission) : List UInt8 :=
  match transmission.reply with
  | .accepted count => transmission.data.take count
  | _ => []

theorem piece_prefix (transmission : Transmission) : transmission.piece <+: transmission.data := by
  unfold piece
  split
  · exact List.take_prefix _ _
  · exact List.nil_prefix

/-- That the device accepted some of the bytes, and not more than there were. -/
def Advances (transmission : Transmission) : Prop :=
  ∃ count, transmission.reply = .accepted count ∧ 0 < count ∧ count ≤ transmission.data.length

theorem Advances.ne_nil {transmission : Transmission} (advances : transmission.Advances) :
    transmission.data ≠ [] := by
  rcases advances with ⟨count, -, positive, fits⟩
  exact List.ne_nil_of_length_pos (Nat.lt_of_lt_of_le positive fits)

end Transmission

namespace Stream

open Connection

/-! ### Transfers that follow each other -/

/-- All the bytes that were accepted in some transfers. -/
def taken (sent : List Transmission) : List UInt8 := sent.flatMap Transmission.piece

theorem taken_concat (sent : List Transmission) (last : Transmission) :
    taken (sent ++ [last]) = taken sent ++ last.piece := by
  simp [taken]

/--
`Trail data sent left`: the transfers `sent` moved the beginning of the data, each offering all that
was not accepted before it, and `left` is what remains.
-/
inductive Trail (data : List UInt8) : List Transmission → List UInt8 → Prop where
  | begins : Trail data [] data
  | accepts {sent last count} (trail : Trail data sent last.data)
      (reply : last.reply = .accepted count) (positive : 0 < count)
      (fits : count ≤ last.data.length) : Trail data (sent ++ [last]) (last.data.drop count)

/--
Each transfer offers exactly what was not accepted before it, and only one that moved something is
followed by another.
-/
def Offers (data : List UInt8) (sent : List Transmission) : Prop :=
  ∀ place last, sent[place]? = some last →
    taken (sent.take place) ++ last.data = data ∧ last.data ≠ [] ∧
      (place + 1 < sent.length → last.Advances)

namespace Trail

variable {data left : List UInt8} {sent : List Transmission} {last : Transmission}

theorem taken_append (trail : Trail data sent left) : taken sent ++ left = data := by
  induction trail with
  | begins => rfl
  | accepts _ reply _ _ ih =>
      rw [taken_concat, List.append_assoc, Transmission.piece, reply, List.take_append_drop]
      exact ih

theorem left_eq_nil (trail : Trail [] sent left) : left = [] :=
  (List.append_eq_nil_iff.mp trail.taken_append).2

theorem advances (trail : Trail data sent left) : ∀ last ∈ sent, last.Advances := by
  induction trail with
  | begins => exact nofun
  | accepts _ reply positive fits ih =>
      intro transmission member
      rcases List.mem_append.mp member with old | new
      · exact ih transmission old
      · cases List.mem_singleton.mp new
        exact ⟨_, reply, positive, fits⟩

/-- What one more transfer offers. -/
theorem offers_concat (offers : Offers data sent) (trail : Trail data sent last.data)
    (nonempty : last.data ≠ []) : Offers data (sent ++ [last]) := by
  intro place transmission made
  rcases getElem?_concat_cases made with ⟨before, old⟩ | ⟨rfl, rfl⟩
  · rw [List.take_append_of_le_length (Nat.le_of_lt before)]
    rcases offers place transmission old with ⟨whole, nonempty, -⟩
    exact ⟨whole, nonempty, fun _ => trail.advances transmission (List.mem_of_getElem? old)⟩
  · refine ⟨?_, nonempty, fun further => ?_⟩
    · rw [List.take_left]
      exact trail.taken_append
    · simp at further

theorem offers (trail : Trail data sent left) : Offers data sent := by
  induction trail with
  | begins => exact nofun
  | accepts trail reply positive fits ih =>
      exact offers_concat ih trail (Transmission.Advances.ne_nil ⟨_, reply, positive, fits⟩)

end Trail

/-- The transfers of a trail, and perhaps one more that offers what is left. -/
inductive Transfers (data : List UInt8) : List Transmission → Prop where
  | trail {sent left} (trail : Trail data sent left) : Transfers data sent
  | further {sent last} (trail : Trail data sent last.data) (nonempty : last.data ≠ []) :
      Transfers data (sent ++ [last])

namespace Transfers

variable {data : List UInt8} {sent : List Transmission}

theorem offers (transfers : Transfers data sent) : Offers data sent := by
  cases transfers with
  | trail trail => exact trail.offers
  | further trail nonempty => exact Trail.offers_concat trail.offers trail nonempty

theorem taken_prefix (transfers : Transfers data sent) : taken sent <+: data := by
  cases transfers with
  | trail trail => exact ⟨_, trail.taken_append⟩
  | @further sent last trail nonempty =>
      rw [taken_concat, ← trail.taken_append]
      exact (List.prefix_append_right_inj _).mpr last.piece_prefix

/-- Nothing is sent if there is nothing to send. -/
theorem eq_nil (transfers : Transfers [] sent) : sent = [] := by
  cases sent with
  | nil => rfl
  | cons first later =>
      rcases transfers.offers 0 first rfl with ⟨whole, nonempty, -⟩
      exact absurd (List.append_eq_nil_iff.mp whole).2 nonempty

end Transfers

/-- That an error says that the port, or the worker of its writes, is gone. -/
def Gone (error : Error) : Prop := error = .notOpen ∨ error = .workerLost

/--
The transfers that sending made, and its outcome. If it is troubled, the worker of the writes can be
lost, a transfer can accept more than it was offered, and the port can be closed by others.
-/
inductive Concludes (troubled : Prop) (data : List UInt8) : List Transmission → Outcome → Prop where
  | all {sent} (trail : Trail data sent []) : Concludes troubled data sent .done
  | nothing {sent last} (trail : Trail data sent last.data) (nonempty : last.data ≠ [])
      (reply : last.reply = .accepted 0) :
      Concludes troubled data (sent ++ [last]) (.failed .writeZero none)
  | fails {sent last status} (trail : Trail data sent last.data) (nonempty : last.data ≠ [])
      (reply : last.reply = .failed status) :
      Concludes troubled data (sent ++ [last])
        (.failed (Error.transferFailed .output status).toSystemError none)
  | crashes {sent last} (trouble : troubled) (trail : Trail data sent last.data)
      (nonempty : last.data ≠ []) (reply : last.reply = .crashed) :
      Concludes troubled data (sent ++ [last]) (.failed Error.workerLost.toSystemError none)
  | overruns {sent last count} (trouble : troubled) (trail : Trail data sent last.data)
      (nonempty : last.data ≠ []) (reply : last.reply = .accepted count)
      (beyond : last.data.length < count) :
      Concludes troubled data (sent ++ [last]) (.outOfRange count last.data.length)
  | refused {sent left error} (trouble : troubled) (trail : Trail data sent left)
      (nonempty : left ≠ []) (gone : Gone error) :
      Concludes troubled data sent (.failed error.toSystemError none)

namespace Concludes

variable {troubled : Prop} {data : List UInt8} {sent : List Transmission} {outcome : Outcome}

theorem transfers (concludes : Concludes troubled data sent outcome) : Transfers data sent := by
  cases concludes with
  | all trail | refused _ trail => exact .trail trail
  | nothing trail nonempty | fails trail nonempty => exact .further trail nonempty
  | crashes _ trail nonempty | overruns _ trail nonempty => exact .further trail nonempty

/-- Nothing can go wrong if there is nothing to send. -/
theorem done_of_nil (concludes : Concludes troubled [] sent outcome) : outcome = .done := by
  cases concludes with
  | all => rfl
  | nothing trail nonempty | fails trail nonempty => exact absurd trail.left_eq_nil nonempty
  | crashes _ trail nonempty | overruns _ trail nonempty | refused _ trail nonempty =>
      exact absurd trail.left_eq_nil nonempty

/-- A transfer that moves nothing leaves something. -/
theorem taken_ne {last : Transmission} (trail : Trail data sent last.data)
    (nonempty : last.data ≠ []) (nothing : last.piece = []) :
    taken (sent ++ [last]) <+: data ∧ taken (sent ++ [last]) ≠ data := by
  have whole := trail.taken_append
  rw [taken_concat, nothing, List.append_nil]
  refine ⟨⟨_, whole⟩, fun all => nonempty ?_⟩
  rw [all] at whole
  simpa using whole

/-- Without trouble, sending succeeds or has moved a part of the data only. -/
theorem done_or_short (concludes : Concludes False data sent outcome) :
    outcome = .done ∧ taken sent = data ∨
      outcome ≠ .done ∧ taken sent <+: data ∧ taken sent ≠ data := by
  cases concludes with
  | all trail => exact .inl ⟨rfl, by simpa using trail.taken_append⟩
  | nothing trail nonempty reply =>
      exact .inr ⟨by simp, taken_ne trail nonempty (by simp [Transmission.piece, reply])⟩
  | fails trail nonempty reply =>
      exact .inr ⟨by simp, taken_ne trail nonempty (by simp [Transmission.piece, reply])⟩
  | crashes trouble => exact trouble.elim
  | overruns trouble => exact trouble.elim
  | refused trouble => exact trouble.elim

end Concludes

/-! ### The end of a write -/

/--
The write of what is left gives a result: that of a transfer, the last one, or that it was refused
or lost.
-/
inductive Verdict (troubled : Prop) (data left : List UInt8) :
    List Transmission → Except Error Nat → Prop where
  | sent {earlier last} (trail : Trail data earlier left) (offers : last.data = left)
      (fits : troubled ∨ last.reply.Fits left.length) :
      Verdict troubled data left (earlier ++ [last]) last.reply.result
  | unsent {sent error} (trouble : troubled) (trail : Trail data sent left)
      (gone : Gone error) : Verdict troubled data left sent (.error error)

/-- No failure of a write makes the stream try again. -/
theorem Job.resume_error {error : Error} (left : List UInt8)
    (uninterrupted : error.streamKind ≠ .interrupted) :
    (Job.send left).resume (.returned (.error error)) =
      .ended (.failed error.toSystemError none) := by
  simp [Job.resume, Job.afterFailure, Error.toSystemError, uninterrupted]

theorem Job.resume_accepted {count : Nat} (left : List UInt8) (positive : 0 < count) :
    (Job.send left).resume (.returned (.ok (.accepted count))) =
      if count ≤ left.length then (Job.send (left.drop count)).start
      else .ended (.outOfRange count left.length) := by
  cases count with
  | zero => cases positive
  | succ count => rfl

theorem Gone.uninterrupted {error : Error} (gone : Gone error) :
    error.streamKind ≠ .interrupted := by
  rcases gone with rfl | rfl <;> decide

theorem transferFailed_uninterrupted (direction : Direction) (status : Status) :
    (Error.transferFailed direction status).streamKind ≠ .interrupted := by
  simp only [Error.streamKind]
  split <;> simp

section Verdicts

variable {troubled : Prop} {data left : List UInt8} {sent : List Transmission} {last : Transmission}
  {result : Except Error Nat}

/-- After a write the stream ends as it should, or it goes on with less. -/
theorem Verdict.resume (verdict : Verdict troubled data left sent result) (nonempty : left ≠ []) :
    (∃ outcome, (Job.send left).resume (.returned (result.map .accepted)) = .ended outcome ∧
        Concludes troubled data sent outcome) ∨
      ∃ rest, rest.length < left.length ∧ Trail data sent rest ∧
        (Job.send left).resume (.returned (result.map .accepted)) = (Job.send rest).start := by
  cases verdict with
  | @unsent _ error trouble trail gone =>
      exact .inl ⟨_, Job.resume_error left gone.uninterrupted, .refused trouble trail nonempty gone⟩
  | @sent earlier last trail offers fits =>
      subst offers
      cases reply : last.reply with
      | failed status =>
          exact .inl ⟨_, Job.resume_error _ (transferFailed_uninterrupted _ _),
            .fails trail nonempty reply⟩
      | crashed =>
          rw [reply] at fits
          exact .inl ⟨_, Job.resume_error _ (by decide),
            .crashes (fits.resolve_right id) trail nonempty reply⟩
      | accepted count =>
          rcases Nat.eq_zero_or_pos count with rfl | positive
          · exact .inl ⟨_, rfl, .nothing trail nonempty reply⟩
          · change (∃ outcome, (Job.send _).resume (.returned (.ok (.accepted count))) = _ ∧ _) ∨
              ∃ rest, _ ∧ _ ∧ (Job.send _).resume (.returned (.ok (.accepted count))) = _
            rw [Job.resume_accepted _ positive]
            rw [reply] at fits
            split
            · next inside =>
                refine .inr ⟨_, ?_, .accepts trail reply positive inside, rfl⟩
                rw [List.length_drop]
                omega
            · next beyond =>
                exact .inl ⟨_, rfl, .overruns (fits.resolve_right beyond) trail nonempty reply
                  (Nat.lt_of_not_le beyond)⟩

theorem Verdict.trail (verdict : Verdict troubled data left sent result) :
    ∃ earlier, Trail data earlier left := by
  cases verdict with
  | sent trail => exact ⟨_, trail⟩
  | unsent _ trail => exact ⟨_, trail⟩

theorem Verdict.transfers (verdict : Verdict troubled data left sent result)
    (nonempty : left ≠ []) :
    Transfers data sent := by
  cases verdict with
  | sent trail offers =>
      subst offers
      exact .further trail nonempty
  | unsent _ trail => exact .trail trail

end Verdicts

/-! ### The steps of a stream -/

/-- What a stream that sends is doing: it waits for a call of its own, or it is over. -/
inductive Engagement where
  | waits (job : Job) (call : Nat)
  | finished (outcome : Outcome)

/-- A stream that sends data, with its connection. -/
structure Sending where
  connection : Connection
  engagement : Engagement
  /-- The transfers with the data of its own writes. -/
  sent : List Transmission
  /-- All transfers to devices that were made since the stream began. -/
  made : List Transmission

namespace Sending

/-- The write that a stream waits for. -/
def awaited? (sending : Sending) : Option Nat :=
  match sending.engagement with
  | .waits _ call =>
    match sending.connection.tasks[call]? with
    | some (.awaitingWrite write) => some write
    | _ => none
  | .finished _ => none

/-- The transfer with the data of its own write that an action completes. -/
def own? (sending : Sending) (action : Action) : Option Transmission :=
  sending.awaited?.bind fun write =>
    (sending.connection.exchange? action).bind (sending.connection.transmissionFor? write)

/-- The transfer to a device that an action completes. -/
def any? (sending : Sending) (action : Action) : Option Transmission :=
  (sending.connection.exchange? action).bind fun exchange => transmission? exchange.2

/-- Make the next call of a job, or note its outcome. -/
def proceed (connection : Connection) (sent made : List Transmission) : Progress → Sending
  | .next job call =>
    ⟨connection.invoke call (.ok ()), .waits job connection.tasks.length, sent, made⟩
  | .ended outcome => ⟨connection, .finished outcome, sent, made⟩

/-- The connection takes a step. -/
def act (sending : Sending) (action : Action) (connection : Connection) : Sending :=
  { sending with
    connection
    sent := sending.sent ++ (sending.own? action).toList
    made := sending.made ++ (sending.any? action).toList }

/--
One step: the stream goes on when its call has ended, or something that is allowed happens in the
connection.
-/
inductive Step (allowed : Sending → Action → Prop) : Sending → Sending → Prop where
  | resumes {sending job call ending} (busy : sending.engagement = .waits job call)
      (ended : sending.connection.tasks[call]? = some (.finished ending)) :
      Step allowed sending
        (proceed sending.connection sending.sent sending.made (job.resume ending))
  | acts {sending action connection} (may : allowed sending action)
      (stepped : sending.connection.step? action = some connection) :
      Step allowed sending (sending.act action connection)

/-- That every course that a stream can take comes to an end. -/
def Ends (allowed : Sending → Action → Prop) (sending : Sending) : Prop :=
  Acc (fun after before => Step allowed before after) sending

/-- That a stream can come to a state in which it cannot go on. -/
def Completes (allowed : Sending → Action → Prop) (sending final : Sending) : Prop :=
  Relation.ReflTransGen (Step allowed) sending final ∧ ∀ after, ¬Step allowed final after

/-- A stream that begins to send data. -/
def start (connection : Connection) (data : List UInt8) : Sending :=
  proceed connection [] [] (Job.send data).start

/-- Anything may happen in the connection. -/
def Anything (_ : Sending) (_ : Action) : Prop := True

/--
Threads take turns, and nothing else happens. The device answers the transfers in turn, and it may
look at the data that it is offered.
-/
def Follows (device : Nat → List UInt8 → BulkOut) (sending : Sending) (action : Action) : Prop :=
  action.thread?.isSome = true ∧
    ∀ last, sending.own? action = some last → last.reply = device sending.sent.length last.data

/-! ### Whatever else goes on -/

/-- Where a stream stands, with the transfers that it has made. -/
inductive Phase (troubled : Prop) (data : List UInt8) (sending : Sending) : Prop where
  | queued {left call write place} (busy : sending.engagement = .waits (.send left) call)
      (remains : left ≠ []) (trail : Trail data sending.sent left)
      (awaits : sending.connection.tasks[call]? = some (.awaitingWrite write))
      (stored : sending.connection.writes[write]? = some ⟨place, left, .queued⟩)
  | settled {left call write result} (busy : sending.engagement = .waits (.send left) call)
      (remains : left ≠ []) (verdict : Verdict troubled data left sending.sent result)
      (awaits : sending.connection.tasks[call]? = some (.awaitingWrite write))
      (settled : sending.connection.resolution? write = some result)
  | returned {left call result} (busy : sending.engagement = .waits (.send left) call)
      (remains : left ≠ []) (verdict : Verdict troubled data left sending.sent result)
      (ended : sending.connection.tasks[call]? =
        some (.finished (.returned (result.map .accepted))))
  | finished {outcome} (finished : sending.engagement = .finished outcome)
      (concludes : Concludes troubled data sending.sent outcome)

section Phases

variable {troubled : Prop} {data left : List UInt8} {sent made : List Transmission}
  {connection : Connection} {sending : Sending} {action : Action} {job : Job} {call write : Nat}
  {ending : Ending}

theorem own?_of_awaiting (busy : sending.engagement = .waits job call)
    (awaits : sending.connection.tasks[call]? = some (.awaitingWrite write)) (action : Action) :
    sending.own? action =
      (sending.connection.exchange? action).bind (sending.connection.transmissionFor? write) := by
  simp [own?, awaited?, busy, awaits]

theorem own?_of_finished (busy : sending.engagement = .waits job call)
    (ended : sending.connection.tasks[call]? = some (.finished ending)) (action : Action) :
    sending.own? action = none := by
  simp [own?, awaited?, busy, ended]

theorem any?_of_own? {last : Transmission} (own : sending.own? action = some last) :
    sending.any? action = some last := by
  rcases Option.bind_eq_some_iff.mp own with ⟨write, -, exchanged⟩
  rcases Option.bind_eq_some_iff.mp exchanged with ⟨exchange, here, sends⟩
  rw [any?, here]
  exact transmission?_of_transmissionFor? sends

theorem act_of_none (own : sending.own? action = none) :
    sending.act action connection =
      { sending with connection, made := sending.made ++ (sending.any? action).toList } := by
  simp [act, own]

theorem act_of_some {last : Transmission} (own : sending.own? action = some last) :
    sending.act action connection =
      { sending with
        connection
        sent := sending.sent ++ [last]
        made := sending.made ++ [last] } := by
  simp [act, own, any?_of_own? own]

namespace Phase

theorem transfers (phase : Phase troubled data sending) : Transfers data sending.sent := by
  cases phase with
  | queued _ _ trail => exact .trail trail
  | settled _ remains verdict | returned _ remains verdict => exact verdict.transfers remains
  | finished _ concludes => exact concludes.transfers

theorem concludes {outcome : Outcome} (phase : Phase troubled data sending)
    (finished : sending.engagement = .finished outcome) :
    Concludes troubled data sending.sent outcome := by
  cases phase with
  | finished also concludes =>
      cases also.symm.trans finished
      exact concludes
  | queued busy | settled busy | returned busy => cases busy.symm.trans finished

theorem done_of_nil (phase : Phase troubled [] sending) : sending.engagement = .finished .done := by
  cases phase with
  | finished done concludes => rw [done, concludes.done_of_nil]
  | queued _ remains trail => exact absurd trail.left_eq_nil remains
  | settled _ remains verdict | returned _ remains verdict =>
      rcases verdict.trail with ⟨earlier, trail⟩
      exact absurd trail.left_eq_nil remains

/-- The stream begins to send what is left, or is done with nothing left. -/
theorem of_start (trail : Trail data sent left) (takes : troubled ∨ connection.TakesWrites) :
    Phase troubled data (proceed connection sent made (Job.send left).start) := by
  cases left with
  | nil => exact .finished rfl (.all trail)
  | cons byte more =>
      have start := WriteStart.of_startWrite connection (byte :: more)
      generalize connection.startWrite (byte :: more) = started at start
      rcases started with ⟨after, error | number⟩
      · rcases start.refused with ⟨rfl, gone, closed⟩
        have failed : (after.invoke (.write (byte :: more)) (.ok ())).tasks[after.tasks.length]? =
            some (Task.failed error) := by
          rw [start.invoke_refused]
          exact List.getElem?_concat_length ..
        have trouble := takes.resolve_right closed
        exact .returned rfl (List.cons_ne_nil byte more) (.unsent trouble trail gone) failed
      · have begun := start.invoke (.ok ())
        cases start with
        | @queued link session opened found alive =>
            have awaits : (connection.invoke (.write (byte :: more)) (.ok ())).tasks[
                connection.tasks.length]? = some (.awaitingWrite connection.writes.length) := by
              rw [begun]
              exact List.getElem?_concat_length ..
            have stored : (connection.invoke (.write (byte :: more)) (.ok ())).writes[
                connection.writes.length]? = some ⟨link.session, byte :: more, .queued⟩ := by
              rw [begun]
              exact List.getElem?_concat_length ..
            exact .queued rfl (List.cons_ne_nil byte more) trail awaits stored

/-- When the call of a stream has ended, its job ends as it should or goes on with less. -/
theorem resume (phase : Phase troubled data sending)
    (busy : sending.engagement = .waits job call)
    (ended : sending.connection.tasks[call]? = some (.finished ending)) :
    ∃ left, left ≠ [] ∧ job = .send left ∧
      ((∃ outcome, job.resume ending = .ended outcome ∧
          Concludes troubled data sending.sent outcome) ∨
        ∃ rest, rest.length < left.length ∧ Trail data sending.sent rest ∧
          job.resume ending = (Job.send rest).start) := by
  cases phase with
  | queued own _ _ awaits | settled own _ _ awaits =>
      cases own.symm.trans busy
      cases awaits.symm.trans ended
  | @returned left _ result own remains verdict given =>
      cases own.symm.trans busy
      cases given.symm.trans ended
      exact ⟨left, remains, rfl, verdict.resume remains⟩
  | finished done => cases done.symm.trans busy

/-- A caller whose write is settled waits for its turn or has returned the result. -/
theorem of_verdict {result : Except Error Nat}
    (busy : sending.engagement = .waits (.send left) call) (remains : left ≠ [])
    (verdict : Verdict troubled data left sending.sent result)
    (settled : sending.connection.resolution? write = some result)
    (awaited : sending.connection.tasks[call]? = some (.awaitingWrite write) ∨
      ∃ given, sending.connection.resolution? write = some given ∧
        sending.connection.tasks[call]? = some (.finished (.returned (given.map .accepted)))) :
    Phase troubled data sending := by
  rcases awaited with awaits | ⟨given, also, ended⟩
  · exact .settled busy remains verdict awaits settled
  · cases settled.symm.trans also
    exact .returned busy remains verdict ended

/--
Whatever happens in the connection, the stream has its own transfers only, and each is followed by
the result of its write. Unless there is trouble, the device works and no write is lost.
-/
theorem of_acts {settings : Settings} {accepted : Nat → List Acceptance}
    {exchanges : List Exchange} (phase : Phase troubled data sending)
    (ledgers : Ledgers settings accepted exchanges sending.connection)
    (stepped : sending.connection.step? action = some connection)
    (fits : ∀ last, sending.own? action = some last → troubled ∨ last.reply.Fits last.data.length)
    (kept : troubled ∨
      (sending.own? action = none → connection.writes = sending.connection.writes)) :
    Phase troubled data (sending.act action connection) := by
  have move := Move.of_step? stepped
  cases phase with
  | @queued left call write place busy remains trail awaits stored =>
      have awaited := (move.fate awaits).awaited awaits
      have fate := move.writeFate ledgers stored
      rw [← own?_of_awaiting busy awaits] at fate
      generalize later : connection.writes[write]? = entry? at fate
      generalize made : sending.own? action = own? at fate
      cases fate with
      | stays =>
          rw [act_of_none made]
          rcases awaited with stands | ⟨result, settled, -⟩
          · exact .queued busy remains trail stands later
          · simp [resolution?, later, WriteState.result?] at settled
      | lost =>
          -- a write that changes without a transfer was in the queue of a worker that crashed
          have trouble : troubled := by
            rcases kept with trouble | kept
            · exact trouble
            · rw [kept made, stored] at later
              cases later
          rw [act_of_none made]
          refine of_verdict busy remains (.unsent trouble trail (.inr rfl)) ?_ awaited
          simp [resolution?, later, WriteState.result?]
      | @answered last waited offers =>
          have offers : last.data = left := offers
          rw [act_of_some made]
          refine of_verdict busy remains (.sent trail offers (offers ▸ fits last made)) ?_ awaited
          simp [resolution?, later, BulkOut.result?_outcome]
  | @settled left call write result busy remains verdict awaits settled =>
      rcases Option.bind_eq_some_iff.mp settled with ⟨entry, stored, given⟩
      have awaited := (move.fate awaits).awaited awaits
      have fate := move.writeFate ledgers stored
      rw [← own?_of_awaiting busy awaits] at fate
      have unqueued : entry.state ≠ .queued := by
        intro waits
        rw [waits] at given
        cases given
      generalize later : connection.writes[write]? = entry? at fate
      generalize made : sending.own? action = own? at fate
      cases fate with
      | stays =>
          rw [act_of_none made]
          refine of_verdict busy remains verdict ?_ awaited
          simp [resolution?, later, given]
      | answered waited => exact absurd waited unqueued
      | lost waited => exact absurd waited unqueued
  | returned busy remains verdict ended =>
      rw [act_of_none (own?_of_finished busy ended action)]
      exact .returned busy remains verdict (move.finished ended).1
  | finished done concludes =>
      rw [act_of_none (by simp [own?, awaited?, done])]
      exact .finished done concludes

end Phase

end Phases

/-- What is kept along every course of a stream. -/
structure Kept (locator : Locator) (settings : Settings) (troubled : Prop) (data : List UInt8)
    (sending : Sending) : Prop where
  reachable : Reachable locator settings sending.connection
  phase : Phase troubled data sending
  among : sending.sent.Sublist sending.made

/--
How far a stream is from its end if it has a quiet port for itself. A byte counts more than all the
turns that one write takes.
-/
inductive Place (sending : Sending) : Nat → Prop where
  | waits {left call write place session rank}
      (busy : sending.engagement = .waits (.send left) call)
      (dispatching : Dispatching call write place session sending.connection)
      (leg : Leg write (sending.connection.resolution? write) session.writer session.queue rank) :
      Place sending (4 * left.length + rank)
  | returned {left call ending} (busy : sending.engagement = .waits (.send left) call)
      (ended : sending.connection.tasks[call]? = some (.finished ending))
      (quiet : sending.connection.Quiet) (takes : sending.connection.TakesWrites) :
      Place sending (4 * left.length)
  | finished {outcome} (finished : sending.engagement = .finished outcome)
      (quiet : sending.connection.Quiet) :
      Place sending 0

section Courses

variable {locator : Locator} {settings : Settings} {troubled : Prop} {data left : List UInt8}
  {sent made : List Transmission} {connection : Connection} {sending after : Sending}
  {action : Action} {job : Job} {call : Nat} {ending : Ending}

namespace Kept

theorem of_start (reachable : Reachable locator settings connection) (trail : Trail data sent left)
    (among : sent.Sublist made) (takes : troubled ∨ connection.TakesWrites) :
    Kept locator settings troubled data (proceed connection sent made (Job.send left).start) := by
  have phase : Phase troubled data (proceed connection sent made (Job.send left).start) :=
    .of_start trail takes
  cases left with
  | nil => exact ⟨reachable, phase, among⟩
  | cons byte more =>
      have stepped : connection.step? (.invoke (.write (byte :: more)) (.ok ())) = some _ := rfl
      exact ⟨reachable.of_step? stepped, phase, among⟩

theorem of_resumes (kept : Kept locator settings troubled data sending)
    (busy : sending.engagement = .waits job call)
    (ended : sending.connection.tasks[call]? = some (.finished ending))
    (takes : troubled ∨ sending.connection.TakesWrites) :
    Kept locator settings troubled data
      (proceed sending.connection sending.sent sending.made (job.resume ending)) := by
  rcases kept.phase.resume busy ended with
    ⟨left, -, -, ⟨outcome, finished, concludes⟩ | ⟨rest, -, trail, next⟩⟩
  · rw [finished]
    exact ⟨kept.reachable, .finished rfl concludes, kept.among⟩
  · rw [next]
    exact of_start kept.reachable trail kept.among takes

theorem of_acts (kept : Kept locator settings troubled data sending)
    (stepped : sending.connection.step? action = some connection)
    (fits : ∀ last, sending.own? action = some last → troubled ∨ last.reply.Fits last.data.length)
    (unlost : troubled ∨
      (sending.own? action = none → connection.writes = sending.connection.writes)) :
    Kept locator settings troubled data (sending.act action connection) := by
  rcases kept.reachable with ⟨actions, ran⟩
  refine ⟨kept.reachable.of_step? stepped,
    kept.phase.of_acts (ledgers_of_run ran) stepped fits unlost, ?_⟩
  cases own : sending.own? action with
  | none =>
      rw [act_of_none own]
      exact kept.among.trans (List.sublist_append_left ..)
  | some last =>
      rw [act_of_some own]
      exact kept.among.append (.refl [last])

/-- In trouble anything may happen. -/
theorem of_run {allowed : Sending → Action → Prop} (kept : Kept locator settings True data sending)
    (run : Relation.ReflTransGen (Step allowed) sending after) :
    Kept locator settings True data after := by
  induction run with
  | refl => exact kept
  | tail _ step ih =>
      cases step with
      | resumes busy ended => exact ih.of_resumes busy ended (.inl trivial)
      | acts _ stepped => exact ih.of_acts stepped (fun _ _ => .inl trivial) (.inl trivial)

end Kept

/-! Each kind of step leads to another place, nearer to the end. -/

namespace Place

theorem of_start (quiet : connection.Quiet) (takes : connection.TakesWrites)
    (sent made : List Transmission) (left : List UInt8) :
    ∃ cost ≤ 4 * left.length + 3,
      Place (proceed connection sent made (Job.send left).start) cost := by
  cases left with
  | nil => exact ⟨0, Nat.zero_le _, .finished rfl quiet⟩
  | cons byte more =>
      rcases quiet.dispatching takes (byte :: more) (.ok ()) with ⟨place, session, dispatching, leg⟩
      exact ⟨_, Nat.le_refl _, .waits rfl dispatching leg⟩

/-- When the call has ended, the port is quiet again and takes another write. -/
theorem rests {cost : Nat} (place : Place sending cost)
    (busy : sending.engagement = .waits (.send left) call)
    (ended : sending.connection.tasks[call]? = some (.finished ending)) :
    sending.connection.Quiet ∧ sending.connection.TakesWrites ∧ cost = 4 * left.length := by
  cases place with
  | waits own dispatching =>
      cases own.symm.trans busy
      cases dispatching.stands.symm.trans ended
  | returned own _ quiet takes =>
      cases own.symm.trans busy
      exact ⟨quiet, takes, rfl⟩
  | finished done => cases done.symm.trans busy

theorem of_resumes {cost : Nat} (place : Place sending cost) (phase : Phase troubled data sending)
    (busy : sending.engagement = .waits job call)
    (ended : sending.connection.tasks[call]? = some (.finished ending)) :
    ∃ less < cost,
      Place (proceed sending.connection sending.sent sending.made (job.resume ending)) less := by
  rcases phase.resume busy ended with ⟨left, remains, rfl, next⟩
  rcases place.rests busy ended with ⟨quiet, takes, rfl⟩
  have positive := List.length_pos_of_ne_nil remains
  rcases next with ⟨outcome, finished, -⟩ | ⟨rest, shorter, -, next⟩
  · rw [finished]
    exact ⟨0, by omega, .finished rfl quiet⟩
  · rw [next]
    rcases of_start quiet takes sending.sent sending.made rest with ⟨less, bound, place⟩
    exact ⟨less, by omega, place⟩

/--
A turn brings the end nearer. Nobody else sends anything, and no write changes but by a transfer of
the stream.
-/
theorem of_acts {accepted : Nat → List Acceptance} {exchanges : List Exchange} {cost : Nat}
    (place : Place sending cost)
    (ledgers : Ledgers settings accepted exchanges sending.connection)
    (turned : action.thread?.isSome = true)
    (stepped : sending.connection.step? action = some connection)
    (intact : ∀ last, sending.own? action = some last → last.reply ≠ .crashed) :
    sending.any? action = sending.own? action ∧
      (sending.own? action = none → connection.writes = sending.connection.writes) ∧
      ∃ less < cost, Place (sending.act action connection) less := by
  cases place with
  | returned _ _ quiet => exact absurd quiet (not_quiet_of_step? turned stepped)
  | finished _ quiet => exact absurd quiet (not_quiet_of_step? turned stepped)
  | @waits left call write place session rank busy dispatching leg =>
      have dispatched := dispatching.acts (Move.of_step? stepped) turned
      have own := own?_of_awaiting busy dispatching.stands action
      have any : sending.any? action = (sending.connection.exchange? action).bind _ := rfl
      generalize sending.connection.exchange? action = exchange? at dispatched own any
      cases dispatched with
      | works turn =>
          rcases dispatching.of_works leg turn with ⟨same, later, less, nearer, dispatching, leg⟩
          refine ⟨any.trans own.symm, fun _ => same, _, Nat.add_lt_add_left nearer _,
            .waits busy dispatching ?_⟩
          simpa [act, resolution?, same] using leg
      | hears answer =>
          rcases dispatching.of_hears ledgers leg answer with ⟨last, sends, settles⟩
          have own : sending.own? action = some last := own.trans sends
          rcases settles (intact last own) with ⟨later, less, nearer, dispatching, leg⟩
          refine ⟨(any?_of_own? own).trans own.symm, ?_, _, Nat.add_lt_add_left nearer _,
            .waits busy dispatching leg⟩
          intro unowned
          cases unowned.symm.trans own
      | fetches turn =>
          rcases Dispatching.of_fetches leg turn with ⟨rfl, ⟨ending, rfl⟩, waiting, empty, positive⟩
          refine ⟨any.trans own.symm, fun _ => rfl, _, Nat.lt_add_of_pos_right positive, ?_⟩
          exact .returned busy (setTask_getElem?_self dispatching.stands _)
            (dispatching.quiet waiting empty) (dispatching.takesWrites waiting)

end Place

/-- A stream that has a quiet port for itself, with a device that answers so. -/
structure Position (locator : Locator) (settings : Settings) (device : Nat → List UInt8 → BulkOut)
    (data : List UInt8) (sending : Sending) (cost : Nat) : Prop where
  kept : Kept locator settings False data sending
  place : Place sending cost
  only : sending.made = sending.sent
  answered : ∀ number last, sending.sent[number]? = some last → last.reply = device number last.data

namespace Position

variable {device : Nat → List UInt8 → BulkOut} {cost : Nat}

theorem of_resumes (position : Position locator settings device data sending cost)
    (busy : sending.engagement = .waits job call)
    (ended : sending.connection.tasks[call]? = some (.finished ending)) :
    ∃ less < cost, Position locator settings device data
      (proceed sending.connection sending.sent sending.made (job.resume ending)) less := by
  rcases position.place.of_resumes position.kept.phase busy ended with ⟨less, nearer, place⟩
  rcases position.kept.phase.resume busy ended with ⟨left, -, rfl, -⟩
  have takes := (position.place.rests busy ended).2.1
  have kept := position.kept.of_resumes busy ended (.inr takes)
  refine ⟨less, nearer, ?_⟩
  generalize (Job.send left).resume ending = progress at kept place
  cases progress with
  | next => exact ⟨kept, place, position.only, position.answered⟩
  | ended => exact ⟨kept, place, position.only, position.answered⟩

theorem of_acts (position : Position locator settings device data sending cost)
    (fits : ∀ number offered, (device number offered).Fits offered.length)
    (follows : Follows device sending action)
    (stepped : sending.connection.step? action = some connection) :
    ∃ less < cost, Position locator settings device data (sending.act action connection) less := by
  rcases follows with ⟨turned, answers⟩
  have sound : ∀ last, sending.own? action = some last → last.reply.Fits last.data.length := by
    intro last made
    rw [answers last made]
    exact fits _ _
  have intact : ∀ last, sending.own? action = some last → last.reply ≠ .crashed := by
    intro last made crash
    have impossible := sound last made
    rw [crash] at impossible
    exact impossible
  rcases position.kept.reachable with ⟨actions, ran⟩
  rcases position.place.of_acts (ledgers_of_run ran) turned stepped intact with
    ⟨alone, unlost, less, nearer, place⟩
  have kept := position.kept.of_acts stepped (fun last made => .inr (sound last made)) (.inr unlost)
  refine ⟨less, nearer, kept, place, ?_, ?_⟩
  · simp [act, alone, position.only]
  cases own : sending.own? action with
  | none =>
      rw [act_of_none own]
      exact position.answered
  | some latest =>
      rw [act_of_some own]
      intro number last found
      rcases getElem?_concat_cases found with ⟨-, old⟩ | ⟨rfl, rfl⟩
      · exact position.answered number last old
      · exact answers last own

theorem of_step (position : Position locator settings device data sending cost)
    (fits : ∀ number offered, (device number offered).Fits offered.length)
    (step : Step (Follows device) sending after) :
    ∃ less < cost, Position locator settings device data after less := by
  cases step with
  | resumes busy ended => exact position.of_resumes busy ended
  | acts follows stepped => exact position.of_acts fits follows stepped

/-- A stream that is not over can go on, whatever the device answers. -/
theorem exists_step (position : Position locator settings device data sending cost)
    (unfinished : ∀ outcome, sending.engagement ≠ .finished outcome) :
    ∃ after, Step (Follows device) sending after := by
  have quietly {thread : Thread} {connection : Connection}
      (stepped : sending.connection.step? (.advance thread) = some connection) :
      ∃ after, Step (Follows device) sending after := by
    refine ⟨_, .acts ⟨rfl, ?_⟩ stepped⟩
    -- without the bus nothing is transferred
    intro last made
    rcases Option.bind_eq_some_iff.mp made with ⟨write, -, exchanged⟩
    cases exchanged
  cases position.place with
  | finished done => exact absurd done (unfinished _)
  | returned busy ended => exact ⟨_, .resumes busy ended⟩
  | @waits left call write place session rank busy dispatching leg =>
      generalize resolved : sending.connection.resolution? write = resolution? at leg
      generalize waiting : session.writer = stage at leg
      generalize queued : session.queue = queue at leg
      cases leg with
      | queued =>
          rcases dispatching.ready_of_queued waiting queued with ⟨connection, stepped⟩
          exact quietly stepped
      | settled =>
          rcases dispatching.ready_of_settled resolved with ⟨connection, stepped⟩
          exact quietly stepped
      | sending =>
          rcases dispatching.ready_of_sending waiting (device sending.sent.length) with
            ⟨replies, connection, handle, endpoint, offered, timeout, stepped, exchanged⟩
          refine ⟨_, .acts ⟨rfl, ?_⟩ stepped⟩
          intro last made
          rw [own?_of_awaiting busy dispatching.stands, exchanged] at made
          simp only [Option.bind_some, transmissionFor?, transmission?] at made
          rcases Option.ite_none_right_eq_some.mp made with ⟨-, same⟩
          cases same
          rfl

theorem ends (position : Position locator settings device data sending cost)
    (fits : ∀ number offered, (device number offered).Fits offered.length) :
    sending.Ends (Follows device) := by
  induction cost using Nat.strongRecOn generalizing sending with
  | ind cost ih =>
      refine .intro sending fun after step => ?_
      rcases position.of_step fits step with ⟨less, nearer, position⟩
      exact ih less nearer position

theorem of_run (position : Position locator settings device data sending cost)
    (fits : ∀ number offered, (device number offered).Fits offered.length)
    (run : Relation.ReflTransGen (Step (Follows device)) sending after) :
    ∃ rest, Position locator settings device data after rest := by
  induction run with
  | refl => exact ⟨cost, position⟩
  | tail _ step ih =>
      rcases ih with ⟨rest, position⟩
      rcases position.of_step fits step with ⟨less, -, position⟩
      exact ⟨less, position⟩

end Position

end Courses

/-- What holds of a stream that sends data, at every time. -/
structure Accounts (troubled : Prop) (data : List UInt8) (sending : Sending) : Prop where
  offers : Offers data sending.sent
  /-- What was accepted is the beginning of the data. -/
  accepted : taken sending.sent <+: data
  among : sending.sent.Sublist sending.made
  concludes : ∀ outcome, sending.engagement = .finished outcome →
    Concludes troubled data sending.sent outcome
  empty : data = [] → sending.sent = [] ∧ sending.engagement = .finished .done

theorem Kept.accounts {locator : Locator} {settings : Settings} {troubled : Prop}
    {data : List UInt8} {sending : Sending} (kept : Kept locator settings troubled data sending) :
    Accounts troubled data sending where
  offers := kept.phase.transfers.offers
  accepted := kept.phase.transfers.taken_prefix
  among := kept.among
  concludes := fun _ finished => kept.phase.concludes finished
  empty := by
    rintro rfl
    exact ⟨kept.phase.transfers.eq_nil, kept.phase.done_of_nil⟩

/-- A stream that has sent data over a quiet port to a device that answers so. -/
structure Delivers (device : Nat → List UInt8 → BulkOut) (data : List UInt8) (final : Sending)
    (outcome : Outcome) : Prop where
  finished : final.engagement = .finished outcome
  accounts : Accounts False data final
  /-- There were no other transfers. -/
  only : final.made = final.sent
  answered : ∀ number last, final.sent[number]? = some last → last.reply = device number last.data
  done_iff : outcome = .done ↔ taken final.sent = data
  short : outcome ≠ .done → taken final.sent <+: data ∧ taken final.sent ≠ data

/-- A stream that cannot go on is over. -/
theorem Position.delivers {locator : Locator} {settings : Settings}
    {device : Nat → List UInt8 → BulkOut} {data : List UInt8} {final : Sending} {cost : Nat}
    (position : Position locator settings device data final cost)
    (stuck : ∀ after, ¬Step (Follows device) final after) :
    ∃ outcome, Delivers device data final outcome := by
  have finished : ∃ outcome, final.engagement = .finished outcome := by
    by_contra unfinished
    rcases position.exists_step (fun outcome finished => unfinished ⟨outcome, finished⟩) with
      ⟨after, step⟩
    exact stuck after step
  rcases finished with ⟨outcome, finished⟩
  have ends := (position.kept.phase.concludes finished).done_or_short
  refine ⟨outcome, finished, position.kept.accounts, position.only, position.answered, ?_, ?_⟩
  · rcases ends with ⟨done, all⟩ | ⟨failed, -, short⟩
    · exact iff_of_true done all
    · exact iff_of_false failed short
  · intro failed
    rcases ends with ⟨done, -⟩ | ⟨-, short⟩
    · exact absurd done failed
    · exact short

/--
A stream sends data. Whatever else goes on in the connection, each of its transfers offers exactly
what was not accepted before, and none follows one that failed or moved nothing; what was accepted
is always the beginning of the data, and the outcome says how it ended. Without data there is no
transfer.

On a quiet port that takes writes, with a device that accepts at most what it is offered or fails
transfers, the stream comes to an end, whatever turns are taken. It succeeds if and only if all of
the data was accepted. Otherwise the outcome is that nothing was accepted or the failure of the last
transfer, and there were no other transfers.
-/
theorem sends_all_or_reports {locator : Locator} {settings : Settings} {connection : Connection}
    (reachable : Reachable locator settings connection) (data : List UInt8) :
    (∀ final, Relation.ReflTransGen (Step Anything) (start connection data) final →
        Accounts True data final) ∧
      (connection.Quiet → connection.TakesWrites → ∀ device : Nat → List UInt8 → BulkOut,
        (∀ number offered, (device number offered).Fits offered.length) →
        (start connection data).Ends (Follows device) ∧
          ∀ final, Completes (Follows device) (start connection data) final →
            ∃ outcome, Delivers device data final outcome) := by
  constructor
  · intro final run
    have kept : Kept locator settings True data (start connection data) :=
      .of_start reachable .begins (.refl []) (.inl trivial)
    exact (kept.of_run run).accounts
  · intro quiet takes device fits
    have kept : Kept locator settings False data (start connection data) :=
      .of_start reachable .begins (.refl []) (.inr takes)
    rcases Place.of_start quiet takes [] [] data with ⟨cost, -, place⟩
    have unsent : (start connection data).made = [] ∧ (start connection data).sent = [] := by
      unfold start
      cases (Job.send data).start <;> exact ⟨rfl, rfl⟩
    have position : Position locator settings device data (start connection data) cost := by
      refine ⟨kept, place, unsent.1.trans unsent.2.symm, ?_⟩
      rw [unsent.2]
      exact nofun
    refine ⟨position.ends fits, ?_⟩
    rintro final ⟨run, stuck⟩
    rcases position.of_run fits run with ⟨rest, ended⟩
    exact ended.delivers stuck

/-- A device that accepts at most two bytes at a time. -/
def byTwos (_ : Nat) (offered : List UInt8) : BulkOut := .accepted (min 2 offered.length)

/-- A device to which every transfer is interrupted. -/
def interrupted (_ : Nat) (_ : List UInt8) : BulkOut := .failed .interrupted

/--
Five bytes are sent in pieces if the device takes two at a time, and a transfer that is interrupted
is not made again.
-/
theorem five_bytes_by_twos_or_interrupted :
    let opened := Sample.after Sample.opens
    let failure := (Error.transferFailed .output .interrupted).toSystemError
    (start opened [1, 2, 3, 4, 5]).Ends (Follows byTwos) ∧
      (∀ final, Completes (Follows byTwos) (start opened [1, 2, 3, 4, 5]) final →
        final.engagement = .finished .done ∧ taken final.made = [1, 2, 3, 4, 5]) ∧
      (start opened [1, 2, 3, 4, 5]).Ends (Follows interrupted) ∧
      ∀ final, Completes (Follows interrupted) (start opened [1, 2, 3, 4, 5]) final →
        final.engagement = .finished (.failed failure none) ∧ final.made.length = 1 := by
  have reachable : Reachable Sample.connection.locator Sample.connection.settings
    (Sample.after Sample.opens) := ⟨Sample.opens, rfl⟩
  have quiet : (Sample.after Sample.opens).Quiet := ⟨rfl, by decide, by decide, by decide⟩
  have takes : (Sample.after Sample.opens).TakesWrites := ⟨_, _, rfl, rfl, rfl⟩
  have sends := (sends_all_or_reports reachable [1, 2, 3, 4, 5]).2 quiet takes
  rcases sends byTwos (fun _ _ => Nat.min_le_right _ _) with ⟨ends, delivers⟩
  rcases sends interrupted (fun _ _ => trivial) with ⟨ends', delivers'⟩
  refine ⟨ends, ?_, ends', ?_⟩
  · intro final completes
    rcases delivers final completes with ⟨outcome, delivered⟩
    have answered := delivered.answered
    have done : outcome = .done := by
      have concludes := delivered.accounts.concludes outcome delivered.finished
      generalize final.sent = sent at concludes answered
      cases concludes with
      | all => rfl
      | @nothing earlier last trail nonempty reply =>
          have given := answered earlier.length last (List.getElem?_concat_length ..)
          have positive := List.length_pos_of_ne_nil nonempty
          simp only [reply, byTwos, BulkOut.accepted.injEq] at given
          omega
      | @fails earlier last status trail nonempty reply =>
          have given := answered earlier.length last (List.getElem?_concat_length ..)
          simp [reply, byTwos] at given
      | crashes trouble => exact trouble.elim
      | overruns trouble => exact trouble.elim
      | refused trouble => exact trouble.elim
    rw [delivered.finished, delivered.only]
    exact ⟨by rw [done], delivered.done_iff.mp done⟩
  · intro final completes
    rcases delivers' final completes with ⟨outcome, delivered⟩
    have answered := delivered.answered
    have concludes := delivered.accounts.concludes outcome delivered.finished
    rw [delivered.finished, delivered.only]
    generalize final.sent = sent at concludes answered
    have untaken {earlier : List Transmission} {left : List UInt8} (first : earlier <+: sent)
        (trail : Trail [1, 2, 3, 4, 5] earlier left) : earlier = [] := by
      apply List.eq_nil_iff_forall_not_mem.mpr
      intro last member
      rcases trail.advances last member with ⟨count, reply, -⟩
      rcases List.getElem?_of_mem (first.mem member) with ⟨number, found⟩
      cases reply.symm.trans (answered number last found)
    cases concludes with
    | all trail =>
        cases untaken (List.prefix_refl _) trail
        cases trail.taken_append
    | @nothing earlier last trail nonempty reply =>
        have given := answered earlier.length last (List.getElem?_concat_length ..)
        cases reply.symm.trans given
    | @fails earlier last status trail nonempty reply =>
        have given := answered earlier.length last (List.getElem?_concat_length ..)
        cases reply.symm.trans given
        rw [untaken (List.prefix_append _ _) trail]
        exact ⟨rfl, rfl⟩
    | crashes trouble => exact trouble.elim
    | overruns trouble => exact trouble.elim
    | refused trouble => exact trouble.elim

end Sending

end Stream

end CdcSerial
