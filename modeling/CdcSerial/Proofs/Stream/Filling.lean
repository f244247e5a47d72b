import CdcSerial.Proofs.Connection.Serving
import CdcSerial.Stream
import Mathlib.Logic.Relation

/-!
# Filling buffers

A stream fills one buffer after the other. The bytes come in packets, and between packets a poll may
give an empty packet or time out. A read takes what is left of the last packet before it polls
again, so how the bytes are cut into packets decides how many reads it takes to fill a buffer, but
not what is in it.

A `Filling` is a stream with its connection and the device at the other end. `Position` is its
invariant: while a read polls, all that has come is in the buffers, and afterwards the backlog is
the rest of the last packet. Every step brings the end nearer, so that all buffers are filled.
-/

namespace CdcSerial

namespace Stream

open Connection

/-- How a device that works answers a poll. A packet can be empty. -/
inductive Poll where
  | packet (data : List UInt8)
  | timeout
deriving DecidableEq

namespace Poll

def reply : Poll → BulkIn
  | packet data => .received data
  | timeout => .failed .timeout

def data : Poll → List UInt8
  | packet data => data
  | timeout => []

/-- All the bytes that come with some polls. -/
def bytes (polls : List Poll) : List UInt8 := polls.flatMap data

@[simp]
theorem bytes_nil : bytes [] = [] := rfl

@[simp]
theorem bytes_append (first second : List Poll) :
    bytes (first ++ second) = bytes first ++ bytes second :=
  List.flatMap_append

@[simp]
theorem bytes_singleton (poll : Poll) : bytes [poll] = poll.data := by simp [bytes]

end Poll

open Poll

/--
`Consumed made taken rest`: of the bytes that came with the polls `made`, `taken` were delivered,
and `rest` is what is left of the last packet.
-/
inductive Consumed : List Poll → List UInt8 → List UInt8 → Prop where
  | nothing : Consumed [] [] []
  | upTo {earlier front rest} (nonempty : front ≠ []) :
      Consumed (earlier ++ [.packet (front ++ rest)]) (bytes earlier ++ front) rest

namespace Consumed

variable {made : List Poll} {taken data rest : List UInt8}

theorem bytes_eq (consumed : Consumed made taken rest) : bytes made = taken ++ rest := by
  cases consumed <;> simp [Poll.data]

/-- More is taken of the last packet. -/
theorem take (consumed : Consumed made taken (data ++ rest)) :
    Consumed made (taken ++ data) rest := by
  generalize left : data ++ rest = backlog at consumed
  cases consumed with
  | nothing =>
      rcases List.append_eq_nil_iff.mp left with ⟨rfl, rfl⟩
      exact .nothing
  | @upTo earlier front _ nonempty =>
      subst left
      rw [List.append_assoc, ← List.append_assoc front]
      exact .upTo (by simp [nonempty])

end Consumed

/-- After `taken`, a read of at most `length` bytes delivers `data` and leaves the backlog. -/
structure Delivers (made : List Poll) (taken : List UInt8) (length : Nat)
    (data backlog : List UInt8) :
    Prop where
  nonempty : data ≠ []
  fits : data.length ≤ length
  consumed : Consumed made (taken ++ data) backlog

namespace Delivers

variable {made earlier : List Poll} {taken data backlog : List UInt8} {length : Nat}

theorem of_packet (nonempty : data ≠ []) (positive : 0 < length) :
    Delivers (earlier ++ [.packet data]) (bytes earlier) length (data.take length)
      (data.drop length) := by
  have front : data.take length ≠ [] := by simp [nonempty, positive.ne']
  have consumed : Consumed (earlier ++ [.packet (data.take length ++ data.drop length)])
    (bytes earlier ++ data.take length) (data.drop length) := .upTo front
  rw [List.take_append_drop] at consumed
  exact ⟨front, List.length_take_le .., consumed⟩

theorem of_backlog (consumed : Consumed made taken backlog) (nonempty : backlog ≠ [])
    (positive : 0 < length) :
    Delivers made taken length (backlog.take length) (backlog.drop length) := by
  rw [← List.take_append_drop length backlog] at consumed
  exact ⟨by simp [nonempty, positive.ne'], List.length_take_le .., consumed.take⟩

end Delivers

/--
Where the bytes are while a read of at most `length` bytes is served after `taken`. As long as the
worker polls, all that has come is in `taken`; the packet that ends the polling is divided.
-/
inductive Carries (made : List Poll) (taken : List UInt8) (length : Nat) :
    ReaderStage → List UInt8 → Prop where
  | checking (all : bytes made = taken) : Carries made taken length .checking []
  | polling (all : bytes made = taken) : Carries made taken length .polling []
  | received {earlier data} (last : made = earlier ++ [.packet data]) (nonempty : data ≠ [])
      (all : bytes earlier = taken) : Carries made taken length (.received data) []
  | leaving {data backlog} (delivers : Delivers made taken length data backlog) :
      Carries made taken length (.leaving ⟨.completed, .ok data⟩) backlog
  | reporting {data backlog} (delivers : Delivers made taken length data backlog) :
      Carries made taken length (.reporting ⟨.completed, .ok data⟩) backlog
  | ended {data backlog} (delivers : Delivers made taken length data backlog) :
      Carries made taken length (.ended ⟨.completed, .ok data⟩) backlog

/-- How far the worker of a read is from its end. -/
def rank : ReaderStage → Nat
  | .checking => 7
  | .polling => 6
  | .received _ => 5
  | .leaving _ => 4
  | .closing _ => 4
  | .reporting _ => 3
  | .ended _ => 2

theorem rank_le (stage : ReaderStage) : rank stage ≤ 7 := by
  cases stage <;> simp [rank]

namespace Carries

variable {made : List Poll} {taken backlog : List UInt8} {length : Nat} {before after : Connection}
  {read : Read} {stage : ReaderStage}

theorem of_readerTurn (carries : Carries made taken read.length read.stage before.backlog)
    (wanted : read.cancelled = false) (positive : 0 < read.length)
    (shared : read.stage.holdsClone = true → before.isLastClone read.session = false)
    (turn : ReaderTurn before read after stage) :
    Carries made taken read.length stage after.backlog ∧ rank stage < rank read.stage := by
  cases turn with
  | stops _ cancelled => simp [wanted] at cancelled
  | keepsAll _ cancelled => simp [wanted] at cancelled
  | polls checking =>
      rw [checking] at carries ⊢
      generalize before.backlog = backlog at carries
      cases carries with
      | checking all => exact ⟨.polling all, by decide⟩
  | @divides data received =>
      rw [received] at carries ⊢
      dsimp only
      generalize before.backlog = backlog at carries
      cases carries with
      | received last nonempty all =>
          subst last all
          exact ⟨.leaving (.of_packet nonempty positive), Nat.le_refl _⟩
  | leaves leaving =>
      rw [leaving] at carries ⊢
      change Carries _ _ _ _ before.backlog ∧ _
      generalize before.backlog = backlog at carries
      cases carries with
      | leaving delivers => exact ⟨.reporting delivers, Nat.le_refl _⟩
  | leavesLast leaving last =>
      -- the link has a clone as well
      rw [leaving] at shared
      cases (shared rfl).symm.trans last
  | reports reporting =>
      rw [reporting] at carries ⊢
      generalize before.backlog = backlog at carries
      cases carries with
      | reporting delivers => exact ⟨.ended delivers, Nat.le_refl _⟩

/-- A read begins with what is left of the last packet, and polls if that is nothing. -/
theorem of_consumed (consumed : Consumed made taken backlog) (positive : 0 < length) :
    (backlog = [] → Carries made taken length .checking []) ∧
      (backlog ≠ [] → Carries made taken length
        (.ended ⟨.completed, .ok (backlog.take length)⟩) (backlog.drop length)) := by
  constructor
  · rintro rfl
    exact .checking (by simpa using consumed.bytes_eq)
  · intro nonempty
    exact .ended (.of_backlog consumed nonempty positive)

theorem of_poll (carries : Carries made taken length .polling backlog) (poll : Poll) :
    Carries (made ++ [poll]) taken length (afterPoll poll.reply) backlog := by
  cases carries with
  | polling all =>
      match poll with
      | .timeout => exact .checking (by simp [all, Poll.data])
      | .packet [] => exact .checking (by simp [all, Poll.data])
      | .packet (byte :: rest) => exact .received rfl (by simp) all

end Carries

/-- A job that got bytes goes on with what is left of its buffer. -/
theorem Job.resume_stored {filled data : List UInt8} (rest left : List UInt8)
    (nonempty : data ≠ []) :
    (Job.fill filled left).resume (.returned (.ok (.stored data.length (data ++ rest)))) =
      (Job.fill (filled ++ data) rest).start := by
  cases data with
  | nil => exact absurd rfl nonempty
  | cons byte more => simp [Job.resume, Job.afterAnswer]

/-! ### The steps of a stream -/

/-- A stream that fills buffers, with its connection and the device at the other end. -/
structure Filling where
  connection : Connection
  /-- How the device will answer further polls. -/
  coming : List Poll
  /-- How it has answered the polls so far. -/
  made : List Poll := []
  /-- The buffers that are still to be filled. -/
  buffers : List (List UInt8)
  /-- The buffer in hand, and the number of the call that reads into it. -/
  job : Option (Job × Nat) := none
  outcomes : List Outcome := []

/-- The answer to a poll. -/
def polled? : Exchange → Option BulkIn
  | (_, ⟨.bulkIn _ _ _ _, reply⟩) => some reply
  | _ => none

namespace Filling

/-- Make the next call of a job, or note its outcome. Workers can be started. -/
def proceed (filling : Filling) : Progress → Filling
  | .next job call =>
    { filling with
      connection := filling.connection.invoke call (.ok ())
      job := some (job, filling.connection.tasks.length) }
  | .ended outcome => { filling with job := none, outcomes := filling.outcomes ++ [outcome] }

/--
One step: the stream takes up the next buffer, it goes on when its call has ended, or a thread of
the connection takes a turn. A poll gets the answer that comes next.
-/
inductive Step : Filling → Filling → Prop where
  | begins {filling buffer rest} (free : filling.job = none)
      (next : filling.buffers = buffer :: rest) :
      Step filling ({ filling with buffers := rest }.proceed (Job.fill [] buffer).start)
  | resumes {filling job call ending} (busy : filling.job = some (job, call))
      (ended : filling.connection.tasks[call]? = some (.finished ending)) :
      Step filling (filling.proceed (job.resume ending))
  | acts {filling action connection} (turn : action.thread?.isSome = true)
      (stepped : filling.connection.step? action = some connection)
      (unpolled : (filling.connection.exchange? action).bind polled? = none) :
      Step filling { filling with connection }
  | polls {filling action connection poll rest} (turn : action.thread?.isSome = true)
      (stepped : filling.connection.step? action = some connection)
      (next : filling.coming = poll :: rest)
      (polled : (filling.connection.exchange? action).bind polled? = some poll.reply) :
      Step filling { filling with connection, coming := rest, made := filling.made ++ [poll] }

/-- That every course that a stream can take comes to an end. -/
def Ends (filling : Filling) : Prop := Acc (fun after before => Step before after) filling

/-- That a stream can come to a state in which it cannot go on. -/
def Completes (filling final : Filling) : Prop :=
  Relation.ReflTransGen Step filling final ∧ ∀ after, ¬Step final after

/-- A stream that is about to fill buffers from a device that answers polls so. -/
def start (connection : Connection) (polls : List Poll) (buffers : List (List UInt8)) : Filling :=
  { connection, coming := polls, buffers }

/--
How far a stream is from its end. A poll, a byte and a buffer count more than all the points between
two of them.
-/
def cost (filling : Filling) (left rank : Nat) : Nat :=
  8 * (filling.coming.length + left + (filling.buffers.map List.length).sum +
    filling.buffers.length) + rank

/--
What has become of the polls and the buffers. The buffers in `done` are full, and `current` is the
length of the one in hand.
-/
structure Accounted (locator : Locator) (settings : Settings) (polls : List Poll)
    (lengths : List Nat) (done : List (List UInt8)) (current : List Nat) (filling : Filling) :
    Prop where
  reachable : Reachable locator settings filling.connection
  script : filling.made ++ filling.coming = polls
  outcomes : filling.outcomes = done.map fun data => .stored data.length data
  lengths : done.map List.length ++ current ++ filling.buffers.map List.length = lengths

/-- Where a stream stands, and how far it is from its end. -/
inductive Position (locator : Locator) (settings : Settings) (polls : List Poll)
    (lengths : List Nat) (filling : Filling) : Nat → Prop where
  | rests {done} (accounted : Accounted locator settings polls lengths done [] filling)
      (free : filling.job = none) (quiet : filling.connection.Quiet)
      (consumed : Consumed filling.made done.flatten filling.connection.backlog) :
      Position locator settings polls lengths filling (filling.cost 0 0)
  | waits {done filled left call number read}
      (accounted :
        Accounted locator settings polls lengths done [filled.length + left.length] filling)
      (busy : filling.job = some (.fill filled left, call)) (nonempty : left ≠ [])
      (serving : Serving call number left read filling.connection)
      (carries : Carries filling.made (done.flatten ++ filled) read.length read.stage
        filling.connection.backlog) :
      Position locator settings polls lengths filling (filling.cost left.length (rank read.stage))
  | returned {done filled left call data}
      (accounted :
        Accounted locator settings polls lengths done [filled.length + left.length] filling)
      (busy : filling.job = some (.fill filled left, call)) (quiet : filling.connection.Quiet)
      (stored : filling.connection.tasks[call]? =
        some (Task.succeeded (.stored data.length (data ++ left.drop data.length))))
      (delivers : Delivers filling.made (done.flatten ++ filled) left.length data
        filling.connection.backlog) :
      Position locator settings polls lengths filling (filling.cost left.length 1)

variable {locator : Locator} {settings : Settings} {polls : List Poll} {lengths : List Nat}
  {filling after : Filling} {cost : Nat}

namespace Position

/-- The stream takes up a buffer, or goes on with it. -/
theorem of_start {done : List (List UInt8)} {filled left : List UInt8}
    (accounted :
      Accounted locator settings polls lengths done [filled.length + left.length] filling)
    (quiet : filling.connection.Quiet)
    (consumed : Consumed filling.made (done.flatten ++ filled) filling.connection.backlog) :
    ∃ less ≤ filling.cost left.length 7,
      Position locator settings polls lengths (filling.proceed (Job.fill filled left).start)
        less := by
  cases left with
  | nil =>
      have full : Accounted locator settings polls lengths (done ++ [filled]) []
          (filling.proceed (Job.fill filled []).start) := by
        refine ⟨accounted.reachable, accounted.script, ?_, ?_⟩
        · simp [Job.start, proceed, accounted.outcomes]
        · simpa [Job.start, proceed] using accounted.lengths
      refine ⟨_, ?_, .rests full rfl quiet ?_⟩
      · exact Nat.add_le_add_left (Nat.zero_le 7) _
      · rw [List.flatten_append, List.flatten_singleton]
        exact consumed
  | cons byte more =>
      have nonempty := List.cons_ne_nil byte more
      rcases quiet.serving nonempty with ⟨read, serving, begun⟩
      have stepped : filling.connection.step?
          (.invoke (.read (byte :: more) 0 (byte :: more).length) (.ok ())) = some _ := rfl
      refine ⟨_, ?_, .waits ⟨accounted.reachable.of_step? stepped, accounted.script,
        accounted.outcomes, accounted.lengths⟩ rfl nonempty serving ?_⟩
      · exact Nat.add_le_add_left (rank_le _) _
      · have carries :=
          Carries.of_consumed consumed (serving.asked ▸ List.length_pos_of_ne_nil nonempty)
        rcases begun with ⟨empty, stage, backlog⟩ | ⟨waiting, stage, backlog⟩
        · rw [stage]
          exact backlog.symm ▸ carries.1 empty
        · rw [stage]
          exact backlog.symm ▸ serving.asked ▸ carries.2 waiting

/-! Each kind of step leads to another position, nearer to the end. -/

theorem of_begins {buffer : List UInt8} {rest : List (List UInt8)}
    (position : Position locator settings polls lengths filling cost) (free : filling.job = none)
    (next : filling.buffers = buffer :: rest) :
    ∃ less < cost, Position locator settings polls lengths
      ({ filling with buffers := rest }.proceed (Job.fill [] buffer).start) less := by
  cases position with
  | waits _ busy => cases free.symm.trans busy
  | returned _ busy => cases free.symm.trans busy
  | @rests done accounted _ quiet consumed =>
      have taken : Accounted locator settings polls lengths done
          [([] : List UInt8).length + buffer.length] { filling with buffers := rest } :=
        ⟨accounted.reachable, accounted.script, accounted.outcomes, by
          simpa [next] using accounted.lengths⟩
      rcases of_start taken quiet ((List.append_nil done.flatten).symm ▸ consumed) with
        ⟨less, bound, position⟩
      refine ⟨less, Nat.lt_of_le_of_lt bound ?_, position⟩
      simp only [Filling.cost, next, List.map_cons, List.sum_cons, List.length_cons]
      omega

theorem of_resumes {job : Job} {call : Nat} {ending : Ending}
    (position : Position locator settings polls lengths filling cost)
    (busy : filling.job = some (job, call))
    (ended : filling.connection.tasks[call]? = some (.finished ending)) :
    ∃ less < cost,
      Position locator settings polls lengths (filling.proceed (job.resume ending)) less := by
  cases position with
  | rests _ free => cases free.symm.trans busy
  | waits _ own _ serving =>
      cases own.symm.trans busy
      cases ended.symm.trans serving.stands
  | @returned done filled left _ data accounted own quiet stored delivers =>
      cases own.symm.trans busy
      cases ended.symm.trans stored
      rw [Job.resume_stored _ _ delivers.nonempty]
      have fits := delivers.fits
      have positive := List.length_pos_of_ne_nil delivers.nonempty
      have taken : Accounted locator settings polls lengths done
          [(filled ++ data).length + (left.drop data.length).length] filling := by
        rw [List.length_append, List.length_drop, Nat.add_assoc, Nat.add_sub_cancel' fits]
        exact accounted
      rcases of_start taken quiet (List.append_assoc _ _ _ ▸ delivers.consumed) with
        ⟨less, bound, position⟩
      refine ⟨less, Nat.lt_of_le_of_lt bound ?_, position⟩
      simp only [Filling.cost, List.length_drop]
      omega

theorem of_acts {action : Action} {connection : Connection}
    (position : Position locator settings polls lengths filling cost)
    (turn : action.thread?.isSome = true)
    (stepped : filling.connection.step? action = some connection)
    (unpolled : (filling.connection.exchange? action).bind polled? = none) :
    ∃ less < cost, Position locator settings polls lengths { filling with connection } less := by
  cases position with
  | rests _ _ quiet => exact absurd quiet (not_quiet_of_step? turn stepped)
  | returned _ _ quiet => exact absurd quiet (not_quiet_of_step? turn stepped)
  | @waits done filled left call number read accounted busy nonempty serving carries =>
      have served := serving.acts (Move.of_step? stepped) turn
      have account : Accounted locator settings polls lengths done [filled.length + left.length]
          { filling with connection } :=
        ⟨accounted.reachable.of_step? stepped, accounted.script, accounted.outcomes,
          accounted.lengths⟩
      generalize filling.connection.exchange? action = exchange? at served unpolled
      cases served with
      | @works changed stage turn =>
          rcases accounted.reachable with ⟨actions, ran⟩
          have sound := sound_of_run ran
          have positive : 0 < read.length := serving.asked ▸ List.length_pos_of_ne_nil nonempty
          rcases carries.of_readerTurn serving.wanted positive
            (sound.owned.reader_not_last sound.recorded serving.found) turn with ⟨carries, nearer⟩
          exact ⟨_, Nat.add_lt_add_left nearer _,
            .waits account busy nonempty (serving.of_readerTurn turn) carries⟩
      | hears answer =>
          cases answer with
          | polled => cases unpolled
          | closed closing =>
              -- a worker that is not the last owner closes nothing
              rw [closing] at carries
              cases carries
      | @fetches changed next turn =>
          rcases serving.ended_of_fetch turn with ⟨ending, ended⟩
          rw [ended] at carries ⊢
          generalize backlog : filling.connection.backlog = rest at carries
          cases carries with
          | @ended data _ delivers =>
              rw [serving.asked] at delivers
              rcases serving.of_fetch turn ended delivers.fits with ⟨rfl, rfl⟩
              exact ⟨_, Nat.add_lt_add_left (Nat.lt_succ_self 1) _,
                .returned account busy (serving.quiet ended)
                  (setTask_getElem?_self serving.stands _)
                  (backlog ▸ delivers)⟩

theorem of_polls {action : Action} {connection : Connection} {poll : Poll} {rest : List Poll}
    (position : Position locator settings polls lengths filling cost)
    (turn : action.thread?.isSome = true)
    (stepped : filling.connection.step? action = some connection)
    (next : filling.coming = poll :: rest)
    (polled : (filling.connection.exchange? action).bind polled? = some poll.reply) :
    ∃ less < cost, Position locator settings polls lengths
      { filling with connection, coming := rest, made := filling.made ++ [poll] } less := by
  cases position with
  | rests _ _ quiet => exact absurd quiet (not_quiet_of_step? turn stepped)
  | returned _ _ quiet => exact absurd quiet (not_quiet_of_step? turn stepped)
  | @waits done filled left call number read accounted busy nonempty serving carries =>
      have served := serving.acts (Move.of_step? stepped) turn
      have account : Accounted locator settings polls lengths done [filled.length + left.length]
          { filling with connection, coming := rest, made := filling.made ++ [poll] } := by
        refine ⟨accounted.reachable.of_step? stepped, ?_, accounted.outcomes, accounted.lengths⟩
        simpa [next] using accounted.script
      generalize filling.connection.exchange? action = exchange? at served polled
      cases served with
      | works | fetches => cases polled
      | hears answer =>
          cases answer with
          | closed => cases polled
          | polled polling =>
              cases polled
              rw [polling] at carries ⊢
              refine ⟨_, ?_, .waits account busy nonempty
                (serving.setReader _ filling.connection.backlog serving.writers)
                (carries.of_poll poll)⟩
              have bound := rank_le (afterPoll poll.reply)
              have polls : rank .polling = 6 := rfl
              simp only [Filling.cost, next, List.length_cons, polls]
              omega

theorem of_step (position : Position locator settings polls lengths filling cost)
    (step : Step filling after) :
    ∃ less < cost, Position locator settings polls lengths after less := by
  cases step with
  | begins free next => exact position.of_begins free next
  | resumes busy ended => exact position.of_resumes busy ended
  | acts turn stepped unpolled => exact position.of_acts turn stepped unpolled
  | polls turn stepped next polled => exact position.of_polls turn stepped next polled

/-- A read polls only if the device has more bytes. -/
theorem coming_ne_nil {done : List (List UInt8)} {filled left : List UInt8}
    (accounted :
      Accounted locator settings polls lengths done [filled.length + left.length] filling)
    (nonempty : left ≠ []) (all : bytes filling.made = done.flatten ++ filled)
    (enough : lengths.sum ≤ (bytes polls).length) : filling.coming ≠ [] := by
  intro nothing
  have positive := List.length_pos_of_ne_nil nonempty
  rw [← accounted.lengths, ← accounted.script, nothing, List.append_nil, all] at enough
  simp only [List.sum_append, List.sum_singleton, List.length_append, List.length_flatten] at enough
  omega

/-- A stream that has not filled all its buffers can go on. -/
theorem exists_step (position : Position locator settings polls lengths filling cost)
    (enough : lengths.sum ≤ (bytes polls).length)
    (unfinished : filling.job = none → filling.buffers ≠ []) : ∃ after, Step filling after := by
  cases position with
  | rests _ free =>
      rcases List.exists_cons_of_ne_nil (unfinished free) with ⟨buffer, rest, next⟩
      exact ⟨_, .begins free next⟩
  | returned _ busy _ stored => exact ⟨_, .resumes busy stored⟩
  | @waits done filled left call number read accounted busy nonempty serving carries =>
      have works (working : read.stage ≠ .polling) (unclosed : read.stage.isClosing = false)
          (running : ∀ ending, read.stage ≠ .ended ending) : ∃ after, Step filling after := by
        rcases serving.ready_of_worker working unclosed (Read.isFinished_eq_false.mpr running) with
          ⟨connection, stepped⟩
        exact ⟨_, .acts rfl stepped rfl⟩
      generalize backlog : filling.connection.backlog = rest at carries
      cases stage : read.stage with
      | checking | received | leaving | reporting =>
          exact works (by simp [stage]) (by simp [stage, ReaderStage.isClosing]) (by simp [stage])
      | closing =>
          rw [stage] at carries
          cases carries
      | ended ending =>
          rcases serving.ready_of_ended stage with ⟨connection, stepped⟩
          exact ⟨_, .acts rfl stepped rfl⟩
      | polling =>
          rw [stage] at carries
          cases carries with
          | polling all =>
              rcases List.exists_cons_of_ne_nil (coming_ne_nil accounted nonempty all enough) with
                ⟨poll, rest, next⟩
              rcases accounted.reachable with ⟨actions, ran⟩
              rcases serving.ready_of_polling (sound_of_run ran).owned stage poll.reply with
                ⟨action, connection, turn, stepped, _, _, _, _, exchanged⟩
              exact ⟨_, .polls turn stepped next (by rw [exchanged]; rfl)⟩

theorem ends (position : Position locator settings polls lengths filling cost) : filling.Ends := by
  induction cost using Nat.strong_induction_on generalizing filling with
  | _ cost ih =>
      refine .intro filling fun after step => ?_
      rcases position.of_step step with ⟨less, nearer, position⟩
      exact ih less nearer position

end Position

/--
All buffers are full: each has the bytes that come next, and the backlog has what is left of the
last packet that was polled.
-/
structure Filled (polls : List Poll) (lengths : List Nat) (final : Filling) : Prop where
  script : final.made ++ final.coming = polls
  outcomes : final.outcomes =
    (lengths.splitLengths (bytes polls)).map fun data => .stored data.length data
  consumed : Consumed final.made ((bytes polls).take lengths.sum) final.connection.backlog

namespace Position

/-- A stream that cannot go on has filled all its buffers. -/
theorem filled (position : Position locator settings polls lengths filling cost)
    (enough : lengths.sum ≤ (bytes polls).length) (stuck : ∀ after, ¬Step filling after) :
    Filled polls lengths filling := by
  have finished : filling.job = none ∧ filling.buffers = [] := by
    by_contra unfinished
    rcases position.exists_step enough (fun free emptied => unfinished ⟨free, emptied⟩) with
      ⟨after, step⟩
    exact stuck after step
  cases position with
  | waits _ busy => cases finished.1.symm.trans busy
  | returned _ busy => cases finished.1.symm.trans busy
  | @rests done accounted _ _ consumed =>
      have lengths := accounted.lengths
      simp only [finished.2, List.map_nil, List.append_nil] at lengths
      subst lengths
      have all :
          bytes polls = done.flatten ++ (filling.connection.backlog ++ bytes filling.coming) := by
        rw [← accounted.script, bytes_append, consumed.bytes_eq, List.append_assoc]
      refine ⟨accounted.script, ?_, ?_⟩
      · rw [accounted.outcomes, all, splitLengths_of_append]
      · rw [all, ← List.length_flatten, List.take_left]
        exact consumed

theorem of_run {final : Filling} (position : Position locator settings polls lengths filling cost)
    (run : Relation.ReflTransGen Step filling final) :
    ∃ rest, Position locator settings polls lengths final rest := by
  induction run with
  | refl => exact ⟨cost, position⟩
  | tail _ step ih =>
      rcases ih with ⟨rest, position⟩
      rcases position.of_step step with ⟨less, -, position⟩
      exact ⟨less, position⟩

theorem of_quiet {connection : Connection} (reachable : Reachable locator settings connection)
    (quiet : connection.Quiet) (empty : connection.backlog = []) (polls : List Poll)
    (buffers : List (List UInt8)) :
    ∃ cost, Position locator settings polls (buffers.map List.length)
      (start connection polls buffers) cost := by
  have accounted : Accounted locator settings polls (buffers.map List.length) [] []
    (start connection polls buffers) := ⟨reachable, rfl, rfl, rfl⟩
  have consumed : Consumed [] [] connection.backlog := empty.symm ▸ Consumed.nothing
  exact ⟨_, .rests accounted rfl quiet consumed⟩

end Position

/--
Two streams fill buffers of the same lengths from devices that send the same bytes, cut into packets
in different ways and with other empty packets and timeouts between them. If there are enough bytes,
both come to an end, whatever turns are taken. Both have then filled their buffers with the same
bytes, those that come next in each case, and each has in its backlog what is left of the last
packet that it polled.
-/
theorem fills_regardless_of_packets {locator locator' : Locator} {settings settings' : Settings}
    {connection connection' : Connection} (reachable : Reachable locator settings connection)
    (quiet : connection.Quiet) (empty : connection.backlog = [])
    (reachable' : Reachable locator' settings' connection') (quiet' : connection'.Quiet)
    (empty' : connection'.backlog = []) {polls polls' : List Poll} {lengths : List Nat}
    (same : bytes polls = bytes polls') (enough : lengths.sum ≤ (bytes polls).length)
    {buffers buffers' : List (List UInt8)} (long : buffers.map List.length = lengths)
    (long' : buffers'.map List.length = lengths) :
    (start connection polls buffers).Ends ∧ (start connection' polls' buffers').Ends ∧
      ∀ final final', Completes (start connection polls buffers) final →
        Completes (start connection' polls' buffers') final' →
        final.outcomes = final'.outcomes ∧ Filled polls lengths final ∧
          Filled polls' lengths final' := by
  rcases Position.of_quiet reachable quiet empty polls buffers with ⟨cost, position⟩
  rcases Position.of_quiet reachable' quiet' empty' polls' buffers' with ⟨cost', position'⟩
  rw [long] at position
  rw [long'] at position'
  refine ⟨position.ends, position'.ends, ?_⟩
  rintro final final' ⟨run, stuck⟩ ⟨run', stuck'⟩
  rcases position.of_run run with ⟨rest, ended⟩
  rcases position'.of_run run' with ⟨rest', ended'⟩
  have filled := ended.filled enough stuck
  have filled' := ended'.filled (same ▸ enough) stuck'
  refine ⟨?_, filled, filled'⟩
  rw [filled.outcomes, filled'.outcomes, same]

/-- One packet with everything. -/
def whole : List Poll := [.packet [1, 2, 3, 4, 5]]

/-- The same bytes in many packets. -/
def pieces : List Poll :=
  [.packet [], .packet [1], .timeout, .packet [2, 3], .packet [4], .timeout, .packet [5]]

/-- Three buffers are filled with the same bytes from one packet and from many. -/
theorem whole_and_pieces_fill_alike :
    let opened := Sample.after Sample.opens
    let buffers : List (List UInt8) := [[0], [], [0, 0, 0]]
    let filled : List Outcome := [.stored 1 [1], .stored 0 [], .stored 3 [2, 3, 4]]
    (start opened whole buffers).Ends ∧ (start opened pieces buffers).Ends ∧
      ∀ final final', Completes (start opened whole buffers) final →
        Completes (start opened pieces buffers) final' →
        final.outcomes = filled ∧ Consumed final.made [1, 2, 3, 4] final.connection.backlog ∧
          final'.outcomes = filled ∧
            Consumed final'.made [1, 2, 3, 4] final'.connection.backlog := by
  have reachable : Reachable Sample.connection.locator Sample.connection.settings
    (Sample.after Sample.opens) := ⟨Sample.opens, rfl⟩
  have quiet : (Sample.after Sample.opens).Quiet := ⟨rfl, by decide, by decide, by decide⟩
  have long : List.map List.length ([[0], [], [0, 0, 0]] : List (List UInt8)) = [1, 0, 3] := rfl
  have same : bytes whole = bytes pieces := rfl
  rcases fills_regardless_of_packets reachable quiet rfl reachable quiet rfl same (by decide) long
    long with ⟨ends, ends', filled⟩
  refine ⟨ends, ends', fun final final' completes completes' => ?_⟩
  rcases filled final final' completes completes' with ⟨-, first, second⟩
  exact ⟨first.outcomes, first.consumed, second.outcomes, second.consumed⟩

end Filling

end Stream

end CdcSerial
