import CdcSerial.Proofs.Connection.Fairness
import Mathlib.Data.Nat.Pairing

/-!
# A scheduler

What holds in every fair run says something about possible courses of actions only if there are fair
runs. Here is one for every state and every bus: threads are called up in an order in which each
comes again and again, and a thread that is called up takes a turn if it can.
-/

namespace CdcSerial

/-- The thread that is called up at a time. -/
def scheduled (time : Nat) : Thread :=
  match time.unpair.1 % 3 with
  | 0 => .call (time.unpair.1 / 3)
  | 1 => .reader (time.unpair.1 / 3)
  | _ => .writer (time.unpair.1 / 3)

/-- Every thread is called up again and again. -/
theorem exists_scheduled (thread : Thread) (time : Nat) :
    ∃ later, time ≤ later ∧ scheduled later = thread := by
  have called (code : Nat) : time ≤ Nat.pair code time ∧ (Nat.pair code time).unpair.1 = code :=
    ⟨Nat.right_le_pair code time, by rw [Nat.unpair_pair]⟩
  cases thread with
  | call number =>
      refine ⟨Nat.pair (3 * number) time, (called _).1, ?_⟩
      have rest : 3 * number % 3 = 0 := by omega
      have whole : 3 * number / 3 = number := by omega
      simp only [scheduled, (called _).2, rest, whole]
  | reader number =>
      refine ⟨Nat.pair (3 * number + 1) time, (called _).1, ?_⟩
      have rest : (3 * number + 1) % 3 = 1 := by omega
      have whole : (3 * number + 1) / 3 = number := by omega
      simp only [scheduled, (called _).2, rest, whole]
  | writer number =>
      refine ⟨Nat.pair (3 * number + 2) time, (called _).1, ?_⟩
      have rest : (3 * number + 2) % 3 = 2 := by omega
      have whole : (3 * number + 2) / 3 = number := by omega
      simp only [scheduled, (called _).2, rest, whole]

namespace Connection

/--
The turn that a thread takes, if it can take one: by itself, with an answer, or at its deadline.
-/
def turn? (connection : Connection) (replies : Replies) (thread : Thread) : Option Action :=
  if (connection.advance? thread).isSome then some (.advance thread)
  else if (connection.pending? thread).isSome then some (.answer thread replies)
  else
    match thread with
    | .call call => if (connection.expire? call).isSome then some (.expire call) else none
    | _ => none

/-- A turn of a thread, with the answers of a bus. -/
inductive TurnOf (replies : Replies) (thread : Thread) : Action → Prop where
  | advances : TurnOf replies thread (.advance thread)
  | answered : TurnOf replies thread (.answer thread replies)
  | expires {call} (own : thread = .call call) : TurnOf replies thread (.expire call)

section Turns

variable {connection : Connection} {replies : Replies} {thread : Thread} {action : Action}

theorem TurnOf.thread?_eq (turn : TurnOf replies thread action) : action.thread? = some thread := by
  cases turn with
  | expires own => exact congrArg some own.symm
  | _ => rfl

theorem turn?_eq_some (takes : connection.turn? replies thread = some action) :
    TurnOf replies thread action ∧ (connection.step? action).isSome = true := by
  unfold turn? at takes
  split at takes
  · next goes =>
      cases takes
      exact ⟨.advances, goes⟩
  · split at takes
    · next waits =>
        cases takes
        exact ⟨.answered, by simpa [step?] using waits⟩
    · cases thread with
      | call call =>
          simp only [Option.ite_none_right_eq_some, Option.some.injEq] at takes
          rcases takes with ⟨late, rfl⟩
          exact ⟨.expires rfl, late⟩
      | _ => cases takes

theorem not_ready_of_turn? (idle : connection.turn? replies thread = none) :
    ¬connection.Ready thread := by
  rintro ⟨action, next, acts, stepped⟩
  unfold turn? at idle
  split at idle
  · cases idle
  · next still =>
      split at idle
      · cases idle
      · next silent =>
          cases action with
          | advance mover =>
              cases acts
              exact still (by simpa [step?] using Option.isSome_of_mem stepped)
          | answer mover given =>
              cases acts
              exact silent (by simpa [step?] using Option.isSome_of_mem stepped)
          | expire call =>
              cases acts
              have late : connection.expire? call = some next := stepped
              simp [late] at idle
          | _ => cases acts

end Turns

/-- The states of a run in which threads take turns as they are called up. -/
def rounds (start : Connection) (replies : Replies) : Nat → Connection
  | 0 => start
  | time + 1 =>
    let connection := rounds start replies time
    ((connection.turn? replies (scheduled time)).bind connection.step?).getD connection

/-- There is a fair run from every state, whatever the bus is. -/
theorem rounds_fair (start : Connection) (replies : Replies) :
    FairRun start (rounds start replies)
      fun time => (rounds start replies time).turn? replies (scheduled time) where
  begins := rfl
  turns := by
    intro time action takes
    simp [(turn?_eq_some takes).1.thread?_eq]
  steps := by
    intro time action takes
    rcases Option.isSome_iff_exists.mp (turn?_eq_some takes).2 with ⟨next, stepped⟩
    simp [rounds, takes, stepped]
  rests := by
    intro time idle
    simp [rounds, idle]
  fair := by
    intro thread time _
    rcases exists_scheduled thread time with ⟨later, after, rfl⟩
    refine ⟨later, after, ?_⟩
    cases takes : (rounds start replies later).turn? replies (scheduled later) with
    | none => exact .inl (not_ready_of_turn? takes)
    | some action => exact .inr ⟨action, rfl, (turn?_eq_some takes).1.thread?_eq⟩

/-- A run up to a time is a course of actions. -/
theorem FairRun.exists_course {start : Connection} {run : Nat → Connection}
    {course : Nat → Option Action} (fair : FairRun start run course) (time : Nat) :
    ∃ actions, start.run? actions = some (run time) ∧
      ∀ action ∈ actions, ∃ earlier, course earlier = some action := by
  induction time with
  | zero => exact ⟨[], by rw [fair.begins]; rfl, by simp⟩
  | succ time ih =>
      rcases ih with ⟨actions, ran, taken⟩
      cases acts : course time with
      | none =>
          rw [fair.rests acts]
          exact ⟨actions, ran, taken⟩
      | some action =>
          refine ⟨actions ++ [action], run?_concat_eq_some.mpr ⟨_, ran, fair.steps acts⟩, ?_⟩
          intro member among
          rcases List.mem_append.mp among with old | new
          · exact taken member old
          · exact ⟨time, List.mem_singleton.mp new ▸ acts⟩

end Connection

end CdcSerial
