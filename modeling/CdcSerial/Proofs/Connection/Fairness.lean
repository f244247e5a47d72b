import CdcSerial.Proofs.Connection.Course

/-!
# Fair runs

A course of actions is finite and says nothing about what has to happen. A fair run goes on for
ever: at each time a thread takes a turn or nothing happens, and a thread that can take turns does
so in the end. The workers of reads are exempt, since a transfer from a device may last for ever.

`FairRun.eventually` is the rule for proofs about fair runs. A state has a rank and a thread whose
turn it is. That thread can go on; its turn leads to the goal or to a lower rank, and turns of
others do the same or leave both as they are. `FairRun.of_course` makes a fair run of a course that
leaves nobody able to go on.
-/

namespace CdcSerial

namespace Connection

/-- The thread whose turn an action is. -/
def Action.thread? : Action → Option Thread
  | .advance thread => some thread
  | .answer thread _ => some thread
  | .expire call => some (.call call)
  | _ => none

theorem Action.call?_eq_none {action : Action} {thread : Thread}
    (turn : action.thread? = some thread) : action.call? = none := by
  cases action with
  | invoke => cases turn
  | _ => rfl

/-- That a thread can take a turn. -/
def Ready (connection : Connection) (thread : Thread) : Prop :=
  ∃ action next, action.thread? = some thread ∧ connection.step? action = some next

/-- An endless run in which only threads act and none that can go on is left out for ever. -/
structure FairRun (start : Connection) (run : Nat → Connection) (course : Nat → Option Action) :
    Prop where
  begins : run 0 = start
  turns : ∀ {time action}, course time = some action → action.thread?.isSome = true
  steps : ∀ {time action}, course time = some action →
    (run time).step? action = some (run (time + 1))
  rests : ∀ {time}, course time = none → run (time + 1) = run time
  fair : ∀ thread time, (∀ number, thread ≠ .reader number) → ∃ later, time ≤ later ∧
    (¬(run later).Ready thread ∨ ∃ action, course later = some action ∧
      action.thread? = some thread)

namespace FairRun

variable {start : Connection} {run : Nat → Connection} {course : Nat → Option Action}

variable {Rank : Nat → Thread → Connection → Prop} {Goal : Connection → Prop}

/-- A rank stays until it gets lower or the goal is reached. -/
theorem persists (fair : FairRun start run course)
    (step : ∀ {rank thread mover before after action}, Rank rank thread before →
      action.thread? = some mover → before.step? action = some after →
      Goal after ∨ (∃ less other, less < rank ∧ Rank less other after) ∨
        Rank rank thread after ∧ mover ≠ thread)
    {rank : Nat} {thread : Thread} {time : Nat} (ranked : Rank rank thread (run time))
    (waiting : Nat) :
    (∃ later, time ≤ later ∧
      (Goal (run later) ∨ ∃ less other, less < rank ∧ Rank less other (run later))) ∨
      Rank rank thread (run (time + waiting)) := by
  induction waiting with
  | zero => exact .inr ranked
  | succ waiting ih =>
      rcases ih with done | stays
      · exact .inl done
      · cases acts : course (time + waiting) with
        | none =>
            refine .inr ?_
            rw [← Nat.add_assoc, fair.rests acts]
            exact stays
        | some action =>
            rcases Option.isSome_iff_exists.mp (fair.turns acts) with ⟨mover, turn⟩
            rcases step stays turn (fair.steps acts) with goal | lower | ⟨same, -⟩
            · exact .inl ⟨time + waiting + 1, by omega, .inl goal⟩
            · exact .inl ⟨time + waiting + 1, by omega, .inr lower⟩
            · exact .inr same

theorem eventually (fair : FairRun start run course)
    (ready : ∀ {rank thread connection}, Rank rank thread connection →
      connection.Ready thread ∧ ∀ number, thread ≠ .reader number)
    (step : ∀ {rank thread mover before after action}, Rank rank thread before →
      action.thread? = some mover → before.step? action = some after →
      Goal after ∨ (∃ less other, less < rank ∧ Rank less other after) ∨
        Rank rank thread after ∧ mover ≠ thread)
    {rank : Nat} {thread : Thread} {time : Nat} (ranked : Rank rank thread (run time)) :
    ∃ later, Goal (run later) := by
  induction rank using Nat.strongRecOn generalizing thread time with
  | ind rank ih =>
      have lowers {later : Nat} (progress : Goal (run later) ∨
          ∃ less other, less < rank ∧ Rank less other (run later)) : ∃ later, Goal (run later) := by
        rcases progress with goal | ⟨less, other, lower, ranked⟩
        · exact ⟨later, goal⟩
        · exact ih less lower ranked
      rcases fair.fair thread time (ready ranked).2 with ⟨later, after, moves⟩
      obtain ⟨waiting, rfl⟩ := Nat.exists_eq_add_of_le after
      rcases fair.persists step ranked waiting with ⟨soon, -, progress⟩ | stays
      · exact lowers progress
      · rcases moves with idle | ⟨action, acts, turn⟩
        · exact absurd (ready stays).1 idle
        · rcases step stays turn (fair.steps acts) with goal | lower | ⟨-, apart⟩
          · exact ⟨_, goal⟩
          · exact lowers (.inr lower)
          · exact absurd rfl apart

/-- A thread that can go on, and that others do not keep from it, takes a turn in the end. -/
theorem takes_turn (fair : FairRun start run course) {thread : Thread} {Waits : Connection → Prop}
    (regular : ∀ number, thread ≠ .reader number)
    (ready : ∀ {connection}, Waits connection → connection.Ready thread)
    (stays : ∀ {before after action}, Waits before → action.thread? ≠ some thread →
      before.step? action = some after → Waits after)
    {time : Nat} (waits : Waits (run time)) :
    ∃ later action, course later = some action ∧ action.thread? = some thread ∧
      Waits (run later) := by
  rcases fair.fair thread time regular with ⟨later, after, moves⟩
  obtain ⟨waiting, rfl⟩ := Nat.exists_eq_add_of_le after
  have meanwhile (waiting : Nat) : (∃ later action, course later = some action ∧
      action.thread? = some thread ∧ Waits (run later)) ∨ Waits (run (time + waiting)) := by
    induction waiting with
    | zero => exact .inr waits
    | succ waiting ih =>
        rcases ih with turn | still
        · exact .inl turn
        · cases acts : course (time + waiting) with
          | none =>
              refine .inr ?_
              rw [← Nat.add_assoc, fair.rests acts]
              exact still
          | some action =>
              by_cases own : action.thread? = some thread
              · exact .inl ⟨_, action, acts, own, still⟩
              · exact .inr (stays still own (fair.steps acts))
  rcases meanwhile waiting with turn | still
  · exact turn
  · rcases moves with idle | ⟨action, acts, own⟩
    · exact absurd (ready still) idle
    · exact ⟨_, action, acts, own, still⟩

/-! ### Courses as fair runs -/

/-- The states along a course of actions. After the last action nothing happens. -/
def follow (start : Connection) (actions : List Action) (time : Nat) : Connection :=
  (start.run? (actions.take time)).getD start

theorem run?_take {final : Connection} {actions : List Action}
    (ran : start.run? actions = some final) (time : Nat) :
    start.run? (actions.take time) = some (follow start actions time) := by
  rw [← List.take_append_drop time actions, run?_append] at ran
  rcases Option.bind_eq_some_iff.mp ran with ⟨middle, ranBefore, -⟩
  rw [follow, ranBefore, Option.getD_some]

/-- A course of turns is fair if no thread can go on at its end. -/
theorem of_course {final : Connection} {actions : List Action}
    (ran : start.run? actions = some final)
    (turns : ∀ action ∈ actions, action.thread?.isSome = true)
    (rest : ∀ thread, (∀ number, thread ≠ .reader number) → ¬final.Ready thread) :
    FairRun start (follow start actions) (actions[·]?) where
  begins := by simp [follow, run?]
  turns acts := turns _ (List.mem_of_getElem? acts)
  steps := by
    intro time action acts
    have later := run?_take ran (time + 1)
    rw [List.take_add_one, acts, Option.toList_some] at later
    rcases run?_concat_eq_some.mp later with ⟨middle, ranBefore, stepped⟩
    cases ranBefore.symm.trans (run?_take ran time)
    exact stepped
  rests := by
    intro time past
    have long := List.getElem?_eq_none_iff.mp past
    rw [follow, follow, List.take_of_length_le long, List.take_of_length_le (by omega)]
  fair := by
    intro thread time other
    refine ⟨max time actions.length, Nat.le_max_left _ _, .inl ?_⟩
    rw [follow, List.take_of_length_le (Nat.le_max_right _ _), ran]
    exact rest thread other

end FairRun

end Connection

end CdcSerial
