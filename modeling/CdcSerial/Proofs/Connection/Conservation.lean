import CdcSerial.Proofs.Connection.Provenance

/-!
# Received bytes are conserved

A read can be started as soon as the worker of the last one has reported, so any number of reads of
a session can wait to be fetched at the same time. They can be fetched, cancelled and dropped in any
order, and what does not fit a buffer comes back to the front of the backlog. Whatever is done, each
byte that was received in the session is at one place: it was delivered, it is in the outcome of a
read that nobody has fetched, it is in the backlog, or a thread has it in its hands between two of
its steps.

The step from `Conserves` to this statement is that nothing strays into the session: when it begins,
nobody waits for a read of an earlier one or has bytes of such a read to put back, and nobody uses
such a read later. Then all callers that wait do so for reads of the session (`Housed`).
-/

namespace CdcSerial

namespace Connection

/-- The bytes in the outcomes of a session's reads that have ended and that nobody has fetched. -/
def unfetched (connection : Connection) (number : Nat) : List UInt8 :=
  connection.reads.flatMap fun read => if read.isFinished then read.keptFor number else []

/-- The bytes that workers of a session's reads have received and not reported yet. -/
def unreported (connection : Connection) (number : Nat) : List UInt8 :=
  connection.reads.flatMap fun read => if read.isFinished then [] else read.keptFor number

/-- The bytes that callers are about to put back. -/
def unreturned (connection : Connection) : List UInt8 :=
  connection.tasks.flatMap fun task => task.returned?.getD []

/-- No worker has bytes to report and no caller has bytes to put back. -/
structure Resting (connection : Connection) : Prop where
  reported : ∀ read ∈ connection.reads,
    read.isFinished = true ∨ read.stage = .checking ∨ read.stage = .polling
  returned : ∀ task ∈ connection.tasks, task.returned? = none

instance (connection : Connection) : Decidable connection.Resting :=
  decidable_of_iff ((∀ read ∈ connection.reads,
      read.isFinished = true ∨ read.stage = .checking ∨ read.stage = .polling) ∧
        ∀ task ∈ connection.tasks, task.returned? = none)
    ⟨fun ⟨reported, returned⟩ => ⟨reported, returned⟩,
      fun resting => ⟨resting.reported, resting.returned⟩⟩

/-! ### Counting the bytes at a place -/

theorem held_eq (connection : Connection) (number : Nat) (byte : UInt8) :
    connection.held number byte =
      (connection.unfetched number).count byte + (connection.unreported number).count byte := by
  unfold held unfetched unreported
  induction connection.reads with
  | nil => simp
  | cons read rest ih =>
      simp only [List.map_cons, List.sum_cons, List.flatMap_cons, List.count_append, ih]
      cases read.isFinished <;> simp <;> omega

theorem returning_eq (connection : Connection) (number : Nat) (byte : UInt8) :
    connection.returning (fun _ => some number) number byte = connection.unreturned.count byte := by
  unfold returning unreturned
  induction connection.tasks using List.reverseRecOn with
  | nil => simp
  | append_singleton rest task ih =>
      simp only [if_true, List.mapIdx_concat, List.sum_append, List.flatMap_append,
        List.count_append] at ih ⊢
      simp [ih]

theorem Resting.unreported_eq {connection : Connection} (resting : connection.Resting)
    (number : Nat) : connection.unreported number = [] := by
  rw [unreported, List.flatMap_eq_nil_iff]
  intro read member
  rcases resting.reported read member with finished | checking | polling
  · simp [finished]
  · simp [Read.keptFor, checking, ReaderStage.held]
  · simp [Read.keptFor, polling, ReaderStage.held]

theorem Resting.unreturned_eq {connection : Connection} (resting : connection.Resting) :
    connection.unreturned = [] := by
  rw [unreturned, List.flatMap_eq_nil_iff]
  intro task member
  rw [resting.returned task member, Option.getD_none]

/-! ### Callers wait for reads of the session only -/

/-- Reads from `base` on are those of a session, and callers wait for no others. -/
structure Housed (number base : Nat) (connection : Connection) : Prop where
  started : base ≤ connection.reads.length
  reads : ∀ {place session : Nat}, base ≤ place →
    connection.readSessions[place]? = some session → session = number
  waits : ∀ {call place : Nat} {task : Task}, connection.tasks[call]? = some task →
    task.awaited? = some place → base ≤ place

section Housed

variable {before after : Connection} {number base : Nat}

/-- A caller that waits for a read waited before, or begins to wait for an old read or a new one. -/
theorem Move.awaited {action : Action} {exchange? : Option Exchange} {call place : Nat}
    {next : Task}
    (move : Move before action exchange? after) (stood : after.tasks[call]? = some next)
    (waits : next.awaited? = some place) :
    (∃ task, before.tasks[call]? = some task ∧ task.awaited? = some place) ∨
      action.read? = some place ∨ place = before.reads.length := by
  have waited (inside : call < before.tasks.length) :
      ∃ task, before.tasks[call]? = some task ∧ task.awaited? = some place := by
    have stands := List.getElem?_eq_getElem inside
    exact ⟨_, stands, (move.fate stands).awaited?_eq stands stood waits⟩
  have inside := (List.getElem?_eq_some_iff.mp stood).1
  cases move.concern with
  | @enters made started changed task entry =>
      simp only [addTask, entry.arrival.2.2] at stood
      rcases Nat.lt_or_ge call before.tasks.length with old | new
      · exact .inl (waited old)
      · rw [List.getElem?_append_right new] at stood
        cases List.mem_singleton.mp (List.mem_of_getElem? stood)
        right
        cases entry with
        | reads fits start =>
            cases waits
            exact .inr start.started.1
        | waits =>
            cases waits
            exact .inl rfl
        | waitsInto =>
            cases waits
            exact .inl rfl
        | _ => cases waits
  | startsRead start => exact .inl (waited (start.frame.2.2.1 ▸ inside))
  | turns stands turn => exact .inl (waited (by simpa [setTask, turn.tasks_eq] using inside))
  | answered stands answer =>
      rcases answer.frame with ⟨-, sessions, rfl⟩
      exact .inl (waited (by simpa [setTask] using inside))
  | expires => exact .inl (waited (by simpa [setTask] using inside))
  | nobody state link tasks => exact .inl (waited (tasks ▸ inside))

namespace Housed

theorem of_move {action : Action} {exchange? : Option Exchange} (housed : before.Housed number base)
    (newest : before.Newest) (last : number + 1 = before.sessions.length)
    (spares : ∀ place ∈ action.read?, base ≤ place) (move : Move before action exchange? after) :
    after.Housed number base := by
  have started := housed.started
  rcases move.readSessions_eq with ⟨more, grown, linked⟩
  have lengths := congrArg List.length grown
  simp only [readSessions, List.length_append, List.length_map] at lengths
  refine ⟨by omega, ?_, ?_⟩
  · intro place session late found
    rw [grown, List.getElem?_append] at found
    split at found
    · exact housed.reads late found
    · rcases Option.map_eq_some_iff.mp (linked session (List.mem_of_getElem? found)) with
        ⟨link, held, rfl⟩
      have there := newest.linked (HoldsLink.of_link held)
      omega
  · intro call place task stood waits
    rcases move.awaited stood waits with ⟨old, stands, waited⟩ | used | new
    · exact housed.waits stands waited
    · exact spares place used
    · omega

theorem session_eq {call place : Nat} {target : ReadTarget} {read : Read}
    (housed : before.Housed number base)
    (stands : before.tasks[call]? = some (.awaitingRead place target))
    (found : before.reads[place]? = some read) : read.session = number :=
  housed.reads (housed.waits stands rfl) (by simp [readSessions, found])

/-- What is delivered is delivered to callers of the session's reads. -/
theorem deliveryIn_eq (housed : before.Housed number base) (custodial : before.Custodial)
    (action : Action) :
    deliveryIn number before action after = delivery before action after := by
  cases action with
  | advance thread =>
      cases thread with
      | call call =>
          simp only [deliveryIn]
          split
          · rfl
          · rename_i elsewhere
            simp only [delivery]
            cases stands : before.tasks[call]? with
            | none => rfl
            | some task =>
                cases after.tasks[call]? with
                | none => rfl
                | some next =>
                    cases task with
                    | awaitingRead place target =>
                        rcases custodial.exists_read stands rfl with ⟨session, found⟩
                        have here := housed.reads (housed.waits stands rfl) found
                        subst here
                        exact absurd (awaitedSession?_eq_some.mpr ⟨_, _, stands, rfl, found⟩)
                          elsewhere
                    | _ => rfl
      | _ => rfl
  | _ => rfl

end Housed

end Housed

/-- What workers receive is received on the device of the session whose backlog it is. -/
theorem Move.receptionIn_eq {before after : Connection} {action : Action}
    {exchange? : Option Exchange} {number : Nat} {handle : Handle} (orderly : before.Orderly)
    (recorded : before.Recorded) (newest : before.Newest) (live : before.cleared = number + 1)
    (device : before.handles[number]? = some handle) (move : Move before action exchange? after)
    (exchanged : before.exchange? action = exchange?) :
    receptionIn number before action after = receivedOn handle exchange?.toList := by
  cases move with
  | @readerAnswered reader read session request replies stage found held answer =>
      have here := recorded.cleared_of_unfinished orderly newest ⟨_, found, rfl, answer.unfinished⟩
      have same : read.session = number := by omega
      have there := handles_getElem? held
      rw [same, device, Option.some.injEq] at there
      rw [Conserves.receptionIn_of_answer found held exchanged, if_pos same, there]
      simp [receivedOn]
  | answered => simp [receptionIn, receivedOn, received]
  | writerAnswered => simp [receptionIn, receivedOn, received]
  | _ => rfl

theorem Lasts.cleared_eq {begun now : Connection} {number : Nat} (lasts : Lasts begun now)
    (last : number + 1 = begun.sessions.length) : now.cleared = number + 1 := by
  have unclearing : now.tasks.countP Task.isClearing = 0 := by
    rw [List.countP_eq_zero]
    intro task member clearing
    cases task with
    | clearing address config session => exact lasts.uncleared _ _ _ member
    | _ => cases clearing
  have length := congrArg List.length lasts.handles
  simp only [Connection.handles, List.length_map] at length
  rw [cleared, unclearing]
  omega

/-! ### Along a session -/

section Session

variable {locator : Locator} {settings : Settings} {earlier during : List Action}
  {start begun final : Connection} {opener number : Nat} {address : Address} {config : LineConfig}

theorem Housed.of_clearing (stands : start.tasks[opener]? = some (.clearing address config number))
    (opens : start.step? (.advance (.call opener)) = some begun)
    (idle : ∀ task ∈ start.tasks, task.awaited? = none ∧ task.returned? = none) :
    begun.Housed number start.reads.length := by
  rw [begun_of_clearing stands opens]
  refine ⟨Nat.le_refl _, ?_, ?_⟩
  · intro place session late found
    have inside := (List.getElem?_eq_some_iff.mp found).1
    simp only [readSessions, setTask, List.length_map] at inside
    omega
  · intro call place task stood waits
    rcases mem_setTask (List.mem_of_getElem? stood) with old | rfl
    · rw [(idle task old).1] at waits
      cases waits
    · cases waits

/-- When a session begins, none of its bytes is anywhere. -/
theorem held_of_clearing (ran : (fresh locator settings).run? earlier = some start)
    (stands : start.tasks[opener]? = some (.clearing address config number)) (byte : UInt8) :
    start.held number byte = 0 := by
  have named : ∀ call session : Nat,
      ((fresh locator settings).waiters earlier)[call]? = some (some session) →
        ((fresh locator settings).waiters earlier)[call]?.join = some session := by
    intro call session waits
    rw [waits, Option.join_some]
  have traced := traced_of_run ran number byte named
  have member := List.mem_of_getElem? stands
  have last := (newest_of_run ran).linked (.inr ⟨_, member, rfl⟩)
  have clearing := (sound_of_run ran).orderly.countP_isClearing member
  have unreceived := traced.early (by
    rw [cleared]
    omega)
  have late := traced.late
  omega

theorem balanced_of_run (ran : (fresh locator settings).run? earlier = some start)
    (stands : start.tasks[opener]? = some (.clearing address config number))
    (opens : start.step? (.advance (.call opener)) = some begun)
    (idle : ∀ task ∈ start.tasks, task.awaited? = none ∧ task.returned? = none)
    (drops : start.DropsReads during) {handle : Handle}
    (device : begun.handles[number]? = some handle) (runs : begun.run? during = some final)
    (fixed : final.sessions.length = begun.sessions.length) (byte : UInt8) :
    (receivedOn handle (begun.exchanges during)).count byte =
      (begun.deliveries during).count byte + (final.held number byte +
        final.returning (fun _ => some number) number byte + final.backlog.count byte) := by
  have last := last_of_clearing ran stands opens
  refine (session_induction ran stands opens (motive := fun during final =>
    start.DropsReads during → final.Housed number start.reads.length ∧
      (receivedOn handle (begun.exchanges during)).count byte =
        (begun.deliveries during).count byte + (final.held number byte +
          final.returning (fun _ => some number) number byte + final.backlog.count byte))
    (fun _ => ⟨.of_clearing stands opens idle, ?_⟩) ?_ runs fixed).2 drops |>.2
  · have held := held_of_clearing ran stands byte
    have returning : start.returning (fun _ => some number) number byte = 0 := by
      rw [returning_eq, unreturned, List.count_eq_zero]
      intro member
      rcases List.mem_flatMap.mp member with ⟨task, old, there⟩
      rw [(idle task old).2] at there
      cases there
    have moved : begun.returning (fun _ => some number) number byte =
        start.returning (fun _ => some number) number byte := by
      rw [begun_of_clearing stands opens]
      exact returning_setTask_of_none stands rfl rfl rfl
    rw [moved, returning, begun_of_clearing stands opens]
    change 0 = 0 + (start.held number byte + 0 + 0)
    omega
  · intro during middle action final runsBefore ranBefore lasts still stepped holds drops
    rcases holds fun action member => drops action (List.mem_append_left _ member) with
      ⟨housed, balanced⟩
    have move := Move.of_step? stepped
    have sound := sound_of_run ranBefore
    have newest := newest_of_run ranBefore
    have custodial := custodial_of_run ranBefore
    have live := lasts.cleared_eq last
    have count : number + 1 = middle.sessions.length :=
      last.trans (by simpa [handles] using congrArg List.length lasts.handles.symm)
    refine ⟨housed.of_move newest count (drops action (by simp)) move, ?_⟩
    have conserves : Conserves (fun _ => some number) number byte middle final
        (deliveryIn number middle action final) (receptionIn number middle action final)
        (strays (fun _ => some number) number middle action final) :=
      .of_move sound.orderly sound.recorded newest custodial
        (fun stood found => by rw [housed.session_eq stood found]) move rfl
    have balance := conserves.live live ((still.cleared_eq last).trans live.symm)
    have strayed : strays (fun _ => some number) number middle action final = [] := by
      cases action with
      | advance thread => cases thread <;> simp [strays]
      | _ => rfl
    rw [housed.deliveryIn_eq custodial, strayed,
      move.receptionIn_eq sound.orderly sound.recorded newest live (lasts.handles ▸ device) rfl,
      List.count_nil] at balance
    rw [exchanges_concat runsBefore stepped, deliveries, along_concat runsBefore stepped,
      receivedOn, List.flatMap_append, List.count_append, List.count_append]
    simp only [receivedOn, deliveries] at balance balanced
    omega

/--
At every moment of a session each byte that the workers of its reads have received is at one place:
delivered to a caller, in the outcome of a read that has ended and that nobody has fetched, in the
backlog, or in the hands of a thread that is about to report it or to put it back. If no thread has
any in its hands, the first three are all.

The session begins where its opener empties the backlog and lasts until another one begins. At its
beginning nobody waits for a read of an earlier session or has bytes to put back, and nobody uses
such a read later. Its own reads may be started, fetched, cancelled and dropped in any order.
-/
theorem received_perm_places (ran : (fresh locator settings).run? earlier = some start)
    (stands : start.tasks[opener]? = some (.clearing address config number))
    (opens : start.step? (.advance (.call opener)) = some begun)
    (idle : ∀ task ∈ start.tasks, task.awaited? = none ∧ task.returned? = none)
    (drops : start.DropsReads during) (runs : begun.run? during = some final)
    (fixed : final.sessions.length = begun.sessions.length) :
    ∃ session, final.sessions[number]? = some session ∧
      (receivedOn session.handle (begun.exchanges during)).Perm
        (begun.deliveries during ++ final.unfetched number ++ final.backlog ++
          (final.unreported number ++ final.unreturned)) ∧
      (final.Resting → (receivedOn session.handle (begun.exchanges during)).Perm
        (begun.deliveries during ++ final.unfetched number ++ final.backlog)) := by
  have last := last_of_clearing ran stands opens
  obtain ⟨session, found⟩ : ∃ session, final.sessions[number]? = some session :=
    ⟨_, List.getElem?_eq_getElem (by omega)⟩
  have device : begun.handles[number]? = some session.handle := by
    have lasts := (session_induction ran stands opens (motive := fun _ _ => True) trivial
      (fun _ _ _ _ _ _ => trivial) runs fixed).1
    rw [← lasts.handles]
    exact handles_getElem? found
  have all : (receivedOn session.handle (begun.exchanges during)).Perm
      (begun.deliveries during ++ final.unfetched number ++ final.backlog ++
        (final.unreported number ++ final.unreturned)) := by
    rw [List.perm_iff_count]
    intro byte
    have balanced := balanced_of_run ran stands opens idle drops device runs fixed byte
    rw [held_eq, returning_eq] at balanced
    simp only [List.count_append]
    omega
  refine ⟨session, found, all, fun resting => ?_⟩
  simpa only [resting.unreported_eq, resting.unreturned_eq, List.append_nil] using all

end Session

/--
After the port is open: the first read leaves bytes in the backlog, the next two are served from
there before anybody has fetched the first, and the fourth is cancelled while bytes come. Then the
second read is fetched, the first is fetched into a buffer that is too small, and the third is
dropped.
-/
def overlapsReads : List Action :=
  [.advance (.call 0), .startRead 2 (.ok ()), .advance (.reader 0),
    .answer (.reader 0) (Sample.bus [1, 2, 3, 4, 5] (.ok ())), .advance (.reader 0),
    .advance (.reader 0), .advance (.reader 0), .startRead 2 (.ok ()), .startRead 4 (.ok ()),
    .startRead 4 (.ok ()), .advance (.reader 3), .cancel 3,
    .answer (.reader 3) (Sample.bus [6, 7] (.ok ())), .advance (.reader 3), .advance (.reader 3),
    .advance (.reader 3), .invoke (.wait 1) (.ok ()), .advance (.call 1),
    .invoke (.waitInto 0 [0] 0) (.ok ()), .advance (.call 2), .advance (.call 2)]

theorem overlapsReads_conserved :
    ∃ begun final session,
      Sample.connection.run? (Sample.reaches ++ [.advance (.call 0)]) = some begun ∧
      begun.run? overlapsReads = some final ∧ final.sessions[0]? = some session ∧
      begun.deliveries overlapsReads = [3, 4] ∧ final.unfetched 0 = [5] ∧
      final.backlog = [1, 2, 6, 7] ∧
      (receivedOn session.handle (begun.exchanges overlapsReads)).Perm
        (begun.deliveries overlapsReads ++ final.unfetched 0 ++ final.backlog) := by
  have started : Sample.connection.run? Sample.reaches = some (Sample.after Sample.reaches) := rfl
  have stands : (Sample.after Sample.reaches).tasks[0]? =
      some (.clearing ⟨Sample.candidate.vendorId, Sample.candidate.productId, 0⟩ {} 0) := rfl
  have opens : (Sample.after Sample.reaches).step? (.advance (.call 0)) =
      some (Sample.after (Sample.reaches ++ [.advance (.call 0)])) := rfl
  have idle : ∀ task ∈ (Sample.after Sample.reaches).tasks,
      task.awaited? = none ∧ task.returned? = none := by decide
  have drops : (Sample.after Sample.reaches).DropsReads overlapsReads :=
    fun _ _ _ _ => Nat.zero_le _
  have runs : (Sample.after (Sample.reaches ++ [.advance (.call 0)])).run? overlapsReads =
      some (Sample.after (Sample.reaches ++ [.advance (.call 0)] ++ overlapsReads)) := rfl
  obtain ⟨session, found, -, whole⟩ :=
    received_perm_places started stands opens idle drops runs (by decide)
  exact ⟨_, _, session, run?_concat_eq_some.mpr ⟨_, started, opens⟩, runs, found, rfl, rfl, rfl,
    whole (by decide)⟩

end Connection

end CdcSerial
