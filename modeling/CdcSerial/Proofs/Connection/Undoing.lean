import CdcSerial.Proofs.Connection.Queue

/-!
# Bytes that are put back keep their place

A read is undone when its bytes do not fit the buffer of the caller that fetches it: they go back to
the front of the backlog. Along a session in which this never happens behind the back of a younger
read, the bytes that were received and not delivered are a queue from beginning to end. What leaves
it is in order as well if reads are fetched in the order in which they were started. For that it is
enough to look at the part of the queue behind the last read that was fetched (`InTurn`): reads that
were passed by may stay there for ever.

Fetching an older read late, after a younger one has taken bytes, does change the order
(`undoesBoth_changes_order`).
-/

namespace CdcSerial

namespace Connection

/-- The reads that a course of actions fetches, in order. -/
def fetches (connection : Connection) (actions : List Action) : List Nat :=
  connection.along (fun before action _ => (before.fetched? action).toList) actions

/-- The reads whose bytes do not fit the buffer of whoever fetches them, with the states before. -/
def spills (connection : Connection) (actions : List Action) : List (Connection × Nat) :=
  connection.along (fun before action after =>
    if after.excess action = [] then []
      else (before.fetched? action).toList.map (before, ·)) actions

/-- The reads whose bytes are delivered, with the states before. -/
def handovers (connection : Connection) (actions : List Action) : List (Connection × Nat) :=
  connection.along (fun before action after =>
    if delivery before action after = [] then []
    else (before.fetched? action).toList.map (before, ·)) actions

section Step

variable {before after : Connection} {number place : Nat}

/-! ### Passing bytes on -/

/--
What a course of actions does to a session's queue. Nothing changes places: what is left comes from
the queue as it was and what was received behind it, without what was delivered. If bytes are
fetched only from the oldest read that has any, the delivered bytes are those in front.
-/
structure Forwards (number : Nat) (before after : Connection) (delivered received : List UInt8)
    (handed : List (Connection × Nat)) : Prop where
  keeps : (after.undelivered number).Sublist (before.undelivered number ++ received)
  all : (before.undelivered number ++ received).Perm (delivered ++ after.undelivered number)
  oldest : (∀ pair ∈ handed, pair.1.older number pair.2 = []) →
    before.undelivered number ++ received = delivered ++ after.undelivered number

namespace Forwards

theorem refl (number : Nat) (connection : Connection) :
    Forwards number connection connection [] [] [] where
  keeps := List.sublist_append_left _ _
  all := .of_eq (List.append_nil _)
  oldest := fun _ => List.append_nil _

theorem of_shift {delivered received : List UInt8} {fetched : Option Nat}
    (shift : Shift number before after delivered received fetched) :
    Forwards number before after delivered received
      (if delivered = [] then [] else fetched.toList.map (before, ·)) := by
  cases shift with
  | grows nothing grows =>
      rw [nothing]
      exact ⟨grows ▸ List.Sublist.refl _, grows ▸ .refl _, fun _ => grows.symm⟩
  | @fetches place rest silent had has =>
      rw [silent]
      refine ⟨?_, ?_, fun first => ?_⟩ <;> rw [had, has, List.append_nil]
      · exact (List.Sublist.refl _).append (List.sublist_append_right delivered rest)
      · exact List.perm_append_comm_assoc _ _ _
      · by_cases nothing : delivered = []
        · rw [nothing, List.nil_append, List.nil_append]
        · rw [if_neg nothing] at first
          have oldest : before.older number place = [] :=
            first (before, place) (List.mem_singleton_self _)
          rw [oldest, List.nil_append, List.nil_append]

theorem trans {middle : Connection} {delivered received delivered' received' : List UInt8}
    {handed handed' : List (Connection × Nat)}
    (first : Forwards number before middle delivered received handed)
    (second : Forwards number middle after delivered' received' handed') :
    Forwards number before after (delivered ++ delivered') (received ++ received')
      (handed ++ handed') where
  keeps := by
    rw [← List.append_assoc]
    exact second.keeps.trans (first.keeps.append (List.Sublist.refl _))
  all := by
    rw [← List.append_assoc, List.append_assoc delivered]
    refine (first.all.append_right received').trans ?_
    rw [List.append_assoc]
    exact second.all.append_left delivered
  oldest := by
    intro oldest
    have before := first.oldest fun pair member => oldest pair (List.mem_append_left _ member)
    have after := second.oldest fun pair member => oldest pair (List.mem_append_right _ member)
    rw [← List.append_assoc, before, List.append_assoc, after, List.append_assoc]

end Forwards

/-! ### Reads that are fetched in turn -/

/-- What a session has received and not delivered, without the bytes of its oldest reads. -/
def beyond (connection : Connection) (number bound : Nat) : List UInt8 :=
  (connection.reads.drop bound).flatMap (Read.keptFor number) ++
    (connection.unreturned ++ connection.backlog)

theorem undelivered_eq (connection : Connection) (number bound : Nat) :
    connection.undelivered number =
      connection.older number bound ++ connection.beyond number bound := by
  rw [undelivered, older, beyond, ← List.append_assoc (List.flatMap _ _) (List.flatMap _ _),
    ← List.flatMap_append, List.take_append_drop]

theorem older_split (connection : Connection) (number : Nat) {bound place : Nat}
    (early : bound ≤ place) : ∃ between, connection.older number place =
      connection.older number bound ++ between := by
  obtain ⟨more, rfl⟩ := Nat.exists_eq_add_of_le early
  refine ⟨((connection.reads.drop bound).take more).flatMap (Read.keptFor number), ?_⟩
  rw [older, older, List.take_add, List.flatMap_append]

theorem older_succ {read : Read} (found : before.reads[place]? = some read) :
    before.older number (place + 1) = before.older number place ++ read.keptFor number := by
  rw [older, older, List.take_add_one, found, List.flatMap_append]
  simp

/-- A step leaves alone what reads have that are neither fetched by it nor its worker's. -/
theorem Move.older_eq {action : Action} {exchange? : Option Exchange} {bound : Nat}
    (move : Move before action exchange? after) (number : Nat)
    (inside : bound ≤ before.reads.length) (ended : ∀ {place read},
      before.reads[place]? = some read → read.isFinished = false → bound ≤ place)
    (later : ∀ place ∈ before.fetched? action, bound ≤ place) :
    after.older number bound = before.older number bound := by
  refine flatMap_of_map_eq (List.ext_getElem? fun place => ?_)
  simp only [List.getElem?_map, List.getElem?_take]
  by_cases early : place < bound
  · have found := List.getElem?_eq_getElem (Nat.lt_of_lt_of_le early inside)
    rcases move.readFate found with ⟨next, there, fate⟩
    rw [if_pos early, if_pos early, found, there, Option.map_some, Option.map_some,
      Option.some.injEq]
    cases fate with
    | stays => rfl
    | asked kept => simp [Read.keptFor, kept]
    | cancelled => rfl
    | fetched fetched => exact absurd (later place fetched) (Nat.not_le.mpr early)
    | turned turn => exact absurd (ended found turn.unfinished) (Nat.not_le.mpr early)
    | answered held answer => exact absurd (ended found answer.unfinished) (Nat.not_le.mpr early)
  · rw [if_neg early, if_neg early]

/--
Reads are fetched in the order in which they were started, and `bound` is the place behind the last
of them. What was delivered came in that order, before what is still to be fetched.
-/
structure InTurn (number : Nat) (since now : Connection) (fetched : List Nat) (bound : Nat)
    (delivered received : List UInt8) : Prop where
  reached : ∀ {place}, place + 1 = bound → place ∈ fetched ∧
    ∃ read ending, now.reads[place]? = some read ∧ read.stage = .ended ending
  inOrder : (delivered ++ now.beyond number bound).Sublist (since.undelivered number ++ received)

namespace InTurn

variable {since : Connection} {bound : Nat} {fetched : List Nat} {delivered received : List UInt8}

theorem refl (number : Nat) (connection : Connection) :
    InTurn number connection connection [] 0 [] [] where
  reached := nofun
  inOrder := by
    rw [undelivered_eq connection number 0, older]
    simp

theorem bound_le (inTurn : InTurn number since before fetched bound delivered received) :
    bound ≤ before.reads.length := by
  cases bound with
  | zero => exact Nat.zero_le _
  | succ last =>
      rcases inTurn.reached rfl with ⟨-, read, ending, found, ended⟩
      exact (List.getElem?_eq_some_iff.mp found).1

/-- The workers of the reads before the bound have stopped. -/
theorem bound_le_unfinished {read : Read}
    (inTurn : InTurn number since before fetched bound delivered received) (lineup : before.Lineup)
    (found : before.reads[place]? = some read) (unfinished : read.isFinished = false) :
    bound ≤ place := by
  cases bound with
  | zero => exact Nat.zero_le _
  | succ last =>
      rcases inTurn.reached rfl with ⟨-, fetched, ending, there, ended⟩
      exact lineup.lt_of_unfinished there ended found unfinished

theorem reached_of_move {action : Action} {exchange? : Option Exchange} {last : Nat}
    (inTurn : InTurn number since before fetched bound delivered received)
    (move : Move before action exchange? after) (here : last + 1 = bound) :
    last ∈ fetched ∧ ∃ read ending, after.reads[last]? = some read ∧
      read.stage = .ended ending := by
  rcases inTurn.reached here with ⟨member, read, ending, found, ended⟩
  rcases move.readFate found with ⟨next, there, fate⟩
  exact ⟨member, next, ending, there, fate.ended ended⟩

theorem of_grows {action : Action} {exchange? : Option Exchange} {came : List UInt8}
    (inTurn : InTurn number since before fetched bound delivered received) (lineup : before.Lineup)
    (unfetched : before.fetched? action = none) (move : Move before action exchange? after)
    (grows : after.undelivered number = before.undelivered number ++ came) :
    InTurn number since after fetched bound delivered (received ++ came) where
  reached := inTurn.reached_of_move move
  inOrder := by
    have same : after.older number bound = before.older number bound :=
      move.older_eq number inTurn.bound_le (inTurn.bound_le_unfinished lineup) (by simp [unfetched])
    rw [undelivered_eq after number bound, undelivered_eq before number bound, same,
      List.append_assoc] at grows
    rw [List.append_cancel_left grows, ← List.append_assoc, ← List.append_assoc]
    exact inTurn.inOrder.append (List.Sublist.refl came)

theorem of_fetches {action : Action} {exchange? : Option Exchange} {more rest : List UInt8}
    (inTurn : InTurn number since before fetched bound delivered received) (lineup : before.Lineup)
    (fetches : before.fetched? action = some place) (later : bound ≤ place)
    (move : Move before action exchange? after)
    (had : before.undelivered number = before.older number place ++ (more ++ rest))
    (has : after.undelivered number = before.older number place ++ rest) :
    InTurn number since after (fetched ++ [place]) (place + 1) (delivered ++ more) received := by
  rcases move.fetched fetches with ⟨read, ending, found, ended, resolved⟩
  have inside := (List.getElem?_eq_some_iff.mp found).1
  have same : after.older number place = before.older number place := by
    refine move.older_eq number (Nat.le_of_lt inside) (fun there unfinished => ?_)
      (by simp [fetches])
    exact Nat.le_of_lt (lineup.lt_of_unfinished found ended there unfinished)
  have behind : after.beyond number (place + 1) = rest := by
    rw [undelivered_eq after number (place + 1), older_succ resolved, same,
      Read.keptFor_of_resolved rfl, List.append_nil] at has
    exact List.append_cancel_left has
  rcases older_split before number later with ⟨between, split⟩
  have ahead : before.beyond number bound = between ++ (more ++ rest) := by
    rw [undelivered_eq before number bound, split, List.append_assoc] at had
    exact List.append_cancel_left had
  refine ⟨fun here => ?_, ?_⟩
  · cases Nat.succ.inj here
    exact ⟨by simp, _, ending, resolved, ended⟩
  · refine List.Sublist.trans ?_ inTurn.inOrder
    rw [behind, ahead, List.append_assoc]
    exact (List.Sublist.refl delivered).append (List.sublist_append_right _ _)

end InTurn

/--
What a course of actions does to a session's queue if reads are fetched in any order, or in turn.
-/
structure Queued (number : Nat) (handle : Handle) (since : Connection) (actions : List Action)
    (now : Connection) : Prop where
  forwards : Forwards number since now (since.deliveries actions)
    (receivedOn handle (since.exchanges actions)) (since.handovers actions)
  inTurn : (since.fetches actions).Pairwise (· < ·) → ∃ bound, InTurn number since now
    (since.fetches actions) bound (since.deliveries actions)
    (receivedOn handle (since.exchanges actions))

theorem Queued.refl (number : Nat) (handle : Handle) (connection : Connection) :
    Queued number handle connection [] connection :=
  ⟨.refl number connection, fun _ => ⟨0, .refl number connection⟩⟩

theorem Queued.of_step {since : Connection} {actions : List Action} {action : Action}
    {handle : Handle}
    (queued : Queued number handle since actions before) (lineup : before.Lineup)
    (runs : since.run? actions = some before) (stepped : before.step? action = some after)
    (shift : Shift number before after (delivery before action after)
      (receivedOn handle (before.exchange? action).toList) (before.fetched? action)) :
    Queued number handle since (actions ++ [action]) after := by
  have delivered : since.deliveries (actions ++ [action]) =
      since.deliveries actions ++ delivery before action after := along_concat runs stepped
  have received : receivedOn handle (since.exchanges (actions ++ [action])) =
      receivedOn handle (since.exchanges actions) ++
        receivedOn handle (before.exchange? action).toList := by
    rw [exchanges_concat runs stepped, receivedOn, List.flatMap_append]
    rfl
  have handed : since.handovers (actions ++ [action]) = since.handovers actions ++
      if delivery before action after = [] then []
      else (before.fetched? action).toList.map (before, ·) := along_concat runs stepped
  have fetched : since.fetches (actions ++ [action]) =
      since.fetches actions ++ (before.fetched? action).toList := along_concat runs stepped
  refine ⟨?_, fun ordered => ?_⟩
  · rw [delivered, received, handed]
    exact queued.forwards.trans (.of_shift shift)
  · rw [fetched, List.pairwise_append] at ordered
    rw [delivered, received, fetched]
    rcases queued.inTurn ordered.1 with ⟨bound, inTurn⟩
    have move := Move.of_step? stepped
    generalize fetches : before.fetched? action = place? at *
    cases shift with
    | grows nothing grows =>
        refine ⟨bound, ?_⟩
        rw [nothing, Option.toList_none, List.append_nil, List.append_nil]
        exact inTurn.of_grows lineup fetches move grows
    | @fetches place rest silent had has =>
        refine ⟨place + 1, ?_⟩
        rw [silent, List.append_nil]
        refine inTurn.of_fetches lineup fetches ?_ move had has
        -- The last read that was fetched is older.
        cases bound with
        | zero => exact Nat.zero_le _
        | succ last =>
            exact ordered.2.2 last (inTurn.reached rfl).1 place (List.mem_singleton_self _)

end Step

/-! ### Along a session -/

section Session

variable {locator : Locator} {settings : Settings} {earlier during later : List Action}
  {start begun middle final : Connection} {opener number : Nat} {address : Address}
  {config : LineConfig}

/-- When a session begins, nothing was received and no worker runs. -/
theorem Lineup.of_clearing (ran : (fresh locator settings).run? earlier = some start)
    (stands : start.tasks[opener]? = some (.clearing address config number))
    (opens : start.step? (.advance (.call opener)) = some begun)
    (idle : ∀ task ∈ start.tasks, task.awaited? = none ∧ task.returned? = none) :
    begun.Lineup ∧ begun.undelivered number = [] := by
  have sound := sound_of_run ran
  have linkless := (sound.orderly.of_opener (List.mem_of_getElem? stands) rfl).2
  have unreturned : begun.unreturned = [] := by
    rw [begun_of_clearing stands opens, unreturned, List.flatMap_eq_nil_iff]
    intro task member
    rcases mem_setTask member with old | rfl
    · rw [(idle task old).2, Option.getD_none]
    · rfl
  rw [begun_of_clearing stands opens] at unreturned ⊢
  have ended {place : Nat} {read : Read} (found : start.reads[place]? = some read) :
      ∃ ending, read.stage = .ended ending := by
    by_contra running
    have unfinished : start.Unfinished place read.session :=
      ⟨read, found, rfl, Read.isFinished_eq_false.mpr fun ending stopped =>
        running ⟨ending, stopped⟩⟩
    have duty := sound.recorded.unfinished unfinished
    simp [duty?, linkless] at duty
  have unheld : start.reads.flatMap (Read.keptFor number) = [] := by
    rw [List.eq_nil_iff_forall_not_mem]
    intro byte among
    have counted := List.count_pos_iff.mpr among
    rw [List.count_flatMap] at counted
    exact absurd (held_of_clearing ran stands byte) (Nat.ne_of_gt counted)
  refine ⟨⟨?_, ?_, ?_⟩, ?_⟩
  · intro place stage found running
    rw [stages, List.getElem?_map] at found
    rcases Option.map_eq_some_iff.mp found with ⟨read, there, rfl⟩
    rcases ended there with ⟨ending, stopped⟩
    exact absurd stopped (running ending)
  · exact fun _ _ _ => ⟨unreturned, rfl⟩
  · exact fun returning => .inl (returned?_of_unreturned unreturned returning)
  · rw [undelivered, unreturned]
    exact (List.append_nil _).trans unheld

/--
As long as nothing comes from younger reads when bytes do not fit, and they are back before a read
is started, each part of the session passes the bytes on as a queue.
-/
theorem queued_of_run (ran : (fresh locator settings).run? earlier = some start)
    (stands : start.tasks[opener]? = some (.clearing address config number))
    (opens : start.step? (.advance (.call opener)) = some begun)
    (idle : ∀ task ∈ start.tasks, task.awaited? = none ∧ task.returned? = none)
    (drops : start.DropsReads during) {handle : Handle}
    (device : begun.handles[number]? = some handle) (runs : begun.run? during = some final)
    (fixed : final.sessions.length = begun.sessions.length)
    (free : ∀ pair ∈ begun.spills during, pair.1.FreeBehind pair.2)
    (prompt : ∀ state ∈ begun.readStarts during, state.unreturned = []) :
    final.Lineup ∧ ∀ {first second middle}, first ++ second = during →
      begun.run? first = some middle → Queued number handle middle second final := by
  have last := last_of_clearing ran stands opens
  have along := (session_induction ran stands opens (motive := fun during final =>
    start.DropsReads during → (∀ pair ∈ begun.spills during, pair.1.FreeBehind pair.2) →
      (∀ state ∈ begun.readStarts during, state.unreturned = []) →
        final.Housed number start.reads.length ∧ final.Lineup ∧
          ∀ {first second middle}, first ++ second = during → begun.run? first = some middle →
            Queued number handle middle second final) ?_ ?_ runs fixed).2 drops free prompt
  · exact along.2
  · refine fun _ _ _ => ⟨.of_clearing stands opens idle,
      (Lineup.of_clearing ran stands opens idle).1, fun {first second middle} whole runs => ?_⟩
    rcases List.append_eq_nil_iff.mp whole with ⟨rfl, rfl⟩
    cases runs
    exact .refl number handle begun
  · intro during middle action final runsBefore ranBefore lasts still stepped holds drops
      free prompt
    simp only [spills, along_concat runsBefore stepped, List.mem_append] at free
    simp only [readStarts, along_concat runsBefore stepped, List.mem_append] at prompt
    rcases holds (fun action member => drops action (List.mem_append_left _ member))
      (fun pair member => free pair (.inl member))
        (fun state member => prompt state (.inl member)) with
      ⟨housed, lineup, queued⟩
    have move := Move.of_step? stepped
    have sound := sound_of_run ranBefore
    have newest := newest_of_run ranBefore
    have count : number + 1 = middle.sessions.length :=
      last.trans (by simpa [handles] using congrArg List.length lasts.handles.symm)
    have linked {link : Link} (opened : middle.openLink? = some link) : link.session = number := by
      have there := newest.linked (HoldsLink.of_link (openLink?_eq_some.mp opened).2)
      omega
    have polled {place session : Nat} (unfinished : middle.Unfinished place session) :
        session = number := by
      have live := sound.recorded.cleared_of_unfinished sound.orderly newest unfinished
      have here := lasts.cleared_eq last
      omega
    have same {session : Session} (found : middle.sessions[number]? = some session) :
        session.handle = handle := by
      have there := handles_getElem? found
      rw [lasts.handles, device, Option.some.injEq] at there
      exact there.symm
    have stepsOn := lineup.of_move (custodial_of_run ranBefore) sound.recorded linked polled same
      housed.session_eq lasts.uncleared (fun ne => prompt middle (.inr (by simp [ne])))
      (fun spilled place fetched => free (middle, place) (.inr (by
        rw [if_neg spilled, Option.mem_def.mp fetched]
        exact List.mem_singleton_self _))) move
    refine ⟨housed.of_move newest count (drops action (by simp)) move, stepsOn.1, ?_⟩
    intro first second since whole runsFirst
    rcases List.eq_nil_or_concat second with rfl | ⟨before, ending, rfl⟩
    · -- The part that begins here has not gone on yet.
      rw [List.append_nil] at whole
      subst whole
      cases (run?_concat_eq_some.mpr ⟨_, runsBefore, stepped⟩).symm.trans runsFirst
      exact .refl number handle final
    · rw [List.concat_eq_append, ← List.append_assoc] at whole
      rcases List.append_inj' whole rfl with ⟨rfl, same⟩
      cases List.singleton_inj.mp same
      have runsSecond : since.run? before = some middle := by
        rw [run?_append, runsFirst] at runsBefore
        exact runsBefore
      rw [List.concat_eq_append]
      exact (queued rfl runsFirst).of_step lineup runsSecond stepped stepsOn.2

/--
A caller whose buffer is too small gets nothing, and its bytes become the front of the backlog.
-/
theorem fails_of_puttingBack {before after : Connection} {call : Nat} {data buffer : List UInt8}
    {offset : Nat} (stands : before.tasks[call]? = some (.puttingBack data buffer offset))
    (stepped : before.step? (.advance (.call call)) = some after) :
    after.tasks[call]? = some (Task.failed (.invalidRange offset data.length buffer.length)) ∧
      after.backlog = data ++ before.backlog ∧
        delivery before (.advance (.call call)) after = [] := by
  cases Move.of_step? stepped with
  | turns stood turn =>
      rw [stands, Option.some.injEq] at stood
      subst stood
      cases turn with
      | putsBack =>
          have stood : (before.putBack data).tasks[call]? = _ := stands
          exact ⟨setTask_getElem?_self stood _, rfl,
            @delivery_of_stands before (before.putBack data) call _ _ stands rfl⟩

/--
A read whose bytes do not fit the caller's buffer is undone. Let bytes that do not fit always find
nothing to come from younger reads, and be back before a read is started. Then at each moment of a
session what was received and not delivered, read off in the order of the reads with the backlog
behind them, is in the order in which it came, and later reads yield it in that order: if they are
fetched in the order in which they were started, what is delivered is in the order in which it came,
and if bytes are fetched only from the oldest read that has any, nothing is left out. The caller
itself gets an error, nothing of its buffer is written, and putting its bytes back changes no place
in this order.

The session begins where its opener empties the backlog and lasts until another one begins, as in
`received_perm_places`.
-/
theorem undone_reads_keep_order (ran : (fresh locator settings).run? earlier = some start)
    (stands : start.tasks[opener]? = some (.clearing address config number))
    (opens : start.step? (.advance (.call opener)) = some begun)
    (idle : ∀ task ∈ start.tasks, task.awaited? = none ∧ task.returned? = none)
    (drops : start.DropsReads (during ++ later)) (runs : begun.run? during = some middle)
    (goes : middle.run? later = some final)
    (fixed : final.sessions.length = begun.sessions.length)
    (free : ∀ pair ∈ begun.spills (during ++ later), pair.1.FreeBehind pair.2)
    (prompt : ∀ state ∈ begun.readStarts (during ++ later), state.unreturned = []) :
    ∃ session, final.sessions[number]? = some session ∧
      (middle.undelivered number).Sublist (receivedOn session.handle (begun.exchanges during)) ∧
      (receivedOn session.handle (begun.exchanges during)).Perm
        (begun.deliveries during ++ middle.undelivered number) ∧
      ((middle.fetches later).Pairwise (· < ·) → (middle.deliveries later).Sublist
        (middle.undelivered number ++ receivedOn session.handle (middle.exchanges later))) ∧
      ((∀ pair ∈ middle.handovers later, pair.1.older number pair.2 = []) →
        middle.undelivered number ++ receivedOn session.handle (middle.exchanges later) =
          middle.deliveries later ++ final.undelivered number) ∧
      ∀ {call data buffer offset next},
        middle.tasks[call]? = some (.puttingBack data buffer offset) →
        middle.step? (.advance (.call call)) = some next →
        next.tasks[call]? = some (Task.failed (.invalidRange offset data.length buffer.length)) ∧
          next.backlog = data ++ middle.backlog ∧
          delivery middle (.advance (.call call)) next = [] ∧
          next.undelivered number = middle.undelivered number := by
  have last := last_of_clearing ran stands opens
  have whole : begun.run? (during ++ later) = some final := by
    rw [run?_append, runs]
    exact goes
  have fixedBefore : middle.sessions.length = begun.sessions.length := by
    have least := sessions_length_le runs
    have most := sessions_length_le goes
    omega
  obtain ⟨session, found⟩ : ∃ session, final.sessions[number]? = some session :=
    ⟨_, List.getElem?_eq_getElem (by omega)⟩
  have device : begun.handles[number]? = some session.handle := by
    have lasts := (session_induction ran stands opens (motive := fun _ _ => True) trivial
      (fun _ _ _ _ _ _ => trivial) whole fixed).1
    rw [← lasts.handles]
    exact handles_getElem? found
  have dropsBefore : start.DropsReads during :=
    fun action member => drops action (List.mem_append_left _ member)
  simp only [spills, along_append runs, List.mem_append] at free
  simp only [readStarts, along_append runs, List.mem_append] at prompt
  have before := queued_of_run ran stands opens idle dropsBefore device runs fixedBefore
    (fun pair member => free pair (.inl member)) (fun state member => prompt state (.inl member))
  have after := queued_of_run ran stands opens idle drops device whole fixed
    (by simpa only [spills, along_append runs, List.mem_append] using free)
    (by simpa only [readStarts, along_append runs, List.mem_append] using prompt)
  have past := (before.2 (List.nil_append during) rfl).forwards
  have next := after.2 rfl runs
  have empty := (Lineup.of_clearing ran stands opens idle).2
  refine ⟨session, found, ?_, ?_, fun inTurn => ?_, next.forwards.oldest, ?_⟩
  · simpa only [empty, List.nil_append] using past.keeps
  · simpa only [empty, List.nil_append] using past.all
  · rcases next.inTurn inTurn with ⟨bound, ordered⟩
    exact (List.sublist_append_left _ _).trans ordered.inOrder
  · intro call data buffer offset next waits stepped
    rcases fails_of_puttingBack waits stepped with ⟨failed, backlog, nothing⟩
    refine ⟨failed, backlog, nothing, ?_⟩
    cases Move.of_step? stepped with
    | turns stood turn =>
        rw [waits, Option.some.injEq] at stood
        subst stood
        cases turn with
        | putsBack => exact (before.1.of_putBack waits rfl).2

end Session

/--
After the port is open: the first read leaves bytes in the backlog, the next is served from there
before anybody has fetched the first, and is fetched into a buffer that is too small.
-/
def undoesSecond : List Action :=
  [.advance (.call 0), .startRead 2 (.ok ()), .advance (.reader 0),
    .answer (.reader 0) (Sample.bus [1, 2, 3, 4, 5] (.ok ())), .advance (.reader 0),
    .advance (.reader 0), .advance (.reader 0), .startRead 2 (.ok ()),
    .invoke (.waitInto 1 [0] 0) (.ok ()), .advance (.call 1)]

/-- The bytes are put back, the first read is fetched, and a third read takes what there is. -/
def fetchesRest : List Action :=
  [.advance (.call 1), .invoke (.wait 0) (.ok ()), .advance (.call 2), .startRead 9 (.ok ()),
    .invoke (.wait 2) (.ok ()), .advance (.call 3)]

theorem undoesSecond_keeps_order :
    let begun := Sample.after (Sample.reaches ++ [.advance (.call 0)])
    let middle := Sample.after (Sample.reaches ++ [.advance (.call 0)] ++ undoesSecond)
    middle.tasks[1]? = some (.puttingBack [3, 4] [0] 0) ∧
      middle.undelivered 0 = [1, 2, 3, 4, 5] ∧
      middle.deliveries fetchesRest = [1, 2, 3, 4, 5] ∧
      ∃ session, (Sample.after (Sample.reaches ++ [.advance (.call 0)] ++ undoesSecond ++
          fetchesRest)).sessions[0]? = some session ∧
        (middle.undelivered 0).Sublist
          (receivedOn session.handle (begun.exchanges undoesSecond)) ∧
        (middle.deliveries fetchesRest).Sublist
          (middle.undelivered 0 ++ receivedOn session.handle (middle.exchanges fetchesRest)) := by
  have started : Sample.connection.run? Sample.reaches = some (Sample.after Sample.reaches) := rfl
  have stands : (Sample.after Sample.reaches).tasks[0]? =
      some (.clearing ⟨Sample.candidate.vendorId, Sample.candidate.productId, 0⟩ {} 0) := rfl
  have opens : (Sample.after Sample.reaches).step? (.advance (.call 0)) =
      some (Sample.after (Sample.reaches ++ [.advance (.call 0)])) := rfl
  have idle : ∀ task ∈ (Sample.after Sample.reaches).tasks,
      task.awaited? = none ∧ task.returned? = none := by decide
  have drops : (Sample.after Sample.reaches).DropsReads (undoesSecond ++ fetchesRest) :=
    fun _ _ _ _ => Nat.zero_le _
  have runs : (Sample.after (Sample.reaches ++ [.advance (.call 0)])).run? undoesSecond =
      some (Sample.after (Sample.reaches ++ [.advance (.call 0)] ++ undoesSecond)) := rfl
  have goes :
      (Sample.after (Sample.reaches ++ [.advance (.call 0)] ++ undoesSecond)).run? fetchesRest =
      some (Sample.after (Sample.reaches ++ [.advance (.call 0)] ++ undoesSecond ++ fetchesRest)) :=
        rfl
  have free : ∀ pair ∈ (Sample.after (Sample.reaches ++ [.advance (.call 0)])).spills
      (undoesSecond ++ fetchesRest), pair.1.FreeBehind pair.2 := by decide
  have prompt : ∀ state ∈ (Sample.after (Sample.reaches ++ [.advance (.call 0)])).readStarts
      (undoesSecond ++ fetchesRest), state.unreturned = [] := by decide
  obtain ⟨session, found, waiting, -, inTurn, -⟩ :=
    undone_reads_keep_order started stands opens idle drops runs goes (by decide) free prompt
  exact ⟨rfl, rfl, rfl, session, found, waiting, inTurn (by decide)⟩

/--
The same two reads. Here the older one is fetched first, into a buffer that is too small, then the
younger one, and then a third read takes what there is.
-/
def undoesBoth : List Action :=
  [.advance (.call 0), .startRead 2 (.ok ()), .advance (.reader 0),
    .answer (.reader 0) (Sample.bus [1, 2, 3, 4] (.ok ())), .advance (.reader 0),
    .advance (.reader 0), .advance (.reader 0), .startRead 2 (.ok ()),
    .invoke (.waitInto 0 [0] 0) (.ok ()), .advance (.call 1), .advance (.call 1),
    .invoke (.waitInto 1 [0] 0) (.ok ()), .advance (.call 2), .advance (.call 2),
    .invoke (.read [0, 0, 0, 0] 0 4) (.ok ()), .advance (.call 3)]

/-- Bytes that are put back behind those of a younger read change places with them. -/
theorem undoesBoth_changes_order :
    ∃ begun final session,
      Sample.connection.run? (Sample.reaches ++ [.advance (.call 0)]) = some begun ∧
      begun.run? undoesBoth = some final ∧ final.sessions[0]? = some session ∧
      final.tasks[1]? = some (Task.failed (.invalidRange 0 2 1)) ∧
      final.tasks[2]? = some (Task.failed (.invalidRange 0 2 1)) ∧
      final.tasks[3]? = some (Task.succeeded (.stored 4 [3, 4, 1, 2])) ∧
      receivedOn session.handle (begun.exchanges undoesBoth) = [1, 2, 3, 4] ∧
      begun.deliveries undoesBoth = [3, 4, 1, 2] ∧
      ¬(begun.deliveries undoesBoth).Sublist
        (receivedOn session.handle (begun.exchanges undoesBoth)) :=
  ⟨_, _, _, rfl, rfl, rfl, rfl, rfl, rfl, rfl, rfl, by decide⟩

end Connection

end CdcSerial
