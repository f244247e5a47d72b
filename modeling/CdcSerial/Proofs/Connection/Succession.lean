import CdcSerial.Proofs.Connection.Soundness

/-!
# One session after the other

A session begins when a caller has reached its device, and at that moment nobody holds a link. So
the link is always that of the last session, wherever it is, and it is the handle of the last
session that a closing caller gives back. `Move.succession` says how a step can change who holds a
link: it begins a session or passes a link on.
-/

namespace CdcSerial

namespace Connection

/-! ### How the link is passed on -/

/-- A turn after which the caller or the place of the link has no link that was not held before. -/
theorem HoldsLink.of_turner {before after : Connection} {call number : Nat} {next : Task}
    (holds : (after.setTask call next).HoldsLink number)
    (linked : ∀ link, after.link = some link → before.HoldsLink link.session)
    (tasks : after.tasks = before.tasks)
    (taken : next.stake = .link number → before.HoldsLink number) : before.HoldsLink number := by
  rcases holds with ⟨link, held, rfl⟩ | ⟨task, member, stake⟩
  · exact linked link held
  · rcases mem_setTask member with old | rfl
    · exact .inr ⟨task, tasks ▸ old, stake⟩
    · exact taken stake

theorem HoldsLink.of_link {connection : Connection} {link : Link}
    (held : connection.link = some link) : connection.HoldsLink link.session :=
  .inl ⟨link, held, rfl⟩

theorem HoldsLink.of_same {before after : Connection} {number : Nat}
    (holds : after.HoldsLink number) (duty : after.duty?.map (·.1) = before.duty?.map (·.1))
    (tasks : after.tasks = before.tasks) : before.HoldsLink number := by
  rcases holds with ⟨link, held, rfl⟩ | ⟨task, member, stake⟩
  · have linked : before.duty?.map (·.1) = some link.session := by
      rw [← duty]
      simp [duty?, held]
    rcases Option.map_eq_some_iff.mp linked with ⟨_, found, same⟩
    rcases Option.map_eq_some_iff.mp found with ⟨old, oldHeld, rfl⟩
    exact .inl ⟨old, oldHeld, same⟩
  · exact .inr ⟨task, tasks ▸ member, stake⟩

theorem HoldsLink.of_entrant {before : Connection} {task : Task} {number : Nat}
    (holds : (before.addTask task).HoldsLink number) (free : task.stake ≠ .link number) :
    before.HoldsLink number := by
  rcases holds with linked | ⟨other, member, stake⟩
  · exact .inl linked
  · rcases List.mem_append.mp member with old | new
    · exact .inr ⟨other, old, stake⟩
    · exact absurd (List.mem_singleton.mp new ▸ stake) free

theorem ReadStart.session_eq {before after : Connection} {length : Nat} {result : Except Error Nat}
    (start : ReadStart before length after result) :
    after.duty?.map (·.1) = before.duty?.map (·.1) := by
  cases start with
  | refused => rfl
  | served journal opened => simp [duty?, (openLink?_eq_some.mp opened).2]
  | notStarted cause opened => simp [duty?, (openLink?_eq_some.mp opened).2]
  | polls opened => simp [duty?, (openLink?_eq_some.mp opened).2]

theorem Entry.session_eq {before after : Connection} {call : Call} {task : Task}
    (entry : Entry before call after task) :
    after.duty?.map (·.1) = before.duty?.map (·.1) := by
  cases entry with
  | reads fits start => exact start.session_eq
  | readFails fits start => exact start.session_eq
  | writes start =>
      rcases start.frame with ⟨sessions, writes, rfl⟩
      rfl
  | _ => rfl

theorem Entry.stake_ne_link {before after : Connection} {call : Call} {task : Task}
    (entry : Entry before call after task) (number : Nat) : task.stake ≠ .link number := by
  cases entry <;> simp [Task.failed, Task.stake]

theorem Turn.holdsLink {before after : Connection} {call number : Nat} {task next : Task}
    (turn : Turn before call task after next) (stands : before.tasks[call]? = some task)
    (waiting : reached? task = none) (holds : (after.setTask call next).HoldsLink number) :
    before.HoldsLink number := by
  have had {session : Nat} (stake : task.stake = .link session) : before.HoldsLink session :=
    .inr ⟨task, List.mem_of_getElem? stands, stake⟩
  cases turn with
  | reached => cases waiting
  | lists progress =>
      rcases progress.only_tells with ⟨journal, rfl⟩
      exact holds.of_turner (fun _ => .of_link) rfl nofun
  | opens progress =>
      rcases progress.only_tells with ⟨journal, rfl⟩
      exact holds.of_turner (fun _ => .of_link) rfl nofun
  | releases progress =>
      rcases progress.only_tells with ⟨journal, rfl⟩
      exact holds.of_turner (fun _ => .of_link) rfl nofun
  | configures progress =>
      obtain ⟨journal, rfl⟩ | rfl := progress.only_lane <;>
        exact holds.of_turner (fun _ => .of_link) rfl nofun
  | installs =>
      refine holds.of_turner (fun link held => ?_) rfl nofun
      cases held
      exact had rfl
  | records =>
      refine holds.of_turner (fun link held => ?_) rfl nofun
      rcases Option.map_eq_some_iff.mp held with ⟨old, oldHeld, rfl⟩
      exact .inl ⟨old, oldHeld, rfl⟩
  | takesLink held =>
      refine holds.of_turner nofun rfl fun stake => ?_
      cases stake
      exact .of_link held
  | clears => exact holds.of_turner (fun _ => .of_link) rfl had
  | drained => exact holds.of_turner (fun _ => .of_link) rfl had
  | idled => exact holds.of_turner (fun _ => .of_link) rfl had
  | fetchesWrite found ended =>
      refine holds.of_turner (fun _ => .of_link) rfl fun stake => ?_
      rw [(writeEnding?_stake ended).1] at stake
      cases stake
  | returnsTicket =>
      refine holds.of_turner (fun _ => .of_link) rfl fun stake => ?_
      rw [(afterTicket_stake _ _).1] at stake
      cases stake
  | _ => exact holds.of_turner (fun _ => .of_link) rfl nofun

/-- A step begins a session, or it passes a link on at most. -/
theorem Move.succession {before after : Connection} {action : Action}
    {exchange? : Option Exchange} (move : Move before action exchange? after) :
    (exchange? = none ∧ ∃ call address config handle begun,
      before.tasks[call]? = some (.opening address config ⟨.done (.ok handle), begun⟩) ∧
        after = ({ before with sessions := before.sessions ++ [newSession handle] }).setTask call
          (.clearing address config before.sessions.length)) ∨
      after.handles = before.handles ∧ ∀ {number}, after.HoldsLink number →
        before.HoldsLink number := by
  cases move with
  | enters permitted entry =>
      refine .inr ⟨entry.keeps.handles.trans (List.append_nil _), fun holds => ?_⟩
      exact (holds.of_entrant (entry.stake_ne_link _)).of_same entry.session_eq entry.arrival.2.2
  | startsRead start =>
      refine .inr ⟨start.keeps.handles.trans (List.append_nil _), fun holds => ?_⟩
      exact holds.of_same start.session_eq start.frame.2.2.1
  | startsWrite start =>
      refine .inr ⟨start.keeps.handles.trans (List.append_nil _), fun holds => ?_⟩
      rcases start.frame with ⟨sessions, writes, rfl⟩
      exact holds
  | cancels => exact .inr ⟨rfl, id⟩
  | @turns call task changed next stands turn =>
      cases arrived : reached? task with
      | none =>
          refine .inr ⟨?_, turn.holdsLink stands arrived⟩
          have handles := turn.keeps.handles
          rw [arrived] at handles
          exact handles.trans (List.append_nil _)
      | some handle =>
          cases turn with
          | reached => exact .inl ⟨rfl, call, _, _, _, _, stands, rfl⟩
          | opens progress => cases progress <;> cases arrived
          | _ => cases arrived
  | answered stands answer =>
      refine .inr ⟨answer.keeps.handles.trans (List.append_nil _), fun holds => ?_⟩
      cases answer <;> exact holds.of_turner (fun _ => .of_link) rfl nofun
  | readerTurns found turn =>
      refine .inr ⟨turn.keeps.handles.trans (List.append_nil _), fun holds => ?_⟩
      rcases turn.frame with ⟨backlog, sessions, rfl⟩
      exact holds
  | readerAnswered => exact .inr ⟨rfl, id⟩
  | writerTurns found turn =>
      refine .inr ⟨turn.keeps.handles.trans (List.append_nil _), fun holds => ?_⟩
      rcases turn.frame with ⟨sessions, writes, rfl⟩
      exact holds
  | writerAnswered found answer =>
      refine .inr ⟨answer.keeps.handles.trans (List.append_nil _), fun holds => ?_⟩
      rcases answer.frame with ⟨sessions, writes, rfl⟩
      exact holds
  | expires => exact .inr ⟨rfl, fun holds => holds.of_turner (fun _ => .of_link) rfl nofun⟩

/-- How a caller comes to stand where it does after a step. -/
inductive Origin (before : Connection) : Connection → Task → Prop where
  | stays {after task} (member : task ∈ before.tasks) : Origin before after task
  | enters {call after task} (entry : Entry before call after task) :
      Origin before (after.addTask task) task
  | turns {call task after next} (stands : before.tasks[call]? = some task)
      (turn : Turn before call task after next) : Origin before (after.setTask call next) next
  | answered {call task request reply after next} (stands : before.tasks[call]? = some task)
      (answer : CallAnswer before call task request reply after next) :
      Origin before (after.setTask call next) next
  | expires {after deadline} : Origin before after (.reverting deadline)

theorem Move.origin {before after : Connection} {action : Action} {exchange? : Option Exchange}
    {task : Task} (move : Move before action exchange? after) (member : task ∈ after.tasks) :
    Origin before after task := by
  cases move.concern with
  | enters entry =>
      rcases List.mem_append.mp member with old | new
      · exact .stays (entry.arrival.2.2 ▸ old)
      · cases List.mem_singleton.mp new
        exact .enters entry
  | startsRead start => exact .stays (start.frame.2.2.1 ▸ member)
  | turns stands turn =>
      rcases mem_setTask member with old | rfl
      · exact .stays (turn.tasks_eq ▸ old)
      · exact .turns stands turn
  | answered stands answer =>
      rcases mem_setTask member with old | rfl
      · rcases answer.frame with ⟨-, sessions, rfl⟩
        exact .stays old
      · exact .answered stands answer
  | expires =>
      rcases mem_setTask member with old | rfl
      · exact .stays old
      · exact .expires
  | nobody state link tasks => exact .stays (tasks ▸ member)

/-- What becomes of a caller in a step. -/
inductive Fate (before : Connection) (call : Nat) (task : Task) :
    Option Exchange → Connection → Prop where
  | stays {exchange? after} (stands : after.tasks[call]? = some task) :
      Fate before call task exchange? after
  | turns {after next} (turn : Turn before call task after next) :
      Fate before call task none (after.setTask call next)
  | answered {request reply after next}
      (answer : CallAnswer before call task request reply after next) :
      Fate before call task (some (.call call, ⟨request, reply⟩)) (after.setTask call next)
  | expires {deadline} (stopping : task.part = .stopper) :
      Fate before call task none (before.setTask call (.reverting deadline))

theorem setTask_getElem?_self {connection : Connection} {call : Nat} {task : Task}
    (stands : connection.tasks[call]? = some task) (next : Task) :
    (connection.setTask call next).tasks[call]? = some next := by
  rcases List.getElem?_eq_some_iff.mp stands with ⟨inside, -⟩
  simp [setTask, inside]

theorem Move.fate {before after : Connection} {action : Action} {exchange? : Option Exchange}
    {call : Nat} {task : Task} (move : Move before action exchange? after)
    (stands : before.tasks[call]? = some task) : Fate before call task exchange? after := by
  have aside {changed : Connection} {other : Nat} (next : Task)
      (tasks : changed.tasks = before.tasks) (ne : other ≠ call) :
      (changed.setTask other next).tasks[call]? = some task := by
    rw [setTask, List.getElem?_set_ne ne, tasks, stands]
  cases move.concern with
  | enters entry =>
      refine .stays ?_
      rcases List.getElem?_eq_some_iff.mp stands with ⟨inside, -⟩
      rw [← entry.arrival.2.2] at inside stands
      rw [addTask, List.getElem?_append_left inside, stands]
  | startsRead start => exact .stays (start.frame.2.2.1 ▸ stands)
  | @turns other moved changed next stood turn =>
      by_cases same : other = call
      · subst same
        rw [stands] at stood
        cases stood
        exact .turns turn
      · exact .stays (aside next turn.tasks_eq same)
  | @answered other moved request replies changed next stood answer =>
      by_cases same : other = call
      · subst same
        rw [stands] at stood
        cases stood
        exact .answered answer
      · rcases answer.frame with ⟨-, sessions, rfl⟩
        exact .stays (aside next rfl same)
  | @expires other number deadline stood =>
      by_cases same : other = call
      · subst same
        rw [stands] at stood
        cases stood
        exact .expires rfl
      · exact .stays (aside (.reverting deadline) rfl same)
  | nobody state link tasks => exact .stays (tasks ▸ stands)

/-- A link in its place stays there or is taken. -/
theorem Move.holdsLink_of_link {before after : Connection} {action : Action}
    {exchange? : Option Exchange} {link : Link} (move : Move before action exchange? after)
    (orderly : before.Orderly) (held : before.link = some link) : after.HoldsLink link.session := by
  have holds := HoldsLink.of_link held
  cases move.concern with
  | enters entry =>
      have kept := holds.of_same entry.session_eq.symm entry.arrival.2.2.symm
      exact kept.imp_right fun ⟨task, member, stake⟩ => ⟨task, List.mem_append_left _ member, stake⟩
  | startsRead start => exact holds.of_same start.session_eq.symm start.frame.2.2.1.symm
  | turns stands turn =>
      cases turn with
      | lists progress =>
          rcases progress.only_tells with ⟨journal, rfl⟩
          exact .inl ⟨link, held, rfl⟩
      | opens progress =>
          rcases progress.only_tells with ⟨journal, rfl⟩
          exact .inl ⟨link, held, rfl⟩
      | releases progress =>
          rcases progress.only_tells with ⟨journal, rfl⟩
          exact .inl ⟨link, held, rfl⟩
      | configures progress =>
          obtain ⟨journal, rfl⟩ | rfl := progress.only_lane <;> exact .inl ⟨link, held, rfl⟩
      | installs =>
          have bare := (orderly.of_opener (List.mem_of_getElem? stands) rfl).2
          rw [held] at bare
          cases bare
      | takesLink found =>
          rw [held] at found
          cases found
          exact .inr ⟨_, List.mem_of_getElem? (setTask_getElem?_self stands _), rfl⟩
      | @records line => exact .inl ⟨{ link with line }, by simp [recordLine, setTask, held], rfl⟩
      | _ => exact .inl ⟨link, held, rfl⟩
  | answered stands answer =>
      rcases answer.frame with ⟨-, sessions, rfl⟩
      exact .inl ⟨link, held, rfl⟩
  | expires => exact .of_link held
  | nobody state kept tasks => exact .of_link (kept.trans held)

/-- A caller that holds a link keeps it, installs it, or is about to give back the device. -/
theorem Move.holdsLink_of_stake {before after : Connection} {action : Action}
    {exchange? : Option Exchange} {call number : Nat} {task : Task}
    (move : Move before action exchange? after) (stands : before.tasks[call]? = some task)
    (stake : task.stake = .link number) : after.HoldsLink number ∨
      exchange? = none ∧ ∃ changed next, Turn before call (.regaining number) changed next ∧
        before.tasks[call]? = some (.regaining number) ∧ after = changed.setTask call next := by
  have passed {changed : Connection} {next : Task} (tasks : changed.tasks = before.tasks)
      (same : next.stake = .link number) : (changed.setTask call next).HoldsLink number := by
    have stood : changed.tasks[call]? = some task := by rw [tasks, stands]
    exact .inr ⟨next, List.mem_of_getElem? (setTask_getElem?_self stood next), same⟩
  cases move.fate stands with
  | stays stood => exact .inl (.inr ⟨task, List.mem_of_getElem? stood, stake⟩)
  | turns turn =>
      cases turn with
      | clears => exact .inl (passed rfl stake)
      | installs =>
          cases stake
          exact .inl (.inl ⟨_, rfl, rfl⟩)
      | drained => exact .inl (passed rfl stake)
      | idled => exact .inl (passed rfl stake)
      | regains found sole =>
          cases stake
          exact .inr ⟨rfl, _, _, .regains found sole, stands, rfl⟩
      | findsOwners found shared =>
          cases stake
          exact .inr ⟨rfl, _, _, .findsOwners found shared, stands, rfl⟩
      | _ => cases stake
  | answered answer => cases answer <;> cases stake
  | expires stopping =>
      have part := part_of_link_stake stake
      simp [stopping] at part

/-- A link is given up only by the caller that gives back the device. -/
theorem Move.keepsLink {before after : Connection} {action : Action}
    {exchange? : Option Exchange} {number : Nat} (move : Move before action exchange? after)
    (orderly : before.Orderly) (recorded : before.Recorded) (owned : before.Owned)
    (holds : before.HoldsLink number) : after.HoldsLink number ∨
      exchange? = none ∧ ∃ call session, before.tasks[call]? = some (.regaining number) ∧
        before.sessions[number]? = some session ∧
        after = (before.dropClone number).setTask call
          (.releasing ⟨leave before.settings session.handle, false⟩) := by
  rcases holds with ⟨link, held, rfl⟩ | ⟨task, member, stake⟩
  · exact .inl (move.holdsLink_of_link orderly held)
  · rcases List.getElem?_of_mem member with ⟨call, stands⟩
    rcases move.holdsLink_of_stake stands stake with
      kept | ⟨silent, changed, next, turn, regains, rfl⟩
    · exact .inl kept
    · cases turn with
      | regains found sole => exact .inr ⟨silent, call, _, regains, found, rfl⟩
      | findsOwners found shared =>
          exact absurd (owned.sole orderly recorded (List.mem_of_getElem? regains) found) shared

/-! ### The last session -/

/-- Whoever opens or has taken the link of a port is alone in that. -/
theorem Orderly.alone {connection : Connection} {one other : Task} (orderly : connection.Orderly)
    (first : one ∈ connection.tasks) (second : other ∈ connection.tasks)
    (part : one.part = .opener ∨ one.part = .leaver)
    (partToo : other.part = .opener ∨ other.part = .leaver) : other = one := by
  rcases List.getElem?_of_mem first with ⟨call, stands⟩
  rcases List.getElem?_of_mem second with ⟨rival, stood⟩
  have inside : one.part ≠ .bystander := by rcases part with part | part <;> simp [part]
  by_cases same : rival = call
  · subst same
    exact Option.some.inj (stood.symm.trans stands)
  · have outside := orderly.bystander_of_other stands inside stood same
    rcases partToo with partToo | partToo <;> simp [outside] at partToo

theorem Orderly.not_holdsLink {connection : Connection} {run : Running (Except Error Unit)}
    (orderly : connection.Orderly) (leaving : .releasing run ∈ connection.tasks) (number : Nat) :
    ¬connection.HoldsLink number := by
  rintro (⟨link, held, -⟩ | ⟨task, member, stake⟩)
  · rw [(orderly.of_leaver leaving rfl).2] at held
    cases held
  · have same := orderly.alone leaving member (.inr rfl) (part_of_link_stake stake)
    subst same
    cases stake

/--
The link is that of the last session, and a caller that leaves a device leaves that of the last
session.
-/
structure Newest (connection : Connection) : Prop where
  linked : ∀ {number}, connection.HoldsLink number → number + 1 = connection.sessions.length
  leaving : ∀ {run}, .releasing run ∈ connection.tasks → ∃ handle events,
    connection.handles.getLast? = some handle ∧
      Procedure.Path (leave connection.settings handle) events run.procedure

theorem fresh_newest (locator : Locator) (settings : Settings) :
    (fresh locator settings).Newest where
  linked := by
    rintro number (⟨link, held, _⟩ | ⟨task, member, _⟩)
    · cases held
    · cases member
  leaving := by
    intro run member
    cases member

theorem Newest.of_reached {before : Connection} {call : Nat} {address : Address}
    {config : LineConfig} {handle : Handle} {begun : Bool} (orderly : before.Orderly)
    (stands : before.tasks[call]? = some (.opening address config ⟨.done (.ok handle), begun⟩)) :
    (({ before with sessions := before.sessions ++ [newSession handle] }).setTask call
      (.clearing address config before.sessions.length)).Newest := by
  have member := List.mem_of_getElem? stands
  constructor
  · intro number holds
    rcases holds with ⟨link, held, rfl⟩ | ⟨task, found, stake⟩
    · have bare := (orderly.of_opener member rfl).2
      rw [show before.link = some link from held] at bare
      cases bare
    · rcases mem_setTask found with old | rfl
      · have same := orderly.alone member old (.inl rfl) (part_of_link_stake stake)
        subst same
        cases stake
      · cases stake
        simp [setTask]
  · intro run found
    rcases mem_setTask found with old | same
    · cases orderly.alone member old (.inl rfl) (.inr rfl)
    · cases same

/-- A caller comes to leave a device, or goes on with it. -/
theorem Turn.leaving {before after : Connection} {call : Nat} {task : Task}
    {run : Running (Except Error Unit)} (turn : Turn before call task after (.releasing run)) :
    (∃ number session, task = .regaining number ∧ before.sessions[number]? = some session ∧
        run = ⟨leave before.settings session.handle, false⟩) ∨
      ∃ earlier, task = .releasing earlier ∧ Progress before (some before) earlier after run := by
  generalize came : Task.releasing run = next at turn
  cases turn with
  | regains found =>
      cases came
      exact .inl ⟨_, _, rfl, found, rfl⟩
  | releases progress =>
      cases came
      exact .inr ⟨_, rfl, progress⟩
  | fetchesWrite found ended =>
      rcases writeEnding?_eq_some ended with ⟨result, eq⟩
      rw [eq] at came
      cases came
  | @returnsTicket session line result =>
      have part := afterTicket_part line result
      rw [← came] at part
      cases part
  | _ => cases came

theorem Newest.of_move {before after : Connection} {action : Action}
    {exchange? : Option Exchange} (newest : before.Newest) (orderly : before.Orderly)
    (move : Move before action exchange? after) : after.Newest := by
  rcases move.succession with ⟨-, call, address, config, handle, begun, stands, rfl⟩ |
    ⟨handles, linked⟩
  · exact .of_reached orderly stands
  · constructor
    · intro number holds
      rw [newest.linked (linked holds)]
      simpa [Connection.handles] using congrArg List.length handles.symm
    · intro run member
      rcases move.keeps with ⟨more, keeps⟩
      rw [handles, keeps.settings]
      cases move.origin member with
      | stays old => exact newest.leaving old
      | enters entry => cases entry
      | turns stands turn =>
          have stood := List.mem_of_getElem? stands
          rcases turn.leaving with ⟨number, session, rfl, held, rfl⟩ | ⟨earlier, rfl, progress⟩
          · have last := newest.linked (.inr ⟨_, stood, rfl⟩)
            refine ⟨session.handle, [], ?_, .here⟩
            rw [List.getLast?_eq_getElem?, Connection.handles, List.length_map, ← last]
            exact handles_getElem? held
          · rcases newest.leaving stood with ⟨handle, events, final, path⟩
            exact ⟨handle, events, final, path.of_progress progress⟩
      | answered stands answer =>
          cases answer with
          | releasing =>
              rcases newest.leaving (List.mem_of_getElem? stands) with ⟨handle, events, final, path⟩
              exact ⟨handle, _, final, path.answers _⟩

theorem newest_of_run {locator : Locator} {settings : Settings} {actions : List Action}
    {connection : Connection} (ran : (fresh locator settings).run? actions = some connection) :
    connection.Newest := by
  refine run_induction (motive := fun _ connection => connection.Newest)
    (fresh_newest locator settings) ?_ ran
  intro actions middle action final ranBefore newest stepped
  exact newest.of_move (sound_of_run ranBefore).orderly (.of_step? stepped)

end Connection

end CdcSerial
