import CdcSerial.Proofs.Connection.Standing

/-!
# What holds after every course of actions

`Sound` puts the invariants of the connection together with `Placed`, which says that every caller
stands where its call can be. A step keeps all of them, and so does a course of actions.
-/

namespace CdcSerial

namespace Connection

/--
What stays for good: where devices come from, the settings, and the handles that sessions have.
`more` are the handles of sessions that begin.
-/
structure Keeps (before after : Connection) (more : List Handle) : Prop where
  locator : after.locator = before.locator
  settings : after.settings = before.settings
  handles : after.handles = before.handles ++ more

theorem Keeps.of_eq {before after : Connection} (locator : after.locator = before.locator)
    (settings : after.settings = before.settings) (handles : after.handles = before.handles) :
    Keeps before after [] :=
  ⟨locator, settings, by rw [handles, List.append_nil]⟩

theorem Keeps.length {before after : Connection} {more : List Handle}
    (keeps : Keeps before after more) :
    after.sessions.length = before.sessions.length + more.length := by
  simpa [Connection.handles] using congrArg List.length keeps.handles

/-- The handle with which a caller has reached its device and begins a session next. -/
def reached? : Task → Option Handle
  | .opening _ _ ⟨.done (.ok handle), _⟩ => some handle
  | _ => none

theorem ReadStart.keeps {before after : Connection} {length : Nat} {result : Except Error Nat}
    (start : ReadStart before length after result) : Keeps before after [] := by
  cases start with
  | polls => exact .of_eq rfl rfl (handles_changeSession before _ _ fun _ => rfl)
  | _ => exact .of_eq rfl rfl rfl

theorem WriteStart.keeps {before after : Connection} {data : List UInt8}
    {result : Except Error Nat} (start : WriteStart before data after result) :
    Keeps before after [] := by
  cases start with
  | queued => exact .of_eq rfl rfl (handles_changeSession before _ _ fun _ => rfl)
  | _ => exact .of_eq rfl rfl rfl

theorem Entry.keeps {before after : Connection} {call : Call} {task : Task}
    (entry : Entry before call after task) : Keeps before after [] := by
  cases entry with
  | reads fits start => exact ⟨start.keeps.locator, start.keeps.settings, start.keeps.handles⟩
  | readFails fits start => exact start.keeps
  | writes start => exact start.keeps
  | configures => exact .of_eq rfl rfl (handles_changeSession before _ _ fun _ => rfl)
  | _ => exact .of_eq rfl rfl rfl

theorem Turn.keeps {before after : Connection} {number : Nat} {task next : Task}
    (turn : Turn before number task after next) : Keeps before after (reached? task).toList := by
  cases turn with
  | lists progress =>
      rcases progress.only_tells with ⟨journal, rfl⟩
      exact .of_eq rfl rfl rfl
  | opens progress =>
      cases progress with
      | tells => exact .of_eq rfl rfl rfl
      | begins free =>
          cases free
          exact .of_eq rfl rfl rfl
  | releases progress =>
      rcases progress.only_tells with ⟨journal, rfl⟩
      exact .of_eq rfl rfl rfl
  | configures progress =>
      rcases progress.only_lane with ⟨journal, rfl⟩ | rfl
      · exact .of_eq rfl rfl rfl
      · exact .of_eq rfl rfl (handles_setLane before _ _)
  | @reached address config handle begun =>
      exact ⟨rfl, rfl, by simp [Connection.handles, newSession, reached?]⟩
  | returnsClone => exact .of_eq rfl rfl (handles_dropClone before _)
  | returnsTicket => exact .of_eq rfl rfl (handles_changeSession before _ _ fun _ => rfl)
  | takesLink => exact .of_eq rfl rfl (handles_changeSession _ _ _ fun _ => rfl)
  | regains => exact .of_eq rfl rfl (handles_dropClone before _)
  | findsOwners => exact .of_eq rfl rfl (handles_dropClone before _)
  | _ => exact .of_eq rfl rfl rfl

theorem CallAnswer.keeps {before after : Connection} {number : Nat} {task next : Task}
    {request : Request} {reply : request.Reply}
    (answer : CallAnswer before number task request reply after next) : Keeps before after [] := by
  cases answer with
  | configuring => exact .of_eq rfl rfl (handles_setLane before _ _)
  | _ => exact .of_eq rfl rfl rfl

theorem ReaderTurn.keeps {before after : Connection} {read : Read} {stage : ReaderStage}
    (turn : ReaderTurn before read after stage) : Keeps before after [] := by
  cases turn with
  | leaves => exact .of_eq rfl rfl (handles_dropClone before _)
  | leavesLast => exact .of_eq rfl rfl (handles_dropClone before _)
  | _ => exact .of_eq rfl rfl rfl

theorem WriterTurn.keeps {before after : Connection} {number : Nat} {session : Session}
    (turn : WriterTurn before number session after) : Keeps before after [] := by
  cases turn with
  | picks => exact .of_eq rfl rfl (handles_changeSession before _ _ fun _ => rfl)
  | stops => exact .of_eq rfl rfl (handles_changeSession before _ _ fun _ => rfl)
  | unwinds =>
      rcases loseAll_frame before session.queue with ⟨writes, eq⟩
      rw [eq]
      exact .of_eq rfl rfl (handles_changeSession _ _ _ fun _ => rfl)
  | leaves => exact .of_eq rfl rfl ((handles_setWriter _ _ _).trans (handles_dropClone before _))
  | leavesLast =>
      exact .of_eq rfl rfl ((handles_setWriter _ _ _).trans (handles_dropClone before _))

theorem WriterAnswer.keeps {before after : Connection} {number : Nat} {session : Session}
    {request : Request} {reply : request.Reply}
    (answer : WriterAnswer before number session request reply after) : Keeps before after [] := by
  cases answer with
  | @wrote write reply =>
      cases reply <;> exact .of_eq rfl rfl (handles_changeSession _ _ _ fun _ => rfl)
  | closed => exact .of_eq rfl rfl (handles_changeSession before _ _ fun _ => rfl)

theorem Move.keeps {before after : Connection} {action : Action} {exchange? : Option Exchange}
    (move : Move before action exchange? after) :
    ∃ more, Keeps before after more := by
  cases move with
  | enters permitted entry =>
      exact ⟨_, entry.keeps.locator, entry.keeps.settings, entry.keeps.handles⟩
  | startsRead start => exact ⟨_, start.keeps⟩
  | startsWrite start => exact ⟨_, start.keeps⟩
  | cancels => exact ⟨_, .of_eq rfl rfl rfl⟩
  | turns stands turn => exact ⟨_, turn.keeps.locator, turn.keeps.settings, turn.keeps.handles⟩
  | answered stands answer =>
      exact ⟨_, answer.keeps.locator, answer.keeps.settings, answer.keeps.handles⟩
  | readerTurns found turn => exact ⟨_, turn.keeps.locator, turn.keeps.settings, turn.keeps.handles⟩
  | readerAnswered => exact ⟨_, .of_eq rfl rfl rfl⟩
  | writerTurns found turn => exact ⟨_, turn.keeps⟩
  | writerAnswered found answer => exact ⟨_, answer.keeps⟩
  | expires => exact ⟨_, .of_eq rfl rfl rfl⟩

/-- Every caller stands where its call can be after what it has asked of the bus. -/
structure Placed (locator : Locator) (settings : Settings) (calls : List Call)
    (exchanges : List Exchange) (connection : Connection) : Prop where
  located : connection.locator = locator
  set : connection.settings = settings
  count : calls.length = connection.tasks.length
  stands : ∀ {number call task}, calls[number]? = some call →
    connection.tasks[number]? = some task →
    Standing locator settings connection.handles call (eventsOf (.call number) exchanges) task
  silent : ∀ {number}, connection.tasks.length ≤ number →
    eventsOf (.call number) exchanges = []

theorem fresh_placed (locator : Locator) (settings : Settings) :
    Placed locator settings [] [] (fresh locator settings) where
  located := rfl
  set := rfl
  count := rfl
  stands := by
    intro number call task made
    simp at made
  silent _ := rfl

section

variable {locator : Locator} {settings : Settings} {calls : List Call} {exchanges : List Exchange}
  {before after : Connection} {added : List Handle}

theorem Placed.exists_standing (placed : Placed locator settings calls exchanges before)
    {number : Nat} {task : Task} (stands : before.tasks[number]? = some task) :
    ∃ call, calls[number]? = some call ∧
      Standing locator settings before.handles call (eventsOf (.call number) exchanges) task := by
  rcases List.getElem?_eq_some_iff.mp stands with ⟨inside, -⟩
  have made := List.getElem?_eq_getElem (placed.count ▸ inside)
  exact ⟨_, made, placed.stands made stands⟩

theorem Placed.of_workers (placed : Placed locator settings calls exchanges before)
    (keeps : Keeps before after added) (tasks : after.tasks = before.tasks) {more : List Exchange}
    (others : ∀ number, eventsOf (.call number) more = []) :
    Placed locator settings calls (exchanges ++ more) after where
  located := keeps.locator.trans placed.located
  set := keeps.settings.trans placed.set
  count := by rw [tasks, placed.count]
  stands := by
    intro number call task made stands
    rw [eventsOf_append, others, List.append_nil, keeps.handles]
    exact (placed.stands made (tasks ▸ stands)).mono
  silent := by
    intro number outside
    rw [eventsOf_append, others, List.append_nil]
    exact placed.silent (tasks ▸ outside)

theorem Placed.of_caller {number : Nat} {task next : Task} (more : List Event)
    (placed : Placed locator settings calls exchanges before) (keeps : Keeps before after added)
    (tasks : after.tasks = before.tasks) (stands : before.tasks[number]? = some task)
    (moves : ∀ {call}, calls[number]? = some call →
      Standing locator settings after.handles call
        (eventsOf (.call number) exchanges ++ more) next) :
    Placed locator settings calls (exchanges ++ more.map fun event => (.call number, event))
      (after.setTask number next) := by
  have own : eventsOf (.call number) (more.map fun event => (.call number, event)) = more := by
    simp [eventsOf, List.filter_map, Function.comp_def]
  have others {other : Nat} (ne : other ≠ number) :
      eventsOf (.call other) (more.map fun event => (Thread.call number, event)) = [] := by
    simp [eventsOf, List.filter_map, Function.comp_def, Ne.symm ne]
  refine ⟨keeps.locator.trans placed.located, keeps.settings.trans placed.set, ?_, ?_, ?_⟩
  · simp [setTask, tasks, placed.count]
  · intro other call found made reaches
    rw [eventsOf_append]
    simp only [setTask, tasks, List.getElem?_set] at reaches
    by_cases same : number = other
    · subst same
      rcases List.getElem?_eq_some_iff.mp stands with ⟨inside, -⟩
      simp only [inside, if_true, Option.some.injEq] at reaches
      rw [own, ← reaches]
      exact moves made
    · simp only [same, if_false] at reaches
      rw [others (Ne.symm same), List.append_nil]
      change Standing locator settings after.handles _ _ _
      rw [keeps.handles]
      exact (placed.stands made reaches).mono
  · intro other outside
    have ne : other ≠ number := by
      rintro rfl
      rcases List.getElem?_eq_some_iff.mp stands with ⟨inside, -⟩
      simp only [setTask, tasks, List.length_set] at outside
      omega
    rw [eventsOf_append, others ne, List.append_nil]
    exact placed.silent (by simpa [setTask, tasks] using outside)

theorem Placed.of_entrant {call : Call} {task : Task}
    (placed : Placed locator settings calls exchanges before) (entry : Entry before call after task)
    (tasks : after.tasks = before.tasks) :
    Placed locator settings (calls ++ [call]) exchanges (after.addTask task) := by
  have keeps := entry.keeps
  refine ⟨keeps.locator.trans placed.located, keeps.settings.trans placed.set, ?_, ?_, ?_⟩
  · simp [addTask, tasks, placed.count]
  · intro number made found begun reaches
    change Standing locator settings after.handles _ _ _
    rw [keeps.handles]
    simp only [addTask, tasks] at reaches
    rcases Nat.lt_trichotomy number before.tasks.length with old | new | outside
    · rw [List.getElem?_append_left old] at reaches
      rw [List.getElem?_append_left (placed.count ▸ old)] at begun
      exact (placed.stands begun reaches).mono
    · subst new
      rw [← placed.count, List.getElem?_concat_length] at begun
      rw [List.getElem?_concat_length] at reaches
      cases begun
      cases reaches
      rw [placed.silent (Nat.le_refl _)]
      exact (Standing.of_entry placed.located placed.set entry).mono
    · have beyond : (before.tasks ++ [task])[number]? = none := by
        rw [List.getElem?_eq_none_iff]
        simp
        omega
      rw [beyond] at reaches
      cases reaches
  · intro number outside
    apply placed.silent
    simp only [addTask, tasks, List.length_append] at outside
    omega

theorem Placed.of_move {action : Action} {exchange? : Option Exchange}
    (placed : Placed locator settings calls exchanges before) (orderly : before.Orderly)
    (recorded : before.Recorded) (owned : before.Owned)
    (move : Move before action exchange? after) :
    Placed locator settings (calls ++ action.call?.toList)
      (exchanges ++ exchange?.toList) after := by
  rcases move.keeps with ⟨more, keeps⟩
  cases move with
  | enters permitted entry =>
      simp only [Action.call?, Option.toList_none, Option.toList_some, List.append_nil]
      exact placed.of_entrant entry entry.arrival.2.2
  | startsRead start =>
      simp only [Action.call?, Option.toList_none, List.append_nil calls]
      exact placed.of_workers keeps start.frame.2.2.1 fun _ => rfl
  | startsWrite start =>
      rcases start.frame with ⟨sessions, writes, rfl⟩
      simp only [Action.call?, Option.toList_none, List.append_nil calls]
      exact placed.of_workers keeps rfl fun _ => rfl
  | cancels =>
      simp only [Action.call?, Option.toList_none, List.append_nil calls]
      exact placed.of_workers keeps rfl fun _ => rfl
  | turns stands turn =>
      simp only [Action.call?, Option.toList_none, List.append_nil calls]
      refine placed.of_caller [] turn.keeps turn.tasks_eq stands fun made => ?_
      rw [List.append_nil]
      refine (placed.stands made stands).of_turn placed.set turn ?_ ?_
      · rintro rfl bare
        have linked := (orderly.of_stopper (List.mem_of_getElem? stands) rfl).2
        simp [bare] at linked
      · rintro session owner rfl found
        exact owned.sole orderly recorded (List.mem_of_getElem? stands) found
  | answered stands answer =>
      simp only [Action.call?, Option.toList_none, List.append_nil calls]
      refine placed.of_caller [_] answer.keeps ?_ stands fun made => ?_
      · rcases answer.frame with ⟨-, sessions, rfl⟩
        rfl
      · rw [answer.keeps.handles]
        exact ((placed.stands made stands).of_answer answer).mono
  | readerTurns found turn =>
      simp only [Action.call?, Option.toList_none, List.append_nil calls]
      refine placed.of_workers keeps ?_ fun _ => rfl
      rcases turn.frame with ⟨backlog, sessions, rfl⟩
      rfl
  | readerAnswered =>
      simp only [Action.call?, Option.toList_none, List.append_nil calls]
      exact placed.of_workers keeps rfl fun _ => eventsOf_of_ne (by simp) _
  | writerTurns found turn =>
      simp only [Action.call?, Option.toList_none, List.append_nil calls]
      refine placed.of_workers keeps ?_ fun _ => rfl
      rcases turn.frame with ⟨sessions, writes, rfl⟩
      rfl
  | writerAnswered found answer =>
      simp only [Action.call?, Option.toList_none, List.append_nil calls]
      refine placed.of_workers keeps ?_ fun _ => eventsOf_of_ne (by simp) _
      rcases answer.frame with ⟨sessions, writes, rfl⟩
      rfl
  | expires stands =>
      simp only [Action.call?, Option.toList_none, List.append_nil calls]
      refine placed.of_caller [] (.of_eq rfl rfl rfl) rfl stands fun made => ?_
      rw [List.append_nil]
      have standing := placed.stands made stands
      generalize eventsOf (.call _) exchanges = events at standing ⊢
      cases standing with
      | closes => exact .closes rfl

end

/-- What holds of a connection after every course of actions. -/
structure Sound (locator : Locator) (settings : Settings) (calls : List Call)
    (exchanges : List Exchange) (connection : Connection) : Prop where
  orderly : connection.Orderly
  recorded : connection.Recorded
  owned : connection.Owned
  placed : Placed locator settings calls exchanges connection

theorem fresh_sound (locator : Locator) (settings : Settings) :
    Sound locator settings [] [] (fresh locator settings) where
  orderly := fresh_orderly locator settings
  recorded := fresh_recorded locator settings
  owned := fresh_owned locator settings
  placed := fresh_placed locator settings

theorem Sound.of_move {locator : Locator} {settings : Settings} {calls : List Call}
    {exchanges : List Exchange} {before after : Connection} {action : Action}
    {exchange? : Option Exchange} (sound : Sound locator settings calls exchanges before)
    (move : Move before action exchange? after) :
    Sound locator settings (calls ++ action.call?.toList)
      (exchanges ++ exchange?.toList) after where
  orderly := sound.orderly.of_move move
  recorded := sound.recorded.of_move sound.orderly move
  owned := sound.owned.of_move sound.orderly move
  placed := sound.placed.of_move sound.orderly sound.recorded sound.owned move

theorem sound_of_run {locator : Locator} {settings : Settings} {actions : List Action}
    {connection : Connection} (ran : (fresh locator settings).run? actions = some connection) :
    Sound locator settings (calls actions) ((fresh locator settings).exchanges actions)
      connection := by
  refine run_induction (motive := fun actions connection => Sound locator settings (calls actions)
    ((fresh locator settings).exchanges actions) connection) (fresh_sound locator settings) ?_ ran
  intro actions middle action final ranBefore sound stepped
  rw [calls_concat, exchanges_concat ranBefore stepped]
  exact sound.of_move (.of_step? stepped)

end Connection

end CdcSerial
