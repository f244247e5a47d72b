import CdcSerial.Proofs.Connection.Usage

/-!
# Devices are used in order

Whatever the callers and workers of a connection do, the requests on each device that was opened
for a port are made in the order of `Lifetime`, and when the port is closed again the device is
closed too.

The device goes through two hands. As long as the caller that opens the port has not reached the
end of its procedure, nobody else knows the handle, and the order is that of the procedure. After
that the handle belongs to a session, and `Service` says in which phase the device is: ready while
somebody holds the link, on the way out in the hands of the caller that leaves it, or closed. That
the handles of different openings are different is up to the bus.
-/

namespace CdcSerial

namespace Connection

open Procedure

/-- What was asked of the bus, whoever asked. -/
def log (exchanges : List Exchange) : List Event := exchanges.map (·.2)

theorem log_concat (exchanges : List Exchange) (thread : Thread) (event : Event) :
    log (exchanges ++ [(thread, event)]) = log exchanges ++ [event] := by
  simp [log]

/-! ### Who has opened a handle -/

theorem mem_openings {events : List Event} {handle : Handle} :
    handle ∈ openings events ↔ ∃ event ∈ events, opened? event = some handle :=
  List.mem_filterMap

theorem mem_openings_eventsOf {thread : Thread} {exchanges : List Exchange} {handle : Handle} :
    handle ∈ openings (eventsOf thread exchanges) ↔
      ∃ event, (thread, event) ∈ exchanges ∧ opened? event = some handle := by
  rw [mem_openings]
  simp only [mem_eventsOf]

/-- If handles are given out once, a handle has one opener. -/
theorem opener_unique {exchanges : List Exchange} (distinct : (openings (log exchanges)).Nodup)
    {one other : Thread} {handle : Handle}
    (first : handle ∈ openings (eventsOf one exchanges))
    (second : handle ∈ openings (eventsOf other exchanges)) : one = other := by
  rcases mem_openings_eventsOf.mp first with ⟨event, member, opens⟩
  rcases mem_openings_eventsOf.mp second with ⟨event', member', opens'⟩
  rw [openings, log, List.filterMap_map] at distinct
  exact congrArg Prod.fst (eq_of_filterMap_nodup distinct member member' opens opens')

/-! ### The device of a session -/

/-- In which phase the device of a session is. -/
inductive Service (connection : Connection) (interface : UInt8) (number : Nat) : Phase → Prop where
  | serving (holds : connection.HoldsLink number) : Service connection interface number .ready
  | leaving {run : Running (Except Error Unit)} {phase : Phase}
      (last : number + 1 = connection.sessions.length) (member : .releasing run ∈ connection.tasks)
      (follows : run.procedure.Follows (Phase.next? interface) (fun _ phase => phase = .dropped)
        phase) : Service connection interface number phase
  | left (lost : ¬connection.HoldsLink number)
      (alone : number + 1 = connection.sessions.length →
        ∀ run, Task.releasing run ∉ connection.tasks) : Service connection interface number .dropped

theorem Progress.follows {Result State : Type} {next? : State → Event → Option State}
    {post : Result → State → Prop} {before after : Connection} {begun? : Option Connection}
    {run next : Running Result} {state : State} (progress : Progress before begun? run after next)
    (follows : run.procedure.Follows next? post state) :
    next.procedure.Follows next? post state := by
  cases progress with
  | tells => exact follows
  | begins => exact follows

theorem sessions_length_of_handles {before after : Connection}
    (handles : after.handles = before.handles) :
    after.sessions.length = before.sessions.length := by
  simpa [Connection.handles] using congrArg List.length handles

section Steps

variable {before after : Connection} {action : Action} {exchange? : Option Exchange}
  {interface : UInt8} {number : Nat} {phase : Phase}

/-- Where nobody holds the link or leaves the device of a session, nobody will. -/
theorem Service.of_left (orderly : before.Orderly) (newest : before.Newest)
    (move : Move before action exchange? after) (inside : number < before.sessions.length)
    (lost : ¬before.HoldsLink number)
    (alone : number + 1 = before.sessions.length → ∀ run, Task.releasing run ∉ before.tasks) :
    after.Service interface number .dropped := by
  have later := newest.of_move orderly move
  rcases move.keeps with ⟨more, keeps⟩
  have grown := keeps.length
  refine .left (fun holds => ?_) fun last run member => ?_
  · rcases move.succession with ⟨-, call, address, config, handle, begun, stands, rfl⟩ | ⟨-, linked⟩
    · have last := later.linked holds
      simp only [setTask, List.length_append, List.length_singleton] at last
      omega
    · exact lost (linked holds)
  · have before_last : number + 1 = before.sessions.length := by omega
    cases move.origin member with
    | stays old => exact alone before_last run old
    | enters entry => cases entry
    | turns stands turn =>
        rcases turn.leaving with ⟨other, session, rfl, -, -⟩ | ⟨earlier, rfl, -⟩
        · have holds : before.HoldsLink other := .inr ⟨_, List.mem_of_getElem? stands, rfl⟩
          have same : other = number := by
            have := newest.linked holds
            omega
          exact lost (same ▸ holds)
        · exact alone before_last _ (List.mem_of_getElem? stands)
    | answered stands answer =>
        cases answer with
        | releasing => exact alone before_last _ (List.mem_of_getElem? stands)

/-- A link that is held is kept, or its holder goes on to leave the device. -/
theorem Service.of_serving (orderly : before.Orderly) (recorded : before.Recorded)
    (owned : before.Owned) (newest : before.Newest) (set : before.settings.interface = interface)
    (move : Move before action exchange? after) (holds : before.HoldsLink number) :
    after.Service interface number .ready := by
  rcases move.keepsLink orderly recorded owned holds with
    kept | ⟨-, call, session, stands, found, rfl⟩
  · exact .serving kept
  · have stood := @setTask_getElem?_self (before.dropClone number) call _ stands
      (.releasing ⟨leave before.settings session.handle, false⟩)
    refine .leaving ?_ (List.mem_of_getElem? stood) (set ▸ leave_follows _ _)
    rw [newest.linked holds]
    simp [setTask, dropClone, changeSession]

/-- A caller that leaves a device goes on without a request on it, or has left it. -/
theorem Service.of_leaving {handle : Handle} {run : Running (Except Error Unit)}
    (orderly : before.Orderly) (newest : before.Newest) (move : Move before action exchange? after)
    (held : before.handles[number]? = some handle)
    (quiet : ∀ exchange ∈ exchange?.toList, exchange.2.1.handle? ≠ some handle)
    (last : number + 1 = before.sessions.length) (member : .releasing run ∈ before.tasks)
    (follows : run.procedure.Follows (Phase.next? interface) (fun _ phase => phase = .dropped)
      phase) : after.Service interface number phase := by
  rcases List.getElem?_of_mem member with ⟨call, stands⟩
  rcases move.succession with ⟨-, opener, address, config, _, begun, opening, -⟩ | ⟨handles, linked⟩
  · cases orderly.alone member (List.mem_of_getElem? opening) (.inr rfl) (.inl rfl)
  have lasts := last.trans (sessions_length_of_handles handles).symm
  cases move.fate stands with
  | stays stood => exact .leaving lasts (List.mem_of_getElem? stood) follows
  | turns turn =>
      cases turn with
      | releases progress =>
          have further := progress.follows follows
          rcases progress.only_tells with ⟨journal, rfl⟩
          exact .leaving lasts (List.mem_of_getElem? (setTask_getElem?_self stands _)) further
      | @released result =>
          cases follows
          have settling := List.mem_of_getElem? (setTask_getElem?_self stands (.settling result))
          refine .left (fun holds => orderly.not_holdsLink member _ (linked holds))
            fun _ run leaving => ?_
          cases (orderly.of_move move).alone settling leaving (.inr rfl) (.inr rfl)
  | answered answer =>
      cases answer with
      | releasing =>
          -- The caller uses the last handle, and that is the one on which nothing happens.
          rcases newest.leaving member with ⟨device, events, final, path⟩
          rw [List.getLast?_eq_getElem?, Connection.handles, List.length_map, ← last] at final
          cases held.symm.trans final
          exact absurd ((leave_asks _ _).of_path path).1.1 (quiet _ (List.mem_singleton_self _))
  | expires stopping => cases stopping

/-- A step without a request on the handle of a session leaves its device in its phase. -/
theorem Service.of_quiet {handle : Handle} (service : before.Service interface number phase)
    (orderly : before.Orderly) (recorded : before.Recorded) (owned : before.Owned)
    (newest : before.Newest) (set : before.settings.interface = interface)
    (move : Move before action exchange? after) (held : before.handles[number]? = some handle)
    (quiet : ∀ exchange ∈ exchange?.toList, exchange.2.1.handle? ≠ some handle) :
    after.Service interface number phase := by
  cases service with
  | serving holds => exact .of_serving orderly recorded owned newest set move holds
  | leaving last member follows =>
      exact .of_leaving orderly newest move held quiet last member follows
  | left lost alone =>
      rcases List.getElem?_eq_some_iff.mp held with ⟨inside, -⟩
      rw [Connection.handles, List.length_map] at inside
      exact .of_left orderly newest move inside lost alone

/-- A request on the handle of a session, by whoever may make one, is in order. -/
theorem Service.of_touch {exchanges : List Exchange} {handle : Handle} {thread : Thread}
    {event : Event} (service : before.Service interface number phase) (orderly : before.Orderly)
    (recorded : before.Recorded) (owned : before.Owned) (newest : before.Newest)
    (set : before.settings.interface = interface) (distinct : before.handles.Nodup)
    (move : Move before action (some (thread, event)) after)
    (held : before.handles[number]? = some handle)
    (settled : ∀ {call task}, before.tasks[call]? = some task →
      handle ∈ openings (eventsOf (.call call) exchanges) → task.isReaching = false)
    (touch : Touch before exchanges handle thread event after) :
    ∃ later, phase.next? interface event = some later ∧ after.Service interface number later := by
  have inside := (List.getElem?_eq_some_iff.mp held).1
  have unique {other : Nat} (also : before.handles[other]? = some handle) : other = number :=
    ((List.getElem?_inj inside distinct).mp (held.trans also.symm)).symm
  cases touch with
  | opener stands reaching opened =>
      rw [settled stands opened] at reaching
      cases reaching
  | owner also holds transfers =>
      cases unique also
      have served := Service.of_serving orderly recorded owned newest set move holds
      cases service with
      | serving => exact ⟨.ready, Phase.next?_ready transfers, served⟩
      | leaving last member => exact absurd holds (orderly.not_holdsLink member number)
      | left lost => exact absurd holds lost
  | @leaver call request next reply stands last =>
      have member := List.mem_of_getElem? stands
      have final : number + 1 = before.sessions.length := by
        rw [List.getLast?_eq_getElem?, Connection.handles, List.length_map] at last
        have := unique last
        rw [Connection.handles, List.length_map] at inside
        omega
      cases service with
      | serving holds => exact absurd holds (orderly.not_holdsLink member number)
      | left lost alone => exact absurd member (alone final _)
      | leaving _ leaves follows =>
          cases orderly.alone member leaves (.inr rfl) (.inr rfl)
          rcases follows reply with ⟨later, accepted, further⟩
          have stood := setTask_getElem?_self stands (.releasing ⟨next reply, false⟩)
          exact ⟨later, accepted, .leaving final (List.mem_of_getElem? stood) further⟩

end Steps

/-! ### All devices -/

/--
What holds of all requests, after every course of actions in which the bus gives out each handle
once.
-/
structure Disciplined (interface : UInt8) (exchanges : List Exchange) (connection : Connection) :
    Prop where
  /-- A handle is used by its opener, or belongs to a session. -/
  used : ∀ {thread event handle}, (thread, event) ∈ exchanges → event.1.handle? = some handle →
    handle ∈ connection.handles ∨ handle ∈ openings (eventsOf thread exchanges)
  /-- The opener of the handle of a session has handed it over. -/
  owners : ∀ {handle}, handle ∈ connection.handles → ∃ number task,
    handle ∈ openings (eventsOf (.call number) exchanges) ∧
      connection.tasks[number]? = some task ∧ task.isReaching = false
  distinct : connection.handles.Nodup
  served : ∀ {number handle}, connection.handles[number]? = some handle → ∃ phase,
    Phase.after? interface (onHandle handle (log exchanges)) = some phase ∧
      connection.Service interface number phase

theorem fresh_disciplined (locator : Locator) (settings : Settings) :
    Disciplined settings.interface [] (fresh locator settings) where
  used := nofun
  owners := nofun
  distinct := List.nodup_nil
  served := nofun

theorem mem_openings_append {thread : Thread} {exchanges : List Exchange} (more : List Exchange)
    {handle : Handle} (opened : handle ∈ openings (eventsOf thread exchanges)) :
    handle ∈ openings (eventsOf thread (exchanges ++ more)) := by
  rw [eventsOf_append, openings, List.filterMap_append]
  exact List.mem_append_left _ opened

/-- Whoever has gone on from looking for devices does not return to it. -/
theorem Fate.not_reaching {before after : Connection} {call : Nat} {task : Task}
    {exchange? : Option Exchange} (fate : Fate before call task exchange? after)
    (stands : before.tasks[call]? = some task) (arrived : task.isReaching = false) :
    ∃ next, after.tasks[call]? = some next ∧ next.isReaching = false := by
  cases fate with
  | stays stood => exact ⟨task, stood, arrived⟩
  | turns turn =>
      have stood := stands
      rw [← turn.tasks_eq] at stood
      refine ⟨_, setTask_getElem?_self stood _, ?_⟩
      cases turn with
      | lists => cases arrived
      | opens => cases arrived
      | fetchesWrite found ended =>
          rcases writeEnding?_eq_some ended with ⟨result, rfl⟩
          rfl
      | @returnsTicket session line result => cases line <;> cases result <;> rfl
      | _ => rfl
  | @answered request reply changed next answer =>
      have stood : changed.tasks[call]? = some task := by
        rcases answer.frame with ⟨-, sessions, rfl⟩
        exact stands
      refine ⟨next, setTask_getElem?_self stood next, ?_⟩
      cases answer with
      | listing => cases arrived
      | opening => cases arrived
      | _ => rfl
  | expires stopping => exact ⟨_, setTask_getElem?_self stands _, rfl⟩

/-- A caller that has reached its device has opened no other, and the device is ready. -/
theorem Sound.reached {locator : Locator} {settings : Settings} {calls : List Call}
    {exchanges : List Exchange} {connection : Connection} {call : Nat} {address : Address}
    {config : LineConfig} {handle : Handle} {begun : Bool}
    (sound : Sound locator settings calls exchanges connection) (aloof : locator.source.Aloof)
    (stands : connection.tasks[call]? =
      some (.opening address config ⟨.done (.ok handle), begun⟩)) :
    openings (eventsOf (.call call) exchanges) = [handle] ∧
      Phase.after? settings.interface (onHandle handle (eventsOf (.call call) exchanges)) =
        some .ready := by
  rcases sound.placed.exists_standing stands with ⟨made, -, standing⟩
  generalize eventsOf (.call call) exchanges = events at standing ⊢
  cases standing with
  | opens asked path =>
      rcases establish_attempted aloof path with ⟨state, attempted, rfl⟩
      cases attempted with
      | device opens reaches => exact ⟨opens, reaches⟩
  | closes closing => cases closing

namespace Disciplined

variable {locator : Locator} {settings : Settings} {calls : List Call} {interface : UInt8}
  {exchanges : List Exchange} {before after : Connection} {action : Action}
  {exchange? : Option Exchange}

/-- Until its opener hands it over, a handle is used by its opener alone. -/
theorem onHandle_log {connection : Connection} {thread : Thread} {handle : Handle}
    (disciplined : Disciplined interface exchanges connection)
    (once : (openings (log exchanges)).Nodup) (free : handle ∉ connection.handles)
    (opened : handle ∈ openings (eventsOf thread exchanges)) :
    onHandle handle (log exchanges) = onHandle handle (eventsOf thread exchanges) := by
  simp only [onHandle, log, eventsOf, List.filter_map, List.filter_filter]
  congr 1
  refine List.filter_congr fun exchange member => ?_
  rcases exchange with ⟨other, event⟩
  simp only [Function.comp_apply, Bool.eq_self_and, decide_eq_true_eq]
  intro here
  rcases disciplined.used member here with session | own
  · exact absurd session free
  · exact opener_unique once own opened

/-- A caller that still looks for devices has not opened the device of a session. -/
theorem not_reaching {connection : Connection} {handle : Handle} {call : Nat} {task : Task}
    (disciplined : Disciplined interface exchanges connection)
    (once : (openings (log exchanges)).Nodup) (member : handle ∈ connection.handles)
    (stands : connection.tasks[call]? = some task)
    (opened : handle ∈ openings (eventsOf (.call call) exchanges)) : task.isReaching = false := by
  rcases disciplined.owners member with ⟨owner, handed, first, stood, arrived⟩
  cases opener_unique once first opened
  cases stands.symm.trans stood
  exact arrived

theorem of_same (disciplined : Disciplined settings.interface exchanges before)
    (once : (openings (log exchanges)).Nodup) (aloof : locator.source.Aloof)
    (sound : Sound locator settings calls exchanges before) (newest : before.Newest)
    (unclosed : before.Unclosed) (move : Move before action exchange? after)
    (handles : after.handles = before.handles) :
    Disciplined settings.interface (exchanges ++ exchange?.toList) after where
  used := by
    intro thread event handle member here
    rw [handles]
    rcases List.mem_append.mp member with old | new
    · exact (disciplined.used old here).imp_right (mem_openings_append _)
    · rw [Option.mem_toList] at new
      cases new
      cases move.touch aloof sound newest unclosed here with
      | opener stands reaching opened => exact .inr (mem_openings_append _ opened)
      | owner held => exact .inl (List.mem_of_getElem? held)
      | leaver stands last => exact .inl (List.mem_of_getLast? last)
  owners := by
    intro handle member
    rcases disciplined.owners (handles ▸ member) with ⟨number, task, opened, stands, arrived⟩
    rcases (move.fate stands).not_reaching stands arrived with ⟨next, stood, further⟩
    exact ⟨number, next, mem_openings_append _ opened, stood, further⟩
  distinct := handles ▸ disciplined.distinct
  served := by
    intro number handle held
    rw [handles] at held
    rcases disciplined.served held with ⟨phase, accepted, service⟩
    have set : before.settings.interface = settings.interface := by rw [sound.placed.set]
    have passes := service.of_quiet sound.orderly sound.recorded sound.owned newest set move held
    cases exchange? with
    | none =>
        rw [Option.toList_none, List.append_nil]
        exact ⟨phase, accepted, passes (List.forall_mem_nil _)⟩
    | some exchange =>
        rcases exchange with ⟨thread, event⟩
        rw [Option.toList_some, log_concat, onHandle_append]
        by_cases here : event.1.handle? = some handle
        · have settled {call : Nat} {task : Task} (stands : before.tasks[call]? = some task) :=
            disciplined.not_reaching once (List.mem_of_getElem? held) stands
          obtain ⟨later, step, further⟩ := service.of_touch sound.orderly sound.recorded sound.owned
            newest set disciplined.distinct move held settled
            (move.touch aloof sound newest unclosed here)
          rw [onHandle_singleton here]
          exact ⟨later, Phase.after?_concat_eq_some.mpr ⟨phase, accepted, step⟩, further⟩
        · rw [onHandle_singleton_of_ne here, List.append_nil]
          exact ⟨phase, accepted, passes (List.forall_mem_singleton.mpr here)⟩

theorem of_reached {call : Nat} {address : Address} {config : LineConfig} {handle : Handle}
    {begun : Bool} (disciplined : Disciplined settings.interface exchanges before)
    (once : (openings (log exchanges)).Nodup) (aloof : locator.source.Aloof)
    (sound : Sound locator settings calls exchanges before) (newest : before.Newest)
    (stands : before.tasks[call]? = some (.opening address config ⟨.done (.ok handle), begun⟩))
    (next : after =
      ({ before with sessions := before.sessions ++ [newSession handle] }).setTask call
      (.clearing address config before.sessions.length))
    (move : Move before action none after) :
    Disciplined settings.interface exchanges after := by
  have handles : after.handles = before.handles ++ [handle] := by
    simp [next, Connection.handles, setTask, newSession]
  have stood : after.tasks[call]? = some (.clearing address config before.sessions.length) :=
    next ▸ setTask_getElem?_self stands _
  rcases sound.reached aloof stands with ⟨opens, reaches⟩
  have opened : handle ∈ openings (eventsOf (.call call) exchanges) := by simp [opens]
  have free : handle ∉ before.handles := fun member => by
    cases disciplined.not_reaching once member stands opened
  constructor
  case used =>
    intro thread event other member here
    rw [handles]
    exact (disciplined.used member here).imp_left (List.mem_append_left _)
  case owners =>
    intro other member
    rw [handles] at member
    rcases List.mem_append.mp member with old | new
    · rcases disciplined.owners old with ⟨number, task, first, standing, arrived⟩
      rcases (move.fate standing).not_reaching standing arrived with ⟨later, standsNow, further⟩
      exact ⟨number, later, first, standsNow, further⟩
    · cases List.mem_singleton.mp new
      exact ⟨call, _, opened, stood, rfl⟩
  case distinct =>
    rw [handles]
    exact List.nodup_append.mpr ⟨disciplined.distinct, List.nodup_singleton _,
      fun one old other new => by
        cases List.mem_singleton.mp new
        exact fun same => free (same ▸ old)⟩
  case served =>
    intro number other held
    rw [handles] at held
    rcases Nat.lt_or_ge number before.handles.length with inside | outside
    · rw [List.getElem?_append_left inside] at held
      rcases disciplined.served held with ⟨phase, accepted, service⟩
      have set : before.settings.interface = settings.interface := by rw [sound.placed.set]
      exact ⟨phase, accepted, service.of_quiet sound.orderly sound.recorded sound.owned newest set
        move held (List.forall_mem_nil _)⟩
    · rw [List.getElem?_append_right outside, List.getElem?_singleton,
        Option.ite_none_right_eq_some, Option.some.injEq] at held
      rcases held with ⟨beyond, rfl⟩
      have last : number = before.sessions.length := by
        simp only [Connection.handles, List.length_map] at beyond outside
        omega
      rw [disciplined.onHandle_log once free opened]
      exact ⟨.ready, reaches, .serving (.inr ⟨_, List.mem_of_getElem? stood, last ▸ rfl⟩)⟩

theorem of_move (disciplined : Disciplined settings.interface exchanges before)
    (once : (openings (log exchanges)).Nodup) (aloof : locator.source.Aloof)
    (sound : Sound locator settings calls exchanges before) (newest : before.Newest)
    (unclosed : before.Unclosed) (move : Move before action exchange? after) :
    Disciplined settings.interface (exchanges ++ exchange?.toList) after := by
  rcases move.succession with ⟨rfl, call, address, config, handle, begun, stands, next⟩ |
    ⟨handles, -⟩
  · rw [Option.toList_none, List.append_nil]
    exact disciplined.of_reached once aloof sound newest stands next move
  · exact disciplined.of_same once aloof sound newest unclosed move handles

end Disciplined

theorem disciplined_of_run {locator : Locator} {settings : Settings} {actions : List Action}
    {connection : Connection} (aloof : locator.source.Aloof)
    (ran : (fresh locator settings).run? actions = some connection)
    (once : (openings (log ((fresh locator settings).exchanges actions))).Nodup) :
    Disciplined settings.interface ((fresh locator settings).exchanges actions) connection := by
  refine run_induction (motive := fun actions connection =>
    (openings (log ((fresh locator settings).exchanges actions))).Nodup →
      Disciplined settings.interface ((fresh locator settings).exchanges actions) connection)
    (fun _ => fresh_disciplined locator settings) ?_ ran once
  intro actions middle action final ranBefore disciplined stepped once
  rw [exchanges_concat ranBefore stepped] at once ⊢
  have earlier : (openings (log ((fresh locator settings).exchanges actions))).Nodup := by
    rw [log, openings, List.map_append, List.filterMap_append] at once
    exact once.of_append_left
  exact (disciplined earlier).of_move earlier aloof (sound_of_run ranBefore)
    (newest_of_run ranBefore) (unclosed_of_run ranBefore) (.of_step? stepped)

/-! ### Handles that are opened for a port -/

/-- The requests that are made on a handle in a course of actions, in the order of their replies. -/
def requestsOn (start : Connection) (handle : Handle) (actions : List Action) : List Event :=
  onHandle handle (log (start.exchanges actions))

theorem Orderly.not_holdsLink_of_closed {connection : Connection} (orderly : connection.Orderly)
    (closed : connection.state = .closed) (number : Nat) : ¬connection.HoldsLink number := by
  rintro (⟨link, held, -⟩ | ⟨task, member, stake⟩)
  · rw [Orderly, closed, held] at orderly
    cases orderly
  · rcases part_of_link_stake stake with part | part
    · cases closed.symm.trans (orderly.of_opener member part).1
    · cases closed.symm.trans (orderly.of_leaver member part).1

theorem Service.dropped_of_closed {connection : Connection} {interface : UInt8} {number : Nat}
    {phase : Phase} (service : connection.Service interface number phase)
    (orderly : connection.Orderly) (closed : connection.state = .closed) : phase = .dropped := by
  cases service with
  | serving holds => exact absurd holds (orderly.not_holdsLink_of_closed closed number)
  | leaving last member => cases closed.symm.trans (orderly.of_leaver member rfl).1
  | left => rfl

end Connection

/-- Whether a call opens a port. -/
def Call.opens : Call → Bool
  | .openPort _ _ => true
  | .openWith _ _ => true
  | _ => false

section

open Connection Procedure

variable {locator : Locator} {settings : Settings} {handles : List Handle} {call : Call}
  {events : List Event} {task : Task}

/-- A call that opens a port goes about it, has handed its device to a session, or has failed. -/
theorem Standing.establishing (standing : Standing locator settings handles call events task)
    (opens : call.opens = true) :
    events = [] ∨
      ∃ address config rest, Path (establish locator settings address config) events rest ∧
      (task.part = .opener ∨ (∃ handle ∈ handles, rest = .done (.ok handle)) ∨
        ∃ error, rest = .done (.error error)) := by
  cases standing with
  | refused => exact .inl rfl
  | opens asked path => exact .inr ⟨_, _, _, path, .inl rfl⟩
  | clears asked path => exact .inr ⟨_, _, _, path, .inl rfl⟩
  | installs asked path => exact .inr ⟨_, _, _, path, .inl rfl⟩
  | opened asked path held => exact .inr ⟨_, _, _, path, .inr (.inl ⟨_, held, rfl⟩)⟩
  | retreats asked path => exact .inr ⟨_, _, _, path, .inl rfl⟩
  | notOpened asked path => exact .inr ⟨_, _, _, path, .inr (.inr ⟨_, rfl⟩)⟩
  | awaitsRead => exact .inl rfl
  | putsBack => exact .inl rfl
  | fetched => exact .inl rfl
  | configures asked => cases asked <;> cases opens
  | returnsClone asked => cases asked <;> cases opens
  | returnsTicket asked => cases asked <;> cases opens
  | records asked =>
      cases asked
      cases opens
  | configured asked => cases asked <;> cases opens
  | _ => cases opens

/-- Such a call uses its device in order, and closes it unless it hands it over. -/
theorem Standing.attempted (standing : Standing locator settings handles call events task)
    (aloof : locator.source.Aloof) (opens : call.opens = true) {handle : Handle}
    (opened : handle ∈ openings events) :
    ∃ phase, Phase.after? settings.interface (onHandle handle events) = some phase ∧
      (task.part = .opener ∨ handle ∈ handles ∨ phase = .dropped) := by
  rcases standing.establishing opens with rfl | ⟨address, config, rest, path, ends⟩
  · cases opened
  rcases establish_attempted aloof path with ⟨state, attempted, follows⟩
  cases attempted with
  | nothing unopened =>
      rw [unopened] at opened
      cases opened
  | @device device phase only reaches =>
      rw [only] at opened
      cases List.mem_singleton.mp opened
      refine ⟨phase, reaches, ends.imp_right fun ended => ?_⟩
      rcases ended with ⟨kept, held, rfl⟩ | ⟨error, rfl⟩
      · cases follows
        exact .inl held
      · rcases follows with nothing | ⟨closed, same⟩
        · cases nothing
        · cases same
          exact .inr rfl

end

namespace Connection

/--
The requests on a device that is opened for a port are in order, and if the port is closed, so
is the device.
-/
theorem opened_in_order {locator : Locator} {settings : Settings} {actions : List Action}
    {connection : Connection} {number : Nat} {call : Call} {handle : Handle}
    (aloof : locator.source.Aloof)
    (ran : (fresh locator settings).run? actions = some connection)
    (once : (openings (log ((fresh locator settings).exchanges actions))).Nodup)
    (made : (calls actions)[number]? = some call) (opens : call.opens = true)
    (opened : handle ∈
      openings (eventsOf (.call number) ((fresh locator settings).exchanges actions))) :
    ∃ phase, Phase.after? settings.interface
        ((fresh locator settings).requestsOn handle actions) = some phase ∧
      (connection.state = .closed → phase = .dropped) := by
  have sound := sound_of_run ran
  have disciplined := disciplined_of_run aloof ran once
  by_cases member : handle ∈ connection.handles
  · rcases List.getElem?_of_mem member with ⟨session, held⟩
    rcases disciplined.served held with ⟨phase, accepted, service⟩
    exact ⟨phase, accepted, service.dropped_of_closed sound.orderly⟩
  · rcases List.getElem?_eq_some_iff.mp made with ⟨inside, -⟩
    have stands := List.getElem?_eq_getElem (sound.placed.count ▸ inside)
    rcases (sound.placed.stands made stands).attempted aloof opens opened with
      ⟨phase, reaches, place⟩
    rw [requestsOn, disciplined.onHandle_log once member opened]
    refine ⟨phase, reaches, fun closed => ?_⟩
    rcases place with opener | handed | dropped
    · cases closed.symm.trans (sound.orderly.of_opener (List.mem_of_getElem? stands) opener).1
    · exact absurd handed member
    · exact dropped

theorem run?_answer {start connection : Connection} {actions : List Action} {thread : Thread}
    {pending : Pending Connection} (ran : start.run? actions = some connection)
    (waits : connection.pending? thread = some pending) (replies : Replies) :
    ∃ final, start.run? (actions ++ [.answer thread replies]) = some final ∧
      start.exchanges (actions ++ [.answer thread replies]) =
        start.exchanges actions ++ [(thread, ⟨pending.request, replies pending.request⟩)] := by
  have stepped : connection.step? (.answer thread replies) =
      some (pending.resume (replies pending.request)) := by
    simp [step?, waits]
  refine ⟨_, run?_concat_eq_some.mpr ⟨connection, ran, stepped⟩, ?_⟩
  rw [exchanges_concat ran stepped]
  simp [exchange?, waits]

/--
For every handle that a caller opens to open a port, after every course of actions of any callers
and workers: the requests on it begin a lifetime, and so they do with any request that a thread is
waiting for; no transfer and no release is made but between a successful claim and the first
release; and if the port is closed, the lifetime is complete.

The source of devices must leave open devices alone while it enumerates, as `Source.direct` and
`Source.contexts` do, and the bus must give out each handle once.
-/
theorem opened_handle_lifetime {locator : Locator} {settings : Settings} {actions : List Action}
    {connection : Connection} {number : Nat} {call : Call} {context : Option Nat} {device : Nat}
    {handle : Handle} (aloof : locator.source.Aloof)
    (ran : (fresh locator settings).run? actions = some connection)
    (once : (openings (log ((fresh locator settings).exchanges actions))).Nodup)
    (made : (calls actions)[number]? = some call) (opens : call.opens = true)
    (opened : (.call number, ⟨.openDevice context device, .ok handle⟩) ∈
      (fresh locator settings).exchanges actions) :
    (∃ whole, Lifetime settings.interface handle whole ∧
      (fresh locator settings).requestsOn handle actions <+: whole) ∧
    (∀ thread pending (replies : Replies), connection.pending? thread = some pending →
      pending.request.handle? = some handle → ∃ whole, Lifetime settings.interface handle whole ∧
        (fresh locator settings).requestsOn handle actions ++
          [⟨pending.request, replies pending.request⟩] <+: whole) ∧
    (∀ earlier event later,
      (fresh locator settings).requestsOn handle actions = earlier ++ event :: later →
      event.1.needsClaim = true →
      ⟨.claimInterface handle settings.interface, .ok ()⟩ ∈ earlier ∧
        ∀ other ∈ earlier, ∀ interface, other.1 ≠ .releaseInterface handle interface) ∧
    (connection.state = .closed → Lifetime settings.interface handle
      ((fresh locator settings).requestsOn handle actions)) := by
  have first :
      handle ∈ openings (eventsOf (.call number) ((fresh locator settings).exchanges actions)) :=
    mem_openings_eventsOf.mpr ⟨_, opened, rfl⟩
  rcases opened_in_order aloof ran once made opens first with ⟨phase, accepted, closes⟩
  have history := History.of_after? (fun event => of_mem_onHandle) accepted
  refine ⟨history.exists_lifetime, ?_, ?_, ?_⟩
  · intro thread pending replies waits here
    rcases run?_answer ran waits replies with ⟨final, ranOn, seen⟩
    have opensNone : opened? ⟨pending.request, replies pending.request⟩ = none :=
      opened?_of_handle? here
    have onceOn : (openings (log ((fresh locator settings).exchanges
        (actions ++ [.answer thread replies])))).Nodup := by
      rw [seen, log_concat, openings_concat, opensNone, Option.toList_none, List.append_nil]
      exact once
    have madeOn : (calls (actions ++ [.answer thread replies]))[number]? = some call := by
      simpa [calls_concat, Action.call?] using made
    obtain ⟨next, acceptedOn, -⟩ := opened_in_order aloof ranOn onceOn madeOn opens
      (seen ▸ mem_openings_append _ first)
    have historyOn := History.of_after? (fun event => of_mem_onHandle) acceptedOn
    rw [seen, log_concat, onHandle_append, onHandle_singleton here] at historyOn
    exact historyOn.exists_lifetime
  · intro earlier event later split needs
    rw [split] at accepted
    rcases Phase.exists_next?_of_after? accepted with ⟨reached, further, before, step⟩
    have here : ∀ other ∈ earlier, other.1.handle? = some handle := fun other member =>
      of_mem_onHandle (split ▸ List.mem_append_left _ member)
    exact (History.of_after? here before).claimed_of_use (Phase.in_use_of_next? step needs)
  · intro closed
    cases closes closed
    cases history with
    | dropped lifetime => exact lifetime

/-- A bus on which somebody else uses the interface. -/
def refusing : Replies
  | .claimInterface _ _ => .error .busy
  | request => Sample.bus [] (.ok ()) request

/-- A bus that opens the device again and sends two bytes. -/
def granting : Replies
  | .openDevice _ _ => .ok ⟨4⟩
  | request => Sample.bus [1, 2] (.ok ()) request

/-- A caller makes requests, one after the other. -/
def asks (call : Nat) (replies : Replies) (count : Nat) : List Action :=
  (List.replicate count [.advance (.call call), .answer (.call call) replies]).flatten

/--
A caller is refused the interface, a second one opens the port, bytes are read and written, and
a third one closes.
-/
def opensTwice : List Action :=
  List.flatten
    [[.invoke (.openPort ⟨Profile.vendorId, 7, 0⟩ {}) (.ok ())], asks 0 refusing 4,
      [.advance (.call 0), .advance (.call 0),
        .invoke (.openPort ⟨Profile.vendorId, 7, 0⟩ {}) (.ok ())],
      asks 1 granting 3, [.advance (.call 1)], asks 1 granting 2,
      [.advance (.call 1), .advance (.call 1), .advance (.call 1), .startRead 2 (.ok ()),
        .startWrite [7, 8], .advance (.reader 0), .answer (.reader 0) granting,
        .advance (.reader 0), .advance (.reader 0), .advance (.reader 0), .advance (.writer 0),
        .answer (.writer 0) granting, .invoke .close (.ok ()), .advance (.call 2),
        .advance (.call 2), .advance (.call 2), .advance (.writer 0), .advance (.writer 0),
        .advance (.call 2), .advance (.call 2), .advance (.call 2)],
      asks 2 granting 2, [.advance (.call 2), .advance (.call 2)]]

theorem opensTwice_lifetimes :
    Sample.connection.run? opensTwice = some (Sample.after opensTwice) ∧
      (Sample.after opensTwice).state = .closed ∧
      openings (log (Sample.connection.exchanges opensTwice)) = [⟨3⟩, ⟨4⟩] ∧
      ∀ handle ∈ ([⟨3⟩, ⟨4⟩] : List Handle), Lifetime Profile.dataInterface handle
        (Sample.connection.requestsOn handle opensTwice) := by
  have ran : Sample.connection.run? opensTwice = some (Sample.after opensTwice) := rfl
  have closed : (Sample.after opensTwice).state = .closed := rfl
  have opens : openings (log (Sample.connection.exchanges opensTwice)) = [⟨3⟩, ⟨4⟩] := rfl
  have once : (openings (log (Sample.connection.exchanges opensTwice))).Nodup := by
    rw [opens]
    decide
  have refused : (.call 0, ⟨.openDevice none 3, .ok ⟨3⟩⟩) ∈
      Sample.connection.exchanges opensTwice :=
    List.mem_of_getElem? (rfl : (Sample.connection.exchanges opensTwice)[1]? = some _)
  have granted : (.call 1, ⟨.openDevice none 3, .ok ⟨4⟩⟩) ∈
      Sample.connection.exchanges opensTwice :=
    List.mem_of_getElem? (rfl : (Sample.connection.exchanges opensTwice)[5]? = some _)
  have first : (calls opensTwice)[0]? = some (.openPort ⟨Profile.vendorId, 7, 0⟩ {}) := rfl
  have second : (calls opensTwice)[1]? = some (.openPort ⟨Profile.vendorId, 7, 0⟩ {}) := rfl
  refine ⟨ran, closed, opens, ?_⟩
  simp only [List.forall_mem_cons, List.not_mem_nil, false_implies, implies_true, and_true]
  constructor
  · exact (opened_handle_lifetime Source.direct_aloof ran once first rfl refused).2.2.2 closed
  · exact (opened_handle_lifetime Source.direct_aloof ran once second rfl granted).2.2.2 closed

end Connection

end CdcSerial
