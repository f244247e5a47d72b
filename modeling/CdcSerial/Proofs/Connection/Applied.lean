import CdcSerial.Proofs.Connection.Discipline
import CdcSerial.Proofs.Connection.Transitions

/-!
# The line coding that a connection tells

A call that changes the line coding sends it first and records it later, and in between it holds
nothing that keeps others from doing the same. So the line coding that a connection tells is the one
recorded last, which need not be the one that the device accepted last: if two calls send in one
order and record in the other, the connection tells the older coding from then on.

`crossings` are the codings that a device accepts while another caller still has one to record.
Without them the connection tells the truth whenever the port is open and all codings are recorded.
The invariant is that a call in progress whose coding was accepted has sent the last coding of all
(`Truthful`). A call that fails to change the coding leaves alone what the connection tells.
-/

namespace CdcSerial

/-- The device and the payload of a line coding that is accepted. -/
def coding? : Event → Option (Handle × List UInt8)
  | ⟨.control handle transfer, .ok _⟩ =>
    if transfer.request = ClassRequest.setLineCoding then some (handle, transfer.data) else none
  | _ => none

/-- The line codings that are accepted, in order. -/
def codings (events : List Event) : List (Handle × List UInt8) := events.filterMap coding?

/-- The line coding that a caller has had accepted and has not recorded yet. -/
def Task.due? : Task → Option LineConfig
  | .configuring _ line ⟨.done (.ok ()), _⟩ => line
  | .returningClone _ line (.ok ()) => line
  | .returningTicket _ line (.ok ()) => line
  | .recording line => some line
  | _ => none

/-- Whether a caller sends commands for the line. -/
def Task.isConfiguring : Task → Bool
  | .configuring _ _ _ => true
  | _ => false

theorem codings_append (first second : List Event) :
    codings (first ++ second) = codings first ++ codings second :=
  List.filterMap_append

theorem coding?_of_not_transfer {event : Event} (still : event.1.isTransfer = false) :
    coding? event = none := by
  rcases event with ⟨request, reply⟩
  cases request <;> simp_all [Request.isTransfer, coding?]

theorem request_of_coding? {event : Event} {handle : Handle} {payload : List UInt8}
    (coded : coding? event = some (handle, payload)) :
    ∃ transfer, event.1 = .control handle transfer := by
  rcases event with ⟨request, reply⟩
  cases request with
  | control device transfer =>
      cases reply with
      | ok count =>
          simp only [coding?, Option.ite_none_right_eq_some, Option.some.injEq, Prod.mk.injEq]
            at coded
          exact ⟨transfer, by rw [coded.2.1]⟩
      | error status => cases coded
  | _ => cases coded

theorem Task.part_of_due {task : Task} {line : LineConfig} (due : task.due? = some line) :
    task.part = .bystander := by
  cases task <;> first | rfl | cases due

/-! ### Which codings procedures send -/

namespace Procedure

variable {Result : Type} {procedure rest : Procedure Result} {events : List Event}

theorem TransfersNothing.codings_eq_nil (still : procedure.TransfersNothing)
    (path : Path procedure events rest) : codings events = [] := by
  rw [codings, List.filterMap_eq_nil_iff]
  exact fun event member => coding?_of_not_transfer (still.forall_of_path path event member)

/-- The machine that remembers the last line coding. -/
def latest? (last : Option (Handle × List UInt8)) (event : Event) :
    Option (Option (Handle × List UInt8)) :=
  some ((coding? event).or last)

theorem foldlM_latest? (events : List Event) (last : Option (Handle × List UInt8)) :
    events.foldlM latest? last = some ((codings events).getLast?.or last) := by
  induction events using List.reverseRecOn with
  | nil => rfl
  | append_singleton events event ih =>
      rw [foldlM_concat_eq_some]
      refine ⟨_, ih, ?_⟩
      cases coded : coding? event <;> simp [latest?, codings, coded]

theorem follows_latest? {post : Result → Option (Handle × List UInt8) → Prop}
    (procedure : Procedure Result) (last : Option (Handle × List UInt8))
    (free : ∀ result state, post result state) : procedure.Follows latest? post last := by
  induction procedure generalizing last with
  | done result => exact free result last
  | say message next ih => exact ih last
  | call request next ih => exact fun reply => ⟨_, rfl, ih reply _⟩

theorem TransfersNothing.follows_latest? {last : Option (Handle × List UInt8)}
    (still : procedure.TransfersNothing) :
    procedure.Follows latest? (fun _ state => state = last) last := by
  refine still.follows fun event kind => ?_
  rw [latest?, coding?_of_not_transfer kind, Option.none_or]

end Procedure

namespace LineCommand

open Procedure

variable {handle : Handle} {timeout : Duration} {events : List Event}

/-- A coding that is sent alone is accepted at the end, or not at all. -/
theorem sendAll_coding_path {config : LineConfig} {rest : Procedure (Except Error Unit)}
    (path : Path (sendAll handle timeout [.coding config]) events rest) :
    codings events = [] ∧ rest ≠ .done (.ok ()) ∨
      codings events = [(handle, config.pack)] ∧ rest = .done (.ok ()) := by
  cases path with
  | here => exact .inl ⟨rfl, nofun⟩
  | say path =>
      cases path with
      | here => exact .inl ⟨rfl, nofun⟩
      | call reply path =>
          cases reply with
          | ok count =>
              rcases path.of_done with ⟨rfl, rfl⟩
              exact .inr ⟨rfl, rfl⟩
          | error status =>
              rcases path.of_done with ⟨rfl, rfl⟩
              exact .inl ⟨rfl, nofun⟩

theorem code_of_mem_plan {options : SetOptions} {command : LineCommand}
    (member : command ∈ options.plan) : command.code ≠ ClassRequest.setLineCoding := by
  cases command with
  | coding config => simp [SetOptions.plan, lineState] at member
  | dtr assert => exact (by decide : ClassRequest.setControlLineState ≠ ClassRequest.setLineCoding)
  | rts assert => exact (by decide : ClassRequest.setControlLineState ≠ ClassRequest.setLineCoding)
  | brk assert => exact (by decide : ClassRequest.sendBreak ≠ ClassRequest.setLineCoding)

/-- A partial update sends no line coding. -/
theorem sendAll_plan_codings {options : SetOptions} {rest : Procedure (Except Error Unit)}
    (path : Path (sendAll handle timeout options.plan) events rest) : codings events = [] := by
  rw [codings, List.filterMap_eq_nil_iff]
  rintro ⟨request, reply⟩ member
  rcases (sendAll_asks handle timeout options.plan).forall_of_path path _ member with
    ⟨command, planned, asked⟩
  cases asked
  have other : (command.transfer timeout).request ≠ ClassRequest.setLineCoding :=
    code_of_mem_plan planned
  cases reply <;> simp [coding?, other]

end LineCommand

namespace Connection

open Procedure

variable {settings : Settings} {config : LineConfig} {handle : Handle}

/-- A device is ready only with the line coding. -/
theorem configure_follows_latest? (last : Option (Handle × List UInt8)) :
    (configure settings config handle).Follows latest?
      (fun result last => result = .ok () → last = some (handle, config.pack)) last := by
  have undo (error : Error) (last : Option (Handle × List UInt8)) :
      ((releaseQuietly handle settings.interface).bind fun _ =>
        Procedure.done (.error error : Except Error Unit)).Follows latest?
          (fun result last => result = .ok () → last = some (handle, config.pack)) last :=
    .bind (follows_latest? _ last fun _ _ ok => by cases ok)
  intro sent
  refine ⟨_, rfl, ?_⟩
  cases sent with
  | error status => exact undo _ _
  | ok count =>
      intro started
      refine ⟨_, rfl, ?_⟩
      cases started with
      | error cause => exact undo _ _
      | ok _ => exact fun _ => rfl

theorem prepare_follows_latest? (last : Option (Handle × List UInt8)) :
    (prepare settings config handle).Follows latest?
      (fun result last => result = .ok () → last = some (handle, config.pack)) last := by
  refine .bind (follows_latest? _ last ?_)
  rintro (error | _) state
  · exact fun ok => by cases ok
  · intro claimed
    refine ⟨_, rfl, ?_⟩
    cases claimed with
    | error status => exact fun ok => by cases ok
    | ok _ => exact configure_follows_latest? _

/-- How opening a port ends: with a device that has the line coding, or with an error. -/
def Applies (config : LineConfig) (result : Except Error Handle)
    (last : Option (Handle × List UInt8)) : Prop :=
  ∀ handle, result = .ok handle → last = some (handle, config.pack)

theorem attach_follows_latest? (context : Option Nat) (candidate : Candidate) :
    (attach settings config context candidate).Follows latest? (Applies config) none := by
  intro reply
  refine ⟨_, rfl, ?_⟩
  cases reply with
  | error status => exact fun _ ok => by cases ok
  | ok handle =>
      change Follows _ _ ((prepare settings config handle).bind _) _
      refine .bind ((prepare_follows_latest? _).mono ?_)
      rintro (error | _) last applied
      · intro closed
        exact ⟨_, rfl, fun _ ok => by cases ok⟩
      · rintro _ ⟨⟩
        exact applied rfl

/-- A call that has reached its device has sent the line coding last. -/
theorem establish_codings {locator : Locator} (aloof : locator.source.Aloof) {address : Address}
    {events : List Event}
    (path : Path (establish locator settings address config) events (.done (.ok handle))) :
    (codings events).getLast? = some (handle, config.pack) := by
  have resolves : (locator.resolve address).TransfersNothing :=
    (Locator.resolve_asks aloof address).mono Request.not_transfer_of_isAloof
  have follows : (establish locator settings address config).Follows latest? (Applies config)
      none := by
    refine .bind (resolves.follows_latest?.mono ?_)
    rintro (error | ⟨discovery, candidate⟩) _ rfl
    · exact fun _ ok => by cases ok
    · refine .bind ((attach_follows_latest? discovery.context candidate).mono ?_)
      intro outcome last ends
      refine .bind (discovery.forget_transfersNothing.follows_latest?.mono ?_)
      rintro _ _ rfl
      exact ends
  rcases follows.of_path path with ⟨last, seen, ends⟩
  rw [foldlM_latest?, Option.or_none, Option.some.injEq] at seen
  rw [seen]
  exact ends handle rfl

end Connection

/-! ### What a call has sent -/

section Calls

open Connection Procedure

/-- A call for the line that has had a coding accepted has sent it alone, and it records it. -/
theorem Call.Configures.due_of_path {call : Call} {line : Option LineConfig}
    {commands : List LineCommand} {handle : Handle} {timeout : Duration} {events : List Event}
    {rest : Procedure (Except Error Unit)} (asked : call.Configures line commands)
    (path : Path (LineCommand.sendAll handle timeout commands) events rest)
    (coded : codings events ≠ []) :
    ∃ config, line = some config ∧ codings events = [(handle, config.pack)] ∧
      rest = .done (.ok ()) := by
  cases asked with
  | lines => exact absurd (LineCommand.sendAll_plan_codings path) coded
  | @coding config =>
      rcases LineCommand.sendAll_coding_path path with ⟨unsent, -⟩ | ⟨sent, done⟩
      · exact absurd unsent coded
      · exact ⟨config, rfl, sent, done⟩

/--
A call in progress that has had a line coding accepted opens the port, or it has exactly the coding
accepted that it records later.
-/
theorem Standing.part_or_due {locator : Locator} {settings : Settings} {handles : List Handle}
    {call : Call} {events : List Event} {task : Task} (aloof : locator.source.Aloof)
    (standing : Standing locator settings handles call events task) (busy : task.isOver = false)
    (coded : codings events ≠ []) :
    task.part = .opener ∨
      ∃ line, task.due? = some line ∧ ∃ handle, codings events = [(handle, line.pack)] := by
  cases standing with
  | opens => exact .inl rfl
  | clears => exact .inl rfl
  | installs => exact .inl rfl
  | retreats => exact .inl rfl
  | lists path => exact absurd ((Locator.list_transfersNothing aloof).codings_eq_nil path) coded
  | releases held path => exact absurd ((leave_transfersNothing _ _).codings_eq_nil path) coded
  | settles held path => exact absurd ((leave_transfersNothing _ _).codings_eq_nil path) coded
  | @configures _ _ _ _ _ device run asked held path =>
      rcases asked.due_of_path path coded with ⟨line, rfl, sent, done⟩
      rcases run with ⟨procedure, begun⟩
      cases done
      exact .inr ⟨line, rfl, device, sent⟩
  | @returnsClone _ _ _ _ _ device _ asked held path =>
      rcases asked.due_of_path path coded with ⟨line, rfl, sent, done⟩
      cases done
      exact .inr ⟨line, rfl, device, sent⟩
  | @returnsTicket _ _ _ _ _ device _ asked held path =>
      rcases asked.due_of_path path coded with ⟨line, rfl, sent, done⟩
      cases done
      exact .inr ⟨line, rfl, device, sent⟩
  | @records _ _ _ _ device asked held path =>
      rcases asked.due_of_path path coded with ⟨line, same, sent, -⟩
      cases same
      exact .inr ⟨_, rfl, device, sent⟩
  | _ => first | exact absurd rfl coded | cases busy

theorem Call.Configures.sent_of_path {call : Call} {line : LineConfig}
    {commands : List LineCommand} {handle : Handle} {timeout : Duration} {events : List Event}
    (asked : call.Configures (some line) commands)
    (path : Path (LineCommand.sendAll handle timeout commands) events (.done (.ok ()))) :
    codings events = [(handle, line.pack)] := by
  cases asked with
  | coding =>
      rcases LineCommand.sendAll_coding_path path with ⟨-, pending⟩ | ⟨sent, -⟩
      · exact absurd rfl pending
      · exact sent

theorem Standing.codings_of_due {locator : Locator} {settings : Settings} {handles : List Handle}
    {call : Call} {events : List Event} {task : Task} {line : LineConfig}
    (standing : Standing locator settings handles call events task) (due : task.due? = some line) :
    ∃ handle, codings events = [(handle, line.pack)] := by
  cases standing with
  | @configures _ _ _ _ _ handle run asked held path =>
      rcases run with ⟨_ | _ | _, begun⟩
      · rename_i result
        cases result with
        | error error => cases due
        | ok _ =>
            cases due
            exact ⟨handle, asked.sent_of_path path⟩
      · cases due
      · cases due
  | @returnsClone _ _ _ _ _ handle result asked held path =>
      cases result with
      | error error => cases due
      | ok _ =>
          cases due
          exact ⟨handle, asked.sent_of_path path⟩
  | @returnsTicket _ _ _ _ _ handle result asked held path =>
      cases result with
      | error error => cases due
      | ok _ =>
          cases due
          exact ⟨handle, asked.sent_of_path path⟩
  | @records _ _ _ _ handle asked held path =>
      cases due
      exact ⟨handle, asked.sent_of_path path⟩
  | @closes task closing => cases task <;> simp_all [Task.approachesClose, Task.due?]
  | _ => cases due

end Calls

/-- The session and the line coding that a link records. -/
def Link.record (link : Link) : Nat × LineConfig := (link.session, link.line)

namespace Connection

variable {before after : Connection} {action : Action} {exchange? : Option Exchange}

/-! ### Nobody configures a port that is being opened -/

theorem Move.configuring_origin {task : Task} (move : Move before action exchange? after)
    (member : task ∈ after.tasks) (configures : task.isConfiguring = true) :
    (∃ earlier ∈ before.tasks, earlier.isConfiguring = true) ∨
      ∃ link, before.openLink? = some link := by
  cases move.origin member with
  | stays old => exact .inl ⟨task, old, configures⟩
  | enters entry =>
      cases entry with
      | configures asked opened => exact .inr ⟨_, opened⟩
      | _ => cases configures
  | turns stands turn =>
      cases turn with
      | configures => exact .inl ⟨_, List.mem_of_getElem? stands, rfl⟩
      | fetchesWrite found ended =>
          rcases writeEnding?_eq_some ended with ⟨result, rfl⟩
          cases configures
      | @returnsTicket session line result =>
          cases result <;> cases line <;> cases configures
      | _ => cases configures
  | answered stands answer =>
      cases answer with
      | configuring => exact .inl ⟨_, List.mem_of_getElem? stands, rfl⟩
      | _ => cases configures
  | expires => cases configures

theorem Move.opener_origin {task : Task} (move : Move before action exchange? after)
    (member : task ∈ after.tasks) (part : task.part = .opener) :
    (∃ earlier ∈ before.tasks, earlier.part = .opener) ∨ before.state = .closed := by
  cases move.origin member with
  | stays old => exact .inl ⟨task, old, part⟩
  | enters entry =>
      cases entry with
      | opens asked closed => exact .inr closed
      | _ => cases part
  | turns stands turn =>
      have stood := List.mem_of_getElem? stands
      cases turn with
      | opens => exact .inl ⟨_, stood, rfl⟩
      | reached => exact .inl ⟨_, stood, rfl⟩
      | notReached => exact .inl ⟨_, stood, rfl⟩
      | clears => exact .inl ⟨_, stood, rfl⟩
      | fetchesWrite found ended =>
          rcases writeEnding?_eq_some ended with ⟨result, rfl⟩
          cases part
      | returnsTicket => cases (afterTicket_part _ _).symm.trans part
      | _ => cases part
  | answered stands answer =>
      cases answer with
      | opening => exact .inl ⟨_, List.mem_of_getElem? stands, rfl⟩
      | _ => cases part
  | expires => cases part

/-- While a caller opens the port, nobody sends commands for the line. -/
structure Undisturbed (connection : Connection) : Prop where
  idle : ∀ {opener other : Task}, opener ∈ connection.tasks → opener.part = .opener →
    other ∈ connection.tasks → other.isConfiguring = false

theorem fresh_undisturbed (locator : Locator) (settings : Settings) :
    (fresh locator settings).Undisturbed where
  idle := by simp [fresh]

theorem Owned.holdsLink_of_isConfiguring {connection : Connection} {task : Task}
    (owned : connection.Owned) (member : task ∈ connection.tasks)
    (configures : task.isConfiguring = true) : ∃ number, connection.HoldsLink number := by
  cases task with
  | configuring session line run => exact ⟨session, owned.configurer_holdsLink member rfl⟩
  | _ => cases configures

theorem Undisturbed.of_move (undisturbed : before.Undisturbed) (orderly : before.Orderly)
    (owned : before.Owned) (move : Move before action exchange? after) : after.Undisturbed := by
  constructor
  intro opener other member part memberToo
  rw [← Bool.not_eq_true]
  intro configures
  rcases move.opener_origin member part with ⟨earlier, old, opens⟩ | closed
  · rcases move.configuring_origin memberToo configures with ⟨sender, oldToo, sends⟩ | ⟨_, opened⟩
    · simp [undisturbed.idle old opens oldToo] at sends
    · have bare := (orderly.of_opener old opens).2
      cases bare.symm.trans (openLink?_eq_some.mp opened).2
  · rcases move.configuring_origin memberToo configures with ⟨sender, oldToo, sends⟩ | ⟨_, opened⟩
    · rcases owned.holdsLink_of_isConfiguring oldToo sends with ⟨number, holds⟩
      exact orderly.not_holdsLink_of_closed closed number holds
    · cases closed.symm.trans (openLink?_eq_some.mp opened).1

theorem undisturbed_of_run {locator : Locator} {settings : Settings} {actions : List Action}
    {connection : Connection} (ran : (fresh locator settings).run? actions = some connection) :
    connection.Undisturbed := by
  refine run_induction (motive := fun _ connection => connection.Undisturbed)
    (fresh_undisturbed locator settings) ?_ ran
  intro actions middle action final ranBefore undisturbed stepped
  have sound := sound_of_run ranBefore
  exact undisturbed.of_move sound.orderly sound.owned (.of_step? stepped)

/-! ### How a step changes what is recorded -/

theorem ReadStart.record_eq {length : Nat} {result : Except Error Nat}
    (start : ReadStart before length after result) :
    after.link.map Link.record = before.link.map Link.record := by
  cases start with
  | refused => rfl
  | served journal opened => simp [(openLink?_eq_some.mp opened).2, Link.record]
  | notStarted cause opened => simp [(openLink?_eq_some.mp opened).2, Link.record]
  | polls opened => simp [(openLink?_eq_some.mp opened).2, Link.record]

theorem Entry.record_eq {call : Call} {task : Task} (entry : Entry before call after task) :
    after.link.map Link.record = before.link.map Link.record := by
  cases entry with
  | reads fits start => exact start.record_eq
  | readFails fits start => exact start.record_eq
  | writes start =>
      rcases start.frame with ⟨sessions, writes, rfl⟩
      rfl
  | _ => rfl

/-- A step that changes the record. -/
inductive ChangesRecord (before : Connection) (call : Nat) : Connection → Prop where
  | installs {address config session next}
      (stands : before.tasks[call]? = some (.installing address config session))
      (held : next.link = some ⟨session, none, address, config⟩) : ChangesRecord before call next
  | records {line} (stands : before.tasks[call]? = some (.recording line)) :
      ChangesRecord before call ((before.recordLine line).setTask call (Task.succeeded .done))
  | takesLink {next} (stands : before.tasks[call]? = some .takingLink)
      (bare : next.link = none) : ChangesRecord before call next

/-- The record changes where a port is opened, a line coding is recorded or the link is taken. -/
theorem Move.record_eq (move : Move before action exchange? after) :
    after.link.map Link.record = before.link.map Link.record ∨
      ∃ call, action = .advance (.call call) ∧ ChangesRecord before call after := by
  cases move.concern with
  | enters entry => exact .inl entry.record_eq
  | startsRead start => exact .inl start.record_eq
  | @turns call task changed next stands turn =>
      cases turn with
      | lists progress =>
          rcases progress.only_tells with ⟨journal, rfl⟩
          exact .inl rfl
      | opens progress =>
          rcases progress.only_tells with ⟨journal, rfl⟩
          exact .inl rfl
      | releases progress =>
          rcases progress.only_tells with ⟨journal, rfl⟩
          exact .inl rfl
      | configures progress =>
          obtain ⟨journal, rfl⟩ | rfl := progress.only_lane <;> exact .inl rfl
      | installs => exact .inr ⟨call, rfl, .installs stands rfl⟩
      | records => exact .inr ⟨call, rfl, .records stands⟩
      | takesLink => exact .inr ⟨call, rfl, .takesLink stands rfl⟩
      | _ => exact .inl rfl
  | answered stands answer =>
      rcases answer.frame with ⟨-, sessions, rfl⟩
      exact .inl rfl
  | expires => exact .inl rfl
  | nobody state link tasks => exact .inl (congrArg (·.map Link.record) link)

/-- A line coding that is due stays due until it is recorded. -/
theorem Move.due {call : Nat} {task : Task} {line : LineConfig}
    (move : Move before action exchange? after) (stands : before.tasks[call]? = some task)
    (due : task.due? = some line) :
    (∃ later ∈ after.tasks, later.due? = some line) ∨ task = .recording line ∧
      after = (before.recordLine line).setTask call (Task.succeeded .done) := by
  have passed {changed : Connection} {next : Task} (tasks : changed.tasks = before.tasks)
      (same : next.due? = some line) :
      ∃ later ∈ (changed.setTask call next).tasks, later.due? = some line := by
    have stood : changed.tasks[call]? = some task := by rw [tasks, stands]
    exact ⟨next, List.mem_of_getElem? (setTask_getElem?_self stood next), same⟩
  cases move.fate stands with
  | stays stood => exact .inl ⟨task, List.mem_of_getElem? stood, due⟩
  | turns turn =>
      cases turn with
      | configures progress => cases progress <;> cases due
      | @configured session line result =>
          cases result with
          | error error => cases due
          | ok _ => exact .inl (passed rfl due)
      | @returnsClone session line result =>
          cases result with
          | error error => cases due
          | ok _ => exact .inl (passed rfl due)
      | @returnsTicket session line result =>
          cases result with
          | error error => cases due
          | ok _ =>
              cases due
              exact .inl (passed rfl rfl)
      | records =>
          cases due
          exact .inr ⟨rfl, rfl⟩
      | _ => cases due
  | answered answer => cases answer <;> cases due
  | expires stopping => cases (Task.part_of_due due).symm.trans stopping

/-! ### Who sends line codings -/

/-- Who can have a line coding accepted: a caller that opens the port, or one for its session. -/
inductive Codes (before : Connection) (handle : Handle) (call : Nat) (after : Connection) :
    Prop where
  | opener {address config run}
      (stands : before.tasks[call]? = some (.opening address config run)) :
      Codes before handle call after
  | configurer {session line run later}
      (stands : before.tasks[call]? = some (.configuring session line run))
      (held : before.handles[session]? = some handle)
      (still : after.tasks[call]? = some (.configuring session line later)) :
      Codes before handle call after

theorem Move.codes {locator : Locator} {settings : Settings} {calls : List Call}
    {exchanges : List Exchange} {thread : Thread} {event : Event} {handle : Handle}
    {payload : List UInt8} (aloof : locator.source.Aloof)
    (sound : Sound locator settings calls exchanges before)
    (move : Move before action (some (thread, event)) after)
    (coded : coding? event = some (handle, payload)) :
    after.link = before.link ∧ ∃ call, thread = .call call ∧ Codes before handle call after := by
  cases move with
  | @answered call task request replies changed next stands answer =>
      refine ⟨?_, call, rfl, ?_⟩
      · rcases answer.frame with ⟨-, sessions, rfl⟩
        rfl
      rcases sound.placed.exists_standing stands with ⟨made, -, standing⟩
      generalize eventsOf (.call call) exchanges = events at standing
      cases answer with
      | opening => exact .opener stands
      | listing =>
          cases standing with
          | lists path =>
              have still := ((Locator.list_transfersNothing aloof).of_path path).1
              cases (coding?_of_not_transfer still).symm.trans coded
          | closes closing => cases closing
      | releasing =>
          cases standing with
          | releases held path =>
              have still := ((leave_transfersNothing _ _).of_path path).1
              cases (coding?_of_not_transfer still).symm.trans coded
          | closes closing => cases closing
      | configuring =>
          cases standing with
          | configures asked held path =>
              rcases ((LineCommand.sendAll_asks _ _ _).of_path path).1 with ⟨command, -, asked⟩
              rcases request_of_coding? coded with ⟨sent, same⟩
              cases asked.symm.trans same
              exact .configurer stands held (setTask_getElem?_self stands _)
          | closes closing => cases closing
  | readerAnswered found held answer =>
      rcases request_of_coding? coded with ⟨sent, same⟩
      cases answer <;> cases same
  | writerAnswered found answer =>
      rcases request_of_coding? coded with ⟨sent, same⟩
      generalize after = changed at answer
      cases answer <;> cases same

/-! ### A connection without crossings tells the truth -/

/-- The line codings that are accepted while a caller still has another one to record. -/
def crossings (connection : Connection) (actions : List Action) : List Exchange :=
  connection.along (fun before action _ => (before.exchange? action).toList.filter fun exchange =>
    (coding? exchange.2).isSome && before.tasks.any fun task => task.due?.isSome) actions

/--
A call in progress that has had line codings accepted has sent the last one of all. The last one
went to the device of the link, and it is recorded unless it is due.
-/
structure Truthful (exchanges : List Exchange) (connection : Connection) : Prop where
  recent : ∀ {call task}, connection.tasks[call]? = some task → task.isOver = false →
    codings (eventsOf (.call call) exchanges) ≠ [] →
    (codings (log exchanges)).getLast? = (codings (eventsOf (.call call) exchanges)).getLast?
  told : ∀ {link handle}, connection.link = some link →
    connection.handles[link.session]? = some handle →
    ∃ payload, (codings (log exchanges)).getLast? = some (handle, payload) ∧
      ((∀ task ∈ connection.tasks, task.due? = none) → payload = link.line.pack)

theorem fresh_truthful (locator : Locator) (settings : Settings) :
    Truthful [] (fresh locator settings) where
  recent := by simp [fresh]
  told := by simp [fresh]

theorem log_append (first second : List Exchange) :
    log (first ++ second) = log first ++ log second :=
  List.map_append

theorem codings_eventsOf_eq_nil {exchanges : List Exchange} (thread : Thread)
    (uncoded : codings (log exchanges) = []) : codings (eventsOf thread exchanges) = [] := by
  rw [codings, List.filterMap_eq_nil_iff] at uncoded ⊢
  intro event member
  exact uncoded event (List.mem_map.mpr ⟨_, mem_eventsOf.mp member, rfl⟩)

namespace Truthful

variable {locator : Locator} {settings : Settings} {calls : List Call} {exchanges : List Exchange}

theorem last_of_due {call : Nat} {task : Task} {line : LineConfig}
    (truthful : Truthful exchanges before) (placed : Placed locator settings calls exchanges before)
    (stands : before.tasks[call]? = some task) (due : task.due? = some line) :
    ∃ handle, (codings (log exchanges)).getLast? = some (handle, line.pack) := by
  rcases placed.exists_standing stands with ⟨made, -, standing⟩
  rcases standing.codings_of_due due with ⟨handle, sent⟩
  have busy : task.isOver = false := by
    cases task <;> first | rfl | cases due
  exact ⟨handle, by rw [truthful.recent stands busy (by simp [sent]), sent]; rfl⟩

/-- A caller that installs a link has sent the last line coding. -/
theorem last_of_installing {call session : Nat} {address : Address} {config : LineConfig}
    (truthful : Truthful exchanges before) (aloof : locator.source.Aloof)
    (placed : Placed locator settings calls exchanges before)
    (stands : before.tasks[call]? = some (.installing address config session)) :
    ∃ handle, before.handles[session]? = some handle ∧
      (codings (log exchanges)).getLast? = some (handle, config.pack) := by
  rcases placed.exists_standing stands with ⟨made, -, standing⟩
  have recent := truthful.recent stands rfl
  generalize eventsOf (.call call) exchanges = events at standing recent
  cases standing with
  | @installs _ _ _ _ handle _ asked path held =>
      have sent := establish_codings aloof path
      refine ⟨handle, held, ?_⟩
      rw [recent (by rintro vacant; simp [vacant] at sent), sent]
  | closes closing => cases closing

/-- A call in progress that had line codings accepted before a step was in progress then. -/
theorem exists_busy {call : Nat} {task : Task}
    (placed : Placed locator settings calls exchanges before)
    (move : Move before action exchange? after) (stands : after.tasks[call]? = some task)
    (busy : task.isOver = false) (coded : codings (eventsOf (.call call) exchanges) ≠ []) :
    ∃ earlier, before.tasks[call]? = some earlier ∧ earlier.isOver = false := by
  cases stood : before.tasks[call]? with
  | none =>
      have silent := placed.silent (List.getElem?_eq_none_iff.mp stood)
      exact absurd (by rw [silent]; rfl) coded
  | some earlier =>
      refine ⟨earlier, rfl, ?_⟩
      cases earlier with
      | finished ending =>
          cases stands.symm.trans (move.finished stood).1
          cases busy
      | _ => rfl

/-- While no line coding is accepted, callers stay recent. -/
theorem recent_of_uncoded {call : Nat} {task : Task} (truthful : Truthful exchanges before)
    (placed : Placed locator settings calls exchanges before)
    (move : Move before action exchange? after) (uncoded : codings (log exchange?.toList) = [])
    (stands : after.tasks[call]? = some task) (busy : task.isOver = false)
    (coded : codings (eventsOf (.call call) (exchanges ++ exchange?.toList)) ≠ []) :
    (codings (log (exchanges ++ exchange?.toList))).getLast? =
      (codings (eventsOf (.call call) (exchanges ++ exchange?.toList))).getLast? := by
  rw [eventsOf_append, codings_append, codings_eventsOf_eq_nil _ uncoded, List.append_nil]
    at coded ⊢
  rw [log_append, codings_append, uncoded, List.append_nil]
  rcases exists_busy placed move stands busy coded with ⟨earlier, stood, busyThen⟩
  exact truthful.recent stood busyThen coded

theorem told_of_uncoded {link : Link} {handle : Handle} (truthful : Truthful exchanges before)
    (aloof : locator.source.Aloof) (sound : Sound locator settings calls exchanges before)
    (newest : before.Newest) (move : Move before action exchange? after)
    (held : after.link = some link) (device : after.handles[link.session]? = some handle) :
    ∃ payload, (codings (log exchanges)).getLast? = some (handle, payload) ∧
      ((∀ task ∈ after.tasks, task.due? = none) → payload = link.line.pack) := by
  rcases move.keeps with ⟨more, keeps⟩
  rw [keeps.handles] at device
  have linked {old : Link} (holds : before.link = some old) (same : old.session = link.session) :
      before.handles[old.session]? = some handle := by
    have last := newest.linked (.of_link holds)
    have inside : old.session < before.handles.length := by
      simp only [Connection.handles, List.length_map]
      omega
    rwa [← same, List.getElem?_append_left inside] at device
  -- a step that records a line coding makes it that of the link, and it was the last one
  have recorded {call : Nat} {line : LineConfig} {old : Link} (holds : before.link = some old)
      (stands : before.tasks[call]? = some (.recording line))
      (same : old.session = link.session) (now : link.line = line) :
      ∃ payload, (codings (log exchanges)).getLast? = some (handle, payload) ∧
        payload = link.line.pack := by
    rcases truthful.told holds (linked holds same) with ⟨payload, last, -⟩
    rcases truthful.last_of_due sound.placed stands rfl with ⟨_, lastToo⟩
    cases last.symm.trans lastToo
    exact ⟨_, last, by rw [now]⟩
  rcases move.record_eq with kept | ⟨call, -, changes⟩
  · rw [held, Option.map_some, eq_comm, Option.map_eq_some_iff] at kept
    rcases kept with ⟨old, holds, same⟩
    simp only [Link.record, Prod.mk.injEq] at same
    rcases truthful.told holds (linked holds same.1) with ⟨payload, last, settled⟩
    refine ⟨payload, last, fun idle => ?_⟩
    rw [← same.2]
    by_contra stale
    obtain ⟨task, member, line, due⟩ : ∃ task ∈ before.tasks, ∃ line, task.due? = some line := by
      by_contra unrecorded
      refine stale (settled fun task member => ?_)
      exact Option.eq_none_iff_forall_ne_some.mpr fun line due =>
        unrecorded ⟨task, member, line, due⟩
    rcases List.getElem?_of_mem member with ⟨call, stands⟩
    rcases move.due stands due with ⟨later, found, dueToo⟩ | ⟨rfl, rfl⟩
    · cases (idle later found).symm.trans dueToo
    · have now : link.line = line := by
        simp only [setTask, recordLine, holds, Option.map_some, Option.some.injEq] at held
        rw [← held]
      rcases recorded holds stands same.1 now with ⟨_, lastToo, told⟩
      cases last.symm.trans lastToo
      exact stale (told.trans (by rw [same.2]))
  · cases changes with
    | installs stands installed =>
        cases held.symm.trans installed
        rcases truthful.last_of_installing aloof sound.placed stands with ⟨own, there, last⟩
        have inside := (List.getElem?_eq_some_iff.mp there).1
        rw [List.getElem?_append_left inside, there] at device
        cases device
        exact ⟨_, last, fun _ => rfl⟩
    | records stands =>
        rcases Option.map_eq_some_iff.mp held with ⟨old, holds, rfl⟩
        rcases recorded holds stands rfl rfl with ⟨payload, last, told⟩
        exact ⟨payload, last, fun _ => told⟩
    | takesLink stands bare => cases held.symm.trans bare

theorem of_uncoded (truthful : Truthful exchanges before) (aloof : locator.source.Aloof)
    (sound : Sound locator settings calls exchanges before) (newest : before.Newest)
    (move : Move before action exchange? after) (uncoded : codings (log exchange?.toList) = []) :
    Truthful (exchanges ++ exchange?.toList) after where
  recent := truthful.recent_of_uncoded sound.placed move uncoded
  told := by
    intro link handle held device
    rw [log_append, codings_append, uncoded, List.append_nil]
    exact truthful.told_of_uncoded aloof sound newest move held device

/-- A line coding that is accepted while none is due leaves its sender alone with one. -/
theorem of_coded {thread : Thread} {event : Event} {coding : Handle × List UInt8}
    (aloof : locator.source.Aloof) (sound : Sound locator settings calls exchanges before)
    (newest : before.Newest) (undisturbed : before.Undisturbed)
    (move : Move before action (some (thread, event)) after) (coded : coding? event = some coding)
    (idle : ∀ task ∈ before.tasks, task.due? = none) :
    Truthful (exchanges ++ [(thread, event)]) after := by
  have all : codings (log (exchanges ++ [(thread, event)])) =
      codings (log exchanges) ++ [coding] := by
    simp [log, codings, coded]
  rcases coding with ⟨device, payload⟩
  rcases move.codes aloof sound coded with ⟨link, sender, rfl, codes⟩
  have own : codings (eventsOf (.call sender) (exchanges ++ [(.call sender, event)])) =
      codings (eventsOf (.call sender) exchanges) ++ [(device, payload)] := by
    simp [eventsOf, codings, coded]
  constructor
  · intro call task stands busy sent
    rw [all, List.getLast?_concat]
    by_cases same : call = sender
    · subst same
      rw [own, List.getLast?_concat]
    · -- another call with a coding would open the port, or it would have one to record
      exfalso
      have elsewhere : Thread.call sender ≠ .call call := fun eq => same (Thread.call.inj eq).symm
      rw [eventsOf_append, eventsOf_of_ne elsewhere, List.append_nil] at sent
      rcases exists_busy sound.placed move stands busy sent with ⟨earlier, stood, busyThen⟩
      have member := List.mem_of_getElem? stood
      rcases sound.placed.exists_standing stood with ⟨made, -, standing⟩
      rcases standing.part_or_due aloof busyThen sent with opens | ⟨line, due, -⟩
      · cases codes with
        | opener reaches =>
            have inside : Inside calls before call :=
              sound.placed.inside_iff.mpr ⟨earlier, stood, by simp [opens]⟩
            have insideToo : Inside calls before sender :=
              sound.placed.inside_iff.mpr ⟨_, reaches, by simp [Task.part]⟩
            exact same (sound.inside_unique inside insideToo)
        | configurer sends =>
            cases undisturbed.idle member opens (List.mem_of_getElem? sends)
      · cases (idle earlier member).symm.trans due
  · intro held handle linked there
    rw [all, List.getLast?_concat]
    rw [link] at linked
    cases codes with
    | opener reaches =>
        have bare := (sound.orderly.of_opener (List.mem_of_getElem? reaches) rfl).2
        cases bare.symm.trans linked
    | @configurer session _ _ later sends device still =>
        have last := newest.linked (.of_link linked)
        have lastToo := newest.linked
          (sound.owned.configurer_holdsLink (List.mem_of_getElem? sends) rfl)
        obtain rfl : session = held.session := by omega
        rcases move.keeps with ⟨more, keeps⟩
        have inside := (List.getElem?_eq_some_iff.mp device).1
        rw [keeps.handles, List.getElem?_append_left inside, device] at there
        cases there
        refine ⟨payload, rfl, fun idleNow => ?_⟩
        have placed := (sound.of_move move).placed
        rcases placed.exists_standing still with ⟨made, -, standing⟩
        rcases standing.part_or_due aloof rfl (by simp [own]) with opens | ⟨line, due, -⟩
        · cases opens
        · cases (idleNow _ (List.mem_of_getElem? still)).symm.trans due

theorem of_move (truthful : Truthful exchanges before) (aloof : locator.source.Aloof)
    (sound : Sound locator settings calls exchanges before) (newest : before.Newest)
    (undisturbed : before.Undisturbed) (move : Move before action exchange? after)
    (uncrossed : ∀ exchange ∈ exchange?, (coding? exchange.2).isSome = true →
      ∀ task ∈ before.tasks, task.due? = none) :
    Truthful (exchanges ++ exchange?.toList) after := by
  cases exchange? with
  | none => exact truthful.of_uncoded aloof sound newest move rfl
  | some exchange =>
      cases coded : coding? exchange.2 with
      | none =>
          exact truthful.of_uncoded aloof sound newest move (by simp [log, codings, coded])
      | some coding =>
          exact of_coded aloof sound newest undisturbed move coded
            (uncrossed exchange rfl (by simp [coded]))

end Truthful

theorem truthful_of_run {locator : Locator} {settings : Settings} {actions : List Action}
    {connection : Connection} (aloof : locator.source.Aloof)
    (ran : (fresh locator settings).run? actions = some connection)
    (uncrossed : (fresh locator settings).crossings actions = []) :
    Truthful ((fresh locator settings).exchanges actions) connection := by
  refine run_induction (motive := fun actions connection =>
    (fresh locator settings).crossings actions = [] →
      Truthful ((fresh locator settings).exchanges actions) connection)
    (fun _ => fresh_truthful locator settings) ?_ ran uncrossed
  intro actions middle action final ranBefore truthful stepped uncrossed
  rw [crossings, along_concat ranBefore stepped, List.append_eq_nil_iff] at uncrossed
  rw [exchanges_concat ranBefore stepped]
  refine (truthful uncrossed.1).of_move aloof (sound_of_run ranBefore) (newest_of_run ranBefore)
    (undisturbed_of_run ranBefore) (.of_step? stepped) ?_
  intro exchange made coded task member
  have undue := uncrossed.2
  simp only [Option.mem_def.mp made, Option.toList_some, List.filter_eq_nil_iff, List.mem_singleton,
    forall_eq, coded, Bool.true_and, List.any_eq_true, not_exists, not_and] at undue
  simpa using undue task member

/-- The payloads of the line codings that a device accepts. -/
def codingsOn (handle : Handle) (exchanges : List Exchange) : List (List UInt8) :=
  ((codings (log exchanges)).filter fun coding => decide (coding.1 = handle)).map (·.2)

/--
After every course of actions without crossings, whenever the port is open and all line codings
are recorded, the connection tells the line coding that the device of the session accepted last.
-/
theorem lineConfig?_eq_last_coding {locator : Locator} {settings : Settings}
    {actions : List Action} {connection : Connection} (aloof : locator.source.Aloof)
    (ran : (fresh locator settings).run? actions = some connection)
    (uncrossed : (fresh locator settings).crossings actions = [])
    (opened : connection.state = .opened) (idle : ∀ task ∈ connection.tasks, task.due? = none) :
    ∃ link session, connection.link = some link ∧
      connection.sessions[link.session]? = some session ∧
      connection.lineConfig?.map LineConfig.pack =
        (codingsOn session.handle ((fresh locator settings).exchanges actions)).getLast? := by
  have sound := sound_of_run ran
  obtain ⟨link, held⟩ := Option.isSome_iff_exists.mp (sound.orderly.linked_of_opened opened)
  have last := (newest_of_run ran).linked (.of_link held)
  obtain ⟨session, found⟩ : ∃ session, connection.sessions[link.session]? = some session :=
    ⟨_, List.getElem?_eq_getElem (by omega)⟩
  refine ⟨link, session, held, found, ?_⟩
  rcases (truthful_of_run aloof ran uncrossed).told held (handles_getElem? found) with
    ⟨payload, final, told⟩
  rcases List.getLast?_eq_some_iff.mp final with ⟨earlier, all⟩
  simp [lineConfig?, held, codingsOn, all, told idle]

/-- Two callers change the line coding, one after the other. -/
def codesInTurn : List Action :=
  List.flatten
    [Sample.opens, [.invoke (.setLineConfig { baudRate := 1200 }) (.ok ()), .advance (.call 1)],
      asks 1 granting 1, List.replicate 4 (.advance (.call 1)),
      [.invoke (.setLineConfig { baudRate := 2400 }) (.ok ()), .advance (.call 2)],
      asks 2 granting 1, List.replicate 4 (.advance (.call 2))]

example : Sample.connection.crossings codesInTurn = [] ∧
    (Sample.after codesInTurn).state = .opened ∧
    (Sample.after codesInTurn).lineConfig? = some { baudRate := 2400 } := ⟨rfl, rfl, rfl⟩

/-- Two callers change the line coding; the second sends after the first and records before it. -/
def codesCrossed : List Action :=
  List.flatten
    [Sample.opens, [.invoke (.setLineConfig { baudRate := 1200 }) (.ok ()), .advance (.call 1)],
      asks 1 granting 1,
      [.invoke (.setLineConfig { baudRate := 2400 }) (.ok ()), .advance (.call 2)],
      asks 2 granting 1, List.replicate 4 (.advance (.call 2)),
      List.replicate 4 (.advance (.call 1))]

/--
Both calls have succeeded and the port is open, but the connection tells the line coding of the
first while the device has that of the second.
-/
theorem codesCrossed_tells_older :
    ∃ connection, Sample.connection.run? codesCrossed = some connection ∧
      connection.state = .opened ∧ connection.tasks = List.replicate 3 (Task.succeeded .done) ∧
      connection.lineConfig? = some { baudRate := 1200 } ∧
      connection.handles = [⟨Sample.candidate.device⟩] ∧
      (codingsOn ⟨Sample.candidate.device⟩ (Sample.connection.exchanges codesCrossed)).getLast? =
        some (LineConfig.pack { baudRate := 2400 }) :=
  ⟨Sample.after codesCrossed, rfl, rfl, rfl, rfl, rfl, rfl⟩

/--
What the connection tells changes only where a call opens or closes the port, or where a call that
changes the line coding succeeds. So a call that fails to change it leaves it alone.
-/
theorem lineConfig?_changes {locator : Locator} {settings : Settings} {earlier : List Action}
    {before after : Connection} {action : Action}
    (ran : (fresh locator settings).run? earlier = some before)
    (stepped : before.step? action = some after)
    (changed : after.lineConfig? ≠ before.lineConfig?) :
    ∃ call made, action = .advance (.call call) ∧ (calls earlier)[call]? = some made ∧
      (made.Switches ∨ ∃ line, made = .setLineConfig line ∧ after.lineConfig? = some line ∧
        ∀ further final, after.run? further = some final →
          final.tasks[call]? = some (Task.succeeded .done)) := by
  rcases (Move.of_step? stepped).record_eq with same | ⟨call, rfl, changes⟩
  · have eq := congrArg (Option.map (·.2)) same
    rw [Option.map_map, Option.map_map] at eq
    exact absurd eq changed
  have placed := (sound_of_run ran).placed
  cases changes with
  | installs stands =>
      rcases placed.exists_standing stands with ⟨made, asked, standing⟩
      generalize eventsOf (.call call) _ = events at standing
      refine ⟨call, made, rfl, asked, .inl ?_⟩
      cases standing with
      | installs asks => exact .opens asks
      | closes closing => cases closing
  | takesLink stands =>
      rcases placed.exists_standing stands with ⟨made, asked, standing⟩
      generalize eventsOf (.call call) _ = events at standing
      refine ⟨call, made, rfl, asked, .inl ?_⟩
      cases standing with
      | closes => exact .closes
  | @records line stands =>
      rcases placed.exists_standing stands with ⟨made, asked, standing⟩
      generalize eventsOf (.call call) _ = events at standing
      refine ⟨call, made, rfl, asked, .inr ⟨line, ?_, ?_, ?_⟩⟩
      · cases standing with
        | records configures => cases configures; rfl
        | closes closing => cases closing
      · cases held : before.link with
        | none => simp [lineConfig?, recordLine, setTask, held] at changed
        | some link => simp [lineConfig?, recordLine, setTask, held]
      · intro further final runs
        have stood : (before.recordLine line).tasks[call]? = some (.recording line) := stands
        exact (run_of_finished (setTask_getElem?_self stood _) runs).1

end Connection

end CdcSerial
