import CdcSerial.Line.Control
import CdcSerial.Proofs.Usb.Path
import Mathlib.Data.List.Induction

/-!
# The life of a handle

Between its opening and its closing a device has to be used in a certain order: a kernel driver
may be detached, the interface is claimed, the line coding is sent, transfers are made, and the
interface is released. `Phase.next?` is this order as a machine that reads one request with its
reply after the other, and `Lifetime` says what the machine accepts as a whole.

A procedure follows a machine if the machine accepts its requests whatever the replies are.
`Procedure.Follows` states this by recursion on the procedure, with a condition on the results and
last states.
-/

namespace CdcSerial

/-- The handle on which a request is made. -/
def Request.handle? : Request → Option Handle
  | .readString handle _ => some handle
  | .kernelDriverActive handle _ => some handle
  | .detachKernelDriver handle _ => some handle
  | .claimInterface handle _ => some handle
  | .releaseInterface handle _ => some handle
  | .control handle _ => some handle
  | .bulkIn handle _ _ _ => some handle
  | .bulkOut handle _ _ _ => some handle
  | .closeHandle handle => some handle
  | _ => none

/-- Whether a request transfers data. -/
def Request.isTransfer : Request → Bool
  | .control _ _ => true
  | .bulkIn _ _ _ _ => true
  | .bulkOut _ _ _ _ => true
  | _ => false

/-- Whether a request needs an interface that is claimed and not released. -/
def Request.needsClaim : Request → Bool
  | .releaseInterface _ _ => true
  | request => request.isTransfer

/-- Whether a request concerns neither an open device nor the opening of one. -/
def Request.isAloof : Request → Bool
  | .openDevice _ _ => false
  | request => request.handle?.isNone

/-- The handle that an event opens. -/
def opened? : Event → Option Handle
  | ⟨.openDevice _ _, .ok handle⟩ => some handle
  | _ => none

/-- The handles that are opened, in order. -/
def openings (events : List Event) : List Handle := events.filterMap opened?

/-- The requests that are made on a handle. -/
def onHandle (handle : Handle) (events : List Event) : List Event :=
  events.filter fun event => decide (event.1.handle? = some handle)

theorem openings_concat (events : List Event) (event : Event) :
    openings (events ++ [event]) = openings events ++ (opened? event).toList := by
  rw [openings, List.filterMap_append]
  cases opened : opened? event <;> simp [openings, opened]

theorem of_mem_onHandle {handle : Handle} {events : List Event} {event : Event}
    (member : event ∈ onHandle handle events) : event.1.handle? = some handle := by
  simpa using (List.mem_filter.mp member).2

theorem onHandle_append (handle : Handle) (first second : List Event) :
    onHandle handle (first ++ second) = onHandle handle first ++ onHandle handle second :=
  List.filter_append _ _

theorem onHandle_singleton {handle : Handle} {event : Event}
    (here : event.1.handle? = some handle) :
    onHandle handle [event] = [event] := by
  simp [onHandle, here]

theorem onHandle_singleton_of_ne {handle : Handle} {event : Event}
    (elsewhere : event.1.handle? ≠ some handle) : onHandle handle [event] = [] := by
  simp [onHandle, elsewhere]

theorem opened?_of_handle? {event : Event} {handle : Handle}
    (here : event.1.handle? = some handle) :
    opened? event = none := by
  rcases event with ⟨request, reply⟩
  cases request <;> simp_all [Request.handle?, opened?]

theorem handle?_of_opened? {event : Event} {handle : Handle} (opens : opened? event = some handle) :
    event.1.handle? = none := by
  cases here : event.1.handle? with
  | none => rfl
  | some device =>
      rw [opened?_of_handle? here] at opens
      cases opens

theorem bare_of_isAloof {event : Event} (aloof : event.1.isAloof = true) :
    event.1.handle? = none ∧ opened? event = none := by
  rcases event with ⟨request, reply⟩
  cases request <;> simp_all [Request.isAloof, Request.handle?, opened?]

/-! ### Procedures that follow a machine -/

theorem foldlM_concat_eq_some {State : Type} {next? : State → Event → Option State}
    {state after : State} {events : List Event} {event : Event} :
    (events ++ [event]).foldlM next? state = some after ↔
      ∃ between, events.foldlM next? state = some between ∧ next? between event = some after := by
  simp [List.foldlM_append, Option.bind_eq_some_iff]

namespace Procedure

variable {State First Second : Type} {next? : State → Event → Option State}

/--
Whatever the replies are, the machine accepts the requests, and the result goes with the state
it is left in.
-/
def Follows {Result : Type} (next? : State → Event → Option State) (post : Result → State → Prop) :
    Procedure Result → State → Prop
  | .done result, state => post result state
  | .say _ next, state => next.Follows next? post state
  | .call request next, state =>
    ∀ reply, ∃ after,
      next? state ⟨request, reply⟩ = some after ∧ (next reply).Follows next? post after

/-- All requests are of a kind. -/
def Asks {Result : Type} (kind : Request → Prop) : Procedure Result → Prop
  | .done _ => True
  | .say _ next => next.Asks kind
  | .call request next => kind request ∧ ∀ reply, (next reply).Asks kind

theorem Follows.bind {procedure : Procedure First} {continuation : First → Procedure Second}
    {post : Second → State → Prop} {state : State}
    (follows : procedure.Follows next?
      (fun result after => (continuation result).Follows next? post after) state) :
    (procedure.bind continuation).Follows next? post state := by
  induction procedure generalizing state with
  | done result => exact follows
  | say message next ih => exact ih follows
  | call request next ih =>
      intro reply
      rcases follows reply with ⟨after, accepted, further⟩
      exact ⟨after, accepted, ih reply further⟩

theorem Follows.mono {procedure : Procedure First} {post weaker : First → State → Prop}
    {state : State} (follows : procedure.Follows next? post state)
    (weakens : ∀ result after, post result after → weaker result after) :
    procedure.Follows next? weaker state := by
  induction procedure generalizing state with
  | done result => exact weakens result state follows
  | say message next ih => exact ih follows
  | call request next ih =>
      intro reply
      rcases follows reply with ⟨after, accepted, further⟩
      exact ⟨after, accepted, ih reply further⟩

/-- The machine accepts every path through a procedure that follows it. -/
theorem Follows.of_path {procedure rest : Procedure First} {post : First → State → Prop}
    {events : List Event} (path : Path procedure events rest) {state : State}
    (follows : procedure.Follows next? post state) :
    ∃ after, events.foldlM next? state = some after ∧ rest.Follows next? post after := by
  induction path generalizing state with
  | here => exact ⟨state, rfl, follows⟩
  | say path ih => exact ih follows
  | call reply path ih =>
      rcases follows reply with ⟨between, accepted, further⟩
      rcases ih further with ⟨after, run, rest⟩
      refine ⟨after, ?_, rest⟩
      simpa [List.foldlM_cons, accepted] using run

theorem Asks.of_path {procedure rest : Procedure First} {kind : Request → Prop}
    {events : List Event} (path : Path procedure events rest) (asks : procedure.Asks kind) :
    rest.Asks kind := by
  induction path with
  | here => exact asks
  | say path ih => exact ih asks
  | call reply path ih => exact ih (asks.2 reply)

theorem Asks.follows {procedure : Procedure First} {kind : Request → Prop} {state : State}
    (asks : procedure.Asks kind)
    (passes : ∀ event : Event, kind event.1 → next? state event = some state) :
    procedure.Follows next? (fun _ after => after = state) state := by
  induction procedure with
  | done result => rfl
  | say message next ih => exact ih asks
  | call request next ih =>
      intro reply
      exact ⟨state, passes ⟨request, reply⟩ asks.1, ih reply (asks.2 reply)⟩

theorem Asks.bind {procedure : Procedure First} {continuation : First → Procedure Second}
    {kind : Request → Prop} (asks : procedure.Asks kind)
    (continues : ∀ result, (continuation result).Asks kind) :
    (procedure.bind continuation).Asks kind := by
  induction procedure with
  | done result => exact continues result
  | say message next ih => exact ih asks
  | call request next ih => exact ⟨asks.1, fun reply => ih reply (asks.2 reply)⟩

theorem Asks.mono {procedure : Procedure First} {kind weaker : Request → Prop}
    (asks : procedure.Asks kind) (weakens : ∀ {request}, kind request → weaker request) :
    procedure.Asks weaker := by
  induction procedure with
  | done result => exact trivial
  | say message next ih => exact ih asks
  | call request next ih => exact ⟨weakens asks.1, fun reply => ih reply (asks.2 reply)⟩

theorem Asks.forall_of_path {procedure rest : Procedure First} {kind : Request → Prop}
    {events : List Event} (path : Path procedure events rest) (asks : procedure.Asks kind) :
    ∀ event ∈ events, kind event.1 := by
  induction path with
  | here => nofun
  | say path ih => exact ih asks
  | call reply path ih =>
      intro event member
      rcases List.mem_cons.mp member with rfl | later
      · exact asks.1
      · exact ih (asks.2 reply) event later

end Procedure

/-! ### The machine -/

/-- What became of an open device so far. -/
inductive Phase where
  | opened
  | asked
  | detached
  /-- A driver could not be detached, or the interface could not be claimed. -/
  | barred
  | claimed
  /-- The line coding was sent. -/
  | ready
  | released
  | dropped
deriving DecidableEq

namespace Phase

/-- Whether the interface can be claimed. -/
def isUnclaimed : Phase → Bool
  | .opened => true
  | .asked => true
  | .detached => true
  | _ => false

/-- The phase after a request on the handle and its reply, if the request is in order. -/
def next? (interface : UInt8) (phase : Phase) : Event → Option Phase
  | ⟨.kernelDriverActive _ number, _⟩ =>
    if number = interface ∧ phase = .opened then some .asked else none
  | ⟨.detachKernelDriver _ number, reply⟩ =>
    if number = interface ∧ phase = .asked then
      some (match reply with | .ok _ => .detached | .error _ => .barred)
    else none
  | ⟨.claimInterface _ number, reply⟩ =>
    if number = interface ∧ phase.isUnclaimed = true then
      some (match reply with | .ok _ => .claimed | .error _ => .barred)
    else none
  | ⟨.control _ transfer, _⟩ =>
    if phase = .ready ∨ phase = .claimed ∧ transfer.request = ClassRequest.setLineCoding then
      some .ready
    else none
  | ⟨.bulkIn _ _ _ _, _⟩ => if phase = .ready then some .ready else none
  | ⟨.bulkOut _ _ _ _, _⟩ => if phase = .ready then some .ready else none
  | ⟨.releaseInterface _ number, _⟩ =>
    if number = interface ∧ phase = .ready then some .released else none
  | ⟨.closeHandle _, _⟩ => if phase = .barred ∨ phase = .released then some .dropped else none
  | _ => none

/-- The phase after the requests on a handle, if all of them are in order. -/
def after? (interface : UInt8) (events : List Event) : Option Phase :=
  events.foldlM (next? interface) .opened

theorem after?_concat_eq_some {interface : UInt8} {events : List Event} {event : Event}
    {phase : Phase} : after? interface (events ++ [event]) = some phase ↔
      ∃ earlier,
        after? interface events = some earlier ∧ earlier.next? interface event = some phase :=
  foldlM_concat_eq_some

/-- Each of the requests is in order after those before it. -/
theorem exists_next?_of_after? {interface : UInt8} {earlier later : List Event} {event : Event}
    {phase : Phase} (accepted : after? interface (earlier ++ event :: later) = some phase) :
    ∃ reached further, after? interface earlier = some reached ∧
      reached.next? interface event = some further := by
  simp only [after?, List.foldlM_append, List.foldlM_cons, Option.bind_eq_bind,
    Option.bind_eq_some_iff] at accepted
  rcases accepted with ⟨reached, before, further, step, -⟩
  exact ⟨reached, further, before, step⟩

theorem in_use_of_next? {interface : UInt8} {phase later : Phase} {event : Event}
    (accepted : phase.next? interface event = some later) (needs : event.1.needsClaim = true) :
    phase = .claimed ∨ phase = .ready := by
  rcases event with ⟨request, reply⟩
  cases request <;>
    simp only [Request.needsClaim, Request.isTransfer, Bool.false_eq_true] at needs <;>
    simp only [next?, Option.ite_none_right_eq_some] at accepted
  case control => exact accepted.1.symm.imp_left And.left
  case bulkIn => exact .inr accepted.1
  case bulkOut => exact .inr accepted.1
  case releaseInterface => exact .inr accepted.1.2

theorem next?_ready {interface : UInt8} {event : Event} (transfers : event.1.isTransfer = true) :
    next? interface .ready event = some .ready := by
  rcases event with ⟨request, reply⟩
  cases request <;> simp_all [Request.isTransfer, next?]

end Phase

/-! ### Whole lifetimes -/

/-- The requests on a handle before its interface is claimed. -/
inductive Approach (interface : UInt8) (handle : Handle) : List Event → Prop where
  | direct : Approach interface handle []
  | asked {active} : Approach interface handle [⟨.kernelDriverActive handle interface, active⟩]
  | detached {active} : Approach interface handle
      [⟨.kernelDriverActive handle interface, active⟩,
        ⟨.detachKernelDriver handle interface, .ok ()⟩]

/--
All requests on a handle. A device whose driver cannot be detached or whose interface cannot be
claimed is closed at once. Otherwise the line coding is sent, transfers follow, and the interface
is released once.
-/
inductive Lifetime (interface : UInt8) (handle : Handle) : List Event → Prop where
  | notDetached {active status} : Lifetime interface handle
      [⟨.kernelDriverActive handle interface, active⟩,
        ⟨.detachKernelDriver handle interface, .error status⟩, ⟨.closeHandle handle, ()⟩]
  | notClaimed {approach} (status : Status) (unclaimed : Approach interface handle approach) :
      Lifetime interface handle
        (approach ++ [⟨.claimInterface handle interface, .error status⟩, ⟨.closeHandle handle, ()⟩])
  | served {approach transfers} (coding : ControlTransfer) (sent : Except Status Nat)
      (released : Except Status Unit) (unclaimed : Approach interface handle approach)
      (codes : coding.request = ClassRequest.setLineCoding)
      (only : ∀ event ∈ transfers, Request.isTransfer event.1 = true) :
      Lifetime interface handle
        (approach ++ [⟨.claimInterface handle interface, .ok ()⟩, ⟨.control handle coding, sent⟩] ++
          transfers ++ [⟨.releaseInterface handle interface, released⟩, ⟨.closeHandle handle, ()⟩])

/-- The requests on a handle up to a phase. -/
inductive History (interface : UInt8) (handle : Handle) : Phase → List Event → Prop where
  | opened : History interface handle .opened []
  | asked {active} :
      History interface handle .asked [⟨.kernelDriverActive handle interface, active⟩]
  | detached {active} : History interface handle .detached
      [⟨.kernelDriverActive handle interface, active⟩,
        ⟨.detachKernelDriver handle interface, .ok ()⟩]
  | notDetached {active status} : History interface handle .barred
      [⟨.kernelDriverActive handle interface, active⟩,
        ⟨.detachKernelDriver handle interface, .error status⟩]
  | notClaimed {approach} (status : Status) (unclaimed : Approach interface handle approach) :
      History interface handle .barred
        (approach ++ [⟨.claimInterface handle interface, .error status⟩])
  | claimed {approach} (unclaimed : Approach interface handle approach) :
      History interface handle .claimed (approach ++ [⟨.claimInterface handle interface, .ok ()⟩])
  | ready {approach transfers coding} (sent : Except Status Nat)
      (unclaimed : Approach interface handle approach)
      (codes : coding.request = ClassRequest.setLineCoding)
      (only : ∀ event ∈ transfers, Request.isTransfer event.1 = true) :
      History interface handle .ready
        (approach ++ [⟨.claimInterface handle interface, .ok ()⟩, ⟨.control handle coding, sent⟩] ++
          transfers)
  | released {approach transfers coding} (sent : Except Status Nat) (released : Except Status Unit)
      (unclaimed : Approach interface handle approach)
      (codes : coding.request = ClassRequest.setLineCoding)
      (only : ∀ event ∈ transfers, Request.isTransfer event.1 = true) :
      History interface handle .released
        (approach ++ [⟨.claimInterface handle interface, .ok ()⟩, ⟨.control handle coding, sent⟩] ++
          transfers ++ [⟨.releaseInterface handle interface, released⟩])
  | dropped {events} (lifetime : Lifetime interface handle events) :
      History interface handle .dropped events

namespace History

variable {interface : UInt8} {handle : Handle} {phase later : Phase} {events : List Event}

theorem approach (history : History interface handle phase events)
    (unclaimed : phase.isUnclaimed = true) : Approach interface handle events := by
  cases history with
  | opened => exact .direct
  | asked => exact .asked
  | detached => exact .detached
  | _ => cases unclaimed

theorem transfer (history : History interface handle .ready events) {event : Event}
    (transfers : event.1.isTransfer = true) :
    History interface handle .ready (events ++ [event]) := by
  cases history with
  | ready sent unclaimed codes only =>
      rw [List.append_assoc]
      refine .ready sent unclaimed codes fun other member => ?_
      rcases List.mem_append.mp member with old | new
      · exact only other old
      · exact List.mem_singleton.mp new ▸ transfers

theorem next (history : History interface handle phase events) {event : Event}
    (here : event.1.handle? = some handle) (accepted : phase.next? interface event = some later) :
    History interface handle later (events ++ [event]) := by
  rcases event with ⟨request, reply⟩
  cases request <;> simp only [Request.handle?, reduceCtorEq, Option.some.injEq] at here <;>
    subst here <;>
    simp only [Phase.next?, Option.ite_none_right_eq_some, Option.some.injEq,
      reduceCtorEq] at accepted
  case kernelDriverActive number =>
    rcases accepted with ⟨⟨rfl, rfl⟩, rfl⟩
    cases history
    exact .asked
  case detachKernelDriver number =>
    rcases accepted with ⟨⟨rfl, rfl⟩, rfl⟩
    cases history
    cases reply with
    | ok _ => exact .detached
    | error status => exact .notDetached
  case claimInterface number =>
    rcases accepted with ⟨⟨rfl, unclaimed⟩, rfl⟩
    cases reply with
    | ok _ => exact .claimed (history.approach unclaimed)
    | error status => exact .notClaimed status (history.approach unclaimed)
  case releaseInterface number =>
    rcases accepted with ⟨⟨rfl, rfl⟩, rfl⟩
    cases history with
    | ready sent unclaimed codes only => exact .released sent reply unclaimed codes only
  case control transfer =>
    rcases accepted with ⟨rfl | ⟨rfl, codes⟩, rfl⟩
    · exact history.transfer rfl
    · cases history with
      | claimed unclaimed =>
          have first := History.ready reply unclaimed codes (List.forall_mem_nil _)
          simpa using first
  case bulkIn endpoint size timeout =>
    rcases accepted with ⟨rfl, rfl⟩
    exact history.transfer rfl
  case bulkOut endpoint data timeout =>
    rcases accepted with ⟨rfl, rfl⟩
    exact history.transfer rfl
  case closeHandle =>
    rcases accepted with ⟨rfl | rfl, rfl⟩
    · cases history with
      | notDetached => exact .dropped .notDetached
      | notClaimed status unclaimed =>
          rw [List.append_assoc]
          exact .dropped (.notClaimed status unclaimed)
    · cases history with
      | released sent released unclaimed codes only =>
          rw [List.append_assoc _ [_] [_]]
          exact .dropped (.served _ sent released unclaimed codes only)

/-- What the machine accepts on a handle is the history of its phase. -/
theorem of_after? (here : ∀ event ∈ events, event.1.handle? = some handle)
    (accepted : Phase.after? interface events = some phase) :
    History interface handle phase events := by
  induction events using List.reverseRecOn generalizing phase with
  | nil =>
      cases accepted
      exact .opened
  | append_singleton events event ih =>
      rcases Phase.after?_concat_eq_some.mp accepted with ⟨earlier, before, step⟩
      have history := ih (fun other member => here other (List.mem_append_left _ member)) before
      exact history.next (here event (by simp)) step

/-- While an interface is in use, it has been claimed and not been released. -/
theorem claimed_of_use (history : History interface handle phase events)
    (use : phase = .claimed ∨ phase = .ready) :
    (⟨.claimInterface handle interface, .ok ()⟩ : Event) ∈ events ∧
      ∀ event ∈ events, ∀ number, event.1 ≠ .releaseInterface handle number := by
  have approached {approach : List Event} (unclaimed : Approach interface handle approach)
      (event : Event) (member : event ∈ approach) (number : UInt8) :
      event.1 ≠ .releaseInterface handle number := by
    cases unclaimed with
    | direct => cases member
    | asked => simp [List.mem_singleton.mp member]
    | detached =>
        rcases List.mem_cons.mp member with rfl | second
        · simp
        · simp [List.mem_singleton.mp second]
  cases history with
  | claimed unclaimed =>
      refine ⟨by simp, fun event member number => ?_⟩
      rcases List.mem_append.mp member with early | late
      · exact approached unclaimed event early number
      · simp [List.mem_singleton.mp late]
  | ready sent unclaimed codes only =>
      refine ⟨by simp, fun event member number => ?_⟩
      rcases List.mem_append.mp member with early | late
      · rcases List.mem_append.mp early with first | second
        · exact approached unclaimed event first number
        · rcases List.mem_cons.mp second with rfl | third
          · simp
          · simp [List.mem_singleton.mp third]
      · intro releases
        have transfers := only event late
        rw [releases] at transfers
        cases transfers
  | _ => simp at use

theorem exists_lifetime (history : History interface handle phase events) :
    ∃ whole, Lifetime interface handle whole ∧ events <+: whole := by
  have refused {approach : List Event} (unclaimed : Approach interface handle approach) :
      ∃ whole, Lifetime interface handle whole ∧ approach <+: whole :=
    ⟨_, .notClaimed .busy unclaimed, List.prefix_append _ _⟩
  cases history with
  | opened => exact refused .direct
  | asked => exact refused .asked
  | detached => exact refused .detached
  | notDetached => exact ⟨_, .notDetached, [_], rfl⟩
  | notClaimed status unclaimed =>
      exact ⟨_, .notClaimed status unclaimed, [⟨.closeHandle handle, ()⟩], List.append_assoc _ _ _⟩
  | claimed unclaimed =>
      refine ⟨_, .served ((LineCommand.coding {}).transfer .zero) (.ok 0) (.ok ()) unclaimed rfl
        (List.forall_mem_nil _), ?_⟩
      simp
  | ready sent unclaimed codes only =>
      exact ⟨_, .served _ sent (.ok ()) unclaimed codes only, List.prefix_append _ _⟩
  | released sent released unclaimed codes only =>
      exact ⟨_, .served _ sent released unclaimed codes only, [⟨.closeHandle handle, ()⟩],
        List.append_assoc _ _ _⟩
  | dropped lifetime => exact ⟨_, lifetime, List.prefix_refl _⟩

end History

end CdcSerial
