import CdcSerial.Connection.Procedures
import CdcSerial.Proofs.Usb.Protocol
import CdcSerial.Usb.Contexts

/-!
# How calls use devices

A call that opens a port opens at most one device and uses it in order; if it fails, the device is
closed again. A call that lists ports uses only devices that it has opened itself. Calls that
configure the line and calls that close the port use the device that they were given. No call makes
a bulk transfer, and only calls that open a port or configure the line make any. All this holds for
every source of devices that leaves open devices alone while it enumerates.
-/

namespace CdcSerial

/-- Enumerating neither opens devices nor uses open ones. -/
def Source.Aloof (source : Source) : Prop :=
  source.enumerate.Asks fun request => request.isAloof = true

namespace Source

open Procedure

theorem direct_aloof : Source.direct.Aloof :=
  ⟨rfl, fun reply => by cases reply <;> exact trivial⟩

theorem describe_asks (attached : List Attached) :
    (describe attached).Asks fun request => request.isAloof = true := by
  induction attached with
  | nil => exact trivial
  | cons device rest ih =>
      refine ⟨rfl, fun reply => ?_⟩
      cases reply with
      | ok descriptor => exact ih.bind fun _ => trivial
      | error status => exact ih

theorem discover_asks : discover.Asks fun request => request.isAloof = true := by
  refine ⟨rfl, fun reply => ?_⟩
  cases reply with
  | error status => exact trivial
  | ok context =>
      refine ⟨rfl, fun reply => ?_⟩
      cases reply with
      | error status => exact ⟨rfl, fun _ => trivial⟩
      | ok devices =>
          refine (describe_asks devices).bind fun candidates => ?_
          change Asks _ (if candidates.isEmpty then _ else _)
          split
          · exact ⟨rfl, fun _ => trivial⟩
          · exact trivial

theorem contexts_aloof : contexts.Aloof :=
  ⟨rfl, fun _ => discover_asks.bind fun _ => ⟨rfl, fun _ => trivial⟩⟩

end Source

theorem Discovery.forget_asks (discovery : Discovery) :
    discovery.forget.Asks fun request => request.isAloof = true := by
  unfold forget
  cases discovery.context with
  | none => exact trivial
  | some context => exact ⟨rfl, fun _ => trivial⟩

theorem Locator.resolve_asks {locator : Locator} (aloof : locator.source.Aloof)
    (address : Address) : (locator.resolve address).Asks fun request => request.isAloof = true := by
  unfold resolve
  split
  · exact trivial
  · refine aloof.bind fun outcome => ?_
    cases outcome with
    | error error => exact trivial
    | ok discovery =>
        cases picked : pick? address discovery.candidates with
        | some candidate => simp only [picked]; exact trivial
        | none =>
            simp only [picked]
            exact discovery.forget_asks.bind fun _ => trivial

/-! ### Opening a port -/

/-- The machine of a call that opens a port: it opens at most one device, and uses only that one. -/
def attempt? (interface : UInt8) : Option (Handle × Phase) → Event →
    Option (Option (Handle × Phase))
  | none, event =>
    match opened? event with
    | some handle => some (some (handle, .opened))
    | none => if event.1.handle? = none then some none else none
  | some (handle, phase), event =>
    if event.1.handle? = some handle then
      (phase.next? interface event).map fun later => some (handle, later)
    else if event.1.isAloof = true then some (some (handle, phase)) else none

theorem attempt?_of_aloof {interface : UInt8} {state : Option (Handle × Phase)} {event : Event}
    (aloof : event.1.isAloof = true) : attempt? interface state event = some state := by
  have bare := bare_of_isAloof aloof
  cases state with
  | none => simp [attempt?, bare]
  | some held => simp [attempt?, bare, aloof]

theorem attempt?_of_next? {interface : UInt8} {handle : Handle} {phase later : Phase}
    {event : Event} (here : event.1.handle? = some handle)
    (accepted : phase.next? interface event = some later) :
    attempt? interface (some (handle, phase)) event = some (some (handle, later)) := by
  simp [attempt?, here, accepted]

/-- What the machine of an opening call has seen. -/
inductive Attempted (interface : UInt8) (events : List Event) : Option (Handle × Phase) → Prop where
  | nothing (opens : openings events = []) (uses : ∀ event ∈ events, event.1.handle? = none) :
      Attempted interface events none
  | device {handle phase} (opens : openings events = [handle])
      (reaches : Phase.after? interface (onHandle handle events) = some phase) :
      Attempted interface events (some (handle, phase))

theorem Attempted.next {interface : UInt8} {events : List Event} {event : Event}
    {state later : Option (Handle × Phase)} (attempted : Attempted interface events state)
    (accepted : attempt? interface state event = some later) :
    Attempted interface (events ++ [event]) later := by
  cases attempted with
  | nothing opens uses =>
      simp only [attempt?] at accepted
      cases opening : opened? event with
      | some handle =>
          simp only [opening, Option.some.injEq] at accepted
          subst accepted
          have unused : onHandle handle (events ++ [event]) = [] := by
            rw [onHandle_append, onHandle_singleton_of_ne (by simp [handle?_of_opened? opening])]
            simp +contextual [onHandle, uses]
          refine .device ?_ (by rw [unused]; rfl)
          simp [openings_concat, opens, opening]
      | none =>
          simp only [opening, Option.ite_none_right_eq_some, Option.some.injEq] at accepted
          rcases accepted with ⟨bare, rfl⟩
          refine .nothing (by simp [openings_concat, opens, opening]) fun other member => ?_
          rcases List.mem_append.mp member with old | new
          · exact uses other old
          · exact List.mem_singleton.mp new ▸ bare
  | @device handle phase opens reaches =>
      by_cases here : event.1.handle? = some handle
      · simp only [attempt?, here, if_true] at accepted
        rcases Option.map_eq_some_iff.mp accepted with ⟨further, step, rfl⟩
        refine .device (by simp [openings_concat, opens, opened?_of_handle? here]) ?_
        rw [onHandle_append, onHandle_singleton here]
        exact Phase.after?_concat_eq_some.mpr ⟨phase, reaches, step⟩
      · simp only [attempt?, here, if_false, Option.ite_none_right_eq_some,
          Option.some.injEq] at accepted
        rcases accepted with ⟨aloof, rfl⟩
        refine .device (by simp [openings_concat, opens, bare_of_isAloof aloof]) ?_
        rw [onHandle_append, onHandle_singleton_of_ne here, List.append_nil]
        exact reaches

theorem Attempted.of_foldlM {interface : UInt8} {events : List Event}
    {state : Option (Handle × Phase)}
    (accepted : events.foldlM (attempt? interface) none = some state) :
    Attempted interface events state := by
  induction events using List.reverseRecOn generalizing state with
  | nil =>
      cases accepted
      exact .nothing rfl (by simp)
  | append_singleton events event ih =>
      rcases foldlM_concat_eq_some.mp accepted with ⟨earlier, before, step⟩
      exact (ih before).next step

namespace Connection

open Procedure

variable {settings : Settings} {handle : Handle}

theorem follows_call {Result : Type} {request : Request}
    {next : request.Reply → Procedure Result} {post : Result → Option (Handle × Phase) → Prop}
    {phase : Phase} (here : request.handle? = some handle)
    (further : ∀ reply, ∃ later, phase.next? settings.interface ⟨request, reply⟩ = some later ∧
      (next reply).Follows (attempt? settings.interface) post (some (handle, later))) :
    (Procedure.call request next).Follows (attempt? settings.interface) post
      (some (handle, phase)) := by
  intro reply
  rcases further reply with ⟨later, accepted, follows⟩
  exact ⟨_, attempt?_of_next? here accepted, follows⟩

theorem releaseQuietly_follows :
    (releaseQuietly handle settings.interface).Follows (attempt? settings.interface)
      (fun _ state => state = some (handle, .released)) (some (handle, .ready)) := by
  refine follows_call rfl fun reply => ⟨.released, by simp [Phase.next?], ?_⟩
  cases reply <;> rfl

/-- A driver is detached or left alone, or the device is barred. -/
theorem detachDriver_follows :
    (detachDriver settings handle).Follows (attempt? settings.interface)
      (fun result state => ∃ phase, state = some (handle, phase) ∧
        (match result with | .ok _ => phase.isUnclaimed = true | .error _ => phase = .barred))
      (some (handle, .opened)) := by
  unfold detachDriver
  split
  · refine follows_call rfl fun active => ⟨.asked, by simp [Phase.next?], ?_⟩
    cases active with
    | error status => exact ⟨_, rfl, rfl⟩
    | ok active =>
        cases active with
        | false => exact ⟨_, rfl, rfl⟩
        | true =>
            refine follows_call rfl fun reply => ?_
            cases reply with
            | ok _ => exact ⟨.detached, by simp [Phase.next?], _, rfl, rfl⟩
            | error status => exact ⟨.barred, by simp [Phase.next?], _, rfl, rfl⟩
  · exact ⟨_, rfl, rfl⟩

/-- A claimed interface is ready, or has been released again. -/
theorem configure_follows (config : LineConfig) :
    (configure settings config handle).Follows (attempt? settings.interface)
      (fun result state => state = some (handle,
        match result with | .ok _ => .ready | .error _ => .released))
      (some (handle, .claimed)) := by
  refine follows_call rfl fun sent =>
    ⟨.ready, by simp [Phase.next?, LineCommand.transfer, LineCommand.code], ?_⟩
  have undo (error : Error) : ((releaseQuietly handle settings.interface).bind fun _ =>
      Procedure.done (.error error : Except Error Unit)).Follows (attempt? settings.interface)
        (fun result state => state = some (handle,
          match result with | .ok _ => .ready | .error _ => .released)) (some (handle, .ready)) :=
    .bind (releaseQuietly_follows.mono fun _ _ released => released)
  cases sent with
  | error status => exact undo _
  | ok count =>
      intro started
      refine ⟨_, attempt?_of_aloof rfl, ?_⟩
      cases started with
      | ok _ => rfl
      | error cause => exact undo _

theorem prepare_follows (config : LineConfig) :
    (prepare settings config handle).Follows (attempt? settings.interface)
      (fun result state => ∃ phase, state = some (handle, phase) ∧
        (match result with
          | .ok _ => phase = .ready
          | .error _ => phase = .barred ∨ phase = .released))
      (some (handle, .opened)) := by
  refine .bind (detachDriver_follows.mono ?_)
  rintro (error | _) _ ⟨phase, rfl, reached⟩
  · exact ⟨phase, rfl, .inl reached⟩
  · refine follows_call rfl fun reply => ?_
    cases reply with
    | error status => exact ⟨.barred, by simp [Phase.next?, reached], _, rfl, .inl rfl⟩
    | ok _ =>
        refine ⟨.claimed, by simp [Phase.next?, reached], (configure_follows config).mono ?_⟩
        rintro (error | _) _ rfl
        · exact ⟨_, rfl, .inr rfl⟩
        · exact ⟨_, rfl, rfl⟩

/-- How opening a port ends: with a device that is ready, or with nothing open. -/
def OpeningEnds : Except Error Handle → Option (Handle × Phase) → Prop
  | .ok handle, state => state = some (handle, .ready)
  | .error _, state => state = none ∨ ∃ handle, state = some (handle, .dropped)

theorem attach_follows (config : LineConfig) (context : Option Nat) (candidate : Candidate) :
    (attach settings config context candidate).Follows (attempt? settings.interface) OpeningEnds
      none := by
  intro reply
  cases reply with
  | error status => exact ⟨none, rfl, .inl rfl⟩
  | ok handle =>
      refine ⟨some (handle, .opened), rfl, ?_⟩
      change Follows _ _ ((prepare settings config handle).bind _) _
      refine .bind ((prepare_follows config).mono ?_)
      rintro (error | _) _ ⟨phase, rfl, reached⟩
      · refine follows_call rfl fun reply => ⟨.dropped, by simp [Phase.next?, reached], ?_⟩
        exact .inr ⟨handle, rfl⟩
      · cases reached
        rfl

theorem establish_follows {locator : Locator} (aloof : locator.source.Aloof) (address : Address)
    (config : LineConfig) :
    (establish locator settings address config).Follows (attempt? settings.interface) OpeningEnds
      none := by
  refine .bind
    (((Locator.resolve_asks aloof address).follows fun event => attempt?_of_aloof).mono ?_)
  rintro (error | ⟨discovery, candidate⟩) _ rfl
  · exact .inl rfl
  · refine .bind
      ((attach_follows config discovery.context candidate).mono fun outcome state ends => ?_)
    refine .bind ((discovery.forget_asks.follows fun event => attempt?_of_aloof).mono ?_)
    rintro _ _ rfl
    exact ends

theorem establish_attempted {locator : Locator} (aloof : locator.source.Aloof) {address : Address}
    {config : LineConfig} {events : List Event} {rest : Procedure (Except Error Handle)}
    (path : Path (establish locator settings address config) events rest) :
    ∃ state, Attempted settings.interface events state ∧
      rest.Follows (attempt? settings.interface) OpeningEnds state := by
  rcases (establish_follows aloof address config).of_path path with ⟨state, seen, follows⟩
  exact ⟨state, .of_foldlM seen, follows⟩

/-- A call that opens a port makes requests only on the device that it has opened. -/
theorem establish_request {locator : Locator} (aloof : locator.source.Aloof) {address : Address}
    {config : LineConfig} {events : List Event} {request : Request}
    {next : request.Reply → Procedure (Except Error Handle)}
    (path : Path (establish locator settings address config) events (.call request next))
    (reply : request.Reply) (here : request.handle? = some handle) : handle ∈ openings events := by
  rcases establish_attempted aloof path with ⟨state, attempted, follows⟩
  rcases follows reply with ⟨later, accepted, -⟩
  cases attempted with
  | nothing =>
      have opens : opened? ⟨request, reply⟩ = none := opened?_of_handle? here
      simp [attempt?, opens, here] at accepted
  | @device device phase opens =>
      by_cases same : handle = device
      · simp [opens, same]
      · have aloof : request.isAloof = true := by
          by_contra uses
          simp [attempt?, here, same, uses] at accepted
        have bare := (@bare_of_isAloof ⟨request, reply⟩ aloof).1
        rw [here] at bare
        cases bare

end Connection

/-! ### Listing ports -/

/-- The machine of a call that uses only devices that it has opened. -/
def owning? (owned : List Handle) (event : Event) : Option (List Handle) :=
  match event.1.handle? with
  | some handle => if handle ∈ owned then some owned else none
  | none => some (owned ++ (opened? event).toList)

theorem owned_of_foldlM {events : List Event} {owned : List Handle}
    (accepted : events.foldlM owning? [] = some owned) : owned = openings events := by
  induction events using List.reverseRecOn generalizing owned with
  | nil => cases accepted; rfl
  | append_singleton events event ih =>
      rcases foldlM_concat_eq_some.mp accepted with ⟨earlier, before, step⟩
      rw [openings_concat, ← ih before]
      cases here : event.1.handle? with
      | some handle =>
          simp only [owning?, here, Option.ite_none_right_eq_some, Option.some.injEq] at step
          simp [opened?_of_handle? here, step.2]
      | none =>
          simp only [owning?, here, Option.some.injEq] at step
          exact step.symm

theorem owning?_of_mem {owned : List Handle} {handle : Handle} (mine : handle ∈ owned)
    {event : Event} (here : event.1.handle? = some handle) : owning? owned event = some owned := by
  simp [owning?, here, mine]

theorem owning?_of_aloof {owned : List Handle} {event : Event} (aloof : event.1.isAloof = true) :
    owning? owned event = some owned := by
  have bare := bare_of_isAloof aloof
  simp [owning?, bare]

/-- That a request manages a device: it is made on its handle and transfers no data. -/
def Request.Manages (handle : Handle) (request : Request) : Prop :=
  request.handle? = some handle ∧ request.isTransfer = false

namespace Locator

open Procedure

theorem readText_asks (handle : Handle) (index : Option UInt8) :
    (readText handle index).Asks (Request.Manages handle) := by
  cases index with
  | none => exact trivial
  | some index =>
      refine ⟨⟨rfl, rfl⟩, fun reply => ?_⟩
      cases reply <;> exact trivial

theorem describe_asks (candidate : Candidate) (handle : Handle) (index : UInt16) :
    (describe candidate handle index).Asks (Request.Manages handle) :=
  (readText_asks handle _).bind fun _ => (readText_asks handle _).bind fun _ =>
    (readText_asks handle _).bind fun _ => trivial

theorem listFrom_follows (locator : Locator) (context : Option Nat) (candidates : List Candidate)
    (found : List PortInfo) (owned : List Handle) :
    (locator.listFrom context found candidates).Follows owning? (fun _ _ => True) owned := by
  induction candidates generalizing found owned with
  | nil => exact trivial
  | cons candidate rest ih =>
      unfold listFrom
      split
      · exact ih found owned
      · intro reply
        cases reply with
        | error status => exact ⟨owned ++ [], rfl, ih _ _⟩
        | ok handle =>
            refine ⟨owned ++ [handle], rfl, ?_⟩
            have mine : handle ∈ owned ++ [handle] := by simp
            have closes (port : List PortInfo) : (Procedure.call (.closeHandle handle) fun _ =>
                locator.listFrom context port rest).Follows owning? (fun _ _ => True)
                (owned ++ [handle]) :=
              fun reply => ⟨_, owning?_of_mem mine rfl, ih _ _⟩
            cases given : nextIndex? found candidate.productId with
            | none => exact closes found
            | some index =>
                have describes := (describe_asks candidate handle index).follows
                  fun event manages => owning?_of_mem mine manages.1
                change Follows _ _ ((describe candidate handle index).bind _) _
                refine .bind (describes.mono ?_)
                rintro port _ rfl
                exact closes _

theorem list_follows {locator : Locator} (aloof : locator.source.Aloof) :
    locator.list.Follows owning? (fun _ _ => True) [] := by
  refine .bind ((aloof.follows fun event => owning?_of_aloof).mono ?_)
  rintro (error | discovery) _ rfl
  · exact trivial
  · refine .bind ((listFrom_follows locator discovery.context discovery.candidates [] []).mono ?_)
    rintro ports owned -
    refine .bind ((discovery.forget_asks.follows fun event => owning?_of_aloof).mono ?_)
    exact fun _ _ _ => trivial

/-- A call that lists ports makes requests only on devices that it has opened. -/
theorem list_request {locator : Locator} (aloof : locator.source.Aloof) {events : List Event}
    {request : Request} {next : request.Reply → Procedure (Except Error (List PortInfo))}
    (path : Path locator.list events (.call request next)) (reply : request.Reply)
    {handle : Handle} (here : request.handle? = some handle) : handle ∈ openings events := by
  rcases (list_follows aloof).of_path path with ⟨owned, seen, follows⟩
  rcases follows reply with ⟨later, accepted, -⟩
  rw [← owned_of_foldlM seen]
  simp only [owning?, here, Option.ite_none_right_eq_some] at accepted
  exact accepted.1

end Locator

/-! ### Configuring and closing -/

theorem LineCommand.sendAll_asks (handle : Handle) (timeout : Duration)
    (commands : List LineCommand) :
    (sendAll handle timeout commands).Asks fun request =>
      ∃ command ∈ commands, request = .control handle (command.transfer timeout) := by
  induction commands with
  | nil => exact trivial
  | cons command rest ih =>
      refine ⟨⟨command, List.mem_cons_self, rfl⟩, fun reply => ?_⟩
      cases reply with
      | error status => exact trivial
      | ok count =>
          refine ih.mono ?_
          rintro request ⟨later, member, asked⟩
          exact ⟨later, List.mem_cons_of_mem _ member, asked⟩

namespace Connection

open Procedure

theorem leave_follows (settings : Settings) (handle : Handle) :
    (leave settings handle).Follows (Phase.next? settings.interface)
      (fun _ phase => phase = .dropped) .ready := by
  intro released
  refine ⟨.released, by simp [Phase.next?], fun closed => ⟨.dropped, by simp [Phase.next?], ?_⟩⟩
  cases released <;> rfl

theorem leave_asks (settings : Settings) (handle : Handle) :
    (leave settings handle).Asks (Request.Manages handle) := by
  refine ⟨⟨rfl, rfl⟩, fun released => ⟨⟨rfl, rfl⟩, fun _ => ?_⟩⟩
  cases released <;> exact trivial

end Connection

/-! ### Which transfers calls make -/

namespace Request

/-- Whether a request is a bulk transfer. -/
def isBulk : Request → Bool
  | .bulkIn _ _ _ _ => true
  | .bulkOut _ _ _ _ => true
  | _ => false

/-- Whether a request sends data to a device. -/
def isOutput : Request → Bool
  | .bulkOut _ _ _ _ => true
  | _ => false

theorem not_transfer_of_isAloof {request : Request} (aloof : request.isAloof = true) :
    request.isTransfer = false := by
  cases request <;> simp_all [isAloof, handle?, isTransfer]

theorem not_bulk_of_not_transfer {request : Request} (still : request.isTransfer = false) :
    request.isBulk = false := by
  cases request <;> simp_all [isTransfer, isBulk]

theorem not_output_of_not_bulk {request : Request} (spares : request.isBulk = false) :
    request.isOutput = false := by
  cases request <;> simp_all [isBulk, isOutput]

end Request

/-- That a procedure transfers no data. -/
abbrev Procedure.TransfersNothing {Result : Type} (procedure : Procedure Result) : Prop :=
  procedure.Asks fun request => request.isTransfer = false

/-- That a procedure makes no bulk transfer. -/
abbrev Procedure.SparesBulk {Result : Type} (procedure : Procedure Result) : Prop :=
  procedure.Asks fun request => request.isBulk = false

theorem Discovery.forget_transfersNothing (discovery : Discovery) :
    discovery.forget.TransfersNothing :=
  discovery.forget_asks.mono Request.not_transfer_of_isAloof

theorem LineCommand.sendAll_sparesBulk (handle : Handle) (timeout : Duration)
    (commands : List LineCommand) : (sendAll handle timeout commands).SparesBulk := by
  refine (sendAll_asks handle timeout commands).mono ?_
  rintro _ ⟨command, -, rfl⟩
  rfl

namespace Locator

theorem listFrom_transfersNothing (locator : Locator) (context : Option Nat)
    (candidates : List Candidate) (found : List PortInfo) :
    (locator.listFrom context found candidates).TransfersNothing := by
  induction candidates generalizing found with
  | nil => exact trivial
  | cons candidate rest ih =>
      unfold listFrom
      split
      · exact ih found
      · refine ⟨rfl, fun reply => ?_⟩
        cases reply with
        | error status => exact ih found
        | ok handle =>
            cases given : nextIndex? found candidate.productId with
            | none => exact ⟨rfl, fun _ => ih found⟩
            | some index =>
                have describes : (describe candidate handle index).TransfersNothing :=
                  (describe_asks candidate handle index).mono And.right
                exact describes.bind fun _ => ⟨rfl, fun _ => ih _⟩

theorem list_transfersNothing {locator : Locator} (aloof : locator.source.Aloof) :
    locator.list.TransfersNothing := by
  refine (aloof.mono Request.not_transfer_of_isAloof).bind fun outcome => ?_
  cases outcome with
  | error error => exact trivial
  | ok discovery =>
      exact (listFrom_transfersNothing locator _ _ []).bind fun _ =>
        discovery.forget_transfersNothing.bind fun _ => trivial

end Locator

namespace Connection

open Procedure

/-- That a request transfers no data, or sends a line configuration to a device. -/
def SendsOnly (settings : Settings) (config : LineConfig) (request : Request) : Prop :=
  request.isTransfer = true → ∃ handle,
    request = .control handle ((LineCommand.coding config).transfer settings.controlTimeout)

section Sending

variable {settings : Settings} {config : LineConfig} {handle : Handle} {request : Request}

theorem SendsOnly.of_not_transfer (still : request.isTransfer = false) :
    SendsOnly settings config request :=
  fun transfers => absurd transfers (by simp [still])

theorem SendsOnly.of_aloof (aloof : request.isAloof = true) : SendsOnly settings config request :=
  .of_not_transfer (Request.not_transfer_of_isAloof aloof)

theorem SendsOnly.not_bulk (sends : SendsOnly settings config request) :
    request.isBulk = false := by
  cases transfers : request.isTransfer with
  | false => exact Request.not_bulk_of_not_transfer transfers
  | true =>
      rcases sends transfers with ⟨handle, rfl⟩
      rfl

theorem detachDriver_sendsOnly :
    (detachDriver settings handle).Asks (SendsOnly settings config) := by
  unfold detachDriver
  split
  · refine ⟨.of_not_transfer rfl, fun active => ?_⟩
    match active with
    | .ok true =>
        refine ⟨.of_not_transfer rfl, fun detached => ?_⟩
        cases detached <;> exact trivial
    | .ok false => exact trivial
    | .error _ => exact trivial
  · exact trivial

theorem releaseQuietly_sendsOnly {interface : UInt8} :
    (releaseQuietly handle interface).Asks (SendsOnly settings config) := by
  refine ⟨.of_not_transfer rfl, fun released => ?_⟩
  cases released <;> exact trivial

theorem configure_sendsOnly :
    (configure settings config handle).Asks (SendsOnly settings config) := by
  have undo (error : Error) : ((releaseQuietly handle settings.interface).bind fun _ =>
      Procedure.done (.error error : Except Error Unit)).Asks (SendsOnly settings config) :=
    releaseQuietly_sendsOnly.bind fun _ => trivial
  have sends : (LineCommand.sendAll handle settings.controlTimeout [.coding config]).Asks
      (SendsOnly settings config) := by
    refine (LineCommand.sendAll_asks handle _ _).mono ?_
    rintro request ⟨command, planned, rfl⟩ -
    exact ⟨handle, by rw [List.mem_singleton.mp planned]⟩
  refine sends.bind fun sent => ?_
  cases sent with
  | error error => exact undo error
  | ok _ =>
      refine ⟨.of_not_transfer rfl, fun started => ?_⟩
      cases started with
      | error cause => exact undo _
      | ok _ => exact trivial

theorem prepare_sendsOnly : (prepare settings config handle).Asks (SendsOnly settings config) := by
  refine detachDriver_sendsOnly.bind fun detached => ?_
  cases detached with
  | error error => exact trivial
  | ok _ =>
      refine ⟨.of_not_transfer rfl, fun claimed => ?_⟩
      cases claimed with
      | error status => exact trivial
      | ok _ => exact configure_sendsOnly

theorem attach_sendsOnly (context : Option Nat) (candidate : Candidate) :
    (attach settings config context candidate).Asks (SendsOnly settings config) := by
  refine ⟨.of_not_transfer rfl, fun opened => ?_⟩
  cases opened with
  | error status => exact trivial
  | ok handle =>
      refine prepare_sendsOnly.bind fun ready => ?_
      cases ready with
      | ok _ => exact trivial
      | error error => exact ⟨.of_not_transfer rfl, fun _ => trivial⟩

/-- A call that opens a port transfers nothing but its line configuration. -/
theorem establish_sendsOnly {locator : Locator} (aloof : locator.source.Aloof)
    (address : Address) :
    (establish locator settings address config).Asks (SendsOnly settings config) := by
  refine ((Locator.resolve_asks aloof address).mono SendsOnly.of_aloof).bind fun resolved => ?_
  cases resolved with
  | error error => exact trivial
  | ok found =>
      rcases found with ⟨discovery, candidate⟩
      refine (attach_sendsOnly discovery.context candidate).bind fun outcome => ?_
      exact (discovery.forget_asks.mono SendsOnly.of_aloof).bind fun _ => trivial

theorem establish_sparesBulk {locator : Locator} (aloof : locator.source.Aloof)
    (settings : Settings) (address : Address) (config : LineConfig) :
    (establish locator settings address config).SparesBulk :=
  (establish_sendsOnly aloof address).mono SendsOnly.not_bulk

end Sending

theorem leave_transfersNothing (settings : Settings) (handle : Handle) :
    (leave settings handle).TransfersNothing :=
  (leave_asks settings handle).mono And.right

end Connection

end CdcSerial
