import CdcSerial.Proofs.Connection.Completion
import CdcSerial.Usb.Contexts
import CdcSerial.Proofs.Usb.Protocol

/-!
# Opening a port is all or nothing

Opening goes through stages that can fail: the device is found and opened, a kernel driver is
detached, the interface is claimed, the line coding is sent and the writer is started. What each
stage has to undo differs, so the courses of requests and replies are laid down as relations, one
for each procedure and with one constructor for each way in which it can end. Every path through a
procedure is in its relation. What the courses have in common is then read off: the first failure is
the one that is reported, nothing but undoing follows it, an interface is released exactly if it was
claimed, and a handle is closed exactly if it was opened.

A call that opens the port is followed from the state in which it begins. Others take turns in
between, but none of them changes the lifecycle, the link or the session of the call, and the call
never waits for any of them.
-/

namespace CdcSerial

/-- What is asked of the bus to give up what an enumeration found. -/
def Discovery.farewell (discovery : Discovery) : List Event :=
  (discovery.context.map fun context => (⟨.forget context, ()⟩ : Event)).toList

theorem Discovery.events_of_forget {discovery : Discovery} {events : List Event}
    (path : Procedure.Path discovery.forget events (.done ())) : events = discovery.farewell := by
  unfold forget at path
  unfold farewell
  cases found : discovery.context with
  | none =>
      simp only [found] at path
      exact path.of_done.1
  | some context =>
      simp only [found] at path
      cases path with
      | call reply path =>
          rw [path.of_done.1]
          rfl

namespace Connection

open Procedure

/-! ### The courses of requests -/

/-- How a kernel driver is dealt with. One that cannot be asked for counts as none. -/
inductive Detaches (settings : Settings) (handle : Handle) :
    List Event → Except Error Unit → Prop where
  | unwanted (off : settings.detachKernelDriver = false) : Detaches settings handle [] (.ok ())
  | inactive {reply} (on : settings.detachKernelDriver = true) (inactive : reply ≠ .ok true) :
      Detaches settings handle [⟨.kernelDriverActive handle settings.interface, reply⟩] (.ok ())
  | detached (on : settings.detachKernelDriver = true) :
      Detaches settings handle [⟨.kernelDriverActive handle settings.interface, .ok true⟩,
        ⟨.detachKernelDriver handle settings.interface, .ok ()⟩] (.ok ())
  | stuck {status} (on : settings.detachKernelDriver = true) :
      Detaches settings handle [⟨.kernelDriverActive handle settings.interface, .ok true⟩,
        ⟨.detachKernelDriver handle settings.interface, .error status⟩]
        (.error (.detachFailed status))

/-- The control transfer that sends a line coding. -/
def codes (settings : Settings) (config : LineConfig) (handle : Handle) : Request :=
  .control handle ((LineCommand.coding config).transfer settings.controlTimeout)

/-- How an open device is made ready, or left with its interface released. -/
inductive Prepares (settings : Settings) (config : LineConfig) (handle : Handle) :
    List Event → Except Error Unit → Prop where
  | notDetached {events error} (driver : Detaches settings handle events (.error error)) :
      Prepares settings config handle events (.error error)
  | notClaimed {events status} (driver : Detaches settings handle events (.ok ())) :
      Prepares settings config handle
        (events ++ [⟨.claimInterface handle settings.interface, .error status⟩])
        (.error (.claimFailed status))
  | notCoded {events status released} (driver : Detaches settings handle events (.ok ())) :
      Prepares settings config handle
        (events ++ [⟨.claimInterface handle settings.interface, .ok ()⟩,
          ⟨codes settings config handle, .error status⟩,
          ⟨.releaseInterface handle settings.interface, released⟩])
        (.error (.controlFailed 0x20 status))
  | notServed {events count cause released} (driver : Detaches settings handle events (.ok ())) :
      Prepares settings config handle
        (events ++ [⟨.claimInterface handle settings.interface, .ok ()⟩,
          ⟨codes settings config handle, .ok count⟩, ⟨.startWorker, .error cause⟩,
          ⟨.releaseInterface handle settings.interface, released⟩])
        (.error (.system cause))
  | ready {events count} (driver : Detaches settings handle events (.ok ())) :
      Prepares settings config handle
        (events ++ [⟨.claimInterface handle settings.interface, .ok ()⟩,
          ⟨codes settings config handle, .ok count⟩, ⟨.startWorker, .ok ()⟩])
        (.ok ())

/-- How a device that was found is opened and made ready, or closed again. -/
inductive Attaches (settings : Settings) (config : LineConfig) (context : Option Nat)
    (candidate : Candidate) : List Event → Except Error Handle → Prop where
  | notOpened {status} :
      Attaches settings config context candidate
        [⟨.openDevice context candidate.device, .error status⟩] (.error (.openFailed status))
  | notReady {handle events error}
      (prepares : Prepares settings config handle events (.error error)) :
      Attaches settings config context candidate
        (⟨.openDevice context candidate.device, .ok handle⟩ ::
          (events ++ [⟨.closeHandle handle, ()⟩]))
        (.error error)
  | ready {handle events} (prepares : Prepares settings config handle events (.ok ())) :
      Attaches settings config context candidate
        (⟨.openDevice context candidate.device, .ok handle⟩ :: events) (.ok handle)

/-- How the device of an address is found and made ready. -/
inductive Establishes (locator : Locator) (settings : Settings) (address : Address)
    (config : LineConfig) : List Event → Except Error Handle → Prop where
  | foreign (foreign : address.vendorId ≠ locator.vendorId) :
      Establishes locator settings address config [] (.error (.unsupportedVendor address.vendorId))
  | notEnumerated {enumeration error} (own : address.vendorId = locator.vendorId)
      (enumerates : Path locator.source.enumerate enumeration (.done (.error error))) :
      Establishes locator settings address config enumeration (.error error)
  | notFound {enumeration discovery} (own : address.vendorId = locator.vendorId)
      (enumerates : Path locator.source.enumerate enumeration (.done (.ok discovery)))
      (missing : Locator.pick? address discovery.candidates = none) :
      Establishes locator settings address config (enumeration ++ discovery.farewell)
        (.error (.deviceNotFound address.text))
  | found {enumeration discovery candidate steps outcome}
      (own : address.vendorId = locator.vendorId)
      (enumerates : Path locator.source.enumerate enumeration (.done (.ok discovery)))
      (picked : Locator.pick? address discovery.candidates = some candidate)
      (attaches : Attaches settings config discovery.context candidate steps outcome) :
      Establishes locator settings address config
        (enumeration ++ (steps ++ discovery.farewell)) outcome

section Paths

variable {locator : Locator} {settings : Settings} {address : Address} {config : LineConfig}
  {handle : Handle} {events : List Event}

theorem Detaches.of_path {outcome : Except Error Unit}
    (path : Path (detachDriver settings handle) events (.done outcome)) :
    Detaches settings handle events outcome := by
  unfold detachDriver at path
  split at path
  · next on =>
      cases path with
      | call active path =>
          match active with
          | .ok true =>
              cases path with
              | say path =>
                  cases path with
                  | call reply path =>
                      cases reply with
                      | ok _ =>
                          rcases path.of_done with ⟨rfl, eq⟩
                          cases eq
                          exact .detached on
                      | error status =>
                          rcases path.of_done with ⟨rfl, eq⟩
                          cases eq
                          exact .stuck on
          | .ok false =>
              rcases path.of_done with ⟨rfl, eq⟩
              cases eq
              exact .inactive on nofun
          | .error status =>
              rcases path.of_done with ⟨rfl, eq⟩
              cases eq
              exact .inactive on nofun
  · next off =>
      rcases path.of_done with ⟨rfl, eq⟩
      cases eq
      exact .unwanted (by simpa using off)

/-- Releasing where a failure cannot be reported is one request, whatever its reply. -/
theorem events_of_releaseQuietly {continuation : Unit → Procedure (Except Error Unit)}
    {error : Error} {outcome : Except Error Unit} (ends : continuation () = .done (.error error))
    (path : Path ((releaseQuietly handle settings.interface).bind continuation) events
      (.done outcome)) :
    (∃ released, events = [⟨.releaseInterface handle settings.interface, released⟩]) ∧
      outcome = .error error := by
  rcases path.of_bind_done with ⟨before, after, _, rfl, through, behind⟩
  rw [ends] at behind
  rcases behind.of_done with ⟨rfl, eq⟩
  cases eq
  refine ⟨?_, rfl⟩
  cases through with
  | call reply through =>
      cases reply with
      | ok _ => exact ⟨_, by rw [through.of_done.1, List.append_nil]⟩
      | error status =>
          cases through with
          | say through => exact ⟨_, by rw [through.of_done.1, List.append_nil]⟩

theorem Prepares.of_path {outcome : Except Error Unit}
    (path : Path (prepare settings config handle) events (.done outcome)) :
    Prepares settings config handle events outcome := by
  rcases path.of_bind_done with ⟨before, after, driver, rfl, through, path⟩
  have detaches := Detaches.of_path through
  cases driver with
  | error error =>
      rcases path.of_done with ⟨rfl, eq⟩
      cases eq
      rw [List.append_nil]
      exact .notDetached detaches
  | ok _ =>
      cases path with
      | call claimed path =>
          cases claimed with
          | error status =>
              rcases path.of_done with ⟨rfl, eq⟩
              cases eq
              exact .notClaimed detaches
          | ok _ =>
              cases path with
              | say path =>
                  cases path with
                  | call sent path =>
                      cases sent with
                      | error status =>
                          rcases events_of_releaseQuietly rfl path with ⟨⟨released, rfl⟩, rfl⟩
                          exact .notCoded detaches
                      | ok count =>
                          cases path with
                          | call started path =>
                              cases started with
                              | ok _ =>
                                  rcases path.of_done with ⟨rfl, eq⟩
                                  cases eq
                                  exact .ready detaches
                              | error cause =>
                                  rcases events_of_releaseQuietly rfl path with
                                    ⟨⟨released, rfl⟩, rfl⟩
                                  exact .notServed detaches

theorem Attaches.of_path {context : Option Nat} {candidate : Candidate}
    {outcome : Except Error Handle}
    (path : Path (attach settings config context candidate) events (.done outcome)) :
    Attaches settings config context candidate events outcome := by
  cases path with
  | call opened path =>
      cases opened with
      | error status =>
          rcases path.of_done with ⟨rfl, eq⟩
          cases eq
          exact .notOpened
      | ok handle =>
          change Path ((prepare settings config handle).bind _) _ _ at path
          rcases path.of_bind_done with ⟨before, after, ready, rfl, through, path⟩
          have prepares := Prepares.of_path through
          cases ready with
          | ok _ =>
              rcases path.of_done with ⟨rfl, eq⟩
              cases eq
              rw [List.append_nil]
              exact .ready prepares
          | error error =>
              cases path with
              | call closed path =>
                  rcases path.of_done with ⟨rfl, eq⟩
                  cases eq
                  exact .notReady prepares

theorem Establishes.of_path {outcome : Except Error Handle}
    (path : Path (establish locator settings address config) events (.done outcome)) :
    Establishes locator settings address config events outcome := by
  rcases path.of_bind_done with ⟨finding, later, resolved, rfl, through, path⟩
  by_cases own : address.vendorId = locator.vendorId
  · rw [Locator.resolve, if_neg (not_not.mpr own)] at through
    rcases through.of_bind_done with ⟨enumeration, forgotten, discovered, rfl, enumerates, through⟩
    cases discovered with
    | error error =>
        rcases through.of_done with ⟨rfl, eq⟩
        cases eq
        rcases path.of_done with ⟨rfl, eq⟩
        cases eq
        simpa using Establishes.notEnumerated own enumerates
    | ok discovery =>
        cases picked : Locator.pick? address discovery.candidates with
        | none =>
            simp only [picked] at through
            rcases through.of_bind_done with ⟨forgets, nothing, _, rfl, forget, through⟩
            rcases through.of_done with ⟨rfl, eq⟩
            cases eq
            rcases path.of_done with ⟨rfl, eq⟩
            cases eq
            rw [Discovery.events_of_forget forget]
            simpa using Establishes.notFound own enumerates picked
        | some candidate =>
            simp only [picked] at through
            rcases through.of_done with ⟨rfl, eq⟩
            cases eq
            rcases path.of_bind_done with ⟨steps, forgets, attached, rfl, attach, path⟩
            rcases path.of_bind_done with ⟨forgets, nothing, _, rfl, forget, path⟩
            rcases path.of_done with ⟨rfl, eq⟩
            cases eq
            rw [Discovery.events_of_forget forget]
            simpa using Establishes.found own enumerates picked (.of_path attach)
  · rw [Locator.resolve, if_pos own] at through
    rcases through.of_done with ⟨rfl, eq⟩
    cases eq
    rcases path.of_done with ⟨rfl, eq⟩
    cases eq
    exact .foreign own

end Paths

/-! ### What the courses have in common -/

/-- The error that is reported if a stage of opening fails with this reply. -/
def fault? : Event → Option Error
  | ⟨.enumerate, .error status⟩ => some (.usb status)
  | ⟨.createContext, .error status⟩ => some (.usb status)
  | ⟨.listDevices _, .error status⟩ => some (.usb status)
  | ⟨.openDevice _ _, .error status⟩ => some (.openFailed status)
  | ⟨.detachKernelDriver _ _, .error status⟩ => some (.detachFailed status)
  | ⟨.claimInterface _ _, .error status⟩ => some (.claimFailed status)
  | ⟨.control _ transfer, .error status⟩ => some (.controlFailed transfer.request status)
  | ⟨.startWorker, .error cause⟩ => some (.system cause)
  | _ => none

section Faults

variable {handle : Handle} {interface : UInt8}

@[simp]
theorem fault?_enumerated (candidates : List Candidate) :
    fault? ⟨.enumerate, .ok candidates⟩ = none := rfl

@[simp]
theorem fault?_notEnumerated (status : Status) :
    fault? ⟨.enumerate, .error status⟩ = some (.usb status) := rfl

@[simp]
theorem fault?_contextCreated (context : Nat) : fault? ⟨.createContext, .ok context⟩ = none := rfl

@[simp]
theorem fault?_contextNotCreated (status : Status) :
    fault? ⟨.createContext, .error status⟩ = some (.usb status) := rfl

@[simp]
theorem fault?_listed (context : Nat) (devices : List Attached) :
    fault? ⟨.listDevices context, .ok devices⟩ = none := rfl

@[simp]
theorem fault?_notListed (context : Nat) (status : Status) :
    fault? ⟨.listDevices context, .error status⟩ = some (.usb status) := rfl

@[simp]
theorem fault?_described (device : Nat) (reply : Except Status Descriptor) :
    fault? ⟨.readDescriptor device, reply⟩ = none := rfl

@[simp]
theorem fault?_forgotten (context : Nat) (reply : Unit) :
    fault? ⟨.forget context, reply⟩ = none := rfl

@[simp]
theorem fault?_locked (reply : Unit) : fault? ⟨.lockDiscovery, reply⟩ = none := rfl

@[simp]
theorem fault?_unlocked (reply : Unit) : fault? ⟨.unlockDiscovery, reply⟩ = none := rfl

@[simp]
theorem fault?_opened (context : Option Nat) (device : Nat) :
    fault? ⟨.openDevice context device, .ok handle⟩ = none := rfl

@[simp]
theorem fault?_driverActive (reply : Except Status Bool) :
    fault? ⟨.kernelDriverActive handle interface, reply⟩ = none := rfl

@[simp]
theorem fault?_detached : fault? ⟨.detachKernelDriver handle interface, .ok ()⟩ = none := rfl

@[simp]
theorem fault?_claimed : fault? ⟨.claimInterface handle interface, .ok ()⟩ = none := rfl

@[simp]
theorem fault?_controlled (transfer : ControlTransfer) (count : Nat) :
    fault? ⟨.control handle transfer, .ok count⟩ = none := rfl

@[simp]
theorem fault?_served : fault? ⟨.startWorker, .ok ()⟩ = none := rfl

end Faults

/-- The release that is due for an interface that was claimed. -/
def release? : Event → Option Request
  | ⟨.claimInterface handle interface, .ok _⟩ => some (.releaseInterface handle interface)
  | _ => none

/-- What is due after some steps of opening if no more are made. -/
def due (steps : List Event) : List Request :=
  steps.filterMap release? ++ (openings steps).map .closeHandle

/-- Whether a request undoes something. -/
def undoes : Request → Bool
  | .releaseInterface _ _ => true
  | .closeHandle _ => true
  | _ => false

/--
The steps from opening a device on go with their outcome. If none fails, they are made and nothing
is undone. If one fails, its error is the outcome, and what follows is exactly what is due.
-/
inductive AllOrNothing (steps : List Event) : Except Error Handle → Prop where
  | all {handle} (granted : ∀ event ∈ steps, fault? event = none)
      (keeps : ∀ event ∈ steps, undoes event.1 = false) (opens : openings steps = [handle]) :
      AllOrNothing steps (.ok handle)
  | nothing {early failure late error} (eq : steps = early ++ failure :: late)
      (granted : ∀ event ∈ early, fault? event = none) (fails : fault? failure = some error)
      (keeps : ∀ event ∈ early, undoes event.1 = false)
      (once : (early.filterMap release?).length ≤ 1) (undone : late.map (·.1) = due early) :
      AllOrNothing steps (.error error)

section Common

variable {settings : Settings} {config : LineConfig} {context : Option Nat} {candidate : Candidate}
  {handle : Handle} {steps : List Event} {outcome : Except Error Handle}

/--
A driver that does not stand in the way is no failure, and takes nothing that is to be given back.
-/
theorem Detaches.of_ok (driver : Detaches settings handle steps (.ok ())) :
    (∀ event ∈ steps, fault? event = none ∧ undoes event.1 = false) ∧
      steps.filterMap release? = [] ∧ openings steps = [] := by
  cases driver <;> simp [undoes, release?, openings, opened?]

/-- A failure to make a device ready leaves only its handle to be closed. -/
theorem Prepares.of_error {error : Error}
    (prepares : Prepares settings config handle steps (.error error)) :
    ∃ early failure late, steps = early ++ failure :: late ∧
      (∀ event ∈ early, fault? event = none ∧ undoes event.1 = false) ∧
        fault? failure = some error ∧
      (early.filterMap release?).length ≤ 1 ∧ openings early = [] ∧
      late.map (·.1) = early.filterMap release? := by
  cases prepares with
  | notDetached driver =>
      cases driver with
      | stuck on =>
          refine ⟨[_], _, [], rfl, ?_, rfl, Nat.zero_le 1, rfl, rfl⟩
          simp [undoes]
  | @notClaimed events status driver =>
      rcases driver.of_ok with ⟨granted, unreleased, bare⟩
      exact ⟨events, _, [], rfl, granted, rfl, by simp [unreleased], bare, unreleased.symm⟩
  | @notCoded events status released driver =>
      rcases driver.of_ok with ⟨granted, unreleased, bare⟩
      refine ⟨events ++ [⟨.claimInterface handle settings.interface, .ok ()⟩],
        ⟨codes settings config handle, .error status⟩,
        [⟨.releaseInterface handle settings.interface, released⟩], by simp, ?_, rfl, ?_, ?_, ?_⟩
      · simpa [or_imp, forall_and, undoes] using forall₂_and.mp granted
      · simp [unreleased, release?]
      · simpa [openings, opened?] using bare
      · simp [unreleased, release?]
  | @notServed events count cause released driver =>
      rcases driver.of_ok with ⟨granted, unreleased, bare⟩
      refine ⟨events ++ [⟨.claimInterface handle settings.interface, .ok ()⟩,
        ⟨codes settings config handle, .ok count⟩], ⟨.startWorker, .error cause⟩,
        [⟨.releaseInterface handle settings.interface, released⟩], by simp, ?_, rfl, ?_, ?_, ?_⟩
      · simpa [or_imp, forall_and, undoes, codes] using forall₂_and.mp granted
      · simp [unreleased, release?, codes]
      · simpa [openings, opened?, codes] using bare
      · simp [unreleased, release?, codes]

theorem Prepares.of_ok (prepares : Prepares settings config handle steps (.ok ())) :
    (∀ event ∈ steps, fault? event = none ∧ undoes event.1 = false) ∧ openings steps = [] := by
  cases prepares with
  | ready driver =>
      rcases driver.of_ok with ⟨granted, unreleased, bare⟩
      constructor
      · simpa [or_imp, forall_and, undoes, codes] using forall₂_and.mp granted
      · simpa [openings, opened?, codes] using bare

theorem Attaches.allOrNothing
    (attaches : Attaches settings config context candidate steps outcome) :
    AllOrNothing steps outcome := by
  cases attaches with
  | notOpened =>
      exact @AllOrNothing.nothing _ [] _ [] _ rfl (by simp) rfl (by simp) (Nat.zero_le 1) rfl
  | @notReady handle events error prepares =>
      rcases prepares.of_error with ⟨early, failure, late, rfl, granted, fails, once, bare, undone⟩
      refine @AllOrNothing.nothing _ (⟨.openDevice context candidate.device, .ok handle⟩ :: early)
        failure (late ++ [⟨.closeHandle handle, ()⟩]) error (by simp) ?_ fails ?_ ?_ ?_
      · simpa using fun event member => (granted event member).1
      · simpa [undoes] using fun event member => (granted event member).2
      · simpa [List.filterMap_cons, release?] using once
      · simpa [due, openings, List.filterMap_cons, opened?, release?, undone] using bare
  | ready prepares =>
      rcases prepares.of_ok with ⟨granted, bare⟩
      refine .all ?_ ?_ ?_
      · simpa using fun event member => (granted event member).1
      · simpa [undoes] using fun event member => (granted event member).2
      · simpa [openings, opened?] using bare

end Common

/-- An enumeration fails exactly if one of its replies is a failure, with the error of the first. -/
def ReportsFaults (source : Source) : Prop :=
  ∀ {events outcome}, Path source.enumerate events (.done outcome) →
    ∀ error, outcome = .error error ↔ events.findSome? fault? = some error

theorem direct_reports : ReportsFaults .direct := by
  intro events outcome path error
  cases path with
  | call reply path =>
      cases reply with
      | ok candidates =>
          rcases path.of_done with ⟨rfl, eq⟩
          cases eq
          simp [List.findSome?_cons]
      | error status =>
          rcases path.of_done with ⟨rfl, eq⟩
          cases eq
          simp [List.findSome?_cons]

/-- A descriptor that cannot be read is passed over. -/
theorem findSome?_of_describe {devices : List Attached} {events : List Event}
    {candidates : List Candidate}
    (path : Path (Source.describe devices) events (.done candidates)) :
    events.findSome? fault? = none := by
  induction devices generalizing events candidates with
  | nil =>
      rw [path.of_done.1]
      rfl
  | cons attached rest ih =>
      cases path with
      | call reply path =>
          cases reply with
          | ok descriptor =>
              change Path ((Source.describe rest).bind _) _ _ at path
              rcases path.of_bind_done with ⟨before, after, others, rfl, through, path⟩
              rw [path.of_done.1, List.append_nil]
              simpa [List.findSome?_cons] using ih through
          | error status =>
              cases path with
              | say path => simpa [List.findSome?_cons] using ih path

theorem findSome?_of_discover {events : List Event} {outcome : Except Error Discovery}
    (path : Path Source.discover events (.done outcome)) (error : Error) :
    outcome = .error error ↔ events.findSome? fault? = some error := by
  cases path with
  | call created path =>
      cases created with
      | error status =>
          rcases path.of_done with ⟨rfl, eq⟩
          cases eq
          simp [List.findSome?_cons]
      | ok context =>
          cases path with
          | call listed path =>
              cases listed with
              | error status =>
                  cases path with
                  | call forgotten path =>
                      rcases path.of_done with ⟨rfl, eq⟩
                      cases eq
                      simp [List.findSome?_cons]
              | ok devices =>
                  change Path ((Source.describe devices).bind _) _ _ at path
                  rcases path.of_bind_done with ⟨before, after, candidates, rfl, through, path⟩
                  have passed := findSome?_of_describe through
                  cases path with
                  | say path =>
                      simp only [Bind.bind, Procedure.bind] at path
                      split at path
                      · cases path with
                        | call forgotten path =>
                            rcases path.of_done with ⟨rfl, eq⟩
                            cases eq
                            simp [List.findSome?_cons, List.findSome?_append, passed]
                      · rcases path.of_done with ⟨rfl, eq⟩
                        cases eq
                        simp [List.findSome?_cons, passed]

theorem contexts_reports : ReportsFaults .contexts := by
  intro events outcome path error
  cases path with
  | call locked path =>
      change Path (Source.discover.bind _) _ _ at path
      rcases path.of_bind_done with ⟨before, after, discovered, rfl, through, path⟩
      cases path with
      | call unlocked path =>
          rcases path.of_done with ⟨rfl, eq⟩
          cases eq
          simpa [List.findSome?_cons,
            List.findSome?_append] using findSome?_of_discover through error

end Connection

/-! ### A call that opens the port -/

theorem Call.AsksFor.unique {call : Call} {address other : Address} {config plan : LineConfig}
    (asked : call.AsksFor address config) (again : call.AsksFor other plan) :
    address = other ∧ config = plan := by
  cases asked with
  | port =>
      cases again
      exact ⟨rfl, rfl⟩
  | text valid parsed =>
      cases again with
      | text _ same =>
          rw [parsed] at same
          exact ⟨Except.ok.inj same, rfl⟩

theorem Standing.opener {locator : Locator} {settings : Settings} {handles : List Handle}
    {call : Call} {events : List Event} {task : Task} {address : Address} {config : LineConfig}
    (standing : Standing locator settings handles call events task)
    (asked : call.AsksFor address config) (unfinished : task.isOver = false) :
    task.part = .opener := by
  have inside := standing.part_ne_bystander_iff.mpr ⟨.opens asked, unfinished⟩
  cases standing with
  | opens | clears | installs | retreats => rfl
  | closes | releases | settles => cases asked
  | _ => exact absurd rfl inside

namespace Connection

open Procedure

theorem Move.stands_of_other {before after : Connection} {action : Action}
    {exchange? : Option Exchange} {call : Nat} {task : Task}
    (move : Move before action exchange? after) (stands : before.tasks[call]? = some task)
    (other : action.thread? ≠ some (.call call)) :
    after.tasks[call]? = some task := by
  have aside {changed : Connection} {mover : Nat} (next : Task)
      (tasks : changed.tasks = before.tasks) (ne : some (Thread.call mover) ≠ some (.call call)) :
      (changed.setTask mover next).tasks[call]? = some task := by
    rw [setTask, List.getElem?_set_ne (by simpa using ne), tasks, stands]
  cases move.concern with
  | enters entry =>
      rcases List.getElem?_eq_some_iff.mp stands with ⟨inside, -⟩
      rw [← entry.arrival.2.2] at inside stands
      rw [addTask, List.getElem?_append_left inside, stands]
  | startsRead start => exact start.frame.2.2.1 ▸ stands
  | turns stood turn => exact aside _ turn.tasks_eq other
  | answered stood answer =>
      rcases answer.frame with ⟨-, sessions, rfl⟩
      exact aside _ rfl other
  | expires => exact aside _ rfl other
  | nobody state link tasks => exact tasks ▸ stands

/-- What a turn of a caller that opens the port does to its point and to the backlog. -/
inductive Opens : Task → List UInt8 → Task → List UInt8 → Prop where
  | tells {address config message next begun backlog} :
      Opens (.opening address config ⟨.say message next, begun⟩) backlog
        (.opening address config ⟨next, false⟩) backlog
  | begins {address config request next backlog} :
      Opens (.opening address config ⟨.call request next, false⟩) backlog
        (.opening address config ⟨.call request next, true⟩) backlog
  | answered {address config request next backlog} (reply : request.Reply) :
      Opens (.opening address config ⟨.call request next, true⟩) backlog
        (.opening address config ⟨next reply, false⟩) backlog
  | reached {address config handle begun backlog session} :
      Opens (.opening address config ⟨.done (.ok handle), begun⟩) backlog
        (.clearing address config session) backlog
  | notReached {address config error begun backlog} :
      Opens (.opening address config ⟨.done (.error error), begun⟩) backlog
        (.retreating address error) backlog
  | clears {address config session backlog} :
      Opens (.clearing address config session) backlog (.installing address config session) []
  | installs {address config session backlog} :
      Opens (.installing address config session) backlog (Task.succeeded .done) backlog
  | retreats {address error backlog} :
      Opens (.retreating address error) backlog (Task.failed error) backlog

theorem Turn.of_opener {before after : Connection} {call : Nat} {task next : Task}
    (turn : Turn before call task after next) (part : task.part = .opener) :
    Opens task before.backlog next after.backlog := by
  cases turn with
  | opens progress =>
      cases progress with
      | tells => exact .tells
      | begins free =>
          cases free
          exact .begins
  | reached => exact .reached
  | notReached => exact .notReached
  | clears => exact .clears
  | installs => exact .installs
  | retreats => exact .retreats
  | _ => cases part

theorem Move.of_opener {before after : Connection} {action : Action} {exchange? : Option Exchange}
    {call : Nat} {task : Task} (move : Move before action exchange? after)
    (stands : before.tasks[call]? = some task) (own : action.thread? = some (.call call))
    (part : task.part = .opener) :
    ∃ next, after.tasks[call]? = some next ∧ Opens task before.backlog next after.backlog := by
  cases move with
  | turns stood turn =>
      simp only [Action.thread?, Option.some.injEq, Thread.call.injEq] at own
      subst own
      cases stands.symm.trans stood
      exact ⟨_, setTask_getElem?_self (turn.tasks_eq ▸ stands) _, turn.of_opener part⟩
  | answered stood answer =>
      simp only [Action.thread?, Option.some.injEq, Thread.call.injEq] at own
      subst own
      cases stands.symm.trans stood
      cases answer with
      | opening => exact ⟨_, setTask_getElem?_self stands _, .answered _⟩
      | _ => cases part
  | expires stood =>
      simp only [Action.thread?, Option.some.injEq, Thread.call.injEq] at own
      subst own
      cases stands.symm.trans stood
      cases part
  | _ => simp [Action.thread?] at own

theorem Move.not_over_of_own {before after : Connection} {action : Action}
    {exchange? : Option Exchange} {call : Nat} {task : Task}
    (move : Move before action exchange? after) (stands : before.tasks[call]? = some task)
    (own : action.thread? = some (.call call)) :
    task.isOver = false := by
  cases move with
  | turns stood turn =>
      cases own
      cases stands.symm.trans stood
      exact turn.not_over
  | answered stood answer =>
      cases own
      cases stands.symm.trans stood
      exact answer.not_over
  | expires stood =>
      cases own
      cases stands.symm.trans stood
      rfl
  | _ => cases own

section Fair

variable {start : Connection} {run : Nat → Connection} {course : Nat → Option Action} {call : Nat}

/-- A caller that opens the port can always take a turn. -/
theorem ready_of_opener {connection : Connection} {task : Task}
    (stands : connection.tasks[call]? = some task) (part : task.part = .opener) :
    connection.Ready (.call call) := by
  cases task with
  | opening address config running =>
      rcases running with ⟨procedure, begun⟩
      cases procedure with
      | done result =>
          apply ready_of_advance?
          simp [advance?, advanceCall?, advanceRun, stands]
      | say message next =>
          apply ready_of_advance?
          simp [advance?, advanceCall?, advanceRun, stands]
      | call request next =>
          cases begun with
          | false =>
              apply ready_of_advance?
              simp [advance?, advanceCall?, advanceRun, stands]
          | true =>
              apply ready_of_pending?
              simp [pending?, callPending?, runPending?, stands]
  | clearing | installing | retreating =>
      apply ready_of_advance?
      simp [advance?, advanceCall?, stands]
  | _ => cases part

/-- In a fair run a caller that opens the port takes a turn from where it stands. -/
theorem FairRun.opener_moves (fair : FairRun start run course) {task : Task} {time : Nat}
    (stands : (run time).tasks[call]? = some task) (part : task.part = .opener) :
    ∃ later next backlog rest, (run later).tasks[call]? = some next ∧
      Opens task backlog next rest := by
  obtain ⟨later, action, acts, own, waits⟩ := @takes_turn start run course fair (.call call)
    (fun connection => connection.tasks[call]? = some task) (fun _ => nofun)
    (fun stands => ready_of_opener stands part)
    (fun stands other stepped => (Move.of_step? stepped).stands_of_other stands other) time stands
  obtain ⟨next, stands, opens⟩ := (Move.of_step? (fair.steps acts)).of_opener waits own part
  exact ⟨later + 1, next, _, _, stands, opens⟩

/-- Once the device is reached, or is known not to be, there is no more than two turns to go. -/
theorem FairRun.reached_ends (fair : FairRun start run course) {task : Task} {time : Nat}
    (stands : (run time).tasks[call]? = some task)
    (reached : (∃ address config session, task = .clearing address config session) ∨
      (∃ address config session, task = .installing address config session) ∨
      ∃ address error, task = .retreating address error) :
    ∃ later ending, (run later).tasks[call]? = some (.finished ending) := by
  have installs {address : Address} {config : LineConfig} {session time : Nat}
      (stands : (run time).tasks[call]? = some (.installing address config session)) :
      ∃ later ending, (run later).tasks[call]? = some (.finished ending) := by
    rcases fair.opener_moves stands rfl with ⟨later, next, backlog, rest, moved, opens⟩
    cases opens
    exact ⟨later, _, moved⟩
  rcases reached with ⟨address, config, session, rfl⟩ | ⟨address, config, session, rfl⟩ |
    ⟨address, error, rfl⟩
  · rcases fair.opener_moves stands rfl with ⟨later, next, backlog, rest, moved, opens⟩
    cases opens
    exact installs moved
  · exact installs stands
  · rcases fair.opener_moves stands rfl with ⟨later, next, backlog, rest, moved, opens⟩
    cases opens
    exact ⟨later, _, moved⟩

/--
A call that opens the port ends in every fair run. How many requests it makes depends on the
replies, so the induction is on the procedure.
-/
theorem FairRun.opening_ends (fair : FairRun start run course) {address : Address}
    {config : LineConfig} {procedure : Procedure (Except Error Handle)} {begun : Bool} {time : Nat}
    (stands : (run time).tasks[call]? = some (.opening address config ⟨procedure, begun⟩)) :
    ∃ later ending, (run later).tasks[call]? = some (.finished ending) := by
  induction procedure generalizing begun time with
  | done result =>
      rcases fair.opener_moves stands rfl with ⟨later, next, backlog, rest, moved, opens⟩
      cases opens with
      | reached => exact fair.reached_ends moved (.inl ⟨_, _, _, rfl⟩)
      | notReached => exact fair.reached_ends moved (.inr (.inr ⟨_, _, rfl⟩))
  | say message next ih =>
      rcases fair.opener_moves stands rfl with ⟨later, next, backlog, rest, moved, opens⟩
      cases opens
      exact ih moved
  | call request next ih =>
      -- A request takes two turns: it is begun, and it is answered.
      have answers {time : Nat} (stands : (run time).tasks[call]? =
          some (.opening address config ⟨.call request next, true⟩)) :
          ∃ later ending, (run later).tasks[call]? = some (.finished ending) := by
        rcases fair.opener_moves stands rfl with ⟨later, next, backlog, rest, moved, opens⟩
        cases opens with
        | answered reply => exact ih reply moved
      cases begun with
      | true => exact answers stands
      | false =>
          rcases fair.opener_moves stands rfl with ⟨later, next, backlog, rest, moved, opens⟩
          cases opens
          exact answers moved

end Fair

section Course

variable {locator : Locator} {settings : Settings} {actions : List Action}
  {connection begun : Connection} {call : Call} {started : Except SystemError Unit}
  {address : Address} {config : LineConfig}

theorem begins_opening (closed : connection.state = .closed) (asked : call.AsksFor address config)
    (begins : connection.step? (.invoke call started) = some begun) :
    begun.backlog = connection.backlog ∧ begun.tasks[connection.tasks.length]? =
      some (.opening address config
        ⟨establish connection.locator connection.settings address config, false⟩) := by
  cases Move.of_step? begins with
  | enters permitted entry =>
      cases entry with
      | opens again =>
          rcases asked.unique again with ⟨rfl, rfl⟩
          exact ⟨rfl, List.getElem?_concat_length⟩
      | refuses reason =>
          cases reason with
          | alreadyOpen _ busy => exact absurd closed busy
          | badOptions invalid =>
              cases asked with
              | text valid => simp [valid] at invalid
          | badPath _ unreadable =>
              cases asked with
              | text _ parsed => simp [parsed] at unreadable
          | notConfigurable configures =>
              exact (Call.Switches.opens asked).not_configures configures |>.elim
          | _ => cases asked
      | configures configures => exact (Call.Switches.opens asked).not_configures configures |>.elim
      | _ => cases asked

/-- What the backlog is while a caller opens the port and nobody else does anything. -/
def keptBacklog (backlog : List UInt8) : Task → List UInt8
  | .installing _ _ _ => []
  | .finished (.returned (.ok _)) => []
  | _ => backlog

theorem Opens.keptBacklog {task next : Task} {backlog rest kept : List UInt8}
    (opens : Opens task backlog next rest) (same : backlog = keptBacklog kept task) :
    rest = Connection.keptBacklog kept next ∧ (next.part = .opener ∨ next.isOver = true) := by
  cases opens with
  | installs | retreats => exact ⟨same, .inr rfl⟩
  | clears => exact ⟨rfl, .inl rfl⟩
  | _ => exact ⟨same, .inl rfl⟩

/-- A caller that opens the port on its own leaves the backlog alone or empties it. -/
theorem backlog_of_own {final : Connection} {more : List Action} {task : Task} {number : Nat}
    (stands : begun.tasks[number]? = some task) (part : task.part = .opener)
    (same : begun.backlog = keptBacklog connection.backlog task)
    (ran : begun.run? more = some final)
    (own : ∀ action ∈ more, action.thread? = some (.call number)) :
    ∃ next, final.tasks[number]? = some next ∧ (next.part = .opener ∨ next.isOver = true) ∧
      final.backlog = keptBacklog connection.backlog next := by
  refine run_induction (motive := fun more final =>
    (∀ action ∈ more, action.thread? = some (.call number)) → ∃ next,
      final.tasks[number]? = some next ∧ (next.part = .opener ∨ next.isOver = true) ∧
        final.backlog = keptBacklog connection.backlog next) ?_ ?_ ran own
  · intro _
    exact ⟨task, stands, .inl part, same⟩
  · intro more middle action final _ ih stepped own
    have mine := own action (by simp)
    rcases ih fun other member => own other (List.mem_append_left _ member) with
      ⟨next, stands, part | done, same⟩
    · rcases (Move.of_step? stepped).of_opener stands mine part with ⟨later, stands, opens⟩
      rcases opens.keptBacklog same with ⟨same, part⟩
      exact ⟨later, stands, part, same⟩
    · rw [(Move.of_step? stepped).not_over_of_own stands mine] at done
      cases done

/-- A call that opens the port ends from one of two points. -/
theorem Move.opener_ends {before after : Connection} {action : Action}
    {exchange? : Option Exchange} {number : Nat} {task : Task} {ending : Ending}
    (move : Move before action exchange? after) (stands : before.tasks[number]? = some task)
    (part : task.part = .opener) (ended : after.tasks[number]? = some (.finished ending)) :
    exchange? = none ∧
      ((∃ address config session, task = .installing address config session ∧
        ending = .returned (.ok .done) ∧ after.state = .opened ∧
        after.link = some ⟨session, none, address, config⟩ ∧ after.handles = before.handles) ∨
      ∃ address error, task = .retreating address error ∧ ending = .returned (.error error) ∧
        after.state = .closed ∧ after.link = before.link) := by
  cases move.fate stands with
  | stays stays =>
      cases stays.symm.trans ended
      cases part
  | @turns changed next turn =>
      have eq := ended.symm.trans (setTask_getElem?_self (turn.tasks_eq ▸ stands) next)
      cases turn with
      | installs =>
          cases eq
          exact ⟨rfl, .inl ⟨_, _, _, rfl, rfl, rfl, rfl, rfl⟩⟩
      | retreats =>
          cases eq
          exact ⟨rfl, .inr ⟨_, _, rfl, rfl, rfl, rfl⟩⟩
      | opens | reached | notReached | clears => cases eq
      | _ => cases part
  | @answered request reply changed next answer =>
      have tasks : changed.tasks = before.tasks := by
        rcases answer.frame with ⟨-, sessions, rfl⟩
        rfl
      have eq := ended.symm.trans (setTask_getElem?_self (tasks ▸ stands) next)
      cases answer with
      | opening => cases eq
      | _ => cases part
  | expires stopping =>
      rw [part] at stopping
      cases stopping

/-- What a call has asked is what its procedure asks, from the state on in which it begins. -/
theorem eventsOf_begun (more : List Action)
    (ran : (fresh locator settings).run? actions = some connection)
    (begins : connection.step? (.invoke call started) = some begun) :
    eventsOf (.call connection.tasks.length)
        ((fresh locator settings).exchanges (actions ++ [.invoke call started] ++ more)) =
      eventsOf (.call connection.tasks.length) (begun.exchanges more) := by
  have ranBegun := run?_concat_eq_some.mpr ⟨connection, ran, begins⟩
  have silent := (sound_of_run ran).placed.silent (Nat.le_refl connection.tasks.length)
  rw [exchanges, along_append ranBegun, eventsOf_append, ← exchanges, exchanges_concat ran begins,
    eventsOf_append, silent]
  rfl

/--
A call that opens a closed port ends in every fair run, whatever the bus answers and whatever else
goes on. It ends with the device open and ready, or with the error of the first stage that failed
and the port closed as before. What it has asked of the bus by then is one of the courses of
`Establishes`. In each course nothing is asked after a failure but to release the interface, exactly
if it was claimed, and to close the handle, exactly if it was opened. Unless others put bytes back
meanwhile, the backlog is then empty or what it was.
-/
theorem opens_all_or_nothing (ran : (fresh locator settings).run? actions = some connection)
    (closed : connection.state = .closed) (asked : call.AsksFor address config)
    (begins : connection.step? (.invoke call started) = some begun) :
    (∀ {run course}, FairRun begun run course →
      ∃ time ending, (run time).tasks[connection.tasks.length]? = some (.finished ending)) ∧
    (∀ {more before action final ending}, begun.run? more = some before →
      before.step? action = some final →
      (∀ earlier, before.tasks[connection.tasks.length]? ≠ some (.finished earlier)) →
      final.tasks[connection.tasks.length]? = some (.finished ending) →
      ∃ outcome, Establishes locator settings address config
          (eventsOf (.call connection.tasks.length) (begun.exchanges (more ++ [action]))) outcome ∧
        ending = .returned (outcome.map fun _ => .done) ∧
        (match outcome with
          | .ok handle => final.state = .opened ∧ ∃ session,
              final.link = some ⟨session, none, address, config⟩ ∧
              final.handles[session]? = some handle
          | .error _ => final.state = .closed ∧ final.link = none) ∧
        ((∀ turn ∈ more ++ [action], turn.thread? = some (.call connection.tasks.length)) →
          final.backlog = match outcome with
            | .ok _ => []
            | .error _ => connection.backlog)) ∧
    (∀ {context candidate steps outcome},
      Attaches settings config context candidate steps outcome → AllOrNothing steps outcome) ∧
    (locator.source = .direct ∨ locator.source = .contexts → ReportsFaults locator.source) := by
  rcases begins_opening closed asked begins with ⟨sameBacklog, opening⟩
  refine ⟨?_, ?_, Attaches.allOrNothing, ?_⟩
  · intro run course fair
    rw [← fair.begins] at opening
    exact fair.opening_ends opening
  · intro more before action final ending ranMore stepped unfinished ended
    have ranBegun := run?_concat_eq_some.mpr ⟨connection, ran, begins⟩
    have ranBefore : (fresh locator settings).run? (actions ++ [.invoke call started] ++ more) =
        some before := by
      rw [run?_append, ranBegun]
      exact ranMore
    have sound := sound_of_run ranBefore
    have made : (calls (actions ++ [.invoke call started] ++ more))[connection.tasks.length]? =
        some call := by
      simp [calls, ← (sound_of_run ran).placed.count, Action.call?]
    obtain ⟨task, stands⟩ : ∃ task, before.tasks[connection.tasks.length]? = some task := by
      rcases List.getElem?_eq_some_iff.mp made with ⟨inside, -⟩
      exact ⟨_, List.getElem?_eq_getElem (sound.placed.count ▸ inside)⟩
    have standing := sound.placed.stands made stands
    have part : task.part = .opener := by
      apply standing.opener asked
      cases task with
      | finished earlier => exact absurd stands (unfinished earlier)
      | _ => rfl
    rw [eventsOf_begun more ran begins] at standing
    rcases (Move.of_step? stepped).opener_ends stands part ended with ⟨quiet, ends⟩
    have backlog (own : ∀ turn ∈ more ++ [action],
        turn.thread? = some (.call connection.tasks.length)) :
        final.backlog = keptBacklog connection.backlog (.finished ending) := by
      rcases backlog_of_own opening rfl sameBacklog
        (run?_concat_eq_some.mpr ⟨before, ranMore, stepped⟩) own with ⟨last, stood, -, same⟩
      cases ended.symm.trans stood
      exact same
    rw [exchanges_concat ranMore stepped, quiet, Option.toList_none, List.append_nil]
    generalize eventsOf (.call connection.tasks.length) (begun.exchanges more) =
      events at standing ⊢
    rcases ends with ⟨_, _, session, rfl, rfl, opened, link, handles⟩ |
      ⟨_, error, rfl, rfl, shut, link⟩
    · cases standing with
      | @installs _ _ _ _ handle _ again path held =>
          rcases asked.unique again with ⟨rfl, rfl⟩
          exact ⟨.ok handle, .of_path path, rfl, ⟨opened, session, link, handles ▸ held⟩, backlog⟩
      | closes closing => cases closing
    · cases standing with
      | retreats again path =>
          rcases asked.unique again with ⟨rfl, rfl⟩
          have bare := (sound.orderly.of_opener (List.mem_of_getElem? stands) part).2
          exact ⟨.error error, .of_path path, rfl, ⟨shut, link.trans bare⟩, backlog⟩
      | closes closing => cases closing
  · rintro (direct | contexts)
    · exact direct ▸ direct_reports
    · exact contexts ▸ contexts_reports

end Course

/-- A bus that refuses the line coding, and then will not release the interface either. -/
def declining : Replies
  | .control _ _ => .error .pipe
  | request => Sample.bus [] (.error .busy) request

/-- A port was closed with a byte left over, and a caller begins to open it again. -/
def opensAgain : List Action :=
  loaded ++ [.invoke .close (.ok ())] ++ unloads ++
    [.invoke (.openPort ⟨Profile.vendorId, 7, 0⟩ {}) (.ok ())]

/-- The caller fails to open the port, up to its last turn. -/
def declines : List Action :=
  List.flatten [asks 2 declining 3, [.advance (.call 2)], asks 2 declining 2, [.advance (.call 2)],
    asks 2 declining 1, [.advance (.call 2)]]

theorem declines_undone :
    (Sample.after (loaded ++ [.invoke .close (.ok ())] ++ unloads)).backlog = [5] ∧
      (∃ run course time ending, FairRun (Sample.after opensAgain) run course ∧
        (run time).tasks[2]? = some (.finished ending)) ∧
      ∃ final, (Sample.after opensAgain).run? (declines ++ [.advance (.call 2)]) = some final ∧
        final.tasks[2]? = some (.finished (.returned (.error (.controlFailed 0x20 .pipe)))) ∧
        Establishes Sample.connection.locator Sample.connection.settings
          ⟨Profile.vendorId, 7, 0⟩ {}
          (eventsOf (.call 2)
            ((Sample.after opensAgain).exchanges (declines ++ [.advance (.call 2)])))
          (.error (.controlFailed 0x20 .pipe)) ∧
        final.state = .closed ∧ final.link = none ∧ final.backlog = [5] := by
  have ran : Sample.connection.run? (loaded ++ [.invoke .close (.ok ())] ++ unloads) =
    some (Sample.after (loaded ++ [.invoke .close (.ok ())] ++ unloads)) := rfl
  have begins : (Sample.after (loaded ++ [.invoke .close (.ok ())] ++ unloads)).step?
      (.invoke (.openPort ⟨Profile.vendorId, 7, 0⟩ {}) (.ok ())) = some (Sample.after opensAgain) :=
      rfl
  have ranBefore : (Sample.after opensAgain).run? declines =
    some (Sample.after (opensAgain ++ declines)) := rfl
  have stepped : (Sample.after (opensAgain ++ declines)).step? (.advance (.call 2)) =
    some (Sample.after (opensAgain ++ declines ++ [.advance (.call 2)])) := rfl
  have ranOn := run?_concat_eq_some.mpr ⟨_, ranBefore, stepped⟩
  have retreats : (Sample.after (opensAgain ++ declines)).tasks[2]? = some (.retreating
    ⟨Profile.vendorId, 7, 0⟩ (.controlFailed 0x20 .pipe)) := rfl
  have ended : (Sample.after (opensAgain ++ declines ++ [.advance (.call 2)])).tasks[2]? =
    some (.finished (.returned (.error (.controlFailed 0x20 .pipe)))) := rfl
  have fair : FairRun _ _ _ := FairRun.of_course ranOn (by decide)
    fun thread => not_ready_of_over (by decide) (by decide)
  rcases opens_all_or_nothing ran rfl .port begins with ⟨ends, outcomes, -, -⟩
  rcases ends fair with ⟨time, ending, last⟩
  rcases outcomes ranBefore stepped (fun _ done => by cases retreats.symm.trans done) ended with
    ⟨outcome, establishes, eq, left, backlog⟩
  refine ⟨rfl, ⟨_, _, time, ending, fair, last⟩, _, ranOn, ended, ?_⟩
  cases outcome with
  | ok handle => cases eq
  | error error =>
      cases eq
      exact ⟨establishes, left.1, left.2, backlog (by decide)⟩

end Connection

end CdcSerial
