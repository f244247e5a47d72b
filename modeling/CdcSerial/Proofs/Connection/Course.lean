import CdcSerial.Connection.Step
import CdcSerial.Proofs.Usb.Path
import Mathlib.Data.List.Induction

/-!
# Courses of actions

`Connection.run?` says where a course of actions leads. This file adds what can be seen of a
course from outside: the calls that were made, in the order of their numbers, and the exchanges
with the bus, in the order in which they were completed. What holds after every course is proved
with `run_induction`, which looks at the last action.
-/

namespace CdcSerial

/-- A request that a thread made, and the reply that the bus gave to it. -/
abbrev Exchange : Type := Thread × Event

namespace Connection

/-- The call that an action makes. -/
def Action.call? : Action → Option Call
  | .invoke call _ => some call
  | _ => none

/-- The calls of a course of actions. The place of a call is its number. -/
def calls (actions : List Action) : List Call := actions.filterMap Action.call?

/-- What is seen along a course of actions, where `see` says what is seen of one step. -/
def along {Sight : Type} (see : Connection → Action → Connection → List Sight)
    (connection : Connection) : List Action → List Sight
  | [] => []
  | action :: rest =>
    match connection.step? action with
    | some next => see connection action next ++ next.along see rest
    | none => []

/-- The exchanges of a course of actions with the bus. -/
def exchanges (connection : Connection) (actions : List Action) : List Exchange :=
  connection.along (fun before action _ => (before.exchange? action).toList) actions

theorem run?_append (connection : Connection) (first second : List Action) :
    connection.run? (first ++ second) = (connection.run? first).bind (·.run? second) := by
  induction first generalizing connection with
  | nil => simp [run?]
  | cons action rest ih =>
      simp only [List.cons_append, run?]
      cases connection.step? action with
      | none => rfl
      | some next => exact ih next

/-- A course that ends with an action is a course up to it and the step of the action. -/
theorem run?_concat_eq_some {start final : Connection} {actions : List Action} {action : Action} :
    start.run? (actions ++ [action]) = some final ↔
      ∃ middle, start.run? actions = some middle ∧ middle.step? action = some final := by
  rw [run?_append, Option.bind_eq_some_iff]
  simp [run?]

/-- An invariant of the last state of a course, which may also speak of the course itself. -/
theorem run_induction {start : Connection} {motive : List Action → Connection → Prop}
    (begin : motive [] start)
    (step : ∀ {actions middle action final}, start.run? actions = some middle →
      motive actions middle → middle.step? action = some final →
      motive (actions ++ [action]) final)
    {actions : List Action} {final : Connection} (ran : start.run? actions = some final) :
    motive actions final := by
  induction actions using List.reverseRecOn generalizing final with
  | nil =>
      simp only [run?, Option.some.injEq] at ran
      exact ran ▸ begin
  | append_singleton actions action ih =>
      rcases run?_concat_eq_some.mp ran with ⟨middle, ranBefore, stepped⟩
      exact step ranBefore (ih ranBefore) stepped

theorem along_concat {Sight : Type} {see : Connection → Action → Connection → List Sight}
    {start middle final : Connection} {actions : List Action} {action : Action}
    (ran : start.run? actions = some middle) (stepped : middle.step? action = some final) :
    start.along see (actions ++ [action]) = start.along see actions ++ see middle action final := by
  induction actions generalizing start with
  | nil =>
      simp only [run?, Option.some.injEq] at ran
      simp [along, ran, stepped]
  | cons first rest ih =>
      rcases Option.bind_eq_some_iff.mp ran with ⟨next, moved, ranRest⟩
      simp only [List.cons_append, along, moved, ih ranRest, List.append_assoc]

theorem along_append {Sight : Type} {see : Connection → Action → Connection → List Sight}
    {start middle : Connection} {first : List Action} (ran : start.run? first = some middle)
    (second : List Action) :
    start.along see (first ++ second) = start.along see first ++ middle.along see second := by
  induction first generalizing start with
  | nil =>
      simp only [run?, Option.some.injEq] at ran
      simp [along, ran]
  | cons action rest ih =>
      rcases Option.bind_eq_some_iff.mp ran with ⟨next, moved, ranRest⟩
      simp only [List.cons_append, along, moved, ih ranRest, List.append_assoc]

theorem exchanges_concat {start middle final : Connection} {actions : List Action} {action : Action}
    (ran : start.run? actions = some middle) (stepped : middle.step? action = some final) :
    start.exchanges (actions ++ [action]) =
      start.exchanges actions ++ (middle.exchange? action).toList :=
  along_concat ran stepped

theorem calls_concat (actions : List Action) (action : Action) :
    calls (actions ++ [action]) = calls actions ++ action.call?.toList := by
  simp only [calls, List.filterMap_append]
  cases action <;> rfl

end Connection

/-! ### A device to run courses with -/

namespace Sample

/-- The only device. -/
def candidate : Candidate := ⟨3, Profile.vendorId, 7, 256, none, none, none⟩

/-- A bus that grants all requests and sends `data`, but releases an interface only as told. -/
def bus (data : List UInt8) (released : Except Status Unit) : Replies
  | .enumerate => .ok [candidate]
  | .lockDiscovery => ()
  | .unlockDiscovery => ()
  | .createContext => .ok 0
  | .listDevices _ => .ok [⟨candidate.device, 1, 1⟩]
  | .readDescriptor _ => .ok ⟨candidate.vendorId, candidate.productId, candidate.bcdDevice, 0, 0, 0⟩
  | .forget _ => ()
  | .openDevice _ device => .ok ⟨device⟩
  | .readString _ _ => .ok ""
  | .kernelDriverActive _ _ => .ok false
  | .detachKernelDriver _ _ => .ok ()
  | .claimInterface _ _ => .ok ()
  | .releaseInterface _ _ => released
  | .control _ transfer => .ok transfer.data.length
  | .bulkIn _ _ _ _ => .received data
  | .bulkOut _ _ data _ => .accepted data.length
  | .closeHandle _ => ()
  | .startWorker => .ok ()

/-- A connection that does not detach drivers and has not done anything. -/
def connection : Connection :=
  .fresh { source := .direct } { detachKernelDriver := false }

/-- Where a course of actions leads. -/
def after (actions : List Connection.Action) : Connection :=
  (connection.run? actions).getD connection

/-- The first caller opens the device, up to where it is about to empty the backlog. -/
def reaches : List Connection.Action :=
  [.invoke (.openPort ⟨candidate.vendorId, candidate.productId, 0⟩ {}) (.ok ()),
    .advance (.call 0), .answer (.call 0) (bus [] (.ok ())),
    .advance (.call 0), .answer (.call 0) (bus [] (.ok ())),
    .advance (.call 0), .answer (.call 0) (bus [] (.ok ())),
    .advance (.call 0), .advance (.call 0), .answer (.call 0) (bus [] (.ok ())),
    .advance (.call 0), .answer (.call 0) (bus [] (.ok ())), .advance (.call 0)]

/-- The first caller opens the device. -/
def opens : List Connection.Action := reaches ++ [.advance (.call 0), .advance (.call 0)]

end Sample

end CdcSerial
