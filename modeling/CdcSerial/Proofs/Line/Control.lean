import CdcSerial.Line.Control
import CdcSerial.Proofs.Usb.Path

/-!
# What line control sends

A call for the line sends the transfers of its plan one by one. `CarriedOut` says what comes of a
plan: all of it is accepted, or it is cut behind the first transfer that fails, and the call then
names the request and the status of this transfer. A sequence of calls is carried out call by call,
and what one call sends depends on its own plan alone (`Traces`).
-/

namespace CdcSerial

open Procedure

namespace LineCall

/-! ## The transfers of a plan -/

section Plans

variable (timeout : Duration)

/-- A class request from the host to the first interface. -/
def classRequest (request : UInt8) (value : UInt16) (data : List UInt8) : ControlTransfer :=
  ⟨0x21, request, value, 0, data, timeout⟩

/-- A break that lasts until it is taken back, or taking it back. -/
def breakTransfer (assert : Bool) : ControlTransfer :=
  classRequest timeout 0x23 (if assert then 0xFFFF else 0) []

/-- A request that carries the bit of the data terminal ready line alone. -/
def dtrTransfer (assert : Bool) : ControlTransfer :=
  classRequest timeout 0x22 (if assert then 1 else 0) []

/-- A request that carries the bit of the request to send line alone. -/
def rtsTransfer (assert : Bool) : ControlTransfer :=
  classRequest timeout 0x22 (if assert then 2 else 0) []

/-- The transfers of a call: what is not supplied is not sent. -/
def transfers : LineCall → List ControlTransfer
  | .coding config => [classRequest timeout 0x20 0 config.pack]
  | .state dtr rts => dtr.toList.map (dtrTransfer timeout) ++ rts.toList.map (rtsTransfer timeout)
  | .brk assert => [breakTransfer timeout assert]
  | .update options =>
    options.brk.toList.map (breakTransfer timeout) ++
      options.dtr.toList.map (dtrTransfer timeout) ++ options.rts.toList.map (rtsTransfer timeout)

theorem commands_transfers (call : LineCall) :
    call.commands.map (·.transfer timeout) = call.transfers timeout := by
  cases call with
  | coding config => rfl
  | state dtr rts => cases dtr <;> cases rts <;> rfl
  | brk assert => rfl
  | update options => rcases options with ⟨_ | brk, _ | dtr, _ | rts⟩ <;> rfl

end Plans

/-! ## What comes of a plan -/

variable {handle : Handle} {timeout : Duration}

/-- The event of a transfer that was accepted. -/
def accepted (handle : Handle) (transfer : ControlTransfer) (count : Nat) : Event :=
  ⟨.control handle transfer, .ok count⟩

/-- The event of a transfer that failed. -/
def refused (handle : Handle) (transfer : ControlTransfer) (status : Status) : Event :=
  ⟨.control handle transfer, .error status⟩

/-- What is sent of some transfers, and what their sender returns. -/
inductive CarriedOut (handle : Handle) :
    List ControlTransfer → List Event → Except Error Unit → Prop where
  | whole {transfers} (counts : List Nat) (each : counts.length = transfers.length) :
      CarriedOut handle transfers (List.zipWith (accepted handle) transfers counts) (.ok ())
  | cut (earlier : List ControlTransfer) {transfer later status} (counts : List Nat)
      (each : counts.length = earlier.length) :
      CarriedOut handle (earlier ++ transfer :: later)
        (List.zipWith (accepted handle) earlier counts ++ [refused handle transfer status])
        (.error (.controlFailed transfer.request status))

namespace CarriedOut

theorem nil_iff {events : List Event} {result : Except Error Unit} :
    CarriedOut handle [] events result ↔ events = [] ∧ result = .ok () := by
  constructor
  · intro carried
    generalize empty : ([] : List ControlTransfer) = transfers at carried
    cases carried with
    | whole each => exact ⟨by rw [← empty, List.zipWith_nil_left], rfl⟩
    | cut each => simp at empty
  · rintro ⟨rfl, rfl⟩
    exact .whole [] rfl

/-- The first transfer fails and is the last, or it is accepted and the others are carried out. -/
theorem cons_iff {transfer : ControlTransfer} {others : List ControlTransfer} {events : List Event}
    {result : Except Error Unit} :
    CarriedOut handle (transfer :: others) events result ↔
      (∃ status, events = [refused handle transfer status] ∧
        result = .error (.controlFailed transfer.request status)) ∨
      ∃ count more, events = accepted handle transfer count :: more ∧
        CarriedOut handle others more result := by
  constructor
  · intro carried
    generalize same : transfer :: others = transfers at carried
    cases carried with
    | whole counts each =>
        subst same
        rcases counts with _ | ⟨count, counts⟩
        · cases each
        · exact .inr ⟨count, _, rfl, .whole counts (Nat.succ.inj each)⟩
    | cut earlier counts each =>
        rcases earlier with _ | ⟨first, earlier⟩
        · cases same
          exact .inl ⟨_, rfl, rfl⟩
        · cases same
          rcases counts with _ | ⟨count, counts⟩
          · cases each
          · exact .inr ⟨count, _, rfl, .cut earlier counts (Nat.succ.inj each)⟩
  · rintro (⟨status, rfl, rfl⟩ | ⟨count, more, rfl, carried⟩)
    · exact .cut [] [] rfl
    · cases carried with
      | whole counts each => exact .whole (count :: counts) (congrArg Nat.succ each)
      | cut earlier counts each =>
          exact .cut (transfer :: earlier) (count :: counts) (congrArg Nat.succ each)

end CarriedOut

theorem sendAll_path_iff {commands : List LineCommand} {events : List Event}
    {result : Except Error Unit} :
    Path (LineCommand.sendAll handle timeout commands) events (.done result) ↔
      CarriedOut handle (commands.map (·.transfer timeout)) events result := by
  induction commands generalizing events with
  | nil =>
      rw [List.map_nil, CarriedOut.nil_iff]
      constructor
      · intro path
        rcases path.of_done with ⟨rfl, eq⟩
        cases eq
        exact ⟨rfl, rfl⟩
      · rintro ⟨rfl, rfl⟩
        exact .here
  | cons command rest ih =>
      rw [List.map_cons, CarriedOut.cons_iff]
      constructor
      · intro path
        cases path with
        | say path =>
        cases path with
        | call reply path =>
        cases reply with
        | error status =>
            rcases path.of_done with ⟨rfl, eq⟩
            cases eq
            exact .inl ⟨status, rfl, rfl⟩
        | ok count => exact .inr ⟨count, _, rfl, ih.mp path⟩
      · rintro (⟨status, rfl, rfl⟩ | ⟨count, more, rfl, carried⟩)
        · exact .say (.call _ .here)
        · exact .say (.call _ (ih.mpr carried))

/-! ## Sequences of calls -/

/-- What a sequence of calls sends, and what the calls return. -/
inductive Traces (handle : Handle) (timeout : Duration) :
    List LineCall → List Event → List (Except Error Unit) → Prop where
  | nil : Traces handle timeout [] [] []
  | cons {call calls events more result results}
      (carried : CarriedOut handle (call.transfers timeout) events result)
      (rest : Traces handle timeout calls more results) :
      Traces handle timeout (call :: calls) (events ++ more) (result :: results)

theorem sendEach_path_iff {calls : List LineCall} {events : List Event}
    {results : List (Except Error Unit)} :
    Path (sendEach handle timeout calls) events (.done results) ↔
      Traces handle timeout calls events results := by
  induction calls generalizing events results with
  | nil =>
      constructor
      · intro path
        rcases path.of_done with ⟨rfl, eq⟩
        cases eq
        exact .nil
      · rintro ⟨⟩
        exact .here
  | cons call calls ih =>
      constructor
      · intro path
        rcases Path.bind_iff.mp path with ⟨before, after, result, rfl, sending, path⟩
        rcases Path.bind_iff.mp path with ⟨others, last, results, rfl, rest, path⟩
        rcases path.of_done with ⟨rfl, eq⟩
        cases eq
        rw [sendAll_path_iff, commands_transfers] at sending
        rw [List.append_nil]
        exact .cons sending (ih.mp rest)
      · rintro (_ | ⟨carried, rest⟩)
        rw [← commands_transfers, ← sendAll_path_iff] at carried
        exact (carried.bind rfl).append ((ih.mpr rest).bind rfl)

/--
A sequence of calls sends, call by call, the transfers of each plan up to the first that fails, and
each call returns the fault of this transfer or, if there is none, success. This is all that can
happen, and it is what happens on every bus.
-/
theorem control_traces (handle : Handle) (timeout : Duration) (calls : List LineCall) :
    (∀ events results, Path (sendEach handle timeout calls) events (.done results) ↔
      Traces handle timeout calls events results) ∧
      ∀ {State : Type} (serve : (request : Request) → State → request.Reply × State)
      (state : State),
        ∃ events, AnsweredBy serve state events ∧
          Traces handle timeout calls events
            ((sendEach handle timeout calls).run serve state).1 := by
  refine ⟨fun events results => sendEach_path_iff, ?_⟩
  intro State serve state
  rcases exists_run_path serve (sendEach handle timeout calls) state with ⟨events, answered, path⟩
  exact ⟨events, answered, sendEach_path_iff.mp path⟩

end LineCall

end CdcSerial
