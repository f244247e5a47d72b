import CdcSerial.Proofs.Connection.Applied
import CdcSerial.Proofs.Connection.Opening
import CdcSerial.Proofs.Line.Coding
import CdcSerial.Proofs.Line.Options

/-!
# Opening a port with options

A call that opens a port from a text and loosely typed options refuses what it cannot do exactly:
options that no line can have, and then a text that spells no address. Refused calls leave no trace.
Any other call is a call that opens the port of the address with the line configuration that was
requested, and this is the only line configuration that it ever sends.
-/

namespace CdcSerial

open Procedure

theorem LineConfig.unpack_pack (config : LineConfig) : unpack config.pack = .ok config := by
  have unpacked := unpack_pack_append config []
  rwa [List.append_nil] at unpacked

/-! ### How an opening fails -/

/-- Whether an error says that a call asks for something that cannot be. -/
def Error.isRefusal : Error → Bool
  | .invalidConfig _ => true
  | .invalidAddress _ => true
  | _ => false

namespace Connection

theorem not_isRefusal_of_fault? {event : Event} {error : Error}
    (fails : fault? event = some error) :
    error.isRefusal = false := by
  unfold fault? at fails
  split at fails <;> cases fails <;> rfl

variable {locator : Locator} {settings : Settings} {address : Address} {config : LineConfig}

/-- What goes wrong on the way to a device is never put down to the options or the address. -/
theorem Establishes.not_isRefusal (reports : ReportsFaults locator.source) {events : List Event}
    {error : Error}
    (establishes : Establishes locator settings address config events (.error error)) :
    error.isRefusal = false := by
  cases establishes with
  | foreign => rfl
  | notEnumerated own enumerates =>
      have failed := (reports enumerates error).mp rfl
      rcases List.exists_of_findSome?_eq_some failed with ⟨event, -, fails⟩
      exact not_isRefusal_of_fault? fails
  | notFound => rfl
  | found own enumerates picked attaches =>
      cases attaches.allOrNothing with
      | nothing eq granted fails => exact not_isRefusal_of_fault? fails

theorem Refusal.not_isRefusal {before : Connection} {call : Call} {error : Error}
    (reason : Refusal before call error) (asked : call.AsksFor address config) :
    error.isRefusal = false := by
  cases reason with
  | alreadyOpen => rfl
  | badOptions invalid =>
      cases asked with
      | text valid => simp [valid] at invalid
  | badPath _ unreadable =>
      cases asked with
      | text _ parsed => simp [parsed] at unreadable
  | notConfigurable => rfl
  | _ => cases asked

end Connection

open Connection in
/-- A call that opens a port was refused at once, or has gone along a path of the procedure. -/
theorem Standing.of_asksFor {locator : Locator} {settings : Settings} {handles : List Handle}
    {call : Call} {events : List Event} {task : Task} {address : Address} {config : LineConfig}
    (standing : Standing locator settings handles call events task)
    (asked : call.AsksFor address config) :
    (events = [] ∧ ∃ before error, Refusal before call error ∧ task = Task.failed error) ∨
      ∃ rest, Path (establish locator settings address config) events rest ∧
        ∀ error, task = Task.failed error → rest = .done (.error error) := by
  cases standing with
  | refused reason => exact .inl ⟨rfl, _, _, reason, rfl⟩
  | opens again path | clears again path | installs again path | retreats again path
  | opened again path =>
      rcases asked.unique again with ⟨rfl, rfl⟩
      exact .inr ⟨_, path, nofun⟩
  | notOpened again path =>
      rcases asked.unique again with ⟨rfl, rfl⟩
      refine .inr ⟨_, path, ?_⟩
      rintro error ⟨⟩
      rfl
  | fetched awaits | awaitsRead awaits | putsBack awaits => cases asked <;> cases awaits
  | configures configures | returnsClone configures | returnsTicket configures | records configures
  | configured configures => exact ((Call.Switches.opens asked).not_configures configures).elim
  | _ => cases asked

namespace Connection

section Course

variable {locator : Locator} {settings : Settings} {actions more : List Action}
  {connection begun final : Connection} {call : Call} {started : Except SystemError Unit}

/-- Where a call stands that began in a state, whatever came after. -/
theorem exists_standing_of_begun (ran : (fresh locator settings).run? actions = some connection)
    (begins : connection.step? (.invoke call started) = some begun)
    (ranMore : begun.run? more = some final) :
    ∃ task, final.tasks[connection.tasks.length]? = some task ∧
      Standing locator settings final.handles call
        (eventsOf (.call connection.tasks.length) (begun.exchanges more)) task := by
  have ranBegun := run?_concat_eq_some.mpr ⟨connection, ran, begins⟩
  have ranFinal : (fresh locator settings).run? (actions ++ [Action.invoke call started] ++ more) =
      some final := by
    rw [run?_append, ranBegun]
    exact ranMore
  have placed := (sound_of_run ranFinal).placed
  have made : (calls (actions ++ [Action.invoke call started] ++ more))[connection.tasks.length]? =
      some call := by
    simp [calls, ← (sound_of_run ran).placed.count, Action.call?]
  rcases List.getElem?_eq_some_iff.mp made with ⟨inside, -⟩
  rw [placed.count] at inside
  refine ⟨_, List.getElem?_eq_getElem inside, ?_⟩
  rw [← eventsOf_begun more ran begins]
  exact placed.stands made (List.getElem?_eq_getElem inside)

variable {address : Address} {path : String} {options : OpenOptions}

theorem refuses_options (unacceptable : ¬options.Acceptable) (path : String) :
    ∃ fault, connection.Refuses (.openWith path options) (.invalidConfig fault) := by
  rcases options.validate_cases with ⟨acceptable, -⟩ | ⟨-, fault, invalid⟩
  · exact absurd acceptable unacceptable
  · refine ⟨fault, .of_enter rfl fun started => ?_⟩
    simp [enter, enterOpenWith, invalid]

theorem refuses_path (acceptable : options.Acceptable) {error : Error}
    (unreadable : Address.parse path = .error error) :
    connection.Refuses (.openWith path options) (.invalidAddress path) := by
  have invalid : error = .invalidAddress path := by
    unfold Address.parse at unreadable
    split at unreadable <;> cases unreadable
    rfl
  refine .of_enter rfl fun started => ?_
  simp [enter, enterOpenWith, acceptable.validate, unreadable, invalid]

/-- Options that a line can have are as good as the line configuration that they request. -/
theorem step?_openWith (acceptable : options.Acceptable) (parsed : Address.parse path = .ok address)
    (started : Except SystemError Unit) :
    connection.step? (.invoke (.openWith path options) started) =
      connection.step? (.invoke (.openPort address options.lineConfig) started) := by
  simp [step?, permits, invoke, enter, enterOpenWith, acceptable.validate, parsed]

theorem not_isRefusal_of_asksFor (ran : (fresh locator settings).run? actions = some connection)
    (reports : ReportsFaults locator.source) {config : LineConfig}
    (asked : call.AsksFor address config)
    (begins : connection.step? (.invoke call started) = some begun)
    (ranMore : begun.run? more = some final) {error : Error}
    (failed : final.tasks[connection.tasks.length]? = some (Task.failed error)) :
    error.isRefusal = false := by
  rcases exists_standing_of_begun ran begins ranMore with ⟨task, stands, standing⟩
  cases stands.symm.trans failed
  rcases standing.of_asksFor asked with ⟨-, before, other, reason, same⟩ | ⟨rest, path, ends⟩
  · cases same
    exact reason.not_isRefusal asked
  · have path := ends error rfl ▸ path
    exact (Establishes.of_path path).not_isRefusal reports

theorem sends_requested (ran : (fresh locator settings).run? actions = some connection)
    (aloof : locator.source.Aloof) {config : LineConfig} (asked : call.AsksFor address config)
    (begins : connection.step? (.invoke call started) = some begun)
    (ranMore : begun.run? more = some final) {handle : Handle} {transfer : ControlTransfer}
    {reply : Except Status Nat}
    (sent : ⟨.control handle transfer, reply⟩ ∈
      eventsOf (.call connection.tasks.length) (begun.exchanges more)) :
    transfer = (LineCommand.coding config).transfer settings.controlTimeout := by
  rcases exists_standing_of_begun ran begins ranMore with ⟨task, stands, standing⟩
  rcases standing.of_asksFor asked with ⟨silent, -⟩ | ⟨rest, path, -⟩
  · rw [silent] at sent
    cases sent
  · rcases (establish_sendsOnly aloof address).forall_of_path path _ sent rfl with ⟨device, asked⟩
    cases asked
    rfl

/--
A call that opens a port with options is refused, exactly if no line can have the options or else if
the text spells no address. A refused call asks nothing of the bus and changes nothing. Any other
call is one that opens the port of the address with the line configuration that was requested, and
this is what every control transfer of the call carries.
-/
theorem openWith_applies_or_refuses (ran : (fresh locator settings).run? actions = some connection)
    (source : locator.source = .direct ∨ locator.source = .contexts) (path : String)
    (options : OpenOptions) :
    (∀ {started begun more final ending},
      connection.step? (.invoke (.openWith path options) started) = some begun →
      begun.run? more = some final →
      final.tasks[connection.tasks.length]? = some (.finished ending) →
      ((∃ fault, ending = .returned (.error (.invalidConfig fault))) ↔ ¬options.Acceptable) ∧
      ((∃ text, ending = .returned (.error (.invalidAddress text))) ↔
        options.Acceptable ∧ ∃ error, Address.parse path = .error error)) ∧
    (¬options.Acceptable →
      ∃ fault, connection.Refuses (.openWith path options) (.invalidConfig fault)) ∧
    (options.Acceptable → ∀ {error}, Address.parse path = .error error →
      connection.Refuses (.openWith path options) (.invalidAddress path)) ∧
    (options.Acceptable → ∀ {address}, Address.parse path = .ok address →
      ∃ config, options.Requests config ∧ ∀ started, ∃ begun,
        connection.step? (.invoke (.openWith path options) started) = some begun ∧
        connection.step? (.invoke (.openPort address config) started) = some begun ∧
        ∀ {more final}, begun.run? more = some final → ∀ {handle transfer reply},
          ⟨.control handle transfer, reply⟩ ∈
            eventsOf (.call connection.tasks.length) (begun.exchanges more) →
          transfer.request = 0x20 ∧ LineConfig.unpack transfer.data = .ok config) := by
  have aloof : locator.source.Aloof := by
    rcases source with direct | contexts
    · exact direct ▸ Source.direct_aloof
    · exact contexts ▸ Source.contexts_aloof
  have reports : ReportsFaults locator.source := by
    rcases source with direct | contexts
    · exact direct ▸ direct_reports
    · exact contexts ▸ contexts_reports
  refine ⟨?_, fun unacceptable => refuses_options unacceptable path, refuses_path, ?_⟩
  · intro started begun more final ending begins ranMore ended
    -- a refused call ends with its error, whatever comes after
    have refused {error : Error} (refuses : connection.Refuses (.openWith path options) error) :
        ending = .returned (.error error) := by
      rcases refuses started with ⟨step, later⟩
      cases begins.symm.trans step
      cases ended.symm.trans (later more final ranMore).1
      rfl
    by_cases acceptable : options.Acceptable
    · cases parsed : Address.parse path with
      | error error =>
          rw [refused (refuses_path acceptable parsed)]
          simp [acceptable]
      | ok address =>
          have asked := Call.AsksFor.text acceptable.validate parsed
          have never {error : Error} (failed : ending = .returned (.error error)) :
              error.isRefusal = false := by
            subst failed
            exact not_isRefusal_of_asksFor ran reports asked begins ranMore ended
          constructor
          · refine ⟨?_, fun unacceptable => absurd acceptable unacceptable⟩
            rintro ⟨fault, failed⟩
            cases never failed
          · constructor
            · rintro ⟨text, failed⟩
              cases never failed
            · rintro ⟨-, error, unreadable⟩
              cases unreadable
    · rcases refuses_options acceptable path with ⟨fault, refuses⟩
      rw [refused refuses]
      simp [acceptable]
  · intro acceptable address parsed
    refine ⟨options.lineConfig, acceptable.requests, fun started => ?_⟩
    have begins : connection.step? (.invoke (.openWith path options) started) =
        some (connection.invoke (.openWith path options) started) := rfl
    refine ⟨_, begins, step?_openWith acceptable parsed started ▸ begins, ?_⟩
    intro more final ranMore handle transfer reply sent
    rw [sends_requested ran aloof (.text acceptable.validate parsed) begins ranMore sent]
    exact ⟨rfl, options.lineConfig.unpack_pack⟩

end Course

/-- Options with one and a half stop bits, and odd parity in mixed case. -/
def unusual : OpenOptions where
  baudRate := 110
  dataBits := 7
  stopBits := ⟨0x3FF8000000000000⟩
  parity := "OdD"

/-- Options whose number of stop bits is none. -/
def numberless : OpenOptions := { unusual with stopBits := .nan }

theorem unusual_applies :
    (Sample.after Sample.opens).state = .opened ∧
      (∃ fault, (Sample.after Sample.opens).Refuses (.openWith "usb:16c0:7:0" numberless)
        (.invalidConfig fault)) ∧
      (Sample.after Sample.opens).Refuses (.openWith "usb:16c0:7" unusual)
        (.invalidAddress "usb:16c0:7") ∧
      ∃ config, unusual.Requests config ∧ ∀ started, ∃ begun,
        Sample.connection.step? (.invoke (.openWith "usb:16c0:7:0" unusual) started) = some begun ∧
        Sample.connection.step? (.invoke (.openPort ⟨0x16C0, 7, 0⟩ config) started) =
        some begun := by
  have opened : Sample.connection.run? Sample.opens = some (Sample.after Sample.opens) := rfl
  have acceptable : unusual.Acceptable :=
    OpenOptions.acceptable_iff.mpr ⟨by decide, by decide, by decide⟩
  have unacceptable : ¬numberless.Acceptable := by
    rw [OpenOptions.acceptable_iff]
    decide
  have parsed : Address.parse "usb:16c0:7:0" = .ok ⟨0x16C0, 7, 0⟩ := by decide
  have unreadable : Address.parse "usb:16c0:7" = .error (.invalidAddress "usb:16c0:7") := by decide
  refine ⟨rfl, ?_, ?_, ?_⟩
  · exact (openWith_applies_or_refuses opened (.inl rfl) _ _).2.1 unacceptable
  · exact (openWith_applies_or_refuses opened (.inl rfl) _ _).2.2.1 acceptable unreadable
  · have fresh : Sample.connection.run? [] = some Sample.connection := rfl
    rcases (openWith_applies_or_refuses fresh (.inl rfl) _ _).2.2.2 acceptable parsed with
      ⟨config, requests, applies⟩
    refine ⟨config, requests, fun started => ?_⟩
    rcases applies started with ⟨begun, begins, same, -⟩
    exact ⟨begun, begins, same⟩

end Connection

end CdcSerial
