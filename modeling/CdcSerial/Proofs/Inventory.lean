import CdcSerial.Proofs.Connection.Reaching
import CdcSerial.Proofs.Listing
import Mathlib.Data.List.Nodup

/-!
# Listing is exact

Listing meets the devices of its vendor one after the other. `Encounter` is a device and how it
answers, and from the encounters it is said without the procedure which ports are listed and what
is asked of the bus: a device that opens is listed unless as many devices of its product opened
before it as there are indices, its index is their number, and its handle is closed before the next
device is opened.

The procedure counts the ports that it has listed so far and not the devices that have opened. The
two numbers agree until the indices are used up, and that is all that the next index depends on.
-/

namespace CdcSerial

open Procedure

namespace Locator

/-- A device and how it answers. Its strings count only if it opens. -/
structure Encounter where
  candidate : Candidate
  opened : Except Status Handle
  manufacturer : Except Status String
  serialNumber : Except Status String
  deviceName : Except Status String

/-- The text of a string that the device has, that can be read and that is not empty. -/
def shown : Option UInt8 → Except Status String → Option String
  | some _, .ok text => if text = "" then none else some text
  | _, _ => none

/-- The request for a string, if the device has it. -/
def asked (handle : Handle) (index : Option UInt8) (reply : Except Status String) : List Event :=
  index.toList.map fun index => ⟨.readString handle index, reply⟩

/-- How many devices of a product opened. -/
def openCount (met : List Encounter) (productId : UInt16) : Nat :=
  met.countP fun encounter =>
    encounter.opened.isOk && decide (encounter.candidate.productId = productId)

namespace Encounter

/-- The port of a device with an index. -/
def port (encounter : Encounter) (index : Nat) : PortInfo where
  comName :=
    Address.text ⟨encounter.candidate.vendorId, encounter.candidate.productId, .ofNat index⟩
  manufacturer := shown encounter.candidate.manufacturerIndex encounter.manufacturer
  serialNumber := shown encounter.candidate.serialNumberIndex encounter.serialNumber
  deviceName := shown encounter.candidate.productIndex encounter.deviceName
  vendorId := encounter.candidate.vendorId
  productId := encounter.candidate.productId
  bcdDevice := encounter.candidate.bcdDevice
  address := ⟨encounter.candidate.vendorId, encounter.candidate.productId, .ofNat index⟩

/-- The port of a device that is met after others, if it opens and there is an index left. -/
def port? (met : List Encounter) (encounter : Encounter) : Option PortInfo :=
  let twins := openCount met encounter.candidate.productId
  if encounter.opened.isOk = true ∧ twins < 65536 then some (encounter.port twins) else none

/-- The requests for the strings of a device. -/
def strings (encounter : Encounter) (handle : Handle) : List Event :=
  asked handle encounter.candidate.manufacturerIndex encounter.manufacturer ++
    (asked handle encounter.candidate.serialNumberIndex encounter.serialNumber ++
      asked handle encounter.candidate.productIndex encounter.deviceName)

/-- What is asked of the bus where a device is met after others. -/
def events (context : Option Nat) (met : List Encounter) (encounter : Encounter) : List Event :=
  ⟨.openDevice context encounter.candidate.device, encounter.opened⟩ ::
    match encounter.opened with
    | .error _ => []
    | .ok handle =>
      (if openCount met encounter.candidate.productId < 65536 then encounter.strings handle
        else []) ++ [⟨.closeHandle handle, ()⟩]

end Encounter

/-- The ports of devices that are met after others. -/
def portsAfter : List Encounter → List Encounter → List PortInfo
  | _, [] => []
  | met, encounter :: rest => (encounter.port? met).toList ++ portsAfter (met ++ [encounter]) rest

/-- What is asked of the bus where devices are met after others. -/
def eventsAfter (context : Option Nat) : List Encounter → List Encounter → List Event
  | _, [] => []
  | met, encounter :: rest =>
    encounter.events context met ++ eventsAfter context (met ++ [encounter]) rest

/-! ### Reading strings -/

theorem readText_path {handle : Handle} {index : Option UInt8} {events : List Event}
    {text : Option String} :
    Path (readText handle index) events (.done text) ↔
      ∃ reply, events = asked handle index reply ∧ text = shown index reply := by
  cases index with
  | none =>
      constructor
      · intro path
        rcases path.of_done with ⟨rfl, eq⟩
        cases eq
        exact ⟨.error .other, rfl, rfl⟩
      · rintro ⟨reply, rfl, rfl⟩
        exact .here
  | some index =>
      constructor
      · intro path
        cases path with
        | call reply path =>
            refine ⟨reply, ?_⟩
            cases reply with
            | ok text =>
                rcases path.of_done with ⟨rfl, eq⟩
                cases eq
                simp [asked, shown]
            | error status =>
                cases path with
                | say path =>
                    rcases path.of_done with ⟨rfl, eq⟩
                    cases eq
                    simp [asked, shown]
      · rintro ⟨reply, rfl, rfl⟩
        refine @Path.call _ (.readString handle index) _ _ _ reply ?_
        cases reply with
        | ok text =>
            by_cases empty : text = ""
            · subst empty
              exact .here
            · simp only [shown, empty, if_false, Procedure.bind, String.isEmpty_iff]
              exact .here
        | error status => exact .say .here

theorem describe_path {candidate : Candidate} {handle : Handle} {index : UInt16}
    {events : List Event} {port : PortInfo} :
    Path (describe candidate handle index) events (.done port) ↔
      ∃ manufacturer serialNumber deviceName,
        events = asked handle candidate.manufacturerIndex manufacturer ++
          (asked handle candidate.serialNumberIndex serialNumber ++
            asked handle candidate.productIndex deviceName) ∧
        port =
          { comName := Address.text ⟨candidate.vendorId, candidate.productId, index⟩
            manufacturer := shown candidate.manufacturerIndex manufacturer
            serialNumber := shown candidate.serialNumberIndex serialNumber
            deviceName := shown candidate.productIndex deviceName
            vendorId := candidate.vendorId
            productId := candidate.productId
            bcdDevice := candidate.bcdDevice
            address := ⟨candidate.vendorId, candidate.productId, index⟩ } := by
  constructor
  · intro path
    rcases path.of_bind_done with ⟨_, _, _, rfl, first, path⟩
    rcases path.of_bind_done with ⟨_, _, _, rfl, second, path⟩
    rcases path.of_bind_done with ⟨_, _, _, rfl, third, path⟩
    rcases readText_path.mp first with ⟨manufacturer, rfl, rfl⟩
    rcases readText_path.mp second with ⟨serialNumber, rfl, rfl⟩
    rcases readText_path.mp third with ⟨deviceName, rfl, rfl⟩
    rcases path.of_done with ⟨rfl, eq⟩
    cases eq
    exact ⟨manufacturer, serialNumber, deviceName, by simp, rfl⟩
  · rintro ⟨manufacturer, serialNumber, deviceName, rfl, rfl⟩
    have reads (index : Option UInt8) (reply : Except Status String) :
        Path (readText handle index) (asked handle index reply) (.done (shown index reply)) :=
      readText_path.mpr ⟨reply, rfl, rfl⟩
    exact ((reads _ manufacturer).bind rfl).append
      (((reads _ serialNumber).bind rfl).append ((reads _ deviceName).bind rfl))

/-! ### Ports listed and devices opened -/

/-- The ports that were found are as many as the devices that opened, while there are indices. -/
def Tallies (found : List PortInfo) (met : List Encounter) : Prop :=
  ∀ productId, twinCount found productId = min (openCount met productId) 65536

theorem Tallies.nextIndex?_eq {found : List PortInfo} {met : List Encounter}
    (tallies : Tallies found met) (productId : UInt16) :
    nextIndex? found productId =
      if openCount met productId < 65536 then some (.ofNat (openCount met productId))
      else none := by
  have count := tallies productId
  simp only [nextIndex?, ← twinCount.eq_def, count]
  by_cases room : openCount met productId < 65536
  · rw [Nat.min_eq_left (Nat.le_of_lt room)]
  · rw [if_neg room, if_neg (by omega)]

theorem openCount_concat (met : List Encounter) (encounter : Encounter) (productId : UInt16) :
    openCount (met ++ [encounter]) productId = openCount met productId +
      (encounter.opened.isOk && decide (encounter.candidate.productId = productId)).toNat := by
  cases counts : encounter.opened.isOk && decide (encounter.candidate.productId = productId) <;>
    simp [openCount, counts]

theorem twinCount_concat (found : List PortInfo) (port : PortInfo) (productId : UInt16) :
    twinCount (found ++ [port]) productId =
      twinCount found productId + (decide (port.productId = productId)).toNat := by
  by_cases same : port.productId = productId <;> simp [twinCount, same]

theorem Encounter.port?_of_room {met : List Encounter} {encounter : Encounter}
    (opens : encounter.opened.isOk = true)
    (room : openCount met encounter.candidate.productId < 65536) :
    encounter.port? met = some (encounter.port (openCount met encounter.candidate.productId)) :=
  if_pos ⟨opens, room⟩

theorem Encounter.port?_of_refused {met : List Encounter} {encounter : Encounter}
    (refuses : encounter.opened.isOk = false) : encounter.port? met = none := by
  simp [port?, refuses]

theorem Encounter.port?_of_full {met : List Encounter} {encounter : Encounter}
    (full : ¬openCount met encounter.candidate.productId < 65536) : encounter.port? met = none := by
  simp [port?, full]

theorem Tallies.concat {found : List PortInfo} {met : List Encounter} (tallies : Tallies found met)
    (encounter : Encounter) :
    Tallies (found ++ (encounter.port? met).toList) (met ++ [encounter]) := by
  intro productId
  have count := tallies productId
  rw [openCount_concat]
  cases opens : encounter.opened.isOk with
  | false =>
      rw [Encounter.port?_of_refused opens]
      simpa using count
  | true =>
      by_cases same : encounter.candidate.productId = productId
      · subst same
        by_cases room : openCount met encounter.candidate.productId < 65536
        · rw [Encounter.port?_of_room opens room, Option.toList_some, twinCount_concat, count]
          simp [Encounter.port]
          omega
        · rw [Encounter.port?_of_full room, Option.toList_none, List.append_nil, count]
          simp
          omega
      · by_cases room : openCount met encounter.candidate.productId < 65536
        · rw [Encounter.port?_of_room opens room, Option.toList_some, twinCount_concat, count]
          simp [Encounter.port, same]
        · rw [Encounter.port?_of_full room, Option.toList_none, List.append_nil, count]
          simp [same]

/-! ### Every visit is an encounter -/

section Visits

variable {locator : Locator} {context : Option Nat} {found ports : List PortInfo}
  {met : List Encounter} {candidate : Candidate} {events : List Event}

/-- The visit of a device of the vendor lists it as its encounter says. -/
theorem Visit.exists_encounter (tallies : Tallies found met)
    (own : candidate.vendorId = locator.vendorId)
    (visit : Visit locator context found candidate events ports) :
    ∃ encounter : Encounter,
      encounter.candidate = candidate ∧ events = encounter.events context met ∧
      ports = found ++ (encounter.port? met).toList := by
  have next := tallies.nextIndex?_eq candidate.productId
  cases visit with
  | foreign other => exact absurd own other
  | @notOpened status =>
      refine ⟨⟨candidate, .error status, .error .other, .error .other, .error .other⟩, rfl, rfl, ?_⟩
      rw [Encounter.port?_of_refused rfl, Option.toList_none, List.append_nil]
  | @exhausted handle own exhausted =>
      have full : ¬openCount met candidate.productId < 65536 := by
        intro room
        rw [exhausted, if_pos room] at next
        cases next
      refine ⟨⟨candidate, .ok handle, .error .other, .error .other, .error .other⟩, rfl, ?_, ?_⟩
      · simp [Encounter.events, full]
      · rw [Encounter.port?_of_full full, Option.toList_none, List.append_nil]
  | @listed handle index strings port own numbered described =>
      have room : openCount met candidate.productId < 65536 := by
        by_contra full
        rw [numbered, if_neg full] at next
        cases next
      rw [numbered, if_pos room, Option.some.injEq] at next
      subst next
      rcases describe_path.mp described with ⟨manufacturer, serialNumber, deviceName, rfl, rfl⟩
      refine ⟨⟨candidate, .ok handle, manufacturer, serialNumber, deviceName⟩, rfl, ?_, ?_⟩
      · simp [Encounter.events, Encounter.strings, room]
      · rw [Encounter.port?_of_room rfl room]
        rfl

/-- Every encounter with a device of the vendor is a visit. -/
theorem Encounter.visit (tallies : Tallies found met) (encounter : Encounter)
    (own : encounter.candidate.vendorId = locator.vendorId) :
    Visit locator context found encounter.candidate (encounter.events context met)
      (found ++ (encounter.port? met).toList) := by
  have next := tallies.nextIndex?_eq encounter.candidate.productId
  rcases encounter with ⟨candidate, opened, manufacturer, serialNumber, deviceName⟩
  cases opened with
  | error status =>
      rw [port?_of_refused rfl, Option.toList_none, List.append_nil]
      exact .notOpened own
  | ok handle =>
      by_cases room : openCount met candidate.productId < 65536
      · rw [if_pos room] at next
        rw [port?_of_room rfl room]
        have described :
            Path (describe candidate handle (.ofNat (openCount met candidate.productId)))
            (strings ⟨candidate, .ok handle, manufacturer, serialNumber, deviceName⟩ handle) _ :=
          describe_path.mpr ⟨manufacturer, serialNumber, deviceName, rfl, rfl⟩
        have visit : Visit locator context found candidate _ _ := .listed own next described
        simpa [events, room, port] using visit
      · rw [if_neg room] at next
        rw [port?_of_full room, Option.toList_none, List.append_nil]
        have visit : Visit locator context found candidate
            [⟨.openDevice context candidate.device, .ok handle⟩, ⟨.closeHandle handle, ()⟩] _ :=
          .exhausted own next
        simpa [events, room] using visit

/-- Visiting candidates is meeting those of the vendor, and nothing else can come of it. -/
theorem visits_iff {candidates : List Candidate} (tallies : Tallies found met) :
    Visits locator context found candidates events ports ↔
      ∃ encounters : List Encounter,
        encounters.map (·.candidate) =
          candidates.filter (fun candidate => decide (candidate.vendorId = locator.vendorId)) ∧
        events = eventsAfter context met encounters ∧
        ports = found ++ portsAfter met encounters := by
  induction candidates generalizing found met events with
  | nil =>
      constructor
      · intro visits
        cases visits
        exact ⟨[], rfl, rfl, (List.append_nil _).symm⟩
      · rintro ⟨encounters, empty, rfl, rfl⟩
        rw [List.filter_nil, List.map_eq_nil_iff] at empty
        subst empty
        rw [portsAfter, List.append_nil]
        exact .none
  | cons candidate rest ih =>
      by_cases own : candidate.vendorId = locator.vendorId
      · rw [List.filter_cons_of_pos (by simpa using own)]
        constructor
        · intro visits
          cases visits with
          | next visit visits =>
              rcases visit.exists_encounter tallies own with ⟨encounter, rfl, rfl, rfl⟩
              rcases (ih (tallies.concat encounter)).mp visits with ⟨encounters, same, rfl, rfl⟩
              exact ⟨encounter :: encounters, by rw [List.map_cons, same], rfl,
                List.append_assoc ..⟩
        · rintro ⟨encounters, same, rfl, listed⟩
          rcases List.map_eq_cons_iff.mp same with ⟨encounter, others, rfl, rfl, others_same⟩
          refine .next (encounter.visit tallies own) ((ih (tallies.concat encounter)).mpr ?_)
          exact ⟨others, others_same, rfl, by rw [listed, portsAfter, List.append_assoc]⟩
      · rw [List.filter_cons_of_neg (by simpa using own), ← ih tallies]
        constructor
        · intro visits
          cases visits with
          | next visit visits =>
              cases visit with
              | foreign => exact visits
              | notOpened same => exact absurd same own
              | exhausted same => exact absurd same own
              | listed same => exact absurd same own
        · exact .next (.foreign own)

end Visits

/-! ### How listed ports are numbered -/

section Numbers

variable {met encounters : List Encounter}

theorem openCount_cons (encounter : Encounter) (rest : List Encounter) (productId : UInt16) :
    openCount (encounter :: rest) productId = openCount rest productId +
      (encounter.opened.isOk && decide (encounter.candidate.productId = productId)).toNat := by
  cases counts : encounter.opened.isOk && decide (encounter.candidate.productId = productId) <;>
    simp [openCount, counts]

/-- The indices of a product go on from the devices that opened before, without a gap. -/
theorem indices_portsAfter (productId : UInt16) :
    ((portsAfter met encounters).filter fun port => decide (port.productId = productId)).map
        (·.address.index.toNat) =
      List.range' (min (openCount met productId) 65536)
        (min (openCount met productId + openCount encounters productId) 65536 -
          min (openCount met productId) 65536) := by
  induction encounters generalizing met with
  | nil => simp [portsAfter, openCount]
  | cons encounter rest ih =>
      rw [portsAfter, List.filter_append, List.map_append, ih, openCount_concat, openCount_cons]
      by_cases counts : encounter.opened.isOk = true ∧ encounter.candidate.productId = productId
      · obtain ⟨opens, rfl⟩ := counts
        simp only [opens, decide_true, Bool.and_self, Bool.toNat_true]
        by_cases room : openCount met encounter.candidate.productId < 65536
        · -- The port of this device has the first of the indices.
          rw [Encounter.port?_of_room opens room, Nat.min_eq_left (Nat.le_of_lt room),
            Nat.min_eq_left room]
          have more : min (openCount met encounter.candidate.productId +
                (openCount rest encounter.candidate.productId + 1)) 65536 -
                openCount met encounter.candidate.productId =
              min (openCount met encounter.candidate.productId + 1 +
                openCount rest encounter.candidate.productId) 65536 -
                (openCount met encounter.candidate.productId + 1) + 1 := by
            omega
          rw [more, List.range'_succ]
          simp [Encounter.port, Nat.mod_eq_of_lt room]
        · have full : 65536 ≤ openCount met encounter.candidate.productId := Nat.le_of_not_lt room
          rw [Encounter.port?_of_full room, Nat.min_eq_right full, Nat.min_eq_right (by omega),
            Nat.min_eq_right (by omega), Nat.min_eq_right (by omega)]
          rfl
      · have unlisted : ((encounter.port? met).toList.filter fun port =>
            decide (port.productId = productId)) = [] := by
          cases opens : encounter.opened.isOk with
          | false => rw [Encounter.port?_of_refused opens, Option.toList_none, List.filter_nil]
          | true =>
              have other : encounter.candidate.productId ≠ productId :=
                fun same => counts ⟨opens, same⟩
              by_cases room : openCount met encounter.candidate.productId < 65536
              · simp [Encounter.port?_of_room opens room, Encounter.port, other]
              · simp [Encounter.port?_of_full room]
        have uncounted : (encounter.opened.isOk &&
            decide (encounter.candidate.productId = productId)) = false := by
          simpa using counts
        simp [unlisted, uncounted]

/-- The index of a port counts at least the devices of its product that opened before. -/
theorem openCount_le_index {port : PortInfo} (member : port ∈ portsAfter met encounters) :
    openCount met port.address.productId ≤ port.address.index.toNat := by
  induction encounters generalizing met with
  | nil => cases member
  | cons encounter rest ih =>
      rw [portsAfter, List.mem_append, Option.mem_toList] at member
      rcases member with here | later
      · simp only [Encounter.port?, Option.ite_none_right_eq_some, Option.some.injEq] at here
        rcases here with ⟨⟨-, room⟩, rfl⟩
        simp [Encounter.port, Nat.mod_eq_of_lt room]
      · have counted := ih later
        rw [openCount_concat] at counted
        omega

theorem addresses_nodup : ((portsAfter met encounters).map (·.address)).Nodup := by
  induction encounters generalizing met with
  | nil => exact List.nodup_nil
  | cons encounter rest ih =>
      rw [portsAfter, List.map_append, List.nodup_append]
      refine ⟨by cases encounter.port? met <;> simp, ih, ?_⟩
      intro first here second later same
      subst same
      rcases List.mem_map.mp here with ⟨port, listed, rfl⟩
      rcases List.mem_map.mp later with ⟨other, elsewhere, same⟩
      simp only [Option.mem_toList, Encounter.port?, Option.ite_none_right_eq_some,
        Option.some.injEq] at listed
      rcases listed with ⟨⟨opens, room⟩, rfl⟩
      -- A later port of the same product counts this device too.
      have counted := openCount_le_index elsewhere
      rw [same, openCount_concat] at counted
      simp [Encounter.port, opens, Nat.mod_eq_of_lt room] at counted

theorem comName_eq {port : PortInfo} (member : port ∈ portsAfter met encounters) :
    port.comName = port.address.text := by
  induction encounters generalizing met with
  | nil => cases member
  | cons encounter rest ih =>
      rw [portsAfter, List.mem_append, Option.mem_toList] at member
      rcases member with here | later
      · simp only [Encounter.port?, Option.ite_none_right_eq_some, Option.some.injEq] at here
        rcases here with ⟨-, rfl⟩
        rfl
      · exact ih later

theorem comNames_nodup : ((portsAfter met encounters).map (·.comName)).Nodup := by
  have names : (portsAfter met encounters).map (·.comName) =
      ((portsAfter met encounters).map (·.address)).map Address.text := by
    rw [List.map_map]
    exact List.map_congr_left fun port member => comName_eq member
  rw [names]
  exact List.Nodup.map Address.text_injective addresses_nodup

theorem shown_eq_some {index : Option UInt8} {reply : Except Status String} {text : String} :
    shown index reply = some text ↔ index.isSome = true ∧ reply = .ok text ∧ text ≠ "" := by
  cases index with
  | none => simp [shown]
  | some index =>
      cases reply with
      | error status => simp [shown]
      | ok other =>
          by_cases empty : other = ""
          · subst empty
            simp only [shown, if_true, Option.isSome_some, Except.ok.injEq, true_and]
            constructor
            · intro impossible
              cases impossible
            · rintro ⟨rfl, full⟩
              exact absurd rfl full
          · simp only [shown, empty, if_false, Option.some.injEq, Option.isSome_some,
              Except.ok.injEq, true_and]
            constructor
            · rintro rfl
              exact ⟨rfl, empty⟩
            · exact And.left

end Numbers

/-! ### What is asked of the bus -/

/-- The device that an event tries to open. -/
def sought? : Event → Option Nat
  | ⟨.openDevice _ device, _⟩ => some device
  | _ => none

/-- The handle that an event closes. -/
def closed? : Event → Option Handle
  | ⟨.closeHandle handle, _⟩ => some handle
  | _ => none

/-- The handles that are closed, in order. -/
def closings (events : List Event) : List Handle := events.filterMap closed?

section Requests

variable {context : Option Nat} {met encounters : List Encounter}

theorem filterMap_asked {Image : Type} {see : Event → Option Image} {handle : Handle}
    (blind : ∀ index reply, see ⟨.readString handle index, reply⟩ = none) (index : Option UInt8)
    (reply : Except Status String) : (asked handle index reply).filterMap see = [] := by
  cases index <;> simp [asked, blind]

/-- What is seen of an encounter by someone who does not look at the strings. -/
theorem Encounter.filterMap_events {Image : Type} {see : Event → Option Image}
    (blind : ∀ handle index reply, see ⟨.readString handle index, reply⟩ = none)
    (encounter : Encounter) :
    (encounter.events context met).filterMap see =
      (see ⟨.openDevice context encounter.candidate.device, encounter.opened⟩).toList ++
        match encounter.opened with
        | .error _ => []
        | .ok handle => (see ⟨.closeHandle handle, ()⟩).toList := by
  have strings (handle : Handle) : (encounter.strings handle).filterMap see = [] := by
    simp [Encounter.strings, filterMap_asked (blind handle)]
  rw [events, ← List.singleton_append, List.filterMap_append]
  cases encounter.opened with
  | error status =>
      cases seen : see ⟨.openDevice context encounter.candidate.device, .error status⟩ <;>
      simp [seen]
  | ok handle =>
      cases seen : see ⟨.openDevice context encounter.candidate.device, .ok handle⟩ <;>
        cases closes : see ⟨.closeHandle handle, ()⟩ <;>
          by_cases room : openCount met encounter.candidate.productId < 65536 <;>
            simp [seen, closes, room, strings]

theorem Encounter.sought_events (encounter : Encounter) :
    (encounter.events context met).filterMap sought? = [encounter.candidate.device] := by
  rw [filterMap_events fun _ _ _ => rfl]
  cases encounter.opened <;> rfl

/-- A device that opens is closed before its encounter is over. -/
theorem Encounter.closings_events (encounter : Encounter) :
    closings (encounter.events context met) = openings (encounter.events context met) := by
  rw [closings, openings, filterMap_events fun _ _ _ => rfl, filterMap_events fun _ _ _ => rfl]
  cases encounter.opened <;> rfl

theorem sought_eventsAfter :
    (eventsAfter context met encounters).filterMap sought? =
      encounters.map (·.candidate.device) := by
  induction encounters generalizing met with
  | nil => rfl
  | cons encounter rest ih =>
      rw [eventsAfter, List.filterMap_append, encounter.sought_events, ih]
      rfl

theorem closings_eventsAfter :
    closings (eventsAfter context met encounters) =
      openings (eventsAfter context met encounters) := by
  induction encounters generalizing met with
  | nil => rfl
  | cons encounter rest ih =>
      have here : closings (encounter.events context met) = _ := encounter.closings_events
      have later := @ih (met ++ [encounter])
      simp only [closings, openings, eventsAfter, List.filterMap_append] at here later ⊢
      rw [here, later]

/-- The first request of an encounter is the only one that opens a device. -/
theorem Encounter.nil_of_sought {encounter : Encounter} {before after : List Event} {event : Event}
    (split : encounter.events context met = before ++ event :: after)
    (seeks : (sought? event).isSome = true) : before = [] := by
  have one : (encounter.events context met).filterMap sought? = _ := encounter.sought_events
  cases before with
  | nil => rfl
  | cons first rest =>
      rcases Option.isSome_iff_exists.mp seeks with ⟨device, seen⟩
      have head : sought? first = some encounter.candidate.device := by
        rw [events, List.cons_append, List.cons.injEq] at split
        rw [← split.1, sought?]
      rw [split] at one
      simp [head, seen] at one

/-- Where a device is opened, those that were opened before are closed. -/
theorem closings_of_sought {before after : List Event} {event : Event}
    (split : eventsAfter context met encounters = before ++ event :: after)
    (seeks : (sought? event).isSome = true) : closings before = openings before := by
  induction encounters generalizing met before with
  | nil => simp [eventsAfter] at split
  | cons encounter rest ih =>
      rw [eventsAfter] at split
      rcases List.append_eq_append_iff.mp split with ⟨passed, rfl, later⟩ | ⟨passed, within, later⟩
      · have here : closings (encounter.events context met) = _ := encounter.closings_events
        have behind := ih later
        simp only [closings, openings, List.filterMap_append] at here behind ⊢
        rw [here, behind]
      · cases passed with
        | nil =>
            rw [List.append_nil] at within
            rw [← within]
            exact encounter.closings_events
        | cons first inside =>
            rw [List.cons_append, List.cons.injEq] at later
            obtain ⟨rfl, -⟩ := later
            rw [Encounter.nil_of_sought within seeks]
            rfl

end Requests

theorem sought?_of_isAloof {request : Request} (aloof : request.isAloof = true)
    (reply : request.Reply) : sought? ⟨request, reply⟩ = none := by
  cases request with
  | openDevice => cases aloof
  | _ => rfl

/-- A procedure that opens no device, however far it gets. -/
def OpensNothing {Result : Type} (procedure : Procedure Result) : Prop :=
  ∀ events rest, Path procedure events rest → events.filterMap sought? = []

theorem opensNothing_of_asks {Result : Type} {procedure : Procedure Result}
    (aloof : procedure.Asks fun request => request.isAloof = true) : OpensNothing procedure := by
  intro events rest path
  induction path with
  | here => rfl
  | say _ ih => exact ih aloof
  | @call request next events rest reply _ ih =>
      rw [List.filterMap_cons_none (sought?_of_isAloof aloof.1 reply)]
      exact ih (aloof.2 reply)

/-! ### The whole of listing -/

/--
What can come of listing: devices could not be enumerated, or each candidate of the vendor was met,
in the order in which they were found.
-/
inductive Listing (locator : Locator) : List Event → Except Error (List PortInfo) → Prop where
  | notEnumerated {events error}
      (failed : Path locator.source.enumerate events (.done (.error error))) :
      Listing locator events (.error error)
  | met {enumeration forgotten discovery encounters}
      (enumerated : Path locator.source.enumerate enumeration (.done (.ok discovery)))
      (own : encounters.map Encounter.candidate = discovery.candidates.filter
        fun candidate => decide (candidate.vendorId = locator.vendorId))
      (forgets : Path discovery.forget forgotten (.done ())) :
      Listing locator
        (enumeration ++ (eventsAfter discovery.context [] encounters ++ forgotten))
        (.ok (portsAfter [] encounters))

theorem list_path_iff {locator : Locator} {events : List Event}
    {result : Except Error (List PortInfo)} :
    Path locator.list events (.done result) ↔ Listing locator events result := by
  have tallies : Tallies [] [] := fun _ => rfl
  constructor
  · intro path
    cases result with
    | error error =>
        rcases path.of_bind_done with ⟨enumeration, rest, outcome, rfl, enumerated, path⟩
        cases outcome with
        | error cause =>
            rcases path.of_done with ⟨rfl, eq⟩
            cases eq
            rw [List.append_nil]
            exact .notEnumerated enumerated
        | ok discovery =>
            rcases path.of_bind_done with ⟨_, _, found, rfl, -, path⟩
            rcases path.of_bind_done with ⟨_, _, _, rfl, -, path⟩
            cases path with
            | say path => cases path.of_done.2
    | ok ports =>
        rcases list_path path with
          ⟨enumeration, visits, forgotten, discovery, rfl, enumerated, visited, forgets⟩
        rcases (visits_iff tallies).mp (Visits.of_path visited) with ⟨encounters, own, rfl, rfl⟩
        exact .met enumerated own forgets
  · intro listing
    cases listing with
    | notEnumerated failed => exact failed.bind rfl
    | @met _ _ discovery encounters enumerated own forgets =>
        have visited : Path (listFrom locator discovery.context [] discovery.candidates)
            (eventsAfter discovery.context [] encounters) (.done (portsAfter [] encounters)) :=
          ((visits_iff tallies).mpr ⟨encounters, own, rfl, rfl⟩).path
        exact (enumerated.bind rfl).append
          ((visited.bind rfl).append ((forgets.bind rfl).tells))

/--
How the devices that are met stand in the list: addresses and names differ, the indices of a product
are the first natural numbers, as many as devices of it opened and as there are indices, and each
string is there if the device has it. Every device is opened once and in turn, and no device is
opened before the one before it is closed.
-/
structure Inventory (context : Option Nat) (encounters : List Encounter) : Prop where
  addresses : ((portsAfter [] encounters).map (·.address)).Nodup
  names : ((portsAfter [] encounters).map (·.comName)).Nodup
  named : ∀ port ∈ portsAfter [] encounters, port.comName = port.address.text
  indices : ∀ productId,
    ((portsAfter [] encounters).filter fun port => decide (port.productId = productId)).map
      (·.address.index.toNat) = List.range (min (openCount encounters productId) 65536)
  devices : (eventsAfter context [] encounters).filterMap sought? =
    encounters.map (·.candidate.device)
  closedBefore : ∀ {before event after},
      eventsAfter context [] encounters = before ++ event :: after →
    (sought? event).isSome = true → closings before = openings before
  closed : closings (eventsAfter context [] encounters) =
    openings (eventsAfter context [] encounters)

/--
Listing fails only if enumerating fails. Otherwise it meets the candidates of its vendor and no
others, whatever they answer, and gives the ports of those that open and have fewer than 65536
twins before them that opened, each with the number of these as its index. No other device is
opened, since what it does before and after opens none.
-/
theorem lists_exactly (locator : Locator) :
    (∀ events result, Path locator.list events (.done result) ↔ Listing locator events result) ∧
      (∀ index reply text, shown index reply = some text ↔
        index.isSome = true ∧ reply = .ok text ∧ text ≠ "") ∧
      (∀ context encounters, Inventory context encounters) ∧
      OpensNothing Source.direct.enumerate ∧ OpensNothing Source.contexts.enumerate ∧
      ∀ discovery : Discovery, OpensNothing discovery.forget := by
  refine ⟨fun events result => list_path_iff, fun index reply text => shown_eq_some, ?_,
    opensNothing_of_asks Source.direct_aloof, opensNothing_of_asks Source.contexts_aloof,
    fun discovery => opensNothing_of_asks discovery.forget_asks⟩
  intro context encounters
  refine ⟨addresses_nodup, comNames_nodup, fun port => comName_eq, ?_, sought_eventsAfter,
    closings_of_sought, closings_eventsAfter⟩
  intro productId
  rw [indices_portsAfter, List.range_eq_range']
  simp [openCount]

/-- A device of another vendor, a twin that does not open and one that opens and has a name. -/
def sampleParty : List Candidate :=
  [⟨0, 0x1d50, 10927, 256, none, none, none⟩, sampleTwin 1,
    ⟨2, Profile.vendorId, 10927, 256, some 1, some 2, none⟩]

theorem named_twin_is_listed :
    ∃ encounters, Listing sample
        [⟨.enumerate, .ok sampleParty⟩, ⟨.openDevice none 1, .error .access⟩,
          ⟨.openDevice none 2, .ok ⟨5⟩⟩, ⟨.readString ⟨5⟩ 1, .ok "BLP"⟩,
          ⟨.readString ⟨5⟩ 2, .error .pipe⟩, ⟨.closeHandle ⟨5⟩, ()⟩]
        (.ok [{ samplePort 0 with manufacturer := some "BLP" }]) ∧
      [{ samplePort 0 with manufacturer := some "BLP" }] = portsAfter [] encounters ∧
      Inventory none encounters := by
  have path : Path sample.list _ (.done (.ok [{ samplePort 0 with manufacturer := some "BLP" }])) :=
    @Path.call _ .enumerate _ _ _ (.ok sampleParty)
      (@Path.call _ (.openDevice none 1) _ _ _ (.error .access)
        (.say (@Path.call _ (.openDevice none 2) _ _ _ (.ok ⟨5⟩)
          (@Path.call _ (.readString ⟨5⟩ 1) _ _ _ (.ok "BLP")
            (@Path.call _ (.readString ⟨5⟩ 2) _ _ _ (.error .pipe)
              (.say (.call () (.say .here))))))))
  rcases lists_exactly sample with ⟨listing, -, inventory, -⟩
  refine ⟨[⟨sampleTwin 1, .error .access, .error .other, .error .other, .error .other⟩,
    ⟨⟨2, Profile.vendorId, 10927, 256, some 1, some 2, none⟩, .ok ⟨5⟩, .ok "BLP", .error .pipe,
      .error .other⟩], (listing _ _).mp path, ?_, inventory _ _⟩
  decide

end Locator

end CdcSerial
