import CdcSerial.Proofs.Usb.Path
import CdcSerial.Usb.Contexts
import Mathlib.Algebra.Group.Nat.Defs
import Mathlib.Data.List.Forall2

/-!
# What an enumeration finds

A new context lists its devices, and their descriptors are read one by one. A device whose
descriptor cannot be read is left out, and every other one is a candidate that shows its descriptor.
`Enumeration` says this for all three ways in which an enumeration can go, and these are the paths
through the procedure.

The release number does not always come out as it went in. On its way over the parts the two leading
digits are one decimal number, so a second digit above nine carries into the first. The other three
digits can be anything.
-/

namespace CdcSerial

namespace Version

/-- Four digits of four bits each, most significant first. -/
def inPlaces (first second third fourth : Nat) : Nat :=
  2 ^ 12 * first + (2 ^ 8 * second + (2 ^ 4 * third + fourth))

theorem inPlaces_eq_or {first second third fourth : Nat} (small2 : second < 16)
    (small3 : third < 16) (small4 : fourth < 16) :
    2 ^ 12 * first ||| 2 ^ 8 * second ||| 2 ^ 4 * third ||| fourth =
      inPlaces first second third fourth := by
  have below4 : fourth < 2 ^ 4 := small4
  have below3 : 2 ^ 4 * third + fourth < 2 ^ 8 := by omega
  have below2 : 2 ^ 8 * second + (2 ^ 4 * third + fourth) < 2 ^ 12 := by omega
  rw [Nat.or_assoc, Nat.or_assoc, ← Nat.two_pow_add_eq_or_of_lt below4,
    ← Nat.two_pow_add_eq_or_of_lt below3, ← Nat.two_pow_add_eq_or_of_lt below2, inPlaces]

theorem digit_toNat (bcd : UInt16) {place : UInt16} (inside : place.toNat < 4) :
    (digit bcd place).toNat = bcd.toNat / 2 ^ (4 * place.toNat) % 16 := by
  have bits : (4 * place).toNat = 4 * place.toNat := by
    rw [UInt16.toNat_mul, show (4 : UInt16).toNat = 4 from rfl]
    omega
  have mask : (0x0F : UInt16).toNat = 2 ^ 4 - 1 := rfl
  rw [digit, UInt16.toNat_toUInt8, UInt16.toNat_and, UInt16.toNat_shiftRight, bits, mask,
    Nat.and_two_pow_sub_one_eq_mod, Nat.mod_eq_of_lt (by omega : 4 * place.toNat < 16),
    Nat.shiftRight_eq_div_pow]
  omega

theorem digit_lt (bcd : UInt16) {place : UInt16} (inside : place.toNat < 4) :
    (digit bcd place).toNat < 16 := by
  rw [digit_toNat bcd inside]
  exact Nat.mod_lt _ (by decide)

theorem toNat_eq_inPlaces (bcd : UInt16) :
    bcd.toNat = inPlaces (digit bcd 3).toNat (digit bcd 2).toNat (digit bcd 1).toNat
      (digit bcd 0).toNat := by
  have bound := bcd.toNat_lt
  rw [digit_toNat bcd (by decide), digit_toNat bcd (by decide), digit_toNat bcd (by decide),
    digit_toNat bcd (by decide), inPlaces]
  simp only [UInt16.reduceToNat]
  omega

theorem toBcd_toNat (version : Version) :
    version.toBcd.toNat = inPlaces (version.major.toNat / 10 % 16) (version.major.toNat % 10)
      (version.minor.toNat % 16) (version.subMinor.toNat % 16) := by
  have mask : (0x0F : UInt16).toNat = 2 ^ 4 - 1 := rfl
  -- what is shifted beyond the word is lost
  have room {value places : Nat} (few : places ≤ 16) :
      value * 2 ^ places % 2 ^ 16 = 2 ^ places * (value % 2 ^ (16 - places)) := by
    rw [← Nat.sub_add_cancel few, Nat.pow_add, Nat.mul_mod_mul_right, Nat.mul_comm,
      Nat.add_sub_cancel]
  have first : version.major.toNat / 10 % 2 ^ (16 - 12) = version.major.toNat / 10 % 16 := by omega
  have second : version.major.toNat % 10 % 2 ^ 8 = version.major.toNat % 10 := by omega
  have third : version.minor.toNat % 2 ^ 4 % 2 ^ 12 = version.minor.toNat % 16 := by omega
  simp only [toBcd, UInt16.toNat_or, UInt16.toNat_shiftLeft, UInt16.toNat_and, UInt16.toNat_div,
    UInt16.toNat_mod, UInt8.toNat_toUInt16, mask, Nat.and_two_pow_sub_one_eq_mod, Nat.shiftLeft_eq,
    UInt16.reduceToNat, Nat.reduceMod]
  rw [room (by decide), room (by decide), room (by decide), first, second, third,
    inPlaces_eq_or (by omega) (by omega) (by omega)]

/-- A release number whose second digit, if it is above nine, is carried into the first. -/
def carried (bcd : UInt16) : UInt16 := if digit bcd 2 < 10 then bcd else bcd + 0x0600

theorem toBcd_ofBcd (bcd : UInt16) : (ofBcd bcd).toBcd = carried bcd := by
  have small3 : (digit bcd 3).toNat < 16 := digit_lt bcd (by decide)
  have small2 : (digit bcd 2).toNat < 16 := digit_lt bcd (by decide)
  have small1 : (digit bcd 1).toNat < 16 := digit_lt bcd (by decide)
  have small0 : (digit bcd 0).toNat < 16 := digit_lt bcd (by decide)
  have places := toNat_eq_inPlaces bcd
  have major : (ofBcd bcd).major.toNat = 10 * (digit bcd 3).toNat + (digit bcd 2).toNat := by
    simp only [ofBcd, UInt8.toNat_add, UInt8.toNat_mul, UInt8.reduceToNat]
    omega
  rw [← UInt16.toNat_inj, toBcd_toNat, major]
  simp only [ofBcd, carried, UInt8.lt_iff_toNat_lt, UInt8.reduceToNat]
  split
  · rw [places]
    simp only [inPlaces]
    omega
  · rw [UInt16.toNat_add, places]
    simp only [inPlaces, UInt16.reduceToNat]
    omega

theorem carried_eq_self_iff (bcd : UInt16) : carried bcd = bcd ↔ digit bcd 2 < 10 := by
  unfold carried
  split
  · next decimal => exact ⟨fun _ => decimal, fun _ => rfl⟩
  · next above =>
      refine ⟨fun same => ?_, fun decimal => absurd decimal above⟩
      have bound := bcd.toNat_lt
      rw [← UInt16.toNat_inj, UInt16.toNat_add,
        show (0x0600 : UInt16).toNat = 1536 from rfl] at same
      omega

end Version

/-- The index of a string; zero means that there is no such string. -/
def stringIndex? (index : UInt8) : Option UInt8 := if index = 0 then none else some index

/-- A device in the list of a context, and what became of reading its descriptor. -/
structure Finding where
  attached : Attached
  descriptor : Except Status Descriptor

namespace Finding

/-- What is asked of the bus for a device. -/
def event (finding : Finding) : Event :=
  ⟨.readDescriptor finding.attached.device, finding.descriptor⟩

/-- Whether the descriptor of a device could be read. -/
def isReadable (finding : Finding) : Bool := finding.descriptor.isOk

/-- That a candidate is the device of a finding, with what its descriptor says. -/
inductive Shows : Finding → Candidate → Prop where
  | described {attached descriptor candidate} (device : candidate.device = attached.device)
      (vendorId : candidate.vendorId = descriptor.vendorId)
      (productId : candidate.productId = descriptor.productId)
      (bcdDevice : candidate.bcdDevice = Version.carried descriptor.bcdDevice)
      (manufacturer : candidate.manufacturerIndex = stringIndex? descriptor.manufacturerIndex)
      (serialNumber : candidate.serialNumberIndex = stringIndex? descriptor.serialNumberIndex)
      (product : candidate.productIndex = stringIndex? descriptor.productIndex) :
      Shows ⟨attached, .ok descriptor⟩ candidate

theorem shows_iff {attached : Attached} {descriptor : Descriptor} {candidate : Candidate} :
    Shows ⟨attached, .ok descriptor⟩ candidate ↔
      candidate = .ofDescriptor attached.device descriptor := by
  have strings (index : UInt8) : (some index).filter (· ≠ 0) = stringIndex? index := by
    by_cases unset : index = 0 <;> simp [stringIndex?, Option.filter, unset]
  constructor
  · intro shows
    cases shows with
    | described device vendorId productId bcdDevice manufacturer serialNumber product =>
        cases candidate
        simp only [Candidate.ofDescriptor, strings, Version.toBcd_ofBcd, Candidate.mk.injEq]
        exact ⟨device, vendorId, productId, bcdDevice, manufacturer, serialNumber, product⟩
  · rintro rfl
    exact .described rfl rfl rfl (Version.toBcd_ofBcd _) (strings _) (strings _) (strings _)

end Finding

namespace Source

open Procedure

/-- The candidates among some findings: the devices with a readable descriptor, in order. -/
def Describes (findings : List Finding) (candidates : List Candidate) : Prop :=
  List.Forall₂ Finding.Shows (findings.filter Finding.isReadable) candidates

theorem describes_cons_ok {attached : Attached} {descriptor : Descriptor} {findings : List Finding}
    {candidates : List Candidate} :
    Describes (⟨attached, .ok descriptor⟩ :: findings) candidates ↔
      ∃ others, candidates = .ofDescriptor attached.device descriptor :: others ∧
        Describes findings others := by
  have readable : Finding.isReadable ⟨attached, .ok descriptor⟩ = true := rfl
  simp only [Describes, List.filter_cons_of_pos readable, List.forall₂_cons_left_iff,
    Finding.shows_iff]
  constructor
  · rintro ⟨candidate, others, rfl, shown, rfl⟩
    exact ⟨others, rfl, shown⟩
  · rintro ⟨others, rfl, shown⟩
    exact ⟨_, others, rfl, shown, rfl⟩

theorem describes_cons_error {attached : Attached} {status : Status} {findings : List Finding}
    {candidates : List Candidate} :
    Describes (⟨attached, .error status⟩ :: findings) candidates ↔
      Describes findings candidates := by
  have unreadable : ¬Finding.isReadable ⟨attached, .error status⟩ = true := nofun
  simp only [Describes, List.filter_cons_of_neg unreadable]

theorem existsUnique_describes (findings : List Finding) :
    ∃! candidates, Describes findings candidates := by
  induction findings with
  | nil =>
      refine ⟨[], .nil, ?_⟩
      intro candidates describes
      cases describes
      rfl
  | cons finding findings ih =>
      rcases finding with ⟨attached, status | descriptor⟩
      · simpa only [describes_cons_error] using ih
      · rcases ih with ⟨candidates, describes, unique⟩
        refine ⟨_, describes_cons_ok.mpr ⟨candidates, rfl, describes⟩, ?_⟩
        intro others describesOthers
        rcases describes_cons_ok.mp describesOthers with ⟨behind, rfl, describesBehind⟩
        rw [unique behind describesBehind]

theorem describe_path_iff {devices : List Attached} {events : List Event}
    {candidates : List Candidate} :
    Path (describe devices) events (.done candidates) ↔
      ∃ findings : List Finding, findings.map Finding.attached = devices ∧
        events = findings.map Finding.event ∧ Describes findings candidates := by
  induction devices generalizing events candidates with
  | nil =>
      constructor
      · intro path
        rcases path.of_done with ⟨rfl, eq⟩
        cases eq
        exact ⟨[], rfl, rfl, .nil⟩
      · rintro ⟨findings, empty, rfl, describes⟩
        rw [List.map_eq_nil_iff] at empty
        subst empty
        cases describes
        exact .here
  | cons attached rest ih =>
      constructor
      · intro path
        cases path with
        | call reply path =>
            cases reply with
            | ok descriptor =>
                change Path ((describe rest).bind _) _ _ at path
                rcases Path.bind_iff.mp path with ⟨before, after, others, rfl, through, behind⟩
                rcases behind.of_done with ⟨rfl, eq⟩
                cases eq
                rcases ih.mp through with ⟨findings, rfl, rfl, describes⟩
                rw [List.append_nil]
                exact ⟨⟨attached, .ok descriptor⟩ :: findings, rfl, rfl,
                  describes_cons_ok.mpr ⟨others, rfl, describes⟩⟩
            | error status =>
                cases path with
                | say path =>
                    rcases ih.mp path with ⟨findings, rfl, rfl, describes⟩
                    exact ⟨⟨attached, .error status⟩ :: findings, rfl, rfl,
                      describes_cons_error.mpr describes⟩
      · rintro ⟨findings, same, rfl, describes⟩
        rcases List.map_eq_cons_iff.mp same with ⟨⟨device, descriptor⟩, others, rfl, rfl, rfl⟩
        cases descriptor with
        | ok descriptor =>
            rcases describes_cons_ok.mp describes with ⟨shown, rfl, behind⟩
            have through := ih.mpr ⟨others, rfl, rfl, behind⟩
            change Path _ (⟨.readDescriptor device.device, .ok descriptor⟩ :: _) _
            exact .call _ (through.bind rfl)
        | error status =>
            have through := ih.mpr ⟨others, rfl, rfl, describes_cons_error.mp describes⟩
            change Path _ (⟨.readDescriptor device.device, .error status⟩ :: _) _
            exact .call _ (.say through)

/--
How a context discovers: it cannot be made, or its devices cannot be listed, or all their
descriptors are asked for in turn. A context in which nothing was found is given up again.
-/
inductive Discovers : List Event → Except Error Discovery → Prop where
  | noContext {status} : Discovers [⟨.createContext, .error status⟩] (.error (.usb status))
  | notListed {context status} :
      Discovers
        [⟨.createContext, .ok context⟩, ⟨.listDevices context, .error status⟩,
          ⟨.forget context, ()⟩]
        (.error (.usb status))
  | nothing {context findings} (describes : Describes findings []) :
      Discovers
        (⟨.createContext, .ok context⟩ ::
          ⟨.listDevices context, .ok (findings.map Finding.attached)⟩ ::
          findings.map Finding.event ++ [⟨.forget context, ()⟩])
        (.ok ⟨none, []⟩)
  | found {context findings candidate others}
      (describes : Describes findings (candidate :: others)) :
      Discovers
        (⟨.createContext, .ok context⟩ ::
          ⟨.listDevices context, .ok (findings.map Finding.attached)⟩ ::
          findings.map Finding.event)
        (.ok ⟨some context, candidate :: others⟩)

theorem discover_path_iff {events : List Event} {outcome : Except Error Discovery} :
    Path discover events (.done outcome) ↔ Discovers events outcome := by
  constructor
  · intro path
    cases path with
    | call created path =>
    cases created with
    | error status =>
        rcases path.of_done with ⟨rfl, eq⟩
        cases eq
        exact .noContext
    | ok context =>
    cases path with
    | call listed path =>
    cases listed with
    | error status =>
        cases path with
        | call forgotten path =>
            rcases path.of_done with ⟨rfl, eq⟩
            cases eq
            exact .notListed
    | ok devices =>
        change Path ((describe devices).bind _) _ _ at path
        rcases Path.bind_iff.mp path with ⟨before, after, candidates, rfl, reading, path⟩
        rcases describe_path_iff.mp reading with ⟨findings, rfl, rfl, describes⟩
        cases candidates with
        | nil =>
            cases path with
            | say path =>
            cases path with
            | call forgotten path =>
                rcases path.of_done with ⟨rfl, eq⟩
                cases eq
                exact .nothing describes
        | cons candidate others =>
            cases path with
            | say path =>
                rcases path.of_done with ⟨rfl, eq⟩
                cases eq
                rw [List.append_nil]
                exact .found describes
  · intro discovers
    cases discovers with
    | noContext => exact .call _ .here
    | notListed => exact .call _ (.call _ (.call _ .here))
    | nothing describes =>
        have through := describe_path_iff.mpr ⟨_, rfl, rfl, describes⟩
        exact .call _ (.call _ ((through.bind rfl).append (.say (.call _ .here))))
    | found describes =>
        have through := describe_path_iff.mpr ⟨_, rfl, rfl, describes⟩
        exact .call _ (.call _ (through.bind rfl).tells)

/-- How an enumeration goes: a context discovers, and nobody else discovers meanwhile. -/
inductive Enumeration : List Event → Except Error Discovery → Prop where
  | alone {events outcome} (discovers : Discovers events outcome) :
      Enumeration (⟨.lockDiscovery, ()⟩ :: events ++ [⟨.unlockDiscovery, ()⟩]) outcome

theorem enumerate_path_iff {events : List Event} {outcome : Except Error Discovery} :
    Path contexts.enumerate events (.done outcome) ↔ Enumeration events outcome := by
  constructor
  · intro path
    cases path with
    | call locked path =>
        change Path (discover.bind _) _ _ at path
        rcases Path.bind_iff.mp path with ⟨before, after, between, rfl, through, path⟩
        cases path with
        | call unlocked path =>
            rcases path.of_done with ⟨rfl, eq⟩
            cases eq
            exact .alone (discover_path_iff.mp through)
  · rintro ⟨discovers⟩
    have through := discover_path_iff.mpr discovers
    exact .call _ ((through.bind rfl).append (.call _ .here))

/--
Once a context has listed its devices, an enumeration returns the candidates of those with a
readable descriptor, in order, each with what its descriptor says. The release number is the one of
the descriptor exactly when its second digit is decimal.
-/
theorem enumeration_shows_descriptors (events : List Event) (outcome : Except Error Discovery)
    (findings : List Finding) (bcd : UInt16) :
    (Path contexts.enumerate events (.done outcome) ↔ Enumeration events outcome) ∧
      (∃! candidates, Describes findings candidates) ∧
      (Version.carried bcd = bcd ↔ Version.digit bcd 2 < 10) :=
  ⟨enumerate_path_iff, existsUnique_describes findings, Version.carried_eq_self_iff bcd⟩

/-- A device of release 0x0A00 is enumerated with release 0x1000. -/
theorem hexadecimal_release_changes :
    let descriptor : Descriptor := ⟨0x16C0, 0x2AAF, 0x0A00, 0, 0, 0⟩
    ∃ candidate,
      Path contexts.enumerate
        [⟨.lockDiscovery, ()⟩, ⟨.createContext, .ok 0⟩, ⟨.listDevices 0, .ok [⟨0, 0, 0⟩]⟩,
          ⟨.readDescriptor 0, .ok descriptor⟩, ⟨.unlockDiscovery, ()⟩]
        (.done (.ok ⟨some 0, [candidate]⟩)) ∧
      candidate.bcdDevice = 0x1000 ∧ candidate.bcdDevice ≠ descriptor.bcdDevice := by
  intro descriptor
  refine ⟨.ofDescriptor 0 descriptor, ?_, by decide, by decide⟩
  exact .call _ (.call _ (.call _ (.call _ (.say (.call _ .here)))))

end Source

end CdcSerial
