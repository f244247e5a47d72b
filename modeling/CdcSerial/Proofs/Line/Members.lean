import CdcSerial.Proofs.Json.Written
import CdcSerial.Proofs.Line.Options
import Mathlib.Data.List.Duplicate
import Mathlib.Data.List.Perm.Basic

/-!
# Options as members of an object

The members of an object come in any order, some may be missing, and strangers may stand among them.
Filling a record goes through them once and keeps the keys that it has used. What it holds in
between depends on these keys only, so the order does not matter, and a key that comes again is
caught.

Options and updates are written as objects. Whatever is left out of such an object, however its
members are ordered and whatever members with other keys are put among them, it is read as the
record with the fields that are left. An object in which a key of the record comes twice is not read
at all.
-/

namespace CdcSerial

namespace Json

/-! ## Filling a record -/

/-- A member as it is read from its text. -/
def readMember (member : String × Value) : List Piece × Value :=
  (textPieces member.1, member.2.written)

section Fill

variable {Record : Type} {fields : List (Field Record)} {used : List String} {record : Record}

/-- The keys of the fields. -/
def keysOf (fields : List (Field Record)) : List String := fields.map (·.key)

theorem find?_eq_none_iff {key : String} :
    fields.find? (·.key == key) = none ↔ key ∉ keysOf fields := by
  simp [keysOf, List.find?_eq_none]

/-- What one member does. -/
theorem fillMembers?_cons (member : String × Value) (rest : List (List Piece × Value)) :
    fillMembers? fields used record (readMember member :: rest) =
      match fields.find? (·.key == member.1) with
      | none => fillMembers? fields used record rest
      | some field =>
        if used.contains member.1 then none
        else (field.set? member.2.written record).bind fun changed =>
          fillMembers? fields (member.1 :: used) changed rest := by
  rw [readMember, fillMembers?, characters?_textPieces, Option.map_some, String.ofList_toList]
  rfl

theorem fillMembers?_stranger {member : String × Value} (stranger : member.1 ∉ keysOf fields)
    (rest : List (List Piece × Value)) :
    fillMembers? fields used record (readMember member :: rest) =
      fillMembers? fields used record rest := by
  rw [fillMembers?_cons, find?_eq_none_iff.mpr stranger]

theorem fillMembers?_field {member : String × Value} {field : Field Record} {changed : Record}
    (found : fields.find? (·.key == member.1) = some field) (fresh : member.1 ∉ used)
    (set : field.set? member.2.written record = some changed) (rest : List (List Piece × Value)) :
    fillMembers? fields used record (readMember member :: rest) =
      fillMembers? fields (member.1 :: used) changed rest := by
  rw [fillMembers?_cons, found]
  simp [fresh, set]

/-- Filling fails with a member if it fails behind it, whatever this member did. -/
theorem fillMembers?_cons_eq_none {member : String × Value} {rest : List (List Piece × Value)}
    (stranger : member.1 ∉ keysOf fields → fillMembers? fields used record rest = none)
    (known : member.1 ∉ used →
      ∀ changed, fillMembers? fields (member.1 :: used) changed rest = none) :
    fillMembers? fields used record (readMember member :: rest) = none := by
  rw [fillMembers?_cons]
  cases found : fields.find? (·.key == member.1) with
  | none => exact stranger (find?_eq_none_iff.mp found)
  | some field =>
      by_cases again : member.1 ∈ used
      · simp [again]
      · cases set : field.set? member.2.written record <;> simp [again, set, known]

theorem fillMembers?_of_used {key : String} (known : key ∈ keysOf fields) (before : key ∈ used)
    {members : List (String × Value)} (again : key ∈ members.map Prod.fst) :
    fillMembers? fields used record (members.map readMember) = none := by
  induction members generalizing used record with
  | nil => cases again
  | cons member members ih =>
      have later (other : key ≠ member.1) : key ∈ members.map Prod.fst :=
        (List.mem_cons.mp again).resolve_left other
      refine fillMembers?_cons_eq_none (fun stranger => ?_) (fun fresh changed => ?_)
      · exact ih before (later fun same => stranger (same ▸ known))
      · exact ih (List.mem_cons_of_mem _ before) (later fun same => fresh (same ▸ before))

/-- A key does not come twice. -/
theorem fillMembers?_of_duplicate {key : String} (known : key ∈ keysOf fields)
    {members : List (String × Value)} (twice : (members.map Prod.fst).Duplicate key) :
    fillMembers? fields used record (members.map readMember) = none := by
  induction members generalizing used record with
  | nil => cases twice
  | cons member members ih =>
      rw [List.map_cons, List.duplicate_cons_iff] at twice
      refine fillMembers?_cons_eq_none (fun stranger => ?_) (fun fresh changed => ?_)
      · rcases twice with ⟨rfl, -⟩ | later
        · exact absurd known stranger
        · exact ih later
      · rcases twice with ⟨rfl, again⟩ | later
        · exact fillMembers?_of_used known List.mem_cons_self again
        · exact ih later

/--
That members fill a record field by field. `keeping keys` is what the record holds once the members
with these keys have come.
-/
structure Fills (fields : List (Field Record)) (keeping : List String → Record)
    (members : List (String × Value)) : Prop where
  apart : (members.map Prod.fst).Nodup
  wellFormed : ∀ member ∈ members, member.2.WellFormed
  sets : ∀ member ∈ members, ∃ field, fields.find? (·.key == member.1) = some field ∧
    ∀ used, field.set? member.2.written (keeping used) = some (keeping (member.1 :: used))
  keeping_congr : ∀ {keys others : List String}, (∀ key, key ∈ keys ↔ key ∈ others) →
    keeping keys = keeping others

variable {keeping : List String → Record} {members : List (String × Value)}

theorem Fills.known (fills : Fills fields keeping members) {member : String × Value}
    (inside : member ∈ members) : member.1 ∈ keysOf fields := by
  rcases fills.sets member inside with ⟨field, found, -⟩
  by_contra stranger
  rw [find?_eq_none_iff.mpr stranger] at found
  cases found

/-- The members of a list whose keys are known. -/
def ownMembers (fields : List (Field Record)) (members : List (String × Value)) :
    List (String × Value) :=
  members.filter fun member => member.1 ∈ keysOf fields

/-- What members in any order do, with strangers among them. -/
theorem Fills.fill_altered (fills : Fills fields keeping members) {altered : List (String × Value)}
    (own : ∀ member ∈ ownMembers fields altered, member ∈ members)
    (once : ((ownMembers fields altered).map Prod.fst).Nodup)
    (fresh : ∀ key ∈ (ownMembers fields altered).map Prod.fst, key ∉ used) :
    fillMembers? fields used (keeping used) (altered.map readMember) =
      some (keeping (((ownMembers fields altered).map Prod.fst).reverse ++ used)) := by
  -- at every point the record holds what the used keys keep
  induction altered generalizing used with
  | nil => rfl
  | cons member altered ih =>
      rw [List.map_cons]
      by_cases known : member.1 ∈ keysOf fields
      · have first : ownMembers fields (member :: altered) =
            member :: ownMembers fields altered := by
          simp [ownMembers, known]
        rw [first] at own once fresh ⊢
        rw [List.map_cons, List.nodup_cons] at once
        rw [List.map_cons, List.forall_mem_cons] at fresh
        rcases fills.sets member (own member List.mem_cons_self) with ⟨field, found, set⟩
        rw [fillMembers?_field found fresh.1 (set used), ih]
        · simp
        · exact fun other inside => own other (List.mem_cons_of_mem _ inside)
        · exact once.2
        · intro key inside
          rw [List.mem_cons, not_or]
          exact ⟨fun same => once.1 (same ▸ inside), fresh.2 key inside⟩
      · have first : ownMembers fields (member :: altered) = ownMembers fields altered := by
          simp [ownMembers, known]
        rw [first] at own once fresh ⊢
        rw [fillMembers?_stranger known, ih own once fresh]

theorem Fills.ownMembers_perm (fills : Fills fields keeping members)
    {kept foreign altered : List (String × Value)} (part : kept.Sublist members)
    (strangers : ∀ member ∈ foreign, member.1 ∉ keysOf fields)
    (mixed : altered.Perm (kept ++ foreign)) :
    (ownMembers fields altered).Perm kept := by
  have own : ownMembers fields kept = kept := by
    simpa [ownMembers] using fun key value inside => fills.known (part.subset inside)
  have others : ownMembers fields foreign = [] := by
    simpa [ownMembers] using fun key value inside => strangers (key, value) inside
  calc
    (ownMembers fields altered).Perm (ownMembers fields (kept ++ foreign)) := mixed.filter _
    _ = ownMembers fields kept ++ ownMembers fields foreign := List.filter_append ..
    _ = kept := by rw [own, others, List.append_nil]

end Fill

/-! ## Exchanging members -/

/--
That a record which is written with the given members survives what may happen to them: a part of
them is kept, in any order and with strangers anywhere among them. `read?` reads a record with the
known keys, and `keeping` is the record with all fields but those of the given keys at their
defaults. A known key that comes twice is not survived.
-/
structure Survives {Record : Type} (read? : String → Option Record) (known : List String)
    (members : List (String × Value)) (keeping : List String → Record) : Prop where
  rearranged : ∀ kept foreign altered : List (String × Value), kept.Sublist members →
    (∀ member ∈ foreign, member.1 ∉ known ∧ member.2.WellFormed) → altered.Perm (kept ++ foreign) →
      read? (Value.ofMembers altered).toText = some (keeping (kept.map Prod.fst))
  repeated : ∀ altered : List (String × Value), (∀ member ∈ altered, member.2.WellFormed) →
    ∀ key ∈ known, (altered.map Prod.fst).Duplicate key →
      read? (Value.ofMembers altered).toText = none

section Survival

variable {Record : Type} {fields : List (Field Record)} {keeping : List String → Record}
  {members : List (String × Value)}

theorem parse?_bind_fill? {altered : List (String × Value)}
    (wellFormed : ∀ member ∈ altered, member.2.WellFormed) (defaults : Record) :
    (parse? (Value.ofMembers altered).toText).bind (fill? fields defaults) =
      fillMembers? fields [] defaults (altered.map readMember) := by
  rw [(Value.ofMembers_wellFormed wellFormed).parse?_toText, Value.written_ofMembers]
  rfl

theorem Fills.survives (fills : Fills fields keeping members) :
    Survives (fun text => (parse? text).bind (fill? fields (keeping []))) (keysOf fields) members
      keeping where
  rearranged := by
    intro kept foreign altered part strangers mixed
    have own := fills.ownMembers_perm part (fun member inside => (strangers member inside).1) mixed
    have wellFormed : ∀ member ∈ altered, member.2.WellFormed := by
      intro member inside
      rcases List.mem_append.mp (mixed.mem_iff.mp inside) with inside | inside
      · exact fills.wellFormed member (part.subset inside)
      · exact (strangers member inside).2
    have once : ((ownMembers fields altered).map Prod.fst).Nodup :=
      (own.map Prod.fst).nodup_iff.mpr (fills.apart.sublist (part.map Prod.fst))
    rw [parse?_bind_fill? wellFormed,
      fills.fill_altered (fun member inside => part.subset (own.mem_iff.mp inside)) once (by simp)]
    refine congrArg some (fills.keeping_congr fun key => ?_)
    rw [List.append_nil, List.mem_reverse, (own.map Prod.fst).mem_iff]
  repeated := by
    intro altered wellFormed key known twice
    rw [parse?_bind_fill? wellFormed, fillMembers?_of_duplicate known twice]

end Survival

end Json

/-! ## Options -/

namespace StopBits

/-- The number of stop bits as it is written. -/
def literal : StopBits → Json.Number
  | .one => .ofParts false ['1'] ['0']
  | .oneAndHalf => .ofParts false ['1'] ['5']
  | .two => .ofParts false ['2'] ['0']

theorem stopBitsLiteral?_double (stopBits : StopBits) :
    OpenOptions.stopBitsLiteral? stopBits.double = some stopBits.literal := by
  cases stopBits <;> decide +kernel

theorem literal_toDouble? (stopBits : StopBits) :
    stopBits.literal.toDouble? = some stopBits.double := by
  cases stopBits <;> decide +kernel

theorem literal_wellFormed (stopBits : StopBits) : stopBits.literal.WellFormed := by
  cases stopBits <;> decide

end StopBits

namespace OpenOptions

/-- The options with all fields but those of the given keys at their defaults. -/
def keeping (options : OpenOptions) (keys : List String) : OpenOptions where
  baudRate := if "baudRate" ∈ keys then options.baudRate else ({} : OpenOptions).baudRate
  dataBits := if "dataBits" ∈ keys then options.dataBits else ({} : OpenOptions).dataBits
  stopBits := if "stopBits" ∈ keys then options.stopBits else ({} : OpenOptions).stopBits
  parity := if "parity" ∈ keys then options.parity else ({} : OpenOptions).parity

/-- The members with which options are written. -/
def members (options : OpenOptions) (stopBits : Json.Number) : List (String × Json.Value) :=
  [ ("baudRate", .ofNat options.baudRate.toNat), ("dataBits", .ofNat options.dataBits.toNat),
    ("stopBits", .number stopBits), ("parity", .ofString options.parity) ]

theorem nat?_written_ofNat {limit number : Nat} (within : number ≤ limit) :
    (Json.Value.ofNat number).written.nat? limit = some number := by
  simp [Json.Value.ofNat, Json.Value.nat?, Json.Number.ofNat, Json.Number.toNat?,
    Numeral.readDigits?_write, within]

theorem string?_written_ofString (text : String) :
    (Json.Value.ofString text).written.string? = some text := by
  rw [Json.Value.ofString, Json.Value.written_string, Json.Value.string?, ← Json.textPieces,
    Json.characters?_textPieces, Option.map_some, String.ofList_toList]

theorem members_fill (options : OpenOptions) {stopBits : Json.Number}
    (wellFormed : stopBits.WellFormed) (means : stopBits.toDouble? = some options.stopBits) :
    Json.Fills jsonFields options.keeping (options.members stopBits) where
  apart := by simp [members]
  wellFormed := by
    simp only [members, List.forall_mem_cons, List.not_mem_nil, false_implies,
      implies_true, and_true]
    exact ⟨.number (Json.Number.ofNat_wellFormed _), .number (Json.Number.ofNat_wellFormed _),
      .number wellFormed, Json.Value.ofString_wellFormed _⟩
  sets := by
    simp only [members, List.forall_mem_cons, List.not_mem_nil, false_implies,
      implies_true, and_true]
    refine ⟨⟨_, rfl, fun used => ?_⟩, ⟨_, rfl, fun used => ?_⟩, ⟨_, rfl, fun used => ?_⟩,
      ⟨_, rfl, fun used => ?_⟩⟩
    · simp [nat?_written_ofNat (Nat.le_of_lt_succ options.baudRate.toNat_lt), keeping]
    · simp [nat?_written_ofNat (Nat.le_of_lt_succ options.dataBits.toNat_lt), keeping]
    · simp [Json.Value.double?, means, keeping]
    · simp [string?_written_ofString, keeping]
  keeping_congr := by
    intro keys others same
    simp only [keeping, same]

theorem toJson?_eq (options : OpenOptions) (stopBits : StopBits)
    (requested : options.stopBits = stopBits.double) :
    options.toJson? = some (.ofMembers (options.members stopBits.literal)) := by
  rw [toJson?, requested, stopBits.stopBitsLiteral?_double]
  rfl

end OpenOptions

namespace SetOptions

/-- The update with all fields but those of the given keys absent. -/
def keeping (options : SetOptions) (keys : List String) : SetOptions where
  brk := if "brk" ∈ keys then options.brk else none
  dtr := if "dtr" ∈ keys then options.dtr else none
  rts := if "rts" ∈ keys then options.rts else none

/-- The keys of the fields that an update supplies. -/
def supplied (options : SetOptions) : List String :=
  [("brk", options.brk), ("dtr", options.dtr), ("rts", options.rts)].filterMap fun (key, value) =>
    value.map fun _ => key

/-- The members with which an update is written. -/
def members (options : SetOptions) : List (String × Json.Value) :=
  [("brk", options.brk), ("dtr", options.dtr), ("rts", options.rts)].filterMap fun (key, value) =>
    value.map fun truth => (key, .boolean truth)

theorem toJson_eq (options : SetOptions) : options.toJson = .ofMembers options.members := by
  rw [toJson, members]
  rfl

theorem members_keys (options : SetOptions) : options.members.map Prod.fst = options.supplied := by
  rcases options with ⟨- | brk, - | dtr, - | rts⟩ <;> rfl

theorem forall_mem_members {options : SetOptions} {holds : String × Json.Value → Prop}
    (brk : ∀ truth ∈ options.brk, holds ("brk", .boolean truth))
    (dtr : ∀ truth ∈ options.dtr, holds ("dtr", .boolean truth))
    (rts : ∀ truth ∈ options.rts, holds ("rts", .boolean truth)) :
    ∀ member ∈ options.members, holds member := by
  intro member inside
  simp only [members, List.mem_filterMap, List.mem_cons, List.not_mem_nil, or_false,
    Option.map_eq_some_iff] at inside
  rcases inside with ⟨_, rfl | rfl | rfl, truth, given, rfl⟩
  · exact brk truth given
  · exact dtr truth given
  · exact rts truth given

theorem members_fill (options : SetOptions) :
    Json.Fills jsonFields options.keeping options.members where
  apart := by
    rw [members_keys]
    rcases options with ⟨- | brk, - | dtr, - | rts⟩ <;> simp [supplied]
  wellFormed :=
    forall_mem_members (fun _ _ => .boolean _) (fun _ _ => .boolean _) fun _ _ => .boolean _
  sets := by
    refine forall_mem_members ?_ ?_ ?_
    all_goals
      intro truth given
      refine ⟨_, rfl, fun used => ?_⟩
      simp [Json.Value.optionalBoolean?, keeping, Option.mem_def.mp given]
  keeping_congr := by
    intro keys others same
    simp only [keeping, same]

end SetOptions

/--
Options with 1, 1.5 or 2 stop bits survive the exchange of their members, and so does every update.
Options are written with all four fields, an update with the fields that it supplies. Any part of
these members in any order, with members of any other keys anywhere among them, is read as the
record with the other fields at their defaults. Where a key of the record comes twice, nothing is
read.
-/
theorem options_survive_rearranging :
    (∀ options : OpenOptions, options.stopBits.value? ∈ [some 1, some (3 / 2), some 2] →
      ∃ members, options.toJson? = some (.ofMembers members) ∧
        members.map Prod.fst = ["baudRate", "dataBits", "stopBits", "parity"] ∧
        Json.Survives OpenOptions.ofText? ["baudRate", "dataBits", "stopBits", "parity"] members
          options.keeping) ∧
    ∀ options : SetOptions, ∃ members, options.toJson = .ofMembers members ∧
      members.map Prod.fst = options.supplied ∧
      Json.Survives SetOptions.ofText? ["brk", "dtr", "rts"] members options.keeping := by
  constructor
  · intro options known
    rcases StopBits.exists_count_of_mem known with ⟨stopBits, counted⟩
    have requested : options.stopBits = stopBits.double := StopBits.value?_eq_count_iff.mp counted
    have means : stopBits.literal.toDouble? = some options.stopBits := by
      rw [requested, stopBits.literal_toDouble?]
    exact ⟨_, options.toJson?_eq stopBits requested, rfl,
      (options.members_fill stopBits.literal_wellFormed means).survives⟩
  · intro options
    exact ⟨options.members, options.toJson_eq, options.members_keys, options.members_fill.survives⟩

/--
Fields are missing, strangers stand in front, and the name of a field comes inside one of them.
-/
theorem rearranged_options_read :
    OpenOptions.ofText?
        ("\x7b\"x\":\x7b\"parity\":true\x7d,\"x\":[-7]," ++
          "\"parity\":\"\\\"\\\\\\u0001é\",\"stopBits\":1.5\x7d") =
      some { stopBits := StopBits.oneAndHalf.double, parity := "\"\\\x01é" } ∧
    OpenOptions.ofText? "\x7b\"stopBits\":1.5,\"x\":null,\"stopBits\":2.0\x7d" = none ∧
    SetOptions.ofText? "\x7b\"x\":null,\"rts\":false\x7d" = some { rts := some false } ∧
    SetOptions.ofText? "\x7b\"dtr\":true,\"dtr\":true\x7d" = none := by
  have known : StopBits.oneAndHalf.double.value? ∈ [some 1, some (3 / 2), some 2] := by
    simp [StopBits.double_value?, StopBits.count]
  rcases options_survive_rearranging.1 ⟨115200, 7, StopBits.oneAndHalf.double, "\"\\\x01é"⟩
    known with ⟨members, written, -, survives⟩
  rcases options_survive_rearranging.2 ⟨some true, none, some false⟩ with
    ⟨updates, updated, -, survivesUpdate⟩
  have same := written.symm.trans (OpenOptions.toJson?_eq _ .oneAndHalf rfl)
  cases Json.Value.ofMembers_injective (Option.some.inj same)
  cases Json.Value.ofMembers_injective (updated.symm.trans (SetOptions.toJson_eq _))
  refine ⟨?_, ?_, ?_, ?_⟩
  · have strangers : ∀ member ∈ [("x", Json.Value.array [.number ⟨true, ['7'], none, none⟩]),
        ("x", .ofMembers [("parity", .boolean true)])],
        member.1 ∉ ["baudRate", "dataBits", "stopBits", "parity"] ∧ member.2.WellFormed := by
      simp only [List.forall_mem_cons, List.not_mem_nil, false_implies, implies_true, and_true]
      refine ⟨⟨by decide, .array ?_⟩, by decide, Json.Value.ofMembers_wellFormed ?_⟩
      · simpa using .number (by decide)
      · simpa using .boolean true
    have read := survives.rearranged _ _ _
      (.cons _ (.cons _ (.cons_cons _ (.cons_cons _ .slnil)))) strangers (List.reverse_perm _)
    exact read
  · have wellFormed : ∀ member ∈ [("stopBits", Json.Value.number (.ofParts false ['1'] ['5'])),
        ("x", .null), ("stopBits", .number (.ofParts false ['2'] ['0']))], member.2.WellFormed := by
      simp only [List.forall_mem_cons, List.not_mem_nil, false_implies, implies_true, and_true]
      exact ⟨.number (by decide), .null, .number (by decide)⟩
    have read := survives.repeated _ wellFormed "stopBits" (by decide) (by decide)
    exact read
  · have strangers : ∀ member ∈ [("x", Json.Value.null)],
        member.1 ∉ ["brk", "dtr", "rts"] ∧ member.2.WellFormed := by
      simpa using .null
    have read := survivesUpdate.rearranged _ _ _ (.cons _ (.cons_cons _ .slnil)) strangers
      (List.reverse_perm _)
    exact read
  · have wellFormed : ∀ member ∈ [("dtr", Json.Value.boolean true), ("dtr", .boolean true)],
        member.2.WellFormed := by
      simpa using .boolean true
    have read := survivesUpdate.repeated _ wellFormed "dtr" (by decide) (by decide)
    exact read

end CdcSerial
