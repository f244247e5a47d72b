import CdcSerial.Proofs.Address
import Mathlib.Data.List.Forall2
import Mathlib.Data.List.Induction

/-!
# How addresses are spelled

Reading cuts a text into fields and adds up digits one by one. Here the texts that spell an address
are described without that: a digit is a place in the row of digits, a numeral has the positional
value of its digits, and an address is four fields between colons. Reading takes exactly these texts
and refuses every other one unchanged.

One address has many spellings, since ids may carry a mark, numbers a sign and zeros in front, and
letters come in either case. The canonical spelling has none of these. It is the one that is
written, and it is the only text that reading and writing again leaves as it is.
-/

namespace CdcSerial

namespace Numeral

/-- The digits in lower case. The place of a digit is its value. -/
def lowerDigits : List Char :=
  ['0', '1', '2', '3', '4', '5', '6', '7', '8', '9', 'a', 'b', 'c', 'd', 'e', 'f']

/-- The digits in upper case. -/
def upperDigits : List Char :=
  ['0', '1', '2', '3', '4', '5', '6', '7', '8', '9', 'A', 'B', 'C', 'D', 'E', 'F']

/-- That a character is a digit with this value in a radix. -/
def DigitOf (radix : Nat) (character : Char) (value : Nat) : Prop :=
  value < radix ∧ (lowerDigits[value]? = some character ∨ upperDigits[value]? = some character)

/-- That one or more digits have this value together, most significant first. -/
def Denotes (radix : Nat) (digits : List Char) (number : Nat) : Prop :=
  digits ≠ [] ∧ ∃ values, List.Forall₂ (DigitOf radix) digits values ∧
    number = Nat.ofDigits radix values.reverse

/-- That a text is a numeral for this number, behind at most one plus sign. -/
def Spells (radix : Nat) (text : List Char) (number : Nat) : Prop :=
  ∃ sign digits, text = sign ++ digits ∧ sign ∈ [[], ['+']] ∧ Denotes radix digits number

/-- That digits are in lower case and without needless zeros in front. -/
def Plain (radix : Nat) (digits : List Char) : Prop :=
  digits ≠ [] ∧ (∀ character ∈ digits, character ∈ lowerDigits.take radix) ∧
    (digits.head? = some '0' → digits = ['0'])

variable {radix : Nat}

theorem digitOf_of_digitValue? {character : Char} {value : Nat}
    (read : digitValue? radix character = some value) : DigitOf radix character value := by
  simp only [digitValue?, Option.filter_eq_some_iff, decide_eq_true_eq] at read
  rcases read with ⟨read, below⟩
  refine ⟨below, ?_⟩
  have code := Char.ofNat_toNat character
  -- each of the three runs of characters is a part of a row, in the same order
  split at read
  · rename_i decimal
    have row : ∀ place : Fin 10,
        lowerDigits[place.val]? = some (Char.ofNat (place + 48)) := by decide
    have there := row ⟨character.toNat - 48, by omega⟩
    simp only [Nat.sub_add_cancel decimal.1, code] at there
    exact .inl (Option.some.inj read ▸ there)
  split at read
  · rename_i lower
    have row : ∀ place : Fin 6, lowerDigits[place.val + 10]? = some (Char.ofNat (place + 97)) := by
      decide
    have there := row ⟨character.toNat - 97, by omega⟩
    have value : character.toNat - 97 + 10 = value := by cases read; omega
    simp only [Nat.sub_add_cancel lower.1, code, value] at there
    exact .inl there
  split at read
  · rename_i upper
    have row : ∀ place : Fin 6, upperDigits[place.val + 10]? = some (Char.ofNat (place + 65)) := by
      decide
    have there := row ⟨character.toNat - 65, by omega⟩
    have value : character.toNat - 65 + 10 = value := by cases read; omega
    simp only [Nat.sub_add_cancel upper.1, code, value] at there
    exact .inr there
  · cases read

theorem digitValue?_eq_some_iff (small : radix ≤ 16) {character : Char} {value : Nat} :
    digitValue? radix character = some value ↔ DigitOf radix character value := by
  refine ⟨digitOf_of_digitValue?, ?_⟩
  rintro ⟨below, placed⟩
  have rows : ∀ value : Fin 16, lowerDigits[value.val]?.bind (digitValue? 16) = some value.val ∧
      upperDigits[value.val]?.bind (digitValue? 16) = some value.val := by
    decide
  have read : digitValue? 16 character = some value := by
    rcases placed with lower | upper
    · simpa [lower] using (rows ⟨value, by omega⟩).1
    · simpa [upper] using (rows ⟨value, by omega⟩).2
  simp only [digitValue?, Option.filter_eq_some_iff, decide_eq_true_eq] at read ⊢
  exact ⟨read.1, below⟩

theorem accumulate_eq_some_iff (small : radix ≤ 16) {start number : Nat} {digits : List Char} :
    accumulate radix start digits = some number ↔
      ∃ values, List.Forall₂ (DigitOf radix) digits values ∧
        number = start * radix ^ digits.length + Nat.ofDigits radix values.reverse := by
  induction digits generalizing start with
  | nil => simp [accumulate, eq_comm]
  | cons character rest ih =>
      simp only [accumulate, Option.bind_eq_bind, Option.bind_eq_some_iff, ih,
        digitValue?_eq_some_iff small, List.forall₂_cons_left_iff]
      constructor
      · rintro ⟨value, digit, values, others, rfl⟩
        refine ⟨value :: values, ⟨value, values, digit, others, rfl⟩, ?_⟩
        rw [Nat.ofDigits_reverse_cons, ← others.length_eq, List.length_cons]
        ring
      · rintro ⟨_, ⟨value, values, digit, others, rfl⟩, rfl⟩
        refine ⟨value, digit, values, others, ?_⟩
        rw [Nat.ofDigits_reverse_cons, ← others.length_eq, List.length_cons]
        ring

theorem readDigits?_eq_some_iff (small : radix ≤ 16) {digits : List Char} {number : Nat} :
    readDigits? radix digits = some number ↔ Denotes radix digits number := by
  cases digits with
  | nil => simp [readDigits?, Denotes]
  | cons character rest =>
      rw [readDigits?, accumulate_eq_some_iff small]
      · simp [Denotes]
      · simp

/-- A character that is no digit is not in a run of digits. -/
theorem Denotes.not_mem (small : radix ≤ 16) {digits : List Char} {number : Nat} {character : Char}
    (denotes : Denotes radix digits number) (other : digitValue? 16 character = none) :
    character ∉ digits := by
  intro member
  rcases denotes with ⟨-, values, each, -⟩
  rcases List.forall₂_iff_get.mp each with ⟨length, each⟩
  rcases List.getElem_of_mem member with ⟨place, inside, rfl⟩
  rcases each place inside (length ▸ inside) with ⟨below, placed⟩
  have digit := (digitValue?_eq_some_iff (Nat.le_refl 16)).mpr ⟨by omega, placed⟩
  cases other.symm.trans digit

theorem Spells.not_mem (small : radix ≤ 16) {text : List Char} {number : Nat} {character : Char}
    (spells : Spells radix text number) (other : digitValue? 16 character = none)
    (unsigned : character ≠ '+') : character ∉ text := by
  rcases spells with ⟨sign, digits, rfl, signs, denotes⟩
  simp only [List.mem_cons, List.not_mem_nil, or_false] at signs
  rw [List.mem_append, not_or]
  refine ⟨?_, denotes.not_mem small other⟩
  rcases signs with rfl | rfl
  · exact List.not_mem_nil
  · simpa using unsigned

theorem read?_eq_some_iff (small : radix ≤ 16) {limit number : Nat} {text : List Char} :
    read? radix limit text = some number ↔ Spells radix text number ∧ number ≤ limit := by
  have plus : digitValue? 16 '+' = none := by decide
  unfold read?
  rw [Option.filter_eq_some_iff, decide_eq_true_eq, readDigits?_eq_some_iff small]
  refine and_congr_left fun _ => ⟨fun denotes => ?_, ?_⟩
  · split at denotes
    · exact ⟨['+'], _, rfl, by simp, denotes⟩
    · exact ⟨[], text, rfl, by simp, denotes⟩
  · rintro ⟨sign, digits, rfl, signs, denotes⟩
    simp only [List.mem_cons, List.not_mem_nil, or_false] at signs
    rcases signs with rfl | rfl
    · -- digits do not begin with a sign that would be taken off
      rw [List.nil_append]
      split
      · exact absurd List.mem_cons_self (denotes.not_mem small plus)
      · exact denotes
    · exact denotes

/-! ### The digits that are written -/

theorem lowerDigits_getElem? {place : Nat} (inside : place < 16) :
    lowerDigits[place]? = some (Nat.digitChar place) := by
  have row : ∀ place : Fin 16, lowerDigits[place.val]? = some (Nat.digitChar place) := by decide
  exact row ⟨place, inside⟩

theorem digitChar_mem {digit : Nat} (small : radix ≤ 16) (below : digit < radix) :
    Nat.digitChar digit ∈ lowerDigits.take radix := by
  refine List.mem_of_getElem? (i := digit) ?_
  rw [List.getElem?_take_of_lt below]
  exact lowerDigits_getElem? (by omega)

/-- Written digits begin with a zero only if that is all. -/
theorem write_head? (large : 1 < radix) (small : radix ≤ 16) {number : Nat}
    (zero : (write radix number).head? = some '0') : number = 0 := by
  induction number using Nat.strongRecOn with
  | ind number ih =>
      simp only [write] at ih zero
      rw [Nat.toDigits_eq_if large] at zero
      by_cases below : number < radix
      · have row : ∀ digit : Fin 16, Nat.digitChar digit = '0' → digit.val = 0 := by decide
        rw [if_pos below, List.head?_cons, Option.some.injEq] at zero
        exact row ⟨number, by omega⟩ zero
      · have smaller : number / radix < number := Nat.div_lt_self (by omega) large
        have positive : 0 < number / radix := Nat.div_pos (by omega) (by omega)
        rw [if_neg below, List.head?_append_of_ne_nil _ Nat.toDigits_ne_nil] at zero
        have vanishes := ih _ smaller zero
        omega

theorem write_plain (large : 1 < radix) (small : radix ≤ 16) (number : Nat) :
    Plain radix (write radix number) := by
  refine ⟨Nat.toDigits_ne_nil, ?_, ?_⟩
  · intro character member
    rcases mem_write large member with ⟨digit, below, rfl⟩
    exact digitChar_mem small below
  · intro zero
    rw [write_head? large small zero]
    exact Nat.toDigits_of_lt_base (by omega)

theorem eq_digitChar (small : radix ≤ 16) {character : Char} {digit : Nat}
    (lower : character ∈ lowerDigits.take radix)
    (value : digitValue? radix character = some digit) :
    character = Nat.digitChar digit := by
  rcases List.getElem?_of_mem lower with ⟨place, found⟩
  have below : place < radix := by
    rcases List.getElem?_eq_some_iff.mp found with ⟨inside, -⟩
    exact Nat.lt_of_lt_of_le inside (List.length_take_le ..)
  rw [List.getElem?_take_of_lt below, lowerDigits_getElem? (by omega), Option.some.injEq] at found
  subst found
  cases (digitValue?_digitChar small below).symm.trans value
  rfl

/-- Plain digits are those that are written for their value. -/
theorem eq_write_of_plain (large : 1 < radix) (small : radix ≤ 16) {digits : List Char}
    {number : Nat} (plain : Plain radix digits) (value : accumulate radix 0 digits = some number) :
    digits = write radix number := by
  induction digits using List.reverseRecOn generalizing number with
  | nil => exact absurd rfl plain.1
  | append_singleton front last ih =>
      rcases plain with ⟨-, lower, zeros⟩
      simp only [accumulate_append, accumulate, Option.bind_eq_bind, Option.bind_eq_some_iff,
        Option.some.injEq] at value
      rcases value with ⟨high, before, low, digit, rfl⟩
      have below : low < radix := (digitOf_of_digitValue? digit).1
      rw [eq_digitChar small (lower last (by simp)) digit]
      by_cases single : front = []
      · subst single
        simp only [accumulate, Option.some.injEq] at before
        rw [← before, Nat.zero_mul, Nat.zero_add, List.nil_append, write,
          Nat.toDigits_of_lt_base below]
      · -- with a digit behind it, the front cannot begin with a zero, so its value is not zero
        have nonzero : front.head? ≠ some '0' := by
          intro zero
          have whole := zeros (by rw [List.head?_append_of_ne_nil _ single, zero])
          exact single (List.append_inj' (whole.trans (List.nil_append _).symm) rfl).1
        have written : front = write radix high :=
          ih ⟨single, fun character member => lower character (List.mem_append_left _ member),
            fun zero => absurd zero nonzero⟩ before
        have positive : high ≠ 0 := by
          rintro rfl
          exact nonzero (by rw [written, write, Nat.toDigits_of_lt_base (by omega)]; rfl)
        have enough : radix ≤ high * radix := Nat.le_mul_of_pos_left radix (by omega)
        have quotient : (high * radix + low) / radix = high := by
          rw [Nat.mul_comm, Nat.mul_add_div (by omega), Nat.div_eq_of_lt below, Nat.add_zero]
        have remainder : (high * radix + low) % radix = low := by
          rw [Nat.mul_comm, Nat.mul_add_mod, Nat.mod_eq_of_lt below]
        rw [write, Nat.toDigits_eq_if large, if_neg (by omega), quotient, remainder, written, write]

theorem Plain.not_mem {digits : List Char} {character : Char} (plain : Plain radix digits)
    (other : character ∉ lowerDigits) : character ∉ digits :=
  fun member => other (List.mem_of_mem_take (plain.2.1 character member))

theorem Spells.eq_write (large : 1 < radix) (small : radix ≤ 16) {digits : List Char} {number : Nat}
    (spells : Spells radix digits number) (plain : Plain radix digits) :
    digits = write radix number := by
  rcases spells with ⟨sign, unsigned, rfl, signs, denotes⟩
  simp only [List.mem_cons, List.not_mem_nil, or_false] at signs
  rcases signs with rfl | rfl
  · rcases denotes with ⟨-, denoted⟩
    refine eq_write_of_plain large small plain ((accumulate_eq_some_iff small).mpr ?_)
    simpa using denoted
  · exact absurd List.mem_cons_self (plain.not_mem (by decide))

end Numeral

namespace Address

/-- That a field spells an id: a hexadecimal numeral behind at most one mark. -/
def SpellsId (field : List Char) (id : UInt16) : Prop :=
  ∃ mark numeral, field = mark ++ numeral ∧ mark ∈ [[], ['0', 'x'], ['0', 'X']] ∧
    Numeral.Spells 16 numeral id.toNat

/-- That a text spells an address. -/
def Spells (text : String) (address : Address) : Prop :=
  ∃ vendor product index, text.toList.splitOn ':' = [['u', 's', 'b'], vendor, product, index] ∧
    SpellsId vendor address.vendorId ∧ SpellsId product address.productId ∧
    Numeral.Spells 10 index address.index.toNat

/-- That a text has no marks, no signs, no letters in upper case and no needless zeros. -/
def Canonical (text : String) : Prop :=
  ∃ vendor product index, text.toList.splitOn ':' = [['u', 's', 'b'], vendor, product, index] ∧
    Numeral.Plain 16 vendor ∧ Numeral.Plain 16 product ∧ Numeral.Plain 10 index

theorem fields_eq_splitOn (text : List Char) : fields text = text.splitOn ':' := by
  induction text with
  | nil => rfl
  | cons character rest ih =>
      rw [List.splitOn, List.splitOnP_cons_eq_if_modifyHead, ← List.splitOn, ← ih, fields]
      by_cases colon : character = ':'
      · simp [colon]
      · cases parts : fields rest with
        | nil => exact absurd (ih.symm.trans parts) (List.splitOn_ne_nil _ _)
        | cons field others => simp [colon]

theorem map_ofNat_eq_some_iff {number? : Option Nat} (within : ∀ number ∈ number?, number ≤ 65535)
    {word : UInt16} : number?.map UInt16.ofNat = some word ↔ number? = some word.toNat := by
  rw [Option.map_eq_some_iff]
  constructor
  · rintro ⟨number, rfl, rfl⟩
    rw [UInt16.toNat_ofNat_of_lt' (Nat.lt_succ_of_le (within number rfl))]
  · rintro rfl
    exact ⟨_, rfl, UInt16.ofNat_toNat⟩

theorem readWord?_eq_some_iff {radix : Nat} (small : radix ≤ 16) {text : List Char}
    {word : UInt16} :
    (Numeral.read? radix 65535 text).map UInt16.ofNat = some word ↔
      Numeral.Spells radix text word.toNat := by
  rw [map_ofNat_eq_some_iff, Numeral.read?_eq_some_iff small]
  · exact and_iff_left (Nat.le_of_lt_succ word.toNat_lt)
  · exact fun number read => ((Numeral.read?_eq_some_iff small).mp read).2

theorem readId?_eq_some_iff {field : List Char} {id : UInt16} :
    readId? field = some id ↔ SpellsId field id := by
  rw [readId?, readWord?_eq_some_iff (Nat.le_refl 16)]
  constructor
  · intro spells
    unfold dropHexMark at spells
    split at spells
    · exact ⟨['0', 'x'], _, rfl, by simp, spells⟩
    · exact ⟨['0', 'X'], _, rfl, by simp, spells⟩
    · exact ⟨[], field, rfl, by simp, spells⟩
  · rintro ⟨mark, numeral, rfl, marks, spells⟩
    simp only [List.mem_cons, List.not_mem_nil, or_false] at marks
    rcases marks with rfl | rfl | rfl
    · -- a numeral has no letter that a mark has, so none is taken off
      rw [List.nil_append, dropHexMark_of_not_mem]
      · exact spells
      · exact spells.not_mem (Nat.le_refl 16) (by decide) (by decide)
      · exact spells.not_mem (Nat.le_refl 16) (by decide) (by decide)
    · exact spells
    · exact spells

theorem read?_eq_some_iff {text : String} {address : Address} :
    read? text = some address ↔ Spells text address := by
  unfold read?
  rw [fields_eq_splitOn]
  constructor
  · intro read
    split at read
    · rename_i scheme vendor product index parts
      simp only [Option.ite_none_right_eq_some, Option.bind_eq_bind,
        Option.bind_eq_some_iff] at read
      rcases read with ⟨rfl, vendorId, vendorRead, productId, productRead, place, placeRead, made⟩
      cases made
      exact ⟨vendor, product, index, parts, readId?_eq_some_iff.mp vendorRead,
        readId?_eq_some_iff.mp productRead, (readWord?_eq_some_iff (by omega)).mp placeRead⟩
    · cases read
  · rintro ⟨vendor, product, index, parts, vendorSpelled, productSpelled, indexSpelled⟩
    have indexRead : readIndex? index = some address.index :=
      (readWord?_eq_some_iff (by omega)).mpr indexSpelled
    simp [parts, readId?_eq_some_iff.mpr vendorSpelled, readId?_eq_some_iff.mpr productSpelled,
      indexRead]

theorem parse_eq_ok_iff (text : String) (address : Address) :
    parse text = .ok address ↔ Spells text address := by
  rw [← read?_eq_some_iff]
  unfold parse
  cases read? text <;> simp

/--
Reading gives an address exactly if the text spells it. Where a text spells no address, the error
carries the text as it is.
-/
theorem parse_spelling (text : String) :
    (∀ address, parse text = .ok address ↔ Spells text address) ∧
      ∀ error, parse text = .error error ↔
        (∀ address, ¬Spells text address) ∧ error = .invalidAddress text := by
  refine ⟨parse_eq_ok_iff text, fun error => ?_⟩
  simp only [← parse_eq_ok_iff]
  unfold parse
  cases read? text with
  | none => simp [eq_comm]
  | some address => simp

/-! ### The spelling that is written -/

theorem SpellsId.eq_write {field : List Char} {id : UInt16} (spells : SpellsId field id)
    (plain : Numeral.Plain 16 field) : field = Numeral.write 16 id.toNat := by
  rcases spells with ⟨mark, numeral, rfl, marks, spells⟩
  simp only [List.mem_cons, List.not_mem_nil, or_false] at marks
  rcases marks with rfl | rfl | rfl
  · exact spells.eq_write (by omega) (Nat.le_refl 16) plain
  · exact absurd (by simp) (plain.not_mem (by decide : 'x' ∉ Numeral.lowerDigits))
  · exact absurd (by simp) (plain.not_mem (by decide : 'X' ∉ Numeral.lowerDigits))

theorem splitOn_text (address : Address) :
    address.text.toList.splitOn ':' = [['u', 's', 'b'], Numeral.write 16 address.vendorId.toNat,
      Numeral.write 16 address.productId.toNat, Numeral.write 10 address.index.toNat] := by
  rw [text, String.toList_ofList, ← fields_eq_splitOn, fields_chars]

theorem text_canonical (address : Address) : Canonical address.text :=
  ⟨_, _, _, address.splitOn_text, Numeral.write_plain (by omega) (by omega) _,
    Numeral.write_plain (by omega) (by omega) _, Numeral.write_plain (by omega) (by omega) _⟩

/-- An address has one canonical spelling. -/
theorem Spells.text_eq {given : String} {address : Address} (spells : Spells given address)
    (canonical : Canonical given) : address.text = given := by
  rcases spells with ⟨vendor, product, index, parts, vendorSpelled, productSpelled, indexSpelled⟩
  rcases canonical with ⟨_, _, _, same, vendorPlain, productPlain, indexPlain⟩
  rw [parts] at same
  cases same
  have split : address.text.toList.splitOn ':' = given.toList.splitOn ':' := by
    rw [address.splitOn_text, parts, ← vendorSpelled.eq_write vendorPlain,
      ← productSpelled.eq_write productPlain,
      ← indexSpelled.eq_write (by omega) (by omega) indexPlain]
  have joined := congrArg ([':'].intercalate ·) split
  simp only [List.intercalate_splitOn] at joined
  exact String.toList_injective joined

/--
The text of every address is read back as that address, so different addresses have different texts.
Where a text is read as an address, the text of that address is its canonical spelling: it is read
as the same address, reading and writing again does not change it, and it is the given text exactly
if that was canonical already.
-/
theorem text_round_trip :
    (∀ address, parse address.text = .ok address) ∧ Function.Injective Address.text ∧
      ∀ given address, parse given = .ok address →
        Canonical address.text ∧ parse address.text = .ok address ∧
          (∀ again, parse address.text = .ok again → again.text = address.text) ∧
          (address.text = given ↔ Canonical given) := by
  refine ⟨parse_text, text_injective, ?_⟩
  intro given address parsed
  refine ⟨address.text_canonical, parse_text address, ?_, ?_, ?_⟩
  · intro again parsedAgain
    rw [parse_text] at parsedAgain
    rw [Except.ok.inj parsedAgain]
  · rintro rfl
    exact address.text_canonical
  · exact fun canonical => ((parse_eq_ok_iff given address).mp parsed).text_eq canonical

/-- A spelling with everything that is not canonical. -/
theorem loose_spelling_round_trip :
    parse "usb:0x16C0:0X+02aAf:+007" = .ok ⟨0x16c0, 0x2aaf, 7⟩ ∧
      Address.text ⟨0x16c0, 0x2aaf, 7⟩ = "usb:16c0:2aaf:7" ∧
      ¬Canonical "usb:0x16C0:0X+02aAf:+007" := by
  have parsed : parse "usb:0x16C0:0X+02aAf:+007" = .ok ⟨0x16c0, 0x2aaf, 7⟩ := by decide
  have written : Address.text ⟨0x16c0, 0x2aaf, 7⟩ = "usb:16c0:2aaf:7" := by decide
  refine ⟨parsed, written, fun canonical => ?_⟩
  have same := (text_round_trip.2.2 _ _ parsed).2.2.2.mpr canonical
  rw [written] at same
  exact absurd same (by decide)

end Address

end CdcSerial
