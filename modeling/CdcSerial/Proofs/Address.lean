import CdcSerial.Address
import Mathlib.Data.Nat.Digits.Defs

/-!
# Addresses and their texts

The digits that are written for a number are read back as that number, and none of them is a colon
or one of the marks that may stand before a number. So the text of an address falls into its four
fields again.
-/

namespace CdcSerial

namespace Numeral

variable {radix : Nat}

theorem digitValue?_digitChar (small : radix ≤ 16) {digit : Nat} (below : digit < radix) :
    digitValue? radix (Nat.digitChar digit) = some digit := by
  have hex : ∀ digit : Fin 16, digitValue? 16 (Nat.digitChar digit) = some digit.val := by decide
  have value := hex ⟨digit, by omega⟩
  simp only [digitValue?, Option.filter_eq_some_iff, decide_eq_true_eq] at value ⊢
  exact ⟨value.1, below⟩

theorem accumulate_append (start : Nat) (first second : List Char) :
    accumulate radix start (first ++ second) =
      (accumulate radix start first).bind (accumulate radix · second) := by
  induction first generalizing start with
  | nil => rfl
  | cons character rest ih =>
      simp only [List.cons_append, accumulate]
      cases digitValue? radix character with
      | none => rfl
      | some value => exact ih _

theorem accumulate_write (large : 1 < radix) (small : radix ≤ 16) (number : Nat) :
    accumulate radix 0 (write radix number) = some number := by
  induction number using Nat.strongRecOn with
  | ind number ih =>
      simp only [write] at ih ⊢
      rw [Nat.toDigits_eq_if large]
      by_cases below : number < radix
      · simp [below, accumulate, digitValue?_digitChar small below]
      · have smaller : number / radix < number := Nat.div_lt_self (by omega) large
        have last : number % radix < radix := Nat.mod_lt _ (by omega)
        rw [if_neg below, accumulate_append, ih _ smaller]
        simp [accumulate, digitValue?_digitChar small last, Nat.div_add_mod']

theorem mem_write (large : 1 < radix) {number : Nat} {character : Char}
    (member : character ∈ write radix number) :
    ∃ digit, digit < radix ∧ character = Nat.digitChar digit := by
  induction number using Nat.strongRecOn with
  | ind number ih =>
      simp only [write] at ih member
      rw [Nat.toDigits_eq_if large] at member
      by_cases below : number < radix
      · rw [if_pos below, List.mem_singleton] at member
        exact ⟨number, below, member⟩
      · rw [if_neg below, List.mem_append, List.mem_singleton] at member
        rcases member with early | last
        · exact ih _ (Nat.div_lt_self (by omega) large) early
        · exact ⟨number % radix, Nat.mod_lt _ (by omega), last⟩

/-- A character that has no value in radix sixteen is not among the digits of a number. -/
theorem not_mem_write (large : 1 < radix) (small : radix ≤ 16) (number : Nat) {character : Char}
    (foreign : digitValue? 16 character = none) : character ∉ write radix number := by
  intro member
  rcases mem_write large member with ⟨digit, below, rfl⟩
  rw [digitValue?_digitChar (Nat.le_refl 16) (by omega)] at foreign
  cases foreign

theorem read?_write (large : 1 < radix) (small : radix ≤ 16) {number limit : Nat}
    (within : number ≤ limit) : read? radix limit (write radix number) = some number := by
  have plain : '+' ∉ write radix number := not_mem_write large small number (by decide)
  have value := accumulate_write large small number
  cases digits : write radix number with
  | nil => exact absurd digits Nat.toDigits_ne_nil
  | cons head tail =>
      rw [digits] at plain value
      have other : head ≠ '+' := fun eq => plain (eq ▸ List.mem_cons_self)
      unfold read?
      split
      · rename_i rest eq
        exact absurd (List.cons.inj eq).1 other
      · simp [readDigits?, value, within]

end Numeral

namespace Address

theorem dropHexMark_of_not_mem {field : List Char} (small : 'x' ∉ field) (large : 'X' ∉ field) :
    dropHexMark field = field := by
  unfold dropHexMark
  split
  · simp at small
  · simp at large
  · rfl

theorem fields_of_not_mem {field : List Char} (plain : ':' ∉ field) : fields field = [field] := by
  induction field with
  | nil => rfl
  | cons character rest ih =>
      simp only [List.mem_cons, not_or] at plain
      simp [fields, Ne.symm plain.1, ih plain.2]

theorem fields_append {field : List Char} (plain : ':' ∉ field) (rest : List Char) :
    fields (field ++ ':' :: rest) = field :: fields rest := by
  induction field with
  | nil => simp [fields]
  | cons character tail ih =>
      simp only [List.mem_cons, not_or] at plain
      simp [fields, Ne.symm plain.1, ih plain.2]

theorem readId?_write (id : UInt16) : readId? (Numeral.write 16 id.toNat) = some id := by
  have small : 'x' ∉ Numeral.write 16 id.toNat :=
    Numeral.not_mem_write (by omega) (by omega) _ (by decide)
  have large : 'X' ∉ Numeral.write 16 id.toNat :=
    Numeral.not_mem_write (by omega) (by omega) _ (by decide)
  have within : id.toNat ≤ 65535 := Nat.le_of_lt_succ id.toNat_lt
  rw [readId?, dropHexMark_of_not_mem small large,
    Numeral.read?_write (by omega) (by omega) within]
  simp

theorem readIndex?_write (index : UInt16) :
    readIndex? (Numeral.write 10 index.toNat) = some index := by
  have within : index.toNat ≤ 65535 := Nat.le_of_lt_succ index.toNat_lt
  rw [readIndex?, Numeral.read?_write (by omega) (by omega) within]
  simp

theorem fields_chars (address : Address) :
    fields address.chars = [['u', 's', 'b'], Numeral.write 16 address.vendorId.toNat,
      Numeral.write 16 address.productId.toNat, Numeral.write 10 address.index.toNat] := by
  have plain (number : Nat) : ':' ∉ Numeral.write 16 number :=
    Numeral.not_mem_write (by omega) (by omega) _ (by decide)
  have plainIndex (number : Nat) : ':' ∉ Numeral.write 10 number :=
    Numeral.not_mem_write (by omega) (by omega) _ (by decide)
  have scheme : ':' ∉ ['u', 's', 'b'] := by decide
  have chars : address.chars = ['u', 's', 'b'] ++ ':' :: (Numeral.write 16 address.vendorId.toNat ++
      ':' :: (Numeral.write 16 address.productId.toNat ++
        ':' :: Numeral.write 10 address.index.toNat)) := by
    have start : "usb:".toList = ['u', 's', 'b', ':'] := rfl
    unfold Address.chars
    rw [start]
    simp only [List.append_assoc, List.cons_append, List.nil_append]
  rw [chars, fields_append scheme, fields_append (plain _), fields_append (plain _),
    fields_of_not_mem (plainIndex _)]

theorem read?_text (address : Address) : read? address.text = some address := by
  simp [read?, text, fields_chars, readId?_write, readIndex?_write]

theorem parse_text (address : Address) : parse address.text = .ok address := by
  rw [parse, read?_text]

/-- Different addresses have different texts. -/
theorem text_injective : Function.Injective Address.text := by
  intro first second same
  have read := read?_text first
  rw [same, read?_text second] at read
  exact (Option.some.inj read).symm

end Address

end CdcSerial
