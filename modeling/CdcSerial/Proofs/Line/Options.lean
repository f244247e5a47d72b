import CdcSerial.Line.Options
import CdcSerial.Proofs.Double.Value
import Mathlib.Data.List.Forall2
import Mathlib.Tactic.NormNum.Inv
import Mathlib.Tactic.NormNum.Pow

/-!
# What options request

The check of options and the two lenient readings of stop bits and parity are written separately.
They agree: options pass the check exactly if some line configuration is what they request, and then
the configuration nearest to them is this one. A number of stop bits is read as a rational number
here, and a name up to the case of its letters.
-/

namespace CdcSerial

/-! ## Numbers of stop bits -/

namespace StopBits

/-- How many stop bits there are. -/
def count : StopBits → ℚ
  | .one => 1
  | .oneAndHalf => 3 / 2
  | .two => 2

/-- The number of stop bits as a double. -/
def double : StopBits → Double
  | .one => ⟨0x3FF0000000000000⟩
  | .oneAndHalf => ⟨0x3FF8000000000000⟩
  | .two => ⟨0x4000000000000000⟩

theorem double_value? (stopBits : StopBits) : stopBits.double.value? = some stopBits.count := by
  have fields (stopBits : StopBits) : stopBits.double.isFinite = true ∧
      stopBits.double.negative = false := by
    cases stopBits <;> decide
  rw [Double.value?, if_pos (fields stopBits).1, (fields stopBits).2]
  cases stopBits with
  | one =>
      have mantissa : StopBits.one.double.mantissa = 2 ^ 52 := by decide
      have exponent : StopBits.one.double.exponent = -52 := by decide
      norm_num [mantissa, exponent, count]
  | oneAndHalf =>
      have mantissa : StopBits.oneAndHalf.double.mantissa = 3 * 2 ^ 51 := by decide
      have exponent : StopBits.oneAndHalf.double.exponent = -52 := by decide
      norm_num [mantissa, exponent, count]
  | two =>
      have mantissa : StopBits.two.double.mantissa = 2 ^ 52 := by decide
      have exponent : StopBits.two.double.exponent = -51 := by decide
      norm_num [mantissa, exponent, count]

theorem value?_eq_count_iff {requested : Double} {stopBits : StopBits} :
    requested.value? = some stopBits.count ↔ requested = stopBits.double := by
  constructor
  · intro means
    have finite : stopBits.double.isFinite = true := by cases stopBits <;> decide
    have same := (Double.same_iff_value? finite).mpr (stopBits.double_value?.trans means.symm)
    exact Double.eq_of_same finite (by cases stopBits <;> decide)
      (by cases stopBits <;> decide) same
  · rintro rfl
    exact stopBits.double_value?

theorem exists_count_of_mem {requested : Double}
    (known : requested.value? ∈ [some 1, some (3 / 2), some 2]) :
    ∃ stopBits : StopBits, requested.value? = some stopBits.count := by
  simp only [List.mem_cons, List.not_mem_nil, or_false] at known
  rcases known with one | oneAndHalf | two
  · exact ⟨.one, one⟩
  · exact ⟨.oneAndHalf, oneAndHalf⟩
  · exact ⟨.two, two⟩

theorem ofRequested_double (stopBits : StopBits) : ofRequested stopBits.double = stopBits := by
  cases stopBits <;> decide

end StopBits

/-! ## Names of parities -/

/-- That a character is a lower-case one or, if this is a letter, its capital. -/
inductive SameLetter (lower : Char) : Char → Prop where
  | itself : SameLetter lower lower
  | capital {upper : Char} (place : Nat) (letter : place < 26) (isLower : lower.toNat = 97 + place)
      (isUpper : upper.toNat = 65 + place) : SameLetter lower upper

/-- That a text is a lower-case text up to the case of its letters. -/
def SameText (lower text : String) : Prop := List.Forall₂ SameLetter lower.toList text.toList

theorem toLower_toNat (char : Char) :
    char.toLower.toNat = if 65 ≤ char.toNat ∧ char.toNat ≤ 90 then char.toNat + 32
    else char.toNat := by
  unfold Char.toLower
  have bounds : char.val ≥ 'A'.val ∧ char.val ≤ 'Z'.val ↔
      65 ≤ char.toNat ∧ char.toNat ≤ 90 := Iff.rfl
  by_cases capital : char.val ≥ 'A'.val ∧ char.val ≤ 'Z'.val
  · rw [dif_pos capital, if_pos (bounds.mp capital)]
    have below := (bounds.mp capital).2
    change (char.val + 32).toNat = char.val.toNat + 32
    rw [UInt32.toNat_add]
    exact Nat.mod_eq_of_lt (by change char.toNat + 32 < _; omega)
  · rw [dif_neg capital, if_neg (mt bounds.mpr capital)]

theorem sameLetter_iff {lower char : Char} (isLower : ¬(65 ≤ lower.toNat ∧ lower.toNat ≤ 90)) :
    SameLetter lower char ↔ lower = char.toLower := by
  rw [← Char.toNat_inj, toLower_toNat]
  constructor
  · intro same
    cases same with
    | itself => rw [if_neg isLower]
    | capital place letter isLower isUpper =>
        rw [if_pos (by omega)]
        omega
  · split
    · next capital =>
        intro same
        exact .capital (char.toNat - 65) (by omega) (by omega) (by omega)
    · intro same
      rw [Char.toNat_inj.mp same]
      exact .itself

theorem sameText_iff {lower text : String}
    (isLower : ∀ char ∈ lower.toList, ¬(65 ≤ char.toNat ∧ char.toNat ≤ 90)) :
    SameText lower text ↔ lower.toList = text.toList.map Char.toLower := by
  unfold SameText
  generalize lower.toList = name at isLower ⊢
  generalize text.toList = chars
  induction name generalizing chars with
  | nil => cases chars <;> simp
  | cons first name ih =>
      cases chars with
      | nil => simp
      | cons char chars =>
          simp only [List.forall_mem_cons] at isLower
          rw [List.forall₂_cons, List.map_cons, List.cons.injEq, sameLetter_iff isLower.1]
          exact and_congr_right fun _ => ih isLower.2 chars

namespace Parity

theorem ofName?_eq_some_iff {text : String} {parity : Parity} :
    ofName? text = some parity ↔ SameText parity.name text := by
  have isLower : ∀ char ∈ parity.name.toList, ¬(65 ≤ char.toNat ∧ char.toNat ≤ 90) := by
    cases parity <;> simp [Parity.name]
  rw [sameText_iff isLower]
  constructor
  · intro found
    simpa using List.find?_some found
  · intro same
    rw [ofName?, ← same]
    cases parity <;> decide

end Parity

/-! ## Options -/

namespace OpenOptions

/-- Options that a line can have. -/
structure Acceptable (options : OpenOptions) : Prop where
  dataBits : 5 ≤ options.dataBits ∧ options.dataBits ≤ 8
  stopBits : options.stopBits.value? ∈ [some 1, some (3 / 2), some 2]
  parity : ∃ name ∈ ["none", "odd", "even", "mark", "space"], SameText name options.parity

/-- That a line configuration is exactly what options ask for. -/
structure Requests (options : OpenOptions) (config : LineConfig) : Prop where
  baudRate : config.baudRate = options.baudRate
  dataBits : config.dataBits = options.dataBits
  stopBits : options.stopBits.value? = some config.stopBits.count
  parity : SameText config.parity.name options.parity

theorem validDataBits_iff {dataBits : UInt8} :
    validDataBits.contains dataBits = true ↔ 5 ≤ dataBits ∧ dataBits ≤ 8 := by
  simp only [validDataBits, List.contains_iff_mem, List.mem_cons, List.not_mem_nil, or_false,
    UInt8.le_iff_toNat_le, ← UInt8.toNat_inj, UInt8.reduceToNat]
  omega

theorem validStopBits_iff {stopBits : Double} :
    validStopBits.any (·.same stopBits) = true ↔ stopBits.value? ∈ [some 1, some (3 / 2),
      some 2] := by
  have same (known : StopBits) :
      known.double.same stopBits = true ↔ stopBits.value? = some known.count := by
    rw [Double.same_iff_value? (by cases known <;> decide), known.double_value?, eq_comm]
  have one := same .one
  have oneAndHalf := same .oneAndHalf
  have two := same .two
  simp only [StopBits.double, StopBits.count] at one oneAndHalf two
  simp only [validStopBits, List.any_cons, List.any_nil, Bool.or_eq_true, Bool.or_false, one,
    oneAndHalf, two, List.mem_cons, List.not_mem_nil, or_false]

theorem validParity_iff {parity : String} :
    (Parity.ofName? parity).isNone = false ↔
      ∃ name ∈ ["none", "odd", "even", "mark", "space"], SameText name parity := by
  rw [Option.isNone_eq_false_iff, Option.isSome_iff_exists]
  simp only [Parity.ofName?_eq_some_iff]
  constructor
  · rintro ⟨known, same⟩
    refine ⟨known.name, ?_, same⟩
    cases known <;> simp [Parity.name]
  · rintro ⟨name, known, same⟩
    have names : ∀ name ∈ ["none", "odd", "even", "mark", "space"], ∃ parity : Parity,
        parity.name = name := by
      simp only [List.forall_mem_cons, List.not_mem_nil, false_implies, implies_true, and_true]
      exact ⟨⟨.none, rfl⟩, ⟨.odd, rfl⟩, ⟨.even, rfl⟩, ⟨.mark, rfl⟩, ⟨.space, rfl⟩⟩
    rcases names name known with ⟨parity, rfl⟩
    exact ⟨parity, same⟩

theorem acceptable_iff {options : OpenOptions} :
    options.Acceptable ↔ validDataBits.contains options.dataBits = true ∧
      validStopBits.any (·.same options.stopBits) = true ∧
      (Parity.ofName? options.parity).isNone = false := by
  rw [validDataBits_iff, validStopBits_iff, validParity_iff]
  exact ⟨fun ⟨dataBits, stopBits, parity⟩ => ⟨dataBits, stopBits, parity⟩,
    fun ⟨dataBits, stopBits, parity⟩ => ⟨dataBits, stopBits, parity⟩⟩

/-- Options pass the check or are refused as a bad configuration. -/
theorem validate_cases (options : OpenOptions) :
    options.Acceptable ∧ options.validate = .ok () ∨
      ¬options.Acceptable ∧ ∃ fault, options.validate = .error (.invalidConfig fault) := by
  rw [acceptable_iff]
  unfold validate
  cases validDataBits.contains options.dataBits with
  | false => exact .inr ⟨by simp, _, rfl⟩
  | true =>
  cases validStopBits.any (·.same options.stopBits) with
  | false => exact .inr ⟨by simp, _, rfl⟩
  | true =>
  cases (Parity.ofName? options.parity).isNone with
  | true => exact .inr ⟨by simp, _, rfl⟩
  | false => exact .inl ⟨⟨rfl, rfl, rfl⟩, rfl⟩

theorem Acceptable.validate {options : OpenOptions} (acceptable : options.Acceptable) :
    options.validate = .ok () := by
  rcases options.validate_cases with ⟨-, valid⟩ | ⟨unacceptable, -⟩
  · exact valid
  · exact absurd acceptable unacceptable

/-- The lenient readings are exact where the check passes. -/
theorem Acceptable.requests {options : OpenOptions} (acceptable : options.Acceptable) :
    options.Requests options.lineConfig where
  baudRate := rfl
  dataBits := rfl
  stopBits := by
    rcases StopBits.exists_count_of_mem acceptable.stopBits with ⟨stopBits, means⟩
    change _ = some (StopBits.ofRequested options.stopBits).count
    rw [means, StopBits.value?_eq_count_iff.mp means, stopBits.ofRequested_double]
  parity := by
    have known := (acceptable_iff.mp acceptable).2.2
    rw [Option.isNone_eq_false_iff, Option.isSome_iff_exists] at known
    rcases known with ⟨parity, named⟩
    change SameText (Parity.ofName options.parity).name options.parity
    rw [Parity.ofName, named]
    exact Parity.ofName?_eq_some_iff.mp named

end OpenOptions

end CdcSerial
