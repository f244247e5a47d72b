import CdcSerial.Double.Basic
import Mathlib.Algebra.Field.Rat
import Mathlib.Algebra.GroupWithZero.Basic
import Mathlib.Algebra.Order.Ring.Rat
import Mathlib.Data.Nat.Cast.Order.Ring
import Mathlib.Order.Monotone.Basic
import Mathlib.Tactic.Linarith
import Mathlib.Tactic.NormNum

/-!
# The numbers that doubles stand for

A finite double is a rational number. Doubles are compared through their words, and the two agree:
counted in units of the smallest positive double, the value of a word grows with the word.
-/

namespace CdcSerial.Double

/-- The number of a finite double. -/
def value? (double : Double) : Option ℚ :=
  if double.isFinite then
    some ((if double.negative then -1 else 1) * (double.mantissa * 2 ^ double.exponent))
  else none

/-- How many of the smallest positive doubles there are in the size of a finite double. -/
def units (exponentField fractionField : Nat) : Nat :=
  if exponentField = 0 then fractionField
  else (0x10000000000000 + fractionField) * 2 ^ (exponentField - 1)

theorem units_lt_of_fraction {place fraction more : Nat} (less : fraction < more) :
    units place fraction < units place more := by
  unfold units
  split
  · exact less
  · exact Nat.mul_lt_mul_of_pos_right (Nat.add_lt_add_left less _) (Nat.two_pow_pos _)

theorem units_lt_of_carry {place fraction : Nat} (bound : fraction < 0x10000000000000) :
    units place fraction < units (place + 1) 0 := by
  have scaled : units (place + 1) 0 = 0x10000000000000 * 2 ^ place := by simp [units]
  rw [scaled]
  cases place with
  | zero => simpa [units] using bound
  | succ lower =>
      have double : 0x10000000000000 * 2 ^ (lower + 1) = 0x20000000000000 * 2 ^ lower := by
        rw [Nat.pow_succ, Nat.mul_comm (2 ^ lower), ← Nat.mul_assoc]
      rw [double, units, if_neg (Nat.succ_ne_zero lower), Nat.add_sub_cancel]
      exact Nat.mul_lt_mul_of_pos_right (by omega) (Nat.two_pow_pos lower)

/-- The units of a word without its sign bit. -/
def wordUnits (word : Nat) : Nat := units (word / 0x10000000000000) (word % 0x10000000000000)

theorem wordUnits_strictMono : StrictMono wordUnits := by
  refine strictMono_nat_of_lt_succ fun word => ?_
  unfold wordUnits
  by_cases within : word % 0x10000000000000 + 1 < 0x10000000000000
  · have place : (word + 1) / 0x10000000000000 = word / 0x10000000000000 := by omega
    have rest : (word + 1) % 0x10000000000000 = word % 0x10000000000000 + 1 := by omega
    rw [place, rest]
    exact units_lt_of_fraction (Nat.lt_succ_self _)
  · -- the fraction runs over into the exponent
    have place : (word + 1) / 0x10000000000000 = word / 0x10000000000000 + 1 := by omega
    have rest : (word + 1) % 0x10000000000000 = 0 := by omega
    rw [place, rest]
    exact units_lt_of_carry (Nat.mod_lt _ (by decide))

/-- The smallest positive double. -/
def unit : ℚ := 2 ^ (-1074 : ℤ)

theorem unit_ne_zero : unit ≠ 0 := zpow_ne_zero _ two_ne_zero

theorem mantissa_mul_exponent (double : Double) :
    (double.mantissa : ℚ) * 2 ^ double.exponent = wordUnits double.magnitudeWord * unit := by
  change _ = (units double.exponentField double.fractionField : ℚ) * unit
  unfold mantissa exponent units
  by_cases small : double.exponentField = 0
  · simp only [small, if_true]
    rfl
  · obtain ⟨lower, eq⟩ := Nat.exists_eq_succ_of_ne_zero small
    have power : (double.exponentField : ℤ) - 1075 = lower + -1074 := by omega
    simp only [small, if_false, power]
    rw [zpow_add₀ two_ne_zero, zpow_natCast, eq, Nat.succ_eq_add_one, Nat.add_sub_cancel,
      Nat.cast_mul, Nat.cast_pow, ← mul_assoc]
    rfl

/-- A count with a sign. -/
def signed (negative : Bool) (count : Nat) : ℤ := if negative then -count else count

theorem signed_map_inj {measure : Nat → Nat} (grows : StrictMono measure) (zero : measure 0 = 0)
    {negative other : Bool} {left right : Nat} :
    signed negative (measure left) = signed other (measure right) ↔
      signed negative left = signed other right := by
  have same : measure left = measure right ↔ left = right := grows.injective.eq_iff
  have zeroLeft : measure left = measure 0 ↔ left = 0 := grows.injective.eq_iff
  have zeroRight : measure right = measure 0 ↔ right = 0 := grows.injective.eq_iff
  cases negative <;> cases other <;> simp only [signed] <;> grind

theorem value?_eq {double : Double} (finite : double.isFinite = true) :
    double.value? = some (signed double.negative (wordUnits double.magnitudeWord) * unit) := by
  rw [value?, if_pos finite, mantissa_mul_exponent]
  cases double.negative <;> simp [signed]

theorem rank?_eq {double : Double} (number : double.isNaN = false) :
    double.rank? = some (signed double.negative double.magnitudeWord) := by
  rw [rank?, if_neg (by simp [number])]
  cases double.negative <;> rfl

theorem isNaN_of_isFinite {double : Double} (finite : double.isFinite = true) :
    double.isNaN = false := by
  simp only [isFinite, decide_eq_true_eq] at finite
  simp [isNaN, Nat.ne_of_lt finite]

/-- Doubles compare as the numbers that they stand for. -/
theorem same_iff_value? {left right : Double} (finite : left.isFinite = true) :
    left.same right = true ↔ left.value? = right.value? := by
  rw [value?_eq finite, same, rank?_eq (isNaN_of_isFinite finite)]
  by_cases finiteRight : right.isFinite = true
  · rw [value?_eq finiteRight, rank?_eq (isNaN_of_isFinite finiteRight), Option.some_inj,
      mul_left_inj' unit_ne_zero, Int.cast_inj, signed_map_inj wordUnits_strictMono rfl]
    simp
  · rw [value?, if_neg finiteRight]
    cases notNumber : right.isNaN with
    | true => simp [rank?, notNumber]
    | false =>
        -- an infinity is beyond every finite double
        have below : left.magnitudeWord / 0x10000000000000 < 2047 := of_decide_eq_true finite
        have beyond : ¬right.magnitudeWord / 0x10000000000000 < 2047 :=
          fun below => finiteRight (decide_eq_true below)
        have apart : signed left.negative left.magnitudeWord ≠
            signed right.negative right.magnitudeWord := by
          unfold signed
          split <;> split <;> omega
        simp [rank?_eq notNumber, apart]

theorem word_of_positive {double : Double} (positive : double.negative = false) :
    double.word.toNat = double.magnitudeWord := by
  have below : ¬0x8000000000000000 ≤ double.word.toNat := of_decide_eq_false positive
  rw [magnitudeWord, Nat.mod_eq_of_lt (Nat.lt_of_not_le below)]

/-- Only zero has two doubles. -/
theorem eq_of_same {left right : Double} (finite : left.isFinite = true)
    (positive : left.negative = false) (nonzero : left.magnitudeWord ≠ 0)
    (same : left.same right = true) : right = left := by
  rw [Double.same, rank?_eq (isNaN_of_isFinite finite)] at same
  cases notNumber : right.isNaN with
  | true => simp [rank?, notNumber] at same
  | false =>
      simp only [rank?_eq notNumber, decide_eq_true_eq, positive, signed] at same
      have positiveRight : right.negative = false := by
        cases negative : right.negative with
        | false => rfl
        | true =>
            simp only [negative, Bool.false_eq_true, if_false, if_true] at same
            omega
      have magnitude : left.magnitudeWord = right.magnitudeWord := by
        simpa [positiveRight] using same
      have words : right.word.toNat = left.word.toNat := by
        rw [word_of_positive positive, word_of_positive positiveRight, magnitude]
      rcases left with ⟨left⟩
      rcases right with ⟨right⟩
      exact congrArg Double.mk (UInt64.toNat_inj.mp words)

end CdcSerial.Double
