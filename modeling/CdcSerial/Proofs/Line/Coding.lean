import CdcSerial.Line.Coding
import Mathlib.Algebra.Group.Nat.Defs

/-!
# The payload of a line coding

Packing and unpacking are separate tables. Packing followed by unpacking gives the line
configuration back, whatever comes behind the payload. The other way round, unpacking reads codes
that the device does not know as one stop bit or as no parity, and packing again writes the codes of
these. `settled` says which payload comes out; packing and unpacking leave it as it is.
-/

namespace CdcSerial

namespace StopBits

theorem ofCode_code (stopBits : StopBits) : ofCode stopBits.code = stopBits := by
  cases stopBits <;> rfl

/-- Codes above two are not known and stand for one stop bit. -/
theorem code_ofCode (code : UInt8) : (ofCode code).code = if code ≤ 2 then code else 0 := by
  by_cases known : code ≤ 2
  · have cases : code = 0 ∨ code = 1 ∨ code = 2 := by
      simp only [UInt8.le_iff_toNat_le, ← UInt8.toNat_inj] at known ⊢
      simp at known ⊢
      omega
    obtain rfl | rfl | rfl := cases <;> rfl
  · have apart : code ≠ 1 ∧ code ≠ 2 := by
      constructor <;> rintro rfl <;> exact known (by decide)
    simp [ofCode, known, apart, StopBits.code]

end StopBits

namespace Parity

theorem ofCode_code (parity : Parity) : ofCode parity.code = parity := by
  cases parity <;> rfl

/-- Codes above four are not known and stand for no parity. -/
theorem code_ofCode (code : UInt8) : (ofCode code).code = if code ≤ 4 then code else 0 := by
  by_cases known : code ≤ 4
  · have cases : code = 0 ∨ code = 1 ∨ code = 2 ∨ code = 3 ∨ code = 4 := by
      simp only [UInt8.le_iff_toNat_le, ← UInt8.toNat_inj] at known ⊢
      simp at known ⊢
      omega
    obtain rfl | rfl | rfl | rfl | rfl := cases <;> rfl
  · have apart : code ≠ 1 ∧ code ≠ 2 ∧ code ≠ 3 ∧ code ≠ 4 := by
      refine ⟨?_, ?_, ?_, ?_⟩ <;> rintro rfl <;> exact known (by decide)
    simp [ofCode, known, apart, Parity.code]

end Parity

namespace LineConfig

/-- A payload with its first seven bytes only, in which codes that are not known are zero. -/
def settled (payload : List UInt8) : List UInt8 :=
  ((payload.take payloadSize).modify 4 fun code => if code ≤ 2 then code else 0).modify 5
    fun code => if code ≤ 4 then code else 0

theorem or_shiftLeft {low places : Nat} (high : Nat) (small : low < 2 ^ places) :
    low ||| high <<< places = low + high * 2 ^ places := by
  rw [Nat.or_comm, ← Nat.shiftLeft_add_eq_or_of_lt small, Nat.shiftLeft_eq, Nat.add_comm]

theorem shiftLeft_toNat (byte : UInt8) {places : UInt32} (few : places.toNat ≤ 24) :
    (byte.toUInt32 <<< places).toNat = byte.toNat <<< places.toNat := by
  have small := byte.toNat_lt
  have room : 2 ^ places.toNat ≤ 2 ^ 24 := Nat.pow_le_pow_right (by decide) few
  have fits : byte.toNat * 2 ^ places.toNat < 2 ^ 32 := by
    calc byte.toNat * 2 ^ places.toNat < 2 ^ 8 * 2 ^ places.toNat :=
          Nat.mul_lt_mul_of_pos_right small (Nat.two_pow_pos _)
      _ ≤ 2 ^ 8 * 2 ^ 24 := Nat.mul_le_mul_left _ room
  have whole : places.toNat % 32 = places.toNat := by omega
  rw [UInt32.toNat_shiftLeft, UInt8.toNat_toUInt32, whole, Nat.shiftLeft_eq, Nat.mod_eq_of_lt fits]

/-- The bytes of a word are its digits to the base 256, least significant first. -/
theorem word_toNat (byte0 byte1 byte2 byte3 : UInt8) :
    (byte0.toUInt32 ||| (byte1.toUInt32 <<< 8) ||| (byte2.toUInt32 <<< 16)
      ||| (byte3.toUInt32 <<< 24)).toNat =
      byte0.toNat + byte1.toNat * 2 ^ 8 + byte2.toNat * 2 ^ 16 + byte3.toNat * 2 ^ 24 := by
  have small0 := byte0.toNat_lt
  have small1 := byte1.toNat_lt
  have small2 := byte2.toNat_lt
  rw [UInt32.toNat_or, UInt32.toNat_or, UInt32.toNat_or, UInt8.toNat_toUInt32,
    shiftLeft_toNat byte1 (by decide), shiftLeft_toNat byte2 (by decide),
    shiftLeft_toNat byte3 (by decide)]
  simp only [UInt32.reduceToNat]
  rw [or_shiftLeft byte1.toNat (by omega), or_shiftLeft byte2.toNat (by omega),
    or_shiftLeft byte3.toNat (by omega)]

theorem byte_toNat (word : UInt32) {places : UInt32} (few : places.toNat < 32) :
    (word >>> places).toUInt8.toNat = word.toNat / 2 ^ places.toNat % 256 := by
  rw [UInt32.toNat_toUInt8, UInt32.toNat_shiftRight, Nat.mod_eq_of_lt few,
    Nat.shiftRight_eq_div_pow]

theorem unpack_pack_append (config : LineConfig) (rest : List UInt8) :
    unpack (config.pack ++ rest) = .ok config := by
  have word : (config.baudRate.toUInt8.toUInt32 ||| ((config.baudRate >>> 8).toUInt8.toUInt32 <<< 8)
      ||| ((config.baudRate >>> 16).toUInt8.toUInt32 <<< 16)
      ||| ((config.baudRate >>> 24).toUInt8.toUInt32 <<< 24)) = config.baudRate := by
    have bound := config.baudRate.toNat_lt
    rw [← UInt32.toNat_inj, word_toNat, UInt32.toNat_toUInt8, byte_toNat _ (by decide),
      byte_toNat _ (by decide), byte_toNat _ (by decide)]
    simp only [UInt32.reduceToNat]
    omega
  simp only [pack, List.cons_append, unpack, word, StopBits.ofCode_code, Parity.ofCode_code]

theorem unpack_short {payload : List UInt8} (short : payload.length < payloadSize) :
    unpack payload = .error (.invalidConfig (.payload payload.length)) := by
  unfold unpack
  split
  · simp only [payloadSize, List.length_cons] at short
    omega
  · rfl

/-- The seven bytes of a payload that is long enough, and what is behind them. -/
theorem exists_bytes {payload : List UInt8} (long : payloadSize ≤ payload.length) :
    ∃ byte0 byte1 byte2 byte3 stopBits parity dataBits rest, payload =
      byte0 :: byte1 :: byte2 :: byte3 :: stopBits :: parity :: dataBits :: rest := by
  match payload with
  | byte0 :: byte1 :: byte2 :: byte3 :: stopBits :: parity :: dataBits :: rest =>
      exact ⟨_, _, _, _, _, _, _, _, rfl⟩
  | [] | [_] | [_, _] | [_, _, _] | [_, _, _, _] | [_, _, _, _, _] | [_, _, _, _, _, _] =>
      simp [payloadSize] at long

theorem pack_of_unpack {byte0 byte1 byte2 byte3 stopBits parity dataBits : UInt8}
    {rest : List UInt8} {config : LineConfig}
    (unpacked :
      unpack (byte0 :: byte1 :: byte2 :: byte3 :: stopBits :: parity :: dataBits :: rest) =
      .ok config) :
    config.pack = [byte0, byte1, byte2, byte3, if stopBits ≤ 2 then stopBits else 0,
      if parity ≤ 4 then parity else 0, dataBits] := by
  cases unpacked
  have word := word_toNat byte0 byte1 byte2 byte3
  generalize byte0.toUInt32 ||| byte1.toUInt32 <<< 8 ||| byte2.toUInt32 <<< 16
    ||| byte3.toUInt32 <<< 24 = baudRate at word ⊢
  have small0 := byte0.toNat_lt
  have small1 := byte1.toNat_lt
  have small2 := byte2.toNat_lt
  have small3 := byte3.toNat_lt
  have digit0 : baudRate.toUInt8 = byte0 := by
    rw [← UInt8.toNat_inj, UInt32.toNat_toUInt8]
    omega
  have digit1 : (baudRate >>> 8).toUInt8 = byte1 := by
    rw [← UInt8.toNat_inj, byte_toNat _ (by decide)]
    simp only [UInt32.reduceToNat]
    omega
  have digit2 : (baudRate >>> 16).toUInt8 = byte2 := by
    rw [← UInt8.toNat_inj, byte_toNat _ (by decide)]
    simp only [UInt32.reduceToNat]
    omega
  have digit3 : (baudRate >>> 24).toUInt8 = byte3 := by
    rw [← UInt8.toNat_inj, byte_toNat _ (by decide)]
    simp only [UInt32.reduceToNat]
    omega
  simp only [pack, digit0, digit1, digit2, digit3, StopBits.code_ofCode, Parity.code_ofCode]

theorem replace_eq_self_iff (code last : UInt8) :
    (if code ≤ last then code else 0) = code ↔ code ≤ last := by
  constructor
  · intro kept
    split at kept
    · assumption
    · rw [← kept]
      exact UInt8.zero_le
  · intro known
    rw [if_pos known]

/--
Packing and unpacking a line coding. What was packed is unpacked again, whatever comes behind it. A
payload cannot be unpacked exactly if it is shorter than seven bytes. Otherwise packing it again
gives its first seven bytes with the codes of stop bits and parity that are not known replaced by
zero; that does nothing a second time, and it does nothing at all exactly if both codes are known.
-/
theorem coding_round_trip :
    (∀ (config : LineConfig) (rest : List UInt8), unpack (config.pack ++ rest) = .ok config) ∧
    ∀ payload : List UInt8,
      (unpack payload = .error (.invalidConfig (.payload payload.length)) ↔
        payload.length < payloadSize) ∧
      (payloadSize ≤ payload.length → ∃ config, unpack payload = .ok config ∧
        config.pack = settled payload ∧ unpack config.pack = .ok config ∧
        (config.pack = payload.take payloadSize ↔
          payload.getD 4 0 ≤ 2 ∧ payload.getD 5 0 ≤ 4)) := by
  refine ⟨unpack_pack_append, fun payload => ⟨⟨fun failed => ?_, unpack_short⟩, fun long => ?_⟩⟩
  · rcases Nat.lt_or_ge payload.length payloadSize with short | long
    · exact short
    · rcases exists_bytes long with ⟨_, _, _, _, _, _, _, _, rfl⟩
      cases failed
  · rcases exists_bytes long with
      ⟨byte0, byte1, byte2, byte3, stopBits, parity, dataBits, rest, rfl⟩
    obtain ⟨config, unpacked⟩ : ∃ config, unpack
      (byte0 :: byte1 :: byte2 :: byte3 :: stopBits :: parity :: dataBits :: rest) = .ok config :=
        ⟨_, rfl⟩
    have packed := pack_of_unpack unpacked
    refine ⟨config, unpacked, packed, ?_, ?_⟩
    · have again := unpack_pack_append config []
      rwa [List.append_nil] at again
    · rw [packed]
      simp only [payloadSize, List.take_succ_cons, List.take_zero, List.cons.injEq,
        true_and, and_true, replace_eq_self_iff]
      rfl

/-- A payload with unknown codes for stop bits and parity, and more bytes behind it. -/
theorem unknown_codes_settle :
    payloadSize ≤ [128, 37, 0, 0, 3, 9, 8, 1, 2].length ∧
      ∃ config, unpack [128, 37, 0, 0, 3, 9, 8, 1, 2] = .ok config ∧
        config.pack = [128, 37, 0, 0, 0, 0, 8] ∧ unpack config.pack = .ok config := by
  have long : payloadSize ≤ [128, 37, 0, 0, 3, 9, 8, 1, 2].length := by decide
  rcases (coding_round_trip.2 [128, 37, 0, 0, 3, 9, 8, 1, 2]).2 long with
    ⟨config, unpacked, packed, again, -⟩
  exact ⟨long, config, unpacked, packed, again⟩

end LineConfig

end CdcSerial
