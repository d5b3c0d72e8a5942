/-
**Encoded numbers.**

A number below `2 ^ 56` is encoded in the shortest way and decoded again. The larger ones are all
written alike: two bytes `0xff` and the eight bytes of the number, which no decoder takes.
-/

import Vanet.Security.Archive

namespace Vanet.Security

open Vanet.Library Read

/-! ### The bytes of a number -/

theorem hton_concat (bytes : ℕ) : ∀ value,
    hton (bytes + 1) value = hton bytes (value / 256) ++ [UInt8.ofNat value] := by
  intro value
  unfold hton
  rw [List.range_succ_eq_map, List.reverse_cons, List.map_append]
  congr 1
  · rw [← List.map_reverse, List.map_map]
    refine List.map_congr_left fun i _ => ?_
    show UInt8.ofNat (value / 256 ^ (i + 1)) = _
    rw [pow_succ', Nat.div_div_eq_div_mul]
  · show [UInt8.ofNat (value / 256 ^ 0)] = _
    rw [pow_zero, Nat.div_one]

/-- `lengthInfo` splits off as many bytes as the number has. -/
theorem lengthInfo_eq (bytes : ℕ) : ∀ rounds (length : UInt64) info, bytes ≤ rounds →
    length.toNat < 256 ^ bytes → (bytes ≠ 0 → 256 ^ (bytes - 1) ≤ length.toNat) →
      lengthInfo rounds length info = hton bytes length.toNat ++ info := by
  induction bytes with
  | zero =>
    intro rounds length info _ small _
    have zero : length = 0 := UInt64.toNat_inj.mp (by rw [UInt64.toNat_zero]; omega)
    subst zero
    cases rounds <;> rfl
  | succ bytes ih =>
    intro rounds length info enough small large
    cases rounds with
    | zero => omega
    | succ rounds =>
      have leading : 256 ^ bytes ≤ length.toNat := large (Nat.succ_ne_zero _)
      have positive : 0 < 256 ^ bytes := Nat.pow_pos (by decide)
      have other : length ≠ 0 := by
        rintro rfl
        rw [UInt64.toNat_zero] at leading
        omega
      have shifted : (length >>> 8).toNat = length.toNat / 256 := by
        rw [UInt64.toNat_shiftRight, Nat.shiftRight_eq_div_pow]
        rfl
      have last : length.toUInt8 = UInt8.ofNat length.toNat := rfl
      unfold lengthInfo
      rw [if_pos other, ih rounds _ _ (by omega), shifted, hton_concat, last, List.append_assoc]
      · rfl
      · rw [shifted]
        rw [pow_succ] at small
        omega
      · intro some
        obtain ⟨fewer, rfl⟩ := Nat.exists_eq_succ_of_ne_zero some
        rw [shifted]
        rw [Nat.succ_eq_add_one, pow_succ] at leading
        show 256 ^ fewer ≤ _
        omega

/-- Every number has as many bytes as it needs. -/
theorem exists_bytes {value limit : ℕ} (small : value < 256 ^ limit) :
    ∃ bytes ≤ limit, value < 256 ^ bytes ∧ (bytes ≠ 0 → 256 ^ (bytes - 1) ≤ value) := by
  induction limit with
  | zero => exact ⟨0, le_rfl, small, fun impossible => absurd rfl impossible⟩
  | succ limit ih =>
    by_cases fewer : value < 256 ^ limit
    · obtain ⟨bytes, less, rest⟩ := ih fewer
      exact ⟨bytes, Nat.le_succ_of_le less, rest⟩
    · exact ⟨limit + 1, le_rfl, small, fun _ => Nat.le_of_not_lt fewer⟩

/-! ### The first byte -/

/-- The mask with `leading + 1` ones. -/
def prefixMask (leading : ℕ) : UInt8 := ~~~ UInt8.ofNat (2 ^ (7 - leading) - 1)

/-- Whether the ones fit into the front, and what they look like there. -/
theorem front_spec {leading : ℕ} (few : leading < 8) (front : UInt8) :
    (front &&& ~~~ prefixMask leading ≠ front ↔ 2 ^ (7 - leading) ≤ front.toNat) ∧
      (front.toNat < 2 ^ (7 - leading) →
        countLeadingOnes (front ||| prefixMask leading <<< 1) = leading ∧
        (front ||| prefixMask leading <<< 1) &&& UInt8.ofNat (2 ^ (8 - leading) - 1) = front) := by
  have every : ∀ (leading : Fin 8) (n : Fin 256),
      (UInt8.ofNat n &&& ~~~ prefixMask leading ≠ UInt8.ofNat n ↔
        2 ^ (7 - leading.val) ≤ (UInt8.ofNat n).toNat) ∧
      ((UInt8.ofNat n).toNat < 2 ^ (7 - leading.val) →
        countLeadingOnes (UInt8.ofNat n ||| prefixMask leading <<< 1) = leading ∧
        (UInt8.ofNat n ||| prefixMask leading <<< 1) &&& UInt8.ofNat (2 ^ (8 - leading.val) - 1) =
          UInt8.ofNat n) := by
    decide +kernel
  simpa using every ⟨leading, few⟩ ⟨front.toNat, front.toNat_lt⟩

/-- A mask of its own. -/
theorem mask_spec {leading : ℕ} (few : leading < 7) :
    countLeadingOnes (prefixMask leading) = leading + 1 ∧
      prefixMask leading &&& UInt8.ofNat (2 ^ (8 - (leading + 1)) - 1) = 0 := by
  have every : ∀ leading : Fin 7, countLeadingOnes (prefixMask leading) = leading + 1 ∧
      prefixMask leading &&& UInt8.ofNat (2 ^ (8 - (leading.val + 1)) - 1) = 0 := by
    decide +kernel
  exact every ⟨leading, few⟩

/-! ### Decoding -/

/-- The bytes behind the first one are appended to its number. -/
theorem toNat_appendBytes (bytes : ByteBuffer) : ∀ start : UInt64,
    start.toNat * 256 ^ bytes.length + 256 ^ bytes.length ≤ 2 ^ 64 →
      (bytes.foldl (fun (length : UInt64) byte => length <<< 8 ||| byte.toUInt64) start).toNat =
        bytes.foldl (fun n byte => n * 256 + byte.toNat) start.toNat := by
  induction bytes with
  | nil => exact fun _ _ => rfl
  | cons byte bytes ih =>
    intro start fits
    have byteSmall : byte.toNat < 256 := byte.toNat_lt
    have positive : 1 ≤ 256 ^ bytes.length := Nat.pow_pos (by decide)
    rw [List.length_cons, pow_succ] at fits
    have roomy : (start.toNat * 256 + 256) * 256 ^ bytes.length ≤ 2 ^ 64 := by
      refine le_trans (le_of_eq ?_) fits
      ring
    have room : start.toNat * 256 + 256 ≤ 2 ^ 64 :=
      (Nat.le_mul_of_pos_right _ positive).trans roomy
    have appended : (start <<< 8 ||| byte.toUInt64).toNat = start.toNat * 256 + byte.toNat := by
      have shifted : (start <<< 8).toNat = start.toNat <<< 8 := by
        rw [UInt64.toNat_shiftLeft, Nat.shiftLeft_eq]
        show start.toNat * 2 ^ 8 % 2 ^ 64 = start.toNat <<< 8
        rw [Nat.shiftLeft_eq, Nat.mod_eq_of_lt (by omega)]
      rw [UInt64.toNat_or, shifted, UInt8.toNat_toUInt64,
        ← Nat.shiftLeft_add_eq_or_of_lt (by omega : byte.toNat < 2 ^ 8), Nat.shiftLeft_eq]
    rw [List.foldl_cons, List.foldl_cons, ih, appended]
    rw [appended]
    refine le_trans ?_ roomy
    rw [add_mul, add_mul]
    have grown := Nat.mul_le_mul_right (256 ^ bytes.length) (by omega : byte.toNat + 1 ≤ 256)
    rw [add_mul, one_mul] at grown
    omega

/-- **A number that is decoded**: what the first byte says about the others, and their value. -/
theorem decodeLength_spec {first : UInt8} {bytes : ℕ} {value : ℕ} (few : bytes < 8)
    (leading : countLeadingOnes first = bytes)
    (high : (first &&& UInt8.ofNat (2 ^ (8 - bytes) - 1)).toNat = value / 256 ^ bytes)
    (fits : value < 2 ^ 56) :
    decodeLength (first :: hton bytes value) = (bytes + 1, UInt64.ofNat value) := by
  have start : (first &&& UInt8.ofNat (2 ^ (8 - bytes) - 1)).toUInt64.toNat = value / 256 ^ bytes := by
    rw [UInt8.toNat_toUInt64, high]
  have split : value / 256 ^ bytes * 256 ^ bytes + value % 256 ^ bytes = value :=
    Nat.div_add_mod' value (256 ^ bytes)
  have power : 256 ^ bytes ≤ 256 ^ 7 := Nat.pow_le_pow_right (by decide) (by omega)
  have whole : (hton bytes value).take bytes = hton bytes value :=
    List.take_of_length_le (length_hton bytes value).le
  unfold decodeLength
  dsimp only
  rw [leading, List.length_cons, length_hton]
  rw [if_neg (by omega), if_pos (by omega), whole]
  refine Prod.ext rfl (UInt64.toNat_inj.mp ?_)
  rw [toNat_appendBytes, start, foldl_hton, split, UInt64.toNat_ofNat_of_lt' (lt_trans fits (by decide))]
  rw [start, length_hton]
  omega

/-! ### Encoding -/

theorem lengthCodingSize_eq (size : ℕ) : ∀ {value : ℕ}, (size ≠ 0 → 128 ^ size ≤ value) →
    value < 128 ^ (size + 1) → lengthCodingSize value = size + 1 := by
  induction size with
  | zero => exact fun _ small => lengthCodingSize_of_lt small
  | succ size ih =>
    intro value large small
    have least := large (Nat.succ_ne_zero size)
    have positive : 1 ≤ 128 ^ size := Nat.pow_pos (by decide)
    rw [pow_succ] at small least
    rw [lengthCodingSize_of_le (by omega), ih]
    · intro _
      omega
    · omega

theorem powers {leading : ℕ} (few : leading < 7) :
    2 ^ (7 - leading) * 256 ^ leading = 128 ^ (leading + 1) ∧ 128 ^ leading ≤ 256 ^ leading ∧
      256 ^ (leading + 1) ≤ 128 ^ (leading + 1 + 1) := by
  have every : ∀ leading : Fin 7, 2 ^ (7 - leading.val) * 256 ^ leading.val = 128 ^ (leading.val + 1) ∧
      128 ^ leading.val ≤ 256 ^ leading.val ∧
        256 ^ (leading.val + 1) ≤ 128 ^ (leading.val + 1 + 1) := by decide
  exact every ⟨leading, few⟩

/-- **An encoded number below `2 ^ 56`**: its first byte tells the number of the others, they are
decoded to the number, and there are no more than needed. -/
structure Encodes (value : UInt64) (first : UInt8) (rest : ByteBuffer) : Prop where
  encoded : encodeLength value = first :: rest
  leading : countLeadingOnes first = rest.length
  decoded : decodeLength (first :: rest) = (rest.length + 1, value)
  size : rest.length + 1 = lengthCodingSize value.toNat

/-- No shortest encoding begins like those of larger numbers. -/
theorem Encodes.notFull {value : UInt64} {first : UInt8} {rest : ByteBuffer}
    (encodes : Encodes value first rest) : first ≠ 0xff := by
  intro full
  have nothing := (decodeLength_eq_zero_iff first rest).mpr full
  rw [encodes.decoded] at nothing
  exact Nat.succ_ne_zero _ nothing

theorem encodes {value : UInt64} (small : value.toNat < 2 ^ 56) :
    ∃ first rest, Encodes value first rest := by
  obtain ⟨bytes, few, fits, needed⟩ := exists_bytes (show value.toNat < 256 ^ 7 from small)
  have info : lengthInfo 8 value [] = hton bytes value.toNat := by
    rw [lengthInfo_eq bytes 8 value [] (by omega) fits needed, List.append_nil]
  cases bytes with
  | zero =>
    have zero : value = 0 := UInt64.toNat_inj.mp (by rw [UInt64.toNat_zero]; omega)
    subst zero
    exact ⟨0, [], by decide +kernel, by decide +kernel, by decide +kernel, by decide +kernel⟩
  | succ leading =>
    have least : 256 ^ leading ≤ value.toNat := needed (Nat.succ_ne_zero leading)
    obtain ⟨equal, power, wide⟩ := powers (by omega : leading < 7)
    have positive : 0 < 256 ^ leading := Nat.pow_pos (by decide)
    have frontSmall : value.toNat / 256 ^ leading < 256 := by
      rw [Nat.div_lt_iff_lt_mul positive, mul_comm, ← pow_succ]
      exact fits
    have front : (UInt8.ofNat (value.toNat / 256 ^ leading)).toNat = value.toNat / 256 ^ leading :=
      UInt8.toNat_ofNat_of_lt' frontSmall
    obtain ⟨exceeds, enters⟩ := front_spec (by omega : leading < 8)
      (UInt8.ofNat (value.toNat / 256 ^ leading))
    have encoded : encodeLength value =
        if 2 ^ (7 - leading) ≤ value.toNat / 256 ^ leading then
          prefixMask leading :: hton (leading + 1) value.toNat
        else (UInt8.ofNat (value.toNat / 256 ^ leading) ||| prefixMask leading <<< 1) ::
          hton leading value.toNat := by
      unfold encodeLength
      rw [info, hton_succ]
      dsimp only
      rw [length_hton, show 8 - (leading + 1) = 7 - leading by omega,
        Nat.div_eq_of_lt (by omega : leading + 1 < 8), List.replicate_zero, List.nil_append]
      rw [front] at exceeds
      exact if_congr exceeds rfl rfl
    by_cases fitsIn : 2 ^ (7 - leading) ≤ value.toNat / 256 ^ leading
    · rw [if_pos fitsIn] at encoded
      obtain ⟨ones, nothing⟩ := mask_spec (by omega : leading < 7)
      have high : (prefixMask leading &&& UInt8.ofNat (2 ^ (8 - (leading + 1)) - 1)).toNat =
          value.toNat / 256 ^ (leading + 1) := by
        rw [nothing, Nat.div_eq_of_lt fits]
        rfl
      have large : 128 ^ (leading + 1) ≤ value.toNat := by
        rw [← equal]
        exact (Nat.le_div_iff_mul_le positive).mp fitsIn
      refine ⟨_, _, encoded, ?_, ?_, ?_⟩
      · rw [length_hton, ones]
      · rw [decodeLength_spec (by omega) ones high small, length_hton, UInt64.ofNat_toNat]
      · rw [length_hton, lengthCodingSize_eq (leading + 1) (fun _ => large) (fits.trans_le wide)]
    · rw [if_neg fitsIn] at encoded
      have low : value.toNat / 256 ^ leading < 2 ^ (7 - leading) := Nat.lt_of_not_le fitsIn
      obtain ⟨ones, same⟩ := enters (by rwa [front])
      have high := congrArg UInt8.toNat same
      rw [front] at high
      have less : value.toNat < 128 ^ (leading + 1) := by
        rw [← equal]
        exact (Nat.div_lt_iff_lt_mul positive).mp low
      refine ⟨_, _, encoded, ?_, ?_, ?_⟩
      · rw [length_hton, ones]
      · rw [decodeLength_spec (by omega) ones high small, length_hton, UInt64.ofNat_toNat]
      · rw [length_hton, lengthCodingSize_eq leading (fun _ => power.trans least) less]

/-- **A larger number** is written behind two bytes that no length begins with. -/
theorem encodeLength_large {value : UInt64} (large : 2 ^ 56 ≤ value.toNat) :
    encodeLength value = 0xff :: 0xff :: hton 8 value.toNat := by
  have fits : value.toNat < 256 ^ 8 := value.toNat_lt
  have info : lengthInfo 8 value [] = hton 8 value.toNat := by
    rw [lengthInfo_eq 8 8 value [] le_rfl fits fun _ => large, List.append_nil]
  have frontSmall : value.toNat / 256 ^ 7 < 256 := by omega
  have front : (UInt8.ofNat (value.toNat / 256 ^ 7)).toNat = value.toNat / 256 ^ 7 :=
    UInt8.toNat_ofNat_of_lt' frontSmall
  have exceeds := (front_spec (by decide : 7 < 8) (UInt8.ofNat (value.toNat / 256 ^ 7))).1
  rw [front] at exceeds
  have positive : 2 ^ (7 - 7) ≤ value.toNat / 256 ^ 7 := by omega
  unfold encodeLength
  rw [info, hton_succ]
  dsimp only
  rw [length_hton]
  exact congrArg (0xff :: ·) (if_pos (exceeds.mpr positive))

end Vanet.Security
