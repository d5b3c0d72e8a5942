/-
**`length_coding`: the variable-length integers of secured messages.**

The leading ones of the first byte say how many bytes follow it, the bits after them and the
following bytes are the number. Seven bits of each byte carry the number, so the shortest encoding
has `lengthCodingSize` bytes; nothing makes an encoding the shortest one.
-/

import Mathlib.Algebra.Order.Ring.Nat

namespace Vanet.Security

/-- `ByteBuffer`. -/
abbrev ByteBuffer := List UInt8

/-- The loop of `count_leading_ones`; after eight shifts the byte is zero. -/
def countLeadingOnesFrom : ℕ → UInt8 → ℕ
  | 0, _ => 0
  | shifts + 1, v => if v &&& 0x80 ≠ 0 then countLeadingOnesFrom shifts (v <<< 1) + 1 else 0

def countLeadingOnes (v : UInt8) : ℕ := countLeadingOnesFrom 8 v

/-- Only the byte `0xff` announces more bytes than a `uintmax_t` has. -/
theorem countLeadingOnes_lt_iff (v : UInt8) : countLeadingOnes v < 8 ↔ v ≠ 0xff := by
  have every : ∀ n : Fin 256, countLeadingOnes (UInt8.ofNat n) < 8 ↔ UInt8.ofNat n ≠ 0xff := by
    decide +kernel
  simpa using every ⟨v.toNat, v.toNat_lt⟩

/-- The loop of `length_coding_size`, which ends before the length does. -/
def lengthCodingSizeFrom : ℕ → ℕ → ℕ
  | 0, _ => 1
  | shifts + 1, length => if length < 128 then 1 else lengthCodingSizeFrom shifts (length / 128) + 1

/-- The number of bytes of the shortest encoding. -/
def lengthCodingSize (length : ℕ) : ℕ := lengthCodingSizeFrom length length

theorem lengthCodingSizeFrom_congr (shifts : ℕ) :
    ∀ more length, length ≤ shifts → length ≤ more →
      lengthCodingSizeFrom shifts length = lengthCodingSizeFrom more length := by
  induction shifts with
  | zero =>
    intro more length small _
    obtain rfl : length = 0 := by omega
    cases more <;> rfl
  | succ shifts ih =>
    intro more length small enough
    cases more with
    | zero =>
      obtain rfl : length = 0 := by omega
      rfl
    | succ more =>
      unfold lengthCodingSizeFrom
      split
      · rfl
      · rw [ih more (length / 128) (by omega) (by omega)]

theorem lengthCodingSize_of_lt {length : ℕ} (small : length < 128) : lengthCodingSize length = 1 := by
  unfold lengthCodingSize
  cases length with
  | zero => rfl
  | succ length => exact if_pos small

theorem lengthCodingSize_of_le {length : ℕ} (large : 128 ≤ length) :
    lengthCodingSize length = lengthCodingSize (length / 128) + 1 := by
  obtain ⟨length, rfl⟩ : ∃ less, length = less + 1 := ⟨length - 1, by omega⟩
  show (if length + 1 < 128 then 1 else lengthCodingSizeFrom length ((length + 1) / 128) + 1) = _
  rw [if_neg (by omega),
    lengthCodingSizeFrom_congr _ ((length + 1) / 128) _ (by omega) (le_refl _)]
  rfl

/-- A multiple of eight and its successor are encoded in the same number of bytes. -/
theorem lengthCodingSize_succ {length : ℕ} (multiple : 8 ∣ length) :
    lengthCodingSize (length + 1) = lengthCodingSize length := by
  by_cases small : length < 128
  · rw [lengthCodingSize_of_lt small, lengthCodingSize_of_lt (by omega)]
  · rw [lengthCodingSize_of_le (by omega : 128 ≤ length + 1),
      lengthCodingSize_of_le (by omega : 128 ≤ length),
      show (length + 1) / 128 = length / 128 by omega]

/-- A number has a longer encoding than the one before it if it is a power of 128. -/
theorem lengthCodingSize_next (length : ℕ) :
    (lengthCodingSize (1 + length) = lengthCodingSize length ∧ ∀ k, 1 + length ≠ 128 ^ (k + 1)) ∨
      (lengthCodingSize (1 + length) = lengthCodingSize length + 1 ∧
        ∃ k, 1 + length = 128 ^ (k + 1)) := by
  induction length using Nat.strong_induction_on with
  | _ length ih =>
    by_cases short : length < 128
    · rw [lengthCodingSize_of_lt short]
      by_cases last : length = 127
      · subst last
        exact .inr ⟨by decide, 0, rfl⟩
      · refine .inl ⟨lengthCodingSize_of_lt (by omega), fun k power => ?_⟩
        have positive : 1 ≤ 128 ^ k := Nat.pow_pos (by decide)
        rw [pow_succ] at power
        omega
    · rw [lengthCodingSize_of_le (by omega : 128 ≤ length),
        lengthCodingSize_of_le (by omega : 128 ≤ 1 + length)]
      by_cases multiple : 128 ∣ 1 + length
      · obtain ⟨next, split⟩ := multiple
        obtain rfl : next = 1 + length / 128 := by omega
        have shifted : (1 + length) / 128 = 1 + length / 128 := by omega
        rw [shifted]
        rcases ih (length / 128) (by omega) with ⟨same, other⟩ | ⟨longer, k, power⟩
        · refine .inl ⟨congrArg Nat.succ same, fun k power => ?_⟩
          cases k with
          | zero => omega
          | succ k =>
            refine other k ?_
            rw [pow_succ] at power
            omega
        · refine .inr ⟨congrArg Nat.succ longer, k + 1, ?_⟩
          rw [pow_succ, ← power]
          omega
      · have shifted : (1 + length) / 128 = length / 128 := by omega
        rw [shifted]
        refine .inl ⟨rfl, fun k power => multiple ?_⟩
        rw [power, pow_succ]
        exact Nat.dvd_mul_left 128 _

/-- The bytes of a number without leading zeros, in front of those already split off. -/
def lengthInfo : ℕ → UInt64 → ByteBuffer → ByteBuffer
  | 0, _, info => info
  | rounds + 1, length, info =>
    if length ≠ 0 then lengthInfo rounds (length >>> 8) (length.toUInt8 :: info) else info

def encodeLength (length : UInt64) : ByteBuffer :=
  match lengthInfo 8 length [] with
  | [] => [0x00]
  | front :: rest =>
    let leading := rest.length + 1
    let mask : UInt8 := ~~~ UInt8.ofNat (2 ^ (8 - leading) - 1)
    let info :=
      -- an additional byte if the leading ones do not fit into the front
      if front &&& ~~~ mask ≠ front then mask :: front :: rest else (front ||| mask <<< 1) :: rest
    List.replicate (leading / 8) 0xff ++ info

/-- The offset behind the encoded number and the number. An offset of zero says that there is none:
the buffer is empty, or the number is wider than a `uintmax_t`. -/
def decodeLength (buffer : ByteBuffer) : ℕ × UInt64 :=
  match buffer with
  | [] => (0, 0)
  | first :: rest =>
    let additional := countLeadingOnes first
    if 8 ≤ additional then (0, 0)
    else if additional < buffer.length then
      let mask := UInt8.ofNat (2 ^ (8 - additional) - 1)
      (additional + 1, (rest.take additional).foldl
        (fun length byte => length <<< 8 ||| byte.toUInt64) (first &&& mask).toUInt64)
    else (buffer.length, 0)

/-- The decoder finds no number exactly if the first byte is `0xff`. -/
theorem decodeLength_eq_zero_iff (first : UInt8) (rest : ByteBuffer) :
    (decodeLength (first :: rest)).1 = 0 ↔ first = 0xff := by
  have limit := countLeadingOnes_lt_iff first
  unfold decodeLength
  simp only
  split_ifs with wide fits
  · exact iff_of_true rfl (not_not.mp fun other => absurd (limit.mpr other) (by omega))
  · exact iff_of_false id (limit.mp (by omega))
  · exact iff_of_false id (limit.mp (by omega))

example : decodeLength (encodeLength 300) = (2, 300) := by decide +kernel

end Vanet.Security
