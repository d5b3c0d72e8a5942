/-
**Numbers in an archive.**

A number is written with its most significant byte first, and it is read back (`restores_*`). The bytes
that a number was read from are those that it is written to (`takes_*`).
-/

import Mathlib.Tactic.Ring
import Vanet.Security.Deserialize
import Vanet.Security.Serialize

namespace Vanet.Security

open Vanet.Library Reader Read

theorem hton_succ (bytes value : ℕ) :
    hton (bytes + 1) value = UInt8.ofNat (value / 256 ^ bytes) :: hton bytes value := by
  unfold hton
  rw [List.range_succ, List.reverse_append]
  rfl

@[simp] theorem length_hton (bytes value : ℕ) : (hton bytes value).length = bytes := by
  unfold hton
  rw [List.length_map, List.length_reverse, List.length_range]

theorem foldl_hton (bytes value : ℕ) : ∀ start,
    (hton bytes value).foldl (fun n byte => n * 256 + byte.toNat) start =
      start * 256 ^ bytes + value % 256 ^ bytes := by
  induction bytes with
  | zero =>
    intro start
    rw [pow_zero, mul_one, Nat.mod_one]
    rfl
  | succ bytes ih =>
    intro start
    have digit : (UInt8.ofNat (value / 256 ^ bytes)).toNat = value / 256 ^ bytes % 256 := rfl
    rw [hton_succ, List.foldl_cons, ih, digit, pow_succ, Nat.mod_mul]
    ring

/-- **The bytes of a number are read as the number**, as far as they have room for it. -/
theorem networkOrder_hton (bytes value : ℕ) : networkOrder (hton bytes value) = value % 256 ^ bytes := by
  unfold networkOrder
  rw [foldl_hton, zero_mul, zero_add]

theorem restores_octets {n : ℕ} {bytes : ByteBuffer} (length : bytes.length = n) :
    Restores (octets n) bytes ⟨bytes, length⟩ :=
  Restores.octets ⟨bytes, length⟩

theorem restores_byte (first : UInt8) : Restores byte [first] first := Restores.byte first

theorem restores_uint16 (value : UInt16) : Restores uint16 (hton 2 value.toNat) value := by
  refine (restores_octets (length_hton 2 _)).map ?_
  have fits : value.toNat < 256 ^ 2 := value.toNat_lt
  show Restores (pure (UInt16.ofNat (networkOrder (hton 2 value.toNat)))) [] value
  rw [networkOrder_hton, Nat.mod_eq_of_lt fits, UInt16.ofNat_toNat]
  exact .pure

theorem restores_uint32 (value : UInt32) : Restores uint32 (hton 4 value.toNat) value := by
  refine (restores_octets (length_hton 4 _)).map ?_
  have fits : value.toNat < 256 ^ 4 := value.toNat_lt
  show Restores (pure (UInt32.ofNat (networkOrder (hton 4 value.toNat)))) [] value
  rw [networkOrder_hton, Nat.mod_eq_of_lt fits, UInt32.ofNat_toNat]
  exact .pure

theorem restores_uint64 (value : UInt64) : Restores uint64 (hton 8 value.toNat) value := by
  refine (restores_octets (length_hton 8 _)).map ?_
  have fits : value.toNat < 256 ^ 8 := value.toNat_lt
  show Restores (pure (UInt64.ofNat (networkOrder (hton 8 value.toNat)))) [] value
  rw [networkOrder_hton, Nat.mod_eq_of_lt fits, UInt64.ofNat_toNat]
  exact .pure

/-! ### The bytes that were read -/

/-- The bytes behind a number shift it. -/
theorem foldl_networkOrder (bytes : ByteBuffer) : ∀ start,
    bytes.foldl (fun n byte => n * 256 + byte.toNat) start =
      start * 256 ^ bytes.length + networkOrder bytes := by
  induction bytes with
  | nil =>
    intro start
    show start = start * 256 ^ 0 + 0
    omega
  | cons byte rest ih =>
    intro start
    have shifted : networkOrder (byte :: rest) = (0 * 256 + byte.toNat) * 256 ^ rest.length +
        networkOrder rest := ih _
    rw [List.foldl_cons, ih, shifted, List.length_cons, pow_succ]
    ring

theorem networkOrder_cons (byte : UInt8) (rest : ByteBuffer) :
    networkOrder (byte :: rest) = byte.toNat * 256 ^ rest.length + networkOrder rest := by
  have shifted : networkOrder (byte :: rest) = (0 * 256 + byte.toNat) * 256 ^ rest.length +
      networkOrder rest := foldl_networkOrder rest _
  rw [shifted, Nat.zero_mul, Nat.zero_add]

theorem networkOrder_lt (bytes : ByteBuffer) : networkOrder bytes < 256 ^ bytes.length := by
  induction bytes with
  | nil => exact Nat.one_pos
  | cons byte rest ih =>
    have digit : byte.toNat + 1 ≤ 256 := byte.toNat_lt
    rw [networkOrder_cons, List.length_cons, pow_succ]
    calc byte.toNat * 256 ^ rest.length + networkOrder rest
        < byte.toNat * 256 ^ rest.length + 256 ^ rest.length := by omega
      _ = (byte.toNat + 1) * 256 ^ rest.length := by ring
      _ ≤ 256 * 256 ^ rest.length := Nat.mul_le_mul_right _ digit
      _ = 256 ^ rest.length * 256 := Nat.mul_comm _ _

/-- The last bytes do not depend on what is in front of them. -/
theorem hton_add (bytes front value : ℕ) :
    hton bytes (front * 256 ^ bytes + value) = hton bytes value := by
  induction bytes generalizing front with
  | zero => rfl
  | succ bytes ih =>
    have positive : 0 < 256 ^ bytes := Nat.pow_pos (by decide)
    have split : front * 256 ^ (bytes + 1) + value = front * 256 * 256 ^ bytes + value := by
      rw [pow_succ]
      ring
    rw [hton_succ, hton_succ, split, ih]
    congr 1
    apply UInt8.toNat_inj.mp
    show (front * 256 * 256 ^ bytes + value) / 256 ^ bytes % 256 = value / 256 ^ bytes % 256
    rw [Nat.add_comm, Nat.add_mul_div_right _ _ positive, Nat.add_mul_mod_self_right]

/-- **The number of some bytes is written to these bytes.** -/
theorem hton_networkOrder (bytes : ByteBuffer) : hton bytes.length (networkOrder bytes) = bytes := by
  induction bytes with
  | nil => rfl
  | cons byte rest ih =>
    have positive : 0 < 256 ^ rest.length := Nat.pow_pos (by decide)
    have below := networkOrder_lt rest
    rw [List.length_cons, hton_succ, networkOrder_cons, hton_add, ih]
    congr 1
    rw [Nat.add_comm, Nat.add_mul_div_right _ _ positive, Nat.div_eq_of_lt below, Nat.zero_add]
    exact UInt8.ofNat_toNat

theorem takes_byte : Takes byte fun first bytes => bytes = [first] := Takes.byte

theorem takes_octets (n : ℕ) : Takes (octets n) fun string bytes => bytes = string.1 := Takes.octets n

theorem takes_uint16 : Takes uint16 fun value bytes => bytes = hton 2 value.toNat := by
  refine (takes_octets 2).bind fun string bytes taken => Takes.pure ?_
  have below : networkOrder string.1 < 2 ^ 16 := by
    have fits := networkOrder_lt string.1
    rwa [string.2] at fits
  have back := hton_networkOrder string.1
  rw [string.2] at back
  rw [taken, UInt16.toNat_ofNat_of_lt' below, back, List.append_nil]

theorem takes_uint32 : Takes uint32 fun value bytes => bytes = hton 4 value.toNat := by
  refine (takes_octets 4).bind fun string bytes taken => Takes.pure ?_
  have below : networkOrder string.1 < 2 ^ 32 := by
    have fits := networkOrder_lt string.1
    rwa [string.2] at fits
  have back := hton_networkOrder string.1
  rw [string.2] at back
  rw [taken, UInt32.toNat_ofNat_of_lt' below, back, List.append_nil]

end Vanet.Security
