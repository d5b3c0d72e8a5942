/-
**The Ethernet II header**: two addresses and a type, in fourteen bytes.

What `createEthernetHeader` has written `decodeEthernetHeader` reads again, whatever follows.
-/

import Mathlib.Data.Nat.Bitwise
import Vanet.Net.Packet

namespace Vanet.Net

open Vanet.Library

structure EthernetHeader where
  destination : MacAddress
  source : MacAddress
  type : UInt16
  deriving DecidableEq

namespace EthernetHeader

/-- `length_bytes`. -/
def lengthBytes : ℕ := 2 * 6 + 2

/-- The header of a value-initialised `EthernetHeader`. -/
def zero : EthernetHeader where
  destination := ⟨List.replicate 6 0, rfl⟩
  source := ⟨List.replicate 6 0, rfl⟩
  type := 0

/-- `create_ethernet_header`. -/
def createEthernetHeader (hdr : EthernetHeader) : ByteBuffer :=
  hdr.destination.1 ++ (hdr.source.1 ++
    [UInt8.ofNat (hdr.type.toNat >>> 8), UInt8.ofNat (hdr.type.toNat &&& 0xff)])

theorem source_length {bytes : ByteBuffer} (enough : lengthBytes ≤ bytes.length) :
    ((bytes.drop 6).take 6).length = 6 := by
  have long : 14 ≤ bytes.length := enough
  rw [List.length_take, List.length_drop]
  omega

/-- `decode_ethernet_header`: it throws if there are too few bytes. -/
def decodeEthernetHeader (bytes : ByteBuffer) : Option EthernetHeader :=
  if enough : lengthBytes ≤ bytes.length then
    some {
      destination := ⟨bytes.take 6, List.length_take_of_le (le_trans (by decide) enough)⟩
      source := ⟨(bytes.drop 6).take 6, source_length enough⟩
      type := UInt16.ofNat ((bytes.getD 12 0).toNat <<< 8 ||| (bytes.getD 13 0).toNat) }
  else none

/-- The type is written and read most significant byte first. -/
theorem type_bytes (high low : UInt8) :
    (UInt16.ofNat (high.toNat <<< 8 ||| low.toNat)).toNat = high.toNat * 256 + low.toNat := by
  have above := high.toNat_lt
  have below := low.toNat_lt
  rw [← Nat.shiftLeft_add_eq_or_of_lt (by omega), Nat.shiftLeft_eq, UInt16.toNat_ofNat']
  omega

theorem length_createEthernetHeader (hdr : EthernetHeader) :
    hdr.createEthernetHeader.length = lengthBytes := by
  unfold createEthernetHeader
  rw [List.length_append, List.length_append, hdr.destination.2, hdr.source.2]
  rfl

/-- The type is read as it is written. -/
theorem bytes_type (type : UInt16) :
    UInt16.ofNat ((UInt8.ofNat (type.toNat >>> 8)).toNat <<< 8 ||| (UInt8.ofNat (type.toNat &&& 0xff)).toNat) =
      type := by
  have bound := type.toNat_lt
  refine UInt16.toNat.inj ?_
  rw [type_bytes, Nat.shiftRight_eq_div_pow, show 0xff = 2 ^ 8 - 1 from rfl,
    Nat.and_two_pow_sub_one_eq_mod, UInt8.toNat_ofNat', UInt8.toNat_ofNat']
  omega

/-- **What is written is decoded**, whatever follows. -/
theorem decode_createEthernetHeader (hdr : EthernetHeader) (rest : ByteBuffer) :
    decodeEthernetHeader (hdr.createEthernetHeader ++ rest) = some hdr := by
  obtain ⟨⟨destination, six⟩, ⟨source, also⟩, type⟩ := hdr
  have enough : lengthBytes ≤
      (createEthernetHeader ⟨⟨destination, six⟩, ⟨source, also⟩, type⟩ ++ rest).length := by
    rw [List.length_append, length_createEthernetHeader]
    exact Nat.le_add_right ..
  have bytes : createEthernetHeader ⟨⟨destination, six⟩, ⟨source, also⟩, type⟩ ++ rest = destination ++
      (source ++ (UInt8.ofNat (type.toNat >>> 8) :: UInt8.ofNat (type.toNat &&& 0xff) :: rest)) := by
    unfold createEthernetHeader
    rw [List.append_assoc, List.append_assoc]
    rfl
  unfold decodeEthernetHeader
  rw [dif_pos enough]
  have upper : (destination ++ (source ++ (UInt8.ofNat (type.toNat >>> 8) ::
      UInt8.ofNat (type.toNat &&& 0xff) :: rest))).drop 6 =
        source ++ (UInt8.ofNat (type.toNat >>> 8) :: UInt8.ofNat (type.toNat &&& 0xff) :: rest) :=
    List.drop_left' six
  refine congrArg some ?_
  congr 1
  · refine Subtype.ext ?_
    show (_ : ByteBuffer).take 6 = destination
    rw [bytes]
    exact List.take_left' six
  · refine Subtype.ext ?_
    show ((_ : ByteBuffer).drop 6).take 6 = source
    rw [bytes, upper]
    exact List.take_left' also
  · rw [bytes, List.getD_append_right _ _ _ _ (by omega), six, List.getD_append_right _ _ _ _ (by omega), also,
      List.getD_append_right _ _ _ _ (by omega), six, List.getD_append_right _ _ _ _ (by omega), also]
    exact bytes_type type

theorem decodeEthernetHeader_isSome {bytes : ByteBuffer} :
    (decodeEthernetHeader bytes).isSome = true ↔ lengthBytes ≤ bytes.length := by
  unfold decodeEthernetHeader
  split_ifs with enough <;> simp [enough]

end EthernetHeader

end Vanet.Net
