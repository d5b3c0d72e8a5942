/-
**Headers and their bytes.**

A header that is written is read back, the bytes that a header was read from are those that it is written
to, and both are as long as the header says (`Codec`). The four bytes of the DCC field do not say which
alternative they stand for: they are read as raw bits, from which the same field is obtained
(`getDccMco_readBack`).
-/

import Vanet.Geonet.HeaderFormat

namespace Vanet.Geonet

open Vanet.Net hiding ByteBuffer
open Vanet.Library Vanet.Security Reader Read

/-- **A codec** of a fixed length. `readBack` is what is read of a header that was written. -/
structure Codec {H : Type} (length : ℕ) (serialize : H → ByteBuffer) (deserialize : Read H)
    (readBack : H → H) : Prop where
  restores : ∀ hdr, Restores deserialize (serialize hdr) (readBack hdr)
  length_serialize : ∀ hdr, (serialize hdr).length = length
  serialize_deserialize : ∀ bytes : ByteBuffer, bytes.length = length → ∀ hdr after,
    deserialize ⟨bytes, []⟩ = (.ok hdr, after) → serialize hdr = bytes

/-- A reader that takes the bytes of what it returns. -/
theorem Codec.of_takes {H : Type} {length : ℕ} {serialize : H → ByteBuffer} {deserialize : Read H}
    {readBack : H → H} (restores : ∀ hdr, Restores deserialize (serialize hdr) (readBack hdr))
    (long : ∀ hdr, (serialize hdr).length = length)
    (takes : Takes deserialize fun hdr bytes => bytes = serialize hdr) :
    Codec length serialize deserialize readBack := by
  refine ⟨restores, long, fun bytes size hdr after returned => ?_⟩
  obtain ⟨taken, split, same⟩ := takes ⟨bytes, []⟩ hdr after returned
  have whole : bytes = serialize hdr ++ after.unread := same ▸ split
  have nothing : after.unread = [] := by
    have lengths := congrArg List.length whole
    rw [List.length_append, long, size] at lengths
    exact List.length_eq_zero_iff.mp (by omega)
  rw [whole, nothing, List.append_nil]

/-! ### Packed numbers -/

/-- The bits of an address are packed again. -/
theorem Address.pack_unpack (tmp : UInt16) (mid : MacAddress) : (unpack tmp mid).pack = tmp := by
  apply UInt16.toNat_inj.mp
  have limit := tmp.toNat_lt
  unfold pack unpack
  dsimp only
  rw [BitVec.toNat_ofNat, BitVec.toNat_ofNat, UInt16.toNat_ofNat']
  by_cases manual : 0x8000 ≤ tmp.toNat
  · rw [decide_eq_true manual, Bool.toNat_true]
    omega
  · rw [decide_eq_false manual, Bool.toNat_false]
    omega

/-- The accuracy indicator and the speed are packed again. -/
theorem LongPositionVector.pack_unpack {lpv : LongPositionVector} {paiAndSpeed : UInt16}
    (pai : lpv.positionAccuracyIndicator = decide (0x8000 ≤ paiAndSpeed.toNat))
    (speed : lpv.speed = BitVec.ofNat 15 paiAndSpeed.toNat) : lpv.pack = paiAndSpeed := by
  apply UInt16.toNat_inj.mp
  have limit := paiAndSpeed.toNat_lt
  unfold pack
  rw [pai, speed, BitVec.toNat_ofNat, UInt16.toNat_ofNat']
  by_cases accurate : 0x8000 ≤ paiAndSpeed.toNat
  · rw [decide_eq_true accurate, Bool.toNat_true]
    omega
  · rw [decide_eq_false accurate, Bool.toNat_false]
    omega

/-- The two halves of a byte are joined again. -/
theorem join_nibbles (first : UInt8) :
    UInt8.ofNat ((BitVec.ofNat 4 (first.toNat / 16)).toNat * 16 +
      (BitVec.ofNat 4 first.toNat).toNat) = first := by
  apply UInt8.toNat_inj.mp
  have limit := first.toNat_lt
  rw [BitVec.toNat_ofNat, BitVec.toNat_ofNat, UInt8.toNat_ofNat']
  omega

/-! ### The headers -/

namespace Address

theorem takes : Takes deserialize fun addr bytes => bytes = addr.serialize := by
  refine takes_uint16.bind fun tmp first taken => (takes_octets 6).bind fun mid second more => ?_
  refine Takes.pure ?_
  unfold serialize
  rw [pack_unpack, taken, more, List.append_nil]
  rfl

theorem length_serialize (addr : Address) : addr.serialize.length = 8 := by
  unfold serialize
  rw [List.length_append, length_hton, addr.mid.2]

theorem codec : Codec 8 serialize deserialize id :=
  .of_takes restores length_serialize takes

end Address

namespace LongPositionVector

theorem takes : Takes deserialize fun lpv bytes => bytes = lpv.serialize := by
  refine Address.takes.bind fun gnAddr b1 t1 => takes_uint32.bind fun timestamp b2 t2 =>
    takes_uint32.bind fun latitude b3 t3 => takes_uint32.bind fun longitude b4 t4 =>
      takes_uint16.bind fun paiAndSpeed b5 t5 => takes_uint16.bind fun heading b6 t6 => ?_
  refine Takes.pure ?_
  unfold serialize
  rw [pack_unpack (by rfl) (by rfl), t1, t2, t3, t4, t5, t6, List.append_nil]
  rfl

theorem length_serialize (lpv : LongPositionVector) : lpv.serialize.length = lengthBytes := by
  unfold serialize
  simp only [List.length_append, length_hton, Address.length_serialize]
  rfl

theorem codec : Codec lengthBytes serialize deserialize id :=
  .of_takes restores length_serialize takes

end LongPositionVector

namespace BasicHeader

theorem takes : Takes deserialize fun hdr bytes => bytes = hdr.serialize := by
  refine takes_byte.bind fun versionAndNextHeader b1 t1 => takes_byte.bind fun reserved b2 t2 =>
    takes_byte.bind fun lifetime b3 t3 => takes_byte.bind fun hopLimit b4 t4 => ?_
  refine Takes.pure ?_
  unfold serialize
  dsimp only
  rw [join_nibbles, t1, t2, t3, t4]
  rfl

theorem codec : Codec lengthBytes serialize deserialize id :=
  .of_takes restores (fun _ => rfl) takes

end BasicHeader

namespace CommonHeader

theorem takes : Takes deserialize fun hdr bytes => bytes = hdr.serialize := by
  refine takes_byte.bind fun nextHeaderAndReserved b1 t1 => takes_byte.bind fun headerType b2 t2 =>
    takes_byte.bind fun trafficClass b3 t3 => takes_byte.bind fun flags b4 t4 =>
      takes_uint16.bind fun payload b5 t5 => takes_byte.bind fun maximumHopLimit b6 t6 =>
        takes_byte.bind fun reserved2 b7 t7 => ?_
  refine Takes.pure ?_
  unfold serialize
  dsimp only
  rw [join_nibbles, t1, t2, t3, t4, t5, t6, t7]
  rfl

theorem length_serialize (hdr : CommonHeader) : hdr.serialize.length = lengthBytes := by
  unfold serialize
  simp only [List.length_append, length_hton, List.length_cons, List.length_nil]
  rfl

theorem codec : Codec lengthBytes serialize deserialize id :=
  .of_takes restores length_serialize takes

end CommonHeader

namespace BeaconHeader

theorem takes : Takes deserialize fun hdr bytes => bytes = hdr.serialize := by
  refine LongPositionVector.takes.bind fun sourcePosition bytes taken => Takes.pure ?_
  rw [taken, List.append_nil]
  rfl

theorem codec : Codec lengthBytes serialize deserialize id :=
  .of_takes restores (fun hdr => hdr.sourcePosition.length_serialize) takes

end BeaconHeader

namespace GeoBroadcastHeader

theorem takes : Takes deserialize fun hdr bytes => bytes = hdr.serialize := by
  refine takes_uint16.bind fun sequenceNumber b1 t1 => takes_uint16.bind fun reserved1 b2 t2 =>
    LongPositionVector.takes.bind fun sourcePosition b3 t3 =>
      takes_uint32.bind fun geoAreaPosLatitude b4 t4 =>
        takes_uint32.bind fun geoAreaPosLongitude b5 t5 =>
          takes_uint16.bind fun distanceA b6 t6 => takes_uint16.bind fun distanceB b7 t7 =>
            takes_uint16.bind fun angle b8 t8 => takes_uint16.bind fun reserved2 b9 t9 => ?_
  refine Takes.pure ?_
  unfold serialize
  rw [t1, t2, t3, t4, t5, t6, t7, t8, t9, List.append_nil]
  rfl

theorem length_serialize (hdr : GeoBroadcastHeader) : hdr.serialize.length = lengthBytes := by
  unfold serialize
  simp only [List.length_append, length_hton, LongPositionVector.length_serialize]
  rfl

theorem codec : Codec lengthBytes serialize deserialize id :=
  .of_takes restores length_serialize takes

end GeoBroadcastHeader

namespace ShbHeader

/-- What is read of a header: the DCC field's raw bits. -/
def readBack (hdr : ShbHeader) : ShbHeader := { hdr with dcc := .raw hdr.dcc.bits }

theorem takes : Takes deserialize fun hdr bytes => bytes = hdr.serialize := by
  refine LongPositionVector.takes.bind fun sourcePosition b1 t1 => takes_uint32.bind fun dcc b2 t2 => ?_
  refine Takes.pure ?_
  unfold serialize
  rw [t1, t2, List.append_nil]
  rfl

theorem length_serialize (hdr : ShbHeader) : hdr.serialize.length = lengthBytes := by
  unfold serialize
  rw [List.length_append, length_hton, LongPositionVector.length_serialize]
  rfl

theorem codec : Codec lengthBytes serialize deserialize readBack :=
  .of_takes restores length_serialize takes

/-- A header whose DCC field is raw is read back as it is. -/
theorem readBack_raw {hdr : ShbHeader} {field : UInt32} (raw : hdr.dcc = .raw field) :
    hdr.readBack = hdr := by
  unfold readBack
  rw [raw]
  show ({ hdr with dcc := .raw field } : ShbHeader) = hdr
  rw [← raw]

end ShbHeader

/-! ### The DCC field -/

/-- The bits of a field are those of its three numbers. -/
theorem DccMcoField.raw_toNat (field : DccMcoField) :
    field.raw.toNat = ((field.cbrL0Hop.toNat * 256 + field.cbrL1Hop.toNat) * 32 +
      field.outputPower.toNat) * 2048 := by
  have l0 := field.cbrL0Hop.toNat_lt
  have l1 := field.cbrL1Hop.toNat_lt
  have power := field.outputPower.isLt
  exact UInt32.toNat_ofNat_of_lt' (by show _ < 2 ^ 32; omega)

/-- **A field is obtained from its bits again.** -/
theorem DccMcoField.ofRaw_raw (field : DccMcoField) : ofRaw field.raw = field := by
  have bits := field.raw_toNat
  have l0 := field.cbrL0Hop.toNat_lt
  have l1 := field.cbrL1Hop.toNat_lt
  have power := field.outputPower.isLt
  obtain ⟨cbrL0Hop, cbrL1Hop, outputPower⟩ := field
  dsimp only at bits l0 l1 power
  unfold ofRaw
  congr 1
  · apply UInt8.toNat_inj.mp
    rw [UInt32.toNat_toUInt8, UInt32.toNat_shiftRight, bits]
    show _ >>> 24 % 256 = _
    rw [Nat.shiftRight_eq_div_pow]
    omega
  · apply UInt8.toNat_inj.mp
    rw [UInt32.toNat_toUInt8, UInt32.toNat_shiftRight, bits]
    show _ >>> 16 % 256 = _
    rw [Nat.shiftRight_eq_div_pow]
    omega
  · apply BitVec.eq_of_toNat_eq
    rw [BitVec.toNat_ofNat, UInt32.toNat_shiftRight, bits]
    show _ >>> 11 % 2 ^ 5 = _
    rw [Nat.shiftRight_eq_div_pow]
    omega

/-- **The DCC field of a header that was read is that of the header that was written.** -/
theorem ShbHeader.getDccMco_readBack (hdr : ShbHeader) :
    getDccMco hdr.readBack.dcc = getDccMco hdr.dcc := by
  unfold readBack
  cases hdr.dcc with
  | raw field => rfl
  | mco field => exact field.ofRaw_raw

/-- **The header codec.** Every header is written with its length, read back as it is, and written again
to the bytes it was read from. Of a single-hop broadcast header the DCC field is read as raw bits, which
stand for the same field. -/
theorem header_codec :
    Codec BasicHeader.lengthBytes BasicHeader.serialize BasicHeader.deserialize id ∧
      Codec CommonHeader.lengthBytes CommonHeader.serialize CommonHeader.deserialize id ∧
      Codec LongPositionVector.lengthBytes LongPositionVector.serialize
        LongPositionVector.deserialize id ∧
      Codec BeaconHeader.lengthBytes BeaconHeader.serialize BeaconHeader.deserialize id ∧
      Codec GeoBroadcastHeader.lengthBytes GeoBroadcastHeader.serialize
        GeoBroadcastHeader.deserialize id ∧
      Codec ShbHeader.lengthBytes ShbHeader.serialize ShbHeader.deserialize ShbHeader.readBack ∧
      ∀ hdr : ShbHeader, hdr.readBack.sourcePosition = hdr.sourcePosition ∧
        getDccMco hdr.readBack.dcc = getDccMco hdr.dcc ∧
        (∀ field, hdr.dcc = .raw field → hdr.readBack = hdr) :=
  ⟨BasicHeader.codec, CommonHeader.codec, LongPositionVector.codec, BeaconHeader.codec,
    GeoBroadcastHeader.codec, ShbHeader.codec,
    fun hdr => ⟨rfl, hdr.getDccMco_readBack, fun _ raw => ShbHeader.readBack_raw raw⟩⟩

/-- A header with channel loads comes back with raw bits. -/
theorem shb_not_restored :
    ¬ ∀ hdr : ShbHeader, Restores ShbHeader.deserialize hdr.serialize hdr := by
  intro claimed
  obtain ⟨taken, read⟩ := claimed ⟨.zero, .mco ⟨100, 50, 23⟩⟩ [] []
  obtain ⟨other, same⟩ := ShbHeader.restores ⟨.zero, .mco ⟨100, 50, 23⟩⟩ [] []
  have headers := congrArg Prod.fst (read.symm.trans same)
  cases headers

end Vanet.Geonet
