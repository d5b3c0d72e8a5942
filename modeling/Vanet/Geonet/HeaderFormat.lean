/-
**The bytes of GeoNetworking headers.**

Data elements that share a byte or two are packed and unpacked as one number. What a serialiser has
written is read back (`Restores`), except that the DCC field of a single-hop broadcast is always read
as its raw bits.
-/

import Vanet.Geonet.Pdu
import Vanet.Security.Archive

namespace Vanet.Geonet

open Vanet.Net hiding ByteBuffer
open Vanet.Library Vanet.Security Reader Read

/-! ### Addresses -/

namespace Address

/-- The bits in front of the MAC address. -/
def pack (addr : Address) : UInt16 :=
  UInt16.ofNat (addr.isManuallyConfigured.toNat * 0x8000 + addr.stationType.toNat * 0x400 +
    addr.countryCode.toNat)

def unpack (tmp : UInt16) (mid : MacAddress) : Address where
  isManuallyConfigured := 0x8000 ≤ tmp.toNat
  stationType := BitVec.ofNat 5 (tmp.toNat / 0x400)
  countryCode := BitVec.ofNat 10 tmp.toNat
  mid := mid

def serialize (addr : Address) : ByteBuffer := hton 2 addr.pack.toNat ++ addr.mid.1

def deserialize : Read Address := do
  let tmp ← uint16
  let mid ← octets 6
  pure (unpack tmp mid)

theorem unpack_pack (addr : Address) : unpack addr.pack addr.mid = addr := by
  obtain ⟨manual, stationType, countryCode, mid⟩ := addr
  have station := stationType.isLt
  have country := countryCode.isLt
  have flag := manual.toNat_le
  have fits : manual.toNat * 0x8000 + stationType.toNat * 0x400 + countryCode.toNat < 2 ^ 16 := by
    omega
  have bits : (pack ⟨manual, stationType, countryCode, mid⟩).toNat =
      manual.toNat * 0x8000 + stationType.toNat * 0x400 + countryCode.toNat :=
    UInt16.toNat_ofNat_of_lt' fits
  unfold unpack
  rw [bits]
  congr 1
  · cases manual
    · exact decide_eq_false (by simp only [Bool.toNat_false]; omega)
    · exact decide_eq_true (by simp only [Bool.toNat_true]; omega)
  · apply BitVec.eq_of_toNat_eq
    rw [BitVec.toNat_ofNat]
    omega
  · apply BitVec.eq_of_toNat_eq
    rw [BitVec.toNat_ofNat]
    omega

theorem restores (addr : Address) : Restores deserialize addr.serialize addr := by
  refine (restores_uint16 addr.pack).bind ((Restores.octets addr.mid).map ?_)
  rw [unpack_pack]
  exact .pure

end Address

/-! ### Position vectors -/

namespace LongPositionVector

/-- The position accuracy indicator in front of the speed. -/
def pack (lpv : LongPositionVector) : UInt16 :=
  UInt16.ofNat (lpv.positionAccuracyIndicator.toNat * 0x8000 + lpv.speed.toNat)

def serialize (lpv : LongPositionVector) : ByteBuffer :=
  lpv.gnAddr.serialize ++ (hton 4 lpv.timestamp.raw.toNat ++
    (hton 4 lpv.latitude.toUInt32.toNat ++ (hton 4 lpv.longitude.toUInt32.toNat ++
      (hton 2 lpv.pack.toNat ++ hton 2 lpv.heading.toNat))))

def deserialize : Read LongPositionVector := do
  let gnAddr ← Address.deserialize
  let timestamp ← uint32
  let latitude ← uint32
  let longitude ← uint32
  let paiAndSpeed ← uint16
  let heading ← uint16
  pure ⟨gnAddr, ⟨timestamp⟩, latitude.toInt32, longitude.toInt32, 0x8000 ≤ paiAndSpeed.toNat,
    BitVec.ofNat 15 paiAndSpeed.toNat, heading⟩

theorem unpack_pack (lpv : LongPositionVector) :
    decide (0x8000 ≤ lpv.pack.toNat) = lpv.positionAccuracyIndicator ∧
      BitVec.ofNat 15 lpv.pack.toNat = lpv.speed := by
  have limit := lpv.speed.isLt
  have flag := lpv.positionAccuracyIndicator.toNat_le
  have fits : lpv.positionAccuracyIndicator.toNat * 0x8000 + lpv.speed.toNat < 2 ^ 16 := by omega
  have bits : lpv.pack.toNat = lpv.positionAccuracyIndicator.toNat * 0x8000 + lpv.speed.toNat :=
    UInt16.toNat_ofNat_of_lt' fits
  rw [bits]
  constructor
  · cases lpv.positionAccuracyIndicator
    · exact decide_eq_false (by simp only [Bool.toNat_false]; omega)
    · exact decide_eq_true (by simp only [Bool.toNat_true]; omega)
  · apply BitVec.eq_of_toNat_eq
    rw [BitVec.toNat_ofNat]
    omega

theorem restores (lpv : LongPositionVector) : Restores deserialize lpv.serialize lpv := by
  refine lpv.gnAddr.restores.bind ((restores_uint32 lpv.timestamp.raw).bind
    ((restores_uint32 lpv.latitude.toUInt32).bind ((restores_uint32 lpv.longitude.toUInt32).bind
      ((restores_uint16 lpv.pack).bind ((restores_uint16 lpv.heading).map ?_)))))
  rw [lpv.unpack_pack.1, lpv.unpack_pack.2]
  exact .pure

end LongPositionVector

/-! ### Headers -/

namespace BasicHeader

def serialize (hdr : BasicHeader) : ByteBuffer :=
  [UInt8.ofNat (hdr.version.toNat * 16 + hdr.nextHeader.toNat), hdr.reserved, hdr.lifetime.raw,
    hdr.hopLimit]

def deserialize : Read BasicHeader := do
  let versionAndNextHeader ← byte
  let reserved ← byte
  let lifetime ← byte
  let hopLimit ← byte
  pure ⟨BitVec.ofNat 4 (versionAndNextHeader.toNat / 16),
    BitVec.ofNat 4 versionAndNextHeader.toNat, reserved, ⟨lifetime⟩, hopLimit⟩

end BasicHeader

/-- Two halves of a byte are told apart again. -/
theorem nibbles (high low : BitVec 4) :
    BitVec.ofNat 4 ((UInt8.ofNat (high.toNat * 16 + low.toNat)).toNat / 16) = high ∧
      BitVec.ofNat 4 (UInt8.ofNat (high.toNat * 16 + low.toNat)).toNat = low := by
  have := high.isLt
  have := low.isLt
  rw [UInt8.toNat_ofNat_of_lt' (by show _ < 2 ^ 8; omega)]
  constructor
  all_goals
    apply BitVec.eq_of_toNat_eq
    rw [BitVec.toNat_ofNat]
    omega

theorem BasicHeader.restores (hdr : BasicHeader) : Restores deserialize hdr.serialize hdr := by
  refine (restores_byte _).bind ((restores_byte hdr.reserved).bind
    ((restores_byte hdr.lifetime.raw).bind ((restores_byte hdr.hopLimit).map ?_)))
  rw [(nibbles _ _).1, (nibbles _ _).2]
  exact .pure

namespace CommonHeader

def serialize (hdr : CommonHeader) : ByteBuffer :=
  [UInt8.ofNat (hdr.nextHeader.toNat * 16 + hdr.reserved1.toNat), hdr.headerType,
    hdr.trafficClass.raw, hdr.flags] ++
    (hton 2 hdr.payload.toNat ++ [hdr.maximumHopLimit, hdr.reserved2])

def deserialize : Read CommonHeader := do
  let nextHeaderAndReserved ← byte
  let headerType ← byte
  let trafficClass ← byte
  let flags ← byte
  let payload ← uint16
  let maximumHopLimit ← byte
  let reserved2 ← byte
  pure ⟨BitVec.ofNat 4 (nextHeaderAndReserved.toNat / 16),
    BitVec.ofNat 4 nextHeaderAndReserved.toNat, headerType, ⟨trafficClass⟩, flags, payload,
    maximumHopLimit, reserved2⟩

theorem restores (hdr : CommonHeader) : Restores deserialize hdr.serialize hdr := by
  refine (restores_byte _).bind ((restores_byte hdr.headerType).bind
    ((restores_byte hdr.trafficClass.raw).bind ((restores_byte hdr.flags).bind
      ((restores_uint16 hdr.payload).bind ((restores_byte hdr.maximumHopLimit).bind
        ((restores_byte hdr.reserved2).map ?_))))))
  rw [(nibbles _ _).1, (nibbles _ _).2]
  exact .pure

end CommonHeader

namespace BeaconHeader

def serialize (hdr : BeaconHeader) : ByteBuffer := hdr.sourcePosition.serialize

def deserialize : Read BeaconHeader := do
  let sourcePosition ← LongPositionVector.deserialize
  pure ⟨sourcePosition⟩

theorem restores (hdr : BeaconHeader) : Restores deserialize hdr.serialize hdr :=
  hdr.sourcePosition.restores.map .pure

end BeaconHeader

/-- The conversion of a `DccMcoField` to its bits. -/
def DccMcoField.raw (field : DccMcoField) : UInt32 :=
  UInt32.ofNat (((field.cbrL0Hop.toNat * 256 + field.cbrL1Hop.toNat) * 32 +
    field.outputPower.toNat) * 2048)

/-- What `serialize` writes of a DCC field. -/
def DccField.bits : DccField → UInt32
  | raw field => field
  | mco field => field.raw

namespace ShbHeader

def serialize (hdr : ShbHeader) : ByteBuffer :=
  hdr.sourcePosition.serialize ++ hton 4 hdr.dcc.bits.toNat

def deserialize : Read ShbHeader := do
  let sourcePosition ← LongPositionVector.deserialize
  let dcc ← uint32
  pure ⟨sourcePosition, .raw dcc⟩

theorem restores (hdr : ShbHeader) :
    Restores deserialize hdr.serialize { hdr with dcc := .raw hdr.dcc.bits } :=
  hdr.sourcePosition.restores.bind ((restores_uint32 hdr.dcc.bits).map .pure)

end ShbHeader

namespace GeoBroadcastHeader

def serialize (hdr : GeoBroadcastHeader) : ByteBuffer :=
  hton 2 hdr.sequenceNumber.toNat ++ (hton 2 hdr.reserved1.toNat ++
    (hdr.sourcePosition.serialize ++ (hton 4 hdr.geoAreaPosLatitude.toUInt32.toNat ++
      (hton 4 hdr.geoAreaPosLongitude.toUInt32.toNat ++ (hton 2 hdr.distanceA.toNat ++
        (hton 2 hdr.distanceB.toNat ++ (hton 2 hdr.angle.toNat ++
          hton 2 hdr.reserved2.toNat)))))))

def deserialize : Read GeoBroadcastHeader := do
  let sequenceNumber ← uint16
  let reserved1 ← uint16
  let sourcePosition ← LongPositionVector.deserialize
  let geoAreaPosLatitude ← uint32
  let geoAreaPosLongitude ← uint32
  let distanceA ← uint16
  let distanceB ← uint16
  let angle ← uint16
  let reserved2 ← uint16
  pure ⟨sequenceNumber, reserved1, sourcePosition, geoAreaPosLatitude.toInt32,
    geoAreaPosLongitude.toInt32, distanceA, distanceB, angle, reserved2⟩

theorem restores (hdr : GeoBroadcastHeader) : Restores deserialize hdr.serialize hdr :=
  (restores_uint16 hdr.sequenceNumber).bind ((restores_uint16 hdr.reserved1).bind
    (hdr.sourcePosition.restores.bind ((restores_uint32 hdr.geoAreaPosLatitude.toUInt32).bind
      ((restores_uint32 hdr.geoAreaPosLongitude.toUInt32).bind
        ((restores_uint16 hdr.distanceA).bind ((restores_uint16 hdr.distanceB).bind
          ((restores_uint16 hdr.angle).bind ((restores_uint16 hdr.reserved2).map .pure))))))))

end GeoBroadcastHeader

/-! ### PDUs -/

def HeaderVariant.serialize : HeaderVariant → ByteBuffer
  | beacon header => header.serialize
  | geoBroadcast header => header.serialize
  | shb header => header.serialize

/-- `serialize` of a PDU: a secured message carries the common and the extended header. -/
def ExtendedPdu.serialize {H : Type} [ExtendedHeader H] (pdu : ExtendedPdu H) : ByteBuffer :=
  pdu.basic.serialize ++
    match pdu.secured with
    | some secured => secured.serialize
    | none => pdu.common.serialize ++ (ExtendedHeader.variant pdu.extended).serialize

end Vanet.Geonet
