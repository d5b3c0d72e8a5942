/-
**Packet data units and pending packets.**

The source's closures are data here: a pending packet holds the action that resumes its processing.
A pending packet that still has its PDU also has its payload.
-/

import Vanet.Geonet.Headers
import Vanet.Security.Serialize

namespace Vanet.Geonet

open Vanet.Net Vanet.Security

/-- An extended header that a PDU can have. -/
class ExtendedHeader (H : Type) where
  variant : H → HeaderVariant

instance beaconExtended : ExtendedHeader BeaconHeader := ⟨.beacon⟩
instance geoBroadcastExtended : ExtendedHeader GeoBroadcastHeader := ⟨.geoBroadcast⟩
instance shbExtended : ExtendedHeader ShbHeader := ⟨.shb⟩
instance variantExtended : ExtendedHeader HeaderVariant := ⟨id⟩

structure ExtendedPdu (H : Type) where
  basic : BasicHeader
  common : CommonHeader
  extended : H
  secured : Option SecuredMessage

abbrev BeaconPdu := ExtendedPdu BeaconHeader
abbrev GbcPdu := ExtendedPdu GeoBroadcastHeader
abbrev ShbPdu := ExtendedPdu ShbHeader
abbrev VariantPdu := ExtendedPdu HeaderVariant

namespace ExtendedPdu

variable {H : Type}

/-- The PDU as the interfaces below the router see it. -/
def toVariant [ExtendedHeader H] (pdu : ExtendedPdu H) : VariantPdu :=
  ⟨pdu.basic, pdu.common, ExtendedHeader.variant pdu.extended, pdu.secured⟩

/-- `get_length`: a secured message carries the common and the extended header. -/
def getLength [ExtendedHeader H] (pdu : ExtendedPdu H) : ℕ :=
  match pdu.secured with
  | some secured => BasicHeader.lengthBytes + secured.getSize
  | none =>
    BasicHeader.lengthBytes + CommonHeader.lengthBytes +
      (ExtendedHeader.variant pdu.extended).getLength

/-- The PDU with another lifetime. -/
def setLifetime (pdu : ExtendedPdu H) (lifetime : Lifetime) : ExtendedPdu H :=
  { pdu with basic := { pdu.basic with lifetime := lifetime } }

@[simp] theorem setLifetime_extended (pdu : ExtendedPdu H) (lifetime : Lifetime) :
    (pdu.setLifetime lifetime).extended = pdu.extended :=
  rfl

@[simp] theorem setLifetime_getLength [ExtendedHeader H] (pdu : ExtendedPdu H)
    (lifetime : Lifetime) : (pdu.setLifetime lifetime).getLength = pdu.getLength :=
  rfl

end ExtendedPdu

/-- `PendingPacket`, over the extended header of its PDU and its actions. -/
structure PendingPacket (H φ : Type) where
  pdu : ExtendedPdu H
  payload : ChunkPacket
  action : φ

namespace PendingPacket

variable {H φ ψ : Type}

def length [ExtendedHeader H] (packet : PendingPacket H φ) : ℕ :=
  packet.pdu.getLength + packet.payload.sizeRange .transport .application

/-- `reduce_lifetime`: the lifetime that remains, and the packet. -/
def reduceLifetime (packet : PendingPacket H φ) (queuingTime : ℤ) : ℤ × PendingPacket H φ :=
  let packetLifetime := packet.pdu.basic.lifetime.decode
  if queuingTime ≤ 0 then (packetLifetime, packet)
  else if queuingTime < packetLifetime then
    let remaining := packetLifetime - queuingTime
    (remaining, { packet with pdu := packet.pdu.setLifetime (.encode remaining) })
  else (0, { packet with pdu := packet.pdu.setLifetime .zero })

/-- `duplicate`: the payload of a secured PDU is within its secured message. -/
def duplicate (packet : PendingPacket H φ) : PendingPacket H φ :=
  { packet with payload := if packet.pdu.secured.isSome then .empty else packet.payload }

/-- The packet with another action. -/
def withAction (packet : PendingPacket H φ) (action : ψ) : PendingPacket H ψ :=
  ⟨packet.pdu, packet.payload, action⟩

/-- **Nothing but the lifetime changes** when it is reduced, and it does not grow. -/
theorem reduceLifetime_changes (packet : PendingPacket H φ) (queuingTime : ℤ) :
    ∃ lifetime : Lifetime, lifetime.decode ≤ packet.pdu.basic.lifetime.decode ∧
      (packet.reduceLifetime queuingTime).2 =
        { packet with pdu := packet.pdu.setLifetime lifetime } := by
  unfold reduceLifetime
  dsimp only
  split_ifs with unqueued outlives
  · exact ⟨packet.pdu.basic.lifetime, le_rfl, rfl⟩
  · exact ⟨_, Lifetime.decode_encode_le (by omega) (by omega), rfl⟩
  · exact ⟨.zero, by rw [Lifetime.decode_zero]; exact Lifetime.decode_nonneg _, rfl⟩

@[simp] theorem reduceLifetime_length [ExtendedHeader H] (packet : PendingPacket H φ)
    (queuingTime : ℤ) : (packet.reduceLifetime queuingTime).2.length = packet.length := by
  obtain ⟨lifetime, _, changed⟩ := packet.reduceLifetime_changes queuingTime
  rw [changed]
  rfl

@[simp] theorem reduceLifetime_extended (packet : PendingPacket H φ) (queuingTime : ℤ) :
    (packet.reduceLifetime queuingTime).2.pdu.extended = packet.pdu.extended := by
  obtain ⟨lifetime, _, changed⟩ := packet.reduceLifetime_changes queuingTime
  rw [changed]
  rfl

end PendingPacket

end Vanet.Geonet
