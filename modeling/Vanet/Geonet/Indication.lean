/-
**What is parsed of a received packet.**

A packet comes from the link layer as bytes or, within a simulation, as the PDU itself. Its contexts
parse the headers in both cases; a second context parses the payload of a secured message. A parser
returns no header if the bytes end or the security layer cannot deserialise them; everything else
that a deserialiser throws is a fault.
-/

import Vanet.Geonet.DataRequest
import Vanet.Geonet.HeaderFormat

namespace Vanet.Geonet

open Vanet.Net hiding ByteBuffer
open Vanet.Library Vanet.Security

/-! ### Received packets -/

structure LinkLayer where
  sender : MacAddress
  destination : MacAddress
  deriving DecidableEq

/-- What the network layer of a chunk packet can be cast to. -/
inductive NetworkLayer
  | bytes (buffer : ByteBuffer)
  | pdu (casted : VariantPdu)
  | securedPdu (common : CommonHeader) (extended : HeaderVariant)

def NetworkLayer.size : NetworkLayer → ℕ
  | bytes buffer => buffer.length
  | pdu casted => casted.getLength
  | securedPdu _ extended => CommonHeader.lengthBytes + extended.getLength

/-- A chunk packet with its network layer apart from the other layers. -/
structure UpChunk where
  network : NetworkLayer
  others : ChunkPacket

namespace UpChunk

def layerSize (packet : UpChunk) : OsiLayer → ℕ
  | .network => packet.network.size
  | other => (packet.others.layer other).length

def sizeRange (packet : UpChunk) (first last : OsiLayer) : ℕ :=
  ((osiLayerRange first last).map packet.layerSize).sum

def size (packet : UpChunk) : ℕ := (osiLayers.map packet.layerSize).sum

/-- `merge` of the layers above the network layer. -/
def mergeUpper (packet source : UpChunk) : UpChunk :=
  { packet with others := { layer := fun layer =>
      if layer.index < OsiLayer.transport.index then packet.others.layer layer
      else source.others.layer layer } }

end UpChunk

/-- `PacketVariant`. -/
inductive UpPacket
  | chunk (packet : UpChunk)
  | cohesive (packet : CohesivePacket)

namespace UpPacket

/-- `size` of a range of layers. -/
def sizeRange (packet : UpPacket) (first last : OsiLayer) : ℕ :=
  match packet with
  | chunk packet => packet.sizeRange first last
  | cohesive packet => packet.sizeRange first last

/-- `duplicate`. The network layer of the duplicate is replaced before anything reads it. -/
def duplicate : UpPacket → ChunkPacket
  | chunk packet => packet.others
  | cohesive packet => ⟨packet.layer⟩

end UpPacket

/-! ### Reports -/

inductive DecapReport
  | success
  | falseSignature
  | invalidCertificate
  | revokedCertificate
  | inconsistantChain
  | invalidTimestamp
  | duplicateMessage
  | invalidMobilityData
  | unsignedMessage
  | signerCertificateNotFound
  | unsupportedSignerIdentifierType
  | incompatibleProtocol
  | unencryptedMessage
  | decryptionError
  deriving DecidableEq

structure DecapConfirm where
  plaintextPayload : UpPacket
  report : DecapReport
  itsAid : ItsAid
  permissions : ByteBuffer

structure EncapRequest where
  plaintextPayload : UpChunk
  itsAid : ItsAid

inductive TransportType
  | guc
  | gac
  | gbc
  | tsb
  | shb
  deriving DecidableEq

structure ShortPositionVector where
  gnAddr : Address
  timestamp : Timestamp
  latitude : Int32
  longitude : Int32
  deriving DecidableEq

/-- The conversion of a long position vector. -/
def LongPositionVector.short (lpv : LongPositionVector) : ShortPositionVector :=
  ⟨lpv.gnAddr, lpv.timestamp, lpv.latitude, lpv.longitude⟩

/-- `DataIndication`; a field is `none` until it has been set. -/
structure DataIndication where
  upperProtocol : UpperProtocol
  transportType : Option TransportType
  destination : Option Area
  sourcePosition : Option ShortPositionVector
  securityReport : Option DecapReport
  itsAid : Option ItsAid
  permissions : Option ByteBuffer
  trafficClass : Option TrafficClass
  remainingPacketLifetime : Option Lifetime
  remainingHopLimit : Option UInt8
  deriving DecidableEq

def DataIndication.empty : DataIndication :=
  ⟨.unknown, none, none, none, none, none, none, none, none, none⟩

/-- What ends an indication or a request early. -/
inductive RouterFault
  | runtimeError (what : String)
  | security (fault : Fault)
  | assertion
  deriving DecidableEq

/-! ### Parsing -/

structure Parser where
  archive : Tape Note
  readBytes : ℕ

namespace Parser

def start (bytes : ByteBuffer) : Parser := ⟨untouched bytes, 0⟩

/-- Run a deserialiser that returns a value and its bytes. -/
def parse {α : Type} (parser : Parser) (deserialize : Read (α × ℕ)) :
    Except RouterFault (Option α × Parser) :=
  match deserialize parser.archive with
  | (.ok (value, bytes), archive) =>
    .ok (if bytes > 0 then some value else none, ⟨archive, parser.readBytes + bytes⟩)
  | (.error .incomplete, archive) => .ok (none, ⟨archive, parser.readBytes⟩)
  | (.error (.deserializationError _), archive) => .ok (none, ⟨archive, parser.readBytes⟩)
  | (.error fault, _) => .error (.security fault)

/-- A deserialiser of a header with its length. -/
def counted {α : Type} (deserialize : Read α) (lengthBytes : ℕ) : Read (α × ℕ) := do
  let header ← deserialize
  pure (header, lengthBytes)

def parseBasic (parser : Parser) : Except RouterFault (Option BasicHeader × Parser) :=
  parser.parse (counted BasicHeader.deserialize BasicHeader.lengthBytes)

def parseCommon (parser : Parser) : Except RouterFault (Option CommonHeader × Parser) :=
  parser.parse (counted CommonHeader.deserialize CommonHeader.lengthBytes)

def parseSecured (limit : ℕ) (parser : Parser) : Except RouterFault (Option SecuredMessage × Parser) :=
  parser.parse (deserializeSecuredMessage limit)

def parseExtended (parser : Parser) (ht : HeaderType) :
    Except RouterFault (Option HeaderVariant × Parser) :=
  if ht = .tsbSingleHop then
    parser.parse (counted (do pure (.shb (← ShbHeader.deserialize))) ShbHeader.lengthBytes)
  else if ht = .geoBroadcastCircle ∨ ht = .geoBroadcastRect ∨ ht = .geoBroadcastElip then
    parser.parse
      (counted (do pure (.geoBroadcast (← GeoBroadcastHeader.deserialize)))
        GeoBroadcastHeader.lengthBytes)
  else if ht = .beacon then
    parser.parse (counted (do pure (.beacon (← BeaconHeader.deserialize))) BeaconHeader.lengthBytes)
  else .ok (none, parser)

end Parser

/-! ### Contexts -/

/-- The contexts of the first phase: `IndicationContextDeserialize` and `IndicationContextCast`. -/
inductive BasicContext
  | deserialize (packet : CohesivePacket) (parser : Parser)
  | cast (packet : UpChunk) (pdu : VariantPdu)

namespace BasicContext

/-- The construction, which casts a chunk packet. -/
def ofPacket : UpPacket → Except RouterFault BasicContext
  | .cohesive packet => .ok (deserialize packet (.start (packet.layer .network)))
  | .chunk packet =>
    match packet.network with
    | .pdu casted => .ok (cast packet casted)
    | _ => .error (.runtimeError "Casting to Pdu failed")

def parseBasic : BasicContext → Except RouterFault (Option BasicHeader × BasicContext)
  | deserialize packet parser =>
    parser.parseBasic.map fun parsed => (parsed.1, deserialize packet parsed.2)
  | cast packet pdu => .ok (some pdu.basic, cast packet pdu)

def parseSecured (limit : ℕ) :
    BasicContext → Except RouterFault (Option SecuredMessage × BasicContext)
  | deserialize packet parser =>
    (parser.parseSecured limit).map fun parsed => (parsed.1, deserialize packet parsed.2)
  | cast packet pdu => .ok (pdu.secured, cast packet pdu)

/-- The secured message of the PDU without any parsing: bytes have none so far. -/
def secured : BasicContext → Option SecuredMessage
  | deserialize _ _ => none
  | cast _ pdu => pdu.secured

/-- `finish`, over the payload's size that the common header has. -/
def finish (payload : ℕ) : BasicContext → Except RouterFault UpPacket
  | deserialize packet parser =>
    match packet.setBoundary parser.readBytes with
    | some bounded => .ok (.cohesive (bounded.trim payload))
    | none => .error .assertion
  | cast packet _ => .ok (.chunk packet)

end BasicContext

/-- All contexts. `IndicationContextSecuredDeserialize` keeps its parent, and
`IndicationContextSecuredCast` the packet it has taken from its parent. -/
inductive IndicationContext
  | basic (ctx : BasicContext)
  | securedDeserialize (parent : BasicContext) (payload : CohesivePacket) (parser : Parser)
  | securedCast (packet : UpPacket) (common : CommonHeader) (extended : HeaderVariant)

namespace IndicationContext

/-- The packet of the parent with the payload of the secured message. The buffer for a cohesive
packet has the payload's size before the layers are inserted behind. -/
def mergeSecured (payload : UpChunk) : UpPacket → UpPacket
  | .chunk packet => .chunk (packet.mergeUpper payload)
  | .cohesive _ =>
    let buffer := List.replicate payload.size 0 ++
      (osiLayerRange .transport .application).flatMap payload.others.layer
    .cohesive ⟨fun layer => if layer = .transport then buffer else []⟩

/-- The construction for the plaintext payload of a secured message. The common header has not been
set when the parent's packet is taken. -/
def ofPlaintext (parent : BasicContext) : UpPacket → Except RouterFault IndicationContext
  | .cohesive payload => .ok (securedDeserialize parent payload (.start (payload.layer .network)))
  | .chunk payload => do
    let packet ← parent.finish 0
    match payload.network with
    | .securedPdu common extended => .ok (securedCast (mergeSecured payload packet) common extended)
    | _ => .error (.runtimeError "Casting to SecuredPdu failed")

def parseCommon : IndicationContext → Except RouterFault (Option CommonHeader × IndicationContext)
  | basic (.deserialize packet parser) =>
    parser.parseCommon.map fun parsed => (parsed.1, basic (.deserialize packet parsed.2))
  | basic (.cast packet pdu) => .ok (some pdu.common, basic (.cast packet pdu))
  | securedDeserialize parent payload parser =>
    parser.parseCommon.map fun parsed => (parsed.1, securedDeserialize parent payload parsed.2)
  | securedCast packet common extended => .ok (some common, securedCast packet common extended)

def parseExtended (ht : HeaderType) :
    IndicationContext → Except RouterFault (Option HeaderVariant × IndicationContext)
  | basic (.deserialize packet parser) =>
    (parser.parseExtended ht).map fun parsed => (parsed.1, basic (.deserialize packet parsed.2))
  | basic (.cast packet pdu) => .ok (some pdu.extended, basic (.cast packet pdu))
  | securedDeserialize parent payload parser =>
    (parser.parseExtended ht).map fun parsed =>
      (parsed.1, securedDeserialize parent payload parsed.2)
  | securedCast packet common extended => .ok (some extended, securedCast packet common extended)

/-- `finish`. A payload that is deserialised replaces the parent's packet and is not trimmed. -/
def finish (payload : ℕ) : IndicationContext → Except RouterFault UpPacket
  | basic ctx => ctx.finish payload
  | securedDeserialize parent packet parser =>
    match packet.setBoundary parser.readBytes with
    | some bounded => do
      let _ ← parent.finish payload
      .ok (.cohesive bounded)
    | none => .error .assertion
  | securedCast packet _ _ => .ok packet

end IndicationContext

end Vanet.Geonet
