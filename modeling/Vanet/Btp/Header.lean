/-
**The headers of the Basic Transport Protocol.**

Both headers are two numbers of two bytes. A header that is written is read back, and whatever has four
bytes can be read as a header of either kind (`parse_iff`): parsing a packet fails exactly if its
transport layer is shorter. The bytes of a cohesive packet behind its header move to the session layer.
-/

import Vanet.Geonet.HeaderCodec
import Vanet.Geonet.Indication
import Vanet.Net.CohesivePacket

namespace Vanet.Net

/-- `set_boundary` between the transport and the session layer. -/
def CohesivePacket.setTransportBoundary (packet : CohesivePacket) (bytes : ℕ) : Option CohesivePacket :=
  if bytes ≤ (packet.layer .transport).length then
    some { layer := fun layer =>
      match layer with
      | .transport => (packet.layer .transport).take bytes
      | .session => (packet.layer .transport).drop bytes ++ packet.layer .session
      | other => packet.layer other }
  else none

/-- **The boundary above the transport layer**, as a change of the layers. -/
theorem Cohesive.setTransportBoundary_toPacket {packet after : Cohesive} {address bytes : ℕ}
    (layered : packet.Layered address) (moved : packet.setBoundary .transport bytes = some after) :
    packet.toPacket.setTransportBoundary bytes = some after.toPacket := by
  obtain ⟨enough, buffer, _, position⟩ := setBoundary_spec layered moved
  have size : bytes ≤ (packet.toPacket.layer .transport).length :=
    enough.trans (layered.length_get .transport).ge
  have ordered : packet.boundary 3 + bytes ≤ packet.boundary 4 := by
    have le : packet.boundary 3 ≤ packet.boundary 4 := layered.ordered (by decide)
    have room : bytes ≤ packet.boundary 4 - packet.boundary 3 := enough
    omega
  have moved : after.boundary 4 = packet.boundary 3 + bytes := position 4
  have third : after.boundary 3 = packet.boundary 3 := position 3
  have fifth : after.boundary 5 = packet.boundary 5 := position 5
  unfold CohesivePacket.setTransportBoundary
  rw [if_pos size]
  refine congrArg some (congrArg CohesivePacket.mk (funext fun layer => ?_))
  show _ = after.get layer
  cases layer with
  | transport =>
    show (packet.get .transport).take bytes = _
    rw [get_eq, get_eq, buffer]
    show (packet.buffer.extract (packet.boundary 3) (packet.boundary 4)).take bytes =
      packet.buffer.extract (after.boundary 3) (after.boundary 4)
    rw [Library.take_extract _ _ _ _ (packet.boundary 3 + bytes) (by omega), third, moved,
      min_eq_left (Nat.le_add_right ..), min_eq_right ordered]
  | session =>
    show (packet.get .transport).drop bytes ++ packet.get .session = _
    rw [get_eq, get_eq, get_eq, buffer]
    show (packet.buffer.extract (packet.boundary 3) (packet.boundary 4)).drop bytes ++
        packet.buffer.extract (packet.boundary 4) (packet.boundary 5) =
      packet.buffer.extract (after.boundary 4) (after.boundary 5)
    rw [Library.drop_extract, moved, fifth, Library.extract_append _ ordered (layered.ordered (by decide))]
  | _ =>
    show packet.get _ = _
    rw [get_eq, get_eq, buffer, position, position]
    rfl

end Vanet.Net

namespace Vanet.Btp

open Vanet.Geonet
open Vanet.Library Vanet.Security Reader Read
open Vanet.Net hiding ByteBuffer

/-- `port_type`. -/
abbrev Port := UInt16

/-- Interactive packet transport. -/
structure HeaderA where
  destinationPort : Port
  sourcePort : Port
  deriving DecidableEq

/-- Non-interactive packet transport. -/
structure HeaderB where
  destinationPort : Port
  destinationPortInfo : UInt16
  deriving DecidableEq

namespace HeaderA

def lengthBytes : ℕ := 4

def serialize (hdr : HeaderA) : ByteBuffer :=
  hton 2 hdr.destinationPort.toNat ++ hton 2 hdr.sourcePort.toNat

def deserialize : Read HeaderA := do
  let destinationPort ← uint16
  let sourcePort ← uint16
  pure ⟨destinationPort, sourcePort⟩

end HeaderA

namespace HeaderB

def lengthBytes : ℕ := 4

def serialize (hdr : HeaderB) : ByteBuffer :=
  hton 2 hdr.destinationPort.toNat ++ hton 2 hdr.destinationPortInfo.toNat

def deserialize : Read HeaderB := do
  let destinationPort ← uint16
  let destinationPortInfo ← uint16
  pure ⟨destinationPort, destinationPortInfo⟩

end HeaderB

/-! ### Parsing a packet -/

/-- What parsing a packet may end with. -/
inductive BtpFault
  | incompleteRead
  | assertion
  deriving DecidableEq

section Parse

variable {H : Type}

/-- The header at the front of the transport layer, and the packet behind it. -/
def parseHeader (deserialize : Read H) (lengthBytes : ℕ) (packet : UpPacket) :
    Except BtpFault (H × UpPacket) :=
  match packet with
  | .cohesive packet =>
    match (deserialize (untouched (packet.layer .transport))).1 with
    | .error _ => .error .incompleteRead
    | .ok hdr =>
      match packet.setTransportBoundary lengthBytes with
      | some bounded => .ok (hdr, .cohesive bounded)
      | none => .error .assertion
  | .chunk packet =>
    match (deserialize (untouched (packet.others.layer .transport))).1 with
    | .error _ => .error .incompleteRead
    | .ok hdr => .ok (hdr, .chunk packet)

/-- `parse_btp_a`. -/
def parseBtpA : UpPacket → Except BtpFault (HeaderA × UpPacket) :=
  parseHeader HeaderA.deserialize HeaderA.lengthBytes

/-- `parse_btp_b`. -/
def parseBtpB : UpPacket → Except BtpFault (HeaderB × UpPacket) :=
  parseHeader HeaderB.deserialize HeaderB.lengthBytes

end Parse

/-- The bytes of the transport layer. -/
def transportOf : UpPacket → ByteBuffer
  | .cohesive packet => packet.layer .transport
  | .chunk packet => packet.others.layer .transport

/-- What is above the header: the rest of the transport layer, if it has been moved, and the layers
above. -/
def upperOf : UpPacket → ByteBuffer
  | .cohesive packet => (osiLayerRange .session .application).flatMap packet.layer
  | .chunk packet => (osiLayerRange .session .application).flatMap packet.others.layer

/-! ### The codecs -/

namespace HeaderA

theorem restores (hdr : HeaderA) : Restores deserialize hdr.serialize hdr :=
  (restores_uint16 hdr.destinationPort).bind ((restores_uint16 hdr.sourcePort).map .pure)

theorem takes : Takes deserialize fun hdr bytes => bytes = hdr.serialize := by
  refine takes_uint16.bind fun destinationPort b1 t1 => takes_uint16.bind fun sourcePort b2 t2 => ?_
  refine Takes.pure ?_
  unfold serialize
  rw [t1, t2, List.append_nil]

theorem codec : Codec lengthBytes serialize deserialize id := by
  refine .of_takes restores (fun hdr => ?_) takes
  unfold serialize
  rw [List.length_append, length_hton, length_hton]
  rfl

end HeaderA

namespace HeaderB

theorem restores (hdr : HeaderB) : Restores deserialize hdr.serialize hdr :=
  (restores_uint16 hdr.destinationPort).bind ((restores_uint16 hdr.destinationPortInfo).map .pure)

theorem takes : Takes deserialize fun hdr bytes => bytes = hdr.serialize := by
  refine takes_uint16.bind fun destinationPort b1 t1 => takes_uint16.bind fun info b2 t2 => ?_
  refine Takes.pure ?_
  unfold serialize
  rw [t1, t2, List.append_nil]

theorem codec : Codec lengthBytes serialize deserialize id := by
  refine .of_takes restores (fun hdr => ?_) takes
  unfold serialize
  rw [List.length_append, length_hton, length_hton]
  rfl

end HeaderB

/-! ### Which packets can be parsed -/

section Parsed

variable {H : Type} {deserialize : Read H} {serialize : H → ByteBuffer}

/-- Two bytes are a number. -/
theorem restores_two (bytes : Octets 2) : ∃ value, Restores uint16 bytes.1 value :=
  ⟨_, (Restores.octets bytes).map .pure⟩

/-- Four bytes are two numbers. -/
theorem restores_four {bytes : ByteBuffer} (enough : 4 ≤ bytes.length) (make : UInt16 → UInt16 → H) :
    ∃ hdr, Restores (do
      let first ← uint16
      let second ← uint16
      pure (make first second) : Read H) (bytes.take 4) hdr := by
  have low : (bytes.take 2).length = 2 := List.length_take_of_le (by omega)
  have high : ((bytes.drop 2).take 2).length = 2 :=
    List.length_take_of_le (by rw [List.length_drop]; omega)
  obtain ⟨first, readFirst⟩ := restores_two ⟨_, low⟩
  obtain ⟨second, readSecond⟩ := restores_two ⟨_, high⟩
  refine ⟨make first second, ?_⟩
  rw [show 4 = 2 + 2 from rfl, List.take_add]
  exact readFirst.bind (readSecond.map .pure)

/-- **Whatever has four bytes is a header**, and nothing else is. -/
theorem deserialize_iff (restores : ∀ {bytes : ByteBuffer}, 4 ≤ bytes.length →
      ∃ hdr, Restores deserialize (bytes.take 4) hdr)
    (takes : Takes deserialize fun hdr bytes => bytes = serialize hdr)
    (long : ∀ hdr, (serialize hdr).length = 4) (bytes : ByteBuffer) :
    (∃ hdr, (deserialize (untouched bytes)).1 = .ok hdr) ↔ 4 ≤ bytes.length := by
  constructor
  · rintro ⟨hdr, returned⟩
    obtain ⟨taken, split, same⟩ := takes (untouched bytes) hdr (deserialize (untouched bytes)).2
      (Prod.ext returned rfl)
    have lengths := congrArg List.length (show bytes = taken ++ _ from split)
    rw [List.length_append, same, long] at lengths
    omega
  · intro enough
    obtain ⟨hdr, restored⟩ := restores enough
    obtain ⟨notes, ran⟩ := restored (bytes.drop 4) []
    rw [List.take_append_drop] at ran
    exact ⟨hdr, congrArg Prod.fst ran⟩

/-- **A packet can be parsed exactly if its transport layer has room for a header.** -/
theorem parseHeader_iff (reads : ∀ bytes : ByteBuffer,
      (∃ hdr, (deserialize (untouched bytes)).1 = .ok hdr) ↔ 4 ≤ bytes.length) (packet : UpPacket) :
    (∃ parsed, parseHeader deserialize 4 packet = .ok parsed) ↔ 4 ≤ (transportOf packet).length := by
  rw [← reads]
  unfold parseHeader
  cases packet with
  | chunk packet =>
    show (∃ parsed, (match (deserialize (untouched (packet.others.layer .transport))).1 with
      | .error _ => .error .incompleteRead
      | .ok hdr => .ok (hdr, .chunk packet) : Except BtpFault (H × UpPacket)) = _) ↔
        ∃ hdr, (deserialize (untouched (packet.others.layer .transport))).1 = .ok hdr
    cases (deserialize (untouched (packet.others.layer .transport))).1 with
    | error fault => exact iff_of_false (fun ⟨_, made⟩ => nomatch made) fun ⟨_, made⟩ => nomatch made
    | ok hdr => exact iff_of_true ⟨_, rfl⟩ ⟨hdr, rfl⟩
  | cohesive packet =>
    have enough := reads (packet.layer .transport)
    show (∃ parsed, (match (deserialize (untouched (packet.layer .transport))).1 with
      | .error _ => .error .incompleteRead
      | .ok hdr => match packet.setTransportBoundary 4 with
        | some bounded => .ok (hdr, .cohesive bounded)
        | none => .error .assertion : Except BtpFault (H × UpPacket)) = _) ↔
        ∃ hdr, (deserialize (untouched (packet.layer .transport))).1 = .ok hdr
    cases read : (deserialize (untouched (packet.layer .transport))).1 with
    | error fault => exact iff_of_false (fun ⟨_, made⟩ => nomatch made) fun ⟨_, made⟩ => nomatch made
    | ok hdr =>
      have room : 4 ≤ (packet.layer .transport).length := enough.mp ⟨hdr, read⟩
      refine iff_of_true ?_ ⟨hdr, rfl⟩
      unfold CohesivePacket.setTransportBoundary
      rw [if_pos room]
      exact ⟨_, rfl⟩

end Parsed

/-- **The faults of the parsers**: fewer bytes than a header has, for either kind of packet and header. -/
theorem parse_iff (packet : UpPacket) :
    ((∃ parsed, parseBtpA packet = .ok parsed) ↔ HeaderA.lengthBytes ≤ (transportOf packet).length) ∧
      ((∃ parsed, parseBtpB packet = .ok parsed) ↔
        HeaderB.lengthBytes ≤ (transportOf packet).length) := by
  constructor
  · exact parseHeader_iff (deserialize_iff (fun enough => restores_four enough HeaderA.mk) HeaderA.takes
      HeaderA.codec.length_serialize) packet
  · exact parseHeader_iff (deserialize_iff (fun enough => restores_four enough HeaderB.mk) HeaderB.takes
      HeaderB.codec.length_serialize) packet

/-- **The header of a cohesive packet**, and what is behind it. -/
theorem parseBtpB_cohesive {packet : CohesivePacket} {hdr : HeaderB} {rest : ByteBuffer}
    (begins : packet.layer .transport = hdr.serialize ++ rest) :
    ∃ bounded, parseBtpB (.cohesive packet) = .ok (hdr, .cohesive bounded) ∧
      upperOf (.cohesive bounded) = rest ++ upperOf (.cohesive packet) := by
  have four : hdr.serialize.length = 4 := HeaderB.codec.length_serialize hdr
  have room : HeaderB.lengthBytes ≤ (packet.layer .transport).length := by
    rw [begins, List.length_append, four]
    exact Nat.le_add_right ..
  obtain ⟨notes, read⟩ := hdr.restores rest []
  let bounded : CohesivePacket := { layer := fun layer =>
    match layer with
    | .transport => hdr.serialize
    | .session => rest ++ packet.layer .session
    | other => packet.layer other }
  have moved : packet.setTransportBoundary HeaderB.lengthBytes = some bounded := by
    unfold CohesivePacket.setTransportBoundary
    rw [if_pos room, begins, show HeaderB.lengthBytes = hdr.serialize.length from four.symm,
      List.take_left, List.drop_left]
  refine ⟨bounded, ?_, ?_⟩
  · unfold parseBtpB parseHeader untouched
    dsimp only
    rw [begins, read]
    dsimp only
    rw [moved]
  · exact List.append_assoc ..

end Vanet.Btp
