/-
**The reception of Ethernet frames.**

`on_read` splits a frame into the Ethernet header and the rest, and passes the packet up. It reads the
header before it looks whether there is one, so a frame that is too short for a header ends in a fault,
not in a dropped packet.

* `onRead_of_short`, `onRead_of_long`: what becomes of a frame.
* `handlesFrame_iff`: frames are handled as they should be exactly if they have room for a header, and
  the map of the signal strengths is there if it is asked for.
-/

import Vanet.Dcc.FlowControl
import Vanet.Net.CohesivePacket
import Vanet.Socktap.RssiHandler

namespace Vanet.Socktap

open Vanet.Net

/-- What is wrong with an execution. -/
inductive LinkFault
  | assertion
  | absentHeader
  | absentMap
  | tooShort
  deriving DecidableEq

/-- What the link does. -/
inductive LinkEvent
  | indicate (packet : Cohesive) (hdr : EthernetHeader)
  | receive

/-- The state of a `RawSocketLink`, with the globals of its file. A map that has never been set, or whose
lifetime has ended, is absent. -/
structure RawSocketLink where
  callback : Bool
  rssiEnabled : Bool
  rssiMap : Option RssiMap

/-- Two hexadecimal digits of an octet. -/
def hexOctet (octet : UInt8) : List Char :=
  [Nat.digitChar (octet.toNat / 16), Nat.digitChar (octet.toNat % 16)]

/-- `operator<<` of a MAC address. -/
def macText (addr : MacAddress) : List Char :=
  [':'].intercalate (addr.1.map hexOctet)

/-- The key of the map: the last four characters. -/
def rssiKey (addr : MacAddress) : List Char :=
  (macText addr).drop ((macText addr).length - 4)

namespace RawSocketLink

/-- `set_boundary`, whose assertion may fail. -/
def boundary (packet : Cohesive) (layer : OsiLayer) (bytes : ℕ) : Except LinkFault Cohesive :=
  match packet.setBoundary layer bytes with
  | some moved => .ok moved
  | none => .error .assertion

/-- `parse_ethernet_header`. -/
def parseEthernetHeader (packet : Cohesive) : Except LinkFault (Cohesive × Option EthernetHeader) := do
  let packet ← boundary packet .physical 0
  if packet.sizeLayer .link < EthernetHeader.lengthBytes then
    .ok (packet, none)
  else
    let packet ← boundary packet .link EthernetHeader.lengthBytes
    match EthernetHeader.decodeEthernetHeader (packet.get .link) with
    | some hdr => .ok (packet, some hdr)
    | none => .error .tooShort

/-- The signal strength of a sender. -/
def rssiOf (link : RawSocketLink) (source : MacAddress) : Except LinkFault ℤ :=
  if link.rssiEnabled then
    match link.rssiMap with
    | none => .error .absentMap
    | some map => .ok ((map (rssiKey source)).getD (-255))
  else .ok (-255)

/-- **`on_read`**: the bytes of a frame, at a time in milliseconds, or an error of the socket. -/
def onRead (link : RawSocketLink) (ec : Bool) (frame : ByteBuffer) (now : ℤ) :
    Except LinkFault (List LinkEvent) :=
  if ec then .ok []
  else do
    let (packet, eth) ← parseEthernetHeader (.construct 0 frame .physical)
    -- the header is read here, whether there is one or not
    match eth with
    | none => .error .absentHeader
    | some hdr =>
      let rssi ← link.rssiOf hdr.source
      let packet := { packet with ethHeader := hdr, rssi := rssi, timeReceived := now }
      .ok ((if link.callback then [.indicate packet hdr] else []) ++ [.receive])

/-- The bytes of a buffer for received frames. -/
def receiveBuffer : ℕ := 2048

/-- A frame that is received: what does not fit into the buffer is lost. -/
def receive (link : RawSocketLink) (frame : ByteBuffer) (now : ℤ) : Except LinkFault (List LinkEvent) :=
  link.onRead false (frame.take receiveBuffer) now

/-- `transmit`: all layers, from the lowest one. -/
def transmit (packet : ChunkPacket) : ByteBuffer := osiLayers.flatMap packet.layer

/-- `request`. -/
def request (request : Dcc.AccessRequest) (packet : ChunkPacket) : ByteBuffer :=
  transmit { layer := fun layer =>
    match layer with
    | .link => EthernetHeader.createEthernetHeader
        ⟨request.destinationAddr, request.sourceAddr, request.etherType⟩
    | other => packet.layer other }

/-! ### The layers of a frame -/

variable {link : RawSocketLink} {frame : ByteBuffer} {now : ℤ}

/-- Without a physical layer, the bytes of a frame belong to the link layer. -/
theorem boundary_physical (frame : ByteBuffer) :
    ∃ packet, boundary (.construct 0 frame .physical) .physical 0 = .ok packet ∧ packet.Layered 0 ∧
      packet.buffer = frame ∧ packet.sizeLayer .link = frame.length ∧ packet.boundary 1 = 0 ∧
        ∀ i, 2 ≤ i → packet.boundary i = frame.length := by
  have layered := Cohesive.construct_layered 0 frame .physical
  obtain ⟨packet, moved⟩ : ∃ packet, (Cohesive.construct 0 frame .physical).setBoundary .physical 0 = some packet :=
    Cohesive.exists_setBoundary (Nat.zero_le _)
  obtain ⟨_, buffer, _, position⟩ := Cohesive.setBoundary_spec layered moved
  have below : packet.boundary 1 = 0 := (position 1).trans layered.front
  have above (i : ℕ) (high : 2 ≤ i) : packet.boundary i = frame.length := by
    have place : ¬ min i 7 = OsiLayer.physical.index := by
      show ¬ min i 7 = 1
      omega
    rw [position, if_neg place, Cohesive.construct_boundary, if_neg]
    show ¬ min i 7 < 1
    omega
  refine ⟨packet, ?_, Cohesive.setBoundary_layered layered moved, buffer, ?_, below, above⟩
  · unfold boundary
    rw [moved]
  · rw [Cohesive.sizeLayer, Cohesive.sizeRange_eq]
    show packet.boundary 2 - packet.boundary 1 = _
    rw [above 2 le_rfl, below, Nat.sub_zero]

theorem parseEthernetHeader_of_short (short : frame.length < EthernetHeader.lengthBytes) :
    ∃ packet, parseEthernetHeader (.construct 0 frame .physical) = .ok (packet, none) := by
  obtain ⟨packet, moved, _, _, size, _⟩ := boundary_physical frame
  refine ⟨packet, ?_⟩
  unfold parseEthernetHeader
  rw [moved]
  show (if packet.sizeLayer .link < _ then _ else _) = _
  rw [if_pos (size ▸ short)]

/-- **The parts of a frame**: the header in the link layer and all else in the network layer. -/
structure Splits (frame : ByteBuffer) (packet : Cohesive) (hdr : EthernetHeader) : Prop where
  decoded : EthernetHeader.decodeEthernetHeader (frame.take EthernetHeader.lengthBytes) = some hdr
  link : packet.get .link = frame.take EthernetHeader.lengthBytes
  network : packet.get .network = frame.drop EthernetHeader.lengthBytes
  others : ∀ layer, layer ≠ .link → layer ≠ .network → packet.get layer = []

theorem parseEthernetHeader_of_long (long : EthernetHeader.lengthBytes ≤ frame.length) :
    ∃ packet hdr, parseEthernetHeader (.construct 0 frame .physical) = .ok (packet, some hdr) ∧
      Splits frame packet hdr := by
  obtain ⟨first, moved, layered, buffer, size, below, above⟩ := boundary_physical frame
  obtain ⟨packet, second⟩ := Cohesive.exists_setBoundary (size.symm ▸ long)
  obtain ⟨_, kept, _, position⟩ := Cohesive.setBoundary_spec layered second
  have zeroth : packet.boundary 0 = 0 := (position 0).trans layered.front
  have lower : packet.boundary 1 = 0 := (position 1).trans below
  have upper : packet.boundary 2 = EthernetHeader.lengthBytes := by
    refine (position 2).trans ?_
    show first.boundary 1 + _ = _
    rw [below, Nat.zero_add]
  have rest (i : ℕ) (high : 3 ≤ i) : packet.boundary i = frame.length := by
    rw [position, if_neg, above i (by omega)]
    show ¬ min i 7 = 2
    omega
  have header : packet.get .link = frame.take EthernetHeader.lengthBytes := by
    rw [Cohesive.get_eq, kept, buffer]
    show frame.extract (packet.boundary 1) (packet.boundary 2) = _
    rw [lower, upper, List.extract_eq_take_drop, List.drop_zero, Nat.sub_zero]
  have network : packet.get .network = frame.drop EthernetHeader.lengthBytes := by
    rw [Cohesive.get_eq, kept, buffer]
    show frame.extract (packet.boundary 2) (packet.boundary 3) = _
    rw [upper, rest 3 le_rfl, ← List.drop_eq_extract]
  have enough : (EthernetHeader.decodeEthernetHeader (frame.take EthernetHeader.lengthBytes)).isSome = true := by
    rw [EthernetHeader.decodeEthernetHeader_isSome, List.length_take_of_le long]
  obtain ⟨hdr, decoded⟩ := Option.isSome_iff_exists.mp enough
  refine ⟨packet, hdr, ?_, decoded, header, network, ?_⟩
  · unfold parseEthernetHeader
    rw [moved]
    show (if first.sizeLayer .link < _ then _ else _) = _
    rw [if_neg (not_lt.mpr (size.symm ▸ long))]
    show (boundary first .link _ >>= _) = _
    unfold boundary
    rw [second]
    show (match EthernetHeader.decodeEthernetHeader (packet.get .link) with
      | some hdr => Except.ok (packet, some hdr)
      | none => Except.error LinkFault.tooShort) = _
    rw [header, decoded]
  · intro layer notLink notNetwork
    rw [Cohesive.get_eq, kept, buffer]
    have empty : packet.boundary (layer.index - 1) = packet.boundary (layer.index - 1 + 1) := by
      cases layer with
      | physical => exact zeroth.trans lower.symm
      | link => exact absurd rfl notLink
      | network => exact absurd rfl notNetwork
      | _ => exact (rest _ (by decide)).trans (rest _ (by decide)).symm
    rw [empty, List.extract_eq_take_drop, Nat.sub_self, List.take_zero]

/-! ### What becomes of a frame -/

/-- **A short frame** ends in a fault: its header is read though it is absent. -/
theorem onRead_of_short (short : frame.length < EthernetHeader.lengthBytes) :
    link.onRead false frame now = .error .absentHeader := by
  obtain ⟨packet, parsed⟩ := parseEthernetHeader_of_short short
  unfold onRead
  rw [if_neg (by decide), parsed]
  rfl

/-- A frame with a header waits for the signal strength of its sender only. -/
theorem onRead_of_header {packet : Cohesive} {hdr : EthernetHeader}
    (parsed : parseEthernetHeader (.construct 0 frame .physical) = .ok (packet, some hdr)) :
    link.onRead false frame now = (link.rssiOf hdr.source).map fun rssi =>
      (if link.callback then
        [.indicate { packet with ethHeader := hdr, rssi := rssi, timeReceived := now } hdr] else []) ++
        [.receive] := by
  unfold onRead
  rw [if_neg (by decide), parsed]
  show (link.rssiOf hdr.source >>= _) = _
  cases link.rssiOf hdr.source <;> rfl

/-- The map of the signal strengths is there if it is asked for. -/
def MapReady (link : RawSocketLink) : Prop := link.rssiEnabled = true → link.rssiMap.isSome = true

theorem rssiOf_cases (link : RawSocketLink) (source : MacAddress) :
    (link.MapReady ∧ ∃ rssi, link.rssiOf source = .ok rssi) ∨
      (¬ link.MapReady ∧ link.rssiOf source = .error .absentMap) := by
  unfold rssiOf MapReady
  cases enabled : link.rssiEnabled with
  | false => exact .inl ⟨nofun, _, rfl⟩
  | true =>
    cases link.rssiMap with
    | none => exact .inr ⟨fun ready => Bool.noConfusion (ready rfl), rfl⟩
    | some map => exact .inl ⟨fun _ => rfl, _, rfl⟩

/-- The packet and the header that are passed up for a frame. -/
def Indicates (link : RawSocketLink) (frame : ByteBuffer) (indications : List LinkEvent) : Prop :=
  if link.callback = true ∧ EthernetHeader.lengthBytes ≤ frame.length then
    ∃ packet hdr, indications = [.indicate packet hdr] ∧ Splits frame packet hdr
  else indications = []

/-- **What a received frame leads to**: an indication if and only if there is a header, and the next
reception. -/
def HandlesFrame (link : RawSocketLink) (frame : ByteBuffer) (now : ℤ) : Prop :=
  ∃ indications, link.onRead false frame now = .ok (indications ++ [.receive]) ∧
    link.Indicates frame indications

/-- A long frame is handled. -/
theorem onRead_of_long (long : EthernetHeader.lengthBytes ≤ frame.length) (ready : link.MapReady) :
    link.HandlesFrame frame now := by
  obtain ⟨packet, hdr, parsed, splits⟩ := parseEthernetHeader_of_long long
  rcases rssiOf_cases link hdr.source with ⟨_, rssi, found⟩ | ⟨unready, _⟩
  · let indicated : Cohesive := { packet with ethHeader := hdr, rssi := rssi, timeReceived := now }
    refine ⟨if link.callback then [.indicate indicated hdr] else [], ?_, ?_⟩
    · rw [onRead_of_header parsed, found]
      rfl
    · unfold Indicates
      by_cases registered : link.callback = true
      · rw [if_pos ⟨registered, long⟩, if_pos registered]
        exact ⟨indicated, hdr, rfl, splits.decoded, splits.link, splits.network, splits.others⟩
      · rw [if_neg fun both => registered both.1, if_neg registered]
  · exact absurd ready unready

/-- **When frames are handled as they should be.** -/
theorem handlesFrame_iff (link : RawSocketLink) (frame : ByteBuffer) (now : ℤ) :
    link.HandlesFrame frame now ↔ EthernetHeader.lengthBytes ≤ frame.length ∧ link.MapReady := by
  constructor
  · rintro ⟨indications, handled, _⟩
    rcases lt_or_ge frame.length EthernetHeader.lengthBytes with short | long
    · cases (onRead_of_short short).symm.trans handled
    refine ⟨long, ?_⟩
    obtain ⟨packet, hdr, parsed, _⟩ := parseEthernetHeader_of_long long
    rcases rssiOf_cases link hdr.source with ⟨ready, _⟩ | ⟨_, missing⟩
    · exact ready
    · rw [onRead_of_header parsed, missing] at handled
      cases handled
  · rintro ⟨long, ready⟩
    exact onRead_of_long long ready

/-- **An empty frame is not dropped.** -/
theorem not_handlesFrame : ¬ HandlesFrame ⟨true, false, none⟩ [] 0 := by
  rintro ⟨_, handled, _⟩
  cases (onRead_of_short (by decide)).symm.trans handled

end RawSocketLink

end Vanet.Socktap
