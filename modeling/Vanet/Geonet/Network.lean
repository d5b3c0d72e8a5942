/-
**A network of routers.**

Any station may act at any time, and anything that a station has handed to its access layer may
arrive at any station, at any time and any number of times, as it is or as bytes. A station may also
hear packets that no station of the network has sent. A chain follows a packet from its source
through its forwardings; the hop limit that the source has set bounds it.
-/

import Vanet.Geonet.Provenance

namespace Vanet.Geonet

open Vanet.Library Vanet.Security
open Vanet.Net hiding ByteBuffer

/-- What a packet travels as: the PDU itself within a simulation, or bytes, with whatever the layers
below have left. -/
inductive Medium
  | simulated
  | bytes (lower : OsiLayer → ByteBuffer)

/-- What arrives of a PDU and its payload. -/
def Medium.packet (medium : Medium) (pdu : VariantPdu) (payload : ChunkPacket) : UpPacket :=
  match medium with
  | simulated => .chunk ⟨.pdu pdu, payload⟩
  | bytes lower => .cohesive ⟨fun layer =>
      if layer = .network then
        pdu.serialize ++ (osiLayerRange .transport .application).flatMap payload.layer
      else lower layer⟩

theorem Parser.parse_restores {α : Type} {deserialize : Read (α × ℕ)} {bytes : ByteBuffer} {value : α}
    {size : ℕ} (restores : Reader.Restores deserialize bytes (value, size)) (positive : 0 < size)
    (rest : ByteBuffer) :
    ∃ after, (Parser.start (bytes ++ rest)).parse deserialize = .ok (some value, after) := by
  obtain ⟨taken, ran⟩ := restores rest []
  refine ⟨⟨⟨rest, taken⟩, 0 + size⟩, ?_⟩
  unfold Parser.parse Parser.start untouched
  rw [ran]
  dsimp only
  rw [if_pos positive]

theorem UpPacket.basicHeader_cohesive {packet : CohesivePacket} {hdr : BasicHeader}
    {rest : ByteBuffer} (begins : packet.layer .network = hdr.serialize ++ rest) :
    (UpPacket.cohesive packet).basicHeader = some hdr := by
  have restores : Reader.Restores (Parser.counted BasicHeader.deserialize BasicHeader.lengthBytes)
      hdr.serialize (hdr, BasicHeader.lengthBytes) :=
    hdr.restores.map .pure
  obtain ⟨after, parsed⟩ := Parser.parse_restores restores (by decide) rest
  unfold UpPacket.basicHeader BasicContext.ofPacket BasicContext.parseBasic Parser.parseBasic
  simp only [bind, Except.bind, begins, parsed]
  rfl

/-- **The basic header arrives as it was sent.** -/
theorem Medium.basicHeader_packet (medium : Medium) (pdu : VariantPdu) (payload : ChunkPacket) :
    (medium.packet pdu payload).basicHeader = some pdu.basic := by
  cases medium with
  | simulated => rfl
  | bytes lower =>
    have first : ∃ rest, pdu.serialize = pdu.basic.serialize ++ rest := ⟨_, rfl⟩
    obtain ⟨rest, first⟩ := first
    have begins : pdu.serialize ++ (osiLayerRange .transport .application).flatMap payload.layer =
        pdu.basic.serialize ++
          (rest ++ (osiLayerRange .transport .application).flatMap payload.layer) := by
      rw [first, List.append_assoc]
    apply UpPacket.basicHeader_cohesive
    exact begins

/-! ### The network -/

abbrev Network (ι : Type) := ι → Station

namespace Network

variable {ι : Type}

inductive Action (ι : Type)
  | act (station : ι) (action : Station.Action)
  | deliver (sender : ι) (index : ℕ) (receiver : ι) (medium : Medium) (ll : LinkLayer)

variable [DecidableEq ι] (platforms : ι → Platform)

/-- A station takes a step. -/
def move (net : Network ι) (station : ι) (input : Environment × Station.Action) :
    Option (Network ι) :=
  (Station.step (platforms station) (net station) input).map (Function.update net station)

def step (net : Network ι) (input : Environment × Action ι) : Option (Network ι) :=
  match input.2 with
  | .act station action => net.move platforms station (input.1, action)
  | .deliver sender index receiver medium ll =>
    match (net sender).router.trace[index]? with
    | some (.passedDown _ _ pdu payload) =>
      net.move platforms receiver (input.1, .indicate (medium.packet pdu payload) ll)
    | _ => none

omit [DecidableEq ι] in
def Initial (net : Network ι) : Prop := ∀ station, Station.Initial (platforms station) (net station)

/-- **A chain of forwardings** from a source that has set this hop limit: its length, and the packet
that is transmitted in the end. -/
inductive Chain (net : Network ι) (hops : ℕ) : ℕ → VariantPdu → ChunkPacket → Prop
  | source {station : ι} {origin : Origin} {request : Dcc.DataRequest} {pdu : VariantPdu}
      {payload : ChunkPacket} (own : origin.isSource = true)
      (sent : .passedDown origin request pdu payload ∈ (net station).router.trace)
      (limit : pdu.basic.hopLimit.toNat = hops) : Chain net hops 0 pdu payload
  | forward {length : ℕ} {station : ι} {reception : ℕ} {medium : Medium}
      {request : Dcc.DataRequest} {pdu forwarded : VariantPdu} {payload upper : ChunkPacket}
      (chain : Chain net hops length pdu payload)
      (arrived : (net station).receptions[reception]? = some (medium.packet pdu payload))
      (sent : .passedDown (.forwarder reception) request forwarded upper ∈
        (net station).router.trace) :
      Chain net hops (length + 1) forwarded upper

end Network

/-! ### Bounded chains -/

/-- What a station forwards is what it has heard. -/
theorem Station.Provenant.forwards {station : Station} (provenant : station.Provenant)
    {reception : ℕ} {request : Dcc.DataRequest} {pdu : VariantPdu} {payload : ChunkPacket}
    (sent : .passedDown (.forwarder reception) request pdu payload ∈ station.router.trace) :
    ∃ heard original packet within forwarded, station.receptions[reception]? = some heard ∧
      heard.basicHeader = some original.basic ∧
      .received reception original packet within ∈ station.router.trace ∧
      pdu = forwarded.toVariant ∧ Forwards original packet forwarded payload := by
  obtain ⟨pending, admitted, tagged, rfl, rfl⟩ := provenant.attributed.sent _ _ _ _ sent
  obtain ⟨original, packet, within, happened, forwards⟩ := admitted reception tagged
  obtain ⟨heard, received, parsed⟩ := provenant.heard _ _ _ _ happened
  exact ⟨heard, original, packet, within, pending.pdu, received, parsed, happened, rfl, forwards⟩

namespace Network

variable {ι : Type} {platforms : ι → Platform} {net : Network ι}

/-- **Every forwarding takes one hop.** -/
theorem Chain.hops_spent (provenant : ∀ station, (net station).Provenant) {hops length : ℕ}
    {pdu : VariantPdu} {payload : ChunkPacket} (chain : Chain net hops length pdu payload) :
    length + pdu.basic.hopLimit.toNat = hops := by
  induction chain with
  | source own sent limit => rw [limit, Nat.zero_add]
  | @forward length station reception medium request pdu forwarded payload upper chain arrived sent
      ih =>
    obtain ⟨heard, original, packet, within, gbc, received, parsed, _, rfl, forwards⟩ :=
      (provenant station).forwards sent
    rw [arrived] at received
    cases received
    rw [medium.basicHeader_packet] at parsed
    have same : pdu.basic = original.basic := Option.some.inj parsed
    have spent := forwards.hopLimit
    rw [same] at ih
    show length + 1 + gbc.basic.hopLimit.toNat = hops
    omega

theorem provenant_reachable [DecidableEq ι]
    (reached : Reachable (Initial platforms) (step platforms) net) :
    ∀ station, (net station).Provenant := by
  refine GuardedReach.invariant (I := fun net => ∀ station, (net station).Provenant) ?_ ?_ net
    reached
  · exact fun first initial station => provenant_initial (initial station)
  · intro before input after _ provenant _ taken
    have moved : ∀ station action, before.move platforms station (input.1, action) = some after →
        ∀ other, (after other).Provenant := by
      intro station action move other
      obtain ⟨next, stepped, rfl⟩ := Option.map_eq_some_iff.mp move
      by_cases same : other = station
      · subst same
        rw [Function.update_self]
        exact step_provenant (provenant other) stepped
      · rw [Function.update_of_ne same]
        exact provenant other
    obtain ⟨env, action⟩ := input
    cases action with
    | act station action => exact moved station action taken
    | deliver sender index receiver medium ll =>
      unfold step at taken
      dsimp only at taken
      split at taken
      · exact moved receiver _ taken
      · cases taken

/-- **Forwarding changes only hop limit and lifetime, and the hop limit bounds it.** In a network of
routers, whatever a station forwards is a packet that it has received, with a basic header of which
only the hop limit and the lifetime differ, and no chain of forwardings is longer than the hop limit
of its source. -/
theorem forwards_bounded [DecidableEq ι] (platforms : ι → Platform) (net : Network ι)
    (reached : Reachable (Initial platforms) (step platforms) net) :
    (∀ station reception request pdu payload,
      .passedDown (.forwarder reception) request pdu payload ∈ (net station).router.trace →
        ∃ heard original packet within forwarded,
          (net station).receptions[reception]? = some heard ∧
          heard.basicHeader = some original.basic ∧
          .received reception original packet within ∈ (net station).router.trace ∧
          pdu = forwarded.toVariant ∧ Forwards original packet forwarded payload) ∧
      ∀ hops length pdu payload, Chain net hops length pdu payload → length ≤ hops := by
  have provenant := provenant_reachable reached
  refine ⟨fun station _ _ _ _ sent => (provenant station).forwards sent, ?_⟩
  intro hops length pdu payload chain
  have spent := chain.hops_spent provenant
  omega

/-- A router that broadcasts what it receives within its destination area. -/
def relay : Platform where
  mib := { Mib.initial with
    vanetzaDisableBeaconing := true
    itsGnAreaForwardingAlgorithm := .simple }
  geometry := flatland

/-- A request of a packet for five hops, which is heard by the other station as bytes. -/
theorem forwards_bounded_relay : ∃ net : Network Bool,
    Reachable (Initial fun _ => relay) (step fun _ => relay) net ∧
      (net true).router.trace.any Event.isForwarding = true ∧
      ∀ hops length pdu payload, Chain net hops length pdu payload → length ≤ hops := by
  obtain ⟨net, reached, forwarded⟩ := run_reach (Initial fun _ => relay) (step fun _ => relay)
    (fun _ _ => True) (fun net => (net true).router.trace.any Event.isForwarding = true)
    (fun _ => ⟨0, 0, rfl⟩ : Initial _ fun _ => ⟨.create relay.mib 0 0, [], false⟩)
    [(insecure, .act false (.request
        (.gbc ⟨.btpB, .itsG5, 36, .set .tenSeconds 1, none, 5, ⟨0⟩⟩ ⟨.circle 100, ⟨0, 0⟩, 0⟩)
        (some .empty))),
      (insecure, .deliver false 0 true (.bytes fun _ => [])
        ⟨cBroadcastMacAddress, cBroadcastMacAddress⟩)] (by decide +kernel)
  exact ⟨net, reached, forwarded, (forwards_bounded _ net reached).2⟩

end Network

end Vanet.Geonet
