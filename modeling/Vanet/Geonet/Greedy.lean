/-
**Greedy forwarding makes progress.**

A router hands a packet to the neighbour that is closest to the destination, if one is closer than the
router itself. Where the neighbours' positions in the location tables are true and do not change, a
packet comes closer to its destination with every unicast hop.

* `mostForward_isBest`: the neighbour that is found is a best offer.
* `greedyForwarding_spec`: what greedy forwarding decides on.
* `processNextHop_sends`: what is transmitted for the decision.
* `greedy_progress`: all of it, for one router and for the way of a packet through a network.
-/

import Vanet.Geonet.Station
import Vanet.Library.Nearest

namespace Vanet.Geonet

open Vanet.Common Vanet.Library
open Vanet.Net hiding ByteBuffer
open Act

namespace Router

/-! ### One router -/

/-- What a neighbour has to offer: its link-layer address and its distance from the destination. -/
def greedyOffer (distance : GeodeticPosition → GeodeticPosition → ℚ) (dest : GeodeticPosition)
    (neighbour : LocationTableEntry) : Option (MacAddress × ℚ) :=
  neighbour.positionVector.map fun pv => (pv.gnAddr.mid, distance dest pv.position)

theorem greedyOffer_eq_some {distance : GeodeticPosition → GeodeticPosition → ℚ}
    {dest : GeodeticPosition} {neighbour : LocationTableEntry} {mac : MacAddress} {score : ℚ} :
    greedyOffer distance dest neighbour = some (mac, score) ↔ ∃ pv,
      neighbour.positionVector = some pv ∧ pv.gnAddr.mid = mac ∧ distance dest pv.position = score := by
  unfold greedyOffer
  rw [Option.map_eq_some_iff]
  simp only [Prod.mk.injEq]

/-- The router's own distance from the destination. -/
def ownDistance (platform : Platform) (router : Router) (dest : GeodeticPosition) : ℚ :=
  platform.geometry.distance dest router.localPositionVector.position

def neighbours (router : Router) : List LocationTableEntry :=
  router.locationTable.neighbours router.now

theorem mostForward_isBest (platform : Platform) (router : Router) (dest : GeodeticPosition) :
    IsBest (greedyOffer platform.geometry.distance dest) (router.ownDistance platform dest)
      router.neighbours
      (mostForward platform dest (router.ownDistance platform dest) router.neighbours) := by
  have same : mostForward platform dest (router.ownDistance platform dest) router.neighbours =
      nearest (greedyOffer platform.geometry.distance dest) (router.ownDistance platform dest)
        router.neighbours := by
    unfold mostForward nearest
    congr 1
    funext best neighbour
    unfold improve greedyOffer
    cases neighbour.positionVector <;> rfl
  rw [same]
  exact isBest_nearest _ _ _

/-- **A closest neighbour**: its stored position is strictly closer to the destination than the
router's own position, and no farther than any other neighbour's. -/
structure ClosestNeighbour (platform : Platform) (router : Router) (dest : GeodeticPosition)
    (entry : LocationTableEntry) (pv : LongPositionVector) : Prop where
  neighbour : entry ∈ router.neighbours
  stored : entry.positionVector = some pv
  closer : platform.geometry.distance dest pv.position < router.ownDistance platform dest
  closest : ∀ other ∈ router.neighbours, ∀ pv', other.positionVector = some pv' →
    platform.geometry.distance dest pv.position ≤ platform.geometry.distance dest pv'.position

/-- No neighbour's stored position is closer to the destination than the router's own position. -/
def NoCloserNeighbour (platform : Platform) (router : Router) (dest : GeodeticPosition) : Prop :=
  ∀ entry ∈ router.neighbours, ∀ pv, entry.positionVector = some pv →
    router.ownDistance platform dest ≤ platform.geometry.distance dest pv.position

section Spec

variable {platform : Platform} {env : Environment} {router after : Router}
  {packet : PendingPacketForwarding} {dest : GeodeticPosition}

theorem mostForward_none (none : (mostForward platform dest (router.ownDistance platform dest)
    router.neighbours).1 = none) : NoCloserNeighbour platform router dest := by
  intro entry among pv stored
  have beyond := (mostForward_isBest platform router dest).none_iff.mp none
  exact beyond entry among pv.gnAddr.mid _ (greedyOffer_eq_some.mpr ⟨pv, stored, rfl, rfl⟩)

theorem mostForward_some {mac : MacAddress}
    (found : (mostForward platform dest (router.ownDistance platform dest) router.neighbours).1 =
      some mac) :
    ∃ entry pv, ClosestNeighbour platform router dest entry pv ∧ pv.gnAddr.mid = mac := by
  have isBest := mostForward_isBest platform router dest
  obtain ⟨none, -⟩ | ⟨entry, among, label, offers, labelled, below⟩ := isBest.offered
  · rw [none] at found
    cases found
  · rw [labelled] at found
    cases found
    obtain ⟨pv, stored, address, score⟩ := greedyOffer_eq_some.mp offers
    refine ⟨entry, pv, ⟨among, stored, by rwa [score], ?_⟩, address⟩
    intro other present pv' stored'
    rw [score]
    exact isBest.least other present _ _ (greedyOffer_eq_some.mpr ⟨pv', stored', rfl, rfl⟩)

/-- The router with the packet in its buffer for broadcasts, to be forwarded greedily once more. -/
def carrying (router : Router) (packet : PendingPacketForwarding) : Router :=
  { router with
    bcForwardBuffer := (router.bcForwardBuffer.push (.gbc (packet.withAction (.greedy packet.action)))
      router.now).2 }

/-- **What greedy forwarding decides on**: a closest neighbour if one is closer than the router, else
the buffer or a broadcast. -/
inductive Decides (platform : Platform) (router : Router) (packet : PendingPacketForwarding) :
    Except RouterFault NextHop × Router → Prop
  | unicast (entry : LocationTableEntry) (pv : LongPositionVector)
      (closest : ClosestNeighbour platform router packet.pdu.extended.position entry pv) :
      Decides platform router packet (.ok (.valid packet pv.gnAddr.mid), router)
  | carry (alone : NoCloserNeighbour platform router packet.pdu.extended.position)
      (scf : packet.pdu.common.trafficClass.storeCarryForward = true) :
      Decides platform router packet (.ok .buffered, router.carrying packet)
  | broadcast (alone : NoCloserNeighbour platform router packet.pdu.extended.position)
      (scf : packet.pdu.common.trafficClass.storeCarryForward = false) :
      Decides platform router packet (.ok (.valid packet cBroadcastMacAddress), router)

/-- The decision from the neighbour that was found. -/
theorem greedyForwarding_eq (platform : Platform) (router : Router)
    (packet : PendingPacketForwarding) :
    greedyForwarding platform packet router =
      match (mostForward platform packet.pdu.extended.position
        (router.ownDistance platform packet.pdu.extended.position) router.neighbours).1 with
      | some mac => (.ok (.valid packet mac), router)
      | none =>
        if packet.pdu.common.trafficClass.storeCarryForward then
          (.ok .buffered, router.carrying packet)
        else (.ok (.valid packet cBroadcastMacAddress), router) := by
  unfold greedyForwarding
  rw [Act.read_bind]
  dsimp only [id_eq, ownDistance, neighbours]
  cases (mostForward platform packet.pdu.extended.position
    (platform.geometry.distance packet.pdu.extended.position router.localPositionVector.position)
    (router.locationTable.neighbours router.now)).1 with
  | some mac => rfl
  | none => cases packet.pdu.common.trafficClass.storeCarryForward <;> rfl

theorem greedyForwarding_spec (platform : Platform) (router : Router)
    (packet : PendingPacketForwarding) :
    Decides platform router packet (greedyForwarding platform packet router) := by
  rw [greedyForwarding_eq]
  cases found : (mostForward platform packet.pdu.extended.position
    (router.ownDistance platform packet.pdu.extended.position) router.neighbours).1 with
  | some mac =>
    obtain ⟨entry, pv, closest, rfl⟩ := mostForward_some found
    exact .unicast entry pv closest
  | none =>
    have alone := mostForward_none found
    cases scf : packet.pdu.common.trafficClass.storeCarryForward with
    | true => exact .carry alone scf
    | false => exact .broadcast alone scf

/-- Another router at the same place with the same neighbours in another order. -/
structure Reordered (router other : Router) : Prop where
  position : other.localPositionVector.position = router.localPositionVector.position
  neighbours : other.neighbours.Perm router.neighbours

/-- No two neighbours at one distance from the destination have different addresses. -/
def Untied (platform : Platform) (router : Router) (dest : GeodeticPosition) : Prop :=
  ∀ first ∈ router.neighbours, ∀ second ∈ router.neighbours, ∀ pv pv',
    first.positionVector = some pv → second.positionVector = some pv' →
    platform.geometry.distance dest pv.position = platform.geometry.distance dest pv'.position →
    pv.gnAddr.mid = pv'.gnAddr.mid

section Order

variable {other : Router} (reordered : Reordered router other)
include reordered

theorem Reordered.mem_neighbours (member : LocationTableEntry) :
    member ∈ other.neighbours ↔ member ∈ router.neighbours :=
  reordered.neighbours.mem_iff

/-- **Whatever the order**, the neighbours that are chosen are at the same distance. -/
theorem Reordered.distance_eq {entry entry' : LocationTableEntry} {pv pv' : LongPositionVector}
    (closest : ClosestNeighbour platform router dest entry pv)
    (closest' : ClosestNeighbour platform other dest entry' pv') :
    platform.geometry.distance dest pv.position = platform.geometry.distance dest pv'.position :=
  le_antisymm
    (closest.closest entry' ((reordered.mem_neighbours entry').mp closest'.neighbour) pv'
      closest'.stored)
    (closest'.closest entry ((reordered.mem_neighbours entry).mpr closest.neighbour) pv
      closest.stored)

/-- **Without a tie** the decision is the same. -/
theorem Reordered.decision_eq (untied : Untied platform router packet.pdu.extended.position) :
    (greedyForwarding platform packet other).1 = (greedyForwarding platform packet router).1 := by
  have own : other.ownDistance platform packet.pdu.extended.position =
      router.ownDistance platform packet.pdu.extended.position := by
    unfold ownDistance
    rw [reordered.position]
  have otherBest := mostForward_isBest platform other packet.pdu.extended.position
  rw [own] at otherBest
  have same := (mostForward_isBest platform router packet.pdu.extended.position).label_eq otherBest
    (fun member => (reordered.mem_neighbours member).symm) (by
      intro first among second among' mac mac' score offers offers'
      obtain ⟨pv, stored, rfl, scored⟩ := greedyOffer_eq_some.mp offers
      obtain ⟨pv', stored', rfl, scored'⟩ := greedyOffer_eq_some.mp offers'
      exact untied first among second among' pv pv' stored stored' (scored.trans scored'.symm))
  rw [greedyForwarding_eq, greedyForwarding_eq, own, ← same]
  cases (mostForward platform packet.pdu.extended.position
    (router.ownDistance platform packet.pdu.extended.position) router.neighbours).1 with
  | some mac => rfl
  | none => cases packet.pdu.common.trafficClass.storeCarryForward <;> rfl

end Order

/-! ### What is transmitted -/

theorem passDown_returns {origin : Origin} {request : Dcc.DataRequest} {pdu : VariantPdu}
    {payload : ChunkPacket} (returned : passDown origin request pdu payload router = (.ok (), after)) :
    after = router.emit (.passedDown origin request pdu payload) := by
  unfold passDown at returned
  cases secured : pdu.secured with
  | some message =>
    rw [secured] at returned
    dsimp only at returned
    split_ifs at returned with flagged upper
    · cases returned
    · cases returned
    · cases returned
      rfl
  | none =>
    rw [secured] at returned
    dsimp only at returned
    split_ifs at returned with flagged
    · cases returned
    · cases returned
      rfl

theorem secure_returns {itsAid : ItsAid} {pdu : GbcPdu} {payload : ChunkPacket}
    {secured : GbcPdu × ChunkPacket}
    (returned : secure platform env itsAid pdu payload router = (.ok secured, after)) :
    after = router ∧ secured.1.extended = pdu.extended := by
  unfold secure at returned
  split_ifs at returned with security
  · unfold encapPacket at returned
    cases entity : env.securityEntity with
    | none =>
      rw [entity] at returned
      cases returned
    | some entity' =>
      rw [entity] at returned
      dsimp only at returned
      rw [Act.read_bind] at returned
      split_ifs at returned with flagged
      · cases returned
      · cases returned
        exact ⟨rfl, rfl⟩
  · cases returned
    exact ⟨rfl, rfl⟩

theorem executeMediaProcedures_returns {comProfile : CommunicationProfile} {value : Unit}
    (returned : executeMediaProcedures comProfile router = (.ok value, after)) : after = router := by
  cases comProfile <;> cases returned <;> rfl

/-- **A PDU for the destination of the packet** is handed to the access layer, for the address. -/
def Sends (router : Router) (mac : MacAddress) (position : GeodeticPosition) (after : Router) : Prop :=
  ∃ origin request pdu payload header,
    after = router.emit (.passedDown origin request pdu payload) ∧ request.destination = mac ∧
      pdu.extended = .geoBroadcast header ∧ header.position = position

theorem processForwarding_sends {mac : MacAddress}
    (returned : processForwarding platform env packet mac router = (.ok (), after)) :
    after = router ∨ Sends router mac packet.pdu.extended.position after := by
  unfold processForwarding at returned
  cases action : packet.action with
  | noop =>
    rw [action] at returned
    cases returned
    exact .inl rfl
  | forward reception =>
    rw [action] at returned
    obtain ⟨_, mid, media, passed⟩ := Action.bind_ok.mp returned
    cases executeMediaProcedures_returns media
    rw [Act.read_bind] at passed
    exact .inr ⟨_, _, _, _, packet.pdu.extended, passDown_returns passed, rfl, rfl, rfl⟩
  | source ctrl =>
    rw [action] at returned
    dsimp only at returned
    rw [Act.read_bind] at returned
    obtain ⟨secured, mid, ran, rest⟩ := Action.bind_ok.mp returned
    obtain ⟨unchanged, same⟩ := secure_returns ran
    obtain ⟨_, mid', media, passed⟩ := Action.bind_ok.mp rest
    cases executeMediaProcedures_returns media
    cases unchanged
    unfold passDownTo at passed
    rw [Act.read_bind] at passed
    refine .inr ⟨_, _, _, _, secured.1.extended, passDown_returns passed, rfl, rfl, ?_⟩
    rw [same]
    rfl

/-- **Processing a next hop** transmits to its address, if anything. -/
theorem processNextHop_sends {mac : MacAddress}
    (returned : processNextHop platform env (.valid packet mac) router = (.ok (), after)) :
    after = router ∨ Sends router mac packet.pdu.extended.position after :=
  processForwarding_sends returned

end Spec

end Router

/-! ### A network -/

open Router

/-- A router on the way of a packet: the station, the state of its router, and the packet. -/
structure Visit (ι : Type) where
  station : ι
  router : Router
  packet : PendingPacketForwarding

/-- Where the stations are, and under which addresses. -/
structure Layout (ι : Type) where
  position : ι → GeodeticPosition
  address : ι → MacAddress

variable {ι : Type}

/-- **The location table holds the true positions of neighbours**, and the router knows its own. -/
structure Visit.Truthful (layout : Layout ι) (visit : Visit ι) : Prop where
  position : visit.router.localPositionVector.position = layout.position visit.station
  address : visit.router.localPositionVector.gnAddr.mid = layout.address visit.station
  neighbours : ∀ entry ∈ visit.router.neighbours, ∀ pv, entry.positionVector = some pv →
    ∀ station, layout.address station = pv.gnAddr.mid → layout.position station = pv.position

/-- **A greedy unicast hop**: the one router forwards the packet greedily, and what it hands to its
access layer is for the address of the next router, which finds that extended header. -/
def GreedyHop (platforms : ι → Platform) (visit next : Visit ι) : Prop :=
  ∃ env after origin request pdu payload,
    (greedyForwarding (platforms visit.station) visit.packet >>=
        processNextHop (platforms visit.station) env) visit.router = (.ok (), after) ∧
      after = visit.router.emit (.passedDown origin request pdu payload) ∧
      request.destination ≠ cBroadcastMacAddress ∧
      request.destination = next.router.localPositionVector.gnAddr.mid ∧
      pdu.extended = .geoBroadcast next.packet.pdu.extended

/-- An event has been added to what has been observed. -/
theorem emit_ne {router other : Router} {event : Event} (same : other.trace = router.trace) :
    other ≠ router.emit event := by
  intro equal
  rw [equal] at same
  have longer := congrArg List.length same
  unfold Router.emit at longer
  rw [List.length_append, List.length_singleton] at longer
  omega

/-- What has been transmitted is the event that has been observed. -/
theorem sends_event {router after : Router} {mac : MacAddress} {position : GeodeticPosition}
    {origin : Origin} {request : Dcc.DataRequest} {pdu : VariantPdu} {payload : ChunkPacket}
    {header : GeoBroadcastHeader} (sends : Sends router mac position after)
    (emitted : after = router.emit (.passedDown origin request pdu payload))
    (told : pdu.extended = .geoBroadcast header) :
    request.destination = mac ∧ header.position = position := by
  obtain ⟨_, _, _, _, header', sent, destination, told', located⟩ := sends
  have same := congrArg Router.trace (emitted.symm.trans sent)
  have last := List.append_cancel_left same
  cases last
  rw [told] at told'
  cases told'
  exact ⟨destination, located⟩

/-- **A hop leads to a closest neighbour**, and the packet's destination stays. -/
theorem GreedyHop.closest {platforms : ι → Platform} {visit next : Visit ι}
    (hop : GreedyHop platforms visit next) :
    next.packet.pdu.extended.position = visit.packet.pdu.extended.position ∧
      ∃ entry pv, ClosestNeighbour (platforms visit.station) visit.router
          visit.packet.pdu.extended.position entry pv ∧
        pv.gnAddr.mid = next.router.localPositionVector.gnAddr.mid := by
  obtain ⟨env, after, origin, request, pdu, payload, ran, emitted, unicast, address, header⟩ := hop
  obtain ⟨decided, mid, greedy, processed⟩ := Action.bind_ok.mp ran
  have decides := greedyForwarding_spec (platforms visit.station) visit.router visit.packet
  rw [greedy] at decides
  cases decides with
  | carry alone scf =>
    cases processed
    exact absurd emitted (emit_ne rfl)
  | broadcast alone scf =>
    obtain rfl | sends := processNextHop_sends processed
    · exact absurd emitted (emit_ne rfl)
    · exact absurd (sends_event sends emitted header).1 unicast
  | unicast entry pv closest =>
    obtain rfl | sends := processNextHop_sends processed
    · exact absurd emitted (emit_ne rfl)
    · obtain ⟨destination, located⟩ := sends_event sends emitted header
      exact ⟨located, entry, pv, closest, destination.symm.trans address⟩

/-- The packet has come closer to its destination. -/
def Nearer (distance : GeodeticPosition → GeodeticPosition → ℚ) (layout : Layout ι)
    (visit next : Visit ι) : Prop :=
  next.packet.pdu.extended.position = visit.packet.pdu.extended.position ∧
    distance next.packet.pdu.extended.position (layout.position next.station) <
      distance visit.packet.pdu.extended.position (layout.position visit.station)

instance (distance : GeodeticPosition → GeodeticPosition → ℚ) (layout : Layout ι) :
    IsTrans (Visit ι) (Nearer distance layout) :=
  ⟨fun _ _ _ first second => ⟨second.1.trans first.1, lt_trans second.2 first.2⟩⟩

/-- **Every hop between truthful routers comes closer.** -/
theorem GreedyHop.nearer {platforms : ι → Platform} {layout : Layout ι} {visit next : Visit ι}
    (hop : GreedyHop platforms visit next) (truthful : visit.Truthful layout)
    (nextTruthful : next.Truthful layout) :
    Nearer (platforms visit.station).geometry.distance layout visit next := by
  obtain ⟨destination, entry, pv, closest, address⟩ := hop.closest
  have located := truthful.neighbours entry closest.neighbour pv closest.stored next.station
    (nextTruthful.address.symm.trans address.symm)
  have closer := closest.closer
  unfold ownDistance at closer
  rw [truthful.position] at closer
  refine ⟨destination, ?_⟩
  rw [destination, located]
  exact closer

/-- **The way of a packet** by greedy unicast hops visits no station twice. -/
theorem stations_nodup {platforms : ι → Platform} {layout : Layout ι}
    {distance : GeodeticPosition → GeodeticPosition → ℚ}
    (measured : ∀ station, (platforms station).geometry.distance = distance) {path : List (Visit ι)}
    (truthful : ∀ visit ∈ path, visit.Truthful layout) (chain : path.IsChain (GreedyHop platforms)) :
    (path.map Visit.station).Nodup := by
  have nearer : path.IsChain (Nearer distance layout) := by
    refine chain.imp_of_mem_imp ?_
    intro visit next present nextPresent hop
    have closer := hop.nearer (truthful visit present) (truthful next nextPresent)
    rwa [measured] at closer
  refine nodup_of_isChain Visit.station nearer ?_
  rintro visit next ⟨destination, closer⟩ same
  rw [destination, same] at closer
  exact absurd closer (lt_irrefl _)

/-- **Greedy forwarding makes progress.** Whatever the location table holds, the packet goes to a
closest neighbour if one is closer to the destination than the router, and is buffered or broadcast
only if there is none; what is chosen does not depend on the order of the entries, up to ties. In a
network with true and static positions a packet visits no station twice by greedy unicast hops. -/
theorem greedy_progress :
    (∀ (platform : Platform) (router : Router) (packet : PendingPacketForwarding),
      Decides platform router packet (greedyForwarding platform packet router)) ∧
    (∀ (platform : Platform) (router other : Router) (packet : PendingPacketForwarding),
      Reordered router other →
        (∀ entry entry' pv pv',
          ClosestNeighbour platform router packet.pdu.extended.position entry pv →
          ClosestNeighbour platform other packet.pdu.extended.position entry' pv' →
            platform.geometry.distance packet.pdu.extended.position pv.position =
              platform.geometry.distance packet.pdu.extended.position pv'.position) ∧
        (Untied platform router packet.pdu.extended.position →
          (greedyForwarding platform packet other).1 =
            (greedyForwarding platform packet router).1)) ∧
    ∀ (ι : Type) (platforms : ι → Platform) (layout : Layout ι)
      (distance : GeodeticPosition → GeodeticPosition → ℚ) (path : List (Visit ι)),
      (∀ station, (platforms station).geometry.distance = distance) →
      (∀ visit ∈ path, visit.Truthful layout) → path.IsChain (GreedyHop platforms) →
        (path.map Visit.station).Nodup := by
  refine ⟨greedyForwarding_spec, ?_, fun ι platforms layout distance path measured =>
    stations_nodup measured⟩
  intro platform router other packet reordered
  exact ⟨fun entry entry' pv pv' => reordered.distance_eq, reordered.decision_eq⟩

/-! ### Two stations -/

/-- Distances along a meridian, and no destination area is reached yet. -/
def meridian : Platform where
  mib := { Mib.initial with vanetzaDisableBeaconing := true }
  geometry :=
    { insideOrAtBorder := fun _ _ => false
      distance := fun first second => |(first.latitude.toInt - second.latitude.toInt : ℚ)|
      areaSize := fun _ => 0
      acos := fun _ => none }

/-- Stations to the north of each other. -/
def meridianLayout : Layout Bool where
  position := fun station => ⟨if station then 10 else 20, 0⟩
  address := fun station => ⟨[2, 0, 0, 0, 0, if station then 1 else 0], rfl⟩

def meridianVector (station : Bool) : LongPositionVector :=
  { LongPositionVector.zero with
    gnAddr := ⟨false, 0, 0, meridianLayout.address station⟩
    timestamp := ⟨1⟩
    latitude := (meridianLayout.position station).latitude }

/-- A router that knows the position of the other station, which is its neighbour. -/
def meridianRouter (station : Bool) : Router :=
  let router := Router.create meridian.mib 0 0
  { router with
    localPositionVector := meridianVector station
    locationTable := (router.locationTable.update 0 (meridianVector !station)).modify
      (meridianLayout.address !station) fun entry => entry.setNeighbour true }

/-- A packet for the destination in the south. -/
def southbound : PendingPacketForwarding :=
  ⟨⟨BasicHeader.ofMib meridian.mib, CommonHeader.ofMib meridian.mib,
    Router.gbcHeader 0 .zero, none⟩, .empty, .forward 0⟩

theorem meridian_neighbours (station : Bool) : ∀ entry ∈ (meridianRouter station).neighbours,
    entry.positionVector = some (meridianVector !station) := by
  cases station <;> decide +kernel

theorem meridian_truthful (station : Bool) (packet : PendingPacketForwarding) :
    Visit.Truthful meridianLayout ⟨station, meridianRouter station, packet⟩ := by
  refine ⟨by cases station <;> rfl, rfl, ?_⟩
  intro entry among pv stored
  rw [meridian_neighbours station entry among] at stored
  cases stored
  have placed : ∀ station other : Bool,
      meridianLayout.address other = (meridianVector !station).gnAddr.mid →
        meridianLayout.position other = (meridianVector !station).position := by decide +kernel
  exact placed station

theorem meridian_hop : GreedyHop (fun _ : Bool => meridian)
    ⟨false, meridianRouter false, southbound⟩ ⟨true, meridianRouter true, southbound⟩ := by
  have found : (mostForward meridian southbound.pdu.extended.position
      ((meridianRouter false).ownDistance meridian southbound.pdu.extended.position)
      (meridianRouter false).neighbours).1 = some (meridianLayout.address true) := by decide +kernel
  have greedy := greedyForwarding_eq meridian (meridianRouter false) southbound
  rw [found] at greedy
  refine ⟨insecure, _, .forwarder 0,
    { destination := meridianLayout.address true
      source := meridianLayout.address false
      dccProfile := .dp3
      etherType := etherType
      lifetime := southbound.pdu.basic.lifetime.decode }, southbound.pdu.toVariant, .empty,
    (Action.bind_of_ok greedy).trans rfl, rfl, by decide, rfl, rfl⟩

/-- The northern station forwards the packet to the southern one. -/
theorem greedy_progress_meridian :
    ([⟨false, meridianRouter false, southbound⟩, ⟨true, meridianRouter true, southbound⟩].map
      Visit.station).Nodup := by
  refine greedy_progress.2.2 Bool (fun _ => meridian) meridianLayout meridian.geometry.distance _
    (fun _ => rfl) ?_ ?_
  · intro visit present
    obtain rfl | rfl := List.mem_pair.mp present
    · exact meridian_truthful false southbound
    · exact meridian_truthful true southbound
  · exact .cons_cons meridian_hop (.singleton _)

end Vanet.Geonet
