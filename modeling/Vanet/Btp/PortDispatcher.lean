/-
**The port dispatcher.**

A packet that a router passes up has a BTP header, if its upper protocol is one of them. The dispatcher
shows it to every promiscuous hook, and hands it to the handler of its destination port; what has no
handler, and what is no BTP packet, is reported as undispatched. Handlers and hooks are pointers in the
source: a null pointer is `none`.

* `mem_addPromiscuousHook`, `nodup_addPromiscuousHook`: hooks are registered once, and null pointers never.
* `indicate_btpB`: what becomes of a packet with a header of non-interactive transport.
-/

import Vanet.Btp.Header

namespace Vanet.Btp

open Vanet.Geonet
open Vanet.Library Vanet.Security
open Vanet.Net hiding ByteBuffer

/-! ### Indications -/

/-- `btp::DataIndication`. -/
structure DataIndication where
  sourcePort : Option Port
  destinationPort : Port
  destinationPortInfo : Option UInt16
  destination : Option Area
  itsAid : Option ItsAid
  permissions : Option ByteBuffer
  sourcePosition : Option ShortPositionVector
  trafficClass : Option TrafficClass
  remainingPacketLifetime : Option Lifetime
  deriving DecidableEq

namespace DataIndication

/-- `DataIndication(const geonet::DataIndication&, const HeaderA&)`. -/
def ofHeaderA (ind : Geonet.DataIndication) (btp : HeaderA) : DataIndication where
  sourcePort := some btp.sourcePort
  destinationPort := btp.destinationPort
  destinationPortInfo := none
  destination := ind.destination
  itsAid := ind.itsAid
  permissions := ind.permissions
  sourcePosition := ind.sourcePosition
  trafficClass := ind.trafficClass
  remainingPacketLifetime := ind.remainingPacketLifetime

/-- `DataIndication(const geonet::DataIndication&, const HeaderB&)`. -/
def ofHeaderB (ind : Geonet.DataIndication) (btp : HeaderB) : DataIndication where
  sourcePort := none
  destinationPort := btp.destinationPort
  destinationPortInfo := some btp.destinationPortInfo
  destination := ind.destination
  itsAid := ind.itsAid
  permissions := ind.permissions
  sourcePosition := ind.sourcePosition
  trafficClass := ind.trafficClass
  remainingPacketLifetime := ind.remainingPacketLifetime

end DataIndication

/-- `parse_btp_header`. -/
def parseBtpHeader (gnInd : Geonet.DataIndication) (packet : UpPacket) :
    Except BtpFault (Option DataIndication × UpPacket) :=
  match gnInd.upperProtocol with
  | .btpA => (parseBtpA packet).map fun parsed => (some (.ofHeaderA gnInd parsed.1), parsed.2)
  | .btpB => (parseBtpB packet).map fun parsed => (some (.ofHeaderB gnInd parsed.1), parsed.2)
  | _ => .ok (none, packet)

/-! ### The dispatcher -/

/-- What happens to an indicated packet, over handlers and promiscuous hooks. -/
inductive Dispatch (κ η : Type)
  | tapPacket (hook : η) (ind : DataIndication) (packet : UpPacket)
  | indicate (handler : κ) (ind : DataIndication) (packet : UpPacket)
  | undispatched (gnInd : Geonet.DataIndication) (ind : Option DataIndication)

/-- The handler gets the packet, if there is one. -/
def Dispatch.ofHandler {κ η : Type} (gnInd : Geonet.DataIndication) (ind : DataIndication)
    (packet : UpPacket) : Option κ → Dispatch κ η
  | some handler => .indicate handler ind packet
  | none => .undispatched gnInd (some ind)

/-- A port that is not in a map has no handler. -/
structure PortDispatcher (κ η : Type) where
  interactiveHandlers : Port → Option κ
  nonInteractiveHandlers : Port → Option κ
  promiscuousHooks : List η

namespace PortDispatcher

variable {κ η : Type} [DecidableEq η]

/-- `PortDispatcher()`. -/
def empty : PortDispatcher κ η := ⟨fun _ => none, fun _ => none, []⟩

def setInteractiveHandler (dispatcher : PortDispatcher κ η) (port : Port) (handler : Option κ) :
    PortDispatcher κ η :=
  { dispatcher with
    interactiveHandlers := Function.update dispatcher.interactiveHandlers port handler }

def setNonInteractiveHandler (dispatcher : PortDispatcher κ η) (port : Port) (handler : Option κ) :
    PortDispatcher κ η :=
  { dispatcher with
    nonInteractiveHandlers := Function.update dispatcher.nonInteractiveHandlers port handler }

def addPromiscuousHook (dispatcher : PortDispatcher κ η) : Option η → PortDispatcher κ η
  | none => dispatcher
  | some hook =>
    if hook ∈ dispatcher.promiscuousHooks then dispatcher
    else { dispatcher with promiscuousHooks := dispatcher.promiscuousHooks ++ [hook] }

/-- The list has no null pointer that could be removed. -/
def removePromiscuousHook (dispatcher : PortDispatcher κ η) : Option η → PortDispatcher κ η
  | none => dispatcher
  | some hook =>
    { dispatcher with
      promiscuousHooks := dispatcher.promiscuousHooks.filter fun other => other ≠ hook }

/-- The handler of an indication. -/
def handlerOf (dispatcher : PortDispatcher κ η) (ind : DataIndication) : Option κ :=
  if ind.sourcePort.isSome then dispatcher.interactiveHandlers ind.destinationPort
  else dispatcher.nonInteractiveHandlers ind.destinationPort

def indicate (dispatcher : PortDispatcher κ η) (gnInd : Geonet.DataIndication) (packet : UpPacket) :
    Except BtpFault (List (Dispatch κ η)) := do
  let (btpInd, packet) ← parseBtpHeader gnInd packet
  match btpInd with
  | none => .ok [.undispatched gnInd none]
  | some btpInd =>
    let taps := dispatcher.promiscuousHooks.map fun hook => .tapPacket hook btpInd packet
    .ok (taps ++ [.ofHandler gnInd btpInd packet (dispatcher.handlerOf btpInd)])

/-! ### Registrations -/

section Hooks

variable {dispatcher : PortDispatcher κ η} {hook : Option η} {other : η}

theorem mem_addPromiscuousHook : other ∈ (dispatcher.addPromiscuousHook hook).promiscuousHooks ↔
    hook = some other ∨ other ∈ dispatcher.promiscuousHooks := by
  cases hook with
  | none => exact (or_iff_right nofun).symm
  | some hook =>
    unfold addPromiscuousHook
    dsimp only
    split_ifs with known
    · constructor
      · exact .inr
      · rintro (same | member)
        · cases same
          exact known
        · exact member
    · rw [List.mem_append, List.mem_singleton, Option.some.injEq, eq_comm, or_comm]

theorem mem_removePromiscuousHook : other ∈ (dispatcher.removePromiscuousHook hook).promiscuousHooks ↔
    other ∈ dispatcher.promiscuousHooks ∧ hook ≠ some other := by
  cases hook with
  | none => exact (and_iff_left nofun).symm
  | some hook =>
    show other ∈ dispatcher.promiscuousHooks.filter _ ↔ _
    rw [List.mem_filter, decide_eq_true_iff, Ne, Ne, Option.some.injEq, eq_comm]

/-- **No hook is registered twice.** -/
theorem nodup_addPromiscuousHook (nodup : dispatcher.promiscuousHooks.Nodup) :
    (dispatcher.addPromiscuousHook hook).promiscuousHooks.Nodup := by
  cases hook with
  | none => exact nodup
  | some hook =>
    unfold addPromiscuousHook
    dsimp only
    split_ifs with known
    · exact nodup
    · show (dispatcher.promiscuousHooks ++ [hook]).Nodup
      rw [← List.concat_eq_append]
      exact nodup.concat known

theorem nodup_removePromiscuousHook (nodup : dispatcher.promiscuousHooks.Nodup) :
    (dispatcher.removePromiscuousHook hook).promiscuousHooks.Nodup := by
  cases hook with
  | none => exact nodup
  | some hook => exact nodup.filter _

end Hooks

/-! ### What becomes of a packet -/

omit [DecidableEq η] in
/-- **A packet with a header of non-interactive transport.** -/
theorem indicate_btpB {dispatcher : PortDispatcher κ η} {gnInd : Geonet.DataIndication}
    {packet after : UpPacket} {hdr : HeaderB} (protocol : gnInd.upperProtocol = .btpB)
    (parsed : parseBtpB packet = .ok (hdr, after)) :
    dispatcher.indicate gnInd packet =
      .ok (dispatcher.promiscuousHooks.map (fun hook => .tapPacket hook (.ofHeaderB gnInd hdr) after) ++
        [.ofHandler gnInd (.ofHeaderB gnInd hdr) after
          (dispatcher.nonInteractiveHandlers hdr.destinationPort)]) := by
  unfold indicate parseBtpHeader
  rw [protocol]
  dsimp only
  rw [parsed]
  rfl

end PortDispatcher

end Vanet.Btp
