/-
**A router in its surroundings.**

A station is a router with what it has received. Its actions are the calls of the layers above and
below the router and of the management, the invocation of a due callback, and time passing. An
exception in an indication or a request reaches the caller, and the router goes on with what has been
written. An exception in a callback leaves the runtime, and the run ends there.
-/

import Mathlib.Algebra.Order.BigOperators.Group.List
import Vanet.Geonet.RouterIndication
import Vanet.Geonet.RouterRequest
import Vanet.Library.Run

namespace Vanet.Geonet

open Vanet.Common Vanet.Library Vanet.Security
open Vanet.Net hiding ByteBuffer

/-- `PositionFix`, with the fields of a position vector that are computed from it. -/
structure PositionFix where
  latitude : Int32
  longitude : Int32
  speed : BitVec 15
  course : UInt16
  semiMajor : ℚ
  deriving DecidableEq

namespace Router

/-- `update_position`. -/
def updatePosition (mib : Mib) (router : Router) (fix : PositionFix) : Router :=
  { router with
    localPositionVector := { router.localPositionVector with
      timestamp := .ofTimePoint router.now
      latitude := fix.latitude
      longitude := fix.longitude
      speed := if mib.itsGnIsMobile then fix.speed else 0
      heading := if mib.itsGnIsMobile then fix.course else 0
      positionAccuracyIndicator := fix.semiMajor * 2 < mib.itsGnPaiInterval } }

/-- `set_address`. -/
def setAddress (router : Router) (addr : Address) : Router :=
  { router with localPositionVector := { router.localPositionVector with gnAddr := addr } }

/-- `set_transport_handler`. -/
def setTransportHandler (router : Router) (proto : UpperProtocol) (handled : Bool) : Router :=
  { router with
    transportHandler := fun other => if other = proto then handled else router.transportHandler other }

end Router

/-- **A station.** -/
structure Station where
  router : Router
  receptions : List UpPacket
  failed : Bool

namespace Station

inductive Action
  | indicate (packet : UpPacket) (ll : LinkLayer)
  | request (request : DataRequestVariant) (payload : Option ChunkPacket)
  | updatePosition (fix : PositionFix)
  | setAddress (addr : Address)
  | setTransportHandler (proto : UpperProtocol) (handled : Bool)
  | advance (d : ℤ)
  | fire

variable (platform : Platform)

/-- A station whose router has just been constructed. -/
def Initial (station : Station) : Prop :=
  ∃ now firstBeacon, station = ⟨.create platform.mib now firstBeacon, [], false⟩

/-- The station with another router. -/
def withRouter (station : Station) (router : Router) : Station := { station with router := router }

def step (station : Station) (input : Environment × Action) : Option Station :=
  if station.failed then none
  else
    match input.2 with
    | .indicate packet ll =>
      let indicated :=
        Router.indicate platform input.1 station.receptions.length packet ll station.router
      some ⟨indicated.2, station.receptions ++ [packet], false⟩
    | .request request payload =>
      some (station.withRouter (Router.request platform input.1 request payload station.router).2)
    | .updatePosition fix =>
      some (station.withRouter (station.router.updatePosition platform.mib fix))
    | .setAddress addr => some (station.withRouter (station.router.setAddress addr))
    | .setTransportHandler proto handled =>
      some (station.withRouter (station.router.setTransportHandler proto handled))
    | .advance d =>
      if 0 ≤ d then
        let router := station.router
        some (station.withRouter
          { router with runtime := { router.runtime with now := router.now + d } })
      else none
    | .fire =>
      station.router.runtime.popDue.map fun due =>
        let invoked := Router.invoke platform input.1 due.1.callback due.1.deadline
          { station.router with runtime := due.2 }
        { station with
          router := invoked.2
          failed := match invoked.1 with
            | .ok _ => false
            | .error _ => true }

/-! ### Invariants of the router -/

section Invariants

variable {platform} {I : Router → Prop}

variable (platform I) in
/-- **What an invariant of a station's router needs.** The management changes the router's own position
vector and its transport handlers, and time passes in the runtime. -/
structure Sustains : Prop where
  indicates : ∀ env reception packet ll,
    Library.Action.Keeps I (Router.indicate platform env reception packet ll)
  requests : ∀ env request payload,
    Library.Action.Keeps I (Router.request platform env request payload)
  invokes : ∀ env callback deadline,
    Library.Action.Keeps I (Router.invoke platform env callback deadline)
  manages : ∀ router runtime handler lpv, I router → I { router with
    runtime := runtime
    transportHandler := handler
    localPositionVector := lpv }

/-- **A step** keeps the invariant. -/
theorem Sustains.step (sustains : Sustains platform I) {station after : Station}
    {input : Environment × Action} (holds : I station.router)
    (taken : Station.step platform station input = some after) : I after.router := by
  obtain ⟨env, action⟩ := input
  unfold Station.step at taken
  split_ifs at taken
  cases action with
  | indicate packet ll =>
    cases taken
    exact (sustains.indicates env _ packet ll).after holds
  | request request payload =>
    cases taken
    exact (sustains.requests env request payload).after holds
  | updatePosition fix =>
    cases taken
    exact sustains.manages station.router _ _ _ holds
  | setAddress addr =>
    cases taken
    exact sustains.manages station.router _ _ _ holds
  | setTransportHandler proto handled =>
    cases taken
    exact sustains.manages station.router _ _ _ holds
  | advance d =>
    dsimp only at taken
    split_ifs at taken
    cases taken
    exact sustains.manages station.router _ _ _ holds
  | fire =>
    obtain ⟨due, _, rfl⟩ := Option.map_eq_some_iff.mp taken
    exact (sustains.invokes env _ _).after (sustains.manages station.router due.2 _ _ holds)

/-- **A run** does. -/
theorem Sustains.reachable (sustains : Sustains platform I)
    (created : ∀ now firstBeacon, I (.create platform.mib now firstBeacon)) {station : Station}
    (reached : Reachable (Initial platform) (Station.step platform) station) : I station.router := by
  refine GuardedReach.invariant (I := fun station : Station => I station.router) ?_ ?_ station reached
  · rintro _ ⟨now, firstBeacon, rfl⟩
    exact created now firstBeacon
  · intro before input after _ holds _ taken
    exact sustains.step holds taken

end Invariants

end Station

/-! ### Simple surroundings -/

/-- A flat world of one point. -/
def flatland : Geometry where
  insideOrAtBorder := fun _ _ => true
  distance := fun _ _ => 0
  areaSize := fun _ => 0
  acos := fun _ => some 0

/-- No security entity, and numbers that do not matter. -/
def insecure : Environment where
  securityEntity := none
  randomMac := cBroadcastMacAddress
  nextBeacon := fun _ => 3000000
  dccField := fun _ => .raw 0
  allocate := fun used => ⟨used.sum + 1, fun member =>
    absurd (List.single_le_sum (fun _ _ => Nat.zero_le _) _ member) (by omega)⟩
  limit := 0

/-- A GeoBroadcast packet of a source, within the range of one hop. -/
def announcement (source : Address) (sn : SequenceNumber) : UpPacket :=
  .chunk ⟨.pdu
    { basic := ⟨1, .common, 0, ⟨5⟩, 1⟩
      common := ⟨.btpB, 0, .geoBroadcastCircle, ⟨0⟩, 0, 0, 10, 0⟩
      extended := .geoBroadcast
        ⟨sn, 0, { LongPositionVector.zero with gnAddr := source }, 0, 0, 100, 0, 0, 0⟩
      secured := none }, .empty⟩

/-- Its reception from the link layer. -/
def hears (packet : UpPacket) : Environment × Station.Action :=
  (insecure, .indicate packet ⟨cBroadcastMacAddress, cBroadcastMacAddress⟩)

end Vanet.Geonet
