/-
**Applications and the router they share.**

A `RouterContext` connects the applications of a station with its router: it registers them at the port
dispatcher, lets the frames of the link layer pass that are meant for the router, and hands what the
router sends to the link layer, which puts an Ethernet header in front. The header of a request is that of
non-interactive transport, whatever the application.

* `enabled_handler`, `enabled_hook`: whichever applications are enabled and disabled in whichever order,
  the handler of a port is the application of this port that has been enabled or disabled last, if it has
  been enabled. So an application that is disabled takes the port away from another one.
* `dispatch_of_history`: a packet that the router passes up reaches this application, and every hook that
  has been enabled last once.
-/

import Vanet.Btp.PortDispatcher
import Vanet.Geonet.RouterIndication
import Vanet.Geonet.RouterRequest
import Vanet.Socktap.RawSocketLink

namespace Vanet.Socktap

open Vanet.Btp Vanet.Geonet
open Vanet.Library Vanet.Security
open Vanet.Net hiding ByteBuffer

/-! ### Registering applications -/

/-- What an application says of itself: its port, and its promiscuous hook, if it has one. -/
structure Profile (κ η : Type) where
  port : κ → Port
  promiscuousHook : κ → Option η

/-- An application is enabled or disabled. -/
inductive Change (κ : Type)
  | enable (app : κ)
  | disable (app : κ)
  deriving DecidableEq

namespace Change

variable {κ : Type}

def app : Change κ → κ
  | enable app => app
  | disable app => app

/-- The application, if it has been enabled. -/
def enabled : Change κ → Option κ
  | enable app => some app
  | disable _ => none

end Change

section Registered

variable {κ η : Type} [DecidableEq η] (profile : Profile κ η)

/-- `enable`. -/
def enable (dispatcher : PortDispatcher κ η) (app : κ) : PortDispatcher κ η :=
  let dispatcher := dispatcher.addPromiscuousHook (profile.promiscuousHook app)
  if profile.port app ≠ 0 then dispatcher.setNonInteractiveHandler (profile.port app) (some app)
  else dispatcher

/-- `disable`. -/
def disable (dispatcher : PortDispatcher κ η) (app : κ) : PortDispatcher κ η :=
  let dispatcher :=
    if profile.port app ≠ 0 then dispatcher.setNonInteractiveHandler (profile.port app) none
    else dispatcher
  dispatcher.removePromiscuousHook (profile.promiscuousHook app)

def change (dispatcher : PortDispatcher κ η) : Change κ → PortDispatcher κ η
  | .enable app => enable profile dispatcher app
  | .disable app => disable profile dispatcher app

/-- The dispatcher after some changes, of which the latest comes first. -/
def registered : List (Change κ) → PortDispatcher κ η
  | [] => .empty
  | latest :: earlier => change profile (registered earlier) latest

/-- The latest change of an application with this port. -/
def latestOfPort (history : List (Change κ)) (port : Port) : Option (Change κ) :=
  history.find? fun entry => profile.port entry.app = port

/-- The latest change of an application with this hook. -/
def latestOfHook (history : List (Change κ)) (hook : η) : Option (Change κ) :=
  history.find? fun entry => profile.promiscuousHook entry.app = some hook

/-! ### What is registered -/

variable {profile}

theorem addPromiscuousHook_handlers (dispatcher : PortDispatcher κ η) (hook : Option η) :
    (dispatcher.addPromiscuousHook hook).nonInteractiveHandlers = dispatcher.nonInteractiveHandlers ∧
      (dispatcher.addPromiscuousHook hook).interactiveHandlers = dispatcher.interactiveHandlers := by
  unfold PortDispatcher.addPromiscuousHook
  cases hook with
  | none => exact ⟨rfl, rfl⟩
  | some hook =>
    dsimp only
    split_ifs
    · exact ⟨rfl, rfl⟩
    · exact ⟨rfl, rfl⟩

theorem removePromiscuousHook_handlers (dispatcher : PortDispatcher κ η) (hook : Option η) :
    (dispatcher.removePromiscuousHook hook).nonInteractiveHandlers =
        dispatcher.nonInteractiveHandlers ∧
      (dispatcher.removePromiscuousHook hook).interactiveHandlers = dispatcher.interactiveHandlers := by
  cases hook <;> exact ⟨rfl, rfl⟩

/-- **A change** concerns its own port, unless that is zero. -/
theorem change_handlers (dispatcher : PortDispatcher κ η) (entry : Change κ) :
    (change profile dispatcher entry).interactiveHandlers = dispatcher.interactiveHandlers ∧
      ∀ port, (change profile dispatcher entry).nonInteractiveHandlers port =
        if profile.port entry.app = port ∧ port ≠ 0 then entry.enabled
        else dispatcher.nonInteractiveHandlers port := by
  have updated : ∀ (dispatcher : PortDispatcher κ η) (app : κ) (handler : Option κ) (port : Port),
      (if profile.port app ≠ 0 then dispatcher.setNonInteractiveHandler (profile.port app) handler
        else dispatcher).nonInteractiveHandlers port =
        if profile.port app = port ∧ port ≠ 0 then handler
        else dispatcher.nonInteractiveHandlers port := by
    intro dispatcher app handler port
    by_cases none : profile.port app = 0
    · rw [if_neg (not_not.mpr none), if_neg fun ours => ours.2 (ours.1 ▸ none)]
    · rw [if_pos none]
      show Function.update dispatcher.nonInteractiveHandlers (profile.port app) handler port = _
      by_cases ours : profile.port app = port
      · rw [← ours, Function.update_self, if_pos ⟨rfl, none⟩]
      · rw [Function.update_of_ne (Ne.symm ours), if_neg fun both => ours both.1]
  cases entry with
  | enable app =>
    obtain ⟨handlers, interactive⟩ :=
      addPromiscuousHook_handlers dispatcher (profile.promiscuousHook app)
    refine ⟨?_, fun port => ?_⟩
    · show (enable profile dispatcher app).interactiveHandlers = _
      unfold enable
      dsimp only
      split_ifs
      · exact interactive
      · exact interactive
    · refine (updated _ app (some app) port).trans ?_
      rw [handlers]
      rfl
  | disable app =>
    obtain ⟨handlers, interactive⟩ := removePromiscuousHook_handlers
      (if profile.port app ≠ 0 then dispatcher.setNonInteractiveHandler (profile.port app) none
        else dispatcher) (profile.promiscuousHook app)
    refine ⟨?_, fun port => ?_⟩
    · refine interactive.trans ?_
      split_ifs
      · rfl
      · rfl
    · show (disable profile dispatcher app).nonInteractiveHandlers port = _
      unfold disable
      rw [handlers]
      exact updated dispatcher app none port

/-- **The handler of a port** is the application of this port that was enabled or disabled last. -/
theorem enabled_handler (history : List (Change κ)) (port : Port) :
    (registered profile history).nonInteractiveHandlers port =
      if port = 0 then none else (latestOfPort profile history port).bind Change.enabled := by
  induction history with
  | nil =>
    show none = _
    split_ifs <;> rfl
  | cons latest earlier ih =>
    show (change profile (registered profile earlier) latest).nonInteractiveHandlers port = _
    rw [(change_handlers _ latest).2 port, ih]
    by_cases zero : port = 0
    · rw [if_neg fun both => both.2 zero, if_pos zero, if_pos zero]
    · rw [if_neg zero, if_neg zero]
      unfold latestOfPort
      by_cases ours : profile.port latest.app = port
      · rw [if_pos ⟨ours, zero⟩, List.find?_cons, decide_eq_true ours]
        rfl
      · rw [if_neg fun both => ours both.1, List.find?_cons, decide_eq_false ours]

/-- No application is a handler of interactive transport. -/
theorem enabled_interactive (history : List (Change κ)) (port : Port) :
    (registered profile history).interactiveHandlers port = none := by
  induction history with
  | nil => rfl
  | cons latest earlier ih =>
    show (change profile (registered profile earlier) latest).interactiveHandlers port = none
    rw [(change_handlers _ latest).1]
    exact ih

/-- **The hooks** are those of the applications that were enabled last, each of them once. -/
theorem enabled_hook (history : List (Change κ)) :
    (registered profile history).promiscuousHooks.Nodup ∧
      ∀ hook, hook ∈ (registered profile history).promiscuousHooks ↔
        ∃ app, latestOfHook profile history hook = some (.enable app) := by
  induction history with
  | nil => exact ⟨List.nodup_nil, fun hook => iff_of_false List.not_mem_nil fun ⟨_, found⟩ => nomatch found⟩
  | cons latest earlier ih =>
    obtain ⟨nodup, members⟩ := ih
    have hooks : (change profile (registered profile earlier) latest).promiscuousHooks =
        match latest with
        | .enable app => ((registered profile earlier).addPromiscuousHook
            (profile.promiscuousHook app)).promiscuousHooks
        | .disable app => ((registered profile earlier).removePromiscuousHook
            (profile.promiscuousHook app)).promiscuousHooks := by
      cases latest with
      | enable app =>
        show (enable profile (registered profile earlier) app).promiscuousHooks = _
        unfold enable
        dsimp only
        split_ifs <;> rfl
      | disable app =>
        show (disable profile (registered profile earlier) app).promiscuousHooks = _
        unfold disable PortDispatcher.removePromiscuousHook
        dsimp only
        split_ifs <;> cases profile.promiscuousHook app <;> rfl
    show (change profile (registered profile earlier) latest).promiscuousHooks.Nodup ∧ _
    refine ⟨?_, fun hook => ?_⟩
    · rw [hooks]
      cases latest with
      | enable app => exact PortDispatcher.nodup_addPromiscuousHook nodup
      | disable app => exact PortDispatcher.nodup_removePromiscuousHook nodup
    · show hook ∈ (change profile (registered profile earlier) latest).promiscuousHooks ↔ _
      rw [hooks]
      unfold latestOfHook
      by_cases ours : profile.promiscuousHook latest.app = some hook
      · rw [List.find?_cons, decide_eq_true ours]
        cases latest with
        | enable app =>
          exact iff_of_true (PortDispatcher.mem_addPromiscuousHook.mpr (.inl ours)) ⟨app, rfl⟩
        | disable app =>
          refine iff_of_false (fun member => ?_) fun ⟨_, same⟩ => nomatch same
          exact (PortDispatcher.mem_removePromiscuousHook.mp member).2 ours
      · rw [List.find?_cons, decide_eq_false ours]
        refine Iff.trans ?_ (members hook)
        cases latest with
        | enable app =>
          exact PortDispatcher.mem_addPromiscuousHook.trans (or_iff_right ours)
        | disable app =>
          exact PortDispatcher.mem_removePromiscuousHook.trans (and_iff_left ours)

variable (profile) in
/-- **Where a packet goes** that the router passes up with a header of non-interactive transport: once to
every hook that has been enabled last, and to the application of its port that has been enabled last, if
it has not been disabled, and neither has another one of the same port since. -/
theorem dispatch_of_history (history : List (Change κ)) {gnInd : Geonet.DataIndication}
    {packet after : UpPacket} {hdr : HeaderB} (protocol : gnInd.upperProtocol = .btpB)
    (parsed : parseBtpB packet = .ok (hdr, after)) :
    ∃ hooks : List η, hooks.Nodup ∧
      (∀ hook, hook ∈ hooks ↔ ∃ app, latestOfHook profile history hook = some (.enable app)) ∧
      (registered profile history).indicate gnInd packet =
        .ok (hooks.map (fun hook => .tapPacket hook (.ofHeaderB gnInd hdr) after) ++
          [.ofHandler gnInd (.ofHeaderB gnInd hdr) after
            (if hdr.destinationPort = 0 then none
              else (latestOfPort profile history hdr.destinationPort).bind Change.enabled)]) := by
  have ⟨nodup, members⟩ := @enabled_hook κ η _ profile history
  refine ⟨_, nodup, members, ?_⟩
  rw [PortDispatcher.indicate_btpB protocol parsed, enabled_handler]

end Registered

/-! ### Requests of applications -/

/-- `DataRequestGeoNetParams`, as far as `Application` reads it. A destination other than an area is
`none`. -/
structure DataRequestGeoNetParams where
  transportType : TransportType
  destination : Option Area
  communicationProfile : CommunicationProfile
  itsAid : ItsAid
  maximumLifetime : Option Lifetime
  repetition : Option Repetition
  trafficClass : TrafficClass

namespace Application

/-- `initialize_request` of a request that has the defaults of the MIB. -/
def initializeRequest (mib : Mib) (generic : DataRequestGeoNetParams) : DataRequest where
  upperProtocol := .btpB
  communicationProfile := generic.communicationProfile
  itsAid := generic.itsAid
  maximumLifetime := generic.maximumLifetime.getD mib.itsGnDefaultPacketLifetime
  repetition := generic.repetition
  maxHopLimit := mib.itsGnDefaultHopLimit
  trafficClass := generic.trafficClass

/-- The packet with a header of non-interactive transport. -/
def withHeader (port : Port) (packet : ChunkPacket) : ChunkPacket where
  layer
    | .transport => (HeaderB.mk port 0).serialize
    | other => packet.layer other

variable (platform : Platform) (env : Environment)

/-- `request` of an application, which may have no router. -/
def request (enabled : Bool) (port : Port) (generic : DataRequestGeoNetParams) (packet : Option ChunkPacket) :
    Act ResultCode :=
  match packet with
  | none => pure .rejectedUnspecified
  | some packet =>
    if enabled then
      let packet := withHeader port packet
      match generic.transportType with
      | .shb => Router.request platform env (.shb (initializeRequest platform.mib generic)) (some packet)
      | .gbc =>
        match generic.destination with
        | some area =>
          Router.request platform env (.gbc (initializeRequest platform.mib generic) area) (some packet)
        | none => Act.throw "boost::bad_get"
      | _ => pure .rejectedUnspecified
    else pure .rejectedUnspecified

end Application

/-! ### Between the router and the link layer -/

/-- **A router with its surroundings**, which are the applications and the link layer. -/
structure RouterContext (κ η : Type) where
  platform : Platform
  localMid : MacAddress
  ignoreOwnMessages : Bool
  ignoreRsuMessages : Bool
  allowPacketFlow : Bool
  dispatcher : PortDispatcher κ η
  router : Router

namespace RouterContext

variable {κ η : Type} (ctx : RouterContext κ η)

/-- `DccPassthrough::request`: the frame of a packet, if packets may flow. -/
def passThrough (request : Dcc.DataRequest) (packet : ChunkPacket) : Option ByteBuffer :=
  if ctx.allowPacketFlow then
    some (RawSocketLink.request
      ⟨request.etherType, request.source, request.destination, Dcc.mapProfileOntoAc request.dccProfile⟩ packet)
  else none

/-- The packet that `pass_down` makes of a PDU and its payload. -/
def downPacket (pdu : VariantPdu) (payload : ChunkPacket) : ChunkPacket where
  layer
    | .network => pdu.serialize
    | other => payload.layer other

/-- The frames of what a router hands over. -/
def frames (events : List Event) : List ByteBuffer :=
  events.filterMap fun event =>
    match event with
    | .passedDown _ request pdu payload => ctx.passThrough request (downPacket pdu payload)
    | _ => none

/-- The frames that are for the router. -/
def accepts (hdr : EthernetHeader) : Bool :=
  (!ctx.ignoreOwnMessages ∨ hdr.source ≠ ctx.localMid) ∧
    (!ctx.ignoreRsuMessages ∨ hdr.source.1[3]? ≠ some 1) ∧ hdr.type = etherType

/-- What the transport handler is told. -/
def passedUp : Event → Option (Geonet.DataIndication × UpPacket)
  | .passedUp _ indication packet => some (indication, packet)
  | _ => none

/-- `indicate`: what the dispatcher does with the packets that the router passes up, and the context.
Time passes, and callbacks are invoked, between the indications. -/
def indicate [DecidableEq η] (env : Environment) (reception : ℕ) (packet : Cohesive) (hdr : EthernetHeader) :
    List (Except BtpFault (List (Dispatch κ η))) × RouterContext κ η :=
  if ctx.accepts hdr then
    let router := (Router.indicate ctx.platform env reception (.cohesive packet.toPacket)
      ⟨hdr.source, hdr.destination⟩ ctx.router).2
    (((router.trace.drop ctx.router.trace.length).filterMap passedUp).map fun passed =>
      ctx.dispatcher.indicate passed.1 passed.2, { ctx with router := router })
  else ([], ctx)

end RouterContext

end Vanet.Socktap
