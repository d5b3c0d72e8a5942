/-
**Channel loads among neighbours.**

Each station has a `DccInformationSharing` beside its router. It fills in the DCC field of the router's
single-hop broadcasts, and reads the router's location table in its update cycles. Stations measure, send
and update in any order, and what a station has handed over may arrive at any station, at any time and any
number of times. What a station has measured and whom it has heard is recorded for the results.

`loads_travel_two_hops`: in every run, the loads that a station works with are loads that some station
within two hops has measured, rounded down at most once. Nothing is invented, nothing travels further, and
no global load exceeds what has been measured.
-/

import Vanet.Geonet.DccInformationSharing
import Vanet.Geonet.Hearsay

namespace Vanet.Geonet

open Vanet.Common Vanet.Dcc Vanet.Library
open Vanet.Net hiding ByteBuffer
open Router

/-- **A station with its load sharing**, what it has measured and whom it has heard. -/
structure Participant (ι : Type) where
  station : Station
  sharing : DccInformationSharing
  measured : List ChannelLoad
  heard : List ι

namespace Participant

variable {ι : Type}

/-- The router asks for a DCC field whenever it has to fill one in. -/
def surroundings (participant : Participant ι) (env : Environment) : Environment :=
  { env with dccField := fun _ => participant.sharing.generateDccField }

def move (platform : Platform) (participant : Participant ι) (env : Environment)
    (action : Station.Action) : Option (Participant ι) :=
  (Station.step platform participant.station (participant.surroundings env, action)).map fun station =>
    { participant with station := station }

/-- A measurement. -/
def measure (participant : Participant ι) (cbr : ChannelLoad) : Participant ι :=
  { participant with
    sharing := participant.sharing.updateLocalCbr cbr
    measured := cbr :: participant.measured }

/-- An update cycle, when it is due: the visited entries are those of the table in any order. -/
def trigger (participant : Participant ι) (visited : List (MacAddress × LocationTableEntry)) :
    Option (Participant ι) :=
  let router := participant.station.router
  if participant.station.failed = false ∧ participant.sharing.due ≤ router.now ∧
      visited.Perm (router.locationTable.entries router.now) then
    some { participant with sharing := participant.sharing.trigger router.now visited }
  else none

end Participant

abbrev Neighbourhood (ι : Type) := ι → Participant ι

namespace Neighbourhood

variable {ι : Type}

inductive Action (ι : Type)
  | act (station : ι) (action : Station.Action)
  | deliver (sender : ι) (index : ℕ) (receiver : ι) (medium : Medium) (ll : LinkLayer)
  | updateLocalCbr (station : ι) (cbr : ChannelLoad)
  | trigger (station : ι) (visited : List (MacAddress × LocationTableEntry))

variable (platforms : ι → Platform)

def step [DecidableEq ι] (net : Neighbourhood ι) (input : Environment × Action ι) : Option (Neighbourhood ι) :=
  match input.2 with
  | .act station action =>
    ((net station).move (platforms station) input.1 action).map (Function.update net station)
  | .deliver sender index receiver medium ll =>
    match (net sender).station.router.trace[index]? with
    | some (.passedDown _ _ pdu payload) =>
      let hearing := { net receiver with heard := sender :: (net receiver).heard }
      (hearing.move (platforms receiver) input.1 (.indicate (medium.packet pdu payload) ll)).map
        (Function.update net receiver)
    | _ => none
  | .updateLocalCbr station cbr => some (Function.update net station ((net station).measure cbr))
  | .trigger station visited => ((net station).trigger visited).map (Function.update net station)

def Initial (net : Neighbourhood ι) : Prop :=
  ∀ station, Station.Initial (platforms station) (net station).station ∧
    (∃ target delay, (net station).sharing =
      .create (net station).station.router.now target delay) ∧
    (net station).measured = [] ∧ (net station).heard = []

/-- Nothing arrives from outside of the neighbourhood. -/
def Closed (_ : Neighbourhood ι) : Environment × Action ι → Prop
  | (_, .act _ (.indicate _ _)) => False
  | _ => True

instance closed_decidable (net : Neighbourhood ι) : (input : Environment × Action ι) →
    Decidable (Closed net input)
  | (_, .act _ (.indicate _ _)) => .isFalse id
  | (_, .act _ (.request _ _)) => .isTrue trivial
  | (_, .act _ (.updatePosition _)) => .isTrue trivial
  | (_, .act _ (.setAddress _)) => .isTrue trivial
  | (_, .act _ (.setTransportHandler _ _)) => .isTrue trivial
  | (_, .act _ (.advance _)) => .isTrue trivial
  | (_, .act _ .fire) => .isTrue trivial
  | (_, .deliver _ _ _ _ _) => .isTrue trivial
  | (_, .updateLocalCbr _ _) => .isTrue trivial
  | (_, .trigger _ _) => .isTrue trivial

/-! ### Where loads come from -/

section Loads

variable (net : Neighbourhood ι) (station : ι)

/-- No load, or one that the station has measured. -/
def own : Set ChannelLoad := {load | load = 0 ∨ load ∈ (net station).measured}

/-- No load, or one of a station that has been heard, rounded. -/
def oneHop : Set ChannelLoad :=
  {load | load = 0 ∨ ∃ sender ∈ (net station).heard, ∃ source ∈ (net sender).measured,
    load = rounded source}

/-- No load, or one of a station that has been heard by one that has been heard, rounded. -/
def twoHop : Set ChannelLoad :=
  {load | load = 0 ∨ ∃ relay ∈ (net station).heard, ∃ sender ∈ (net relay).heard,
    ∃ source ∈ (net sender).measured, load = rounded source}

/-- **The fields that a station may write.** -/
def SentBy (field : DccMcoField) : Prop :=
  (∃ load ∈ net.own station, field.cbrL0Hop = quantize load) ∧
    ∃ load ∈ net.oneHop station, field.cbrL1Hop = quantize load

/-- **The fields that it may hear.** -/
def HeardBy (field : DccMcoField) : Prop := ∃ sender ∈ (net station).heard, net.SentBy sender field

end Loads

/-- **What holds of a participant in every run**, by the records of the neighbourhood. -/
structure Honest (net : Neighbourhood ι) (station : ι) (participant : Participant ι) : Prop where
  shares : Shares (net.SentBy station) (net.HeardBy station) participant.station.router
  cbrLocal : participant.sharing.cbrLocal ∈ net.own station
  latest : participant.sharing.aggregator.localCbr.1 ∈ net.own station
  previous : participant.sharing.aggregator.localCbr.2 ∈ net.own station
  oneHop : participant.sharing.aggregator.oneHopCbr ∈ net.oneHop station
  twoHop : participant.sharing.aggregator.twoHopCbr ∈ net.twoHop station
  globalCbr : participant.sharing.aggregator.globalCbr =
    max (max participant.sharing.aggregator.localCbr.2 participant.sharing.aggregator.oneHopCbr)
      participant.sharing.aggregator.twoHopCbr

section Records

variable {before after : Neighbourhood ι}

/-- What is recorded stays recorded. -/
structure Grows (before after : Neighbourhood ι) : Prop where
  measured : ∀ station, (before station).measured ⊆ (after station).measured
  heard : ∀ station, (before station).heard ⊆ (after station).heard

theorem Grows.own (grows : Grows before after) (station : ι) : before.own station ⊆ after.own station :=
  fun _ known => known.imp_right (grows.measured station ·)

theorem Grows.oneHop (grows : Grows before after) (station : ι) :
    before.oneHop station ⊆ after.oneHop station := by
  rintro load (rfl | ⟨sender, heard, source, measured, rfl⟩)
  · exact .inl rfl
  · exact .inr ⟨sender, grows.heard _ heard, source, grows.measured _ measured, rfl⟩

theorem Grows.twoHop (grows : Grows before after) (station : ι) :
    before.twoHop station ⊆ after.twoHop station := by
  rintro load (rfl | ⟨relay, near, sender, far, source, measured, rfl⟩)
  · exact .inl rfl
  · exact .inr ⟨relay, grows.heard _ near, sender, grows.heard _ far, source, grows.measured _ measured, rfl⟩

theorem Grows.sentBy (grows : Grows before after) {station : ι} {field : DccMcoField}
    (sent : before.SentBy station field) : after.SentBy station field := by
  obtain ⟨⟨first, own, l0⟩, ⟨second, near, l1⟩⟩ := sent
  exact ⟨⟨first, grows.own station own, l0⟩, ⟨second, grows.oneHop station near, l1⟩⟩

theorem Grows.heardBy (grows : Grows before after) {station : ι} {field : DccMcoField}
    (heard : before.HeardBy station field) : after.HeardBy station field := by
  obtain ⟨sender, near, sent⟩ := heard
  exact ⟨sender, grows.heard _ near, grows.sentBy sent⟩

/-- A participant's own records decide. -/
theorem grows_update [DecidableEq ι] {station : ι} {participant : Participant ι}
    (measured : (before station).measured ⊆ participant.measured)
    (heard : (before station).heard ⊆ participant.heard) :
    Grows before (Function.update before station participant) := by
  refine ⟨fun other => ?_, fun other => ?_⟩
  all_goals
    by_cases same : other = station
    · subst same
      rw [Function.update_self]
      assumption
    · rw [Function.update_of_ne same]
      exact List.Subset.refl _

theorem Honest.grow {station : ι} {participant : Participant ι} (honest : Honest before station participant)
    (grows : Grows before after) : Honest after station participant where
  shares := honest.shares.mono (fun _ => grows.sentBy) fun _ => grows.heardBy
  cbrLocal := grows.own station honest.cbrLocal
  latest := grows.own station honest.latest
  previous := grows.own station honest.previous
  oneHop := grows.oneHop station honest.oneHop
  twoHop := grows.twoHop station honest.twoHop
  globalCbr := honest.globalCbr

theorem Honest.listen {station : ι} {participant : Participant ι} (honest : Honest before station participant)
    (heard : List ι) : Honest before station { participant with heard := heard } :=
  ⟨honest.shares, honest.cbrLocal, honest.latest, honest.previous, honest.oneHop, honest.twoHop,
    honest.globalCbr⟩

/-- **A participant changes**, and its records grow. -/
theorem honest_update [DecidableEq ι] {station : ι} {participant : Participant ι}
    (honest : ∀ other, Honest before other (before other))
    (measured : (before station).measured ⊆ participant.measured)
    (heard : (before station).heard ⊆ participant.heard)
    (changed : Honest (Function.update before station participant) station participant) (other : ι) :
    Honest (Function.update before station participant) other
      (Function.update before station participant other) := by
  have grows : Grows before (Function.update before station participant) :=
    grows_update measured heard
  by_cases same : other = station
  · subst same
    rw [Function.update_self]
    exact changed
  · have unchanged : Function.update before station participant other = before other :=
      Function.update_of_ne same _ _
    rw [unchanged]
    exact (honest other).grow grows

end Records

/-! ### Steps -/

section Steps

variable {platform : Platform} {net : Neighbourhood ι} {station : ι} {participant : Participant ι}

/-- **A router's step**, whose DCC fields are those of the moment. -/
theorem Honest.move (honest : Honest net station participant) (unsecured : platform.mib.itsGnSecurity = false)
    {env : Environment} {action : Station.Action} {moved : Participant ι}
    (hears : ∀ packet ll, action = .indicate packet ll → ∃ (medium : Medium) (pdu : VariantPdu)
      (payload : ChunkPacket), packet = medium.packet pdu payload ∧ Plain (net.HeardBy station) pdu)
    (taken : participant.move platform env action = some moved) :
    Honest net station moved ∧ participant.measured ⊆ moved.measured ∧ participant.heard ⊆ moved.heard := by
  obtain ⟨next, stepped, rfl⟩ := Option.map_eq_some_iff.mp taken
  have writes : ∀ moment,
      net.SentBy station (getDccMco ((participant.surroundings env).dccField moment)) :=
    fun _ => ⟨⟨_, honest.latest, rfl⟩, ⟨_, honest.oneHop, rfl⟩⟩
  exact ⟨{ honest with shares := shares_step unsecured honest.shares writes hears stepped },
    List.Subset.refl _, List.Subset.refl _⟩

/-- **What an entry of the table reports** of a neighbour, and of its neighbours. -/
theorem Honest.reported (honest : Honest net station participant) {now : ℤ}
    {entry : MacAddress × LocationTableEntry}
    (member : entry ∈ participant.station.router.locationTable.entries now) {loctex : LocTexG5}
    (stored : entry.2.extensions.locTexG5 = some loctex) :
    loctex.dccMco.localCbr ∈ net.oneHop station ∧ loctex.dccMco.neighbourCbr ∈ net.twoHop station := by
  obtain ⟨sender, heard, ⟨own, measured, l0⟩, ⟨near, told, l1⟩⟩ :=
    SoftStateMap.Stores.entries honest.shares.beside member loctex stored
  have first : loctex.dccMco.localCbr = rounded own := congrArg loadOf l0
  have second : loctex.dccMco.neighbourCbr = rounded near := congrArg loadOf l1
  constructor
  · rw [first]
    rcases measured with rfl | measured
    · exact .inl rounded_zero
    · exact .inr ⟨sender, heard, own, measured, rfl⟩
  · rw [second]
    rcases told with rfl | ⟨source, far, load, measured, rfl⟩
    · exact .inl rounded_zero
    · exact .inr ⟨sender, heard, source, far, load, measured, congrArg loadOf (quantize_rounded load)⟩

/-- **An update cycle.** -/
theorem Honest.trigger (honest : Honest net station participant) {moved : Participant ι}
    {visited : List (MacAddress × LocationTableEntry)} (taken : participant.trigger visited = some moved) :
    Honest net station moved ∧ participant.measured ⊆ moved.measured ∧ participant.heard ⊆ moved.heard := by
  unfold Participant.trigger at taken
  dsimp only at taken
  split_ifs at taken with enabled
  cases taken
  have listed : ∀ entry ∈ visited, entry ∈
      participant.station.router.locationTable.entries participant.station.router.now :=
    fun entry member => enabled.2.2.subset member
  refine ⟨⟨honest.shares, honest.cbrLocal, honest.cbrLocal, honest.latest, ?_, ?_, rfl⟩,
    List.Subset.refl _, List.Subset.refl _⟩
  · rcases CbrAggregator.aggregate_oneHop with nothing | ⟨entry, member, loctex, stored, -, result⟩
    · exact .inl nothing
    · have reported := (honest.reported (listed entry member) stored).1
      rw [← result] at reported
      exact reported
  · rcases CbrAggregator.aggregate_twoHop with nothing | ⟨entry, member, loctex, stored, -, result⟩
    · exact .inl nothing
    · have reported := (honest.reported (listed entry member) stored).2
      rw [← result] at reported
      exact reported

/-- **A measurement.** -/
theorem Honest.measure (honest : Honest net station participant) {cbr : ChannelLoad}
    (recorded : cbr ∈ (net station).measured) : Honest net station (participant.measure cbr) :=
  { honest with cbrLocal := .inr recorded }

end Steps

/-! ### Runs -/

section Runs

variable {platforms} {net : Neighbourhood ι}

theorem honest_initial (initial : Initial platforms net) (station : ι) : Honest net station (net station) := by
  obtain ⟨⟨now, firstBeacon, constructed⟩, ⟨target, delay, sharing⟩, -, -⟩ := initial station
  refine ⟨?_, ?_, ?_, ?_, ?_, ?_, ?_⟩
  · rw [constructed]
    exact shares_create now firstBeacon
  all_goals rw [sharing]
  · exact .inl rfl
  · exact .inl rfl
  · exact .inl rfl
  · exact .inl rfl
  · exact .inl rfl
  · rfl

theorem honest_step [DecidableEq ι] {after : Neighbourhood ι} {input : Environment × Action ι}
    (unsecured : ∀ station, (platforms station).mib.itsGnSecurity = false)
    (honest : ∀ station, Honest net station (net station)) (closed : Closed net input)
    (taken : step platforms net input = some after) (other : ι) : Honest after other (after other) := by
  obtain ⟨env, action⟩ := input
  cases action with
  | act station action =>
    obtain ⟨moved, stepped, rfl⟩ := Option.map_eq_some_iff.mp taken
    have hears : ∀ packet ll, action = .indicate packet ll → ∃ (medium : Medium) (pdu : VariantPdu)
        (payload : ChunkPacket), packet = medium.packet pdu payload ∧ Plain (net.HeardBy station) pdu := by
      rintro packet ll rfl
      exact closed.elim
    obtain ⟨changed, measured, heard⟩ := (honest station).move (unsecured station) hears stepped
    exact honest_update honest measured heard (changed.grow (grows_update measured heard)) other
  | deliver sender index receiver medium ll =>
    unfold step at taken
    dsimp only at taken
    split at taken
    · next origin request pdu payload handed =>
      obtain ⟨moved, stepped, rfl⟩ := Option.map_eq_some_iff.mp taken
      let hearing : Participant ι := { net receiver with heard := sender :: (net receiver).heard }
      let told : Neighbourhood ι := Function.update net receiver hearing
      have self : told receiver = hearing := Function.update_self ..
      have measured : (net receiver).measured ⊆ hearing.measured := List.Subset.refl _
      have heard : (net receiver).heard ⊆ hearing.heard := List.subset_cons_self _ _
      have grows : Grows net told := grows_update measured heard
      have listening : Honest told receiver hearing := ((honest receiver).grow grows).listen _
      have toldHonest : ∀ other, Honest told other (told other) :=
        honest_update honest measured heard listening
      have plain : Plain (told.HeardBy receiver) pdu := by
        have told := (honest sender).shares.told _ (List.mem_of_getElem? handed) _ _ _ _ rfl
        refine told.mono fun field sent => ?_
        refine ⟨sender, ?_, grows.sentBy sent⟩
        rw [self]
        exact List.mem_cons_self
      obtain ⟨changed, more, further⟩ := listening.move (unsecured receiver) (fun packet ll same => by
        cases same
        exact ⟨medium, pdu, payload, rfl, plain⟩) stepped
      rw [← self] at more further
      have next := honest_update toldHonest more further (changed.grow (grows_update more further)) other
      rw [show Function.update told receiver moved = Function.update net receiver moved from
        Function.update_idem ..] at next
      exact next
    · cases taken
  | updateLocalCbr station cbr =>
    cases taken
    have measured : (net station).measured ⊆ ((net station).measure cbr).measured :=
      List.subset_cons_self _ _
    have heard : (net station).heard ⊆ ((net station).measure cbr).heard := List.Subset.refl _
    refine honest_update honest measured heard ?_ other
    refine ((honest station).grow (grows_update measured heard)).measure ?_
    rw [Function.update_self]
    exact List.mem_cons_self
  | trigger station visited =>
    obtain ⟨moved, stepped, rfl⟩ := Option.map_eq_some_iff.mp taken
    obtain ⟨changed, measured, heard⟩ := (honest station).trigger stepped
    exact honest_update honest measured heard (changed.grow (grows_update measured heard)) other

/-- **Channel loads travel two hops, and grow on none.** In every run of a closed neighbourhood without
security, the load that a station has of one hop is none, or what one of the stations that it has heard has
measured, rounded down to a byte; that of two hops is none, or what a station has measured that one of them
has heard, rounded down once. The global load is one of these or one of its own measurements, so none
exceeds what has been measured. The fields on the air carry a measurement of their sender and a load that
has travelled one hop. -/
theorem loads_travel_two_hops [DecidableEq ι] (net : Neighbourhood ι)
    (unsecured : ∀ station, (platforms station).mib.itsGnSecurity = false)
    (reached : GuardedReach (Initial platforms) (step platforms) Closed net) (station : ι) :
    let aggregator := (net station).sharing.aggregator
    aggregator.oneHopCbr ∈ net.oneHop station ∧ aggregator.twoHopCbr ∈ net.twoHop station ∧
      aggregator.globalCbr ∈ net.own station ∪ net.oneHop station ∪ net.twoHop station ∧
      (∀ bound, (∀ other, ∀ load ∈ (net other).measured, load ≤ bound) →
        aggregator.globalCbr ≤ bound) ∧
      ∀ origin request pdu payload header,
        .passedDown origin request pdu payload ∈ (net station).station.router.trace →
          pdu.extended = .shb header → net.SentBy station (getDccMco header.dcc) := by
  have honest : ∀ station, Honest net station (net station) := by
    refine GuardedReach.invariant
      (I := fun net : Neighbourhood ι => ∀ station, Honest net station (net station)) ?_ ?_ net reached
    · exact fun first initial => honest_initial initial
    · exact fun before input after _ honest closed taken => honest_step unsecured honest closed taken
  have known := honest station
  have global : (net station).sharing.aggregator.globalCbr ∈
      net.own station ∪ net.oneHop station ∪ net.twoHop station := by
    rw [known.globalCbr]
    rcases max_choice (max (net station).sharing.aggregator.localCbr.2
      (net station).sharing.aggregator.oneHopCbr) (net station).sharing.aggregator.twoHopCbr with
        near | far
    · rw [near]
      rcases max_choice (net station).sharing.aggregator.localCbr.2
        (net station).sharing.aggregator.oneHopCbr with self | other
      · rw [self]
        exact .inl (.inl known.previous)
      · rw [other]
        exact .inl (.inr known.oneHop)
    · rw [far]
      exact .inr known.twoHop
  refine ⟨known.oneHop, known.twoHop, global, fun bound below => ?_, ?_⟩
  · have nothing : (0 : ChannelLoad) ≤ bound := bound.nonneg
    rcases global with (own | near) | far
    · rcases own with zero | measured
      · exact zero.trans_le nothing
      · exact below station _ measured
    · rcases near with zero | ⟨sender, _, source, measured, same⟩
      · exact zero.trans_le nothing
      · exact same.trans_le ((rounded_le source).trans (below sender source measured))
    · rcases far with zero | ⟨_, _, sender, _, source, measured, same⟩
      · exact zero.trans_le nothing
      · exact same.trans_le ((rounded_le source).trans (below sender source measured))
  · intro origin request pdu payload header sent single
    exact (known.shares.told _ sent _ _ _ _ rfl).tells header single

end Runs

/-- A single-hop broadcast without a payload. -/
def hello : Station.Action :=
  .request (.shb ⟨.btpB, .itsG5, 36, .set .oneSecond 1, none, 1, ⟨0⟩⟩) (some .empty)

/-- The entry of a station at the origin of the address space that has just told these loads. -/
def rumour (cbrL0Hop cbrL1Hop : UInt8) : MacAddress × LocationTableEntry :=
  (LongPositionVector.zero.gnAddr.mid,
    { ((LocationTableEntry.create 0).updatePdr 0 0
        Network.relay.mib.itsGnMaxPacketDataRateEmaBeta).setNeighbour true with
      extensions := ⟨none, some ⟨⟨0⟩, ⟨0⟩, ⟨cbrL0Hop, cbrL1Hop, 0⟩⟩⟩ })

/-- Half of the channel is busy at the first station. The second one hears of it, and the third one hears
of it from the second one. -/
theorem loads_travel_two_hops_half : ∃ net : Neighbourhood (Fin 3),
    GuardedReach (Initial fun _ => Network.relay) (step fun _ => Network.relay) Closed net ∧
      ((net 1).sharing.aggregator.oneHopCbr = loadOf 127 ∧
        (net 2).sharing.aggregator.twoHopCbr = loadOf 127) ∧
      (net 2).sharing.aggregator.twoHopCbr ∈ net.twoHop 2 := by
  obtain ⟨net, reached, happened⟩ := run_reach (Initial fun _ => Network.relay)
    (step fun _ => Network.relay) Closed
    (fun net => (net 1).sharing.aggregator.oneHopCbr = loadOf 127 ∧
      (net 2).sharing.aggregator.twoHopCbr = loadOf 127)
    (fun _ => ⟨⟨0, 0, rfl⟩, ⟨0, 0, rfl⟩, rfl, rfl⟩ : Initial _ fun _ : Fin 3 =>
      ⟨⟨.create Network.relay.mib 0 0, [], false⟩, .create 0 0 0, [], []⟩)
    [(insecure, .updateLocalCbr 0 (.ofValue (1 / 2))), (insecure, .trigger 0 []), (insecure, .act 0 hello),
      (insecure, .deliver 0 0 1 (.bytes fun _ => []) ⟨cBroadcastMacAddress, cBroadcastMacAddress⟩),
      (insecure, .trigger 1 [rumour 127 0]), (insecure, .act 1 hello),
      (insecure, .deliver 1 1 2 .simulated ⟨cBroadcastMacAddress, cBroadcastMacAddress⟩),
      (insecure, .trigger 2 [rumour 0 127])] (by decide +kernel)
  exact ⟨net, reached, happened, (loads_travel_two_hops net (fun _ => rfl) reached 2).2.1⟩

end Neighbourhood

end Vanet.Geonet
