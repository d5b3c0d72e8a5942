/-
**What a router tells and hears of channel loads.**

The DCC field of a single-hop broadcast is written when the broadcast is requested, and stays with it in
the buffers until it is sent. The field of a received one goes to the location table, and no other packet
carries one. `Shares` says what the fields that a router has written are like, and those that it has heard.

* `shares_requests`: what is requested or due writes the fields of the moment.
* `keepsShares_indicate`: what arrives of an unsecured PDU is read with the field that was sent.
-/

import Vanet.Geonet.Arrival
import Vanet.Geonet.Stocking

namespace Vanet.Geonet

open Vanet.Common Vanet.Library
open Vanet.Net hiding ByteBuffer
open Act Router

/-! ### What a table stores -/

namespace SoftStateMap

variable {κ ν : Type} [DecidableEq κ] {Q : ν → Prop} {soft : SoftStateMap κ ν} {now : ℤ} {key : κ}
  {create : ℤ → ν}

variable (Q soft) in
/-- Everything that is stored has the property, whether it has expired or not. -/
def Stores : Prop := ∀ key data, soft.getDataPtr key = some data → Q data.value

theorem stores_empty (lifetime : ℤ) : (empty lifetime : SoftStateMap κ ν).Stores Q := nofun

theorem Stores.insert (stores : soft.Stores Q) {data : ValueWithHandle ν} (holds : Q data.value)
    {heap : HandleHeap (ExpiryWithKey κ)} :
    Stores Q { soft with heap := heap, map := soft.map.insert key data } := by
  intro other found lookup
  by_cases same : other = key
  · subst same
    have inserted : (soft.map.insert other data).lookup other = some found := lookup
    rw [AList.lookup_insert] at inserted
    cases inserted
    exact holds
  · exact stores other found ((AList.lookup_insert_ne same).symm.trans lookup)

theorem Stores.refreshHandle (stores : soft.Stores Q) (handle : ℕ) :
    (soft.refreshHandle now handle).Stores Q := by
  unfold SoftStateMap.refreshHandle
  cases soft.heap.get handle with
  | none => exact stores
  | some expiry => exact stores

theorem Stores.getData (stores : soft.Stores Q) (created : Q (create now)) :
    (soft.getData create now key).2.Stores Q := by
  unfold SoftStateMap.getData
  cases soft.getDataPtr key with
  | none => exact stores.insert created
  | some data =>
    dsimp only
    split_ifs
    · exact stores.refreshHandle _
    · exact stores

theorem Stores.refresh (stores : soft.Stores Q) (created : Q (create now)) :
    (soft.refresh create now key).2.Stores Q := by
  unfold SoftStateMap.refresh
  cases soft.getDataPtr key with
  | none => exact stores.getData created
  | some data => exact stores.refreshHandle _

theorem Stores.modify (stores : soft.Stores Q) {change : ν → ν} (keeps : ∀ value, Q value → Q (change value)) :
    (soft.modify key change).Stores Q := by
  unfold SoftStateMap.modify
  cases found : soft.getDataPtr key with
  | none => exact stores
  | some data =>
    have inserted := @Stores.insert _ _ _ Q soft key stores { data with value := change data.value }
      (keeps _ (stores key data found)) soft.heap
    exact inserted

theorem Stores.dropExpiredFrom (rounds : ℕ) : ∀ {soft : SoftStateMap κ ν}, soft.Stores Q →
    (SoftStateMap.dropExpiredFrom now rounds soft).Stores Q := by
  induction rounds with
  | zero => exact fun stores => stores
  | succ rounds ih =>
    intro soft stores
    unfold SoftStateMap.dropExpiredFrom
    cases soft.heap.top with
    | none => exact stores
    | some top =>
      dsimp only
      split_ifs
      · refine ih fun other found lookup => ?_
        by_cases same : other = top.key
        · subst same
          have erased : (soft.map.erase top.key).lookup top.key = some found := lookup
          rw [AList.lookup_erase] at erased
          cases erased
        · exact stores other found ((AList.lookup_erase_ne same).symm.trans lookup)
      · exact stores

theorem Stores.entries (stores : soft.Stores Q) {entry : κ × ν} (member : entry ∈ soft.entries now) :
    Q entry.2 := by
  obtain ⟨stored, kept, rfl⟩ := List.mem_map.mp member
  exact stores stored.1 stored.2 (AList.mem_lookup_iff.mpr (List.mem_filter.mp kept).1)

end SoftStateMap

/-- An update with a position vector, whatever it does to the entry's other fields. -/
theorem LocationTable.stores_update {Q : LocationTableEntry → Prop} {table : LocationTable} {now : ℤ}
    {lpv : LongPositionVector} (stores : table.Stores Q) (created : Q (.create now))
    (updated : ∀ entry : LocationTableEntry, Q entry → Q (entry.updatePositionVector lpv).2) :
    (LocationTable.update table now lpv).Stores Q := by
  have refreshes : ((table.refresh LocationTableEntry.create now lpv.gnAddr.mid).2.modify lpv.gnAddr.mid
      fun entry => (entry.updatePositionVector lpv).2).Stores Q :=
    (stores.refresh created).modify updated
  unfold LocationTable.update
  dsimp only
  split
  · split_ifs
    · exact (stores.modify updated).refresh created
    · exact stores.modify updated
    · exact refreshes
  · exact refreshes

/-! ### Plain packets -/

/-- **An unsecured PDU** that tells its header's type, and of whose DCC field, if there is one, something is
known. -/
structure Plain (S : DccMcoField → Prop) (pdu : VariantPdu) : Prop where
  unsecured : pdu.secured = none
  flagged : pdu.basic.nextHeader = .common
  typed : pdu.extended.HasType pdu.common.headerType
  tells : ∀ header, pdu.extended = .shb header → S (getDccMco header.dcc)

section Packets

variable {S T : DccMcoField → Prop}

theorem Plain.mono {pdu : VariantPdu} (plain : Plain S pdu) (weaken : ∀ field, S field → T field) :
    Plain T pdu :=
  ⟨plain.unsecured, plain.flagged, plain.typed, fun header single => weaken _ (plain.tells header single)⟩

/-- An own packet at any point of time. -/
theorem Plain.positionedShb {pdu : ShbPdu} (plain : Plain S pdu.toVariant) (lpv : LongPositionVector) :
    Plain S { pdu with extended := { pdu.extended with sourcePosition := lpv } }.toVariant where
  unsecured := plain.unsecured
  flagged := plain.flagged
  typed := plain.typed
  tells := by
    rintro header same
    cases same
    exact plain.tells pdu.extended rfl

theorem Plain.positionedGbc {pdu : GbcPdu} (plain : Plain S pdu.toVariant) (lpv : LongPositionVector) :
    Plain S { pdu with extended := { pdu.extended with sourcePosition := lpv } }.toVariant :=
  ⟨plain.unsecured, plain.flagged, plain.typed, fun _ impossible => nomatch impossible⟩

/-- What is forwarded of a received packet. -/
theorem Plain.forwardingDuplicate {pdu : GbcPdu} (plain : Plain S pdu.toVariant) (reception : ℕ)
    (packet : UpPacket) (ll : LinkLayer) :
    Plain T (Router.forwardingDuplicate reception pdu packet ll).pdu.toVariant :=
  ⟨plain.unsecured, plain.flagged, plain.typed, fun _ impossible => nomatch impossible⟩

end Packets

/-- **The headers of what arrives.** -/
theorem Medium.opens (medium : Medium) {S : DccMcoField → Prop} {pdu : VariantPdu} (plain : Plain S pdu)
    (payload : ChunkPacket) : ∃ start basic common extended rest,
      BasicContext.ofPacket (medium.packet pdu payload) = .ok start ∧
      start.parseBasic = .ok (some pdu.basic, basic) ∧ basic.secured = none ∧
      IndicationContext.parseCommon (.basic basic) = .ok (some pdu.common, common) ∧
      common.parseExtended pdu.common.headerType = .ok (some extended, rest) ∧
      extended.HasType pdu.common.headerType ∧
      ∀ header, extended = .shb header → S (getDccMco header.dcc) := by
  cases medium with
  | simulated =>
    exact ⟨_, _, _, _, _, rfl, rfl, plain.unsecured, rfl, rfl, plain.typed, plain.tells⟩
  | bytes lower =>
    have network : (CohesivePacket.mk fun layer => if layer = .network then
        pdu.serialize ++ (osiLayerRange .transport .application).flatMap payload.layer
      else lower layer).layer .network =
        pdu.serialize ++ (osiLayerRange .transport .application).flatMap payload.layer := rfl
    obtain ⟨first, second, third, opens, follows, ends, -⟩ :=
      parse_unsecured plain.unsecured plain.typed network
    refine ⟨_, _, _, _, _, rfl, opens, rfl, follows, ends, ?_⟩
    have typed := plain.typed
    have tells := plain.tells
    revert typed tells
    cases pdu.extended with
    | shb sent =>
      intro typed tells
      refine ⟨typed, ?_⟩
      rintro header same
      cases same
      rw [sent.getDccMco_readBack]
      exact tells sent rfl
    | geoBroadcast gbc => exact fun typed _ => ⟨typed, fun _ impossible => nomatch impossible⟩
    | beacon beacon => exact fun typed _ => ⟨typed, fun _ impossible => nomatch impossible⟩

/-! ### Routers -/

/-- What is known of the extension of an entry. -/
def Told (L : DccMcoField → Prop) (entry : LocationTableEntry) : Prop :=
  ∀ loctex, entry.extensions.locTexG5 = some loctex → L loctex.dccMco

/-- Whatever is handed over is a plain packet. -/
def Event.Tells (S : DccMcoField → Prop) (event : Event) : Prop :=
  ∀ origin request pdu payload, event = .passedDown origin request pdu payload → Plain S pdu

/-- What is known of the fields that a router writes and hears. -/
def fieldStock (S L : DccMcoField → Prop) : Stock where
  waits pdu _ _ := Plain S pdu
  told := Event.Tells S
  beside table _ := table.Stores (Told L)

/-- **A router and the DCC fields** that it has written and that it has heard. -/
abbrev Shares (S L : DccMcoField → Prop) (router : Router) : Prop := Stocked (fieldStock S L) router

section Walk

variable {S L : DccMcoField → Prop} {platform : Platform} {env : Environment} {α : Type}
  {before after router : Router}

theorem Event.Tells.mono {S' : DccMcoField → Prop} {event : Event} (known : event.Tells S)
    (tells : ∀ field, S field → S' field) : event.Tells S' :=
  fun origin request pdu payload same => (known origin request pdu payload same).mono tells

theorem Shares.mono {S' L' : DccMcoField → Prop} (shares : Shares S L router)
    (tells : ∀ field, S field → S' field) (hears : ∀ field, L field → L' field) : Shares S' L' router := by
  have waits : ∀ data, (fieldStock S L).WaitsData data → (fieldStock S' L').WaitsData data := by
    intro data known
    cases data with
    | shb packet => exact Plain.mono known tells
    | gbc packet => exact Plain.mono known tells
  exact {
    broadcast := fun node member => waits _ (shares.broadcast node member)
    unicast := fun node member => waits _ (shares.unicast node member)
    contending := fun node member => Plain.mono (shares.contending node member) tells
    told := fun event member => Event.Tells.mono (shares.told event member) tells
    beside := fun key data found loctex stored => hears _ (shares.beside key data found loctex stored) }

/-- The action keeps what is known of the fields. -/
abbrev KeepsShares (S L : DccMcoField → Prop) {α : Type} (act : Act α) : Prop := Action.Keeps (Shares S L) act

theorem Event.tells_of_silent {event : Event}
    (silent : ∀ origin request pdu payload, event ≠ .passedDown origin request pdu payload) :
    event.Tells S :=
  fun origin request pdu payload same => absurd same (silent origin request pdu payload)

theorem keepsShares_emit {event : Event}
    (silent : ∀ origin request pdu payload, event ≠ .passedDown origin request pdu payload) :
    KeepsShares S L (Act.emit event) :=
  .update fun _ shares => shares.emit (Event.tells_of_silent silent)

theorem keepsShares_passDown {origin : Origin} {request : Dcc.DataRequest} {pdu : VariantPdu}
    {payload : ChunkPacket} (plain : Plain S pdu) : KeepsShares S L (passDown origin request pdu payload) := by
  have emits : KeepsShares S L (Act.emit (.passedDown origin request pdu payload)) :=
    .update fun _ shares => shares.emit fun _ _ _ _ same => by
      cases same
      exact plain
  unfold passDown
  cases pdu.secured with
  | some message =>
    exact .ite (fun _ => .fail fun _ shares => shares) fun _ =>
      .ite (fun _ => .fail fun _ shares => shares) fun _ => emits
  | none => exact .ite (fun _ => .fail fun _ shares => shares) fun _ => emits

theorem keepsShares_passDownTo {origin : Origin} {addr : MacAddress} {pdu : VariantPdu}
    {payload : ChunkPacket} (plain : Plain S pdu) : KeepsShares S L (passDownTo origin addr pdu payload) :=
  .bind (holding_read _) fun _ => keepsShares_passDown plain

/-! ### Transmitting -/

section Unsecured

variable (unsecured : platform.mib.itsGnSecurity = false)

include unsecured

/-- Nothing is secured. -/
theorem ensures_secure_unsecured {H : Type} [ExtendedHeader H] {I E : Router → Prop} {itsAid : ItsAid}
    {pdu : ExtendedPdu H} {packet : ChunkPacket} :
    Action.Ensures I (secure platform env itsAid pdu packet)
      (fun sent router => I router ∧ sent = (pdu, packet)) E := by
  unfold secure
  rw [unsecured]
  exact .pure fun _ holds => ⟨holds, rfl⟩

theorem keepsShares_processShb {packet : PendingPacketShb} (plain : Plain S packet.pdu.toVariant) :
    KeepsShares S L (processShb platform env packet) := by
  refine .bind (holding_read _) fun lpv => .bind_given (ensures_secure_unsecured unsecured) ?_
  rintro _ rfl
  exact .bind (holding_executeMediaProcedures _) fun _ =>
    .bind (keepsShares_passDownTo (plain.positionedShb lpv)) fun _ => holding_resetBeaconTimer

theorem keepsShares_processForwarding {packet : PendingPacketForwarding}
    (plain : Plain S packet.pdu.toVariant) (mac : MacAddress) :
    KeepsShares S L (processForwarding platform env packet mac) := by
  unfold processForwarding
  cases packet.action with
  | forward reception =>
    exact .bind (holding_executeMediaProcedures _) fun _ => .bind (holding_read _) fun _ =>
      keepsShares_passDown plain
  | source ctrl =>
    refine .bind (holding_read _) fun lpv => .bind_given (ensures_secure_unsecured unsecured) ?_
    rintro _ rfl
    exact .bind (holding_executeMediaProcedures _) fun _ =>
      keepsShares_passDownTo (plain.positionedGbc lpv)
  | noop => exact holding_pure _

theorem shares_transmits : (fieldStock S L).Transmits platform env (Shares S L) where
  ages _ _ _ _ plain := ⟨plain.unsecured, plain.flagged, plain.typed, plain.tells⟩
  silent _ _ _ plain := plain
  duplicate _ _ _ plain := plain
  tells _ silent := Event.tells_of_silent silent
  locates _ _ _ _ := Receives.destinationArea _ _
  forwards _ plain mac := keepsShares_processForwarding unsecured plain mac
  broadcasts _ plain := keepsShares_processShb unsecured plain

/-! ### Requests and callbacks -/

omit unsecured in
theorem keepsShares_commonHeaderOf (request : DataRequest) :
    KeepsShares S L (commonHeaderOf platform request) := by
  unfold commonHeaderOf
  cases CommonHeader.ofRequest request platform.mib with
  | none => exact .fail fun _ shares => shares
  | some common => exact holding_pure _

/-- A request's header says that nothing is secured. -/
theorem nextHeader_ofRequest (request : DataRequest) :
    (BasicHeader.ofRequest request platform.mib).nextHeader = .common := by
  unfold BasicHeader.ofRequest
  dsimp only
  rw [unsecured]
  exact if_neg (by decide)

theorem keepsShares_onBeaconTimerExpired : KeepsShares S L (onBeaconTimerExpired platform env) := by
  refine .ite (fun _ => holding_pure _) fun _ => ?_
  have creates : Action.Ensures (Shares S L) (createBeaconPdu platform)
      (fun pdu router => Shares S L router ∧ pdu.secured = none ∧ pdu.common.headerType = .beacon)
      (Shares S L) :=
    .bind (holding_read _) fun _ => .pure fun _ shares => ⟨shares, rfl, rfl⟩
  refine .bind_given creates fun pdu created => .bind_given (ensures_secure_unsecured unsecured) ?_
  rintro _ rfl
  refine .bind (holding_executeMediaProcedures _) fun _ => .bind (keepsShares_passDownTo
    ⟨created.1, ?_, created.2, fun _ impossible => nomatch impossible⟩) fun _ => holding_resetBeaconTimer
  show (if platform.mib.itsGnSecurity then NextHeaderBasic.secured else .common) = .common
  rw [unsecured]
  exact if_neg (by decide)

/-- **The field of the moment** is written. -/
theorem shares_requests (writes : ∀ moment, S (getDccMco (env.dccField moment))) :
    (fieldStock S L).Requests platform env (Shares S L) fun _ _ => True where
  sends := shares_transmits unsecured
  repeats _ _ _ _ shares _ _ := shares.beside
  createsShb request payload _ := by
    refine .bind (keepsShares_commonHeaderOf request) fun common => .bind (holding_read _) fun router =>
      .pure fun _ shares => ⟨shares, ⟨rfl, nextHeader_ofRequest unsecured request, rfl, ?_⟩⟩
    rintro header same
    cases same
    exact writes _
  createsGbc request destination payload _ := by
    refine .bind (keepsShares_commonHeaderOf request) fun common => .bind (holding_read _) fun router => ?_
    have counts : KeepsShares S L (Act.modify fun router =>
        { router with localSequenceNumber := router.localSequenceNumber + 1 }) :=
      .update fun _ shares => shares.aside rfl rfl rfl rfl shares.beside
    refine .bind counts fun _ => .pure fun _ shares => ⟨shares, ⟨rfl,
      nextHeader_ofRequest unsecured request, ?_, fun _ impossible => nomatch impossible⟩⟩
    exact gbcHeaderType_typed destination
  asserts _ _ _ _ _ _ shares := shares
  again _ _ _ _ _ _ _ := trivial
  forgets _ _ shares := shares.beside
  beacons := keepsShares_onBeaconTimerExpired unsecured

/-! ### Indications -/

omit unsecured in
theorem told_create (now : ℤ) : Told L (.create now) := fun _ impossible => nomatch impossible

omit unsecured in
/-- Learning of a source that does not concern its extension. -/
theorem keepsShares_updateSource {lpv : LongPositionVector} {change : LocationTableEntry → LocationTableEntry}
    (told : ∀ entry, Told L entry → Told L (change entry)) : KeepsShares S L (updateSource lpv change) := by
  refine .update fun router shares => shares.aside rfl rfl rfl rfl ?_
  have updated : ∀ entry : LocationTableEntry, Told L entry → Told L (entry.updatePositionVector lpv).2 := by
    intro entry told
    unfold LocationTableEntry.updatePositionVector LocationTableEntry.setPositionVector
    split <;> split_ifs <;> exact told
  exact (LocationTable.stores_update shares.beside (told_create _) updated).modify told

omit unsecured in
theorem told_withPdr {entry : LocationTableEntry} (told : Told L entry) (now : ℤ) (packet : UpPacket) :
    Told L (withPdr platform now packet entry) := by
  unfold withPdr LocationTableEntry.updatePdr
  split
  · exact told
  · dsimp only
    split_ifs <;> exact told

omit unsecured in
theorem told_setNeighbourFor {entry : LocationTableEntry} (told : Told L entry) (now expiry : ℤ) (flag : Bool) :
    Told L (entry.setNeighbourFor now flag expiry) := by
  unfold LocationTableEntry.setNeighbourFor
  split_ifs <;> exact told

omit unsecured in
theorem keepsShares_detectDuplicateAddress (source : Address) (sender : MacAddress) :
    KeepsShares S L (detectDuplicateAddress platform env source sender) := by
  refine .update fun router shares => ?_
  dsimp only
  split_ifs
  · exact shares.aside rfl rfl rfl rfl shares.beside
  · exact shares

/-- **What is known of a received packet's headers** is enough. -/
theorem shares_receives {reception : ℕ} :
    Receives platform env reception (Shares S L) (Plain L) where
  tells _ silent _ := keepsShares_emit silent
  detectsAddress _ _ := keepsShares_detectDuplicateAddress _ _
  detectsPacket _ _ := by
    refine .update fun router shares => shares.aside rfl rfl rfl rfl ?_
    exact (SoftStateMap.Stores.getData shares.beside (told_create _)).modify fun _ told => told
  hearsGbc _ packet known := by
    refine .bind (holding_read _) fun now => keepsShares_updateSource fun entry told => ?_
    split_ifs
    · exact told_withPdr told now packet
    · exact told_withPdr told now packet
  hearsShb pdu header packet ll plain single := by
    refine .bind (keepsShares_detectDuplicateAddress _ _) fun _ => .bind (holding_read _) fun now =>
      .bind (keepsShares_updateSource fun entry told => ?_) fun _ => holding_pure _
    have others := told_setNeighbourFor (@told_withPdr _ platform _ told now packet) now
      platform.mib.vanetzaNeighbourFlagExpiry true
    unfold withLocTex
    split_ifs
    · rintro loctex same
      cases same
      exact plain.tells header single
    · exact others
  hearsBeacon beacon packet ll :=
    .bind (keepsShares_detectDuplicateAddress _ _) fun _ => .bind (holding_read _) fun now =>
      .bind (keepsShares_updateSource fun entry told =>
        told_setNeighbourFor (told_withPdr told now packet) now _ true) fun _ => holding_pure _
  remembers _ _ shares := shares.aside rfl rfl rfl rfl shares.beside
  flushes := (shares_transmits unsecured).flushUnicast
  buffers _ packet ll plain _ := Stock.Transmits.pushBroadcast (plain.forwardingDuplicate _ packet ll)
  processes _ packet ll plain _ :=
    (shares_transmits unsecured).processGbc (plain.forwardingDuplicate _ packet ll)

/-- **What arrives of an unsecured PDU.** -/
theorem keepsShares_indicate {reception : ℕ} {pdu : VariantPdu} (plain : Plain L pdu) (medium : Medium)
    (payload : ChunkPacket) (ll : LinkLayer) :
    KeepsShares S L (indicate platform env reception (medium.packet pdu payload) ll) := by
  have drops : ∀ reason, KeepsShares S L (packetDropped reason) :=
    fun _ => keepsShares_emit fun _ _ _ _ => Event.noConfusion
  obtain ⟨start, basic, common, extended, rest, begins, opens, unflagged, follows, ends, read⟩ :=
    medium.opens plain payload
  unfold indicate
  rw [Action.lift_bind begins]
  unfold indicateBasic
  rw [Action.lift_bind opens]
  refine .ite (fun _ => drops _) fun _ => ?_
  dsimp only
  rw [plain.flagged, if_neg (by decide), if_pos rfl]
  refine .ite (fun _ => ?_) fun _ => drops _
  unfold indicateCommon
  rw [Action.lift_bind follows]
  refine .ite (fun _ => drops _) fun _ => ?_
  have expires : KeepsShares S L dropExpired := .update fun router shares => by
    refine Stocked.emit ?_ (Event.tells_of_silent fun _ _ _ _ => Event.noConfusion)
    exact shares.aside rfl rfl rfl rfl (SoftStateMap.Stores.dropExpiredFrom _ shares.beside)
  refine .bind expires fun _ => .bind (shares_transmits unsecured).flushBroadcast fun _ => ?_
  unfold indicateExtended
  rw [Action.lift_bind ends]
  refine leads_lift (fun _ shares => shares) fun packet _ => .ite (fun _ => drops _) fun _ => ?_
  exact (shares_receives unsecured).visitParsed (fun _ _ _ => keepsShares_emit fun _ _ _ _ => Event.noConfusion)
    ⟨pdu.basic, pdu.common, extended, basic.secured⟩ ⟨unflagged, plain.flagged, read.1, read.2⟩ _

/-- **A step of a station** that writes known fields and hears known packets. -/
theorem shares_step {station after : Station} {action : Station.Action}
    (shares : Shares S L station.router) (writes : ∀ moment, S (getDccMco (env.dccField moment)))
    (hears : ∀ packet ll, action = .indicate packet ll → ∃ (medium : Medium) (pdu : VariantPdu)
      (payload : ChunkPacket), packet = medium.packet pdu payload ∧ Plain L pdu)
    (taken : Station.step platform station (env, action) = some after) : Shares S L after.router := by
  unfold Station.step at taken
  split_ifs at taken
  cases action with
  | indicate packet ll =>
    obtain ⟨medium, pdu, payload, rfl, plain⟩ := hears packet ll rfl
    cases taken
    exact (keepsShares_indicate unsecured plain medium payload ll).after shares
  | request request payload =>
    cases taken
    exact ((shares_requests unsecured writes).request fun _ _ => trivial).after shares
  | updatePosition position =>
    cases taken
    exact shares.aside rfl rfl rfl rfl shares.beside
  | setAddress addr =>
    cases taken
    exact shares.aside rfl rfl rfl rfl shares.beside
  | setTransportHandler proto handled =>
    cases taken
    exact shares.aside rfl rfl rfl rfl shares.beside
  | advance d =>
    dsimp only at taken
    split_ifs at taken
    cases taken
    exact shares.aside rfl rfl rfl rfl shares.beside
  | fire =>
    obtain ⟨⟨due, runtime⟩, _, rfl⟩ := Option.map_eq_some_iff.mp taken
    have waiting : Shares S L { station.router with runtime := runtime } :=
      shares.aside rfl rfl rfl rfl shares.beside
    exact ((shares_requests unsecured writes).invoke _ _).after waiting

end Unsecured

/-- A router that has just been constructed. -/
theorem shares_create (now firstBeacon : ℤ) : Shares S L (Router.create platform.mib now firstBeacon) := by
  refine stocked_create ?_
  rw [create_locationTable]
  exact SoftStateMap.stores_empty _

end Walk

end Vanet.Geonet
