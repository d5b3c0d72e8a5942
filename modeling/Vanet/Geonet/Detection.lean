/-
**What duplicate packet detection knows.**

The location table keeps a list of sequence numbers for each station, under the MAC part of its
address. The trace says what is in it: the list of a MAC is the window over the fresh packets of
sources with this MAC, since the entry was last dropped (`Detecting`). No other packet changes it.
-/

import Vanet.Geonet.Stages
import Vanet.Geonet.Station
import Vanet.Library.Recency

namespace Vanet.Geonet

open Vanet.Library Vanet.Security
open Vanet.Net hiding ByteBuffer
open SoftStateMap

/-! ### The lists of a location table -/

/-- The duplicate packet list under a MAC address, whether the entry has expired or not. -/
def listOf (table : LocationTable) (mac : MacAddress) : Option DuplicatePacketList :=
  (table.view mac).bind fun entry => entry.1.extensions.duplicatePacketList

section Lists

variable {table : LocationTable} {mac other : MacAddress} {now : ℤ}

/-- An access keeps every list, and an entry that it creates has none. -/
theorem listOf_refresh (formed : table.WellFormed) :
    listOf (table.refresh LocationTableEntry.create now mac).2 = listOf table :=
  reading_refresh (fun entry : LocationTableEntry => entry.extensions.duplicatePacketList) formed rfl

theorem listOf_getValue (formed : table.WellFormed) :
    listOf (table.getValue LocationTableEntry.create now mac).2 = listOf table :=
  reading_getValue (fun entry : LocationTableEntry => entry.extensions.duplicatePacketList) formed rfl

theorem listOf_modify (formed : table.WellFormed) (change : LocationTableEntry → LocationTableEntry) :
    listOf (table.modify mac change) = Function.update (listOf table) mac
      ((table.view mac).bind fun entry => (change entry.1).extensions.duplicatePacketList) :=
  reading_modify (fun entry : LocationTableEntry => entry.extensions.duplicatePacketList) formed change

/-- A change of an entry that leaves the extensions alone. -/
theorem listOf_modify_keeps (formed : table.WellFormed)
    {change : LocationTableEntry → LocationTableEntry}
    (keeps : ∀ entry, (change entry).extensions.duplicatePacketList =
      entry.extensions.duplicatePacketList) :
    listOf (table.modify mac change) = listOf table := by
  rw [listOf_modify formed]
  refine Function.update_eq_self_iff.mpr ?_
  exact Option.bind_congr fun entry _ => keeps entry.1

theorem updatePositionVector_extensions (entry : LocationTableEntry) (lpv : LongPositionVector) :
    (entry.updatePositionVector lpv).2.extensions = entry.extensions := by
  unfold LocationTableEntry.updatePositionVector LocationTableEntry.setPositionVector
  split <;> split_ifs <;> rfl

theorem listOf_update (formed : table.WellFormed) (lpv : LongPositionVector) :
    (LocationTable.update table now lpv).WellFormed ∧
      listOf (LocationTable.update table now lpv) = listOf table := by
  have delivers : ∀ entry : LocationTableEntry,
      (entry.updatePositionVector lpv).2.extensions.duplicatePacketList =
        entry.extensions.duplicatePacketList :=
    fun entry => by rw [updatePositionVector_extensions]
  have refreshed := (refresh_spec LocationTableEntry.create now lpv.gnAddr.mid formed).1
  have modified := (modify_spec lpv.gnAddr.mid formed fun entry =>
    (entry.updatePositionVector lpv).2).1
  have afterRefresh := (modify_spec lpv.gnAddr.mid refreshed fun entry =>
    (entry.updatePositionVector lpv).2).1
  have delivered : listOf (table.modify lpv.gnAddr.mid fun entry =>
      (entry.updatePositionVector lpv).2) = listOf table :=
    listOf_modify_keeps formed delivers
  unfold LocationTable.update
  dsimp only
  split
  · split_ifs
    · exact ⟨(refresh_spec LocationTableEntry.create now lpv.gnAddr.mid modified).1,
        (listOf_refresh modified).trans delivered⟩
    · exact ⟨modified, delivered⟩
    · exact ⟨afterRefresh, (listOf_modify_keeps refreshed delivers).trans (listOf_refresh formed)⟩
  · exact ⟨afterRefresh, (listOf_modify_keeps refreshed delivers).trans (listOf_refresh formed)⟩

end Lists

/-! ### Checking a sequence number -/

def DuplicatePacketList.numbers (list : DuplicatePacketList) : List SequenceNumber :=
  list.elements.items.map ListElement.sequenceNumber

/-- The sequence numbers under a MAC address. -/
def numbersOf (table : LocationTable) (mac : MacAddress) : List SequenceNumber :=
  (listOf table mac).elim [] DuplicatePacketList.numbers

/-- **`check`** finds the number in the list or lets it into the window. -/
theorem check_spec (list : DuplicatePacketList) (sn : SequenceNumber) :
    (list.check sn).1 = decide (sn ∈ list.numbers) ∧
      (list.check sn).2.elements.capacity = list.elements.capacity ∧
      (list.check sn).2.numbers =
        if sn ∈ list.numbers then list.numbers
        else slide list.elements.capacity list.numbers (some sn) := by
  have found : (list.elements.items.any fun element => element.sequenceNumber = sn) =
      decide (sn ∈ list.numbers) := by
    rw [List.any_eq]
    unfold DuplicatePacketList.numbers
    simp only [List.mem_map, decide_eq_true_eq]
  unfold DuplicatePacketList.check
  rw [found]
  by_cases known : sn ∈ list.numbers
  · rw [decide_eq_true known, if_pos rfl, if_pos known]
    exact ⟨rfl, rfl, DuplicatePacketList.sequenceNumbers_increment sn _⟩
  · rw [decide_eq_false known, if_neg Bool.false_ne_true, if_neg known]
    refine ⟨rfl, rfl, ?_⟩
    unfold DuplicatePacketList.numbers CircularBuffer.push slide
    dsimp only
    rw [List.map_drop, List.map_append, List.length_map]
    rfl

section Detect

variable (platform : Platform) {router : Router} (source : Address) (sn : SequenceNumber)

/-- The list that has been asked about a sequence number. -/
def askedList (platform : Platform) (router : Router) (source : Address) (sn : SequenceNumber) :
    DuplicatePacketList :=
  (((listOf router.locationTable source.mid).getD (.empty platform.mib.itsGnDPLLength)).check sn).2

theorem askedList_spec (sized : ∀ list, listOf router.locationTable source.mid = some list →
      list.elements.capacity = platform.mib.itsGnDPLLength) :
    (askedList platform router source sn).elements.capacity = platform.mib.itsGnDPLLength ∧
      (askedList platform router source sn).numbers =
        if sn ∈ numbersOf router.locationTable source.mid then
          numbersOf router.locationTable source.mid
        else slide platform.mib.itsGnDPLLength (numbersOf router.locationTable source.mid)
          (some sn) := by
  unfold askedList numbersOf
  cases held : listOf router.locationTable source.mid with
  | none =>
    obtain ⟨_, capacity, numbers⟩ := check_spec (.empty platform.mib.itsGnDPLLength) sn
    exact ⟨capacity, numbers⟩
  | some list =>
    obtain ⟨_, capacity, numbers⟩ := check_spec list sn
    rw [sized list held] at capacity numbers
    exact ⟨capacity, numbers⟩

/-- **`detect_duplicate_packet`** asks the list under the source's MAC address. -/
theorem detectDuplicatePacket_spec (formed : router.locationTable.WellFormed) :
    (Router.detectDuplicatePacket platform source sn router).1 =
        .ok (decide (sn ∈ numbersOf router.locationTable source.mid)) ∧
      (Router.detectDuplicatePacket platform source sn router).2.locationTable.WellFormed ∧
      listOf (Router.detectDuplicatePacket platform source sn router).2.locationTable =
        Function.update (listOf router.locationTable) source.mid
          (some (askedList platform router source sn)) := by
  have got := getValue_spec LocationTableEntry.create router.now source.mid formed
  obtain ⟨formedAfter, _, value, views⟩ := got
  have asked : (router.locationTable.getOrCreateEntry router.now
      source.mid).1.extensions.duplicatePacketList = listOf router.locationTable source.mid := by
    have kept : listOf (router.locationTable.getValue LocationTableEntry.create router.now
        source.mid).2 source.mid = listOf router.locationTable source.mid :=
      congrFun (listOf_getValue formed) source.mid
    rw [← kept]
    unfold listOf
    rw [views, Function.update_self]
    exact congrArg (fun entry => entry.extensions.duplicatePacketList) value
  have numbers : ((listOf router.locationTable source.mid).getD
      (.empty platform.mib.itsGnDPLLength)).numbers =
        numbersOf router.locationTable source.mid := by
    unfold numbersOf
    cases listOf router.locationTable source.mid with
    | none => rfl
    | some list => rfl
  have modified := (modify_spec source.mid formedAfter fun entry =>
    { entry with extensions := { entry.extensions with
      duplicatePacketList := some (askedList platform router source sn) } }).1
  refine ⟨?_, ?_, ?_⟩
  · unfold Router.detectDuplicatePacket Action.update
    dsimp only
    rw [asked, (check_spec _ sn).1, numbers]
  · unfold askedList at modified
    rw [← asked] at modified
    exact modified
  · show listOf ((router.locationTable.getOrCreateEntry router.now source.mid).2.modify _ _) = _
    rw [asked]
    unfold LocationTable.getOrCreateEntry
    rw [listOf_modify formedAfter, listOf_getValue formed, views, Function.update_self]
    rfl

/-- ... and the numbers under every address afterwards. -/
theorem detectDuplicatePacket_numbers (formed : router.locationTable.WellFormed)
    (sized : ∀ mac list, listOf router.locationTable mac = some list →
      list.elements.capacity = platform.mib.itsGnDPLLength) :
    ∃ table : LocationTable, Router.detectDuplicatePacket platform source sn router =
        (.ok (decide (sn ∈ numbersOf router.locationTable source.mid)),
          { router with locationTable := table }) ∧
      table.WellFormed ∧
      (∀ mac list, listOf table mac = some list →
        list.elements.capacity = platform.mib.itsGnDPLLength) ∧
      numbersOf table = Function.update (numbersOf router.locationTable) source.mid
        (if sn ∈ numbersOf router.locationTable source.mid then
          numbersOf router.locationTable source.mid
        else slide platform.mib.itsGnDPLLength (numbersOf router.locationTable source.mid)
          (some sn)) := by
  obtain ⟨sizes, asked⟩ := askedList_spec platform source sn (sized source.mid)
  obtain ⟨verdict, formedAfter, lists⟩ :=
    detectDuplicatePacket_spec platform source sn formed
  refine ⟨_, Prod.ext verdict rfl, formedAfter, ?_, ?_⟩
  · intro mac list held
    have updated := (congrFun lists mac).symm.trans held
    by_cases same : mac = source.mid
    · rw [same, Function.update_self] at updated
      cases updated
      exact sizes
    · rw [Function.update_of_ne same] at updated
      exact sized mac list updated
  · funext mac
    refine (congrArg (fun list => Option.elim list [] DuplicatePacketList.numbers)
      (congrFun lists mac)).trans ?_
    by_cases same : mac = source.mid
    · rw [same, Function.update_self, Function.update_self]
      exact asked
    · rw [Function.update_of_ne same, Function.update_of_ne same]
      rfl

end Detect

/-! ### The invariant -/

/-- What an event says about the packets of a MAC address: a fresh sequence number, or that its entry
has been dropped. -/
def Event.detection (mac : MacAddress) : Event → Option (Option SequenceNumber)
  | accepted _ gbc =>
    if gbc.sourcePosition.gnAddr.mid = mac then some (some gbc.sequenceNumber) else none
  | expired macs => if mac ∈ macs then some none else none
  | _ => none

/-- The history of a MAC address. -/
def historyOf (mac : MacAddress) (trace : List Event) : List (Option SequenceNumber) :=
  trace.filterMap (Event.detection mac)

theorem historyOf_concat (mac : MacAddress) (trace : List Event) (event : Event) :
    historyOf mac (trace ++ [event]) = historyOf mac trace ++ (event.detection mac).toList := by
  unfold historyOf
  rw [List.filterMap_append, List.filterMap_cons, List.filterMap_nil]
  cases event.detection mac <;> rfl

/-- **The lists are windows over the histories**, and every packet that was accepted was fresh. -/
structure Detecting (capacity : ℕ) (router : Router) : Prop where
  formed : router.locationTable.WellFormed
  sized : ∀ mac list, listOf router.locationTable mac = some list →
    list.elements.capacity = capacity
  numbers : ∀ mac, numbersOf router.locationTable mac = window capacity (historyOf mac router.trace)
  fresh : ∀ mac, Fresh capacity (historyOf mac router.trace)

/-- The location table's lists are left alone, and nothing is accepted or dropped. -/
structure Undetecting (before after : Router) : Prop where
  formed : before.locationTable.WellFormed → after.locationTable.WellFormed ∧
    listOf after.locationTable = listOf before.locationTable
  trace : ∃ events, after.trace = before.trace ++ events ∧
    ∀ event ∈ events, ∀ mac, event.detection mac = none

instance undetectingPreorder : IsPreorder Router Undetecting where
  refl _ := ⟨fun formed => ⟨formed, rfl⟩, [], (List.append_nil _).symm, List.forall_mem_nil _⟩
  trans _ _ _ first second := by
    obtain ⟨events, extended, unrelated⟩ := first.trace
    obtain ⟨more, further, unrelatedMore⟩ := second.trace
    refine ⟨fun formed => ?_, events ++ more, ?_, ?_⟩
    · obtain ⟨formedMid, lists⟩ := first.formed formed
      obtain ⟨formedAfter, listsAfter⟩ := second.formed formedMid
      exact ⟨formedAfter, listsAfter.trans lists⟩
    · rw [further, extended, List.append_assoc]
    · exact List.forall_mem_append.mpr ⟨unrelated, unrelatedMore⟩

section Undetected

variable {platform : Platform} {env : Environment} {before after : Router} {capacity : ℕ}

/-- A change that leaves table and trace alone. -/
theorem undetecting_silent (table : after.locationTable = before.locationTable)
    (trace : after.trace = before.trace) : Undetecting before after := by
  refine ⟨fun formed => ?_, [], by rw [trace, List.append_nil], List.forall_mem_nil _⟩
  rw [table]
  exact ⟨formed, rfl⟩

theorem historyOf_append {events : List Event}
    (unrelated : ∀ event ∈ events, ∀ mac, event.detection mac = none) (trace : List Event)
    (mac : MacAddress) : historyOf mac (trace ++ events) = historyOf mac trace := by
  unfold historyOf
  rw [List.filterMap_append, List.append_right_eq_self, List.filterMap_eq_nil_iff]
  exact fun event member => unrelated event member mac

theorem Undetecting.detecting (undetecting : Undetecting before after)
    (detecting : Detecting capacity before) : Detecting capacity after := by
  obtain ⟨formed, lists⟩ := undetecting.formed detecting.formed
  obtain ⟨events, extended, unrelated⟩ := undetecting.trace
  have history : ∀ mac, historyOf mac after.trace = historyOf mac before.trace := by
    intro mac
    rw [extended]
    exact historyOf_append unrelated _ mac
  refine ⟨formed, ?_, ?_, ?_⟩
  · intro mac list
    rw [lists]
    exact detecting.sized mac list
  · intro mac
    rw [history]
    unfold numbersOf
    rw [lists]
    exact detecting.numbers mac
  · intro mac
    rw [history]
    exact detecting.fresh mac

theorem undetecting_of_calm {α : Type} {act : Act α} (calm : Calm act) :
    Action.Moves Undetecting act := by
  refine calm.mono fun before after quiet => ?_
  obtain ⟨events, extended, sending⟩ := quiet.trace
  refine ⟨fun formed => ?_, events, extended, fun event member mac => ?_⟩
  · rw [quiet.table]
    exact ⟨formed, rfl⟩
  · have sends := sending event member
    cases event with
    | accepted reception gbc => cases sends
    | expired macs => cases sends
    | _ => rfl

theorem undetecting_emit {event : Event} (unrelated : ∀ mac, event.detection mac = none) :
    Action.Moves Undetecting (Act.emit event) :=
  .update fun _ => ⟨fun formed => ⟨formed, rfl⟩, [event], rfl, by simpa using unrelated⟩

theorem undetecting_detectDuplicateAddress (source : Address) (sender : MacAddress) :
    Action.Moves Undetecting (Router.detectDuplicateAddress platform env source sender) := by
  refine .update fun router => ?_
  dsimp only
  split_ifs
  · exact undetecting_silent rfl rfl
  · exact refl_of Undetecting router

theorem undetecting_updateSource (lpv : LongPositionVector)
    {change : LocationTableEntry → LocationTableEntry}
    (keeps : ∀ entry, (change entry).extensions.duplicatePacketList =
      entry.extensions.duplicatePacketList) :
    Action.Moves Undetecting (Router.updateSource lpv change) := by
  refine .update fun router => ⟨fun formed => ?_, [], (List.append_nil _).symm, List.forall_mem_nil _⟩
  have updates : (LocationTable.update router.locationTable router.now lpv).WellFormed ∧
      listOf (LocationTable.update router.locationTable router.now lpv) =
        listOf router.locationTable :=
    listOf_update formed lpv
  obtain ⟨updated, lists⟩ := updates
  exact ⟨(modify_spec _ updated _).1, (listOf_modify_keeps updated keeps).trans lists⟩

/-! ### Changes of entries -/

theorem updatePdr_extensions (entry : LocationTableEntry) (now : ℤ) (packetSize : ℕ) (beta : ℚ) :
    (entry.updatePdr now packetSize beta).extensions = entry.extensions := by
  unfold LocationTableEntry.updatePdr
  split
  · rfl
  · dsimp only
    split_ifs <;> rfl

theorem setNeighbourFor_extensions (entry : LocationTableEntry) (now : ℤ) (flag : Bool)
    (expiry : ℤ) : (entry.setNeighbourFor now flag expiry).extensions = entry.extensions := by
  unfold LocationTableEntry.setNeighbourFor
  split_ifs <;> rfl

theorem withPdr_extensions (now : ℤ) (packet : UpPacket) (entry : LocationTableEntry) :
    (Router.withPdr platform now packet entry).extensions = entry.extensions :=
  updatePdr_extensions _ _ _ _

theorem withLocTex_list (now : ℤ) (shb : ShbHeader) (entry : LocationTableEntry) :
    (Router.withLocTex platform now shb entry).extensions.duplicatePacketList =
      entry.extensions.duplicatePacketList := by
  unfold Router.withLocTex
  split_ifs <;> rfl

theorem undetecting_processExtendedShb (shb : ShbHeader) (packet : UpPacket) (ll : LinkLayer) :
    Action.Moves Undetecting (Router.processExtendedShb platform env shb packet ll) := by
  refine .bind (undetecting_detectDuplicateAddress _ _) fun _ => .bind (moves_read _) fun now =>
    .bind (undetecting_updateSource _ fun entry => ?_) fun _ => .pure _
  rw [withLocTex_list, setNeighbourFor_extensions, withPdr_extensions]

theorem undetecting_processExtendedBeacon (beacon : BeaconHeader) (packet : UpPacket)
    (ll : LinkLayer) :
    Action.Moves Undetecting (Router.processExtendedBeacon platform env beacon packet ll) := by
  refine .bind (undetecting_detectDuplicateAddress _ _) fun _ => .bind (moves_read _) fun now =>
    .bind (undetecting_updateSource _ fun entry => ?_) fun _ => .pure _
  rw [setNeighbourFor_extensions, withPdr_extensions]

theorem undetecting_updateGbcSource (gbc : GeoBroadcastHeader) (packet : UpPacket)
    (locteExists : Bool) :
    Action.Moves Undetecting (Router.updateGbcSource platform gbc packet locteExists) := by
  refine .bind (moves_read _) fun now => undetecting_updateSource _ fun entry => ?_
  split_ifs
  · rw [withPdr_extensions]
  · exact congrArg Extensions.duplicatePacketList (withPdr_extensions _ _ _)

/-! ### Steps of an indication -/

theorem undetecting_forwardReceived {reception : ℕ} (pdu : GbcPdu) (packet : UpPacket)
    (ll : LinkLayer) :
    Action.Moves Undetecting (Router.forwardReceived platform env reception pdu packet ll) := by
  refine undetecting_of_calm (.bind (moves_read _) fun _ => .ite (fun _ => ?_) fun _ => ?_)
  · exact calm_of_performs (performs_pushBroadcastGbc (A := fun _ => True) trivial)
  · exact calm_of_performs (performs_processGbc hereditary_all trivial)

theorem undetecting_processAccepted {reception : ℕ} (pdu : GbcPdu) (packet : UpPacket)
    (ll : LinkLayer) (locteExists : Bool) :
    Action.Moves Undetecting
      (Router.processAccepted platform env reception pdu packet ll locteExists) := by
  have detects : Action.Moves Undetecting (Router.detectMultiHopDuplicateAddress platform env
      pdu.extended.sourcePosition.gnAddr ll.sender) :=
    .ite (fun _ => undetecting_detectDuplicateAddress _ _) fun _ => .pure ()
  have forwards : Action.Moves Undetecting
      (Router.forwardUnlessStopped platform env reception pdu packet ll) := by
    refine .bind (moves_read _) fun router => ?_
    split
    · exact undetecting_emit fun _ => rfl
    · exact undetecting_forwardReceived _ _ _
  exact .bind detects fun _ => .bind (undetecting_updateGbcSource _ _ _) fun _ =>
    .bind (undetecting_of_calm calm_flushUnicastForwardingBuffer) fun _ => forwards

theorem undetecting_decidePassUp (within : Bool) (gbc : GeoBroadcastHeader) :
    Action.Moves Undetecting (Router.decidePassUp platform within gbc) :=
  .ite (fun _ => .pure _) fun _ => .ite (fun _ => .update fun _ => undetecting_silent rfl rfl)
    fun _ => .pure _

theorem undetecting_passUp (extended : HeaderVariant) (ind : DataIndication) (packet : UpPacket) :
    Action.Moves Undetecting (Router.passUp extended ind packet) :=
  .bind (moves_read _) fun _ => .ite (fun _ => undetecting_emit fun _ => rfl) fun _ => .pure ()

theorem undetecting_destinationArea (gbc : GeoBroadcastHeader) (ht : HeaderType) :
    Action.Moves Undetecting (Router.destinationArea gbc ht) :=
  undetecting_of_calm
    (calm_of_performs (performs_destinationArea gbc ht : Performs (fun _ => True) True _))

theorem keeps_undetecting {α : Type} {act : Act α} (moves : Action.Moves Undetecting act) :
    Action.Keeps (Detecting capacity) act :=
  moves.ensures fun _ _ undetecting => undetecting.detecting

end Undetected

/-! ### Dropped entries -/

/-- The keys of the entries that have expired. -/
def expiredKeys (table : LocationTable) (now : ℤ) : List MacAddress :=
  (table.map.entries.filter fun entry => table.isExpired now entry.2.handle).map Sigma.fst

section Dropped

variable {table : LocationTable} {mac : MacAddress} {now : ℤ}

theorem mem_expiredKeys (formed : table.WellFormed) :
    mac ∈ expiredKeys table now ↔ ∃ entry, table.view mac = some entry ∧ entry.2 < now := by
  unfold expiredKeys
  rw [List.mem_map]
  constructor
  · rintro ⟨⟨key, data⟩, member, rfl⟩
    obtain ⟨listed, passed⟩ := List.mem_filter.mp member
    obtain ⟨expiry, shown, denoted⟩ := formed.found (AList.mem_lookup_iff.mpr listed)
    rw [isExpired_eq denoted] at passed
    exact ⟨_, shown, of_decide_eq_true passed⟩
  · rintro ⟨⟨value, expiry⟩, shown, passed⟩
    obtain ⟨handle, found, member⟩ := formed.view_some.mp shown
    refine ⟨⟨mac, handle, value⟩, List.mem_filter.mpr ⟨AList.mem_lookup_iff.mp found, ?_⟩, rfl⟩
    rw [isExpired_eq (formed.valid.get_iff.mpr member)]
    exact decide_eq_true passed

/-- **An entry that is dropped has expired**, and the others keep their lists. -/
theorem listOf_dropExpired (formed : table.WellFormed) :
    listOf (table.dropExpired now) mac =
      if mac ∈ expiredKeys table now then none else listOf table mac := by
  unfold listOf
  rw [(dropExpired_spec now formed).2.2]
  dsimp only
  cases shown : table.view mac with
  | none => rw [alive_none]; split_ifs <;> rfl
  | some entry =>
    obtain ⟨value, expiry⟩ := entry
    have dropped : mac ∈ expiredKeys table now ↔ expiry < now := by
      rw [mem_expiredKeys formed, shown]
      simp
    rw [alive_some]
    by_cases passed : expiry < now
    · rw [if_pos passed, if_pos (dropped.mpr passed)]
      rfl
    · rw [if_neg passed, if_neg fun member => passed (dropped.mp member)]

theorem keeps_detecting_dropExpired {capacity : ℕ} :
    Action.Keeps (Detecting capacity) Router.dropExpired := by
  refine .update fun router detecting => ?_
  have formed := detecting.formed
  have lists : ∀ mac, listOf (router.locationTable.dropExpired router.now) mac =
      if mac ∈ expiredKeys router.locationTable router.now then none
      else listOf router.locationTable mac :=
    fun mac => listOf_dropExpired formed
  have history : ∀ mac, historyOf mac
      (router.trace ++ [.expired (expiredKeys router.locationTable router.now)]) =
        if mac ∈ expiredKeys router.locationTable router.now then
          historyOf mac router.trace ++ [none]
        else historyOf mac router.trace := by
    intro mac
    rw [historyOf_concat, Event.detection]
    split_ifs
    · rfl
    · exact List.append_nil _
  refine ⟨(dropExpired_spec router.now formed).1, ?_, ?_, ?_⟩
  · intro mac list held
    have kept : listOf (router.locationTable.dropExpired router.now) mac = some list := held
    rw [lists] at kept
    split_ifs at kept
    exact detecting.sized mac list kept
  · intro mac
    show (listOf (router.locationTable.dropExpired router.now) mac).elim [] _ =
      window capacity (historyOf mac
        (router.trace ++ [.expired (expiredKeys router.locationTable router.now)]))
    rw [lists, history]
    split_ifs
    · rw [window_concat]
      rfl
    · exact detecting.numbers mac
  · intro mac
    show Fresh capacity (historyOf mac
      (router.trace ++ [.expired (expiredKeys router.locationTable router.now)]))
    rw [history]
    split_ifs
    · exact (detecting.fresh mac).reset
    · exact detecting.fresh mac

end Dropped

/-! ### Accepted packets -/

/-- A packet has been found fresh, and is in the list of its source. -/
structure Accepting (capacity : ℕ) (gbc : GeoBroadcastHeader) (router : Router) : Prop where
  formed : router.locationTable.WellFormed
  sized : ∀ mac list, listOf router.locationTable mac = some list →
    list.elements.capacity = capacity
  numbers : ∀ mac, numbersOf router.locationTable mac =
    window capacity (historyOf mac router.trace ++
      ((Event.accepted 0 gbc).detection mac).toList)
  fresh : ∀ mac, Fresh capacity (historyOf mac router.trace ++
    ((Event.accepted 0 gbc).detection mac).toList)

theorem Accepting.accepted {capacity reception : ℕ} {gbc : GeoBroadcastHeader} {router : Router}
    (accepting : Accepting capacity gbc router) :
    Detecting capacity (router.emit (.accepted reception gbc)) := by
  have history : ∀ mac, historyOf mac (router.trace ++ [.accepted reception gbc]) =
      historyOf mac router.trace ++ ((Event.accepted 0 gbc).detection mac).toList :=
    fun mac => historyOf_concat mac router.trace _
  refine ⟨accepting.formed, accepting.sized, ?_, ?_⟩
  · intro mac
    rw [Router.emit, history]
    exact accepting.numbers mac
  · intro mac
    rw [Router.emit, history]
    exact accepting.fresh mac

section Detected

variable {platform : Platform} {env : Environment} {capacity : ℕ}

/-- **The verdict about a packet**: a duplicate changes nothing, a fresh packet enters its list. -/
theorem ensures_detectDuplicatePacket (limited : platform.mib.itsGnDPLLength = capacity)
    (gbc : GeoBroadcastHeader) :
    Action.Ensures (Detecting capacity)
      (Router.detectDuplicatePacket platform gbc.sourcePosition.gnAddr gbc.sequenceNumber)
      (fun duplicate router =>
        if duplicate then Detecting capacity router else Accepting capacity gbc router)
      (Detecting capacity) := by
  intro router detecting
  subst limited
  obtain ⟨table, ran, formed, sized, numbers⟩ :=
    detectDuplicatePacket_numbers platform gbc.sourcePosition.gnAddr gbc.sequenceNumber
      detecting.formed detecting.sized
  rw [ran]
  by_cases known : gbc.sequenceNumber ∈
      numbersOf router.locationTable gbc.sourcePosition.gnAddr.mid
  · rw [if_pos known, Function.update_eq_self] at numbers
    rw [decide_eq_true known]
    refine ⟨formed, sized, fun mac => ?_, detecting.fresh⟩
    rw [numbers]
    exact detecting.numbers mac
  · rw [if_neg known, detecting.numbers] at numbers
    rw [detecting.numbers] at known
    rw [detecting.numbers, decide_eq_false known]
    refine ⟨formed, sized, fun mac => ?_, fun mac => ?_⟩
    · rw [numbers, Event.detection]
      by_cases same : gbc.sourcePosition.gnAddr.mid = mac
      · rw [if_pos same, ← same, Function.update_self]
        exact (window_concat _ _).symm
      · rw [if_neg same, Function.update_of_ne (Ne.symm same)]
        exact (detecting.numbers mac).trans (congrArg _ (List.append_nil _).symm)
    · rw [Event.detection]
      split_ifs with same
      · subst same
        refine (detecting.fresh _).concat ?_
        rintro item ⟨⟩
        exact known
      · exact (List.append_nil _).symm ▸ detecting.fresh mac

end Detected

end Vanet.Geonet
