/-
**GeoBroadcast packets are passed up once.**

With a memory for `N` identifiers, a router passes a GeoBroadcast packet up a second time only after
`N` other identifiers have been received within their destination areas in between. The memory
recalls every packet that has been passed up (`Deduplicated`): it is among the remembered
identifiers, with those received since behind it, or so many others have been received since. Between
its reception and the decision about it, a packet counts as received for all earlier passings
(`Recent`).
-/

import Vanet.Geonet.Stages
import Vanet.Geonet.Station
import Vanet.Library.Recency

namespace Vanet.Geonet

open Vanet.Library Vanet.Security
open Vanet.Net hiding ByteBuffer
open Act Router

/-! ### Passings and receptions -/

/-- The GeoBroadcast packet that is handed to a transport handler. -/
def Event.passing : Event → Option PacketIdentifier
  | passedUp (.geoBroadcast gbc) _ _ => some gbc.identifier
  | _ => none

/-- The packet that is received within its destination area. -/
def Event.receivedWithin : Event → Option PacketIdentifier
  | received _ pdu _ true => some pdu.extended.identifier
  | _ => none

/-- The packet is received within its destination area in these events. -/
def SeenWithin (events : List Event) (id : PacketIdentifier) : Prop :=
  ∃ event ∈ events, event.receivedWithin = some id

theorem SeenWithin.concat {events : List Event} {id : PacketIdentifier} (seen : SeenWithin events id)
    (event : Event) : SeenWithin (events ++ [event]) id := by
  obtain ⟨old, member, received⟩ := seen
  exact ⟨old, List.mem_append_left _ member, received⟩

/-! ### The invariant -/

/-- **What the memory knows of the passings.** -/
structure Deduplicated (capacity : ℕ) (memory : GbcMemory) (trace : List Event) : Prop where
  limited : memory.capacity = capacity
  nodup : memory.identifiers.Nodup
  bounded : memory.identifiers.length ≤ capacity
  recalled : ∀ earlier event later id, trace = earlier ++ event :: later →
    event.passing = some id → Recalls capacity memory.identifiers id (SeenWithin later)
  separated : ∀ earlier first between second later id,
    trace = earlier ++ first :: (between ++ second :: later) → first.passing = some id →
      second.passing = some id → Enough capacity id (SeenWithin between)

/-- The packet has been received since the last passing. -/
def Recent (id : PacketIdentifier) (trace : List Event) : Prop :=
  ∀ earlier event later other, trace = earlier ++ event :: later → event.passing = some other →
    SeenWithin later id

/-- The packet may be passed up: it has not been, or enough others have been received since. -/
def Passable (capacity : ℕ) (id : PacketIdentifier) (trace : List Event) : Prop :=
  ∀ earlier event later, trace = earlier ++ event :: later → event.passing = some id →
    Enough capacity id (SeenWithin later)

section Trace

variable {capacity : ℕ} {memory : GbcMemory} {trace : List Event} {event : Event}
  {id : PacketIdentifier}

/-- Any event but a passing. -/
theorem Deduplicated.concat (dedup : Deduplicated capacity memory trace)
    (passes : event.passing = none) : Deduplicated capacity memory (trace ++ [event]) where
  limited := dedup.limited
  nodup := dedup.nodup
  bounded := dedup.bounded
  recalled := by
    intro earlier passed later id split passing
    rcases concat_split split with ⟨rest, rfl, before⟩ | ⟨_, rfl, _⟩
    · exact (dedup.recalled _ _ _ _ before passing).mono fun _ seen => seen.concat event
    · rw [passes] at passing
      cases passing
  separated := by
    intro earlier first between second later id split passing again
    rw [← List.cons_append, ← List.append_assoc] at split
    rcases concat_split split with ⟨rest, rfl, before⟩ | ⟨_, rfl, _⟩
    · rw [List.append_assoc, List.cons_append] at before
      exact dedup.separated _ _ _ _ _ _ before passing again
    · rw [passes] at again
      cases again

theorem Recent.concat (recent : Recent id trace) (passes : event.passing = none) :
    Recent id (trace ++ [event]) := by
  intro earlier passed later other split passing
  rcases concat_split split with ⟨rest, rfl, before⟩ | ⟨_, rfl, _⟩
  · exact (recent _ _ _ _ before passing).concat event
  · rw [passes] at passing
    cases passing

/-- The reception itself. -/
theorem recent_received (passes : event.passing = none) (received : event.receivedWithin = some id) :
    Recent id (trace ++ [event]) := by
  intro earlier passed later other split passing
  rcases concat_split split with ⟨rest, rfl, _⟩ | ⟨_, rfl, _⟩
  · exact ⟨event, List.mem_append_right _ (List.mem_singleton_self event), received⟩
  · rw [passes] at passing
    cases passing

/-- **The memory is asked about a packet that has just been received.** It does not know the packet
only if that may be passed up, and the packet is the latest one afterwards. -/
theorem Deduplicated.remember (dedup : Deduplicated capacity memory trace) (positive : 0 < capacity)
    (recent : Recent id trace) :
    Deduplicated capacity (memory.remember id).2 trace ∧
      (∃ older, (memory.remember id).2.identifiers = older ++ [id]) ∧
      ((memory.remember id).1 = false → Passable capacity id trace) := by
  obtain ⟨limit, ids⟩ := memory
  have limited : limit = capacity := dedup.limited
  subst limited
  have nodup : ids.Nodup := dedup.nodup
  have bounded : ids.length ≤ limit := dedup.bounded
  unfold GbcMemory.remember
  dsimp only
  split_ifs with known
  · refine ⟨⟨rfl, ?_, ?_, ?_, dedup.separated⟩, ⟨ids.erase id, rfl⟩, nofun⟩
    · have absent : id ∉ ids.erase id := fun member => (nodup.mem_erase_iff.mp member).1 rfl
      rw [← List.concat_eq_append]
      exact (nodup.erase id).concat absent
    · rw [List.length_append, List.length_erase_of_mem known, List.length_singleton]
      have := List.length_pos_of_mem known
      omega
    · intro earlier event later other split passing
      by_cases same : id = other
      · subst same
        exact .latest _
      · exact (dedup.recalled _ _ _ _ split passing).touch same (recent _ _ _ _ split passing)
  · have room : ids.length + 1 - limit ≤ ids.length := by omega
    have joined : ids.drop (ids.length + 1 - limit) ++ [id] =
        (ids ++ [id]).drop (ids.length + 1 - limit) :=
      (List.drop_append_of_le_length room).symm
    refine ⟨⟨rfl, ?_, ?_, ?_, dedup.separated⟩, ⟨ids.drop (ids.length + 1 - limit), rfl⟩, ?_⟩
    · have absent : id ∉ ids.drop (ids.length + 1 - limit) := fun member =>
        known (List.mem_of_mem_drop member)
      rw [← List.concat_eq_append]
      exact (nodup.sublist (List.drop_sublist _ _)).concat absent
    · rw [List.length_append, List.length_drop, List.length_singleton]
      omega
    · intro earlier event later other split passing
      by_cases same : id = other
      · subst same
        exact .latest _
      · show Recalls limit (ids.drop (ids.length + 1 - limit) ++ [id]) other (SeenWithin later)
        rw [joined]
        exact (dedup.recalled _ _ _ _ split passing).append nodup bounded known same
          (recent _ _ _ _ split passing)
    · intro _ earlier event later split passing
      exact (dedup.recalled _ _ _ _ split passing).forgotten known

/-- **The packet that the memory has just been asked about is passed up.** -/
theorem Deduplicated.pass (dedup : Deduplicated capacity memory trace)
    (latest : ∃ older, memory.identifiers = older ++ [id]) (passable : Passable capacity id trace)
    (passes : event.passing = some id) : Deduplicated capacity memory (trace ++ [event]) where
  limited := dedup.limited
  nodup := dedup.nodup
  bounded := dedup.bounded
  recalled := by
    intro earlier passed later other split passing
    rcases concat_split split with ⟨rest, rfl, before⟩ | ⟨rfl, rfl, _⟩
    · exact (dedup.recalled _ _ _ _ before passing).mono fun _ seen => seen.concat event
    · rw [passes] at passing
      cases passing
      obtain ⟨older, last⟩ := latest
      rw [last]
      exact .latest older
  separated := by
    intro earlier first between second later other split passing again
    rw [← List.cons_append, ← List.append_assoc] at split
    rcases concat_split split with ⟨rest, rfl, before⟩ | ⟨_, rfl, before⟩
    · rw [List.append_assoc, List.cons_append] at before
      exact dedup.separated _ _ _ _ _ _ before passing again
    · rw [passes] at again
      cases again
      exact passable _ _ _ before passing

end Trace

/-! ### Steps that pass nothing up -/

/-- The memory is left alone and no GeoBroadcast packet is passed up. -/
structure Placid (before after : Router) : Prop where
  memory : after.gbcMemory = before.gbcMemory
  trace : ∃ events, after.trace = before.trace ++ events ∧ ∀ event ∈ events, event.passing = none

instance placidPreorder : IsPreorder Router Placid where
  refl _ := ⟨rfl, [], (List.append_nil _).symm, List.forall_mem_nil _⟩
  trans _ _ _ first second := by
    obtain ⟨events, extended, passes⟩ := first.trace
    obtain ⟨more, further, passesMore⟩ := second.trace
    refine ⟨second.memory.trans first.memory, events ++ more, ?_, ?_⟩
    · rw [further, extended, List.append_assoc]
    · exact List.forall_mem_append.mpr ⟨passes, passesMore⟩

theorem Quiet.placid {before after : Router} (quiet : Quiet before after) : Placid before after := by
  obtain ⟨events, extended, sending⟩ := quiet.trace
  refine ⟨quiet.memory, events, extended, fun event member => ?_⟩
  have sends := sending event member
  cases event with
  | passedUp extended indication packet => cases sends
  | _ => rfl

/-- A change that leaves memory and trace alone. -/
theorem placid_silent {before after : Router} (memory : after.gbcMemory = before.gbcMemory)
    (trace : after.trace = before.trace) : Placid before after :=
  ⟨memory, [], by rw [trace, List.append_nil], List.forall_mem_nil _⟩

section Placidity

variable {platform : Platform} {env : Environment} {reception : ℕ}

theorem placid_of_calm {α : Type} {act : Act α} (calm : Calm act) : Action.Moves Placid act :=
  calm.mono fun _ _ => Quiet.placid

theorem placid_emit {event : Event} (passes : event.passing = none) :
    Action.Moves Placid (Act.emit event) :=
  .update fun _ => ⟨rfl, [event], rfl, by simpa using passes⟩

theorem placid_of_learns {α : Type} {act : Act α} (learns : Action.Moves Learns act) :
    Action.Moves Placid act := by
  refine learns.mono ?_
  rintro before _ ⟨table, lpv, rfl⟩
  exact placid_silent rfl rfl

theorem placid_destinationArea (gbc : GeoBroadcastHeader) (ht : HeaderType) :
    Action.Moves Placid (destinationArea gbc ht) :=
  placid_of_calm (calm_of_performs (performs_destinationArea gbc ht : Performs (fun _ => True) True _))

theorem placid_forwardReceived (pdu : GbcPdu) (packet : UpPacket) (ll : LinkLayer) :
    Action.Moves Placid (forwardReceived platform env reception pdu packet ll) := by
  refine placid_of_calm (.bind (moves_read _) fun _ => .ite (fun _ => ?_) fun _ => ?_)
  · exact calm_of_performs (performs_pushBroadcastGbc (A := fun _ => True) trivial)
  · exact calm_of_performs (performs_processGbc hereditary_all trivial)

theorem placid_forwardUnlessStopped (pdu : GbcPdu) (packet : UpPacket) (ll : LinkLayer) :
    Action.Moves Placid (forwardUnlessStopped platform env reception pdu packet ll) := by
  refine .bind (moves_read _) fun router => ?_
  split
  · exact placid_emit rfl
  · exact placid_forwardReceived _ _ _

theorem placid_processAccepted (pdu : GbcPdu) (packet : UpPacket) (ll : LinkLayer)
    (locteExists : Bool) :
    Action.Moves Placid (processAccepted platform env reception pdu packet ll locteExists) := by
  exact .bind (placid_of_learns (learns_detectMultiHopDuplicateAddress _ _)) fun _ =>
    .bind (placid_of_learns (learns_updateGbcSource _ _ _)) fun _ =>
      .bind (placid_of_calm calm_flushUnicastForwardingBuffer) fun _ =>
        placid_forwardUnlessStopped pdu packet ll

end Placidity

/-! ### The decision about a packet -/

namespace Router

/-- The invariant of a router. -/
def Deduplicates (router : Router) (capacity : ℕ) : Prop :=
  Deduplicated capacity router.gbcMemory router.trace

end Router

section Decision

variable {platform : Platform} {env : Environment} {reception capacity : ℕ} {id : PacketIdentifier}
  {before after : Router}

theorem Placid.deduplicates (placid : Placid before after) (dedup : before.Deduplicates capacity) :
    after.Deduplicates capacity := by
  obtain ⟨events, extended, passes⟩ := placid.trace
  unfold Router.Deduplicates
  rw [placid.memory, extended]
  exact history_append (fun _ _ passes dedup => dedup.concat passes) events _ passes dedup

theorem Placid.recent (placid : Placid before after) (recent : Recent id before.trace) :
    Recent id after.trace := by
  obtain ⟨events, extended, passes⟩ := placid.trace
  rw [extended]
  exact history_append (fun _ _ passes recent => recent.concat passes) events _ passes recent

/-- The packet may be passed up, and the memory has just been asked about it. -/
def ReadyToPass (capacity : ℕ) (id : PacketIdentifier) (router : Router) : Prop :=
  (∃ older, router.gbcMemory.identifiers = older ++ [id]) ∧ Passable capacity id router.trace

/-- A packet within its destination area has just been received. -/
def JustReceived (capacity : ℕ) (id : PacketIdentifier) (within : Bool) (router : Router) : Prop :=
  router.Deduplicates capacity ∧ (within = true → Recent id router.trace)

theorem Placid.justReceived {within : Bool} (placid : Placid before after)
    (just : JustReceived capacity id within before) : JustReceived capacity id within after :=
  ⟨placid.deduplicates just.1, fun inside => placid.recent (just.2 inside)⟩

/-- **The pass-up decision.** -/
theorem ensures_decidePassUp (limited : platform.mib.vanetzaGbcMemoryCapacity = capacity)
    (positive : 0 < capacity) (within : Bool) (gbc : GeoBroadcastHeader) :
    Action.Ensures (JustReceived capacity gbc.identifier within)
      (decidePassUp platform within gbc)
      (fun passes router => router.Deduplicates capacity ∧
        (passes = true → ReadyToPass capacity gbc.identifier router))
      fun router => router.Deduplicates capacity := by
  unfold decidePassUp
  rw [limited, if_neg (Nat.pos_iff_ne_zero.mp positive)]
  cases within with
  | false => exact .pure fun router just => ⟨just.1, nofun⟩
  | true =>
    refine .update fun router just => ?_
    obtain ⟨dedup, latest, passable⟩ := just.1.remember positive (just.2 rfl)
    refine ⟨dedup, fun passes => ⟨latest, passable ?_⟩⟩
    exact (Bool.not_eq_true' _).mp passes

variable (capacity) in
/-- The action keeps the invariant of a router, however it ends. -/
abbrev KeepsDeduplicated {α : Type} (act : Act α) : Prop :=
  Action.Keeps (fun router => router.Deduplicates capacity) act

theorem keeps_placid {α : Type} {act : Act α} (moves : Action.Moves Placid act) :
    KeepsDeduplicated capacity act :=
  moves.ensures fun _ _ placid => placid.deduplicates

/-- Before the decision a router only learns, buffers and sends. -/
theorem ensures_keepsJust {α : Type} {act : Act α} {within : Bool} (moves : Action.Moves Placid act) :
    Action.Ensures (JustReceived capacity id within) act (fun _ => JustReceived capacity id within)
      fun router => router.Deduplicates capacity := by
  have kept : Action.Keeps (JustReceived capacity id within) act :=
    moves.ensures fun _ _ placid just => placid.justReceived just
  exact kept.weaken (fun _ _ just => just) fun _ just => just.1

theorem ensures_received (pdu : GbcPdu) (packet : UpPacket) (within : Bool) :
    Action.Ensures (fun router => router.Deduplicates capacity)
      (Act.emit (.received reception pdu packet within))
      (fun _ => JustReceived capacity pdu.extended.identifier within)
      fun router => router.Deduplicates capacity := by
  refine .update fun router dedup => ⟨Deduplicated.concat dedup rfl, ?_⟩
  rintro rfl
  exact recent_received rfl rfl

theorem ensures_processExtendedGbc (limited : platform.mib.vanetzaGbcMemoryCapacity = capacity)
    (positive : 0 < capacity) (pdu : GbcPdu) (packet : UpPacket) (ll : LinkLayer) :
    Action.Ensures (fun router => router.Deduplicates capacity)
      (processExtendedGbc platform env reception pdu packet ll)
      (fun passes router => router.Deduplicates capacity ∧
        (passes = true → ReadyToPass capacity pdu.extended.identifier router))
      fun router => router.Deduplicates capacity := by
  refine .bind (keeps_placid (placid_destinationArea _ _)) fun area =>
    .bind (keeps_placid (moves_read _)) fun start => ?_
  dsimp only
  refine .bind (ensures_received pdu packet _) fun _ => ?_
  have rest : ∀ duplicatePacket : Bool,
      Action.Ensures
        (JustReceived capacity pdu.extended.identifier
          (platform.geometry.insideOrAtBorder area start.localPositionVector.position))
        (if duplicatePacket then pure false
          else do
            Act.emit (.accepted reception pdu.extended)
            processAccepted platform env reception pdu packet ll
              (start.locationTable.hasValue start.now pdu.extended.sourcePosition.gnAddr.mid)
            decidePassUp platform
              (platform.geometry.insideOrAtBorder area start.localPositionVector.position)
              pdu.extended)
        (fun passes router => router.Deduplicates capacity ∧
          (passes = true → ReadyToPass capacity pdu.extended.identifier router))
        fun router => router.Deduplicates capacity := by
    refine fun duplicatePacket => .ite (fun _ => ?_) fun _ => ?_
    · exact .pure fun router just => ⟨just.1, nofun⟩
    · exact .bind (ensures_keepsJust (placid_emit rfl)) fun _ =>
        .bind (ensures_keepsJust (placid_processAccepted _ _ _ _)) fun _ =>
          ensures_decidePassUp limited positive _ _
  refine .ite (fun _ => ?_) fun _ => ?_
  · exact .bind (ensures_keepsJust (placid_of_learns (learns_detectDuplicatePacket _ _))) rest
  · exact .bind (ensures_keepsJust (.pure false)) rest

/-! ### The stages of an indication -/

/-- The extended header is the identified packet's, if it is a GeoBroadcast packet's. -/
def ReadyToPassUp (capacity : ℕ) (extended : HeaderVariant) (router : Router) : Prop :=
  ∀ gbc, extended = .geoBroadcast gbc → ReadyToPass capacity gbc.identifier router

theorem ensures_visitExtended (limited : platform.mib.vanetzaGbcMemoryCapacity = capacity)
    (positive : 0 < capacity) (pdu : VariantPdu) (packet : UpPacket) (ll : LinkLayer)
    (indication : DataIndication) :
    Action.Ensures (fun router => router.Deduplicates capacity)
      (visitExtended platform env reception pdu packet ll indication)
      (fun visited router => router.Deduplicates capacity ∧
        (visited.1 = true → ReadyToPassUp capacity pdu.extended router))
      fun router => router.Deduplicates capacity := by
  unfold visitExtended
  cases pdu.extended with
  | shb shb =>
    refine .bind (keeps_placid (placid_of_learns (learns_processExtendedShb _ _ _))) fun passes => ?_
    exact .pure fun router dedup => ⟨dedup, fun _ _ impossible => nomatch impossible⟩
  | geoBroadcast gbc =>
    refine .bind (keeps_placid (placid_destinationArea _ _)) fun destination =>
      .bind (ensures_processExtendedGbc limited positive _ _ _) fun passes => ?_
    refine .pure fun router processed => ⟨processed.1, fun passing other same => ?_⟩
    cases same
    exact processed.2 passing
  | beacon beacon =>
    refine .bind (keeps_placid (placid_of_learns (learns_processExtendedBeacon _ _ _))) fun passes => ?_
    exact .pure fun router dedup => ⟨dedup, fun _ _ impossible => nomatch impossible⟩

theorem ensures_passUp (extended : HeaderVariant) (ind : DataIndication) (packet : UpPacket) :
    Action.Ensures
      (fun router => router.Deduplicates capacity ∧ ReadyToPassUp capacity extended router)
      (passUp extended ind packet) (fun _ router => router.Deduplicates capacity)
      fun router => router.Deduplicates capacity := by
  have reads : Action.Ensures
      (fun router => router.Deduplicates capacity ∧ ReadyToPassUp capacity extended router)
      (Act.read fun router => router.transportHandler ind.upperProtocol)
      (fun _ router => router.Deduplicates capacity ∧ ReadyToPassUp capacity extended router)
      fun router => router.Deduplicates capacity :=
    .update fun router ready => ready
  refine .bind reads fun transport => .ite (fun _ => ?_) fun _ => .pure fun router ready => ready.1
  refine .update fun router ready => ?_
  cases extended with
  | geoBroadcast gbc =>
    have passable := ready.2 gbc rfl
    exact Deduplicated.pass ready.1 passable.1 passable.2 rfl
  | shb shb => exact Deduplicated.concat ready.1 rfl
  | beacon beacon => exact Deduplicated.concat ready.1 rfl

theorem keeps_visitParsed_deduplicated (limited : platform.mib.vanetzaGbcMemoryCapacity = capacity)
    (positive : 0 < capacity) (pdu : VariantPdu) (packet : UpPacket) (ll : LinkLayer)
    (indication : DataIndication) :
    KeepsDeduplicated capacity (visitParsed platform env reception pdu packet ll indication) := by
  refine .bind (ensures_visitExtended limited positive pdu packet ll indication) fun visited => ?_
  refine .ite (fun passes => ?_) fun _ => .pure fun router visited => visited.1
  exact (ensures_passUp _ _ _).mono (fun router visited => ⟨visited.1, visited.2 passes⟩)
    fun _ _ dedup => dedup

theorem placid_dropExpired : Action.Moves Placid dropExpired :=
  .update fun _ => ⟨rfl, [_], rfl, by simp [Event.passing]⟩

/-- **An indication keeps the invariant.** -/
theorem keeps_indicate_deduplicated (limited : platform.mib.vanetzaGbcMemoryCapacity = capacity)
    (positive : 0 < capacity) (packet : UpPacket) (ll : LinkLayer) :
    KeepsDeduplicated capacity (indicate platform env reception packet ll) :=
  keeps_indicate (fun _ => keeps_placid (placid_emit rfl)) (keeps_placid placid_dropExpired)
    (keeps_placid (placid_of_calm calm_flushBroadcastForwardingBuffer))
    fun _ _ _ _ _ _ => keeps_visitParsed_deduplicated limited positive _ _ _ _

end Decision

/-! ### Runs -/

section Runs

variable {platform : Platform} {capacity : ℕ}

theorem deduplicates_create (limited : platform.mib.vanetzaGbcMemoryCapacity = capacity)
    (positive : 0 < capacity) (now firstBeacon : ℤ) :
    (Router.create platform.mib now firstBeacon).Deduplicates capacity := by
  have memory : GbcMemory.initial.setCapacity capacity = ⟨capacity, []⟩ := by
    unfold GbcMemory.setCapacity
    rw [if_neg (by omega)]
    exact congrArg (GbcMemory.mk capacity) List.drop_nil
  unfold Router.Deduplicates
  rw [create_gbcMemory, create_trace, limited, memory]
  refine ⟨rfl, List.nodup_nil, Nat.zero_le capacity, ?_, ?_⟩
  · intro earlier event later id split
    simp at split
  · intro earlier first between second later id split
    simp at split

theorem sustains_deduplicated (limited : platform.mib.vanetzaGbcMemoryCapacity = capacity)
    (positive : 0 < capacity) :
    Station.Sustains platform (fun router => router.Deduplicates capacity) where
  indicates _ _ packet ll := keeps_indicate_deduplicated limited positive packet ll
  requests _ request payload := keeps_placid (placid_of_calm (calm_request request payload))
  invokes _ callback deadline := keeps_placid (placid_of_calm (calm_invoke callback deadline))
  manages _ _ _ _ dedup := dedup

/-- **GeoBroadcast packets are passed up once.** With a memory for `N` identifiers, a station passes
packets with one identifier up twice only if packets with `N` other identifiers have been received
within their destination areas in between. -/
theorem passings_separated (platform : Platform) (station : Station)
    (positive : 0 < platform.mib.vanetzaGbcMemoryCapacity)
    (reached : Reachable (Station.Initial platform) (Station.step platform) station)
    (earlier between later : List Event) (first second : Event) (id : PacketIdentifier)
    (split : station.router.trace = earlier ++ first :: (between ++ second :: later))
    (passing : first.passing = some id) (again : second.passing = some id) :
    ∃ others : List PacketIdentifier, others.Nodup ∧
      others.length = platform.mib.vanetzaGbcMemoryCapacity ∧ id ∉ others ∧
      ∀ other ∈ others, ∃ event ∈ between, event.receivedWithin = some other := by
  have dedup : station.router.Deduplicates platform.mib.vanetzaGbcMemoryCapacity :=
    (sustains_deduplicated rfl positive).reachable (deduplicates_create rfl positive) reached
  exact dedup.separated _ _ _ _ _ _ split passing again

end Runs

/-! ### A packet that is passed up again -/

theorem split_passings {trace : List Event} {id : PacketIdentifier}
    {earlier between later : List (Option PacketIdentifier)}
    (passings : trace.map Event.passing = earlier ++ some id :: (between ++ some id :: later)) :
    ∃ before first middle second after, trace = before ++ first :: (middle ++ second :: after) ∧
      first.passing = some id ∧ second.passing = some id := by
  obtain ⟨before, rest, rfl, _, mapped⟩ := List.map_eq_append_iff.mp passings
  obtain ⟨first, rest, rfl, passing, mapped⟩ := List.map_eq_cons_iff.mp mapped
  obtain ⟨middle, rest, rfl, _, mapped⟩ := List.map_eq_append_iff.mp mapped
  obtain ⟨second, after, rfl, again, _⟩ := List.map_eq_cons_iff.mp mapped
  exact ⟨before, first, middle, second, after, rfl, passing, again⟩

/-- A router with a memory for one packet, which processes duplicates. -/
def forgetful : Platform where
  mib := { Mib.initial with
    vanetzaDisableBeaconing := true
    itsGnAreaForwardingAlgorithm := .advanced
    vanetzaGbcMemoryCapacity := 1 }
  geometry := flatland

/-- One other packet is received before a packet is passed up again. -/
theorem passings_separated_forgetful :
    ∃ station : Station, Reachable (Station.Initial forgetful) (Station.step forgetful) station ∧
      ∃ between : List Event, ∃ others : List PacketIdentifier, others.Nodup ∧ others.length = 1 ∧
        ⟨LongPositionVector.zero.gnAddr, 1⟩ ∉ others ∧
        ∀ other ∈ others, ∃ event ∈ between, event.receivedWithin = some other := by
  obtain ⟨station, reached, passings⟩ := run_reach (Station.Initial forgetful)
    (Station.step forgetful) (fun _ _ => True)
    (fun station => station.router.trace.map Event.passing =
      [none, none, none, none] ++ some ⟨LongPositionVector.zero.gnAddr, 1⟩ ::
        ([none, none, none, none, some ⟨LongPositionVector.zero.gnAddr, 2⟩,
          none, none, none, none] ++ some ⟨LongPositionVector.zero.gnAddr, 1⟩ :: []))
    ⟨0, 0, rfl⟩
    [(insecure, .setTransportHandler .btpB true),
      hears (announcement LongPositionVector.zero.gnAddr 1),
      hears (announcement LongPositionVector.zero.gnAddr 2),
      hears (announcement LongPositionVector.zero.gnAddr 1)] (by decide)
  obtain ⟨earlier, first, between, second, later, split, passing, again⟩ := split_passings passings
  exact ⟨station, reached, between, passings_separated forgetful station (by decide) reached
    earlier between later first second _ split passing again⟩

end Vanet.Geonet
