/-
**The stations and the messages in flight.**

A step of the system runs one handler on one message in flight, loses a message, or runs the loop of
one station for a turn. A DENM comes back to its publisher in plain form and reaches the other
stations under `fields`, if the publisher's broker can encode it; every message is delivered at most
once, in any order and after any delay. The history records who was elected, who published what
and who accepted whose SET.

* `step_cases`: the three kinds of step, and `system_invariant`, the induction over a run with one
  case for each of them.
* `Traced`: every message in flight was published, and every publisher signs with its own id
  (`reachable_traced`).
* `Shaped`: the records have the shape the handlers rely on (`reachable_shaped`).
-/

import Mathlib.Tactic.NormNum
import Vanet.Library.Run
import Vanet.Simulator.HandlerSpecs
import Vanet.Simulator.Loop

namespace Vanet.Simulator

open Vanet.Library Vanet.Socktap

/-- A message in flight. -/
structure Packet where
  dest : Station
  message : Message
  deriving DecidableEq

/-- What is recorded of a run. -/
inductive Event
  /-- `leaderCheck` returned `True` in the loop of station `i`. -/
  | leaderCheckTrue (i : Station)
  | published (i : Station) (payload : DenmText)
  /-- Station `i` handled another station's SET. -/
  | acceptedSet (i : Station) (originator : ℕ)
  deriving DecidableEq

/-- A state of the system. -/
structure System where
  procs : Station → Process
  inflight : List Packet
  history : List Event

/-- A step of the scheduler or of the network. -/
inductive Action
  | deliver (k : ℕ)
  | lose (k : ℕ)
  | loop (i : Station)
  deriving DecidableEq

/-- The stations that hear station `i`. -/
def others (i : Station) : List Station := (List.finRange 4).filter (· ≠ i)

/-- A DENM on its way: plain to the publisher, encoded and decoded to the others. -/
def denmPackets (i : Station) (payload : DenmText) : List Packet :=
  ⟨i, .ownDenm payload⟩ ::
    payload.broadcast.toList.flatMap fun denm => (others i).map fun j => ⟨j, .denm denm⟩

/-- A CAM on its way. -/
def camPackets (i : Station) (payload : CamJson) : List Packet :=
  ⟨i, .cam payload⟩ ::
    (camBroadcast payload).toList.flatMap fun received => (others i).map fun j => ⟨j, .cam received⟩

/-- The acceptance of a SET. -/
def acceptance (i : Station) : Message → List Event
  | .denm denm => if denm.Event 100 1 then [.acceptedSet i denm.originatingStationID] else []
  | _ => []

/-- A won election. -/
def election (i : Station) (t : Turn) : List Event :=
  if t.process.loop.phase = .elected then [.leaderCheckTrue i] else []

namespace System

variable (world : World)

def initial : System where
  procs _ := .initial
  inflight := []
  history := []

/-- The outcome of the handler that receives a packet. -/
def outcome (s : System) (packet : Packet) : Outcome :=
  handler world packet.dest (s.procs packet.dest) packet.message

/-- The state after a delivery. -/
def delivered (s : System) (k : ℕ) (packet : Packet) : System where
  procs := Function.update s.procs packet.dest (s.outcome world packet).process
  inflight :=
    s.inflight.eraseIdx k ++ (s.outcome world packet).denms.flatMap (denmPackets packet.dest)
  history :=
    s.history ++ (acceptance packet.dest packet.message ++
      (s.outcome world packet).denms.map (.published packet.dest))

/-- The state after the loss of a message. -/
def lost (s : System) (k : ℕ) : System := { s with inflight := s.inflight.eraseIdx k }

/-- The state after a turn of a loop. -/
def turned (s : System) (i : Station) (t : Turn) : System where
  procs := Function.update s.procs i t.process
  inflight :=
    s.inflight ++ (t.denms.flatMap (denmPackets i) ++ t.cams.flatMap (camPackets i))
  history := s.history ++ (election i t ++ t.denms.map (.published i))

/-- One step. A process that has ended neither runs nor receives. -/
def step (s : System) : Action → Option System
  | .deliver k =>
    match s.inflight[k]? with
    | some packet =>
      if (s.procs packet.dest).Running then some (s.delivered world k packet) else none
    | none => none
  | .lose k => if k < s.inflight.length then some (s.lost k) else none
  | .loop i => (turn world i (s.procs i)).map (s.turned i)

end System

/-- The reachable states. -/
abbrev Reached (world : World) : System → Prop :=
  Reachable (· = System.initial) (System.step world)

section Steps

variable {world : World} {s after : System} {action : Action}

/-- **The three kinds of step.** -/
theorem step_cases (taken : s.step world action = some after) :
    (∃ k packet, action = .deliver k ∧ s.inflight[k]? = some packet ∧
      (s.procs packet.dest).Running ∧ after = s.delivered world k packet) ∨
    (∃ k, action = .lose k ∧ after = s.lost k) ∨
    (∃ i t, action = .loop i ∧ turn world i (s.procs i) = some t ∧ after = s.turned i t) := by
  cases action with
  | deliver k =>
    simp only [System.step] at taken
    split at taken
    · rename_i packet found
      split_ifs at taken with running
      exact .inl ⟨k, packet, rfl, found, running, (Option.some.inj taken).symm⟩
    · cases taken
  | lose k =>
    simp only [System.step] at taken
    split_ifs at taken
    exact .inr (.inl ⟨k, rfl, (Option.some.inj taken).symm⟩)
  | loop i =>
    obtain ⟨t, turns, rfl⟩ := Option.map_eq_some_iff.mp taken
    exact .inr (.inr ⟨i, t, rfl, turns, rfl⟩)

/-- The history is only extended. -/
theorem step_history (taken : s.step world action = some after) :
    ∃ events, after.history = s.history ++ events := by
  rcases step_cases taken with ⟨k, packet, -, -, -, rfl⟩ | ⟨k, -, rfl⟩ | ⟨i, t, -, -, rfl⟩
  · exact ⟨_, rfl⟩
  · exact ⟨[], (List.append_nil _).symm⟩
  · exact ⟨_, rfl⟩

theorem step_history_mono (taken : s.step world action = some after) {event : Event}
    (recorded : event ∈ s.history) : event ∈ after.history := by
  obtain ⟨events, extended⟩ := step_history taken
  rw [extended]
  exact List.mem_append_left _ recorded

/-- An event of a delivery. -/
theorem mem_delivered_history {k : ℕ} {packet : Packet} {event : Event} :
    event ∈ (s.delivered world k packet).history ↔ event ∈ s.history ∨
      event ∈ acceptance packet.dest packet.message ∨
      ∃ text ∈ (s.outcome world packet).denms, event = .published packet.dest text := by
  simp [System.delivered, eq_comm]

/-- An event of a turn. -/
theorem mem_turned_history {i : Station} {t : Turn} {event : Event} :
    event ∈ (s.turned i t).history ↔ event ∈ s.history ∨ event ∈ election i t ∨
      ∃ text ∈ t.denms, event = .published i text := by
  simp [System.turned, eq_comm]

theorem published_not_mem_acceptance {i j : Station} {message : Message} {text : DenmText} :
    .published j text ∉ acceptance i message := by
  cases message with
  | ownDenm payload => exact List.not_mem_nil
  | cam payload => exact List.not_mem_nil
  | denm denm =>
    by_cases set : denm.Event 100 1 <;> simp [acceptance, set]

theorem published_not_mem_election {i j : Station} {t : Turn} {text : DenmText} :
    .published j text ∉ election i t := by
  unfold election
  split_ifs <;> simp

theorem mem_others {i j : Station} : j ∈ others i ↔ j ≠ i := by
  simp [others]

theorem mem_denmPackets {i : Station} {payload : DenmText} {packet : Packet} :
    packet ∈ denmPackets i payload ↔
      packet = ⟨i, .ownDenm payload⟩ ∨
      ∃ denm, payload.broadcast = some denm ∧ packet.dest ≠ i ∧ packet.message = .denm denm := by
  unfold denmPackets
  rw [List.mem_cons]
  refine or_congr Iff.rfl ?_
  simp only [List.mem_flatMap, List.mem_map, Option.mem_toList, mem_others]
  constructor
  · rintro ⟨denm, sent, j, other, rfl⟩
    exact ⟨denm, sent, other, rfl⟩
  · rintro ⟨denm, sent, other, content⟩
    exact ⟨denm, sent, packet.dest, other, by rw [← content]⟩

theorem mem_camPackets {i : Station} {payload : CamJson} {packet : Packet} :
    packet ∈ camPackets i payload ↔
      packet = ⟨i, .cam payload⟩ ∨
      ∃ received, camBroadcast payload = some received ∧ packet.dest ≠ i ∧
        packet.message = .cam received := by
  unfold camPackets
  rw [List.mem_cons]
  refine or_congr Iff.rfl ?_
  simp only [List.mem_flatMap, List.mem_map, Option.mem_toList, mem_others]
  constructor
  · rintro ⟨received, sent, j, other, rfl⟩
    exact ⟨received, sent, other, rfl⟩
  · rintro ⟨received, sent, other, content⟩
    exact ⟨received, sent, packet.dest, other, by rw [← content]⟩

/-- **The induction over a guarded run**, with one case for each kind of step. -/
theorem system_invariant {ok : System → Action → Prop} {I : System → Prop}
    (base : I System.initial)
    (delivers : ∀ s k packet, Reached world s → I s → ok s (.deliver k) →
      s.inflight[k]? = some packet → (s.procs packet.dest).Running →
      I (s.delivered world k packet))
    (loses : ∀ s k, I s → I (s.lost k))
    (turns : ∀ s i t, Reached world s → I s → ok s (.loop i) →
      turn world i (s.procs i) = some t → I (s.turned i t)) :
    ∀ s, GuardedReach (· = System.initial) (System.step world) ok s → I s := by
  refine GuardedReach.invariant ?_ ?_
  · rintro first rfl
    exact base
  · intro before action after reached holds meets taken
    rcases step_cases taken with
      ⟨k, packet, rfl, found, running, rfl⟩ | ⟨k, rfl, rfl⟩ | ⟨i, t, rfl, turning, rfl⟩
    · exact delivers before k packet reached.reachable holds meets found running
    · exact loses before k holds
    · exact turns before i t reached.reachable holds meets turning

/-- A delivery leaves every loop alone. -/
@[simp] theorem delivered_loop (k : ℕ) (packet : Packet) (i : Station) :
    ((s.delivered world k packet).procs i).loop = (s.procs i).loop := by
  by_cases same : i = packet.dest
  · subst same
    simp [System.delivered, System.outcome]
  · simp [System.delivered, same]

/-- The group ids after a delivery. -/
theorem delivered_groupID (k : ℕ) (packet : Packet) (i : Station) :
    (((s.delivered world k packet).procs i).vals i).groupID =
      if i = packet.dest then groupIDAfter ((s.procs i).vals i).groupID packet.message
      else ((s.procs i).vals i).groupID := by
  split_ifs with same
  · subst same
    simp [System.delivered, System.outcome]
  · simp [System.delivered, same]

@[simp] theorem turned_self (i : Station) (t : Turn) : (s.turned i t).procs i = t.process := by
  simp [System.turned]

theorem turned_other {i j : Station} (t : Turn) (other : j ≠ i) :
    (s.turned i t).procs j = s.procs j := by
  simp [System.turned, other]

/-- A turn leaves every group id alone. -/
theorem turned_groupID {i : Station} {t : Turn} (turning : turn world i (s.procs i) = some t)
    (j : Station) :
    (((s.turned i t).procs j).vals j).groupID = ((s.procs j).vals j).groupID := by
  by_cases same : j = i
  · subst same
    rw [turned_self]
    exact (turn_drives turning).groupID
  · rw [turned_other t same]

end Steps

/-! ### Where the messages come from -/

/-- A message in flight goes back to a published payload. -/
def Packet.Traced (history : List Event) (packet : Packet) : Prop :=
  match packet.message with
  | .ownDenm payload => .published packet.dest payload ∈ history
  | .denm denm => ∃ sender text, sender ≠ packet.dest ∧ .published sender text ∈ history ∧
      text.broadcast = some denm
  | .cam payload => ∃ sender : Station, payload.stationID = sender

theorem Packet.Traced.mono {history later : List Event} {packet : Packet}
    (traced : packet.Traced history) (extended : ∀ event ∈ history, event ∈ later) :
    packet.Traced later := by
  unfold Packet.Traced at traced ⊢
  split
  · rename_i payload content
    rw [content] at traced
    exact extended _ traced
  · rename_i denm content
    rw [content] at traced
    obtain ⟨sender, text, other, sent, received⟩ := traced
    exact ⟨sender, text, other, extended _ sent, received⟩
  · rename_i payload content
    rw [content] at traced
    exact traced

/-- A published DENM is traced as soon as its publication is recorded. -/
theorem traced_denmPackets {history : List Event} {i : Station} {payload : DenmText}
    (recorded : .published i payload ∈ history) {packet : Packet}
    (member : packet ∈ denmPackets i payload) : packet.Traced history := by
  rcases mem_denmPackets.mp member with rfl | ⟨denm, sent, other, content⟩
  · exact recorded
  · unfold Packet.Traced
    rw [content]
    exact ⟨i, payload, other.symm, recorded, sent⟩

/-- **Every message in flight was published, and every publisher signs with its own id.** -/
structure Traced (s : System) : Prop where
  signed : ∀ (i : Station) text, .published i text ∈ s.history → text.originatingStationID = str i
  inflight : ∀ packet ∈ s.inflight, packet.Traced s.history

/-- Everything a turn publishes is signed by the station. -/
theorem turn_signed {world : World} {i : Station} {p : Process} {t : Turn}
    (taken : turn world i p = some t) {text : DenmText} (sent : text ∈ t.denms) :
    text.originatingStationID = str i := by
  rcases turn_sent taken sent with ⟨-, -, -, built⟩ | ⟨-, built⟩ <;>
  · obtain ⟨group, -, rfl⟩ := groupPayload_eq_ok.mp built
    rfl

/-- Every CAM of a turn carries the station's id. -/
theorem turn_cams {world : World} {i : Station} {p : Process} {t : Turn}
    (taken : turn world i p = some t) {payload : CamJson} (sent : payload ∈ t.cams) :
    ∃ position, payload = camPayload i position (p.vals i).speed := by
  rcases turn_cases taken with ⟨_, rfl⟩ | ⟨_, rfl⟩ | ⟨_, _, rfl⟩ | ⟨_, _, rfl⟩ | ⟨_, rfl⟩
  · exact ⟨_, List.mem_singleton.mp sent⟩
  · rcases repeatDenm_cases with ⟨_, _, _, _, result⟩ | ⟨_, _, _, _, result⟩ | result <;>
      rw [result] at sent <;> cases sent
  · rcases checkLeader_cases with ⟨_, _, _, _, result⟩ | ⟨_, _, _, result⟩ | ⟨_, result⟩ <;>
      rw [result] at sent <;> cases sent
  · exact drive_cams sent
  · rcases publishSet_cases with ⟨_, _, result⟩ | ⟨_, _, result⟩ <;> rw [result] at sent <;> cases sent

theorem reachable_traced {world : World} {s : System} (reached : Reached world s) : Traced s := by
  refine GuardedReach.invariant ?_ ?_ s reached
  · rintro first rfl
    exact ⟨fun _ _ recorded => absurd recorded List.not_mem_nil,
      fun _ member => absurd member List.not_mem_nil⟩
  intro before action after _ traced _ taken
  have kept : ∀ event ∈ before.history, event ∈ after.history :=
    fun event recorded => step_history_mono taken recorded
  rcases step_cases taken with
    ⟨k, packet, -, -, -, rfl⟩ | ⟨k, -, rfl⟩ | ⟨i, t, -, turns, rfl⟩
  · constructor
    · intro i text recorded
      rcases mem_delivered_history.mp recorded with old | accepted | ⟨sent, member, same⟩
      · exact traced.signed i text old
      · exact absurd accepted published_not_mem_acceptance
      · cases same
        obtain ⟨denm, -, answers⟩ := handler_sent member
        exact answers.originator
    · intro other member
      rcases List.mem_append.mp member with old | new
      · exact (traced.inflight other (List.mem_of_mem_eraseIdx old)).mono kept
      · obtain ⟨text, sent, member⟩ := List.mem_flatMap.mp new
        exact traced_denmPackets (mem_delivered_history.mpr (.inr (.inr ⟨text, sent, rfl⟩))) member
  · exact ⟨traced.signed, fun other member =>
      traced.inflight other (List.mem_of_mem_eraseIdx member)⟩
  · constructor
    · intro j text recorded
      rcases mem_turned_history.mp recorded with old | elected | ⟨sent, member, same⟩
      · exact traced.signed j text old
      · exact absurd elected published_not_mem_election
      · cases same
        exact turn_signed turns member
    · intro other member
      rcases List.mem_append.mp member with old | new
      · exact (traced.inflight other old).mono kept
      rcases List.mem_append.mp new with denm | cam
      · obtain ⟨text, sent, member⟩ := List.mem_flatMap.mp denm
        exact traced_denmPackets (mem_turned_history.mpr (.inr (.inr ⟨text, sent, rfl⟩))) member
      · obtain ⟨payload, sent, member⟩ := List.mem_flatMap.mp cam
        obtain ⟨position, rfl⟩ := turn_cams turns sent
        rcases mem_camPackets.mp member with rfl | ⟨received, broadcast, -, content⟩
        · exact ⟨i, rfl⟩
        · unfold Packet.Traced
          rw [content]
          obtain ⟨-, rfl⟩ := camBroadcast_eq_some broadcast
          exact ⟨i, rfl⟩

/-- **A DENM of another station names that station**, and it was published there. -/
theorem Traced.denm {s : System} (traced : Traced s) {i : Station} {denm : Denm}
    (member : ⟨i, .denm denm⟩ ∈ s.inflight) :
    ∃ sender text, sender ≠ i ∧ .published sender text ∈ s.history ∧
      text.broadcast = some denm ∧ denm.originatingStationID = sender := by
  obtain ⟨sender, text, other, recorded, sent⟩ := traced.inflight _ member
  refine ⟨sender, text, other, recorded, sent, ?_⟩
  obtain ⟨read, parsed, -, rfl⟩ := DenmText.broadcast_eq_some_iff.mp sent
  have origin := (DenmText.loads_eq_some_iff.mp parsed).1
  rw [traced.signed _ _ recorded] at origin
  exact (toDigits_injective origin).symm

/-- The own DENM names the station. -/
theorem Traced.ownDenm {s : System} (traced : Traced s) {i : Station} {payload : DenmText}
    (member : ⟨i, .ownDenm payload⟩ ∈ s.inflight) :
    .published i payload ∈ s.history ∧
      ∀ denm, payload.loads = some denm → denm.originatingStationID = i := by
  have recorded : .published i payload ∈ s.history := traced.inflight _ member
  refine ⟨recorded, fun denm parsed => ?_⟩
  have origin := (DenmText.loads_eq_some_iff.mp parsed).1
  rw [traced.signed _ _ recorded] at origin
  exact (toDigits_injective origin).symm

/-! ### The shape of the records -/

/-- **The shape of a station's records**: the location is empty or a position, the speed is the initial
one or that of a group, and the surroundings are a dictionary over the stations. -/
structure Shaped (s : System) : Prop where
  location : ∀ i, ((s.procs i).vals i).location = [] ∨
    ∃ position : Position, ((s.procs i).vals i).location = [position.lat, position.lng]
  speed : ∀ i, ((s.procs i).vals i).speed = 100 ∨ ((s.procs i).vals i).speed = 120
  distinct : ∀ i, (s.procs i).surroundings.keys.Nodup
  stations : ∀ i, ∀ key ∈ (s.procs i).surroundings.keys, key < 4

theorem Shaped.location_length {s : System} (shaped : Shaped s) (i : Station) :
    ((s.procs i).vals i).location.length ≤ 2 := by
  rcases shaped.location i with empty | ⟨position, held⟩
  · rw [empty]
    exact Nat.zero_le 2
  · rw [held]
    exact le_rfl

theorem shaped_delivered {world : World} {s : System} {k : ℕ} {packet : Packet} (traced : Traced s)
    (shaped : Shaped s) (found : s.inflight[k]? = some packet) :
    Shaped (s.delivered world k packet) := by
  have procs : ∀ i, (s.delivered world k packet).procs i =
      if i = packet.dest then (s.outcome world packet).process else s.procs i :=
    fun i => by simp [System.delivered, Function.update_apply]
  have received := @handler_surroundings world packet.dest (s.procs packet.dest) packet.message
  constructor
  · intro i
    rw [procs]
    split_ifs with same
    · subst same
      rw [System.outcome, handler_location]
      exact shaped.location packet.dest
    · exact shaped.location i
  · intro i
    rw [procs]
    split_ifs with same
    · subst same
      rw [System.outcome]
      rcases @handler_speed world packet.dest (s.procs packet.dest) packet.message with kept | group
      · rw [kept]
        exact shaped.speed packet.dest
      · exact .inr group
    · exact shaped.speed i
  · intro i
    rw [procs]
    split_ifs
    · rw [System.outcome]
      rcases received with same | ⟨payload, -, -, added⟩
      · rw [same]
        exact shaped.distinct packet.dest
      · rw [added]
        exact Surroundings.keys_append_nodup (shaped.distinct packet.dest)
    · exact shaped.distinct i
  · intro i key member
    rw [procs] at member
    split_ifs at member
    · rw [System.outcome] at member
      rcases received with same | ⟨payload, content, -, added⟩
      · rw [same] at member
        exact shaped.stations packet.dest key member
      · rw [added] at member
        rcases Surroundings.mem_keys_append.mp member with rfl | old
        · have sent := traced.inflight packet (List.mem_of_getElem? found)
          unfold Packet.Traced at sent
          rw [content] at sent
          obtain ⟨sender, origin⟩ := sent
          rw [origin]
          exact sender.isLt
        · exact shaped.stations packet.dest key old
    · exact shaped.stations i key member

theorem reachable_shaped {world : World} {s : System} (reached : Reached world s) : Shaped s := by
  refine system_invariant ?_ ?_ ?_ ?_ s reached
  · exact ⟨fun _ => .inl rfl, fun _ => .inl rfl, fun _ => List.nodup_nil, fun _ _ member =>
      absurd member List.not_mem_nil⟩
  · exact fun s k packet reached shaped _ found _ =>
      shaped_delivered (reachable_traced reached) shaped found
  · exact fun s k shaped => ⟨shaped.location, shaped.speed, shaped.distinct, shaped.stations⟩
  · intro s i t _ shaped _ turning
    have drives := turn_drives turning
    constructor
    · intro j
      by_cases same : j = i
      · subst same
        rw [turned_self]
        rcases drives.location with kept | moved
        · rw [kept]
          exact shaped.location j
        · exact .inr moved
      · rw [turned_other t same]
        exact shaped.location j
    · intro j
      by_cases same : j = i
      · subst same
        rw [turned_self]
        rcases drives.speed with kept | group
        · rw [kept]
          exact shaped.speed j
        · exact .inr group
      · rw [turned_other t same]
        exact shaped.speed j
    · intro j
      by_cases same : j = i
      · subst same
        rw [turned_self, drives.surroundings]
        exact shaped.distinct j
      · rw [turned_other t same]
        exact shaped.distinct j
    · intro j key member
      by_cases same : j = i
      · subst same
        rw [turned_self, drives.surroundings] at member
        exact shaped.stations j key member
      · rw [turned_other t same] at member
        exact shaped.stations j key member

/-! ### A road on the equator -/

/-- A position on the equator. -/
def eastward (lng : ℚ) : Position where
  lat := 0
  lng := max (-180) (min 180 lng)
  lat_range := Position.origin.lat_range
  lng_range := abs_le.mpr ⟨le_max_left _ _, max_le (by norm_num) (min_le_left _ _)⟩

/-- A straight road to the east. On the equator the bearing is 90 or 270 degrees. -/
def equator : World where
  calcBearing _ lon1 _ lon2 := if lon2 < lon1 then 270 else if lon1 < lon2 then 90 else 0
  destination _ lng distance _ := eastward (lng + distance / 111320)
  startPoint := eastward 0
  distances := [1000000]
  bearings := [90]

/-- Station 0 hears station 1, drives until its check time and reads its last own CAM. -/
def approach : List Action :=
  [.loop 1, .deliver 1, .loop 0] ++ (List.replicate 9 [Action.loop 0, .loop 0]).flatten ++
    [.deliver 39]

/-- Station 0 is elected, publishes its SET (packets 42 to 45) and its first REPEAT (46 to 49). -/
def electionRun : List Action := approach ++ [.loop 0, .loop 0, .loop 0, .loop 0]

end Vanet.Simulator
