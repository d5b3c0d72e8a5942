/-
**The join reply and its addressee.**

A leader answers a request to join with a reply to everybody. Two handlers look for the addressee in
the originator's field, which names the leader, two in the information quality, where they look for
station 2, and none of them sets the group id. `joinReply_reaches_iff` says when the reply does what
it should, over all orders in which its copies arrive.
-/

import Vanet.Simulator.Network

namespace Vanet.Simulator

open Vanet.Library Vanet.Socktap

variable {world : World}

/-! ### Deliveries to several stations -/

/-- The packets are handled one after the other. -/
def deliverAll (world : World) (procs : Station → Process) (packets : List Packet) :
    Station → Process :=
  packets.foldl (fun procs packet => Function.update procs packet.dest
    (handler world packet.dest (procs packet.dest) packet.message).process) procs

theorem deliverAll_cons (procs : Station → Process) (packet : Packet) (rest : List Packet) :
    deliverAll world procs (packet :: rest) =
      deliverAll world (Function.update procs packet.dest
        (handler world packet.dest (procs packet.dest) packet.message).process) rest :=
  rfl

/-- A station that gets no packet is unchanged. -/
theorem deliverAll_absent {packets : List Packet} {j : Station} :
    ∀ {procs : Station → Process}, j ∉ packets.map Packet.dest →
      deliverAll world procs packets j = procs j := by
  induction packets with
  | nil => exact fun _ => rfl
  | cons packet rest ih =>
    intro procs absent
    obtain ⟨other, later⟩ := not_or.mp (List.mem_cons.not.mp absent)
    rw [deliverAll_cons, ih later, Function.update_of_ne other]

/-- **A station that gets one packet handles it**, whenever it arrives. -/
theorem deliverAll_single {packets : List Packet} {packet : Packet} :
    ∀ {procs : Station → Process}, (packets.map Packet.dest).Nodup → packet ∈ packets →
      deliverAll world procs packets packet.dest =
        (handler world packet.dest (procs packet.dest) packet.message).process := by
  induction packets with
  | nil => exact fun _ member => absurd member List.not_mem_nil
  | cons first rest ih =>
    intro procs distinct member
    obtain ⟨absent, restDistinct⟩ := List.nodup_cons.mp distinct
    rw [deliverAll_cons]
    rcases List.mem_cons.mp member with rfl | later
    · rw [deliverAll_absent absent, Function.update_self]
    · have other : packet.dest ≠ first.dest := fun same =>
        absent (same ▸ List.mem_map_of_mem later)
      rw [ih restDistinct later, Function.update_of_ne other]

theorem others_nodup (i : Station) : (others i).Nodup := (List.nodup_finRange 4).filter _

/-- Every copy of a DENM goes to another station. -/
theorem denmPackets_dest_nodup (i : Station) (payload : DenmText) :
    ((denmPackets i payload).map Packet.dest).Nodup := by
  unfold denmPackets
  cases payload.broadcast with
  | none => simp
  | some denm =>
    simp only [Option.toList_some, List.flatMap_cons, List.flatMap_nil, List.append_nil,
      List.map_cons, List.map_map, List.nodup_cons]
    have dests : List.map (Packet.dest ∘ fun j => ⟨j, .denm denm⟩) (others i) = others i :=
      List.map_id _
    rw [dests]
    exact ⟨fun member => mem_others.mp member rfl, others_nodup i⟩

/-- **What a DENM does to a station in any order of its copies.** -/
theorem deliverAll_denmPackets {i : Station} {payload : DenmText} {order : List Packet}
    (arranged : order.Perm (denmPackets i payload)) (procs : Station → Process) :
    deliverAll world procs order i = (handler world i (procs i) (.ownDenm payload)).process ∧
    ∀ j, j ≠ i → deliverAll world procs order j =
      match payload.broadcast with
      | some denm => (handler world j (procs j) (.denm denm)).process
      | none => procs j := by
  have distinct : (order.map Packet.dest).Nodup :=
    (arranged.map Packet.dest).nodup_iff.mpr (denmPackets_dest_nodup i payload)
  have delivered : ∀ packet ∈ denmPackets i payload, deliverAll world procs order packet.dest =
      (handler world packet.dest (procs packet.dest) packet.message).process :=
    fun packet member => deliverAll_single distinct (arranged.mem_iff.mpr member)
  refine ⟨delivered _ (mem_denmPackets.mpr (.inl rfl)), fun j other => ?_⟩
  split
  · rename_i denm sent
    exact delivered ⟨j, .denm denm⟩ (mem_denmPackets.mpr (.inr ⟨denm, sent, other, rfl⟩))
  · rename_i lost
    refine deliverAll_absent fun member => ?_
    obtain ⟨packet, packetMember, rfl⟩ := List.mem_map.mp member
    rcases mem_denmPackets.mp (arranged.mem_iff.mp packetMember) with rfl | ⟨denm, sent, -, -⟩
    · exact other rfl
    · exact Option.some_ne_none denm (sent.symm.trans lost)

/-! ### The reply -/

/-- **The join reply reaches exactly its requester**: the leader publishes a reply, and when its
copies have been handled, in any order, the requester is in the leader's group and stores the
published list, and the group id and the group of every other station are as before. -/
def ReachesExactly (world : World) (procs : Station → Process) (leader requester : Station)
    (request : Denm) : Prop :=
  let answer := handler world leader (procs leader) (.denm request)
  let before := Function.update procs leader answer.process
  ∃ reply ∈ answer.denms, reply.Event 101 2 ∧
    ∀ order, order.Perm (denmPackets leader reply) →
      let after := deliverAll world before order
      ((after requester).vals requester).groupID = (leader : ℕ) ∧
      ((after requester).vals requester).group.toText = reply.sequenceNumber ∧
      ∀ other, other ≠ requester →
        ((after other).vals other).groupID = ((before other).vals other).groupID ∧
        ((after other).vals other).group = ((before other).vals other).group

/-- The reply of station 0. -/
def joinReplyText (group : PyVal) (requester : ℕ) : DenmText :=
  denmText (str 0) (group.toText ++ str requester) (str requester) 101 2

/-- The list is a JSON number of 16 bits. -/
def Transmittable (text : Text) : Prop := ∃ n, numeral text = some n ∧ n ≤ 65535

theorem joinReply_broadcast_iff {group : PyVal} {requester : Station} :
    (∃ denm, (joinReplyText group requester).broadcast = some denm) ↔
      Transmittable (group.toText ++ str requester) := by
  constructor
  · rintro ⟨denm, sent⟩
    obtain ⟨read, small⟩ := DenmText.numeral_of_broadcast sent
    exact ⟨denm.sequenceNumber, read, small⟩
  · rintro ⟨n, read, small⟩
    refine ⟨_, @DenmText.broadcast_of_numeral (joinReplyText group requester) 0 requester n rfl rfl
      ?_ read small⟩
    have template : (Denm.toAsn1 ⟨0, 0, templatePosition.1, templatePosition.2, 0, 101, 2⟩).Encodable :=
      by decide +kernel
    obtain ⟨origin, sequence, latitude, longitude, -, causes⟩ := template
    refine ⟨origin, sequence, latitude, longitude, ?_, causes⟩
    show (requester : ℕ) ≤ 7
    omega

/-- What arrives of the reply. -/
theorem joinReply_received {group : PyVal} {requester : Station} {denm : Denm}
    (sent : (joinReplyText group requester).broadcast = some denm) :
    denm.Event 101 2 ∧ denm.originatingStationID = 0 ∧ denm.informationQuality = requester ∧
      str denm.sequenceNumber = group.toText ++ str requester := by
  obtain ⟨read, parsed, -, rfl⟩ := DenmText.broadcast_eq_some_iff.mp sent
  obtain ⟨origin, sequence, quality, -, -, cause, subCause⟩ := DenmText.loads_eq_some_iff.mp parsed
  have origin : str 0 = str read.originatingStationID := origin
  have quality : str requester = str read.informationQuality := quality
  exact ⟨⟨cause.symm, subCause.symm⟩, (toDigits_injective origin).symm,
    (toDigits_injective quality).symm, sequence.symm⟩

/-- The reply at another station: only station 2 stores it, if it is the addressee. -/
theorem handler_joinReply {group : PyVal} {requester j : Station} {denm : Denm} {q : Process}
    (sent : (joinReplyText group requester).broadcast = some denm) :
    ((handler world j q (.denm denm)).process.vals j).groupID = (q.vals j).groupID ∧
    ((handler world j q (.denm denm)).process.vals j).group =
      if j = 2 ∧ requester = 2 then .int denm.sequenceNumber else (q.vals j).group := by
  obtain ⟨reply, origin, quality, -⟩ := joinReply_received sent
  constructor
  · rw [handler_groupID, groupIDAfter, if_neg]
    exact fun set => absurd (set.1.symm.trans reply.1) (by decide)
  · rw [handler_eq]
    show ((onDenm j (branches world j) q denm).process.vals j).group = _
    rw [onDenm_joinReply reply, Outcome.done, joinReply_group, origin, quality]
    have number : (requester : ℕ) = 2 ↔ requester = 2 := ⟨fun same => Fin.ext same, fun same => by
      rw [same]
      rfl⟩
    simp [number]

/-- What the reply leaves behind at a station other than the leader: its group id, and its group
unless the reply arrives and both it and the requester are station 2. -/
theorem reply_at_other {group : PyVal} {requester : Station} {order : List Packet}
    (arranged : order.Perm (denmPackets 0 (joinReplyText group requester)))
    (procs : Station → Process) {j : Station} (other : j ≠ 0) :
    ((deliverAll world procs order j).vals j).groupID = ((procs j).vals j).groupID ∧
    (¬ (j = 2 ∧ requester = 2 ∧ Transmittable (group.toText ++ str requester)) →
      ((deliverAll world procs order j).vals j).group = ((procs j).vals j).group) ∧
    (j = 2 ∧ requester = 2 ∧ Transmittable (group.toText ++ str requester) →
      ((deliverAll world procs order j).vals j).group.toText = group.toText ++ str requester) := by
  rw [(deliverAll_denmPackets arranged procs).2 j other]
  cases sent : (joinReplyText group requester).broadcast with
  | none =>
    refine ⟨rfl, fun _ => rfl, ?_⟩
    rintro ⟨_, _, arrives⟩
    obtain ⟨denm, received⟩ := joinReply_broadcast_iff.mpr arrives
    cases sent.symm.trans received
  | some denm =>
    obtain ⟨sameID, stored⟩ := @handler_joinReply world group requester j denm (procs j) sent
    have arrives := joinReply_broadcast_iff.mp ⟨denm, sent⟩
    refine ⟨sameID, fun elsewhere => ?_, ?_⟩
    · rw [stored, if_neg fun both => elsewhere ⟨both.1, both.2, arrives⟩]
    · rintro ⟨station, addressee, _⟩
      rw [stored, if_pos ⟨station, addressee⟩]
      exact (joinReply_received sent).2.2.2

/-- The leader reads its own reply: nothing changes. -/
theorem reply_at_leader {group : PyVal} {requester : Station} {order : List Packet}
    (arranged : order.Perm (denmPackets 0 (joinReplyText group requester)))
    {procs : Station → Process} (leads : ((procs 0).vals 0).groupID = 0) :
    ((deliverAll world procs order 0).vals 0).groupID = ((procs 0).vals 0).groupID ∧
    ((deliverAll world procs order 0).vals 0).group = ((procs 0).vals 0).group := by
  rw [(deliverAll_denmPackets arranged procs).1]
  constructor
  · rw [handler_groupID, groupIDAfter]
    split
    · rename_i denm parsed
      have origin : str 0 = str denm.originatingStationID := (DenmText.loads_eq_some_iff.mp parsed).1
      rw [← toDigits_injective origin, leads]
      rfl
    · rfl
  · rw [handler_eq]
    show ((onOwnDenm 0 (procs 0) (joinReplyText group requester)).process.vals 0).group = _
    unfold onOwnDenm
    split
    · rfl
    · simp [Outcome.done]

section Answered

variable {procs : Station → Process} {group : PyVal} {requester : Station} {request : Denm}
  {order : List Packet}

/-- Nothing changes at the stations that have not asked. -/
theorem reply_at_bystander (arranged : order.Perm (denmPackets 0 (joinReplyText group requester)))
    (leads : ((procs 0).vals 0).groupID = 0) {other : Station} (bystander : other ≠ requester) :
    ((deliverAll world procs order other).vals other).groupID = ((procs other).vals other).groupID ∧
    ((deliverAll world procs order other).vals other).group = ((procs other).vals other).group := by
  by_cases own : other = 0
  · subst own
    exact reply_at_leader arranged leads
  · obtain ⟨sameID, unchanged, -⟩ := @reply_at_other world _ _ _ arranged procs other own
    refine ⟨sameID, unchanged fun both => bystander ?_⟩
    exact both.1.trans both.2.1.symm

/-- **When the requester adopts the reply**: it was in the group before, and it stores the list or
has stored it already. -/
theorem adopts_iff (arranged : order.Perm (denmPackets 0 (joinReplyText group requester)))
    (foreign : requester ≠ 0) :
    (((deliverAll world procs order requester).vals requester).groupID = 0 ∧
      ((deliverAll world procs order requester).vals requester).group.toText =
        group.toText ++ str requester) ↔
    ((procs requester).vals requester).groupID = 0 ∧
      (requester = 2 ∧ Transmittable (group.toText ++ str requester) ∨
        ((procs requester).vals requester).group.toText = group.toText ++ str requester) := by
  obtain ⟨sameID, unchanged, changed⟩ := @reply_at_other world _ _ _ arranged procs requester foreign
  rw [sameID]
  by_cases arrives : requester = 2 ∧ Transmittable (group.toText ++ str requester)
  · have stored := changed ⟨arrives.1, arrives⟩
    exact and_congr_right fun _ => iff_of_true stored (.inl arrives)
  · have kept := unchanged fun both => arrives both.2
    rw [kept]
    exact and_congr_right fun _ => (or_iff_right arrives).symm

/-- Only station 0 publishes a reply. -/
theorem ReachesExactly.leader_zero {leader : Station}
    (reaches : ReachesExactly world procs leader requester request) : leader = 0 := by
  obtain ⟨reply, sent, isReply, -⟩ := reaches
  obtain ⟨denm, -, answers⟩ := handler_sent sent
  cases answers with
  | askJoin => exact absurd isReply.2 (by simp [denmText])
  | askMerge => exact absurd isReply.2 (by simp [denmText])
  | joinReply isZero => exact isZero
  | mergeReply => exact absurd isReply.1 (by simp [denmText])

/-- What station 0 answers. -/
theorem handler_joinRequest (asks : request.Event 101 1)
    (origin : request.originatingStationID = requester) (leads : ((procs 0).vals 0).groupID = 0) :
    handler world 0 (procs 0) (.denm request) =
      { process := (procs 0).setGroup (slot 0)
          (.str (((procs 0).vals 0).group.toText ++ str requester))
        denms := [joinReplyText ((procs 0).vals 0).group requester] } := by
  rw [handler_askJoin asks, askJoin_station0 leads, origin]
  rfl

/-- **The reply of station 0**: it reaches exactly the requester if the requester adopts it. -/
theorem reachesExactly_zero_iff (asks : request.Event 101 1)
    (origin : request.originatingStationID = requester) (leads : ((procs 0).vals 0).groupID = 0)
    (foreign : requester ≠ 0) :
    ReachesExactly world procs 0 requester request ↔
      ((procs requester).vals requester).groupID = 0 ∧
        (requester = 2 ∧ Transmittable (((procs 0).vals 0).group.toText ++ str requester) ∨
          ((procs requester).vals requester).group.toText =
            ((procs 0).vals 0).group.toText ++ str requester) := by
  have answered := @handler_joinRequest world procs requester request asks origin leads
  let before := Function.update procs 0 (handler world 0 (procs 0) (.denm request)).process
  have beforeRequester : before requester = procs requester := Function.update_of_ne foreign _ _
  have beforeLeads : ((before 0).vals 0).groupID = 0 := by
    show ((Function.update procs 0 _ 0).vals 0).groupID = 0
    rw [Function.update_self, answered]
    exact (Process.setGroup_groupID ..).trans leads
  have requesterAdopts := fun order arranged =>
    @adopts_iff world before ((procs 0).vals 0).group requester order arranged foreign
  rw [beforeRequester] at requesterAdopts
  constructor
  · rintro ⟨reply, sent, -, adopted⟩
    have isReply : reply = joinReplyText ((procs 0).vals 0).group requester := by
      rw [answered] at sent
      exact List.mem_singleton.mp sent
    subst isReply
    obtain ⟨inGroup, stored, -⟩ := adopted _ (List.Perm.refl _)
    exact (requesterAdopts _ (List.Perm.refl _)).mp ⟨inGroup, stored⟩
  · intro adopts
    refine ⟨joinReplyText ((procs 0).vals 0).group requester, ?_, ⟨rfl, rfl⟩, ?_⟩
    · rw [answered]
      exact List.mem_singleton.mpr rfl
    · intro order arranged
      obtain ⟨inGroup, stored⟩ := (requesterAdopts order arranged).mpr adopts
      exact ⟨inGroup, stored, fun other => reply_at_bystander arranged beforeLeads⟩

end Answered

/-- **When the join reply reaches exactly its requester.** For every leader and every request to join
that reaches it in a reachable state: the leader is station 0, the requester is in its group already,
and either the requester is station 2 and the extended list is a JSON number of 16 bits, or the
requester happens to have stored that very list. -/
theorem joinReply_reaches_iff {s : System} (reached : Reached world s) {k : ℕ}
    {leader requester : Station} {request : Denm}
    (found : s.inflight[k]? = some ⟨leader, .denm request⟩) (asks : request.Event 101 1)
    (origin : request.originatingStationID = requester)
    (leads : ((s.procs leader).vals leader).groupID = (leader : ℕ)) :
    ReachesExactly world s.procs leader requester request ↔
      leader = 0 ∧ ((s.procs requester).vals requester).groupID = 0 ∧
        (requester = 2 ∧
            Transmittable (((s.procs leader).vals leader).group.toText ++ str requester) ∨
          ((s.procs requester).vals requester).group.toText =
            ((s.procs leader).vals leader).group.toText ++ str requester) := by
  have foreign : requester ≠ leader := by
    obtain ⟨sender, -, other, -, -, named⟩ :=
      (reachable_traced reached).denm (List.mem_of_getElem? found)
    rw [origin] at named
    exact fun same => other ((Fin.ext named).symm.trans same)
  by_cases zero : leader = 0
  · subst zero
    exact (reachesExactly_zero_iff asks origin leads foreign).trans (and_iff_right rfl).symm
  · exact iff_of_false (fun reaches => zero reaches.leader_zero) fun both => zero both.1

/-- The request to join of a station, as the others receive it. -/
def joinRequest (sender : Station) : Denm := ⟨sender, 0, 40, -8, 7, 101, 1⟩

/-- Station 2 asks to join and is in the group of station 0 before the reply comes. -/
theorem joinReply_reaches_iff_station2 :
    ∃ s : System, ReachesExactly equator s.procs 0 2 (joinRequest 2) := by
  obtain ⟨s, reached, found, leads, joined, transmittable⟩ := run_reach (· = System.initial)
    (System.step equator) (fun _ _ => True)
    (fun s => s.inflight[48]? = some ⟨0, .denm (joinRequest 2)⟩ ∧
      ((s.procs 0).vals 0).groupID = 0 ∧ ((s.procs 2).vals 2).groupID = 0 ∧
      numeral (((s.procs 0).vals 0).group.toText ++ str 2) = some 12) rfl
    (electionRun ++ [.deliver 42, .deliver 47, .deliver 43]) (by decide +kernel)
  exact ⟨s, (joinReply_reaches_iff reached found (by decide) rfl leads).mpr
    ⟨rfl, joined, .inl ⟨rfl, 12, transmittable, by decide⟩⟩⟩

/-- Station 1 asks to join, and stays without a group when the reply has come to everybody. -/
theorem joinReply_missed :
    ¬ ∀ (world : World) (s : System), Reached world s →
      ∀ (k : ℕ) (leader requester : Station) (request : Denm),
        s.inflight[k]? = some ⟨leader, .denm request⟩ → request.Event 101 1 →
        request.originatingStationID = requester →
        ((s.procs leader).vals leader).groupID = (leader : ℕ) →
        ReachesExactly world s.procs leader requester request := by
  intro claimed
  obtain ⟨s, reached, found, leads, missed⟩ := run_reach (· = System.initial)
    (System.step equator) (fun _ _ => True)
    (fun s => s.inflight[49]? = some ⟨0, .denm (joinRequest 1)⟩ ∧
      ((s.procs 0).vals 0).groupID = 0 ∧
      ∀ reply ∈ (handler equator 0 (s.procs 0) (.denm (joinRequest 1))).denms,
        ((deliverAll equator (Function.update s.procs 0
          (handler equator 0 (s.procs 0) (.denm (joinRequest 1))).process)
            (denmPackets 0 reply) 1).vals 1).groupID ≠ 0) rfl
    (electionRun ++ [.deliver 42, .deliver 46]) (by decide +kernel)
  obtain ⟨reply, sent, -, adopted⟩ :=
    claimed equator s reached 49 0 1 (joinRequest 1) found (by decide) rfl leads
  exact missed reply sent (adopted _ (List.Perm.refl _)).1

end Vanet.Simulator
