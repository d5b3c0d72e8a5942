/-
**The member list of a group.**

A group is kept as the ids of its members written one after the other, published as a JSON number
and read back digit by digit (`members`).

* `group_nodup`: the list has no duplicates in every run in which a leader is asked, and extends its
  list, only with ids that are not in it (`Fresh`). Nothing in the handlers checks that.
* `group_survives_iff`: what the receivers of a SET, a REPEAT or a join reply have stored when they have handled
  it. Only a REPEAT in the group of the leader is read as the list; the list in a join reply lacks the leader.
-/

import Vanet.Simulator.Network

namespace Vanet.Simulator

open Vanet.Library Vanet.Socktap

variable {world : World} {s : System}

/-- The members of a stored group. -/
def members (group : PyVal) : List ℕ := group.toText.map digitValue

/-- The members in a published sequence number. -/
def publishedMembers (text : DenmText) : List ℕ := text.sequenceNumber.map digitValue

/-- The group is a string. -/
def PyVal.IsStr : PyVal → Prop
  | .str _ => True
  | .int _ => False

instance : (group : PyVal) → Decidable group.IsStr
  | .str _ => isTrue trivial
  | .int _ => isFalse id

theorem members_append (text : Text) {id : ℕ} (small : id < 10) :
    members (.str (text ++ str id)) = members (.str text) ++ [id] := by
  have single := @map_digitValue_spell [id] fun other member => by
    rw [List.mem_singleton.mp member]
    exact small
  rw [spell_singleton] at single
  simp only [members, PyVal.toText, List.map_append, single]

/-! ### No duplicates -/

/-- The loop of the station is about to publish its group. -/
def AboutToPublish (p : Process) : Prop :=
  p.loop.phase = .elected ∨
    p.loop.phase = .head ∧ p.loop.repeatDenm = true ∧ p.loop.msgNum % 10 = 0

instance (p : Process) : Decidable (AboutToPublish p) := by
  unfold AboutToPublish
  infer_instance

/-- **Only new ids are added**: a request that the leader answers comes from a station that is not in
its list, the leader itself is not in the list that it publishes with its own id, and stations 2
and 3 do not add ids as numbers. -/
def Fresh (world : World) (s : System) : Action → Prop
  | .deliver k =>
    match s.inflight[k]? with
    | some ⟨i, .denm denm⟩ =>
      (denm.Event 101 1 → ((s.procs i).vals i).groupID = (i : ℕ) →
        (i = 0 → denm.originatingStationID ∉ members ((s.procs i).vals i).group) ∧
        (i = 2 ∨ i = 3 → ((s.procs i).vals i).group.IsStr)) ∧
      (denm.Event 102 1 → i = 0 →
        (check world (((s.procs i).vals i).location ++ [90]) [42.48252, -95.98588]).toOption =
          some true →
        denm.originatingStationID ∉ members ((s.procs i).vals i).group)
    | _ => True
  | .loop i => AboutToPublish (s.procs i) → (i : ℕ) ∉ members ((s.procs i).vals i).group
  | .lose _ => True

instance (world : World) (s : System) : (action : Action) → Decidable (Fresh world s action)
  | .deliver k => by
    show Decidable (match s.inflight[k]? with | some ⟨i, .denm denm⟩ => _ | _ => True)
    exact match s.inflight[k]? with
      | some ⟨_, .denm _⟩ => inferInstanceAs (Decidable (_ ∧ _))
      | some ⟨_, .ownDenm _⟩ => isTrue trivial
      | some ⟨_, .cam _⟩ => isTrue trivial
      | none => isTrue trivial
  | .loop _ => inferInstanceAs (Decidable (_ → _))
  | .lose _ => isTrue trivial

/-- **The invariant of the runs with new ids only.** -/
structure Distinct (s : System) : Prop where
  group : ∀ i, (members ((s.procs i).vals i).group).Nodup
  published : ∀ i text, .published i text ∈ s.history → (publishedMembers text).Nodup

theorem nodup_concat {ids : List ℕ} {id : ℕ} (distinct : ids.Nodup) (new : id ∉ ids) :
    (ids ++ [id]).Nodup :=
  List.Nodup.append distinct (List.nodup_singleton id) (List.disjoint_singleton.mpr new)

/-- The number another station receives has the members that were published. -/
theorem members_received {text : DenmText} {denm : Denm} (sent : text.broadcast = some denm) :
    members (.int denm.sequenceNumber) = publishedMembers text := by
  obtain ⟨read, parsed, -, rfl⟩ := DenmText.broadcast_eq_some_iff.mp sent
  rw [publishedMembers, (DenmText.loads_eq_some_iff.mp parsed).2.1]
  rfl

theorem distinct_delivered {k : ℕ} {packet : Packet} (traced : Traced s) (shaped : Shaped s)
    (distinct : Distinct s) (fresh : Fresh world s (.deliver k))
    (found : s.inflight[k]? = some packet) : Distinct (s.delivered world k packet) := by
  obtain ⟨dest, message⟩ := packet
  have member := List.mem_of_getElem? found
  have extended : ∀ (denm : Denm), message = .denm denm →
      denm.originatingStationID ∉ members ((s.procs dest).vals dest).group →
      (members (.str (((s.procs dest).vals dest).group.toText ++
        str denm.originatingStationID))).Nodup := by
    rintro denm rfl new
    obtain ⟨sender, -, -, -, -, origin⟩ := traced.denm member
    rw [members_append _ (by rw [origin]; omega)]
    exact nodup_concat (distinct.group dest) new
  constructor
  · intro i
    by_cases same : i = dest
    swap
    · simpa [System.delivered, same] using distinct.group i
    subst same
    have own : (s.delivered world k ⟨i, message⟩).procs i =
        (handler world i (s.procs i) message).process := by
      simp [System.delivered, System.outcome]
    rw [own]
    rcases handler_group (shaped.location_length i) message with kept | ⟨denm, rfl, change⟩
    · rw [kept]
      exact distinct.group i
    obtain ⟨sender, text, -, recorded, sent, -⟩ := traced.denm member
    simp only [Fresh, found] at fresh
    generalize (handler world i (s.procs i) (.denm denm)).process.vals i = after at change ⊢
    have received : (members (.int denm.sequenceNumber)).Nodup := by
      rw [members_received sent]
      exact distinct.published sender text recorded
    generalize group : after.group = changed at change ⊢
    cases change with
    | updated => exact received
    | replied => exact received
    | joined zero request leader =>
      exact extended denm rfl ((fresh.1 request (by rw [leader, zero]; rfl)).1 zero)
    | summed late request leader number =>
      have text := (fresh.1 request leader).2 late
      rw [number] at text
      exact text.elim
    | merged zero request behind string =>
      have new := fresh.2 request zero (by rw [behind]; rfl)
      have appended := extended denm rfl new
      rw [string] at appended
      exact appended
  · intro i text recorded
    rcases mem_delivered_history.mp recorded with old | accepted | ⟨sent, published, same⟩
    · exact distinct.published i text old
    · exact absurd accepted published_not_mem_acceptance
    · cases same
      obtain ⟨denm, content, answers⟩ := handler_sent published
      cases content
      simp only [Fresh, found] at fresh
      cases answers with
      | askJoin => exact List.nodup_singleton 0
      | askMerge => exact List.nodup_singleton 0
      | joinReply zero request leader =>
        have zero : dest = 0 := zero
        exact extended denm rfl ((fresh.1 request (by rw [leader, zero]; rfl)).1 zero)
      | mergeReply zero request behind string =>
        have new := fresh.2 request zero (by rw [behind]; rfl)
        have appended := extended denm rfl new
        rw [string] at appended
        exact appended

theorem distinct_turned {i : Station} {t : Turn} (shaped : Shaped s) (distinct : Distinct s)
    (fresh : Fresh world s (.loop i)) (turning : turn world i (s.procs i) = some t) :
    Distinct (s.turned i t) := by
  constructor
  · intro j
    by_cases same : j = i
    · subst same
      rw [turned_self]
      rcases turn_group turning with kept | ⟨-, leader, group, checked, stored⟩
      · rw [kept]
        exact distinct.group j
      · -- the keys of the surroundings are distinct stations
        have seen := shaped.stations j
        rw [stored, (leaderCheck_stored world checked).1, members, PyVal.toText,
          map_digitValue_spell]
        · exact (shaped.distinct j).filter _
        · intro id member
          exact (seen id (List.mem_of_mem_filter member)).trans (by decide)
    · rw [turned_other t same]
      exact distinct.group j
  · intro j text recorded
    rcases mem_turned_history.mp recorded with old | elected | ⟨sent, published, same⟩
    · exact distinct.published j text old
    · exact absurd elected published_not_mem_election
    · cases same
      have payload : ∃ subCauseCode, groupPayload i (s.procs i) subCauseCode = .ok text ∧
          AboutToPublish (s.procs i) := by
        rcases turn_sent turning published with ⟨phase, repeats, due, built⟩ | ⟨phase, built⟩
        · exact ⟨2, built, .inr ⟨phase, repeats, due⟩⟩
        · exact ⟨1, built, .inl phase⟩
      obtain ⟨subCauseCode, built, about⟩ := payload
      obtain ⟨group, held, rfl⟩ := groupPayload_eq_ok.mp built
      have new := fresh about
      have before := distinct.group i
      rw [held] at new before
      show (members (.str (group ++ str i))).Nodup
      rw [members_append group (by omega)]
      exact nodup_concat before new

theorem guarded_distinct
    (reached : GuardedReach (· = System.initial) (System.step world) (Fresh world) s) :
    Distinct s := by
  refine system_invariant ?_ ?_ ?_ ?_ s reached
  · exact ⟨fun _ => List.nodup_nil, fun _ _ recorded => absurd recorded List.not_mem_nil⟩
  · exact fun s k packet reached distinct fresh found _ =>
      distinct_delivered (reachable_traced reached) (reachable_shaped reached) distinct fresh found
  · exact fun s k distinct => ⟨distinct.group, distinct.published⟩
  · exact fun s i t reached distinct fresh turning =>
      distinct_turned (reachable_shaped reached) distinct fresh turning

/-- **The list a leader keeps and publishes has no duplicates**, in every run in which only new ids
are added. -/
theorem group_nodup
    (reached : GuardedReach (· = System.initial) (System.step world) (Fresh world) s)
    (i : Station) :
    (members ((s.procs i).vals i).group).Nodup ∧
      ∀ text, .published i text ∈ s.history → (publishedMembers text).Nodup :=
  ⟨(guarded_distinct reached).group i, (guarded_distinct reached).published i⟩

/-- Station 2 joins the group of stations 0 and 1. -/
theorem group_nodup_join :
    ∃ s : System, members ((s.procs 0).vals 0).group = [1, 2] ∧
      (members ((s.procs 0).vals 0).group).Nodup := by
  obtain ⟨s, reached, joined⟩ := run_reach (· = System.initial) (System.step equator)
    (Fresh equator) (fun s => members ((s.procs 0).vals 0).group = [1, 2]) rfl
    (electionRun ++ [.deliver 42, .deliver 47, .deliver 49]) (by decide +kernel)
  exact ⟨s, joined, (group_nodup reached 0).1⟩

/-- Station 1 is in the list since the election. It asks to join on the REPEAT. -/
theorem member_joins_twice :
    ¬ ∀ world s, Reached world s → ∀ i, (members ((s.procs i).vals i).group).Nodup := by
  intro claimed
  obtain ⟨s, reached, twice⟩ := run_reach (· = System.initial) (System.step equator)
    (fun _ _ => True) (fun s => ¬ (members ((s.procs 0).vals 0).group).Nodup) rfl
    (electionRun ++ [.deliver 42, .deliver 46, .deliver 49]) (by decide +kernel)
  exact twice (claimed equator s reached 0)

/-! ### The encoding of the list -/

/-- **The groups that can be built**: `leaderCheck` returns `True` and stores the ids of the others,
and a leader appends the station that asks to join. `ids` is the list without the leader. -/
inductive BuiltGroup (world : World) (i : Station) : PyVal → List ℕ → Prop
  | elected {surroundings : Surroundings} {stored : Text} :
      leaderCheck world i surroundings (-1) = .ok (true, some stored) →
      BuiltGroup world i (.str stored) (surroundings.others i)
  | joined {p : Process} {ids : List ℕ} {denm : Denm} : BuiltGroup world i (p.vals i).group ids →
      denm.Event 101 1 → (p.vals i).groupID = (i : ℕ) →
      (handler world i p (.denm denm)).raised = none →
      BuiltGroup world i ((handler world i p (.denm denm)).process.vals i).group
        (ids ++ [denm.originatingStationID])

/-- **The list comes through**: the payload reaches the others, and the one that has handled it has these members. -/
def Recovers (world : World) (j : Station) (q : Process) (text : DenmText) (ids : List ℕ) : Prop :=
  ∃ denm, text.broadcast = some denm ∧
    members ((handler world j q (.denm denm)).process.vals j).group = ids

/-- The digits of the number that the others get are these members. -/
def Survives (text : DenmText) (ids : List ℕ) : Prop :=
  ∃ denm, text.broadcast = some denm ∧ members (.int denm.sequenceNumber) = ids

/-- **The ids spell a number that is sent**: no leading zero, and 16 bits. -/
def Sendable (ids : List ℕ) : Prop :=
  ids.head? ≠ some 0 ∧ Nat.ofDigitChars 10 (spell ids) 0 ≤ 65535

/-- **A built group spells its ids**, and there is at least one. -/
theorem BuiltGroup.spelled {i : Station} {group : PyVal} {ids : List ℕ}
    (built : BuiltGroup world i group ids) : group = .str (spell ids) ∧ ids ≠ [] := by
  induction built with
  | elected won =>
    obtain ⟨stored, some_other⟩ := leaderCheck_stored world won
    exact ⟨by rw [stored], some_other rfl⟩
  | @joined p ids denm _ request leader completes ih =>
    refine ⟨?_, List.append_ne_nil_of_right_ne_nil _ (List.cons_ne_nil _ _)⟩
    rw [handler_askJoin request] at completes ⊢
    -- the other handlers fail
    have zero : i = 0 := ((askJoin_raised denm).mp completes).resolve_right (not_not.mpr leader)
    subst zero
    rw [askJoin_station0 leader, ih.1, spell_append, spell_singleton]
    exact Process.setGroup_group ..

/-- A SET or REPEAT is sent if its sequence number is a JSON number of 16 bits. -/
theorem groupText_broadcast {i : Station} {p : Process} {group : Text} {subCauseCode n : ℕ}
    (small : subCauseCode ≤ 255)
    (read : numeral (groupText i p group subCauseCode).sequenceNumber = some n)
    (range : n ≤ 65535) :
    ∃ denm, (groupText i p group subCauseCode).broadcast = some denm ∧ denm.sequenceNumber = n := by
  have latitude := @truncate_mem p.loop.position.lat 90 (by exact_mod_cast p.loop.position.lat_range)
  have longitude :=
    @truncate_mem p.loop.position.lng 180 (by exact_mod_cast p.loop.position.lng_range)
  refine ⟨_, DenmText.broadcast_of_numeral rfl (by decide : ['7'] = Nat.toDigits 10 7) ?_ read range, rfl⟩
  refine ⟨?_, Nat.zero_le _, ?_, ?_, le_rfl, (by decide : 100 ≤ 255), small⟩
  · show (i : ℕ) ≤ 4294967295
    omega
  · show InRange _ (truncate ((truncate p.loop.position.lat : ℤ) : ℚ)) _
    rw [truncate_intCast]
    unfold InRange
    omega
  · show InRange _ (truncate ((truncate p.loop.position.lng : ℤ) : ℚ)) _
    rw [truncate_intCast]
    unfold InRange
    omega

/-- Two ids or more spell a JSON number if the first one is not 0. -/
theorem numeral_spell_iff {ids : List ℕ} (several : 2 ≤ ids.length) :
    (∃ n, numeral (spell ids) = some n) ↔ ids.head? ≠ some 0 := by
  obtain ⟨first, rest, rfl⟩ := List.exists_cons_of_length_pos (Nat.lt_of_lt_of_le Nat.zero_lt_two several)
  have digits : ∀ n, Nat.toDigits 10 n ≠ [] := fun n => (isNumeral_toDigits n).1
  have spelled : spell (first :: rest) = Nat.toDigits 10 first ++ spell rest := by simp [spell]
  have head : (spell (first :: rest)).head? = (Nat.toDigits 10 first).head? := by
    rw [spelled, List.head?_append_of_ne_nil _ (digits first)]
  have leading : (spell (first :: rest)).head? = some '0' ↔ first = 0 := by
    rw [head]
    refine ⟨fun zero => toDigits_injective ((isNumeral_toDigits first).2.2 zero), ?_⟩
    rintro rfl
    rfl
  have long : spell (first :: rest) ≠ ['0'] := by
    intro alone
    obtain ⟨second, others, rfl⟩ := List.exists_cons_of_length_pos (Nat.le_of_succ_le_succ several)
    have length := congrArg List.length alone
    have firstDigit := List.length_pos_iff.mpr (digits first)
    have secondDigit := List.length_pos_iff.mpr (digits second)
    rw [spelled, show spell (second :: others) = Nat.toDigits 10 second ++ spell others by simp [spell],
      List.length_append, List.length_append, List.length_singleton] at length
    omega
  have valid : IsNumeral (spell (first :: rest)) ↔ first ≠ 0 := by
    refine ⟨fun valid zero => long (valid.2.2 (leading.mpr zero)), fun positive => ?_⟩
    refine ⟨?_, fun c => isDigit_of_mem_spell, fun zero => absurd (leading.mp zero) positive⟩
    rw [spelled]
    exact List.append_ne_nil_of_left_ne_nil (digits first) _
  rw [List.head?_cons, ne_eq, Option.some.injEq, ← ne_eq, ← valid]
  unfold numeral
  split_ifs with known <;> simp [known]

section Built

variable {i j : Station} {p q : Process} {ids : List ℕ} {denm : Denm}

/-- **When a SET or REPEAT is sent.** -/
theorem sent_groupText_iff {subCauseCode : ℕ} (message : subCauseCode = 1 ∨ subCauseCode = 2)
    (nonempty : ids ≠ []) :
    (∃ denm, (groupText i p (spell ids) subCauseCode).broadcast = some denm) ↔ Sendable (ids ++ [(i : ℕ)]) := by
  have text : (groupText i p (spell ids) subCauseCode).sequenceNumber = spell (ids ++ [(i : ℕ)]) := by
    rw [spell_append, spell_singleton]
    rfl
  have several : 2 ≤ (ids ++ [(i : ℕ)]).length := by
    have some := List.length_pos_iff.mpr nonempty
    rw [List.length_append, List.length_singleton]
    omega
  unfold Sendable
  rw [← numeral_spell_iff several]
  constructor
  · rintro ⟨denm, sent⟩
    obtain ⟨number, small⟩ := DenmText.numeral_of_broadcast sent
    rw [text] at number
    exact ⟨⟨_, number⟩, numeral_value number ▸ small⟩
  · rintro ⟨⟨n, number⟩, small⟩
    rw [← numeral_value number] at small
    obtain ⟨denm, sent, _⟩ := @groupText_broadcast i p (spell ids) subCauseCode n
      (by rcases message with rfl | rfl <;> decide) (text ▸ number) small
    exact ⟨denm, sent⟩

/-- A list that is sent is read digit by digit: every id has to have one. -/
theorem survives_groupText_iff {subCauseCode : ℕ} (message : subCauseCode = 1 ∨ subCauseCode = 2)
    (nonempty : ids ≠ []) :
    Survives (groupText i p (spell ids) subCauseCode) (ids ++ [(i : ℕ)]) ↔
      Sendable (ids ++ [(i : ℕ)]) ∧ ∀ id ∈ ids, id < 10 := by
  have text : (groupText i p (spell ids) subCauseCode).sequenceNumber = spell (ids ++ [(i : ℕ)]) := by
    rw [spell_append, spell_singleton]
    rfl
  have own : (∀ id ∈ ids ++ [(i : ℕ)], id < 10) ↔ ∀ id ∈ ids, id < 10 := by
    rw [List.forall_mem_append, List.forall_mem_singleton]
    exact and_iff_left (by omega)
  rw [← sent_groupText_iff message nonempty, ← exists_and_right, ← own]
  refine exists_congr fun denm => and_congr_right fun sent => ?_
  have read := (DenmText.numeral_of_broadcast sent).1
  rw [text] at read
  exact digitsOf_eq_iff read

/-! ### What the receivers store -/

/-- **A SET brings no group**: its number is not read. -/
theorem handler_set_group (set : denm.Event 100 1) :
    ((handler world j q (.denm denm)).process.vals j).group = (q.vals j).group := by
  rw [handler_eq]
  show ((onDenm j (branches world j) q denm).process.vals j).group = _
  rw [onDenm_set set]
  simp [Outcome.done, setGroupDenm]

/-- The group stays as it is when a station does not belong to it. -/
theorem repeatElse_group :
    (((branches world j).repeatElse q).process.vals j).group = (q.vals j).group := by
  match j with
  | 0 => rfl
  | 1 => rfl
  | 2 =>
    show ((branches4.repeatElse q).process.vals 2).group = _
    simp only [branches4]
    split_ifs
    · rw [Outcome.publish_process]
    · rfl
  | 3 => rfl

/-- **A REPEAT is read in the group of its originator.** -/
theorem handler_repeat_group (again : denm.Event 100 2) :
    ((handler world j q (.denm denm)).process.vals j).group =
      if (q.vals j).groupID = denm.originatingStationID then .int denm.sequenceNumber
      else (q.vals j).group := by
  have handled : handler world j q (.denm denm) = repeatGroup j (branches world j) q denm := by
    rw [handler_eq]
    show onDenm j (branches world j) q denm = _
    simp [onDenm, again.1, again.2]
  rw [handled]
  unfold repeatGroup
  by_cases free : (q.vals j).groupID = -1
  · have foreign : (q.vals j).groupID ≠ denm.originatingStationID := by omega
    rw [if_pos free, if_neg foreign, Outcome.publish_process]
  rw [if_neg free]
  by_cases member : (q.vals j).groupID = denm.originatingStationID
  · rw [if_pos member, if_pos member]
    by_cases changed : (q.vals j).group ≠ .int denm.sequenceNumber
    · rw [if_pos changed]
      exact Process.setGroup_group ..
    · rw [if_neg changed]
      exact not_not.mp changed
  · rw [if_neg member, if_neg member]
    exact repeatElse_group

/-- **A join reply is read by station 2**, if it has asked. -/
theorem handler_joinReply_group (reply : denm.Event 101 2) :
    ((handler world j q (.denm denm)).process.vals j).group =
      if j = 1 ∧ denm.originatingStationID = 1 ∨ j = 2 ∧ denm.informationQuality = 2 then
        .int denm.sequenceNumber
      else (q.vals j).group := by
  rw [handler_eq]
  show ((onDenm j (branches world j) q denm).process.vals j).group = _
  rw [onDenm_joinReply reply]
  exact joinReply_group denm

/-- **A SET or REPEAT at a receiver.** -/
theorem recovers_groupText_iff {subCauseCode : ℕ} (message : subCauseCode = 1 ∨ subCauseCode = 2)
    (nonempty : ids ≠ []) :
    Recovers world j q (groupText i p (spell ids) subCauseCode) (ids ++ [(i : ℕ)]) ↔
      Sendable (ids ++ [(i : ℕ)]) ∧
        if subCauseCode = 2 ∧ (q.vals j).groupID = (i : ℕ) then ∀ id ∈ ids, id < 10
        else members (q.vals j).group = ids ++ [(i : ℕ)] := by
  have received : ∀ denm, (groupText i p (spell ids) subCauseCode).broadcast = some denm →
      denm.Event 100 subCauseCode ∧ denm.originatingStationID = i := by
    intro denm sent
    obtain ⟨event, origin, -⟩ := DenmText.fields_of_broadcast sent
    exact ⟨event, (toDigits_injective origin).symm⟩
  by_cases reads : subCauseCode = 2 ∧ (q.vals j).groupID = (i : ℕ)
  · rw [if_pos reads, ← survives_groupText_iff message nonempty]
    refine exists_congr fun denm => and_congr_right fun sent => ?_
    obtain ⟨event, origin⟩ := received denm sent
    rw [handler_repeat_group (reads.1 ▸ event), if_pos (origin ▸ reads.2)]
  · rw [if_neg reads, ← sent_groupText_iff message nonempty, ← exists_and_right]
    refine exists_congr fun denm => and_congr_right fun sent => ?_
    obtain ⟨event, origin⟩ := received denm sent
    rcases message with rfl | rfl
    · rw [handler_set_group event]
    · rw [handler_repeat_group event, if_neg (by rw [origin]; exact fun member => reads ⟨rfl, member⟩)]

/-- The join reply of a leader with a group. -/
theorem joinReply_text (held : (p.vals i).group = .str (spell ids)) {text : DenmText}
    (sent : text ∈ (handler world i p (.denm denm)).denms) (reply : text.Event 101 2) :
    i = 0 ∧ text = denmText (str 0) (spell (ids ++ [denm.originatingStationID]))
      (str denm.originatingStationID) 101 2 := by
  obtain ⟨received, content, answers⟩ := handler_sent sent
  cases content
  cases answers with
  | askJoin => exact absurd reply.2 (by simp [denmText])
  | askMerge => exact absurd reply.2 (by simp [denmText])
  | mergeReply => exact absurd reply.1 (by simp [denmText])
  | joinReply zero _ leader =>
    refine ⟨zero, ?_⟩
    rw [held, zero, spell_append, spell_singleton]
    rfl

/-- **When a join reply is sent.** -/
theorem sent_joinReply_iff {requester : ℕ} (nonempty : ids ≠ []) :
    (∃ denm, (denmText (str 0) (spell (ids ++ [requester])) (str requester) 101 2).broadcast = some denm) ↔
      Sendable (ids ++ [requester]) ∧ requester ≤ 7 := by
  have several : 2 ≤ (ids ++ [requester]).length := by
    have some := List.length_pos_iff.mpr nonempty
    rw [List.length_append, List.length_singleton]
    omega
  unfold Sendable
  rw [← numeral_spell_iff several]
  constructor
  · rintro ⟨denm, sent⟩
    obtain ⟨number, small⟩ := DenmText.numeral_of_broadcast sent
    have value := numeral_value number
    obtain ⟨-, -, quality⟩ := DenmText.fields_of_broadcast sent
    have same : requester = denm.informationQuality := toDigits_injective quality
    obtain ⟨read, -, encodable, rfl⟩ := DenmText.broadcast_eq_some_iff.mp sent
    exact ⟨⟨⟨_, number⟩, value ▸ small⟩, same ▸ encodable.2.2.2.2.1⟩
  · rintro ⟨⟨⟨n, number⟩, small⟩, quality⟩
    rw [← numeral_value number] at small
    have latitude : InRange (-900000000) (truncate ((truncate templatePosition.1 : ℤ) : ℚ)) 900000001 := by
      decide +kernel
    have longitude : InRange (-1800000000) (truncate ((truncate templatePosition.2 : ℤ) : ℚ)) 1800000001 := by
      decide +kernel
    have cause : 101 ≤ 255 := by decide
    have subCause : 2 ≤ 255 := by decide
    refine ⟨_, @DenmText.broadcast_of_numeral _ 0 requester n rfl rfl ?_ number small⟩
    exact ⟨Nat.zero_le _, Nat.zero_le _, latitude, longitude, quality, cause, subCause⟩

/-- **A join reply at a receiver**: the number has no digit for the leader. -/
theorem recovers_joinReply_iff {requester : ℕ} (nonempty : ids ≠ []) {list : List ℕ}
    (arranged : list.Perm (0 :: (ids ++ [requester]))) :
    Recovers world j q (denmText (str 0) (spell (ids ++ [requester])) (str requester) 101 2) list ↔
      ¬ (j = 2 ∧ requester = 2) ∧ (Sendable (ids ++ [requester]) ∧ requester ≤ 7) ∧
        members (q.vals j).group = list := by
  have received : ∀ denm,
      (denmText (str 0) (spell (ids ++ [requester])) (str requester) 101 2).broadcast = some denm →
      denm.Event 101 2 ∧ denm.originatingStationID = 0 ∧ denm.informationQuality = requester := by
    intro denm sent
    obtain ⟨event, origin, quality⟩ := DenmText.fields_of_broadcast sent
    have zero : str 0 = Nat.toDigits 10 denm.originatingStationID := origin
    exact ⟨event, (toDigits_injective zero).symm, (toDigits_injective quality).symm⟩
  by_cases asked : j = 2 ∧ requester = 2
  · refine iff_of_false ?_ fun recovered => recovered.1 asked
    rintro ⟨denm, sent, read⟩
    obtain ⟨event, -, quality⟩ := received denm sent
    rw [handler_joinReply_group event, if_pos (.inr ⟨asked.1, quality.trans asked.2⟩)] at read
    have number : numeral (spell (ids ++ [requester])) = some denm.sequenceNumber :=
      (DenmText.numeral_of_broadcast sent).1
    have back : digitsOf denm.sequenceNumber = list := read
    have small : ∀ id ∈ ids ++ [requester], id < 10 := fun id member =>
      digitsOf_lt (back ▸ arranged.mem_iff.mpr (List.mem_cons_of_mem _ member))
    -- one character for each id is one too few
    have length := congrArg List.length (back.symm.trans ((digitsOf_eq_iff number).mpr small))
    rw [arranged.length_eq, List.length_cons] at length
    omega
  · rw [and_iff_right asked, ← sent_joinReply_iff nonempty, ← exists_and_right]
    refine exists_congr fun denm => and_congr_right fun sent => ?_
    obtain ⟨event, origin, quality⟩ := received denm sent
    rw [handler_joinReply_group event, if_neg]
    rintro (⟨-, one⟩ | ⟨two, same⟩)
    · omega
    · exact asked ⟨two, quality.symm.trans same⟩

/-- **What the receivers have.** A REPEAT brings the list with the leader to a member of the group exactly if it
is sent and its ids have one digit. No one reads the number of a SET, nor that of a REPEAT in another group: whoever
has the list then has had it before. Nor does a join reply bring the list with the leader to anyone. -/
theorem group_survives_iff (built : BuiltGroup world i (p.vals i).group ids) (j : Station) (q : Process) :
    (∀ subCauseCode, subCauseCode = 1 ∨ subCauseCode = 2 →
      ∃ text, groupPayload i p subCauseCode = .ok text ∧
        (Recovers world j q text (ids ++ [(i : ℕ)]) ↔ Sendable (ids ++ [(i : ℕ)]) ∧
          if subCauseCode = 2 ∧ (q.vals j).groupID = (i : ℕ) then ∀ id ∈ ids, id < 10
          else members (q.vals j).group = ids ++ [(i : ℕ)])) ∧
    ∀ denm text, text ∈ (handler world i p (.denm denm)).denms → text.Event 101 2 →
      ∀ list, list.Perm ((i : ℕ) :: (ids ++ [denm.originatingStationID])) →
        (Recovers world j q text list ↔ ¬ (j = 2 ∧ denm.originatingStationID = 2) ∧
          (Sendable (ids ++ [denm.originatingStationID]) ∧ denm.originatingStationID ≤ 7) ∧
            members (q.vals j).group = list) := by
  obtain ⟨held, nonempty⟩ := built.spelled
  refine ⟨fun subCauseCode message => ?_, fun denm text sent reply list arranged => ?_⟩
  · have payload : groupPayload i p subCauseCode = .ok (groupText i p (spell ids) subCauseCode) :=
      groupPayload_eq_ok.mpr ⟨spell ids, held, rfl⟩
    exact ⟨_, payload, recovers_groupText_iff message nonempty⟩
  · obtain ⟨rfl, rfl⟩ := joinReply_text held sent reply
    exact recovers_joinReply_iff nonempty arranged

end Built

/-- A station ahead of another one. -/
def ahead (back front : ℕ) : Surroundings := [(back, [[0, 0, 90]]), (front, [[0, 1, 90]])]

/-- A station in a group, without the list. -/
def memberOf (i leader : Station) : Process :=
  Process.initial.setVals (slot i) { Vals.initial with groupID := (leader : ℕ) }

/-- Station 0 is ahead of station 1: station 1 has the list `[1, 0]` after the REPEAT, but not after the SET. -/
theorem group_survives_iff_station0 :
    ∃ set again, groupPayload 0 (Process.initial.setGroup (slot 0) (.str ['1'])) 1 = .ok set ∧
      groupPayload 0 (Process.initial.setGroup (slot 0) (.str ['1'])) 2 = .ok again ∧
        ¬ Recovers equator 1 (memberOf 1 0) set [1, 0] ∧ Recovers equator 1 (memberOf 1 0) again [1, 0] := by
  have built : BuiltGroup equator 0 (.str ['1']) [1] :=
    @BuiltGroup.elected equator 0 (ahead 1 0) ['1'] (by decide +kernel)
  obtain ⟨survives, -⟩ := @group_survives_iff equator 0
    (Process.initial.setGroup (slot 0) (.str ['1'])) [1] built 1 (memberOf 1 0)
  obtain ⟨set, payload, unread⟩ := survives 1 (.inl rfl)
  obtain ⟨again, repeated, read⟩ := survives 2 (.inr rfl)
  refine ⟨set, again, payload, repeated, fun recovers => ?_, read.mpr ⟨⟨by decide, by decide⟩, by decide⟩⟩
  exact absurd (unread.mp recovers).2 (by decide)

/-- Station 1 is ahead of station 0: the SET carries the number `01`, which is not JSON. -/
theorem leading_zero_lost :
    ¬ ∀ (world : World) (i : Station) (p : Process) (ids : List ℕ),
      BuiltGroup world i (p.vals i).group ids → ∀ text, groupPayload i p 1 = .ok text →
        ∀ (j : Station) (q : Process), Recovers world j q text (ids ++ [(i : ℕ)]) := by
  intro claimed
  have built : BuiltGroup equator 1 (.str ['0']) [0] :=
    @BuiltGroup.elected equator 1 (ahead 0 1) ['0'] (by decide +kernel)
  obtain ⟨denm, sent, -⟩ := claimed equator 1 (Process.initial.setGroup (slot 1) (.str ['0'])) [0]
    built _ rfl 0 .initial
  have unread : numeral ['0', '1'] = none := by decide
  exact Option.some_ne_none _ ((DenmText.numeral_of_broadcast sent).1.symm.trans unread)

end Vanet.Simulator
