/-
**What `leaderCheck` answers.**

The maps of a reachable state hold complete positions, at least one under every key (`Complete`).
On such a map `leaderCheck` answers as it should exactly if the station has recorded a CAM of its own
(`leaderCheck_right_iff`): a `defaultdict` gives an empty list for a missing key, and the last element of an
empty list is an index error.
-/

import Vanet.Simulator.Members

namespace Vanet.Simulator

open Vanet.Library Vanet.Socktap

/-! ### The maps -/

namespace Surroundings

/-- **The map is as the CAM branches fill it**: under every key there are positions, and all of them
are complete. -/
structure Complete (surroundings : Surroundings) : Prop where
  nonempty : ∀ entry ∈ surroundings, entry.2 ≠ []
  complete : ∀ entry ∈ surroundings, ∀ position ∈ entry.2,
    ∃ lat lng heading, position = [lat, lng, heading]

theorem mem_append {key : ℕ} {position : List ℚ} {surroundings : Surroundings}
    {entry : ℕ × List (List ℚ)} (member : entry ∈ surroundings.append key position) :
    entry ∈ surroundings ∨ entry.2 = [position] ∨
      ∃ positions, (key, positions) ∈ surroundings ∧ entry.2 = positions ++ [position] := by
  induction surroundings with
  | nil =>
    rw [append, List.mem_singleton] at member
    rw [member]
    exact .inr (.inl rfl)
  | cons first rest ih =>
    unfold append at member
    split_ifs at member with same
    · rcases List.mem_cons.mp member with rfl | old
      · exact .inr (.inr ⟨first.2, same ▸ List.mem_cons_self, rfl⟩)
      · exact .inl (List.mem_cons_of_mem _ old)
    · rcases List.mem_cons.mp member with rfl | other
      · exact .inl List.mem_cons_self
      · rcases ih other with old | new | ⟨positions, old, extended⟩
        · exact .inl (List.mem_cons_of_mem _ old)
        · exact .inr (.inl new)
        · exact .inr (.inr ⟨positions, List.mem_cons_of_mem _ old, extended⟩)

/-- A CAM keeps the map complete. -/
theorem Complete.append {surroundings : Surroundings} (complete : surroundings.Complete) (key : ℕ)
    (lat lng heading : ℚ) : (surroundings.append key [lat, lng, heading]).Complete := by
  refine ⟨fun entry member => ?_, fun entry member position held => ?_⟩
  · rcases mem_append member with old | new | ⟨positions, -, extended⟩
    · exact complete.nonempty entry old
    · rw [new]
      exact List.cons_ne_nil _ _
    · rw [extended]
      exact List.append_ne_nil_of_right_ne_nil _ (List.cons_ne_nil _ _)
  · rcases mem_append member with old | new | ⟨positions, old, extended⟩
    · exact complete.complete entry old position held
    · rw [new, List.mem_singleton] at held
      exact ⟨lat, lng, heading, held⟩
    · rw [extended] at held
      rcases List.mem_append.mp held with before | last
      · exact complete.complete (key, positions) old position before
      · exact ⟨lat, lng, heading, List.mem_singleton.mp last⟩

/-- An entry's last position is complete. -/
theorem Complete.lastOf {surroundings : Surroundings} (complete : surroundings.Complete)
    {entry : ℕ × List (List ℚ)} (member : entry ∈ surroundings) :
    ∃ lat lng heading, Surroundings.lastOf entry.2 = .ok [lat, lng, heading] := by
  have held := List.getLast_mem (complete.nonempty entry member)
  obtain ⟨lat, lng, heading, position⟩ := complete.complete entry member _ held
  refine ⟨lat, lng, heading, ?_⟩
  rw [Surroundings.lastOf, List.getLast?_eq_getLast_of_ne_nil (complete.nonempty entry member),
    position]

/-- What is found under a key that is in the map. -/
theorem last_of_mem {surroundings : Surroundings} (distinct : surroundings.keys.Nodup)
    {entry : ℕ × List (List ℚ)} (member : entry ∈ surroundings) :
    surroundings.last entry.1 = lastOf entry.2 := by
  induction surroundings with
  | nil => cases member
  | cons first rest ih =>
    obtain ⟨absent, restDistinct⟩ := List.nodup_cons.mp distinct
    rcases List.mem_cons.mp member with rfl | other
    · rw [last, List.lookup_cons, beq_self_eq_true]
      rfl
    · have differs : (entry.1 == first.1) = false :=
        beq_false_of_ne fun same => absent (same ▸ List.mem_map_of_mem other)
      rw [last, List.lookup_cons, differs]
      exact ih restDistinct other

/-- **A missing key is an index error.** -/
theorem last_of_not_mem {surroundings : Surroundings} {key : ℕ} (absent : key ∉ surroundings.keys) :
    surroundings.last key = .error .indexError := by
  have missing : surroundings.lookup key = none := by
    rw [List.lookup_eq_none_iff]
    intro entry member
    refine bne_iff_ne.mpr fun same => absent ?_
    rw [same]
    exact List.mem_map_of_mem member
  rw [last, missing]
  rfl

end Surroundings

/-- **The maps of every reachable state are complete.** -/
theorem reachable_complete {world : World} {s : System} (reached : Reached world s) (i : Station) :
    (s.procs i).surroundings.Complete := by
  have invariant : ∀ s, Reached world s → ∀ i, (s.procs i).surroundings.Complete := by
    refine system_invariant ?_ ?_ ?_ ?_
    · exact fun _ => ⟨fun _ member => absurd member List.not_mem_nil,
        fun _ member => absurd member List.not_mem_nil⟩
    · intro s k packet _ complete _ _ _ i
      have procs : (s.delivered world k packet).procs i =
          if i = packet.dest then (s.outcome world packet).process else s.procs i := by
        simp [System.delivered, Function.update_apply]
      rw [procs]
      split_ifs
      · rw [System.outcome]
        rcases @handler_surroundings world packet.dest (s.procs packet.dest) packet.message with
          kept | ⟨payload, -, -, added⟩
        · rw [kept]
          exact complete packet.dest
        · rw [added]
          exact (complete packet.dest).append _ _ _ _
      · exact complete i
    · exact fun s k complete => complete
    · intro s i t _ complete _ turning j
      by_cases same : j = i
      · subst same
        rw [turned_self, (turn_drives turning).surroundings]
        exact complete j
      · rw [turned_other t same]
        exact complete j
  exact invariant s reached i

/-- **The values that `startSimul` passes**: no current leader. -/
theorem reachable_currentGroup {world : World} {s : System} (reached : Reached world s) (i : Station) :
    (s.procs i).loop.currentGroup = -1 ∨ (s.procs i).loop.currentGroup = (i : ℕ) := by
  have invariant : ∀ s, Reached world s → ∀ i : Station,
      (s.procs i).loop.currentGroup = -1 ∨ (s.procs i).loop.currentGroup = (i : ℕ) := by
    refine system_invariant ?_ ?_ ?_ ?_
    · exact fun _ => .inl rfl
    · intro s k packet _ passes _ _ _ i
      rw [delivered_loop]
      exact passes i
    · exact fun s k passes => passes
    · intro s i t _ passes _ turning j
      by_cases same : j = i
      · subst same
        rw [turned_self]
        rcases (turn_drives turning).currentGroup with kept | own
        · rw [kept]
          exact passes j
        · exact .inr own
      · rw [turned_other t same]
        exact passes j
  exact invariant s reached i

/-! ### The answer -/

section Answer

variable {world : World}

/-- The others are behind: their last positions satisfy `check` against the station's own. -/
def OthersBehind (world : World) (i : Station) (surroundings : Surroundings) : Prop :=
  ∀ other ∈ surroundings.others i, ∃ own info, surroundings.last i = .ok own ∧
    surroundings.last other = .ok info ∧ check world own info = .ok true

/-- **A right answer**: `leaderCheck` returns, and without a current leader it returns `True` exactly if
there are others and all of them are behind. Then the group that it stores names exactly them. -/
def Right (world : World) (i : Station) (surroundings : Surroundings) (currentLeader : ℤ) : Prop :=
  ∃ result stored, leaderCheck world i surroundings currentLeader = .ok (result, stored) ∧
    (currentLeader = -1 →
      (result = true ↔ surroundings.others i ≠ [] ∧ OthersBehind world i surroundings) ∧
      (result = true → ∃ group, stored = some group ∧
        members (.str group) = surroundings.others i))

/-- The ids that a map has besides its first one. -/
theorem others_cons (i : Station) (key : ℕ) (positions : List (List ℚ)) (rest : Surroundings) :
    Surroundings.others ((key, positions) :: rest) i =
      if key = i then Surroundings.others rest i else key :: Surroundings.others rest i := by
  simp only [Surroundings.others, Surroundings.keys, List.map_cons, List.filter_cons,
    decide_eq_true_eq]
  split_ifs <;> first | rfl | contradiction

/-- **The loop over a complete map** returns, and its result is `True` exactly if it ran to the end and
has a reason: another station, or the result that it began with. -/
theorem checkOthers_complete {i : Station} {own : List ℚ}
    (ownComplete : ∃ lat lng heading, own = [lat, lng, heading]) {surroundings : Surroundings}
    (complete : surroundings.Complete) : ∀ group res, ∃ result stored,
      checkOthers world i own surroundings group res = .ok (result, stored) ∧
      (result = true ↔ (res = true ∨ surroundings.others i ≠ []) ∧
        ∀ entry ∈ surroundings, entry.1 ≠ i → ∃ info, Surroundings.lastOf entry.2 = .ok info ∧
          check world own info = .ok true) ∧
      (result = true → ∃ text, stored = some text) := by
  induction surroundings with
  | nil =>
    intro group res
    refine ⟨res, some group, rfl, ?_, fun _ => ⟨group, rfl⟩⟩
    constructor
    · exact fun holds => ⟨.inl holds, fun _ member => absurd member List.not_mem_nil⟩
    · rintro ⟨holds | other, -⟩
      · exact holds
      · exact absurd rfl other
  | cons entry rest ih =>
    obtain ⟨key, positions⟩ := entry
    have restComplete : Surroundings.Complete rest :=
      ⟨fun entry member => complete.nonempty entry (List.mem_cons_of_mem _ member),
        fun entry member => complete.complete entry (List.mem_cons_of_mem _ member)⟩
    intro group res
    unfold checkOthers
    rw [others_cons]
    by_cases isOwn : key = i
    · rw [if_neg (not_not.mpr isOwn), if_pos isOwn]
      obtain ⟨result, stored, returns, answer, text⟩ := ih restComplete group res
      refine ⟨result, stored, returns, answer.trans ?_, text⟩
      rw [List.forall_mem_cons]
      exact and_congr_right fun _ =>
        ⟨fun all => ⟨fun other => absurd isOwn other, all⟩, fun all => all.2⟩
    · rw [if_pos isOwn, if_neg isOwn]
      obtain ⟨lat, lng, heading, held⟩ := complete.lastOf List.mem_cons_self
      obtain ⟨ownLat, ownLng, ownHeading, rfl⟩ := ownComplete
      obtain ⟨behind, checked⟩ : ∃ behind,
          check world [ownLat, ownLng, ownHeading] [lat, lng, heading] = .ok behind := ⟨_, rfl⟩
      simp only [held, bind, Except.bind, checked]
      cases behind with
      | false =>
        refine ⟨false, none, rfl, ⟨fun holds => absurd holds Bool.false_ne_true, ?_⟩,
          fun holds => absurd holds Bool.false_ne_true⟩
        rintro ⟨-, all⟩
        obtain ⟨info, read, passed⟩ := all (key, positions) List.mem_cons_self isOwn
        rw [held] at read
        cases read
        rw [checked] at passed
        cases passed
      | true =>
        obtain ⟨result, stored, returns, answer, text⟩ := ih restComplete (group ++ str key) true
        refine ⟨result, stored, returns, answer.trans ?_, text⟩
        rw [List.forall_mem_cons]
        constructor
        · rintro ⟨-, all⟩
          exact ⟨.inr (List.cons_ne_nil _ _), fun _ => ⟨_, held, checked⟩, all⟩
        · rintro ⟨-, -, all⟩
          exact ⟨.inl rfl, all⟩

/-- The own position of a station that has recorded a CAM of its own. -/
theorem last_own {i : Station} {surroundings : Surroundings} (complete : surroundings.Complete)
    (distinct : surroundings.keys.Nodup) (recorded : (i : ℕ) ∈ surroundings.keys) :
    ∃ lat lng heading, surroundings.last i = .ok [lat, lng, heading] := by
  obtain ⟨entry, member, same⟩ := List.mem_map.mp recorded
  obtain ⟨lat, lng, heading, held⟩ := complete.lastOf member
  refine ⟨lat, lng, heading, ?_⟩
  rw [← same, Surroundings.last_of_mem distinct member]
  exact held

/-- The loop's condition is that of the others. -/
theorem othersBehind_iff {i : Station} {surroundings : Surroundings} {own : List ℚ}
    (distinct : surroundings.keys.Nodup) (read : surroundings.last i = .ok own) :
    OthersBehind world i surroundings ↔ ∀ entry ∈ surroundings, entry.1 ≠ i →
      ∃ info, Surroundings.lastOf entry.2 = .ok info ∧ check world own info = .ok true := by
  constructor
  · intro behind entry member other
    obtain ⟨own', info, readOwn, held, checked⟩ := behind entry.1 (List.mem_filter.mpr
      ⟨List.mem_map_of_mem member, decide_eq_true other⟩)
    rw [read] at readOwn
    cases readOwn
    rw [Surroundings.last_of_mem distinct member] at held
    exact ⟨info, held, checked⟩
  · intro all other member
    obtain ⟨known, different⟩ := List.mem_filter.mp member
    obtain ⟨entry, inside, rfl⟩ := List.mem_map.mp known
    obtain ⟨info, held, checked⟩ := all entry inside (of_decide_eq_true different)
    exact ⟨own, info, read, (Surroundings.last_of_mem distinct inside).trans held, checked⟩

/-- **On a complete map with an own position the answer is right.** -/
theorem right_of_recorded {i : Station} {surroundings : Surroundings}
    (complete : surroundings.Complete) (distinct : surroundings.keys.Nodup)
    (stations : ∀ key ∈ surroundings.keys, key < 10) (recorded : (i : ℕ) ∈ surroundings.keys) :
    Right world i surroundings (-1) := by
  obtain ⟨lat, lng, heading, read⟩ := last_own complete distinct recorded
  obtain ⟨result, stored, returns, answer, text⟩ :=
    @checkOthers_complete world i [lat, lng, heading] ⟨lat, lng, heading, rfl⟩ surroundings complete
      [] false
  have same : leaderCheck world i surroundings (-1) = .ok (result, stored) := by
    unfold leaderCheck
    rw [read]
    exact returns
  refine ⟨result, stored, same, fun _ => ⟨?_, fun holds => ?_⟩⟩
  · rw [answer, othersBehind_iff distinct read]
    refine and_congr_left fun _ => ⟨fun reason => ?_, .inr⟩
    rcases reason with impossible | other
    · cases impossible
    · exact other
  · obtain ⟨group, rfl⟩ := text holds
    refine ⟨group, rfl, ?_⟩
    rw [(leaderCheck_stored world same).1, members, PyVal.toText]
    exact map_digitValue_spell fun id member => stations id (List.mem_of_mem_filter member)

/-- The values that `startSimul` passes to `leaderCheck`. -/
def Passed (world : World) (i : Station) (currentLeader : ℤ) : Prop :=
  ∃ s, Reached world s ∧ (s.procs i).loop.currentGroup = currentLeader ∧ currentLeader ≠ (i : ℕ)

/-- **When `leaderCheck` answers right.** For every map of a reachable state and every value that
`startSimul` passes the answer is right exactly if the station has recorded a CAM of its own. -/
theorem leaderCheck_right_iff {s : System} (reached : Reached world s) {i : Station}
    {currentLeader : ℤ} (passed : Passed world i currentLeader) :
    Right world i (s.procs i).surroundings currentLeader ↔
      (i : ℕ) ∈ (s.procs i).surroundings.keys := by
  have shaped := reachable_shaped reached
  obtain ⟨other, otherReached, rfl, notOwn⟩ := passed
  rw [(reachable_currentGroup otherReached i).resolve_right notOwn]
  constructor
  · rintro ⟨result, stored, returns, -⟩
    by_contra absent
    unfold leaderCheck at returns
    rw [Surroundings.last_of_not_mem absent] at returns
    cases returns
  · intro recorded
    exact right_of_recorded (reachable_complete reached i) (shaped.distinct i)
      (fun key member => Nat.lt_of_lt_of_le (shaped.stations i key member) (by decide)) recorded

end Answer

/-- Station 0 has recorded station 1 and itself. -/
theorem leaderCheck_right_iff_ahead :
    ∃ s : System, leaderCheck equator 0 (s.procs 0).surroundings (-1) = .ok (true, some ['1']) ∧
      Right equator 0 (s.procs 0).surroundings (-1) := by
  obtain ⟨s, reached, answer, recorded⟩ := run_reach (· = System.initial) (System.step equator)
    (fun _ _ => True) (fun s =>
      leaderCheck equator 0 (s.procs 0).surroundings (-1) = .ok (true, some ['1']) ∧
        ((0 : Station) : ℕ) ∈ (s.procs 0).surroundings.keys) rfl approach (by decide +kernel)
  exact ⟨s, answer, (leaderCheck_right_iff reached
    ⟨System.initial, .start rfl, rfl, by decide⟩).mpr recorded⟩

/-- Station 1 accepts the SET of station 0 before its own first CAM comes back to it. -/
def joinsEarly : List Action :=
  electionRun ++ (List.replicate 9 [Action.loop 1, .loop 1]).flatten ++
    [.loop 1, .deliver 43, .deliver 0]

/-- A station that joined a group before it recorded a CAM of its own fails at its check time. -/
theorem leaderCheck_indexError :
    ¬ ∀ world s, Reached world s → ∀ i : Station,
      (s.procs i).loop.phase = .body → (s.procs i).loop.msgNum = (s.procs i).loop.checkTime →
      (s.procs i).loop.currentGroup ≠ (i : ℕ) →
      Right world i (s.procs i).surroundings (s.procs i).loop.currentGroup := by
  intro claimed
  obtain ⟨s, reached, phase, due, other, -, failure⟩ := run_reach (· = System.initial)
    (System.step equator) (fun _ _ => True) (fun s => (s.procs 1).loop.phase = .body ∧
      (s.procs 1).loop.msgNum = (s.procs 1).loop.checkTime ∧
      (s.procs 1).loop.currentGroup ≠ ((1 : Station) : ℕ) ∧ ((s.procs 1).vals 1).groupID = 0 ∧
      leaderCheck equator 1 (s.procs 1).surroundings (s.procs 1).loop.currentGroup =
        .error .indexError) rfl joinsEarly (by decide +kernel)
  obtain ⟨result, stored, returns, -⟩ := claimed equator s reached 1 phase due other
  have same := failure.symm.trans returns
  cases same

end Vanet.Simulator
