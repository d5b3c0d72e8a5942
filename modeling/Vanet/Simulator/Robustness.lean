/-
**Which messages a handler survives.**

The handlers add strings and integers, index tuples that are too short, iterate over `None`, and parse their own
DENMs as JSON. `Handles` says, from the message and the state before it, when a handler runs to completion:
`handler_completes_iff` holds of every reachable state and of every message with the fields that the publishers
write (`Message.WellFormed`, `inflight_wellFormed`). The loop builds its SET and REPEAT payloads exactly if the
stored group is a string.
-/

import Vanet.Simulator.Members

namespace Vanet.Simulator

open Vanet.Library Vanet.Socktap

variable {world : World} {s : System} {i : Station} {p : Process}

/-- **The fields that the publishers write**: numbers for the id and the quality, and some digits for the sequence
number, which is a group. -/
structure Written (payload : DenmText) : Prop where
  origin : ∃ id, payload.originatingStationID = str id
  nonempty : payload.sequenceNumber ≠ []
  digits : ∀ c ∈ payload.sequenceNumber, c.isDigit = true
  quality : ∃ quality, payload.informationQuality = str quality

/-- A message of the protocol. What other stations and CAMs bring has been decoded already. -/
def Message.WellFormed : Message → Prop
  | .ownDenm payload => Written payload
  | .denm _ => True
  | .cam _ => True

/-- When a request to merge is handled: by station 0, once it has a location and unless it would add
a string to a number; by stations 1 and 2 never; by station 3, which ignores it, always. -/
def HandlesMerge (world : World) (p : Process) : Station → Prop
  | 0 => (p.vals 0).location ≠ [] ∧
      ((check world ((p.vals 0).location ++ [90]) [42.48252, -95.98588]).toOption = some true →
        (p.vals 0).group.IsStr)
  | 1 => False
  | 2 => False
  | 3 => True

/-- **When a handler runs to completion.** The own DENM has to have no leading zero in its sequence number. -/
def Handles (world : World) (i : Station) (p : Process) : Message → Prop
  | .denm denm =>
      (denm.Event 101 1 → i = 0 ∨ (p.vals i).groupID ≠ (i : ℕ)) ∧
      (denm.Event 102 1 → HandlesMerge world p i)
  | .ownDenm payload => payload.sequenceNumber.head? = some '0' → payload.sequenceNumber = ['0']
  | .cam _ => True

/-- A payload of the publishers is JSON if its sequence number is. -/
theorem Written.loads_isSome {payload : DenmText} (written : Written payload) :
    payload.loads.isSome = true ↔
      (payload.sequenceNumber.head? = some '0' → payload.sequenceNumber = ['0']) := by
  obtain ⟨⟨id, origin⟩, nonempty, digits, ⟨value, quality⟩⟩ := written
  have valid : IsNumeral payload.sequenceNumber ↔
      (payload.sequenceNumber.head? = some '0' → payload.sequenceNumber = ['0']) :=
    ⟨fun numeral => numeral.2.2, fun leading => ⟨nonempty, digits, leading⟩⟩
  rw [← valid]
  unfold DenmText.loads
  rw [origin, quality, numeral_toDigits, numeral_toDigits]
  by_cases number : IsNumeral payload.sequenceNumber
  · rw [numeral, if_pos number]
    exact iff_of_true rfl number
  · rw [numeral, if_neg number]
    exact iff_of_false Bool.false_ne_true number

/-- A position and a heading are enough for `check`. -/
theorem check_ok (lat lng heading otherLat otherLng : ℚ) :
    ∃ answer, check world [lat, lng, heading] [otherLat, otherLng] = .ok answer :=
  ⟨_, rfl⟩

theorem mergeReply_raised {checked : Except PyError Bool} {requester : Text} :
    (mergeReply i p checked (.str requester)).raised = none ↔
      ∃ answer, checked = .ok answer ∧ (answer = true → (p.vals i).group.IsStr) := by
  cases checked with
  | error failure =>
    refine iff_of_false (Option.some_ne_none _) ?_
    rintro ⟨_, impossible, _⟩
    cases impossible
  | ok answer =>
    cases answer with
    | false => exact iff_of_true rfl ⟨false, rfl, fun holds => absurd holds Bool.false_ne_true⟩
    | true =>
      cases held : (p.vals i).group with
      | int n =>
        simp only [mergeReply, held, PyVal.add]
        refine iff_of_false (Option.some_ne_none _) ?_
        rintro ⟨answer, same, string⟩
        cases same
        exact string rfl
      | str group =>
        simp only [mergeReply, held, PyVal.add, denmPayload_str]
        exact iff_of_true rfl ⟨true, rfl, fun _ => trivial⟩

theorem mergeRequest_raised (denm : Denm)
    (location : (p.vals i).location = [] ∨
      ∃ position : Position, (p.vals i).location = [position.lat, position.lng]) :
    ((branches world i).mergeRequest p denm).raised = none ↔ HandlesMerge world p i := by
  match i with
  | 0 =>
    show (mergeReply 0 p _ _).raised = none ↔ _ ∧ _
    rw [mergeReply_raised]
    rcases location with empty | ⟨position, held⟩
    · rw [empty]
      refine iff_of_false ?_ fun handles => handles.1 rfl
      rintro ⟨_, impossible, _⟩
      cases impossible
    · rw [held]
      obtain ⟨answer, checked⟩ := @check_ok world position.lat position.lng 90
        42.48252 (-95.98588)
      simp only [List.cons_append, List.nil_append, checked, Except.toOption, ne_eq,
        reduceCtorEq, not_false_eq_true, true_and, Option.some.injEq, Except.ok.injEq,
        exists_eq_left']
  | 1 =>
    have short : (p.vals 1).location.length ≤ 2 := by
      rcases location with empty | ⟨position, held⟩
      · rw [empty]
        exact Nat.zero_le 2
      · rw [held]
        exact le_rfl
    show (mergeReply 1 p (check world (p.vals 1).location [denm.latitude, denm.longitude])
      (.int denm.originatingStationID)).raised = none ↔ False
    rw [check_indexError world short]
    exact iff_of_false nofun id
  | 2 => exact iff_of_false nofun id
  | 3 => exact iff_of_true rfl trivial

theorem repeatGroup_raised (denm : Denm) :
    (repeatGroup i (branches world i) p denm).raised = none := by
  unfold repeatGroup
  split_ifs
  · rfl
  · rfl
  · rfl
  · match i with
    | 0 | 1 | 3 => rfl
    | 2 =>
      show (branches4.repeatElse p).raised = none
      simp only [branches4]
      split_ifs <;> rfl

/-- **The handlers, message by message.** -/
theorem handler_raised (location : (p.vals i).location = [] ∨
      ∃ position : Position, (p.vals i).location = [position.lat, position.lng])
    {message : Message} (wellFormed : message.WellFormed) :
    (handler world i p message).raised = none ↔ Handles world i p message := by
  rw [handler_eq]
  cases message with
  | ownDenm payload =>
    show (onOwnDenm i p payload).raised = none ↔ (_ → _)
    rw [← Written.loads_isSome wellFormed, onOwnDenm]
    cases payload.loads with
    | none => exact iff_of_false (Option.some_ne_none _) Bool.false_ne_true
    | some denm => exact iff_of_true rfl rfl
  | cam payload =>
    refine iff_of_true ?_ trivial
    show (onCam i p payload).raised = none
    unfold onCam
    split_ifs <;> rfl
  | denm denm =>
    show (onDenm i (branches world i) p denm).raised = none ↔ _ ∧ _
    by_cases join : denm.Event 101 1
    · have merge : ¬ denm.Event 102 1 := fun merge => by
        have := join.1.symm.trans merge.1
        omega
      rw [onDenm_askJoin join, askJoin_raised]
      simp only [join, merge, forall_const, false_imp_iff, and_true]
    by_cases merge : denm.Event 102 1
    · rw [onDenm_mergeRequest merge, mergeRequest_raised denm location]
      simp only [join, merge, forall_const, false_imp_iff, true_and]
    refine iff_of_true ?_ ⟨fun other => absurd other join, fun other => absurd other merge⟩
    unfold onDenm
    split_ifs with isGroup isSet isRepeat isJoin isAsk isReply isMerge isMergeAsk isMergeReply
    · rfl
    · exact repeatGroup_raised denm
    · rfl
    · exact absurd ⟨isJoin, isAsk⟩ join
    · rfl
    · rfl
    · exact absurd ⟨isMerge, isMergeAsk⟩ merge
    · rfl
    · rfl
    · rfl

/-! ### What is in flight -/

/-- **Groups are digits**, in the stations and in what they have published. -/
structure Spelled (s : System) : Prop where
  group : ∀ i, ∀ c ∈ ((s.procs i).vals i).group.toText, c.isDigit = true
  published : ∀ i text, .published i text ∈ s.history → Written text

theorem isDigit_of_mem_str {n : ℕ} {c : Char} (member : c ∈ str n) : c.isDigit = true :=
  Nat.isDigit_of_mem_toDigits (by decide) (by decide) member

/-- A group and the id of a station. -/
theorem written_append {payload : DenmText} {group : Text} {id : ℕ}
    (digits : ∀ c ∈ group, c.isDigit = true) (origin : ∃ id, payload.originatingStationID = str id)
    (sequence : payload.sequenceNumber = group ++ str id)
    (quality : ∃ quality, payload.informationQuality = str quality) : Written payload := by
  refine ⟨origin, ?_, ?_, quality⟩
  · rw [sequence]
    exact List.append_ne_nil_of_right_ne_nil _ (isNumeral_toDigits id).1
  · rw [sequence]
    intro c member
    rcases List.mem_append.mp member with old | new
    · exact digits c old
    · exact isDigit_of_mem_str new

/-- What a handler stores. -/
theorem GroupChange.digits {denm : Denm} {group : PyVal} (change : GroupChange world i p denm group)
    (before : ∀ c ∈ (p.vals i).group.toText, c.isDigit = true) : ∀ c ∈ group.toText, c.isDigit = true := by
  have append : ∀ {text : Text}, (∀ c ∈ text, c.isDigit = true) →
      ∀ c ∈ text ++ str denm.originatingStationID, c.isDigit = true := by
    intro text digits c member
    rcases List.mem_append.mp member with old | new
    · exact digits c old
    · exact isDigit_of_mem_str new
  cases change with
  | updated => exact fun c => isDigit_of_mem_str
  | replied => exact fun c => isDigit_of_mem_str
  | joined => exact append before
  | summed => exact fun c => isDigit_of_mem_str
  | merged _ _ _ held =>
    rw [held] at before
    exact append before

/-- What a handler publishes. -/
theorem Answers.written {denm : Denm} {text : DenmText} (answers : Answers world i p denm text)
    (before : ∀ c ∈ (p.vals i).group.toText, c.isDigit = true) : Written text := by
  cases answers with
  | askJoin => exact @written_append _ [] 0 nofun ⟨i, rfl⟩ rfl ⟨7, rfl⟩
  | askMerge => exact @written_append _ [] 0 nofun ⟨i, rfl⟩ rfl ⟨7, rfl⟩
  | joinReply => exact written_append before ⟨i, rfl⟩ rfl ⟨_, rfl⟩
  | mergeReply _ _ _ held =>
    rw [held] at before
    exact written_append before ⟨i, rfl⟩ rfl ⟨_, rfl⟩

theorem spelled_delivered {k : ℕ} {packet : Packet} (shaped : Shaped s) (spelled : Spelled s) :
    Spelled (s.delivered world k packet) := by
  constructor
  · intro i
    by_cases same : i = packet.dest
    · subst same
      have own : (s.delivered world k packet).procs packet.dest = (s.outcome world packet).process := by
        simp [System.delivered]
      rw [own, System.outcome]
      rcases handler_group (shaped.location_length packet.dest) packet.message with kept | ⟨denm, _, change⟩
      · rw [kept]
        exact spelled.group packet.dest
      · exact change.digits (spelled.group packet.dest)
    · have kept : (s.delivered world k packet).procs i = s.procs i := by
        simp [System.delivered, same]
      rw [kept]
      exact spelled.group i
  · intro i text recorded
    rcases mem_delivered_history.mp recorded with old | accepted | ⟨sent, published, same⟩
    · exact spelled.published i text old
    · exact absurd accepted published_not_mem_acceptance
    · cases same
      obtain ⟨denm, _, answers⟩ := handler_sent published
      exact answers.written (spelled.group packet.dest)

theorem spelled_turned {t : Turn} (spelled : Spelled s) (turning : turn world i (s.procs i) = some t) :
    Spelled (s.turned i t) := by
  constructor
  · intro j
    by_cases same : j = i
    · subst same
      rw [turned_self]
      rcases turn_group turning with kept | ⟨-, leader, group, checked, stored⟩
      · rw [kept]
        exact spelled.group j
      · rw [stored]
        show ∀ c ∈ group, c.isDigit = true
        rw [(leaderCheck_stored world checked).1]
        exact fun c => isDigit_of_mem_spell
    · rw [turned_other t same]
      exact spelled.group j
  · intro j text recorded
    rcases mem_turned_history.mp recorded with old | elected | ⟨sent, published, same⟩
    · exact spelled.published j text old
    · exact absurd elected published_not_mem_election
    · cases same
      have built : ∃ subCauseCode, groupPayload i (s.procs i) subCauseCode = .ok text := by
        rcases turn_sent turning published with ⟨_, _, _, built⟩ | ⟨_, built⟩
        · exact ⟨2, built⟩
        · exact ⟨1, built⟩
      obtain ⟨subCauseCode, built⟩ := built
      obtain ⟨group, held, rfl⟩ := groupPayload_eq_ok.mp built
      have before := spelled.group i
      rw [held] at before
      exact written_append before ⟨i, rfl⟩ rfl ⟨7, rfl⟩

theorem reachable_spelled (reached : Reached world s) : Spelled s := by
  refine system_invariant ?_ ?_ ?_ ?_ s reached
  · exact ⟨fun _ _ member => absurd member List.not_mem_nil,
      fun _ _ recorded => absurd recorded List.not_mem_nil⟩
  · exact fun s k packet reached spelled _ _ _ => spelled_delivered (reachable_shaped reached) spelled
  · exact fun s k spelled => ⟨spelled.group, spelled.published⟩
  · exact fun s i t _ spelled _ turning => spelled_turned spelled turning

/-- **Every message in flight is well formed.** -/
theorem inflight_wellFormed (reached : Reached world s) {packet : Packet} (member : packet ∈ s.inflight) :
    packet.message.WellFormed := by
  have traced := (reachable_traced reached).inflight packet member
  obtain ⟨dest, message⟩ := packet
  cases message with
  | ownDenm payload => exact (reachable_spelled reached).published dest payload traced
  | denm denm => exact trivial
  | cam payload => exact trivial

/-- **Which messages a handler survives**, in every reachable state: all but the own DENM with a leading zero, a
request to join at the stations 1 to 3 while they are in their own group, and a request to merge unless
`HandlesMerge`. Whatever is in flight is one of these messages. The payloads of SET and REPEAT are built exactly if
the stored group is a string. -/
theorem handler_completes_iff (reached : Reached world s) (i : Station) :
    (∀ message : Message, message.WellFormed →
      ((handler world i (s.procs i) message).raised = none ↔
        Handles world i (s.procs i) message)) ∧
    (∀ packet ∈ s.inflight, packet.message.WellFormed) ∧
    ∀ subCauseCode, (∃ text, groupPayload i (s.procs i) subCauseCode = .ok text) ↔
      ((s.procs i).vals i).group.IsStr := by
  refine ⟨fun message => handler_raised ((reachable_shaped reached).location i),
    fun packet => inflight_wellFormed reached, ?_⟩
  intro subCauseCode
  constructor
  · rintro ⟨text, built⟩
    obtain ⟨group, held, -⟩ := groupPayload_eq_ok.mp built
    rw [held]
    trivial
  · intro string
    cases held : ((s.procs i).vals i).group with
    | str group => exact ⟨_, groupPayload_eq_ok.mpr ⟨group, held, rfl⟩⟩
    | int n =>
      rw [held] at string
      exact string.elim

/-- Station 0 after the election, in its own group: it reads its SET `10`, and answers the request of
station 2. -/
theorem handler_completes_iff_leader : ∃ s : System,
    ((s.procs 0).vals 0).groupID = 0 ∧ ((s.procs 0).vals 0).group = .str ['1'] ∧
      (handler equator 0 (s.procs 0) (.ownDenm ⟨['0'], ['1', '0'], 0, 0, ['7'], 100, 1⟩)).raised = none ∧
        (handler equator 0 (s.procs 0) (.denm ⟨2, 0, 40, -8, 7, 101, 1⟩)).raised = none := by
  obtain ⟨s, reached, leads, held⟩ := run_reach (· = System.initial) (System.step equator)
    (fun _ _ => True)
    (fun s => ((s.procs 0).vals 0).groupID = 0 ∧ ((s.procs 0).vals 0).group = .str ['1']) rfl
    (electionRun ++ [.deliver 42]) (by decide +kernel)
  obtain ⟨completes, -, -⟩ := handler_completes_iff reached 0
  have written : Written ⟨['0'], ['1', '0'], 0, 0, ['7'], 100, 1⟩ :=
    ⟨⟨0, rfl⟩, by decide, List.all_eq_true.mp rfl, ⟨7, rfl⟩⟩
  have read := (completes (.ownDenm ⟨['0'], ['1', '0'], 0, 0, ['7'], 100, 1⟩) written).mpr
    fun zero => absurd zero (by decide)
  refine ⟨s, leads, held, read, ?_⟩
  exact (completes (.denm ⟨2, 0, 40, -8, 7, 101, 1⟩) trivial).mpr
    ⟨fun _ => .inl rfl, fun merge => absurd merge (by decide)⟩

/-- What the others receive of the request to merge. -/
example : (denmText (str 2) ['0'] ['7'] 102 1).broadcast = some ⟨2, 0, 40, -8, 7, 102, 1⟩ := by
  decide +kernel

/-- Station 1 gets the request of station 2 to merge before it has a location. -/
theorem mergeRequest_fails :
    ¬ ∀ (world : World) (s : System), Reached world s → ∀ (i : Station) (message : Message),
      message.WellFormed → (handler world i (s.procs i) message).raised = none := by
  intro claimed
  have completes := claimed equator .initial (.start rfl) 1 (.denm ⟨2, 0, 40, -8, 7, 102, 1⟩) trivial
  cases completes

end Vanet.Simulator
