/-
**Who leads, and who stops leading.**

The handlers take every own DENM that comes back for the own group message: they store the
originator as the group id, also when the DENM was a request to join. `EchoAfterSet` is the
condition under which this does no harm, and `Led` the invariant of the runs that meet it.

The loop decides with its own variables `currentGroup` and `repeatDenm`, which no handler writes:
a station that accepts a foreign SET goes on as before. `Yields` is the condition under which it
has stopped, or never starts; `Silent` is the invariant.
-/

import Vanet.Simulator.Network

namespace Vanet.Simulator

open Vanet.Library Vanet.Socktap

variable {world : World} {s : System}

/-! ### Leadership is gained by election -/

/-- The event is the publication of a SET by station `i`. -/
def Event.IsSetOf (i : Station) : Event → Prop
  | .published j text => j = i ∧ text.Event 100 1
  | _ => False

instance (i : Station) : (event : Event) → Decidable (event.IsSetOf i)
  | .published j text => inferInstanceAs (Decidable (j = i ∧ text.Event 100 1))
  | .leaderCheckTrue _ => isFalse id
  | .acceptedSet _ _ => isFalse id

/-- Station `i` has published a SET. -/
def PublishedSet (history : List Event) (i : Station) : Prop := ∃ event ∈ history, event.IsSetOf i

/-- Station `i` has won a `leaderCheck` and published a SET. -/
def Elected (history : List Event) (i : Station) : Prop :=
  .leaderCheckTrue i ∈ history ∧ PublishedSet history i

/-- No own DENM other than a group message comes back to a station that has not published a SET. -/
def EchoAfterSet (s : System) : Action → Prop
  | .deliver k =>
    match s.inflight[k]? with
    | some ⟨i, .ownDenm payload⟩ => payload.causeCode = 100 ∨ PublishedSet s.history i
    | _ => True
  | _ => True

instance (history : List Event) (i : Station) : Decidable (PublishedSet history i) := by
  unfold PublishedSet
  infer_instance

instance (s : System) (action : Action) : Decidable (EchoAfterSet s action) := by
  unfold EchoAfterSet
  split
  · split <;> infer_instance
  · infer_instance

/-- **The invariant of leadership.** -/
structure Led (s : System) : Prop where
  groupID : ∀ i : Station, ((s.procs i).vals i).groupID = (i : ℕ) → Elected s.history i
  elected : ∀ i, (s.procs i).loop.phase = .elected → .leaderCheckTrue i ∈ s.history
  repeats : ∀ i, (s.procs i).loop.repeatDenm = true → Elected s.history i
  group : ∀ i text, .published i text ∈ s.history → text.causeCode = 100 → Elected s.history i
  reply : ∀ i text, .published i text ∈ s.history → text.Event 101 2 → Elected s.history i

theorem Elected.mono {history later : List Event} {i : Station} (elected : Elected history i)
    (extended : ∀ event ∈ history, event ∈ later) : Elected later i := by
  obtain ⟨won, event, sent, set⟩ := elected
  exact ⟨extended _ won, event, extended _ sent, set⟩

/-- A published SET is the SET of an elected leader. -/
theorem Led.elected_of_publishedSet (led : Led s) {i : Station}
    (published : PublishedSet s.history i) : Elected s.history i := by
  obtain ⟨event, sent, set⟩ := published
  cases event with
  | published j text =>
    obtain ⟨rfl, set⟩ := set
    exact led.group j text sent set.1
  | leaderCheckTrue j => exact set.elim
  | acceptedSet j originator => exact set.elim

theorem led_delivered {k : ℕ} {packet : Packet} (traced : Traced s) (led : Led s)
    (echo : EchoAfterSet s (.deliver k)) (found : s.inflight[k]? = some packet) :
    Led (s.delivered world k packet) := by
  have kept : ∀ event ∈ s.history, event ∈ (s.delivered world k packet).history :=
    fun event recorded => mem_delivered_history.mpr (.inl recorded)
  obtain ⟨dest, message⟩ := packet
  have member := List.mem_of_getElem? found
  constructor
  · intro i own
    rw [delivered_groupID] at own
    split_ifs at own with same
    · subst same
      cases message with
      | cam payload => exact (led.groupID i own).mono kept
      | denm denm =>
        -- the originator of a foreign SET is another station
        simp only [groupIDAfter] at own
        split_ifs at own
        · obtain ⟨sender, -, other, -, -, origin⟩ := traced.denm member
          rw [origin] at own
          exact absurd (Fin.val_injective (Int.natCast_inj.mp own)) other
        · exact (led.groupID i own).mono kept
      | ownDenm payload =>
        by_cases set : payload.causeCode = 100
        · exact (led.group i payload (traced.ownDenm member).1 set).mono kept
        · simp only [EchoAfterSet, found] at echo
          exact (led.elected_of_publishedSet (echo.resolve_left set)).mono kept
    · exact (led.groupID i own).mono kept
  · intro i phase
    rw [delivered_loop] at phase
    exact kept _ (led.elected i phase)
  · intro i repeats
    rw [delivered_loop] at repeats
    exact (led.repeats i repeats).mono kept
  · intro i text recorded group
    rcases mem_delivered_history.mp recorded with old | accepted | ⟨sent, published, same⟩
    · exact (led.group i text old group).mono kept
    · exact absurd accepted published_not_mem_acceptance
    · cases same
      obtain ⟨denm, -, answers⟩ := handler_sent published
      exact absurd ⟨group, rfl⟩ (answers.not_group text.subCauseCode)
  · intro i text recorded reply
    rcases mem_delivered_history.mp recorded with old | accepted | ⟨sent, published, same⟩
    · exact (led.reply i text old reply).mono kept
    · exact absurd accepted published_not_mem_acceptance
    · cases same
      obtain ⟨denm, -, answers⟩ := handler_sent published
      cases answers with
      | askJoin => exact absurd reply.2 (by simp [denmText])
      | askMerge => exact absurd reply.2 (by simp [denmText])
      | joinReply zero _ leader =>
        have own : ((s.procs dest).vals dest).groupID = (dest : ℕ) := by
          rw [leader, show dest = 0 from zero]
          rfl
        exact (led.groupID dest own).mono kept
      | mergeReply => exact absurd reply.1 (by simp [denmText])

theorem led_turned {i : Station} {t : Turn} (led : Led s)
    (turning : turn world i (s.procs i) = some t) : Led (s.turned i t) := by
  have kept : ∀ event ∈ s.history, event ∈ (s.turned i t).history :=
    fun event recorded => mem_turned_history.mpr (.inl recorded)
  -- the SET is published by the turn that follows the election
  have published : ∀ text, groupPayload i (s.procs i) 1 = .ok text → text ∈ t.denms →
      (s.procs i).loop.phase = .elected → Elected (s.turned i t).history i := by
    intro text built sent phase
    obtain ⟨group, -, rfl⟩ := groupPayload_eq_ok.mp built
    exact ⟨kept _ (led.elected i phase), _, mem_turned_history.mpr (.inr (.inr ⟨_, sent, rfl⟩)),
      rfl, rfl, rfl⟩
  have groupText : ∀ text ∈ t.denms, text.causeCode = 100 ∧ Elected (s.turned i t).history i := by
    intro text sent
    rcases turn_sent turning sent with ⟨-, repeats, -, built⟩ | ⟨phase, built⟩
    · refine ⟨?_, (led.repeats i repeats).mono kept⟩
      obtain ⟨group, -, rfl⟩ := groupPayload_eq_ok.mp built
      rfl
    · refine ⟨?_, published text built sent phase⟩
      obtain ⟨group, -, rfl⟩ := groupPayload_eq_ok.mp built
      rfl
  constructor
  · intro j own
    rw [turned_groupID turning] at own
    exact (led.groupID j own).mono kept
  · intro j phase
    by_cases same : j = i
    · subst same
      rw [turned_self] at phase
      exact mem_turned_history.mpr (.inr (.inl (by simp [election, phase])))
    · rw [turned_other t same] at phase
      exact kept _ (led.elected j phase)
  · intro j repeats
    by_cases same : j = i
    · subst same
      rw [turned_self] at repeats
      rcases turn_repeatDenm turning repeats with before | ⟨phase, text, built, sent⟩
      · exact (led.repeats j before).mono kept
      · exact published text built (sent ▸ List.mem_singleton.mpr rfl) phase
    · rw [turned_other t same] at repeats
      exact (led.repeats j repeats).mono kept
  · intro j text recorded group
    rcases mem_turned_history.mp recorded with old | elected | ⟨sent, member, same⟩
    · exact (led.group j text old group).mono kept
    · exact absurd elected published_not_mem_election
    · cases same
      exact (groupText text member).2
  · intro j text recorded reply
    rcases mem_turned_history.mp recorded with old | elected | ⟨sent, member, same⟩
    · exact (led.reply j text old reply).mono kept
    · exact absurd elected published_not_mem_election
    · cases same
      exact (groupText text member).2

theorem guarded_led
    (reached : GuardedReach (· = System.initial) (System.step world) EchoAfterSet s) : Led s := by
  refine system_invariant ?_ ?_ ?_ ?_ s reached
  · refine ⟨?_, ?_, ?_, ?_, ?_⟩
    · intro i own
      have free : (-1 : ℤ) = (i : ℕ) := own
      omega
    · exact fun i phase => nomatch phase
    · exact fun i repeats => nomatch repeats
    · exact fun i text recorded => absurd recorded List.not_mem_nil
    · exact fun i text recorded => absurd recorded List.not_mem_nil
  · intro s k packet reached led echo found _
    exact led_delivered (reachable_traced reached) led echo found
  · exact fun s k led => ⟨led.groupID, led.elected, led.repeats, led.group, led.reply⟩
  · intro s i t _ led _ turning
    exact led_turned led turning

/-- **Leadership is only gained by election**, as long as no own DENM comes back to a station that
has not published a SET, unless it is a group message: a station in its own group has won a
`leaderCheck` and published a SET, and so has every station that answers a request to join. -/
theorem leads_only_elected
    (reached : GuardedReach (· = System.initial) (System.step world) EchoAfterSet s) (i : Station) :
    (((s.procs i).vals i).groupID = (i : ℕ) → Elected s.history i) ∧
      ∀ text, .published i text ∈ s.history → text.Event 101 2 → Elected s.history i :=
  ⟨(guarded_led reached).groupID i, (guarded_led reached).reply i⟩

/-- Station 0 is elected, and its SET comes back. -/
theorem leads_only_elected_station0 :
    ∃ s : System, ((s.procs 0).vals 0).groupID = 0 ∧ Elected s.history 0 := by
  obtain ⟨s, reached, own⟩ := run_reach (· = System.initial) (System.step equator) EchoAfterSet
    (fun s => ((s.procs 0).vals 0).groupID = 0) rfl (electionRun ++ [.deliver 42])
    (by decide +kernel)
  exact ⟨s, own, (leads_only_elected reached 0).1 own⟩

/-- Station 1 asks to join on the REPEAT, and its own request makes it a leader. -/
theorem joining_station_leads :
    ¬ ∀ world s, Reached world s → ∀ i : Station, ((s.procs i).vals i).groupID = (i : ℕ) →
      Elected s.history i := by
  intro claimed
  obtain ⟨s, reached, own, unelected⟩ := run_reach (· = System.initial) (System.step equator)
    (fun _ _ => True)
    (fun s => ((s.procs 1).vals 1).groupID = 1 ∧ .leaderCheckTrue 1 ∉ s.history) rfl
    (electionRun ++ [.deliver 47, .deliver 49]) (by decide +kernel)
  exact unelected (claimed equator s reached 1 own).1

/-! ### A leader that has heard of another one -/

/-- The event is the acceptance of a SET by station `i`. -/
def Event.IsAcceptanceBy (i : Station) : Event → Prop
  | .acceptedSet j _ => j = i
  | _ => False

instance (i : Station) : (event : Event) → Decidable (event.IsAcceptanceBy i)
  | .acceptedSet j _ => inferInstanceAs (Decidable (j = i))
  | .leaderCheckTrue _ => isFalse id
  | .published _ _ => isFalse id

/-- The event is the publication of a SET or REPEAT by station `i`. -/
def Event.IsGroupMessageOf (i : Station) : Event → Prop
  | .published j text => j = i ∧ text.causeCode = 100
  | _ => False

instance (i : Station) : (event : Event) → Decidable (event.IsGroupMessageOf i)
  | .published j text => inferInstanceAs (Decidable (j = i ∧ text.causeCode = 100))
  | .leaderCheckTrue _ => isFalse id
  | .acceptedSet _ _ => isFalse id

/-- Station `i` has accepted another station's SET. -/
def HasAccepted (history : List Event) (i : Station) : Prop :=
  ∃ event ∈ history, event.IsAcceptanceBy i

instance (history : List Event) (i : Station) : Decidable (HasAccepted history i) := by
  unfold HasAccepted
  infer_instance

/-- `leaderCheck` returns `True`. -/
def returnsTrue : Except PyError (Bool × Option Text) → Bool
  | .ok (leader, _) => leader
  | .error _ => false

/-- A foreign SET comes to no station that is elected or repeats a group, and a station that has
accepted one loses its `leaderCheck`. -/
def Yields (world : World) (s : System) : Action → Prop
  | .deliver k =>
    match s.inflight[k]? with
    | some ⟨i, .denm denm⟩ => denm.Event 100 1 →
        (s.procs i).loop.repeatDenm = false ∧ (s.procs i).loop.phase ≠ .elected
    | _ => True
  | .loop i => HasAccepted s.history i → (s.procs i).loop.phase = .body →
      (s.procs i).loop.msgNum = (s.procs i).loop.checkTime →
      returnsTrue (leaderCheck world i (s.procs i).surroundings (s.procs i).loop.currentGroup) =
        false
  | .lose _ => True

instance (world : World) (s : System) (action : Action) : Decidable (Yields world s action) := by
  unfold Yields
  split
  · split <;> infer_instance
  · infer_instance
  · infer_instance

/-- No group message of a station follows its acceptance of a foreign SET. -/
def InOrder (earlier later : Event) : Prop :=
  ∀ i : Station, earlier.IsAcceptanceBy i → ¬ later.IsGroupMessageOf i

/-- **The invariant of the runs that yield**: a station that has accepted a SET is no leader, and
has published no group message since. -/
structure Silent (s : System) : Prop where
  stopped : ∀ i, HasAccepted s.history i →
    (s.procs i).loop.repeatDenm = false ∧ (s.procs i).loop.phase ≠ .elected
  ordered : s.history.Pairwise InOrder

/-- New events keep the order if nothing comes before one of them that forbids it. -/
theorem pairwise_append_of_new {history events : List Event} (ordered : history.Pairwise InOrder)
    (new : ∀ later ∈ events, ∀ earlier ∈ history ++ events, InOrder earlier later) :
    (history ++ events).Pairwise InOrder := by
  refine List.pairwise_append.mpr ⟨ordered, ?_, ?_⟩
  · exact List.pairwise_of_forall_mem_list fun earlier member later member' =>
      new later member' earlier (List.mem_append_right _ member)
  · exact fun earlier member later member' =>
      new later member' earlier (List.mem_append_left _ member)

theorem silent_delivered {k : ℕ} {packet : Packet} (silent : Silent s)
    (yields : Yields world s (.deliver k)) (found : s.inflight[k]? = some packet) :
    Silent (s.delivered world k packet) := by
  obtain ⟨dest, message⟩ := packet
  constructor
  · rintro i ⟨event, recorded, accepted⟩
    rw [delivered_loop]
    rcases mem_delivered_history.mp recorded with old | new | ⟨text, -, rfl⟩
    · exact silent.stopped i ⟨event, old, accepted⟩
    · cases message with
      | ownDenm payload => exact absurd new List.not_mem_nil
      | cam payload => exact absurd new List.not_mem_nil
      | denm denm =>
        simp only [acceptance] at new
        split_ifs at new with set
        · cases List.mem_singleton.mp new
          cases (accepted : dest = i)
          simp only [Yields, found] at yields
          exact yields set
        · exact absurd new List.not_mem_nil
    · exact accepted.elim
  · refine pairwise_append_of_new silent.ordered fun later member earlier _ i _ group => ?_
    -- a handler publishes no group message
    rcases List.mem_append.mp member with accepted | sent
    · cases later with
      | published j text => exact absurd accepted published_not_mem_acceptance
      | leaderCheckTrue j => exact group
      | acceptedSet j originator => exact group
    · obtain ⟨text, published, rfl⟩ := List.mem_map.mp sent
      obtain ⟨denm, -, answers⟩ := handler_sent published
      exact answers.not_group text.subCauseCode ⟨group.2, rfl⟩

theorem silent_turned {i : Station} {t : Turn} (silent : Silent s)
    (yields : Yields world s (.loop i)) (turning : turn world i (s.procs i) = some t) :
    Silent (s.turned i t) := by
  have old : ∀ {j event}, event ∈ (s.turned i t).history → event.IsAcceptanceBy j →
      HasAccepted s.history j := by
    intro j event recorded accepted
    rcases mem_turned_history.mp recorded with old | elected | ⟨text, -, rfl⟩
    · exact ⟨event, old, accepted⟩
    · unfold election at elected
      split_ifs at elected
      · cases List.mem_singleton.mp elected
        exact accepted.elim
      · exact absurd elected List.not_mem_nil
    · exact accepted.elim
  constructor
  · rintro j ⟨event, recorded, accepted⟩
    have before := silent.stopped j (old recorded accepted)
    by_cases same : j = i
    · subst same
      rw [turned_self]
      constructor
      · rw [← Bool.not_eq_true]
        intro repeats
        rcases turn_repeatDenm turning repeats with repeated | ⟨phase, -⟩
        · rw [before.1] at repeated
          cases repeated
        · exact before.2 phase
      · intro phase
        obtain ⟨body, due, stored, won⟩ := turn_elected turning phase
        have lost := yields (old recorded accepted) body due
        rw [won] at lost
        cases lost
    · rw [turned_other t same]
      exact before
  · refine pairwise_append_of_new silent.ordered fun later member earlier member' j accepted group => ?_
    have before := silent.stopped j (old member' accepted)
    rcases List.mem_append.mp member with elected | sent
    · cases later with
      | published k text => exact absurd elected published_not_mem_election
      | leaderCheckTrue k => exact group
      | acceptedSet k originator => exact group
    · obtain ⟨text, published, rfl⟩ := List.mem_map.mp sent
      obtain ⟨rfl, -⟩ := group
      rcases turn_sent turning published with ⟨-, repeats, -⟩ | ⟨phase, -⟩
      · rw [before.1] at repeats
        cases repeats
      · exact before.2 phase

theorem guarded_silent
    (reached : GuardedReach (· = System.initial) (System.step world) (Yields world) s) :
    Silent s := by
  refine system_invariant ?_ ?_ ?_ ?_ s reached
  · exact ⟨fun i ⟨_, recorded, _⟩ => absurd recorded List.not_mem_nil, .nil⟩
  · exact fun s k packet _ silent yields found _ => silent_delivered silent yields found
  · exact fun s k silent => ⟨silent.stopped, silent.ordered⟩
  · exact fun s i t _ silent yields turning => silent_turned silent yields turning

/-- **A station that has accepted a foreign SET never publishes a SET or REPEAT again**, and of two
stations of which one has accepted a SET at most one goes on, in every run that yields. -/
theorem accepted_publishes_no_group
    (reached : GuardedReach (· = System.initial) (System.step world) (Yields world) s)
    {earlier later : List Event} (split : s.history = earlier ++ later) :
    (∀ i, HasAccepted earlier i → ∀ event ∈ later, ¬ event.IsGroupMessageOf i) ∧
      ∀ i j, HasAccepted earlier i ∨ HasAccepted earlier j →
        ¬ ((∃ event ∈ later, event.IsGroupMessageOf i) ∧
          ∃ event ∈ later, event.IsGroupMessageOf j) := by
  have ordered := (guarded_silent reached).ordered
  rw [split] at ordered
  have silent : ∀ i, HasAccepted earlier i → ∀ event ∈ later, ¬ event.IsGroupMessageOf i := by
    rintro i ⟨acceptance, before, accepted⟩ event after
    exact (List.pairwise_append.mp ordered).2.2 acceptance before event after i accepted
  refine ⟨silent, ?_⟩
  rintro i j (first | second) ⟨⟨event, after, group⟩, event', after', group'⟩
  · exact silent i first event after group
  · exact silent j second event' after' group'

/-- Station 1 accepts the SET of station 0 and drives on. -/
theorem accepted_publishes_no_group_station1 :
    ∃ s : System, HasAccepted (s.history.take 4) 1 ∧
      ∀ event ∈ s.history.drop 4, ¬ event.IsGroupMessageOf 1 := by
  obtain ⟨s, reached, accepted⟩ := run_reach (· = System.initial) (System.step equator)
    (Yields equator) (fun s => HasAccepted (s.history.take 4) 1) rfl
    (electionRun ++ [.deliver 43, .loop 1]) (by decide +kernel)
  exact ⟨s, accepted,
    (accepted_publishes_no_group reached (List.take_append_drop 4 s.history).symm).1 1 accepted⟩

/-- Station 1 accepts the SET of station 0, wins its own `leaderCheck` and publishes a SET. -/
theorem accepted_publishes_set :
    ¬ ∀ world s, Reached world s → ∀ earlier later, s.history = earlier ++ later →
      ∀ i, HasAccepted earlier i → ∀ event ∈ later, ¬ event.IsGroupMessageOf i := by
  intro claimed
  obtain ⟨s, reached, accepted, event, sent, group⟩ := run_reach (· = System.initial)
    (System.step equator) (fun _ _ => True) (fun s => HasAccepted (s.history.take 4) 1 ∧
      ∃ event ∈ s.history.drop 4, event.IsGroupMessageOf 1) rfl
    (electionRun ++ [.deliver 4] ++ (List.replicate 9 [Action.loop 1, .loop 1]).flatten ++
      [.deliver 81, .deliver 42, .loop 1, .loop 1, .loop 1]) (by decide +kernel)
  exact claimed equator s reached _ _ (List.take_append_drop 4 s.history).symm 1 accepted event sent
    group

end Vanet.Simulator
