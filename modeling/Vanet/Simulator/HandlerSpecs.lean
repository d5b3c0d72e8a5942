/-
**What the handlers can do.**

One specification lemma for each kind of effect; the invariants of the network are derived from
these and never open a handler.

* `handler_loop`, `handler_location`: the loop's variables and the location are never touched.
* `handler_groupID`: the group id changes on a foreign SET and on every own DENM, to the
  originator of the message.
* `handler_group`: every way the stored group can change (`GroupChange`).
* `handler_sent`: everything a handler can publish (`Answers`).
* `handler_surroundings`: only a CAM adds a position.
-/

import Vanet.Simulator.Handlers

namespace Vanet.Simulator

open Vanet.Library Vanet.Socktap

variable {world : World} {i : Station} {p : Process}

/-! ### Frames -/

/-- What a branch may do to the process: it may write groups. -/
structure OnlyGroups (p q : Process) : Prop where
  loop : q.loop = p.loop
  surroundings : q.surroundings = p.surroundings
  groupID : ∀ k, (q.valsList k).groupID = (p.valsList k).groupID
  location : ∀ k, (q.valsList k).location = (p.valsList k).location
  speed : ∀ k, (q.valsList k).speed = (p.valsList k).speed
  checkTime : ∀ k, (q.valsList k).checkTime = (p.valsList k).checkTime

theorem OnlyGroups.refl (p : Process) : OnlyGroups p p :=
  ⟨rfl, rfl, fun _ => rfl, fun _ => rfl, fun _ => rfl, fun _ => rfl⟩

theorem OnlyGroups.setGroup (p : Process) (k : Fin 7) (group : PyVal) :
    OnlyGroups p (p.setGroup k group) :=
  ⟨rfl, rfl, fun other => p.setGroup_groupID k other group,
    fun other => p.setGroup_location k other group, fun other => p.setGroup_speed k other group,
    fun other => p.setGroup_checkTime k other group⟩

theorem onlyGroups_joinReplyFor (target : ℕ) (k : Fin 7) (addressee : ℕ) (denm : Denm) :
    OnlyGroups p (joinReplyFor target k addressee p denm) := by
  unfold joinReplyFor
  split_ifs
  · exact .setGroup ..
  · exact .refl p

theorem onlyGroups_mergeReply (checked : Except PyError Bool) (reqID : PyVal) :
    OnlyGroups p (mergeReply i p checked reqID).process := by
  unfold mergeReply
  split
  · exact .refl p
  · exact .refl p
  · split
    · exact .refl p
    · rw [Outcome.publish_process]
      exact .setGroup ..

theorem onlyGroups_addRequester (denm : Denm) :
    OnlyGroups p (addRequester i p denm).process := by
  unfold addRequester
  split_ifs
  · split
    · exact .refl p
    · rw [Outcome.publish_process]
      exact .setGroup ..
  · exact .refl p

theorem onlyGroups_repeatElse : OnlyGroups p ((branches world i).repeatElse p).process := by
  match i with
  | 0 | 1 | 3 => exact .refl p
  | 2 =>
    show OnlyGroups p (branches4.repeatElse p).process
    simp only [branches4]
    split_ifs
    · rw [Outcome.publish_process]
      exact .refl p
    · exact .refl p

theorem onlyGroups_askJoin (denm : Denm) :
    OnlyGroups p ((branches world i).askJoin p denm).process := by
  match i with
  | 0 =>
    show OnlyGroups p ((branches2 world).askJoin p denm).process
    simp only [branches2]
    split_ifs
    · rw [Outcome.publish_process]
      exact .setGroup ..
    · exact .refl p
  | 1 =>
    show OnlyGroups p ((branches3 world).askJoin p denm).process
    simp only [branches3]
    split_ifs
    · rw [Outcome.publish_process]
      exact .refl p
    · exact .refl p
  | 2 | 3 => exact onlyGroups_addRequester denm

theorem onlyGroups_joinReply (denm : Denm) :
    OnlyGroups p ((branches world i).joinReply p denm) := by
  match i with
  | 0 | 1 | 2 | 3 => exact onlyGroups_joinReplyFor ..

theorem onlyGroups_mergeRequest (denm : Denm) :
    OnlyGroups p ((branches world i).mergeRequest p denm).process := by
  match i with
  | 0 | 1 => exact onlyGroups_mergeReply ..
  | 2 | 3 => exact .refl p

theorem onlyGroups_repeatGroup (denm : Denm) :
    OnlyGroups p (repeatGroup i (branches world i) p denm).process := by
  unfold repeatGroup
  split_ifs
  · rw [Outcome.publish_process]
    exact .refl p
  · exact .setGroup ..
  · exact .refl p
  · exact onlyGroups_repeatElse

/-- **Every DENM but a SET and a merge reply only writes groups.** -/
theorem onlyGroups_onDenm {denm : Denm} (set : ¬ denm.Event 100 1) (reply : ¬ denm.Event 102 2) :
    OnlyGroups p (onDenm i (branches world i) p denm).process := by
  unfold onDenm
  split_ifs with isGroup isSet isRepeat isJoin isAsk isReply isMerge isMergeAsk isMergeReply
  · exact absurd ⟨isGroup, isSet⟩ set
  · exact onlyGroups_repeatGroup denm
  · exact .refl p
  · exact onlyGroups_askJoin denm
  · exact onlyGroups_joinReply denm
  · exact .refl p
  · exact onlyGroups_mergeRequest denm
  · exact absurd ⟨isMerge, isMergeReply⟩ reply
  · exact .refl p
  · exact .refl p

theorem onDenm_set {own : Branches} {denm : Denm} (set : denm.Event 100 1) :
    onDenm i own p denm = .done (setGroupDenm i p denm) := by
  simp only [onDenm, set.1, set.2, if_true]

theorem onDenm_mergeReply {own : Branches} {denm : Denm} (reply : denm.Event 102 2) :
    onDenm i own p denm =
      .done (p.setVals (slot i) { p.vals i with overlord := .int denm.originatingStationID }) := by
  simp [onDenm, reply.1, reply.2]

/-! ### The fields of a process -/

/-- **No handler touches the variables of the loop.** -/
@[simp] theorem handler_loop (message : Message) :
    (handler world i p message).process.loop = p.loop := by
  rw [handler_eq]
  cases message with
  | ownDenm payload =>
    show (onOwnDenm i p payload).process.loop = p.loop
    unfold onOwnDenm
    split <;> rfl
  | cam payload =>
    show (onCam i p payload).process.loop = p.loop
    unfold onCam
    split_ifs <;> rfl
  | denm denm =>
    show (onDenm i (branches world i) p denm).process.loop = p.loop
    by_cases set : denm.Event 100 1
    · rw [onDenm_set set]
      rfl
    by_cases reply : denm.Event 102 2
    · rw [onDenm_mergeReply reply]
      rfl
    exact (onlyGroups_onDenm set reply).loop

/-- **No handler touches the station's location.** -/
@[simp] theorem handler_location (message : Message) :
    ((handler world i p message).process.vals i).location = (p.vals i).location := by
  rw [handler_eq]
  cases message with
  | ownDenm payload =>
    show ((onOwnDenm i p payload).process.vals i).location = _
    unfold onOwnDenm
    split
    · rfl
    · simp [Outcome.done]
  | cam payload =>
    show ((onCam i p payload).process.vals i).location = _
    unfold onCam
    split_ifs <;> rfl
  | denm denm =>
    show ((onDenm i (branches world i) p denm).process.vals i).location = _
    by_cases set : denm.Event 100 1
    · rw [onDenm_set set]
      simp [Outcome.done, setGroupDenm]
    by_cases reply : denm.Event 102 2
    · rw [onDenm_mergeReply reply]
      simp [Outcome.done]
    exact (onlyGroups_onDenm set reply).location _

/-- **A handler changes the speed and the check time only to those of a group.** -/
theorem handler_stats (message : Message) :
    (((handler world i p message).process.vals i).speed = (p.vals i).speed ∧
      ((handler world i p message).process.vals i).checkTime = (p.vals i).checkTime) ∨
    (((handler world i p message).process.vals i).speed = syncStats100.1 ∧
      ((handler world i p message).process.vals i).checkTime = syncStats100.2.2) := by
  rw [handler_eq]
  cases message with
  | ownDenm payload =>
    left
    show ((onOwnDenm i p payload).process.vals i).speed = _ ∧
      ((onOwnDenm i p payload).process.vals i).checkTime = _
    unfold onOwnDenm
    split
    · exact ⟨rfl, rfl⟩
    · simp [Outcome.done]
  | cam payload =>
    left
    show ((onCam i p payload).process.vals i).speed = _ ∧ ((onCam i p payload).process.vals i).checkTime = _
    unfold onCam
    split_ifs <;> exact ⟨rfl, rfl⟩
  | denm denm =>
    show (((onDenm i (branches world i) p denm).process.vals i).speed = _ ∧
        ((onDenm i (branches world i) p denm).process.vals i).checkTime = _) ∨
      (((onDenm i (branches world i) p denm).process.vals i).speed = _ ∧
        ((onDenm i (branches world i) p denm).process.vals i).checkTime = _)
    by_cases set : denm.Event 100 1
    · right
      rw [onDenm_set set]
      simp [Outcome.done, setGroupDenm]
    left
    by_cases reply : denm.Event 102 2
    · rw [onDenm_mergeReply reply]
      simp [Outcome.done]
    have frame : OnlyGroups p (onDenm i (branches world i) p denm).process := onlyGroups_onDenm set reply
    exact ⟨frame.speed _, frame.checkTime _⟩

theorem handler_speed (message : Message) :
    ((handler world i p message).process.vals i).speed = (p.vals i).speed ∨
      ((handler world i p message).process.vals i).speed = syncStats100.1 :=
  (handler_stats message).imp And.left And.left

/-- The group id a message leaves behind. -/
def groupIDAfter (groupID : ℤ) : Message → ℤ
  | .denm denm => if denm.Event 100 1 then denm.originatingStationID else groupID
  | .ownDenm payload =>
    match payload.loads with
    | some denm => denm.originatingStationID
    | none => groupID
  | .cam _ => groupID

/-- **Every writer of the group id.** -/
@[simp] theorem handler_groupID (message : Message) :
    ((handler world i p message).process.vals i).groupID =
      groupIDAfter (p.vals i).groupID message := by
  rw [handler_eq]
  cases message with
  | ownDenm payload =>
    show ((onOwnDenm i p payload).process.vals i).groupID = _
    cases loaded : payload.loads with
    | none => simp [onOwnDenm, groupIDAfter, loaded, Outcome.raise]
    | some denm => simp [onOwnDenm, groupIDAfter, loaded, Outcome.done]
  | cam payload =>
    show ((onCam i p payload).process.vals i).groupID = (p.vals i).groupID
    unfold onCam
    split_ifs <;> rfl
  | denm denm =>
    show ((onDenm i (branches world i) p denm).process.vals i).groupID =
      if denm.Event 100 1 then (denm.originatingStationID : ℤ) else (p.vals i).groupID
    by_cases set : denm.Event 100 1
    · rw [onDenm_set set, if_pos set]
      simp [Outcome.done, setGroupDenm]
    rw [if_neg set]
    by_cases reply : denm.Event 102 2
    · rw [onDenm_mergeReply reply]
      simp [Outcome.done]
    exact (onlyGroups_onDenm set reply).groupID _

/-- **Only a CAM adds a position**, and only while the station is in no group. -/
theorem handler_surroundings (message : Message) :
    (handler world i p message).process.surroundings = p.surroundings ∨
      ∃ payload, message = .cam payload ∧ (p.vals i).groupID = -1 ∧
        (handler world i p message).process.surroundings =
          p.surroundings.append payload.stationID
            [payload.latitude, payload.longitude, payload.heading] := by
  rw [handler_eq]
  cases message with
  | ownDenm payload =>
    left
    show (onOwnDenm i p payload).process.surroundings = _
    unfold onOwnDenm
    split <;> rfl
  | cam payload =>
    show (onCam i p payload).process.surroundings = _ ∨ _
    by_cases free : (p.vals i).groupID = -1
    · exact .inr ⟨payload, rfl, free, by simp [onMessage, onCam, free, Outcome.done]⟩
    · exact .inl (by simp [onCam, free, Outcome.done])
  | denm denm =>
    left
    show (onDenm i (branches world i) p denm).process.surroundings = _
    by_cases set : denm.Event 100 1
    · rw [onDenm_set set]
      rfl
    by_cases reply : denm.Event 102 2
    · rw [onDenm_mergeReply reply]
      rfl
    exact (onlyGroups_onDenm set reply).surroundings

/-! ### The stored group -/

/-- How a DENM of another station can change the stored group. -/
inductive GroupChange (world : World) (i : Station) (p : Process) (denm : Denm) : PyVal → Prop
  /-- A REPEAT of the own group brings the group as a number. -/
  | updated : denm.Event 100 2 → (p.vals i).groupID = denm.originatingStationID →
      GroupChange world i p denm (.int denm.sequenceNumber)
  /-- So does a join reply to stations 1 and 2. -/
  | replied : denm.Event 101 2 →
      i = 1 ∧ denm.originatingStationID = 1 ∨ i = 2 ∧ denm.informationQuality = 2 →
      GroupChange world i p denm (.int denm.sequenceNumber)
  /-- Station 0 appends a requester. -/
  | joined : i = 0 → denm.Event 101 1 → (p.vals i).groupID = 0 →
      GroupChange world i p denm (.str ((p.vals i).group.toText ++ str denm.originatingStationID))
  /-- Stations 2 and 3 add the requester's id to a group that is a number. -/
  | summed {n : ℕ} : i = 2 ∨ i = 3 → denm.Event 101 1 → (p.vals i).groupID = (i : ℕ) →
      (p.vals i).group = .int n → GroupChange world i p denm (.int (n + denm.originatingStationID))
  /-- Station 0 appends a station that asked to merge. -/
  | merged {group : Text} : i = 0 → denm.Event 102 1 →
      check world ((p.vals i).location ++ [90]) [42.48252, -95.98588] = .ok true →
      (p.vals i).group = .str group →
      GroupChange world i p denm (.str (group ++ str denm.originatingStationID))

/-- **Whom a join reply reaches**: station 1 if it is the originator, station 2 if it is named by the
information quality, and no one else. -/
theorem joinReply_group (denm : Denm) :
    (((branches world i).joinReply p denm).vals i).group =
      if i = 1 ∧ denm.originatingStationID = 1 ∨ i = 2 ∧ denm.informationQuality = 2 then
        .int denm.sequenceNumber
      else (p.vals i).group := by
  have unaddressed : ∀ {j : Station} {k : Fin 7}, slot j ≠ k → ∀ target addressee,
      ((joinReplyFor target k addressee p denm).vals j).group = (p.vals j).group := by
    intro j k other target addressee
    unfold joinReplyFor
    split_ifs
    · rw [Process.vals, Process.setGroup_valsList, if_neg other]
      rfl
    · rfl
  match i with
  | 0 =>
    rw [if_neg (by simp)]
    exact unaddressed (by decide) 0 denm.originatingStationID
  | 1 =>
    show ((joinReplyFor 1 (slot 1) denm.originatingStationID p denm).vals 1).group = _
    unfold joinReplyFor
    by_cases addressed : denm.originatingStationID = 1
    · rw [if_pos addressed, if_pos (.inl ⟨rfl, addressed⟩)]
      exact p.setGroup_group (slot 1) _
    · rw [if_neg addressed, if_neg (by simp [addressed])]
  | 2 =>
    show ((joinReplyFor 2 (slot 2) denm.informationQuality p denm).vals 2).group = _
    unfold joinReplyFor
    by_cases addressed : denm.informationQuality = 2
    · rw [if_pos addressed, if_pos (.inr ⟨rfl, addressed⟩)]
      exact p.setGroup_group (slot 2) _
    · rw [if_neg addressed, if_neg (by simp [addressed])]
  | 3 =>
    rw [if_neg (by simp)]
    exact unaddressed (by decide) 2 denm.informationQuality

theorem groupChange_joinReply {denm : Denm} (reply : denm.Event 101 2) :
    (((branches world i).joinReply p denm).vals i).group = (p.vals i).group ∨
      GroupChange world i p denm (((branches world i).joinReply p denm).vals i).group := by
  rw [joinReply_group]
  split_ifs with addressed
  · exact .inr (.replied reply addressed)
  · exact .inl rfl

theorem groupChange_mergeRequest {denm : Denm} (request : denm.Event 102 1)
    (short : (p.vals i).location.length ≤ 2) :
    (((branches world i).mergeRequest p denm).process.vals i).group = (p.vals i).group ∨
      GroupChange world i p denm
        (((branches world i).mergeRequest p denm).process.vals i).group := by
  match i with
  | 0 =>
    show ((mergeReply 0 p (check world ((p.vals 0).location ++ [90]) [42.48252, -95.98588])
        (.str (str denm.originatingStationID))).process.vals 0).group = _ ∨
      GroupChange world 0 p denm
        ((mergeReply 0 p (check world ((p.vals 0).location ++ [90]) [42.48252, -95.98588])
          (.str (str denm.originatingStationID))).process.vals 0).group
    cases behind : check world ((p.vals 0).location ++ [90]) [42.48252, -95.98588] with
    | error failure => exact .inl rfl
    | ok answer =>
      cases answer with
      | false => exact .inl rfl
      | true =>
        cases held : (p.vals 0).group with
        | int n =>
          left
          simp only [mergeReply, held, PyVal.add, Outcome.raise]
        | str group =>
          right
          simp only [mergeReply, held, PyVal.add, Outcome.publish_process]
          rw [show ((p.setGroup (slot 0) (.str (group ++ str denm.originatingStationID))).vals 0).group
            = .str (group ++ str denm.originatingStationID) from p.setGroup_group (slot 0) _]
          exact .merged rfl request behind held
  | 1 =>
    -- two coordinates are too few for `check`
    left
    show ((mergeReply 1 p (check world (p.vals 1).location [denm.latitude, denm.longitude])
      (.int denm.originatingStationID)).process.vals 1).group = _
    rw [check_indexError world short]
    rfl
  | 2 | 3 => exact .inl rfl

theorem groupChange_askJoin {denm : Denm} (request : denm.Event 101 1) :
    (((branches world i).askJoin p denm).process.vals i).group = (p.vals i).group ∨
      GroupChange world i p denm (((branches world i).askJoin p denm).process.vals i).group := by
  have summed : ∀ i : Station, i = 2 ∨ i = 3 →
      ((addRequester i p denm).process.vals i).group = (p.vals i).group ∨
        GroupChange world i p denm ((addRequester i p denm).process.vals i).group := by
    intro i late
    unfold addRequester
    split_ifs with leader
    · cases held : (p.vals i).group with
      | str group => exact .inl held
      | int n =>
        right
        simp only [PyVal.add, Outcome.publish_process]
        rw [show ((p.setGroup (slot i) (.int (n + denm.originatingStationID))).vals i).group =
          .int (n + denm.originatingStationID) from p.setGroup_group (slot i) _]
        exact .summed late request leader held
    · exact .inl rfl
  match i with
  | 0 =>
    show (((branches2 world).askJoin p denm).process.vals 0).group = _ ∨
      GroupChange world 0 p denm (((branches2 world).askJoin p denm).process.vals 0).group
    simp only [branches2]
    split_ifs with leader
    · right
      rw [Outcome.publish_process, show ((p.setGroup (slot 0) (.str ((p.vals 0).group.toText ++
        str denm.originatingStationID))).vals 0).group = .str ((p.vals 0).group.toText ++
        str denm.originatingStationID) from p.setGroup_group (slot 0) _]
      exact .joined rfl request leader
    · exact .inl rfl
  | 1 =>
    left
    show (((branches3 world).askJoin p denm).process.vals 1).group = _
    simp only [branches3]
    split_ifs
    · rw [Outcome.publish_process]
    · rfl
  | 2 => exact summed 2 (.inl rfl)
  | 3 => exact summed 3 (.inr rfl)

theorem groupChange_repeatGroup {denm : Denm} (again : denm.Event 100 2) :
    ((repeatGroup i (branches world i) p denm).process.vals i).group = (p.vals i).group ∨
      GroupChange world i p denm
        ((repeatGroup i (branches world i) p denm).process.vals i).group := by
  unfold repeatGroup
  split_ifs with free member changed
  · rw [Outcome.publish_process]
    exact .inl rfl
  · right
    rw [show ((Outcome.done (p.setGroup (slot i) (.int denm.sequenceNumber))).process.vals i).group =
      .int denm.sequenceNumber from p.setGroup_group (slot i) _]
    exact .updated again member
  · exact .inl rfl
  · left
    match i with
    | 0 | 1 | 3 => rfl
    | 2 =>
      show ((branches4.repeatElse p).process.vals 2).group = _
      simp only [branches4]
      split_ifs
      · rw [Outcome.publish_process]
      · rfl

/-- **Every writer of the stored group.** -/
theorem handler_group (short : (p.vals i).location.length ≤ 2) (message : Message) :
    ((handler world i p message).process.vals i).group = (p.vals i).group ∨
      ∃ denm, message = .denm denm ∧
        GroupChange world i p denm ((handler world i p message).process.vals i).group := by
  rw [handler_eq]
  cases message with
  | ownDenm payload =>
    left
    show ((onOwnDenm i p payload).process.vals i).group = _
    unfold onOwnDenm
    split
    · rfl
    · simp [Outcome.done]
  | cam payload =>
    left
    show ((onCam i p payload).process.vals i).group = _
    unfold onCam
    split_ifs <;> rfl
  | denm denm =>
    have lift : ∀ {q : Process}, ((q.vals i).group = (p.vals i).group ∨
        GroupChange world i p denm (q.vals i).group) → ((q.vals i).group = (p.vals i).group ∨
        ∃ received, Message.denm denm = .denm received ∧
          GroupChange world i p received (q.vals i).group) :=
      fun change => change.imp_right fun change => ⟨denm, rfl, change⟩
    show ((onDenm i (branches world i) p denm).process.vals i).group = _ ∨ ∃ received, _ ∧
      GroupChange world i p received
        ((onDenm i (branches world i) p denm).process.vals i).group
    unfold onDenm
    split_ifs with isGroup isSet isRepeat isJoin isAsk isReply isMerge isMergeAsk isMergeReply
    · left
      simp [Outcome.done, setGroupDenm]
    · exact lift (groupChange_repeatGroup ⟨isGroup, isRepeat⟩)
    · exact .inl rfl
    · exact lift (groupChange_askJoin ⟨isJoin, isAsk⟩)
    · exact lift (groupChange_joinReply ⟨isJoin, isReply⟩)
    · exact .inl rfl
    · exact lift (groupChange_mergeRequest ⟨isMerge, isMergeAsk⟩ short)
    · left
      simp [Outcome.done]
    · exact .inl rfl
    · exact .inl rfl

/-! ### What is published -/

/-- What a handler can publish on a DENM of another station. -/
inductive Answers (world : World) (i : Station) (p : Process) (denm : Denm) : DenmText → Prop
  | askJoin : denm.Event 100 2 → (p.vals i).groupID = -1 →
      Answers world i p denm (denmText (str i) ['0'] ['7'] 101 1)
  | askMerge : i = 2 → denm.Event 100 2 →
      Answers world i p denm (denmText (str i) ['0'] ['7'] 102 1)
  | joinReply : i = 0 → denm.Event 101 1 → (p.vals i).groupID = 0 →
      Answers world i p denm (denmText (str i)
        ((p.vals i).group.toText ++ str denm.originatingStationID)
        (str denm.originatingStationID) 101 2)
  | mergeReply {group : Text} : i = 0 → denm.Event 102 1 →
      check world ((p.vals i).location ++ [90]) [42.48252, -95.98588] = .ok true →
      (p.vals i).group = .str group →
      Answers world i p denm (denmText (str i) (group ++ str denm.originatingStationID)
        (str denm.originatingStationID) 102 2)

/-- Stations 2 and 3 never get as far as publishing a join reply. -/
theorem addRequester_denms (denm : Denm) : (addRequester i p denm).denms = [] := by
  unfold addRequester
  split_ifs
  · split
    · rfl
    · rw [denmPayload_int_right]
      rfl
  · rfl

theorem onDenm_sent {denm : Denm} {text : DenmText}
    (sent : text ∈ (onDenm i (branches world i) p denm).denms) : Answers world i p denm text := by
  unfold onDenm at sent
  split_ifs at sent with isGroup isSet isRepeat isJoin isAsk isReply isMerge isMergeAsk isMergeReply
  · cases sent
  · unfold repeatGroup at sent
    split_ifs at sent with free member changed
    · rw [denmPayload_str, Outcome.publish, List.mem_singleton] at sent
      subst sent
      exact .askJoin ⟨isGroup, isRepeat⟩ free
    · cases sent
    · cases sent
    · match i with
      | 0 | 1 | 3 => cases sent
      | 2 =>
        change text ∈ (branches4.repeatElse p).denms at sent
        simp only [branches4] at sent
        split_ifs at sent
        · rw [denmPayload_str, Outcome.publish, List.mem_singleton] at sent
          subst sent
          exact .askMerge rfl ⟨isGroup, isRepeat⟩
        · cases sent
  · cases sent
  · match i with
    | 0 =>
      change text ∈ ((branches2 world).askJoin p denm).denms at sent
      simp only [branches2] at sent
      split_ifs at sent with leader
      · rw [denmPayload_str, Outcome.publish, List.mem_singleton] at sent
        subst sent
        exact .joinReply rfl ⟨isJoin, isAsk⟩ leader
      · cases sent
    | 1 =>
      change text ∈ ((branches3 world).askJoin p denm).denms at sent
      simp only [branches3, denmPayload_int_right] at sent
      split_ifs at sent <;> cases sent
    | 2 | 3 =>
      change text ∈ (addRequester _ p denm).denms at sent
      rw [addRequester_denms] at sent
      cases sent
  · cases sent
  · cases sent
  · match i with
    | 0 =>
      change text ∈ (mergeReply 0 p _ _).denms at sent
      unfold mergeReply at sent
      split at sent
      · cases sent
      · cases sent
      · rename_i behind
        cases held : (p.vals 0).group with
        | int n =>
          rw [held] at sent
          cases sent
        | str group =>
          rw [held] at sent
          simp only [PyVal.add, denmPayload_str, Outcome.publish, List.mem_singleton] at sent
          subst sent
          exact .mergeReply rfl ⟨isMerge, isMergeAsk⟩ behind held
    | 1 =>
      change text ∈ (mergeReply 1 p _ _).denms at sent
      unfold mergeReply at sent
      split at sent
      · cases sent
      · cases sent
      · split at sent
        · cases sent
        · rw [denmPayload_int_right] at sent
          cases sent
    | 2 | 3 => cases sent
  · cases sent
  · cases sent
  · cases sent

/-- **Everything a handler publishes.** -/
theorem handler_sent {message : Message} {text : DenmText}
    (sent : text ∈ (handler world i p message).denms) :
    ∃ denm, message = .denm denm ∧ Answers world i p denm text := by
  rw [handler_eq] at sent
  cases message with
  | ownDenm payload =>
    change text ∈ (onOwnDenm i p payload).denms at sent
    unfold onOwnDenm at sent
    split at sent <;> cases sent
  | cam payload =>
    change text ∈ (onCam i p payload).denms at sent
    unfold onCam at sent
    split_ifs at sent <;> cases sent
  | denm denm => exact ⟨denm, rfl, onDenm_sent sent⟩

namespace Answers

variable {denm : Denm} {text : DenmText}

/-- A handler signs its messages with its station's id. -/
theorem originator (answers : Answers world i p denm text) :
    text.originatingStationID = str i := by
  cases answers <;> rfl

/-- **A handler never publishes a group message.** -/
theorem not_group (answers : Answers world i p denm text) (subCauseCode : ℕ) :
    ¬ text.Event 100 subCauseCode := by
  cases answers <;> exact fun group => absurd (group.1 : _ = 100) (by simp [denmText])

end Answers

/-! ### How a handler ends -/

theorem onDenm_askJoin {own : Branches} {denm : Denm} (request : denm.Event 101 1) :
    onDenm i own p denm = own.askJoin p denm := by
  simp [onDenm, request.1, request.2]

theorem onDenm_joinReply {own : Branches} {denm : Denm} (reply : denm.Event 101 2) :
    onDenm i own p denm = .done (own.joinReply p denm) := by
  simp [onDenm, reply.1, reply.2]

theorem onDenm_mergeRequest {own : Branches} {denm : Denm} (request : denm.Event 102 1) :
    onDenm i own p denm = own.mergeRequest p denm := by
  simp [onDenm, request.1, request.2]

/-- A string and an integer, or an integer in the payload: stations 2 and 3 always fail. -/
theorem addRequester_raised {denm : Denm} (leader : (p.vals i).groupID = (i : ℕ)) :
    (addRequester i p denm).raised = some .typeError := by
  unfold addRequester
  rw [if_pos leader]
  cases (p.vals i).group with
  | str group => rfl
  | int n =>
    simp only [PyVal.add, denmPayload_int_left]
    rfl

/-- **Only station 0 can answer a request to join.** -/
theorem askJoin_raised (denm : Denm) :
    ((branches world i).askJoin p denm).raised = none ↔
      i = 0 ∨ (p.vals i).groupID ≠ (i : ℕ) := by
  have late : ∀ j : Station, j ≠ 0 → ((addRequester j p denm).raised = none ↔
      j = 0 ∨ (p.vals j).groupID ≠ (j : ℕ)) := by
    intro j positive
    by_cases leader : (p.vals j).groupID = (j : ℕ)
    · rw [addRequester_raised leader]
      exact iff_of_false nofun (not_or.mpr ⟨positive, not_not.mpr leader⟩)
    · rw [addRequester, if_neg leader]
      exact iff_of_true rfl (.inr leader)
  match i with
  | 0 =>
    refine iff_of_true ?_ (.inl rfl)
    show ((branches2 world).askJoin p denm).raised = none
    simp only [branches2]
    split_ifs <;> rfl
  | 1 =>
    show ((branches3 world).askJoin p denm).raised = none ↔ _
    simp only [branches3, denmPayload_int_right]
    by_cases leader : (p.vals 1).groupID = 1
    · rw [if_pos leader]
      exact iff_of_false nofun (not_or.mpr ⟨by decide, not_not.mpr leader⟩)
    · rw [if_neg leader]
      exact iff_of_true rfl (.inr leader)
  | 2 => exact late 2 (by decide)
  | 3 => exact late 3 (by decide)

theorem handler_askJoin {denm : Denm} (request : denm.Event 101 1) :
    handler world i p (.denm denm) = (branches world i).askJoin p denm := by
  rw [handler_eq]
  exact onDenm_askJoin request

/-- The answer of station 0. -/
theorem askJoin_station0 {denm : Denm} (leader : (p.vals 0).groupID = 0) :
    (branches world 0).askJoin p denm =
      { process := p.setGroup (slot 0)
          (.str ((p.vals 0).group.toText ++ str denm.originatingStationID))
        denms := [denmText (str 0) ((p.vals 0).group.toText ++ str denm.originatingStationID)
          (str denm.originatingStationID) 101 2] } := by
  show (branches2 world).askJoin p denm = _
  simp only [branches2, if_pos leader]
  rfl

end Vanet.Simulator
