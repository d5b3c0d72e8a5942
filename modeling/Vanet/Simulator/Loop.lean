/-
**The loop of `startSimul`.**

`turn` runs `startSimul` from one place where a handler may come in between to the next: the first
CAM, the head of an iteration (REPEAT), its body (`leaderCheck` or the next position) and the
publication of the SET message after a won `leaderCheck`. An exception ends the process.

* `repeatDenm_cases`, `checkLeader_cases`, `drive_cases`, `publishSet_cases`: what each stretch can do.
* `turn_sent`: everything the loop publishes is a SET after the election or a REPEAT.
* `turn_elected`: the election is a `leaderCheck` that returned `True`.
* `turn_repeatDenm`: a station repeats its group only after it has published a SET.
* `turn_group`, `turn_groupID`, `turn_surroundings`, `turn_location`: the records of the process.
-/

import Vanet.Simulator.Handlers

namespace Vanet.Simulator

open Vanet.Library Vanet.Socktap

/-- The end of a stretch of the loop. -/
structure Turn where
  process : Process
  denms : List DenmText := []
  cams : List CamJson := []

namespace Process

/-- Overwrite the variables of the loop. -/
def setLoop (p : Process) (loop : Loop) : Process := { p with loop := loop }

@[simp] theorem setLoop_loop (p : Process) (loop : Loop) : (p.setLoop loop).loop = loop := rfl

@[simp] theorem setLoop_vals (p : Process) (loop : Loop) (i : Station) :
    (p.setLoop loop).vals i = p.vals i := rfl

@[simp] theorem setLoop_surroundings (p : Process) (loop : Loop) :
    (p.setLoop loop).surroundings = p.surroundings := rfl

/-- `startSimul` ends with an exception. -/
def fail (p : Process) (error : PyError) : Process :=
  p.setLoop { p.loop with phase := .failed error }

end Process

variable (world : World) (i : Station) (p : Process)

/-- The CAM of a station at its position. -/
def camPayload (position : Position) (velocity : ℕ) : CamJson where
  accEngaged := true
  acceleration := 0
  altitude := 800001
  altitudeConf := 15
  brakePedal := true
  collisionWarning := true
  cruiseControl := true
  curvature := 1023
  driveDirection := .forward
  emergencyBrake := true
  gasPedal := false
  heading := 90
  headingConf := 127
  latitude := position.lat
  length := 10
  longitude := position.lng
  semiMajorConf := 4095
  semiMajorOrient := 3601
  semiMinorConf := 4095
  embarkationStatus := false
  speed := velocity
  speedConf := 127
  speedLimiter := true
  stationID := i
  stationType := stationType
  width := 3
  yawRate := 0

/-- The DENM template of the loop: `vals["group"] + str(currClient)` is the sequence number. -/
def groupText (group : Text) (subCauseCode : ℕ) : DenmText where
  originatingStationID := str i
  sequenceNumber := group ++ str i
  latitude := p.loop.position.lat
  longitude := p.loop.position.lng
  informationQuality := ['7']
  causeCode := 100
  subCauseCode := subCauseCode

/-- The payload of a SET (`subCauseCode` 1) or REPEAT (2). -/
def groupPayload (subCauseCode : ℕ) : Except PyError DenmText := do
  return groupText i p (← (p.vals i).group.asStr) subCauseCode

/-- The first CAM. -/
def firstCam : Turn :=
  { process := p.setLoop { p.loop with
      phase := .head
      repeatDenm := false
      interval := 0
      currDistance := 0
      msgNum := 1
      position := world.startPoint
      velocity := (p.vals i).speed
      checkTime := (p.vals i).checkTime }
    cams := [camPayload i world.startPoint (p.vals i).speed] }

/-- The head of an iteration: a leader repeats its group on every tenth message. -/
def repeatDenm : Turn :=
  if p.loop.repeatDenm = true ∧ p.loop.msgNum % 10 = 0 then
    match groupPayload i p 2 with
    | .error error => { process := p.fail error }
    | .ok payload =>
      { process := p.setLoop { p.loop with phase := .body }, denms := [payload] }
  else { process := p.setLoop { p.loop with phase := .body } }

/-- The check time has come. -/
def checkLeader : Turn :=
  let p := p.setLoop { p.loop with msgNum := 0 }
  if p.loop.currentGroup ≠ (i : ℕ) then
    match leaderCheck world i p.surroundings p.loop.currentGroup with
    | .error error => { process := p.fail error }
    | .ok (leader, stored) =>
      let p := match stored with
        | some group => p.setGroup (slot i) (.str group)
        | none => p
      { process := p.setLoop { p.loop with phase := if leader then .elected else .head } }
  else { process := p.setLoop { p.loop with phase := .head } }

/-- The next position. -/
def drive : Turn :=
  let velocity := (p.vals i).speed
  let distance := velocity * (1 / 10 : ℚ)
  let currDistance := p.loop.currDistance + distance
  let p := p.setLoop { p.loop with
    velocity := velocity
    checkTime := (p.vals i).checkTime
    currDistance := currDistance }
  match world.bearings[p.loop.interval]? with
  | none => { process := p.fail .indexError }
  | some bearing =>
    let position := world.destination p.loop.position.lat p.loop.position.lng distance bearing
    let p := p.setVals (slot i) { p.vals i with location := [position.lat, position.lng] }
    let p := p.setLoop { p.loop with position := position, msgNum := p.loop.msgNum + 1 }
    let cams := [camPayload i position velocity]
    match world.distances[p.loop.interval]? with
    | none => { process := p.fail .indexError, cams := cams }
    | some length =>
      if currDistance ≥ length then
        if p.loop.interval + 1 = world.bearings.length then
          { process := p.setLoop { p.loop with
              phase := .finished, interval := p.loop.interval + 1, currDistance := 0 }
            cams := cams }
        else
          { process := p.setLoop { p.loop with
              phase := .head, interval := p.loop.interval + 1, currDistance := 0 }
            cams := cams }
      else { process := p.setLoop { p.loop with phase := .head }, cams := cams }

/-- The SET message of an elected leader. -/
def publishSet : Turn :=
  let p := p.setLoop { p.loop with currentGroup := (i : ℕ) }
  match groupPayload i p 1 with
  | .error error => { process := p.fail error }
  | .ok payload =>
    { process :=
        (p.setVals (slot i)
          { p.vals i with speed := syncStats100.1, checkTime := syncStats100.2.2 }).setLoop
            { p.loop with phase := .head, repeatDenm := true, checkTime := syncStats100.2.2 }
      denms := [payload] }

/-- **One stretch of `startSimul`**, if the process still runs. -/
def turn : Option Turn :=
  match p.loop.phase with
  | .start => some (firstCam world i p)
  | .head => some (repeatDenm i p)
  | .body =>
    if p.loop.msgNum = p.loop.checkTime then some (checkLeader world i p)
    else some (drive world i p)
  | .elected => some (publishSet i p)
  | .finished => none
  | .failed _ => none

/-- A process whose handler still receives messages. -/
def Process.Running (p : Process) : Prop :=
  match p.loop.phase with
  | .finished => False
  | .failed _ => False
  | _ => True

instance (p : Process) : Decidable p.Running := by
  unfold Process.Running
  split <;> infer_instance

/-! ### What a turn can do -/

variable {world i p} {t : Turn}

/-- The five kinds of turn. -/
theorem turn_cases (taken : turn world i p = some t) :
    (p.loop.phase = .start ∧ t = firstCam world i p) ∨
    (p.loop.phase = .head ∧ t = repeatDenm i p) ∨
    (p.loop.phase = .body ∧ p.loop.msgNum = p.loop.checkTime ∧ t = checkLeader world i p) ∨
    (p.loop.phase = .body ∧ p.loop.msgNum ≠ p.loop.checkTime ∧ t = drive world i p) ∨
    (p.loop.phase = .elected ∧ t = publishSet i p) := by
  unfold turn at taken
  split at taken
  · rename_i phase
    exact .inl ⟨phase, (Option.some.inj taken).symm⟩
  · rename_i phase
    exact .inr (.inl ⟨phase, (Option.some.inj taken).symm⟩)
  · rename_i phase
    split at taken
    · rename_i due
      exact .inr (.inr (.inl ⟨phase, due, (Option.some.inj taken).symm⟩))
    · rename_i early
      exact .inr (.inr (.inr (.inl ⟨phase, early, (Option.some.inj taken).symm⟩)))
  · rename_i phase
    exact .inr (.inr (.inr (.inr ⟨phase, (Option.some.inj taken).symm⟩)))
  · cases taken
  · cases taken

/-- **The head of an iteration.** -/
theorem repeatDenm_cases :
    (∃ payload, p.loop.repeatDenm = true ∧ p.loop.msgNum % 10 = 0 ∧ groupPayload i p 2 = .ok payload ∧
      repeatDenm i p = { process := p.setLoop { p.loop with phase := .body }, denms := [payload] }) ∨
    (∃ error, p.loop.repeatDenm = true ∧ p.loop.msgNum % 10 = 0 ∧ groupPayload i p 2 = .error error ∧
      repeatDenm i p = { process := p.fail error }) ∨
    repeatDenm i p = { process := p.setLoop { p.loop with phase := .body } } := by
  unfold repeatDenm
  split_ifs with due
  · cases built : groupPayload i p 2 with
    | error error => exact .inr (.inl ⟨error, due.1, due.2, rfl, rfl⟩)
    | ok payload => exact .inl ⟨payload, due.1, due.2, rfl, rfl⟩
  · exact .inr (.inr rfl)

/-- **The leader check.** -/
theorem checkLeader_cases :
    (∃ leader stored, p.loop.currentGroup ≠ (i : ℕ) ∧
      leaderCheck world i p.surroundings p.loop.currentGroup = .ok (leader, stored) ∧
      checkLeader world i p =
        { process := (stored.elim p fun group => p.setGroup (slot i) (.str group)).setLoop
            { p.loop with msgNum := 0, phase := if leader then .elected else .head } }) ∨
    (∃ error, p.loop.currentGroup ≠ (i : ℕ) ∧
      leaderCheck world i p.surroundings p.loop.currentGroup = .error error ∧
      checkLeader world i p = { process := p.setLoop { p.loop with msgNum := 0, phase := .failed error } }) ∨
    (p.loop.currentGroup = (i : ℕ) ∧
      checkLeader world i p = { process := p.setLoop { p.loop with msgNum := 0, phase := .head } }) := by
  unfold checkLeader
  dsimp only
  split_ifs with other
  · split
    · rename_i error failed
      exact .inr (.inl ⟨error, other, failed, rfl⟩)
    · rename_i leader stored checked
      refine .inl ⟨leader, stored, other, checked, ?_⟩
      cases stored <;> rfl
  · exact .inr (.inr ⟨not_not.mp other, rfl⟩)

/-- **The next position**, or an exception. -/
theorem drive_cases :
    (drive world i p).denms = [] ∧
      (drive world i p).process.loop.currentGroup = p.loop.currentGroup ∧
      (drive world i p).process.loop.repeatDenm = p.loop.repeatDenm ∧
      (drive world i p).process.loop.phase ≠ .elected ∧
      ∃ location : List ℚ,
        (location = (p.vals i).location ∨ ∃ position : Position, location = [position.lat, position.lng]) ∧
        (drive world i p).process =
          (p.setVals (slot i) { p.vals i with location := location }).setLoop (drive world i p).process.loop := by
  have same : p.setVals (slot i) (p.vals i) = p := by
    unfold Process.setVals Process.vals
    rw [Function.update_eq_self]
  unfold drive
  dsimp only
  split
  · refine ⟨rfl, rfl, rfl, nofun, _, .inl rfl, ?_⟩
    rw [same]
    rfl
  · split
    · exact ⟨rfl, rfl, rfl, nofun, _, .inr ⟨_, rfl⟩, rfl⟩
    · split_ifs
      · exact ⟨rfl, rfl, rfl, nofun, _, .inr ⟨_, rfl⟩, rfl⟩
      · exact ⟨rfl, rfl, rfl, nofun, _, .inr ⟨_, rfl⟩, rfl⟩
      · exact ⟨rfl, rfl, rfl, nofun, _, .inr ⟨_, rfl⟩, rfl⟩

/-- A drive sends the position that it comes to. -/
theorem drive_cams {payload : CamJson} (sent : payload ∈ (drive world i p).cams) :
    ∃ position, payload = camPayload i position (p.vals i).speed := by
  unfold drive at sent
  dsimp only at sent
  split at sent
  · cases sent
  · split at sent
    · exact ⟨_, List.mem_singleton.mp sent⟩
    · split_ifs at sent <;> exact ⟨_, List.mem_singleton.mp sent⟩

/-- **The SET message.** -/
theorem publishSet_cases :
    (∃ payload, groupPayload i p 1 = .ok payload ∧
      publishSet i p =
        { process :=
            (p.setVals (slot i)
              { p.vals i with speed := syncStats100.1, checkTime := syncStats100.2.2 }).setLoop
                { p.loop with
                  phase := .head, repeatDenm := true, currentGroup := (i : ℕ), checkTime := syncStats100.2.2 }
          denms := [payload] }) ∨
    (∃ error, groupPayload i p 1 = .error error ∧
      publishSet i p =
        { process := p.setLoop { p.loop with currentGroup := (i : ℕ), phase := .failed error } }) := by
  unfold publishSet
  dsimp only
  split
  · rename_i error failed
    exact .inr ⟨error, failed, rfl⟩
  · rename_i payload built
    exact .inl ⟨payload, built, rfl⟩

/-- What the loop leaves unchanged, or changes on the side. -/
structure Drives (i : Station) (p q : Process) : Prop where
  groupID : (q.vals i).groupID = (p.vals i).groupID
  surroundings : q.surroundings = p.surroundings
  location : (q.vals i).location = (p.vals i).location ∨
    ∃ position : Position, (q.vals i).location = [position.lat, position.lng]
  speed : (q.vals i).speed = (p.vals i).speed ∨ (q.vals i).speed = syncStats100.1
  currentGroup : q.loop.currentGroup = p.loop.currentGroup ∨ q.loop.currentGroup = (i : ℕ)

theorem drives_setLoop (p : Process) (loop : Loop)
    (kept : loop.currentGroup = p.loop.currentGroup ∨ loop.currentGroup = (i : ℕ)) :
    Drives i p (p.setLoop loop) :=
  ⟨rfl, rfl, .inl rfl, .inl rfl, kept⟩

theorem drives_fail (p : Process) (error : PyError) : Drives i p (p.fail error) :=
  drives_setLoop p _ (.inl rfl)

theorem drives_repeatDenm : Drives i p (repeatDenm i p).process := by
  rcases repeatDenm_cases with ⟨_, _, _, _, result⟩ | ⟨_, _, _, _, result⟩ | result <;> rw [result]
  · exact drives_setLoop p _ (.inl rfl)
  · exact drives_fail p _
  · exact drives_setLoop p _ (.inl rfl)

theorem drives_checkLeader : Drives i p (checkLeader world i p).process := by
  rcases checkLeader_cases with ⟨_, stored, _, _, result⟩ | ⟨_, _, _, result⟩ | ⟨_, result⟩ <;> rw [result]
  · cases stored with
    | none => exact drives_setLoop p _ (.inl rfl)
    | some group => exact ⟨Process.setGroup_groupID .., rfl, .inl (Process.setGroup_location ..),
        .inl (Process.setGroup_speed ..), .inl rfl⟩
  · exact drives_setLoop p _ (.inl rfl)
  · exact drives_setLoop p _ (.inl rfl)

theorem drives_drive : Drives i p (drive world i p).process := by
  obtain ⟨_, currentGroup, _, _, location, moved, result⟩ := drive_cases
  have record : (drive world i p).process.vals i = { p.vals i with location := location } := by
    rw [result, Process.setLoop_vals, Process.setVals_vals_self]
  refine ⟨by rw [record], by rw [result]; rfl, ?_, .inl (by rw [record]), .inl currentGroup⟩
  rw [record]
  exact moved

theorem drives_publishSet : Drives i p (publishSet i p).process := by
  rcases publishSet_cases with ⟨_, _, result⟩ | ⟨_, _, result⟩ <;> rw [result]
  · refine ⟨?_, rfl, .inl ?_, .inr ?_, .inr rfl⟩
    · rw [Process.setLoop_vals, Process.setVals_vals_self]
    · rw [Process.setLoop_vals, Process.setVals_vals_self]
    · rw [Process.setLoop_vals, Process.setVals_vals_self]
  · exact drives_setLoop p _ (.inr rfl)

/-- **The loop never changes the group id or the surroundings.** -/
theorem turn_drives (taken : turn world i p = some t) : Drives i p t.process := by
  rcases turn_cases taken with ⟨_, rfl⟩ | ⟨_, rfl⟩ | ⟨_, _, rfl⟩ | ⟨_, _, rfl⟩ | ⟨_, rfl⟩
  · exact drives_setLoop p _ (.inl rfl)
  · exact drives_repeatDenm
  · exact drives_checkLeader
  · exact drives_drive
  · exact drives_publishSet

/-- **Everything the loop publishes**: a REPEAT while `repeatDenm` holds, a SET after the
election. -/
theorem turn_sent (taken : turn world i p = some t) {text : DenmText} (sent : text ∈ t.denms) :
    (p.loop.phase = .head ∧ p.loop.repeatDenm = true ∧ p.loop.msgNum % 10 = 0 ∧
      groupPayload i p 2 = .ok text) ∨
    (p.loop.phase = .elected ∧ groupPayload i p 1 = .ok text) := by
  rcases turn_cases taken with ⟨_, rfl⟩ | ⟨phase, rfl⟩ | ⟨_, _, rfl⟩ | ⟨_, _, rfl⟩ | ⟨phase, rfl⟩
  · cases sent
  · rcases repeatDenm_cases with ⟨payload, repeats, tenth, built, result⟩ | ⟨_, _, _, _, result⟩ | result <;>
      rw [result] at sent
    · cases List.mem_singleton.mp sent
      exact .inl ⟨phase, repeats, tenth, built⟩
    · cases sent
    · cases sent
  · rcases checkLeader_cases with ⟨_, _, _, _, result⟩ | ⟨_, _, _, result⟩ | ⟨_, result⟩ <;>
      rw [result] at sent <;> cases sent
  · rw [drive_cases.1] at sent
    cases sent
  · rcases publishSet_cases with ⟨payload, built, result⟩ | ⟨_, _, result⟩ <;> rw [result] at sent
    · cases List.mem_singleton.mp sent
      exact .inr ⟨phase, built⟩
    · cases sent

/-- **The loop writes the group only in `leaderCheck`.** -/
theorem turn_group (taken : turn world i p = some t) :
    (t.process.vals i).group = (p.vals i).group ∨
      p.loop.phase = .body ∧ ∃ leader group,
        leaderCheck world i p.surroundings p.loop.currentGroup = .ok (leader, some group) ∧
        (t.process.vals i).group = .str group := by
  rcases turn_cases taken with ⟨_, rfl⟩ | ⟨_, rfl⟩ | ⟨phase, _, rfl⟩ | ⟨_, _, rfl⟩ | ⟨_, rfl⟩
  · exact .inl rfl
  · left
    rcases repeatDenm_cases with ⟨_, _, _, _, result⟩ | ⟨_, _, _, _, result⟩ | result <;> rw [result] <;> rfl
  · rcases checkLeader_cases with ⟨leader, stored, _, checked, result⟩ | ⟨_, _, _, result⟩ | ⟨_, result⟩ <;>
      rw [result]
    · cases stored with
      | none => exact .inl rfl
      | some group => exact .inr ⟨phase, leader, group, checked, Process.setGroup_group ..⟩
    · exact .inl rfl
    · exact .inl rfl
  · left
    obtain ⟨_, _, _, _, location, _, result⟩ := drive_cases
    rw [result, Process.setLoop_vals, Process.setVals_vals_self]
  · left
    rcases publishSet_cases with ⟨_, _, result⟩ | ⟨_, _, result⟩ <;> rw [result]
    · rw [Process.setLoop_vals, Process.setVals_vals_self]
    · rfl

/-- **A station is elected only by `leaderCheck`.** -/
theorem turn_elected (taken : turn world i p = some t) (elected : t.process.loop.phase = .elected) :
    p.loop.phase = .body ∧ p.loop.msgNum = p.loop.checkTime ∧ ∃ stored,
      leaderCheck world i p.surroundings p.loop.currentGroup = .ok (true, stored) := by
  rcases turn_cases taken with ⟨_, rfl⟩ | ⟨_, rfl⟩ | ⟨phase, due, rfl⟩ | ⟨_, _, rfl⟩ | ⟨_, rfl⟩
  · cases elected
  · rcases repeatDenm_cases with ⟨_, _, _, _, result⟩ | ⟨_, _, _, _, result⟩ | result <;>
      rw [result] at elected <;> cases elected
  · rcases checkLeader_cases with ⟨leader, stored, _, checked, result⟩ | ⟨_, _, _, result⟩ | ⟨_, result⟩ <;>
      rw [result] at elected
    · cases leader with
      | true => exact ⟨phase, due, stored, checked⟩
      | false => cases elected
    · cases elected
    · cases elected
  · exact absurd elected drive_cases.2.2.2.1
  · rcases publishSet_cases with ⟨_, _, result⟩ | ⟨_, _, result⟩ <;> rw [result] at elected <;> cases elected

/-- **A station repeats its group only after it has published a SET.** -/
theorem turn_repeatDenm (taken : turn world i p = some t)
    (repeats : t.process.loop.repeatDenm = true) :
    p.loop.repeatDenm = true ∨
      p.loop.phase = .elected ∧ ∃ text, groupPayload i p 1 = .ok text ∧ t.denms = [text] := by
  rcases turn_cases taken with ⟨_, rfl⟩ | ⟨_, rfl⟩ | ⟨_, _, rfl⟩ | ⟨_, _, rfl⟩ | ⟨phase, rfl⟩
  · cases repeats
  · left
    rcases repeatDenm_cases with ⟨_, _, _, _, result⟩ | ⟨_, _, _, _, result⟩ | result <;>
      rw [result] at repeats <;> exact repeats
  · left
    rcases checkLeader_cases with ⟨_, _, _, _, result⟩ | ⟨_, _, _, result⟩ | ⟨_, result⟩ <;>
      rw [result] at repeats <;> exact repeats
  · exact .inl (drive_cases.2.2.1 ▸ repeats)
  · rcases publishSet_cases with ⟨payload, built, result⟩ | ⟨_, _, result⟩ <;> rw [result] at repeats ⊢
    · exact .inr ⟨phase, payload, built, rfl⟩
    · exact .inl repeats

/-- A group message is built if the group is a string. -/
theorem groupPayload_eq_ok {subCauseCode : ℕ} {text : DenmText} :
    groupPayload i p subCauseCode = .ok text ↔
      ∃ group, (p.vals i).group = .str group ∧ text = groupText i p group subCauseCode := by
  unfold groupPayload
  cases (p.vals i).group with
  | int n => simp [PyVal.asStr, bind, Except.bind]
  | str group => simp [PyVal.asStr, bind, Except.bind, pure, Except.pure, eq_comm]

end Vanet.Simulator
