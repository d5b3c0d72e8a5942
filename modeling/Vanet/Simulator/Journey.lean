/-
**The vehicle reaches its destination.**

`startSimul` drives along its route while the handlers update the record that it reads the speed and the check
time from. An update may do anything else as well, so that it also stands for the part of a handler that runs
between two statements of a turn. Speeds are integers, as all values of `sync_stats`, and the distances driven
are added exactly.

* `Journey.step`: the turns of the loop and the updates of the handlers, in any order.
* `Journey.OnRoute`: the invariant of all journeys (`onRoute_step`).
* `turnsLeft_lt`: every turn lowers the number of turns that are left, and no update changes it.
* `reached_journey`: the runs of the simulator are journeys.
* `startSimul_arrives`: every journey ends at the destination.
-/

import Vanet.Library.InfiniteRun
import Vanet.Library.Strides
import Vanet.Simulator.Network

namespace Vanet.Simulator

open Vanet.Library

/-! ### The route -/

/-- The loop of `main` over the coordinates of the route: its segments. -/
def segments (coordsList : List (ℚ × ℚ)) : List ((ℚ × ℚ) × (ℚ × ℚ)) :=
  (coordsList.zip coordsList.tail).filter fun ends => ends.1 ≠ ends.2

/-- The world of a route, with the geodesic distance and `get_bearing`. -/
def World.onRoad (world : World) (geodesic getBearing : ℚ × ℚ → ℚ × ℚ → ℚ) (coordsList : List (ℚ × ℚ)) :
    World :=
  { world with
    distances := (segments coordsList).map fun ends => geodesic ends.1 ends.2
    bearings := (segments coordsList).map fun ends => getBearing ends.1 ends.2 }

/-- **`main` hands over as many bearings as distances.** -/
theorem onRoad_matching (world : World) (geodesic getBearing : ℚ × ℚ → ℚ × ℚ → ℚ)
    (coordsList : List (ℚ × ℚ)) :
    (world.onRoad geodesic getBearing coordsList).distances.length =
      (world.onRoad geodesic getBearing coordsList).bearings.length := by
  unfold World.onRoad
  rw [List.length_map, List.length_map]

/-- All indices below a number in their order, each of them at least once. -/
inductive InSequence : ℕ → List ℕ → Prop
  | none : InSequence 0 []
  | next {n times : ℕ} {visited : List ℕ} : InSequence n visited → 0 < times →
    InSequence (n + 1) (visited ++ List.replicate times n)

theorem InSequence.lt {n index : ℕ} {visited : List ℕ} (inSequence : InSequence n visited) (member : index ∈ visited) :
    index < n := by
  induction inSequence with
  | none => cases member
  | next _ _ ih =>
    rcases List.mem_append.mp member with before | last
    · exact (ih before).trans (Nat.lt_succ_self _)
    · rw [List.eq_of_mem_replicate last]
      exact Nat.lt_succ_self _

/-! ### Journeys -/

/-- `leaderCheck` and the construction of a payload return normally, where the next turn calls them. -/
def Returns (world : World) (i : Station) (p : Process) : Prop :=
  match p.loop.phase with
  | .head => p.loop.repeatDenm = true → p.loop.msgNum % 10 = 0 → ∃ payload, groupPayload i p 2 = .ok payload
  | .body => p.loop.msgNum = p.loop.checkTime → p.loop.currentGroup ≠ (i : ℕ) →
      ∃ result, leaderCheck world i p.surroundings p.loop.currentGroup = .ok result
  | .elected => ∃ payload, groupPayload i p 1 = .ok payload
  | _ => True

/-- **An update by handlers**: the loop keeps its variables, the speed is positive, and the check time is left
alone or set to the value that handlers write. -/
structure Updates (i : Station) (before after : Process) : Prop where
  loop : after.loop = before.loop
  speed : 0 < (after.vals i).speed
  checkTime : (after.vals i).checkTime = (before.vals i).checkTime ∨
    (after.vals i).checkTime = syncStats100.2.2

/-- A process with the indices at which it has read the route. -/
structure Journey where
  process : Process
  visited : List ℕ

inductive JourneyAction
  | update (process : Process)
  | loop

namespace Journey

/-- The index at which the next turn reads `bearings` and `distances`. -/
def reads (p : Process) : List ℕ :=
  if p.loop.phase = .body ∧ p.loop.msgNum ≠ p.loop.checkTime then [p.loop.interval] else []

/-- **A step**: handlers update the process, or the loop takes a turn. -/
def step (world : World) (i : Station) (s : Journey) : JourneyAction → Option Journey
  | .update process => some { s with process := process }
  | .loop => (turn world i s.process).map fun t => ⟨t.process, s.visited ++ reads s.process⟩

/-- What is assumed of a step. -/
def Allowed (world : World) (i : Station) (s : Journey) : JourneyAction → Prop
  | .update process => Updates i s.process process
  | .loop => Returns world i s.process

def Begins (s : Journey) : Prop := s = ⟨.initial, []⟩

/-- The loop is run again and again until it has ended. -/
def Fair {world : World} {i : Station} (run : InfiniteRun Begins (step world i) (Allowed world i)) : Prop :=
  ∀ n, (run.state n).process.Running → ∃ m, n ≤ m ∧ run.action m = .loop

/-- **What holds at all times**: no exception has ended the loop, the route is visited in its order and never
left, and the counter never passes the check time, so that it meets it. -/
structure Safe (world : World) (i : Station) (s : Journey) : Prop where
  runs : s.process.Running ∨ s.process.loop.phase = .finished
  inside : ∀ index ∈ s.visited, index < world.bearings.length ∧ index < world.distances.length
  visits : ∃ before times, InSequence s.process.loop.interval before ∧
    s.visited = before ++ List.replicate times s.process.loop.interval
  arrived : s.process.loop.phase = .finished → InSequence world.bearings.length s.visited
  counter : s.process.loop.phase = .head → s.process.loop.msgNum ≤ s.process.loop.checkTime
  check : s.process.loop.phase = .body → s.process.loop.checkTime ≤ s.process.loop.msgNum →
    turn world i s.process = some (checkLeader world i s.process)

end Journey

/-! ### The turns -/

variable {world : World} {i : Station} {p : Process}

theorem repeatDenm_process (phase : p.loop.phase = .head) (returns : Returns world i p) :
    (repeatDenm i p).process = p.setLoop { p.loop with phase := .body } := by
  unfold Returns at returns
  rw [phase] at returns
  rcases repeatDenm_cases with ⟨_, _, _, _, result⟩ | ⟨_, repeats, tenth, failed, _⟩ | result
  · rw [result]
  · obtain ⟨payload, built⟩ := returns repeats tenth
    cases built.symm.trans failed
  · rw [result]

/-- **A leader check** resets the counter, and the station is elected or goes on. -/
theorem checkLeader_process (phase : p.loop.phase = .body) (due : p.loop.msgNum = p.loop.checkTime)
    (returns : Returns world i p) :
    ∃ next, (next = .head ∨ next = .elected) ∧
      (checkLeader world i p).process.loop = { p.loop with msgNum := 0, phase := next } ∧
      ((checkLeader world i p).process.vals i).speed = (p.vals i).speed ∧
      ((checkLeader world i p).process.vals i).checkTime = (p.vals i).checkTime := by
  unfold Returns at returns
  rw [phase] at returns
  rcases checkLeader_cases with ⟨leader, stored, _, _, result⟩ | ⟨_, other, failed, _⟩ | ⟨_, result⟩
  · rw [result]
    refine ⟨if leader then .elected else .head, ?_, rfl, ?_⟩
    · cases leader
      · exact .inl rfl
      · exact .inr rfl
    · cases stored with
      | none => exact ⟨rfl, rfl⟩
      | some group => exact ⟨Process.setGroup_speed .., Process.setGroup_checkTime ..⟩
  · obtain ⟨checked, returned⟩ := returns due other
    cases returned.symm.trans failed
  · rw [result]
    exact ⟨.head, .inl rfl, rfl, rfl, rfl⟩

/-- **What a drive does**, on a segment of some length. -/
structure DrivesOn (world : World) (i : Station) (length : ℚ) (before after : Process) : Prop where
  msgNum : after.loop.msgNum = before.loop.msgNum + 1
  checkTime : after.loop.checkTime = (before.vals i).checkTime
  speed : (after.vals i).speed = (before.vals i).speed
  stored : (after.vals i).checkTime = (before.vals i).checkTime
  within : before.loop.currDistance + (before.vals i).speed * (1 / 10) < length →
    after.loop.phase = .head ∧ after.loop.interval = before.loop.interval ∧
      after.loop.currDistance = before.loop.currDistance + (before.vals i).speed * (1 / 10)
  next : length ≤ before.loop.currDistance + (before.vals i).speed * (1 / 10) →
    after.loop.interval = before.loop.interval + 1 ∧ after.loop.currDistance = 0 ∧
      (before.loop.interval + 1 = world.bearings.length ∧ after.loop.phase = .finished ∨
        before.loop.interval + 1 ≠ world.bearings.length ∧ after.loop.phase = .head)

theorem drive_process {bearing length : ℚ} (bearings : world.bearings[p.loop.interval]? = some bearing)
    (distances : world.distances[p.loop.interval]? = some length) :
    DrivesOn world i length p (drive world i p).process := by
  unfold drive
  dsimp only
  split
  · rename_i outside
    cases outside.symm.trans bearings
  · split
    · rename_i outside
      cases outside.symm.trans distances
    · rename_i covered found
      cases found.symm.trans distances
      have record (q : Process) (record : Vals) (loop further : Loop) :
          (((q.setVals (slot i) record).setLoop loop).setLoop further).vals i = record := by
        rw [Process.setLoop_vals, Process.setLoop_vals, Process.setVals_vals_self]
      split_ifs with reached last
      · exact ⟨rfl, rfl, by rw [record]; rfl, by rw [record]; rfl, fun within => absurd reached within.not_ge,
          fun _ => ⟨rfl, rfl, .inl ⟨last, rfl⟩⟩⟩
      · exact ⟨rfl, rfl, by rw [record]; rfl, by rw [record]; rfl, fun within => absurd reached within.not_ge,
          fun _ => ⟨rfl, rfl, .inr ⟨last, rfl⟩⟩⟩
      · exact ⟨rfl, rfl, by rw [record]; rfl, by rw [record]; rfl, fun _ => ⟨rfl, rfl, rfl⟩,
          fun next => absurd next reached⟩

/-- **The SET message** gives the station the speed and the check time of a group. -/
theorem publishSet_process (phase : p.loop.phase = .elected) (returns : Returns world i p) :
    (publishSet i p).process.loop =
        { p.loop with
          phase := .head, repeatDenm := true, currentGroup := (i : ℕ), checkTime := syncStats100.2.2 } ∧
      ((publishSet i p).process.vals i).speed = syncStats100.1 ∧
      ((publishSet i p).process.vals i).checkTime = syncStats100.2.2 := by
  unfold Returns at returns
  rw [phase] at returns
  obtain ⟨payload, built⟩ := returns
  rcases publishSet_cases with ⟨_, _, result⟩ | ⟨_, failed, _⟩
  · rw [result]
    refine ⟨rfl, ?_, ?_⟩
    · rw [Process.setLoop_vals, Process.setVals_vals_self]
    · rw [Process.setLoop_vals, Process.setVals_vals_self]
  · cases built.symm.trans failed

/-! ### The invariant -/

/-- The check times that there are. -/
def IsCheckTime (checkTime : ℕ) : Prop := checkTime = Vals.initial.checkTime ∨ checkTime = syncStats100.2.2

/-- **The invariant of a journey.** -/
structure Journey.OnRoute (world : World) (i : Station) (s : Journey) : Prop where
  sound : ∀ error, s.process.loop.phase ≠ .failed error
  speed : 0 < (s.process.vals i).speed
  stored : IsCheckTime (s.process.vals i).checkTime
  start : s.process.loop.phase = .start →
    s.process.loop.interval = 0 ∧ s.process.loop.currDistance = 0 ∧ s.visited = []
  loaded : s.process.loop.phase ≠ .start → IsCheckTime s.process.loop.checkTime ∧
    s.process.loop.checkTime ≤ (s.process.vals i).checkTime ∧
      s.process.loop.msgNum ≤ s.process.loop.checkTime
  elected : s.process.loop.phase = .elected → s.process.loop.msgNum = 0
  ahead : s.process.loop.phase ≠ .finished → s.process.loop.interval < world.bearings.length
  visits : ∃ before times, InSequence s.process.loop.interval before ∧
    s.visited = before ++ List.replicate times s.process.loop.interval ∧
      (s.process.loop.phase = .finished → times = 0 ∧ s.process.loop.interval = world.bearings.length)

/-- A check time that is written is not lower than any other. -/
theorem IsCheckTime.le {checkTime : ℕ} (known : IsCheckTime checkTime) : checkTime ≤ syncStats100.2.2 := by
  rcases known with rfl | rfl <;> decide

theorem IsCheckTime.one_lt {checkTime : ℕ} (known : IsCheckTime checkTime) : 1 < checkTime := by
  rcases known with rfl | rfl <;> decide

namespace Journey.OnRoute

variable {s : Journey}

theorem begins (nonempty : world.bearings ≠ []) : OnRoute world i ⟨.initial, []⟩ where
  sound _ := nofun
  speed := show 0 < Vals.initial.speed by decide
  stored := .inl rfl
  start _ := ⟨rfl, rfl, rfl⟩
  loaded begun := absurd rfl begun
  elected := nofun
  ahead _ := List.length_pos_iff.mpr nonempty
  visits := ⟨[], 0, .none, rfl, nofun⟩

/-- **An update** leaves the variables of the loop alone. -/
theorem update {after : Process} (onRoute : OnRoute world i s) (updates : Updates i s.process after) :
    OnRoute world i { s with process := after } := by
  obtain ⟨loop, speed, checkTime⟩ := updates
  have higher : (s.process.vals i).checkTime ≤ (after.vals i).checkTime := by
    rcases checkTime with same | written
    · exact same.ge
    · exact written ▸ onRoute.stored.le
  refine ⟨?_, speed, ?_, ?_, ?_, ?_, ?_, ?_⟩
  · rw [loop]
    exact onRoute.sound
  · rcases checkTime with same | written
    · exact same ▸ onRoute.stored
    · exact .inr written
  · rw [loop]
    exact onRoute.start
  · rw [loop]
    intro begun
    obtain ⟨known, below, counter⟩ := onRoute.loaded begun
    exact ⟨known, below.trans higher, counter⟩
  · rw [loop]
    exact onRoute.elected
  · rw [loop]
    exact onRoute.ahead
  · rw [loop]
    exact onRoute.visits

/-- **A turn that stays where it is.** -/
theorem stay {after : Process} (onRoute : OnRoute world i s) (going : s.process.loop.phase ≠ .finished)
    (interval : after.loop.interval = s.process.loop.interval)
    (phase : after.loop.phase = .head ∨ after.loop.phase = .body ∨ after.loop.phase = .elected)
    (speed : 0 < (after.vals i).speed) (stored : IsCheckTime (after.vals i).checkTime)
    (known : IsCheckTime after.loop.checkTime) (below : after.loop.checkTime ≤ (after.vals i).checkTime)
    (counter : after.loop.msgNum ≤ after.loop.checkTime)
    (elected : after.loop.phase = .elected → after.loop.msgNum = 0) :
    OnRoute world i { s with process := after } where
  sound error failed := by rcases phase with phase | phase | phase <;> cases phase.symm.trans failed
  speed := speed
  stored := stored
  start started := by rcases phase with phase | phase | phase <;> cases phase.symm.trans started
  loaded _ := ⟨known, below, counter⟩
  elected := elected
  ahead _ := by
    show after.loop.interval < _
    exact interval ▸ onRoute.ahead going
  visits := by
    obtain ⟨before, times, inSequence, visited, _⟩ := onRoute.visits
    rw [interval]
    exact ⟨before, times, inSequence, visited, fun finished => by
      rcases phase with phase | phase | phase <;> cases phase.symm.trans finished⟩

/-- At the head of the loop. -/
theorem of_head {after : Process} {visited : List ℕ} (head : after.loop.phase = .head)
    (speed : 0 < (after.vals i).speed) (stored : IsCheckTime (after.vals i).checkTime)
    (loaded : IsCheckTime after.loop.checkTime ∧ after.loop.checkTime ≤ (after.vals i).checkTime ∧
      after.loop.msgNum ≤ after.loop.checkTime)
    (ahead : after.loop.interval < world.bearings.length)
    (visits : ∃ before times, InSequence after.loop.interval before ∧
      visited = before ++ List.replicate times after.loop.interval) :
    OnRoute world i ⟨after, visited⟩ where
  sound _ failed := nomatch head.symm.trans failed
  speed := speed
  stored := stored
  start started := nomatch head.symm.trans started
  loaded _ := loaded
  elected elected := nomatch head.symm.trans elected
  ahead _ := ahead
  visits := by
    obtain ⟨before, times, inSequence, same⟩ := visits
    exact ⟨before, times, inSequence, same, fun finished => nomatch head.symm.trans finished⟩

/-- **A drive** reads the route, and ends it on the last segment. -/
theorem drive {length : ℚ} {after : Process} (onRoute : OnRoute world i s) (phase : s.process.loop.phase = .body)
    (early : s.process.loop.msgNum ≠ s.process.loop.checkTime) (drives : DrivesOn world i length s.process after) :
    OnRoute world i ⟨after, s.visited ++ reads s.process⟩ := by
  obtain ⟨known, below, counter⟩ := onRoute.loaded (by rw [phase]; nofun)
  have inside : s.process.loop.interval < world.bearings.length := onRoute.ahead (by rw [phase]; nofun)
  obtain ⟨before, times, inSequence, visited, _⟩ := onRoute.visits
  have extended : s.visited ++ reads s.process = before ++ List.replicate (times + 1) s.process.loop.interval := by
    rw [reads, if_pos ⟨phase, early⟩, visited, List.append_assoc, ← List.replicate_succ']
  have speed : 0 < (after.vals i).speed := drives.speed ▸ onRoute.speed
  have stored : IsCheckTime (after.vals i).checkTime := drives.stored ▸ onRoute.stored
  have loaded : IsCheckTime after.loop.checkTime ∧ after.loop.checkTime ≤ (after.vals i).checkTime ∧
      after.loop.msgNum ≤ after.loop.checkTime := by
    rw [drives.checkTime, drives.stored, drives.msgNum]
    exact ⟨onRoute.stored, le_refl _, (lt_of_le_of_ne counter early).trans_le below⟩
  have reading : InSequence (s.process.loop.interval + 1) (s.visited ++ reads s.process) :=
    extended ▸ inSequence.next (Nat.succ_pos times)
  rcases lt_or_ge (s.process.loop.currDistance + (s.process.vals i).speed * (1 / 10)) length with within | reached
  · obtain ⟨head, interval, _⟩ := drives.within within
    exact of_head head speed stored loaded (interval ▸ inside) (interval ▸ ⟨before, times + 1, inSequence, extended⟩)
  · obtain ⟨interval, _, ⟨last, finished⟩ | ⟨notLast, head⟩⟩ := drives.next reached
    · refine ⟨?_, speed, stored, ?_, fun _ => loaded, ?_, fun going => absurd finished going, ?_⟩
      · exact fun error failed => nomatch finished.symm.trans failed
      · exact fun start => nomatch finished.symm.trans start
      · exact fun elected => nomatch finished.symm.trans elected
      · exact interval ▸ ⟨_, 0, reading, (List.append_nil _).symm, fun _ => ⟨rfl, last⟩⟩
    · exact of_head head speed stored loaded (interval ▸ lt_of_le_of_ne inside notLast)
        (interval ▸ ⟨_, 0, reading, (List.append_nil _).symm⟩)

/-- On the way the route has a next segment, with a bearing. -/
theorem segment (onRoute : OnRoute world i s) (matching : world.distances.length = world.bearings.length)
    (going : s.process.loop.phase ≠ .finished) :
    ∃ bearing length, world.bearings[s.process.loop.interval]? = some bearing ∧
      world.distances[s.process.loop.interval]? = some length := by
  have inside := onRoute.ahead going
  exact ⟨_, _, List.getElem?_eq_getElem inside, List.getElem?_eq_getElem (matching ▸ inside)⟩

/-- **A turn of the loop.** -/
theorem turned {t : Turn} (onRoute : OnRoute world i s)
    (matching : world.distances.length = world.bearings.length) (returns : Returns world i s.process)
    (taken : turn world i s.process = some t) : OnRoute world i ⟨t.process, s.visited ++ reads s.process⟩ := by
  have still (other : s.process.loop.phase ≠ .body ∨ s.process.loop.msgNum = s.process.loop.checkTime) :
      s.visited ++ reads s.process = s.visited := by
    rw [reads, if_neg, List.append_nil]
    rintro ⟨body, early⟩
    exact other.elim (fun other => other body) early
  rcases turn_cases taken with ⟨phase, rfl⟩ | ⟨phase, rfl⟩ | ⟨phase, due, rfl⟩ | ⟨phase, early, rfl⟩ | ⟨phase, rfl⟩
  · obtain ⟨interval, _, _⟩ := onRoute.start phase
    rw [still (.inl (by rw [phase]; nofun))]
    exact onRoute.stay (by rw [phase]; nofun) interval.symm (.inl rfl) onRoute.speed onRoute.stored onRoute.stored
      (le_refl _) onRoute.stored.one_lt.le nofun
  · obtain ⟨known, below, counter⟩ := onRoute.loaded (by rw [phase]; nofun)
    rw [still (.inl (by rw [phase]; nofun)), repeatDenm_process phase returns]
    exact onRoute.stay (by rw [phase]; nofun) rfl (.inr (.inl rfl)) onRoute.speed onRoute.stored known below counter
      nofun
  · obtain ⟨known, below, _⟩ := onRoute.loaded (by rw [phase]; nofun)
    obtain ⟨next, going, loop, speed, checkTime⟩ := checkLeader_process phase due returns
    rw [still (.inr due)]
    refine onRoute.stay (by rw [phase]; nofun) ?_ ?_ (speed ▸ onRoute.speed) (checkTime ▸ onRoute.stored) ?_ ?_ ?_ ?_
    all_goals rw [loop]
    · exact going.imp_right .inr
    · exact known
    · exact checkTime ▸ below
    · exact Nat.zero_le _
    · exact fun _ => rfl
  · obtain ⟨bearing, length, bearings, distances⟩ := onRoute.segment matching (by rw [phase]; nofun)
    exact onRoute.drive phase early (drive_process bearings distances)
  · obtain ⟨loop, speed, checkTime⟩ := publishSet_process phase returns
    obtain ⟨known, _, counter⟩ := onRoute.loaded (by rw [phase]; nofun)
    rw [still (.inl (by rw [phase]; nofun))]
    refine onRoute.stay (by rw [phase]; nofun) ?_ (.inl ?_) (by rw [speed]; decide) (.inr checkTime) ?_ ?_ ?_ ?_
    all_goals rw [loop]
    · exact .inr rfl
    · exact checkTime.ge
    · exact counter.trans known.le
    · exact nofun

/-- **Every step** keeps the invariant. -/
theorem step {after : Journey} {action : JourneyAction} (onRoute : OnRoute world i s)
    (matching : world.distances.length = world.bearings.length) (allowed : Allowed world i s action)
    (taken : s.step world i action = some after) : OnRoute world i after := by
  cases action with
  | update process =>
    cases taken
    exact onRoute.update allowed
  | loop =>
    obtain ⟨t, turns, rfl⟩ := Option.map_eq_some_iff.mp taken
    exact onRoute.turned matching allowed turns

/-- **The invariant of all journeys.** -/
theorem of_reached (nonempty : world.bearings ≠ []) (matching : world.distances.length = world.bearings.length) :
    ∀ s, GuardedReach Begins (Journey.step world i) (Allowed world i) s → OnRoute world i s := by
  refine GuardedReach.invariant ?_ ?_
  · rintro first rfl
    exact begins nonempty
  · exact fun before action after _ onRoute allowed taken => onRoute.step matching allowed taken

/-- On the road or at the destination. -/
theorem running (onRoute : OnRoute world i s) : s.process.Running ∨ s.process.loop.phase = .finished := by
  unfold Process.Running
  split
  · rename_i finished
    exact .inr finished
  · rename_i error failed
    exact absurd failed (onRoute.sound error)
  · exact .inl trivial

/-- **No index past the route is read.** -/
theorem inside (onRoute : OnRoute world i s) {index : ℕ} (visit : index ∈ s.visited) :
    index < world.bearings.length := by
  obtain ⟨before, times, inSequence, visited, atEnd⟩ := onRoute.visits
  rw [visited] at visit
  by_cases finished : s.process.loop.phase = .finished
  · obtain ⟨rfl, interval⟩ := atEnd finished
    rw [List.replicate_zero, List.append_nil] at visit
    exact interval ▸ inSequence.lt visit
  · have ahead := onRoute.ahead finished
    rcases List.mem_append.mp visit with earlier | now
    · exact (inSequence.lt earlier).trans ahead
    · exact List.eq_of_mem_replicate now ▸ ahead

theorem safe (onRoute : OnRoute world i s) (matching : world.distances.length = world.bearings.length) :
    Safe world i s := by
  obtain ⟨before, times, inSequence, visited, atEnd⟩ := onRoute.visits
  refine ⟨onRoute.running, ?_, ⟨before, times, inSequence, visited⟩, ?_, ?_, ?_⟩
  · exact fun index visit => ⟨onRoute.inside visit, matching ▸ onRoute.inside visit⟩
  · intro finished
    obtain ⟨rfl, interval⟩ := atEnd finished
    rw [visited, List.replicate_zero, List.append_nil]
    exact interval ▸ inSequence
  · intro head
    exact (onRoute.loaded (by rw [head]; nofun)).2.2
  · intro body reached
    have due : s.process.loop.msgNum = s.process.loop.checkTime :=
      le_antisymm (onRoute.loaded (by rw [body]; nofun)).2.2 reached
    unfold turn
    rw [body]
    exact if_pos due

end Journey.OnRoute

/-! ### The way that is left -/

/-- The turns up to the next drive, with a leader check if it is due. -/
def untilDrive (loop : Loop) : ℕ :=
  match loop.phase with
  | .start => 3
  | .head => if loop.msgNum = loop.checkTime then 5 else 2
  | .body => if loop.msgNum = loop.checkTime then 4 else 1
  | .elected => 3
  | .finished => 0
  | .failed _ => 0

/-- **The turns that are left**, at a speed of one metre per second. -/
def turnsLeft (world : World) (loop : Loop) : ℕ :=
  5 * stridesLeft (1 / 10) (world.distances.drop loop.interval) loop.currDistance + untilDrive loop

theorem untilDrive_le (loop : Loop) : untilDrive loop ≤ 5 := by
  unfold untilDrive
  split <;> first | split_ifs <;> decide | decide

theorem untilDrive_head {loop : Loop} (phase : loop.phase = .head) (early : loop.msgNum ≠ loop.checkTime) :
    untilDrive loop = 2 := by
  unfold untilDrive
  rw [phase]
  exact if_neg early

/-- A turn that stays where it is comes closer to the next drive. -/
theorem turnsLeft_lt_of_stay {loop after : Loop} (interval : after.interval = loop.interval)
    (covered : after.currDistance = loop.currDistance) (closer : untilDrive after < untilDrive loop) :
    turnsLeft world after < turnsLeft world loop := by
  unfold turnsLeft
  rw [interval, covered]
  exact Nat.add_lt_add_left closer _

/-- **A drive** leaves fewer strides. -/
theorem turnsLeft_drive {length : ℚ} {after : Process} (phase : p.loop.phase = .body) (speed : 0 < (p.vals i).speed)
    (distances : world.distances[p.loop.interval]? = some length) (drives : DrivesOn world i length p after) :
    turnsLeft world after.loop < turnsLeft world p.loop := by
  obtain ⟨inside, rfl⟩ := List.getElem?_eq_some_iff.mp distances
  have stride : (1 / 10 : ℚ) ≤ (p.vals i).speed * (1 / 10) := by
    have least : (1 : ℚ) ≤ (p.vals i).speed := by exact_mod_cast speed
    linarith
  have fewer : stridesLeft (1 / 10) (world.distances.drop after.loop.interval) after.loop.currDistance <
      stridesLeft (1 / 10) (world.distances.drop p.loop.interval) p.loop.currDistance := by
    rw [List.drop_eq_getElem_cons inside]
    rcases lt_or_ge (p.loop.currDistance + (p.vals i).speed * (1 / 10)) world.distances[p.loop.interval] with
      within | reached
    · obtain ⟨_, interval, covered⟩ := drives.within within
      rw [interval, covered, List.drop_eq_getElem_cons inside]
      exact stridesLeft_lt_onward (by norm_num) stride within
    · obtain ⟨interval, covered, _⟩ := drives.next reached
      rw [interval, covered]
      exact stridesLeft_lt_next
  have next := untilDrive_le after.loop
  have now : 0 < untilDrive p.loop := by
    unfold untilDrive
    rw [phase]
    show 0 < if _ then 4 else 1
    split_ifs <;> decide
  unfold turnsLeft
  omega

/-- **Every turn lowers the number of turns that are left.** -/
theorem turnsLeft_lt {s : Journey} {t : Turn} (onRoute : s.OnRoute world i)
    (matching : world.distances.length = world.bearings.length) (returns : Returns world i s.process)
    (taken : turn world i s.process = some t) :
    turnsLeft world t.process.loop < turnsLeft world s.process.loop := by
  rcases turn_cases taken with ⟨phase, rfl⟩ | ⟨phase, rfl⟩ | ⟨phase, due, rfl⟩ | ⟨phase, early, rfl⟩ | ⟨phase, rfl⟩
  · obtain ⟨interval, covered, _⟩ := onRoute.start phase
    refine turnsLeft_lt_of_stay interval.symm covered.symm ?_
    have now : untilDrive s.process.loop = 3 := by rw [untilDrive, phase]
    rw [now, untilDrive_head rfl onRoute.stored.one_lt.ne]
    decide
  · rw [repeatDenm_process phase returns]
    refine turnsLeft_lt_of_stay rfl rfl ?_
    by_cases due : s.process.loop.msgNum = s.process.loop.checkTime <;> simp [untilDrive, phase, due]
  · obtain ⟨next, going, loop, _⟩ := checkLeader_process phase due returns
    obtain ⟨known, _, _⟩ := onRoute.loaded (by rw [phase]; nofun)
    rw [loop]
    refine turnsLeft_lt_of_stay rfl rfl ?_
    have now : untilDrive s.process.loop = 4 := by rw [untilDrive, phase]; exact if_pos due
    rw [now]
    rcases going with rfl | rfl
    · rw [untilDrive_head rfl (known.one_lt.trans' Nat.zero_lt_one).ne]
      decide
    · show 3 < 4
      decide
  · obtain ⟨bearing, length, bearings, distances⟩ := onRoute.segment matching (by rw [phase]; nofun)
    exact turnsLeft_drive phase onRoute.speed distances (drive_process bearings distances)
  · obtain ⟨loop, _⟩ := publishSet_process phase returns
    rw [loop]
    refine turnsLeft_lt_of_stay rfl rfl ?_
    have now : untilDrive s.process.loop = 3 := by rw [untilDrive, phase]
    have reset : s.process.loop.msgNum ≠ syncStats100.2.2 := by rw [onRoute.elected phase]; decide
    rw [now, untilDrive_head rfl reset]
    decide

/-! ### The destination -/

/-- **The loop ends.** -/
theorem finishes (nonempty : world.bearings ≠ []) (matching : world.distances.length = world.bearings.length)
    (run : InfiniteRun Journey.Begins (Journey.step world i) (Journey.Allowed world i)) (fair : Journey.Fair run) :
    ∃ n, (run.state n).process.loop.phase = .finished := by
  have onRoute (n : ℕ) : (run.state n).OnRoute world i := Journey.OnRoute.of_reached nonempty matching _ (run.reached n)
  have lower (n : ℕ) (loop : run.action n = .loop) :
      turnsLeft world (run.state (n + 1)).process.loop < turnsLeft world (run.state n).process.loop := by
    have taken := run.steps n
    have returns := run.meets n
    rw [loop] at taken returns
    obtain ⟨t, turns, next⟩ := Option.map_eq_some_iff.mp taken
    rw [← next]
    exact turnsLeft_lt (onRoute n) matching returns turns
  have keep (n : ℕ) :
      turnsLeft world (run.state (n + 1)).process.loop ≤ turnsLeft world (run.state n).process.loop := by
    cases action : run.action n with
    | loop => exact (lower n action).le
    | update process =>
      have taken := run.steps n
      have updates := run.meets n
      rw [action] at taken updates
      rw [← Option.some.inj taken, updates.loop]
  obtain ⟨n, quiet⟩ := run.settles (fun s => turnsLeft world s.process.loop) (· = .loop) keep lower
  refine ⟨n, (onRoute n).running.resolve_left fun running => ?_⟩
  obtain ⟨m, later, loop⟩ := fair n running
  exact quiet m later loop

/-! ### The simulator's runs -/

/-- **A handler only makes updates.** -/
theorem handler_updates {message : Message} (speed : 0 < (p.vals i).speed) :
    Updates i p (handler world i p message).process := by
  have kept : ((handler world i p message).process.vals i).speed = (p.vals i).speed ∨
      ((handler world i p message).process.vals i).speed = syncStats100.1 := handler_speed message
  refine ⟨handler_loop message, ?_, (handler_stats message).imp And.right And.right⟩
  rcases kept with same | group
  · exact same ▸ speed
  · rw [group]
    decide

/-- **A process of the simulator is on a journey**, as long as what its loop calls returns normally. -/
theorem reached_journey (nonempty : world.bearings ≠ [])
    (matching : world.distances.length = world.bearings.length) {s : System}
    (reached : GuardedReach (· = System.initial) (System.step world)
      (fun s action => ∀ i, action = .loop i → Returns world i (s.procs i)) s) :
    ∃ visited, GuardedReach Journey.Begins (Journey.step world i) (Journey.Allowed world i)
      ⟨s.procs i, visited⟩ := by
  refine system_invariant (I := fun s => ∀ i, ∃ visited, GuardedReach Journey.Begins (Journey.step world i)
    (Journey.Allowed world i) ⟨s.procs i, visited⟩) ?_ ?_ ?_ ?_ s reached i
  · exact fun i => ⟨[], .start rfl⟩
  · intro s k packet _ journeys _ _ _ i
    obtain ⟨visited, journey⟩ := journeys i
    refine ⟨visited, ?_⟩
    by_cases same : i = packet.dest
    · subst same
      have onRoute := Journey.OnRoute.of_reached nonempty matching _ journey
      have updates : Journey.Allowed world packet.dest ⟨s.procs packet.dest, visited⟩
          (.update (s.outcome world packet).process) := handler_updates onRoute.speed
      simp only [System.delivered, Function.update_self]
      exact .next journey updates rfl
    · simp only [System.delivered, Function.update_of_ne same]
      exact journey
  · exact fun s k journeys => journeys
  · intro s j t _ journeys returns turning i
    obtain ⟨visited, journey⟩ := journeys i
    by_cases same : i = j
    · subst same
      have step : Journey.step world i ⟨s.procs i, visited⟩ .loop =
          some ⟨t.process, visited ++ Journey.reads (s.procs i)⟩ := congrArg (Option.map _) turning
      have allowed : Journey.Allowed world i ⟨s.procs i, visited⟩ .loop := returns i rfl
      rw [turned_self]
      exact ⟨_, .next journey allowed step⟩
    · rw [turned_other t same]
      exact ⟨visited, journey⟩

/-- **The vehicle reaches its destination**, whatever the handlers do in between, and is safe on its way. -/
theorem startSimul_arrives (world : World) (i : Station) (nonempty : world.bearings ≠ [])
    (matching : world.distances.length = world.bearings.length) :
    (∀ run : InfiniteRun Journey.Begins (Journey.step world i) (Journey.Allowed world i), Journey.Fair run →
      ∃ n, (run.state n).process.loop.phase = .finished) ∧
    ∀ s, GuardedReach Journey.Begins (Journey.step world i) (Journey.Allowed world i) s → s.Safe world i :=
  ⟨finishes nonempty matching,
    fun s reached => (Journey.OnRoute.of_reached nonempty matching s reached).safe matching⟩

/-- A route around a corner, whose first point is given twice: 15 metres to the east and 12 to the north. -/
def cornerRoute : World :=
  World.onRoad
    { calcBearing := fun _ _ _ _ => 0, destination := fun _ _ _ _ => .origin, startPoint := .origin,
      distances := [], bearings := [] }
    (fun start goal => 12 * (goal.1 - start.1) + 15 * (goal.2 - start.2))
    (fun start goal => if start.1 = goal.1 then 90 else 0)
    [(0, 0), (0, 0), (0, 1), (1, 1)]

namespace Corner

/-- A handler halves the speed and sets the check time of a group. -/
def slow (p : Process) : Process :=
  p.setVals (slot 0) { p.vals 0 with speed := 50, checkTime := syncStats100.2.2 }

/-- Eleven turns, with the handler after the first segment; then nothing changes any more. -/
def action (n : ℕ) (s : Journey) : JourneyAction :=
  if n = 5 then .update (slow s.process) else if n < 12 then .loop else .update s.process

def state : ℕ → Journey := InfiniteRun.scripted (Journey.step cornerRoute 0) action ⟨.initial, []⟩

/-- No check is due, and the station is no leader. -/
def Calm (p : Process) : Prop :=
  p.loop.repeatDenm = false ∧ p.loop.phase ≠ .elected ∧ (p.loop.phase = .body → p.loop.msgNum ≠ p.loop.checkTime)

instance (p : Process) : Decidable (Calm p) := by
  unfold Calm
  infer_instance

theorem Calm.returns {p : Process} (calm : Calm p) : Returns cornerRoute 0 p := by
  obtain ⟨follows, unelected, early⟩ := calm
  unfold Returns
  split
  next => exact fun repeats => nomatch follows.symm.trans repeats
  next body => exact fun due => absurd due (early body)
  next elected => exact absurd elected unelected
  next => trivial

theorem driving : ∀ n < 12, n ≠ 5 →
    Calm (state n).process ∧ (turn cornerRoute 0 (state n).process).isSome = true := by
  decide +kernel

theorem finished : (state 12).process.loop.phase = .finished ∧ 0 < ((state 12).process.vals 0).speed := by
  decide +kernel

/-- What is left is idle. -/
theorem state_add (n : ℕ) : state (n + 12) = state 12 := by
  induction n with
  | zero => rfl
  | succ n ih =>
    unfold state at ih ⊢
    rw [Nat.succ_add, InfiniteRun.scripted, ih, action, if_neg (by omega), if_neg (by omega)]
    rfl

theorem state_of_le {n : ℕ} (late : 12 ≤ n) : state n = state 12 := by
  obtain ⟨more, rfl⟩ := Nat.exists_eq_add_of_le' late
  exact state_add more

theorem allowed (n : ℕ) : (state n).Allowed cornerRoute 0 (action n (state n)) := by
  unfold action
  by_cases slows : n = 5
  · rw [if_pos slows]
    refine ⟨rfl, ?_, .inr ?_⟩
    · rw [slow, Process.setVals_vals_self]
      exact Nat.zero_lt_succ 49
    · rw [slow, Process.setVals_vals_self]
  · rw [if_neg slows]
    by_cases early : n < 12
    · rw [if_pos early]
      exact (driving n early slows).1.returns
    · rw [if_neg early]
      refine ⟨rfl, ?_, .inl rfl⟩
      rw [state_of_le (Nat.not_lt.mp early)]
      exact finished.2

theorem goes (n : ℕ) : ((state n).step cornerRoute 0 (action n (state n))).isSome = true := by
  unfold action
  by_cases slows : n = 5
  · rw [if_pos slows]
    rfl
  · rw [if_neg slows]
    by_cases early : n < 12
    · rw [if_pos early]
      exact (Option.isSome_map ..).trans (driving n early slows).2
    · rw [if_neg early]
      rfl

/-- **The run around the corner.** -/
def run : InfiniteRun Journey.Begins (Journey.step cornerRoute 0) (Journey.Allowed cornerRoute 0) :=
  .script action ⟨.initial, []⟩ rfl allowed goes

theorem fair : Journey.Fair run := by
  intro n running
  by_cases early : n < 12
  · refine ⟨if n = 5 then 6 else n, ?_, ?_⟩
    · split_ifs <;> omega
    · show action _ _ = _
      unfold action
      split_ifs <;> first | rfl | omega
  · exfalso
    have process : (run.state n).process = (state 12).process :=
      congrArg Journey.process (state_of_le (Nat.not_lt.mp early))
    rw [process, Process.Running, finished.1] at running
    exact running

end Corner

/-- **Around the corner**: the vehicle arrives although a handler changes its speed and check time on the
way, and has read the first segment twice and the second one three times. -/
theorem startSimul_arrives_corner :
    (∃ n, (Corner.run.state n).process.loop.phase = .finished) ∧
      (∀ n, (Corner.run.state n).Safe cornerRoute 0) ∧ (Corner.run.state 12).visited = [0, 0, 1, 1, 1] := by
  have arrives := startSimul_arrives cornerRoute 0 (by decide +kernel) (onRoad_matching ..)
  exact ⟨arrives.1 Corner.run Corner.fair, fun n => arrives.2 _ (Corner.run.reached n), by decide +kernel⟩

end Vanet.Simulator
