/-
**The path history of a CAM.**

`copy` writes an entry for each concise point, and further ones as long as its age exceeds what an entry
can tell. All points share one limit of entries. An age of less than 10 ms, or what remains of it after
full entries, becomes an entry with the time 0, which is outside of the range of `PathDeltaTime`.

* `deltaTimes_eq`: the times that are written for one age.
* `encodes_iff`: exactly when a path history is encoded as it should be.
-/

import Mathlib.Algebra.Order.BigOperators.Group.List
import Mathlib.Algebra.Order.Ring.Rat
import Mathlib.Data.Rat.Floor
import Vanet.Facilities.PathHistory
import Vanet.Library.Rounding

namespace Vanet.Facilities

open Vanet.Library

/-- `PathPoint`, in degrees and microseconds. The heading is not encoded. -/
structure PathPoint where
  latitude : ℚ
  longitude : ℚ
  time : ℤ
  deriving DecidableEq

/-- The `PathPoint` of a CAM. -/
structure CamPathPoint where
  pathDeltaTime : ℤ
  deltaLatitude : ℤ
  deltaLongitude : ℤ
  deltaAltitude : ℤ
  deriving DecidableEq

/-- `scMaxPathPoints`. -/
def maxPathPoints : ℕ := 23

/-- `scMaxDeltaTime`, in microseconds. -/
def maxDeltaTime : ℤ := 655350 * 1000

/-- `DeltaAltitude_unavailable`. -/
def deltaAltitudeUnavailable : ℤ := 12800

/-- A difference of degrees, in tenths of a microdegree. -/
def deltaAngle (degrees : ℚ) : ℤ := towardZero (degrees * 1000000 * 10)

/-- The time of an entry: milliseconds divided by 10. -/
def pathDeltaTime (deltaTime : ℤ) : ℤ := ((min deltaTime maxDeltaTime).tdiv 1000).tdiv 10

/-- The entry for a point, at some time. -/
def pathPoint (ref point : PathPoint) (deltaTime : ℤ) : CamPathPoint where
  pathDeltaTime := pathDeltaTime deltaTime
  deltaLatitude := deltaAngle (point.latitude - ref.latitude)
  deltaLongitude := deltaAngle (point.longitude - ref.longitude)
  deltaAltitude := deltaAltitudeUnavailable

/-- The while loop: the remaining times of the entries of a point, while there is room for entries. -/
def deltaTimes : (room : ℕ) → (deltaTime : ℤ) → List ℤ
  | 0, _ => []
  | room + 1, deltaTime =>
    if deltaTime < 0 then [] else deltaTime :: deltaTimes room (deltaTime - maxDeltaTime)

/-- The age of a point. -/
def age (ref point : PathPoint) : ℤ := ref.time - point.time

/-- The entries of one point. -/
def entries (ref : PathPoint) (room : ℕ) (point : PathPoint) : List CamPathPoint :=
  (deltaTimes room (age ref point)).map (pathPoint ref point)

/-- The loop over the concise points. -/
def copyPoints (ref : PathPoint) : (room : ℕ) → List PathPoint → List CamPathPoint
  | _, [] => []
  | room, point :: rest =>
    let added := entries ref room point
    added ++ copyPoints ref (room - added.length) rest

/-- `getReferencePoint`: the latest sample. -/
def PathHistory.getReferencePoint (history : PathHistory PathPoint) : PathPoint :=
  history.samples.items.head?.getD ⟨0, 0, 0⟩

/-- **`copy`.** -/
def copy (history : PathHistory PathPoint) : List CamPathPoint :=
  copyPoints history.getReferencePoint maxPathPoints history.concise

/-! ### The entries of one point -/

/-- The number of entries that an age asks for. -/
def wanted (age : ℤ) : ℕ := if age < 0 then 0 else (age / maxDeltaTime).toNat + 1

theorem length_deltaTimes (room : ℕ) (age : ℤ) : (deltaTimes room age).length = min room (wanted age) := by
  induction room generalizing age with
  | zero => simp [deltaTimes]
  | succ room ih =>
    unfold deltaTimes
    split_ifs with negative
    · simp [wanted, negative]
    · rw [List.length_cons, ih]
      have rest : wanted (age - maxDeltaTime) + 1 = wanted age := by
        unfold wanted maxDeltaTime
        split_ifs <;> omega
      omega

theorem pathDeltaTime_of_full {deltaTime : ℤ} (full : maxDeltaTime ≤ deltaTime) :
    pathDeltaTime deltaTime = 65535 := by
  unfold pathDeltaTime
  rw [min_eq_right full]
  rfl

theorem pathDeltaTime_of_rest {deltaTime : ℤ} (nonneg : 0 ≤ deltaTime) (rest : deltaTime < maxDeltaTime) :
    pathDeltaTime deltaTime = deltaTime / 10000 := by
  unfold pathDeltaTime
  rw [min_eq_left rest.le, Int.tdiv_eq_ediv_of_nonneg nonneg,
    Int.tdiv_eq_ediv_of_nonneg (Int.ediv_nonneg nonneg (by decide))]
  omega

/-- **The times that are written for an age**: full ones, and what remains of it if there is room. -/
theorem deltaTimes_eq (room : ℕ) {age : ℤ} (nonneg : 0 ≤ age) :
    (deltaTimes room age).map pathDeltaTime =
      if wanted age ≤ room then
        List.replicate (age / maxDeltaTime).toNat 65535 ++ [age % maxDeltaTime / 10000]
      else List.replicate room 65535 := by
  induction room generalizing age with
  | zero =>
    rw [if_neg]
    · rfl
    · unfold wanted
      split_ifs <;> omega
  | succ room ih =>
    unfold deltaTimes
    rw [if_neg (not_lt.mpr nonneg), List.map_cons]
    rcases lt_or_ge age maxDeltaTime with last | more
    · have done : deltaTimes room (age - maxDeltaTime) = [] := by
        cases room with
        | zero => rfl
        | succ room => exact if_pos (by omega)
      have quotient : age / maxDeltaTime = 0 := Int.ediv_eq_zero_of_lt nonneg last
      have one : wanted age ≤ room + 1 := by
        unfold wanted
        rw [if_neg (not_lt.mpr nonneg), quotient]
        exact Nat.succ_le_succ room.zero_le
      rw [done, if_pos one, quotient, Int.emod_eq_of_lt nonneg last, pathDeltaTime_of_rest nonneg last]
      rfl
    · have positive : (0 : ℤ) < maxDeltaTime := by decide
      have quotient : (age / maxDeltaTime).toNat = ((age - maxDeltaTime) / maxDeltaTime).toNat + 1 := by
        unfold maxDeltaTime at *
        omega
      have rest : wanted age = wanted (age - maxDeltaTime) + 1 := by
        unfold wanted
        rw [if_neg (not_lt.mpr nonneg), if_neg (not_lt.mpr (sub_nonneg.mpr more)), quotient]
      rw [ih (sub_nonneg.mpr more), pathDeltaTime_of_full more, rest, quotient, Int.sub_emod_right,
        List.replicate_succ, List.replicate_succ]
      split_ifs <;> first | rfl | omega

/-! ### The entries of all points -/

/-- The number of entries that some points ask for. -/
def totalWanted (ref : PathPoint) (points : List PathPoint) : ℕ :=
  (points.map fun point => wanted (age ref point)).sum

variable {ref point : PathPoint} {earlier later points : List PathPoint}

theorem length_entries (room : ℕ) (point : PathPoint) :
    (entries ref room point).length = min room (wanted (age ref point)) := by
  unfold entries
  rw [List.length_map, length_deltaTimes]

theorem map_entries (room : ℕ) (point : PathPoint) :
    (entries ref room point).map CamPathPoint.pathDeltaTime =
      (deltaTimes room (age ref point)).map pathDeltaTime := by
  unfold entries
  rw [List.map_map]
  rfl

theorem totalWanted_append (earlier later : List PathPoint) :
    totalWanted ref (earlier ++ later) = totalWanted ref earlier + totalWanted ref later := by
  unfold totalWanted
  rw [List.map_append, List.sum_append]

theorem totalWanted_cons (point : PathPoint) (later : List PathPoint) :
    totalWanted ref (point :: later) = wanted (age ref point) + totalWanted ref later := by
  unfold totalWanted
  rw [List.map_cons, List.sum_cons]

theorem copyPoints_cons (room : ℕ) (point : PathPoint) (later : List PathPoint) :
    copyPoints ref room (point :: later) = entries ref room point ++
      copyPoints ref (room - (entries ref room point).length) later :=
  rfl

/-- **The limit**: as many entries as the points ask for, if there is room. -/
theorem length_copyPoints (room : ℕ) (points : List PathPoint) :
    (copyPoints ref room points).length = min room (totalWanted ref points) := by
  induction points generalizing room with
  | nil => exact (Nat.min_zero room).symm
  | cons point rest ih =>
    rw [copyPoints_cons, List.length_append, ih, length_entries, totalWanted_cons]
    omega

/-- The entries of a point behind others. -/
theorem copyPoints_append (room : ℕ) (earlier later : List PathPoint) :
    copyPoints ref room (earlier ++ later) =
      copyPoints ref room earlier ++ copyPoints ref (room - totalWanted ref earlier) later := by
  induction earlier generalizing room with
  | nil => rfl
  | cons point rest ih =>
    rw [List.cons_append, copyPoints_cons, copyPoints_cons, ih, List.append_assoc, length_entries,
      totalWanted_cons]
    congr 3
    omega

/-! ### When a path history is encoded -/

/-- **The entries of one point**: its place relative to the reference, and times that add up to its age,
unless the limit has cut them off. -/
structure Tells (ref : PathPoint) (total : ℕ) (point : PathPoint) (group : List CamPathPoint) : Prop where
  place : ∀ entry ∈ group, entry = { pathPoint ref point 0 with pathDeltaTime := entry.pathDeltaTime }
  times : (group.map CamPathPoint.pathDeltaTime).sum = age ref point / 10000 ∨
    (total = maxPathPoints ∧ (group.map CamPathPoint.pathDeltaTime).sum < age ref point / 10000)

/-- **An encoded path history.** -/
structure Encodes (ref : PathPoint) (points : List PathPoint) (written : List CamPathPoint) : Prop where
  limit : written.length ≤ maxPathPoints
  range : ∀ entry ∈ written, 1 ≤ entry.pathDeltaTime ∧ entry.pathDeltaTime ≤ 65535
  order : ∃ groups : List (List CamPathPoint), written = groups.flatten ∧
    List.Forall₂ (Tells ref written.length) points groups

/-- No point is younger than the reference; and of the age of every point whose entries are all within
the limit there remain at least 10 ms after full entries. -/
structure Encodable (ref : PathPoint) (points : List PathPoint) : Prop where
  past : ∀ point ∈ points, 0 ≤ age ref point
  rest : ∀ earlier point later, points = earlier ++ point :: later →
    totalWanted ref (earlier ++ [point]) ≤ maxPathPoints → 10000 ≤ age ref point % maxDeltaTime

theorem sum_replicate_full (count : ℕ) : (List.replicate count (65535 : ℤ)).sum = count * 65535 := by
  rw [List.sum_replicate, nsmul_eq_mul]

/-- The entries of a point tell its age, or as much of it as there is room for. -/
theorem tells_entries {room total : ℕ} (nonneg : 0 ≤ age ref point)
    (cut : room < wanted (age ref point) → total = maxPathPoints) :
    Tells ref total point (entries ref room point) := by
  have quotient : 0 ≤ age ref point / maxDeltaTime := Int.ediv_nonneg nonneg (by decide)
  constructor
  case place =>
    intro entry member
    obtain ⟨deltaTime, _, rfl⟩ := List.mem_map.mp member
    rfl
  case times =>
    rw [map_entries, deltaTimes_eq room nonneg]
    rcases le_or_gt (wanted (age ref point)) room with enough | few
    · left
      rw [if_pos enough, List.sum_append, sum_replicate_full, List.sum_singleton]
      unfold maxDeltaTime at *
      omega
    · rw [if_neg (not_le.mpr few), sum_replicate_full]
      have full : (room : ℤ) ≤ age ref point / maxDeltaTime := by
        unfold wanted at few
        rw [if_neg (not_lt.mpr nonneg)] at few
        omega
      have whole : (room : ℤ) * 65535 ≤ age ref point / 10000 := by
        unfold maxDeltaTime at full
        omega
      rcases whole.eq_or_lt with same | less
      · exact .inl same
      · exact .inr ⟨cut few, less⟩

/-- The groups of the entries, if no point is younger than the reference. -/
theorem exists_groups {total : ℕ} (room : ℕ) (points : List PathPoint)
    (past : ∀ point ∈ points, 0 ≤ age ref point)
    (cut : room < totalWanted ref points → total = maxPathPoints) :
    ∃ groups : List (List CamPathPoint), copyPoints ref room points = groups.flatten ∧
      List.Forall₂ (Tells ref total) points groups := by
  induction points generalizing room with
  | nil => exact ⟨[], rfl, .nil⟩
  | cons point rest ih =>
    rw [totalWanted_cons] at cut
    have length := @length_entries ref room point
    obtain ⟨groups, same, tells⟩ := ih (room - (entries ref room point).length)
      (fun other member => past other (List.mem_cons_of_mem point member)) (fun less => cut (by omega))
    refine ⟨entries ref room point :: groups, ?_, .cons ?_ tells⟩
    · rw [copyPoints_cons, same, List.flatten_cons]
    · exact tells_entries (past point List.mem_cons_self) fun few => cut (by omega)

theorem wanted_pos {age : ℤ} (nonneg : 0 ≤ age) : 0 < wanted age := by
  unfold wanted
  rw [if_neg (not_lt.mpr nonneg)]
  exact Nat.succ_pos _

/-- The time of every entry is full or what remains of an age. -/
theorem mem_copyPoints {entry : CamPathPoint} (room : ℕ) (points : List PathPoint)
    (past : ∀ point ∈ points, 0 ≤ age ref point) (member : entry ∈ copyPoints ref room points) :
    entry.pathDeltaTime = 65535 ∨ ∃ point ∈ points, ∃ earlier later, points = earlier ++ point :: later ∧
      totalWanted ref (earlier ++ [point]) ≤ room ∧
        entry.pathDeltaTime = age ref point % maxDeltaTime / 10000 := by
  induction points generalizing room with
  | nil => cases member
  | cons point rest ih =>
    have old := past point List.mem_cons_self
    have length := @length_entries ref room point
    rw [copyPoints_cons, List.mem_append] at member
    rcases member with here | behind
    · have time : entry.pathDeltaTime ∈ (entries ref room point).map CamPathPoint.pathDeltaTime :=
        List.mem_map_of_mem here
      rw [map_entries, deltaTimes_eq room old] at time
      split_ifs at time with enough
      · rcases List.mem_append.mp time with full | last
        · exact .inl (List.eq_of_mem_replicate full)
        · refine .inr ⟨point, List.mem_cons_self, [], rest, rfl, ?_, List.mem_singleton.mp last⟩
          rwa [List.nil_append, totalWanted_cons]
      · exact .inl (List.eq_of_mem_replicate time)
    · rcases ih _ (fun other inside => past other (List.mem_cons_of_mem point inside)) behind with
        full | ⟨other, inside, earlier, later, split, enough, time⟩
      · exact .inl full
      · refine .inr ⟨other, List.mem_cons_of_mem point inside, point :: earlier, later, ?_, ?_, time⟩
        · rw [split, List.cons_append]
        · have some := wanted_pos (past other (List.mem_cons_of_mem point inside))
          rw [totalWanted_append, totalWanted_cons] at enough
          rw [List.cons_append, totalWanted_cons, totalWanted_append, totalWanted_cons]
          omega

/-- What remains of an age is written, if there is room. -/
theorem exists_last (old : 0 ≤ age ref point) (points : List PathPoint)
    (split : points = earlier ++ point :: later)
    (enough : totalWanted ref (earlier ++ [point]) ≤ maxPathPoints) :
    ∃ entry ∈ copyPoints ref maxPathPoints points,
      entry.pathDeltaTime = age ref point % maxDeltaTime / 10000 := by
  rw [totalWanted_append, totalWanted_cons] at enough
  have room : wanted (age ref point) ≤ maxPathPoints - totalWanted ref earlier := by
    have none : totalWanted ref [] = 0 := rfl
    omega
  have time : age ref point % maxDeltaTime / 10000 ∈
      (entries ref (maxPathPoints - totalWanted ref earlier) point).map CamPathPoint.pathDeltaTime := by
    rw [map_entries, deltaTimes_eq _ old, if_pos room]
    exact List.mem_append_right _ (List.mem_singleton_self _)
  obtain ⟨entry, member, same⟩ := List.mem_map.mp time
  refine ⟨entry, ?_, same⟩
  rw [split, copyPoints_append, copyPoints_cons]
  exact List.mem_append_right _ (List.mem_append_left _ member)

theorem exists_group {total : ℕ} {groups : List (List CamPathPoint)}
    (tells : List.Forall₂ (Tells ref total) points groups) (member : point ∈ points) :
    ∃ group ∈ groups, Tells ref total point group := by
  induction tells with
  | nil => cases member
  | cons first _ ih =>
    rcases List.mem_cons.mp member with rfl | member
    · exact ⟨_, List.mem_cons_self, first⟩
    · obtain ⟨group, among, here⟩ := ih member
      exact ⟨group, List.mem_cons_of_mem _ among, here⟩

/-- In an encoded path history no point is younger than the reference. -/
theorem Encodes.past {written : List CamPathPoint} (encodes : Encodes ref points written)
    (point : PathPoint) (member : point ∈ points) : 0 ≤ age ref point := by
  obtain ⟨groups, same, tells⟩ := encodes.order
  obtain ⟨group, among, here⟩ := exists_group tells member
  have nonneg : 0 ≤ (group.map CamPathPoint.pathDeltaTime).sum := by
    refine List.sum_nonneg fun time member => ?_
    obtain ⟨entry, inside, rfl⟩ := List.mem_map.mp member
    have listed : entry ∈ written := same ▸ List.mem_flatten_of_mem among inside
    have range := (encodes.range entry listed).1
    omega
  rcases here.times with whole | ⟨_, less⟩
  · omega
  · omega

/-- **When a path history is encoded as it should be.** -/
theorem encodes_iff (history : PathHistory PathPoint) :
    Encodes history.getReferencePoint history.concise (copy history) ↔
      Encodable history.getReferencePoint history.concise := by
  constructor
  · intro encodes
    refine ⟨encodes.past, fun earlier point later split enough => ?_⟩
    have old := encodes.past point (split ▸ List.mem_append_right earlier List.mem_cons_self)
    obtain ⟨entry, member, same⟩ := exists_last old history.concise split enough
    have range := (encodes.range entry member).1
    omega
  · rintro ⟨past, rest⟩
    have length := @length_copyPoints history.getReferencePoint maxPathPoints history.concise
    constructor
    case limit => exact length.le.trans (Nat.min_le_left ..)
    case range =>
      intro entry member
      rcases mem_copyPoints maxPathPoints history.concise past member with
        full | ⟨point, _, earlier, later, split, enough, time⟩
      · omega
      · have some := rest earlier point later split enough
        have below := Int.emod_lt_of_pos (age history.getReferencePoint point) (show 0 < maxDeltaTime by decide)
        unfold maxDeltaTime at *
        omega
    case order =>
      refine exists_groups maxPathPoints history.concise past fun few => ?_
      show (copyPoints _ _ _).length = _
      omega

/-- A point that has just been recorded: its age is 0. -/
theorem not_encodes : ¬ ∀ (metric : Metric PathPoint ℚ) (samples : List PathPoint)
    (history : PathHistory PathPoint), PathHistory.run metric samples = some history →
      Encodes history.getReferencePoint history.concise (copy history) := by
  intro encodes
  let metric : Metric PathPoint ℚ := ⟨fun _ _ => 0, fun _ => 0, id, id, 0, fun _ _ => le_rfl⟩
  have range := (encodes metric [⟨0, 0, 0⟩] _ rfl).range (pathPoint ⟨0, 0, 0⟩ ⟨0, 0, 0⟩ 0) List.mem_cons_self
  exact absurd range.1 (by decide)

end Vanet.Facilities
