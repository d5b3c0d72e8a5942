/-
**The test whether another vehicle is behind.**

`check` brings the bearing relative to the own heading into one turn by two corrections, each for one
side, and compares it with 180 degrees. The angles from -180 to -170 degrees are left where they are and
fail the comparison, so the test is that on the circle exactly outside of them (`check_circular_iff`).
-/

import Mathlib.Tactic.NormNum
import Vanet.Library.Circle
import Vanet.Simulator.Network

namespace Vanet.Simulator

open Vanet.Library

/-- **Behind**: on the circle the relative bearing is within 10 degrees of 180. -/
def Behind (bearing heading : ℚ) : Prop :=
  circularDistance 360 (reduce 360 (bearing - heading)) 180 ≤ 10

/-- The relative bearings that neither correction changes although they are behind. -/
def Unturned (bearing heading : ℚ) : Prop :=
  -180 ≤ bearing - heading ∧ bearing - heading ≤ -170

/-- **A station with a heading and the bearing to another one**, both within one turn. -/
structure Sees (world : World) (myInfo otherInfo : List ℚ) (bearing heading : ℚ) : Prop where
  infos : ∃ lat1 lon1 lat2 lon2 rest, myInfo = [lat1, lon1, heading] ∧
    otherInfo = lat2 :: lon2 :: rest ∧ world.calcBearing lat1 lon1 lat2 lon2 = bearing
  bearing_nonneg : 0 ≤ bearing
  bearing_lt : bearing < 360
  heading_nonneg : 0 ≤ heading
  heading_lt : heading < 360

/-- The relative bearing after the corrections. -/
def corrected (relativeBearing : ℚ) : ℚ :=
  let relativeBearing := if relativeBearing < -180 then 360 + relativeBearing else relativeBearing
  if relativeBearing > 180 then 360 - relativeBearing else relativeBearing

/-- The relative bearing is within one turn to either side. -/
theorem behind_iff {bearing heading : ℚ} (above : -360 < bearing - heading)
    (below : bearing - heading < 360) :
    Behind bearing heading ↔ (170 ≤ bearing - heading ∧ bearing - heading ≤ 190) ∨
      (-190 ≤ bearing - heading ∧ bearing - heading ≤ -170) := by
  have turn : (0 : ℚ) < 360 := by norm_num
  unfold Behind
  rw [circularDistance_reduce turn, circularDistance_le_iff turn]
  constructor
  · rintro ⟨turns, near⟩
    obtain ⟨lower, upper⟩ := abs_le.mp near
    have most : (turns : ℚ) < 1 := by linarith
    have least : (-2 : ℚ) < turns := by linarith
    have cases : turns = 0 ∨ turns = -1 := by
      have := Int.cast_lt (R := ℚ).mp (by exact_mod_cast most : (turns : ℚ) < (1 : ℤ))
      have := Int.cast_lt (R := ℚ).mp (by exact_mod_cast least : ((-2 : ℤ) : ℚ) < turns)
      omega
    rcases cases with rfl | rfl
    · left
      push_cast at lower upper
      constructor <;> linarith
    · right
      push_cast at lower upper
      constructor <;> linarith
  · rintro (⟨lower, upper⟩ | ⟨lower, upper⟩)
    · exact ⟨0, abs_le.mpr (by push_cast; constructor <;> linarith)⟩
    · exact ⟨-1, abs_le.mpr (by push_cast; constructor <;> linarith)⟩

/-- **The comparison after the corrections.** -/
theorem corrected_iff {bearing heading : ℚ} (above : -360 < bearing - heading)
    (below : bearing - heading < 360) :
    (corrected (bearing - heading) ≥ 170 ∧ corrected (bearing - heading) ≤ 190) ↔
      Behind bearing heading ∧ ¬ Unturned bearing heading := by
  rw [behind_iff above below]
  unfold corrected Unturned
  dsimp only
  by_cases left : bearing - heading < -180
  · -- the first correction gives a positive angle below 180
    have positive : ¬ 360 + (bearing - heading) > 180 := by linarith
    rw [if_pos left, if_neg positive]
    constructor
    · rintro ⟨lower, -⟩
      exact ⟨.inr ⟨by linarith, by linarith⟩, fun ⟨least, _⟩ => by linarith⟩
    · rintro ⟨⟨lower, -⟩ | ⟨lower, -⟩, -⟩
      · linarith
      · constructor <;> linarith
  · rw [if_neg left]
    by_cases right : bearing - heading > 180
    · rw [if_pos right]
      constructor
      · rintro ⟨lower, -⟩
        exact ⟨.inl ⟨by linarith, by linarith⟩, fun ⟨_, most⟩ => by linarith⟩
      · rintro ⟨⟨-, upper⟩ | ⟨-, upper⟩, -⟩
        · constructor <;> linarith
        · linarith
    · rw [if_neg right]
      constructor
      · rintro ⟨lower, upper⟩
        exact ⟨.inl ⟨lower, upper⟩, fun ⟨_, most⟩ => by linarith⟩
      · rintro ⟨⟨lower, upper⟩ | ⟨lower, upper⟩, turned⟩
        · exact ⟨lower, upper⟩
        · exact absurd ⟨by linarith, upper⟩ turned

section Views

variable {world world' : World} {myInfo otherInfo myInfo' otherInfo' : List ℚ}
variable {bearing heading bearing' heading' : ℚ}

/-- `check` on complete records. -/
theorem Sees.check_eq (sees : Sees world myInfo otherInfo bearing heading) :
    check world myInfo otherInfo =
      .ok (decide (corrected (bearing - heading) ≥ 170 ∧ corrected (bearing - heading) ≤ 190)) := by
  obtain ⟨lat1, lon1, lat2, lon2, rest, rfl, rfl, rfl⟩ := sees.infos
  rfl

/-- **`check` answers `True` for what is behind and was turned.** -/
theorem Sees.check_true_iff (sees : Sees world myInfo otherInfo bearing heading) :
    check world myInfo otherInfo = .ok true ↔
      Behind bearing heading ∧ ¬ Unturned bearing heading := by
  have above : -360 < bearing - heading := by
    linarith [sees.bearing_nonneg, sees.heading_lt]
  have below : bearing - heading < 360 := by
    linarith [sees.bearing_lt, sees.heading_nonneg]
  rw [sees.check_eq, Except.ok.injEq, decide_eq_true_eq]
  exact corrected_iff above below

/-- What is not turned is behind. -/
theorem Sees.behind_of_unturned (sees : Sees world myInfo otherInfo bearing heading)
    (unturned : Unturned bearing heading) : Behind bearing heading := by
  refine (behind_iff ?_ ?_).mpr (.inr ⟨?_, unturned.2⟩)
  · linarith [sees.bearing_nonneg, sees.heading_lt]
  · linarith [sees.bearing_lt, sees.heading_nonneg]
  · linarith [unturned.1]

/-- Two views in which the other vehicle is behind, or in which it is not, are answered alike exactly
if the corrections fail in both or in neither. -/
theorem Sees.check_eq_iff (sees : Sees world myInfo otherInfo bearing heading)
    (other : Sees world' myInfo' otherInfo' bearing' heading')
    (alike : Behind bearing' heading' ↔ Behind bearing heading) :
    check world' myInfo' otherInfo' = check world myInfo otherInfo ↔
      (Unturned bearing' heading' ↔ Unturned bearing heading) := by
  have here := sees.check_true_iff
  have there := other.check_true_iff
  have behindHere := sees.behind_of_unturned
  have behindThere := other.behind_of_unturned
  have same : check world' myInfo' otherInfo' = check world myInfo otherInfo ↔
      (check world' myInfo' otherInfo' = .ok true ↔ check world myInfo otherInfo = .ok true) := by
    rw [sees.check_eq, other.check_eq, Except.ok.injEq, Except.ok.injEq, Except.ok.injEq]
    exact Bool.eq_iff_iff
  rw [same, here, there, alike]
  constructor
  · intro agree
    constructor
    · intro unturned
      by_contra turned
      exact (agree.mpr ⟨alike.mp (behindThere unturned), turned⟩).2 unturned
    · intro unturned
      by_contra turned
      exact (agree.mp ⟨behindHere unturned, turned⟩).2 unturned
  · intro agree
    rw [agree]

/-- The mirror image is behind if the original is. -/
theorem behind_mirror (bearing heading : ℚ) :
    Behind (reduce 360 (-bearing)) (reduce 360 (-heading)) ↔ Behind bearing heading := by
  have turn : (0 : ℚ) < 360 := by norm_num
  unfold Behind
  rw [circularDistance_reduce turn, circularDistance_reduce turn]
  have image := reduce_sub_reduce turn (-bearing) (-heading) 0 180
  rw [add_zero, add_zero] at image
  rw [image, show -bearing - -heading = -(bearing - heading) by ring]
  -- 180 and -180 are the same angle
  have opposite : circularDistance (360 : ℚ) (-(bearing - heading)) 180 =
      circularDistance 360 (-(bearing - heading)) (-180) :=
    circularDistance_congr turn ⟨-1, by push_cast; ring⟩
  rw [opposite, circularDistance_neg turn]

/-- Where north lies does not matter for what is behind. -/
theorem behind_rotate (bearing heading angle : ℚ) :
    Behind (reduce 360 (bearing + angle)) (reduce 360 (heading + angle)) ↔
      Behind bearing heading := by
  have turn : (0 : ℚ) < 360 := by norm_num
  unfold Behind
  rw [circularDistance_reduce turn, circularDistance_reduce turn, reduce_sub_reduce turn]

/-- **When the test is circular.** `check` answers `True` exactly for what is behind if and only if
the relative bearing is not between -180 and -170 degrees. It answers alike for the mirror image, and
after a rotation of north, if and only if both views or neither have such a relative bearing. -/
theorem check_circular_iff (sees : Sees world myInfo otherInfo bearing heading) :
    ((check world myInfo otherInfo = .ok true ↔ Behind bearing heading) ↔
        ¬ Unturned bearing heading) ∧
      (∃ answer, check world myInfo otherInfo = .ok answer) ∧
      (Sees world' myInfo' otherInfo' (reduce 360 (-bearing)) (reduce 360 (-heading)) →
        (check world' myInfo' otherInfo' = check world myInfo otherInfo ↔
          (Unturned (reduce 360 (-bearing)) (reduce 360 (-heading)) ↔
            Unturned bearing heading))) ∧
      ∀ angle, Sees world' myInfo' otherInfo' (reduce 360 (bearing + angle))
          (reduce 360 (heading + angle)) →
        (check world' myInfo' otherInfo' = check world myInfo otherInfo ↔
          (Unturned (reduce 360 (bearing + angle)) (reduce 360 (heading + angle)) ↔
            Unturned bearing heading)) := by
  refine ⟨?_, ⟨_, sees.check_eq⟩, fun mirrored => ?_, fun angle rotated => ?_⟩
  · rw [sees.check_true_iff]
    constructor
    · intro circular unturned
      exact (circular.mpr (sees.behind_of_unturned unturned)).2 unturned
    · intro turned
      exact ⟨fun holds => holds.1, fun behind => ⟨behind, turned⟩⟩
  · exact sees.check_eq_iff mirrored (behind_mirror bearing heading)
  · exact sees.check_eq_iff rotated (behind_rotate bearing heading angle)

end Views

/-- Driving east with a vehicle in the west. -/
theorem sees_west : Sees equator [0, 1, 90] [0, 0] 270 90 :=
  ⟨⟨0, 1, 0, 0, [], rfl, rfl, by decide +kernel⟩, by norm_num, by norm_num, by norm_num, by norm_num⟩

/-- Driving west with a vehicle in the east. -/
theorem sees_east : Sees equator [0, 0, 270] [0, 1] 90 270 :=
  ⟨⟨0, 0, 0, 1, [], rfl, rfl, by decide +kernel⟩, by norm_num, by norm_num, by norm_num, by norm_num⟩

/-- A vehicle in the west is behind, and the answer to its mirror image is another one. -/
theorem check_circular_iff_west :
    (check equator [0, 1, 90] [0, 0] = .ok true ↔ Behind 270 90) ∧
      check equator [0, 0, 270] [0, 1] ≠ check equator [0, 1, 90] [0, 0] := by
  have mirrored : Sees equator [0, 0, 270] [0, 1] (reduce 360 (-270)) (reduce 360 (-90)) := by
    rw [show reduce 360 (-270) = (90 : ℚ) by decide +kernel,
      show reduce 360 (-90) = (270 : ℚ) by decide +kernel]
    exact sees_east
  obtain ⟨circular, -, mirror, -⟩ :=
    @check_circular_iff equator equator [0, 1, 90] [0, 0] [0, 0, 270] [0, 1] 270 90 sees_west
  refine ⟨circular.mpr fun unturned => ?_, fun alike => ?_⟩
  · exact absurd unturned.2 (by norm_num)
  · have unturned := ((mirror mirrored).mp alike).mp ⟨by decide +kernel, by decide +kernel⟩
    exact absurd unturned.2 (by norm_num)

/-- A vehicle exactly behind is not found when driving west. -/
theorem behind_missed :
    ¬ ∀ (world : World) (myInfo otherInfo : List ℚ) (bearing heading : ℚ),
      Sees world myInfo otherInfo bearing heading →
        (check world myInfo otherInfo = .ok true ↔ Behind bearing heading) := by
  intro circular
  have behind : Behind 90 270 := by
    unfold Behind
    decide +kernel
  have missed : check equator [0, 0, 270] [0, 1] ≠ .ok true := by decide +kernel
  exact missed ((circular _ _ _ _ _ sees_east).mpr behind)

end Vanet.Simulator
