/-
**Left and right turns in the path history.**

The heading differences of a mirrored path are the negated ones, up to a full circle. The algorithm
takes the plain difference of two headings and a radius with its sign: it sees the sagitta of a right
turn that does not cross north, a negative one for a left turn, and the one of the turn the other way
round for a left turn across north.

* `actualError_gt_iff`: what the algorithm decides of a curve.
* `exceeds_deltaPhi_iff`: which turns it sees.
* `treatsAlike_iff`: exactly when a path and its mirror image are treated alike.
-/

import Vanet.Facilities.PathHistory
import Vanet.Library.Sagitta

namespace Vanet.Facilities

open Vanet.Library PathHistory Real

/-- **A path**, by the numbers of its samples. Headings are less than a full circle. -/
structure Track where
  chordLength : ℕ → ℕ → ℝ
  heading : ℕ → ℝ
  chordLength_nonneg : ∀ first second, 0 ≤ chordLength first second
  heading_nonneg : ∀ sample, 0 ≤ heading sample
  heading_lt : ∀ sample, heading sample < π + π

namespace Track

/-- The algorithm with exact reals. -/
noncomputable def metric (track : Track) : Metric ℕ ℝ where
  chordLength := track.chordLength
  heading := track.heading
  sin := Real.sin
  cos := Real.cos
  smallDeltaPhi := π / 180
  chordLength_nonneg := track.chordLength_nonneg

/-- The concise points after the first samples. -/
noncomputable def concise (track : Track) (n : ℕ) : List ℕ :=
  (run track.metric (List.range n)).elim [] PathHistory.concise

/-- `delta_phi`: the plain difference of two headings. -/
def deltaPhi (track : Track) (starting next : ℕ) : ℝ := track.heading next - track.heading starting

/-- The turn between two headings, in either direction. -/
noncomputable def turn (track : Track) (starting next : ℕ) : ℝ :=
  min |track.deltaPhi starting next| (π + π - |track.deltaPhi starting next|)

/-- A turning angle takes the path off the chord by more than the allowable error. -/
def Exceeds (track : Track) (starting next : ℕ) (angle : ℝ) : Prop :=
  allowableError < sagitta (track.chordLength starting next) angle

/-- **The mirrored path**: it has the same lengths and the negated heading differences. -/
structure Mirrored (track other : Track) : Prop where
  chordLength : ∀ first second, other.chordLength first second = track.chordLength first second
  deltaPhi : ∀ first second, ∃ circles : ℤ,
    other.deltaPhi first second = -track.deltaPhi first second + circles * (2 * π)

/-- **A path and its mirror image are treated alike**, and a curve that leaves its chord by more than
the allowable error makes the latest but one sample a concise point. -/
structure TreatsAlike (track other : Track) : Prop where
  same : ∀ n, other.concise n = track.concise n
  curves : ∀ n start, (track.concise (n + 2)).head? = some start →
    track.Exceeds start (n + 2) (track.turn start (n + 2)) →
      (track.concise (n + 3)).head? = some (n + 1)

/-- The turn with its direction: to the right it is positive, to the left negative. -/
noncomputable def wrapped (track : Track) (starting next : ℕ) : ℝ :=
  if π < track.deltaPhi starting next then track.deltaPhi starting next - (π + π)
  else if track.deltaPhi starting next < -π then track.deltaPhi starting next + (π + π)
  else track.deltaPhi starting next

/-- The turn passes the heading north, where the headings start anew. -/
def CrossesNorth (track : Track) (starting next : ℕ) : Prop := π < |track.deltaPhi starting next|

/-- A right turn that does not cross north. -/
def RightOfNorth (track : Track) (starting next : ℕ) : Prop :=
  0 < track.wrapped starting next ∧ ¬ track.CrossesNorth starting next

/-- A left turn that crosses north. -/
def LeftAcrossNorth (track : Track) (starting next : ℕ) : Prop :=
  track.wrapped starting next < 0 ∧ track.CrossesNorth starting next

/-- At every sample from the third on, with a short chord from the latest concise point: if the turn leaves
the chord, each of the two paths turns right without crossing north or left across it. If only the rest of
the circle would leave the chord, neither path turns left across north. -/
def Even (track other : Track) : Prop :=
  ∀ n start, (track.concise (n + 2)).head? = some start →
    track.chordLength start (n + 2) ≤ chordLengthThreshold → ∀ path ∈ [track, other],
      (track.Exceeds start (n + 2) (track.turn start (n + 2)) →
        path.RightOfNorth start (n + 2) ∨ path.LeftAcrossNorth start (n + 2)) ∧
      (¬ track.Exceeds start (n + 2) (track.turn start (n + 2)) →
        track.Exceeds start (n + 2) (π + π - track.turn start (n + 2)) →
          ¬ path.LeftAcrossNorth start (n + 2))

/-! ### What the algorithm decides -/

variable (track other : Track)

theorem abs_deltaPhi_lt (starting next : ℕ) : |track.deltaPhi starting next| < 2 * π := by
  have first := track.heading_nonneg starting
  have second := track.heading_lt starting
  have third := track.heading_nonneg next
  have fourth := track.heading_lt next
  unfold deltaPhi
  rw [abs_lt]
  constructor <;> linarith

/-- **The error of the algorithm** is the sagitta of the plain difference. -/
theorem actualError_gt_iff (starting next : ℕ) :
    actualError track.metric starting next > allowableError ↔
      chordLengthThreshold < track.chordLength starting next ∨
        (track.chordLength starting next ≤ chordLengthThreshold ∧
          track.Exceeds starting next (track.deltaPhi starting next)) := by
  have small := track.abs_deltaPhi_lt starting next
  have nonneg := track.chordLength_nonneg starting next
  unfold actualError
  show (if track.chordLength starting next > chordLengthThreshold then _
    else if |track.deltaPhi starting next| < π / 180 then _ else _) > _ ↔ _
  by_cases far : track.chordLength starting next > chordLengthThreshold
  · rw [if_pos far]
    exact iff_of_true (lt_add_one _) (.inl far)
  have near := not_lt.mp far
  rw [if_neg far, or_iff_right far, and_iff_right near]
  unfold Exceeds
  by_cases slight : |track.deltaPhi starting next| < π / 180
  · rw [if_pos slight]
    refine iff_of_false (by unfold allowableError; norm_num) (not_lt.mpr ?_)
    have bound : (1 : ℝ) / 10 ≤ allowableError := by
      unfold allowableError
      norm_num
    rcases le_total 0 (track.deltaPhi starting next) with right | left
    · exact (sagitta_le_of_small nonneg near right (lt_of_abs_lt slight)).trans bound
    · have below := sagitta_nonpos nonneg left (neg_lt_of_abs_lt small)
      linarith
  · rw [if_neg slight]
    have turns : track.deltaPhi starting next ≠ 0 := by
      intro straight
      rw [straight, abs_zero] at slight
      exact slight (by positivity)
    have error := radius_sub_eq_sagitta (track.chordLength starting next) turns small
    exact (congrArg (fun value => value > allowableError) error).to_iff

/-! ### Turns and the plain difference of headings -/

variable {starting next : ℕ}

/-- The plain difference is the turn, unless this crosses north. -/
theorem wrapped_cases (starting next : ℕ) :
    (π < track.deltaPhi starting next ∧
        track.wrapped starting next = track.deltaPhi starting next - (π + π) ∧
        track.turn starting next = π + π - track.deltaPhi starting next) ∨
      (track.deltaPhi starting next < -π ∧
        track.wrapped starting next = track.deltaPhi starting next + (π + π)) ∨
      (|track.deltaPhi starting next| ≤ π ∧ track.wrapped starting next = track.deltaPhi starting next ∧
        track.turn starting next = |track.deltaPhi starting next|) := by
  have positive := pi_pos
  unfold wrapped turn
  by_cases above : π < track.deltaPhi starting next
  · rw [if_pos above, abs_of_pos (by linarith), min_eq_right (by linarith)]
    exact .inl ⟨above, rfl, rfl⟩
  rw [if_neg above]
  by_cases below : track.deltaPhi starting next < -π
  · rw [if_pos below]
    exact .inr (.inl ⟨below, rfl⟩)
  · have size : |track.deltaPhi starting next| ≤ π := abs_le.mpr ⟨not_lt.mp below, not_lt.mp above⟩
    rw [if_neg below, min_eq_left (by linarith)]
    exact .inr (.inr ⟨size, rfl, rfl⟩)

theorem rightOfNorth_iff :
    track.RightOfNorth starting next ↔
      0 < track.deltaPhi starting next ∧ track.deltaPhi starting next ≤ π := by
  have positive := pi_pos
  unfold RightOfNorth CrossesNorth
  rw [not_lt]
  rcases track.wrapped_cases starting next with
    ⟨above, _⟩ | ⟨below, _⟩ | ⟨size, wrapped, _⟩
  · refine iff_of_false (fun near => ?_) fun near => absurd above (not_lt.mpr near.2)
    exact absurd above (not_lt.mpr ((le_abs_self _).trans near.2))
  · refine iff_of_false (fun near => ?_) fun near => by linarith [near.1]
    linarith [(abs_le.mp near.2).1]
  · rw [wrapped]
    exact and_congr_right fun _ => iff_of_true size ((le_abs_self _).trans size)

theorem leftAcrossNorth_iff :
    track.LeftAcrossNorth starting next ↔ π < track.deltaPhi starting next := by
  obtain ⟨lower, upper⟩ := abs_lt.mp (track.abs_deltaPhi_lt starting next)
  unfold LeftAcrossNorth CrossesNorth
  rcases track.wrapped_cases starting next with
    ⟨above, wrapped, _⟩ | ⟨below, wrapped⟩ | ⟨size, _⟩
  · exact iff_of_true ⟨by linarith, above.trans_le (le_abs_self _)⟩ above
  · exact iff_of_false (fun left => by linarith [left.1]) (by linarith [pi_pos])
  · exact iff_of_false (fun left => absurd size (not_le.mpr left.2))
      (not_lt.mpr ((le_abs_self _).trans size))

/-- What the algorithm takes for a turn to the left never exceeds the error. -/
theorem deltaPhi_pos_of_exceeds (exceeds : track.Exceeds starting next (track.deltaPhi starting next)) :
    0 < track.deltaPhi starting next := by
  by_contra left
  have nonpos := sagitta_nonpos (track.chordLength_nonneg starting next) (not_lt.mp left)
    (neg_lt_of_abs_lt (track.abs_deltaPhi_lt starting next))
  have allowed : (0 : ℝ) < allowableError := by
    unfold allowableError
    norm_num
  exact absurd (exceeds.trans_le nonpos) (not_lt.mpr allowed.le)

/-- **What the algorithm sees**: a right turn that does not cross north as it is, and for a left turn across
north the rest of the circle. -/
theorem exceeds_deltaPhi_iff :
    track.Exceeds starting next (track.deltaPhi starting next) ↔
      (track.RightOfNorth starting next ∧ track.Exceeds starting next (track.turn starting next)) ∨
        (track.LeftAcrossNorth starting next ∧
          track.Exceeds starting next (π + π - track.turn starting next)) := by
  rw [rightOfNorth_iff, leftAcrossNorth_iff]
  rcases track.wrapped_cases starting next with
    ⟨above, _, turn⟩ | ⟨below, _⟩ | ⟨size, _, turn⟩
  · rw [turn, sub_sub_cancel, and_iff_right above, or_iff_right fun near => absurd above (not_lt.mpr near.1.2)]
  · have left : ¬ 0 < track.deltaPhi starting next := by linarith [pi_pos]
    refine iff_of_false (fun exceeds => left (track.deltaPhi_pos_of_exceeds exceeds)) ?_
    rintro (⟨⟨right, _⟩, _⟩ | ⟨above, _⟩)
    · exact left right
    · exact left (pi_pos.trans above)
  · have near := (le_abs_self _).trans size
    rw [or_iff_left fun far => absurd near (not_le.mpr far.1), turn]
    constructor
    · intro exceeds
      have right := track.deltaPhi_pos_of_exceeds exceeds
      exact ⟨⟨right, near⟩, by rwa [abs_of_pos right]⟩
    · rintro ⟨⟨right, _⟩, exceeds⟩
      rwa [abs_of_pos right] at exceeds

/-- A left turn across north that leaves the chord does so the other way round as well. -/
theorem LeftAcrossNorth.exceeds {track : Track} (left : track.LeftAcrossNorth starting next)
    (sharp : track.Exceeds starting next (track.turn starting next)) :
    track.Exceeds starting next (π + π - track.turn starting next) := by
  have above := track.leftAcrossNorth_iff.mp left
  have below := (abs_lt.mp (track.abs_deltaPhi_lt starting next)).2
  have positive := pi_pos
  have turn : track.turn starting next = π + π - track.deltaPhi starting next := by
    unfold Track.turn
    rw [abs_of_pos (by linarith), min_eq_right (by linarith)]
  refine lt_of_lt_of_le sharp (sagitta_mono (track.chordLength_nonneg _ _) ?_ ?_ ?_) <;> rw [turn] <;> linarith

/-! ### One sample after the other -/

theorem exists_concise (n : ℕ) :
    ∃ history, run track.metric (List.range n) = some history ∧ Holds (List.range n) history ∧
      track.concise n = history.concise := by
  obtain ⟨history, ran, holds⟩ := run_holds track.metric (List.range n)
  refine ⟨history, ran, holds, ?_⟩
  unfold concise
  rw [ran]
  rfl

theorem concise_few {n : ℕ} (few : n ≤ 1) : track.concise n = List.range n := by
  obtain ⟨history, _, holds, same⟩ := track.exists_concise n
  rw [same, holds.single (by rwa [List.length_range])]

theorem concise_two : track.concise 2 = [0] := by
  obtain ⟨history, _, holds, same⟩ := track.exists_concise 2
  have selected : history.concise.Sublist [0] := holds.selected (by simp)
  rw [same]
  exact selected.eq_of_length_le (List.length_pos_iff.mpr (holds.started (by simp)))

/-- The concise points are older than the latest sample. -/
theorem exists_start (n : ℕ) : ∃ start, (track.concise (n + 2)).head? = some start ∧ start ≤ n := by
  obtain ⟨history, _, holds, same⟩ := track.exists_concise (n + 2)
  have some := holds.started (by simp)
  have selected := holds.selected (by rw [List.length_range]; omega)
  refine ⟨_, by rw [same, List.head?_eq_some_head some], ?_⟩
  have member := selected.subset (List.head_mem some)
  rw [List.range_succ, List.reverse_append] at member
  exact Nat.le_of_lt_succ (List.mem_range.mp (List.mem_reverse.mp member))

/-- **The concise points after the third sample, and every further one.** -/
theorem concise_succ {n start : ℕ} (begins : (track.concise (n + 2)).head? = some start) :
    track.concise (n + 3) = cutPoints track.metric
      (if actualError track.metric start (n + 2) > allowableError then (n + 1) :: track.concise (n + 2)
        else track.concise (n + 2)) := by
  obtain ⟨history, ran, _, same⟩ := track.exists_concise (n + 2)
  obtain ⟨after, next, _, further⟩ := track.exists_concise (n + 3)
  rw [same] at begins ⊢
  rw [List.range_succ] at ran
  obtain ⟨result, found, points⟩ := run_full track.metric ran (by simp) (n + 2) begins
  rw [← List.range_succ, ← List.range_succ] at found
  obtain rfl := Option.some.inj (next.symm.trans found)
  rw [further, points]

/-- Whether the latest but one sample has become a concise point. -/
theorem head?_concise_succ {n start : ℕ} (begins : (track.concise (n + 2)).head? = some start) :
    (track.concise (n + 3)).head? = some (n + 1) ↔
      actualError track.metric start (n + 2) > allowableError := by
  obtain ⟨other, same, old⟩ := track.exists_start n
  obtain rfl := Option.some.inj (same.symm.trans begins)
  rw [track.concise_succ begins, head?_cutPoints]
  split_ifs with sharp
  · exact iff_of_true rfl sharp
  · rw [begins]
    refine iff_of_false (fun latest => ?_) sharp
    have equal := Option.some.inj latest
    omega

/-! ### Mirrored paths -/

variable {track other}

theorem Mirrored.exceeds (mirrored : Mirrored track other) {angle : ℝ} :
    other.Exceeds starting next angle ↔ track.Exceeds starting next angle := by
  unfold Exceeds
  rw [mirrored.chordLength]

/-- The difference of the headings in the mirrored path, out of three. -/
theorem Mirrored.deltaPhi_cases (mirrored : Mirrored track other) (starting next : ℕ) :
    other.deltaPhi starting next = -track.deltaPhi starting next ∨
      other.deltaPhi starting next = π + π - track.deltaPhi starting next ∨
      other.deltaPhi starting next = -(π + π) - track.deltaPhi starting next := by
  obtain ⟨lower, upper⟩ := abs_lt.mp (track.abs_deltaPhi_lt starting next)
  obtain ⟨lower', upper'⟩ := abs_lt.mp (other.abs_deltaPhi_lt starting next)
  obtain ⟨circles, mirror⟩ := mirrored.deltaPhi starting next
  rw [mirror] at lower' upper'
  have positive := pi_pos
  have less : (circles : ℝ) < 2 := by
    by_contra more
    nlinarith
  have more : (-2 : ℝ) < circles := by
    by_contra less
    nlinarith
  have below : circles < 2 := by exact_mod_cast less
  have above : -2 < circles := by exact_mod_cast more
  obtain rfl | rfl | rfl : circles = 0 ∨ circles = 1 ∨ circles = -1 := by omega
  · exact .inl (by rw [mirror]; push_cast; ring)
  · exact .inr (.inl (by rw [mirror]; push_cast; ring))
  · exact .inr (.inr (by rw [mirror]; push_cast; ring))

/-- **The turns of both paths** are equally large. -/
theorem Mirrored.turn (mirrored : Mirrored track other) :
    other.turn starting next = track.turn starting next := by
  obtain ⟨lower, upper⟩ := abs_lt.mp (other.abs_deltaPhi_lt starting next)
  unfold Track.turn
  rcases mirrored.deltaPhi_cases starting next with same | more | less
  · rw [same, abs_neg]
  · rw [more] at upper ⊢
    have mine : 0 < track.deltaPhi starting next := by linarith
    have bound := (abs_lt.mp (track.abs_deltaPhi_lt starting next)).2
    rw [abs_of_pos mine, abs_of_pos (by linarith), sub_sub_cancel, min_comm]
  · rw [less] at lower ⊢
    have mine : track.deltaPhi starting next < 0 := by linarith
    have bound := (abs_lt.mp (track.abs_deltaPhi_lt starting next)).1
    rw [abs_of_neg mine, abs_of_neg (by linarith), min_comm]
    congr 1 <;> ring

/-- At most one of the paths turns left. -/
theorem Mirrored.not_both (mirrored : Mirrored track other) (left : track.LeftAcrossNorth starting next) :
    ¬ other.LeftAcrossNorth starting next := by
  rw [leftAcrossNorth_iff] at left ⊢
  have positive := pi_pos
  rcases mirrored.deltaPhi_cases starting next with same | same | same <;>
    rw [same] <;> linarith

/-- **The decisions about a path and its mirror image agree**, and a curve is not missed: what this asks of
the turns. -/
theorem agree_iff (mirrored : Mirrored track other) :
    ((other.Exceeds starting next (other.deltaPhi starting next) ↔
        track.Exceeds starting next (track.deltaPhi starting next)) ∧
      (track.Exceeds starting next (track.turn starting next) →
        track.Exceeds starting next (track.deltaPhi starting next))) ↔
      ∀ path ∈ [track, other],
        (track.Exceeds starting next (track.turn starting next) →
          path.RightOfNorth starting next ∨ path.LeftAcrossNorth starting next) ∧
        (¬ track.Exceeds starting next (track.turn starting next) →
          track.Exceeds starting next (π + π - track.turn starting next) →
            ¬ path.LeftAcrossNorth starting next) := by
  have both : track.LeftAcrossNorth starting next → ¬ other.LeftAcrossNorth starting next := mirrored.not_both
  have mine : track.LeftAcrossNorth starting next → track.Exceeds starting next (track.turn starting next) →
      track.Exceeds starting next (π + π - track.turn starting next) := LeftAcrossNorth.exceeds
  have its : other.LeftAcrossNorth starting next → other.Exceeds starting next (other.turn starting next) →
      other.Exceeds starting next (π + π - other.turn starting next) := LeftAcrossNorth.exceeds
  rw [exceeds_deltaPhi_iff, exceeds_deltaPhi_iff, mirrored.turn, mirrored.exceeds, mirrored.exceeds]
  rw [mirrored.turn, mirrored.exceeds, mirrored.exceeds] at its
  rw [List.forall_mem_cons, List.forall_mem_singleton]
  by_cases sharp : track.Exceeds starting next (track.turn starting next)
  · -- a turn that leaves the chord is seen if and only if it is taken for a right turn
    simp only [sharp, forall_true_left, not_true_eq_false, false_implies, and_true] at mine its ⊢
    rw [and_iff_left_of_imp mine, and_iff_left_of_imp its]
    tauto
  · simp only [sharp, and_false, false_or, false_implies, true_and, and_true, not_false_eq_true,
      forall_true_left]
    constructor
    · intro same
      exact ⟨fun wide left => both left (same.mpr ⟨left, wide⟩).1,
        fun wide left => both (same.mp ⟨left, wide⟩).1 left⟩
    · rintro ⟨first, second⟩
      exact ⟨fun ⟨left, wide⟩ => absurd left (second wide), fun ⟨left, wide⟩ => absurd left (first wide)⟩

/-- **The decisions about a path and its mirror image** agree if those about the sagittas do. -/
theorem decision_iff (mirrored : Mirrored track other) {n start : ℕ}
    (agree : track.chordLength start n ≤ chordLengthThreshold →
      (other.Exceeds start n (other.deltaPhi start n) ↔ track.Exceeds start n (track.deltaPhi start n))) :
    actualError other.metric start n > allowableError ↔ actualError track.metric start n > allowableError := by
  rw [actualError_gt_iff, actualError_gt_iff, mirrored.chordLength]
  exact or_congr Iff.rfl (and_congr_right agree)

/-- **When a path and its mirror image are treated alike.** -/
theorem treatsAlike_iff (mirrored : Mirrored track other) : TreatsAlike track other ↔ Even track other := by
  constructor
  · rintro ⟨same, curves⟩ n start begins near
    have here := track.head?_concise_succ begins
    have there := other.head?_concise_succ ((congrArg List.head? (same (n + 2))).trans begins)
    rw [same] at there
    have agree := there.symm.trans here
    rw [actualError_gt_iff, actualError_gt_iff, mirrored.chordLength, and_iff_right near,
      and_iff_right near, or_iff_right (not_lt.mpr near), or_iff_right (not_lt.mpr near)] at agree
    refine (agree_iff mirrored).mp ⟨agree, fun exceeds => ?_⟩
    have sharp := here.mp (curves n start begins exceeds)
    rw [actualError_gt_iff, or_iff_right (not_lt.mpr near)] at sharp
    exact sharp.2
  · intro even
    constructor
    case same =>
      intro n
      induction n with
      | zero => rw [concise_few _ (by decide), concise_few _ (by decide)]
      | succ n ih =>
        rcases n with _ | _ | n
        · rw [concise_few _ (by decide), concise_few _ (by decide)]
        · rw [concise_two, concise_two]
        · obtain ⟨start, begins, _⟩ := track.exists_start n
          have agree := decision_iff mirrored fun near =>
            ((agree_iff mirrored).mpr (even n start begins near)).1
          have lengths : other.metric.chordLength = track.metric.chordLength :=
            funext fun first => funext (mirrored.chordLength first)
          rw [other.concise_succ ((congrArg List.head? ih).trans begins), track.concise_succ begins, ih,
            cutPoints_congr lengths]
          simp only [agree]
    case curves =>
      intro n start begins exceeds
      rw [track.head?_concise_succ begins, actualError_gt_iff]
      rcases lt_or_ge chordLengthThreshold (track.chordLength start (n + 2)) with far | near
      · exact .inl far
      · exact .inr ⟨near, ((agree_iff mirrored).mpr (even n start begins near)).2 exceeds⟩

/-- Samples with a chord of 20 m between any two of them, with one turn, at the third of them. -/
noncomputable def corner (before after : ℝ) (bounds : ∀ angle ∈ [before, after], 0 ≤ angle ∧ angle < π + π) :
    Track where
  chordLength := fun _ _ => 20.0
  heading := fun sample => if sample < 2 then before else after
  chordLength_nonneg := fun _ _ => by norm_num
  heading_nonneg := fun sample => by
    split_ifs
    · exact (bounds before (by simp)).1
    · exact (bounds after (by simp)).1
  heading_lt := fun sample => by
    split_ifs
    · exact (bounds before (by simp)).2
    · exact (bounds after (by simp)).2

theorem quarter_exceeds : allowableError < sagitta 20.0 (π / 2) := by
  have tangent := lt_tan (x := π / 2 / 4) (by positivity) (by linarith [pi_pos])
  have bound := pi_gt_three
  rw [sagitta_eq]
  unfold allowableError
  linarith

/-- By a quarter of a circle to the right, from north-east to south-east. -/
noncomputable def rightCorner : Track := corner (π / 4) (3 * (π / 4)) (by
  have positive := pi_pos
  rw [List.forall_mem_cons, List.forall_mem_singleton]
  constructor <;> constructor <;> linarith)

/-- To the left, from north-east across north to north-west. -/
noncomputable def leftCorner : Track := corner (π / 4) (7 * (π / 4)) (by
  have positive := pi_pos
  rw [List.forall_mem_cons, List.forall_mem_singleton]
  constructor <;> constructor <;> linarith)

theorem deltaPhi_rightCorner {starting next : ℕ} (ordered : starting ≤ next) :
    rightCorner.deltaPhi starting next = if starting < 2 ∧ 2 ≤ next then π / 2 else 0 := by
  show (if next < 2 then π / 4 else 3 * (π / 4)) - (if starting < 2 then π / 4 else 3 * (π / 4)) = _
  split_ifs <;> first | omega | ring

theorem deltaPhi_leftCorner {starting next : ℕ} (ordered : starting ≤ next) :
    leftCorner.deltaPhi starting next = if starting < 2 ∧ 2 ≤ next then 3 * (π / 2) else 0 := by
  show (if next < 2 then π / 4 else 7 * (π / 4)) - (if starting < 2 then π / 4 else 7 * (π / 4)) = _
  split_ifs <;> first | omega | ring

theorem corners_mirrored : Mirrored rightCorner leftCorner := by
  refine ⟨fun _ _ => rfl, fun first second => ?_⟩
  have circle : (if second < 2 then π / 4 else 7 * (π / 4)) - (if first < 2 then π / 4 else 7 * (π / 4)) =
      -((if second < 2 then π / 4 else 3 * (π / 4)) - (if first < 2 then π / 4 else 3 * (π / 4))) +
        (((if first < 2 then 0 else -1) - (if second < 2 then 0 else -1) : ℤ) : ℝ) * (2 * π) := by
    split_ifs <;> push_cast <;> ring
  exact ⟨_, circle⟩

theorem turn_rightCorner {starting next : ℕ} (ordered : starting ≤ next) :
    rightCorner.turn starting next = if starting < 2 ∧ 2 ≤ next then π / 2 else 0 := by
  have positive := pi_pos
  unfold turn
  rw [deltaPhi_rightCorner ordered]
  split_ifs
  · rw [abs_of_pos (by positivity), min_eq_left (by linarith)]
  · rw [abs_zero, sub_zero, min_eq_left (by linarith)]

theorem corners_even : Even rightCorner leftCorner := by
  have positive := pi_pos
  intro n start begins _
  obtain ⟨other, same, old⟩ := rightCorner.exists_start n
  obtain rfl := Option.some.inj (same.symm.trans begins)
  have ordered : other ≤ n + 2 := by omega
  rw [List.forall_mem_cons, List.forall_mem_singleton, rightOfNorth_iff, leftAcrossNorth_iff,
    rightOfNorth_iff, leftAcrossNorth_iff, turn_rightCorner ordered, deltaPhi_rightCorner ordered,
    deltaPhi_leftCorner ordered]
  by_cases turns : other < 2 ∧ 2 ≤ n + 2
  · rw [if_pos turns, if_pos turns]
    refine ⟨⟨fun _ => .inl ⟨by positivity, by linarith⟩, fun slight => ?_⟩,
      fun _ => .inr (by linarith), fun slight => ?_⟩ <;>
      exact absurd quarter_exceeds slight
  · rw [if_neg turns, if_neg turns]
    have straight : ¬ rightCorner.Exceeds other (n + 2) 0 := by
      unfold Exceeds allowableError
      rw [sagitta_eq, zero_div, tan_zero, mul_zero]
      norm_num
    exact ⟨⟨fun sharp => absurd sharp straight, fun _ _ => not_lt.mpr positive.le⟩,
      fun sharp => absurd sharp straight, fun _ _ => not_lt.mpr positive.le⟩

/-- **A right turn, and its mirror image across north**: the second sample becomes a concise point in both. -/
theorem treatsAlike_corner :
    TreatsAlike rightCorner leftCorner ∧ (leftCorner.concise 3).head? = some 1 := by
  have alike : TreatsAlike rightCorner leftCorner := (treatsAlike_iff corners_mirrored).mpr corners_even
  refine ⟨alike, ?_⟩
  rw [alike.same]
  refine alike.curves 0 0 (by rw [concise_two]; rfl) ?_
  rw [turn_rightCorner (Nat.zero_le _)]
  exact quarter_exceeds

/-- **A right turn and the left turn that mirrors it**: by a quarter of a circle, from the heading south. -/
theorem not_treatsAlike : ¬ ∀ track other : Track, Mirrored track other → TreatsAlike track other := by
  intro alike
  have positive := pi_pos
  let right := corner π (3 * (π / 2)) (by
    rw [List.forall_mem_cons, List.forall_mem_singleton]
    constructor <;> constructor <;> linarith)
  let left := corner π (π / 2) (by
    rw [List.forall_mem_cons, List.forall_mem_singleton]
    constructor <;> constructor <;> linarith)
  have mirrored : Mirrored right left := by
    refine ⟨fun _ _ => rfl, fun first second => ⟨0, ?_⟩⟩
    show (if second < 2 then π else π / 2) - (if first < 2 then π else π / 2) =
      -((if second < 2 then π else 3 * (π / 2)) - (if first < 2 then π else 3 * (π / 2))) +
        ((0 : ℤ) : ℝ) * (2 * π)
    split_ifs <;> push_cast <;> ring
  have start (track : Track) : (track.concise 2).head? = some 0 := by
    rw [concise_two]
    rfl
  have same := congrArg List.head? ((alike right left mirrored).same 3)
  have near : ¬ chordLengthThreshold < (20.0 : ℝ) := by
    unfold chordLengthThreshold
    norm_num
  have selected : (right.concise 3).head? = some 1 := by
    rw [right.head?_concise_succ (start right), actualError_gt_iff]
    refine .inr ⟨not_lt.mp near, ?_⟩
    have quarter : right.deltaPhi 0 2 = π / 2 := by
      show 3 * (π / 2) - π = π / 2
      ring
    rw [quarter]
    exact quarter_exceeds
  rw [selected, left.head?_concise_succ (start left), actualError_gt_iff] at same
  rcases same with far | ⟨_, exceeds⟩
  · exact near far
  · have turns := left.deltaPhi_pos_of_exceeds exceeds
    have quarter : left.deltaPhi 0 2 = -(π / 2) := by
      show π / 2 - π = -(π / 2)
      ring
    linarith

end Track

end Vanet.Facilities
