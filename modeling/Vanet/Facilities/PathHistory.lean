/-
**The path history.**

The last three samples decide whether the middle one becomes a concise point: whether the path has left
the chord from the latest concise point by more than the allowable error. The concise points are then
cut behind a path of 200 m. Samples are of any type; a `Metric` says what the algorithm knows of them.

* `keepWithin_prefix`, `keepWithin_short`, `keepWithin_long`: what the cut keeps and what it erases.
* `addSample_some`: no assertion fails.
* `path_history`: the concise points of any samples.
-/

import Mathlib.Algebra.Order.Field.Basic
import Mathlib.Data.List.Induction
import Mathlib.Tactic.Linarith
import Vanet.Library.CircularBuffer

set_option linter.unusedSectionVars false

namespace Vanet.Facilities

open Vanet.Library

variable {α K : Type} [Field K] [LinearOrder K] [IsStrictOrderedRing K]

/-- **What the algorithm knows of path points**: lengths, headings, and the functions it uses. -/
structure Metric (α K : Type) [Field K] [LinearOrder K] where
  chordLength : α → α → K
  heading : α → K
  sin : K → K
  cos : K → K
  smallDeltaPhi : K
  chordLength_nonneg : ∀ first second, 0 ≤ chordLength first second

/-- `cAllowableError`, in metres. -/
def allowableError : K := 0.47

/-- `cChordLengthThreshold`, in metres. -/
def chordLengthThreshold : K := 22.5

/-- `cDistance`, in metres. -/
def cDistance : K := 200.0

/-- `PathHistory`: the samples and the concise points, the latest first. -/
structure PathHistory (α : Type) where
  samples : CircularBuffer α
  concise : List α

namespace PathHistory

/-- The constructor. -/
def new : PathHistory α := ⟨.empty 3, []⟩

variable (metric : Metric α K) (history : PathHistory α)

def starting : Option α := history.concise.head?

def previous : Option α := history.samples.items[1]?

def next : Option α := history.samples.items.head?

/-- The error of the chord from the starting point to the next one. -/
def actualError (starting next : α) : K :=
  let actualChordLength := metric.chordLength starting next
  if actualChordLength > chordLengthThreshold then allowableError + 1
  else
    let deltaPhi := metric.heading next - metric.heading starting
    if |deltaPhi| < metric.smallDeltaPhi then 0
    else
      let estimatedRadius := actualChordLength / (2.0 * metric.sin (deltaPhi * 0.5))
      let d := estimatedRadius * metric.cos (0.5 * deltaPhi)
      estimatedRadius - d

/-- `updateConcisePoints`. The accessors assert that there are points. -/
def updateConcisePoints : Option (PathHistory α) :=
  if history.samples.full then do
    let starting ← history.starting
    let next ← history.next
    if actualError metric starting next > allowableError then
      let previous ← history.previous
      some { history with concise := previous :: history.concise }
    else some history
  else some history

/-- The loop of `truncateConcisePoints`, behind a point up to which the path has a length. -/
def keepWithin (distance : K) (previous : α) : List α → List α
  | [] => []
  | current :: rest =>
    let distance := distance + metric.chordLength previous current
    if distance ≥ cDistance then [current] else current :: keepWithin distance current rest

/-- `truncateConcisePoints`. -/
def truncateConcisePoints : PathHistory α :=
  match history.concise with
  | previous :: rest =>
    if history.concise.length > 2 then { history with concise := previous :: keepWithin metric 0 previous rest }
    else history
  | [] => history

/-- The sample is stored; the first one is a concise point. -/
def store (point : α) : PathHistory α :=
  let history := { history with samples := history.samples.pushFront point }
  match history.concise with
  | [] => { history with concise := history.samples.items.head?.toList }
  | _ => history

/-- **`addSample`.** -/
def addSample (point : α) : Option (PathHistory α) := do
  let history ← updateConcisePoints metric (store history point)
  some (truncateConcisePoints metric history)

/-- The history of the samples. -/
def run (samples : List α) : Option (PathHistory α) := samples.foldlM (addSample metric) new

/-- The length of a path. -/
def pathLength : List α → K
  | first :: second :: rest => metric.chordLength first second + pathLength (second :: rest)
  | _ => 0

/-! ### The cut -/

variable {metric} {history}

theorem keepWithin_prefix (distance : K) (previous : α) (rest : List α) :
    previous :: keepWithin metric distance previous rest <+: previous :: rest := by
  induction rest generalizing distance previous with
  | nil => exact List.prefix_rfl
  | cons current rest ih =>
    unfold keepWithin
    dsimp only
    split_ifs
    · exact ⟨rest, rfl⟩
    · exact (List.prefix_cons_inj previous).mpr (ih _ current)

theorem pathLength_cons_cons (first second : α) (rest : List α) :
    pathLength metric (first :: second :: rest) =
      metric.chordLength first second + pathLength metric (second :: rest) :=
  rfl

/-- **What the cut keeps** is short without its last segment. -/
theorem keepWithin_short (metric : Metric α K) {distance : K} (short : distance < cDistance)
    (previous : α) (rest : List α) :
    distance + pathLength metric (previous :: keepWithin metric distance previous rest).dropLast <
      cDistance := by
  induction rest generalizing distance previous with
  | nil =>
    show distance + 0 < cDistance
    rwa [add_zero]
  | cons current rest ih =>
    unfold keepWithin
    dsimp only
    split_ifs with far
    · show distance + 0 < cDistance
      rwa [add_zero]
    · have further := ih (not_le.mp far) current
      cases kept : keepWithin metric (distance + metric.chordLength previous current) current rest with
      | nil =>
        show distance + 0 < cDistance
        rwa [add_zero]
      | cons next kept =>
        rw [kept] at further
        rw [List.dropLast_cons_cons, List.dropLast_cons_cons] at *
        rw [pathLength_cons_cons, ← add_assoc]
        exact further

theorem pathLength_nonneg (metric : Metric α K) (path : List α) : 0 ≤ pathLength metric path := by
  induction path with
  | nil => exact le_rfl
  | cons first rest ih =>
    cases rest with
    | nil => exact le_rfl
    | cons second rest =>
      rw [pathLength_cons_cons]
      exact add_nonneg (metric.chordLength_nonneg first second) ih

/-- **What the cut erases** lies behind a path that is long. -/
theorem keepWithin_long {distance : K} (previous : α) (rest : List α) (i : ℕ)
    (kept : (previous :: keepWithin metric distance previous rest).length ≤ i)
    (inside : i < (previous :: rest).length) :
    cDistance ≤ distance + pathLength metric ((previous :: rest).take i) := by
  induction rest generalizing distance previous i with
  | nil =>
    simp only [List.length_cons, List.length_nil] at kept inside
    omega
  | cons current rest ih =>
    unfold keepWithin at kept
    dsimp only at kept
    split_ifs at kept with far
    · obtain ⟨i, rfl⟩ : ∃ more, i = more + 2 := ⟨i - 2, by simp at kept; omega⟩
      rw [List.take_succ_cons, List.take_succ_cons, pathLength_cons_cons, ← add_assoc]
      have behind := pathLength_nonneg metric (current :: rest.take i)
      linarith
    · cases i with
      | zero => simp at kept
      | succ i =>
        rw [List.length_cons] at kept inside
        have further := ih current i (Nat.le_of_succ_le_succ kept) (Nat.lt_of_succ_lt_succ inside)
        cases i with
        | zero => simp at kept
        | succ i =>
          rw [List.take_succ_cons] at further
          rw [List.take_succ_cons, List.take_succ_cons, pathLength_cons_cons, ← add_assoc]
          exact further

/-- What the cut makes of the concise points. -/
def cutPoints (metric : Metric α K) : List α → List α
  | previous :: rest =>
    if (previous :: rest).length > 2 then previous :: keepWithin metric 0 previous rest else previous :: rest
  | [] => []

theorem truncate_concise (metric : Metric α K) (history : PathHistory α) :
    (truncateConcisePoints metric history).concise = cutPoints metric history.concise := by
  unfold truncateConcisePoints
  cases points : history.concise with
  | nil => exact points
  | cons previous rest =>
    unfold cutPoints
    dsimp only
    split_ifs
    · rfl
    · exact points

theorem head?_cutPoints (metric : Metric α K) (points : List α) :
    (cutPoints metric points).head? = points.head? := by
  unfold cutPoints
  split
  · split_ifs <;> rfl
  · rfl

/-- Two points are never cut. -/
theorem cutPoints_of_few (metric : Metric α K) {points : List α} (few : points.length ≤ 2) :
    cutPoints metric points = points := by
  unfold cutPoints
  split
  · exact if_neg (not_lt.mpr few)
  · rfl

/-- **The cut** keeps the latest points, and what it keeps is short without its last segment. -/
theorem truncate_spec (metric : Metric α K) (history : PathHistory α) :
    (truncateConcisePoints metric history).samples = history.samples ∧
      (truncateConcisePoints metric history).concise <+: history.concise ∧
      (2 < (truncateConcisePoints metric history).concise.length →
        pathLength metric (truncateConcisePoints metric history).concise.dropLast < cDistance) ∧
      ∀ i, (truncateConcisePoints metric history).concise.length ≤ i → i < history.concise.length →
        cDistance ≤ pathLength metric (history.concise.take i) := by
  unfold truncateConcisePoints
  split
  next previous rest points =>
    split_ifs with many
    · dsimp only
      rw [points]
      have positive : (0 : K) < cDistance := by
        unfold cDistance
        norm_num
      refine ⟨rfl, keepWithin_prefix 0 previous rest, fun _ => ?_, fun i kept inside => ?_⟩
      · have short := keepWithin_short metric positive previous rest
        rwa [zero_add] at short
      · have long := keepWithin_long previous rest i kept inside
        rwa [zero_add] at long
    · exact ⟨rfl, List.prefix_rfl, fun long => absurd long many, fun i kept inside =>
        absurd inside (not_lt.mpr kept)⟩
  next empty =>
    refine ⟨rfl, List.prefix_rfl, fun long => ?_, fun i kept inside => absurd inside (not_lt.mpr kept)⟩
    rw [empty] at long
    exact absurd long (Nat.not_lt_zero 2)

/-- The cut never erases the latest point. -/
theorem truncate_nonempty (some : history.concise ≠ []) :
    (truncateConcisePoints metric history).concise ≠ [] := by
  rw [truncate_concise, Ne, ← List.head?_eq_none_iff, head?_cutPoints, List.head?_eq_none_iff]
  exact some

/-! ### Runs -/

/-- **The history of some samples**, the oldest of them first. -/
structure Holds (samples : List α) (history : PathHistory α) : Prop where
  capacity : history.samples.capacity = 3
  items : history.samples.items = samples.reverse.take 3
  started : samples ≠ [] → history.concise ≠ []
  single : samples.length ≤ 1 → history.concise = samples
  selected : 2 ≤ samples.length → history.concise.Sublist (samples.reverse.drop 1)

variable {samples : List α}

theorem run_concat (metric : Metric α K) (samples : List α) (point : α) :
    run metric (samples ++ [point]) = (run metric samples).bind fun history => addSample metric history point := by
  unfold run
  rw [List.foldlM_append]
  simp only [List.foldlM_cons, List.foldlM_nil, bind_pure]
  rfl

/-- The run over one more sample. -/
theorem run_step {metric : Metric α K} {before updated : PathHistory α} {point : α}
    (ran : run metric samples = some before)
    (updates : updateConcisePoints metric (store before point) = some updated) :
    run metric (samples ++ [point]) = some (truncateConcisePoints metric updated) := by
  rw [run_concat, ran, Option.bind_some]
  unfold addSample
  rw [updates]
  rfl

theorem store_spec (holds : Holds samples history) (point : α) :
    (store history point).samples.capacity = 3 ∧
      (store history point).samples.items = (samples ++ [point]).reverse.take 3 ∧
      (store history point).concise = if samples = [] then [point] else history.concise := by
  have items : (history.samples.pushFront point).items = (samples ++ [point]).reverse.take 3 := by
    show (point :: history.samples.items).take history.samples.capacity = _
    rw [holds.capacity, holds.items, List.reverse_append, List.reverse_singleton, List.singleton_append,
      List.take_succ_cons, List.take_succ_cons, List.take_take]
    rfl
  unfold store
  dsimp only
  split
  next empty =>
    have none : samples = [] := by
      by_contra some
      exact holds.started some empty
    refine ⟨holds.capacity, items, ?_⟩
    subst none
    rw [if_pos rfl]
    dsimp only
    rw [items]
    rfl
  next some =>
    refine ⟨holds.capacity, items, ?_⟩
    rw [if_neg]
    rintro rfl
    exact some (holds.single (Nat.zero_le 1))

theorem full_store (holds : Holds samples history) (point : α) :
    (store history point).samples.full = true ↔ 2 ≤ samples.length := by
  obtain ⟨capacity, items, _⟩ := store_spec holds point
  unfold CircularBuffer.full
  rw [decide_eq_true_iff, capacity, items, List.length_take, List.length_reverse, List.length_append,
    List.length_singleton]
  omega

/-- **The decision about the middle sample**, as soon as there are three of them. -/
theorem update_full (metric : Metric α K) {earlier : List α} {middle : α}
    (holds : Holds (earlier ++ [middle]) history) (some : earlier ≠ []) (point : α) {start : α}
    (begins : history.concise.head? = .some start) :
    updateConcisePoints metric (store history point) = .some
      { store history point with
        concise := if actualError metric start point > allowableError then middle :: history.concise
          else history.concise } := by
  obtain ⟨_, items, concise⟩ := store_spec holds point
  rw [if_neg (List.append_ne_nil_of_right_ne_nil earlier (List.cons_ne_nil middle []))] at concise
  have latest : (store history point).samples.items = point :: middle :: earlier.reverse.take 1 := by
    rw [items, List.reverse_append, List.reverse_append]
    rfl
  have starting : (store history point).starting = .some start := by
    unfold starting
    rw [concise, begins]
  have next : (store history point).next = .some point := by
    unfold next
    rw [latest]
    rfl
  have previous : (store history point).previous = .some middle := by
    unfold previous
    rw [latest]
    rfl
  have full : (store history point).samples.full = true := by
    rw [full_store holds, List.length_append, List.length_singleton]
    have positive := List.length_pos_iff.mpr some
    omega
  unfold updateConcisePoints
  rw [if_pos full, starting, next, previous, ← concise]
  show (if _ then Option.some _ else Option.some _) = _
  split_ifs <;> rfl

/-- Without three samples there is no decision. -/
theorem update_few (metric : Metric α K) (holds : Holds samples history) (few : samples.length ≤ 1)
    (point : α) :
    updateConcisePoints metric (store history point) = some (store history point) := by
  unfold updateConcisePoints
  rw [if_neg]
  rw [full_store holds]
  omega

/-- **One more sample.** Points are only added, to the front; no assertion fails. -/
theorem update_spec (metric : Metric α K) (holds : Holds samples history) (point : α) :
    ∃ updated, updateConcisePoints metric (store history point) = some updated ∧
      history.concise <:+ updated.concise ∧ Holds (samples ++ [point]) updated := by
  obtain ⟨capacity, items, concise⟩ := store_spec holds point
  by_cases few : samples.length ≤ 1
  · refine ⟨_, update_few metric holds few point, ?_, capacity, items, fun _ => ?_, fun alone => ?_,
      fun two => ?_⟩
    · rw [concise]
      split_ifs with none
      · rw [holds.single few, none]
        exact List.nil_suffix
      · exact List.suffix_rfl
    · rw [concise]
      split_ifs with none
      · exact nofun
      · exact holds.started none
    · rw [List.length_append, List.length_singleton] at alone
      have none : samples = [] := List.eq_nil_of_length_eq_zero (by omega)
      rw [concise, if_pos none, none]
      rfl
    · rw [List.length_append, List.length_singleton] at two
      obtain ⟨only, rfl⟩ := List.length_eq_one_iff.mp (show samples.length = 1 by omega)
      rw [concise, if_neg (List.cons_ne_nil only []), holds.single few]
      exact List.Sublist.refl _
  have present : samples ≠ [] := by
    rintro rfl
    exact few (Nat.zero_le 1)
  obtain ⟨earlier, middle, rfl⟩ : ∃ earlier middle, samples = earlier ++ [middle] :=
    ⟨_, _, (List.dropLast_concat_getLast present).symm⟩
  rw [List.length_append, List.length_singleton] at few
  have some : earlier ≠ [] := by
    rintro rfl
    exact few le_rfl
  have nonempty := holds.started present
  have begins := List.head?_eq_some_head nonempty
  have selected : history.concise.Sublist earlier.reverse := by
    have before := holds.selected (by rw [List.length_append, List.length_singleton]; omega)
    rwa [List.reverse_append] at before
  have whole : (earlier ++ [middle] ++ [point]).reverse.drop 1 = middle :: earlier.reverse := by
    rw [List.reverse_append, List.reverse_append]
    rfl
  have long : ¬ (earlier ++ [middle] ++ [point]).length ≤ 1 := by
    rw [List.length_append, List.length_append, List.length_singleton, List.length_singleton]
    omega
  refine ⟨_, update_full metric holds some point begins, ?_, capacity, items, fun _ => ?_,
    fun alone => absurd alone long, fun _ => ?_⟩
  · dsimp only
    split_ifs
    · exact List.suffix_cons middle _
    · exact List.suffix_rfl
  · dsimp only
    split_ifs
    · exact List.cons_ne_nil _ _
    · exact nonempty
  · rw [whole]
    dsimp only
    split_ifs
    · exact selected.cons_cons middle
    · exact selected.cons middle

theorem Holds.sublist (holds : Holds samples history) : history.concise.Sublist samples.reverse := by
  rcases le_or_gt samples.length 1 with few | many
  · rw [holds.single few]
    rcases samples with _ | ⟨only, _ | ⟨second, more⟩⟩
    · exact List.Sublist.refl _
    · exact List.Sublist.refl _
    · simp at few
  · exact (holds.selected many).trans (List.drop_sublist 1 _)

theorem Holds.truncate (metric : Metric α K) (holds : Holds samples history) :
    Holds samples (truncateConcisePoints metric history) := by
  obtain ⟨same, kept, _⟩ := truncate_spec metric history
  refine ⟨same ▸ holds.capacity, same ▸ holds.items, fun some => truncate_nonempty (holds.started some),
    fun alone => ?_, fun two => kept.sublist.trans (holds.selected two)⟩
  rw [truncate_concise, holds.single alone, cutPoints_of_few metric (by omega)]

/-- **The run of the algorithm.** No assertion fails. -/
theorem run_holds (metric : Metric α K) (samples : List α) :
    ∃ history, run metric samples = some history ∧ Holds samples history := by
  induction samples using List.reverseRecOn with
  | nil => exact ⟨new, rfl, rfl, rfl, fun some => absurd rfl some, fun _ => rfl, nofun⟩
  | append_singleton earlier point ih =>
    obtain ⟨before, ran, holds⟩ := ih
    obtain ⟨updated, done, _, after⟩ := update_spec metric holds point
    exact ⟨_, run_step ran done, after.truncate metric⟩

/-- The cut depends on the lengths only. -/
theorem cutPoints_congr {other : Metric α K} (same : other.chordLength = metric.chordLength)
    (points : List α) : cutPoints other points = cutPoints metric points := by
  have loop (distance : K) (previous : α) (rest : List α) :
      keepWithin other distance previous rest = keepWithin metric distance previous rest := by
    induction rest generalizing distance previous with
    | nil => rfl
    | cons current rest ih =>
      unfold keepWithin
      dsimp only
      rw [same, ih]
  unfold cutPoints
  split
  · rw [loop]
  · rfl

/-- **The concise points after one more sample**, as soon as there are three of them. -/
theorem run_full (metric : Metric α K) {earlier : List α} {middle : α}
    (ran : run metric (earlier ++ [middle]) = some history) (some : earlier ≠ []) (point : α) {start : α}
    (begins : history.concise.head? = .some start) :
    ∃ after, run metric (earlier ++ [middle] ++ [point]) = .some after ∧
      after.concise = cutPoints metric
        (if actualError metric start point > allowableError then middle :: history.concise
          else history.concise) := by
  obtain ⟨_, found, holds⟩ := run_holds metric (earlier ++ [middle])
  rw [ran] at found
  obtain rfl := Option.some.inj found
  let updated : PathHistory α := { store history point with
    concise := if actualError metric start point > allowableError then middle :: history.concise
      else history.concise }
  exact ⟨truncateConcisePoints metric updated, run_step ran (update_full metric holds some point begins),
    truncate_concise metric updated⟩

/-- The history before a sample, and after it but before the cut. -/
structure Step (metric : Metric α K) (earlier : List α) (point : α) (before updated : PathHistory α) :
    Prop where
  ran : run metric earlier = some before
  updates : updateConcisePoints metric (store before point) = some updated
  cuts : run metric (earlier ++ [point]) = some (truncateConcisePoints metric updated)

theorem exists_step (metric : Metric α K) (earlier : List α) (point : α) :
    ∃ before updated, Step metric earlier point before updated ∧ Holds earlier before ∧
      Holds (earlier ++ [point]) updated ∧ before.concise <:+ updated.concise := by
  obtain ⟨before, ran, holds⟩ := run_holds metric earlier
  obtain ⟨updated, done, added, after⟩ := update_spec metric holds point
  exact ⟨before, updated, ⟨ran, done, run_step ran done⟩, holds, after, added⟩

/-- The cut erases a point when this sample is added. -/
def Erases (metric : Metric α K) (earlier : List α) (point : α) : Prop :=
  ∃ before updated, Step metric earlier point before updated ∧
    (truncateConcisePoints metric updated).concise ≠ updated.concise

/-- **The oldest sample** is there unless a cut has erased points. -/
theorem oldest (metric : Metric α K) (samples : List α) {history : PathHistory α}
    (ran : run metric samples = some history) :
    history.concise.getLast? = samples.head? ∨
      ∃ earlier point, earlier ++ [point] <+: samples ∧ Erases metric earlier point := by
  induction samples using List.reverseRecOn generalizing history with
  | nil =>
    cases ran
    exact .inl rfl
  | append_singleton earlier point ih =>
    obtain ⟨before, updated, step, holds, after, added⟩ := exists_step metric earlier point
    by_cases erased : (truncateConcisePoints metric updated).concise = updated.concise
    · rcases ih step.ran with same | ⟨first, cut, inside, erases⟩
      · left
        obtain rfl := Option.some.inj (step.cuts.symm.trans ran)
        rw [erased]
        cases earlier with
        | nil =>
          rw [after.single le_rfl]
          rfl
        | cons first more =>
          obtain ⟨front, whole⟩ := added
          rw [← whole, List.getLast?_append, same]
          rfl
      · exact .inr ⟨first, cut, inside.trans (List.prefix_append ..), erases⟩
    · exact .inr ⟨earlier, point, List.prefix_rfl, before, updated, step, erased⟩

/-- **The path is short** without its last segment. -/
theorem run_short (ran : run metric samples = some history) (many : 2 < history.concise.length) :
    pathLength metric history.concise.dropLast < cDistance := by
  cases samples using List.reverseRecOn with
  | nil =>
    cases ran
    exact absurd many (Nat.not_lt_zero 2)
  | append_singleton earlier point =>
    obtain ⟨_, updated, step, _⟩ := exists_step metric earlier point
    obtain rfl := Option.some.inj (step.cuts.symm.trans ran)
    exact (truncate_spec metric updated).2.2.1 many

/-- **The concise points of a path.** They are some of the samples, the latest first; the oldest sample
stays until a cut; the path without its last segment is shorter than 200 m if there are more than two
points, and a cut erases no point before the path up to its newer neighbour is that long. -/
theorem path_history (metric : Metric α K) (time : α → ℤ) (samples : List α)
    (ordered : samples.Pairwise fun older newer => time older ≤ time newer) :
    ∃ history, run metric samples = some history ∧ history.concise.Sublist samples.reverse ∧
      history.concise.Pairwise (fun newer older => time older ≤ time newer) ∧
      (history.concise.getLast? = samples.head? ∨
        ∃ earlier point, earlier ++ [point] <+: samples ∧ Erases metric earlier point) ∧
      (2 < history.concise.length → pathLength metric history.concise.dropLast < cDistance) ∧
      ∀ earlier point, earlier ++ [point] <+: samples →
        ∃ before updated, Step metric earlier point before updated ∧ before.concise <:+ updated.concise ∧
          (truncateConcisePoints metric updated).concise <+: updated.concise ∧
          ∀ i, (truncateConcisePoints metric updated).concise.length ≤ i → i < updated.concise.length →
            cDistance ≤ pathLength metric (updated.concise.take i) := by
  obtain ⟨history, ran, holds⟩ := run_holds metric samples
  have sublist := holds.sublist
  refine ⟨history, ran, sublist, (List.pairwise_reverse.mpr ordered).sublist sublist,
    oldest metric samples ran, run_short ran, ?_⟩
  · intro earlier point _
    obtain ⟨before, updated, step, _, _, added⟩ := exists_step metric earlier point
    obtain ⟨_, kept, _, long⟩ := truncate_spec metric updated
    exact ⟨before, updated, step, added, kept, long⟩

/-- Points that are 100 m apart. -/
def stride : Metric ℤ ℚ where
  chordLength := fun first second => |(first : ℚ) - second| * 100
  heading := fun _ => 0
  sin := id
  cos := id
  smallDeltaPhi := 1 / 60
  chordLength_nonneg := fun _ _ => mul_nonneg (abs_nonneg _) (by norm_num)

/-- Five samples on a straight road. -/
theorem path_history_stride : ∃ history, run stride [0, 1, 2, 3, 4] = some history ∧
    history.concise.Sublist [4, 3, 2, 1, 0] := by
  obtain ⟨history, ran, sublist, _⟩ := path_history stride id [0, 1, 2, 3, 4] (by decide)
  exact ⟨history, ran, sublist⟩

end PathHistory

end Vanet.Facilities
