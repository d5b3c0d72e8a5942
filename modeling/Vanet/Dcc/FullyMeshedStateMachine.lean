/-
**`FullyMeshedStateMachine`, the reactive control with hysteresis.**

The machine sees its channel load samples through two windows over one buffer: the least of the last
second's samples, and the greatest one of the last five seconds. Both functions read what the buffer has,
also while it has fewer samples.

* `le_minChannelLoad_iff`, `maxChannelLoad_lt_iff`: a threshold is reached by all samples of a window.
* `update_moves`: the transitions of an update and what they need, with assertions that hold.
* `hysteresis_iff`: the transitions are as slow as they should be if and only if the first sample is
  below the minimum threshold. A first sample above it leaves the relaxed state at once.
-/

import Vanet.Common.UnitInterval
import Vanet.Library.CircularBuffer
import Mathlib.Tactic.NormNum

namespace Vanet.Dcc

open Vanet.Common Vanet.Library

/-- `NDL_minDccSampling`. -/
def ndlMinDccSampling : ℕ := 100000

/-- `N_samples_up`: the samples of a second. -/
def nSamplesUp : ℕ := 1000000 / ndlMinDccSampling

/-- `N_samples_down`. -/
def nSamplesDown : ℕ := 5000000 / ndlMinDccSampling

/-- `NDL_minChannelLoad`. -/
def ndlMinChannelLoad : ℚ := 19 / 100

/-- `NDL_maxChannelLoad`. -/
def ndlMaxChannelLoad : ℚ := 59 / 100

/-! ### The active state -/

/-- `sc_substates`. -/
def scSubstates : ℕ := 5

/-- The channel loads at which the substates end. -/
def channelLoads : List ℚ := [27 / 100, 35 / 100, 43 / 100, 51 / 100, 59 / 100]

/-- `std::upper_bound` of an ascending list, as the distance from its beginning. -/
def upperBound (loads : List ℚ) (load : ℚ) : ℕ := (loads.takeWhile fun bound => ¬ load < bound).length

/-- `Active::update`, with the substate or a failed assertion. -/
def activeUpdate (minCl maxCl : ℚ) : Option ℕ :=
  if minCl ≤ maxCl then
    let stateUp := upperBound channelLoads minCl
    let stateDown := upperBound channelLoads maxCl
    let substate := min (scSubstates - 1) (max stateUp stateDown)
    if substate < scSubstates then some substate else none
  else none

/-- The assertion on the substate holds. -/
theorem activeUpdate_isSome {minCl maxCl : ℚ} (ordered : minCl ≤ maxCl) :
    ∃ substate < scSubstates, activeUpdate minCl maxCl = some substate := by
  have below : min (scSubstates - 1) (max (upperBound channelLoads minCl)
      (upperBound channelLoads maxCl)) < scSubstates :=
    (min_le_left _ _).trans_lt (by decide)
  refine ⟨_, below, ?_⟩
  unfold activeUpdate
  rw [if_pos ordered]
  exact if_pos below

/-! ### The machine -/

/-- What `m_state` points to. -/
inductive MeshedState
  | relaxed
  | active
  | restrictive
  deriving DecidableEq

structure FullyMeshedStateMachine where
  state : MeshedState
  /-- `m_substate` of the active state. -/
  substate : ℕ
  channelLoads : CircularBuffer ChannelLoad

namespace FullyMeshedStateMachine

def create : FullyMeshedStateMachine := ⟨.relaxed, 0, .empty (max nSamplesUp nSamplesDown)⟩

/-- The loop of `min_channel_load`. There is no least sample yet where the source has infinity. -/
def minLoop : List ChannelLoad → ℕ → Option ℚ → Option ℚ
  | [], _, minCl => minCl
  | sample :: rest, sampleCnt, minCl =>
    if sampleCnt ≥ nSamplesUp then minCl
    else if minCl.all fun minCl => sample.value < minCl then
      minLoop rest (sampleCnt + 1) (some sample.value)
    else minLoop rest (sampleCnt + 1) minCl

def minChannelLoad (samples : List ChannelLoad) : ℚ := (minLoop samples 0 none).getD 0

/-- The loop of `max_channel_load`. -/
def maxLoop : List ChannelLoad → ℕ → ℚ → ℚ
  | [], _, maxCl => maxCl
  | sample :: rest, sampleCnt, maxCl =>
    if sampleCnt ≥ nSamplesDown then maxCl
    else if sample.value > maxCl then maxLoop rest (sampleCnt + 1) sample.value
    else maxLoop rest (sampleCnt + 1) maxCl

def maxChannelLoad (samples : List ChannelLoad) : ℚ := maxLoop samples 0 0

/-- `m_state = &m_active` and `m_active.update`. -/
def activate (machine : FullyMeshedStateMachine) : Option FullyMeshedStateMachine :=
  (activeUpdate (minChannelLoad machine.channelLoads.items)
    (maxChannelLoad machine.channelLoads.items)).map fun substate =>
      { machine with state := .active, substate := substate }

/-- `update`; a failed assertion ends the run. -/
def update (machine : FullyMeshedStateMachine) (cl : ChannelLoad) : Option FullyMeshedStateMachine :=
  let machine := { machine with channelLoads := machine.channelLoads.pushFront cl }
  let minCl := minChannelLoad machine.channelLoads.items
  let maxCl := maxChannelLoad machine.channelLoads.items
  match machine.state with
  | .relaxed => if minCl ≥ ndlMinChannelLoad then machine.activate else some machine
  | .restrictive => if maxCl < ndlMaxChannelLoad then machine.activate else some machine
  | .active =>
    if maxCl < ndlMinChannelLoad then some { machine with state := .relaxed }
    else if minCl ≥ ndlMaxChannelLoad then some { machine with state := .restrictive }
    else machine.activate

/-- The machine after these samples. -/
def feed (samples : List ChannelLoad) : Option FullyMeshedStateMachine := samples.foldlM update create

/-! ### The windows -/

theorem le_minLoop_iff {threshold : ℚ} : ∀ (samples : List ChannelLoad) (sampleCnt : ℕ)
    (minCl : Option ℚ), (∀ least ∈ minLoop samples sampleCnt minCl, threshold ≤ least) ↔
      (∀ least ∈ minCl, threshold ≤ least) ∧
        ∀ sample ∈ samples.take (nSamplesUp - sampleCnt), threshold ≤ sample.value
  | [], _, _ => by simp [minLoop]
  | sample :: rest, sampleCnt, minCl => by
    unfold minLoop
    by_cases full : sampleCnt ≥ nSamplesUp
    · simp [full, Nat.sub_eq_zero_of_le full]
    · obtain ⟨left, more⟩ : ∃ left, nSamplesUp - sampleCnt = left + 1 :=
        Nat.exists_eq_succ_of_ne_zero (by omega)
      have next : nSamplesUp - (sampleCnt + 1) = left := by omega
      rw [if_neg full, more, List.take_succ_cons, List.forall_mem_cons]
      split_ifs with less
      · rw [le_minLoop_iff rest, next]
        cases minCl with
        | none => simp
        | some least =>
          have smaller : sample.value < least := by simpa using less
          constructor
          · rintro ⟨reached, others⟩
            have own : threshold ≤ sample.value := reached _ rfl
            exact ⟨fun _ same => by cases same; exact own.trans smaller.le, own, others⟩
          · rintro ⟨_, own, others⟩
            exact ⟨fun _ same => by cases same; exact own, others⟩
      · rw [le_minLoop_iff rest, next]
        cases minCl with
        | none => simp at less
        | some least =>
          have notSmaller : least ≤ sample.value := by simpa using less
          constructor
          · rintro ⟨reached, others⟩
            exact ⟨reached, (reached _ rfl).trans notSmaller, others⟩
          · rintro ⟨reached, _, others⟩
            exact ⟨reached, others⟩

/-- Once a sample has been looked at there is a least one. -/
theorem minLoop_isSome : ∀ (samples : List ChannelLoad) (sampleCnt : ℕ) (least : ℚ),
    ∃ after, minLoop samples sampleCnt (some least) = some after
  | [], _, least => ⟨least, rfl⟩
  | sample :: rest, sampleCnt, least => by
    unfold minLoop
    split_ifs
    · exact ⟨least, rfl⟩
    · exact minLoop_isSome rest _ _
    · exact minLoop_isSome rest _ _

/-- **The least sample of a second** reaches a threshold if all of them do. -/
theorem le_minChannelLoad_iff {threshold : ℚ} {samples : List ChannelLoad} (some_sample : samples ≠ []) :
    threshold ≤ minChannelLoad samples ↔
      ∀ sample ∈ samples.take nSamplesUp, threshold ≤ sample.value := by
  obtain ⟨sample, rest, rfl⟩ := List.exists_cons_of_ne_nil some_sample
  obtain ⟨least, found⟩ := minLoop_isSome rest 1 sample.value
  have loop : minLoop (sample :: rest) 0 none = some least := by
    unfold minLoop
    exact found
  have reached : (∀ least ∈ minLoop (sample :: rest) 0 none, threshold ≤ least) ↔ _ :=
    le_minLoop_iff (sample :: rest) 0 none
  unfold minChannelLoad
  rw [loop] at reached ⊢
  simpa using reached

theorem maxLoop_lt_iff {threshold : ℚ} : ∀ (samples : List ChannelLoad) (sampleCnt : ℕ) (maxCl : ℚ),
    maxLoop samples sampleCnt maxCl < threshold ↔
      maxCl < threshold ∧ ∀ sample ∈ samples.take (nSamplesDown - sampleCnt), sample.value < threshold
  | [], _, _ => by simp [maxLoop]
  | sample :: rest, sampleCnt, maxCl => by
    unfold maxLoop
    by_cases full : sampleCnt ≥ nSamplesDown
    · simp [full, Nat.sub_eq_zero_of_le full]
    · obtain ⟨left, more⟩ : ∃ left, nSamplesDown - sampleCnt = left + 1 :=
        Nat.exists_eq_succ_of_ne_zero (by omega)
      have next : nSamplesDown - (sampleCnt + 1) = left := by omega
      rw [if_neg full, more, List.take_succ_cons, List.forall_mem_cons]
      split_ifs with greater
      · rw [maxLoop_lt_iff rest, next]
        exact ⟨fun below => ⟨lt_trans greater below.1, below⟩, fun below => below.2⟩
      · rw [maxLoop_lt_iff rest, next]
        exact ⟨fun below => ⟨below.1, (not_lt.mp greater).trans_lt below.1, below.2⟩,
          fun below => ⟨below.1, below.2.2⟩⟩

/-- **The greatest sample of five seconds** is below a threshold if all of them are. -/
theorem maxChannelLoad_lt_iff {threshold : ℚ} (positive : 0 < threshold) {samples : List ChannelLoad} :
    maxChannelLoad samples < threshold ↔
      ∀ sample ∈ samples.take nSamplesDown, sample.value < threshold := by
  unfold maxChannelLoad
  rw [maxLoop_lt_iff]
  exact and_iff_right positive

/-- **The assertion of the active state** holds. -/
theorem minChannelLoad_le_max {samples : List ChannelLoad} (some_sample : samples ≠ []) :
    minChannelLoad samples ≤ maxChannelLoad samples := by
  by_contra less
  have nonneg : 0 ≤ maxChannelLoad samples := by
    unfold maxChannelLoad
    by_contra negative
    exact lt_irrefl _ ((maxLoop_lt_iff samples 0 0).mp (not_le.mp negative)).1
  have positive : 0 < minChannelLoad samples := nonneg.trans_lt (not_le.mp less)
  have above := (maxChannelLoad_lt_iff positive).mp (not_le.mp less)
  have below := (le_minChannelLoad_iff some_sample).mp le_rfl
  obtain ⟨sample, rest, rfl⟩ := List.exists_cons_of_ne_nil some_sample
  exact absurd (below sample List.mem_cons_self) (not_le.mpr (above sample List.mem_cons_self))

/-! ### Transitions -/

/-- **What an update needs to go from one state to another**, in terms of the samples it sees. -/
def Moves (window : List ChannelLoad) : MeshedState → MeshedState → Prop
  | .relaxed, .relaxed => ¬ ∀ sample ∈ window.take nSamplesUp, ndlMinChannelLoad ≤ sample.value
  | .relaxed, .active => ∀ sample ∈ window.take nSamplesUp, ndlMinChannelLoad ≤ sample.value
  | .relaxed, .restrictive => False
  | .active, .relaxed => ∀ sample ∈ window.take nSamplesDown, sample.value < ndlMinChannelLoad
  | .active, .active => True
  | .active, .restrictive => ∀ sample ∈ window.take nSamplesUp, ndlMaxChannelLoad ≤ sample.value
  | .restrictive, .relaxed => False
  | .restrictive, .active => ∀ sample ∈ window.take nSamplesDown, sample.value < ndlMaxChannelLoad
  | .restrictive, .restrictive =>
    ¬ ∀ sample ∈ window.take nSamplesDown, sample.value < ndlMaxChannelLoad

theorem activate_eq {machine : FullyMeshedStateMachine}
    (some_sample : machine.channelLoads.items ≠ []) :
    ∃ substate < scSubstates,
      machine.activate = some { machine with state := .active, substate := substate } := by
  obtain ⟨substate, below, updated⟩ := activeUpdate_isSome (minChannelLoad_le_max some_sample)
  refine ⟨substate, below, ?_⟩
  unfold activate
  rw [updated]
  rfl

theorem ndlMinChannelLoad_pos : 0 < ndlMinChannelLoad := by norm_num [ndlMinChannelLoad]

theorem min_le_max : ndlMinChannelLoad ≤ ndlMaxChannelLoad := by
  norm_num [ndlMinChannelLoad, ndlMaxChannelLoad]

/-- **An update** ends in a state that it may go to. -/
theorem update_moves (machine : FullyMeshedStateMachine) (cl : ChannelLoad)
    (some_sample : (machine.channelLoads.pushFront cl).items ≠ [])
    (within : machine.substate < scSubstates) :
    ∃ after, machine.update cl = some after ∧
      after.channelLoads = machine.channelLoads.pushFront cl ∧ after.substate < scSubstates ∧
      Moves (machine.channelLoads.pushFront cl).items machine.state after.state := by
  obtain ⟨state, substate, loads⟩ := machine
  dsimp only at some_sample within ⊢
  obtain ⟨next, below, activated⟩ := @activate_eq ⟨state, substate, loads.pushFront cl⟩ some_sample
  have least := fun threshold => @le_minChannelLoad_iff threshold _ some_sample
  have minPositive := ndlMinChannelLoad_pos
  have maxPositive := minPositive.trans_le min_le_max
  unfold update
  dsimp only at activated ⊢
  cases state with
  | relaxed =>
    dsimp only at activated ⊢
    by_cases reached : ndlMinChannelLoad ≤ minChannelLoad (loads.pushFront cl).items
    · exact ⟨⟨.active, next, loads.pushFront cl⟩, by rw [if_pos reached, activated], rfl, below,
        (least _).mp reached⟩
    · exact ⟨⟨.relaxed, substate, loads.pushFront cl⟩, if_neg reached, rfl, within,
        fun all => reached ((least _).mpr all)⟩
  | restrictive =>
    dsimp only at activated ⊢
    by_cases cooled : maxChannelLoad (loads.pushFront cl).items < ndlMaxChannelLoad
    · exact ⟨⟨.active, next, loads.pushFront cl⟩, by rw [if_pos cooled, activated], rfl, below,
        (maxChannelLoad_lt_iff maxPositive).mp cooled⟩
    · exact ⟨⟨.restrictive, substate, loads.pushFront cl⟩, if_neg cooled, rfl, within,
        fun all => cooled ((maxChannelLoad_lt_iff maxPositive).mpr all)⟩
  | active =>
    dsimp only at activated ⊢
    by_cases cooled : maxChannelLoad (loads.pushFront cl).items < ndlMinChannelLoad
    · exact ⟨⟨.relaxed, substate, loads.pushFront cl⟩, if_pos cooled, rfl, within,
        (maxChannelLoad_lt_iff minPositive).mp cooled⟩
    · by_cases reached : ndlMaxChannelLoad ≤ minChannelLoad (loads.pushFront cl).items
      · exact ⟨⟨.restrictive, substate, loads.pushFront cl⟩, by rw [if_neg cooled, if_pos reached],
          rfl, within, (least _).mp reached⟩
      · exact ⟨⟨.active, next, loads.pushFront cl⟩,
          by rw [if_neg cooled, if_neg reached, activated], rfl, below, trivial⟩

/-! ### Runs -/

/-- **What a machine knows about its samples.** A sample has reached the threshold of its state. -/
structure Fed (samples : List ChannelLoad) (machine : FullyMeshedStateMachine) : Prop where
  buffer : machine.channelLoads = samples.foldl CircularBuffer.pushFront
    (.empty (max nSamplesUp nSamplesDown))
  substate : machine.substate < scSubstates
  raised : machine.state ≠ .relaxed → ∃ sample ∈ samples, ndlMinChannelLoad ≤ sample.value
  loaded : machine.state = .restrictive → ∃ sample ∈ samples, ndlMaxChannelLoad ≤ sample.value

/-- The samples that an update sees. -/
theorem items_pushed (samples : List ChannelLoad) :
    (samples.foldl CircularBuffer.pushFront (.empty (max nSamplesUp nSamplesDown))).items =
      samples.reverse.take nSamplesDown :=
  (CircularBuffer.items_foldl_pushFront (max nSamplesUp nSamplesDown) samples).2

theorem Fed.update {samples : List ChannelLoad} {machine : FullyMeshedStateMachine}
    (fed : Fed samples machine) (cl : ChannelLoad) :
    ∃ after, machine.update cl = some after ∧ Fed (samples ++ [cl]) after ∧
      Moves ((samples ++ [cl]).reverse.take nSamplesDown) machine.state after.state := by
  have pushed : machine.channelLoads.pushFront cl =
      (samples ++ [cl]).foldl CircularBuffer.pushFront (.empty (max nSamplesUp nSamplesDown)) := by
    rw [List.foldl_append, ← fed.buffer]
    rfl
  have window : (machine.channelLoads.pushFront cl).items =
      (samples ++ [cl]).reverse.take nSamplesDown := by
    rw [pushed, items_pushed]
  have first : (samples ++ [cl]).reverse.take nSamplesDown =
      cl :: samples.reverse.take (nSamplesDown - 1) := by
    rw [List.reverse_append]
    rfl
  obtain ⟨after, updated, loads, below, moves⟩ := update_moves machine cl
    (by rw [window, first]; exact List.cons_ne_nil _ _) fed.substate
  rw [window] at moves
  -- the latest sample is in both windows
  have latest : ∀ threshold : ℚ,
      (∀ sample ∈ ((samples ++ [cl]).reverse.take nSamplesDown).take nSamplesUp,
        threshold ≤ sample.value) → ∃ sample ∈ samples ++ [cl], threshold ≤ sample.value := by
    intro threshold reached
    refine ⟨cl, List.mem_append_right _ (List.mem_singleton_self cl), reached cl ?_⟩
    rw [first]
    exact List.mem_cons_self
  have earlier : ∀ threshold : ℚ, (∃ sample ∈ samples, threshold ≤ sample.value) →
      ∃ sample ∈ samples ++ [cl], threshold ≤ sample.value :=
    fun threshold ⟨sample, member, reached⟩ =>
      ⟨sample, List.mem_append_left _ member, reached⟩
  refine ⟨after, updated, ⟨loads.trans pushed, below, ?_, ?_⟩, moves⟩
  · intro notRelaxed
    cases before : machine.state <;> cases now : after.state <;> rw [before, now] at moves
    · exact absurd now notRelaxed
    · exact latest _ moves
    · exact moves.elim
    · exact absurd now notRelaxed
    · exact earlier _ (fed.raised (by rw [before]; decide))
    · exact earlier _ (fed.raised (by rw [before]; decide))
    · exact moves.elim
    · exact earlier _ (fed.raised (by rw [before]; decide))
    · exact earlier _ (fed.raised (by rw [before]; decide))
  · intro restrictive
    rw [restrictive] at moves
    cases before : machine.state <;> rw [before] at moves
    · exact moves.elim
    · exact latest _ moves
    · exact earlier _ (fed.loaded before)

theorem feed_concat (samples : List ChannelLoad) (cl : ChannelLoad) :
    feed (samples ++ [cl]) = (feed samples).bind fun machine => machine.update cl := by
  unfold feed
  rw [List.foldlM_append]
  simp

/-- **No assertion fails** in any run. -/
theorem fed_feed (samples : List ChannelLoad) : ∃ machine, feed samples = some machine ∧ Fed samples machine := by
  induction samples using List.reverseRecOn with
  | nil => exact ⟨create, rfl, rfl, by decide, by simp [create], by simp [create]⟩
  | append_singleton earlier cl ih =>
    obtain ⟨machine, done, fed⟩ := ih
    obtain ⟨after, updated, next, _⟩ := fed.update cl
    exact ⟨after, by rw [feed_concat, done]; exact updated, next⟩

/-! ### Hysteresis -/

/-- **The last samples are all there**, and each one is as it should be. -/
def Sustained (count : ℕ) (fits : ChannelLoad → Prop) (samples : List ChannelLoad) : Prop :=
  count ≤ samples.length ∧ ∀ sample ∈ samples.reverse.take count, fits sample

/-- **A transition with hysteresis**, after these samples. -/
structure Deferred (samples : List ChannelLoad) (before after : MeshedState) : Prop where
  leavesRelaxed : before = .relaxed → after ≠ .relaxed →
    Sustained nSamplesUp (fun sample => ndlMinChannelLoad ≤ sample.value) samples
  entersRestrictive : before ≠ .restrictive → after = .restrictive →
    Sustained nSamplesUp (fun sample => ndlMaxChannelLoad ≤ sample.value) samples
  leavesRestrictive : before = .restrictive → after ≠ .restrictive →
    Sustained nSamplesDown (fun sample => sample.value < ndlMaxChannelLoad) samples
  returnsRelaxed : before ≠ .relaxed → after = .relaxed →
    Sustained nSamplesDown (fun sample => sample.value < ndlMinChannelLoad) samples
  gradual : ¬ (before = .relaxed ∧ after = .restrictive) ∧ ¬ (before = .restrictive ∧ after = .relaxed)

/-- **Hysteresis** in a run from construction: no assertion fails, and every transition is deferred. -/
def Hysteresis (samples : List ChannelLoad) : Prop :=
  ∀ earlier cl, earlier ++ [cl] <+: samples → ∃ before after, feed earlier = some before ∧
    before.update cl = some after ∧ after.substate < scSubstates ∧
    Deferred (earlier ++ [cl]) before.state after.state

/-- The window is full once there is a sample that it does not have. -/
theorem Sustained.of_window {count : ℕ} {fits : ChannelLoad → Prop} {samples : List ChannelLoad}
    (other : ∃ sample ∈ samples, ¬ fits sample) (window : ∀ sample ∈ samples.reverse.take count, fits sample) :
    Sustained count fits samples := by
  refine ⟨?_, window⟩
  by_contra short
  obtain ⟨sample, member, misfit⟩ := other
  have whole : samples.reverse.take count = samples.reverse :=
    List.take_of_length_le (by rw [List.length_reverse]; omega)
  exact misfit (window sample (by rw [whole, List.mem_reverse]; exact member))

/-- **The transitions of an update** are deferred when there has been a sample on the other side of each
threshold. -/
theorem Deferred.of_moves {samples : List ChannelLoad} {before after : MeshedState}
    (moves : Moves (samples.reverse.take nSamplesDown) before after)
    (low : ∃ sample ∈ samples, sample.value < ndlMinChannelLoad)
    (raised : before ≠ .relaxed → ∃ sample ∈ samples, ndlMinChannelLoad ≤ sample.value)
    (loaded : before = .restrictive → ∃ sample ∈ samples, ndlMaxChannelLoad ≤ sample.value) :
    Deferred samples before after := by
  obtain ⟨least, member, below⟩ := low
  have up : (samples.reverse.take nSamplesDown).take nSamplesUp = samples.reverse.take nSamplesUp := by
    rw [List.take_take]
    rfl
  have down : (samples.reverse.take nSamplesDown).take nSamplesDown = samples.reverse.take nSamplesDown := by
    rw [List.take_take]
    rfl
  constructor
  · rintro rfl left
    cases after with
    | relaxed => exact absurd rfl left
    | active =>
      simp only [Moves, up] at moves
      exact .of_window ⟨least, member, not_le.mpr below⟩ moves
    | restrictive => exact moves.elim
  · rintro other rfl
    cases before with
    | relaxed => exact moves.elim
    | active =>
      simp only [Moves, up] at moves
      exact .of_window ⟨least, member, not_le.mpr (below.trans_le min_le_max)⟩ moves
    | restrictive => exact absurd rfl other
  · rintro rfl left
    obtain ⟨sample, member, reached⟩ := loaded rfl
    cases after with
    | relaxed => exact moves.elim
    | active =>
      simp only [Moves, down] at moves
      exact .of_window ⟨sample, member, not_lt.mpr reached⟩ moves
    | restrictive => exact absurd rfl left
  · rintro other rfl
    obtain ⟨sample, member, reached⟩ := raised other
    cases before with
    | relaxed => exact absurd rfl other
    | active =>
      simp only [Moves, down] at moves
      exact .of_window ⟨sample, member, not_lt.mpr reached⟩ moves
    | restrictive => exact moves.elim
  · constructor <;> rintro ⟨rfl, rfl⟩ <;> exact moves.elim

/-- A first sample that reaches the threshold leaves the relaxed state. -/
theorem update_create_first {cl : ChannelLoad} (reached : ndlMinChannelLoad ≤ cl.value) :
    ∃ after, create.update cl = some after ∧ after.state ≠ .relaxed := by
  obtain ⟨after, updated, _, _, moves⟩ := update_moves create cl (List.cons_ne_nil _ _) (by decide)
  refine ⟨after, updated, fun relaxed => ?_⟩
  rw [relaxed] at moves
  refine moves fun sample member => ?_
  rw [List.mem_singleton.mp (List.mem_of_mem_take member)]
  exact reached

/-- **Hysteresis**, if and only if the first sample is below the threshold of the relaxed state. -/
theorem hysteresis_iff (samples : List ChannelLoad) :
    Hysteresis samples ↔ ∀ first ∈ samples.head?, first.value < ndlMinChannelLoad := by
  constructor
  · intro hysteresis first member
    obtain ⟨rest, rfl⟩ := List.head?_eq_some_iff.mp member
    by_contra reached
    obtain ⟨left, updated, notRelaxed⟩ := update_create_first (not_lt.mp reached)
    obtain ⟨before, after, fed, moved, _, deferred⟩ := hysteresis [] first ⟨rest, rfl⟩
    cases fed
    rw [updated] at moved
    cases moved
    have present : nSamplesUp ≤ 1 := (deferred.leavesRelaxed rfl notRelaxed).1
    exact absurd present (by decide)
  · rintro low earlier cl ⟨later, rfl⟩
    obtain ⟨before, done, fed⟩ := fed_feed earlier
    obtain ⟨after, updated, next, moves⟩ := fed.update cl
    refine ⟨before, after, done, updated, next.substate, .of_moves moves ?_ ?_ ?_⟩
    · cases earlier with
      | nil => exact ⟨cl, List.mem_singleton_self cl, low cl rfl⟩
      | cons first rest => exact ⟨first, List.mem_cons_self, low first rfl⟩
    · intro other
      obtain ⟨sample, member, reached⟩ := fed.raised other
      exact ⟨sample, List.mem_append_left _ member, reached⟩
    · intro restrictive
      obtain ⟨sample, member, reached⟩ := fed.loaded restrictive
      exact ⟨sample, List.mem_append_left _ member, reached⟩

/-- A single sample of one fifth makes the machine active. -/
theorem not_hysteresis : ¬ Hysteresis [.ofValue (1 / 5)] := by
  intro hysteresis
  obtain ⟨left, updated, notRelaxed⟩ := @update_create_first (.ofValue (1 / 5))
    (by norm_num [ndlMinChannelLoad, UnitInterval.ofValue, UnitInterval.clampValue])
  obtain ⟨before, after, fed, moved, _, deferred⟩ := hysteresis [] _ (List.prefix_refl _)
  cases fed
  rw [updated] at moved
  cases moved
  have present : nSamplesUp ≤ 1 := (deferred.leavesRelaxed rfl notRelaxed).1
  exact absurd present (by decide)

end FullyMeshedStateMachine

end Vanet.Dcc
