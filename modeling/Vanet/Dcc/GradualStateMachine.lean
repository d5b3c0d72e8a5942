/-
**`GradualStateMachine`, the reactive control with gradual transitions.**

The states are a set that is ordered by their lower limits. An update goes at most one state up or down.

* `update_toward`: an update goes one state towards the target of the channel load, and stays there.
* `gradual_state_machine_converges`: for a constant channel load the machine is at the target after as
  many updates as there are other states, from every state.
-/

import Mathlib.Data.Nat.Find
import Mathlib.Logic.Function.Iterate
import Vanet.Common.UnitInterval

namespace Vanet.Dcc

open Vanet.Common

namespace GradualStateMachine

/-- `GradualStateMachine::State`. -/
structure State where
  lowerLimit : ChannelLoad
  offTime : ℤ
  deriving DecidableEq

/-- `StateContainer`, a set in the order of the lower limits. -/
structure StateContainer where
  states : List State
  sorted : states.Pairwise fun lower higher => lower.lowerLimit < higher.lowerLimit

end GradualStateMachine

open GradualStateMachine

/-- **The state machine**, with the position of its current state. -/
structure GradualStateMachine where
  container : StateContainer
  current : ℕ
  inside : current < container.states.length

namespace GradualStateMachine

/-- `repair`: there is a state at least. -/
def StateContainer.repair (container : StateContainer) : StateContainer :=
  if container.states = [] then ⟨[⟨0, 0⟩], List.pairwise_singleton _ _⟩ else container

/-- A set with a state is left as it is. -/
theorem StateContainer.repair_of_ne_nil {container : StateContainer} (given : container.states ≠ []) :
    container.repair = container :=
  if_neg given

theorem StateContainer.repair_pos (container : StateContainer) : 0 < container.repair.states.length := by
  by_cases none_given : container.states = []
  · simp [repair, none_given]
  · rw [repair_of_ne_nil none_given]
    exact List.length_pos_iff.mpr none_given

/-- `GradualStateMachine(const StateContainer&)`. -/
def create (container : StateContainer) : GradualStateMachine :=
  ⟨container.repair, 0, container.repair_pos⟩

/-- The lower limit of the state at a position. -/
def limit (machine : GradualStateMachine) (i : ℕ) (inside : i < machine.container.states.length) :
    ChannelLoad :=
  (machine.container.states.get ⟨i, inside⟩).lowerLimit

def update (machine : GradualStateMachine) (cbr : ChannelLoad) : GradualStateMachine :=
  if cbr < machine.limit machine.current machine.inside then
    if machine.current ≠ 0 then
      { machine with
        current := machine.current - 1
        inside := (Nat.sub_le _ _).trans_lt machine.inside }
    else machine
  else if up : machine.current + 1 < machine.container.states.length then
    if cbr ≥ machine.limit (machine.current + 1) up then
      { machine with current := machine.current + 1, inside := up }
    else machine
  else machine

variable {machine : GradualStateMachine} {cbr : ChannelLoad}

theorem container_update (machine : GradualStateMachine) (cbr : ChannelLoad) :
    (machine.update cbr).container = machine.container := by
  unfold update
  split_ifs <;> rfl

/-- **An update goes to the same state or to one beside it.** -/
theorem update_gradual (machine : GradualStateMachine) (cbr : ChannelLoad) :
    (machine.update cbr).current = machine.current ∨
      (machine.update cbr).current = machine.current + 1 ∨
      (machine.update cbr).current + 1 = machine.current := by
  unfold update
  split_ifs with below notFirst
  · exact .inr (.inr (Nat.succ_pred notFirst))
  · exact .inl rfl
  · exact .inr (.inl rfl)
  · exact .inl rfl
  · exact .inl rfl

theorem limit_lt {i j : ℕ} (less : i < j) (inside : j < machine.container.states.length) :
    machine.limit i (less.trans inside) < machine.limit j inside :=
  List.pairwise_iff_getElem.mp machine.container.sorted i j (less.trans inside) inside less

/-! ### The target -/

/-- **The target of a channel load**: the state of the greatest lower limit that is not above it, or the
first state if there is none. -/
def IsTarget (machine : GradualStateMachine) (cbr : ChannelLoad) (i : ℕ) : Prop :=
  ∃ inside : i < machine.container.states.length,
    (machine.limit i inside ≤ cbr ∧ ∀ state ∈ machine.container.states,
      state.lowerLimit ≤ cbr → state.lowerLimit ≤ machine.limit i inside) ∨
    (i = 0 ∧ ∀ state ∈ machine.container.states, cbr < state.lowerLimit)

/-- The limits up to the target are not above the channel load, and the other ones are. -/
theorem IsTarget.le_iff {i j : ℕ} (target : machine.IsTarget cbr i)
    (inside : j < machine.container.states.length) (later : 0 < j) :
    machine.limit j inside ≤ cbr ↔ j ≤ i := by
  obtain ⟨within, ⟨reached, greatest⟩ | ⟨rfl, unreached⟩⟩ := target
  · constructor
    · intro notAbove
      by_contra beyond
      have largest := greatest _ (List.get_mem _ ⟨j, inside⟩) notAbove
      exact absurd largest (not_le.mpr (limit_lt (not_le.mp beyond) inside))
    · intro upTo
      rcases upTo.lt_or_eq with less | rfl
      · exact (limit_lt less within).le.trans reached
      · exact reached
  · refine iff_of_false (not_le.mpr ?_) (by omega)
    exact unreached _ (List.get_mem _ ⟨j, inside⟩)

/-- There is a target. -/
theorem exists_target (machine : GradualStateMachine) (cbr : ChannelLoad) :
    ∃ i, machine.IsTarget cbr i := by
  by_cases reached : ∃ i, ∃ inside : i < machine.container.states.length,
      machine.limit i inside ≤ cbr
  · classical
    set Below : ℕ → Prop := fun i =>
      ∃ inside : i < machine.container.states.length, machine.limit i inside ≤ cbr
    obtain ⟨i, inside, notAbove⟩ := reached
    have found : Below (Nat.findGreatest Below machine.container.states.length) :=
      Nat.findGreatest_spec inside.le ⟨inside, notAbove⟩
    obtain ⟨within, least⟩ := found
    refine ⟨_, within, .inl ⟨least, fun state member small => ?_⟩⟩
    obtain ⟨⟨j, present⟩, rfl⟩ := List.get_of_mem member
    have before : j ≤ Nat.findGreatest Below machine.container.states.length :=
      Nat.le_findGreatest present.le ⟨present, small⟩
    rcases before.lt_or_eq with less | same
    · exact (limit_lt less within).le
    · simp only [limit, ← same, le_refl]
  · refine ⟨0, (Nat.zero_le _).trans_lt machine.inside, .inr ⟨rfl, fun state member => ?_⟩⟩
    obtain ⟨⟨j, present⟩, rfl⟩ := List.get_of_mem member
    exact not_le.mp fun small => reached ⟨j, present, small⟩

/-- Where an update goes. -/
theorem current_update (machine : GradualStateMachine) (cbr : ChannelLoad) :
    (machine.update cbr).current =
      if cbr < machine.limit machine.current machine.inside then machine.current - 1
      else if ∃ up, machine.limit (machine.current + 1) up ≤ cbr then machine.current + 1
      else machine.current := by
  unfold update
  by_cases below : cbr < machine.limit machine.current machine.inside
  · rw [if_pos below, if_pos below]
    split_ifs with notFirst
    · rfl
    · omega
  · rw [if_neg below, if_neg below]
    by_cases up : machine.current + 1 < machine.container.states.length
    · rw [dif_pos up]
      by_cases reached : machine.limit (machine.current + 1) up ≤ cbr
      · rw [if_pos reached, if_pos ⟨up, reached⟩]
      · rw [if_neg reached, if_neg fun found => reached found.choose_spec]
    · rw [dif_neg up, if_neg fun found => up found.choose]

/-- **An update goes one state towards the target**, or stays there. -/
theorem update_toward {i : ℕ} (target : machine.IsTarget cbr i) :
    (machine.current < i → (machine.update cbr).current = machine.current + 1) ∧
      (machine.current = i → (machine.update cbr).current = i) ∧
      (i < machine.current → (machine.update cbr).current = machine.current - 1) := by
  have within : i < machine.container.states.length := target.1
  have higher : (∃ up, machine.limit (machine.current + 1) up ≤ cbr) ↔ machine.current + 1 ≤ i := by
    constructor
    · rintro ⟨up, reached⟩
      exact (target.le_iff up (Nat.succ_pos _)).mp reached
    · intro upTo
      exact ⟨upTo.trans_lt within, (target.le_iff _ (Nat.succ_pos _)).mpr upTo⟩
  rw [current_update]
  refine ⟨fun less => ?_, fun same => ?_, fun beyond => ?_⟩
  · have reached : machine.limit i within ≤ cbr := (target.le_iff within (by omega)).mpr (le_refl i)
    have notBelow : ¬ cbr < machine.limit machine.current machine.inside :=
      not_lt.mpr ((limit_lt less within).le.trans reached)
    rw [if_neg notBelow, if_pos (higher.mpr less)]
  · have top : ¬ ∃ up, machine.limit (machine.current + 1) up ≤ cbr := by
      rw [higher]
      omega
    rw [if_neg top]
    by_cases first : machine.current = 0
    · split_ifs <;> omega
    · have reached : machine.limit machine.current machine.inside ≤ cbr :=
        (target.le_iff machine.inside (Nat.pos_of_ne_zero first)).mpr same.le
      rw [if_neg (not_lt.mpr reached), same]
  · have below : cbr < machine.limit machine.current machine.inside := by
      rw [← not_le, target.le_iff machine.inside (by omega)]
      omega
    rw [if_pos below]

/-- The target only depends on the states. -/
theorem isTarget_update {i : ℕ} (target : machine.IsTarget cbr i) (load : ChannelLoad) :
    (machine.update load).IsTarget cbr i := by
  have same := container_update machine load
  unfold IsTarget limit at target ⊢
  rw [same]
  exact target

/-- The distance to the target shrinks with every update. -/
theorem iterate_near {i : ℕ} (n : ℕ) : ∀ {machine : GradualStateMachine}, machine.IsTarget cbr i →
    ((fun machine => update machine cbr)^[n] machine).current - i ≤ machine.current - i - n ∧
      i - ((fun machine => update machine cbr)^[n] machine).current ≤ i - machine.current - n := by
  induction n with
  | zero => exact fun _ => ⟨le_refl _, le_refl _⟩
  | succ n ih =>
    intro machine target
    obtain ⟨up, stays, down⟩ := update_toward target
    obtain ⟨above, below⟩ := ih (isTarget_update target cbr)
    rw [Function.iterate_succ_apply]
    rcases lt_trichotomy machine.current i with less | same | beyond
    · have moved := up less
      omega
    · have moved := stays same
      omega
    · have moved := down beyond
      omega

/-- **The machine is gradual, and it converges**: whatever its states and its current state are, every
update goes at most one state further, and a constant channel load brings the machine to its target
within as many updates as there are other states, and keeps it there. -/
theorem gradual_state_machine_converges (machine : GradualStateMachine) :
    (∀ cbr, (machine.update cbr).container = machine.container ∧
      ((machine.update cbr).current = machine.current ∨
        (machine.update cbr).current = machine.current + 1 ∨
        (machine.update cbr).current + 1 = machine.current)) ∧
    ∀ cbr, ∃ i, machine.IsTarget cbr i ∧ ∀ n, machine.container.states.length ≤ n + 1 →
      ((fun machine => update machine cbr)^[n] machine).current = i := by
  refine ⟨fun cbr => ⟨container_update machine cbr, update_gradual machine cbr⟩, fun cbr => ?_⟩
  obtain ⟨i, target⟩ := machine.exists_target cbr
  refine ⟨i, target, fun n enough => ?_⟩
  obtain ⟨above, below⟩ := iterate_near n target
  have within : i < machine.container.states.length := target.1
  have inside := machine.inside
  omega

end GradualStateMachine

end Vanet.Dcc
