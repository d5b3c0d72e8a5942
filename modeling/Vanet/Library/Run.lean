/-
**Guarded runs of a transition system.**

A system is a partial step function `step : σ → α → Option σ`: `none` means that the action is
not enabled. `GuardedReach init step ok` are the states that a run reaches whose steps all meet
the condition `ok`, a condition on the state before the step and on the action.

* `GuardedReach.invariant`: what holds initially and is kept by every step that meets the
  condition holds in every state reached. Every invariant of this development goes through it.
* `GuardedReach.mono`: a run that meets a condition meets every weaker one.
* `run_reach`: an executed list of actions reaches a state; concrete runs are computed with it.
-/

import Mathlib.Tactic.SplitIfs

namespace Vanet.Library

variable {σ α : Type}

/-- **The states of the runs whose steps all meet `ok`.** -/
inductive GuardedReach (init : σ → Prop) (step : σ → α → Option σ) (ok : σ → α → Prop) : σ → Prop
  | start {first : σ} : init first → GuardedReach init step ok first
  | next {before after : σ} {action : α} : GuardedReach init step ok before → ok before action →
      step before action = some after → GuardedReach init step ok after

/-- The states of all runs. -/
abbrev Reachable (init : σ → Prop) (step : σ → α → Option σ) : σ → Prop :=
  GuardedReach init step fun _ _ => True

namespace GuardedReach

variable {init : σ → Prop} {step : σ → α → Option σ} {ok : σ → α → Prop}

/-- **The induction rule of a guarded run.** A step may use that its state was reached. -/
theorem invariant {I : σ → Prop} (base : ∀ first, init first → I first)
    (keep : ∀ before action after, GuardedReach init step ok before → I before →
      ok before action → step before action = some after → I after) :
    ∀ state, GuardedReach init step ok state → I state := by
  intro state reached
  induction reached with
  | start first => exact base _ first
  | next reached meets taken ih => exact keep _ _ _ reached ih meets taken

theorem mono {weaker : σ → α → Prop} (weaken : ∀ state action, ok state action → weaker state action)
    {state : σ} (reached : GuardedReach init step ok state) :
    GuardedReach init step weaker state := by
  induction reached with
  | start first => exact .start first
  | next _ meets taken ih => exact .next ih (weaken _ _ meets) taken

theorem reachable {state : σ} (reached : GuardedReach init step ok state) :
    Reachable init step state :=
  reached.mono fun _ _ _ => trivial

end GuardedReach

/-- Execute a list of actions as long as each of them meets the condition. -/
def run (step : σ → α → Option σ) (ok : σ → α → Prop) [∀ state action, Decidable (ok state action)] :
    σ → List α → Option σ
  | state, [] => some state
  | state, action :: rest =>
    if ok state action then (step state action).bind fun next => run step ok next rest else none

section Executed

variable (init : σ → Prop) (step : σ → α → Option σ) (ok : σ → α → Prop)
  [∀ state action, Decidable (ok state action)]

theorem run_reach_from (actions : List α) :
    ∀ {first last : σ}, GuardedReach init step ok first → run step ok first actions = some last →
      GuardedReach init step ok last := by
  induction actions with
  | nil =>
    intro first last reached done
    cases done
    exact reached
  | cons action rest ih =>
    intro first last reached done
    unfold run at done
    split_ifs at done with meets
    obtain ⟨next, taken, remaining⟩ := Option.bind_eq_some_iff.mp done
    exact ih (.next reached meets taken) remaining

/-- **An executed run reaches its last state**, and a decidable property of that state can be
computed. -/
theorem run_reach (P : σ → Prop) [DecidablePred P] {first : σ} (begins : init first)
    (actions : List α) (computed : (run step ok first actions).any (P ·) = true) :
    ∃ last, GuardedReach init step ok last ∧ P last := by
  obtain ⟨last, done, holds⟩ := (Option.any_eq_true _ _).mp computed
  exact ⟨last, run_reach_from init step ok actions (.start begins) done, of_decide_eq_true holds⟩

end Executed

end Vanet.Library
