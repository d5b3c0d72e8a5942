/-
**Observational equality of two machines.**

A machine answers each action with an observation and moves to a next state. Where a simulation
relates the states of two machines as long as a condition on the first one's steps is met, and the
answers differ at the first step that does not meet it, the two machines answer a list of actions
alike if and only if all steps meet the condition (`observe_eq_iff`).
-/

import Mathlib.Tactic.Common

namespace Vanet.Library

variable {σ ρ α β : Type}

/-- The answers to a list of actions. -/
def observe (step : σ → α → β × σ) : σ → List α → List β
  | _, [] => []
  | state, action :: rest => (step state action).1 :: observe step (step state action).2 rest

/-- The state after a list of actions. -/
def outcome (step : σ → α → β × σ) (state : σ) (actions : List α) : σ :=
  actions.foldl (fun state action => (step state action).2) state

/-- Every step of the run meets the condition. -/
def Meets (step : σ → α → β × σ) (ok : σ → α → Prop) : σ → List α → Prop
  | _, [] => True
  | state, action :: rest => ok state action ∧ Meets step ok (step state action).2 rest

section Concat

variable {step : σ → α → β × σ} {ok : σ → α → Prop} {actions : List α} {last : α}

theorem outcome_concat {state : σ} :
    outcome step state (actions ++ [last]) = (step (outcome step state actions) last).2 := by
  unfold outcome
  rw [List.foldl_append, List.foldl_cons, List.foldl_nil]

theorem observe_concat : ∀ {state : σ}, observe step state (actions ++ [last]) =
    observe step state actions ++ [(step (outcome step state actions) last).1] := by
  induction actions with
  | nil => exact rfl
  | cons action rest ih => exact congrArg (_ :: ·) ih

theorem meets_concat : ∀ {state : σ}, Meets step ok state (actions ++ [last]) ↔
    Meets step ok state actions ∧ ok (outcome step state actions) last := by
  induction actions with
  | nil => exact and_comm
  | cons action rest ih => exact (and_congr_right' ih).trans and_assoc.symm

end Concat

theorem observe_eq_iff {step : σ → α → β × σ} {reference : ρ → α → β × ρ} {ok : σ → α → Prop}
    {R : σ → ρ → Prop}
    (simulates : ∀ state other action, R state other → ok state action →
      (step state action).1 = (reference other action).1 ∧
        R (step state action).2 (reference other action).2)
    (differs : ∀ state other action, R state other → ¬ ok state action →
      (step state action).1 ≠ (reference other action).1)
    (actions : List α) :
    ∀ {state : σ} {other : ρ}, R state other →
      (observe step state actions = observe reference other actions ↔ Meets step ok state actions) := by
  induction actions with
  | nil => exact fun _ => iff_of_true rfl trivial
  | cons action rest ih =>
    intro state other related
    unfold observe Meets
    rw [List.cons.injEq]
    by_cases meets : ok state action
    · obtain ⟨same, next⟩ := simulates state other action related meets
      rw [ih next]
      exact and_congr_left' (iff_of_true same meets)
    · exact iff_of_false (fun equal => differs state other action related meets equal.1)
        fun met => meets met.1

end Vanet.Library
