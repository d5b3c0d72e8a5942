/-
**Infinite runs of a transition system.**

A run that goes on forever, each of whose steps meets a condition, for statements about what happens at some
time. Its states are the ones of guarded runs (`reached`). What holds at a time and does not hold later ends
with one of the steps between (`ends`). Steps that lower a number end (`settles`). A run can be given by a
script for its actions (`script`).
-/

import Mathlib.Data.Nat.Init
import Mathlib.Order.Basic
import Vanet.Library.Run

namespace Vanet.Library

variable {σ α : Type}

/-- **An infinite run**, its states and the actions between them. -/
structure InfiniteRun (init : σ → Prop) (step : σ → α → Option σ) (ok : σ → α → Prop) where
  state : ℕ → σ
  action : ℕ → α
  starts : init (state 0)
  meets : ∀ n, ok (state n) (action n)
  steps : ∀ n, step (state n) (action n) = some (state (n + 1))

namespace InfiniteRun

variable {init : σ → Prop} {step : σ → α → Option σ} {ok : σ → α → Prop}
  (run : InfiniteRun init step ok)

theorem reached : ∀ n, GuardedReach init step ok (run.state n)
  | 0 => .start run.starts
  | n + 1 => .next (reached n) (run.meets n) (run.steps n)

/-- What no step lowers. -/
theorem monotone {β : Type} [Preorder β] {value : σ → β}
    (keep : ∀ before action after, step before action = some after → value before ≤ value after)
    {n m : ℕ} (le : n ≤ m) : value (run.state n) ≤ value (run.state m) := by
  induction m, le using Nat.le_induction with
  | base => exact le_refl _
  | succ m _ ih => exact le_trans ih (keep _ _ _ (run.steps m))

/-- **What does not hold forever** ends with a step. -/
theorem ends {P : σ → Prop} {n m : ℕ} (le : n ≤ m) (before : P (run.state n)) (after : ¬ P (run.state m)) :
    ∃ k, n ≤ k ∧ P (run.state k) ∧ ¬ P (run.state (k + 1)) := by
  induction m, le using Nat.le_induction with
  | base => exact absurd before after
  | succ m le ih =>
    by_cases still : P (run.state m)
    · exact ⟨m, le, still, after⟩
    · exact ih still

/-- **A number that no step raises and some steps lower**: at some time these steps have ended. -/
theorem settles (rank : σ → ℕ) (lowers : α → Prop)
    (keep : ∀ n, rank (run.state (n + 1)) ≤ rank (run.state n))
    (lower : ∀ n, lowers (run.action n) → rank (run.state (n + 1)) < rank (run.state n)) :
    ∃ n, ∀ m, n ≤ m → ¬ lowers (run.action m) := by
  have falls {n m : ℕ} (le : n ≤ m) : rank (run.state m) ≤ rank (run.state n) := by
    induction m, le using Nat.le_induction with
    | base => exact Nat.le_refl _
    | succ m _ ih => exact Nat.le_trans (keep m) ih
  have onward (n : ℕ) : ∃ n, ∀ m, n ≤ m → ¬ lowers (run.action m) := by
    induction bound : rank (run.state n) using Nat.strong_induction_on generalizing n with
    | _ bound ih =>
      by_cases busy : ∃ m, n ≤ m ∧ lowers (run.action m)
      · obtain ⟨m, le, lowering⟩ := busy
        exact ih _ (bound ▸ Nat.lt_of_lt_of_le (lower m lowering) (falls le)) (m + 1) rfl
      · exact ⟨n, fun m le lowering => busy ⟨m, le, lowering⟩⟩
  exact onward 0

/-! ### Runs by a script -/

/-- The states from a first one on, when the actions are chosen by the time and the state. -/
def scripted (step : σ → α → Option σ) (action : ℕ → σ → α) (first : σ) : ℕ → σ
  | 0 => first
  | n + 1 => (step (scripted step action first n) (action n (scripted step action first n))).getD
      (scripted step action first n)

/-- **The run by a script**, if no step gets stuck. -/
def script (action : ℕ → σ → α) (first : σ) (starts : init first)
    (meets : ∀ n, ok (scripted step action first n) (action n (scripted step action first n)))
    (goes : ∀ n, (step (scripted step action first n)
      (action n (scripted step action first n))).isSome = true) : InfiniteRun init step ok where
  state := scripted step action first
  action n := action n (scripted step action first n)
  starts := starts
  meets := meets
  steps n := by
    obtain ⟨next, taken⟩ := Option.isSome_iff_exists.mp (goes n)
    rw [scripted, taken]
    rfl

end InfiniteRun

end Vanet.Library
