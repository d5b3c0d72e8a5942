/-
**Comparing lists component by component.**

`someLess` is the loop that looks for a component which is less than its counterpart. On lists of one
length it decides the lexicographic order only where all components compare alike.

* `someLess_eq_false_iff`: no component is less if and only if the other list is below in each of them.
* `Below.antisymm`, `Below.lex`: the componentwise order, and that it is part of the lexicographic one.
-/

import Mathlib.Data.List.Forall2
import Mathlib.Order.Lattice

namespace Vanet.Library

variable {α : Type} [LinearOrder α] {lhs rhs : List α}

/-- **Some component is less** than its counterpart. -/
def someLess : List α → List α → Bool
  | left :: lhs, right :: rhs => if left < right then true else someLess lhs rhs
  | _, _ => false

/-- **No component exceeds its counterpart.** -/
def Below (lhs rhs : List α) : Prop := List.Forall₂ (· ≤ ·) lhs rhs

instance decidableBelow (lhs rhs : List α) : Decidable (Below lhs rhs) :=
  inferInstanceAs (Decidable (List.Forall₂ (· ≤ ·) lhs rhs))

theorem someLess_eq_false_iff (same : lhs.length = rhs.length) :
    someLess lhs rhs = false ↔ Below rhs lhs := by
  induction lhs generalizing rhs with
  | nil =>
    rw [List.eq_nil_of_length_eq_zero same.symm]
    exact iff_of_true rfl .nil
  | cons left lhs ih =>
    cases rhs with
    | nil => cases same
    | cons right rhs =>
      unfold someLess Below
      rw [List.forall₂_cons, ← Below, ← ih (Nat.succ.inj same), ← not_lt]
      by_cases less : left < right <;> simp [less]

theorem someLess_iff (same : lhs.length = rhs.length) :
    someLess lhs rhs = true ↔ ¬ Below rhs lhs := by
  rw [← someLess_eq_false_iff same, Bool.not_eq_false]

theorem Below.refl (list : List α) : Below list list := List.forall₂_refl list

theorem Below.trans {mid : List α} (first : Below lhs mid) (second : Below mid rhs) : Below lhs rhs := by
  induction first generalizing rhs with
  | nil => exact second
  | cons less _ ih =>
    cases second with
    | cons more behind => exact .cons (le_trans less more) (ih behind)

theorem Below.antisymm (below : Below lhs rhs) (above : Below rhs lhs) : lhs = rhs := by
  induction below with
  | nil => rfl
  | cons less _ ih =>
    cases above with
    | cons more behind => rw [le_antisymm less more, ih behind]

/-- **What is below is lexicographically less**, unless it is the same. -/
theorem Below.lex (below : Below lhs rhs) (differ : lhs ≠ rhs) : List.Lex (· < ·) lhs rhs := by
  induction below with
  | nil => exact absurd rfl differ
  | cons less _ ih =>
    rcases less.lt_or_eq with less | rfl
    · exact .rel less
    · exact .cons (ih fun same => differ (congrArg _ same))

theorem not_below_of_lex (less : List.Lex (· < ·) lhs rhs) : ¬ Below rhs lhs := by
  induction less with
  | nil =>
    intro below
    cases below
  | rel less =>
    intro below
    exact not_le.mpr less (List.forall₂_cons.mp below).1
  | cons _ ih =>
    intro below
    exact ih (List.forall₂_cons.mp below).2

end Vanet.Library
