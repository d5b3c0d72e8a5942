/-
**Encodings that say where they end.**

A delimited encoding can be told from whatever follows it, and so can one delimited encoding behind
another: two texts that begin with the encodings of two values are the same only if the values are, and
the rests. Here this holds of the values that have a property, such as a size that can be written down.
-/

import Mathlib.Algebra.BigOperators.Group.List.Basic
import Mathlib.Algebra.Order.Ring.Nat

namespace Vanet.Library

variable {α β σ : Type} {P Q : α → Prop} {encode : α → List σ}

/-- **Within the property, an encoding tells its value and where it ends.** -/
def Delimited (P : α → Prop) (encode : α → List σ) : Prop :=
  ∀ one other more rest, P one → P other → encode one ++ more = encode other ++ rest →
    one = other ∧ more = rest

theorem Delimited.mono (delimited : Delimited P encode) (weaken : ∀ value, Q value → P value) :
    Delimited Q encode :=
  fun _ _ _ _ holds holdsOther same => delimited _ _ _ _ (weaken _ holds) (weaken _ holdsOther) same

/-- An encoding of a fixed length that tells its value. -/
theorem Delimited.fixed {length : ℕ} (long : ∀ value, P value → (encode value).length = length)
    (tells : ∀ one other, P one → P other → encode one = encode other → one = other) :
    Delimited P encode := by
  intro one other more rest holds holdsOther same
  obtain ⟨encodings, follow⟩ := List.append_inj same
    ((long one holds).trans (long other holdsOther).symm)
  exact ⟨tells one other holds holdsOther encodings, follow⟩

/-- A value that is encoded by another one. -/
theorem Delimited.comap {encode : β → List σ} {R : β → Prop} (delimited : Delimited R encode)
    (view : α → β) (holds : ∀ value, P value → R (view value))
    (tells : ∀ one other, view one = view other → one = other) :
    Delimited P fun value => encode (view value) := by
  intro one other more rest first second same
  obtain ⟨views, follow⟩ := delimited _ _ _ _ (holds one first) (holds other second) same
  exact ⟨tells one other views, follow⟩

/-- **Lists of one total size**, without anything between their elements. No element is free. -/
theorem Delimited.flatMap (delimited : Delimited P encode) {size : α → ℕ}
    (positive : ∀ value, 0 < size value) (list : List α) : ∀ (others : List α) (more rest : List σ),
      (∀ value ∈ list, P value) → (∀ value ∈ others, P value) →
        (list.map size).sum = (others.map size).sum →
          list.flatMap encode ++ more = others.flatMap encode ++ rest → list = others ∧ more = rest := by
  induction list with
  | nil =>
    intro others more rest _ _ sizes same
    cases others with
    | nil => exact ⟨rfl, same⟩
    | cons other others =>
      have some := positive other
      rw [List.map_nil, List.sum_nil, List.map_cons, List.sum_cons] at sizes
      omega
  | cons value list ih =>
    intro others more rest holds holdsOthers sizes same
    cases others with
    | nil =>
      have some := positive value
      rw [List.map_nil, List.sum_nil, List.map_cons, List.sum_cons] at sizes
      omega
    | cons other others =>
      rw [List.flatMap_cons, List.flatMap_cons, List.append_assoc, List.append_assoc] at same
      rw [List.map_cons, List.map_cons, List.sum_cons, List.sum_cons] at sizes
      obtain ⟨first, remaining⟩ := List.forall_mem_cons.mp holds
      obtain ⟨second, remainingOthers⟩ := List.forall_mem_cons.mp holdsOthers
      obtain ⟨rfl, follow⟩ := delimited _ _ _ _ first second same
      obtain ⟨rfl, rests⟩ := ih others more rest remaining remainingOthers (by omega) follow
      exact ⟨rfl, rests⟩

end Vanet.Library
