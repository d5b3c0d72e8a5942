/-
**The two largest values.**

A pass over values keeps the two largest ones, equal values counted apart. In whatever order the values
come, they are the supremum of a multiset and the supremum of what is left without it.
-/

import Mathlib.Data.Multiset.Lattice

namespace Vanet.Library

section TopTwo

variable {α : Type} [LinearOrder α] [OrderBot α]

/-- A value next to the two largest ones before it. -/
def pushTopTwo (top : α × α) (value : α) : α × α :=
  if value ≥ top.1 then (value, top.1)
  else if value > top.2 then (top.1, value)
  else top

/-- The largest value, or the bottom if there is none. -/
def largest (values : Multiset α) : α := values.sup

/-- **The second largest value**, or the bottom if there are fewer than two. -/
def secondLargest (values : Multiset α) : α := (values.erase values.sup).sup

/-- **A value more.** -/
theorem pushTopTwo_eq (values : Multiset α) (value : α) :
    pushTopTwo (largest values, secondLargest values) value =
      (largest (value ::ₘ values), secondLargest (value ::ₘ values)) := by
  unfold pushTopTwo largest secondLargest
  rw [Multiset.sup_cons]
  by_cases first : value ≥ values.sup
  · rw [if_pos first, sup_eq_left.mpr first, Multiset.erase_cons_head]
  · have less : value < values.sup := not_le.mp first
    rw [if_neg first, sup_eq_right.mpr less.le, Multiset.erase_cons_tail _ less.ne, Multiset.sup_cons]
    by_cases second : value > (values.erase values.sup).sup
    · rw [if_pos second, sup_eq_left.mpr second.le]
    · rw [if_neg second, sup_eq_right.mpr (not_lt.mp second)]

end TopTwo

end Vanet.Library
