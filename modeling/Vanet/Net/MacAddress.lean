/-
**The order of MAC addresses.**

`operator<` returns `true` as soon as an octet of the left address is less than the one of the right
address, but it never returns `false` early. Two addresses with octets that compare differently are
less than each other.

* `lessThan_iff`: what the loop decides.
* `totallyOrdered_iff`: the addresses of a set are totally ordered exactly if any two of them compare
  alike in all octets.
-/

import Mathlib.Data.Set.Insert
import Vanet.Library.Componentwise
import Vanet.Net.Packet

namespace Vanet.Net

open Vanet.Library

namespace MacAddress

/-- The order of the octets. -/
@[reducible] def octetOrder : LinearOrder UInt8 where
  le_refl := UInt8.le_refl
  le_trans := fun _ _ _ => UInt8.le_trans
  le_antisymm := fun _ _ => UInt8.le_antisymm
  le_total := UInt8.le_total
  lt_iff_le_not_ge := fun left right => by
    rw [UInt8.le_iff_toNat_le, UInt8.le_iff_toNat_le, UInt8.lt_iff_toNat_lt]
    exact lt_iff_le_not_ge
  toDecidableLE := inferInstance

attribute [local instance] octetOrder

/-- `operator==`. -/
def equals (lhs rhs : MacAddress) : Bool := lhs.1 = rhs.1

/-- `operator<`, the loop over the octets with its early exit. -/
def lessThan (lhs rhs : MacAddress) : Bool := someLess lhs.1 rhs.1

/-- The octets of an address are nowhere above those of the other one. -/
def Below (lhs rhs : MacAddress) : Prop := Library.Below lhs.1 rhs.1

/-- **A strict total order on some addresses**: the keys of a container, which compares them by
`operator<`. It is the lexicographic order of the octets, and agrees with `operator==`. -/
structure TotallyOrdered (keys : Set MacAddress) : Prop where
  irreflexive : ∀ a ∈ keys, a.lessThan a = false
  asymmetric : ∀ a ∈ keys, ∀ b ∈ keys, a.lessThan b = true → b.lessThan a = false
  transitive : ∀ a ∈ keys, ∀ b ∈ keys, ∀ c ∈ keys,
    a.lessThan b = true → b.lessThan c = true → a.lessThan c = true
  trichotomous : ∀ a ∈ keys, ∀ b ∈ keys, a ≠ b → Xor (a.lessThan b = true) (b.lessThan a = true)
  equality : ∀ a ∈ keys, ∀ b ∈ keys, a.equals b = true ↔ a.lessThan b = false ∧ b.lessThan a = false
  lexicographic : ∀ a ∈ keys, ∀ b ∈ keys, a.lessThan b = true ↔ List.Lex (· < ·) a.1 b.1

variable {a b c : MacAddress}

theorem lessThan_iff : a.lessThan b = true ↔ ¬ b.Below a :=
  someLess_iff (a.2.trans b.2.symm)

theorem lessThan_eq_false_iff : a.lessThan b = false ↔ b.Below a :=
  someLess_eq_false_iff (a.2.trans b.2.symm)

theorem Below.antisymm (below : a.Below b) (above : b.Below a) : a = b :=
  Subtype.ext (@Library.Below.antisymm _ _ a.1 b.1 below above)

/-- **Addresses that compare alike in all octets**: the loop decides their order. -/
theorem lessThan_of_comparable (comparable : a.Below b ∨ b.Below a) :
    a.lessThan b = true ↔ a.Below b ∧ a ≠ b := by
  rw [lessThan_iff]
  constructor
  · intro less
    exact ⟨comparable.resolve_right less, fun same => less (same ▸ Library.Below.refl a.1)⟩
  · rintro ⟨below, differ⟩ above
    exact differ (below.antisymm above)

theorem lexicographic_of_comparable (comparable : a.Below b ∨ b.Below a) :
    a.lessThan b = true ↔ List.Lex (· < ·) a.1 b.1 := by
  constructor
  · intro less
    obtain ⟨below, differ⟩ := (lessThan_of_comparable comparable).mp less
    exact @Library.Below.lex _ _ a.1 b.1 below fun same => differ (Subtype.ext same)
  · intro less
    exact lessThan_iff.mpr (not_below_of_lex less)

/-- **When MAC addresses are totally ordered.** -/
theorem totallyOrdered_iff (keys : Set MacAddress) :
    TotallyOrdered keys ↔ ∀ a ∈ keys, ∀ b ∈ keys, a.Below b ∨ b.Below a := by
  constructor
  · intro ordered a member b other
    by_contra apart
    obtain ⟨left, right⟩ := not_or.mp apart
    have less := ordered.asymmetric b other a member (lessThan_iff.mpr left)
    exact right (lessThan_eq_false_iff.mp less)
  intro comparable
  have less {a b : MacAddress} (member : a ∈ keys) (other : b ∈ keys) :
      a.lessThan b = true ↔ a.Below b ∧ a ≠ b :=
    lessThan_of_comparable (comparable a member b other)
  constructor
  case irreflexive => exact fun a _ => lessThan_eq_false_iff.mpr (Library.Below.refl a.1)
  case asymmetric =>
    exact fun a member b other ahead => lessThan_eq_false_iff.mpr ((less member other).mp ahead).1
  case transitive =>
    intro a first b second c third ahead behind
    obtain ⟨below, differ⟩ := (less first second).mp ahead
    obtain ⟨above, _⟩ := (less second third).mp behind
    refine (less first third).mpr ⟨@Library.Below.trans _ _ a.1 c.1 b.1 below above, ?_⟩
    rintro rfl
    exact differ (below.antisymm above)
  case trichotomous =>
    intro a member b other differ
    rcases comparable a member b other with below | above
    · exact .inl ⟨(less member other).mpr ⟨below, differ⟩, by rw [lessThan_iff]; exact not_not.mpr below⟩
    · exact .inr ⟨(less other member).mpr ⟨above, differ.symm⟩, by rw [lessThan_iff]; exact not_not.mpr above⟩
  case equality =>
    intro a member b other
    rw [lessThan_eq_false_iff, lessThan_eq_false_iff]
    constructor
    · intro same
      obtain rfl : a = b := Subtype.ext (of_decide_eq_true same)
      exact ⟨Library.Below.refl a.1, Library.Below.refl a.1⟩
    · rintro ⟨above, below⟩
      exact decide_eq_true (congrArg Subtype.val (below.antisymm above))
  case lexicographic =>
    exact fun a member b other => lexicographic_of_comparable (comparable a member b other)

/-- **All addresses are not**: the first octets compare one way and the second ones the other way. -/
theorem not_totallyOrdered : ¬ TotallyOrdered Set.univ := by
  intro ordered
  have less := ordered.asymmetric ⟨[0, 1, 0, 0, 0, 0], rfl⟩ trivial ⟨[1, 0, 0, 0, 0, 0], rfl⟩ trivial
  exact absurd (less (by decide)) (by decide)

end MacAddress

end Vanet.Net
