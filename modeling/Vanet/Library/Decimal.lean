/-
**Decimal numerals and lists spelled with them.**

`Nat.toDigits 10` prints a number. `numeral` reads the unsigned JSON integer `0 | [1-9][0-9]*`:
it accepts exactly the printed numbers (`numeral_eq_some_iff`), so a leading zero is rejected.

`spell ids` writes the numbers of a list one after the other with nothing between them and
`digitsOf` reads a number digit by digit. `digitsOf_eq_iff` says which lists survive, if they spell
a numeral at all: all entries have one digit.
-/

import Mathlib.Algebra.Order.Ring.Nat
import Mathlib.Data.List.Basic
import Mathlib.Data.List.Induction
import Mathlib.Data.Nat.Digits.Defs

namespace Vanet.Library

/-- The JSON grammar of an unsigned integer. -/
def IsNumeral (text : List Char) : Prop :=
  text ≠ [] ∧ (∀ c ∈ text, c.isDigit = true) ∧ (text.head? = some '0' → text = ['0'])

instance (text : List Char) : Decidable (IsNumeral text) :=
  haveI : Decidable (∀ c ∈ text, c.isDigit = true) := List.decidableBAll _ text
  inferInstanceAs (Decidable (_ ∧ _ ∧ _))

/-- The value of an unsigned JSON integer, if the text is one. -/
def numeral (text : List Char) : Option ℕ :=
  if IsNumeral text then some (Nat.ofDigitChars 10 text 0) else none

/-- The numbers of a list, printed one after the other. -/
def spell (ids : List ℕ) : List Char := (ids.map (Nat.toDigits 10)).flatten

/-- The value of a decimal digit. -/
def digitValue (c : Char) : ℕ := c.toNat - '0'.toNat

/-- The decimal digits of a number, most significant first. -/
def digitsOf (n : ℕ) : List ℕ := (Nat.toDigits 10 n).map digitValue

/-! ### Digits -/

theorem digitValue_digitChar {n : ℕ} (small : n < 10) : digitValue n.digitChar = n :=
  Nat.toNat_digitChar_sub_48_of_lt_ten small

theorem digitValue_lt {c : Char} (digit : c.isDigit = true) : digitValue c < 10 := by
  simp only [Char.isDigit, Bool.and_eq_true, decide_eq_true_eq] at digit
  have upper : c.toNat ≤ 57 := digit.2
  have zero : '0'.toNat = 48 := rfl
  unfold digitValue
  omega

theorem digitChar_digitValue {c : Char} (digit : c.isDigit = true) :
    (digitValue c).digitChar = c := by
  have small := digitValue_lt digit
  simp only [Char.isDigit, Bool.and_eq_true, decide_eq_true_eq] at digit
  have lower : 48 ≤ c.toNat := digit.1
  have zero : '0'.toNat = 48 := rfl
  apply Char.toNat_inj.mp
  have value := Nat.toNat_digitChar_of_lt_ten small
  unfold digitValue at value ⊢
  omega

/-- Reading one more digit. -/
theorem ofDigitChars_concat (text : List Char) (c : Char) :
    Nat.ofDigitChars 10 (text ++ [c]) 0 = 10 * Nat.ofDigitChars 10 text 0 + digitValue c := by
  rw [Nat.ofDigitChars_append, Nat.ofDigitChars_cons, Nat.ofDigitChars_nil]
  rfl

theorem isNumeral_toDigits (n : ℕ) : IsNumeral (Nat.toDigits 10 n) := by
  refine ⟨Nat.toDigits_ne_nil, fun c member => Nat.isDigit_of_mem_toDigits (by decide) (by decide)
    member, ?_⟩
  -- The leading digit of `10 * m + d` is the leading digit of `m`, which is not zero.
  induction n using Nat.strongRecOn with
  | ind n ih =>
    intro leading
    by_cases small : n < 10
    · rw [Nat.toDigits_of_lt_base small] at leading ⊢
      simpa using leading
    · rw [Nat.toDigits_of_base_le (by decide) (by omega)] at leading
      rw [List.head?_append_of_ne_nil _ Nat.toDigits_ne_nil] at leading
      have quotient := ih (n / 10) (by omega) leading
      have zero : n / 10 = 0 := by
        rw [← Nat.ofDigitChars_ten_toDigits (n := n / 10), quotient]
        rfl
      omega

/-- **A numeral is the printed form of its value.** -/
theorem toDigits_ofDigitChars {text : List Char} (valid : IsNumeral text) :
    Nat.toDigits 10 (Nat.ofDigitChars 10 text 0) = text := by
  induction text using List.reverseRecOn with
  | nil => exact absurd rfl valid.1
  | append_singleton front c ih =>
    obtain ⟨_, digits, leading⟩ := valid
    have digit : c.isDigit = true := digits c (by simp)
    have small := digitValue_lt digit
    rw [ofDigitChars_concat]
    by_cases single : front = []
    · subst single
      rw [Nat.ofDigitChars_nil, Nat.mul_zero, Nat.zero_add, Nat.toDigits_of_lt_base small,
        digitChar_digitValue digit]
      rfl
    · have notZero : front.head? ≠ some '0' := fun zero => by
        have whole := leading (by rw [List.head?_append_of_ne_nil _ single, zero])
        have length := congrArg List.length whole
        simp only [List.length_append, List.length_singleton] at length
        exact single (List.length_eq_zero_iff.mp (by omega))
      have front_valid : IsNumeral front :=
        ⟨single, fun d member => digits d (List.mem_append_left _ member),
          fun zero => absurd zero notZero⟩
      have printed := ih front_valid
      have positive : 0 < Nat.ofDigitChars 10 front 0 := by
        rcases Nat.eq_zero_or_pos (Nat.ofDigitChars 10 front 0) with zero | positive
        · rw [zero, Nat.toDigits_zero] at printed
          exact absurd (by rw [← printed]; rfl) notZero
        · exact positive
      rw [← Nat.toDigits_append_toDigits (by decide) positive small, printed,
        Nat.toDigits_of_lt_base small, digitChar_digitValue digit]

/-- **`numeral` reads exactly the printed numbers.** -/
theorem numeral_eq_some_iff {text : List Char} {n : ℕ} :
    numeral text = some n ↔ text = Nat.toDigits 10 n := by
  unfold numeral
  constructor
  · intro read
    split at read
    · rename_i valid
      cases read
      exact (toDigits_ofDigitChars valid).symm
    · cases read
  · rintro rfl
    rw [if_pos (isNumeral_toDigits n), Nat.ofDigitChars_ten_toDigits]

@[simp] theorem numeral_toDigits (n : ℕ) : numeral (Nat.toDigits 10 n) = some n :=
  numeral_eq_some_iff.mpr rfl

theorem numeral_value {text : List Char} {n : ℕ} (read : numeral text = some n) :
    n = Nat.ofDigitChars 10 text 0 := by
  unfold numeral at read
  split_ifs at read
  exact (Option.some.inj read).symm

theorem toDigits_injective : Function.Injective (Nat.toDigits 10) := by
  intro first second same
  have read := numeral_toDigits first
  rw [same, numeral_toDigits] at read
  exact (Option.some.inj read).symm

/-! ### Spelled lists -/

theorem spell_append (first second : List ℕ) : spell (first ++ second) = spell first ++ spell second := by
  simp [spell]

@[simp] theorem spell_singleton (id : ℕ) : spell [id] = Nat.toDigits 10 id := by
  simp [spell]

theorem isDigit_of_mem_spell {ids : List ℕ} {c : Char} (member : c ∈ spell ids) :
    c.isDigit = true := by
  simp only [spell, List.mem_flatten, List.mem_map] at member
  obtain ⟨_, ⟨id, _, rfl⟩, inside⟩ := member
  exact Nat.isDigit_of_mem_toDigits (by decide) (by decide) inside

/-- One-digit numbers are spelled digit by digit. -/
theorem spell_of_small {ids : List ℕ} (small : ∀ id ∈ ids, id < 10) :
    spell ids = ids.map Nat.digitChar := by
  induction ids with
  | nil => rfl
  | cons id rest ih =>
    have here : Nat.toDigits 10 id = [id.digitChar] :=
      Nat.toDigits_of_lt_base (small id List.mem_cons_self)
    have tail := ih fun other member => small other (List.mem_cons_of_mem _ member)
    simp only [spell, List.map_cons, List.flatten_cons] at tail ⊢
    rw [here, tail]
    rfl

theorem digitsOf_lt {n id : ℕ} (member : id ∈ digitsOf n) : id < 10 := by
  obtain ⟨c, inside, rfl⟩ := List.mem_map.mp member
  exact digitValue_lt (Nat.isDigit_of_mem_toDigits (by decide) (by decide) inside)

/-- Reading back the digits of a spelled list of one-digit numbers. -/
theorem map_digitValue_spell {ids : List ℕ} (small : ∀ id ∈ ids, id < 10) :
    (spell ids).map digitValue = ids := by
  rw [spell_of_small small, List.map_map]
  refine (List.map_congr_left fun id member => ?_).trans (List.map_id _)
  exact digitValue_digitChar (small id member)

/-- **Which lists survive being spelled as one number**: those of one-digit entries. -/
theorem digitsOf_eq_iff {ids : List ℕ} {n : ℕ} (read : numeral (spell ids) = some n) :
    digitsOf n = ids ↔ ∀ id ∈ ids, id < 10 := by
  constructor
  · rintro back id member
    exact digitsOf_lt (back ▸ member)
  · intro small
    have printed : spell ids = Nat.toDigits 10 n := numeral_eq_some_iff.mp read
    rw [digitsOf, ← printed, map_digitValue_spell small]

end Vanet.Library
