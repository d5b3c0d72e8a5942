/-
**Passes over items that need each other.**

A pass goes through a list and takes each item whose name is not known and whose needs are; its name is
then known. Several items may have one name.

* `passOver_append`: a pass over two lists, one after the other.
* `legal_passOver`: what a pass takes is new, and comes after what it needs.
* `available_iff`: which names are known after a pass.
* `exists_ready`: needs without a cycle leave an item that can be taken.
* `passOver_ne_nil`: a pass takes an item if there is one that can be taken.
-/

import Mathlib.Data.Set.Finite.Basic
import Mathlib.Data.Fintype.Card
import Mathlib.Logic.Relation
import Mathlib.Order.WellFounded

set_option linter.unusedSectionVars false

namespace Vanet.Library

variable {α ν : Type} [DecidableEq ν] (name : α → ν) (needs : α → List ν)

/-- An item can be taken. -/
def Ready (known : List ν) (item : α) : Prop := name item ∉ known ∧ ∀ need ∈ needs item, need ∈ known

instance decidableReady (known : List ν) (item : α) : Decidable (Ready name needs known item) :=
  inferInstanceAs (Decidable (_ ∧ _))

/-- **One pass.** -/
def passOver (known : List ν) : List α → List α
  | [] => []
  | item :: rest =>
    if Ready name needs known item then item :: passOver (known ++ [name item]) rest else passOver known rest

/-- **Items that are taken one after the other**, each of them new and after what it needs. -/
def Legal (known : List ν) : List α → Prop
  | [] => True
  | item :: rest => Ready name needs known item ∧ Legal (known ++ [name item]) rest

/-- An item of one name needs one of the other name. -/
def Depends (items : List α) (dependent need : ν) : Prop :=
  ∃ item ∈ items, name item = dependent ∧ need ∈ needs item

/-- **A name is available behind items**: it was known before, or there is an item of this name whose needs are
available behind the items in front of it. -/
inductive Available (known : List ν) : List α → ν → Prop
  | old {items : List α} {one : ν} : one ∈ known → Available known items one
  | item {front rest : List α} {item : α} : (∀ need ∈ needs item, Available known front need) →
    Available known (front ++ item :: rest) (name item)

variable {name needs} {known : List ν} {items : List α}

theorem legal_append {first second : List α} :
    Legal name needs known (first ++ second) ↔
      Legal name needs known first ∧ Legal name needs (known ++ first.map name) second := by
  induction first generalizing known with
  | nil =>
    show _ ↔ True ∧ Legal name needs (known ++ []) second
    rw [List.append_nil, true_and]
    rfl
  | cons item rest ih =>
    show Ready name needs known item ∧ Legal name needs (known ++ [name item]) (rest ++ second) ↔
      (Ready name needs known item ∧ Legal name needs (known ++ [name item]) rest) ∧
        Legal name needs (known ++ name item :: rest.map name) second
    rw [ih, and_assoc, List.append_assoc, List.singleton_append]

/-- **What a pass takes.** -/
theorem legal_passOver (known : List ν) (items : List α) :
    Legal name needs known (passOver name needs known items) := by
  induction items generalizing known with
  | nil => trivial
  | cons item rest ih =>
    unfold passOver
    split_ifs with ready
    · exact ⟨ready, ih _⟩
    · exact ih _

theorem passOver_of_ready {item : α} (ready : Ready name needs known item) (rest : List α) :
    passOver name needs known (item :: rest) = item :: passOver name needs (known ++ [name item]) rest :=
  if_pos ready

theorem passOver_of_unready {item : α} (unready : ¬ Ready name needs known item) (rest : List α) :
    passOver name needs known (item :: rest) = passOver name needs known rest :=
  if_neg unready

/-- The pass over a second list knows what was taken from the first one. -/
theorem passOver_append (known : List ν) (first second : List α) :
    passOver name needs known (first ++ second) = passOver name needs known first ++
      passOver name needs (known ++ (passOver name needs known first).map name) second := by
  induction first generalizing known with
  | nil =>
    show _ = [] ++ passOver name needs (known ++ []) second
    rw [List.append_nil]
    rfl
  | cons item rest ih =>
    rw [List.cons_append]
    by_cases ready : Ready name needs known item
    · rw [passOver_of_ready ready, passOver_of_ready ready, ih, List.cons_append, List.map_cons,
        List.append_assoc, List.singleton_append]
    · rw [passOver_of_unready ready, passOver_of_unready ready, ih]

theorem passOver_sublist (known : List ν) (items : List α) : (passOver name needs known items).Sublist items := by
  induction items generalizing known with
  | nil => exact List.Sublist.refl _
  | cons item rest ih =>
    unfold passOver
    split_ifs
    · exact (ih _).cons_cons item
    · exact (ih _).cons item

theorem Available.append {one : ν} (available : Available name needs known items one) (more : List α) :
    Available name needs known (items ++ more) one := by
  cases available with
  | old before => exact .old before
  | item enough =>
    rw [List.append_assoc, List.cons_append]
    exact .item enough

/-- **What is known after a pass.** -/
theorem available_iff {one : ν} :
    Available name needs known items one ↔ one ∈ known ++ (passOver name needs known items).map name := by
  constructor
  · intro available
    induction available with
    | old before => exact List.mem_append_left _ before
    | @item front rest item _ ih =>
      rw [passOver_append, List.map_append, ← List.append_assoc]
      by_cases old : name item ∈ known ++ (passOver name needs known front).map name
      · exact List.mem_append_left _ old
      · rw [passOver_of_ready ⟨old, ih⟩]
        exact List.mem_append_right _ List.mem_cons_self
  · induction items using List.reverseRecOn generalizing one with
    | nil =>
      intro before
      rw [show passOver name needs known [] = [] from rfl, List.map_nil, List.append_nil] at before
      exact .old before
    | append_singleton front item ih =>
      intro member
      rw [passOver_append, List.map_append, ← List.append_assoc, List.mem_append] at member
      rcases member with before | now
      · exact (ih before).append [item]
      · by_cases ready : Ready name needs (known ++ (passOver name needs known front).map name) item
        · rw [passOver_of_ready ready] at now
          obtain rfl := List.mem_singleton.mp now
          exact .item fun need needed => ih (ready.2 need needed)
        · rw [passOver_of_unready ready] at now
          cases now

/-- The names of legal items are different from each other and new. -/
theorem Legal.nodup {taken : List α} (legal : Legal name needs known taken) :
    (taken.map name).Nodup ∧ ∀ one ∈ taken.map name, one ∉ known := by
  induction taken generalizing known with
  | nil => exact ⟨List.nodup_nil, nofun⟩
  | cons item rest ih =>
    obtain ⟨ready, behind⟩ := legal
    obtain ⟨nodup, fresh⟩ := ih behind
    rw [List.map_cons, List.nodup_cons]
    refine ⟨⟨fun again => ?_, nodup⟩, fun one member => ?_⟩
    · exact fresh _ again (List.mem_append_right known (List.mem_singleton_self _))
    · rcases List.mem_cons.mp member with rfl | member
      · exact ready.1
      · exact fun old => fresh one member (List.mem_append_left _ old)

/-- A legal item comes after what it needs. -/
theorem Legal.after {before rest : List α} {item : α}
    (legal : Legal name needs known (before ++ item :: rest)) :
    ∀ need ∈ needs item, need ∈ known ++ before.map name :=
  (legal_append.mp legal).2.1.2

/-- **A pass takes an item** if one of them can be taken. -/
theorem passOver_ne_nil {item : α} (member : item ∈ items) (ready : Ready name needs known item) :
    passOver name needs known items ≠ [] := by
  induction items with
  | nil => cases member
  | cons first rest ih =>
    unfold passOver
    split_ifs with taken
    · exact List.cons_ne_nil _ _
    · rcases List.mem_cons.mp member with rfl | member
      · exact absurd ready taken
      · exact ih member

/-- **Without a cycle there is an item that can be taken**, as long as there is an unknown name. -/
theorem exists_ready (acyclic : ∀ one, ¬ Relation.TransGen (Depends name needs items) one one)
    (resolves : ∀ item ∈ items, ∀ need ∈ needs item, need ∈ known ∨ need ∈ items.map name)
    {item : α} (member : item ∈ items) (unknown : name item ∉ known) :
    ∃ other ∈ items, Ready name needs known other := by
  let names := (items.map name).toFinset
  let Below : names → names → Prop :=
    fun need dependent => Relation.TransGen (Depends name needs items) dependent.1 need.1
  have finite : Finite names := Finite.of_fintype _
  have transitive : IsTrans _ Below := ⟨fun _ _ _ first second => second.trans first⟩
  have irreflexive : Std.Irrefl Below := ⟨fun one => acyclic one.1⟩
  have wellFounded : WellFounded Below := Finite.wellFounded_of_trans_of_irrefl Below
  have here : name item ∈ names := List.mem_toFinset.mpr (List.mem_map_of_mem member)
  obtain ⟨⟨least, named⟩, fresh, minimal⟩ :=
    wellFounded.has_min { one | one.1 ∉ known } ⟨⟨name item, here⟩, unknown⟩
  obtain ⟨other, among, rfl⟩ := List.mem_map.mp (List.mem_toFinset.mp named)
  refine ⟨other, among, fresh, fun need needed => ?_⟩
  rcases resolves other among need needed with old | defined
  · exact old
  · by_contra missing
    exact minimal ⟨need, List.mem_toFinset.mpr defined⟩ missing (.single ⟨other, among, rfl, needed⟩)

end Vanet.Library
