/-
**Soft state against a map whose entries cease to exist.**

In `ReferenceMap` an entry does not exist any more as soon as its expiry has passed, and
`dropExpired` has nothing to do. `SoftStateMap` is observationally equal to it as long as no access
finds an entry that has expired and has not been dropped yet: such an entry is resurrected with its
old value where the reference creates a new one (`soft_state_iff`).

* `Agree`: what relates the two maps, whatever has been dropped.
* `step_agrees`, `step_differs`: an operation that meets the condition, and one that does not.
-/

import Mathlib.Data.Set.Basic
import Vanet.Library.Observe
import Vanet.Geonet.SoftStateMap

namespace Vanet.Geonet

open Vanet.Library SoftStateMap

variable {κ ν : Type} [DecidableEq κ] (create : ℤ → ν)

/-! ### The reference -/

/-- **A map whose entries exist until their expiry passes.** -/
structure ReferenceMap (κ ν : Type) where
  lifetime : ℤ
  stored : κ → Option (ν × ℤ)

namespace ReferenceMap

def empty (lifetime : ℤ) : ReferenceMap κ ν := ⟨lifetime, fun _ => none⟩

/-- The entry of a key, if it exists. -/
def find (reference : ReferenceMap κ ν) (now : ℤ) (key : κ) : Option (ν × ℤ) :=
  alive now (reference.stored key)

def put (reference : ReferenceMap κ ν) (key : κ) (entry : ν × ℤ) : ReferenceMap κ ν :=
  { reference with stored := Function.update reference.stored key (some entry) }

/-- The entry, or one that is created. -/
def getOrCreate (reference : ReferenceMap κ ν) (now : ℤ) (key : κ) : ν × ℤ :=
  (reference.find now key).getD (create now, now + reference.lifetime)

def modify (reference : ReferenceMap κ ν) (key : κ) (change : ν → ν) : ReferenceMap κ ν :=
  { reference with
    stored := Function.update reference.stored key
      ((reference.stored key).map fun entry => (change entry.1, entry.2)) }

end ReferenceMap

/-! ### The two machines -/

/-- The operations. A caller who is given a reference writes to it before the next operation. -/
inductive SoftAction (κ ν : Type)
  | getValue (key : κ) (change : ν → ν)
  | getValuePtr (key : κ) (change : ν → ν)
  | hasValue (key : κ)
  | refresh (key : κ) (change : ν → ν)
  | setLifetime (lifetime : ℤ)
  | dropExpired
  | map
  | advance (elapsed : ℕ)

inductive SoftObservation (κ ν : Type)
  | value (value : ν)
  | pointer (value : Option ν)
  | flag (flag : Bool)
  | range (entries : Set (κ × ν))
  | done

/-- **An operation of the soft state map** at the runtime's time. -/
def softStep (state : ℤ × SoftStateMap κ ν) :
    SoftAction κ ν → SoftObservation κ ν × (ℤ × SoftStateMap κ ν)
  | .getValue key change =>
    let got := state.2.getValue create state.1 key
    (.value got.1, (state.1, got.2.modify key change))
  | .getValuePtr key change =>
    match state.2.getValuePtr state.1 key with
    | none => (.pointer none, state)
    | some value => (.pointer (some value), (state.1, state.2.modify key change))
  | .hasValue key => (.flag (state.2.hasValue state.1 key), state)
  | .refresh key change =>
    let got := state.2.refresh create state.1 key
    (.value got.1, (state.1, got.2.modify key change))
  | .setLifetime lifetime => (.done, (state.1, state.2.setLifetime lifetime))
  | .dropExpired => (.done, (state.1, state.2.dropExpired state.1))
  | .map => (.range {entry | entry ∈ state.2.entries state.1}, state)
  | .advance elapsed => (.done, (state.1 + elapsed, state.2))

/-- **The same operation of the reference.** -/
def referenceStep (state : ℤ × ReferenceMap κ ν) :
    SoftAction κ ν → SoftObservation κ ν × (ℤ × ReferenceMap κ ν)
  | .getValue key change =>
    let entry := state.2.getOrCreate create state.1 key
    (.value entry.1, (state.1, (state.2.put key entry).modify key change))
  | .getValuePtr key change =>
    match state.2.find state.1 key with
    | none => (.pointer none, state)
    | some entry => (.pointer (some entry.1), (state.1, state.2.modify key change))
  | .hasValue key => (.flag (state.2.find state.1 key).isSome, state)
  | .refresh key change =>
    let entry := state.2.getOrCreate create state.1 key
    (.value entry.1,
      (state.1, (state.2.put key (entry.1, state.1 + state.2.lifetime)).modify key change))
  | .setLifetime lifetime => (.done, (state.1, { state.2 with lifetime := lifetime }))
  | .dropExpired => (.done, state)
  | .map => (.range {entry | (state.2.find state.1 entry.1).map Prod.fst = some entry.2}, state)
  | .advance elapsed => (.done, (state.1 + elapsed, state.2))

/-- **The condition on an access**: an entry that has expired and has not been dropped yet holds just
what a new entry would hold. -/
def Renewable (state : ℤ × SoftStateMap κ ν) : SoftAction κ ν → Prop
  | .getValue key _ | .refresh key _ =>
    ∀ value expiry, state.2.view key = some (value, expiry) → expiry < state.1 → value = create state.1
  | _ => True

/-! ### The simulation -/

/-- **The two maps agree** on every entry that has not expired. -/
structure Agree (now : ℤ) (soft : SoftStateMap κ ν) (reference : ReferenceMap κ ν) : Prop where
  formed : soft.WellFormed
  lifetime : soft.lifetime = reference.lifetime
  entries : ∀ key, alive now (soft.view key) = reference.find now key

section Agreement

variable {now : ℤ} {soft after : SoftStateMap κ ν} {reference : ReferenceMap κ ν} {key : κ}

/-- Time passing lets entries of both maps expire. -/
theorem alive_later (elapsed : ℕ) (entry : Option (ν × ℤ)) :
    alive (now + elapsed) entry = alive (now + elapsed) (alive now entry) := by
  cases entry with
  | none => rfl
  | some entry =>
    obtain ⟨value, expiry⟩ := entry
    by_cases passed : expiry < now
    · rw [alive_some, alive_some, if_pos passed, if_pos (by omega)]
      rfl
    · rw [show alive now (some (value, expiry)) = some (value, expiry) from by rw [alive_some, if_neg passed]]

theorem alive_again (entry : Option (ν × ℤ)) : alive now entry = alive now (alive now entry) := by
  have later : alive (now + (0 : ℕ)) entry = alive (now + (0 : ℕ)) (alive now entry) := alive_later 0 entry
  simpa using later

theorem Agree.advance (agree : Agree now soft reference) (elapsed : ℕ) :
    Agree (now + elapsed) soft reference where
  formed := agree.formed
  lifetime := agree.lifetime
  entries key := by
    unfold ReferenceMap.find
    rw [alive_later, agree.entries key]
    exact (alive_later elapsed _).symm

/-- An entry that both maps have just put or changed. -/
theorem Agree.put (agree : Agree now soft reference) (formed : after.WellFormed)
    (lifetime : after.lifetime = soft.lifetime) {entry : ν × ℤ}
    (views : after.view = Function.update soft.view key (some entry)) :
    Agree now after (reference.put key entry) where
  formed := formed
  lifetime := lifetime.trans agree.lifetime
  entries other := by
    dsimp only [ReferenceMap.find, ReferenceMap.put]
    rw [views]
    by_cases same : other = key
    · rw [same, Function.update_self, Function.update_self]
    · rw [Function.update_of_ne same, Function.update_of_ne same]
      exact agree.entries other

theorem alive_map (change : ν → ν) (entry : Option (ν × ℤ)) :
    alive now (entry.map fun entry => (change entry.1, entry.2)) =
      (alive now entry).map fun entry => (change entry.1, entry.2) := by
  cases entry with
  | none => rfl
  | some entry =>
    obtain ⟨value, expiry⟩ := entry
    rw [Option.map_some, alive_some, alive_some]
    by_cases passed : expiry < now <;> simp [passed]

theorem Agree.modify (agree : Agree now soft reference) (change : ν → ν) :
    Agree now (soft.modify key change) (reference.modify key change) := by
  obtain ⟨formed, views⟩ := modify_spec key agree.formed change
  refine ⟨formed, (modify_lifetime change).trans agree.lifetime, fun other => ?_⟩
  dsimp only [ReferenceMap.find, ReferenceMap.modify]
  rw [views]
  by_cases same : other = key
  · subst same
    rw [Function.update_self, Function.update_self, alive_map, alive_map, agree.entries]
    rfl
  · rw [Function.update_of_ne same, Function.update_of_ne same]
    exact agree.entries other

/-- **What an access that meets the condition answers** is what the reference has or creates. -/
theorem Agree.accessed (agree : Agree now soft reference)
    (renewable : ∀ value expiry, soft.view key = some (value, expiry) → expiry < now →
      value = create now) :
    SoftStateMap.accessed create now soft.lifetime (soft.view key) =
      reference.getOrCreate create now key := by
  unfold ReferenceMap.getOrCreate
  rw [← agree.entries key, ← agree.lifetime]
  cases shown : soft.view key with
  | none => rfl
  | some entry =>
    obtain ⟨value, expiry⟩ := entry
    unfold SoftStateMap.accessed
    rw [alive_some]
    by_cases passed : expiry < now
    · simp [passed, renewable value expiry shown passed]
    · simp [passed]

theorem refreshed_eq (lifetime : ℤ) (entry : Option (ν × ℤ)) :
    refreshed create now lifetime entry =
      ((SoftStateMap.accessed create now lifetime entry).1, now + lifetime) := by
  cases entry with
  | none => rfl
  | some entry =>
    obtain ⟨value, expiry⟩ := entry
    unfold SoftStateMap.accessed refreshed
    by_cases passed : now > expiry <;> simp [passed]

end Agreement

/-! ### Step by step -/

/-- **An operation that meets the condition** is answered alike and leaves maps that agree. -/
theorem step_agrees (state : ℤ × SoftStateMap κ ν) (other : ℤ × ReferenceMap κ ν)
    (action : SoftAction κ ν) (related : state.1 = other.1 ∧ Agree state.1 state.2 other.2)
    (renewable : Renewable create state action) :
    (softStep create state action).1 = (referenceStep create other action).1 ∧
      (softStep create state action).2.1 = (referenceStep create other action).2.1 ∧
      Agree (softStep create state action).2.1 (softStep create state action).2.2
        (referenceStep create other action).2.2 := by
  obtain ⟨now, soft⟩ := state
  obtain ⟨now', reference⟩ := other
  obtain ⟨same, agree⟩ := related
  obtain rfl : now = now' := same
  have pointer : ∀ key, soft.getValuePtr now key = (reference.find now key).map Prod.fst := by
    intro key
    rw [getValuePtr_eq agree.formed, agree.entries]
  cases action with
  | getValue key change =>
    obtain ⟨formed, lifetime, value, views⟩ := getValue_spec create now key agree.formed
    rw [agree.accessed create renewable] at value views
    exact ⟨congrArg SoftObservation.value value, rfl, (agree.put formed lifetime views).modify change⟩
  | getValuePtr key change =>
    unfold softStep referenceStep
    dsimp only
    rw [pointer key]
    cases found : reference.find now key with
    | none => exact ⟨rfl, rfl, agree⟩
    | some entry => exact ⟨rfl, rfl, agree.modify change⟩
  | hasValue key =>
    refine ⟨congrArg SoftObservation.flag ?_, rfl, agree⟩
    unfold hasValue
    rw [pointer key, Option.isSome_map]
  | refresh key change =>
    obtain ⟨formed, lifetime, value, views⟩ := refresh_spec create now key agree.formed
    rw [refreshed_eq, agree.accessed create renewable, agree.lifetime] at value views
    exact ⟨congrArg SoftObservation.value value, rfl, (agree.put formed lifetime views).modify change⟩
  | setLifetime lifetime =>
    exact ⟨rfl, rfl, agree.formed.setLifetime lifetime, rfl, agree.entries⟩
  | dropExpired =>
    obtain ⟨formed, lifetime, views⟩ := dropExpired_spec now agree.formed
    refine ⟨rfl, rfl, formed, lifetime.trans agree.lifetime, fun key => ?_⟩
    show alive now ((soft.dropExpired now).view key) = reference.find now key
    rw [views, ← agree.entries key]
    exact (alive_again _).symm
  | map =>
    refine ⟨congrArg SoftObservation.range ?_, rfl, agree⟩
    ext entry
    show entry ∈ soft.entries now ↔ _
    rw [show entry = (entry.1, entry.2) from rfl, mem_entries, pointer]
    rfl
  | advance elapsed => exact ⟨rfl, rfl, agree.advance elapsed⟩

/-- **An access that does not meet the condition** answers the old value, not the new one. -/
theorem step_differs (state : ℤ × SoftStateMap κ ν) (other : ℤ × ReferenceMap κ ν)
    (action : SoftAction κ ν) (related : state.1 = other.1 ∧ Agree state.1 state.2 other.2)
    (stale : ¬ Renewable create state action) :
    (softStep create state action).1 ≠ (referenceStep create other action).1 := by
  obtain ⟨now, soft⟩ := state
  obtain ⟨now', reference⟩ := other
  obtain ⟨same, agree⟩ := related
  obtain rfl : now = now' := same
  have differ : ∀ key, (¬ ∀ value expiry, soft.view key = some (value, expiry) → expiry < now →
      value = create now) → (SoftStateMap.accessed create now soft.lifetime (soft.view key)).1 ≠
        (reference.getOrCreate create now key).1 := by
    intro key lingering
    simp only [not_forall] at lingering
    obtain ⟨value, expiry, shown, passed, different⟩ := lingering
    unfold ReferenceMap.getOrCreate
    rw [← agree.entries key, shown, alive_some, if_pos passed]
    show (if now > expiry then (value, now + soft.lifetime) else (value, expiry)).1 ≠ create now
    rw [if_pos passed]
    exact different
  cases action with
  | getValue key change =>
    obtain ⟨_, _, value, _⟩ := getValue_spec create now key agree.formed
    intro equal
    exact differ key stale (value.symm.trans (SoftObservation.value.inj equal))
  | refresh key change =>
    obtain ⟨_, _, value, _⟩ := refresh_spec create now key agree.formed
    rw [refreshed_eq] at value
    intro equal
    exact differ key stale (value.symm.trans (SoftObservation.value.inj equal))
  | _ => exact absurd trivial stale

theorem agree_empty (now lifetime : ℤ) :
    Agree now (SoftStateMap.empty lifetime : SoftStateMap κ ν) (ReferenceMap.empty lifetime) where
  formed := wellFormed_empty lifetime
  lifetime := rfl
  entries _ := rfl

/-- **Soft state expires observably** in exactly the runs in which no access finds an entry that has
expired, has not been dropped yet and holds anything but a new value. -/
theorem soft_state_iff (now lifetime : ℤ) (actions : List (SoftAction κ ν)) :
    observe (softStep create) (now, SoftStateMap.empty lifetime) actions =
        observe (referenceStep create) (now, ReferenceMap.empty lifetime) actions ↔
      Meets (softStep create) (Renewable create) (now, SoftStateMap.empty lifetime) actions :=
  observe_eq_iff (step_agrees create) (step_differs create) actions
    ⟨rfl, agree_empty now lifetime⟩

/-- The value that an access has answered. -/
def SoftObservation.answer : SoftObservation κ ν → Option ν
  | .value answered => some answered
  | _ => none

/-- **A counter that has expired goes on** with the next access, as long as it has not been dropped. -/
theorem not_soft_state :
    ¬ ∀ (create : ℤ → ℕ) (now lifetime : ℤ) (actions : List (SoftAction ℕ ℕ)),
      observe (softStep create) (now, SoftStateMap.empty lifetime) actions =
        observe (referenceStep create) (now, ReferenceMap.empty lifetime) actions := by
  intro equal
  have answers := congrArg (List.map SoftObservation.answer) <|
    equal (fun _ => 0) 0 100 [.refresh 7 (· + 1), .advance 101, .refresh 7 (· + 1)]
  exact absurd answers (by decide)

end Vanet.Geonet
