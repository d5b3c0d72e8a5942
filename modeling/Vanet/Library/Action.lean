/-
**Actions on a state that may fail.**

An action ends with a value or with a fault; the state it leaves is there in both cases, as what
has been written before an exception stays written. `Ensures` is a triple with two postconditions,
one for each ending. `Moves` relates the states before and after, however the action ends.
-/

import Mathlib.Order.Defs.Unbundled
import Mathlib.Tactic.SplitIfs

namespace Vanet.Library

variable {σ ε α β : Type}

/-- **An action**: it ends with a value or a fault and leaves a state. -/
def Action (σ ε α : Type) := σ → Except ε α × σ

namespace Action

instance : Monad (Action σ ε) where
  pure value := fun state => (.ok value, state)
  bind act next := fun state =>
    match act state with
    | (.ok value, after) => next value after
    | (.error fault, after) => (.error fault, after)

def fail (fault : ε) : Action σ ε α := fun state => (.error fault, state)

/-- An action that cannot fail. -/
def update (change : σ → α × σ) : Action σ ε α := fun state => (.ok (change state).1, (change state).2)

/-- The outcome of a computation that may fail. -/
def lift (outcome : Except ε α) : Action σ ε α := fun state => (outcome, state)

theorem bind_apply (act : Action σ ε α) (next : α → Action σ ε β) (state : σ) :
    (act >>= next) state =
      match act state with
      | (.ok value, after) => next value after
      | (.error fault, after) => (.error fault, after) :=
  rfl

/-- An action goes on from what its first part returns. -/
theorem bind_of_ok {act : Action σ ε α} {next : α → Action σ ε β} {state after : σ} {value : α}
    (ran : act state = (.ok value, after)) : (act >>= next) state = next value after := by
  rw [bind_apply, ran]

theorem bind_of_pure {value : α} {next : α → Action σ ε β} {state : σ} :
    (pure value >>= next) state = next value state :=
  rfl

/-- What has been computed already is handed on. -/
theorem lift_bind {outcome : Except ε α} {value : α} {next : α → Action σ ε β}
    (computed : outcome = .ok value) : lift outcome >>= next = next value := by
  rw [computed]
  rfl

theorem bind_of_error {act : Action σ ε α} {next : α → Action σ ε β} {state after : σ} {fault : ε}
    (ran : act state = (.error fault, after)) : (act >>= next) state = (.error fault, after) := by
  rw [bind_apply, ran]

theorem bind_assoc {γ : Type} (act : Action σ ε α) (next : α → Action σ ε β)
    (last : β → Action σ ε γ) :
    act >>= next >>= last = act >>= fun value => next value >>= last := by
  funext state
  rw [bind_apply, bind_apply, bind_apply]
  cases act state with
  | mk ended after => cases ended <;> rfl

section Returned

variable {state after : σ}

theorem bind_ok {act : Action σ ε α} {next : α → Action σ ε β} {value : β} :
    (act >>= next) state = (.ok value, after) ↔
      ∃ first mid, act state = (.ok first, mid) ∧ next first mid = (.ok value, after) := by
  rw [bind_apply]
  rcases ran : act state with ⟨_ | first, mid⟩
  · refine iff_of_false nofun ?_
    rintro ⟨first, _, impossible, _⟩
    cases impossible
  · constructor
    · intro returned
      exact ⟨first, mid, rfl, returned⟩
    · rintro ⟨_, _, same, returned⟩
      cases same
      exact returned

theorem pure_ok {value result : α} :
    (pure value : Action σ ε α) state = (.ok result, after) ↔ value = result ∧ state = after := by
  show (Except.ok value, state) = _ ↔ _
  simp

theorem fail_ok {fault : ε} {result : α} :
    (fail fault : Action σ ε α) state = (.ok result, after) ↔ False :=
  iff_of_false nofun id

end Returned

/-! ### Triples -/

/-- **From a state with `P` the action** either returns a value and a state with `Q`, or fails and
leaves a state with `E`. -/
def Ensures (P : σ → Prop) (act : Action σ ε α) (Q : α → σ → Prop) (E : σ → Prop) : Prop :=
  ∀ state, P state →
    match act state with
    | (.ok value, after) => Q value after
    | (.error _, after) => E after

/-- The action leads from the one predicate to the other, whichever way it ends. -/
abbrev Leads (P Q : σ → Prop) (act : Action σ ε α) : Prop := Ensures P act (fun _ => Q) Q

/-- The predicate is an invariant of the action. -/
abbrev Keeps (I : σ → Prop) (act : Action σ ε α) : Prop := Leads I I act

variable {P P' : σ → Prop} {E : σ → Prop} {act : Action σ ε α} {Q Q' : α → σ → Prop}

theorem Ensures.ok (ensures : Ensures P act Q E) {state after : σ} {value : α} (begins : P state)
    (ran : act state = (.ok value, after)) : Q value after := by
  have result := ensures state begins
  rw [ran] at result
  exact result

theorem Ensures.error (ensures : Ensures P act Q E) {state after : σ} {fault : ε} (begins : P state)
    (ran : act state = (.error fault, after)) : E after := by
  have result := ensures state begins
  rw [ran] at result
  exact result

/-- A predicate that both endings come to holds however the action ends. -/
theorem Ensures.after {I : σ → Prop} (ensures : Ensures P act (fun _ => I) I) {state : σ}
    (begins : P state) : I (act state).2 := by
  rcases ran : act state with ⟨fault | value, after⟩
  · exact ensures.error begins ran
  · exact ensures.ok begins ran

theorem Ensures.pure {value : α} (holds : ∀ state, P state → Q value state) :
    Ensures P (pure value : Action σ ε α) Q E :=
  fun state begins => holds state begins

theorem Ensures.fail {fault : ε} (holds : ∀ state, P state → E state) :
    Ensures P (fail fault : Action σ ε α) Q E :=
  fun state begins => holds state begins

theorem Ensures.update {change : σ → α × σ}
    (holds : ∀ state, P state → Q (change state).1 (change state).2) :
    Ensures P (update change : Action σ ε α) Q E :=
  fun state begins => holds state begins

theorem Ensures.lift {outcome : Except ε α}
    (returns : ∀ value, outcome = .ok value → ∀ state, P state → Q value state)
    (fails : ∀ state, P state → E state) : Ensures P (lift outcome) Q E := by
  intro state begins
  cases outcome with
  | ok value => exact returns value rfl state begins
  | error fault => exact fails state begins

/-- Sequencing. -/
theorem Ensures.bind {next : α → Action σ ε β} {T : β → σ → Prop} (first : Ensures P act Q E)
    (second : ∀ value, Ensures (Q value) (next value) T E) : Ensures P (act >>= next) T E := by
  intro state begins
  rw [bind_apply]
  rcases ran : act state with ⟨fault | value, mid⟩
  · exact first.error begins ran
  · exact second value mid (first.ok begins ran)

/-- What the first part promises of its value can be assumed of the rest. -/
theorem Ensures.bind_given {next : α → Action σ ε β} {I : σ → Prop} {F : α → Prop} {T : β → σ → Prop}
    (first : Ensures P act (fun value state => I state ∧ F value) E)
    (second : ∀ value, F value → Ensures I (next value) T E) : Ensures P (act >>= next) T E :=
  .bind first fun value state holds => second value holds.2 state holds.1

theorem Ensures.ite {condition : Prop} [Decidable condition] {other : Action σ ε α}
    (holds : condition → Ensures P act Q E) (fails : ¬ condition → Ensures P other Q E) :
    Ensures P (if condition then act else other) Q E := by
  split_ifs with holding
  · exact holds holding
  · exact fails holding

/-- The rule of consequence. -/
theorem Ensures.mono (ensures : Ensures P act Q E) (before : ∀ state, P' state → P state)
    (after : ∀ value state, Q value state → Q' value state) : Ensures P' act Q' E := by
  intro state begins
  rcases ran : act state with ⟨fault | value, mid⟩
  · exact ensures.error (before state begins) ran
  · exact after value mid (ensures.ok (before state begins) ran)

/-- Both endings promise less. -/
theorem Ensures.weaken {E' : σ → Prop} (ensures : Ensures P act Q E)
    (after : ∀ value state, Q value state → Q' value state) (failed : ∀ state, E state → E' state) :
    Ensures P act Q' E' := by
  intro state begins
  rcases ran : act state with ⟨fault | value, mid⟩
  · exact failed mid (ensures.error begins ran)
  · exact after value mid (ensures.ok begins ran)

/-- What the precondition says apart from the state can be assumed. -/
theorem Ensures.given {F : Prop} (fact : ∀ state, P state → F) (ensures : F → Ensures P act Q E) :
    Ensures P act Q E :=
  fun state begins => ensures (fact state begins) state begins

/-- A triple that also remembers a state from which the value was returned. -/
theorem Ensures.ran (ensures : Ensures P act Q E) :
    Ensures P act (fun value after => Q value after ∧ ∃ state, P state ∧ (act state).1 = .ok value)
      E := by
  intro state begins
  rcases ran : act state with ⟨fault | value, mid⟩
  · exact ensures.error begins ran
  · exact ⟨ensures.ok begins ran, state, begins, by rw [ran]⟩

/-! ### Completing, and failing without a trace -/

section Endings

variable {state mid : σ} {value : α} {next : α → Action σ ε β}

/-- The action returns a value from this state. -/
def Completes (act : Action σ ε α) (state : σ) : Prop := ∃ value after, act state = (.ok value, after)

/-- The action fails in this state and leaves it as it is. -/
def Aborts (act : Action σ ε α) (state : σ) : Prop := ∃ fault, act state = (.error fault, state)

theorem Completes.pure : Completes (pure value : Action σ ε α) state := ⟨value, state, rfl⟩

theorem Completes.update {change : σ → α × σ} : Completes (update change : Action σ ε α) state :=
  ⟨(change state).1, (change state).2, rfl⟩

/-- Sequencing after a first part that has returned. -/
theorem Completes.of_ok (ran : act state = (.ok value, mid)) (rest : Completes (next value) mid) :
    Completes (act >>= next) state := by
  unfold Completes
  rw [bind_of_ok ran]
  exact rest

theorem Completes.bind (first : Completes act state)
    (rest : ∀ value after, Completes (next value) after) : Completes (act >>= next) state := by
  obtain ⟨value, after, ran⟩ := first
  exact .of_ok ran (rest value after)

theorem Aborts.fail (fault : ε) : Aborts (fail fault : Action σ ε α) state := ⟨fault, rfl⟩

/-- A first part that only looks at the state. -/
theorem Aborts.of_ok (ran : act state = (.ok value, state)) (rest : Aborts (next value) state) :
    Aborts (act >>= next) state := by
  unfold Aborts
  rw [bind_of_ok ran]
  exact rest

theorem Aborts.bind (first : Aborts act state) : Aborts (act >>= next) state := by
  obtain ⟨fault, ran⟩ := first
  exact ⟨fault, bind_of_error ran⟩

end Endings

/-! ### What an action may change -/

section Changes

variable {R T : σ → σ → Prop}

/-- **The states before and after are related**, with whichever ending. -/
def Moves (R : σ → σ → Prop) (act : Action σ ε α) : Prop := ∀ state, R state (act state).2

theorem Moves.mono (moves : Moves R act) (weaken : ∀ before after, R before after → T before after) :
    Moves T act :=
  fun state => weaken _ _ (moves state)

theorem Moves.update {change : σ → α × σ} (changes : ∀ state, R state (change state).2) :
    Moves R (Action.update change : Action σ ε α) :=
  changes

theorem Moves.ite {condition : Prop} [Decidable condition] {other : Action σ ε α}
    (holds : condition → Moves R act) (fails : ¬ condition → Moves R other) :
    Moves R (if condition then act else other) := by
  split_ifs with holding
  · exact holds holding
  · exact fails holding

/-- A predicate that the relation keeps is an invariant. -/
theorem Moves.ensures {P : σ → Prop} (moves : Moves R act)
    (keeps : ∀ before after, R before after → P before → P after) :
    Keeps P act := by
  intro state begins
  have moved := keeps _ _ (moves state) begins
  rcases ran : act state with ⟨fault | value, after⟩
  · rw [ran] at moved
    exact moved
  · rw [ran] at moved
    exact moved

variable [IsPreorder σ R]

theorem Moves.pure (value : α) : Moves R (pure value : Action σ ε α) := fun state => refl_of R state

theorem Moves.fail (fault : ε) : Moves R (fail fault : Action σ ε α) := fun state => refl_of R state

theorem Moves.bind {next : α → Action σ ε β} (first : Moves R act)
    (second : ∀ value, Moves R (next value)) : Moves R (act >>= next) := by
  intro state
  have begun := first state
  rw [bind_apply]
  rcases ran : act state with ⟨fault | value, mid⟩
  · rw [ran] at begun
    exact begun
  · rw [ran] at begun
    exact trans_of R begun (second value mid)

/-- What is related to an earlier state is related to it afterwards. -/
theorem Moves.keeps (moves : Moves R act) (origin : σ) : Keeps (R origin) act :=
  moves.ensures fun _ _ moved reached => trans_of R reached moved

theorem Moves.of_keeps (keeps : ∀ origin, Keeps (R origin) act) : Moves R act :=
  fun state => (keeps state).after (refl_of R state)

end Changes

end Action

end Vanet.Library
