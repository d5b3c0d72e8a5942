/-
**What an action uses up.**

A family of predicates speaks of a credit; whatever has a credit has every smaller one, too
(`Antitone`). An action that costs some credit leaves all that there is beyond it, and what its value
is worth. A fault costs no more than a value that is worth nothing.
-/

import Mathlib.Order.Monotone.Basic
import Vanet.Library.Action

namespace Vanet.Library

namespace Action

variable {σ ε α β : Type} {P : ℕ → σ → Prop} {cost : ℕ} {worth : α → ℕ} {act : Action σ ε α}

/-- **The action costs so much credit** and returns a value that is worth some of it. -/
def Costs (P : ℕ → σ → Prop) (cost : ℕ) (act : Action σ ε α) (worth : α → ℕ) : Prop :=
  ∀ credit, Ensures (P (credit + cost)) act (fun value => P (credit + worth value)) (P credit)

/-- The action costs nothing and its value is worth nothing. -/
abbrev Free (P : ℕ → σ → Prop) (act : Action σ ε α) : Prop := Costs P 0 act fun _ => 0

theorem Costs.pure (antitone : Antitone P) {value : α} (worthy : worth value ≤ cost) :
    Costs P cost (pure value : Action σ ε α) worth :=
  fun credit => .pure fun state holds => antitone (Nat.add_le_add_left worthy credit) state holds

theorem Costs.fail (antitone : Antitone P) {fault : ε} :
    Costs P cost (fail fault : Action σ ε α) worth :=
  fun credit => .fail fun state holds => antitone (Nat.le_add_right credit cost) state holds

theorem Costs.bind {next : α → Action σ ε β} {rest : β → ℕ} (first : Costs P cost act worth)
    (second : ∀ value, Costs P (worth value) (next value) rest) :
    Costs P cost (act >>= next) rest :=
  fun credit => .bind (first credit) fun value => second value credit

theorem Costs.ite {condition : Prop} [Decidable condition] {other : Action σ ε α}
    (holds : condition → Costs P cost act worth) (fails : ¬ condition → Costs P cost other worth) :
    Costs P cost (if condition then act else other) worth :=
  fun credit => .ite (fun holding => holds holding credit) fun failing => fails failing credit

/-- An action that keeps every predicate of the family keeps any credit for what follows. -/
theorem Costs.of_moves {R : σ → σ → Prop} (antitone : Antitone P)
    (keeps : ∀ credit before after, R before after → P credit before → P credit after)
    (moves : Moves R act) : Costs P cost act fun _ => cost := by
  intro credit
  have kept : Keeps (P (credit + cost)) act := moves.ensures (keeps (credit + cost))
  exact kept.weaken (fun _ _ holds => holds) fun state holds =>
    antitone (Nat.le_add_right credit cost) state holds

/-- An action costs as much if there is more, and the surplus may be kept. -/
theorem Costs.surplus (costs : Costs P cost act worth) (antitone : Antitone P) (more : ℕ) :
    Costs P (cost + more) act fun value => worth value + more := by
  intro credit
  have larger := costs (credit + more)
  refine (larger.mono ?_ ?_).weaken (fun _ _ holds => holds) ?_
  · intro state holds
    rwa [Nat.add_right_comm, Nat.add_assoc]
  · intro value state holds
    rwa [Nat.add_right_comm, Nat.add_assoc] at holds
  · exact fun state holds => antitone (Nat.le_add_right credit more) state holds

/-- The value may be worth less. -/
theorem Costs.waste {less : α → ℕ} (costs : Costs P cost act worth) (antitone : Antitone P)
    (smaller : ∀ value, less value ≤ worth value) : Costs P cost act less :=
  fun credit => (costs credit).weaken
    (fun value state holds => antitone (Nat.add_le_add_left (smaller value) credit) state holds)
    fun _ holds => holds

/-- What costs nothing can be done with any credit. -/
theorem Costs.keeps (costs : Free P act) (credit : ℕ) : Keeps (P credit) act :=
  costs credit

end Action

end Vanet.Library
