/-
**Transmit rate control.**

A `TransmitRateControl` says how long a transmission has to wait and is told about every actual one.
Asking for a delay may tidy up the state (`BurstBudget` clears a finished burst), but it changes no
answer at the same instant; a delay is never negative. The controls of the source are instances:
`singleReactive` with one budget for all profiles and `bursty` with message bursts for DP0.
-/

import Vanet.Common.Runtime
import Vanet.Library.CircularBuffer

namespace Vanet.Dcc

open Vanet.Common Vanet.Library

inductive Profile
  | dp0
  | dp1
  | dp2
  | dp3
  deriving DecidableEq

structure DataRateG5 where
  bytesPerSecond : ℕ
  codedBitsPerSymbol : ℕ
  deriving DecidableEq

/-- `G5_6Mbps`. -/
def g5_6Mbps : DataRateG5 := ⟨6000 * 1000 / 8, 96⟩

structure Transmission where
  profile : Profile
  dataRate : Option DataRateG5
  bodyLength : ℕ
  deriving DecidableEq

/-- **The interface** of a control with states of type `τ`. -/
structure TransmitRateControl (τ : Type) where
  delay : τ → ℤ → Transmission → ℤ × τ
  notify : τ → ℤ → Transmission → τ
  delay_nonneg : ∀ trc now tx, 0 ≤ (delay trc now tx).1
  delay_again : ∀ trc now tx other,
    (delay (delay trc now tx).2 now other).1 = (delay trc now other).1

/-- Two states of a control that answer alike at an instant. -/
def TransmitRateControl.Alike {τ : Type} (control : TransmitRateControl τ) (now : ℤ)
    (trc other : τ) : Prop :=
  ∀ tx, (control.delay other now tx).1 = (control.delay trc now tx).1

/-! ### One budget for all messages -/

/-- `StateMachineBudget`, with the interval that its state machine currently asks for. -/
structure StateMachineBudget where
  transmissionInterval : ℤ
  lastTx : Option ℤ
  deriving DecidableEq

namespace StateMachineBudget

def delay (budget : StateMachineBudget) (now : ℤ) : ℤ :=
  match budget.lastTx with
  | some lastTx =>
    if lastTx + budget.transmissionInterval < now then 0
    else lastTx + budget.transmissionInterval - now
  | none => 0

def notify (budget : StateMachineBudget) (now : ℤ) : StateMachineBudget :=
  { budget with lastTx := some now }

theorem delay_nonneg (budget : StateMachineBudget) (now : ℤ) : 0 ≤ budget.delay now := by
  unfold delay
  cases budget.lastTx with
  | none => exact le_refl 0
  | some lastTx =>
    by_cases passed : lastTx + budget.transmissionInterval < now
    · simp [passed]
    · simp only [if_neg passed]
      omega

end StateMachineBudget

/-- `SingleReactiveTransmitRateControl`. -/
def singleReactive : TransmitRateControl StateMachineBudget where
  delay budget now _ := (budget.delay now, budget)
  notify budget now _ := budget.notify now
  delay_nonneg budget now _ := budget.delay_nonneg now
  delay_again _ _ _ _ := rfl

/-! ### Message bursts -/

/-- `BurstBudget`. -/
structure BurstBudget where
  messages : CircularBuffer ℤ
  burstDuration : ℤ
  burstPeriod : ℤ
  deriving DecidableEq

namespace BurstBudget

def delay (budget : BurstBudget) (now : ℤ) : ℤ × BurstBudget :=
  match budget.messages.items.head? with
  | none => (0, budget)
  | some front =>
    if front + budget.burstDuration > now ∧ budget.messages.full = false then (0, budget)
    else if front + budget.burstPeriod < now then
      (0, { budget with messages := budget.messages.clear })
    else (front + budget.burstPeriod - now, budget)

def notify (budget : BurstBudget) (now : ℤ) : BurstBudget :=
  { budget with messages := budget.messages.push now }

theorem delay_nonneg (budget : BurstBudget) (now : ℤ) : 0 ≤ (budget.delay now).1 := by
  unfold delay
  cases budget.messages.items.head? with
  | none => exact le_refl 0
  | some front =>
    by_cases bursting : front + budget.burstDuration > now ∧ budget.messages.full = false
    · simp [bursting]
    · by_cases passed : front + budget.burstPeriod < now
      · simp only [if_neg bursting, if_pos passed, le_refl]
      · simp only [if_neg bursting, if_neg passed]
        omega

/-- A burst is only cleared where the answer is zero, and stays zero without it. -/
theorem delay_again (budget : BurstBudget) (now : ℤ) :
    ((budget.delay now).2.delay now).1 = (budget.delay now).1 := by
  have unchanged : (budget.delay now).2 = budget ∨
      (budget.delay now).1 = 0 ∧ (budget.delay now).2.messages.items = [] := by
    unfold delay
    cases budget.messages.items.head? with
    | none => exact .inl rfl
    | some front =>
      by_cases bursting : front + budget.burstDuration > now ∧ budget.messages.full = false
      · exact .inl (by simp [bursting])
      · by_cases passed : front + budget.burstPeriod < now
        · exact .inr (by simp [bursting, passed, CircularBuffer.clear, CircularBuffer.empty])
        · exact .inl (by simp [bursting, passed])
  rcases unchanged with same | ⟨zero, cleared⟩
  · rw [same]
  · rw [zero, delay, cleared]
    rfl

end BurstBudget

/-- The state of a `BurstyTransmitRateControl`. -/
structure BurstyState where
  burstBudget : BurstBudget
  fsmBudget : StateMachineBudget
  deriving DecidableEq

namespace BurstyState

def delay (state : BurstyState) (now : ℤ) (tx : Transmission) : ℤ × BurstyState :=
  match tx.profile with
  | .dp0 => ((state.burstBudget.delay now).1, { state with burstBudget := (state.burstBudget.delay now).2 })
  | .dp1 | .dp2 | .dp3 => (state.fsmBudget.delay now, state)

def notify (state : BurstyState) (now : ℤ) (tx : Transmission) : BurstyState :=
  match tx.profile with
  | .dp0 => { state with burstBudget := state.burstBudget.notify now }
  | .dp1 | .dp2 | .dp3 => { state with fsmBudget := state.fsmBudget.notify now }

end BurstyState

/-- `BurstyTransmitRateControl`. -/
def bursty : TransmitRateControl BurstyState where
  delay := BurstyState.delay
  notify := BurstyState.notify
  delay_nonneg state now tx := by
    unfold BurstyState.delay
    cases tx.profile
    · exact state.burstBudget.delay_nonneg now
    all_goals exact state.fsmBudget.delay_nonneg now
  delay_again state now tx other := by
    unfold BurstyState.delay
    cases tx.profile <;> cases other.profile
    · exact state.burstBudget.delay_again now
    all_goals rfl

namespace TransmitRateControl

variable {τ : Type} {control : TransmitRateControl τ} {now : ℤ} {trc mid last : τ}

theorem Alike.refl : control.Alike now trc trc := fun _ => rfl

theorem Alike.trans (first : control.Alike now trc mid) (second : control.Alike now mid last) :
    control.Alike now trc last :=
  fun tx => (second tx).trans (first tx)

theorem alike_delay (tx : Transmission) : control.Alike now trc (control.delay trc now tx).2 :=
  control.delay_again trc now tx

end TransmitRateControl

end Vanet.Dcc
