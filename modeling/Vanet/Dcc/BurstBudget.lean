/-
**How many messages a burst budget lets through.**

The ring of a `BurstBudget` has the messages of the present burst, and its capacity is the limit. All
of these messages are sent within a burst duration of the first one, and two bursts are a period apart
(`Budgeted`), so no window as long as a burst has messages of two bursts. This needs a ring whose
capacity is the limit, and queries that do not come at the very end of a period: there `delay` returns
zero without clearing the ring.
-/

import Vanet.Dcc.TransmitRateControl
import Vanet.Library.Run

namespace Vanet.Dcc

open Vanet.Library

/-! ### Windows of time -/

/-- How many of the instants are within the half-open window. -/
def inWindow (duration start : ℤ) (instants : List ℤ) : ℕ :=
  instants.countP fun instant => start ≤ instant ∧ instant < start + duration

/-- **At most so many instants** are within any window of the duration. -/
def Paced (duration : ℤ) (limit : ℕ) (instants : List ℤ) : Prop :=
  ∀ start, inWindow duration start instants ≤ limit

section Paced

variable {duration : ℤ} {limit : ℕ} {older recent : List ℤ}

theorem paced_of_length (few : recent.length ≤ limit) : Paced duration limit recent :=
  fun _ => Nat.le_trans List.countP_le_length few

/-- No window has instants of two lists that are a duration apart. -/
theorem Paced.append (first : Paced duration limit older) (second : Paced duration limit recent)
    (apart : ∀ early ∈ older, ∀ late ∈ recent, early + duration ≤ late) :
    Paced duration limit (older ++ recent) := by
  intro start
  unfold inWindow
  rw [List.countP_append]
  by_cases reaches : ∃ early ∈ older, start ≤ early
  · obtain ⟨early, member, begun⟩ := reaches
    have beyond : inWindow duration start recent = 0 := by
      refine List.countP_eq_zero.mpr fun late among => ?_
      have after := apart early member late among
      rw [decide_eq_true_eq]
      omega
    unfold inWindow at beyond
    rw [beyond]
    exact first start
  · have before : inWindow duration start older = 0 := by
      refine List.countP_eq_zero.mpr fun early member => ?_
      rw [decide_eq_true_eq]
      exact fun inside => reaches ⟨early, member, inside.1⟩
    unfold inWindow at before
    rw [before, Nat.zero_add]
    exact second start

end Paced

/-! ### Construction -/

namespace BurstBudget

/-- `BurstBudget(const Runtime&)`: `N_Burst`, `T_Burst` and `T_BurstPeriod`. -/
def create : BurstBudget := ⟨.empty 20, 1000000, 10000000⟩

/-- `burst_messages`. The ring is resized, with time points at the epoch. -/
def setBurstMessages (budget : BurstBudget) (n : ℕ) : BurstBudget :=
  { budget with messages := budget.messages.resize n 0 }

def setBurstDuration (budget : BurstBudget) (d : ℤ) : BurstBudget :=
  { budget with burstDuration := d }

def setBurstPeriod (budget : BurstBudget) (p : ℤ) : BurstBudget :=
  { budget with burstPeriod := p }

/-- **The four branches of `delay`.** -/
theorem delay_cases (budget : BurstBudget) (now : ℤ) :
    (budget.messages.items = [] ∧ budget.delay now = (0, budget)) ∨
    (∃ front ∈ budget.messages.items.head?,
      (now < front + budget.burstDuration ∧ budget.messages.full = false) ∧
        budget.delay now = (0, budget)) ∨
    (∃ front ∈ budget.messages.items.head?, front + budget.burstPeriod < now ∧
      budget.delay now = (0, { budget with messages := budget.messages.clear })) ∨
    ∃ front ∈ budget.messages.items.head?, now ≤ front + budget.burstPeriod ∧
      budget.delay now = (front + budget.burstPeriod - now, budget) := by
  unfold delay
  cases ahead : budget.messages.items.head? with
  | none => exact .inl ⟨List.head?_eq_none_iff.mp ahead, rfl⟩
  | some front =>
    dsimp only
    by_cases bursting : front + budget.burstDuration > now ∧ budget.messages.full = false
    · rw [if_pos bursting]
      exact .inr (.inl ⟨front, rfl, bursting, rfl⟩)
    · rw [if_neg bursting]
      by_cases passed : front + budget.burstPeriod < now
      · rw [if_pos passed]
        exact .inr (.inr (.inl ⟨front, rfl, passed, rfl⟩))
      · rw [if_neg passed]
        exact .inr (.inr (.inr ⟨front, rfl, by omega, rfl⟩))

end BurstBudget

/-! ### Use of a budget -/

/-- **A budget in use**: the limit that has been set, whether `delay` has just returned zero, and the
messages that have been notified. -/
structure BudgetUse where
  budget : BurstBudget
  now : ℤ
  limit : ℕ
  permitted : Bool
  notified : List ℤ

namespace BudgetUse

inductive Action
  | delay
  | notify
  | burstMessages (n : ℕ)
  | advance (now : ℤ)

/-- A budget with any duration and period of which a period has two durations. -/
def Initial (use : BudgetUse) : Prop :=
  ∃ now d p, 0 < d ∧ 2 * d ≤ p ∧
    use = ⟨(BurstBudget.create.setBurstDuration d).setBurstPeriod p, now, 20, false, []⟩

/-- **One call**, or time passing. A message is notified when the last call has been a `delay` that
returned zero at this instant; the limit is set before the first message. -/
def step (use : BudgetUse) : Action → Option BudgetUse
  | .delay =>
    let asked := use.budget.delay use.now
    some { use with budget := asked.2, permitted := asked.1 = 0 }
  | .notify =>
    if use.permitted then
      some { use with
        budget := use.budget.notify use.now
        permitted := false
        notified := use.notified ++ [use.now] }
    else none
  | .burstMessages n =>
    if use.notified = [] then
      some { use with budget := use.budget.setBurstMessages n, limit := n, permitted := false }
    else none
  | .advance now =>
    if use.now < now then some { use with now := now, permitted := false } else none

/-- **The condition on a call**: no query at the very end of a period, and no limit below the capacity
that the ring has already. -/
def Sound (use : BudgetUse) : Action → Prop
  | .delay => ∀ front ∈ use.budget.messages.items.head?, front + use.budget.burstPeriod ≠ use.now
  | .burstMessages n => use.budget.messages.capacity ≤ n
  | _ => True

/-! ### The invariant -/

/-- **The messages in bursts**: those in the ring are within a duration of the first one, and all
others are a duration before them and before the present. -/
structure Bursts (duration : ℤ) (limit : ℕ) (ring older : List ℤ) (now : ℤ) : Prop where
  paced : Paced duration limit older
  apart : ∀ early ∈ older, ∀ late ∈ ring, early + duration ≤ late
  past : ∀ early ∈ older, early + duration ≤ now
  burst : ∀ front ∈ ring.head?, ∀ late ∈ ring, late < front + duration

/-- The ring has the messages of the present burst, or the time points that it has been filled up with
and no message has been notified yet. -/
structure Budgeted (use : BudgetUse) : Prop where
  duration : 0 < use.budget.burstDuration
  period : 2 * use.budget.burstDuration ≤ use.budget.burstPeriod
  capacity : use.budget.messages.capacity = use.limit
  positive : 0 < use.limit
  ring : (∃ older, use.notified = older ++ use.budget.messages.items ∧
      Bursts use.budget.burstDuration use.limit use.budget.messages.items older use.now) ∨
    use.notified = [] ∧ use.budget.messages.full = true
  room : use.permitted = true → use.budget.messages.full = false ∧
    ∀ front ∈ use.budget.messages.items.head?, use.now < front + use.budget.burstDuration

section Bursts

variable {duration : ℤ} {limit : ℕ} {ring older : List ℤ} {now : ℤ}

/-- All messages are paced. -/
theorem Bursts.all (bursts : Bursts duration limit ring older now) (few : ring.length ≤ limit) :
    Paced duration limit (older ++ ring) :=
  bursts.paced.append (paced_of_length few) bursts.apart

theorem Bursts.later {next : ℤ} (bursts : Bursts duration limit ring older now) (passes : now ≤ next) :
    Bursts duration limit ring older next := by
  refine ⟨bursts.paced, bursts.apart, fun early member => ?_, bursts.burst⟩
  exact Int.le_trans (bursts.past early member) passes

/-- **The burst is over**: the ring is cleared. -/
theorem Bursts.finish {period front : ℤ} (bursts : Bursts duration limit ring older now)
    (few : ring.length ≤ limit) (ahead : front ∈ ring.head?) (periods : 2 * duration ≤ period)
    (passed : front + period < now) : Bursts duration limit [] (older ++ ring) now := by
  refine ⟨bursts.all few, ?_, ?_, ?_⟩
  · exact fun _ _ late impossible => absurd impossible List.not_mem_nil
  · intro early member
    rcases List.mem_append.mp member with before | recent
    · exact bursts.past early before
    · have inside := bursts.burst front ahead early recent
      omega
  · exact fun _ impossible => nomatch impossible

/-- **A message is notified** within a burst, or starts one. -/
theorem Bursts.notify (bursts : Bursts duration limit ring older now) (positive : 0 < duration)
    (inside : ∀ front ∈ ring.head?, now < front + duration) :
    Bursts duration limit (ring ++ [now]) older now := by
  refine ⟨bursts.paced, ?_, bursts.past, ?_⟩
  · intro early member late among
    rcases List.mem_append.mp among with before | last
    · exact bursts.apart early member late before
    · rw [List.mem_singleton.mp last]
      exact bursts.past early member
  · intro front ahead late among
    cases ring with
    | nil =>
      cases ahead
      rw [List.mem_singleton.mp among]
      omega
    | cons first rest =>
      rcases List.mem_append.mp among with before | last
      · exact bursts.burst front ahead late before
      · rw [List.mem_singleton.mp last]
        exact inside front ahead

end Bursts

theorem budgeted_initial {use : BudgetUse} (initial : Initial use) : Budgeted use := by
  obtain ⟨now, d, p, positive, periods, rfl⟩ := initial
  refine ⟨positive, periods, rfl, Nat.zero_lt_succ 19, .inl ⟨[], rfl, ?_⟩, nofun⟩
  refine ⟨fun _ => Nat.zero_le 20, ?_, ?_, ?_⟩
  · exact fun _ impossible => absurd impossible List.not_mem_nil
  · exact fun _ impossible => absurd impossible List.not_mem_nil
  · exact fun _ impossible => nomatch impossible

namespace Budgeted

variable {use : BudgetUse}

theorem few (budgeted : Budgeted use) : use.budget.messages.items.length ≤ use.limit :=
  budgeted.capacity ▸ use.budget.messages.bounded

theorem paced (budgeted : Budgeted use) :
    Paced use.budget.burstDuration use.limit use.notified := by
  rcases budgeted.ring with ⟨older, notified, bursts⟩ | ⟨unused, _⟩
  · rw [notified]
    exact bursts.all budgeted.few
  · rw [unused]
    exact fun _ => Nat.zero_le _

/-- **`delay`** leaves the ring alone, or clears it a period after the burst has begun. -/
theorem delay (budgeted : Budgeted use)
    (sound : ∀ front ∈ use.budget.messages.items.head?, front + use.budget.burstPeriod ≠ use.now) :
    Budgeted { use with
      budget := (use.budget.delay use.now).2
      permitted := (use.budget.delay use.now).1 = 0 } := by
  obtain ⟨duration, period, capacity, positive, ring, _⟩ := budgeted
  rcases use.budget.delay_cases use.now with
    ⟨empty, ran⟩ | ⟨front, ahead, ⟨early, vacant⟩, ran⟩ | ⟨front, ahead, passed, ran⟩ |
      ⟨front, ahead, waits, ran⟩
  · rw [ran]
    refine ⟨duration, period, capacity, positive, ring, fun _ => ⟨?_, ?_⟩⟩
    · unfold CircularBuffer.full
      rw [empty, capacity]
      exact decide_eq_false (Nat.ne_of_lt positive)
    · rw [empty]
      exact fun _ impossible => nomatch impossible
  · rw [ran]
    refine ⟨duration, period, capacity, positive, ring, fun _ => ⟨vacant, ?_⟩⟩
    intro first begins
    rw [Option.mem_unique begins ahead]
    exact early
  · rw [ran]
    refine ⟨duration, period, capacity, positive, .inl ?_, fun _ => ⟨?_, ?_⟩⟩
    · rcases ring with ⟨older, notified, bursts⟩ | ⟨unused, _⟩
      · have few : use.budget.messages.items.length ≤ use.limit :=
          capacity ▸ use.budget.messages.bounded
        refine ⟨older ++ use.budget.messages.items, ?_, bursts.finish few ahead period passed⟩
        rw [notified]
        exact (List.append_nil _).symm
      · refine ⟨[], unused, fun _ => Nat.zero_le _, ?_, ?_, ?_⟩
        · exact fun _ impossible => absurd impossible List.not_mem_nil
        · exact fun _ impossible => absurd impossible List.not_mem_nil
        · exact fun _ impossible => nomatch impossible
    · have nonempty : 0 ≠ use.budget.messages.capacity := by omega
      exact decide_eq_false nonempty
    · exact fun _ impossible => nomatch impossible
  · have boundary := sound front ahead
    rw [ran]
    refine ⟨duration, period, capacity, positive, ring, fun zero => ?_⟩
    have remains : front + use.budget.burstPeriod - use.now = 0 := of_decide_eq_true zero
    omega

/-- A message that has been permitted finds room in the ring. -/
theorem notify (budgeted : Budgeted use) (permitted : use.permitted = true) :
    Budgeted { use with
      budget := use.budget.notify use.now
      permitted := false
      notified := use.notified ++ [use.now] } := by
  obtain ⟨duration, period, capacity, positive, ring, room⟩ := budgeted
  obtain ⟨vacant, inside⟩ := room permitted
  have pushed : (use.budget.messages.push use.now).items =
      use.budget.messages.items ++ [use.now] := by
    have bounded := use.budget.messages.bounded
    have different : use.budget.messages.items.length ≠ use.budget.messages.capacity :=
      of_decide_eq_false vacant
    have fits : use.budget.messages.items.length + 1 - use.budget.messages.capacity = 0 := by omega
    show (use.budget.messages.items ++ [use.now]).drop _ = _
    rw [fits]
    rfl
  refine ⟨duration, period, capacity, positive, .inl ?_, nofun⟩
  rcases ring with ⟨older, notified, bursts⟩ | ⟨_, filled⟩
  · have kept : Bursts use.budget.burstDuration use.limit
        (use.budget.messages.push use.now).items older use.now := by
      rw [pushed]
      exact bursts.notify duration inside
    refine ⟨older, ?_, kept⟩
    show use.notified ++ [use.now] = older ++ (use.budget.messages.push use.now).items
    rw [pushed, notified, List.append_assoc]
  · rw [filled] at vacant
    cases vacant

/-- A limit that is not below the capacity becomes the capacity. -/
theorem burstMessages {n : ℕ} (budgeted : Budgeted use) (unused : use.notified = [])
    (above : use.budget.messages.capacity ≤ n) :
    Budgeted { use with
      budget := use.budget.setBurstMessages n
      limit := n
      permitted := false } := by
  obtain ⟨duration, period, capacity, positive, _, _⟩ := budgeted
  have resized : (use.budget.messages.resize n 0).capacity = n ∧
      (use.budget.messages.resize n 0).items.length = n := by
    have bounded := use.budget.messages.bounded
    unfold CircularBuffer.resize
    split_ifs with grows
    · refine ⟨Nat.max_eq_right above, ?_⟩
      dsimp only
      rw [List.length_append, List.length_replicate]
      omega
    · dsimp only
      rw [List.length_take]
      omega
  refine ⟨duration, period, resized.1, by show 0 < n; omega, .inr ⟨unused, ?_⟩, nofun⟩
  exact decide_eq_true (resized.2.trans resized.1.symm)

theorem step {after : BudgetUse} {action : Action} (budgeted : Budgeted use)
    (sound : use.Sound action) (taken : use.step action = some after) : Budgeted after := by
  cases action with
  | delay =>
    cases taken
    exact budgeted.delay sound
  | notify =>
    obtain ⟨permitted, notified⟩ := Option.ite_none_right_eq_some.mp taken
    cases notified
    exact budgeted.notify permitted
  | burstMessages n =>
    obtain ⟨unused, resized⟩ := Option.ite_none_right_eq_some.mp taken
    cases resized
    exact budgeted.burstMessages unused sound
  | advance now =>
    obtain ⟨passes, moved⟩ := Option.ite_none_right_eq_some.mp taken
    cases moved
    obtain ⟨duration, period, capacity, positive, ring, _⟩ := budgeted
    refine ⟨duration, period, capacity, positive, ?_, nofun⟩
    refine ring.imp (fun present => ?_) id
    obtain ⟨older, notified, bursts⟩ := present
    exact ⟨older, notified, bursts.later (le_of_lt passes)⟩

end Budgeted

/-- **The budget holds** in every run of such calls. -/
theorem notified_paced (use : BudgetUse) (reached : GuardedReach Initial step Sound use) :
    Paced use.budget.burstDuration use.limit use.notified := by
  have budgeted : Budgeted use :=
    reached.invariant (fun _ initial => budgeted_initial initial)
      (fun _ _ _ _ budgeted sound taken => budgeted.step sound taken) use
  exact budgeted.paced

/-! ### Runs -/

instance decidableSound (use : BudgetUse) : ∀ action, Decidable (use.Sound action)
  | .delay => inferInstanceAs
      (Decidable (∀ front ∈ use.budget.messages.items.head?, front + use.budget.burstPeriod ≠ use.now))
  | .burstMessages n => inferInstanceAs (Decidable (use.budget.messages.capacity ≤ n))
  | .notify | .advance _ => instDecidableTrue

/-- A budget with its default settings. -/
def fresh : BudgetUse := ⟨.create, 0, 20, false, []⟩

theorem fresh_initial : fresh.Initial := ⟨0, 1000000, 10000000, by decide, by decide, rfl⟩

/-- A message is sent if it need not wait. -/
def send : List Action := [.delay, .notify]

/-- A whole burst is let through, and the next one a period later. -/
theorem notified_paced_fresh :
    ∃ use, (GuardedReach Initial step Sound use ∧ use.notified.length = 21) ∧
      Paced use.budget.burstDuration use.limit use.notified := by
  obtain ⟨use, reached, sent⟩ := run_reach Initial step Sound
    (fun use => use.notified.length = 21) fresh_initial
    ((List.replicate 20 send).flatten ++ .delay :: .advance 10000001 :: send) (by decide)
  exact ⟨use, ⟨reached, sent⟩, notified_paced use reached⟩

/-- **The budget is exceeded** at the end of a period, and by a limit that is below the capacity.

Two messages are sent half a second apart. At the very end of the period of the first one the ring is
filled up without being cleared; it is cleared when the period of the second one ends. -/
theorem not_notified_paced :
    (¬ ∀ use, Reachable Initial step use → use.limit = 20 →
      Paced use.budget.burstDuration use.limit use.notified) ∧
    ¬ ∀ use, Reachable Initial step use → use.limit = 1 →
      Paced use.budget.burstDuration use.limit use.notified := by
  constructor
  · intro paced
    obtain ⟨use, reached, limited, exceeded⟩ := run_reach Initial step (fun _ _ => True)
      (fun use => use.limit = 20 ∧
        use.limit < inWindow use.budget.burstDuration 10000000 use.notified) fresh_initial
      (send ++ .advance 500000 :: send ++ .advance 10000000 :: (List.replicate 19 send).flatten ++
        .advance 10500001 :: send ++ send) (by decide)
    exact absurd (paced use reached limited 10000000) (Nat.not_le.mpr exceeded)
  · intro paced
    obtain ⟨use, reached, limited, exceeded⟩ := run_reach Initial step (fun _ _ => True)
      (fun use => use.limit = 1 ∧ use.limit < inWindow use.budget.burstDuration 0 use.notified)
      fresh_initial (.burstMessages 1 :: send ++ send) (by decide)
    exact absurd (paced use reached limited 0) (Nat.not_le.mpr exceeded)

end BudgetUse

end Vanet.Dcc
