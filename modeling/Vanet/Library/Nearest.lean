/-
**The best of several offers, looked at one after the other.**

An offer has a label and a score. One that is strictly below the best score so far replaces it; the
first best score is a bound, which no offer has to reach.

* `isBest_nearest`: the result is a least offer below the bound, or there is none.
* `IsBest.score_eq`, `IsBest.label_eq`: the order of the offers does not matter, up to ties.
* `nodup_of_isChain`: a path whose steps lead elsewhere is at no place twice.
-/

import Mathlib.Data.List.Chain
import Mathlib.Data.List.Nodup
import Mathlib.Order.Lattice

namespace Vanet.Library

variable {α γ β : Type} [LinearOrder β]

/-- An offer replaces the best one so far if it is strictly better. -/
def improve (offer : α → Option (γ × β)) (best : Option γ × β) (candidate : α) : Option γ × β :=
  match offer candidate with
  | some (label, score) => if score < best.2 then (some label, score) else best
  | none => best

/-- The best offer below a bound. -/
def nearest (offer : α → Option (γ × β)) (bound : β) (candidates : List α) : Option γ × β :=
  candidates.foldl (improve offer) (none, bound)

/-- **The best offer below a bound**: the bound if there is none. -/
structure IsBest (offer : α → Option (γ × β)) (bound : β) (candidates : List α)
    (best : Option γ × β) : Prop where
  least : ∀ candidate ∈ candidates, ∀ label score, offer candidate = some (label, score) →
    best.2 ≤ score
  offered : (best.1 = none ∧ best.2 = bound) ∨
    ∃ candidate ∈ candidates, ∃ label, offer candidate = some (label, best.2) ∧
      best.1 = some label ∧ best.2 < bound

section Best

variable {offer : α → Option (γ × β)} {bound : β} {candidates others : List α}
  {best other : Option γ × β}

theorem IsBest.bounded (isBest : IsBest offer bound candidates best) : best.2 ≤ bound := by
  obtain ⟨-, same⟩ | ⟨_, -, _, -, -, below⟩ := isBest.offered
  · exact le_of_eq same
  · exact le_of_lt below

/-- **One more candidate.** -/
theorem IsBest.improve (isBest : IsBest offer bound candidates best) (candidate : α) :
    IsBest offer bound (candidates ++ [candidate]) (improve offer best candidate) := by
  have among {member : α} (earlier : member ∈ candidates) : member ∈ candidates ++ [candidate] :=
    List.mem_append_left _ earlier
  have last : candidate ∈ candidates ++ [candidate] := List.mem_append_right _ List.mem_cons_self
  have kept : (∀ label score, offer candidate = some (label, score) → best.2 ≤ score) →
      IsBest offer bound (candidates ++ [candidate]) best := by
    intro worse
    constructor
    · intro member present
      obtain earlier | ⟨⟨⟩⟩ := List.mem_append.mp present |>.imp_right List.mem_singleton.mp
      · exact isBest.least member earlier
      · exact worse
    · obtain none | ⟨member, earlier, rest⟩ := isBest.offered
      · exact .inl none
      · exact .inr ⟨member, among earlier, rest⟩
  unfold Library.improve
  cases offers : offer candidate with
  | none =>
    apply kept
    intro label score made
    rw [offers] at made
    cases made
  | some made =>
    obtain ⟨label, score⟩ := made
    dsimp only
    split_ifs with better
    · constructor
      · intro member present label' score' made
        obtain earlier | ⟨⟨⟩⟩ := List.mem_append.mp present |>.imp_right List.mem_singleton.mp
        · exact le_trans (le_of_lt better) (isBest.least member earlier label' score' made)
        · rw [offers] at made
          cases made
          exact le_rfl
      · exact .inr ⟨candidate, last, label, offers, rfl, lt_of_lt_of_le better isBest.bounded⟩
    · apply kept
      intro label' score' made
      rw [offers] at made
      cases made
      exact not_lt.mp better

/-- **All candidates.** -/
theorem isBest_nearest (offer : α → Option (γ × β)) (bound : β) (candidates : List α) :
    IsBest offer bound candidates (nearest offer bound candidates) := by
  induction candidates using List.reverseRecOn with
  | nil => exact ⟨nofun, .inl ⟨rfl, rfl⟩⟩
  | append_singleton candidates candidate ih =>
    unfold nearest
    rw [List.foldl_append]
    exact ih.improve candidate

/-- There is no offer below the bound. -/
theorem IsBest.none_iff (isBest : IsBest offer bound candidates best) :
    best.1 = none ↔ ∀ candidate ∈ candidates, ∀ label score,
      offer candidate = some (label, score) → bound ≤ score := by
  obtain ⟨none, same⟩ | ⟨candidate, among, label, offers, found, below⟩ := isBest.offered
  · refine iff_of_true none ?_
    rw [← same]
    exact isBest.least
  · refine iff_of_false (by rw [found]; nofun) ?_
    intro beyond
    exact absurd (beyond candidate among label best.2 offers) (not_le.mpr below)

/-- **The best score does not depend on the order of the candidates.** -/
theorem IsBest.score_le (isBest : IsBest offer bound candidates best)
    (otherBest : IsBest offer bound others other) (among : ∀ member ∈ others, member ∈ candidates) :
    best.2 ≤ other.2 := by
  obtain ⟨-, same⟩ | ⟨candidate, present, label, offers, -, -⟩ := otherBest.offered
  · rw [same]
    exact isBest.bounded
  · exact isBest.least candidate (among candidate present) label other.2 offers

theorem IsBest.score_eq (isBest : IsBest offer bound candidates best)
    (otherBest : IsBest offer bound others other)
    (same : ∀ member, member ∈ candidates ↔ member ∈ others) : best.2 = other.2 :=
  le_antisymm (isBest.score_le otherBest fun member => (same member).mpr)
    (otherBest.score_le isBest fun member => (same member).mp)

/-- **Nor does the label**, unless two candidates tie. -/
theorem IsBest.label_eq (isBest : IsBest offer bound candidates best)
    (otherBest : IsBest offer bound others other)
    (same : ∀ member, member ∈ candidates ↔ member ∈ others)
    (untied : ∀ first ∈ candidates, ∀ second ∈ candidates, ∀ label label' score,
      offer first = some (label, score) → offer second = some (label', score) → label = label') :
    best.1 = other.1 := by
  have scores := isBest.score_eq otherBest same
  obtain ⟨none, bound₁⟩ | ⟨first, among, label, offers, found, below⟩ := isBest.offered
  · obtain ⟨none', -⟩ | ⟨second, -, label, -, -, below⟩ := otherBest.offered
    · rw [none, none']
    · rw [← scores, bound₁] at below
      exact absurd below (lt_irrefl bound)
  · obtain ⟨-, bound₂⟩ | ⟨second, among', label', offers', found', -⟩ := otherBest.offered
    · rw [scores, bound₂] at below
      exact absurd below (lt_irrefl bound)
    · rw [← scores] at offers'
      rw [found, found', untied first among second ((same second).mpr among') label label' best.2
        offers offers']

end Best

/-- **A path whose steps lead elsewhere**, by a transitive relation, is at no place twice. -/
theorem nodup_of_isChain {R : α → α → Prop} [IsTrans α R] (place : α → γ) {path : List α}
    (chain : path.IsChain R) (moves : ∀ first second, R first second → place first ≠ place second) :
    (path.map place).Nodup := by
  have related := List.isChain_iff_pairwise.mp chain
  refine List.pairwise_map.mpr (related.imp ?_)
  intro first second
  exact moves first second

end Vanet.Library
