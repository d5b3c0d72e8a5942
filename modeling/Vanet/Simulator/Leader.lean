/-
**`check` and `leaderCheck`: who leads a group.**

A station leads when every other station it has seen is behind it. `check` compares the bearing to
the other vehicle with the own heading, `leaderCheck` runs over the surroundings and collects the
ids of the others.

* `leaderCheck_stored`: a group that is stored consists of all the other ids in the order of the
  surroundings, and the result is `True` only if there is one.
* `check_indexError`: a tuple without heading makes `check` fail.
-/

import Vanet.Simulator.Station

namespace Vanet.Simulator

open Vanet.Library Vanet.Socktap

variable (world : World)

/-- `check(myInfo, otherInfo)`. -/
def check (myInfo otherInfo : List ℚ) : Except PyError Bool := do
  let lat1 ← subscript myInfo 0
  let lon1 ← subscript myInfo 1
  let lat2 ← subscript otherInfo 0
  let lon2 ← subscript otherInfo 1
  let bearingToOtherCar := world.calcBearing lat1 lon1 lat2 lon2
  let bearingOfThisCar ← subscript myInfo 2
  let relativeBearing := bearingToOtherCar - bearingOfThisCar
  let relativeBearing := if relativeBearing < -180 then 360 + relativeBearing else relativeBearing
  let relativeBearing := if relativeBearing > 180 then 360 - relativeBearing else relativeBearing
  return decide (relativeBearing ≥ 170 ∧ relativeBearing ≤ 190)

/-- **Two coordinates are not enough for `check`.** -/
theorem check_indexError {myInfo : List ℚ} (short : myInfo.length ≤ 2) (lat lng : ℚ) :
    check world myInfo [lat, lng] = .error .indexError := by
  match myInfo, short with
  | [], _ => rfl
  | [_], _ => rfl
  | [_, _], _ => rfl

/-- The loop of `leaderCheck` over the surroundings. The second component is what is stored as the
station's group: nothing, if the loop is left early. -/
def checkOthers (currClient : ℕ) (myInfo : List ℚ) :
    Surroundings → Text → Bool → Except PyError (Bool × Option Text)
  | [], group, res => .ok (res, some group)
  | (key, positions) :: rest, group, res =>
    if key ≠ currClient then do
      let otherInfo ← Surroundings.lastOf positions
      if ← check world myInfo otherInfo then
        checkOthers currClient myInfo rest (group ++ str key) true
      else
        return (false, none)
    else checkOthers currClient myInfo rest group res

/-- `leaderCheck(currClient, mySurroudings, currentLeader)`: the result, and the group to store. -/
def leaderCheck (currClient : ℕ) (mySurroudings : Surroundings) (currentLeader : ℤ) :
    Except PyError (Bool × Option Text) := do
  let myInfo ← mySurroudings.last currClient
  if currentLeader ≠ -1 then
    let otherInfo ← mySurroudings.last currentLeader.toNat
    return (← check world myInfo otherInfo, none)
  else
    checkOthers world currClient myInfo mySurroudings [] false

/-- The other stations a station has seen. -/
def Surroundings.others (surroundings : Surroundings) (currClient : ℕ) : List ℕ :=
  surroundings.keys.filter (· ≠ currClient)

/-- **A stored group lists the others**, and the result records whether there is any. -/
theorem checkOthers_stored {currClient : ℕ} {myInfo : List ℚ} (surroundings : Surroundings) :
    ∀ {before stored : Text} {res result : Bool},
      checkOthers world currClient myInfo surroundings before res = .ok (result, some stored) →
      stored = before ++ spell (surroundings.others currClient) ∧
        (result = true → res = true ∨ surroundings.others currClient ≠ []) := by
  induction surroundings with
  | nil =>
    intro before stored res result finished
    simp only [checkOthers, Except.ok.injEq, Prod.mk.injEq, Option.some.injEq] at finished
    obtain ⟨rfl, rfl⟩ := finished
    exact ⟨by simp [Surroundings.others, Surroundings.keys, spell], fun holds => .inl holds⟩
  | cons entry rest ih =>
    obtain ⟨key, positions⟩ := entry
    intro before stored res result finished
    unfold checkOthers at finished
    by_cases own : key = currClient
    · rw [if_neg (not_not.mpr own)] at finished
      have unchanged : Surroundings.others ((key, positions) :: rest) currClient =
          Surroundings.others rest currClient := by
        simp [Surroundings.others, Surroundings.keys, own]
      rw [unchanged]
      exact ih finished
    · rw [if_pos own] at finished
      have extended : Surroundings.others ((key, positions) :: rest) currClient =
          key :: Surroundings.others rest currClient := by
        simp [Surroundings.others, Surroundings.keys, own]
      rw [extended]
      refine ⟨?_, fun _ => .inr (List.cons_ne_nil _ _)⟩
      -- the recursive call is the only branch that stores a group
      cases seen : Surroundings.lastOf positions with
      | error failure =>
        rw [seen] at finished
        cases finished
      | ok otherInfo =>
        cases checked : check world myInfo otherInfo with
        | error failure =>
          rw [seen] at finished
          simp only [bind, Except.bind, checked] at finished
          cases finished
        | ok res' =>
          rw [seen] at finished
          cases res' with
          | false =>
            simp only [bind, Except.bind, checked] at finished
            cases finished
          | true =>
            simp only [bind, Except.bind, checked, if_true] at finished
            rw [(ih finished).1, List.append_assoc]
            rfl

/-- **`leaderCheck` stores the ids of the others**, and returns `True` together with a stored group
only if there are some. -/
theorem leaderCheck_stored {currClient : ℕ} {surroundings : Surroundings} {currentLeader : ℤ}
    {result : Bool} {stored : Text}
    (finished : leaderCheck world currClient surroundings currentLeader =
      .ok (result, some stored)) :
    stored = spell (surroundings.others currClient) ∧
      (result = true → surroundings.others currClient ≠ []) := by
  unfold leaderCheck at finished
  cases seen : surroundings.last currClient with
  | error failure =>
    rw [seen] at finished
    cases finished
  | ok myInfo =>
    rw [seen] at finished
    simp only [bind, Except.bind] at finished
    split_ifs at finished
    · -- with a current leader nothing is stored
      split at finished
      · cases finished
      · split at finished <;> cases finished
    · obtain ⟨group, some_other⟩ := checkOthers_stored world surroundings finished
      refine ⟨by rw [group, List.nil_append], fun holds => ?_⟩
      rcases some_other holds with impossible | other
      · cases impossible
      · exact other

end Vanet.Simulator
