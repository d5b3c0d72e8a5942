/-
**The simulator's stations.**

`main` starts four processes; process `i` runs `startSimul` for station `i` and handles the
messages of its own broker with `on_message{i+2}`. The processes share no memory: each has its own
copy of `valsList` and `surroudingsList`, and in process `i` the record `userdata[2]` of the handler,
the argument `vals` of `startSimul` and `valsList[i]` are one object.

The shared values are dynamically typed: `vals["group"]` and `vals["overlord"]` hold a string or an
integer (`PyVal`), positions are tuples of different lengths. Python exceptions are values.
-/

import Mathlib.Data.Fintype.Basic
import Vanet.Socktap.Denm

namespace Vanet.Simulator

open Vanet.Library Vanet.Socktap

/-! ### Python values -/

/-- A string or an integer. No integer of the protocol is negative. -/
inductive PyVal
  | str (text : Text)
  | int (n : ℕ)
  deriving DecidableEq, Repr

/-- The exceptions the simulator can raise. -/
inductive PyError
  | typeError
  | indexError
  | jsonDecodeError
  deriving DecidableEq, Repr

/-- `str(n)`. -/
abbrev str (n : ℕ) : Text := Nat.toDigits 10 n

namespace PyVal

/-- `str(value)`. -/
def toText : PyVal → Text
  | .str text => text
  | .int n => Simulator.str n

/-- `first + second`. -/
def add : PyVal → PyVal → Except PyError PyVal
  | .str first, .str second => .ok (.str (first ++ second))
  | .int first, .int second => .ok (.int (first + second))
  | _, _ => .error .typeError

/-- An operand that is added to a string. -/
def asStr : PyVal → Except PyError Text
  | .str text => .ok text
  | .int _ => .error .typeError

end PyVal

/-- `tuple[index]`. -/
def subscript (tuple : List ℚ) (index : ℕ) : Except PyError ℚ :=
  match tuple[index]? with
  | some entry => .ok entry
  | none => .error .indexError

/-! ### The records of a process -/

/-- The stations `main` starts: `range(0, 4)`. -/
abbrev Station := Fin 4

/-- The literals 0 to 3 are stations. -/
instance neZero_four : NeZero 4 := ⟨by decide⟩

/-- One record of `valsList`. -/
structure Vals where
  speed : ℕ
  checkTime : ℕ
  groupID : ℤ
  group : PyVal
  location : List ℚ
  overlord : PyVal

/-- `vals1` to `vals7` before the simulation. -/
def Vals.initial : Vals where
  speed := 100
  checkTime := 10
  groupID := -1
  group := .str []
  location := []
  overlord := .str []

/-- `sync_stats["100"]`: speed, gas, check time. -/
def syncStats100 : ℕ × ℕ × ℕ := (120, 60, 300)

/-- A position in degrees: what the geodesic library returns lies in the value range of latitude and
longitude. -/
structure Position where
  lat : ℚ
  lng : ℚ
  lat_range : |lat| ≤ 90
  lng_range : |lng| ≤ 180

def Position.origin : Position := ⟨0, 0, by simp, by simp⟩

/-- The positions a station has seen, by station id in the order of first insertion. -/
abbrev Surroundings := List (ℕ × List (List ℚ))

namespace Surroundings

/-- `surroundings[str(key)].append(position)`: a missing key starts with the empty list. -/
def append (key : ℕ) (position : List ℚ) : Surroundings → Surroundings
  | [] => [(key, [position])]
  | (other, positions) :: rest =>
    if other = key then (other, positions ++ [position]) :: rest
    else (other, positions) :: append key position rest

/-- `positions[len(positions) - 1]`. -/
def lastOf (positions : List (List ℚ)) : Except PyError (List ℚ) :=
  match positions.getLast? with
  | some position => .ok position
  | none => .error .indexError

/-- The last position stored under a key. -/
def last (surroundings : Surroundings) (key : ℕ) : Except PyError (List ℚ) :=
  lastOf ((surroundings.lookup key).getD [])

/-- The ids a station has seen. -/
def keys (surroundings : Surroundings) : List ℕ := surroundings.map Prod.fst

theorem mem_keys_append {key other : ℕ} {position : List ℚ} {surroundings : Surroundings} :
    other ∈ (surroundings.append key position).keys ↔ other = key ∨ other ∈ surroundings.keys := by
  induction surroundings with
  | nil => simp [append, keys]
  | cons entry rest ih =>
    unfold append
    split_ifs with same
    · simp only [keys, List.map_cons, List.mem_cons, same]
      tauto
    · simp only [keys, List.map_cons, List.mem_cons] at ih ⊢
      rw [ih]
      tauto

/-- **A dictionary has every key once.** -/
theorem keys_append_nodup {key : ℕ} {position : List ℚ} {surroundings : Surroundings}
    (distinct : surroundings.keys.Nodup) : (surroundings.append key position).keys.Nodup := by
  induction surroundings with
  | nil => exact List.nodup_singleton key
  | cons entry rest ih =>
    obtain ⟨absent, restDistinct⟩ := List.nodup_cons.mp distinct
    unfold append
    split_ifs with same
    · exact distinct
    · refine List.nodup_cons.mpr ⟨fun member => ?_, ih restDistinct⟩
      rcases mem_keys_append.mp member with new | old
      · exact same new
      · exact absent old

/-- An appended position is the last one. -/
theorem last_append (key : ℕ) (position : List ℚ) (surroundings : Surroundings) :
    (surroundings.append key position).last key = .ok position := by
  induction surroundings with
  | nil => simp [append, last, lastOf]
  | cons entry rest ih =>
    unfold append
    split_ifs with same
    · simp [last, lastOf, same]
    · have differs : (key == entry.1) = false := beq_false_of_ne fun equal => same equal.symm
      rw [last, List.lookup_cons, differs]
      exact ih

end Surroundings

/-- Where `startSimul` stands. A loop iteration is split at the places where a handler can run
between a decision and what depends on it. -/
inductive Phase
  /-- Before the first CAM. -/
  | start
  /-- At the head of the loop. -/
  | head
  /-- After the repetition of the group message. -/
  | body
  /-- `leaderCheck` returned `True`, the SET message is not yet built. -/
  | elected
  /-- The route is driven. -/
  | finished
  /-- `startSimul` ended with an exception. -/
  | failed (error : PyError)
  deriving DecidableEq

/-- The local variables of `startSimul`. -/
structure Loop where
  phase : Phase
  repeatDenm : Bool
  interval : ℕ
  currDistance : ℚ
  msgNum : ℕ
  /-- `lat` and `lng`. -/
  position : Position
  velocity : ℕ
  checkTime : ℕ
  currentGroup : ℤ

/-- One process. -/
structure Process where
  valsList : Fin 7 → Vals
  denmInfo : List ℕ
  surroundings : Surroundings
  loop : Loop

/-- The index of a station's own record. -/
def slot (i : Station) : Fin 7 := i.castLE (by decide)

namespace Process

/-- The station's own record. -/
def vals (p : Process) (i : Station) : Vals := p.valsList (slot i)

/-- Overwrite a record. -/
def setVals (p : Process) (k : Fin 7) (record : Vals) : Process :=
  { p with valsList := Function.update p.valsList k record }

/-- `valsList[k]["group"] = group`. -/
def setGroup (p : Process) (k : Fin 7) (group : PyVal) : Process :=
  p.setVals k { p.valsList k with group := group }

@[simp] theorem setVals_self (p : Process) (k : Fin 7) (record : Vals) :
    (p.setVals k record).valsList k = record := by
  simp [setVals]

theorem setVals_other (p : Process) {k other : Fin 7} (record : Vals) (different : other ≠ k) :
    (p.setVals k record).valsList other = p.valsList other := by
  simp [setVals, different]

@[simp] theorem setVals_vals_self (p : Process) (i : Station) (record : Vals) :
    (p.setVals (slot i) record).vals i = record :=
  p.setVals_self (slot i) record

@[simp] theorem setVals_loop (p : Process) (k : Fin 7) (record : Vals) :
    (p.setVals k record).loop = p.loop := rfl

@[simp] theorem setVals_surroundings (p : Process) (k : Fin 7) (record : Vals) :
    (p.setVals k record).surroundings = p.surroundings := rfl

@[simp] theorem setGroup_loop (p : Process) (k : Fin 7) (group : PyVal) :
    (p.setGroup k group).loop = p.loop := rfl

@[simp] theorem setGroup_surroundings (p : Process) (k : Fin 7) (group : PyVal) :
    (p.setGroup k group).surroundings = p.surroundings := rfl

@[simp] theorem setGroup_group (p : Process) (k : Fin 7) (group : PyVal) :
    ((p.setGroup k group).valsList k).group = group := by
  simp [setGroup]

/-- Writing a group changes no other record and no other field. -/
theorem setGroup_valsList (p : Process) (k other : Fin 7) (group : PyVal) :
    (p.setGroup k group).valsList other =
      if other = k then { p.valsList k with group := group } else p.valsList other := by
  by_cases same : other = k
  · subst same
    rw [if_pos rfl]
    exact p.setVals_self other _
  · rw [if_neg same]
    exact p.setVals_other _ same

@[simp] theorem setGroup_groupID (p : Process) (k other : Fin 7) (group : PyVal) :
    ((p.setGroup k group).valsList other).groupID = (p.valsList other).groupID := by
  rw [setGroup_valsList]
  split_ifs with same
  · rw [same]
  · rfl

@[simp] theorem setGroup_speed (p : Process) (k other : Fin 7) (group : PyVal) :
    ((p.setGroup k group).valsList other).speed = (p.valsList other).speed := by
  rw [setGroup_valsList]
  split_ifs with same
  · rw [same]
  · rfl

@[simp] theorem setGroup_checkTime (p : Process) (k other : Fin 7) (group : PyVal) :
    ((p.setGroup k group).valsList other).checkTime = (p.valsList other).checkTime := by
  rw [setGroup_valsList]
  split_ifs with same
  · rw [same]
  · rfl

@[simp] theorem setGroup_location (p : Process) (k other : Fin 7) (group : PyVal) :
    ((p.setGroup k group).valsList other).location = (p.valsList other).location := by
  rw [setGroup_valsList]
  split_ifs with same
  · rw [same]
  · rfl

end Process

/-- A process before `startSimul`. -/
def Process.initial : Process where
  valsList _ := .initial
  denmInfo := []
  surroundings := []
  loop :=
    { phase := .start
      repeatDenm := false
      interval := 0
      currDistance := 0
      msgNum := 0
      position := .origin
      velocity := 0
      checkTime := 0
      currentGroup := -1 }

/-- What the simulation is run on: the route and the floating point geometry. -/
structure World where
  /-- The bearing from one position to another. -/
  calcBearing : ℚ → ℚ → ℚ → ℚ → ℚ
  /-- The position after driving a distance along a bearing. -/
  destination : ℚ → ℚ → ℚ → ℚ → Position
  startPoint : Position
  distances : List ℚ
  bearings : List ℚ

/-- The station type `main` passes to every process. -/
def stationType : ℕ := 7

end Vanet.Simulator
