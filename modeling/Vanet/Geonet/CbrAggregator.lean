/-
**`CbrAggregator`, the channel busy ratios of the neighbourhood.**

One pass over the entries of the location table keeps a running average and the two largest values, for
the ratios that neighbours have measured and for those that they have heard of. The hash map behind the
table says nothing about the order of that pass.

* `Aggregates`: what a pass knows about the values so far, as a multiset.
* `run_eq`: the results of every history of calls, in terms of the tables as multisets of entries.
-/

import Vanet.Common.UnitInterval
import Vanet.Geonet.LocationTable
import Vanet.Library.TopTwo
import Mathlib.Algebra.BigOperators.Group.Multiset.Defs
import Mathlib.Data.List.Induction
import Mathlib.Data.Multiset.Filter
import Mathlib.Tactic.FieldSimp

namespace Vanet.Geonet

open Vanet.Common Vanet.Dcc Vanet.Library Vanet.Net

namespace DccMcoField

/-- `local_cbr` and `neighbour_cbr`. -/
def localCbr (field : DccMcoField) : ChannelLoad := .ofValue (field.cbrL0Hop.toNat / 255)
def neighbourCbr (field : DccMcoField) : ChannelLoad := .ofValue (field.cbrL1Hop.toNat / 255)

end DccMcoField

/-! ### The values of one hop -/

structure CbrAggregatorUnit where
  n : ℕ
  average : ChannelLoad
  maximum : ChannelLoad × ChannelLoad

namespace CbrAggregatorUnit

def create : CbrAggregatorUnit := ⟨0, 0, (0, 0)⟩

/-- `operator+=`. -/
def add (unit : CbrAggregatorUnit) (cbr : ChannelLoad) : CbrAggregatorUnit where
  n := unit.n + 1
  average := .ofValue ((unit.average.value * unit.n + cbr.value) / (unit.n + 1))
  maximum :=
    -- the second largest value might equal the largest one
    if cbr ≥ unit.maximum.1 then (cbr, unit.maximum.1)
    else if cbr > unit.maximum.2 then (unit.maximum.1, cbr)
    else unit.maximum

/-- `operator()`. -/
def select (unit : CbrAggregatorUnit) (target : ChannelLoad) : ChannelLoad :=
  if unit.average > target then unit.maximum.1 else unit.maximum.2

end CbrAggregatorUnit

/-- **The mean of the values**, 0 if there are none. -/
def meanCbr (values : Multiset ChannelLoad) : ℚ := (values.map UnitInterval.value).sum / values.card

/-- **What a pass knows** about the values so far. -/
structure Aggregates (unit : CbrAggregatorUnit) (values : Multiset ChannelLoad) : Prop where
  count : unit.n = values.card
  mean : unit.average.value = meanCbr values
  top : unit.maximum = (largest values, secondLargest values)

theorem aggregates_create : Aggregates .create 0 where
  count := rfl
  mean := by simp [CbrAggregatorUnit.create, meanCbr]
  top := by
    unfold largest secondLargest
    simp only [Multiset.erase_zero, Multiset.sup_zero]
    rfl

/-- **A value more.** The limits of the unit interval do not change the average. -/
theorem Aggregates.add {unit : CbrAggregatorUnit} {values : Multiset ChannelLoad}
    (aggregates : Aggregates unit values) (cbr : ChannelLoad) :
    Aggregates (unit.add cbr) (cbr ::ₘ values) where
  count := by rw [Multiset.card_cons, ← aggregates.count]; rfl
  mean := by
    have more : (0 : ℚ) < unit.n + 1 := by positivity
    have total : unit.average.value * unit.n = (values.map UnitInterval.value).sum := by
      rw [aggregates.mean, meanCbr, aggregates.count]
      by_cases none : values = 0
      · simp [none]
      · exact div_mul_cancel₀ _ (by simpa using none)
    have nonneg : 0 ≤ unit.average.value * unit.n + cbr.value :=
      add_nonneg (mul_nonneg unit.average.nonneg (Nat.cast_nonneg _)) cbr.nonneg
    have le_count : unit.average.value * unit.n + cbr.value ≤ unit.n + 1 :=
      add_le_add (mul_le_of_le_one_left (Nat.cast_nonneg _) unit.average.le_one) cbr.le_one
    calc (unit.add cbr).average.value
        = (unit.average.value * unit.n + cbr.value) / (unit.n + 1) :=
          UnitInterval.clampValue_of_mem (div_nonneg nonneg more.le) ((div_le_one₀ more).mpr le_count)
      _ = (cbr.value + (values.map UnitInterval.value).sum) / (values.card + 1) := by
          rw [total, add_comm, aggregates.count]
      _ = meanCbr (cbr ::ₘ values) := by simp [meanCbr]
  top := by
    rw [← pushTopTwo_eq, ← aggregates.top]
    rfl

/-- **The result for one hop**: the largest value if the mean exceeds the target, else the second largest. -/
def hopCbr (values : Multiset ChannelLoad) (target : ChannelLoad) : ChannelLoad :=
  if meanCbr values > target.value then largest values else secondLargest values

theorem Aggregates.select {unit : CbrAggregatorUnit} {values : Multiset ChannelLoad}
    (aggregates : Aggregates unit values) (target : ChannelLoad) :
    unit.select target = hopCbr values target := by
  have exceeds : unit.average > target ↔ meanCbr values > target.value := by
    rw [← aggregates.mean]
    exact UnitInterval.lt_iff
  unfold CbrAggregatorUnit.select hopCbr
  rw [aggregates.top]
  exact if_congr exceeds rfl rfl

/-! ### The aggregator -/

/-- **An order in which `visit` may go** through the table. -/
structure LocationTable.VisitOrder (table : LocationTable) (now : ℤ) where
  visited : List (MacAddress × LocationTableEntry)
  all : visited.Perm (table.entries now)

structure CbrAggregator where
  /-- `m_local_cbr[0]` and the one before it. -/
  localCbr : ChannelLoad × ChannelLoad
  oneHopCbr : ChannelLoad
  twoHopCbr : ChannelLoad
  globalCbr : ChannelLoad

namespace CbrAggregator

def create : CbrAggregator := ⟨(0, 0), 0, 0, 0⟩

/-- The visitor of an entry. -/
def entryVisitor (lifetime : Timestamp) (hops : CbrAggregatorUnit × CbrAggregatorUnit)
    (entry : MacAddress × LocationTableEntry) : CbrAggregatorUnit × CbrAggregatorUnit :=
  match entry.2.extensions.locTexG5 with
  | none => hops
  | some loctex =>
    if loctex.localUpdate.before lifetime then hops
    else (hops.1.add loctex.dccMco.localCbr, hops.2.add loctex.dccMco.neighbourCbr)

/-- `aggregate`, with the entries in the order in which they are visited. -/
def aggregate (aggregator : CbrAggregator) (cbrLocal : ChannelLoad)
    (visited : List (MacAddress × LocationTableEntry)) (lifetime : Timestamp) (target : ChannelLoad) :
    CbrAggregator :=
  let localCbr := (cbrLocal, aggregator.localCbr.1)
  let hops := visited.foldl (entryVisitor lifetime) (.create, .create)
  let oneHopCbr := hops.1.select target
  let twoHopCbr := hops.2.select target
  ⟨localCbr, oneHopCbr, twoHopCbr, max (max localCbr.2 oneHopCbr) twoHopCbr⟩

/-! ### Without an order -/

/-- What an entry reports, unless it has nothing to report or that is too old. -/
def recent (lifetime : Timestamp) (entry : MacAddress × LocationTableEntry) : Option DccMcoField :=
  entry.2.extensions.locTexG5.bind fun loctex =>
    if loctex.localUpdate.before lifetime then none else some loctex.dccMco

/-- **The values of a hop** that the entries report. -/
def reported (field : DccMcoField → ChannelLoad) (lifetime : Timestamp)
    (entries : Multiset (MacAddress × LocationTableEntry)) : Multiset ChannelLoad :=
  (entries.filterMap (recent lifetime)).map field

/-- The visitor adds what the entry reports. -/
theorem entryVisitor_eq (lifetime : Timestamp) (hops : CbrAggregatorUnit × CbrAggregatorUnit)
    (entry : MacAddress × LocationTableEntry) :
    entryVisitor lifetime hops entry = match recent lifetime entry with
      | none => hops
      | some field => (hops.1.add field.localCbr, hops.2.add field.neighbourCbr) := by
  unfold entryVisitor recent
  cases entry.2.extensions.locTexG5 with
  | none => rfl
  | some loctex => by_cases old : loctex.localUpdate.before lifetime <;> simp [old]

/-- **A pass** over the entries, in the order in which they come. -/
theorem aggregates_visited (lifetime : Timestamp) (visited : List (MacAddress × LocationTableEntry)) :
    Aggregates (visited.foldl (entryVisitor lifetime) (.create, .create)).1
        (reported DccMcoField.localCbr lifetime visited) ∧
      Aggregates (visited.foldl (entryVisitor lifetime) (.create, .create)).2
        (reported DccMcoField.neighbourCbr lifetime visited) := by
  induction visited using List.reverseRecOn with
  | nil => exact ⟨aggregates_create, aggregates_create⟩
  | append_singleton earlier entry ih =>
    have last : ((earlier ++ [entry] : List _) : Multiset _) = entry ::ₘ earlier :=
      Multiset.coe_eq_coe.mpr (List.perm_append_singleton entry earlier)
    rw [List.foldl_concat, entryVisitor_eq, last]
    unfold reported
    cases report : recent lifetime entry with
    | none =>
      rw [Multiset.filterMap_cons_none _ _ report]
      exact ih
    | some field =>
      rw [Multiset.filterMap_cons_some _ _ _ report, Multiset.map_cons, Multiset.map_cons]
      exact ⟨ih.1.add _, ih.2.add _⟩

/-! ### Histories -/

/-- The arguments of a call of `aggregate`, with the clock of the table. -/
structure Measurement where
  cbrLocal : ChannelLoad
  table : LocationTable
  now : ℤ
  lifetime : Timestamp
  target : ChannelLoad

/-- A call and the order in which it goes through its table. -/
structure Call extends Measurement where
  order : table.VisitOrder now

/-- The aggregator after these calls. -/
def run (calls : List Call) : CbrAggregator :=
  calls.foldl (fun aggregator call =>
    aggregator.aggregate call.cbrLocal call.order.visited call.lifetime call.target) create

/-- The values that the entries of the table report. -/
def Measurement.values (measurement : Measurement) (field : DccMcoField → ChannelLoad) :
    Multiset ChannelLoad :=
  reported field measurement.lifetime (measurement.table.entries measurement.now)

/-- **What the aggregator is for**: the results of the last call, from the history of measurements. -/
def expected (history : List Measurement) : CbrAggregator :=
  match history.reverse with
  | [] => create
  | last :: before =>
    let previous := (before.head?.map Measurement.cbrLocal).getD 0
    let oneHop := hopCbr (last.values DccMcoField.localCbr) last.target
    let twoHop := hopCbr (last.values DccMcoField.neighbourCbr) last.target
    ⟨(last.cbrLocal, previous), oneHop, twoHop, max (max previous oneHop) twoHop⟩

theorem expected_localCbr (history : List Measurement) :
    (expected history).localCbr.1 = (history.reverse.head?.map Measurement.cbrLocal).getD 0 := by
  unfold expected
  cases history.reverse <;> rfl

/-- **CBR aggregation is order independent.** -/
theorem run_eq (calls : List Call) : run calls = expected (calls.map Call.toMeasurement) := by
  induction calls using List.reverseRecOn with
  | nil => rfl
  | append_singleton earlier call ih =>
    have entries : (call.order.visited : Multiset (MacAddress × LocationTableEntry)) =
        call.table.entries call.now :=
      Multiset.coe_eq_coe.mpr call.order.all
    obtain ⟨oneHop, twoHop⟩ := aggregates_visited call.lifetime call.order.visited
    rw [entries] at oneHop twoHop
    have step : run (earlier ++ [call]) =
        (run earlier).aggregate call.cbrLocal call.order.visited call.lifetime call.target :=
      List.foldl_concat ..
    rw [step, ih]
    unfold aggregate
    dsimp only
    rw [oneHop.select, twoHop.select, expected_localCbr]
    unfold expected
    rw [List.map_append, List.reverse_append]
    rfl

end CbrAggregator

end Vanet.Geonet
