/-
**`DccInformationSharing`, which tells the neighbours of channel loads.**

The latest measurement waits for the next update cycle, which aggregates it with what the location table
has heard of since the last one. Single-hop broadcasts carry two of the results, rounded down to a byte
each: the station's own load and the one of its neighbours.

* `lt_rounded_add`, `neighbourCbr_generateDccField`: what a neighbour reads of a load is less by not more
  than the last bit of the byte, and nothing more is lost on the next hop.
* `aggregate_oneHop`, `aggregate_twoHop`: a cycle's result for one hop is none, or what one entry reports.
* `initialDelay_eq`: the random delay of the first cycle has no effect.
-/

import Mathlib.Algebra.Order.Floor.Ring
import Mathlib.Data.Rat.Floor
import Vanet.Geonet.CbrAggregator
import Vanet.Geonet.Headers

namespace Vanet.Geonet

open Vanet.Common Vanet.Dcc Vanet.Library Vanet.Net

/-! ### Loads in a byte -/

/-- `std::floor(cbr.value() * 255.0)`. -/
def quantize (cbr : ChannelLoad) : UInt8 := UInt8.ofNat ⌊cbr.value * 255⌋₊

/-- The load that a byte stands for. -/
def loadOf (byte : UInt8) : ChannelLoad := .ofValue (byte.toNat / 255)

/-- **What is left of a load** when it has been in a byte. -/
def rounded (cbr : ChannelLoad) : ChannelLoad := loadOf (quantize cbr)

theorem toNat_quantize (cbr : ChannelLoad) : (quantize cbr).toNat = ⌊cbr.value * 255⌋₊ := by
  have bound : ⌊cbr.value * 255⌋₊ < 256 := by
    rw [Nat.floor_lt (mul_nonneg cbr.nonneg (by norm_num))]
    have := cbr.le_one
    norm_num
    linarith
  exact UInt8.toNat_ofNat_of_lt' bound

theorem value_loadOf (byte : UInt8) : (loadOf byte).value = byte.toNat / 255 := by
  have bound : (byte.toNat : ℚ) ≤ 255 := by exact_mod_cast Nat.le_of_lt_succ byte.toNat_lt
  exact UnitInterval.clampValue_of_mem (by positivity) ((div_le_one₀ (by norm_num)).mpr bound)

/-- **A byte survives** the load that it stands for. -/
@[simp] theorem quantize_loadOf (byte : UInt8) : quantize (loadOf byte) = byte := by
  apply UInt8.toNat_inj.mp
  rw [toNat_quantize, value_loadOf, div_mul_cancel₀ _ (by norm_num)]
  exact Nat.floor_natCast _

theorem value_rounded (cbr : ChannelLoad) : (rounded cbr).value = ⌊cbr.value * 255⌋₊ / 255 := by
  unfold rounded
  rw [value_loadOf, toNat_quantize]

theorem rounded_le (cbr : ChannelLoad) : rounded cbr ≤ cbr := by
  have below : (⌊cbr.value * 255⌋₊ : ℚ) ≤ cbr.value * 255 :=
    Nat.floor_le (mul_nonneg cbr.nonneg (by norm_num))
  rw [UnitInterval.le_iff, value_rounded, div_le_iff₀ (by norm_num)]
  exact below

/-- **Not more than the last bit is lost.** -/
theorem lt_rounded_add (cbr : ChannelLoad) : cbr.value < (rounded cbr).value + 1 / 255 := by
  have above : cbr.value * 255 < ⌊cbr.value * 255⌋₊ + 1 := Nat.lt_floor_add_one _
  rw [value_rounded, ← add_div, lt_div_iff₀ (by norm_num)]
  exact above

@[simp] theorem quantize_rounded (cbr : ChannelLoad) : quantize (rounded cbr) = quantize cbr :=
  quantize_loadOf _

@[simp] theorem rounded_zero : rounded 0 = 0 := by
  apply UnitInterval.ext
  rw [value_rounded]
  norm_num

/-! ### One of the values -/

section Values

variable {α : Type} [LinearOrder α] [OrderBot α]

/-- The largest value is one of the values, unless it is the bottom. -/
theorem largest_mem (values : Multiset α) : largest values = ⊥ ∨ largest values ∈ values := by
  unfold largest
  induction values using Multiset.induction with
  | empty => exact .inl rfl
  | cons value values ih =>
    rw [Multiset.sup_cons]
    rcases le_total values.sup value with first | later
    · rw [sup_eq_left.mpr first]
      exact .inr (Multiset.mem_cons_self _ _)
    · rw [sup_eq_right.mpr later]
      exact ih.imp_right (Multiset.mem_cons_of_mem ·)

theorem secondLargest_mem (values : Multiset α) :
    secondLargest values = ⊥ ∨ secondLargest values ∈ values :=
  (largest_mem (values.erase values.sup)).imp_right Multiset.mem_of_mem_erase

end Values

theorem hopCbr_mem (values : Multiset ChannelLoad) (target : ChannelLoad) :
    hopCbr values target = 0 ∨ hopCbr values target ∈ values := by
  unfold hopCbr
  split_ifs
  · exact largest_mem values
  · exact secondLargest_mem values

namespace CbrAggregator

variable {aggregator : CbrAggregator} {cbrLocal target : ChannelLoad}
  {visited : List (MacAddress × LocationTableEntry)} {lifetime : Timestamp}

/-- What an entry of the table reports. -/
theorem mem_reported {field : DccMcoField → ChannelLoad} {load : ChannelLoad}
    (member : load ∈ reported field lifetime (visited : Multiset (MacAddress × LocationTableEntry))) :
    ∃ entry ∈ visited, ∃ loctex, entry.2.extensions.locTexG5 = some loctex ∧
      loctex.localUpdate.before lifetime = false ∧ load = field loctex.dccMco := by
  obtain ⟨mco, reports, rfl⟩ := Multiset.mem_map.mp member
  obtain ⟨entry, held, report⟩ := (Multiset.mem_filterMap _ _).mp reports
  obtain ⟨loctex, stored, fresh⟩ := Option.bind_eq_some_iff.mp report
  split_ifs at fresh with old
  cases fresh
  exact ⟨entry, Multiset.mem_coe.mp held, loctex, stored, Bool.eq_false_iff.mpr old, rfl⟩

/-- **A cycle's result for one hop.** -/
theorem aggregate_oneHop :
    (aggregator.aggregate cbrLocal visited lifetime target).oneHopCbr = 0 ∨
      ∃ entry ∈ visited, ∃ loctex, entry.2.extensions.locTexG5 = some loctex ∧
        loctex.localUpdate.before lifetime = false ∧
        (aggregator.aggregate cbrLocal visited lifetime target).oneHopCbr = loctex.dccMco.localCbr := by
  have result : (aggregator.aggregate cbrLocal visited lifetime target).oneHopCbr = hopCbr _ target :=
    (aggregates_visited lifetime visited).1.select target
  rw [result]
  exact (hopCbr_mem _ target).imp_right mem_reported

theorem aggregate_twoHop :
    (aggregator.aggregate cbrLocal visited lifetime target).twoHopCbr = 0 ∨
      ∃ entry ∈ visited, ∃ loctex, entry.2.extensions.locTexG5 = some loctex ∧
        loctex.localUpdate.before lifetime = false ∧
        (aggregator.aggregate cbrLocal visited lifetime target).twoHopCbr =
          loctex.dccMco.neighbourCbr := by
  have result : (aggregator.aggregate cbrLocal visited lifetime target).twoHopCbr = hopCbr _ target :=
    (aggregates_visited lifetime visited).2.select target
  rw [result]
  exact (hopCbr_mem _ target).imp_right mem_reported

end CbrAggregator

/-! ### The component -/

/-- **`DccInformationSharing`**, with the deadline of the callback that the runtime has of it. -/
structure DccInformationSharing where
  cbrTarget : ChannelLoad
  cbrLocal : ChannelLoad
  aggregator : CbrAggregator
  lastAggregation : Timestamp
  due : ℤ

namespace DccInformationSharing

/-- 100 ms. -/
def triggerInterval : ℤ := 100000

/-- `initial *= delay.value()`, by a factor that the duration's representation has truncated. -/
def initialDelay (delay : UnitInterval) : ℤ := triggerInterval * (delay.value.num.tdiv delay.value.den)

def create (now : ℤ) (target : ChannelLoad) (delay : UnitInterval) : DccInformationSharing where
  cbrTarget := target
  cbrLocal := 0
  aggregator := .create
  lastAggregation := .ofTimePoint now
  due := now + initialDelay delay

/-- `generate_dcc_field`, without a transmission power. -/
def generateDccField (sharing : DccInformationSharing) : DccField :=
  .mco ⟨quantize sharing.aggregator.localCbr.1, quantize sharing.aggregator.oneHopCbr, 0⟩

def updateLocalCbr (sharing : DccInformationSharing) (cbr : ChannelLoad) : DccInformationSharing :=
  { sharing with cbrLocal := cbr }

/-- `trigger`, with the entries in the order in which they are visited. -/
def trigger (sharing : DccInformationSharing) (now : ℤ)
    (visited : List (MacAddress × LocationTableEntry)) : DccInformationSharing :=
  { sharing with
    aggregator := sharing.aggregator.aggregate sharing.cbrLocal visited sharing.lastAggregation
      sharing.cbrTarget
    lastAggregation := .ofTimePoint now
    due := now + triggerInterval }

/-- **The random delay has no effect**, except for the very last value of its interval. -/
theorem initialDelay_eq (delay : UnitInterval) :
    initialDelay delay = if delay.value = 1 then triggerInterval else 0 := by
  unfold initialDelay
  by_cases last : delay.value = 1
  · rw [if_pos last, last]
    decide
  · have less : delay.value < 1 := lt_of_le_of_ne delay.le_one last
    have below : delay.value.num < delay.value.den := by
      rw [← Rat.num_div_den delay.value, div_lt_one₀ (by exact_mod_cast delay.value.pos)] at less
      exact_mod_cast less
    rw [if_neg last, Int.tdiv_eq_zero_of_lt (Rat.num_nonneg.mpr delay.nonneg) below, mul_zero]

/-- **What a neighbour reads** of the field. -/
theorem localCbr_generateDccField (sharing : DccInformationSharing) :
    (getDccMco sharing.generateDccField).localCbr = rounded sharing.aggregator.localCbr.1 :=
  rfl

theorem neighbourCbr_generateDccField (sharing : DccInformationSharing) :
    (getDccMco sharing.generateDccField).neighbourCbr = rounded sharing.aggregator.oneHopCbr :=
  rfl

end DccInformationSharing

end Vanet.Geonet
