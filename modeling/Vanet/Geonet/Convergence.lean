/-
**Convergence of the location table.**

The position vector that is stored for a station changes only by `update`, and then to the later one
of the stored and the delivered vector. As long as the station's entry is not dropped, a run delivers
its vectors to a register that keeps the later one (`stored_run`); in a window in which the
comparison of timestamps is an order the register ends with a newest vector
(`location_table_converges`).

* `stored_update`: the register step of `update`.
* `later_newest`: what the register keeps, for any order of the deliveries.
-/

import Vanet.Geonet.LocationTable

namespace Vanet.Geonet

open Vanet.Net Vanet.Library SoftStateMap

/-! ### A run -/

/-- What a holder of an entry may change, apart from its position vector. -/
inductive EntryChange
  | updatePdr (packetSize : ℕ) (beta : ℚ)
  | setNeighbour (flag : Bool)
  | setNeighbourFor (flag : Bool) (expiry : ℤ)
  | extend (change : Extensions → Extensions)

def EntryChange.apply (now : ℤ) (entry : LocationTableEntry) : EntryChange → LocationTableEntry
  | .updatePdr packetSize beta => entry.updatePdr now packetSize beta
  | .setNeighbour flag => entry.setNeighbour flag
  | .setNeighbourFor flag expiry => entry.setNeighbourFor now flag expiry
  | .extend change => { entry with extensions := change entry.extensions }

inductive TableAction
  | update (lpv : LongPositionVector)
  | getOrCreateEntry (mac : MacAddress)
  | change (mac : MacAddress) (change : EntryChange)
  | dropExpired
  | advance (elapsed : ℕ)

/-- The table with the time of the runtime. -/
abbrev TableState := ℤ × LocationTable

def tableStep (state : TableState) : TableAction → TableState
  | .update lpv => (state.1, LocationTable.update state.2 state.1 lpv)
  | .getOrCreateEntry mac => (state.1, (LocationTable.getOrCreateEntry state.2 state.1 mac).2)
  | .change mac change => (state.1, state.2.modify mac fun entry => change.apply state.1 entry)
  | .dropExpired => (state.1, state.2.dropExpired state.1)
  | .advance elapsed => (state.1 + elapsed, state.2)

def tableRun (state : TableState) (actions : List TableAction) : TableState :=
  actions.foldl tableStep state

/-- The position vector that is stored for a station. -/
def stored (table : LocationTable) (mac : MacAddress) : Option LongPositionVector :=
  (table.view mac).bind fun entry => entry.1.positionVector

/-- The position vectors of a station that a run delivers. -/
def delivered (mac : MacAddress) (actions : List TableAction) : List LongPositionVector :=
  actions.filterMap fun
    | .update lpv => if lpv.gnAddr.mid = mac then some lpv else none
    | _ => none

/-- **The station's entry does not expire during a run** once it has a position vector. -/
def Lives (mac : MacAddress) : TableState → List TableAction → Prop
  | _, [] => True
  | state, action :: rest =>
    (∀ entry ∈ state.2.view mac, entry.1.positionVector.isSome → state.1 ≤ entry.2) ∧
      Lives mac (tableStep state action) rest

instance decidableLives (mac : MacAddress) : ∀ state actions, Decidable (Lives mac state actions)
  | _, [] => instDecidableTrue
  | state, action :: rest =>
    haveI := decidableLives mac (tableStep state action) rest
    inferInstanceAs (Decidable (_ ∧ _))

/-! ### The register -/

/-- What a delivered vector makes of the stored one. -/
def later (old : Option LongPositionVector) (lpv : LongPositionVector) : Option LongPositionVector :=
  match old with
  | some pv => if pv.timestamp.before lpv.timestamp ∧ lpv.isValid then some lpv else some pv
  | none => if lpv.isValid then some lpv else none

theorem updatePositionVector_eq (entry : LocationTableEntry) (lpv : LongPositionVector) :
    (entry.updatePositionVector lpv).2.positionVector = later entry.positionVector lpv := by
  unfold LocationTableEntry.updatePositionVector LocationTableEntry.setPositionVector later
  cases held : entry.positionVector with
  | none => by_cases valid : lpv.isValid = true <;> simp [held, valid]
  | some pv =>
    by_cases newer : pv.timestamp.before lpv.timestamp = true <;>
      by_cases valid : lpv.isValid = true <;> simp [held, newer, valid]

section Window

variable {base : Timestamp}

/-- A vector that may be delivered: valid, and with a timestamp in the window. -/
def InWindow (base : Timestamp) (pv : LongPositionVector) : Prop :=
  pv.isValid = true ∧ pv.timestamp.since base < 2147483648

instance decidableInWindow (pv : LongPositionVector) : Decidable (InWindow base pv) :=
  inferInstanceAs (Decidable (_ ∧ _))

/-- **The register ends with a newest vector** of those delivered and the one it had. -/
theorem later_newest (vectors : List LongPositionVector) :
    ∀ old : Option LongPositionVector, (∀ pv ∈ old, InWindow base pv) →
      (∀ pv ∈ vectors, InWindow base pv) →
      (∀ pv, pv ∈ vectors ∨ old = some pv → ∃ newest, vectors.foldl later old = some newest ∧
        pv.timestamp.since base ≤ newest.timestamp.since base) ∧
      ∀ newest, vectors.foldl later old = some newest → newest ∈ vectors ∨ old = some newest := by
  induction vectors with
  | nil =>
    intro old _ _
    refine ⟨?_, fun newest held => .inr held⟩
    rintro pv (member | held)
    · cases member
    · exact ⟨pv, held, le_refl _⟩
  | cons lpv rest ih =>
    intro old oldFits fits
    obtain ⟨lpvFits, restFits⟩ := List.forall_mem_cons.mp fits
    obtain ⟨next, holds, fromLpv, fromOld, origin⟩ : ∃ next, later old lpv = some next ∧
        lpv.timestamp.since base ≤ next.timestamp.since base ∧
        (∀ pv, old = some pv → pv.timestamp.since base ≤ next.timestamp.since base) ∧
        (next = lpv ∨ old = some next) := by
      unfold later
      cases old with
      | none => exact ⟨lpv, if_pos lpvFits.1, le_refl _, nofun, .inl rfl⟩
      | some pv =>
        have compared := Timestamp.before_iff (oldFits pv rfl).2 lpvFits.2
        by_cases newer : pv.timestamp.since base < lpv.timestamp.since base
        · refine ⟨lpv, if_pos ⟨compared.mpr newer, lpvFits.1⟩, le_refl _, ?_, .inl rfl⟩
          rintro _ ⟨⟩
          exact le_of_lt newer
        · refine ⟨pv, if_neg fun taken => newer (compared.mp taken.1), not_lt.mp newer, ?_, .inr rfl⟩
          rintro _ ⟨⟩
          exact le_refl _
    have nextFits : ∀ pv ∈ some next, InWindow base pv := by
      rintro _ ⟨⟩
      rcases origin with rfl | held
      · exact lpvFits
      · exact oldFits next held
    obtain ⟨bounds, sources⟩ := ih (some next) nextFits restFits
    rw [List.foldl_cons, holds]
    obtain ⟨newest, ends, nextLe⟩ := bounds next (.inr rfl)
    refine ⟨?_, ?_⟩
    · intro pv among
      rcases among with member | held
      · rcases List.mem_cons.mp member with rfl | member
        · exact ⟨newest, ends, le_trans fromLpv nextLe⟩
        · exact bounds pv (.inl member)
      · exact ⟨newest, ends, le_trans (fromOld pv held) nextLe⟩
    · intro newest ends
      rcases sources newest ends with member | same
      · exact .inl (List.mem_cons_of_mem _ member)
      · cases same
        rcases origin with rfl | held
        · exact .inl List.mem_cons_self
        · exact .inr held

end Window

/-! ### What the operations store -/

section Operations

variable {table : LocationTable} {mac other : MacAddress} {now : ℤ}

/-- An access creates entries without a position vector and keeps those that there are. -/
theorem stored_refresh (formed : table.WellFormed) :
    stored (table.refresh LocationTableEntry.create now mac).2 = stored table :=
  reading_refresh LocationTableEntry.positionVector formed rfl

theorem stored_getValue (formed : table.WellFormed) :
    stored (table.getValue LocationTableEntry.create now mac).2 = stored table :=
  reading_getValue LocationTableEntry.positionVector formed rfl

/-- A change of an entry reaches what is stored through the entry's position vector. -/
theorem stored_modify (formed : table.WellFormed) (change : LocationTableEntry → LocationTableEntry) :
    stored (table.modify mac change) = Function.update (stored table) mac
      ((table.view mac).bind fun entry => (change entry.1).positionVector) :=
  reading_modify LocationTableEntry.positionVector formed change

theorem positionVector_apply (change : EntryChange) (entry : LocationTableEntry) :
    (change.apply now entry).positionVector = entry.positionVector := by
  cases change with
  | updatePdr packetSize beta =>
    unfold EntryChange.apply LocationTableEntry.updatePdr
    dsimp only
    split
    · rfl
    · split_ifs <;> rfl
  | setNeighbour flag => rfl
  | setNeighbourFor flag expiry =>
    unfold EntryChange.apply LocationTableEntry.setNeighbourFor
    dsimp only
    split_ifs <;> rfl
  | extend change => rfl

theorem stored_change (formed : table.WellFormed) (change : EntryChange) :
    stored (table.modify mac fun entry => change.apply now entry) = stored table := by
  rw [stored_modify formed]
  refine Function.update_eq_self_iff.mpr ?_
  unfold stored
  exact Option.bind_congr fun entry _ => positionVector_apply change entry.1

theorem stored_dropExpired (formed : table.WellFormed) (mac : MacAddress) :
    stored (table.dropExpired now) mac = (alive now (table.view mac)).bind fun entry =>
      entry.1.positionVector := by
  unfold stored
  rw [(dropExpired_spec now formed).2.2]

/-- A vector that reaches the entry of its address is stored when it is the later one. -/
theorem stored_deliver (formed : table.WellFormed) (lpv : LongPositionVector)
    (present : (table.view mac).isSome) :
    stored (table.modify mac fun entry => (entry.updatePositionVector lpv).2) =
      Function.update (stored table) mac (later (stored table mac) lpv) := by
  rw [stored_modify formed]
  congr 1
  obtain ⟨entry, shown⟩ := Option.isSome_iff_exists.mp present
  unfold stored
  rw [shown]
  exact updatePositionVector_eq entry.1 lpv

/-- **`update` is the register step** for the station of the vector and nothing for the others. -/
theorem stored_update (now : ℤ) (formed : table.WellFormed) (lpv : LongPositionVector) :
    (LocationTable.update table now lpv).WellFormed ∧
      stored (LocationTable.update table now lpv) =
        Function.update (stored table) lpv.gnAddr.mid (later (stored table lpv.gnAddr.mid) lpv) := by
  set mac := lpv.gnAddr.mid with mid
  set updated := fun entry : LocationTableEntry => (entry.updatePositionVector lpv).2 with deliver
  have afterRefresh : ((table.refresh LocationTableEntry.create now mac).2.modify mac updated).WellFormed ∧
      stored ((table.refresh LocationTableEntry.create now mac).2.modify mac updated) =
        Function.update (stored table) mac (later (stored table mac) lpv) := by
    obtain ⟨refreshed, _, _, views⟩ := refresh_spec LocationTableEntry.create now mac formed
    refine ⟨(modify_spec mac refreshed updated).1, ?_⟩
    have present : ((table.refresh LocationTableEntry.create now mac).2.view mac).isSome := by
      rw [views, Function.update_self]
      rfl
    rw [stored_deliver refreshed lpv present, stored_refresh formed]
  have there : ∀ entry, table.getValuePtr now mac = some entry → (table.view mac).isSome := by
    intro entry pointed
    rw [getValuePtr_eq formed] at pointed
    cases shown : table.view mac with
    | none =>
      rw [shown] at pointed
      cases pointed
    | some shownEntry => rfl
  have inPlace : ∀ entry, table.getValuePtr now mac = some entry →
      (table.modify mac updated).WellFormed ∧
        stored (table.modify mac updated) =
          Function.update (stored table) mac (later (stored table mac) lpv) :=
    fun entry pointed =>
      ⟨(modify_spec mac formed updated).1, stored_deliver formed lpv (there entry pointed)⟩
  unfold LocationTable.update
  dsimp only
  rw [← mid, ← deliver]
  cases pointed : table.getValuePtr now mac with
  | none => exact afterRefresh
  | some entry =>
    obtain ⟨formedAfter, stores⟩ := inPlace entry pointed
    dsimp only
    split_ifs with held newer
    · exact ⟨(refresh_spec LocationTableEntry.create now mac formedAfter).1,
        (stored_refresh formedAfter).trans stores⟩
    · exact ⟨formedAfter, stores⟩
    · exact afterRefresh

end Operations

/-! ### Runs -/

/-- **Every step keeps the table well formed**, and stores what the register does unless the entry of
the station is dropped. -/
theorem tableStep_spec {state : TableState} (action : TableAction) (formed : state.2.WellFormed) :
    (tableStep state action).2.WellFormed ∧
      ∀ mac, (∀ entry ∈ state.2.view mac, entry.1.positionVector.isSome → state.1 ≤ entry.2) →
        stored (tableStep state action).2 mac =
          (delivered mac [action]).foldl later (stored state.2 mac) := by
  obtain ⟨now, table⟩ := state
  cases action with
  | update lpv =>
    obtain ⟨formedAfter, stores⟩ := stored_update now formed lpv
    refine ⟨formedAfter, fun mac _ => ?_⟩
    show stored (LocationTable.update table now lpv) mac = _
    rw [stores]
    by_cases same : lpv.gnAddr.mid = mac
    · subst same
      simp [delivered]
    · rw [Function.update_of_ne (Ne.symm same)]
      simp [delivered, same]
  | getOrCreateEntry mac =>
    refine ⟨(getValue_spec LocationTableEntry.create now mac formed).1, fun other _ => ?_⟩
    exact congrFun (stored_getValue formed) other
  | change mac change =>
    refine ⟨(modify_spec mac formed fun entry => change.apply now entry).1, fun other _ => ?_⟩
    exact congrFun (stored_change formed change) other
  | dropExpired =>
    refine ⟨(dropExpired_spec now formed).1, fun mac lives => ?_⟩
    refine (stored_dropExpired formed mac).trans ?_
    show _ = (table.view mac).bind _
    cases shown : table.view mac with
    | none => rfl
    | some entry =>
      obtain ⟨entry, expiry⟩ := entry
      rw [alive_some]
      by_cases passed : expiry < now
      · rw [if_pos passed]
        cases held : entry.positionVector with
        | none => simp [held]
        | some pv => exact absurd (lives (entry, expiry) shown (by rw [held]; rfl)) (not_le.mpr passed)
      · rw [if_neg passed]
  | advance elapsed => exact ⟨formed, fun _ _ => rfl⟩

theorem tableRun_formed (actions : List TableAction) :
    ∀ state : TableState, state.2.WellFormed → (tableRun state actions).2.WellFormed := by
  induction actions with
  | nil => exact fun _ formed => formed
  | cons action rest ih => exact fun state formed => ih _ (tableStep_spec action formed).1

/-- **A run in which the entry lives** folds the delivered vectors. -/
theorem stored_run (mac : MacAddress) (actions : List TableAction) :
    ∀ state : TableState, state.2.WellFormed → Lives mac state actions →
      stored (tableRun state actions).2 mac =
        (delivered mac actions).foldl later (stored state.2 mac) := by
  induction actions with
  | nil => exact fun _ _ _ => rfl
  | cons action rest ih =>
    intro state formed lives
    obtain ⟨formedAfter, stores⟩ := tableStep_spec action formed
    have split : delivered mac (action :: rest) = delivered mac [action] ++ delivered mac rest := by
      rw [delivered, delivered, delivered, ← List.filterMap_append, List.singleton_append]
    rw [split, List.foldl_append, ← stores mac lives.1]
    exact ih _ formedAfter lives.2

theorem lives_append {mac : MacAddress} (earlier : List TableAction) {rest : List TableAction} :
    ∀ {state : TableState}, Lives mac state (earlier ++ rest) →
      Lives mac state earlier ∧ Lives mac (tableRun state earlier) rest := by
  induction earlier with
  | nil => exact fun lives => ⟨trivial, lives⟩
  | cons action earlier ih =>
    intro state lives
    obtain ⟨first, second⟩ := ih lives.2
    exact ⟨⟨lives.1, first⟩, second⟩

/-- **The key of an entry is the MAC part of the address in its position vector.** -/
def Keyed (table : LocationTable) : Prop := ∀ mac pv, stored table mac = some pv → pv.gnAddr.mid = mac

theorem later_mid {old : Option LongPositionVector} {lpv pv : LongPositionVector}
    (kept : later old lpv = some pv) : pv = lpv ∨ old = some pv := by
  unfold later at kept
  cases old with
  | none =>
    obtain ⟨_, same⟩ := Option.ite_none_right_eq_some.mp kept
    exact .inl (Option.some.inj same).symm
  | some held =>
    dsimp only at kept
    split_ifs at kept
    · exact .inl (Option.some.inj kept).symm
    · exact .inr kept

theorem keyed_step {state : TableState} (action : TableAction) (formed : state.2.WellFormed)
    (keyed : Keyed state.2) : Keyed (tableStep state action).2 := by
  obtain ⟨now, table⟩ := state
  cases action with
  | update lpv =>
    intro mac pv isStored
    rw [show stored (tableStep (now, table) (.update lpv)).2 = _ from (stored_update now formed lpv).2]
      at isStored
    by_cases same : mac = lpv.gnAddr.mid
    · rw [same, Function.update_self] at isStored
      rcases later_mid isStored with rfl | held
      · exact same.symm
      · exact (keyed _ pv held).trans same.symm
    · rw [Function.update_of_ne same] at isStored
      exact keyed mac pv isStored
  | getOrCreateEntry mac =>
    intro other pv isStored
    exact keyed other pv (congrFun (stored_getValue formed) other ▸ isStored)
  | change mac change =>
    intro other pv isStored
    exact keyed other pv (congrFun (stored_change formed change) other ▸ isStored)
  | dropExpired =>
    intro mac pv isStored
    rw [show stored (tableStep (now, table) .dropExpired).2 mac = _ from stored_dropExpired formed mac]
      at isStored
    obtain ⟨entry, lives, held⟩ := Option.bind_eq_some_iff.mp isStored
    refine keyed mac pv (Option.bind_eq_some_iff.mpr ⟨entry, ?_, held⟩)
    exact (Option.filter_eq_some_iff.mp lives).1
  | advance elapsed => exact keyed

theorem keyed_run (actions : List TableAction) :
    ∀ state : TableState, state.2.WellFormed → Keyed state.2 → Keyed (tableRun state actions).2 := by
  induction actions with
  | nil => exact fun _ _ keyed => keyed
  | cons action rest ih =>
    intro state formed keyed
    exact ih _ (tableStep_spec action formed).1 (keyed_step action formed keyed)

/-- The table that is constructed. -/
def LocationTable.initial (lifetime : ℤ) : LocationTable := SoftStateMap.empty lifetime

/-- **Location table convergence.** After any run of the table, deliver vectors in any order to a
station that has no position vector, valid ones with timestamps in a window shorter than `2^31` ms.
If the station's entry does not expire, the table ends with a newest one of them, and at no time goes
back to an older one. Every entry is kept under the MAC part of the address in its vector. -/
theorem location_table_converges (now lifetime : ℤ) (earlier actions : List TableAction) :
    let start := tableRun (now, LocationTable.initial lifetime) earlier
    Keyed (tableRun start actions).2 ∧
      ∀ mac base, stored start.2 mac = none → Lives mac start actions →
        (∀ pv ∈ delivered mac actions, InWindow base pv) →
        (delivered mac actions ≠ [] →
          ∃ newest ∈ delivered mac actions, stored (tableRun start actions).2 mac = some newest ∧
            ∀ pv ∈ delivered mac actions, pv.timestamp.since base ≤ newest.timestamp.since base) ∧
        ∀ before after, actions = before ++ after →
          ∀ pv, stored (tableRun start before).2 mac = some pv →
            ∃ next, stored (tableRun start actions).2 mac = some next ∧
              pv.timestamp.since base ≤ next.timestamp.since base := by
  intro start
  have formed : start.2.WellFormed := tableRun_formed earlier _ (wellFormed_empty lifetime)
  refine ⟨keyed_run actions start formed (keyed_run earlier _ (wellFormed_empty lifetime) nofun), ?_⟩
  intro mac base absent lives fits
  obtain ⟨bounds, sources⟩ := later_newest (delivered mac actions) (stored start.2 mac)
    (by rw [absent]; exact nofun) fits
  rw [← stored_run mac actions start formed lives, absent] at bounds sources
  constructor
  · intro some_delivered
    obtain ⟨pv, member⟩ := List.exists_mem_of_ne_nil _ some_delivered
    obtain ⟨newest, ends, _⟩ := bounds pv (.inl member)
    have among : newest ∈ delivered mac actions := (sources newest ends).resolve_right nofun
    refine ⟨newest, among, ends, fun other otherMember => ?_⟩
    obtain ⟨same, otherEnds, le⟩ := bounds other (.inl otherMember)
    cases ends.symm.trans otherEnds
    exact le
  · rintro before after rfl pv holds
    obtain ⟨livesBefore, livesAfter⟩ := lives_append before lives
    have formedBefore := tableRun_formed before start formed
    have split : delivered mac (before ++ after) = delivered mac before ++ delivered mac after :=
      List.filterMap_append
    rw [split] at fits
    have fitsBefore := fun pv member => fits pv (List.mem_append_left _ member)
    have fitsAfter := fun pv member => fits pv (List.mem_append_right _ member)
    have heldFits : ∀ held ∈ stored (tableRun start before).2 mac, InWindow base held := by
      intro held holdsHeld
      rw [stored_run mac before start formed livesBefore, absent] at holdsHeld
      obtain ⟨_, sourcesBefore⟩ := later_newest (delivered mac before) none nofun fitsBefore
      exact fitsBefore held ((sourcesBefore held holdsHeld).resolve_right nofun)
    obtain ⟨boundsAfter, _⟩ := later_newest (delivered mac after) _ heldFits fitsAfter
    obtain ⟨next, ends, le⟩ := boundsAfter pv (.inr holds)
    refine ⟨next, ?_, le⟩
    rw [← stored_run mac after _ formedBefore livesAfter] at ends
    rw [tableRun, List.foldl_append]
    exact ends

/-- A vector of a station at 48° north. -/
def sampleVector (milliseconds : UInt32) : LongPositionVector :=
  { LongPositionVector.zero with timestamp := ⟨milliseconds⟩, latitude := 480000000 }

/-- A newer vector is followed by an older one, and the counter wraps between them. -/
def sampleDeliveries : List TableAction :=
  [.update (sampleVector 5), .advance 1000, .update (sampleVector 4294967290)]

theorem location_table_converges_wrapping :
    ∃ newest ∈ delivered LongPositionVector.zero.gnAddr.mid sampleDeliveries,
      stored (tableRun (tableRun (0, LocationTable.initial 20000000) []) sampleDeliveries).2
          LongPositionVector.zero.gnAddr.mid = some newest ∧
        ∀ pv ∈ delivered LongPositionVector.zero.gnAddr.mid sampleDeliveries,
          pv.timestamp.since ⟨4294967290⟩ ≤ newest.timestamp.since ⟨4294967290⟩ := by
  refine ((location_table_converges 0 20000000 [] sampleDeliveries).2
    LongPositionVector.zero.gnAddr.mid ⟨4294967290⟩ rfl ?_ ?_).1 ?_
  · decide
  · decide
  · decide

end Vanet.Geonet
