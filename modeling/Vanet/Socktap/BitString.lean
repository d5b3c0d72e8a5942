/-
**The JSON functions of a BIT STRING.**

`asn1json.py` emits `to_json` and `from_json` for every BIT STRING with named bits. ASN.1 counts the bits
of a byte from the most significant one (`bitAt`).

* `fromJson_spec`: `from_json` stores every named bit where it belongs, and `bits_unused` agrees with
  `size`. There is one byte too many when the number of named bits is a multiple of 8.
* `toJsonMember_bit`, `toJsonMember_beyond`: `to_json` reads the named bits of the first byte. For those
  of later bytes it shifts further than a byte has bits.
* `bit_string_codec_iff`: both functions are right for one to seven named bits and for no others.
-/

import Mathlib.Data.List.Nodup
import Vanet.Socktap.Asn1

namespace Vanet.Socktap

open Vanet.Net

/-! ### Bits of a byte string -/

/-- Bit `i`, the most significant bit of a byte first. -/
def bitAt (buf : ByteBuffer) (i : ℕ) : Option Bool :=
  buf[i / 8]?.map fun byte => byte.toNat.testBit (7 - i % 8)

/-- `byte |= (1 << shift)`. -/
def setShifted (shift : ℕ) (byte : UInt8) : UInt8 := .ofNat (byte.toNat ||| 1 <<< shift)

/-- A bit is set, by the number of its byte and the shift within it. There is no such byte beyond the
buffer. -/
def setBit (buf : ByteBuffer) (index shift : ℕ) : Option ByteBuffer :=
  if index < buf.length then some (buf.modify index (setShifted shift)) else none

theorem testBit_setShifted {shift : ℕ} (within : shift < 8) (byte : UInt8) (k : ℕ) :
    (setShifted shift byte).toNat.testBit k = (decide (shift = k) || byte.toNat.testBit k) := by
  have fits : byte.toNat < 2 ^ 8 := byte.toNat_lt
  have power : 1 <<< shift < 2 ^ 8 := by
    rw [Nat.one_shiftLeft]
    exact Nat.pow_lt_pow_right (by omega) within
  have small : byte.toNat ||| 1 <<< shift < 2 ^ 8 := Nat.or_lt_two_pow fits power
  unfold setShifted
  rw [UInt8.toNat_ofNat_of_lt' small, Nat.testBit_or, Nat.one_shiftLeft, Nat.testBit_two_pow,
    Bool.or_comm]

/-- **Setting bit `j`** makes it true and leaves the others as they are. -/
theorem bitAt_setBit {buf : ByteBuffer} {j : ℕ} (inside : j < 8 * buf.length) :
    ∃ after, setBit buf (j / 8) (7 - j % 8) = some after ∧ after.length = buf.length ∧
      ∀ i, bitAt after i = (bitAt buf i).map (decide (i = j) || ·) := by
  have byte : j / 8 < buf.length := by omega
  refine ⟨_, if_pos byte, List.length_modify _ _ _, fun i => ?_⟩
  unfold bitAt
  rw [List.getElem?_modify, Option.map_eq_map, Option.map_map, Option.map_map]
  congr 1
  funext other
  have shift : 7 - j % 8 < 8 := by omega
  by_cases same : j / 8 = i / 8
  · have bits : (7 - j % 8 = 7 - i % 8) ↔ i = j := by omega
    simp [same, testBit_setShifted shift, bits]
  · have differs : i ≠ j := fun equal => same (by rw [equal])
    simp [same, differs]

/-- The bits of a fresh buffer are zero. -/
theorem bitAt_replicate {size i : ℕ} (inside : i < 8 * size) :
    bitAt (List.replicate size 0) i = some false := by
  have byte : i / 8 < size := by omega
  simp [bitAt, byte]

/-! ### The emitted functions -/

/-- `BIT_STRING_t`. -/
structure BitString where
  buf : ByteBuffer
  size : ℕ
  bitsUnused : ℕ
  deriving DecidableEq

/-- **`ASN1BitString`**: the named bits of a definition with their positions. The names are different,
and the positions are those of the first bits. -/
structure ASN1BitString where
  members : List (String × ℕ)
  distinct : (members.map Prod.fst).Nodup
  positions : (members.map Prod.snd).Perm (List.range members.length)

namespace Json

/-- `at`, which throws where there is no such key. -/
def «at» (j : Json) (name : String) : Option Json :=
  match j with
  | .object members => members.lookup name
  | _ => none

/-- `get_to` a `bool`, which throws for other types. -/
def getBool : Json → Option Bool
  | .bool flag => some flag
  | _ => none

end Json

namespace ASN1BitString

/-- `(bool) (*(p.buf + …) & (1 << …))`. A shift by more than the width of an `int` is undefined. -/
def toJsonMember (p : BitString) (member : String × ℕ) : Option (String × Json) :=
  if 7 * (member.2 / 8 + 1) - member.2 % 8 < 32 then
    (marshalBit p.buf member.1 member.2).toOption
  else none

/-- The emitted `to_json`. Without any named bits it returns `json{}`. -/
def toJson (definition : ASN1BitString) (p : BitString) : Option Json :=
  (definition.members.mapM (toJsonMember p)).map fun entries =>
    if entries = [] then .null else .object entries

/-- The emitted assignments `if (…) *(p_tmp->buf + …) |= (1 << …)`, over positions and flags. -/
def setBits : List (ℕ × Bool) → ByteBuffer → Option ByteBuffer
  | [], buf => some buf
  | (position, flag) :: rest, buf =>
    if flag then (setBit buf (position / 8) (7 - position % 8)).bind (setBits rest)
    else setBits rest buf

/-- The emitted `from_json`. -/
def fromJson (definition : ASN1BitString) (j : Json) : Option BitString := do
  let flags ← definition.members.mapM fun member => (j.at member.1).bind Json.getBool
  let size := definition.members.length / 8 + 1
  let bitsUnused := 8 - definition.members.length % 8
  let buf ← setBits ((definition.members.map Prod.snd).zip flags) (List.replicate size 0)
  pure ⟨buf, size, bitsUnused⟩

/-! ### Storing -/

/-- The bits that are set among these. -/
def Sets (entries : List (ℕ × Bool)) (i : ℕ) : Bool := entries.any fun entry => entry.2 && i = entry.1

theorem setBits_spec : ∀ (entries : List (ℕ × Bool)) (buf : ByteBuffer),
    (∀ entry ∈ entries, entry.1 < 8 * buf.length) →
    ∃ after, setBits entries buf = some after ∧ after.length = buf.length ∧
      ∀ i, bitAt after i = (bitAt buf i).map (Sets entries i || ·)
  | [], buf, _ => ⟨buf, rfl, rfl, fun i => by simp [Sets]⟩
  | (position, flag) :: rest, buf, inside => by
    have here : position < 8 * buf.length := inside (position, flag) List.mem_cons_self
    have later : ∀ entry ∈ rest, entry.1 < 8 * buf.length :=
      fun entry member => inside entry (List.mem_cons_of_mem _ member)
    unfold setBits
    by_cases set : flag = true
    · obtain ⟨mid, written, length, first⟩ := bitAt_setBit here
      obtain ⟨after, done, same, bits⟩ := setBits_spec rest mid (by rw [length]; exact later)
      refine ⟨after, by simp [set, written, done], same.trans length, fun i => ?_⟩
      rw [bits, first, Option.map_map]
      congr 1
      funext bit
      simp [Sets, set, Bool.or_comm, Bool.or_assoc]
    · obtain ⟨after, done, same, bits⟩ := setBits_spec rest buf later
      refine ⟨after, by simp [set, done], same, fun i => ?_⟩
      rw [bits]
      simp [Sets, set]

theorem mapM_some {α β : Type} {f : α → Option β} {g : α → β} {items : List α}
    (each : ∀ item ∈ items, f item = some (g item)) : items.mapM f = some (items.map g) := by
  induction items with
  | nil => rfl
  | cons item rest ih =>
    rw [List.mapM_cons, each item List.mem_cons_self,
      ih fun other member => each other (List.mem_cons_of_mem _ member)]
    rfl

variable {definition : ASN1BitString}

theorem position_lt {member : String × ℕ} (named : member ∈ definition.members) :
    member.2 < definition.members.length := by
  have listed := List.mem_map_of_mem (f := Prod.snd) named
  exact List.mem_range.mp (definition.positions.mem_iff.mp listed)

/-- A bit is set if its own flag is. -/
theorem sets_position {member : String × ℕ} (named : member ∈ definition.members)
    (flags : String → Bool) :
    Sets (definition.members.map fun other => (other.2, flags other.1)) member.2 =
      flags member.1 := by
  have nodup : (definition.members.map Prod.snd).Nodup :=
    definition.positions.nodup_iff.mpr List.nodup_range
  have own : ∀ other ∈ definition.members, member.2 = other.2 → member = other :=
    fun other listed same => List.inj_on_of_nodup_map nodup named listed same
  rw [Bool.eq_iff_iff]
  unfold Sets
  simp only [List.any_map, List.any_eq_true, Function.comp_apply, Bool.and_eq_true,
    decide_eq_true_eq]
  constructor
  · rintro ⟨other, listed, set, same⟩
    rw [own other listed same]
    exact set
  · intro set
    exact ⟨member, named, set, rfl⟩

/-- The JSON object has these flags for the named bits. -/
def Describes (definition : ASN1BitString) (j : Json) (flags : String → Bool) : Prop :=
  ∀ member ∈ definition.members, j.at member.1 = some (.bool (flags member.1))

/-- **`from_json` stores every named bit** in its place, in one byte more than there are full ones. -/
theorem fromJson_spec {j : Json} {flags : String → Bool} (describes : definition.Describes j flags) :
    ∃ p, definition.fromJson j = some p ∧ p.buf.length = definition.members.length / 8 + 1 ∧
      p.size = definition.members.length / 8 + 1 ∧
      p.bitsUnused = 8 * p.size - definition.members.length ∧
      ∀ member ∈ definition.members, bitAt p.buf member.2 = some (flags member.1) := by
  set size := definition.members.length / 8 + 1 with sizeEq
  have read : (definition.members.mapM fun member => (j.at member.1).bind Json.getBool) =
      some (definition.members.map fun member => flags member.1) := by
    refine mapM_some fun member named => ?_
    rw [describes member named]
    rfl
  have entries : (definition.members.map Prod.snd).zip
      (definition.members.map fun member => flags member.1) =
      definition.members.map fun member => (member.2, flags member.1) := List.zip_map'
  have inside : ∀ entry ∈ definition.members.map fun member => (member.2, flags member.1),
      entry.1 < 8 * (List.replicate size (0 : UInt8)).length := by
    intro entry listed
    obtain ⟨member, named, rfl⟩ := List.mem_map.mp listed
    have below := position_lt named
    rw [List.length_replicate]
    omega
  obtain ⟨buf, written, length, bits⟩ := setBits_spec _ _ inside
  refine ⟨⟨buf, size, 8 - definition.members.length % 8⟩, ?_, ?_, rfl, ?_, fun member named => ?_⟩
  · unfold fromJson
    simp [read, entries, ← sizeEq, written]
  · rw [length, List.length_replicate]
  · show 8 - definition.members.length % 8 = 8 * size - definition.members.length
    omega
  · have below := position_lt named
    rw [bits, bitAt_replicate (by omega), sets_position named]
    simp

/-! ### Reading -/

/-- A named bit of the first byte is read where it is. -/
theorem toJsonMember_bit {p : BitString} {member : String × ℕ} {bit : Bool} (first : member.2 < 8)
    (stored : bitAt p.buf member.2 = some bit) :
    toJsonMember p member = some (member.1, .bool bit) := by
  have byte : member.2 / 8 = 0 := by omega
  have shift : 7 * (member.2 / 8 + 1) - member.2 % 8 = 7 - member.2 % 8 := by omega
  unfold bitAt at stored
  obtain ⟨value, found, rfl⟩ := Option.map_eq_some_iff.mp stored
  unfold toJsonMember marshalBit
  rw [if_pos (by omega), found, shift]
  rfl

/-- What `to_json` takes for a bit. -/
def readBit (p : BitString) (i : ℕ) : Bool :=
  p.buf[i / 8]?.any fun byte => byte.toNat.testBit (7 * (i / 8 + 1) - i % 8)

theorem toJsonMember_eq {p : BitString} {member : String × ℕ} {entry : String × Json}
    (read : toJsonMember p member = some entry) : entry = (member.1, .bool (readBit p member.2)) := by
  unfold toJsonMember marshalBit at read
  unfold readBit
  by_cases defined : 7 * (member.2 / 8 + 1) - member.2 % 8 < 32
  · rw [if_pos defined] at read
    cases found : p.buf[member.2 / 8]? with
    | none =>
      rw [found] at read
      cases read
    | some byte =>
      rw [found] at read
      cases read
      rfl
  · rw [if_neg defined] at read
    cases read

/-- **The first named bit of the second byte is never read as true.** -/
theorem readBit_beyond (p : BitString) : readBit p 8 = false := by
  unfold readBit
  rw [show 8 / 8 = 1 from rfl, show 7 * (1 + 1) - 8 % 8 = 14 from rfl]
  cases p.buf[1]? with
  | none => rfl
  | some byte => exact Nat.testBit_lt_two_pow (lt_of_lt_of_le byte.toNat_lt (by decide))

theorem lookup_map {members : List (String × ℕ)} (distinct : (members.map Prod.fst).Nodup)
    (flags : String × ℕ → Bool) {member : String × ℕ} (named : member ∈ members) :
    (members.map fun other => (other.1, Json.bool (flags other))).lookup member.1 =
      some (.bool (flags member)) := by
  induction members with
  | nil => cases named
  | cons first rest ih =>
    rw [List.map_cons, List.nodup_cons] at distinct
    rw [List.map_cons, List.lookup_cons]
    rcases List.mem_cons.mp named with rfl | later
    · simp
    · have other : member.1 ≠ first.1 := fun same =>
        distinct.1 (same ▸ List.mem_map_of_mem later)
      rw [show (member.1 == first.1) = false from beq_false_of_ne other]
      exact ih distinct.2 later

/-- `to_json` of what is read as these flags. -/
theorem toJson_describes {p : BitString} {flags : String → Bool}
    (read : ∀ member ∈ definition.members,
      toJsonMember p member = some (member.1, .bool (flags member.1))) :
    ∃ back, definition.toJson p = some back ∧ definition.Describes back flags := by
  unfold toJson
  rw [mapM_some read]
  refine ⟨_, rfl, fun member named => ?_⟩
  have listed : (definition.members.map fun other => (other.1, Json.bool (flags other.1))) ≠ [] := by
    simp only [ne_eq, List.map_eq_nil_iff]
    exact List.ne_nil_of_mem named
  show (if _ then Json.null else Json.object _).at member.1 = _
  rw [if_neg listed]
  exact lookup_map definition.distinct (fun other => flags other.1) named

theorem mapM_getElem {α β : Type} {f : α → Option β} {items : List α} {results : List β}
    (mapped : items.mapM f = some results) {item : α} (listed : item ∈ items) :
    ∃ result, f item = some result := by
  induction items generalizing results with
  | nil => cases listed
  | cons first rest ih =>
    rw [List.mapM_cons] at mapped
    obtain ⟨head, here, mapped⟩ := Option.bind_eq_some_iff.mp mapped
    obtain ⟨tail, later, _⟩ := Option.bind_eq_some_iff.mp mapped
    rcases List.mem_cons.mp listed with rfl | behind
    · exact ⟨head, here⟩
    · exact ih later behind

/-! ### Both functions -/

/-- **The functions of a definition are right**: whatever its named bits are, `from_json` stores them in
as many bytes as they need and where they belong, `bits_unused` is the rest, and `to_json` gives them
back. -/
def Correct (definition : ASN1BitString) : Prop :=
  ∀ j flags, definition.Describes j flags → ∃ p, definition.fromJson j = some p ∧
    (∃ back, definition.toJson p = some back ∧ definition.Describes back flags) ∧
    p.buf.length = p.size ∧
    p.size = (definition.members.length + 7) / 8 ∧
    p.bitsUnused + definition.members.length = 8 * p.size ∧
    ∀ member ∈ definition.members, bitAt p.buf member.2 = some (flags member.1)

/-- A JSON object with these flags. -/
def object (definition : ASN1BitString) (flags : String → Bool) : Json :=
  .object (definition.members.map fun member => (member.1, .bool (flags member.1)))

theorem object_describes (flags : String → Bool) :
    definition.Describes (definition.object flags) flags :=
  fun _ named => lookup_map definition.distinct (fun member => flags member.1) named

/-- The last bit of the first byte is the last one that comes back. -/
theorem Correct.length_le (correct : definition.Correct) : definition.members.length ≤ 8 := by
  by_contra many
  obtain ⟨p, _, ⟨back, read, describes⟩, _⟩ := correct _ _ (object_describes fun _ => true)
  have ninth : 8 ∈ definition.members.map Prod.snd :=
    definition.positions.mem_iff.mpr (List.mem_range.mpr (by omega))
  obtain ⟨⟨name, position⟩, named, same⟩ := List.mem_map.mp ninth
  obtain rfl : position = 8 := same
  unfold toJson at read
  obtain ⟨entries, mapped, rfl⟩ := Option.map_eq_some_iff.mp read
  have written : entries =
      definition.members.map fun member => (member.1, Json.bool (readBit p member.2)) := by
    have each : ∀ member ∈ definition.members,
        toJsonMember p member = some (member.1, .bool (readBit p member.2)) := by
      intro member listed
      obtain ⟨entry, reads⟩ := mapM_getElem mapped listed
      rw [reads, toJsonMember_eq reads]
    exact Option.some.inj (mapped.symm.trans (mapM_some each))
  -- the flag of the ninth bit is true, and `to_json` has written false
  have flag := describes (name, 8) named
  have listed : entries ≠ [] := by
    rw [written]
    simp only [ne_eq, List.map_eq_nil_iff]
    exact List.ne_nil_of_mem named
  rw [if_neg listed, written] at flag
  have false_read : (Json.object (definition.members.map fun member =>
      (member.1, Json.bool (readBit p member.2)))).at name = some (.bool (readBit p 8)) :=
    lookup_map definition.distinct (fun member => readBit p member.2) named
  rw [false_read, readBit_beyond] at flag
  cases flag

/-- **The functions of a definition are right for one to seven named bits**, and for no other number. -/
theorem bit_string_codec_iff (definition : ASN1BitString) :
    definition.Correct ↔ 1 ≤ definition.members.length ∧ definition.members.length ≤ 7 := by
  constructor
  · intro correct
    have few := correct.length_le
    obtain ⟨p, stored, _, _, size, _⟩ := correct _ _ (object_describes fun _ => true)
    obtain ⟨q, again, _, longer, _⟩ := fromJson_spec (definition.object_describes fun _ => true)
    obtain rfl : p = q := Option.some.inj (stored.symm.trans again)
    omega
  · rintro ⟨some_bit, few⟩ j flags describes
    obtain ⟨p, stored, length, size, unused, bits⟩ := fromJson_spec describes
    refine ⟨p, stored, toJson_describes fun member named => ?_, length.trans size.symm, ?_, ?_, bits⟩
    · have below := position_lt named
      exact toJsonMember_bit (by omega) (bits member named)
    · omega
    · omega

/-- `LaneSharing` of DSRC, with ten named bits. -/
def laneSharing : ASN1BitString where
  members := [("overlappingLaneDescriptionProvided", 0), ("multipleLanesTreatedAsOneLane", 1),
    ("otherNonMotorizedTrafficTypes", 2), ("individualMotorizedVehicleTraffic", 3),
    ("busVehicleTraffic", 4), ("taxiVehicleTraffic", 5), ("pedestriansTraffic", 6),
    ("cyclistVehicleTraffic", 7), ("trackedVehicleTraffic", 8), ("pedestrianTraffic", 9)]
  distinct := by decide
  positions := by decide

/-- **A flag is lost**: `trackedVehicleTraffic` is stored, and `to_json` answers that it is not set. -/
theorem not_bit_string_codec : ¬ ∀ definition : ASN1BitString, definition.Correct := by
  intro correct
  exact absurd (correct laneSharing).length_le (by decide)

end ASN1BitString

end Vanet.Socktap
