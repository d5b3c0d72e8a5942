/-
**What the deserialisers restore.**

Every element of a message is read back from the bytes it was serialised to, unless a number in it is
too large: lengths and `IntX` values from `codingLimit` on are written, but they are not read. For each
element `Restorable` says that its numbers are small enough, and the element's reader restores it if
and only if this holds (`RestoresIff`).
-/

import Vanet.Library.RoundTrip
import Vanet.Security.Unambiguous

namespace Vanet.Security

open Vanet.Library Reader Read

variable {limit : ℕ} {α : Type}

/-- The first of the numbers that no decoder takes. -/
def codingLimit : ℕ := 2 ^ 56

/-- Whether the reader of a value and its size restores them from the bytes. -/
abbrev ReadsIff (read : Read (α × ℕ)) (bytes : ByteBuffer) (value : α) (size : ℕ) (P : Prop) : Prop :=
  RestoresIff read bytes (value, size) (fun result => result.1 = value) P

/-! ### Numbers and lists -/

/-- Memory for no more than the bytes that are left is always there. -/
theorem restoresIff_resize {β : Type} {count : ℕ} {bytes : ByteBuffer} {next : Unit → Read β}
    {result : β} {T : β → Prop} {P : Prop} (enough : count ≤ bytes.length)
    (second : RestoresIff (next ()) bytes result T P) :
    RestoresIff (resize limit count >>= next) bytes result T P := by
  have granted : ∀ rest notes, ∃ taken, (resize limit count >>= next) ⟨bytes ++ rest, notes⟩ =
      next () ⟨bytes ++ rest, taken⟩ := by
    intro rest notes
    have fits : count ≤ max limit (⟨bytes ++ rest, notes⟩ : Tape Note).left := by
      refine le_max_of_le_right (enough.trans ?_)
      show bytes.length ≤ (bytes ++ rest).length
      rw [List.length_append]
      exact Nat.le_add_right _ _
    refine ⟨notes ++ [.request count (⟨bytes ++ rest, notes⟩ : Tape Note).left], ?_⟩
    have asked : (resize limit count) ⟨bytes ++ rest, notes⟩ = (.ok (), ⟨bytes ++ rest,
        notes ++ [.request count (⟨bytes ++ rest, notes⟩ : Tape Note).left]⟩) := by
      show (if count ≤ max limit (⟨bytes ++ rest, notes⟩ : Tape Note).left then
        Except.ok () else Except.error Fault.badAlloc, _) = _
      rw [if_pos fits]
      rfl
    rw [bind_apply, asked]
  constructor
  · intro holds rest notes
    obtain ⟨taken, same⟩ := granted rest notes
    rw [same]
    exact second.restores holds rest taken
  · intro fails rest notes found after returned
    obtain ⟨taken, same⟩ := granted rest notes
    rw [same] at returned
    exact second.misses fails rest taken found after returned

/-- **A number is read** if and only if it is below the limit. -/
theorem restoresIff_number (value : UInt64) : RestoresIff (deserializeLength limit)
    (encodeLength value) value (fun _ => True) (value.toNat < codingLimit) := by
  constructor
  · intro small
    obtain ⟨first, rest, encodes⟩ := encodes small
    have taken : Restores (octets (countLeadingOnes first)) rest ⟨rest, encodes.leading.symm⟩ :=
      restores_octets encodes.leading.symm
    have follow : RestoresIff (resize limit (countLeadingOnes first) >>= fun _ =>
        octets (countLeadingOnes first) >>= fun bytes =>
          assert (.length first (decodeLength (first :: bytes.1)).2)
            ((decodeLength (first :: bytes.1)).1 ≠ 0) >>= fun _ =>
              pure (decodeLength (first :: bytes.1)).2) rest value (fun _ => True) True := by
      refine restoresIff_resize encodes.leading.le (Restores.always (taken.map ?_))
      show Restores (assert (.length first (decodeLength (first :: rest)).2) _ >>= fun _ =>
        pure (decodeLength (first :: rest)).2) [] value
      rw [encodes.decoded]
      exact Restores.note.map .pure
    rw [encodes.encoded]
    exact (restores_byte first).bind (follow.restores trivial)
  · intro large rest notes result after returned _
    rw [encodeLength_large (Nat.le_of_not_lt large)] at returned
    obtain ⟨first, mid, ran, returned⟩ := bind_ok.mp returned
    cases ran
    obtain ⟨_, mid, _, returned⟩ := bind_ok.mp returned
    obtain ⟨bytes, mid, _, returned⟩ := bind_ok.mp returned
    obtain ⟨_, mid, passed, _⟩ := bind_ok.mp returned
    rw [(decodeLength_eq_zero_iff 0xff bytes.1).mpr rfl] at passed
    cases passed

theorem restoresIff_length {size : ℕ} (fits : size < sizeLimit) :
    RestoresIff (deserializeLength limit) (serializeLength size) (UInt64.ofNat size) (fun _ => True)
      (size < codingLimit) := by
  have decides : RestoresIff (deserializeLength limit) (serializeLength size) (UInt64.ofNat size)
      (fun _ => True) ((UInt64.ofNat size).toNat < codingLimit) := restoresIff_number _
  rwa [UInt64.toNat_ofNat_of_lt' fits] at decides

theorem length_encodeLength {value : UInt64} (small : value.toNat < codingLimit) :
    (encodeLength value).length = lengthCodingSize value.toNat := by
  obtain ⟨first, rest, encodes⟩ := encodes small
  rw [encodes.encoded, List.length_cons, encodes.size]

theorem length_serializeLength {size : ℕ} (small : size < codingLimit) :
    (serializeLength size).length = lengthCodingSize size := by
  have value : (UInt64.ofNat size).toNat = size :=
    UInt64.toNat_ofNat_of_lt' (small.trans (by decide))
  unfold serializeLength
  rw [length_encodeLength (by rwa [value]), value]

theorem length_serializeBuffer {buffer : ByteBuffer} (small : buffer.length < codingLimit) :
    (serializeBuffer buffer).length = buffer.length + lengthCodingSize buffer.length := by
  unfold serializeBuffer
  rw [List.length_append, length_serializeLength small, Nat.add_comm]

/-- What stands behind its type has one byte more. -/
theorem length_tagged {type : UInt8} {bytes : ByteBuffer} {size : ℕ} (length : bytes.length = size) :
    (type :: bytes).length = 1 + size := by
  rw [List.length_cons, length, Nat.add_comm]

theorem listSize_cons {α : Type} (getSize : α → ℕ) (element : α) (list : List α) :
    listSize getSize (element :: list) = getSize element + listSize getSize list := by
  rw [listSize, List.map_cons, List.sum_cons, listSize]

/-- Whether all of a list is read: its size is below the limit, and its elements are restored. -/
def ListRestorable (getSize : α → ℕ) (Restorable : α → Prop) (list : List α) : Prop :=
  listSize getSize list < codingLimit ∧ ∀ t ∈ list, Restorable t

section Lists

variable {element : Read (α × ℕ)} {getSize surplus : α → ℕ} {serialize : α → ByteBuffer}
  {Restorable : α → Prop}

/-- What is left of an announced length when the loop has ended. -/
theorem foldl_remainder (list : List α) : ∀ remainder : ℤ,
    list.foldl (fun remainder t => remainder - ((getSize t + surplus t : ℕ) : ℤ)) remainder =
      remainder - listSize getSize list - listSize surplus list := by
  induction list with
  | nil => simp
  | cons t list ih =>
    intro remainder
    rw [List.foldl_cons, ih, listSize_cons, listSize_cons]
    omega

theorem listSize_eq_zero {list : List α} : listSize surplus list = 0 ↔ ∀ t ∈ list, surplus t = 0 := by
  simp [listSize, List.sum_eq_zero_iff]

/-- The loop over a list of the announced size reads all of it, if no element counts too much. -/
theorem passes_list (list : List α) (positive : ∀ t ∈ list, 0 < getSize t)
    (counted : ∀ t ∈ list, Restorable t ∧ surplus t = 0) : ∀ {remainder : ℤ},
      remainder = listSize getSize list → Passes (fun remainder => decide (0 < remainder))
        (fun (remainder : ℤ) t => remainder - ((getSize t + surplus t : ℕ) : ℤ))
        (fun _ t => Restorable t) remainder list := by
  induction list with
  | nil =>
    rintro remainder rfl
    rfl
  | cons t list ih =>
    rintro remainder rfl
    obtain ⟨restorable, none⟩ := counted t List.mem_cons_self
    have some := positive t List.mem_cons_self
    rw [listSize_cons]
    refine ⟨decide_eq_true (by omega), restorable, ?_⟩
    refine ih (fun other member => positive other (List.mem_cons_of_mem _ member))
      (fun other member => counted other (List.mem_cons_of_mem _ member)) ?_
    show ((getSize t + listSize getSize list : ℕ) : ℤ) - ((getSize t + surplus t : ℕ) : ℤ) = _
    omega

/-- A list is read from behind its length. -/
theorem restoresIff_listLoop {list : List α} {length : UInt64}
    (announced : length.toNat = listSize getSize list) (nonempty : ∀ t ∈ list, serialize t ≠ [])
    (positive : ∀ t ∈ list, 0 < getSize t)
    (each : ∀ t ∈ list, ReadsIff element (serialize t) t (getSize t + surplus t) (Restorable t)) :
    ReadsIff (listLoop element length) (list.flatMap serialize) list length.toNat
      (∀ t ∈ list, Restorable t ∧ surplus t = 0) := by
  have looped : RestoresIff (loop (fun state => decide (0 < state.2))
      (fun state => do
        let read ← element
        pure (state.1 ++ [read.1], state.2 - (read.2 : ℤ)))
      (([], (length.toNat : ℤ)) : List α × ℤ)) (list.flatMap serialize)
      (list, list.foldl (fun remainder t => remainder - ((getSize t + surplus t : ℕ) : ℤ))
        (length.toNat : ℤ)) (fun last => last.1 = list)
      (Passes (fun remainder => decide (0 < remainder))
        (fun (remainder : ℤ) t => remainder - ((getSize t + surplus t : ℕ) : ℤ))
        (fun _ t => Restorable t) (length.toNat : ℤ) list) := by
    refine RestoresIff.loop (fun remainder => decide (0 < remainder)) nonempty ?_ ?_ _
    · rintro ⟨list, remainder⟩
      exact .bind fun read => .pure ⟨read.1, rfl⟩
    intro t member list remainder
    refine (each t member).map (fun _ => .pure fun same => ?_) .pure
    exact List.singleton_inj.mp (List.append_cancel_left same)
  have checked : ∀ remainder : ℤ, ReadsIff (assert (.list remainder) (remainder = 0) >>= fun _ =>
      pure (list, length.toNat)) [] list length.toNat (remainder = 0) := by
    intro remainder
    constructor
    · rintro rfl
      exact Restores.note.map .pure
    · intro other rest notes result after returned
      obtain ⟨_, mid, passed, _⟩ := bind_ok.mp returned
      rw [decide_eq_false other] at passed
      cases passed
  refine RestoresIff.congr (looped.last (fun _ => ?_) (checked _)) ?_
  · exact .bind fun _ => .pure id
  · rw [foldl_remainder, announced]
    constructor
    · rintro ⟨passes, nothing⟩
      have none := listSize_eq_zero.mp (by omega : listSize surplus list = 0)
      intro t member
      obtain ⟨_, restorable⟩ := passes.holds t member
      exact ⟨restorable, none t member⟩
    · intro counted
      have none := listSize_eq_zero.mpr fun t member => (counted t member).2
      exact ⟨passes_list list positive counted rfl, by omega⟩

/-- **A list is read** if and only if its length is, its elements are, and none of these is counted
with more bytes than it has. -/
theorem restoresIff_counted {list : List α} (fits : listSize getSize list < sizeLimit)
    (nonempty : ∀ t ∈ list, serialize t ≠ []) (positive : ∀ t ∈ list, 0 < getSize t)
    (each : ∀ t ∈ list, ReadsIff element (serialize t) t (getSize t + surplus t) (Restorable t)) :
    ReadsIff (deserializeList limit element) (serializeList getSize serialize list) list
      (listSize getSize list) (ListRestorable getSize (fun t => Restorable t ∧ surplus t = 0) list) := by
  have value : (UInt64.ofNat (listSize getSize list)).toNat = listSize getSize list :=
    UInt64.toNat_ofNat_of_lt' fits
  have looped := restoresIff_listLoop value nonempty positive each
  rw [value] at looped
  exact (restoresIff_length fits).orFail looped

theorem restoresIff_list {list : List α} (fits : listSize getSize list < sizeLimit)
    (nonempty : ∀ t, serialize t ≠ []) (positive : ∀ t, 0 < getSize t)
    (each : ∀ t ∈ list, ReadsIff element (serialize t) t (getSize t) (Restorable t)) :
    ReadsIff (deserializeList limit element) (serializeList getSize serialize list) list
      (listSize getSize list) (ListRestorable getSize Restorable list) := by
  have decides := @restoresIff_counted limit _ _ _ (fun _ => 0) _ _ _ fits
    (fun t _ => nonempty t) (fun t _ => positive t) each
  simpa only [and_true] using decides

theorem length_serializeList {list : List α} (restorable : ListRestorable getSize Restorable list)
    (each : ∀ t ∈ list, Restorable t → (serialize t).length = getSize t) :
    (serializeList getSize serialize list).length =
      listSize getSize list + lengthCodingSize (listSize getSize list) := by
  obtain ⟨small, restorables⟩ := restorable
  have lengths : list.map (fun t => (serialize t).length) = list.map getSize :=
    List.map_congr_left fun t member => each t member (restorables t member)
  unfold serializeList
  rw [List.length_append, length_serializeLength small, List.length_flatMap, lengths, Nat.add_comm]
  rfl

end Lists

end Vanet.Security
