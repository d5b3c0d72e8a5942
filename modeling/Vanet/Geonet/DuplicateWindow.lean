/-
**The window of a duplicate packet list.**

A sequence number that is in the list stays where it is, one that is not takes the place of the oldest one.
So the list is not about the last checks but about the last checks that found nothing, and the counter of a
number is about the checks since it came in. It has 32 bits.

* `Remembers.check`: what one check does, against the `sightings` of the numbers.
* `answers_eq`: the answers of all checks are those of the sightings.
* `duplicate_window_iff`: the list is right about all numbers if and only if no number that it holds has come
  `2 ^ 32` times since it came in.
-/

import Vanet.Geonet.Detection

namespace Vanet.Geonet

open Vanet.Library

namespace DuplicatePacketList

variable {elements : ℕ} {list : DuplicatePacketList} {history : List SequenceNumber}

/-- The list after checks of these numbers. -/
def checkAll (list : DuplicatePacketList) (history : List SequenceNumber) : DuplicatePacketList :=
  history.foldl (fun list sn => (list.check sn).2) list

/-- **The numbers with the answers** to their checks. -/
def answers (list : DuplicatePacketList) : List SequenceNumber → List (SequenceNumber × Bool)
  | [] => []
  | sn :: later => (sn, (list.check sn).1) :: answers (list.check sn).2 later

theorem checkAll_concat (list : DuplicatePacketList) (history : List SequenceNumber) (sn : SequenceNumber) :
    list.checkAll (history ++ [sn]) = ((list.checkAll history).check sn).2 :=
  List.foldl_concat _ _ _ _

theorem answers_concat (list : DuplicatePacketList) (history : List SequenceNumber) (sn : SequenceNumber) :
    list.answers (history ++ [sn]) = list.answers history ++ [(sn, ((list.checkAll history).check sn).1)] := by
  induction history generalizing list with
  | nil => rfl
  | cons first later ih =>
    rw [List.cons_append, answers, ih, answers, List.cons_append]
    rfl

/-! ### Counters -/

/-- The counter of a number that is in the list once. -/
theorem counter_of_mem (distinct : list.numbers.Nodup) {element : ListElement}
    (held : element ∈ list.elements.items) : list.counter element.sequenceNumber = element.counter := by
  unfold counter
  unfold numbers at distinct
  cases found :
      list.elements.items.find? fun other => other.sequenceNumber = element.sequenceNumber with
  | none =>
    have absent := List.find?_eq_none.mp found element held
    exact absurd (decide_eq_true rfl) absent
  | some other =>
    have same : other.sequenceNumber = element.sequenceNumber := by simpa using List.find?_some found
    rw [List.inj_on_of_nodup_map distinct (List.mem_of_find?_eq_some found) held same]
    rfl

theorem counter_of_notMem {sn : SequenceNumber} (absent : sn ∉ list.numbers) : list.counter sn = 0 := by
  have nothing : (list.elements.items.find? fun element => element.sequenceNumber = sn) = none := by
    refine List.find?_eq_none.mpr fun element held same => absent ?_
    exact List.mem_map.mpr ⟨element, held, of_decide_eq_true same⟩
  unfold counter
  rw [nothing]
  rfl

/-- Where a number is incremented that is there once. -/
theorem mem_increment {sn : SequenceNumber} {items : List ListElement} {element : ListElement}
    (distinct : (items.map ListElement.sequenceNumber).Nodup) (held : element ∈ increment sn items) :
    element ∈ items ∧ element.sequenceNumber ≠ sn ∨
      element.sequenceNumber = sn ∧
        ∃ old ∈ items, old.sequenceNumber = sn ∧ element.counter = old.counter + 1 := by
  induction items with
  | nil => cases held
  | cons first rest ih =>
    obtain ⟨notRest, distinctRest⟩ := List.nodup_cons.mp distinct
    unfold increment at held
    by_cases same : first.sequenceNumber = sn
    · rw [if_pos same] at held
      rcases List.mem_cons.mp held with rfl | later
      · exact .inr ⟨same, first, List.mem_cons_self, same, rfl⟩
      · refine .inl ⟨List.mem_cons_of_mem first later, fun again => notRest ?_⟩
        rw [same, ← again]
        exact List.mem_map_of_mem later
    · rw [if_neg same] at held
      rcases List.mem_cons.mp held with rfl | later
      · exact .inl ⟨List.mem_cons_self, same⟩
      · rcases ih distinctRest later with ⟨old, other⟩ | ⟨ours, old, member, known, more⟩
        · exact .inl ⟨List.mem_cons_of_mem first old, other⟩
        · exact .inr ⟨ours, old, List.mem_cons_of_mem first member, known, more⟩

/-- The elements after a check. -/
theorem items_check (list : DuplicatePacketList) (sn : SequenceNumber) :
    (list.check sn).2.elements.items =
      if sn ∈ list.numbers then increment sn list.elements.items
      else (list.elements.push ⟨sn, 1⟩).items := by
  have answer := (check_spec list sn).1
  unfold check at answer ⊢
  by_cases any : list.elements.items.any fun element => element.sequenceNumber = sn
  · rw [if_pos any] at answer ⊢
    rw [if_pos (of_decide_eq_true answer.symm)]
  · rw [if_neg any] at answer ⊢
    rw [if_neg (of_decide_eq_false answer.symm)]

/-! ### Runs -/

/-- **A list that remembers a history** holds its last newcomers, with the counters of how often they have
come since. -/
structure Remembers (elements : ℕ) (history : List SequenceNumber) (list : DuplicatePacketList) : Prop where
  sized : list.elements.capacity = elements
  numbers : list.numbers = (newcomers (sightings elements history)).rtake elements
  counters : ∀ element ∈ list.elements.items,
    element.counter = .ofNat (comings (sightings elements history) element.sequenceNumber)

theorem Remembers.distinct (remembers : Remembers elements history list) : list.numbers.Nodup := by
  rw [remembers.numbers]
  exact nodup_newcomers history

theorem remembers_empty (elements : ℕ) : Remembers elements [] (.empty elements) :=
  ⟨rfl, (List.rtake_nil elements).symm, List.forall_mem_nil _⟩

/-- **One check** of a list. -/
theorem Remembers.check (remembers : Remembers elements history list) (sn : SequenceNumber) :
    Remembers elements (history ++ [sn]) (list.check sn).2 := by
  obtain ⟨_, sized, numbers⟩ := check_spec list sn
  rw [remembers.sized] at sized numbers
  have distinct := remembers.distinct
  by_cases known : sn ∈ list.numbers
  · -- the number stays where it is, and its counter is incremented
    have marked : sightings elements (history ++ [sn]) = sightings elements history ++ [(sn, true)] := by
      rw [sightings_concat, ← remembers.numbers, decide_eq_true known]
    refine ⟨sized, ?_, fun element held => ?_⟩
    · rw [numbers, if_pos known, marked, newcomers_concat, if_pos rfl]
      exact remembers.numbers
    · rw [items_check, if_pos known] at held
      rw [marked]
      rcases mem_increment distinct held with ⟨old, other⟩ | ⟨ours, old, member, same, more⟩
      · rw [comings_other _ _ other.symm]
        exact remembers.counters element old
      · rw [more, remembers.counters old member, same, ours, comings_known, UInt32.ofNat_add]
        rfl
  · -- the number is the last one, and the oldest one goes
    have marked : sightings elements (history ++ [sn]) = sightings elements history ++ [(sn, false)] := by
      rw [sightings_concat, ← remembers.numbers, decide_eq_false known]
    refine ⟨sized, ?_, fun element held => ?_⟩
    · rw [numbers, if_neg known, marked, newcomers_concat, if_neg Bool.false_ne_true, remembers.numbers]
      exact slide_rtake _ sn
    · rw [items_check, if_neg known] at held
      rw [marked]
      rcases List.mem_append.mp (List.mem_of_mem_drop held) with old | new
      · have other : sn ≠ element.sequenceNumber := by
          rintro rfl
          exact known (List.mem_map_of_mem old)
        rw [comings_other _ _ other]
        exact remembers.counters element old
      · rw [List.mem_singleton.mp new, comings_new]
        rfl

theorem remembers_run (elements : ℕ) (history : List SequenceNumber) :
    Remembers elements history (checkAll (.empty elements) history) := by
  induction history using List.reverseRecOn with
  | nil => exact remembers_empty elements
  | append_singleton history sn ih =>
    rw [checkAll_concat]
    exact ih.check sn

/-- **The answers of the checks** are those of the sightings. -/
theorem answers_eq (elements : ℕ) (history : List SequenceNumber) :
    answers (.empty elements) history = sightings elements history := by
  induction history using List.reverseRecOn with
  | nil => rfl
  | append_singleton history sn ih =>
    rw [answers_concat, sightings_concat, ih, (check_spec _ sn).1, (remembers_run elements history).numbers]

/-- The counter of a number in the list has the last 32 bits of its comings. -/
theorem counter_checkAll {sn : SequenceNumber} (held : sn ∈ (checkAll (.empty elements) history).numbers) :
    (checkAll (.empty elements) history).counter sn = .ofNat (comings (sightings elements history) sn) := by
  have remembers := remembers_run elements history
  obtain ⟨element, member, rfl⟩ := List.mem_map.mp held
  rw [counter_of_mem remembers.distinct member, remembers.counters element member]

/-! ### The window -/

/-- **What a list is to know after a history.** The newcomers are the numbers whose check has returned
false. -/
structure Tracks (elements : ℕ) (history : List SequenceNumber) : Prop where
  /-- a check finds the last newcomers -/
  duplicates : ∀ sn, ((checkAll (.empty elements) history).check sn).1 = true ↔
    sn ∈ (newcomers (answers (.empty elements) history)).rtake elements
  distinct : (checkAll (.empty elements) history).numbers.Nodup
  /-- the checks since the number came in -/
  counted : ∀ sn ∈ (checkAll (.empty elements) history).numbers,
    ((checkAll (.empty elements) history).counter sn).toNat = comings (answers (.empty elements) history) sn
  uncounted : ∀ sn ∉ (checkAll (.empty elements) history).numbers,
    (checkAll (.empty elements) history).counter sn = 0

/-- **No number of the window has come too often** for its counter, since it came in. -/
def FewComings (elements : ℕ) (history : List SequenceNumber) : Prop :=
  ∀ sn ∈ (newcomers (sightings elements history)).rtake elements,
    comings (sightings elements history) sn < 2 ^ 32

theorem Tracks.few (tracks : Tracks elements history) : FewComings elements history := by
  intro sn held
  rw [← (remembers_run elements history).numbers] at held
  rw [← answers_eq, ← tracks.counted sn held]
  exact UInt32.toNat_lt _

/-- **The window of a duplicate packet list**, after any history. -/
theorem duplicate_window_iff (elements : ℕ) (history : List SequenceNumber) :
    Tracks elements history ↔ FewComings elements history := by
  constructor
  · exact Tracks.few
  · intro few
    have remembers := remembers_run elements history
    refine ⟨fun sn => ?_, remembers.distinct, fun sn held => ?_, fun sn absent => counter_of_notMem absent⟩
    · rw [(check_spec _ sn).1, decide_eq_true_iff, remembers.numbers, answers_eq]
    · rw [counter_checkAll held, answers_eq, UInt32.toNat_ofNat_of_lt']
      rw [remembers.numbers] at held
      exact few sn held

/-- One number over and over, until its counter has wrapped around. -/
theorem not_tracks_replicate {elements count : ℕ} (room : 0 < elements) (often : 2 ^ 32 ≤ count + 1)
    (sn : SequenceNumber) : ¬ Tracks elements (List.replicate (count + 1) sn) := by
  intro tracks
  obtain ⟨once, comings⟩ := sightings_replicate room sn count
  have few := tracks.few sn (by rw [once]; exact mem_rtake_singleton room sn)
  rw [comings] at few
  exact absurd often (Nat.not_le.mpr few)

/-- A list of one element. -/
theorem duplicate_window_wraps : ¬ Tracks 1 (List.replicate (2 ^ 32) 7) :=
  not_tracks_replicate one_pos (le_refl (2 ^ 32)) 7

example : (answers (.empty 3) [30, 30, 31, 30, 29, 29, 30, 36, 31, 30, 31, 36]).map Prod.snd =
    [false, true, false, true, false, true, true, false, true, false, false, true] := by
  decide

end DuplicatePacketList

end Vanet.Geonet
