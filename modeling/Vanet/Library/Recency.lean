/-
**Bounded lists of what has been seen.**

A list of at most `capacity` different items takes new items at its end and drops the oldest ones; a
list that also moves an item to its end when it is seen again keeps the most recently seen items
instead. In both, an item is forgotten only when `capacity` other items have been seen since: `Recalls`
says so of one item and is kept by both operations.

* `Fresh.window`, `Fresh.separated`: the window over a history without known items.
* `sightings`: a sequence of items, known ones among them, and which of them were new.
-/

import Mathlib.Data.List.DropRight
import Mathlib.Data.List.Induction
import Mathlib.Data.List.Nodup

namespace Vanet.Library

variable {α : Type} {capacity : ℕ} {items : List α} {id other : α} {since since' : α → Prop}

/-- **So many different others have been seen.** -/
def Enough (capacity : ℕ) (id : α) (since : α → Prop) : Prop :=
  ∃ others : List α, others.Nodup ∧ others.length = capacity ∧ id ∉ others ∧
    ∀ other ∈ others, since other

/-- **The item is in the list, with what has been seen since behind it, or has been forgotten** for
so many others. -/
def Recalls (capacity : ℕ) (items : List α) (id : α) (since : α → Prop) : Prop :=
  (∃ older younger, items = older ++ id :: younger ∧ ∀ other ∈ younger, since other) ∨
    Enough capacity id since

theorem Enough.mono (enough : Enough capacity id since) (more : ∀ other, since other → since' other) :
    Enough capacity id since' := by
  obtain ⟨others, nodup, length, absent, seen⟩ := enough
  exact ⟨others, nodup, length, absent, fun other member => more other (seen other member)⟩

namespace Recalls

theorem mono (recalls : Recalls capacity items id since)
    (more : ∀ other, since other → since' other) : Recalls capacity items id since' := by
  rcases recalls with ⟨older, younger, split, seen⟩ | enough
  · exact .inl ⟨older, younger, split, fun other member => more other (seen other member)⟩
  · exact .inr (enough.mono more)

/-- What has just been seen is recalled, whatever else has been seen since. -/
theorem latest (older : List α) : Recalls capacity (older ++ [id]) id since :=
  .inl ⟨older, [], rfl, List.forall_mem_nil _⟩

/-- An item that is not in the list has been forgotten. -/
theorem forgotten (recalls : Recalls capacity items id since) (absent : id ∉ items) :
    Enough capacity id since := by
  rcases recalls with ⟨older, younger, rfl, _⟩ | enough
  · exact absurd (List.mem_append_right older List.mem_cons_self) absent
  · exact enough

/-- **A new item** is appended, and the oldest one is dropped if the list is full. -/
theorem append (recalls : Recalls capacity items id since) (nodup : items.Nodup)
    (bounded : items.length ≤ capacity) (fresh : other ∉ items) (different : other ≠ id)
    (seen : since other) :
    Recalls capacity ((items ++ [other]).drop (items.length + 1 - capacity)) id since := by
  rcases recalls with ⟨older, younger, rfl, behind⟩ | enough
  · have all : ∀ item ∈ younger ++ [other], since item := by
      intro item member
      rcases List.mem_append.mp member with old | new
      · exact behind item old
      · rwa [List.mem_singleton.mp new]
    have length : (older ++ id :: younger).length = older.length + (younger.length + 1) := by
      rw [List.length_append, List.length_cons]
    by_cases stays : older.length + (younger.length + 1) + 1 - capacity ≤ older.length
    · refine .inl ⟨older.drop (older.length + (younger.length + 1) + 1 - capacity),
        younger ++ [other], ?_, all⟩
      rw [length, List.append_assoc, List.cons_append, List.drop_append_of_le_length stays]
    · -- the item is the oldest one of a full list
      obtain rfl : older = [] := List.eq_nil_of_length_eq_zero (by omega)
      obtain ⟨notYounger, distinct⟩ := List.nodup_cons.mp nodup
      refine .inr ⟨younger ++ [other], ?_, ?_, ?_, all⟩
      · have notMember : other ∉ younger := fun member => fresh (List.mem_cons_of_mem id member)
        refine List.nodup_append.mpr ⟨distinct, List.nodup_singleton other, ?_⟩
        rintro item member last single rfl
        rw [List.mem_singleton.mp single] at member
        exact notMember member
      · rw [List.length_append, List.length_singleton]
        rw [length] at bounded
        rw [List.length_nil] at bounded stays
        omega
      · intro member
        rcases List.mem_append.mp member with old | new
        · exact notYounger old
        · exact different (List.mem_singleton.mp new).symm
  · exact .inr enough

/-- **An item of the list is seen again** and moves to the end. -/
theorem touch [DecidableEq α] (recalls : Recalls capacity items id since) (different : other ≠ id)
    (seen : since other) : Recalls capacity (items.erase other ++ [other]) id since := by
  rcases recalls with ⟨older, younger, rfl, behind⟩ | enough
  · by_cases member : other ∈ older
    · refine .inl ⟨older.erase other, younger ++ [other], ?_, ?_⟩
      · rw [List.erase_append_left _ member, List.append_assoc, List.cons_append]
      · intro item last
        rcases List.mem_append.mp last with old | new
        · exact behind item old
        · rwa [List.mem_singleton.mp new]
    · refine .inl ⟨older, younger.erase other ++ [other], ?_, ?_⟩
      · rw [List.erase_append_right _ member, List.erase_cons_tail (by simpa using different.symm),
          List.append_assoc, List.cons_append]
      · intro item last
        rcases List.mem_append.mp last with old | new
        · exact behind item (List.mem_of_mem_erase old)
        · rwa [List.mem_singleton.mp new]
  · exact .inr enough

end Recalls

/-! ### Histories -/

/-- A history that has grown by an entry, split at one of its entries. -/
theorem concat_split {β : Type} {history earlier later : List β} {entry last : β}
    (split : history ++ [last] = earlier ++ entry :: later) :
    (∃ rest, later = rest ++ [last] ∧ history = earlier ++ entry :: rest) ∨
      later = [] ∧ entry = last ∧ history = earlier := by
  rcases List.eq_nil_or_concat later with rfl | ⟨rest, final, concat⟩
  · obtain ⟨same, one⟩ := List.append_inj' split rfl
    cases one
    exact .inr ⟨rfl, rfl, same⟩
  · rw [List.concat_eq_append] at concat
    subst concat
    have moved : history ++ [last] = (earlier ++ entry :: rest) ++ [final] := by
      rw [split, List.append_assoc, List.cons_append]
    obtain ⟨same, one⟩ := List.append_inj' moved rfl
    cases one
    exact .inl ⟨rest, rfl, same⟩

/-- What one entry after the other keeps is kept by all of them. -/
theorem history_append {β : Type} {P : List β → Prop} {ok : β → Prop}
    (keep : ∀ history entry, ok entry → P history → P (history ++ [entry])) (more : List β) :
    ∀ history, (∀ entry ∈ more, ok entry) → P history → P (history ++ more) := by
  induction more with
  | nil =>
    intro history _ holds
    rwa [List.append_nil]
  | cons entry more ih =>
    intro history allowed holds
    obtain ⟨first, rest⟩ := List.forall_mem_cons.mp allowed
    rw [← List.singleton_append, ← List.append_assoc]
    exact ih _ rest (keep history entry first holds)

/-! ### Windows -/

/-- A new item enters the window; `none` empties it. -/
def slide (capacity : ℕ) (items : List α) : Option α → List α
  | some item => (items ++ [item]).drop (items.length + 1 - capacity)
  | none => []

/-- A new item enters the last items of a list. -/
theorem slide_rtake (items : List α) (item : α) :
    slide capacity (items.rtake capacity) (some item) = (items ++ [item]).rtake capacity := by
  show (items.drop (items.length - capacity) ++ [item]).drop
    ((items.drop (items.length - capacity)).length + 1 - capacity) =
      (items ++ [item]).drop ((items ++ [item]).length - capacity)
  rw [← List.drop_append_of_le_length (Nat.sub_le _ _), List.drop_drop, List.length_drop,
    List.length_append, List.length_singleton]
  congr 1
  omega

/-- **The window over a history** of items and resets: the last items since the last reset. -/
def window (capacity : ℕ) (history : List (Option α)) : List α := history.foldl (slide capacity) []

/-- Every item of the history was new when it came. -/
def Fresh (capacity : ℕ) (history : List (Option α)) : Prop :=
  ∀ before item after, history = before ++ some item :: after → item ∉ window capacity before

@[simp] theorem window_concat (history : List (Option α)) (entry : Option α) :
    window capacity (history ++ [entry]) = slide capacity (window capacity history) entry :=
  List.foldl_concat _ _ _ _

theorem Fresh.front {history more : List (Option α)} (fresh : Fresh capacity (history ++ more)) :
    Fresh capacity history := by
  rintro before item after rfl
  exact fresh before item (after ++ more) (by rw [List.append_assoc, List.cons_append])

theorem Fresh.concat {history : List (Option α)} {entry : Option α} (fresh : Fresh capacity history)
    (comes : ∀ item, entry = some item → item ∉ window capacity history) :
    Fresh capacity (history ++ [entry]) := by
  intro before item after split
  rcases concat_split split with ⟨rest, rfl, earlier⟩ | ⟨rfl, rfl, rfl⟩
  · exact fresh before item rest earlier
  · exact comes item rfl

theorem Fresh.reset {history : List (Option α)} (fresh : Fresh capacity history) :
    Fresh capacity (history ++ [none]) :=
  fresh.concat fun _ impossible => nomatch impossible

/-- **The window over a fresh history** is bounded and repeats nothing. -/
theorem Fresh.window (history : List (Option α)) : Fresh capacity history →
    (window capacity history).Nodup ∧ (window capacity history).length ≤ capacity := by
  induction history using List.reverseRecOn with
  | nil => exact fun _ => ⟨List.nodup_nil, Nat.zero_le capacity⟩
  | append_singleton history entry ih =>
    intro fresh
    obtain ⟨nodup, bounded⟩ := ih fresh.front
    rw [window_concat]
    cases entry with
    | none => exact ⟨List.nodup_nil, Nat.zero_le capacity⟩
    | some item =>
      have absent : item ∉ Library.window capacity history := fresh history item [] rfl
      refine ⟨?_, ?_⟩
      · refine List.Nodup.sublist (List.drop_sublist _ _) ?_
        rw [← List.concat_eq_append]
        exact nodup.concat absent
      · unfold slide
        rw [List.length_drop, List.length_append, List.length_singleton]
        omega

/-- The item that has just come is recalled, even by a window without any room. -/
theorem recalls_slide (items : List α) (id : α) (since : α → Prop) :
    Recalls capacity (slide capacity items (some id)) id since := by
  cases capacity with
  | zero => exact .inr ⟨[], List.nodup_nil, rfl, List.not_mem_nil, List.forall_mem_nil _⟩
  | succ capacity =>
    show Recalls (capacity + 1) ((items ++ [id]).drop (items.length + 1 - (capacity + 1))) id since
    rw [List.drop_append_of_le_length (by omega)]
    exact .latest _

/-- **An item that comes again** has been forgotten for others, unless the window has been emptied. -/
theorem Fresh.recalls {earlier : List (Option α)} (id : α) (between : List (Option α)) :
    Fresh capacity (earlier ++ some id :: between) → none ∉ between →
      Recalls capacity (Library.window capacity (earlier ++ some id :: between)) id
        fun other => some other ∈ between := by
  induction between using List.reverseRecOn with
  | nil =>
    intro _ _
    rw [window_concat]
    exact recalls_slide _ _ _
  | append_singleton between entry ih =>
    intro fresh kept
    have grown : earlier ++ some id :: (between ++ [entry]) =
        (earlier ++ some id :: between) ++ [entry] := by
      rw [List.append_assoc, List.cons_append]
    rw [grown] at fresh ⊢
    have recalls := ih fresh.front fun member => kept (List.mem_append_left _ member)
    obtain ⟨nodup, bounded⟩ := Fresh.window _ fresh.front
    rw [window_concat]
    cases entry with
    | none => exact absurd (List.mem_append_right _ (List.mem_singleton_self _)) kept
    | some other =>
      by_cases same : other = id
      · subst same
        exact recalls_slide _ _ _
      · have more : ∀ item, some item ∈ between → some item ∈ between ++ [some other] :=
          fun item member => List.mem_append_left _ member
        exact (recalls.mono more).append nodup bounded (fresh _ other [] rfl) same
          (List.mem_append_right _ (List.mem_singleton_self _))

/-- **Two comings of one item** are separated by a reset or by so many other items. -/
theorem Fresh.separated {earlier between later : List (Option α)} {id : α}
    (fresh : Fresh capacity (earlier ++ some id :: (between ++ some id :: later)))
    (kept : none ∉ between) : Enough capacity id fun other => some other ∈ between := by
  have grown : earlier ++ some id :: (between ++ some id :: later) =
      (earlier ++ some id :: between) ++ some id :: later := by
    rw [List.append_assoc, List.cons_append]
  rw [grown] at fresh
  exact (fresh.front.recalls id between kept).forgotten (fresh _ id later rfl)

/-- The window over a history without resets. -/
theorem window_some (items : List α) : window capacity (items.map some) = items.rtake capacity := by
  induction items using List.reverseRecOn with
  | nil => exact (List.rtake_nil capacity).symm
  | append_singleton items item ih =>
    rw [List.map_append, List.map_singleton, window_concat, ih]
    exact slide_rtake items item

/-! ### Sightings -/

section Sightings

/-- The items that were new when they came. -/
def newcomers (sightings : List (α × Bool)) : List α :=
  (sightings.filter fun sighting => !sighting.2).map Prod.fst

variable [DecidableEq α]

/-- **A sequence of items, each with whether it was known** when it came: whether it was one of the last
newcomers. A known item does not become one again. -/
def sightings (capacity : ℕ) (items : List α) : List (α × Bool) :=
  items.foldl (fun seen item => seen ++ [(item, decide (item ∈ (newcomers seen).rtake capacity))]) []

/-- How often the item has come since it was a newcomer last, this first time included. -/
def comings (sightings : List (α × Bool)) (item : α) : ℕ :=
  (sightings.rtakeWhile fun sighting => sighting ≠ (item, false)).countP
    (fun sighting => sighting.1 = item) + 1

omit [DecidableEq α] in
theorem newcomers_concat (seen : List (α × Bool)) (item : α) (known : Bool) :
    newcomers (seen ++ [(item, known)]) = if known then newcomers seen else newcomers seen ++ [item] := by
  unfold newcomers
  cases known <;> simp

@[simp] theorem sightings_concat (items : List α) (item : α) :
    sightings capacity (items ++ [item]) = sightings capacity items ++
      [(item, decide (item ∈ (newcomers (sightings capacity items)).rtake capacity))] :=
  List.foldl_concat _ _ _ _

theorem comings_new (seen : List (α × Bool)) (item : α) : comings (seen ++ [(item, false)]) item = 1 := by
  unfold comings
  rw [List.rtakeWhile_concat_neg _ _ _ (by simp)]
  rfl

theorem comings_known (seen : List (α × Bool)) (item : α) :
    comings (seen ++ [(item, true)]) item = comings seen item + 1 := by
  unfold comings
  rw [List.rtakeWhile_concat_pos _ _ _ (by simp), List.countP_append]
  simp

theorem comings_other (seen : List (α × Bool)) {item other : α} (known : Bool) (different : other ≠ item) :
    comings (seen ++ [(other, known)]) item = comings seen item := by
  unfold comings
  rw [List.rtakeWhile_concat_pos _ _ _ (by simp [different]), List.countP_append]
  simp [different]

/-- **Every newcomer is new to the window** of the newcomers before it. -/
theorem fresh_newcomers (items : List α) :
    Fresh capacity ((newcomers (sightings capacity items)).map some) := by
  induction items using List.reverseRecOn with
  | nil =>
    intro before item after split
    simp [newcomers, sightings] at split
  | append_singleton items item ih =>
    rw [sightings_concat, newcomers_concat]
    by_cases known : item ∈ (newcomers (sightings capacity items)).rtake capacity
    · rw [decide_eq_true known, if_pos rfl]
      exact ih
    · rw [decide_eq_false known, if_neg Bool.false_ne_true, List.map_append, List.map_singleton]
      refine ih.concat fun _ same => ?_
      cases same
      rwa [window_some]

/-- **The last newcomers** are different. -/
theorem nodup_newcomers (items : List α) :
    ((newcomers (sightings capacity items)).rtake capacity).Nodup := by
  rw [← window_some]
  exact (Fresh.window _ (fresh_newcomers items)).1

omit [DecidableEq α] in
theorem mem_rtake_singleton {capacity : ℕ} (room : 0 < capacity) (item : α) :
    item ∈ [item].rtake capacity := by
  obtain ⟨more, rfl⟩ := Nat.exists_eq_add_one.mpr room
  rw [← List.nil_append [item], List.rtake_concat_succ]
  exact List.mem_append_right _ (List.mem_singleton_self item)

/-- **One item over and over** is a newcomer once. -/
theorem sightings_replicate {capacity : ℕ} (room : 0 < capacity) (item : α) (count : ℕ) :
    newcomers (sightings capacity (List.replicate (count + 1) item)) = [item] ∧
      comings (sightings capacity (List.replicate (count + 1) item)) item = count + 1 := by
  induction count with
  | zero =>
    have first : sightings capacity (List.replicate 1 item) = [(item, false)] := by
      simp [sightings, newcomers]
    rw [first]
    exact ⟨rfl, comings_new [] item⟩
  | succ count ih =>
    obtain ⟨once, often⟩ := ih
    rw [List.replicate_succ', sightings_concat, once, decide_eq_true (mem_rtake_singleton room item),
      newcomers_concat, if_pos rfl, comings_known, often]
    exact ⟨once, rfl⟩

end Sightings

end Vanet.Library
