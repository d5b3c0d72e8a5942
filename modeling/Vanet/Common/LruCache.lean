/-
**`LruCache`, a least recently used cache with a generator.**

A list has the keys by their last access, and a map has the values with iterators to that list. An access
is a key with what the generator returns for it, or nothing where it throws; the generator is only
called when the key is not cached.

* `Represents`: the list and the map index each other, and they are the reference cache, a
  least recently used list with what the last miss of each key has generated.
* `Represents.hit`, `Represents.miss`: an access keeps this unless the generator throws.
* `lru_cache_iff`: a cache behaves as the reference exactly as long as its capacity is positive and no
  generator throws. A throwing generator leaves a key in the list that is not in the map, and a cache
  without any capacity caches one entry.
-/

import Mathlib.Data.List.Induction
import Vanet.Library.Keyed
import Vanet.Library.Lru
import Vanet.Library.Observe

namespace Vanet.Common

open Vanet.Library

/-- An element of the list, with a number for the iterator to it. -/
structure LruNode (κ : Type) where
  ref : ℕ
  key : κ
  deriving DecidableEq

/-- An element of the map. -/
structure LruEntry (κ ν : Type) where
  key : κ
  value : ν
  ref : ℕ
  deriving DecidableEq

structure LruCache (κ ν : Type) where
  capacity : ℕ
  index : List (LruNode κ)
  cache : List (LruEntry κ ν)
  /-- The number of the next iterator. -/
  fresh : ℕ
  deriving DecidableEq

namespace LruCache

variable {κ ν : Type} [DecidableEq κ]

omit [DecidableEq κ] in
def create (capacity : ℕ) : LruCache κ ν := ⟨capacity, [], [], 0⟩

def find (cache : LruCache κ ν) (key : κ) : Option (LruEntry κ ν) :=
  cache.cache.find? fun entry => entry.key = key

def remove (cache : LruCache κ ν) : LruCache κ ν :=
  match cache.index.getLast? with
  | none => cache
  | some back =>
    { cache with
      cache := cache.cache.filter fun entry => entry.key ≠ back.key
      index := cache.index.dropLast }

/-- `add`, which is called for keys that are not in the map. -/
def add (cache : LruCache κ ν) (key : κ) (generated : Option ν) : Option ν × LruCache κ ν :=
  let cache := if cache.cache.length ≥ cache.capacity then cache.remove else cache
  let added := { cache with index := ⟨cache.fresh, key⟩ :: cache.index, fresh := cache.fresh + 1 }
  match generated with
  | none => (none, added)
  | some value => (some value, { added with cache := ⟨key, value, cache.fresh⟩ :: cache.cache })

/-- The node of the iterator is spliced to the front. -/
def refresh (cache : LruCache κ ν) (found : LruEntry κ ν) : Option ν × LruCache κ ν :=
  match cache.index.find? fun node => node.ref = found.ref with
  | none => (some found.value, cache)
  | some node =>
    (some found.value,
      { cache with index := node :: cache.index.filter fun other => other.ref ≠ found.ref })

/-- `operator[]`. -/
def access (cache : LruCache κ ν) (access : κ × Option ν) : Option ν × LruCache κ ν :=
  match cache.find access.1 with
  | none => cache.add access.1 access.2
  | some found => cache.refresh found

end LruCache

/-! ### The reference -/

/-- **A least recently used cache**: the keys that are cached, and what the last miss of each key has
generated. -/
structure ReferenceCache (κ ν : Type) where
  recency : Lru κ
  generated : κ → Option ν

namespace ReferenceCache

variable {κ ν : Type} [DecidableEq κ]

omit [DecidableEq κ] in
def create (capacity : ℕ) : ReferenceCache κ ν := ⟨⟨capacity, []⟩, fun _ => none⟩

/-- What is cached. -/
def lookup (reference : ReferenceCache κ ν) (key : κ) : Option ν :=
  if key ∈ reference.recency.items then reference.generated key else none

/-- A miss for which nothing is generated only makes room. -/
def access (reference : ReferenceCache κ ν) (access : κ × Option ν) :
    Option ν × ReferenceCache κ ν :=
  if access.1 ∈ reference.recency.items then
    (reference.generated access.1,
      { reference with recency := reference.recency.touch access.1 })
  else
    let generated := Function.update reference.generated access.1 access.2
    match access.2 with
    | none => (none, ⟨reference.recency.makeRoom, generated⟩)
    | some value => (some value, ⟨reference.recency.touch access.1, generated⟩)

end ReferenceCache

/-! ### The representation -/

namespace LruCache

variable {κ ν : Type}

/-- **The list and the map index each other**, and they represent the reference cache. -/
structure Represents (cache : LruCache κ ν) (reference : ReferenceCache κ ν) : Prop where
  capacity : cache.capacity = reference.recency.capacity
  formed : reference.recency.WellFormed
  order : cache.index.map LruNode.key = reference.recency.items
  refs : (cache.index.map LruNode.ref).Nodup
  below : ∀ node ∈ cache.index, node.ref < cache.fresh
  keys : (cache.cache.map LruEntry.key).Nodup
  entries : ∀ entry, entry ∈ cache.cache ↔
    (⟨entry.ref, entry.key⟩ : LruNode κ) ∈ cache.index ∧
      reference.generated entry.key = some entry.value
  known : ∀ key ∈ reference.recency.items, ∃ value, reference.generated key = some value

theorem represents_create (capacity : ℕ) :
    Represents (create capacity : LruCache κ ν) (.create capacity) where
  capacity := rfl
  formed := ⟨List.nodup_nil, Nat.zero_le _⟩
  order := rfl
  refs := List.nodup_nil
  below := List.forall_mem_nil _
  keys := List.nodup_nil
  entries := by simp [create]
  known := by simp [ReferenceCache.create]

namespace Represents

variable {cache : LruCache κ ν} {reference : ReferenceCache κ ν} {key : κ} {entry : LruEntry κ ν}

theorem mem_index (represents : Represents cache reference) :
    key ∈ reference.recency.items ↔ ∃ ref, (⟨ref, key⟩ : LruNode κ) ∈ cache.index := by
  rw [← represents.order, List.mem_map]
  constructor
  · rintro ⟨node, listed, rfl⟩
    exact ⟨node.ref, listed⟩
  · rintro ⟨ref, listed⟩
    exact ⟨⟨ref, key⟩, listed, rfl⟩

/-- The cached keys are those of the reference, ... -/
theorem mem_keys (represents : Represents cache reference) :
    key ∈ cache.cache.map LruEntry.key ↔ key ∈ reference.recency.items := by
  rw [represents.mem_index, List.mem_map]
  constructor
  · rintro ⟨entry, cached, rfl⟩
    exact ⟨entry.ref, ((represents.entries entry).mp cached).1⟩
  · rintro ⟨ref, listed⟩
    obtain ⟨value, generated⟩ := represents.known key (represents.mem_index.mpr ⟨ref, listed⟩)
    exact ⟨⟨key, value, ref⟩, (represents.entries ⟨key, value, ref⟩).mpr ⟨listed, generated⟩, rfl⟩

/-- ... so the list is a permutation of them. -/
theorem perm (represents : Represents cache reference) :
    (cache.index.map LruNode.key).Perm (cache.cache.map LruEntry.key) := by
  rw [represents.order]
  refine (List.perm_ext_iff_of_nodup represents.formed.distinct represents.keys).mpr fun key => ?_
  exact represents.mem_keys.symm

theorem length (represents : Represents cache reference) :
    cache.cache.length = reference.recency.items.length := by
  have same := represents.perm.length_eq
  rw [represents.order, List.length_map] at same
  exact same.symm

variable [DecidableEq κ]

theorem find_some (represents : Represents cache reference) :
    cache.find key = some entry ↔ entry ∈ cache.cache ∧ entry.key = key := by
  unfold find
  constructor
  · intro found
    exact ⟨List.mem_of_find?_eq_some found, by simpa using List.find?_some found⟩
  · rintro ⟨cached, rfl⟩
    obtain ⟨first, rest, split, apart⟩ := keyed_split represents.keys cached
    rw [split]
    exact find?_split apart

theorem find_none (represents : Represents cache reference) :
    cache.find key = none ↔ key ∉ reference.recency.items := by
  rw [← represents.mem_keys]
  unfold find
  rw [List.find?_eq_none, List.mem_map]
  constructor
  · rintro missing ⟨entry, cached, rfl⟩
    exact missing entry cached (decide_eq_true rfl)
  · intro missing entry cached same
    exact missing ⟨entry, cached, of_decide_eq_true same⟩

/-- A cached value is what the last miss of its key has generated. -/
theorem contents (represents : Represents cache reference) (key : κ) :
    (cache.find key).map LruEntry.value = reference.lookup key := by
  unfold ReferenceCache.lookup
  split_ifs with known
  · cases found : cache.find key with
    | none => exact absurd known (represents.find_none.mp found)
    | some entry =>
      obtain ⟨cached, rfl⟩ := represents.find_some.mp found
      exact (((represents.entries entry).mp cached).2).symm
  · rw [represents.find_none.mpr known]
    rfl

/-! ### Accesses -/

omit [DecidableEq κ] in
theorem unique_ref (represents : Represents cache reference) {node other : LruNode κ}
    (listed : node ∈ cache.index) (among : other ∈ cache.index) (same : node.ref = other.ref) :
    node = other :=
  List.inj_on_of_nodup_map represents.refs listed among same

/-- The keys of the other nodes. -/
theorem keys_without (represents : Represents cache reference) {node : LruNode κ}
    (listed : node ∈ cache.index) :
    (cache.index.filter fun other => other.ref ≠ node.ref).map LruNode.key =
      reference.recency.items.erase node.key := by
  obtain ⟨first, rest, split, apart⟩ := keyed_split represents.refs listed
  have distinct := represents.formed.distinct
  rw [← represents.order, split, List.map_append, List.map_cons] at distinct ⊢
  have before : node.key ∉ first.map LruNode.key := by
    rw [List.nodup_middle, List.nodup_cons] at distinct
    exact fun member => distinct.1 (List.mem_append_left _ member)
  rw [filter_split apart, List.map_append, List.erase_append_right _ before, List.erase_cons_head]

/-- **A hit** answers what the last miss has generated. -/
theorem hit (represents : Represents cache reference) (known : key ∈ reference.recency.items)
    (generated : Option ν) :
    (cache.access (key, generated)).1 = (reference.access (key, generated)).1 ∧
      Represents (cache.access (key, generated)).2 (reference.access (key, generated)).2 := by
  obtain ⟨entry, found⟩ : ∃ entry, cache.find key = some entry :=
    Option.ne_none_iff_exists'.mp fun missing => represents.find_none.mp missing known
  obtain ⟨cached, rfl⟩ := represents.find_some.mp found
  obtain ⟨listed, last⟩ := (represents.entries entry).mp cached
  have node : (cache.index.find? fun node => node.ref = entry.ref) = some ⟨entry.ref, entry.key⟩ := by
    obtain ⟨first, rest, split, apart⟩ := keyed_split represents.refs listed
    rw [split]
    exact find?_split apart
  have moved : (cache.access (entry.key, generated)) = (some entry.value, { cache with
      index := ⟨entry.ref, entry.key⟩ :: cache.index.filter fun other => other.ref ≠ entry.ref }) := by
    unfold access refresh
    simp only [found, node]
  have remembered : reference.access (entry.key, generated) = (reference.generated entry.key,
      { reference with recency := reference.recency.touch entry.key }) := if_pos known
  rw [moved, remembered]
  have same : ∀ other : LruNode κ, other ∈ (⟨entry.ref, entry.key⟩ : LruNode κ) ::
      cache.index.filter (fun other => other.ref ≠ entry.ref) ↔ other ∈ cache.index := by
    intro other
    rw [List.mem_cons, List.mem_filter, decide_eq_true_eq]
    constructor
    · rintro (rfl | ⟨among, _⟩)
      · exact listed
      · exact among
    · intro among
      by_cases own : other.ref = entry.ref
      · exact .inl (represents.unique_ref among listed own)
      · exact .inr ⟨among, own⟩
  refine ⟨last.symm, represents.capacity, represents.formed.touch _, ?_, ?_, ?_, represents.keys, ?_, ?_⟩
  · rw [Lru.touch_of_mem represents.formed known, List.map_cons]
    exact congrArg _ (represents.keys_without listed)
  · have others := represents.refs.sublist ((List.filter_sublist (p := fun other : LruNode κ =>
      decide (other.ref ≠ entry.ref))).map LruNode.ref)
    refine List.nodup_cons.mpr ⟨?_, others⟩
    simp
  · exact fun other among => represents.below other ((same other).mp among)
  · intro other
    rw [represents.entries other]
    exact and_congr_left' (same _).symm
  · intro other listedKey
    rw [Lru.touch_of_mem represents.formed known] at listedKey
    rcases List.mem_cons.mp listedKey with rfl | among
    · exact represents.known _ known
    · exact represents.known _ (List.mem_of_mem_erase among)

/-- The cache with a place for one more entry. -/
theorem room (represents : Represents cache reference) (positive : 0 < cache.capacity) :
    Represents (if cache.cache.length ≥ cache.capacity then cache.remove else cache)
      { reference with recency := reference.recency.makeRoom } := by
  have bounded := represents.formed.bounded
  have capacity := represents.capacity
  have length := represents.length
  split_ifs with full
  · obtain ⟨front, back, split⟩ : ∃ front back, cache.index = front ++ [back] := by
      refine List.eq_nil_or_concat' cache.index |>.resolve_left fun empty => ?_
      have none_listed := represents.order
      rw [empty, List.map_nil] at none_listed
      rw [← none_listed, List.length_nil] at length
      omega
    have removed : cache.remove = { cache with
        cache := cache.cache.filter fun entry => entry.key ≠ back.key
        index := front } := by
      unfold remove
      simp [split]
    have order := represents.order
    rw [split, List.map_append, List.map_singleton] at order
    have distinct := represents.formed.distinct
    have refs := represents.refs
    rw [← order] at distinct
    rw [split, List.map_append] at refs
    have front_items : reference.recency.items.take (reference.recency.capacity - 1) =
        front.map LruNode.key := by
      have lengths := congrArg List.length order
      rw [List.length_append, List.length_singleton] at lengths
      rw [← order, List.take_append_of_le_length (by omega), List.take_of_length_le (by omega)]
    have apart : ∀ node ∈ front, node.key ≠ back.key := by
      intro node among same
      have twice := List.disjoint_of_nodup_append distinct (List.mem_map_of_mem among)
      exact twice (same ▸ List.mem_singleton_self _)
    rw [removed]
    refine ⟨capacity, represents.formed.makeRoom, front_items.symm,
      (List.nodup_append.mp refs).1, ?_, ?_, ?_, ?_⟩
    · intro node among
      exact represents.below node (by rw [split]; exact List.mem_append_left _ among)
    · exact represents.keys.sublist (List.filter_sublist.map _)
    · intro entry
      rw [List.mem_filter, represents.entries entry, split, List.mem_append, List.mem_singleton,
        decide_eq_true_eq]
      constructor
      · rintro ⟨⟨among | last, generated⟩, other⟩
        · exact ⟨among, generated⟩
        · exact absurd (congrArg LruNode.key last) other
      · rintro ⟨among, generated⟩
        exact ⟨⟨.inl among, generated⟩, apart _ among⟩
    · intro key listed
      exact represents.known key (List.mem_of_mem_take listed)
  · have whole : reference.recency.makeRoom = reference.recency := by
      unfold Lru.makeRoom
      rw [List.take_of_length_le (by omega)]
    rw [whole]
    exact represents

omit [DecidableEq κ] in
/-- A new entry. -/
theorem push [DecidableEq κ] (represents : Represents cache reference)
    (unknown : key ∉ reference.recency.items)
    (room : reference.recency.items.length < reference.recency.capacity) (value : ν) :
    Represents
      { cache with
        index := ⟨cache.fresh, key⟩ :: cache.index
        cache := ⟨key, value, cache.fresh⟩ :: cache.cache
        fresh := cache.fresh + 1 }
      ⟨⟨reference.recency.capacity, key :: reference.recency.items⟩,
        Function.update reference.generated key (some value)⟩ where
  capacity := represents.capacity
  formed := ⟨List.nodup_cons.mpr ⟨unknown, represents.formed.distinct⟩, room⟩
  order := congrArg (key :: ·) represents.order
  refs := by
    refine List.nodup_cons.mpr ⟨?_, represents.refs⟩
    intro taken
    obtain ⟨node, among, same⟩ := List.mem_map.mp taken
    exact absurd same (represents.below node among).ne
  below := by
    intro node among
    rcases List.mem_cons.mp among with rfl | old
    · exact Nat.lt_succ_self _
    · exact Nat.lt_succ_of_lt (represents.below node old)
  keys := List.nodup_cons.mpr ⟨fun cached => unknown (represents.mem_keys.mp cached), represents.keys⟩
  entries := by
    intro entry
    rw [List.mem_cons, List.mem_cons]
    by_cases own : entry.key = key
    · subst own
      have uncached : entry ∉ cache.cache := fun cached =>
        unknown (represents.mem_keys.mp (List.mem_map_of_mem cached))
      have unlisted : (⟨entry.ref, entry.key⟩ : LruNode κ) ∉ cache.index := fun listed =>
        unknown (represents.mem_index.mpr ⟨_, listed⟩)
      obtain ⟨entryKey, entryValue, ref⟩ := entry
      simp only [uncached, unlisted, or_false, LruEntry.mk.injEq, LruNode.mk.injEq, true_and,
        and_true, Function.update_self, Option.some.injEq]
      exact ⟨fun same => ⟨same.2, same.1.symm⟩, fun same => ⟨same.2.symm, same.1⟩⟩
    · have different : entry ≠ ⟨key, value, cache.fresh⟩ := fun same =>
        own (congrArg LruEntry.key same)
      have other : (⟨entry.ref, entry.key⟩ : LruNode κ) ≠ ⟨cache.fresh, key⟩ := fun same =>
        own (congrArg LruNode.key same)
      show _ ↔ _ ∧ Function.update reference.generated key (some value) entry.key = some entry.value
      rw [Function.update_of_ne own, represents.entries entry]
      simp [different, other]
  known := by
    intro other listed
    by_cases own : other = key
    · exact ⟨value, by simp [own]⟩
    · obtain ⟨old, generated⟩ :=
        represents.known other ((List.mem_cons.mp listed).resolve_left own)
      exact ⟨old, by simp [own, generated]⟩

/-- **A miss** caches what is generated. -/
theorem miss (represents : Represents cache reference) (positive : 0 < cache.capacity)
    (unknown : key ∉ reference.recency.items) (value : ν) :
    (cache.access (key, some value)).1 = (reference.access (key, some value)).1 ∧
      Represents (cache.access (key, some value)).2 (reference.access (key, some value)).2 := by
  have room := represents.room positive
  have fewer : reference.recency.makeRoom.items.length < reference.recency.makeRoom.capacity := by
    show (reference.recency.items.take _).length < reference.recency.capacity
    rw [List.length_take, ← represents.capacity]
    omega
  have absent : key ∉ reference.recency.makeRoom.items := fun among =>
    unknown (List.mem_of_mem_take among)
  have touched : reference.recency.touch key =
      ⟨reference.recency.capacity, key :: reference.recency.makeRoom.items⟩ := by
    have items := Lru.touch_of_not_mem (represents.capacity ▸ positive) unknown
    exact congrArg (Lru.mk reference.recency.capacity) items
  have remembered : reference.access (key, some value) = (some value,
      ⟨reference.recency.touch key, Function.update reference.generated key (some value)⟩) :=
    if_neg unknown
  unfold access
  rw [represents.find_none.mpr unknown, remembered, touched]
  exact ⟨rfl, room.push absent fewer value⟩

end Represents

/-! ### Runs -/

variable [DecidableEq κ]

/-- **The condition on an access**: the cache has a capacity, and the generator does not throw at a
miss. -/
def Served (cache : LruCache κ ν) (access : κ × Option ν) : Prop :=
  0 < cache.capacity ∧ (access.2 = none → (cache.find access.1).isSome)

theorem Represents.access {cache : LruCache κ ν} {reference : ReferenceCache κ ν}
    {access : κ × Option ν} (represents : Represents cache reference)
    (served : cache.Served access) :
    (cache.access access).1 = (reference.access access).1 ∧
      Represents (cache.access access).2 (reference.access access).2 := by
  obtain ⟨positive, completes⟩ := served
  obtain ⟨key, generated⟩ := access
  by_cases known : key ∈ reference.recency.items
  · exact represents.hit known generated
  · cases generated with
    | none =>
      have cached := completes rfl
      rw [represents.find_none.mpr known] at cached
      cases cached
    | some value => exact represents.miss positive known value

/-- The reference has the latest keys. -/
theorem recent_access {reference : ReferenceCache κ ν} {access : κ × Option ν} {seen : List κ}
    (recent : reference.recency.items <+: seen)
    (completes : access.2 = none → access.1 ∈ reference.recency.items) :
    (reference.access access).2.recency.items <+: moveToFront seen access.1 := by
  have touched := Lru.touch_prefix recent access.1
  unfold ReferenceCache.access
  split_ifs with known
  · exact touched
  · cases generated : access.2 with
    | none => exact absurd (completes generated) known
    | some value => exact touched

/-- **The cache behaves as the reference** after these accesses. -/
structure Behaves (capacity : ℕ) (accesses : List (κ × Option ν)) : Prop where
  answers : observe access (create capacity) accesses =
    observe ReferenceCache.access (.create capacity) accesses
  /-- A cached value has been generated at the last miss of its key. -/
  contents : ∀ key, ((outcome access (create capacity) accesses).find key).map LruEntry.value =
    (outcome ReferenceCache.access (.create capacity) accesses).lookup key
  bounded : (outcome access (create capacity) accesses).cache.length ≤ capacity
  permutation : ((outcome access (create capacity) accesses).index.map LruNode.key).Perm
    ((outcome access (create capacity) accesses).cache.map LruEntry.key)
  /-- The key of the next entry to be evicted is at the end. -/
  order : (outcome access (create capacity) accesses).index.map LruNode.key =
    (outcome ReferenceCache.access (.create capacity) accesses).recency.items
  recent : ((outcome access (create capacity) accesses).index.map LruNode.key).Sublist
    (byRecency (accesses.map Prod.fst))

/-- The capacity of the reference stays. -/
theorem capacity_outcome (capacity : ℕ) (accesses : List (κ × Option ν)) :
    (outcome ReferenceCache.access (.create capacity) accesses).recency.capacity = capacity := by
  induction accesses using List.reverseRecOn with
  | nil => rfl
  | append_singleton earlier last ih =>
    rw [outcome_concat]
    refine Eq.trans ?_ ih
    unfold ReferenceCache.access
    split_ifs
    · rfl
    · cases last.2 <;> rfl

/-- **A run** whose accesses all meet the condition represents the reference. -/
theorem represents_outcome {capacity : ℕ} {accesses : List (κ × Option ν)}
    (served : Meets access Served (create capacity) accesses) :
    observe access (create capacity) accesses =
        observe ReferenceCache.access (.create capacity) accesses ∧
      Represents (outcome access (create capacity) accesses)
        (outcome ReferenceCache.access (.create capacity) accesses) ∧
      (outcome ReferenceCache.access (.create capacity : ReferenceCache κ ν)
        accesses).recency.items <+: byRecency (accesses.map Prod.fst) := by
  induction accesses using List.reverseRecOn with
  | nil => exact ⟨rfl, represents_create capacity, List.nil_prefix⟩
  | append_singleton earlier last ih =>
    obtain ⟨before, now⟩ := meets_concat.mp served
    obtain ⟨answers, represents, recent⟩ := ih before
    obtain ⟨same, next⟩ := represents.access now
    rw [observe_concat, observe_concat, outcome_concat, outcome_concat, List.map_append,
      List.map_singleton, byRecency_concat, answers, same]
    refine ⟨rfl, next, recent_access recent fun throws => ?_⟩
    by_contra unknown
    have cached := now.2 throws
    rw [represents.find_none.mpr unknown] at cached
    cases cached

theorem behaves_of_served {capacity : ℕ} {accesses : List (κ × Option ν)}
    (served : Meets access Served (create capacity) accesses) : Behaves capacity accesses := by
  obtain ⟨answers, represents, recent⟩ := represents_outcome served
  refine ⟨answers, represents.contents, ?_, represents.perm, represents.order, ?_⟩
  · rw [represents.length]
    exact represents.formed.bounded.trans_eq (capacity_outcome capacity accesses)
  · rw [represents.order]
    exact recent.sublist

omit [DecidableEq κ] in
/-- A cache without any capacity is empty as long as it behaves. -/
theorem Represents.empty {cache : LruCache κ ν} {reference : ReferenceCache κ ν}
    (represents : Represents cache reference) (exhausted : cache.capacity = 0) :
    cache.index = [] ∧ cache.cache = [] := by
  have bounded := represents.formed.bounded
  have length := represents.length
  have same := represents.perm.length_eq
  rw [← represents.capacity, exhausted] at bounded
  rw [List.length_map, List.length_map] at same
  exact ⟨List.eq_nil_of_length_eq_zero (by omega), List.eq_nil_of_length_eq_zero (by omega)⟩

/-- **An access that does not meet the condition** breaks the bound, or leaves an element in the list
that is not in the map. -/
theorem Represents.broken {cache : LruCache κ ν} {reference : ReferenceCache κ ν}
    {access : κ × Option ν} (represents : Represents cache reference)
    (unserved : ¬ cache.Served access) :
    cache.capacity < (cache.access access).2.cache.length ∨
      ¬ ((cache.access access).2.index.map LruNode.key).Perm
        ((cache.access access).2.cache.map LruEntry.key) := by
  obtain ⟨key, generated⟩ := access
  set room := if cache.cache.length ≥ cache.capacity then cache.remove else cache with roomEq
  -- in both cases the map has no entry of the key, and the list is as long as the map
  obtain ⟨missing, level⟩ : cache.find key = none ∧ room.index.length = room.cache.length := by
    by_cases positive : 0 < cache.capacity
    · constructor
      · by_contra cached
        exact unserved ⟨positive, fun _ => Option.isSome_iff_ne_none.mpr cached⟩
      · have same := (represents.room positive).perm.length_eq
        rw [List.length_map, List.length_map] at same
        exact same
    · obtain ⟨index, entries⟩ := represents.empty (by omega)
      have kept : room = cache := by
        rw [roomEq]
        unfold remove
        simp [index]
      rw [kept, index, entries]
      refine ⟨?_, rfl⟩
      unfold find
      rw [entries]
      rfl
  unfold LruCache.access add
  rw [missing]
  cases generated with
  | none =>
    refine .inr fun perm => ?_
    have lengths := perm.length_eq
    simp only [List.map_cons, List.length_cons, List.length_map, ← roomEq] at lengths
    omega
  | some value =>
    refine .inl ?_
    have exhausted : cache.capacity = 0 := by
      by_contra positive
      exact unserved ⟨Nat.pos_of_ne_zero positive, nofun⟩
    rw [exhausted]
    exact Nat.succ_pos _

/-- **The cache behaves as the reference at every point of a run** if and only if it has a capacity and
the generator throws at no miss. -/
theorem lru_cache_iff (capacity : ℕ) (accesses : List (κ × Option ν)) :
    (∀ done, done <+: accesses → Behaves capacity done) ↔
      Meets access Served (create capacity) accesses := by
  induction accesses using List.reverseRecOn with
  | nil =>
    refine iff_of_true (fun done front => ?_) trivial
    rw [List.prefix_nil.mp front]
    exact behaves_of_served trivial
  | append_singleton earlier last ih =>
    rw [meets_concat, ← ih]
    constructor
    · intro behaves
      have before : ∀ done, done <+: earlier → Behaves capacity done :=
        fun done front => behaves done (front.trans (List.prefix_append _ _))
      refine ⟨before, ?_⟩
      by_contra unserved
      have whole := behaves _ (List.prefix_refl _)
      obtain ⟨_, represents, _⟩ := represents_outcome (ih.mp before)
      have limit : (outcome access (create capacity) earlier).capacity = capacity :=
        represents.capacity.trans (capacity_outcome capacity earlier)
      have bounded := whole.bounded
      have permutation := whole.permutation
      rw [outcome_concat] at bounded permutation
      rcases represents.broken unserved with late | stale
      · omega
      · exact stale permutation
    · rintro ⟨before, served⟩ done front
      rcases List.prefix_concat_iff.mp front with rfl | shorter
      · exact behaves_of_served (meets_concat.mpr ⟨ih.mp before, served⟩)
      · exact before done shorter

/-- **A stale element**: the generator throws for the first key. -/
theorem not_lru_cache : ¬ ∀ (capacity : ℕ) (accesses : List (ℕ × Option ℕ)), Behaves capacity accesses := by
  intro behaves
  have stale := (behaves 5 [(8, none)]).permutation.length_eq
  revert stale
  decide

end LruCache

end Vanet.Common
