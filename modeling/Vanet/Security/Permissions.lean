/-
**The permissions of a certificate within those of its signer.**

`check_permission_consistency` sorts the ITS-AIDs of both certificates and asks `std::includes`, which
counts: an ITS-AID that the certificate lists twice has to be listed twice by the signer, too. It also
sees the last 32 bits only.

* `includes_iff_sublist`: `std::includes` of sorted lists.
* `checkPermissionConsistency_iff`: what the check decides.
* `counts_iff`, `permissionsIncluded_iff`: what it refuses, and what it should.
* `permission_inclusion_iff`: when this is the same.
-/

import Vanet.Security.Consistency

namespace Vanet.Security

open Vanet.Library

/-! ### Sorted lists -/

section Sorted

variable {outer inner : List UInt32}

/-- **`std::includes` finds sublists**: every element of the inner list is matched with one of its own. -/
theorem includes_iff_sublist (outerSorted : outer.Pairwise (· ≤ ·))
    (innerSorted : inner.Pairwise (· ≤ ·)) : includes outer inner = true ↔ inner.Sublist outer := by
  induction outer, inner using includes.induct with
  | case1 outer => simp [includes]
  | case2 second inner => simp [includes]
  | case3 first outer second inner less =>
    rw [includes, if_pos less]
    refine iff_of_false Bool.false_ne_true fun sub => ?_
    -- all of the outer list lies above the second element
    rcases List.mem_cons.mp (sub.subset List.mem_cons_self) with rfl | behind
    · exact UInt32.lt_irrefl _ less
    · have above := (List.pairwise_cons.mp outerSorted).1 second behind
      exact UInt32.not_lt.mpr above less
  | case4 first outer second inner notLess less ih =>
    rw [includes, if_neg notLess, if_pos less, ih (List.pairwise_cons.mp outerSorted).2 innerSorted]
    constructor
    · exact fun sub => sub.cons first
    · exact fun sub => sub.of_cons_of_ne (UInt32.ne_of_lt less).symm
  | case5 first outer second inner notLess notGreater ih =>
    have same : second = first :=
      UInt32.le_antisymm (UInt32.not_lt.mp notGreater) (UInt32.not_lt.mp notLess)
    rw [includes, if_neg notLess, if_neg notGreater, same, List.cons_sublist_cons]
    exact ih (List.pairwise_cons.mp outerSorted).2 (List.pairwise_cons.mp innerSorted).2

instance leTotal : Std.Total fun aid other : UInt32 => aid ≤ other := ⟨UInt32.le_total⟩

instance leTrans : IsTrans UInt32 fun aid other => aid ≤ other := ⟨fun _ _ _ => UInt32.le_trans⟩

instance leAntisymm : Std.Antisymm fun aid other : UInt32 => aid ≤ other :=
  ⟨fun _ _ => UInt32.le_antisymm⟩

/-- After sorting, only how often an element occurs matters. -/
theorem includes_insertionSort :
    includes (outer.insertionSort (· ≤ ·)) (inner.insertionSort (· ≤ ·)) = true ↔
      ∀ aid, inner.count aid ≤ outer.count aid := by
  have outerSorted := List.pairwise_insertionSort (· ≤ ·) outer
  have innerSorted := List.pairwise_insertionSort (· ≤ ·) inner
  have outerPerm := List.perm_insertionSort (· ≤ ·) outer
  have innerPerm := List.perm_insertionSort (· ≤ ·) inner
  rw [includes_iff_sublist outerSorted innerSorted]
  constructor
  · intro sub aid
    rw [← innerPerm.count_eq, ← outerPerm.count_eq]
    exact sub.count_le aid
  · intro fewer
    apply List.sublist_of_subperm_of_pairwise _ innerSorted outerSorted
    refine List.subperm_ext_iff.mpr fun aid _ => ?_
    rw [innerPerm.count_eq, outerPerm.count_eq]
    exact fewer aid

end Sorted

/-! ### The check -/

variable {certificate signer : Certificate}

/-- How often a certificate lists an ITS-AID, by the last 32 bits. -/
def Certificate.occurrences (cert : Certificate) (aid : UInt32) : ℕ :=
  (cert.itsAids.map (·.value.toUInt32)).count aid

/-- **The check counts**: every ITS-AID occurs at least as often with the signer. -/
theorem checkPermissionConsistency_iff :
    checkPermissionConsistency certificate signer = true ↔
      ∀ aid, certificate.occurrences aid ≤ signer.occurrences aid := by
  unfold checkPermissionConsistency
  rw [includes_insertionSort, extractApplicationIdentifiers_eq, extractApplicationIdentifiers_eq]
  rfl

/-- **The ITS-AIDs of the certificate are a subset of the signer's.** -/
def PermissionsIncluded (certificate signer : Certificate) : Prop :=
  ∀ aid ∈ certificate.itsAids, aid ∈ signer.itsAids

/-- The certificate has an ITS-AID whose last 32 bits are none of the signer's. -/
def Foreign (certificate signer : Certificate) : Prop :=
  ∃ aid ∈ certificate.itsAids, signer.occurrences aid.value.toUInt32 = 0

/-- The last 32 bits of an ITS-AID are one of the signer's, though the ITS-AID is not. -/
def Mistaken (certificate signer : Certificate) : Prop :=
  ∃ aid ∈ certificate.itsAids, aid ∉ signer.itsAids ∧ signer.occurrences aid.value.toUInt32 ≠ 0

/-- What the signer has in its list, the certificate has in its own more often. -/
def Repeated (certificate signer : Certificate) : Prop :=
  ∃ aid, signer.occurrences aid ≠ 0 ∧ signer.occurrences aid < certificate.occurrences aid

/-- **The two lists can be told apart by counting**: there is an ITS-AID that is refused whatever else is listed,
or no other one that is mistaken and none that is repeated, or one of each. -/
def Countable (certificate signer : Certificate) : Prop :=
  Foreign certificate signer ∨ (Mistaken certificate signer ↔ Repeated certificate signer)

theorem occurrences_pos {aid : IntX} (member : aid ∈ certificate.itsAids) :
    0 < certificate.occurrences aid.value.toUInt32 :=
  List.count_pos_iff.mpr (List.mem_map_of_mem member)

/-- What occurs in the list of a certificate are the last bits of an ITS-AID. -/
theorem exists_of_occurs {aid : UInt32} (occurs : certificate.occurrences aid ≠ 0) :
    ∃ item ∈ certificate.itsAids, item.value.toUInt32 = aid :=
  List.mem_map.mp (List.count_pos_iff.mp (Nat.pos_of_ne_zero occurs))

/-- **What the check refuses**: a foreign ITS-AID, or a repeated one. -/
theorem counts_iff : (∀ aid, certificate.occurrences aid ≤ signer.occurrences aid) ↔
    ¬ Foreign certificate signer ∧ ¬ Repeated certificate signer := by
  constructor
  · intro fewer
    refine ⟨fun ⟨aid, member, absent⟩ => ?_, fun ⟨aid, _, more⟩ => absurd (fewer aid) (not_le.mpr more)⟩
    have listed := occurrences_pos member
    have within := fewer aid.value.toUInt32
    omega
  · rintro ⟨known, single⟩ aid
    by_contra more
    have occurs : certificate.occurrences aid ≠ 0 := by omega
    obtain ⟨item, member, rfl⟩ := exists_of_occurs occurs
    by_cases absent : signer.occurrences item.value.toUInt32 = 0
    · exact known ⟨item, member, absent⟩
    · exact single ⟨_, absent, not_le.mp more⟩

/-- **What the signer lacks**: a foreign ITS-AID, or a mistaken one. -/
theorem permissionsIncluded_iff : PermissionsIncluded certificate signer ↔
    ¬ Foreign certificate signer ∧ ¬ Mistaken certificate signer := by
  constructor
  · intro included
    refine ⟨fun ⟨aid, member, absent⟩ => ?_, fun ⟨aid, member, lacks, _⟩ => lacks (included aid member)⟩
    have listed := occurrences_pos (included aid member)
    omega
  · rintro ⟨known, sure⟩ aid member
    by_contra lacks
    by_cases absent : signer.occurrences aid.value.toUInt32 = 0
    · exact known ⟨aid, member, absent⟩
    · exact sure ⟨aid, member, lacks, absent⟩

/-- **When the permission check is set inclusion.** The check answers whether the ITS-AIDs of the
certificate are a subset of the signer's, if and only if counting tells the two lists apart. -/
theorem permission_inclusion_iff (certificate signer : Certificate) :
    (checkPermissionConsistency certificate signer = true ↔ PermissionsIncluded certificate signer) ↔
      Countable certificate signer := by
  rw [checkPermissionConsistency_iff, counts_iff, permissionsIncluded_iff]
  unfold Countable
  by_cases foreign : Foreign certificate signer
  · exact iff_of_true (iff_of_false (fun fewer => fewer.1 foreign) fun included => included.1 foreign)
      (.inl foreign)
  · constructor
    · intro decides
      have same : ¬ Repeated certificate signer ↔ ¬ Mistaken certificate signer :=
        ⟨fun single => (decides.mp ⟨foreign, single⟩).2, fun sure => (decides.mpr ⟨foreign, sure⟩).2⟩
      exact .inr (not_iff_not.mp same.symm)
    · rintro (known | same)
      · exact absurd known foreign
      · rw [same]

/-- Certificates that list every ITS-AID once, in 32 bits. -/
theorem countable_of_distinct (unconfused : Unconfused certificate signer)
    (distinct : (certificate.itsAids.map (·.value.toUInt32)).Nodup) :
    Countable certificate signer := by
  refine .inr (iff_of_false ?_ ?_)
  · rintro ⟨aid, member, lacks, occurs⟩
    obtain ⟨other, known, same⟩ := exists_of_occurs occurs
    exact lacks (unconfused aid member other known same)
  · rintro ⟨aid, occurs, more⟩
    have once : certificate.occurrences aid ≤ 1 := List.nodup_iff_count_le_one.mp distinct aid
    omega

/-- **A ticket that lists a permission twice is refused**, with a signer that has this permission. -/
theorem repeated_permission_refused :
    ¬ ∀ certificate signer : Certificate,
      checkPermissionConsistency certificate signer = true ↔
        PermissionsIncluded certificate signer := by
  intro claimed
  have decided := claimed
    (.mk .self ⟨SubjectType.authorizationTicket, []⟩ [.itsAidSspList [⟨⟨36⟩, []⟩, ⟨⟨36⟩, []⟩]] []
      (Sample.sign 1))
    (.mk .self ⟨SubjectType.authorizationAuthority, []⟩ [.itsAidList [⟨36⟩]] [] (Sample.sign 1))
  exact absurd (decided.mpr (by unfold PermissionsIncluded; decide +kernel)) (by decide +kernel)

end Vanet.Security
