/-
**A certificate within its issuer.**

`check_consistency` keeps the validity period, the region and the assurance level of a certificate within
those of its signer. It compares ITS-AIDs by their last 32 bits, so the ITS-AIDs are within those of the
signer exactly if the bits that are cut off confuse none of them (`consistency_contains_iff`).
-/

import Mathlib.Tactic.Linarith
import Vanet.Security.Soundness

namespace Vanet.Security

open Vanet.Library

/-! ### Regions -/

section Regions

variable {geod : Geodesic} {position : TwoDLocation}

/-- The triangle inequality. -/
def Geodesic.Triangle (geod : Geodesic) : Prop :=
  ∀ first second third, geod first third ≤ geod first second + geod second third

/-- A circle that is far enough inside of another one. -/
theorem circle_within (triangle : geod.Triangle) {inner outer : CircularRegion}
    (within : regionIsWithinCircle geod (.circle inner) outer = true)
    (inside : isWithinCircle geod position inner = true) :
    isWithinCircle geod position outer = true := by
  have near := of_decide_eq_true inside
  rcases Bool.or_eq_true_iff.mp within with same | contained
  · rw [← of_decide_eq_true same]
    exact inside
  · have far := of_decide_eq_true contained
    have around := triangle position inner.center outer.center
    exact decide_eq_true (by linarith)

/-- **`is_within` of regions is inclusion**, for every pair of region kinds. -/
theorem regionIsWithin_sound (triangle : geod.Triangle) {inner outer : GeographicRegion}
    (within : regionIsWithin geod inner outer = true) (inside : isWithin geod position inner = true) :
    isWithin geod position outer = true := by
  cases outer with
  | none => rfl
  | circle outer =>
    cases inner with
    | circle inner => exact circle_within triangle within inside
    | none => cases within
    | rectangles => cases within
    | polygon => cases within
    | identified => cases within
  | rectangles outer =>
    cases inner with
    | rectangles inner =>
      have same : inner = outer := of_decide_eq_true within
      rw [← same]
      exact inside
    | none => cases within
    | circle => cases within
    | polygon => cases within
    | identified => cases within
  | polygon => cases within
  | identified => cases within

end Regions

/-! ### The four checks -/

section Checks

variable {certificate signer : Certificate} {ctx : Context}

/-- A period that was found before makes another one an error. -/
theorem extractValidityTimeFrom_some {restrictions : List ValidityRestriction}
    {found period : Time32 × Time32}
    (extracted : extractValidityTimeFrom restrictions (some found) = some period) :
    period = found := by
  induction restrictions with
  | nil => exact (Option.some.inj extracted).symm
  | cons restriction rest ih =>
    cases restriction with
    | timeEnd => cases extracted
    | timeStartAndEnd => cases extracted
    | timeStartAndDuration => cases extracted
    | region => exact ih extracted

/-- **The only period is the first one.** -/
theorem extractValidityTime_eq {period : Time32 × Time32}
    (extracted : extractValidityTime certificate = some period) :
    certificate.startAndEndValidity = some period := by
  unfold extractValidityTime at extracted
  unfold Certificate.startAndEndValidity
  generalize certificate.validityRestriction = restrictions at extracted ⊢
  induction restrictions with
  | nil => cases extracted
  | cons restriction rest ih =>
    cases restriction with
    | timeEnd => cases extracted
    | timeStartAndEnd startValidity endValidity =>
      unfold extractValidityTimeFrom at extracted
      split_ifs at extracted
      rw [extractValidityTimeFrom_some extracted]
      rfl
    | timeStartAndDuration => cases extracted
    | region => exact ih extracted

/-- The signer is valid as long as the certificate. -/
theorem checkTimeConsistency_sound (checked : checkTimeConsistency certificate signer = true)
    {now : ℕ} (valid : ValidAt certificate now) : ValidAt signer now := by
  unfold checkTimeConsistency at checked
  split at checked
  · rename_i certificateStart certificateEnd signerStart signerEnd own others
    split_ifs at checked with early late
    obtain ⟨startValidity, endValidity, period, started, notEnded⟩ := valid
    rw [extractValidityTime_eq own] at period
    cases period
    exact ⟨signerStart, signerEnd, extractValidityTime_eq others,
      UInt32.le_trans (UInt32.not_lt.mp early) started,
      UInt32.le_trans notEnded (UInt32.not_lt.mp late)⟩
  · cases checked

/-- What a sorted list includes is in it. -/
theorem mem_of_includes {outer inner : List UInt32} (included : includes outer inner = true) :
    ∀ aid ∈ inner, aid ∈ outer := by
  induction outer, inner using includes.induct with
  | case1 outer => exact fun _ member => absurd member List.not_mem_nil
  | case2 => cases included
  | case3 first outer second inner less =>
    rw [includes, if_pos less] at included
    cases included
  | case4 first outer second inner notLess less ih =>
    rw [includes, if_neg notLess, if_pos less] at included
    exact fun aid member => List.mem_cons_of_mem _ (ih included aid member)
  | case5 first outer second inner notLess notGreater ih =>
    rw [includes, if_neg notLess, if_neg notGreater] at included
    intro aid member
    rcases List.mem_cons.mp member with rfl | other
    · have same : aid = first := UInt32.le_antisymm (UInt32.not_lt.mp notGreater)
        (UInt32.not_lt.mp notLess)
      rw [same]
      exact List.mem_cons_self
    · exact List.mem_cons_of_mem _ (ih included aid other)

/-- **The ITS-AIDs of a certificate**: those with permissions in a ticket, and the plain list in other
certificates. -/
def Certificate.itsAids (cert : Certificate) : List IntX :=
  if cert.subjectInfo.subjectType = SubjectType.authorizationTicket then
    (cert.itsAidSspList.getD []).map (·.itsAid)
  else cert.itsAidList.getD []

theorem extractApplicationIdentifiers_eq (cert : Certificate) :
    extractApplicationIdentifiers cert = cert.itsAids.map (·.value.toUInt32) := by
  unfold extractApplicationIdentifiers Certificate.itsAids
  split_ifs
  · rw [List.map_map]
    rfl
  · rfl

/-- The last 32 bits of every ITS-AID are those of one of the signer. -/
theorem checkPermissionConsistency_sound
    (checked : checkPermissionConsistency certificate signer = true) :
    ∀ aid ∈ certificate.itsAids, ∃ other ∈ signer.itsAids,
      other.value.toUInt32 = aid.value.toUInt32 := by
  intro aid member
  have listed : aid.value.toUInt32 ∈ extractApplicationIdentifiers certificate := by
    rw [extractApplicationIdentifiers_eq]
    exact List.mem_map_of_mem member
  have known := mem_of_includes checked _ ((List.mem_insertionSort _).mpr listed)
  rw [List.mem_insertionSort, extractApplicationIdentifiers_eq] at known
  exact List.mem_map.mp known

/-- **The assurance does not exceed the signer's**, nor does the confidence for the same assurance. -/
def AssuranceBounded (certificate signer : Certificate) : Prop :=
  ∃ own others, certificate.assuranceLevel = some own ∧ signer.assuranceLevel = some others ∧
    assurance own ≤ assurance others ∧
    (assurance own = assurance others → confidence own ≤ confidence others)

theorem checkSubjectAssuranceConsistency_sound
    (checked : checkSubjectAssuranceConsistency certificate signer = true) :
    AssuranceBounded certificate signer := by
  unfold checkSubjectAssuranceConsistency at checked
  split at checked
  · rename_i own others ownLevel othersLevel
    split_ifs at checked with above equal
    · exact ⟨own, others, ownLevel, othersLevel, UInt8.not_lt.mp above,
        fun _ => UInt8.not_lt.mp (of_decide_eq_true checked)⟩
    · exact ⟨own, others, ownLevel, othersLevel, UInt8.not_lt.mp above,
        fun same => absurd same equal⟩
  · cases checked

/-- What the certificate's region covers is covered by the signer's. -/
theorem checkRegionConsistency_sound (triangle : ctx.geod.Triangle)
    (checked : checkRegionConsistency ctx certificate signer = true) {location : TwoDLocation}
    (covered : Covers ctx.geod certificate location) : Covers ctx.geod signer location := by
  intro region restricted
  unfold checkRegionConsistency at checked
  rw [restricted] at checked
  dsimp only at checked
  split at checked
  · cases checked
  · rename_i certificateRegion own
    exact regionIsWithin_sound triangle checked (covered certificateRegion own)

end Checks

/-! ### Containment -/

/-- **The certificate does not exceed its signer.** -/
structure WithinSigner (geod : Geodesic) (certificate signer : Certificate) : Prop where
  time : ∀ now, ValidAt certificate now → ValidAt signer now
  location : ∀ location, Covers geod certificate location → Covers geod signer location
  permissions : ∀ aid ∈ certificate.itsAids, aid ∈ signer.itsAids
  assurance : AssuranceBounded certificate signer

/-- **The cut off bits confuse no ITS-AID**: what agrees with an ITS-AID of the signer in the last 32
bits is an ITS-AID of the signer. -/
def Unconfused (certificate signer : Certificate) : Prop :=
  ∀ aid ∈ certificate.itsAids, ∀ other ∈ signer.itsAids,
    other.value.toUInt32 = aid.value.toUInt32 → aid ∈ signer.itsAids

/-- ITS-AIDs of 32 bits are never confused. -/
theorem unconfused_of_small {certificate signer : Certificate}
    (own : ∀ aid ∈ certificate.itsAids, aid.value.toNat < 2 ^ 32)
    (others : ∀ aid ∈ signer.itsAids, aid.value.toNat < 2 ^ 32) :
    Unconfused certificate signer := by
  intro aid member other known same
  have small := own aid member
  have small' := others other known
  have values : other.value = aid.value := by
    apply UInt64.toNat_inj.mp
    have cut := congrArg UInt32.toNat same
    rw [UInt64.toNat_toUInt32, UInt64.toNat_toUInt32, Nat.mod_eq_of_lt small,
      Nat.mod_eq_of_lt small'] at cut
    exact cut
  have equal : other = aid := by
    cases other
    cases aid
    cases values
    rfl
  exact equal ▸ known

/-- **When a certificate cannot exceed its issuer.** `is_within` of regions is inclusion, and a
certificate that is consistent with its signer is contained in it exactly if the bits beyond the 32nd
confuse no ITS-AID. -/
theorem consistency_contains_iff {ctx : Context} (triangle : ctx.geod.Triangle) :
    (∀ inner outer, regionIsWithin ctx.geod inner outer = true →
      ∀ position, isWithin ctx.geod position inner = true →
        isWithin ctx.geod position outer = true) ∧
    ∀ certificate signer, checkConsistency ctx certificate signer = true →
      (WithinSigner ctx.geod certificate signer ↔ Unconfused certificate signer) := by
  refine ⟨fun _ _ within _ inside => regionIsWithin_sound triangle within inside, ?_⟩
  intro certificate signer consistent
  unfold checkConsistency at consistent
  simp only [Bool.and_eq_true] at consistent
  obtain ⟨⟨⟨time, permission⟩, level⟩, region⟩ := consistent
  constructor
  · intro contained aid member _ _ _
    exact contained.permissions aid member
  · intro unconfused
    refine ⟨fun _ => checkTimeConsistency_sound time,
      fun _ => checkRegionConsistency_sound triangle region, fun aid member => ?_,
      checkSubjectAssuranceConsistency_sound level⟩
    obtain ⟨other, known, same⟩ := checkPermissionConsistency_sound permission aid member
    exact unconfused aid member other known same

namespace Sample

/-- The distance is zero or half around the earth. -/
def coarse : Context :=
  { context with geod := fun first second => if first = second then 0 else 20000000 }

theorem coarse_triangle : coarse.geod.Triangle := by
  intro first second third
  show (if first = third then (0 : ℚ) else 20000000) ≤
    (if first = second then 0 else 20000000) + if second = third then 0 else 20000000
  by_cases near : first = second
  · rw [near]
    simp
  · have far : (0 : ℚ) ≤ if second = third then 0 else 20000000 := by
      split_ifs <;> norm_num
    rw [if_neg near]
    split_ifs <;> norm_num

/-- A certificate that is restricted to a circle. -/
def inCircle (type : SubjectType) (radius : UInt16) (permissions : SubjectAttribute) : Certificate :=
  .mk .self ⟨type, []⟩ (attributes 1 permissions)
    [.timeStartAndEnd 0 2000, .region (.circle ⟨⟨0, 0⟩, radius⟩)] (sign 1)

end Sample

/-- A ticket for a smaller circle than that of its authority. -/
theorem consistency_contains_iff_circle :
    WithinSigner Sample.coarse.geod
      (Sample.inCircle SubjectType.authorizationTicket 50 (.itsAidSspList [⟨⟨36⟩, []⟩]))
      (Sample.inCircle SubjectType.authorizationAuthority 100 (.itsAidList [⟨36⟩, ⟨37⟩])) := by
  refine ((consistency_contains_iff Sample.coarse_triangle).2 _ _ (by decide +kernel)).mpr ?_
  apply unconfused_of_small
  · decide +kernel
  · decide +kernel

/-- **An authority without permission for 36 issues a ticket for it.** -/
theorem ticket_exceeds :
    ¬ ∀ (ctx : Context) (certificate signer : Certificate), ctx.geod.Triangle →
      checkConsistency ctx certificate signer = true → WithinSigner ctx.geod certificate signer := by
  intro claimed
  have contained := claimed Sample.coarse
    (Sample.inCircle SubjectType.authorizationTicket 50 (.itsAidSspList [⟨⟨36⟩, []⟩]))
    (Sample.inCircle SubjectType.authorizationAuthority 100 (.itsAidList [⟨0x100000024⟩]))
    Sample.coarse_triangle (by decide +kernel)
  exact absurd (contained.permissions ⟨36⟩ (by decide +kernel)) (by decide +kernel)

end Vanet.Security
