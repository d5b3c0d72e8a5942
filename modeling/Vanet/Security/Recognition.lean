/-
**Certificates that a receiver knows.**

A certificate is known until a time if an entry of the cache with its id and its type does not expire before.
Lookups and insertions keep what is known for a while, and a lookup that finds a certificate knows it for its
lifetime again. An id is no proof of identity: `calculate_hash` does not tell how the point of a signature is
written, and two certificates may collide. `Orderly` says that nothing in the cache is mistaken for a
certificate but what differs from it in its signature.
-/

import Vanet.Security.Acceptance
import Vanet.Security.NaiveCertificateProvider

namespace Vanet.Security

open Vanet.Library

/-! ### Certificates that are alike -/

/-- **The certificates differ in their signatures at most.** -/
def Certificate.Alike (cert own : Certificate) : Prop := ∃ signature, cert = own.withSignature signature

section Alike

variable {ctx : Context} {cert own : Certificate}

theorem Certificate.alike_refl (own : Certificate) : own.Alike own := by
  cases own with
  | mk _ _ _ _ signature => exact ⟨signature, rfl⟩

theorem Certificate.Alike.getPublicKey (alike : cert.Alike own) :
    getPublicKey ctx cert = getPublicKey ctx own := by
  obtain ⟨signature, rfl⟩ := alike
  cases own
  rfl

theorem Certificate.Alike.checkConsistency (alike : cert.Alike own) (issued : Certificate) :
    checkConsistency ctx issued cert = checkConsistency ctx issued own := by
  obtain ⟨signature, rfl⟩ := alike
  cases own
  rfl

/-- A ticket is as credible as another one that is alike. -/
theorem Certificate.Alike.credible {moment : Moment} {key : EcdsaPublicKey} (alike : cert.Alike own)
    (credible : Credible ctx moment key own) : Credible ctx moment key cert := by
  obtain ⟨type, publicKey, time, region, permits⟩ := credible
  obtain ⟨signature, rfl⟩ := alike
  cases own
  exact ⟨type, publicKey, time, region, permits⟩

end Alike

/-! ### What the cache knows -/

/-- **The certificate is not mistaken** for the own one of a station. -/
def Unmistaken (sha256 : ByteBuffer → Octets 32) (own cert : Certificate) : Prop :=
  calculateHash sha256 cert = calculateHash sha256 own →
    cert.subjectInfo.subjectType = own.subjectInfo.subjectType → cert.Alike own

namespace CertificateCache

/-- **The ids of a cache are those of its certificates**, and none of these is mistaken. -/
def Orderly (sha256 : ByteBuffer → Octets 32) (own : Certificate) (cache : CertificateCache) : Prop :=
  ∀ entry ∈ cache, entry.id = calculateHash sha256 entry.certificate ∧ Unmistaken sha256 own entry.certificate

/-- **Certificates of the id and type are known until a time.** -/
def KnownUntil (id : HashedId8) (type : SubjectType) (deadline : ℤ) (cache : CertificateCache) : Prop :=
  ∃ entry ∈ cache, Matches id type entry ∧ deadline ≤ entry.expiry

variable {ctx : Context} {now : ℕ} {id : HashedId8} {type : SubjectType} {cache : CertificateCache}
  {own cert : Certificate} {deadline : ℤ}

/-- What a lookup leaves of an entry. -/
def renewed (now : ℕ) (id : HashedId8) (type : SubjectType) (entry : CachedCertificate) : CachedCertificate :=
  if Matches id type entry then refresh now entry else entry

theorem mem_lookup_cache {entry : CachedCertificate} : entry ∈ (lookup now id type cache).2 ↔
    ∃ old ∈ dropExpired now cache, renewed now id type old = entry :=
  List.mem_map

theorem renewed_certificate (entry : CachedCertificate) :
    (renewed now id type entry).certificate = entry.certificate ∧
      (renewed now id type entry).id = entry.id := by
  unfold renewed refresh
  dsimp only
  split_ifs <;> exact ⟨rfl, rfl⟩

theorem Orderly.lookup (orderly : Orderly ctx.sha256 own cache) :
    Orderly ctx.sha256 own (lookup now id type cache).2 := by
  intro entry member
  obtain ⟨old, live, rfl⟩ := mem_lookup_cache.mp member
  obtain ⟨same, sameId⟩ := @renewed_certificate now id type old
  rw [same, sameId]
  exact orderly old (mem_dropExpired live)

theorem Orderly.insert (orderly : Orderly ctx.sha256 own cache) (unmistaken : Unmistaken ctx.sha256 own cert) :
    Orderly ctx.sha256 own (insert ctx now cert cache) := by
  unfold CertificateCache.insert
  dsimp only
  split_ifs
  · exact orderly.lookup
  · intro entry member
    rcases List.mem_append.mp member with old | new
    · exact orderly.lookup entry old
    · rw [List.mem_singleton.mp new]
      exact ⟨rfl, unmistaken⟩
  · exact orderly.lookup

/-- **What is found under the own id is alike.** -/
theorem Orderly.found (orderly : Orderly ctx.sha256 own cache) : ∀ cert ∈
    (CertificateCache.lookup now (calculateHash ctx.sha256 own) own.subjectInfo.subjectType cache).1,
      cert.Alike own := by
  intro cert member
  obtain ⟨entry, matching, rfl⟩ := List.mem_map.mp member
  obtain ⟨live, found⟩ := List.mem_filter.mp matching
  obtain ⟨sameId, sameType⟩ := of_decide_eq_true found
  obtain ⟨indexed, unmistaken⟩ := orderly entry (mem_dropExpired live)
  exact unmistaken (indexed.symm.trans sameId) sameType

/-- A known certificate is found. -/
theorem KnownUntil.found (known : KnownUntil id type deadline cache) (early : now ≤ deadline) :
    (lookup now id type cache).1 ≠ [] := by
  obtain ⟨entry, member, matching, late⟩ := known
  have live : entry ∈ dropExpired now cache := by
    refine List.mem_filter.mpr ⟨member, decide_eq_true ?_⟩
    omega
  have there : entry.certificate ∈ (CertificateCache.lookup now id type cache).1 :=
    List.mem_map_of_mem (List.mem_filter.mpr ⟨live, decide_eq_true matching⟩)
  exact List.ne_nil_of_mem there

/-- **What is known stays so** when anything is looked up. -/
theorem KnownUntil.lookup (known : KnownUntil id type deadline cache) (early : now ≤ deadline)
    (soon : deadline ≤ now + lifetime type) (other : HashedId8) (otherType : SubjectType) :
    KnownUntil id type deadline (lookup now other otherType cache).2 := by
  obtain ⟨entry, member, matching, late⟩ := known
  have live : entry ∈ dropExpired now cache := by
    refine List.mem_filter.mpr ⟨member, decide_eq_true ?_⟩
    omega
  refine ⟨renewed now other otherType entry, mem_lookup_cache.mpr ⟨entry, live, rfl⟩, ?_, ?_⟩
  · obtain ⟨same, sameId⟩ := @renewed_certificate now other otherType entry
    unfold Matches
    rw [same, sameId]
    exact matching
  · unfold renewed refresh
    rw [matching.2]
    dsimp only
    split_ifs
    · exact_mod_cast soon
    · exact late
    · exact late

/-- **A certificate that is found is known for its lifetime.** -/
theorem knownUntil_lookup (lasting : 0 < lifetime type) (found : (lookup now id type cache).1 ≠ []) :
    KnownUntil id type (now + lifetime type) (lookup now id type cache).2 := by
  obtain ⟨cert, member⟩ := List.exists_mem_of_ne_nil _ found
  obtain ⟨entry, matched, _⟩ := List.mem_map.mp member
  obtain ⟨live, matching⟩ := List.mem_filter.mp matched
  have matching : Matches id type entry := of_decide_eq_true matching
  refine ⟨renewed now id type entry, mem_lookup_cache.mpr ⟨entry, live, rfl⟩, ?_, ?_⟩
  · obtain ⟨same, sameId⟩ := @renewed_certificate now id type entry
    unfold Matches
    rw [same, sameId]
    exact matching
  · unfold renewed refresh
    rw [if_pos matching, matching.2]
    dsimp only
    rw [if_pos lasting]
    exact_mod_cast le_refl _

theorem KnownUntil.insert (known : KnownUntil id type deadline cache) (early : now ≤ deadline)
    (soon : deadline ≤ now + lifetime type) (cert : Certificate) :
    KnownUntil id type deadline (insert ctx now cert cache) := by
  obtain ⟨entry, member, kept⟩ := known.lookup early soon (calculateHash ctx.sha256 cert)
    cert.subjectInfo.subjectType
  unfold CertificateCache.insert
  dsimp only
  split_ifs
  · exact ⟨entry, member, kept⟩
  · exact ⟨entry, List.mem_append_left _ member, kept⟩
  · exact ⟨entry, member, kept⟩

/-- **A certificate that is inserted is known for its lifetime.** -/
theorem knownUntil_insert (lasting : 0 < lifetime cert.subjectInfo.subjectType) :
    KnownUntil (calculateHash ctx.sha256 cert) cert.subjectInfo.subjectType
      (now + lifetime cert.subjectInfo.subjectType) (insert ctx now cert cache) := by
  unfold CertificateCache.insert
  dsimp only
  split_ifs with there
  · refine knownUntil_lookup lasting fun none => ?_
    rw [none] at there
    cases there
  · exact ⟨_, List.mem_append_right _ (List.mem_singleton.mpr rfl), ⟨rfl, rfl⟩, by exact_mod_cast le_refl _⟩

end CertificateCache

/-! ### A station as another one finds it -/

/-- **A station whose CAMs another one may believe**: it signs with the key of its ticket, an authority has
issued the ticket, and a root that the other station trusts has issued the authority. -/
structure Recognised {κ : Type} (announcer : Installation κ) (listener : Context) (ticket authority : Certificate)
    (key : EcdsaPublicKey) : Prop where
  sha256 : announcer.ctx.sha256 = listener.sha256
  ownCertificate : ∀ now, announcer.ctx.ownCertificate now = ticket
  ownChain : ∀ now, announcer.ctx.ownChain now = [authority]
  publicKey : getPublicKey listener ticket = .ok (some key)
  verifies : ∀ bytes,
    listener.verifyData key bytes (announcer.signData announcer.ownPrivateKey bytes) = true
  standard : ∀ bytes, ∃ x, (announcer.signData announcer.ownPrivateKey bytes).R = .xCoordinateOnly x
  ticketInfo : ticket.subjectInfo = ⟨SubjectType.authorizationTicket, []⟩
  period : (extractValidityTime ticket).isSome
  assured : ticket.assuranceLevel.isSome
  signer : ticket.signerInfo = .certificateDigestWithSha256 (calculateHash listener.sha256 authority)
  issued : IssuedBy listener ticket authority
  permits : ∃ permissions, assignPermissions ticket aidCa = some permissions
  authorityType : authority.subjectInfo.subjectType = SubjectType.authorizationAuthority
  rooted : ∀ now cache, checkCertificate listener now authority cache = (.ok none, cache)

namespace Recognised

variable {κ : Type} {announcer : Installation κ} {listener : Context} {ticket authority : Certificate}
  {key : EcdsaPublicKey} {now : ℕ} {cache : CertificateCache}

/-- The authorities that a check of the ticket looks up. -/
abbrev authorities (listener : Context) (authority : Certificate) (now : ℕ) (cache : CertificateCache) :
    List Certificate × CertificateCache :=
  CertificateCache.lookup now (calculateHash listener.sha256 authority) SubjectType.authorizationAuthority cache

theorem checkCertificate_eq (recognised : Recognised announcer listener ticket authority key) :
    checkCertificate listener now ticket cache =
      (checkSigners listener ticket (authorities listener authority now cache).1,
        (authorities listener authority now cache).2) := by
  obtain ⟨period, extracted⟩ := Option.isSome_iff_exists.mp recognised.period
  obtain ⟨level, assured⟩ := Option.isSome_iff_exists.mp recognised.assured
  have named : ¬ (ticket.subjectInfo.subjectType = SubjectType.authorizationTicket ∧
      ticket.subjectInfo.subjectName ≠ []) := by
    rw [recognised.ticketInfo]
    exact fun named => named.2 rfl
  have type : ticket.subjectInfo.subjectType = SubjectType.authorizationTicket := by
    rw [recognised.ticketInfo]
  unfold checkCertificate
  rw [extracted, assured, if_neg named, recognised.signer]
  dsimp only
  rw [if_pos type]
  rfl

/-- **The ticket is valid** if the authority is known. -/
theorem checkCertificate_known (recognised : Recognised announcer listener ticket authority key)
    (orderly : CertificateCache.Orderly listener.sha256 authority cache)
    (found : (authorities listener authority now cache).1 ≠ []) :
    checkCertificate listener now ticket cache =
      (.ok none, (authorities listener authority now cache).2) := by
  have alike := @CertificateCache.Orderly.found listener now cache authority orderly
  rw [recognised.authorityType] at alike
  rw [recognised.checkCertificate_eq]
  congr 1
  cases signers : (authorities listener authority now cache).1 with
  | nil => exact absurd signers found
  | cons signer rest =>
    have same : signer.Alike authority := alike signer (by rw [signers]; exact List.mem_cons_self)
    obtain ⟨signerKey, extracted, verified⟩ := recognised.issued.verifies
    unfold checkSigners
    rw [same.getPublicKey, extracted]
    dsimp only
    rw [if_pos verified, same.checkConsistency, if_pos recognised.issued.consistent]

theorem checkCertificate_unknown (recognised : Recognised announcer listener ticket authority key)
    (missing : (authorities listener authority now cache).1 = []) :
    checkCertificate listener now ticket cache =
      (.ok (some .unknownSigner), (authorities listener authority now cache).2) := by
  rw [recognised.checkCertificate_eq, missing]
  rfl

end Recognised

end Vanet.Security
