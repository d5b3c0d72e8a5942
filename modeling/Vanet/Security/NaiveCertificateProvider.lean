/-
**`NaiveCertificateProvider`.**

The ticket of a provider is renewed an hour before it expires. The certificates of the authority and
of the root are static: they are made when the first instance of the process is constructed, and the
authority's has the lifetime of a ticket. A ticket of a later second therefore ends after the
authority that has issued it, and no receiver accepts it.

Of the backend, the signing function and the key pairs that it has generated are parameters.
-/

import Vanet.Library.Run
import Vanet.Security.Soundness

namespace Vanet.Security

open Vanet.Library

/-! ### Building certificates -/

/-- `get_type`. -/
def SubjectAttribute.type : SubjectAttribute → UInt8
  | .verificationKey _ => 0
  | .encryptionKey _ => 1
  | .assurance _ => 2
  | .itsAidList _ => 32
  | .itsAidSspList _ => 33

/-- `get_type`. -/
def ValidityRestriction.type : ValidityRestriction → UInt8
  | .timeEnd _ => 0
  | .timeStartAndEnd _ _ => 1
  | .timeStartAndDuration _ _ => 2
  | .region _ => 3

namespace Certificate

/-- All fields in ascending order; the order of fields of one type stays. -/
def sort : Certificate → Certificate
  | mk signerInfo subjectInfo subjectAttributes validityRestriction signature =>
    mk signerInfo subjectInfo (subjectAttributes.insertionSort fun a b => a.type ≤ b.type)
      (validityRestriction.insertionSort fun a b => a.type ≤ b.type) signature

def withSignature (signature : Signature) : Certificate → Certificate
  | mk signerInfo subjectInfo subjectAttributes validityRestriction _ =>
    mk signerInfo subjectInfo subjectAttributes validityRestriction signature

/-- `add_permission`, to the first list of ITS-AIDs. -/
def addPermission (aid : UInt32) : List SubjectAttribute → List SubjectAttribute
  | [] => [.itsAidList [⟨aid.toUInt64⟩]]
  | .itsAidList aidList :: rest => .itsAidList (aidList ++ [⟨aid.toUInt64⟩]) :: rest
  | item :: rest => item :: addPermission aid rest

/-- `add_permission` with service specific permissions. -/
def addPermissionSsp (aid : UInt32) (ssp : ByteBuffer) : List SubjectAttribute → List SubjectAttribute
  | [] => [.itsAidSspList [⟨⟨aid.toUInt64⟩, ssp⟩]]
  | .itsAidSspList aidSspList :: rest => .itsAidSspList (aidSspList ++ [⟨⟨aid.toUInt64⟩, ssp⟩]) :: rest
  | item :: rest => item :: addPermissionSsp aid ssp rest

end Certificate

def aidDen : UInt32 := 37
def aidGnMgmt : UInt32 := 141
def aidIpv6Routing : UInt32 := 270549118

def hours (count : ℕ) : ℕ := count * 3600000000

/-- `convert_time32` of a time that may be before the epoch: the cast to seconds truncates. -/
def convertTime32Signed (time : ℤ) : Time32 := UInt32.ofInt (time.tdiv 1000000)

/-! ### The provider -/

/-- `ecdsa256::KeyPair`, over the private keys of the backend. -/
structure KeyPair (κ : Type) where
  privateKey : κ
  publicKey : EcdsaPublicKey

/-- **What a provider is built on**: the backend and the key pairs that have been generated. -/
structure Issuing (κ : Type) where
  signData : κ → ByteBuffer → EcdsaSignature
  sha256 : ByteBuffer → Octets 32
  ownKeyPair : KeyPair κ
  aaKeyPair : KeyPair κ
  rootKeyPair : KeyPair κ

/-- The certificates that are the same for all instances. -/
structure Statics where
  rootCertificate : Certificate
  aaCertificate : Certificate

structure Provider where
  statics : Statics
  ownCertificate : Certificate

namespace Issuing

variable {κ : Type} (issuing : Issuing κ)

def verificationKey (keyPair : KeyPair κ) : SubjectAttribute :=
  .verificationKey (.ecdsaNistp256WithSha256 (.uncompressed keyPair.publicKey.x keyPair.publicKey.y))

/-- The signature of a certificate before it is signed. -/
def noSignature : Signature := ⟨.xCoordinateOnly ⟨List.replicate 32 0, rfl⟩, ⟨List.replicate 32 0, rfl⟩⟩

/-- The fields are sorted, then the certificate is signed. -/
def issue (key : κ) (signerInfo : SignerInfo) (subjectInfo : SubjectInfo)
    (attributes : List SubjectAttribute) (startAndEnd : Time32 × Time32) : Certificate :=
  let certificate := (Certificate.mk signerInfo subjectInfo attributes
    [.timeStartAndEnd startAndEnd.1 startAndEnd.2] noSignature).sort
  certificate.withSignature (issuing.signData key certificate.convertForSigning)

/-- From an hour ago on. -/
def startAndEndValidity (now lifetime : ℕ) : Time32 × Time32 :=
  (convertTime32Signed ((now : ℤ) - hours 1), convertTime32 (now + lifetime))

/-- `sign_authorization_ticket` is the key of the authority. -/
def generateAuthorizationTicket (aaCertificate : Certificate) (now : ℕ) : Certificate :=
  let attributes := [SubjectAttribute.assurance 0]
    |> Certificate.addPermissionSsp aidCa [1, 0, 0]
    |> Certificate.addPermissionSsp aidDen [1, 0xff, 0xff, 0xff]
    |> Certificate.addPermissionSsp aidGnMgmt []
    |> Certificate.addPermissionSsp aidIpv6Routing []
  issuing.issue issuing.aaKeyPair.privateKey
    (.certificateDigestWithSha256 (calculateHash issuing.sha256 aaCertificate))
    ⟨SubjectType.authorizationTicket, []⟩ (attributes ++ [verificationKey issuing.ownKeyPair])
    (startAndEndValidity now (hours 23))

/-- The attributes of the certificates that sign others. -/
def authorityAttributes (keyPair : KeyPair κ) : List SubjectAttribute :=
  let attributes := [SubjectAttribute.assurance 0]
    |> Certificate.addPermission aidCa
    |> Certificate.addPermission aidDen
    |> Certificate.addPermission aidGnMgmt
    |> Certificate.addPermission aidIpv6Routing
  attributes ++ [verificationKey keyPair]

def generateAaCertificate (rootCertificate : Certificate) (subjectName : ByteBuffer) (now : ℕ) :
    Certificate :=
  issuing.issue issuing.rootKeyPair.privateKey
    (.certificateDigestWithSha256 (calculateHash issuing.sha256 rootCertificate))
    ⟨SubjectType.authorizationAuthority, subjectName⟩ (authorityAttributes issuing.aaKeyPair)
    (startAndEndValidity now (hours 23))

def generateRootCertificate (subjectName : ByteBuffer) (now : ℕ) : Certificate :=
  issuing.issue issuing.rootKeyPair.privateKey .self ⟨SubjectType.rootCa, subjectName⟩
    (authorityAttributes issuing.rootKeyPair) (startAndEndValidity now (hours (365 * 24)))

/-- "Naive Root CA". -/
def rootSubject : ByteBuffer := [78, 97, 105, 118, 101, 32, 82, 111, 111, 116, 32, 67, 65]

/-- "Naive Authorization CA". -/
def aaSubject : ByteBuffer :=
  [78, 97, 105, 118, 101, 32, 65, 117, 116, 104, 111, 114, 105, 122, 97, 116, 105, 111, 110, 32, 67, 65]

/-- The static certificates, when the first instance is constructed. -/
def statics (now : ℕ) : Statics :=
  let root := issuing.generateRootCertificate rootSubject now
  ⟨root, issuing.generateAaCertificate root aaSubject now⟩

def construct (statics : Statics) (now : ℕ) : Provider :=
  ⟨statics, issuing.generateAuthorizationTicket statics.aaCertificate now⟩

/-- The certificate ends within the next hour. -/
def renewalDue (now : ℕ) (certificate : Certificate) : Bool :=
  certificate.validityRestriction.any fun
    | .timeStartAndEnd _ endValidity => endValidity < convertTime32 (now + hours 1)
    | _ => false

/-- **`own_certificate`**, and the provider it leaves. -/
def ownCertificate (now : ℕ) (provider : Provider) : Certificate × Provider :=
  let certificate :=
    if renewalDue now provider.ownCertificate then
      issuing.generateAuthorizationTicket provider.statics.aaCertificate now
    else provider.ownCertificate
  (certificate, { provider with ownCertificate := certificate })

end Issuing

def Provider.ownChain (provider : Provider) : List Certificate := [provider.statics.aaCertificate]

/-! ### What is in the certificates -/

section Fields

variable {κ : Type} {issuing : Issuing κ} {key : κ} {signerInfo : SignerInfo}
  {subjectInfo : SubjectInfo} {attributes : List SubjectAttribute} {period : Time32 × Time32}

theorem signature_issue :
    (issuing.issue key signerInfo subjectInfo attributes period).signature = issuing.signData key
      (issuing.issue key signerInfo subjectInfo attributes period).convertForSigning :=
  rfl

theorem extractValidityTime_issue :
    extractValidityTime (issuing.issue key signerInfo subjectInfo attributes period) =
      if period.2 ≤ period.1 then none else some period :=
  rfl

theorem startAndEndValidity_issue :
    (issuing.issue key signerInfo subjectInfo attributes period).startAndEndValidity = some period :=
  rfl

theorem renewalDue_issue {now : ℕ} :
    Issuing.renewalDue now (issuing.issue key signerInfo subjectInfo attributes period) =
      decide (period.2 < convertTime32 (now + hours 1)) :=
  Bool.or_false _

/-- The ticket of a time. -/
abbrev Issuing.ticket (issuing : Issuing κ) (first issued : ℕ) : Certificate :=
  issuing.generateAuthorizationTicket (issuing.statics first).aaCertificate issued

variable {ctx : Context} {first issued : ℕ}

theorem subjectInfo_ticket :
    (issuing.ticket first issued).subjectInfo = ⟨SubjectType.authorizationTicket, []⟩ :=
  rfl

theorem signerInfo_ticket : (issuing.ticket first issued).signerInfo = .certificateDigestWithSha256
    (calculateHash issuing.sha256 (issuing.statics first).aaCertificate) :=
  rfl

theorem signature_ticket : (issuing.ticket first issued).signature = issuing.signData
    issuing.aaKeyPair.privateKey (issuing.ticket first issued).convertForSigning :=
  signature_issue

theorem extractValidityTime_ticket (period : ¬ (Issuing.startAndEndValidity issued (hours 23)).2 ≤
      (Issuing.startAndEndValidity issued (hours 23)).1) :
    extractValidityTime (issuing.ticket first issued) =
      some (Issuing.startAndEndValidity issued (hours 23)) := by
  unfold Issuing.ticket Issuing.generateAuthorizationTicket
  rw [extractValidityTime_issue, if_neg period]

theorem extractValidityTime_aa (period : ¬ (Issuing.startAndEndValidity first (hours 23)).2 ≤
      (Issuing.startAndEndValidity first (hours 23)).1) :
    extractValidityTime (issuing.statics first).aaCertificate =
      some (Issuing.startAndEndValidity first (hours 23)) := by
  unfold Issuing.statics Issuing.generateAaCertificate
  rw [extractValidityTime_issue, if_neg period]

theorem startAndEndValidity_ticket : (issuing.ticket first issued).startAndEndValidity =
    some (Issuing.startAndEndValidity issued (hours 23)) :=
  startAndEndValidity_issue

theorem assuranceLevel_ticket : (issuing.ticket first issued).assuranceLevel = some 0 := rfl

theorem subjectType_aa : (issuing.statics first).aaCertificate.subjectInfo.subjectType =
    SubjectType.authorizationAuthority :=
  rfl

theorem getPublicKey_aa
    (decompresses : ∀ x y, ctx.decompressPoint (.uncompressed x y) = some (x.1, y.1)) :
    getPublicKey ctx (issuing.statics first).aaCertificate =
      .ok (some issuing.aaKeyPair.publicKey) := by
  have found : (issuing.statics first).aaCertificate.verificationKey =
      some (.ecdsaNistp256WithSha256
        (.uncompressed issuing.aaKeyPair.publicKey.x issuing.aaKeyPair.publicKey.y)) := rfl
  have known := decompresses issuing.aaKeyPair.publicKey.x issuing.aaKeyPair.publicKey.y
  have sizes : issuing.aaKeyPair.publicKey.x.1.length = 32 ∧
      issuing.aaKeyPair.publicKey.y.1.length = 32 :=
    ⟨issuing.aaKeyPair.publicKey.x.2, issuing.aaKeyPair.publicKey.y.2⟩
  unfold getPublicKey
  rw [found]
  dsimp only
  rw [known]
  dsimp only
  rw [dif_pos sizes]

/-- A ticket has the permissions and the assurance of the authority, and neither has a region. -/
theorem checkConsistency_ticket :
    checkConsistency ctx (issuing.ticket first issued) (issuing.statics first).aaCertificate =
      checkTimeConsistency (issuing.ticket first issued) (issuing.statics first).aaCertificate := by
  have permissions : checkPermissionConsistency (issuing.ticket first issued)
      (issuing.statics first).aaCertificate = true := by
    show includes ([36, 37, 141, 270549118].insertionSort _)
      ([36, 37, 141, 270549118].insertionSort _) = true
    decide
  have assurance : checkSubjectAssuranceConsistency (issuing.ticket first issued)
      (issuing.statics first).aaCertificate = true := rfl
  have region : checkRegionConsistency ctx (issuing.ticket first issued)
      (issuing.statics first).aaCertificate = true := rfl
  unfold checkConsistency
  rw [permissions, assurance, region, Bool.and_true, Bool.and_true, Bool.and_true]

end Fields

/-! ### Times that a `Time32` can express -/

/-- **The time can be certified**: an hour ago and 23 hours from now are times that a `Time32` has. -/
structure Certifiable (now : ℕ) : Prop where
  late : hours 1 ≤ now
  early : (now + hours 23) / seconds 1 < 2 ^ 32

theorem Certifiable.between {first now last : ℕ} (begins : Certifiable first) (after : first ≤ now)
    (before : now ≤ last) (ends : Certifiable last) : Certifiable now where
  late := Nat.le_trans begins.late after
  early := by
    have monotone : (now + hours 23) / seconds 1 ≤ (last + hours 23) / seconds 1 :=
      Nat.div_le_div_right (Nat.add_le_add_right before _)
    exact Nat.lt_of_le_of_lt monotone ends.early

theorem toNat_convertTime32 {time : ℕ} (fits : time / seconds 1 < 2 ^ 32) :
    (convertTime32 time).toNat = time / seconds 1 :=
  UInt32.toNat_ofNat_of_lt' fits

theorem toNat_startValidity {now lifetime : ℕ} (certifiable : Certifiable now) :
    (Issuing.startAndEndValidity now lifetime).1.toNat = now / seconds 1 - 3600 := by
  have late := certifiable.late
  have early := certifiable.early
  have natural : (now : ℤ) - hours 1 = ((now - hours 1 : ℕ) : ℤ) := by omega
  have seconds_sub : (now - hours 1) / seconds 1 = now / seconds 1 - 3600 := by
    unfold hours seconds
    omega
  have fits : (now - hours 1) / seconds 1 < 2 ^ 32 := by
    unfold hours seconds at *
    omega
  have whole : (((now - hours 1) / seconds 1 : ℕ) : ℤ) % 2 ^ 32 = ((now - hours 1) / seconds 1 : ℕ) :=
    Int.emod_eq_of_lt (Int.natCast_nonneg _) (by exact_mod_cast fits)
  show (UInt32.ofInt (((now : ℤ) - hours 1).tdiv (seconds 1 : ℕ))).toNat = _
  rw [natural, ← Int.ofNat_tdiv, UInt32.ofInt, whole, Int.toNat_natCast,
    UInt32.toNat_ofNat_of_lt' fits, seconds_sub]

theorem toNat_endValidity {now : ℕ} (certifiable : Certifiable now) :
    (Issuing.startAndEndValidity now (hours 23)).2.toNat = now / seconds 1 + 82800 := by
  show (convertTime32 (now + hours 23)).toNat = _
  rw [toNat_convertTime32 certifiable.early]
  unfold hours seconds
  omega

/-! ### What a receiver finds -/

/-- **A receiver of the provider's certificates**: with the same hash function, a backend that
verifies what the provider's backend signs, and trust in the root. -/
structure Trusts {κ : Type} (issuing : Issuing κ) (statics : Statics) (ctx : Context) : Prop where
  sha256 : ctx.sha256 = issuing.sha256
  decompresses : ∀ x y, ctx.decompressPoint (.uncompressed x y) = some (x.1, y.1)
  verifies : ∀ bytes, ctx.verifyData issuing.aaKeyPair.publicKey bytes
    (issuing.signData issuing.aaKeyPair.privateKey bytes) = true
  root : statics.rootCertificate ∈ ctx.trustStore.certificates

/-- **The receiver knows the chain**: its certificates are cached, and no others under their ids. -/
structure Knows (ctx : Context) (now : ℕ) (cache : CertificateCache) (chain : List Certificate) :
    Prop where
  cached : ∀ cert ∈ chain, ∃ entry ∈ cache, entry.id = calculateHash ctx.sha256 cert ∧
    entry.certificate = cert ∧ ¬ entry.expiry < now
  unique : ∀ cert ∈ chain, ∀ entry ∈ cache, entry.id = calculateHash ctx.sha256 cert →
    entry.certificate = cert

/-- A lookup finds the certificate, once or several times. -/
theorem Knows.lookup {ctx : Context} {now : ℕ} {cache : CertificateCache} {chain : List Certificate}
    {cert : Certificate} (knows : Knows ctx now cache chain) (member : cert ∈ chain) :
    ∃ more, (CertificateCache.lookup now (calculateHash ctx.sha256 cert)
      cert.subjectInfo.subjectType cache).1 = List.replicate (more + 1) cert := by
  have same : ∀ found ∈ (CertificateCache.lookup now (calculateHash ctx.sha256 cert)
      cert.subjectInfo.subjectType cache).1, found = cert := by
    intro found there
    obtain ⟨entry, matching, rfl⟩ := List.mem_map.mp there
    obtain ⟨live, matches_⟩ := List.mem_filter.mp matching
    exact knows.unique cert member entry (CertificateCache.mem_dropExpired live)
      (of_decide_eq_true matches_).1
  have found : cert ∈ (CertificateCache.lookup now (calculateHash ctx.sha256 cert)
      cert.subjectInfo.subjectType cache).1 := by
    obtain ⟨entry, there, id, rfl, live⟩ := knows.cached cert member
    have kept : entry ∈ CertificateCache.dropExpired now cache :=
      List.mem_filter.mpr ⟨there, decide_eq_true live⟩
    exact List.mem_map_of_mem (List.mem_filter.mpr ⟨kept, decide_eq_true ⟨id, rfl⟩⟩)
  have replicated := List.eq_replicate_of_mem same
  cases length : (CertificateCache.lookup now (calculateHash ctx.sha256 cert)
      cert.subjectInfo.subjectType cache).1.length with
  | zero =>
    rw [List.length_eq_zero_iff.mp length] at found
    cases found
  | succ more =>
    rw [length] at replicated
    exact ⟨more, replicated⟩

section Check

variable {κ : Type} {issuing : Issuing κ} {ctx : Context} {now first issued : ℕ}
  {cache : CertificateCache}

/-- The signers are copies of one authority, whose key verifies the certificate. -/
theorem checkSigners_replicate {cert signer : Certificate} {key : EcdsaPublicKey} (more : ℕ)
    (found : getPublicKey ctx signer = .ok (some key))
    (verified : ctx.verifyData key cert.convertForSigning cert.signature = true) :
    checkSigners ctx cert (List.replicate (more + 1) signer) =
      .ok (if checkConsistency ctx cert signer then none else some .inconsistentWithSigner) := by
  rw [List.replicate_succ, checkSigners, found]
  dsimp only
  rw [if_pos verified]
  split_ifs <;> rfl

theorem checkTimeConsistency_none {cert signer : Certificate}
    (broken : extractValidityTime cert = none) : checkTimeConsistency cert signer = false := by
  unfold checkTimeConsistency
  rw [broken]

/-- The period of the signer encloses that of the certificate. -/
theorem checkTimeConsistency_iff {cert signer : Certificate} {period signerPeriod : Time32 × Time32}
    (found : extractValidityTime cert = some period)
    (signerFound : extractValidityTime signer = some signerPeriod) :
    checkTimeConsistency cert signer = true ↔
      signerPeriod.1 ≤ period.1 ∧ period.2 ≤ signerPeriod.2 := by
  unfold checkTimeConsistency
  rw [found, signerFound]
  dsimp only
  split_ifs with early late
  · exact iff_of_false id fun inside => absurd inside.1 (UInt32.not_le.mpr early)
  · exact iff_of_false id fun inside => absurd inside.2 (UInt32.not_le.mpr late)
  · exact iff_of_true rfl ⟨UInt32.not_lt.mp early, UInt32.not_lt.mp late⟩

/-- A ticket is checked against the authorities with the id of its signer. -/
theorem checkCertificate_digest {cert : Certificate} {signerHash : HashedId8}
    (type : cert.subjectInfo.subjectType = SubjectType.authorizationTicket)
    (unnamed : cert.subjectInfo.subjectName = []) (assured : cert.assuranceLevel.isNone = false)
    (signer : cert.signerInfo = .certificateDigestWithSha256 signerHash) :
    (checkCertificate ctx now cert cache).1 =
      if (extractValidityTime cert).isNone then .ok (some .brokenTimePeriod)
      else
        checkSigners ctx cert (CertificateCache.lookup now signerHash
          SubjectType.authorizationAuthority cache).1 := by
  have named : ¬ (cert.subjectInfo.subjectType = SubjectType.authorizationTicket ∧
      cert.subjectInfo.subjectName ≠ []) :=
    fun named => named.2 unnamed
  unfold checkCertificate
  rw [assured, if_neg Bool.false_ne_true, if_neg named, signer]
  dsimp only
  rw [if_pos type]
  split_ifs
  · rfl
  · rfl

/-- **A receiver accepts a ticket exactly if its period lies in the authority's.** -/
theorem checkCertificate_ticket_iff (trusts : Trusts issuing (issuing.statics first) ctx)
    (knows : Knows ctx now cache [(issuing.statics first).aaCertificate]) :
    (checkCertificate ctx now (issuing.ticket first issued) cache).1 = .ok none ↔
      checkTimeConsistency (issuing.ticket first issued) (issuing.statics first).aaCertificate =
        true := by
  obtain ⟨more, found⟩ := knows.lookup (List.mem_singleton.mpr rfl)
  have verified := trusts.verifies (issuing.ticket first issued).convertForSigning
  rw [← signature_ticket] at verified
  have checked := checkSigners_replicate more
    (@getPublicKey_aa κ issuing ctx first trusts.decompresses) verified
  rw [checkConsistency_ticket] at checked
  rw [subjectType_aa, trusts.sha256] at found
  have assured : (issuing.ticket first issued).assuranceLevel.isNone = false := by
    rw [assuranceLevel_ticket]
    rfl
  rw [checkCertificate_digest (congrArg SubjectInfo.subjectType subjectInfo_ticket)
    (congrArg SubjectInfo.subjectName subjectInfo_ticket) assured signerInfo_ticket, found, checked]
  cases period : extractValidityTime (issuing.ticket first issued) with
  | none =>
    rw [checkTimeConsistency_none period]
    exact iff_of_false nofun Bool.false_ne_true
  | some validity =>
    rw [Option.isNone_some, if_neg Bool.false_ne_true]
    cases checkTimeConsistency (issuing.ticket first issued) (issuing.statics first).aaCertificate with
    | true => exact iff_of_true rfl rfl
    | false => exact iff_of_false nofun Bool.false_ne_true

/-- The period of the ticket lies in that of the authority if they are of one second. -/
theorem checkTimeConsistency_ticket_iff (begins : Certifiable first) (certifiable : Certifiable issued)
    (after : first ≤ issued) :
    checkTimeConsistency (issuing.ticket first issued) (issuing.statics first).aaCertificate = true ↔
      issued / seconds 1 = first / seconds 1 := by
  have period (time : ℕ) (certifiable : Certifiable time) :
      ¬ (Issuing.startAndEndValidity time (hours 23)).2 ≤
        (Issuing.startAndEndValidity time (hours 23)).1 := by
    have nonneg : 0 ≤ time / seconds 1 := Nat.zero_le _
    rw [UInt32.le_iff_toNat_le, toNat_startValidity certifiable, toNat_endValidity certifiable]
    omega
  have ordered : first / seconds 1 ≤ issued / seconds 1 := Nat.div_le_div_right after
  rw [checkTimeConsistency_iff (extractValidityTime_ticket (period issued certifiable))
    (extractValidityTime_aa (period first begins)), UInt32.le_iff_toNat_le, UInt32.le_iff_toNat_le,
    toNat_startValidity begins, toNat_startValidity certifiable, toNat_endValidity begins,
    toNat_endValidity certifiable]
  omega

end Check

/-! ### Runs -/

/-- **A process with a provider**: when its first instance was constructed, when this one was, and the
time of the last call. -/
structure Process where
  provider : Provider
  first : ℕ
  constructed : ℕ
  clock : ℕ

inductive Call
  | ownCertificate
  | ownChain

namespace Process

variable {κ : Type} (issuing : Issuing κ)

/-- The provider is the first of its process, or there has been an earlier one. -/
def start (earlier : Option ℕ) (now : ℕ) : Process :=
  let first := earlier.getD now
  ⟨issuing.construct (issuing.statics first) now, first, now, now⟩

def Starts (process : Process) : Prop :=
  ∃ earlier now, (∀ time, earlier = some time → time ≤ now) ∧ process = start issuing earlier now

/-- A call, at a time that is not before the last one. -/
def step (process : Process) (call : ℕ × Call) : Option Process :=
  if process.clock ≤ call.1 then
    match call.2 with
    | .ownCertificate =>
      some { process with
        provider := (issuing.ownCertificate call.1 process.provider).2
        clock := call.1 }
    | .ownChain => some { process with clock := call.1 }
  else none

/-- **The time is within the first day**: no later than 22 hours after the static certificates were
made, in whose second the provider was constructed. -/
structure FirstDay (process : Process) (now : ℕ) : Prop where
  certifiable : Certifiable process.first
  together : process.constructed / seconds 1 = process.first / seconds 1
  soon : now / seconds 1 ≤ process.first / seconds 1 + 79200

theorem FirstDay.before {process : Process} {now earlier : ℕ} (day : FirstDay process now)
    (before : earlier ≤ now) : FirstDay process earlier where
  certifiable := day.certifiable
  together := day.together
  soon := Nat.le_trans (Nat.div_le_div_right before) day.soon

/-- **The invariant of a process**: the ticket is of a time between the construction and the last
call, and on the first day it is the one of the construction. -/
structure Issued (process : Process) : Prop where
  statics : process.provider.statics = issuing.statics process.first
  ordered : process.first ≤ process.constructed
  ticket : ∃ issued, process.constructed ≤ issued ∧ issued ≤ process.clock ∧
    process.provider.ownCertificate = issuing.ticket process.first issued ∧
      (FirstDay process process.clock → issued = process.constructed)

variable {issuing} {process : Process} {now : ℕ}

theorem Issued.running (issued : Issued issuing process) : process.constructed ≤ process.clock := by
  obtain ⟨time, after, before, _⟩ := issued.ticket
  exact Nat.le_trans after before

/-- The ticket that a call returns: that of an earlier time, which does not end within the hour, or a
new one. -/
theorem Issued.ownCertificate (issued : Issued issuing process) (later : process.clock ≤ now) :
    ∃ time, process.constructed ≤ time ∧ time ≤ now ∧
      (issuing.ownCertificate now process.provider).1 = issuing.ticket process.first time ∧
        (FirstDay process now → time = process.constructed) ∧
          (Certifiable process.first → Certifiable now →
            now / seconds 1 ≤ time / seconds 1 + 79200) := by
  obtain ⟨time, after, before, same, opening⟩ := issued.ticket
  have ordered := issued.ordered
  have current : Issuing.renewalDue now process.provider.ownCertificate = decide
      ((Issuing.startAndEndValidity time (hours 23)).2 < convertTime32 (now + hours 1)) := by
    rw [same]
    exact renewalDue_issue
  unfold Issuing.ownCertificate
  rw [current]
  simp only [decide_eq_true_eq]
  split_ifs with due
  · refine ⟨now, Nat.le_trans issued.running later, Nat.le_refl now, ?_, fun day => ?_, fun _ _ => ?_⟩
    · rw [issued.statics]
    · -- on the first day, the ticket of the construction is not renewed
      have begun := opening (day.before later)
      have together := day.together
      have soon := day.soon
      have early := day.certifiable.early
      have certifiable : Certifiable time := by
        constructor
        · exact Nat.le_trans day.certifiable.late (Nat.le_trans ordered after)
        · rw [begun]
          unfold hours seconds at *
          omega
      have fits : (now + hours 1) / seconds 1 < 2 ^ 32 := by
        unfold hours seconds at *
        omega
      rw [UInt32.lt_iff_toNat_lt, toNat_endValidity certifiable, toNat_convertTime32 fits, begun] at due
      unfold hours seconds at *
      omega
    · omega
  · refine ⟨time, after, Nat.le_trans before later, same, fun day => opening (day.before later), ?_⟩
    intro begins ends
    have certifiable : Certifiable time :=
      begins.between (Nat.le_trans ordered after) (Nat.le_trans before later) ends
    have early := ends.early
    have fits : (now + hours 1) / seconds 1 < 2 ^ 32 := by
      unfold hours seconds at *
      omega
    rw [UInt32.lt_iff_toNat_lt, toNat_endValidity certifiable, toNat_convertTime32 fits] at due
    unfold hours seconds at *
    omega

theorem issued_reachable : ∀ process, Reachable (Starts issuing) (step issuing) process →
    Issued issuing process := by
  refine GuardedReach.invariant ?_ ?_
  · rintro _ ⟨earlier, now, before, rfl⟩
    have ordered : earlier.getD now ≤ now := by
      cases earlier with
      | none => exact Nat.le_refl now
      | some time => exact before time rfl
    exact ⟨rfl, ordered, now, Nat.le_refl now, Nat.le_refl now, rfl, fun _ => rfl⟩
  · rintro process ⟨now, call⟩ after _ issued _ taken
    unfold step at taken
    split_ifs at taken with later
    cases call with
    | ownCertificate =>
      cases taken
      obtain ⟨time, past, future, same, opening, _⟩ := issued.ownCertificate later
      exact ⟨issued.statics, issued.ordered, time, past, future, same, fun day => opening
        ⟨day.certifiable, day.together, day.soon⟩⟩
    | ownChain =>
      cases taken
      obtain ⟨time, past, future, same, opening⟩ := issued.ticket
      refine ⟨issued.statics, issued.ordered, time, past, Nat.le_trans future later, same, fun day => ?_⟩
      have whole : FirstDay process now := ⟨day.certifiable, day.together, day.soon⟩
      exact opening (whole.before later)

/-! ### The certificate stays usable on the first day -/

/-- **The certificate is usable**: it is valid at the time, and the receiver accepts it. -/
structure Usable (ctx : Context) (now : ℕ) (cache : CertificateCache) (cert : Certificate) :
    Prop where
  valid : ValidAt cert now
  accepted : (checkCertificate ctx now cert cache).1 = .ok none

theorem validAt_ticket {first issued : ℕ} (certifiable : Certifiable issued) (before : issued ≤ now)
    (soon : now / seconds 1 ≤ issued / seconds 1 + 82800) :
    ValidAt (issuing.ticket first issued) now := by
  have early := certifiable.early
  have fits : now / seconds 1 < 2 ^ 32 := by
    unfold hours seconds at *
    omega
  have ordered : issued / seconds 1 ≤ now / seconds 1 := Nat.div_le_div_right before
  refine ⟨(Issuing.startAndEndValidity issued (hours 23)).1,
    (Issuing.startAndEndValidity issued (hours 23)).2, startAndEndValidity_ticket, ?_, ?_⟩
  · rw [UInt32.le_iff_toNat_le, toNat_startValidity certifiable, toNat_convertTime32 fits]
    exact Nat.le_trans (Nat.sub_le _ _) ordered
  · rw [UInt32.le_iff_toNat_le, toNat_endValidity certifiable, toNat_convertTime32 fits]
    exact soon

/-- A provider of a run, at the time of a call. -/
structure Serving (issuing : Issuing κ) (process : Process) (now : ℕ) : Prop where
  reached : Reachable (Starts issuing) (step issuing) process
  later : process.clock ≤ now

/-- **The receiver** trusts the root, and knows the own chain after the call. -/
structure Receives (issuing : Issuing κ) (process : Process) (now : ℕ) (ctx : Context)
    (cache : CertificateCache) : Prop where
  trusts : Trusts issuing process.provider.statics ctx
  knows : Knows ctx now cache (issuing.ownCertificate now process.provider).2.ownChain

variable {ctx : Context} {cache : CertificateCache}

theorem Receives.accepted_iff (receives : Receives issuing process now ctx cache)
    (issued : Issued issuing process) {time : ℕ} :
    (checkCertificate ctx now (issuing.ticket process.first time) cache).1 = .ok none ↔
      checkTimeConsistency (issuing.ticket process.first time)
        (issuing.statics process.first).aaCertificate = true := by
  have trusts := receives.trusts
  have knows := receives.knows
  have chain : (issuing.ownCertificate now process.provider).2.ownChain =
      [process.provider.statics.aaCertificate] := rfl
  rw [chain, issued.statics] at knows
  rw [issued.statics] at trusts
  exact checkCertificate_ticket_iff trusts knows

theorem FirstDay.usable (serving : Serving issuing process now)
    (receives : Receives issuing process now ctx cache) (day : FirstDay process now) :
    Usable ctx now cache (issuing.ownCertificate now process.provider).1 := by
  have issued := issued_reachable process serving.reached
  obtain ⟨time, after, before, same, opening, _⟩ := issued.ownCertificate serving.later
  have ordered := Nat.le_trans issued.ordered after
  have begun := opening day
  have together := day.together
  have begins := day.certifiable
  have certifiable : Certifiable time := by
    have early := begins.early
    refine ⟨Nat.le_trans begins.late ordered, ?_⟩
    rw [begun]
    unfold hours seconds at *
    omega
  rw [same]
  constructor
  · have soon := day.soon
    apply validAt_ticket certifiable before
    rw [begun]
    omega
  · rw [receives.accepted_iff issued, checkTimeConsistency_ticket_iff begins certifiable ordered, begun]
    exact together

theorem Usable.firstDay (serving : Serving issuing process now)
    (receives : Receives issuing process now ctx cache) (begins : Certifiable process.first)
    (ends : Certifiable now)
    (usable : Usable ctx now cache (issuing.ownCertificate now process.provider).1) :
    FirstDay process now := by
  have issued := issued_reachable process serving.reached
  obtain ⟨time, after, before, same, _, soon⟩ := issued.ownCertificate serving.later
  have ordered := Nat.le_trans issued.ordered after
  have certifiable : Certifiable time := begins.between ordered before ends
  have accepted := usable.accepted
  rw [same, receives.accepted_iff issued, checkTimeConsistency_ticket_iff begins certifiable ordered]
    at accepted
  have lower : process.first / seconds 1 ≤ process.constructed / seconds 1 :=
    Nat.div_le_div_right issued.ordered
  have upper : process.constructed / seconds 1 ≤ time / seconds 1 := Nat.div_le_div_right after
  have last := soon begins ends
  constructor
  · exact begins
  · omega
  · omega

/-- **The own certificate is usable on the first day**, in every run and for every receiver that knows
the own chain; and as long as a `Time32` can express its period, it is so on this day only. -/
theorem ownCertificate_usable (issuing : Issuing κ) (process : Process) (now : ℕ)
    (serving : Serving issuing process now) (ctx : Context) (cache : CertificateCache)
    (receives : Receives issuing process now ctx cache) :
    (FirstDay process now →
        Usable ctx now cache (issuing.ownCertificate now process.provider).1) ∧
      (Certifiable process.first → Certifiable now →
        (Usable ctx now cache (issuing.ownCertificate now process.provider).1 ↔
          FirstDay process now)) :=
  ⟨FirstDay.usable serving receives, fun begins ends =>
    ⟨Usable.firstDay serving receives begins ends, FirstDay.usable serving receives⟩⟩

end Process

/-! ### A station on its second day -/

namespace Sample

/-- A key signs with its number. -/
def issuing : Issuing UInt8 where
  signData key _ := sign key
  sha256 := checksum
  ownKeyPair := ⟨3, ⟨fill 3, fill 0⟩⟩
  aaKeyPair := ⟨2, ⟨fill 2, fill 0⟩⟩
  rootKeyPair := ⟨1, ⟨fill 1, fill 0⟩⟩

/-- In the year 2016. -/
def morning : ℕ := seconds 397000000

/-- The only provider of its process, which has not been called yet. -/
def process : Process := Process.start issuing none morning

def receiver : Context :=
  { context with trustStore := ⟨[(issuing.statics morning).rootCertificate], fun _ member => by
      rw [List.mem_singleton.mp member]
      rfl⟩ }

/-- The authority is in the cache for an hour. -/
def cacheAt (now : ℕ) : CertificateCache :=
  [⟨calculateHash checksum (issuing.statics morning).aaCertificate,
    (issuing.statics morning).aaCertificate, now + hours 1⟩]

theorem serving {now : ℕ} (later : morning ≤ now) : Process.Serving issuing process now :=
  ⟨.start ⟨none, morning, nofun, rfl⟩, later⟩

theorem receives (now : ℕ) : Process.Receives issuing process now receiver (cacheAt now) where
  trusts := ⟨rfl, fun _ _ => rfl, fun _ => rfl, List.mem_singleton.mpr rfl⟩
  knows := by
    constructor
    · intro cert member
      rw [List.mem_singleton.mp member]
      exact ⟨_, List.mem_singleton.mpr rfl, rfl, rfl, Nat.not_lt.mpr (Nat.le_add_right now _)⟩
    · intro cert member entry cached _
      rw [List.mem_singleton.mp member, List.mem_singleton.mp cached]
      rfl

end Sample

namespace Process

theorem ownCertificate_usable_noon : Usable Sample.receiver (Sample.morning + hours 4)
    (Sample.cacheAt (Sample.morning + hours 4))
    (Sample.issuing.ownCertificate (Sample.morning + hours 4) Sample.process.provider).1 :=
  (ownCertificate_usable Sample.issuing Sample.process _
    (Sample.serving (Nat.le_add_right _ _)) Sample.receiver _ (Sample.receives _)).1
      ⟨⟨by decide, by decide⟩, rfl, by decide⟩

/-- **On the second day the own certificate is not usable**: it has been renewed, the authority has
not. -/
theorem ownCertificate_not_usable :
    Serving Sample.issuing Sample.process (Sample.morning + hours 24) ∧
      Receives Sample.issuing Sample.process (Sample.morning + hours 24) Sample.receiver
        (Sample.cacheAt (Sample.morning + hours 24)) ∧
      ¬ Usable Sample.receiver (Sample.morning + hours 24)
        (Sample.cacheAt (Sample.morning + hours 24))
        (Sample.issuing.ownCertificate (Sample.morning + hours 24) Sample.process.provider).1 := by
  have serving := Sample.serving (Nat.le_add_right Sample.morning (hours 24))
  have receives := Sample.receives (Sample.morning + hours 24)
  refine ⟨serving, receives, fun usable => ?_⟩
  have begins : Certifiable Sample.process.first := ⟨by decide, by decide⟩
  have ends : Certifiable (Sample.morning + hours 24) := ⟨by decide, by decide⟩
  have day := Usable.firstDay serving receives begins ends usable
  exact absurd day.soon (by decide)

end Process

end Vanet.Security
