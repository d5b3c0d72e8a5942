/-
**`CertificateCache`, `TrustStore` and `DefaultCertificateValidator`.**

The cache is a list in the order of insertion: of a multimap, only the order of the entries with the
same key can be observed. What the source takes from the crypto backend, the hash function and
GeographicLib is a `Context`. A `boost::get` of a verification key that is no ECDSA key throws; the
cache keeps what has been done to it by then.
-/

import Mathlib.Data.List.Sort
import Vanet.Security.Region
import Vanet.Security.Serialize

namespace Vanet.Security

open Vanet.Library

/-! ### What the service is built on -/

/-- `ecdsa256::PublicKey`. -/
structure EcdsaPublicKey where
  x : Octets 32
  y : Octets 32
  deriving DecidableEq

/-- The trusted certificates; `insert` refuses certificates that are not of a root. -/
structure TrustStore where
  certificates : List Certificate
  roots : ∀ cert ∈ certificates, cert.subjectInfo.subjectType = SubjectType.rootCa

/-- **What the service is built on**: the backend, the hash function, the geodesic distance, the
fixed trust store, and the certificates that the provider has at a time. -/
structure Context where
  verifyData : EcdsaPublicKey → ByteBuffer → EcdsaSignature → Bool
  decompressPoint : EccPoint → Option (ByteBuffer × ByteBuffer)
  sha256 : ByteBuffer → Octets 32
  geod : Geodesic
  trustStore : TrustStore
  ownCertificate : ℕ → Certificate
  ownChain : ℕ → List Certificate

def TrustStore.lookup (ctx : Context) (id : HashedId8) : List Certificate :=
  ctx.trustStore.certificates.filter fun cert => calculateHash ctx.sha256 cert = id

/-- A position fix: the location, and whether it comes with a confidence. -/
structure PositionFix where
  location : TwoDLocation
  confidence : Bool

/-- **The moment of a message**: the clock, in microseconds since the epoch, and the position fix.
The clock stays below what its 64 bits can hold. -/
structure Moment where
  now : ℕ
  positionFix : PositionFix
  now_lt : now < 2 ^ 62

/-- `convert_time64`, of microseconds. -/
def convertTime64 (time : ℤ) : Time64 := UInt64.ofInt time

/-- `convert_time32`, of microseconds. -/
def convertTime32 (time : ℕ) : Time32 := UInt32.ofNat (time / 1000000)

def milliseconds (count : ℕ) : ℕ := count * 1000
def seconds (count : ℕ) : ℕ := count * 1000000
def minutes (count : ℕ) : ℕ := count * 60000000

/-! ### The certificate cache -/

structure CachedCertificate where
  id : HashedId8
  certificate : Certificate
  expiry : ℕ

abbrev CertificateCache := List CachedCertificate

namespace CertificateCache

def certificates (cache : CertificateCache) : List Certificate := cache.map (·.certificate)

/-- The certificates of other types are not stored. -/
def lifetime (type : SubjectType) : ℕ :=
  if type = SubjectType.authorizationTicket then seconds 2
  else if type = SubjectType.authorizationAuthority then seconds 3600
  else 0

def dropExpired (now : ℕ) (cache : CertificateCache) : CertificateCache :=
  cache.filter fun entry => ¬ entry.expiry < now

/-- The entry is what a lookup looks for. -/
def Matches (id : HashedId8) (type : SubjectType) (entry : CachedCertificate) : Prop :=
  entry.id = id ∧ entry.certificate.subjectInfo.subjectType = type

instance (id : HashedId8) (type : SubjectType) (entry : CachedCertificate) :
    Decidable (Matches id type entry) := by
  unfold Matches
  infer_instance

def refresh (now : ℕ) (entry : CachedCertificate) : CachedCertificate :=
  let lifetime := lifetime entry.certificate.subjectInfo.subjectType
  if 0 < lifetime then { entry with expiry := now + lifetime } else entry

/-- The matching certificates, which are renewed. -/
def lookup (now : ℕ) (id : HashedId8) (type : SubjectType) (cache : CertificateCache) :
    List Certificate × CertificateCache :=
  let live := dropExpired now cache
  (certificates (live.filter fun entry => Matches id type entry),
    live.map fun entry => if Matches id type entry then refresh now entry else entry)

def insert (ctx : Context) (now : ℕ) (certificate : Certificate) (cache : CertificateCache) :
    CertificateCache :=
  let id := calculateHash ctx.sha256 certificate
  let type := certificate.subjectInfo.subjectType
  let (certs, cache) := lookup now id type cache
  if certs.any fun cert => cert.convertForSigning = certificate.convertForSigning then cache
  else if 0 < lifetime type then cache ++ [⟨id, certificate, now + lifetime type⟩]
  else cache

end CertificateCache

/-! ### What is read from a certificate -/

namespace Certificate

/-- `get_attribute`: the first attribute of a type. -/
def verificationKey (cert : Certificate) : Option PublicKey :=
  cert.subjectAttributes.findSome? fun
    | .verificationKey key => some key
    | _ => none

def assuranceLevel (cert : Certificate) : Option UInt8 :=
  cert.subjectAttributes.findSome? fun
    | .assurance raw => some raw
    | _ => none

def itsAidList (cert : Certificate) : Option (List IntX) :=
  cert.subjectAttributes.findSome? fun
    | .itsAidList list => some list
    | _ => none

def itsAidSspList (cert : Certificate) : Option (List ItsAidSsp) :=
  cert.subjectAttributes.findSome? fun
    | .itsAidSspList list => some list
    | _ => none

/-- `get_restriction`: the first restriction of a type. -/
def startAndEndValidity (cert : Certificate) : Option (Time32 × Time32) :=
  cert.validityRestriction.findSome? fun
    | .timeStartAndEnd startValidity endValidity => some (startValidity, endValidity)
    | _ => none

def region (cert : Certificate) : Option GeographicRegion :=
  cert.validityRestriction.findSome? fun
    | .region area => some area
    | _ => none

end Certificate

/-- What is thrown: `boost::bad_get`. -/
inductive Thrown
  | badGet
  deriving DecidableEq

/-- The first verification key of a certificate. An ECIES key throws. -/
def getPublicKey (ctx : Context) (cert : Certificate) : Except Thrown (Option EcdsaPublicKey) :=
  match cert.verificationKey with
  | none => .ok none
  | some (.eciesNistp256 _ _) => .error .badGet
  | some (.ecdsaNistp256WithSha256 point) =>
    match ctx.decompressPoint point with
    | none => .ok none
    | some (x, y) =>
      if sizes : x.length = 32 ∧ y.length = 32 then .ok (some ⟨⟨x, sizes.1⟩, ⟨y, sizes.2⟩⟩)
      else .ok none

/-! ### Consistency with the signer -/

/-- The loop of `extract_validity_time`: exactly one period, which is not empty, and no other
restriction of the time. -/
def extractValidityTimeFrom : List ValidityRestriction → Option (Time32 × Time32) →
    Option (Time32 × Time32)
  | [], restriction => restriction
  | .timeStartAndEnd startValidity endValidity :: rest, none =>
    if endValidity ≤ startValidity then none
    else extractValidityTimeFrom rest (some (startValidity, endValidity))
  | .timeStartAndEnd _ _ :: _, some _ => none
  | .timeEnd _ :: _, _ => none
  | .timeStartAndDuration _ _ :: _, _ => none
  | .region _ :: rest, restriction => extractValidityTimeFrom rest restriction

def extractValidityTime (certificate : Certificate) : Option (Time32 × Time32) :=
  extractValidityTimeFrom certificate.validityRestriction none

def checkTimeConsistency (certificate signer : Certificate) : Bool :=
  match extractValidityTime certificate, extractValidityTime signer with
  | some (certificateStart, certificateEnd), some (signerStart, signerEnd) =>
    if certificateStart < signerStart then false
    else if signerEnd < certificateEnd then false
    else true
  | _, _ => false

/-- The list of a ticket carries permissions, the lists of other certificates do not. An `ItsAid` has
32 bits. -/
def extractApplicationIdentifiers (certificate : Certificate) : List UInt32 :=
  if certificate.subjectInfo.subjectType = SubjectType.authorizationTicket then
    (certificate.itsAidSspList.getD []).map fun item => item.itsAid.value.toUInt32
  else
    (certificate.itsAidList.getD []).map fun item => item.value.toUInt32

/-- `std::includes` of sorted lists. -/
def includes : List UInt32 → List UInt32 → Bool
  | _, [] => true
  | [], _ :: _ => false
  | first :: outer, second :: inner =>
    if second < first then false
    else if first < second then includes outer (second :: inner)
    else includes outer inner

def checkPermissionConsistency (certificate signer : Certificate) : Bool :=
  includes ((extractApplicationIdentifiers signer).insertionSort (· ≤ ·))
    ((extractApplicationIdentifiers certificate).insertionSort (· ≤ ·))

def assurance (raw : UInt8) : UInt8 := (raw &&& 0xE0) >>> 5

def confidence (raw : UInt8) : UInt8 := raw &&& 0x03

def checkSubjectAssuranceConsistency (certificate signer : Certificate) : Bool :=
  match certificate.assuranceLevel, signer.assuranceLevel with
  | some certificateAssurance, some signerAssurance =>
    if assurance signerAssurance < assurance certificateAssurance then false
    else if assurance certificateAssurance = assurance signerAssurance then
      ¬ confidence signerAssurance < confidence certificateAssurance
    else true
  | _, _ => false

def checkRegionConsistency (ctx : Context) (certificate signer : Certificate) : Bool :=
  match signer.region with
  | none => true
  | some signerRegion =>
    match certificate.region with
    | none => false
    | some certificateRegion => regionIsWithin ctx.geod certificateRegion signerRegion

def checkConsistency (ctx : Context) (certificate signer : Certificate) : Bool :=
  checkTimeConsistency certificate signer && checkPermissionConsistency certificate signer &&
    checkSubjectAssuranceConsistency certificate signer &&
    checkRegionConsistency ctx certificate signer

/-! ### The validator -/

inductive CertificateInvalidReason
  | brokenTimePeriod
  | offTimePeriod
  | unknownSigner
  | missingSignature
  | missingPublicKey
  | invalidSigner
  | invalidName
  | excessiveChainLength
  | offRegion
  | inconsistentWithSigner
  | insufficientItsAid
  | missingSubjectAssurance
  deriving DecidableEq

/-- No reason: the certificate is valid. -/
abbrev CertificateValidity := Option CertificateInvalidReason

/-- The first signer whose key verifies the certificate decides. -/
def checkSigners (ctx : Context) (certificate : Certificate) :
    List Certificate → Except Thrown CertificateValidity
  | [] => .ok (some .unknownSigner)
  | possibleSigner :: rest =>
    match getPublicKey ctx possibleSigner with
    | .error thrown => .error thrown
    | .ok none => checkSigners ctx certificate rest
    | .ok (some verificationKey) =>
      if ctx.verifyData verificationKey certificate.convertForSigning certificate.signature then
        if checkConsistency ctx certificate possibleSigner then .ok none
        else .ok (some .inconsistentWithSigner)
      else checkSigners ctx certificate rest

/-- **`DefaultCertificateValidator::check_certificate`**: tickets are signed by authorities of the
cache, authorities by roots of the trust store. A received signature is always there. -/
def checkCertificate (ctx : Context) (now : ℕ) (certificate : Certificate) :
    Action CertificateCache Thrown CertificateValidity :=
  let subjectType := certificate.subjectInfo.subjectType
  if (extractValidityTime certificate).isNone then pure (some .brokenTimePeriod)
  else if certificate.assuranceLevel.isNone then pure (some .missingSubjectAssurance)
  else if subjectType = SubjectType.authorizationTicket ∧ certificate.subjectInfo.subjectName ≠ [] then
    pure (some .invalidName)
  else
    match certificate.signerInfo with
    | .certificateDigestWithSha256 signerHash =>
      if subjectType = SubjectType.authorizationTicket then do
        let possibleSigners ← Action.update
          (CertificateCache.lookup now signerHash SubjectType.authorizationAuthority)
        Action.lift (checkSigners ctx certificate possibleSigners)
      else if subjectType = SubjectType.authorizationAuthority then
        Action.lift (checkSigners ctx certificate (TrustStore.lookup ctx signerHash))
      else pure (some .unknownSigner)
    | _ => pure (some .invalidSigner)

/-! ### What the cache and the validator do -/

namespace CertificateCache

variable {ctx : Context} {now : ℕ} {id : HashedId8} {type : SubjectType} {cache : CertificateCache}
  {cert : Certificate} {I : Certificate → Prop}

/-- Every certificate of the cache has the property. -/
def All (I : Certificate → Prop) (cache : CertificateCache) : Prop :=
  ∀ cert ∈ cache.certificates, I cert

theorem mem_dropExpired {entry : CachedCertificate} (member : entry ∈ dropExpired now cache) :
    entry ∈ cache :=
  List.mem_of_mem_filter member

theorem refresh_certificate (entry : CachedCertificate) :
    (refresh now entry).certificate = entry.certificate := by
  unfold refresh
  simp only
  split_ifs <;> rfl

/-- A lookup finds certificates of the cache, of the type looked for. -/
theorem mem_lookup (member : cert ∈ (lookup now id type cache).1) :
    cert ∈ certificates cache ∧ cert.subjectInfo.subjectType = type := by
  obtain ⟨entry, found, rfl⟩ := List.mem_map.mp member
  obtain ⟨live, matching⟩ := List.mem_filter.mp found
  exact ⟨List.mem_map_of_mem (mem_dropExpired live), (of_decide_eq_true matching).2⟩

/-- A lookup drops certificates and changes none. -/
theorem All.lookup (all : All I cache) : All I (lookup now id type cache).2 := by
  intro cert member
  obtain ⟨_, found, rfl⟩ := List.mem_map.mp member
  obtain ⟨entry, live, rfl⟩ := List.mem_map.mp found
  have same : (if Matches id type entry then refresh now entry else entry).certificate =
      entry.certificate := by
    split_ifs
    · exact refresh_certificate entry
    · rfl
  rw [same]
  exact all _ (List.mem_map_of_mem (mem_dropExpired live))

/-- An insertion adds the certificate, if any. -/
theorem All.insert (all : All I cache) (holds : I cert) : All I (insert ctx now cert cache) := by
  unfold CertificateCache.insert
  simp only
  split_ifs
  · exact all.lookup
  · intro other member
    rw [certificates, List.map_append, List.mem_append] at member
    rcases member with old | new
    · exact all.lookup _ old
    · rw [List.mem_singleton.mp new]
      exact holds
  · exact all.lookup

end CertificateCache

/-- **The certificate is issued by the signer**: the signer's key verifies it, and it is consistent
with the signer. -/
structure IssuedBy (ctx : Context) (cert signer : Certificate) : Prop where
  verifies : ∃ key, getPublicKey ctx signer = .ok (some key) ∧
    ctx.verifyData key cert.convertForSigning cert.signature = true
  consistent : checkConsistency ctx cert signer = true

theorem checkSigners_valid {ctx : Context} {cert : Certificate} {signers : List Certificate}
    (valid : checkSigners ctx cert signers = .ok none) :
    ∃ signer ∈ signers, IssuedBy ctx cert signer := by
  induction signers with
  | nil => cases valid
  | cons possibleSigner rest ih =>
    have later (valid : checkSigners ctx cert rest = .ok none) :
        ∃ signer ∈ possibleSigner :: rest, IssuedBy ctx cert signer := by
      obtain ⟨signer, member, issued⟩ := ih valid
      exact ⟨signer, List.mem_cons_of_mem possibleSigner member, issued⟩
    unfold checkSigners at valid
    split at valid
    next => cases valid
    next => exact later valid
    next key found =>
      split_ifs at valid with verified consistent
      · exact ⟨possibleSigner, List.mem_cons_self, ⟨key, found, verified⟩, consistent⟩
      · cases valid
      · exact later valid

/-- **What a valid certificate is**: a ticket that an authority has issued of which the cache knows,
or an authority that a root of the trust store has issued. -/
def Valid (ctx : Context) (I : Certificate → Prop) (cert : Certificate) : Prop :=
  (cert.subjectInfo.subjectType = SubjectType.authorizationTicket ∧
    ∃ authority, I authority ∧
      authority.subjectInfo.subjectType = SubjectType.authorizationAuthority ∧
      IssuedBy ctx cert authority) ∨
  (cert.subjectInfo.subjectType = SubjectType.authorizationAuthority ∧
    ∃ root ∈ ctx.trustStore.certificates, IssuedBy ctx cert root)

/-- **`checkCertificate` is sound**, and what is true of all cached certificates stays so. -/
theorem checkCertificate_ensures (ctx : Context) (now : ℕ) (cert : Certificate)
    (I : Certificate → Prop) :
    Action.Ensures (CertificateCache.All I) (checkCertificate ctx now cert)
      (fun validity cache => CertificateCache.All I cache ∧ (validity = none → Valid ctx I cert))
      (CertificateCache.All I) := by
  have invalid (reason : CertificateInvalidReason) :
      Action.Ensures (CertificateCache.All I)
        (pure (some reason) : Action CertificateCache Thrown CertificateValidity)
        (fun validity cache => CertificateCache.All I cache ∧ (validity = none → Valid ctx I cert))
        (CertificateCache.All I) :=
    .pure fun _ all => ⟨all, nofun⟩
  refine .ite (fun _ => invalid _) fun _ => .ite (fun _ => invalid _) fun _ => ?_
  refine .ite (fun _ => invalid _) fun _ => ?_
  split
  next signerHash =>
    refine .ite (fun ticket => ?_) fun _ => .ite (fun authority => ?_) fun _ => invalid _
    · refine .bind (Q := fun possibleSigners cache => CertificateCache.All I cache ∧
        ∀ signer ∈ possibleSigners, I signer ∧
          signer.subjectInfo.subjectType = SubjectType.authorizationAuthority) ?_ ?_
      · refine .update fun cache all => ⟨all.lookup, fun signer member => ?_⟩
        obtain ⟨known, type⟩ := CertificateCache.mem_lookup member
        exact ⟨all signer known, type⟩
      · refine fun possibleSigners => .lift ?_ fun cache => And.left
        rintro validity checked cache ⟨all, signers⟩
        refine ⟨all, ?_⟩
        rintro rfl
        obtain ⟨signer, member, issued⟩ := checkSigners_valid checked
        exact .inl ⟨ticket, signer, (signers signer member).1, (signers signer member).2, issued⟩
    · refine .lift ?_ fun cache => id
      intro validity checked cache all
      refine ⟨all, ?_⟩
      rintro rfl
      obtain ⟨signer, member, issued⟩ := checkSigners_valid checked
      exact .inr ⟨authority, signer, List.mem_of_mem_filter member, issued⟩
  next => exact invalid _

end Vanet.Security
