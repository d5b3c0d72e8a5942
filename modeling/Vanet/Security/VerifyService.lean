/-
**`straight_verify_service`.**

The function object of the source is `verify`, an action on the certificate cache and on what the
sign header policy has been asked for. An early `return confirm` is a failure of the action, and its
report is never a success; `boost::bad_get` escapes. The service is called with one `Moment` for
each message, as the runtime's clock does not advance in between.
-/

import Vanet.Security.Validator

namespace Vanet.Security

open Vanet.Library

/-! ### Requests and confirms -/

inductive VerificationReport
  | success
  | falseSignature
  | invalidCertificate
  | revokedCertificate
  | inconsistentChain
  | invalidTimestamp
  | duplicateMessage
  | invalidMobilityData
  | unsignedMessage
  | signerCertificateNotFound
  | unsupportedSignerIdentifierType
  | incompatibleProtocol
  deriving DecidableEq

structure VerifyConfirm where
  report : VerificationReport
  itsAid : UInt32
  permissions : ByteBuffer
  certificateValidity : CertificateValidity
  certificateId : Option HashedId8
  deriving DecidableEq

/-- What the sign header policy is asked for. -/
inductive PolicyRequest
  | certificate
  | certificateChain
  | unrecognizedCertificate (id : HashedId8)
  deriving DecidableEq

/-- **The state of the service.** -/
structure Service where
  cache : CertificateCache
  requests : List PolicyRequest

/-- An early return; it never reports a success. -/
structure Rejection where
  confirm : VerifyConfirm
  failed : confirm.report ≠ .success

inductive Exit
  | rejection (rejection : Rejection)
  | thrown (thrown : Thrown)

/-! ### What is read from a message -/

namespace SecuredMessage

/-- `header_field`: the first field of a type. -/
def generationTime (message : SecuredMessage) : Option Time64 :=
  message.headerFields.findSome? fun
    | .generationTime time => some time
    | _ => none

def generationLocation (message : SecuredMessage) : Option ThreeDLocation :=
  message.headerFields.findSome? fun
    | .generationLocation location => some location
    | _ => none

def requestUnrecognizedCertificate (message : SecuredMessage) : Option (List HashedId3) :=
  message.headerFields.findSome? fun
    | .requestUnrecognizedCertificate ids => some ids
    | _ => none

def itsAid (message : SecuredMessage) : Option IntX :=
  message.headerFields.findSome? fun
    | .itsAid aid => some aid
    | _ => none

def signerInfo (message : SecuredMessage) : Option SignerInfo :=
  message.headerFields.findSome? fun
    | .signerInfo info => some info
    | _ => none

/-- The signature among the trailer fields: the first one, there are no other fields. -/
def signature (message : SecuredMessage) : Option Signature :=
  message.trailerFields.head?.map fun
    | .signature sig => sig

/-- The bytes that the message's signature has to verify. -/
def signedBytes (message : SecuredMessage) : ByteBuffer :=
  message.convertForSigning message.trailerFields

end SecuredMessage

/-- `aid::CA`. -/
def aidCa : UInt32 := 36

/-- `aid::CA == *its_aid`, a comparison of 64 bits. -/
def isCa (message : SecuredMessage) : Bool := message.itsAid = some ⟨aidCa.toUInt64⟩

/-! ### The checks -/

/-- How far a generation time may lie in the past. -/
def generationTimePast (message : SecuredMessage) : ℕ :=
  if isCa message then seconds 2 else minutes 10

def generationTimeFuture : ℕ := milliseconds 40

def checkGenerationTime (message : SecuredMessage) (now : ℕ) : Bool :=
  match message.generationTime with
  | none => false
  | some generationTime =>
    if convertTime64 (now + generationTimeFuture) < generationTime then false
    else if generationTime < convertTime64 (now - generationTimePast message) then false
    else true

def checkGenerationLocation (geod : Geodesic) (message : SecuredMessage) (cert : Certificate) :
    Bool :=
  if isCa message then true
  else
    match message.generationLocation with
    | none => false
    | some generationLocation =>
      match cert.region with
      | none => true
      | some .none => true
      | some region => isWithin geod generationLocation.toTwoD region

def checkCertificateTime (certificate : Certificate) (now : ℕ) : Bool :=
  match certificate.startAndEndValidity with
  | none => false
  | some (startValidity, endValidity) =>
    ¬ (convertTime32 now < startValidity ∨ endValidity < convertTime32 now)

def checkCertificateRegion (geod : Geodesic) (certificate : Certificate) (position : PositionFix) :
    Bool :=
  match certificate.region with
  | none => true
  | some .none => true
  | some region => position.confidence && isWithin geod position.location region

/-- `assign_permissions`: the permissions of the first list that has the ITS-AID in it. -/
def assignPermissions (certificate : Certificate) (itsAid : UInt32) : Option ByteBuffer :=
  match certificate.itsAidSspList with
  | none => none
  | some permissions =>
    (permissions.find? fun permission => permission.itsAid.value = itsAid.toUInt64).map
      (·.serviceSpecificPermissions)

/-! ### The service -/

section Service

variable (ctx : Context)

abbrev Serve := Action Service Exit

namespace Serve

/-- An early return. -/
def reject {α : Type} (report : VerificationReport) (failed : report ≠ .success) (itsAid : UInt32)
    (validity : CertificateValidity) (id : Option HashedId8) : Serve α :=
  Action.fail (.rejection ⟨⟨report, itsAid, [], validity, id⟩, failed⟩)

def request (asked : List PolicyRequest) : Serve Unit :=
  Action.update fun service => ((), { service with requests := service.requests ++ asked })

/-- An action on the certificate cache. -/
def onCache {α : Type} (act : Action CertificateCache Thrown α) : Serve α := fun service =>
  match act service.cache with
  | (.ok value, cache) => (.ok value, { service with cache })
  | (.error thrown, cache) => (.error (.thrown thrown), { service with cache })

end Serve

open Serve

/-- The last three bytes. -/
def truncate (id : HashedId8) : HashedId3 := ⟨id.1.drop 5, by rw [List.length_drop, id.2]⟩

/-- The own certificates that a message asks for are sent with the next one. -/
def answers (now : ℕ) (requested : HashedId3) : List PolicyRequest :=
  let asked (cert : Certificate) : Bool := truncate (calculateHash ctx.sha256 cert) = requested
  (if asked (ctx.ownCertificate now) then [.certificate] else []) ++
    ((ctx.ownChain now).filter asked).map fun _ => .certificateChain

def lookup (now : ℕ) (id : HashedId8) (type : SubjectType) : Serve (List Certificate) :=
  onCache (Action.update (CertificateCache.lookup now id type))

def insert (now : ℕ) (certificate : Certificate) : Serve Unit :=
  onCache (Action.update fun cache => ((), CertificateCache.insert ctx now certificate cache))

/-- An authority in a chain is cached if it is valid. -/
def precheck (moment : Moment) (itsAid : UInt32) (cert : Certificate) : Serve Unit :=
  if cert.subjectInfo.subjectType = SubjectType.authorizationAuthority then do
    let validity ← onCache (checkCertificate ctx moment.now cert)
    if validity ≠ none then reject .invalidCertificate nofun itsAid validity none
    else if ¬ (checkCertificateTime cert moment.now ∧
        checkCertificateRegion ctx.geod cert moment.positionFix) then
      reject .invalidCertificate nofun itsAid none none
    else insert ctx moment.now cert
  else pure ()

def precheckChain (moment : Moment) (itsAid : UInt32) : List Certificate → Serve Unit
  | [] => pure ()
  | cert :: rest => do
    precheck ctx moment itsAid cert
    precheckChain moment itsAid rest

/-- A CAM with a ticket that is not known is answered with the own certificate. -/
def greet (now : ℕ) (itsAid : UInt32) (signerHash : HashedId8) : Serve Unit :=
  if itsAid = aidCa then do
    let known ← lookup now signerHash SubjectType.authorizationTicket
    request (if known.isEmpty then [.certificate] else [])
  else pure ()

/-- The certificates that may have signed the message. -/
structure Candidates where
  certificates : List Certificate
  fromCache : Bool
  signerHash : HashedId8

def maxChainLength : ℕ := 3

def possibleCertificates (moment : Moment) (itsAid : UInt32) : Option SignerInfo → Serve Candidates
  | none => pure ⟨[], false, ⟨List.replicate 8 0, rfl⟩⟩
  | some (.certificate cert) => do
    let signerHash := calculateHash ctx.sha256 cert
    greet moment.now itsAid signerHash
    pure ⟨[cert], false, signerHash⟩
  | some (.certificateDigestWithSha256 signerHash) => do
    let known ← lookup moment.now signerHash SubjectType.authorizationTicket
    pure ⟨known, true, signerHash⟩
  | some (.certificateChain chain) =>
    match chain.getLast? with
    | none => reject .signerCertificateNotFound nofun itsAid none none
    | some ticket =>
      if maxChainLength < chain.length then reject .invalidCertificate nofun itsAid none none
      else do
        precheckChain ctx moment itsAid chain
        pure ⟨[ticket], false, calculateHash ctx.sha256 ticket⟩
  | some .self => reject .unsupportedSignerIdentifierType nofun itsAid none none
  | some (.certificateDigestWithOtherAlgorithm _ _) =>
    reject .unsupportedSignerIdentifierType nofun itsAid none none

/-- The first candidate under whose key the signature verifies. All candidates before it have to be
tickets with a public key. -/
def findSigner (itsAid : UInt32) (signedBytes : ByteBuffer) (sig : Signature) :
    List Certificate → Serve (Option Certificate)
  | [] => pure none
  | cert :: rest => do
    if cert.subjectInfo.subjectType ≠ SubjectType.authorizationTicket then
      reject .invalidCertificate nofun itsAid (some .invalidSigner) none
    else do
      let publicKey ← onCache (Action.lift (getPublicKey ctx cert))
      match publicKey with
      | none => reject .invalidCertificate nofun itsAid (some .missingPublicKey) none
      | some publicKey =>
        if ctx.verifyData publicKey signedBytes sig then pure (some cert)
        else findSigner itsAid signedBytes sig rest

/-- Certificates from the cache have been validated when they were inserted. -/
def validate (moment : Moment) (fromCache : Bool) (signer : Certificate) :
    Serve CertificateValidity :=
  if fromCache then pure none else onCache (checkCertificate ctx moment.now signer)

/-- The signer has been found: everything else about it is checked, then it is cached. -/
def acceptSigner (moment : Moment) (message : SecuredMessage) (itsAid : UInt32) (fromCache : Bool)
    (signer : Certificate) : Serve VerifyConfirm :=
  if ¬ checkGenerationLocation ctx.geod message signer then
    reject .invalidCertificate nofun itsAid (some .offRegion) none
  else do
    let certValidity ← validate ctx moment fromCache signer
    match certValidity, signer.signerInfo with
    | some .unknownSigner, .certificateDigestWithSha256 signerHash => do
      request [.unrecognizedCertificate signerHash]
      reject .invalidCertificate nofun itsAid (some .unknownSigner) (some signerHash)
    | some reason, _ => reject .invalidCertificate nofun itsAid (some reason) none
    | none, _ =>
      if ¬ checkCertificateTime signer moment.now then
        reject .invalidCertificate nofun itsAid (some .offTimePeriod) none
      else if ¬ checkCertificateRegion ctx.geod signer moment.positionFix then
        reject .invalidCertificate nofun itsAid (some .offRegion) none
      else
        match assignPermissions signer itsAid with
        | none => reject .invalidCertificate nofun itsAid (some .insufficientItsAid) none
        | some permissions => do
          insert ctx moment.now signer
          pure ⟨.success, itsAid, permissions, none, none⟩

/-- From the candidates on. Only a digest may stand for several certificates. -/
def verifyCandidates (moment : Moment) (message : SecuredMessage) (itsAid : UInt32)
    (candidates : Candidates) : Serve VerifyConfirm :=
  if candidates.certificates.isEmpty then do
    request [.unrecognizedCertificate candidates.signerHash]
    reject .signerCertificateNotFound nofun itsAid none (some candidates.signerHash)
  else if ¬ checkGenerationTime message moment.now then
    reject .invalidTimestamp nofun itsAid none none
  else
    match message.signature with
    | none => reject .unsignedMessage nofun itsAid none none
    | some sig => do
      let signer ← findSigner ctx itsAid message.signedBytes sig candidates.certificates
      match signer with
      | none => do
        request [.unrecognizedCertificate candidates.signerHash]
        if candidates.fromCache then
          reject .signerCertificateNotFound nofun itsAid none (some candidates.signerHash)
        else reject .falseSignature nofun itsAid none (some candidates.signerHash)
      | some signer => acceptSigner ctx moment message itsAid candidates.fromCache signer

/-- `PayloadType::Signed`. -/
def signedPayload : PayloadType := 1

/-- The body of the service. A confirm that is returned before its ITS-AID is set has 0 for it. -/
def verifyMessage (moment : Moment) (message : SecuredMessage) : Serve VerifyConfirm :=
  if message.payload.type ≠ signedPayload then reject .unsignedMessage nofun 0 none none
  else do
    request ((message.requestUnrecognizedCertificate.getD []).flatMap (answers ctx moment.now))
    match message.itsAid with
    | none => reject .incompatibleProtocol nofun 0 none none
    | some itsAid => do
      -- the confirm's ITS-AID has 32 bits
      let itsAid := itsAid.value.toUInt32
      let candidates ← possibleCertificates ctx moment itsAid message.signerInfo
      verifyCandidates ctx moment message itsAid candidates

/-- **One call of the service**: the confirm, if no exception escapes, and the state it leaves. -/
def verify (moment : Moment) (message : SecuredMessage) (service : Service) :
    Option VerifyConfirm × Service :=
  match verifyMessage ctx moment message service with
  | (.ok confirm, after) => (some confirm, after)
  | (.error (.rejection rejection), after) => (some rejection.confirm, after)
  | (.error (.thrown _), after) => (none, after)

end Service

end Vanet.Security
