/-
**CAMs that are signed as they should be.**

`Announced` is a CAM that the holder of a key has signed, and `Credible` what has to be in order about its ticket.
From them the verify service comes to one of five ends, which depend on the signer info of the CAM and on what
the receiver knows: `verify_digest_known`, `verify_digest_unknown`, `verify_certificate_valid`,
`verify_certificate_unknown` and `verify_chain`. Each says what the service leaves in the cache, and the two in
which the CAM is refused also what the receiver then asks for.
-/

import Vanet.Security.GenerationTime
import Vanet.Security.SecurityEntity

namespace Vanet.Security

open Vanet.Library Vanet.Library.Action

/-- **What has to be in order about a ticket** with the key, at a moment, for a CAM to be accepted. -/
structure Credible (ctx : Context) (moment : Moment) (key : EcdsaPublicKey) (ticket : Certificate) : Prop where
  type : ticket.subjectInfo.subjectType = SubjectType.authorizationTicket
  publicKey : getPublicKey ctx ticket = .ok (some key)
  time : checkCertificateTime ticket moment.now = true
  region : checkCertificateRegion ctx.geod ticket moment.positionFix = true
  permits : ∃ permissions, assignPermissions ticket aidCa = some permissions

/-- **A CAM as the holder of the key signs it**, with the signer info. -/
structure Announced (ctx : Context) (moment : Moment) (key : EcdsaPublicKey) (message : SecuredMessage)
    (info : SignerInfo) : Prop where
  payload : message.payload.type = signedPayload
  itsAid : message.itsAid = some ⟨aidCa.toUInt64⟩
  signerInfo : message.signerInfo = some info
  generation : checkGenerationTime message moment.now = true
  signed : ∃ sig, message.signature = some sig ∧ ctx.verifyData key message.signedBytes sig = true

section Parts

open Serve

variable {ctx : Context} {moment : Moment} {key : EcdsaPublicKey} {message : SecuredMessage}
  {info : SignerInfo} {ticket : Certificate} {service mid : Service}

theorem Announced.isCa (announced : Announced ctx moment key message info) : isCa message = true :=
  decide_eq_true announced.itsAid

/-- **The signer is accepted** if nothing is found wrong with it. -/
theorem acceptSigner_valid (announced : Announced ctx moment key message info)
    (credible : Credible ctx moment key ticket) {fromCache : Bool}
    (validated : validate ctx moment fromCache ticket service = (.ok none, mid)) :
    ∃ permissions, acceptSigner ctx moment message aidCa fromCache ticket service =
      (.ok ⟨.success, aidCa, permissions, none, none⟩,
        { mid with cache := CertificateCache.insert ctx moment.now ticket mid.cache }) := by
  obtain ⟨permissions, assigned⟩ := credible.permits
  have located : checkGenerationLocation ctx.geod message ticket = true := if_pos announced.isCa
  refine ⟨permissions, ?_⟩
  unfold acceptSigner
  rw [if_neg fun other => other located, bind_of_ok validated]
  dsimp only
  rw [if_neg fun other => other credible.time, if_neg fun other => other credible.region, assigned]
  rfl

/-- **The authority is asked for** if it is not known. -/
theorem acceptSigner_unknown (announced : Announced ctx moment key message info) {fromCache : Bool}
    {authority : HashedId8} (signer : ticket.signerInfo = .certificateDigestWithSha256 authority)
    (validated : validate ctx moment fromCache ticket service = (.ok (some .unknownSigner), mid)) :
    ∃ rejection, acceptSigner ctx moment message aidCa fromCache ticket service =
      (.error (.rejection rejection),
        { mid with requests := mid.requests ++ [.unrecognizedCertificate authority] }) := by
  have located : checkGenerationLocation ctx.geod message ticket = true := if_pos announced.isCa
  refine ⟨⟨⟨.invalidCertificate, aidCa, [], some .unknownSigner, some authority⟩, nofun⟩, ?_⟩
  unfold acceptSigner
  rw [if_neg fun other => other located, bind_of_ok validated, signer]
  rfl

/-- The first candidate has signed the message. -/
theorem findSigner_head (credible : Credible ctx moment key ticket) {signedBytes : ByteBuffer}
    {sig : Signature} (verified : ctx.verifyData key signedBytes sig = true) (rest : List Certificate) :
    findSigner ctx aidCa signedBytes sig (ticket :: rest) service = (.ok (some ticket), service) := by
  have extracted : onCache (Action.lift (getPublicKey ctx ticket)) service = (.ok (some key), service) := by
    rw [credible.publicKey]
    rfl
  unfold findSigner
  rw [if_neg fun other => other credible.type, bind_of_ok extracted]
  dsimp only
  rw [if_pos verified]
  rfl

theorem verifyCandidates_head (announced : Announced ctx moment key message info)
    (credible : Credible ctx moment key ticket) {candidates : Candidates} {rest : List Certificate}
    (head : candidates.certificates = ticket :: rest) :
    verifyCandidates ctx moment message aidCa candidates service =
      acceptSigner ctx moment message aidCa candidates.fromCache ticket service := by
  obtain ⟨sig, there, verified⟩ := announced.signed
  unfold verifyCandidates
  rw [head, List.isEmpty_cons, if_neg Bool.false_ne_true, if_neg fun other => other announced.generation, there]
  dsimp only
  rw [bind_of_ok (findSigner_head credible verified rest)]

/-- What the service makes of the requests in the message. -/
def asking (ctx : Context) (now : ℕ) (message : SecuredMessage) (service : Service) : Service :=
  { service with requests := service.requests ++
      (message.requestUnrecognizedCertificate.getD []).flatMap (answers ctx now) }

/-- The body of the service, with the ITS-AID of a CAM. -/
theorem verifyMessage_announced (announced : Announced ctx moment key message info) :
    verifyMessage ctx moment message service =
      (possibleCertificates ctx moment aidCa (some info) >>= verifyCandidates ctx moment message aidCa)
        (asking ctx moment.now message service) := by
  unfold verifyMessage
  rw [if_neg fun other => other announced.payload, bind_of_ok (request_apply _ service),
    announced.itsAid, announced.signerInfo]
  rfl

/-- **The service reports a success**, and leaves the cache. -/
def Succeeds (ctx : Context) (moment : Moment) (message : SecuredMessage) (service : Service)
    (cache : CertificateCache) : Prop :=
  ∃ confirm, (verify ctx moment message service).1 = some confirm ∧ confirm.report = .success ∧
    (verify ctx moment message service).2.cache = cache

/-- **The service refuses the message**, leaves the cache and asks for a certificate. -/
def Refuses (ctx : Context) (moment : Moment) (message : SecuredMessage) (service : Service)
    (cache : CertificateCache) (wanted : HashedId8) : Prop :=
  ∃ confirm, (verify ctx moment message service).1 = some confirm ∧ confirm.report ≠ .success ∧
    (verify ctx moment message service).2.cache = cache ∧
      .unrecognizedCertificate wanted ∈ (verify ctx moment message service).2.requests

theorem succeeds_of_ok {confirm : VerifyConfirm} {after : Service}
    (ran : verifyMessage ctx moment message service = (.ok confirm, after))
    (success : confirm.report = .success) : Succeeds ctx moment message service after.cache := by
  unfold Succeeds verify
  rw [ran]
  exact ⟨confirm, rfl, success, rfl⟩

theorem refuses_of_rejection {rejection : Rejection} {after : Service} {wanted : HashedId8}
    (ran : verifyMessage ctx moment message service = (.error (.rejection rejection), after))
    (asked : .unrecognizedCertificate wanted ∈ after.requests) :
    Refuses ctx moment message service after.cache wanted := by
  unfold Refuses verify
  rw [ran]
  exact ⟨rejection.confirm, rfl, rejection.failed, rfl, asked⟩

end Parts

/-! ### The ends -/

section Ends

open Serve

variable {ctx : Context} {moment : Moment} {key : EcdsaPublicKey} {message : SecuredMessage}
  {ticket : Certificate} {service : Service}

/-- The one candidate, or the first of several, is accepted. -/
theorem succeeds_of_candidates {info : SignerInfo} (announced : Announced ctx moment key message info)
    (credible : Credible ctx moment key ticket) {candidates : Candidates} {rest : List Certificate}
    (head : candidates.certificates = ticket :: rest) {mid after : Service}
    (found : possibleCertificates ctx moment aidCa (some info) (asking ctx moment.now message service) =
      (.ok candidates, mid))
    (validated : validate ctx moment candidates.fromCache ticket mid = (.ok none, after)) :
    Succeeds ctx moment message service (CertificateCache.insert ctx moment.now ticket after.cache) := by
  obtain ⟨permissions, accepted⟩ := acceptSigner_valid announced credible validated
  have ran : verifyMessage ctx moment message service = (.ok ⟨.success, aidCa, permissions, none, none⟩,
      { after with cache := CertificateCache.insert ctx moment.now ticket after.cache }) := by
    rw [verifyMessage_announced announced, bind_of_ok found,
      verifyCandidates_head announced credible head]
    exact accepted
  exact succeeds_of_ok ran rfl

/-- **A digest of a known ticket.** -/
theorem verify_digest_known {id : HashedId8} {rest : List Certificate}
    (announced : Announced ctx moment key message (.certificateDigestWithSha256 id))
    (found : (CertificateCache.lookup moment.now id SubjectType.authorizationTicket service.cache).1 =
      ticket :: rest)
    (credible : Credible ctx moment key ticket) :
    Succeeds ctx moment message service (CertificateCache.insert ctx moment.now ticket
      (CertificateCache.lookup moment.now id SubjectType.authorizationTicket service.cache).2) := by
  have looked : possibleCertificates ctx moment aidCa (some (.certificateDigestWithSha256 id))
      (asking ctx moment.now message service) = (.ok ⟨ticket :: rest, true, id⟩,
        { asking ctx moment.now message service with
          cache := (CertificateCache.lookup moment.now id SubjectType.authorizationTicket
            service.cache).2 }) := by
    rw [← found]
    rfl
  exact succeeds_of_candidates announced credible rfl looked rfl

/-- **A digest of a ticket that is not known.** -/
theorem verify_digest_unknown {id : HashedId8}
    (announced : Announced ctx moment key message (.certificateDigestWithSha256 id))
    (missing : (CertificateCache.lookup moment.now id SubjectType.authorizationTicket service.cache).1 =
      []) :
    Refuses ctx moment message service
      (CertificateCache.lookup moment.now id SubjectType.authorizationTicket service.cache).2 id := by
  have found : possibleCertificates ctx moment aidCa (some (.certificateDigestWithSha256 id))
      (asking ctx moment.now message service) = (.ok ⟨[], true, id⟩,
        { asking ctx moment.now message service with
          cache := (CertificateCache.lookup moment.now id SubjectType.authorizationTicket
            service.cache).2 }) := by
    rw [← missing]
    rfl
  have ran : verifyMessage ctx moment message service =
      (.error (.rejection ⟨⟨.signerCertificateNotFound, aidCa, [], none, some id⟩, nofun⟩),
        ⟨(CertificateCache.lookup moment.now id SubjectType.authorizationTicket service.cache).2,
          (asking ctx moment.now message service).requests ++ [.unrecognizedCertificate id]⟩) := by
    rw [verifyMessage_announced announced, bind_of_ok found]
    rfl
  exact refuses_of_rejection ran (List.mem_append_right _ (List.mem_singleton.mpr rfl))

/-- What the service looks up of a ticket that comes with the message. -/
def greeted (ctx : Context) (now : ℕ) (ticket : Certificate) (cache : CertificateCache) : CertificateCache :=
  (CertificateCache.lookup now (calculateHash ctx.sha256 ticket) SubjectType.authorizationTicket cache).2

theorem possibleCertificates_certificate : ∃ more, possibleCertificates ctx moment aidCa
    (some (.certificate ticket)) (asking ctx moment.now message service) =
      (.ok ⟨[ticket], false, calculateHash ctx.sha256 ticket⟩,
        ⟨greeted ctx moment.now ticket service.cache,
          (asking ctx moment.now message service).requests ++ more⟩) :=
  ⟨_, rfl⟩

theorem validate_received {cache after : CertificateCache}
    {requests : List PolicyRequest} {validity : CertificateValidity}
    (checked : checkCertificate ctx moment.now ticket cache = (.ok validity, after)) :
    validate ctx moment false ticket ⟨cache, requests⟩ = (.ok validity, ⟨after, requests⟩) := by
  unfold validate
  rw [if_neg Bool.false_ne_true]
  unfold onCache
  rw [checked]

/-- **A ticket that is valid.** -/
theorem verify_certificate_valid {after : CertificateCache}
    (announced : Announced ctx moment key message (.certificate ticket))
    (credible : Credible ctx moment key ticket)
    (checked : checkCertificate ctx moment.now ticket (greeted ctx moment.now ticket service.cache) =
      (.ok none, after)) :
    Succeeds ctx moment message service (CertificateCache.insert ctx moment.now ticket after) := by
  obtain ⟨more, found⟩ := @possibleCertificates_certificate ctx moment message ticket service
  exact succeeds_of_candidates announced credible rfl found (validate_received checked)

/-- **A ticket of an authority that is not known.** -/
theorem verify_certificate_unknown {after : CertificateCache} {authority : HashedId8}
    (announced : Announced ctx moment key message (.certificate ticket))
    (credible : Credible ctx moment key ticket)
    (signer : ticket.signerInfo = .certificateDigestWithSha256 authority)
    (checked : checkCertificate ctx moment.now ticket (greeted ctx moment.now ticket service.cache) =
      (.ok (some .unknownSigner), after)) :
    Refuses ctx moment message service after authority := by
  obtain ⟨more, found⟩ := @possibleCertificates_certificate ctx moment message ticket service
  obtain ⟨rejection, refused⟩ := acceptSigner_unknown announced signer (validate_received checked)
  have ran := @verifyMessage_announced ctx moment key message _ service announced
  rw [bind_of_ok found, verifyCandidates_head announced credible rfl, refused] at ran
  exact refuses_of_rejection ran (List.mem_append_right _ (List.mem_singleton.mpr rfl))

/-- **A ticket with its authority**, which a trusted root has issued. -/
theorem verify_chain {authority : Certificate} {after : CertificateCache}
    (announced : Announced ctx moment key message (.certificateChain [authority, ticket]))
    (credible : Credible ctx moment key ticket)
    (type : authority.subjectInfo.subjectType = SubjectType.authorizationAuthority)
    (rooted : checkCertificate ctx moment.now authority service.cache = (.ok none, service.cache))
    (time : checkCertificateTime authority moment.now = true)
    (region : checkCertificateRegion ctx.geod authority moment.positionFix = true)
    (checked : checkCertificate ctx moment.now ticket
      (CertificateCache.insert ctx moment.now authority service.cache) = (.ok none, after)) :
    Succeeds ctx moment message service (CertificateCache.insert ctx moment.now ticket after) := by
  have other : ticket.subjectInfo.subjectType ≠ SubjectType.authorizationAuthority := by
    rw [credible.type]
    decide
  have validated : onCache (checkCertificate ctx moment.now authority)
      (asking ctx moment.now message service) =
        (.ok none, asking ctx moment.now message service) := by
    have same : (asking ctx moment.now message service).cache = service.cache := rfl
    unfold onCache
    rw [same, rooted]
    rfl
  have prechecked : precheck ctx moment aidCa authority (asking ctx moment.now message service) =
      (.ok (), { asking ctx moment.now message service with
        cache := CertificateCache.insert ctx moment.now authority service.cache }) := by
    unfold precheck
    rw [if_pos type, bind_of_ok validated, if_neg fun invalid => invalid rfl,
      if_neg fun wrong => wrong ⟨time, region⟩]
    rfl
  have found : possibleCertificates ctx moment aidCa (some (.certificateChain [authority, ticket]))
      (asking ctx moment.now message service) =
        (.ok ⟨[ticket], false, calculateHash ctx.sha256 ticket⟩,
          { asking ctx moment.now message service with
            cache := CertificateCache.insert ctx moment.now authority service.cache }) := by
    have chained : precheckChain ctx moment aidCa [authority, ticket]
        (asking ctx moment.now message service) =
          (.ok (), { asking ctx moment.now message service with
            cache := CertificateCache.insert ctx moment.now authority service.cache }) := by
      unfold precheckChain
      rw [bind_of_ok prechecked]
      unfold precheckChain precheck
      rw [if_neg other]
      rfl
    show (precheckChain ctx moment aidCa [authority, ticket] >>= _) _ = _
    rw [bind_of_ok chained]
    rfl
  exact succeeds_of_candidates announced credible rfl found (validate_received checked)

end Ends

/-! ### The CAM of an entity -/

namespace Installation

variable {κ : Type} (installation : Installation κ) (now : ℕ) (position : HeaderPosition)
  (payload : ByteBuffer) (entity : Entity)

/-- The signer info of the CAM that is due. -/
abbrev camSigner : SignerInfo × ℤ :=
  entity.policy.camSigner installation.ctx.sha256 now (installation.own now)

theorem headerFields_cam :
    (installation.encapsulatePacket now position payload aidCa entity).1.headerFields =
      .signerInfo (installation.camSigner now entity).1 :: .generationTime (convertTime64 now) ::
        entity.policy.unknownField ++ [.itsAid ⟨aidCa.toUInt64⟩] :=
  congrArg Prod.fst (entity.policy.prepareHeader_cam installation.ctx.sha256 now _ position rfl)

/-- A CAM answers what has been asked for, and asks for what is not known. -/
theorem entity_cam : (installation.encapsulatePacket now position payload aidCa entity).2 =
    { entity with policy := ⟨(installation.camSigner now entity).2, [], false, false⟩ } := by
  have prepared := entity.policy.prepareHeader_cam installation.ctx.sha256 now
    (installation.own now) position (rfl : (⟨payload, aidCa, []⟩ : SignRequest).itsAid = aidCa)
  unfold encapsulatePacket
  dsimp only
  rw [prepared]

theorem asks_cam : (installation.encapsulatePacket now position payload aidCa
    entity).1.requestUnrecognizedCertificate.getD [] = entity.policy.unknownCertificates := by
  unfold SecuredMessage.requestUnrecognizedCertificate
  rw [headerFields_cam]
  unfold DefaultSignHeaderPolicy.unknownField
  cases entity.policy.unknownCertificates with
  | nil => rfl
  | cons id ids => rfl

/-- **The bytes that a receiver verifies are those that have been signed.** -/
theorem signedBytes_cam
    (standard : ∀ bytes, ∃ x, (installation.signData installation.ownPrivateKey bytes).R = .xCoordinateOnly x) :
    ∃ bytes, (installation.encapsulatePacket now position payload aidCa entity).1.signedBytes = bytes ∧
      (installation.encapsulatePacket now position payload aidCa entity).1.signature =
        some (installation.signData installation.ownPrivateKey bytes) := by
  let signing := installation.signing now position entity.policy
  refine ⟨signing.dataBuffer ⟨payload, aidCa, []⟩, ?_, rfl⟩
  obtain ⟨x, point⟩ : ∃ x, (signing.signature ⟨payload, aidCa, []⟩).R = .xCoordinateOnly x :=
    standard (signing.dataBuffer ⟨payload, aidCa, []⟩)
  have size : listSize TrailerField.getSize [.signature (signing.signature ⟨payload, aidCa, []⟩)] =
      listSize TrailerField.getSize [.signature signaturePlaceholder] := by
    show 1 + Signature.getSize (signing.signature ⟨payload, aidCa, []⟩) + 0 =
      1 + Signature.getSize signaturePlaceholder + 0
    rw [placeholder_size]
    unfold Signature.getSize
    rw [xCoordinateOnly_size point]
  show SecuredMessage.convertForSigning _ [.signature (signing.signature ⟨payload, aidCa, []⟩)] = _
  unfold Signing.dataBuffer SecuredMessage.convertForSigning
  rw [size]
  rfl

end Installation

/-- **A station announces itself with its CAMs**, after the first two seconds of the epoch. -/
theorem announced_cam {κ : Type} {installation : Installation κ} {ctx : Context} {key : EcdsaPublicKey}
    (verifies : ∀ bytes, ctx.verifyData key bytes
      (installation.signData installation.ownPrivateKey bytes) = true)
    (standard : ∀ bytes, ∃ x, (installation.signData installation.ownPrivateKey bytes).R = .xCoordinateOnly x)
    (moment : Moment) (late : seconds 2 ≤ moment.now) (position : HeaderPosition) (payload : ByteBuffer)
    (entity : Entity) :
    Announced ctx moment key (installation.encapsulatePacket moment.now position payload aidCa entity).1
      (installation.camSigner moment.now entity).1 := by
  have fields := installation.headerFields_cam moment.now position payload entity
  have aid : (installation.encapsulatePacket moment.now position payload aidCa entity).1.itsAid =
      some ⟨aidCa.toUInt64⟩ := by
    unfold SecuredMessage.itsAid
    rw [fields]
    unfold DefaultSignHeaderPolicy.unknownField
    split_ifs <;> rfl
  have time : (installation.encapsulatePacket moment.now position payload aidCa entity).1.generationTime =
      some (convertTime64 moment.now) := by
    unfold SecuredMessage.generationTime
    rw [fields]
    rfl
  obtain ⟨bytes, signed, sig⟩ := installation.signedBytes_cam moment.now position payload entity standard
  refine ⟨rfl, aid, ?_, ?_, _, sig, ?_⟩
  · unfold SecuredMessage.signerInfo
    rw [fields]
    rfl
  · have small := moment.now_lt
    have past : generationTimePast
        (installation.encapsulatePacket moment.now position payload aidCa entity).1 = seconds 2 :=
      if_pos (decide_eq_true aid)
    rw [checkGenerationTime_iff time (by omega), past, convertTime64_toNat]
    unfold seconds at *
    omega
  · rw [signed]
    exact verifies bytes

end Vanet.Security
