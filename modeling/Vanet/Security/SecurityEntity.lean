/-
**`DelegatingSecurityEntity`: a station that signs and verifies.**

The sign service and the verify service of a station share its sign header policy and its certificate cache.
`encapsulatePacket` signs with `straight_sign_service`, `decapsulatePacket` verifies with
`straight_verify_service` and hands what the service asks of the policy to the policy.

* `verify_keeps`: what lookups and insertions keep of the cache is kept by the whole service.
* `verify_asks`: the service asks the policy at least for what the message asks for.
-/

import Vanet.Security.SignHeaderPolicy
import Vanet.Security.Soundness

namespace Vanet.Security

open Vanet.Library Vanet.Library.Action

/-! ### The entity -/

/-- A message as its receiver sees it: a future has been resolved by then. -/
def SentMessage.resolve (message : SentMessage) : SecuredMessage where
  headerFields := message.headerFields
  payload := message.payload
  trailerFields := message.trailerFields.map fun
    | .signature (.ecdsa sig) => .signature sig
    | .signature (.future sig) => .signature sig.signature

/-- **What an entity is built on**: besides the context of the verify service, the private key and the
signing half of the backend. -/
structure Installation (κ : Type) where
  ctx : Context
  ownPrivateKey : κ
  signData : κ → ByteBuffer → EcdsaSignature

/-- What the services of a station share. -/
structure Entity where
  policy : DefaultSignHeaderPolicy
  cache : CertificateCache

structure DecapConfirm where
  plaintextPayload : ByteBuffer
  report : VerificationReport
  certificateValidity : CertificateValidity
  itsAid : UInt32
  permissions : ByteBuffer
  deriving DecidableEq

namespace Installation

variable {κ : Type} (installation : Installation κ)

/-- What the certificate provider has at a time. -/
def own (now : ℕ) : OwnCertificates :=
  ⟨installation.ctx.ownCertificate now, installation.ctx.ownChain now⟩

/-- The sign service at a time, with the headers of the policy. -/
def signing (now : ℕ) (position : HeaderPosition) (policy : DefaultSignHeaderPolicy) : Signing κ where
  prepareHeader request :=
    (policy.prepareHeader installation.ctx.sha256 now request (installation.own now) position).1
  ownPrivateKey := installation.ownPrivateKey
  signData := installation.signData

/-- **`encapsulate_packet`**, and the entity it leaves. -/
def encapsulatePacket (now : ℕ) (position : HeaderPosition) (plaintextPayload : ByteBuffer)
    (itsAid : UInt32) (entity : Entity) : SecuredMessage × Entity :=
  let request : SignRequest := ⟨plaintextPayload, itsAid, []⟩
  (((installation.signing now position entity.policy).straightSignService request).resolve,
    { entity with
      policy := (entity.policy.prepareHeader installation.ctx.sha256 now request
        (installation.own now) position).2 })

/-- **`decapsulate_packet`**: nothing is returned if an exception escapes. -/
def decapsulatePacket (moment : Moment) (message : SecuredMessage) (entity : Entity) :
    Option DecapConfirm × Entity :=
  let served := verify installation.ctx moment message ⟨entity.cache, []⟩
  (served.1.map fun confirm => ⟨message.payload.data, confirm.report, confirm.certificateValidity,
      confirm.itsAid, confirm.permissions⟩,
    ⟨served.2.requests.foldl .ask entity.policy, served.2.cache⟩)

end Installation

/-! ### What the service does to its state -/

section State

open Serve

variable {ctx : Context} {moment : Moment} {itsAid : UInt32}

/-- **What lookups and insertions keep.** Certificates that were brought along, or that were there
already, are inserted. -/
structure Kept (ctx : Context) (now : ℕ) (brought : Certificate → Prop) (P : CertificateCache → Prop) :
    Prop where
  looked : ∀ id type cache, P cache → P (CertificateCache.lookup now id type cache).2
  inserted : ∀ cert cache, brought cert → P cache → P (CertificateCache.insert ctx now cert cache)

variable {brought : Certificate → Prop} {P : CertificateCache → Prop}

/-- The predicate holds of the service's cache. -/
abbrev OfCache (P : CertificateCache → Prop) (service : Service) : Prop := P service.cache

namespace Kept

variable (kept : Kept ctx moment.now brought P)
include kept

theorem checkCertificate (cert : Certificate) :
    Keeps P (checkCertificate ctx moment.now cert) := by
  have invalid (validity : CertificateValidity) :
      Keeps P (pure validity : Action CertificateCache Thrown CertificateValidity) :=
    .pure fun _ => id
  refine .ite (fun _ => invalid _) fun _ => .ite (fun _ => invalid _) fun _ => ?_
  refine .ite (fun _ => invalid _) fun _ => ?_
  split
  next signerHash =>
    refine .ite (fun _ => ?_) fun _ => .ite (fun _ => ?_) fun _ => invalid _
    · refine .bind (Q := fun _ => P) (.update fun cache holds => kept.looked _ _ cache holds) fun _ => ?_
      exact .lift (fun _ _ _ => id) fun _ => id
    · exact .lift (fun _ _ _ => id) fun _ => id
  next => exact invalid _

theorem insert {cert : Certificate} (came : brought cert) :
    Keeps (OfCache P) (Security.insert ctx moment.now cert) :=
  onCache_ensures (.update fun cache holds => kept.inserted cert cache came holds)

theorem precheckChain {chain : List Certificate} (came : ∀ cert ∈ chain, brought cert) :
    Keeps (OfCache P) (precheckChain ctx moment itsAid chain) := by
  induction chain with
  | nil => exact .pure fun _ => id
  | cons cert rest ih =>
    refine .bind ?_ fun _ => ih fun other member => came other (List.mem_cons_of_mem cert member)
    refine .ite (fun _ => ?_) fun _ => .pure fun _ => id
    refine .bind (onCache_ensures (kept.checkCertificate cert)) fun validity => ?_
    refine .ite (fun _ => .fail fun _ => id) fun _ => .ite (fun _ => .fail fun _ => id) fun _ => ?_
    exact kept.insert (came cert List.mem_cons_self)

theorem lookup (id : HashedId8) (type : SubjectType) :
    Keeps (OfCache P) (Security.lookup moment.now id type) :=
  onCache_ensures (.update fun cache holds => kept.looked id type cache holds)

theorem acceptSigner {message : SecuredMessage} {fromCache : Bool} {signer : Certificate}
    (came : brought signer) :
    Keeps (OfCache P) (acceptSigner ctx moment message itsAid fromCache signer) := by
  refine .ite (fun _ => .fail fun _ => id) fun _ => .bind (Q := fun _ => OfCache P) ?_ fun validity => ?_
  · exact .ite (fun _ => .pure fun _ => id) fun _ => onCache_ensures (kept.checkCertificate signer)
  · split
    next => exact .bind (Q := fun _ => OfCache P) (.update fun _ => id) fun _ => .fail fun _ => id
    next => exact .fail fun _ => id
    next =>
      refine .ite (fun _ => .fail fun _ => id) fun _ => .ite (fun _ => .fail fun _ => id) fun _ => ?_
      split
      next => exact .fail fun _ => id
      next => exact .bind (kept.insert came) fun _ => .pure fun _ => id

omit kept in
/-- The signer is one of the candidates. -/
theorem findSigner {signedBytes : ByteBuffer} {sig : Signature} (certificates : List Certificate) :
    Ensures (OfCache P) (findSigner ctx itsAid signedBytes sig certificates)
      (fun signer service => P service.cache ∧ ∀ cert, signer = some cert → cert ∈ certificates)
      (OfCache P) := by
  induction certificates with
  | nil => exact .pure fun _ holds => ⟨holds, nofun⟩
  | cons cert rest ih =>
    refine .ite (fun _ => .fail fun _ => id) fun _ => ?_
    refine .bind (Q := fun _ => OfCache P) (onCache_ensures (.lift (fun _ _ _ => id) fun _ => id)) ?_
    intro publicKey
    cases publicKey with
    | none => exact .fail fun _ => id
    | some key =>
      refine .ite (fun _ => .pure fun _ holds => ⟨holds, ?_⟩) fun _ => .mono ih (fun _ => id) ?_
      · rintro _ ⟨⟩
        exact List.mem_cons_self
      · exact fun _ _ ⟨holds, found⟩ =>
          ⟨holds, fun other same => List.mem_cons_of_mem cert (found other same)⟩

theorem verifyCandidates {message : SecuredMessage} {candidates : Candidates}
    (came : ∀ cert ∈ candidates.certificates, brought cert) :
    Keeps (OfCache P) (verifyCandidates ctx moment message itsAid candidates) := by
  refine .ite (fun _ => ?_) fun _ => .ite (fun _ => .fail fun _ => id) fun _ => ?_
  · exact .bind (Q := fun _ => OfCache P) (.update fun _ => id) fun _ => .fail fun _ => id
  · split
    next => exact .fail fun _ => id
    next sig _ =>
      refine .bind (Kept.findSigner _) fun signer => ?_
      cases signer with
      | none =>
        refine .bind (Q := fun _ => OfCache P) (.update fun _ => And.left) fun _ => ?_
        exact .ite (fun _ => .fail fun _ => id) fun _ => .fail fun _ => id
      | some signer =>
        refine .given (fun _ found => found.2 signer rfl) fun member => ?_
        exact .mono (kept.acceptSigner (came signer member)) (fun _ => And.left) fun _ _ => id

/-- The candidates were brought along, or they are in the cache. -/
theorem possibleCertificates {message : SecuredMessage} {cached : CertificateCache}
    (came : ∀ cert, CameWith message cert ∨ cert ∈ cached.certificates → brought cert)
    (begins : P cached) :
    Ensures (fun service => service.cache = cached)
      (possibleCertificates ctx moment itsAid message.signerInfo)
      (fun candidates service => P service.cache ∧ ∀ cert ∈ candidates.certificates, brought cert)
      (OfCache P) := by
  have holds : ∀ service : Service, service.cache = cached → P service.cache := by
    rintro service rfl
    exact begins
  cases announced : message.signerInfo with
  | none => exact .pure fun service same => ⟨holds service same, nofun⟩
  | some info =>
    cases info with
    | self => exact .fail holds
    | certificateDigestWithOtherAlgorithm => exact .fail holds
    | certificate cert =>
      have greets : Ensures (fun service => service.cache = cached)
          (greet moment.now itsAid (calculateHash ctx.sha256 cert)) (fun _ => OfCache P) (OfCache P) := by
        refine .ite (fun _ => .bind (Q := fun _ => OfCache P) ?_ fun _ => .update fun _ => id) fun _ =>
          .pure holds
        exact .mono (kept.lookup _ _) holds fun _ _ => id
      refine .bind greets fun _ => .pure fun service kept => ⟨kept, fun other member => ?_⟩
      rw [List.mem_singleton.mp member]
      exact came cert (.inl (.inl announced))
    | certificateDigestWithSha256 signerHash =>
      refine .bind (Q := fun found service => P service.cache ∧ ∀ cert ∈ found, brought cert) ?_
        fun found => .pure fun _ => id
      rintro service rfl
      exact ⟨kept.looked _ _ _ begins,
        fun cert member => came cert (.inr (CertificateCache.mem_lookup member).1)⟩
    | certificateChain chain =>
      unfold Security.possibleCertificates
      simp only
      split
      next => exact .fail holds
      next ticket last =>
        refine .ite (fun _ => .fail holds) fun _ => ?_
        have chained : ∀ cert ∈ chain, brought cert :=
          fun cert member => came cert (.inl (.inr ⟨chain, announced, member⟩))
        refine .bind (.mono (kept.precheckChain chained) holds fun _ _ => id) fun _ => ?_
        refine .pure fun service kept => ⟨kept, fun other member => ?_⟩
        rw [List.mem_singleton.mp member]
        exact chained ticket (List.mem_of_getLast? last)

end Kept

/-- **What lookups and insertions keep is kept by the service**, however it ends. -/
theorem verify_keeps {message : SecuredMessage} {service : Service}
    (kept : Kept ctx moment.now brought P)
    (came : ∀ cert, CameWith message cert ∨ cert ∈ service.cache.certificates → brought cert)
    (begins : P service.cache) : P (verify ctx moment message service).2.cache := by
  have holds : ∀ other : Service, other.cache = service.cache → P other.cache := by
    intro other same
    rw [same]
    exact begins
  have keeps : Ensures (fun other => other.cache = service.cache) (verifyMessage ctx moment message)
      (fun _ => OfCache P) (OfCache P) := by
    refine .ite (fun _ => .fail holds) fun _ => ?_
    refine .bind (Q := fun _ other => other.cache = service.cache) (.update fun _ => id) fun _ => ?_
    split
    next => exact .fail holds
    next itsAid _ =>
      refine .bind (kept.possibleCertificates came begins) fun candidates => ?_
      refine .given (fun _ => And.right) fun found => ?_
      exact .mono (kept.verifyCandidates found) (fun _ => And.left) fun _ _ => id
  have result := keeps.after (rfl : service.cache = service.cache)
  unfold verify
  rcases ran : verifyMessage ctx moment message service with ⟨exit | confirm, after⟩
  · rw [ran] at result
    cases exit with
    | thrown => exact result
    | rejection => exact result
  · rw [ran] at result
    exact result

/-! ### What the policy is asked for -/

/-- No request is taken back. -/
def Asks (before after : Service) : Prop := before.requests <+: after.requests

instance : IsPreorder Service Asks where
  refl _ := List.prefix_rfl
  trans _ _ _ := List.IsPrefix.trans

theorem onCache_asks {α : Type} {act : Action CertificateCache Thrown α} : Moves Asks (onCache act) := by
  intro service
  unfold onCache
  rcases act service.cache with ⟨_ | _, _⟩ <;> exact List.prefix_rfl

theorem request_apply (asked : List PolicyRequest) (service : Service) :
    request asked service = (.ok (), { service with requests := service.requests ++ asked }) :=
  rfl

theorem request_asks (asked : List PolicyRequest) : Moves Asks (request asked) :=
  .update fun _ => List.prefix_append _ _

theorem precheckChain_asks (chain : List Certificate) :
    Moves Asks (precheckChain ctx moment itsAid chain) := by
  induction chain with
  | nil => exact .pure _
  | cons cert rest ih =>
    refine .bind (.ite (fun _ => .bind onCache_asks fun _ => ?_) fun _ => .pure _) fun _ => ih
    exact .ite (fun _ => .fail _) fun _ => .ite (fun _ => .fail _) fun _ => onCache_asks

theorem findSigner_asks {signedBytes : ByteBuffer} {sig : Signature} (certificates : List Certificate) :
    Moves Asks (findSigner ctx itsAid signedBytes sig certificates) := by
  induction certificates with
  | nil => exact .pure _
  | cons cert rest ih =>
    refine .ite (fun _ => .fail _) fun _ => .bind onCache_asks fun publicKey => ?_
    cases publicKey with
    | none => exact .fail _
    | some key => exact .ite (fun _ => .pure _) fun _ => ih

theorem acceptSigner_asks {message : SecuredMessage} {fromCache : Bool} (signer : Certificate) :
    Moves Asks (acceptSigner ctx moment message itsAid fromCache signer) := by
  refine .ite (fun _ => .fail _) fun _ => .bind ?_ fun validity => ?_
  · exact .ite (fun _ => .pure _) fun _ => onCache_asks
  · split
    next => exact .bind (request_asks _) fun _ => .fail _
    next => exact .fail _
    next =>
      refine .ite (fun _ => .fail _) fun _ => .ite (fun _ => .fail _) fun _ => ?_
      split
      next => exact .fail _
      next => exact .bind onCache_asks fun _ => .pure _

theorem verifyCandidates_asks {message : SecuredMessage} (candidates : Candidates) :
    Moves Asks (verifyCandidates ctx moment message itsAid candidates) := by
  refine .ite (fun _ => .bind (request_asks _) fun _ => .fail _) fun _ => .ite (fun _ => .fail _) fun _ => ?_
  split
  next => exact .fail _
  next =>
    refine .bind (findSigner_asks _) fun signer => ?_
    cases signer with
    | none => exact .bind (request_asks _) fun _ => .ite (fun _ => .fail _) fun _ => .fail _
    | some signer => exact acceptSigner_asks signer

theorem possibleCertificates_asks (info : Option SignerInfo) :
    Moves Asks (possibleCertificates ctx moment itsAid info) := by
  cases info with
  | none => exact .pure _
  | some info =>
    cases info with
    | self => exact .fail _
    | certificateDigestWithOtherAlgorithm => exact .fail _
    | certificate cert =>
      refine .bind (.ite (fun _ => ?_) fun _ => .pure _) fun _ => .pure _
      exact .bind onCache_asks fun _ => request_asks _
    | certificateDigestWithSha256 signerHash => exact .bind onCache_asks fun _ => .pure _
    | certificateChain chain =>
      unfold possibleCertificates
      dsimp only
      split
      next => exact .fail _
      next => exact .ite (fun _ => .fail _) fun _ => .bind (precheckChain_asks chain) fun _ => .pure _

/-- **The policy is asked for what the message asks for**, whatever else is the matter with a message with a
signed payload. -/
theorem verify_asks {message : SecuredMessage} {service : Service}
    (signed : message.payload.type = signedPayload) :
    service.requests ++
        (message.requestUnrecognizedCertificate.getD []).flatMap (answers ctx moment.now) <+:
      (verify ctx moment message service).2.requests := by
  have after : (verify ctx moment message service).2 = (verifyMessage ctx moment message service).2 := by
    unfold verify
    rcases verifyMessage ctx moment message service with ⟨exit | confirm, after⟩
    · cases exit <;> rfl
    · rfl
  rw [after]
  unfold verifyMessage
  rw [if_neg fun other => other signed, bind_of_ok (request_apply _ service)]
  cases message.itsAid with
  | none => exact List.prefix_rfl
  | some itsAid =>
    have rest : Moves Asks (possibleCertificates ctx moment itsAid.value.toUInt32 message.signerInfo >>=
        verifyCandidates ctx moment message itsAid.value.toUInt32) :=
      .bind (possibleCertificates_asks _) fun candidates => verifyCandidates_asks candidates
    exact rest ⟨service.cache, _⟩

end State

end Vanet.Security
