/-
**CAMs between two stations.**

A station sends its certificate with a CAM about once a second, and a digest of it with the others. Another station
that does not know the certificate, or the authority that has issued it, asks for it in the header of its own next
CAM: then the first one sends the certificate, or its chain. `Exchange` is this protocol, with the CAMs of an
announcer and of a listener in any order. In between, both may receive anything else that exists, from other
stations or from nobody knows whom, but for certificates that collide with those of the announcer. No CAM between
the two is lost, and the announcer sends one every two seconds at least, as long as a ticket stays in the cache.

* `Heeds`: what a reception does to the sign header policy.
* `hear_chain`, `hear_certificate`, `hear_digest`: the CAMs of the announcer.
* `announce_facts`: every one has an end, and it is one of `Ending`.

`refused` counts the CAMs of the announcer that are refused although the listener has sent one since the last one,
and `answered` says whether it has; the code has no such members.
-/

import Vanet.Security.Recognition

namespace Vanet.Security

open Vanet.Library

/-! ### The protocol -/

/-- The two stations, and what has happened. -/
structure Exchange where
  announcer : Entity
  listener : Entity
  clock : ℕ
  heardAt : Option ℕ
  answered : Bool
  refused : ℕ

/-- What happens, at a moment of the station that receives something. -/
inductive Happening
  | announce (moment : Moment) (position : HeaderPosition) (payload : ByteBuffer)
  | answer (moment : Moment) (position : HeaderPosition) (payload : ByteBuffer)
  | overhear (moment : Moment) (message : SecuredMessage)
  | distract (moment : Moment) (message : SecuredMessage)

def Happening.moment : Happening → Moment
  | announce moment _ _ => moment
  | answer moment _ _ => moment
  | overhear moment _ => moment
  | distract moment _ => moment

namespace Exchange

section Step

variable {κ : Type} (announcer listener : Installation κ)

/-- The CAM of the announcer, and the announcer after it. -/
def announced (exchange : Exchange) (moment : Moment) (position : HeaderPosition) (payload : ByteBuffer) :
    SecuredMessage × Entity :=
  announcer.encapsulatePacket moment.now position payload aidCa exchange.announcer

/-- What the listener makes of it. -/
def heard (exchange : Exchange) (moment : Moment) (position : HeaderPosition) (payload : ByteBuffer) :
    Option DecapConfirm × Entity :=
  listener.decapsulatePacket moment (exchange.announced announcer moment position payload).1
    exchange.listener

/-- The stations after a CAM of the announcer that the listener has answered for. -/
def hear (exchange : Exchange) (moment : Moment) (position : HeaderPosition) (payload : ByteBuffer)
    (confirm : DecapConfirm) : Exchange where
  announcer := (exchange.announced announcer moment position payload).2
  listener := (exchange.heard announcer listener moment position payload).2
  clock := moment.now
  heardAt := some moment.now
  answered := false
  refused :=
    if exchange.answered ∧ confirm.report ≠ .success then exchange.refused + 1 else exchange.refused

/-- **One happening.** The run ends where an exception escapes. -/
def step (exchange : Exchange) (happening : Happening) : Option Exchange :=
  if exchange.clock ≤ happening.moment.now then
    match happening with
    | .announce moment position payload =>
      (exchange.heard announcer listener moment position payload).1.map
        (exchange.hear announcer listener moment position payload)
    | .answer moment position payload =>
      let sent := listener.encapsulatePacket moment.now position payload aidCa exchange.listener
      let received := announcer.decapsulatePacket moment sent.1 exchange.announcer
      received.1.map fun _ => { exchange with
        announcer := received.2
        listener := sent.2
        clock := moment.now
        answered := true }
    | .overhear moment message =>
      let received := listener.decapsulatePacket moment message exchange.listener
      received.1.map fun _ => { exchange with listener := received.2, clock := moment.now }
    | .distract moment message =>
      let received := announcer.decapsulatePacket moment message exchange.announcer
      received.1.map fun _ => { exchange with announcer := received.2, clock := moment.now }
  else none

end Step

section Condition

variable (listener : Context) (ticket authority : Certificate)

/-- The certificates are in force where the listener is. -/
structure InForce (moment : Moment) (cert : Certificate) : Prop where
  time : checkCertificateTime cert moment.now = true
  region : checkCertificateRegion listener.geod cert moment.positionFix = true

/-- **The condition of a run**: the announcer's CAMs come soon enough and while its certificates are in force, not
in the first two seconds of the epoch, and nothing that the listener receives has certificates that collide with
them. -/
def Meets (exchange : Exchange) : Happening → Prop
  | .announce moment _ _ => seconds 2 ≤ moment.now ∧
      (∀ last, exchange.heardAt = some last → moment.now ≤ last + seconds 2) ∧
      InForce listener moment ticket ∧ InForce listener moment authority
  | .overhear _ message => ∀ cert, CameWith message cert →
      Unmistaken listener.sha256 ticket cert ∧ Unmistaken listener.sha256 authority cert
  | _ => True

/-- The cache has no collisions with the announcer's certificates. -/
def Clear (cache : CertificateCache) : Prop :=
  cache.Orderly listener.sha256 ticket ∧ cache.Orderly listener.sha256 authority

/-- **Any two stations**: the policies and the caches are whatever they have become. -/
structure Begins (exchange : Exchange) : Prop where
  clear : Clear listener ticket authority exchange.listener.cache
  unheard : exchange.heardAt = none
  unrefused : exchange.refused = 0

end Condition

end Exchange

/-! ### What requests do to a policy -/

/-- **The policy heeds the requests**: it forgets none, and the time of the next certificate stays. -/
structure Heeds (requests : List PolicyRequest) (before after : DefaultSignHeaderPolicy) : Prop where
  next : after.camNextCertificate = before.camNextCertificate
  certificate : before.certRequested = true ∨ .certificate ∈ requests → after.certRequested = true
  chain : before.chainRequested = true ∨ .certificateChain ∈ requests → after.chainRequested = true
  unknown : ∀ id, id ∈ before.unknownCertificates ∨
    (∃ hash, .unrecognizedCertificate hash ∈ requests ∧ truncate hash = id) → id ∈ after.unknownCertificates

theorem heeds_foldl (requests : List PolicyRequest) : ∀ policy : DefaultSignHeaderPolicy,
    Heeds requests policy (requests.foldl .ask policy) := by
  induction requests with
  | nil => exact fun policy => ⟨rfl, by simp, by simp, by simp⟩
  | cons request rest ih =>
    intro policy
    obtain ⟨next, certificate, chain, unknown⟩ := ih (policy.ask request)
    cases request with
    | certificate =>
      refine ⟨next, fun _ => certificate (.inl rfl), fun asked => chain ?_, fun id asked => unknown id ?_⟩
      · exact asked.imp_right (by simp)
      · exact asked.imp_right (by simp)
    | certificateChain =>
      refine ⟨next, fun asked => certificate ?_, fun _ => chain (.inl rfl), fun id asked => unknown id ?_⟩
      · exact asked.imp_right (by simp)
      · exact asked.imp_right (by simp)
    | unrecognizedCertificate hash =>
      refine ⟨next, fun asked => certificate ?_, fun asked => chain ?_, fun id asked => unknown id ?_⟩
      · exact asked.imp_right (by simp)
      · exact asked.imp_right (by simp)
      · rcases asked with old | ⟨other, member, same⟩
        · exact .inl (DefaultSignHeaderPolicy.mem_insertId.mpr (.inr old))
        · rcases List.mem_cons.mp member with here | later
          · cases here
            exact .inl (DefaultSignHeaderPolicy.mem_insertId.mpr (.inl same.symm))
          · exact .inr ⟨other, later, same⟩

namespace Exchange

/-! ### What a reception does -/

section Reception

variable {κ : Type} {installation : Installation κ} {moment : Moment} {message : SecuredMessage}
  {entity : Entity} {ticket authority : Certificate}

/-- **The policy heeds what the verify service asks for.** -/
theorem heeds_decapsulate : Heeds
    (verify installation.ctx moment message ⟨entity.cache, []⟩).2.requests entity.policy
    (installation.decapsulatePacket moment message entity).2.policy :=
  heeds_foldl _ entity.policy

/-- The cache stays clear of collisions. -/
theorem Clear.decapsulate (clear : Clear installation.ctx ticket authority entity.cache)
    (came : ∀ cert, CameWith message cert → Unmistaken installation.ctx.sha256 ticket cert ∧
      Unmistaken installation.ctx.sha256 authority cert) :
    Clear installation.ctx ticket authority
      (installation.decapsulatePacket moment message entity).2.cache := by
  have kept : Kept installation.ctx moment.now
      (fun cert => Unmistaken installation.ctx.sha256 ticket cert ∧
        Unmistaken installation.ctx.sha256 authority cert) (Clear installation.ctx ticket authority) :=
    ⟨fun _ _ _ clear => ⟨clear.1.lookup, clear.2.lookup⟩,
      fun _ _ came clear => ⟨clear.1.insert came.1, clear.2.insert came.2⟩⟩
  refine verify_keeps kept ?_ clear
  rintro cert (brought | cached)
  · exact came cert brought
  · obtain ⟨entry, member, rfl⟩ := List.mem_map.mp cached
    exact ⟨(clear.1 entry member).2, (clear.2 entry member).2⟩

/-- What is known stays known. -/
theorem knownUntil_decapsulate {id : HashedId8} {type : SubjectType} {deadline : ℤ}
    (known : entity.cache.KnownUntil id type deadline) (early : moment.now ≤ deadline)
    (soon : deadline ≤ moment.now + CertificateCache.lifetime type) :
    (installation.decapsulatePacket moment message entity).2.cache.KnownUntil id type deadline := by
  have kept : Kept installation.ctx moment.now (fun _ => True)
      (CertificateCache.KnownUntil id type deadline) :=
    ⟨fun other otherType _ known => known.lookup early soon other otherType,
      fun cert _ _ known => known.insert early soon cert⟩
  exact verify_keeps kept (fun _ _ => trivial) known

theorem decapsulate_of_returned {confirm : VerifyConfirm}
    (returned : (verify installation.ctx moment message ⟨entity.cache, []⟩).1 = some confirm) :
    (installation.decapsulatePacket moment message entity).1 = some ⟨message.payload.data, confirm.report,
      confirm.certificateValidity, confirm.itsAid, confirm.permissions⟩ := by
  unfold Installation.decapsulatePacket
  dsimp only
  rw [returned]
  rfl

/-- A success of the service, as the entity returns it. -/
theorem decapsulate_of_succeeds {cache : CertificateCache}
    (succeeds : Succeeds installation.ctx moment message ⟨entity.cache, []⟩ cache) :
    ∃ confirm, (installation.decapsulatePacket moment message entity).1 = some confirm ∧
      confirm.report = .success ∧ (installation.decapsulatePacket moment message entity).2.cache = cache := by
  obtain ⟨confirm, returned, success, left⟩ := succeeds
  exact ⟨_, decapsulate_of_returned returned, success, left⟩

/-- A refusal, and what the station asks for from then on. -/
theorem decapsulate_of_refuses {cache : CertificateCache} {wanted : HashedId8}
    (refuses : Refuses installation.ctx moment message ⟨entity.cache, []⟩ cache wanted) :
    ∃ confirm, (installation.decapsulatePacket moment message entity).1 = some confirm ∧
      confirm.report ≠ .success ∧
        (installation.decapsulatePacket moment message entity).2.cache = cache ∧
          truncate wanted ∈
            (installation.decapsulatePacket moment message entity).2.policy.unknownCertificates := by
  obtain ⟨confirm, returned, failed, left, asked⟩ := refuses
  have heeds := @heeds_decapsulate _ installation moment message entity
  exact ⟨_, decapsulate_of_returned returned, failed, left, heeds.unknown _ (.inr ⟨wanted, asked, rfl⟩)⟩

end Reception

/-! ### What a CAM of the announcer does -/

section Announcement

variable {κ : Type} {announcer listener : Installation κ} {ticket authority : Certificate}
  {key : EcdsaPublicKey} {moment : Moment}

/-- The listener has asked for the certificate, or is about to. -/
def Wants (listener : Installation κ) (own : Certificate) (exchange : Exchange) : Prop :=
  truncate (calculateHash listener.ctx.sha256 own) ∈ exchange.listener.policy.unknownCertificates

/-- **The listener knows the announcer** since a CAM that it has heard: the ticket until the next CAM at least,
and the authority until the next CAM with the ticket. -/
structure SettledAt (listener : Installation κ) (ticket authority : Certificate) (exchange : Exchange)
    (last : ℕ) : Prop where
  heard : exchange.heardAt = some last
  past : last ≤ exchange.clock
  due : last ≤ exchange.announcer.policy.camNextCertificate
  soon : exchange.announcer.policy.camNextCertificate ≤ exchange.clock + seconds 1
  known : exchange.clock ≤ last + seconds 2 →
    exchange.listener.cache.KnownUntil (calculateHash listener.ctx.sha256 ticket)
        SubjectType.authorizationTicket (last + seconds 2) ∧
      exchange.listener.cache.KnownUntil (calculateHash listener.ctx.sha256 authority)
        SubjectType.authorizationAuthority
        (exchange.announcer.policy.camNextCertificate + seconds 3599)

def Settled (listener : Installation κ) (ticket authority : Certificate) (exchange : Exchange) : Prop :=
  ∃ last, SettledAt listener ticket authority exchange last

/-- **The ends of a CAM of the announcer.** It is accepted, and the listener knows the announcer; it is a digest of
a ticket that is known; it is a digest of a ticket that is not; it has the ticket, but the authority is unknown. -/
inductive Ending (listener : Installation κ) (ticket authority : Certificate) (before after : Exchange) :
    Bool → Prop
  | settled : Settled listener ticket authority after → Ending listener ticket authority before after true
  | digest : before.announcer.policy.chainRequested = false → before.announcer.policy.certRequested = false →
      (Settled listener ticket authority before → Settled listener ticket authority after) →
      Ending listener ticket authority before after true
  | unknown : before.announcer.policy.chainRequested = false → before.announcer.policy.certRequested = false →
      ¬ Settled listener ticket authority before → Wants listener ticket after →
      Ending listener ticket authority before after false
  | unissued : before.announcer.policy.chainRequested = false → ¬ Settled listener ticket authority before →
      Wants listener authority after → Ending listener ticket authority before after false

/-- The ticket is credible while it is in force. -/
theorem InForce.credible (recognised : Recognised announcer listener.ctx ticket authority key)
    (inForce : InForce listener.ctx moment ticket) : Credible listener.ctx moment key ticket :=
  ⟨by rw [recognised.ticketInfo], recognised.publicKey, inForce.time, inForce.region, recognised.permits⟩

/-- **A ticket that is accepted with its authority** is known from then on, and so is the authority. -/
theorem known_of_valid {cache : CertificateCache}
    (recognised : Recognised announcer listener.ctx ticket authority key)
    (found : (Recognised.authorities listener.ctx authority moment.now cache).1 ≠ []) :
    let after := CertificateCache.insert listener.ctx moment.now ticket
      (Recognised.authorities listener.ctx authority moment.now cache).2
    after.KnownUntil (calculateHash listener.ctx.sha256 ticket) SubjectType.authorizationTicket
        (moment.now + seconds 2) ∧
      after.KnownUntil (calculateHash listener.ctx.sha256 authority) SubjectType.authorizationAuthority
        (moment.now + seconds 3600) := by
  have type : ticket.subjectInfo.subjectType = SubjectType.authorizationTicket := by
    rw [recognised.ticketInfo]
  have inserted := @CertificateCache.knownUntil_insert listener.ctx moment.now
    (Recognised.authorities listener.ctx authority moment.now cache).2 ticket
  rw [type] at inserted
  have looked := @CertificateCache.knownUntil_lookup moment.now (calculateHash listener.ctx.sha256 authority)
    SubjectType.authorizationAuthority cache (by decide) found
  have lasting : CertificateCache.lifetime SubjectType.authorizationAuthority = seconds 3600 := rfl
  rw [lasting] at looked
  refine ⟨inserted (by decide), looked.insert ?_ ?_ ticket⟩
  · omega
  · rw [lasting]

variable {exchange : Exchange} {position : HeaderPosition} {payload : ByteBuffer} {confirm : DecapConfirm}

theorem policy_announced : (exchange.announced announcer moment position payload).2.policy =
    ⟨(announcer.camSigner moment.now exchange.announcer).2, [], false, false⟩ :=
  congrArg Entity.policy (announcer.entity_cam moment.now position payload exchange.announcer)

/-- The listener knows the announcer after a CAM with the ticket. -/
theorem settled_hear
    (fresh : (announcer.camSigner moment.now exchange.announcer).2 = moment.now + 1000000)
    {cache : CertificateCache}
    (left : (exchange.heard announcer listener moment position payload).2.cache = cache)
    (known : cache.KnownUntil (calculateHash listener.ctx.sha256 ticket) SubjectType.authorizationTicket
        (moment.now + seconds 2) ∧
      cache.KnownUntil (calculateHash listener.ctx.sha256 authority) SubjectType.authorizationAuthority
        (moment.now + seconds 3600)) :
    Settled listener ticket authority (exchange.hear announcer listener moment position payload confirm) := by
  have next : (exchange.hear announcer listener moment position payload
      confirm).announcer.policy.camNextCertificate = moment.now + 1000000 := by
    show (exchange.announced announcer moment position payload).2.policy.camNextCertificate = _
    rw [policy_announced, fresh]
  have past : (moment.now : ℤ) ≤ moment.now + 1000000 := by omega
  have lasting : (moment.now : ℤ) + 1000000 + seconds 3599 = moment.now + seconds 3600 := by
    unfold seconds
    omega
  refine ⟨moment.now, rfl, Nat.le_refl _, ?_, ?_, fun _ => ?_⟩
  · rw [next]
    exact past
  · rw [next]
    exact le_refl _
  · have heard : (exchange.hear announcer listener moment position payload confirm).listener.cache = cache :=
      left
    rw [next, lasting, heard]
    exact known

/-- A ticket is announced in one of three ways. -/
theorem camSigner_cases (recognised : Recognised announcer listener.ctx ticket authority key) (now : ℕ)
    (entity : Entity) :
    (entity.policy.chainRequested = true ∧
        announcer.camSigner now entity =
          (SignerInfoOf.certificateChain [authority, ticket], (now + 1000000 : ℤ))) ∨
      (entity.policy.chainRequested = false ∧
        announcer.camSigner now entity = (SignerInfoOf.certificate ticket, (now + 1000000 : ℤ))) ∨
      entity.policy.chainRequested = false ∧ entity.policy.certRequested = false ∧
        now < entity.policy.camNextCertificate ∧
          announcer.camSigner now entity =
            (SignerInfoOf.certificateDigestWithSha256 (calculateHash listener.ctx.sha256 ticket),
              entity.policy.camNextCertificate) := by
  unfold Installation.camSigner DefaultSignHeaderPolicy.camSigner Installation.own
  rw [recognised.ownCertificate, recognised.ownChain, recognised.sha256]
  by_cases chain : entity.policy.chainRequested = true
  · rw [if_pos chain]
    exact .inl ⟨chain, rfl⟩
  · rw [if_neg chain]
    have unchained : entity.policy.chainRequested = false := Bool.eq_false_iff.mpr chain
    by_cases quiet : now < entity.policy.camNextCertificate ∧ ¬ entity.policy.certRequested = true
    · rw [if_pos quiet]
      exact .inr (.inr ⟨unchained, Bool.eq_false_iff.mpr quiet.2, quiet.1, rfl⟩)
    · rw [if_neg quiet]
      exact .inr (.inl ⟨unchained, rfl⟩)

/-- The CAM is one of the announcer. -/
theorem announced_of (recognised : Recognised announcer listener.ctx ticket authority key)
    (late : seconds 2 ≤ moment.now) {info : SignerInfo} {next : ℤ}
    (signer : announcer.camSigner moment.now exchange.announcer = (info, next)) :
    Announced listener.ctx moment key (exchange.announced announcer moment position payload).1 info := by
  have sent := announced_cam recognised.verifies recognised.standard moment late position payload
    exchange.announcer
  rw [signer] at sent
  exact sent

/-- **A CAM with the chain** is accepted. -/
theorem hear_chain (recognised : Recognised announcer listener.ctx ticket authority key)
    (clear : Clear listener.ctx ticket authority exchange.listener.cache) (late : seconds 2 ≤ moment.now)
    (ticketInForce : InForce listener.ctx moment ticket)
    (authorityInForce : InForce listener.ctx moment authority)
    (signer : announcer.camSigner moment.now exchange.announcer =
      (SignerInfoOf.certificateChain [authority, ticket], (moment.now + 1000000 : ℤ))) :
    ∃ confirm, (exchange.heard announcer listener moment position payload).1 = some confirm ∧
      confirm.report = .success ∧ Settled listener ticket authority
        (exchange.hear announcer listener moment position payload confirm) := by
  have orderly := @CertificateCache.Orderly.insert listener.ctx moment.now _ authority authority clear.2
    fun _ _ => authority.alike_refl
  have inserted := @CertificateCache.knownUntil_insert listener.ctx moment.now exchange.listener.cache
    authority
  rw [recognised.authorityType] at inserted
  have found := (inserted (by decide)).found (by omega : (moment.now : ℤ) ≤ _)
  have checked := recognised.checkCertificate_known orderly found
  obtain ⟨confirm, returned, success, left⟩ := decapsulate_of_succeeds
    (verify_chain (announced_of recognised late signer) (InForce.credible recognised ticketInForce)
      recognised.authorityType (recognised.rooted moment.now exchange.listener.cache)
      authorityInForce.time authorityInForce.region checked)
  have fresh := congrArg Prod.snd signer
  exact ⟨confirm, returned, success, settled_hear fresh left (known_of_valid recognised found)⟩

/-- **A CAM with the ticket** is accepted if the authority is known. -/
theorem hear_certificate (recognised : Recognised announcer listener.ctx ticket authority key)
    (clear : Clear listener.ctx ticket authority exchange.listener.cache) (late : seconds 2 ≤ moment.now)
    (ticketInForce : InForce listener.ctx moment ticket)
    (signer : announcer.camSigner moment.now exchange.announcer =
      (SignerInfoOf.certificate ticket, (moment.now + 1000000 : ℤ))) :
    ∃ confirm, (exchange.heard announcer listener moment position payload).1 = some confirm ∧
      (confirm.report = .success ∧ Settled listener ticket authority
          (exchange.hear announcer listener moment position payload confirm) ∨
        confirm.report ≠ .success ∧
          (Recognised.authorities listener.ctx authority moment.now
            (greeted listener.ctx moment.now ticket exchange.listener.cache)).1 = [] ∧
          Wants listener authority
            (exchange.hear announcer listener moment position payload confirm)) := by
  have announced : Announced listener.ctx moment key
      (exchange.announced announcer moment position payload).1 (.certificate ticket) :=
    announced_of recognised late signer
  have credible := InForce.credible recognised ticketInForce
  have orderly : CertificateCache.Orderly listener.ctx.sha256 authority
      (greeted listener.ctx moment.now ticket exchange.listener.cache) := clear.2.lookup
  by_cases found : (Recognised.authorities listener.ctx authority moment.now
      (greeted listener.ctx moment.now ticket exchange.listener.cache)).1 = []
  · obtain ⟨confirm, returned, failed, _, wants⟩ := decapsulate_of_refuses
      (verify_certificate_unknown announced credible recognised.signer
        (recognised.checkCertificate_unknown found))
    exact ⟨confirm, returned, .inr ⟨failed, found, wants⟩⟩
  · obtain ⟨confirm, returned, success, left⟩ := decapsulate_of_succeeds
      (verify_certificate_valid announced credible (recognised.checkCertificate_known orderly found))
    have fresh := congrArg Prod.snd signer
    exact ⟨confirm, returned, .inl ⟨success,
      settled_hear fresh left (known_of_valid recognised found)⟩⟩

/-- What the listener finds of the ticket. -/
abbrev tickets (listener : Installation κ) (ticket : Certificate) (now : ℕ) (cache : CertificateCache) :
    List Certificate × CertificateCache :=
  CertificateCache.lookup now (calculateHash listener.ctx.sha256 ticket) SubjectType.authorizationTicket cache

/-- **A CAM with a digest** is accepted if the ticket is known, and then it is known for two seconds more. -/
theorem hear_digest (recognised : Recognised announcer listener.ctx ticket authority key)
    (clear : Clear listener.ctx ticket authority exchange.listener.cache) (late : seconds 2 ≤ moment.now)
    (ticketInForce : InForce listener.ctx moment ticket) {next : ℤ}
    (signer : announcer.camSigner moment.now exchange.announcer =
      (SignerInfoOf.certificateDigestWithSha256 (calculateHash listener.ctx.sha256 ticket), next)) :
    ∃ confirm, (exchange.heard announcer listener moment position payload).1 = some confirm ∧
      (confirm.report = .success ∧ (exchange.heard announcer listener moment position
          payload).2.cache.KnownUntil (calculateHash listener.ctx.sha256 ticket)
            SubjectType.authorizationTicket (moment.now + seconds 2) ∨
        confirm.report ≠ .success ∧
          (tickets listener ticket moment.now exchange.listener.cache).1 = [] ∧
          Wants listener ticket (exchange.hear announcer listener moment position payload confirm)) := by
  have announced : Announced listener.ctx moment key
      (exchange.announced announcer moment position payload).1
      (.certificateDigestWithSha256 (calculateHash listener.ctx.sha256 ticket)) :=
    announced_of recognised late signer
  have type : ticket.subjectInfo.subjectType = SubjectType.authorizationTicket := by
    rw [recognised.ticketInfo]
  cases found : (tickets listener ticket moment.now exchange.listener.cache).1 with
  | nil =>
    obtain ⟨confirm, returned, failed, _, wants⟩ := decapsulate_of_refuses
      (verify_digest_unknown announced found)
    exact ⟨confirm, returned, .inr ⟨failed, rfl, wants⟩⟩
  | cons candidate rest =>
    have alike : candidate.Alike ticket := by
      have all := @CertificateCache.Orderly.found listener.ctx moment.now _ ticket clear.1
      rw [type] at all
      exact all candidate (by rw [found]; exact List.mem_cons_self)
    obtain ⟨confirm, returned, success, left⟩ := decapsulate_of_succeeds
      (verify_digest_known announced found (alike.credible (InForce.credible recognised ticketInForce)))
    refine ⟨confirm, returned, .inl ⟨success, ?_⟩⟩
    have known := @CertificateCache.knownUntil_lookup moment.now (calculateHash listener.ctx.sha256 ticket)
      SubjectType.authorizationTicket exchange.listener.cache (by decide) (by rw [found]; simp)
    show (listener.decapsulatePacket moment _ exchange.listener).2.cache.KnownUntil _ _ _
    rw [left]
    exact known.insert (by omega) (le_refl _) candidate

/-- A CAM of the announcer that the listener has to expect finds everything that it needs. -/
theorem SettledAt.current {last : ℕ} (settled : SettledAt listener ticket authority exchange last)
    (later : exchange.clock ≤ moment.now)
    (prompt : ∀ last, exchange.heardAt = some last → moment.now ≤ last + seconds 2) :
    exchange.listener.cache.KnownUntil (calculateHash listener.ctx.sha256 ticket)
        SubjectType.authorizationTicket (last + seconds 2) ∧
      exchange.listener.cache.KnownUntil (calculateHash listener.ctx.sha256 authority)
        SubjectType.authorizationAuthority (exchange.announcer.policy.camNextCertificate + seconds 3599) ∧
      (moment.now : ℤ) ≤ last + seconds 2 ∧
      (moment.now : ℤ) ≤ exchange.announcer.policy.camNextCertificate + seconds 3599 ∧
      exchange.announcer.policy.camNextCertificate + seconds 3599 ≤ moment.now + seconds 3600 := by
  have soonEnough := prompt last settled.heard
  have due := settled.due
  have soon := settled.soon
  obtain ⟨ticketKnown, authorityKnown⟩ := settled.known (later.trans soonEnough)
  refine ⟨ticketKnown, authorityKnown, ?_, ?_, ?_⟩
  · exact_mod_cast soonEnough
  · unfold seconds at *
    omega
  · unfold seconds at *
    omega

/-- **The ends of a CAM of the announcer**: every one has an end, and it is one of `Ending`. -/
theorem announce_facts (recognised : Recognised announcer listener.ctx ticket authority key)
    (clear : Clear listener.ctx ticket authority exchange.listener.cache)
    (later : exchange.clock ≤ moment.now)
    (meets : Meets listener.ctx ticket authority exchange (.announce moment position payload)) :
    ∃ confirm, (exchange.heard announcer listener moment position payload).1 = some confirm ∧
      Ending listener ticket authority exchange
        (exchange.hear announcer listener moment position payload confirm)
        (decide (confirm.report = .success)) := by
  obtain ⟨late, prompt, ticketInForce, authorityInForce⟩ := meets
  have accepted {confirm : DecapConfirm} (success : confirm.report = .success) :
      decide (confirm.report = .success) = true :=
    decide_eq_true success
  have refused {confirm : DecapConfirm} (failed : confirm.report ≠ .success) :
      decide (confirm.report = .success) = false :=
    decide_eq_false failed
  rcases camSigner_cases recognised moment.now exchange.announcer with
    ⟨_, signer⟩ | ⟨unchained, signer⟩ | ⟨unchained, quiet, early, signer⟩
  · obtain ⟨confirm, returned, success, settled⟩ :=
      hear_chain recognised clear late ticketInForce authorityInForce signer
    refine ⟨confirm, returned, ?_⟩
    rw [accepted success]
    exact .settled settled
  · obtain ⟨confirm, returned, ⟨success, settled⟩ | ⟨failed, missing, wants⟩⟩ :=
      hear_certificate recognised clear late ticketInForce signer
    · refine ⟨confirm, returned, ?_⟩
      rw [accepted success]
      exact .settled settled
    · refine ⟨confirm, returned, ?_⟩
      rw [refused failed]
      refine .unissued unchained ?_ wants
      rintro ⟨last, settled⟩
      obtain ⟨_, known, _, soonEnough, lasting⟩ := settled.current later prompt
      exact (known.lookup soonEnough lasting _ _).found soonEnough missing
  · obtain ⟨confirm, returned, ⟨success, known⟩ | ⟨failed, missing, wants⟩⟩ :=
      hear_digest recognised clear late ticketInForce signer
    · refine ⟨confirm, returned, ?_⟩
      rw [accepted success]
      refine .digest unchained quiet ?_
      rintro ⟨last, settled⟩
      obtain ⟨_, authorityKnown, _, soonEnough, lasting⟩ := settled.current later prompt
      have next : (exchange.hear announcer listener moment position payload
          confirm).announcer.policy.camNextCertificate = exchange.announcer.policy.camNextCertificate := by
        show (exchange.announced announcer moment position payload).2.policy.camNextCertificate = _
        rw [policy_announced, signer]
      have soon := settled.soon
      refine ⟨moment.now, rfl, Nat.le_refl _, ?_, ?_, fun _ => ⟨known, ?_⟩⟩
      · rw [next]
        exact early.le
      · rw [next]
        show _ ≤ (moment.now : ℤ) + seconds 1
        omega
      · rw [next]
        exact knownUntil_decapsulate authorityKnown soonEnough lasting
    · refine ⟨confirm, returned, ?_⟩
      rw [refused failed]
      refine .unknown unchained quiet ?_ wants
      rintro ⟨last, settled⟩
      obtain ⟨ticketKnown, _, soonEnough, _⟩ := settled.current later prompt
      exact ticketKnown.found soonEnough missing

end Announcement

end Exchange

end Vanet.Security
