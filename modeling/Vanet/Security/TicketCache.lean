/-
**What a message that is not verified does to the cached tickets.**

Every lookup drops the expired entries, and it renews those that it finds: so do the lookups of
`greet` and `possibleCertificates`, before anything about the message has been checked. All other
accesses before the last one are to authorities. The ticket that a message names is renewed, the
other tickets are as they were, and a ticket is inserted with a success only.
-/

import Vanet.Security.Soundness

namespace Vanet.Security

open Vanet.Library Vanet.Library.Action

namespace CertificateCache

variable {ctx : Context} {now : ℕ} {id : HashedId8} {type : SubjectType} {cache : CertificateCache}
  {cert : Certificate}

/-- The entries of authorization tickets. -/
def tickets (cache : CertificateCache) : CertificateCache :=
  cache.filter fun entry =>
    entry.certificate.subjectInfo.subjectType = SubjectType.authorizationTicket

/-- What a lookup of the ticket does to an entry. -/
def renew (asked : Option HashedId8) (now : ℕ) (entry : CachedCertificate) : CachedCertificate :=
  if asked = some entry.id then refresh now entry else entry

theorem renew_none (entry : CachedCertificate) : renew none now entry = entry := if_neg nofun

/-- The tickets and the expired entries are dropped independently of each other. -/
theorem tickets_dropExpired : tickets (dropExpired now cache) = dropExpired now (tickets cache) := by
  unfold tickets dropExpired
  rw [List.filter_filter, List.filter_filter]
  congr 1
  funext entry
  exact Bool.and_comm _ _

/-- A change of entries that leaves their certificates. -/
theorem tickets_map {change : CachedCertificate → CachedCertificate}
    (same : ∀ entry, (change entry).certificate = entry.certificate) :
    tickets (cache.map change) = (tickets cache).map change := by
  unfold tickets
  rw [List.filter_map]
  congr 2
  funext entry
  simp only [Function.comp_apply, same]

theorem certificate_ite (condition : Prop) [Decidable condition] (entry : CachedCertificate) :
    (if condition then refresh now entry else entry).certificate = entry.certificate := by
  split_ifs
  · exact refresh_certificate entry
  · rfl

theorem ticket_of_mem {entry : CachedCertificate} (member : entry ∈ tickets cache) :
    entry.certificate.subjectInfo.subjectType = SubjectType.authorizationTicket :=
  of_decide_eq_true (List.mem_filter.mp member).2

/-- A lookup of a ticket renews the entries that it finds. -/
theorem tickets_lookup_ticket :
    tickets (lookup now id SubjectType.authorizationTicket cache).2 =
      (dropExpired now (tickets cache)).map (renew (some id) now) := by
  have drops := @tickets_dropExpired now cache
  show tickets (List.map _ (dropExpired now cache)) = _
  rw [tickets_map fun entry => certificate_ite _ entry, drops]
  apply List.map_congr_left
  intro entry member
  have ticket := ticket_of_mem (mem_dropExpired member)
  unfold renew Matches
  simp only [ticket, and_true, Option.some.injEq, eq_comm]

/-- A lookup of other certificates drops the expired tickets. -/
theorem tickets_lookup_other (other : type ≠ SubjectType.authorizationTicket) :
    tickets (lookup now id type cache).2 = dropExpired now (tickets cache) := by
  have drops := @tickets_dropExpired now cache
  show tickets (List.map _ (dropExpired now cache)) = _
  rw [tickets_map fun entry => certificate_ite _ entry, drops]
  nth_rewrite 2 [← List.map_id (dropExpired now (tickets cache))]
  apply List.map_congr_left
  intro entry member
  have ticket := ticket_of_mem (mem_dropExpired member)
  apply if_neg
  rintro ⟨_, same⟩
  exact other (same.symm.trans ticket)

/-- So does an insertion of one. -/
theorem tickets_insert_other
    (other : cert.subjectInfo.subjectType ≠ SubjectType.authorizationTicket) :
    tickets (insert ctx now cert cache) = dropExpired now (tickets cache) := by
  have found := @tickets_lookup_other now (calculateHash ctx.sha256 cert) _ cache other
  unfold insert
  simp only
  split_ifs
  · exact found
  · rw [← found]
    unfold tickets
    rw [List.filter_append]
    simp only [List.filter_cons, other, decide_false, Bool.false_eq_true, if_false, List.filter_nil,
      List.append_nil]
  · exact found

/-- What has been renewed has not expired. -/
theorem dropExpired_renewed {asked : Option HashedId8} :
    dropExpired now ((dropExpired now cache).map (renew asked now)) =
      (dropExpired now cache).map (renew asked now) := by
  apply List.filter_eq_self.mpr
  intro renewed member
  obtain ⟨entry, live, rfl⟩ := List.mem_map.mp member
  have kept : ¬ entry.expiry < now := of_decide_eq_true (List.mem_filter.mp live).2
  apply decide_eq_true
  unfold renew refresh
  simp only
  split_ifs
  · exact Nat.not_lt.mpr (Nat.le_add_right now _)
  · exact kept
  · exact kept

/-! ### Tickets that are spared -/

/-- The tickets are left alone, but that those which have expired may be dropped. -/
def Calm (now : ℕ) (before after : CertificateCache) : Prop :=
  tickets after = tickets before ∨ tickets after = dropExpired now (tickets before)

/-- **Tickets are spared**: the expired ones are dropped and the one that has been asked for is
renewed, or nothing has been asked for and nothing has happened. -/
def Spared (asked : Option HashedId8) (now : ℕ) (before after : CertificateCache) : Prop :=
  tickets after = (dropExpired now (tickets before)).map (renew asked now) ∨
    asked = none ∧ tickets after = tickets before

variable {asked : Option HashedId8} {before after : CertificateCache}

/-- They stay so as long as the tickets are left alone. -/
theorem Spared.calm (spared : Spared asked now before cache) (calm : Calm now cache after) :
    Spared asked now before after := by
  rcases calm with same | dropped
  · unfold Spared
    rw [same]
    exact spared
  · rcases spared with renewed | ⟨nothing, same⟩
    · apply Or.inl
      rw [dropped, renewed, dropExpired_renewed]
    · apply Or.inl
      rw [dropped, same, nothing, List.map_congr_left fun entry _ => renew_none entry]
      exact (List.map_id _).symm

end CertificateCache

/-! ### The service, part by part -/

section Service

open Serve CertificateCache

variable {ctx : Context} {moment : Moment} {itsAid : UInt32} {asked : Option HashedId8}
  {cached : CertificateCache}

/-- The tickets of the service are spared since the cache was the given one. -/
abbrev SparedSince (asked : Option HashedId8) (moment : Moment) (cached : CertificateCache)
    (service : Service) : Prop :=
  Spared asked moment.now cached service.cache

/-- **The validator looks for authorities only.** -/
theorem checkCertificate_spares (cert : Certificate) :
    Keeps (Spared asked moment.now cached) (checkCertificate ctx moment.now cert) := by
  have spares (validity : CertificateValidity) :
      Keeps (Spared asked moment.now cached)
        (pure validity : Action CertificateCache Thrown CertificateValidity) :=
    .pure fun _ => id
  refine .ite (fun _ => spares _) fun _ => .ite (fun _ => spares _) fun _ => ?_
  refine .ite (fun _ => spares _) fun _ => ?_
  split
  next signerHash =>
    refine .ite (fun _ => ?_) fun _ => .ite (fun _ => ?_) fun _ => spares _
    · refine .bind (Q := fun _ => Spared asked moment.now cached) (.update ?_) fun _ => ?_
      · intro cache spared
        exact spared.calm (.inr (tickets_lookup_other (by decide)))
      · exact .lift (fun _ _ _ => id) fun _ => id
    · exact .lift (fun _ _ _ => id) fun _ => id
  next => exact spares _

theorem precheck_spares (cert : Certificate) :
    Keeps (SparedSince asked moment cached) (precheck ctx moment itsAid cert) := by
  refine .ite (fun authority => ?_) fun _ => .pure fun _ => id
  refine .bind (onCache_ensures (checkCertificate_spares cert)) fun validity => ?_
  refine .ite (fun _ => .fail fun _ => id) fun _ => .ite (fun _ => .fail fun _ => id) fun _ => ?_
  refine onCache_ensures (.update fun cache spared => spared.calm (.inr ?_))
  apply tickets_insert_other
  rw [authority]
  decide

theorem precheckChain_spares (chain : List Certificate) :
    Keeps (SparedSince asked moment cached) (precheckChain ctx moment itsAid chain) := by
  induction chain with
  | nil => exact .pure fun _ => id
  | cons cert rest ih => exact .bind (precheck_spares cert) fun _ => ih

theorem findSigner_spares {signedBytes : ByteBuffer} {sig : Signature}
    (certificates : List Certificate) :
    Keeps (SparedSince asked moment cached)
      (findSigner ctx itsAid signedBytes sig certificates) := by
  induction certificates with
  | nil => exact .pure fun _ => id
  | cons cert rest ih =>
    refine .ite (fun _ => .fail fun _ => id) fun _ => ?_
    refine .bind (onCache_ensures (.lift (fun _ _ _ => id) fun _ => id)) fun publicKey => ?_
    cases publicKey with
    | none => exact .fail fun _ => id
    | some key => exact .ite (fun _ => .pure fun _ => id) fun _ => ih

/-- **The ticket is inserted with a success.** -/
theorem acceptSigner_spares {message : SecuredMessage} {fromCache : Bool} (signer : Certificate) :
    Ensures (SparedSince asked moment cached)
      (acceptSigner ctx moment message itsAid fromCache signer)
      (fun confirm _ => confirm.report = .success) (SparedSince asked moment cached) := by
  have validates : Keeps (SparedSince asked moment cached) (validate ctx moment fromCache signer) :=
    .ite (fun _ => .pure fun _ => id) fun _ => onCache_ensures (checkCertificate_spares signer)
  refine .ite (fun _ => .fail fun _ => id) fun _ => .bind validates fun validity => ?_
  split
  next => exact .bind request_ensures fun _ => .fail fun _ => id
  next => exact .fail fun _ => id
  next =>
    refine .ite (fun _ => .fail fun _ => id) fun _ => .ite (fun _ => .fail fun _ => id) fun _ => ?_
    split
    next => exact .fail fun _ => id
    next =>
      refine .bind (Q := fun _ _ => True) ?_ fun _ => .pure fun _ _ => rfl
      exact fun _ _ => trivial

theorem verifyCandidates_spares {message : SecuredMessage} (candidates : Candidates) :
    Ensures (SparedSince asked moment cached)
      (verifyCandidates ctx moment message itsAid candidates)
      (fun confirm _ => confirm.report = .success) (SparedSince asked moment cached) := by
  refine .ite (fun _ => .bind request_ensures fun _ => .fail fun _ => id) fun _ => ?_
  refine .ite (fun _ => .fail fun _ => id) fun _ => ?_
  split
  next => exact .fail fun _ => id
  next =>
    refine .bind (findSigner_spares _) fun signer => ?_
    cases signer with
    | none =>
      refine .bind request_ensures fun _ => ?_
      exact .ite (fun _ => .fail fun _ => id) fun _ => .fail fun _ => id
    | some signer => exact acceptSigner_spares signer

/-! ### What a message asks for -/

/-- **The ticket that a message makes the service look for**: a signed one names it by its digest, or
brings it along with a CAM. -/
def askedTicket (ctx : Context) (message : SecuredMessage) : Option HashedId8 :=
  if message.payload.type ≠ signedPayload then none
  else
    match message.itsAid, message.signerInfo with
    | some _, some (.certificateDigestWithSha256 signerHash) => some signerHash
    | some itsAid, some (.certificate cert) =>
      if itsAid.value.toUInt32 = aidCa then some (calculateHash ctx.sha256 cert) else none
    | _, _ => none

theorem lookup_spares {id : HashedId8} {E : Service → Prop} :
    Ensures (fun service => service.cache = cached)
      (lookup moment.now id SubjectType.authorizationTicket)
      (fun _ => SparedSince (some id) moment cached) E := by
  rintro service rfl
  exact Or.inl tickets_lookup_ticket

/-- Without a request, the cache is spared as it is. -/
theorem spared_of_same {service : Service} (same : service.cache = cached) :
    SparedSince none moment cached service :=
  Or.inr ⟨rfl, congrArg tickets same⟩

theorem possibleCertificates_spares {message : SecuredMessage} {aid : IntX}
    (payload : message.payload.type = signedPayload) (claimed : message.itsAid = some aid) :
    Ensures (fun service => service.cache = cached)
      (possibleCertificates ctx moment aid.value.toUInt32 message.signerInfo)
      (fun _ => SparedSince (askedTicket ctx message) moment cached)
      (SparedSince (askedTicket ctx message) moment cached) := by
  have signed : ¬ message.payload.type ≠ signedPayload := not_not.mpr payload
  unfold askedTicket
  rw [if_neg signed, claimed]
  cases message.signerInfo with
  | none => exact .pure fun _ => spared_of_same
  | some info =>
    cases info with
    | self => exact .fail fun _ => spared_of_same
    | certificateDigestWithOtherAlgorithm => exact .fail fun _ => spared_of_same
    | certificate cert =>
      refine .bind (Q := fun _ => SparedSince _ moment cached) ?_ fun _ => .pure fun _ => id
      unfold greet
      simp only
      split_ifs
      · exact .bind lookup_spares fun _ => request_ensures
      · exact .pure fun _ => spared_of_same
    | certificateDigestWithSha256 signerHash =>
      exact .bind lookup_spares fun _ => .pure fun _ => id
    | certificateChain chain =>
      unfold possibleCertificates
      simp only
      split
      next => exact .fail fun _ => spared_of_same
      next ticket last =>
        refine .ite (fun _ => .fail fun _ => spared_of_same) fun _ => ?_
        refine .bind (.mono (precheckChain_spares chain) ?_ fun _ _ => id) fun _ => .pure fun _ => id
        exact fun _ => spared_of_same

theorem verifyMessage_spares (message : SecuredMessage) :
    Ensures (fun service => service.cache = cached) (verifyMessage ctx moment message)
      (fun confirm _ => confirm.report = .success)
      (SparedSince (askedTicket ctx message) moment cached) := by
  refine .ite (fun unsigned => .fail ?_) fun signed => ?_
  · unfold askedTicket
    rw [if_pos unsigned]
    exact fun _ => spared_of_same
  refine .bind (Q := fun _ service => service.cache = cached) (.update fun _ => id) fun _ => ?_
  split
  next claimed =>
    unfold askedTicket
    rw [if_neg signed, claimed]
    exact .fail fun _ => spared_of_same
  next itsAid claimed =>
    refine .bind (possibleCertificates_spares (not_not.mp signed) claimed) fun candidates => ?_
    exact verifyCandidates_spares candidates

/-- **Messages that are not verified spare the tickets**, but for the renewal of the one that they ask
for. -/
theorem verify_spares_tickets (ctx : Context) (moment : Moment) (message : SecuredMessage)
    (service : Service)
    (failed : ∀ confirm, (verify ctx moment message service).1 = some confirm →
      confirm.report ≠ .success) :
    Spared (askedTicket ctx message) moment.now service.cache
      (verify ctx moment message service).2.cache := by
  have ensures := @verifyMessage_spares ctx moment service.cache message
  have result := ensures service rfl
  unfold verify at failed ⊢
  rcases ran : verifyMessage ctx moment message service with ⟨exit | confirm, after⟩
  · rw [ran] at result
    cases exit with
    | thrown => exact result
    | rejection => exact result
  · rw [ran] at result failed
    exact absurd result (failed confirm rfl)

end Service

/-! ### A stale ticket -/

namespace Sample

/-- One second later. -/
def later : Moment := ⟨1001000000, ⟨⟨0, 0⟩, true⟩, by decide⟩

/-- The message with the ticket's digest, with a signature by another key. -/
def forged : SecuredMessage := { withDigest with trailerFields := [.signature (sign 4)] }

/-- A service that knows the ticket. -/
def informed : Service := (verify context moment (withChain 36) ⟨[], []⟩).2

end Sample

/-- A forged message leaves the tickets that it does not name alone. -/
theorem verify_spares_tickets_forged :
    (∀ confirm, (verify Sample.context Sample.later Sample.forged Sample.informed).1 = some confirm →
        confirm.report ≠ .success) ∧
      CertificateCache.Spared (askedTicket Sample.context Sample.forged) Sample.later.now
        Sample.informed.cache
        (verify Sample.context Sample.later Sample.forged Sample.informed).2.cache := by
  have failed : ∀ confirm,
      (verify Sample.context Sample.later Sample.forged Sample.informed).1 = some confirm →
        confirm.report ≠ .success := by
    decide +kernel
  exact ⟨failed, verify_spares_tickets _ _ _ _ failed⟩

/-- **A forged message that names a cached ticket keeps it in the cache**: it would have expired at
the second 1002, and now does so at the second 1003. -/
theorem forged_renews_ticket :
    Reachable (· = Receiver.initial) (Receiver.step Sample.context)
        ⟨Sample.informed, [Sample.moment]⟩ ∧
      (∀ confirm,
        (verify Sample.context Sample.later Sample.forged Sample.informed).1 = some confirm →
          confirm.report ≠ .success) ∧
      (CertificateCache.tickets Sample.informed.cache).map (·.expiry) = [1002000000] ∧
      (CertificateCache.tickets
        (verify Sample.context Sample.later Sample.forged Sample.informed).2.cache).map (·.expiry) =
          [1003000000] := by
  refine ⟨?_, by decide +kernel, by decide +kernel, by decide +kernel⟩
  exact .next (.start rfl) trivial (rfl : Receiver.step _ _ (Sample.moment, Sample.withChain 36) = _)

end Vanet.Security
