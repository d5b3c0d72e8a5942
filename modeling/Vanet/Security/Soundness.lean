/-
**What a verified message guarantees.**

`Certified` is what the certificate cache holds in every run: certificates that the validator found
valid, on a cache of certified certificates, at an earlier message when they also passed the checks
of the time and the region. From it and from the checks that no path of `verify` skips,
`verify_sound` derives the guarantees of a success.

The confirm's ITS-AID has 32 bits, the message's has 64: the permissions that are looked up are those
of the last 32 bits.
-/

import Vanet.Library.Run
import Vanet.Security.VerifyService

namespace Vanet.Security

open Vanet.Library Vanet.Library.Action

/-! ### What the checks mean -/

/-- The ticket is valid at the time. -/
def ValidAt (cert : Certificate) (now : ℕ) : Prop :=
  ∃ startValidity endValidity, cert.startAndEndValidity = some (startValidity, endValidity) ∧
    startValidity ≤ convertTime32 now ∧ convertTime32 now ≤ endValidity

/-- The region of the certificate, if it is restricted to one, contains the location. -/
def Covers (geod : Geodesic) (cert : Certificate) (location : TwoDLocation) : Prop :=
  ∀ region, cert.region = some region → isWithin geod location region = true

/-- The generation time lies in the window around the time, in microseconds. -/
def Fresh (message : SecuredMessage) (now : ℕ) : Prop :=
  ∃ time, message.generationTime = some time ∧
    (now : ℤ) - generationTimePast message ≤ time.toNat ∧
    time.toNat ≤ now + generationTimeFuture

/-- The ticket permits the message's ITS-AID. -/
def Permits (ticket : Certificate) (message : SecuredMessage) : Prop :=
  ∃ itsAid permissions, message.itsAid = some itsAid ∧ ticket.itsAidSspList = some permissions ∧
    ∃ permission ∈ permissions, permission.itsAid = itsAid

theorem checkCertificateTime_iff {cert : Certificate} {now : ℕ} :
    checkCertificateTime cert now = true ↔ ValidAt cert now := by
  unfold checkCertificateTime ValidAt
  cases cert.startAndEndValidity with
  | none => simp
  | some validity =>
    obtain ⟨startValidity, endValidity⟩ := validity
    simp [not_or]

theorem checkCertificateRegion_covers {geod : Geodesic} {cert : Certificate} {fix : PositionFix}
    (checked : checkCertificateRegion geod cert fix = true) : Covers geod cert fix.location := by
  intro region restricted
  unfold checkCertificateRegion at checked
  rw [restricted] at checked
  cases region with
  | none => rfl
  | circle => exact (Bool.and_eq_true_iff.mp checked).2
  | rectangles => exact (Bool.and_eq_true_iff.mp checked).2
  | polygon => exact (Bool.and_eq_true_iff.mp checked).2
  | identified => exact (Bool.and_eq_true_iff.mp checked).2

/-- Away from CAMs, the location in the message is covered, too. -/
theorem checkGenerationLocation_covers {geod : Geodesic} {cert : Certificate}
    {message : SecuredMessage} (checked : checkGenerationLocation geod message cert = true)
    (other : ¬ isCa message) :
    ∃ location, message.generationLocation = some location ∧ Covers geod cert location.toTwoD := by
  unfold checkGenerationLocation at checked
  rw [if_neg other] at checked
  cases located : message.generationLocation with
  | none =>
    rw [located] at checked
    cases checked
  | some location =>
    refine ⟨location, rfl, ?_⟩
    intro region restricted
    rw [located, restricted] at checked
    cases region with
    | none => rfl
    | circle => exact checked
    | rectangles => exact checked
    | polygon => exact checked
    | identified => exact checked

theorem convertTime64_toNat (time : ℤ) : ((convertTime64 time).toNat : ℤ) = time % 2 ^ 64 := by
  have positive : 0 ≤ time % 2 ^ 64 := Int.emod_nonneg _ (by decide)
  have small : time % 2 ^ 64 < 2 ^ 64 := Int.emod_lt_of_pos _ (by decide)
  have bounded : (time % 2 ^ 64).toNat < UInt64.size := by
    rw [Int.toNat_lt positive]
    exact small
  unfold convertTime64 UInt64.ofInt
  rw [UInt64.toNat_ofNat_of_lt' bounded, Int.toNat_of_nonneg positive]

/-- The window is one of integers: what wraps around below the epoch excludes all times. -/
theorem checkGenerationTime_fresh {message : SecuredMessage} {moment : Moment}
    (checked : checkGenerationTime message moment.now = true) : Fresh message moment.now := by
  unfold checkGenerationTime at checked
  cases generated : message.generationTime with
  | none =>
    rw [generated] at checked
    cases checked
  | some time =>
    rw [generated] at checked
    simp only at checked
    split_ifs at checked with future past
    refine ⟨time, generated, ?_, ?_⟩
    · have late := UInt64.le_iff_toNat_le.mp (UInt64.not_lt.mp past)
      have lower := convertTime64_toNat (moment.now - generationTimePast message)
      have small := moment.now_lt
      omega
    · have early := UInt64.le_iff_toNat_le.mp (UInt64.not_lt.mp future)
      have upper := convertTime64_toNat (moment.now + generationTimeFuture)
      have small := moment.now_lt
      have window : generationTimeFuture = 40000 := rfl
      omega

/-- Permissions are looked up for the last 32 bits, which are the ITS-AID if it has no others. -/
theorem assignPermissions_permits {ticket : Certificate} {message : SecuredMessage} {itsAid : IntX}
    {permissions : ByteBuffer} (claimed : message.itsAid = some itsAid)
    (narrow : itsAid.value.toNat < 2 ^ 32)
    (assigned : assignPermissions ticket itsAid.value.toUInt32 = some permissions) :
    Permits ticket message := by
  unfold assignPermissions at assigned
  cases listed : ticket.itsAidSspList with
  | none =>
    rw [listed] at assigned
    cases assigned
  | some list =>
    rw [listed] at assigned
    obtain ⟨permission, found, _⟩ := Option.map_eq_some_iff.mp assigned
    refine ⟨itsAid, list, claimed, listed, permission, List.mem_of_find?_eq_some found, ?_⟩
    have same : permission.itsAid.value = itsAid.value.toUInt32.toUInt64 := by
      simpa using List.find?_some found
    have whole : itsAid.value.toUInt32.toUInt64 = itsAid.value := by
      apply UInt64.toNat_inj.mp
      simp only [UInt32.toNat_toUInt64, UInt64.toNat_toUInt32]
      exact Nat.mod_eq_of_lt narrow
    cases permission with
    | mk aid ssp =>
      cases aid
      cases itsAid
      exact congrArg IntX.mk (same.trans whole)

/-! ### Certified certificates -/

/-- **The certificate passes the checks** of the validator, of the time and of the region. -/
structure Passes (ctx : Context) (moment : Moment) (cache : CertificateCache) (cert : Certificate) :
    Prop where
  valid : (checkCertificate ctx moment.now cert cache).1 = .ok none
  time : checkCertificateTime cert moment.now = true
  region : checkCertificateRegion ctx.geod cert moment.positionFix = true

/-- **A certified certificate**: at one of the past messages it passed the checks, on a cache of
certified certificates. -/
inductive Certified (ctx : Context) (past : List Moment) : Certificate → Prop
  | admitted {cert : Certificate} {cache : CertificateCache} {moment : Moment} : moment ∈ past →
      (∀ known ∈ cache.certificates, Certified ctx past known) → Passes ctx moment cache cert →
      Certified ctx past cert

variable {ctx : Context} {past : List Moment}

theorem Certified.later {cert : Certificate} (moment : Moment) (certified : Certified ctx past cert) :
    Certified ctx (moment :: past) cert := by
  induction certified with
  | admitted member _ passes ih => exact .admitted (List.mem_cons_of_mem moment member) ih passes

/-- What the validator has found, at the certificate itself. -/
theorem Certified.valid {cert : Certificate} (certified : Certified ctx past cert) :
    Valid ctx (Certified ctx past) cert := by
  cases certified with
  | @admitted _ cache moment _ known passes =>
    have valid := passes.valid
    have found := checkCertificate_ensures ctx moment.now cert (Certified ctx past)
    rcases ran : checkCertificate ctx moment.now cert cache with ⟨outcome, after⟩
    rw [ran] at valid
    cases valid
    exact (found.ok known ran).2 rfl

/-- **The chain of a certified ticket**: an authority that is certified itself has issued it, and a
trusted root has issued the authority. -/
theorem Certified.chain {ticket : Certificate} (certified : Certified ctx past ticket)
    (type : ticket.subjectInfo.subjectType = SubjectType.authorizationTicket) :
    ∃ authority, Certified ctx past authority ∧ IssuedBy ctx ticket authority ∧
      ∃ root ∈ ctx.trustStore.certificates, IssuedBy ctx authority root := by
  rcases certified.valid with ⟨_, authority, known, authorityType, issued⟩ | ⟨other, _⟩
  · refine ⟨authority, known, issued, ?_⟩
    rcases known.valid with ⟨other, _⟩ | ⟨_, root, trusted, issuedByRoot⟩
    · rw [authorityType] at other
      cases other
    · exact ⟨root, trusted, issuedByRoot⟩
  · rw [type] at other
    cases other

/-! ### The service, part by part -/

section Service

open Serve

variable {moment : Moment} {itsAid : UInt32} {P : CertificateCache → Prop} {I : Certificate → Prop}

/-- Every certificate in the cache of the service has the property. -/
abbrev AllCached (I : Certificate → Prop) (service : Service) : Prop := service.cache.All I

/-- The certificates that pass the checks at the moment have the property. -/
def Admits (ctx : Context) (moment : Moment) (I : Certificate → Prop) : Prop :=
  ∀ cache cert, CertificateCache.All I cache → Passes ctx moment cache cert → I cert

theorem onCache_ensures {α : Type} {act : Action CertificateCache Thrown α}
    {Q : α → CertificateCache → Prop} {E : CertificateCache → Prop} (ensures : Ensures P act Q E) :
    Ensures (fun service => P service.cache) (onCache act) (fun value service => Q value service.cache)
      fun service => E service.cache := by
  intro service begins
  have result := ensures service.cache begins
  unfold onCache
  rcases ran : act service.cache with ⟨fault | value, cache⟩
  · rw [ran] at result
    exact result
  · rw [ran] at result
    exact result

theorem request_ensures {asked : List PolicyRequest} {E : Service → Prop} :
    Ensures (fun service => P service.cache) (request asked) (fun _ service => P service.cache) E :=
  .update fun _ begins => begins

/-- What the validator finds valid, it finds valid on a cache of certified certificates. -/
theorem checkCertificate_onCache (cert : Certificate) :
    Ensures (AllCached I) (onCache (checkCertificate ctx moment.now cert))
      (fun validity service => AllCached I service ∧ (validity = none →
        ∃ cache : CertificateCache, cache.All I ∧
          (checkCertificate ctx moment.now cert cache).1 = .ok none))
      (AllCached I) := by
  have validator := (checkCertificate_ensures ctx moment.now cert I).ran
  refine @onCache_ensures _ _ _ (fun validity after => after.All I ∧
    (validity = none → ∃ cache : CertificateCache, cache.All I ∧
      (checkCertificate ctx moment.now cert cache).1 = .ok none)) _
    (validator.mono (fun _ => id) ?_)
  rintro validity after ⟨⟨all, _⟩, cache, known, ran⟩
  refine ⟨all, ?_⟩
  rintro rfl
  exact ⟨cache, known, ran⟩

theorem insert_ensures {cert : Certificate} (certified : I cert) :
    Ensures (AllCached I) (insert ctx moment.now cert) (fun _ => AllCached I)
      (AllCached I) :=
  onCache_ensures (.update fun _ all => all.insert certified)

theorem lookup_ensures {now : ℕ} {id : HashedId8} {type : SubjectType} {E : Service → Prop} :
    Ensures (AllCached I) (lookup now id type) (fun _ => AllCached I) E :=
  fun _ all => all.lookup

variable (admits : Admits ctx moment I)

include admits

theorem precheck_ensures (cert : Certificate) :
    Ensures (AllCached I) (precheck ctx moment itsAid cert)
      (fun _ => AllCached I) (AllCached I) := by
  refine .ite (fun authority => .bind (checkCertificate_onCache cert) fun validity => ?_)
    fun _ => .pure fun _ => id
  refine .ite (fun _ => .fail fun _ => And.left) fun valid => ?_
  refine .ite (fun _ => .fail fun _ => And.left) fun checked => ?_
  refine .given (F := I cert) ?_ fun certified => ?_
  · rintro service ⟨all, found⟩
    obtain ⟨cache, known, ran⟩ := found (not_not.mp valid)
    obtain ⟨time, region⟩ := not_not.mp checked
    exact admits cache cert known ⟨ran, time, region⟩
  · exact .mono (insert_ensures certified) (fun _ => And.left) fun _ _ => id

theorem precheckChain_ensures (chain : List Certificate) :
    Ensures (AllCached I) (precheckChain ctx moment itsAid chain)
      (fun _ => AllCached I) (AllCached I) := by
  induction chain with
  | nil => exact .pure fun _ => id
  | cons cert rest ih => exact .bind (precheck_ensures admits cert) fun _ => ih

omit admits

theorem greet_ensures {now : ℕ} {signerHash : HashedId8} :
    Ensures (AllCached I) (greet now itsAid signerHash) (fun _ => AllCached I)
      (AllCached I) :=
  .ite (fun _ => .bind lookup_ensures fun _ => request_ensures) fun _ => .pure fun _ => id

/-- The certificate came with the message. -/
def CameWith (message : SecuredMessage) (cert : Certificate) : Prop :=
  message.signerInfo = some (.certificate cert) ∨
    ∃ chain, message.signerInfo = some (.certificateChain chain) ∧ cert ∈ chain

/-- Where a candidate is from: from the cache as it was before the message, or from the message. -/
def Origin (message : SecuredMessage) (cached : CertificateCache) (fromCache : Bool)
    (cert : Certificate) : Prop :=
  if fromCache then cert ∈ cached.certificates else CameWith message cert

theorem possibleCertificates_ensures (admits : Admits ctx moment I) (message : SecuredMessage)
    {cached : CertificateCache} (known : cached.All I) :
    Ensures (fun service => service.cache = cached)
      (possibleCertificates ctx moment itsAid message.signerInfo)
      (fun candidates service => AllCached I service ∧
        ∀ cert ∈ candidates.certificates, Origin message cached candidates.fromCache cert)
      (AllCached I) := by
  have certified : ∀ service : Service, service.cache = cached → AllCached I service := by
    rintro service rfl
    exact known
  cases announced : message.signerInfo with
  | none => exact .pure fun service same => ⟨certified service same, nofun⟩
  | some info =>
    cases info with
    | self => exact .fail certified
    | certificateDigestWithOtherAlgorithm => exact .fail certified
    | certificate cert =>
      refine .bind (.mono greet_ensures certified fun _ _ => id) fun _ => .pure ?_
      refine fun service all => ⟨all, fun other member => ?_⟩
      rw [List.mem_singleton.mp member]
      exact Or.inl announced
    | certificateDigestWithSha256 signerHash =>
      refine .bind (Q := fun found service => AllCached I service ∧
        ∀ cert ∈ found, cert ∈ cached.certificates) ?_ fun found => .pure fun _ => id
      rintro service rfl
      exact ⟨CertificateCache.All.lookup known,
        fun cert member => (CertificateCache.mem_lookup member).1⟩
    | certificateChain chain =>
      unfold possibleCertificates
      simp only
      split
      next => exact .fail certified
      next ticket last =>
        refine .ite (fun _ => .fail certified) fun _ => ?_
        refine .bind (.mono (precheckChain_ensures admits chain) certified fun _ _ => id) fun _ => ?_
        refine .pure fun service all => ⟨all, fun other member => ?_⟩
        rw [List.mem_singleton.mp member]
        exact Or.inr ⟨chain, announced, List.mem_of_getLast? last⟩

/-- The signature verifies under the key of the certificate, which is a ticket. -/
structure SignedBy (ctx : Context) (signedBytes : ByteBuffer) (sig : Signature)
    (ticket : Certificate) : Prop where
  ticketType : ticket.subjectInfo.subjectType = SubjectType.authorizationTicket
  verifies : ∃ key, getPublicKey ctx ticket = .ok (some key) ∧
    ctx.verifyData key signedBytes sig = true

theorem findSigner_ensures {signedBytes : ByteBuffer} {sig : Signature}
    (certificates : List Certificate) :
    Ensures (AllCached I) (findSigner ctx itsAid signedBytes sig certificates)
      (fun signer service => AllCached I service ∧ ∀ cert, signer = some cert →
        cert ∈ certificates ∧ SignedBy ctx signedBytes sig cert)
      (AllCached I) := by
  induction certificates with
  | nil => exact .pure fun _ all => ⟨all, nofun⟩
  | cons cert rest ih =>
    refine .ite (fun _ => .fail fun _ => id) fun ticket => ?_
    refine .bind (onCache_ensures (Q := fun publicKey cache => cache.All I ∧
      getPublicKey ctx cert = .ok publicKey) (.lift ?_ fun _ => id)) fun publicKey => ?_
    · exact fun publicKey extracted cache all => ⟨all, extracted⟩
    · cases publicKey with
      | none => exact .fail fun _ => And.left
      | some key =>
        refine .ite (fun verified => .pure ?_) fun _ => .mono ih (fun _ => And.left) ?_
        · rintro service ⟨all, extracted⟩
          refine ⟨all, ?_⟩
          rintro _ ⟨⟩
          exact ⟨List.mem_cons_self, not_not.mp ticket, key, extracted, verified⟩
        · rintro signer service ⟨all, found⟩
          refine ⟨all, fun other same => ?_⟩
          obtain ⟨member, signed⟩ := found other same
          exact ⟨List.mem_cons_of_mem cert member, signed⟩

/-- **What is checked of the signer.** -/
structure Accepted (ctx : Context) (I : Certificate → Prop) (moment : Moment) (message : SecuredMessage)
    (itsAid : UInt32) (signer : Certificate) : Prop where
  certified : I signer
  location : checkGenerationLocation ctx.geod message signer = true
  time : checkCertificateTime signer moment.now = true
  region : checkCertificateRegion ctx.geod signer moment.positionFix = true
  permits : ∃ permissions, assignPermissions signer itsAid = some permissions

theorem validate_ensures {fromCache : Bool} (signer : Certificate) :
    Ensures (AllCached I) (validate ctx moment fromCache signer)
      (fun validity service => AllCached I service ∧ (validity = none →
        fromCache = true ∨ ∃ cache : CertificateCache, cache.All I ∧
          (checkCertificate ctx moment.now signer cache).1 = .ok none))
      (AllCached I) := by
  refine .ite (fun cached => .pure fun _ all => ⟨all, fun _ => .inl cached⟩) fun _ => ?_
  exact .mono (checkCertificate_onCache signer) (fun _ => id) fun _ _ ⟨all, found⟩ =>
    ⟨all, fun valid => .inr (found valid)⟩

theorem acceptSigner_ensures (admits : Admits ctx moment I) {message : SecuredMessage} {fromCache : Bool}
    {signer : Certificate} (known : fromCache = true → I signer) :
    Ensures (AllCached I) (acceptSigner ctx moment message itsAid fromCache signer)
      (fun _ service => AllCached I service ∧
        Accepted ctx I moment message itsAid signer)
      (AllCached I) := by
  refine .ite (fun _ => .fail fun _ => id) fun location => ?_
  refine .bind (validate_ensures signer) fun validity => ?_
  split
  next => exact .bind (.update fun _ => id) fun _ => .fail fun _ => And.left
  next => exact .fail fun _ => And.left
  next =>
    refine .ite (fun _ => .fail fun _ => And.left) fun time => ?_
    refine .ite (fun _ => .fail fun _ => And.left) fun region => ?_
    split
    next => exact .fail fun _ => And.left
    next permissions assigned =>
      refine .given (F := I signer) ?_ fun certified => ?_
      · rintro service ⟨all, found⟩
        rcases found rfl with cached | ⟨cache, allKnown, ran⟩
        · exact known cached
        · exact admits cache signer allKnown ⟨ran, not_not.mp time, not_not.mp region⟩
      · refine .bind (.mono (insert_ensures certified) (fun _ => And.left) fun _ _ => id) fun _ => ?_
        exact .pure fun _ all => ⟨all, certified, not_not.mp location, not_not.mp time,
          not_not.mp region, permissions, assigned⟩

/-- **What is checked of the message.** -/
structure Verified (ctx : Context) (I : Certificate → Prop) (moment : Moment) (message : SecuredMessage)
    (itsAid : UInt32) (ticket : Certificate) : Prop where
  generation : checkGenerationTime message moment.now = true
  signed : ∃ sig, message.signature = some sig ∧ SignedBy ctx message.signedBytes sig ticket
  accepted : Accepted ctx I moment message itsAid ticket

theorem verifyCandidates_ensures (admits : Admits ctx moment I) {message : SecuredMessage}
    {cached : CertificateCache} (known : cached.All I) (candidates : Candidates) :
    Ensures (fun service => AllCached I service ∧
        ∀ cert ∈ candidates.certificates, Origin message cached candidates.fromCache cert)
      (verifyCandidates ctx moment message itsAid candidates)
      (fun _ service => AllCached I service ∧ ∃ ticket,
        Origin message cached candidates.fromCache ticket ∧
          Verified ctx I moment message itsAid ticket)
      (AllCached I) := by
  refine .given (fun _ => And.right) fun origin => ?_
  refine .ite (fun _ => ?_) fun _ => .ite (fun _ => .fail fun _ => And.left) fun generation => ?_
  · refine .bind (Q := fun _ => AllCached I) (.update fun _ found => found.1) fun _ => ?_
    exact .fail fun _ => id
  · split
    next => exact .fail fun _ => And.left
    next sig there =>
      refine .bind (.mono (findSigner_ensures _) (fun _ => And.left) fun _ _ => id) fun signer => ?_
      cases signer with
      | none =>
        refine .bind (Q := fun _ => AllCached I) (.update fun _ found => found.1) fun _ => ?_
        exact .ite (fun _ => .fail fun _ => id) fun _ => .fail fun _ => id
      | some signer =>
        refine .given (fun _ found => found.2 signer rfl) fun ⟨member, signed⟩ => ?_
        have from_ := origin signer member
        refine .mono (acceptSigner_ensures admits fun fromCache => ?_) (fun _ => And.left) ?_
        · rw [Origin, if_pos fromCache] at from_
          exact known signer from_
        · exact fun _ _ ⟨all, accepted⟩ =>
            ⟨all, signer, from_, not_not.mp generation, ⟨sig, there, signed⟩, accepted⟩

/-- **The service**: it returns a confirm only for a verified message, and however it ends, what is
true of all cached certificates and of those that pass the checks stays true of the cache. -/
theorem verifyMessage_ensures (admits : Admits ctx moment I) (message : SecuredMessage)
    {cached : CertificateCache} (known : cached.All I) :
    Ensures (fun service => service.cache = cached) (verifyMessage ctx moment message)
      (fun _ service => AllCached I service ∧ ∃ itsAid ticket fromCache,
        message.itsAid = some itsAid ∧ Origin message cached fromCache ticket ∧
          Verified ctx I moment message itsAid.value.toUInt32 ticket)
      (AllCached I) := by
  have certified : ∀ service : Service, service.cache = cached → AllCached I service := by
    rintro service rfl
    exact known
  refine .ite (fun _ => .fail certified) fun _ => ?_
  refine .bind (Q := fun _ service => service.cache = cached) (.update fun _ => id) fun _ => ?_
  split
  next => exact .fail certified
  next itsAid claimed =>
    refine .bind (possibleCertificates_ensures admits message known) fun candidates => ?_
    refine .mono (verifyCandidates_ensures admits known candidates) (fun _ => id) ?_
    exact fun _ _ ⟨all, ticket, from_, verified⟩ =>
      ⟨all, itsAid, ticket, candidates.fromCache, claimed, from_, verified⟩

end Service

/-! ### Runs -/

/-- **The receiver**: the service, and the moments of the messages that it has processed. -/
structure Receiver where
  service : Service
  past : List Moment

namespace Receiver

def initial : Receiver := ⟨⟨[], []⟩, []⟩

/-- Process a message. -/
def step (ctx : Context) (receiver : Receiver) (arrival : Moment × SecuredMessage) :
    Option Receiver :=
  some ⟨(verify ctx arrival.1 arrival.2 receiver.service).2, arrival.1 :: receiver.past⟩

/-- Every certificate in the cache is certified. -/
def CacheCertified (ctx : Context) (receiver : Receiver) : Prop :=
  receiver.service.cache.All (Certified ctx receiver.past)

/-- **What may be in the cache after a message**: what was there before, and what has passed the
checks at this message. -/
structure Admissible (ctx : Context) (receiver : Receiver) (moment : Moment) (cert : Certificate) :
    Prop where
  certified : Certified ctx (moment :: receiver.past) cert
  passed : cert ∈ receiver.service.cache.certificates ∨ ∃ cache : CertificateCache,
    cache.All (Certified ctx (moment :: receiver.past)) ∧ Passes ctx moment cache cert

/-- **The message is authentic**: the ticket has signed it, and everything else about the ticket is in
order but for its permissions. -/
structure Authentic (ctx : Context) (receiver : Receiver) (moment : Moment)
    (message : SecuredMessage) (ticket : Certificate) : Prop where
  origin : CameWith message ticket ∨ ticket ∈ receiver.service.cache.certificates
  signed : ∃ sig, message.signature = some sig ∧ SignedBy ctx message.signedBytes sig ticket
  certified : Certified ctx (moment :: receiver.past) ticket
  chain : ∃ authority, Certified ctx (moment :: receiver.past) authority ∧
    IssuedBy ctx ticket authority ∧
      ∃ root ∈ ctx.trustStore.certificates, IssuedBy ctx authority root
  valid : ValidAt ticket moment.now
  region : Covers ctx.geod ticket moment.positionFix.location
  generationRegion : ¬ isCa message → ∃ location, message.generationLocation = some location ∧
    Covers ctx.geod ticket location.toTwoD
  fresh : Fresh message moment.now

/-- **The message is sound**: the ticket permits its ITS-AID, too. -/
structure Sound (ctx : Context) (receiver : Receiver) (moment : Moment) (message : SecuredMessage)
    (ticket : Certificate) : Prop extends Authentic ctx receiver moment message ticket where
  permits : Permits ticket message

end Receiver

open Receiver

section Runs

variable {receiver : Receiver} {moment : Moment} {message : SecuredMessage}

/-- What one call of the service does. -/
theorem verify_ensures (certified : CacheCertified ctx receiver) :
    (verify ctx moment message receiver.service).2.cache.All (Admissible ctx receiver moment) ∧
      ∀ confirm, (verify ctx moment message receiver.service).1 = some confirm →
        confirm.report = .success → ∃ itsAid ticket fromCache, message.itsAid = some itsAid ∧
          Origin message receiver.service.cache fromCache ticket ∧
            Verified ctx (Admissible ctx receiver moment) moment message itsAid.value.toUInt32
              ticket := by
  have admits : Admits ctx moment (Admissible ctx receiver moment) := by
    intro cache cert all passes
    have known : cache.All (Certified ctx (moment :: receiver.past)) :=
      fun other member => (all other member).certified
    exact ⟨.admitted List.mem_cons_self known passes, .inr ⟨cache, known, passes⟩⟩
  have known : receiver.service.cache.All (Admissible ctx receiver moment) :=
    fun cert member => ⟨(certified cert member).later moment, .inl member⟩
  have ensures := verifyMessage_ensures admits message known
  have result := ensures receiver.service rfl
  unfold verify
  rcases ran : verifyMessage ctx moment message receiver.service with ⟨exit | confirm, after⟩
  · rw [ran] at result
    cases exit with
    | thrown => exact ⟨result, nofun⟩
    | rejection rejection =>
      refine ⟨result, ?_⟩
      rintro _ ⟨⟩ success
      exact absurd success rejection.failed
  · rw [ran] at result
    exact ⟨result.1, fun _ _ _ => result.2⟩

/-- **The cache holds certified certificates, whatever arrives in whatever order.** -/
theorem cacheCertified_reachable :
    ∀ receiver, Reachable (· = Receiver.initial) (Receiver.step ctx) receiver →
      CacheCertified ctx receiver := by
  refine GuardedReach.invariant ?_ ?_
  · rintro _ rfl cert ⟨⟩
  · rintro receiver ⟨moment, message⟩ _ _ certified _ ⟨⟩
    exact fun cert member => ((verify_ensures certified).1 cert member).certified

theorem Verified.authentic {itsAid : UInt32} {ticket : Certificate} {fromCache : Bool}
    (from_ : Origin message receiver.service.cache fromCache ticket)
    (verified : Verified ctx (Admissible ctx receiver moment) moment message itsAid ticket) :
    Authentic ctx receiver moment message ticket := by
  obtain ⟨sig, there, signed⟩ := verified.signed
  have certified := verified.accepted.certified.certified
  exact {
    origin := by
      unfold Origin at from_
      split_ifs at from_
      · exact .inr from_
      · exact .inl from_
    signed := ⟨sig, there, signed⟩
    certified := certified
    chain := certified.chain signed.ticketType
    valid := checkCertificateTime_iff.mp verified.accepted.time
    region := checkCertificateRegion_covers verified.accepted.region
    generationRegion := checkGenerationLocation_covers verified.accepted.location
    fresh := checkGenerationTime_fresh verified.generation }

/-- **Verification is sound.** In every run the cache holds certified certificates only, a message
adds only such that pass the checks then, and a success means that the message is authentic; it is
sound if its ITS-AID has no more bits than the confirm's. -/
theorem verify_sound (ctx : Context) (receiver : Receiver)
    (reached : Reachable (· = Receiver.initial) (Receiver.step ctx) receiver) :
    CacheCertified ctx receiver ∧ ∀ moment message,
      (verify ctx moment message receiver.service).2.cache.All (Admissible ctx receiver moment) ∧
        ∀ confirm, (verify ctx moment message receiver.service).1 = some confirm →
          confirm.report = .success → ∃ ticket, Authentic ctx receiver moment message ticket ∧
            ((∀ itsAid, message.itsAid = some itsAid → itsAid.value.toNat < 2 ^ 32) →
              Sound ctx receiver moment message ticket) := by
  have certified := cacheCertified_reachable receiver reached
  refine ⟨certified, fun moment message => ?_⟩
  obtain ⟨admissible, success⟩ := @verify_ensures ctx receiver moment message certified
  refine ⟨admissible, fun confirm returned succeeded => ?_⟩
  obtain ⟨itsAid, ticket, fromCache, claimed, from_, verified⟩ := success confirm returned succeeded
  obtain ⟨permissions, assigned⟩ := verified.accepted.permits
  refine ⟨ticket, verified.authentic from_, fun narrow => ⟨verified.authentic from_, ?_⟩⟩
  exact assignPermissions_permits claimed (narrow itsAid claimed) assigned

end Runs

/-! ### A small deployment -/

namespace Sample

/-- 32 times the same byte. -/
def fill (byte : UInt8) : Octets 32 := ⟨List.replicate 32 byte, List.length_replicate⟩

/-- A signature by the key. -/
def sign (key : UInt8) : Signature := ⟨.xCoordinateOnly (fill 0), fill key⟩

def checksum (bytes : ByteBuffer) : Octets 32 :=
  ⟨List.replicate 31 0 ++ [bytes.foldl UInt8.add 0], by rw [List.length_append, List.length_replicate]; rfl⟩

def attributes (key : UInt8) (permissions : SubjectAttribute) : List SubjectAttribute :=
  [.verificationKey (.ecdsaNistp256WithSha256 (.uncompressed (fill key) (fill 0))), .assurance 0,
    permissions]

def certificate (signerInfo : SignerInfo) (type : SubjectType) (key signer : UInt8)
    (permissions : SubjectAttribute) : Certificate :=
  .mk signerInfo ⟨type, []⟩ (attributes key permissions) [.timeStartAndEnd 0 2000] (sign signer)

def root : Certificate :=
  certificate .self SubjectType.rootCa 1 1 (.itsAidList [⟨36⟩, ⟨37⟩])

def authority : Certificate :=
  certificate (.certificateDigestWithSha256 (calculateHash checksum root))
    SubjectType.authorizationAuthority 2 1 (.itsAidList [⟨36⟩, ⟨37⟩])

/-- A ticket for the ITS-AID 36. -/
def ticket : Certificate :=
  certificate (.certificateDigestWithSha256 (calculateHash checksum authority))
    SubjectType.authorizationTicket 3 2 (.itsAidSspList [⟨⟨36⟩, []⟩])

/-- A signature verifies under the key that it repeats. -/
def context : Context where
  verifyData key _ sig := decide (key.x.1 = sig.s.1)
  decompressPoint
    | .uncompressed x y => some (x.1, y.1)
    | _ => none
  sha256 := checksum
  geod _ _ := 0
  trustStore := ⟨[root], by rintro _ (⟨⟩ | ⟨_, ⟨⟩⟩); rfl⟩
  ownCertificate _ := root
  ownChain _ := []

/-- At the second 1000. -/
def moment : Moment := ⟨1000000000, ⟨⟨0, 0⟩, true⟩, by decide⟩

def message (itsAid : UInt64) (signerInfo : SignerInfo) : SecuredMessage where
  headerFields := [.signerInfo signerInfo, .generationTime 1000000000,
    .generationLocation ⟨0, 0, ⟨[0, 0], rfl⟩⟩, .itsAid ⟨itsAid⟩]
  payload := ⟨signedPayload, []⟩
  trailerFields := [.signature (sign 3)]

/-- The message with the chain, then one with the ticket's digest. -/
def withChain (itsAid : UInt64) : SecuredMessage :=
  message itsAid (.certificateChain [authority, ticket])

def withDigest : SecuredMessage :=
  message 36 (.certificateDigestWithSha256 (calculateHash checksum ticket))

end Sample

/-- A ticket that came with a chain verifies the next message. -/
theorem verify_sound_digest : ∃ receiver ticket,
    Reachable (· = Receiver.initial) (Receiver.step Sample.context) receiver ∧
      Sound Sample.context receiver Sample.moment Sample.withDigest ticket := by
  obtain ⟨receiver, reached, success⟩ := run_reach (· = Receiver.initial)
    (Receiver.step Sample.context) (fun _ _ => True)
    (fun receiver => ((verify Sample.context Sample.moment Sample.withDigest receiver.service).1.any
      fun confirm => confirm.report = .success) = true)
    rfl [(Sample.moment, Sample.withChain 36)] (by decide +kernel)
  obtain ⟨confirm, returned, succeeded⟩ := (Option.any_eq_true _ _).mp success
  obtain ⟨_, verified⟩ := verify_sound Sample.context receiver reached
  obtain ⟨ticket, _, sound⟩ := (verified Sample.moment Sample.withDigest).2 confirm returned
    (of_decide_eq_true succeeded)
  refine ⟨receiver, ticket, reached, sound ?_⟩
  intro itsAid claimed
  cases claimed.symm.trans (rfl : Sample.withDigest.itsAid = some ⟨36⟩)
  decide

/-- **The ITS-AID 2³² + 36 passes with the permission for 36.** -/
theorem verify_not_sound :
    Reachable (· = Receiver.initial) (Receiver.step Sample.context) Receiver.initial ∧
      (verify Sample.context Sample.moment (Sample.withChain 0x100000024)
        Receiver.initial.service).1 = some ⟨.success, 36, [], none, none⟩ ∧
      ¬ ∃ ticket, Sound Sample.context Receiver.initial Sample.moment
        (Sample.withChain 0x100000024) ticket := by
  refine ⟨.start rfl, by decide +kernel, ?_⟩
  rintro ⟨ticket, sound⟩
  obtain ⟨itsAid, permissions, claimed, listed, permission, member, same⟩ := sound.permits
  cases claimed.symm.trans (rfl : (Sample.withChain 0x100000024).itsAid = some ⟨0x100000024⟩)
  rcases sound.origin with (sent | ⟨chain, sent, inChain⟩) | cached
  · cases sent
  · cases sent
    rcases inChain with _ | ⟨_, _ | ⟨_, ⟨⟩⟩⟩
    · cases listed
    · cases listed
      rcases member with _ | ⟨_, ⟨⟩⟩
      cases same
  · cases cached

end Vanet.Security
