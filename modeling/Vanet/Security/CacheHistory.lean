/-
**The certificate cache is an expiring multimap.**

`Touches` tells for each id, type and content when a certificate was inserted or found for the last time: what
the cache is for. A certificate can be found for its lifetime after that, and an insert looks for the
certificates of its id and type first. Contents are the bytes to sign: two certificates of one id with the
same bytes to sign differ in how their signature's point is written at most.

* `Reflects.lookup`, `Reflects.insert`: an operation on what the cache stores.
* `certificate_cache_refines`: over every run of the cache with its multimap and its heap.
* `not_tellsApart`: the certificates themselves are not told apart.
-/

import Mathlib.Logic.Function.Basic
import Vanet.Library.Run
import Vanet.Security.IndexedCache
import Vanet.Security.Soundness

namespace Vanet.Security

open Vanet.Library

/-! ### An expiring multimap -/

structure CacheKey (κ : Type) where
  id : HashedId8
  type : SubjectType
  content : κ
  deriving DecidableEq

/-- When the certificates were touched for the last time. -/
abbrev Touches (κ : Type) := CacheKey κ → Option ℕ

/-- What was touched at most its lifetime ago. -/
def aliveAt (now : ℕ) (type : SubjectType) (touched : Option ℕ) : Bool :=
  touched.any fun time => now ≤ time + CertificateCache.lifetime type

namespace Touches

variable {κ : Type} [DecidableEq κ]

/-- A lookup touches what it finds. -/
def lookup (now : ℕ) (id : HashedId8) (type : SubjectType) (touches : Touches κ) : Touches κ :=
  fun key => if key.id = id ∧ key.type = type ∧ aliveAt now type (touches key) then some now else touches key

/-- An insert looks up what there is of its id and type, and touches its own key. -/
def insert (now : ℕ) (key : CacheKey κ) (touches : Touches κ) : Touches κ :=
  if 0 < CertificateCache.lifetime key.type then
    Function.update (touches.lookup now key.id key.type) key (some now)
  else touches.lookup now key.id key.type

variable {touches : Touches κ} {now : ℕ} {key : CacheKey κ}

theorem insert_self (lasting : 0 < CertificateCache.lifetime key.type) :
    touches.insert now key key = some now := by
  unfold insert
  rw [if_pos lasting]
  exact Function.update_self ..

/-- What an insert finds alive stays so. -/
theorem insert_keeps (other : CacheKey κ) (alive : aliveAt now key.type (touches key) = true) :
    aliveAt now key.type (touches.insert now other key) = true := by
  have fresh : aliveAt now key.type (some now) = true := decide_eq_true (Nat.le_add_right ..)
  have looked : aliveAt now key.type (touches.lookup now other.id other.type key) = true := by
    unfold lookup
    split_ifs
    · exact fresh
    · exact alive
  unfold insert
  split_ifs
  · by_cases same : key = other
    · rw [same, Function.update_self, ← same]
      exact fresh
    · rw [Function.update_of_ne same]
      exact looked
  · exact looked

end Touches

/-! ### Histories -/

inductive CacheCall
  | insert (now : ℕ) (certificate : Certificate)
  | lookup (now : ℕ) (id : HashedId8) (type : SubjectType)

def CacheCall.now : CacheCall → ℕ
  | insert now _ => now
  | lookup now _ _ => now

section History

variable (sha256 : ByteBuffer → Octets 32) {κ : Type} (content : Certificate → κ)

/-- The key of a certificate. -/
def Certificate.cacheKey (certificate : Certificate) : CacheKey κ :=
  ⟨calculateHash sha256 certificate, certificate.subjectInfo.subjectType, content certificate⟩

/-- **What has been touched** after some calls, the newest of them first. -/
def touched [DecidableEq κ] : List CacheCall → Touches κ
  | [] => fun _ => none
  | .insert now certificate :: earlier =>
    (touched earlier).insert now (certificate.cacheKey sha256 content)
  | .lookup now id type :: earlier => (touched earlier).lookup now id type

/-- **What a lookup should answer**: each content of the id and type that is alive, once, with a certificate
that was inserted. -/
structure Answers [DecidableEq κ] (history : List CacheCall) (now : ℕ) (id : HashedId8) (type : SubjectType)
    (certs : List Certificate) : Prop where
  inserted : ∀ cert ∈ certs, calculateHash sha256 cert = id ∧ cert.subjectInfo.subjectType = type ∧
    ∃ time, .insert time cert ∈ history
  exactly : ∀ value, value ∈ certs.map content ↔
    aliveAt now type (touched sha256 content history ⟨id, type, value⟩)
  once : (certs.map content).Nodup

end History

/-! ### What is stored -/

/-- The bytes to sign are the content of a certificate. -/
def CachedCertificate.key (entry : CachedCertificate) : CacheKey ByteBuffer :=
  ⟨entry.id, entry.certificate.subjectInfo.subjectType, entry.certificate.convertForSigning⟩

/-- **The stored certificates are those that have been touched**: each has the expiry that it should have, and
none is missing that has not expired. -/
structure Reflects (sha256 : ByteBuffer → Octets 32) (inserted : Certificate → Prop) (touches : Touches ByteBuffer)
    (clock : ℕ) (entries : CertificateCache) : Prop where
  known : ∀ entry ∈ entries, entry.id = calculateHash sha256 entry.certificate ∧ inserted entry.certificate
  lasting : ∀ entry ∈ entries, 0 < CertificateCache.lifetime entry.key.type
  times : ∀ entry ∈ entries, ∃ time, touches entry.key = some time ∧
    entry.expiry = time + CertificateCache.lifetime entry.key.type
  complete : ∀ key time, touches key = some time → clock ≤ time + CertificateCache.lifetime key.type →
    ∃ entry ∈ entries, entry.key = key
  distinct : (entries.map CachedCertificate.key).Nodup

namespace Reflects

variable {sha256 : ByteBuffer → Octets 32} {inserted : Certificate → Prop} {touches : Touches ByteBuffer}
  {clock now : ℕ} {entries : CertificateCache}

/-- What has not expired is alive. -/
theorem alive (reflects : Reflects sha256 inserted touches clock entries) {entry : CachedCertificate}
    (member : entry ∈ CertificateCache.dropExpired now entries) :
    aliveAt now entry.key.type (touches entry.key) = true := by
  obtain ⟨stored, live⟩ := List.mem_filter.mp member
  obtain ⟨time, touched, expiry⟩ := reflects.times entry stored
  rw [touched]
  refine decide_eq_true ?_
  rw [← expiry]
  exact not_lt.mp (of_decide_eq_true live)

/-- What is alive has not expired. -/
theorem stored (reflects : Reflects sha256 inserted touches clock entries) (later : clock ≤ now)
    {key : CacheKey ByteBuffer} (alive : aliveAt now key.type (touches key) = true) :
    ∃ entry ∈ CertificateCache.dropExpired now entries, entry.key = key := by
  obtain ⟨time, touched, recent⟩ := (Option.any_eq_true _ _).mp alive
  have recent : now ≤ time + CertificateCache.lifetime key.type := of_decide_eq_true recent
  obtain ⟨entry, member, rfl⟩ := reflects.complete key time touched (later.trans recent)
  obtain ⟨other, same, expiry⟩ := reflects.times entry member
  obtain rfl : time = other := Option.some.inj (touched.symm.trans same)
  refine ⟨entry, List.mem_filter.mpr ⟨member, decide_eq_true (not_lt.mpr ?_)⟩, rfl⟩
  rw [expiry]
  exact recent

/-- What a lookup leaves: the live entries, and those that match are renewed. -/
theorem mem_lookup {id : HashedId8} {type : SubjectType} {entry : CachedCertificate} :
    entry ∈ (CertificateCache.lookup now id type entries).2 ↔
      ∃ old ∈ CertificateCache.dropExpired now entries,
        (if CertificateCache.Matches id type old then CertificateCache.refresh now old else old) = entry :=
  List.mem_map

/-- Only the expiry of an entry is renewed. -/
theorem renewed_eq (id : HashedId8) (type : SubjectType) (entry : CachedCertificate) :
    ∃ expiry, (if CertificateCache.Matches id type entry then CertificateCache.refresh now entry
      else entry) = { entry with expiry := expiry } := by
  unfold CertificateCache.refresh
  dsimp only
  split_ifs
  · exact ⟨_, rfl⟩
  · exact ⟨entry.expiry, rfl⟩
  · exact ⟨entry.expiry, rfl⟩

theorem renewed_key (id : HashedId8) (type : SubjectType) (entry : CachedCertificate) :
    (if CertificateCache.Matches id type entry then CertificateCache.refresh now entry else entry).key =
      entry.key := by
  obtain ⟨expiry, renewed⟩ := @renewed_eq now id type entry
  rw [renewed]
  rfl

/-- The keys stay. -/
theorem lookup_keys (id : HashedId8) (type : SubjectType) :
    (CertificateCache.lookup now id type entries).2.map CachedCertificate.key =
      (CertificateCache.dropExpired now entries).map CachedCertificate.key := by
  unfold CertificateCache.lookup
  rw [List.map_map]
  exact List.map_congr_left fun entry _ => renewed_key id type entry

/-- **A lookup touches what it finds.** -/
theorem lookup (reflects : Reflects sha256 inserted touches clock entries) (later : clock ≤ now)
    (id : HashedId8) (type : SubjectType) :
    Reflects sha256 inserted (touches.lookup now id type) now
      (CertificateCache.lookup now id type entries).2 := by
  have old : ∀ entry ∈ CertificateCache.dropExpired now entries, entry ∈ entries :=
    fun entry member => List.mem_of_mem_filter member
  refine ⟨?_, ?_, ?_, ?_, ?_⟩
  · intro entry member
    obtain ⟨before, live, rfl⟩ := mem_lookup.mp member
    obtain ⟨expiry, renewed⟩ := @renewed_eq now id type before
    rw [renewed]
    exact reflects.known before (old before live)
  · intro entry member
    obtain ⟨before, live, rfl⟩ := mem_lookup.mp member
    rw [renewed_key]
    exact reflects.lasting before (old before live)
  · intro entry member
    obtain ⟨before, live, rfl⟩ := mem_lookup.mp member
    obtain ⟨time, touched, expiry⟩ := reflects.times before (old before live)
    have lasting := reflects.lasting before (old before live)
    have alive := reflects.alive live
    rw [renewed_key]
    unfold Touches.lookup
    by_cases matching : CertificateCache.Matches id type before
    · obtain ⟨rfl, rfl⟩ := matching
      refine ⟨now, if_pos ⟨rfl, rfl, alive⟩, ?_⟩
      rw [if_pos ⟨rfl, rfl⟩]
      change 0 < CertificateCache.lifetime before.certificate.subjectInfo.subjectType at lasting
      unfold CertificateCache.refresh
      dsimp only
      rw [if_pos lasting]
      rfl
    · rw [if_neg matching, if_neg fun both => matching ⟨both.1, both.2.1⟩]
      exact ⟨time, touched, expiry⟩
  · intro key time touched recent
    have alive : aliveAt now key.type (touches key) = true := by
      unfold Touches.lookup at touched
      split_ifs at touched with found
      · rw [found.2.1]
        exact found.2.2
      · rw [touched]
        exact decide_eq_true recent
    obtain ⟨entry, live, same⟩ := reflects.stored later alive
    exact ⟨_, mem_lookup.mpr ⟨entry, live, rfl⟩, (renewed_key id type entry).trans same⟩
  · rw [lookup_keys]
    exact reflects.distinct.sublist (List.filter_sublist.map _)

/-- **What a lookup finds.** -/
theorem found_iff (reflects : Reflects sha256 inserted touches clock entries) (later : clock ≤ now)
    (id : HashedId8) (type : SubjectType) (value : ByteBuffer) :
    value ∈ (CertificateCache.lookup now id type entries).1.map Certificate.convertForSigning ↔
      aliveAt now type (touches ⟨id, type, value⟩) = true := by
  constructor
  · intro found
    obtain ⟨cert, among, rfl⟩ := List.mem_map.mp found
    obtain ⟨entry, member, rfl⟩ := List.mem_map.mp among
    obtain ⟨live, matching⟩ := List.mem_filter.mp member
    obtain ⟨rfl, rfl⟩ := of_decide_eq_true matching
    exact reflects.alive live
  · intro alive
    obtain ⟨entry, live, same⟩ := @stored _ _ _ _ _ _ reflects later ⟨id, type, value⟩ alive
    refine List.mem_map.mpr ⟨entry.certificate, List.mem_map.mpr ⟨entry, ?_, rfl⟩,
      congrArg CacheKey.content same⟩
    exact List.mem_filter.mpr ⟨live, decide_eq_true ⟨congrArg CacheKey.id same, congrArg CacheKey.type same⟩⟩

theorem found_once (reflects : Reflects sha256 inserted touches clock entries) (id : HashedId8)
    (type : SubjectType) :
    ((CertificateCache.lookup now id type entries).1.map Certificate.convertForSigning).Nodup := by
  set found := (CertificateCache.dropExpired now entries).filter fun entry =>
    CertificateCache.Matches id type entry
  have distinct : (found.map CachedCertificate.key).Nodup :=
    reflects.distinct.sublist ((List.filter_sublist.trans List.filter_sublist).map _)
  have keys : found.map CachedCertificate.key =
      ((CertificateCache.lookup now id type entries).1.map Certificate.convertForSigning).map
        (CacheKey.mk id type) := by
    unfold CertificateCache.lookup CertificateCache.certificates
    rw [List.map_map, List.map_map]
    refine List.map_congr_left fun entry member => ?_
    obtain ⟨rfl, rfl⟩ := of_decide_eq_true (List.mem_filter.mp member).2
    rfl
  rw [keys] at distinct
  exact distinct.of_map _

theorem mono (reflects : Reflects sha256 inserted touches clock entries) {more : Certificate → Prop}
    (weaken : ∀ cert, inserted cert → more cert) : Reflects sha256 more touches clock entries :=
  ⟨fun entry member => ⟨(reflects.known entry member).1, weaken _ (reflects.known entry member).2⟩,
    reflects.lasting, reflects.times, reflects.complete, reflects.distinct⟩

/-- A new entry, whose key is not among the others. -/
theorem append (reflects : Reflects sha256 inserted touches now entries) {entry : CachedCertificate}
    (known : entry.id = calculateHash sha256 entry.certificate ∧ inserted entry.certificate)
    (lasting : 0 < CertificateCache.lifetime entry.key.type)
    (expiry : entry.expiry = now + CertificateCache.lifetime entry.key.type)
    (new : entry.key ∉ entries.map CachedCertificate.key) :
    Reflects sha256 inserted (Function.update touches entry.key (some now)) now (entries ++ [entry]) := by
  have other : ∀ old ∈ entries, old.key ≠ entry.key :=
    fun old member same => new (same ▸ List.mem_map_of_mem member)
  refine ⟨?_, ?_, ?_, ?_, ?_⟩
  · intro old member
    rcases List.mem_append.mp member with before | last
    · exact reflects.known old before
    · exact (List.mem_singleton.mp last) ▸ known
  · intro old member
    rcases List.mem_append.mp member with before | last
    · exact reflects.lasting old before
    · exact (List.mem_singleton.mp last) ▸ lasting
  · intro old member
    rcases List.mem_append.mp member with before | last
    · rw [Function.update_of_ne (other old before)]
      exact reflects.times old before
    · rw [List.mem_singleton.mp last]
      exact ⟨now, Function.update_self .., expiry⟩
  · intro key time touched recent
    by_cases same : key = entry.key
    · exact ⟨entry, List.mem_append_right _ List.mem_cons_self, same.symm⟩
    · rw [Function.update_of_ne same] at touched
      obtain ⟨old, before, equal⟩ := reflects.complete key time touched recent
      exact ⟨old, List.mem_append_left _ before, equal⟩
  · rw [List.map_append]
    refine List.Nodup.append reflects.distinct (List.nodup_singleton _) ?_
    intro key before last
    exact new ((List.mem_singleton.mp last) ▸ before)

/-- **An insert.** -/
theorem insert {ctx : Context} (reflects : Reflects ctx.sha256 inserted touches clock entries)
    (later : clock ≤ now) {certificate : Certificate} (known : inserted certificate) :
    Reflects ctx.sha256 inserted
      (touches.insert now (certificate.cacheKey ctx.sha256 Certificate.convertForSigning)) now
      (CertificateCache.insert ctx now certificate entries) := by
  have looked := reflects.lookup later (calculateHash ctx.sha256 certificate)
    certificate.subjectInfo.subjectType
  have found := reflects.found_iff later (calculateHash ctx.sha256 certificate)
    certificate.subjectInfo.subjectType certificate.convertForSigning
  have among : ((CertificateCache.lookup now (calculateHash ctx.sha256 certificate)
      certificate.subjectInfo.subjectType entries).1.any
        fun cert => cert.convertForSigning = certificate.convertForSigning) = true ↔
      aliveAt now certificate.subjectInfo.subjectType
        (touches (certificate.cacheKey ctx.sha256 Certificate.convertForSigning)) = true := by
    refine Iff.trans ?_ found
    simp [List.any_eq_true, List.mem_map]
  unfold CertificateCache.insert Touches.insert
  dsimp only
  set key := certificate.cacheKey ctx.sha256 Certificate.convertForSigning
  have type : key.type = certificate.subjectInfo.subjectType := rfl
  by_cases present : aliveAt now certificate.subjectInfo.subjectType (touches key) = true
  · rw [if_pos (among.mpr present)]
    split_ifs with lasting
    · rw [Function.update_eq_self_iff.mpr]
      · exact looked
      · exact (if_pos ⟨rfl, rfl, present⟩).symm
    · exact looked
  · rw [if_neg (among.not.mpr present), type]
    by_cases lasting : 0 < CertificateCache.lifetime certificate.subjectInfo.subjectType
    · rw [if_pos lasting, if_pos lasting]
      set stored : CachedCertificate := ⟨calculateHash ctx.sha256 certificate, certificate,
        now + CertificateCache.lifetime certificate.subjectInfo.subjectType⟩
      refine @append _ _ _ _ _ looked stored ⟨rfl, known⟩ lasting rfl fun old => present ?_
      rw [lookup_keys] at old
      obtain ⟨entry, live, same⟩ := List.mem_map.mp old
      have alive := reflects.alive live
      rw [same] at alive
      exact alive
    · rw [if_neg lasting, if_neg lasting]
      exact looked

end Reflects

/-! ### Runs -/

/-- **A run of the cache**, with the calls so far, the newest of them first. -/
structure CacheRun where
  cache : IndexedCache
  clock : ℕ
  history : List CacheCall

namespace CacheRun

variable (ctx : Context)

def Initial (run : CacheRun) : Prop := ∃ clock, run = ⟨.empty, clock, []⟩

def apply (cache : IndexedCache) : CacheCall → IndexedCache
  | .insert now certificate => cache.insert ctx.sha256 now certificate
  | .lookup now id type => (cache.lookup now id type).2

/-- **A call**, at times that do not decrease. -/
def step (run : CacheRun) (call : CacheCall) : Option CacheRun :=
  if run.clock ≤ call.now then some ⟨apply ctx run.cache call, call.now, call :: run.history⟩ else none

/-- A certificate was inserted. -/
def Inserted (history : List CacheCall) (cert : Certificate) : Prop := ∃ time, .insert time cert ∈ history

/-- What holds in a run. -/
structure Sound (run : CacheRun) : Prop where
  formed : run.cache.WellFormed
  reflects : Reflects ctx.sha256 (Inserted run.history)
    (touched ctx.sha256 Certificate.convertForSigning run.history) run.clock run.cache.entries

variable {ctx} {run : CacheRun}

theorem step_sound {after : CacheRun} {call : CacheCall} (sound : run.Sound ctx)
    (taken : step ctx run call = some after) : after.Sound ctx := by
  have earlier : ∀ cert, Inserted run.history cert → Inserted (call :: run.history) cert := by
    rintro cert ⟨time, member⟩
    exact ⟨time, List.mem_cons_of_mem _ member⟩
  have reflects := sound.reflects.mono earlier
  unfold step at taken
  split_ifs at taken with later
  cases taken
  cases call with
  | insert now certificate =>
    obtain ⟨formed, entries⟩ := IndexedCache.insert_spec sound.formed ctx now certificate
    refine ⟨formed, ?_⟩
    change Reflects _ _ _ _ (run.cache.insert ctx.sha256 now certificate).entries
    rw [entries]
    exact reflects.insert later ⟨now, List.mem_cons_self⟩
  | lookup now id type =>
    obtain ⟨formed, _, entries⟩ := @IndexedCache.lookup_spec run.cache now sound.formed id type
    refine ⟨formed, ?_⟩
    change Reflects _ _ _ _ (run.cache.lookup now id type).2.entries
    rw [entries]
    exact reflects.lookup later id type

theorem sound_reachable (reached : Reachable Initial (step ctx) run) : run.Sound ctx := by
  induction reached with
  | start first =>
    obtain ⟨clock, rfl⟩ := first
    refine ⟨IndexedCache.wellFormed_empty, ?_, ?_, ?_, ?_, .nil⟩
    · exact fun _ member => absurd member List.not_mem_nil
    · exact fun _ member => absurd member List.not_mem_nil
    · exact fun _ member => absurd member List.not_mem_nil
    · intro key time touched
      cases touched
  | next _ _ taken ih => exact step_sound ih taken

/-- **What a lookup answers in a run.** -/
theorem Sound.answers (sound : run.Sound ctx) {now : ℕ} (later : run.clock ≤ now) (id : HashedId8)
    (type : SubjectType) :
    Answers ctx.sha256 Certificate.convertForSigning run.history now id type
      (run.cache.lookup now id type).1 := by
  obtain ⟨_, certs, _⟩ := @IndexedCache.lookup_spec run.cache now sound.formed id type
  rw [certs]
  refine ⟨?_, sound.reflects.found_iff later id type, sound.reflects.found_once id type⟩
  intro cert member
  obtain ⟨entry, among, rfl⟩ := List.mem_map.mp member
  obtain ⟨live, matching⟩ := List.mem_filter.mp among
  obtain ⟨rfl, rfl⟩ := of_decide_eq_true matching
  obtain ⟨same, inserted⟩ := sound.reflects.known entry (List.mem_of_mem_filter live)
  exact ⟨same.symm, rfl, inserted⟩

theorem lifetime_pos_iff (type : SubjectType) : 0 < CertificateCache.lifetime type ↔
    type = SubjectType.authorizationTicket ∨ type = SubjectType.authorizationAuthority := by
  unfold CertificateCache.lifetime
  split_ifs with ticket authority
  · simp [ticket, seconds]
  · simp [authority, seconds]
  · simp [ticket, authority]

/-- **The certificate cache is an expiring multimap.** In every run its multimap and its heap are in
bijection, only tickets and authorities are stored, and a lookup answers what it should. -/
theorem certificate_cache_refines (reached : Reachable Initial (step ctx) run) :
    run.cache.WellFormed ∧
      (∀ node ∈ run.cache.certificates, node.type = SubjectType.authorizationTicket ∨
        node.type = SubjectType.authorizationAuthority) ∧
      ∀ now id type, run.clock ≤ now →
        Answers ctx.sha256 Certificate.convertForSigning run.history now id type
          (run.cache.lookup now id type).1 := by
  have sound := sound_reachable reached
  refine ⟨sound.formed, ?_, fun now id type later => sound.answers later id type⟩
  intro node member
  exact (lifetime_pos_iff _).mp (sound.reflects.lasting _ (List.mem_map_of_mem member))

/-- A ticket that is found after a second and a half outlives its two seconds. -/
theorem certificate_cache_refines_ticket :
    ∃ run : CacheRun, aliveAt (seconds 3) .authorizationTicket
      (touched Sample.checksum Certificate.convertForSigning run.history
        (Sample.ticket.cacheKey Sample.checksum Certificate.convertForSigning)) = true := by
  obtain ⟨run, reached, clock, found⟩ := run_reach Initial (step Sample.context) (fun _ _ => True)
    (fun run => run.clock ≤ seconds 3 ∧ Sample.ticket.convertForSigning ∈
      (run.cache.lookup (seconds 3) (calculateHash Sample.checksum Sample.ticket)
        .authorizationTicket).1.map Certificate.convertForSigning)
    ⟨0, rfl⟩ [.insert 0 Sample.ticket,
      .lookup 1500000 (calculateHash Sample.checksum Sample.ticket) .authorizationTicket]
    (by decide +kernel)
  obtain ⟨_, _, answers⟩ := certificate_cache_refines reached
  exact ⟨run, ((answers _ _ _ clock).exactly _).mp found⟩

/-! ### One content, two certificates -/

open scoped Classical in
/-- A lookup answers every certificate that is alive, whatever its signature looks like. -/
def TellsApart (ctx : Context) : Prop :=
  ∀ run, Reachable Initial (step ctx) run → ∀ now id type, run.clock ≤ now →
    Answers ctx.sha256 (fun certificate => certificate) run.history now id type
      (run.cache.lookup now id type).1

/-- A ticket, by the point of its signature. -/
def signedBy (point : EccPoint) : Certificate :=
  .mk .self ⟨.authorizationTicket, []⟩ [] [] ⟨point, Sample.fill 0⟩

/-- **The certificates themselves are not told apart**: of two that differ in the form of their signature's
point, the second is not stored. -/
theorem not_tellsApart : ¬ ∃ ctx, TellsApart ctx := by
  classical
  rintro ⟨ctx, claimed⟩
  set short := signedBy (.xCoordinateOnly (Sample.fill 0))
  set compressed := signedBy (.compressedLsbY0 (Sample.fill 0))
  have initial : Reachable Initial (step ctx) ⟨.empty, 0, []⟩ := .start ⟨0, rfl⟩
  have reached : Reachable Initial (step ctx)
      ⟨(IndexedCache.empty.insert ctx.sha256 0 short).insert ctx.sha256 0 compressed, 0,
        [.insert 0 compressed, .insert 0 short]⟩ := by
    refine @GuardedReach.next _ _ _ _ _ _ _ (.insert 0 compressed)
      (@GuardedReach.next _ _ _ _ _ _ _ (.insert 0 short) initial trivial (if_pos le_rfl)) trivial ?_
    exact if_pos le_rfl
  have answers := claimed _ reached 0 (calculateHash ctx.sha256 short) .authorizationTicket le_rfl
  have once := ((sound_reachable reached).answers le_rfl (calculateHash ctx.sha256 short)
    .authorizationTicket).once
  have lasting : 0 < CertificateCache.lifetime SubjectType.authorizationTicket := by decide
  -- Their hashes are equal, so an insert of the one asks for the other.
  have alive : aliveAt 0 .authorizationTicket (some 0) = true := by decide
  have first := (answers.exactly short).mpr <| by
    refine @Touches.insert_keeps _ _ _ 0 (short.cacheKey ctx.sha256 fun certificate => certificate) _ ?_
    exact (congrArg (aliveAt 0 .authorizationTicket) (Touches.insert_self lasting)).trans alive
  have second := (answers.exactly compressed).mpr <|
    (congrArg (aliveAt 0 .authorizationTicket) (Touches.insert_self lasting)).trans alive
  rw [List.map_id'] at first second
  have equal : signedBy (.xCoordinateOnly (Sample.fill 0)) = signedBy (.compressedLsbY0 (Sample.fill 0)) :=
    List.inj_on_of_nodup_map once first second rfl
  cases equal

end CacheRun

end Vanet.Security
