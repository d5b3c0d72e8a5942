/-
**`DefaultSignHeaderPolicy`: the headers of the messages that are signed.**

The policy decides which signer info a message carries. What it is asked for is answered by the next CAM, and
a CAM carries the certificate at least once a second. `prepareHeader` is the code; `expectedSigner` and
`pending` say the same in terms of what has happened before.

* `prepareHeader_cam`, `prepareHeader_other`: the sorted header fields.
* `step_tracks`: the members of the policy tell what has happened since the last CAM.
* `sign_header_policy_conforms`: every header of every run.
-/

import Mathlib.Data.List.Sort
import Mathlib.Data.Rat.Floor
import Vanet.Library.Rounding
import Vanet.Library.Run
import Vanet.Security.SignService

namespace Vanet.Security

open Vanet.Library

/-! ### Header fields -/

/-- `HeaderFieldType`. -/
def HeaderField.type : HeaderField → UInt8
  | .generationTime _ => 0
  | .generationTimeConfidence _ => 1
  | .expiration _ => 2
  | .generationLocation _ => 3
  | .requestUnrecognizedCertificate _ => 4
  | .itsAid _ => 5
  | .signerInfo _ => 128
  | .encryptionParameters _ => 129
  | .recipientInfo _ => 130

def signerInfoType : UInt8 := 128

/-- The order of serialization: the signer info comes first, the other fields are in ascending order. -/
def HeaderField.before (a b : HeaderField) : Bool :=
  if a.type = signerInfoType then b.type ≠ signerInfoType
  else if b.type = signerInfoType then false
  else a.type < b.type

/-- `list::sort`, which is stable. -/
def sortFields (fields : List HeaderField) : List HeaderField :=
  fields.insertionSort fun a b => ¬ b.before a

/-! ### The position -/

/-- What is read of a position fix: degrees, and metres or what is not a number. -/
structure HeaderPosition where
  latitude : ℚ
  longitude : ℚ
  altitude : Option (Option ℚ)

def unknownElevation : Octets 2 := ⟨[0xF0, 0x00], rfl⟩

/-- `to_elevation`: decimetres, from -4095 to 61439. -/
def toElevation : Option ℚ → Octets 2
  | none => unknownElevation
  | some altitude =>
    let decimetres := lround (10 * altitude)
    if 0 ≤ decimetres then
      let value := min decimetres 61439
      ⟨[.ofInt (value / 256), .ofInt value], rfl⟩
    else
      let value := max (-4095) decimetres
      ⟨[.ofInt (value / 256) ||| 0xF0, .ofInt value], rfl⟩

/-- The `ThreeDLocation` of a position fix. -/
def HeaderPosition.location (position : HeaderPosition) : ThreeDLocation where
  latitude := .ofInt (towardZero (position.latitude * 10000000))
  longitude := .ofInt (towardZero (position.longitude * 10000000))
  elevation :=
    match position.altitude with
    | some altitude => toElevation altitude
    | none => unknownElevation

/-! ### The policy -/

structure DefaultSignHeaderPolicy where
  camNextCertificate : ℤ
  unknownCertificates : List HashedId3
  certRequested : Bool
  chainRequested : Bool

/-- What a certificate provider has. -/
structure OwnCertificates where
  certificate : Certificate
  chain : List Certificate

namespace DefaultSignHeaderPolicy

def create (now : ℤ) : DefaultSignHeaderPolicy := ⟨now, [], false, false⟩

/-- `insert` of the ordered set. -/
def insertId (id : HashedId3) (ids : List HashedId3) : List HashedId3 :=
  if id ∈ ids then ids else ids.orderedInsert (fun a b => a.1 ≤ b.1) id

def requestUnrecognizedCertificate (policy : DefaultSignHeaderPolicy) (id : HashedId8) :
    DefaultSignHeaderPolicy :=
  { policy with unknownCertificates := insertId (truncate id) policy.unknownCertificates }

def requestCertificate (policy : DefaultSignHeaderPolicy) : DefaultSignHeaderPolicy :=
  { policy with certRequested := true }

def requestCertificateChain (policy : DefaultSignHeaderPolicy) : DefaultSignHeaderPolicy :=
  { policy with chainRequested := true }

section Prepare

variable (sha256 : ByteBuffer → Octets 32) (policy : DefaultSignHeaderPolicy) (now : ℤ)
  (request : SignRequest) (own : OwnCertificates) (position : HeaderPosition)

/-- The signer info of a CAM, and the time from when on one carries the certificate again. -/
def camSigner : SignerInfo × ℤ :=
  if policy.chainRequested then (.certificateChain (own.chain ++ [own.certificate]), now + 1000000)
  else if now < policy.camNextCertificate ∧ ¬ policy.certRequested then
    (.certificateDigestWithSha256 (calculateHash sha256 own.certificate), policy.camNextCertificate)
  else (.certificate own.certificate, now + 1000000)

/-- The certificates that a CAM asks for. -/
def unknownField : List HeaderField :=
  if policy.unknownCertificates.length > 0 then
    [.requestUnrecognizedCertificate policy.unknownCertificates]
  else []

def prepareHeader : List HeaderField × DefaultSignHeaderPolicy :=
  let headerFields : List HeaderField :=
    [.generationTime (convertTime64 now), .itsAid ⟨request.itsAid.toUInt64⟩]
  if request.itsAid = aidCa then
    let signer := policy.camSigner sha256 now own
    (sortFields (headerFields ++ [.signerInfo signer.1] ++ policy.unknownField),
      { camNextCertificate := signer.2
        unknownCertificates := []
        certRequested := false
        chainRequested := false })
  else
    (sortFields (headerFields ++
      [.generationLocation position.location, .signerInfo (.certificate own.certificate)]), policy)

/-! ### The sorted fields -/

variable {request}

/-- **The header of a CAM.** -/
theorem prepareHeader_cam (cam : request.itsAid = aidCa) :
    policy.prepareHeader sha256 now request own position =
      (.signerInfo (policy.camSigner sha256 now own).1 :: .generationTime (convertTime64 now) ::
        policy.unknownField ++ [.itsAid ⟨request.itsAid.toUInt64⟩],
      ⟨(policy.camSigner sha256 now own).2, [], false, false⟩) := by
  unfold prepareHeader unknownField
  rw [if_pos cam]
  split_ifs <;> rfl

/-- **The header of any other message.** -/
theorem prepareHeader_other (other : request.itsAid ≠ aidCa) :
    policy.prepareHeader sha256 now request own position =
      ([.signerInfo (.certificate own.certificate), .generationTime (convertTime64 now),
        .generationLocation position.location, .itsAid ⟨request.itsAid.toUInt64⟩], policy) := by
  unfold prepareHeader
  rw [if_neg other]
  rfl

end Prepare

/-- The request of another component. -/
def ask (policy : DefaultSignHeaderPolicy) : PolicyRequest → DefaultSignHeaderPolicy
  | .certificate => policy.requestCertificate
  | .certificateChain => policy.requestCertificateChain
  | .unrecognizedCertificate id => policy.requestUnrecognizedCertificate id

theorem mem_insertId {id other : HashedId3} {ids : List HashedId3} :
    other ∈ insertId id ids ↔ other = id ∨ other ∈ ids := by
  unfold insertId
  split_ifs with known
  · refine ⟨.inr, fun either => ?_⟩
    rcases either with rfl | old
    · exact known
    · exact old
  · exact List.mem_orderedInsert _

theorem nodup_insertId {id : HashedId3} {ids : List HashedId3} (distinct : ids.Nodup) :
    (insertId id ids).Nodup := by
  unfold insertId
  split_ifs with known
  · exact distinct
  · exact (List.perm_orderedInsert _ id ids).nodup_iff.mpr (List.nodup_cons.mpr ⟨known, distinct⟩)

end DefaultSignHeaderPolicy

/-! ### What has happened -/

/-- A header that was prepared, and what it was prepared from. -/
structure Preparation where
  now : ℤ
  request : SignRequest
  own : OwnCertificates
  position : HeaderPosition
  fields : List HeaderField

inductive PolicyEvent
  | requested (request : PolicyRequest)
  | prepared (header : Preparation)

def Preparation.isCam (header : Preparation) : Bool := header.request.itsAid = aidCa

def PolicyEvent.isCam : PolicyEvent → Bool
  | requested _ => false
  | prepared header => header.isCam

def PolicyEvent.isRequest (request : PolicyRequest) : PolicyEvent → Bool
  | requested other => other = request
  | prepared _ => false

/-- A signer info with the certificate. -/
def HeaderField.certifies : HeaderField → Bool
  | .signerInfo (.certificate _) => true
  | .signerInfo (.certificateChain _) => true
  | _ => false

/-- When a CAM was sent with the certificate or the chain. -/
def PolicyEvent.certifiedAt : PolicyEvent → Option ℤ
  | requested _ => none
  | prepared header =>
    if header.isCam && header.fields.any HeaderField.certifies then some header.now else none

section History

/-! The newest event is the first one of a history. -/

/-- **What has happened since the last CAM.** -/
def pending (history : List PolicyEvent) : List PolicyEvent :=
  history.takeWhile fun event => !event.isCam

def asked (request : PolicyRequest) (history : List PolicyEvent) : Bool :=
  (pending history).any (PolicyEvent.isRequest request)

/-- The time of the last CAM with the certificate or the chain. -/
def lastCertified (history : List PolicyEvent) : Option ℤ := history.findSome? PolicyEvent.certifiedAt

/-- **The signer info that is due** after a history. -/
def expectedSigner (sha256 : ByteBuffer → Octets 32) (history : List PolicyEvent) (header : Preparation) :
    SignerInfo :=
  if header.isCam then
    if asked .certificateChain history then
      .certificateChain (header.own.chain ++ [header.own.certificate])
    else if asked .certificate history ||
        (lastCertified history).all fun sent => sent + 1000000 ≤ header.now then
      .certificate header.own.certificate
    else .certificateDigestWithSha256 (calculateHash sha256 header.own.certificate)
  else .certificate header.own.certificate

/-- The certificates that a field asks for. -/
def HeaderField.unrecognized : HeaderField → List HashedId3
  | .requestUnrecognizedCertificate ids => ids
  | _ => []

/-- **A header as it should be**: the signer info that is due comes first and the other fields are in
ascending order, and a CAM asks once for each certificate that was unknown since the last one. -/
structure Conforms (sha256 : ByteBuffer → Octets 32) (history : List PolicyEvent) (header : Preparation) :
    Prop where
  ordered : ∃ rest, header.fields = .signerInfo (expectedSigner sha256 history header) :: rest ∧
    (∀ field ∈ rest, field.type ≠ signerInfoType) ∧ (rest.map HeaderField.type).Pairwise (· < ·)
  unknown : ∀ id, id ∈ header.fields.flatMap HeaderField.unrecognized ↔ header.isCam ∧
    ∃ hash, asked (.unrecognizedCertificate hash) history ∧ truncate hash = id
  once : (header.fields.flatMap HeaderField.unrecognized).Nodup

variable {history : List PolicyEvent} {request other : PolicyRequest} {header : Preparation}

theorem asked_requested :
    asked request (.requested other :: history) = (decide (other = request) || asked request history) :=
  rfl

theorem asked_cam (cam : header.isCam = true) : asked request (.prepared header :: history) = false := by
  unfold asked pending
  rw [List.takeWhile_cons_of_neg]
  · rfl
  · exact fun other => by rw [PolicyEvent.isCam, cam] at other; cases other

/-- A message that is no CAM consumes no request. -/
theorem asked_other (cam : header.isCam = false) :
    asked request (.prepared header :: history) = asked request history := by
  unfold asked pending
  rw [List.takeWhile_cons_of_pos]
  · rfl
  · rw [PolicyEvent.isCam, cam]
    rfl

theorem lastCertified_of_none {event : PolicyEvent} (uncertified : event.certifiedAt = none) :
    lastCertified (event :: history) = lastCertified history :=
  List.findSome?_cons_of_isNone (by rw [uncertified]; rfl)

theorem lastCertified_of_some {event : PolicyEvent} {sent : ℤ} (certified : event.certifiedAt = some sent) :
    lastCertified (event :: history) = some sent :=
  (List.findSome?_cons_of_isSome (by rw [certified]; rfl)).trans certified

end History

/-! ### Runs -/

/-- **A run**: the policy, the time and what has happened. -/
structure PolicyRun where
  policy : DefaultSignHeaderPolicy
  clock : ℤ
  history : List PolicyEvent

namespace PolicyRun

inductive Call
  | request (request : PolicyRequest)
  | prepareHeader (now : ℤ) (request : SignRequest) (own : OwnCertificates) (position : HeaderPosition)

def Initial (run : PolicyRun) : Prop := ∃ now, run = ⟨.create now, now, []⟩

variable (sha256 : ByteBuffer → Octets 32)

/-- The header that the policy prepares. -/
def preparation (policy : DefaultSignHeaderPolicy) (now : ℤ) (request : SignRequest)
    (own : OwnCertificates) (position : HeaderPosition) : Preparation :=
  ⟨now, request, own, position, (policy.prepareHeader sha256 now request own position).1⟩

/-- **A call**, at times that do not decrease. -/
def step (run : PolicyRun) : Call → Option PolicyRun
  | .request request =>
    some { run with policy := run.policy.ask request, history := .requested request :: run.history }
  | .prepareHeader now request own position =>
    if run.clock ≤ now then
      some ⟨(run.policy.prepareHeader sha256 now request own position).2, now,
        .prepared (preparation sha256 run.policy now request own position) :: run.history⟩
    else none

/-- **The members of the policy tell what has happened.** -/
structure Tracks (run : PolicyRun) : Prop where
  certificate : run.policy.certRequested = asked .certificate run.history
  chain : run.policy.chainRequested = asked .certificateChain run.history
  unknown : ∀ id, id ∈ run.policy.unknownCertificates ↔
    ∃ hash, asked (.unrecognizedCertificate hash) run.history ∧ truncate hash = id
  distinct : run.policy.unknownCertificates.Nodup
  next : (lastCertified run.history).elim (run.policy.camNextCertificate ≤ run.clock)
    fun sent => run.policy.camNextCertificate = sent + 1000000

section Headers

variable {sha256} {run : PolicyRun} {now : ℤ} {request : SignRequest} {own : OwnCertificates}
  {position : HeaderPosition}

theorem fields_cam (cam : request.itsAid = aidCa) :
    (preparation sha256 run.policy now request own position).fields =
      .signerInfo (run.policy.camSigner sha256 now own).1 :: .generationTime (convertTime64 now) ::
        (run.policy.unknownField ++ [.itsAid ⟨request.itsAid.toUInt64⟩]) :=
  congrArg Prod.fst (run.policy.prepareHeader_cam sha256 now own position cam)

theorem fields_other (other : request.itsAid ≠ aidCa) :
    (preparation sha256 run.policy now request own position).fields =
      [.signerInfo (.certificate own.certificate), .generationTime (convertTime64 now),
        .generationLocation position.location, .itsAid ⟨request.itsAid.toUInt64⟩] :=
  congrArg Prod.fst (run.policy.prepareHeader_other sha256 now own position other)

/-- What is asked for in the header of a CAM. -/
theorem unrecognized_cam (cam : request.itsAid = aidCa) :
    (preparation sha256 run.policy now request own position).fields.flatMap HeaderField.unrecognized =
      run.policy.unknownCertificates := by
  rw [fields_cam cam]
  unfold DefaultSignHeaderPolicy.unknownField
  cases run.policy.unknownCertificates with
  | nil => rfl
  | cons id ids => exact List.append_nil _

/-- **The flags and the time choose the signer info that is due.** -/
theorem Tracks.camSigner (tracks : run.Tracks) (later : run.clock ≤ now) (cam : request.itsAid = aidCa) :
    (run.policy.camSigner sha256 now own).1 = expectedSigner sha256 run.history
      (preparation sha256 run.policy now request own position) := by
  have due : (lastCertified run.history).all (fun sent => sent + 1000000 ≤ now) =
      decide (run.policy.camNextCertificate ≤ now) := by
    have next := tracks.next
    cases certified : lastCertified run.history with
    | none =>
      rw [certified] at next
      exact (decide_eq_true (le_trans next later)).symm
    | some sent =>
      rw [certified] at next
      change run.policy.camNextCertificate = sent + 1000000 at next
      rw [next]
      rfl
  have isCam : (preparation sha256 run.policy now request own position).isCam = true :=
    decide_eq_true cam
  unfold expectedSigner DefaultSignHeaderPolicy.camSigner
  rw [if_pos isCam, ← tracks.chain, ← tracks.certificate]
  change _ = if _ then _ else if _ || (lastCertified run.history).all (fun sent => sent + 1000000 ≤ now)
    then _ else _
  rw [due]
  by_cases chain : run.policy.chainRequested = true
  · rw [if_pos chain, if_pos chain]
    rfl
  · rw [if_neg chain, if_neg chain]
    by_cases early : now < run.policy.camNextCertificate ∧ ¬ run.policy.certRequested = true
    · rw [if_pos early, if_neg]
      · rfl
      · simp [early.1, early.2]
    · rw [if_neg early, if_pos]
      · rfl
      · simp only [Bool.or_eq_true, decide_eq_true_eq]
        by_cases requested : run.policy.certRequested = true
        · exact .inl requested
        · exact .inr (not_lt.mp fun less => early ⟨less, requested⟩)

/-- **The next header.** -/
theorem Tracks.conforms (tracks : run.Tracks) (later : run.clock ≤ now) :
    Conforms sha256 run.history (preparation sha256 run.policy now request own position) := by
  by_cases cam : request.itsAid = aidCa
  · have isCam : (preparation sha256 run.policy now request own position).isCam = true :=
      decide_eq_true cam
    have fields := @fields_cam sha256 run now request own position cam
    have asks := @unrecognized_cam sha256 run now request own position cam
    rw [@Tracks.camSigner sha256 run now request own position tracks later cam] at fields
    refine ⟨⟨_, fields, ?_, ?_⟩, ?_, ?_⟩
    · unfold DefaultSignHeaderPolicy.unknownField
      split_ifs <;> simp [HeaderField.type, signerInfoType]
    · unfold DefaultSignHeaderPolicy.unknownField
      split_ifs <;> simp [HeaderField.type]
    · intro id
      rw [asks, tracks.unknown, isCam]
      simp
    · rw [asks]
      exact tracks.distinct
  · have isOther : (preparation sha256 run.policy now request own position).isCam = false :=
      decide_eq_false cam
    have fields := @fields_other sha256 run now request own position cam
    have asks : (preparation sha256 run.policy now request own position).fields.flatMap
        HeaderField.unrecognized = [] := by
      rw [fields]
      rfl
    have due : expectedSigner sha256 run.history
        (preparation sha256 run.policy now request own position) = .certificate own.certificate := by
      unfold expectedSigner
      rw [if_neg (by rw [isOther]; exact Bool.false_ne_true)]
      rfl
    rw [← due] at fields
    refine ⟨⟨_, fields, ?_, ?_⟩, ?_, ?_⟩
    · simp [HeaderField.type, signerInfoType]
    · simp [HeaderField.type]
    · intro id
      rw [asks, isOther]
      simp
    · rw [asks]
      exact List.nodup_nil

/-! ### What the members tell -/

theorem ask_tracks (tracks : run.Tracks) (request : PolicyRequest) :
    Tracks { run with policy := run.policy.ask request, history := .requested request :: run.history } := by
  have next : (lastCertified (.requested request :: run.history)).elim
      (run.policy.camNextCertificate ≤ run.clock)
      fun sent => run.policy.camNextCertificate = sent + 1000000 := by
    rw [lastCertified_of_none rfl]
    exact tracks.next
  obtain ⟨certificate, chain, unknown, distinct, _⟩ := tracks
  cases request with
  | certificate =>
    refine ⟨rfl, ?_, ?_, distinct, next⟩
    · rw [asked_requested]
      exact chain
    · intro id
      simp only [asked_requested]
      exact unknown id
  | certificateChain =>
    refine ⟨?_, rfl, ?_, distinct, next⟩
    · rw [asked_requested]
      exact certificate
    · intro id
      simp only [asked_requested]
      exact unknown id
  | unrecognizedCertificate hash =>
    refine ⟨?_, ?_, ?_, DefaultSignHeaderPolicy.nodup_insertId distinct, next⟩
    · rw [asked_requested]
      exact certificate
    · rw [asked_requested]
      exact chain
    · intro id
      refine DefaultSignHeaderPolicy.mem_insertId.trans ?_
      rw [unknown id]
      simp only [asked_requested, Bool.or_eq_true, decide_eq_true_eq,
        PolicyRequest.unrecognizedCertificate.injEq]
      constructor
      · rintro (rfl | ⟨other, earlier, same⟩)
        · exact ⟨hash, .inl rfl, rfl⟩
        · exact ⟨other, .inr earlier, same⟩
      · rintro ⟨other, rfl | earlier, same⟩
        · exact .inl same.symm
        · exact .inr ⟨other, earlier, same⟩

/-- A CAM is remembered if its signer info has the certificate. -/
theorem certifiedAt_cam (cam : request.itsAid = aidCa) :
    PolicyEvent.certifiedAt (.prepared (preparation sha256 run.policy now request own position)) =
      if (HeaderField.signerInfo (run.policy.camSigner sha256 now own).1).certifies then some now
      else none := by
  have isCam : (preparation sha256 run.policy now request own position).isCam = true :=
    decide_eq_true cam
  have others : ((HeaderField.generationTime (convertTime64 now)) ::
      (run.policy.unknownField ++ [.itsAid ⟨request.itsAid.toUInt64⟩])).any HeaderField.certifies =
        false := by
    unfold DefaultSignHeaderPolicy.unknownField
    split_ifs <;> rfl
  unfold PolicyEvent.certifiedAt
  dsimp only
  rw [isCam, fields_cam cam, List.any_cons, others, Bool.or_false, Bool.true_and]
  rfl

/-- The time of the next certificate is set when one is sent. -/
theorem camSigner_next : (run.policy.camSigner sha256 now own).2 =
    if (HeaderField.signerInfo (run.policy.camSigner sha256 now own).1).certifies then now + 1000000
    else run.policy.camNextCertificate := by
  unfold DefaultSignHeaderPolicy.camSigner
  by_cases chain : run.policy.chainRequested = true
  · rw [if_pos chain]
    rfl
  · rw [if_neg chain]
    by_cases early : now < run.policy.camNextCertificate ∧ ¬ run.policy.certRequested = true
    · rw [if_pos early]
      rfl
    · rw [if_neg early]
      rfl

theorem prepareHeader_tracks (tracks : run.Tracks) (later : run.clock ≤ now) :
    Tracks ⟨(run.policy.prepareHeader sha256 now request own position).2, now,
      .prepared (preparation sha256 run.policy now request own position) :: run.history⟩ := by
  have unchanged : (lastCertified run.history).elim (run.policy.camNextCertificate ≤ now)
      fun sent => run.policy.camNextCertificate = sent + 1000000 := by
    have next := tracks.next
    cases certified : lastCertified run.history with
    | none =>
      rw [certified] at next
      exact le_trans next later
    | some sent =>
      rw [certified] at next
      exact next
  by_cases cam : request.itsAid = aidCa
  · have isCam : (preparation sha256 run.policy now request own position).isCam = true :=
      decide_eq_true cam
    have certified := @certifiedAt_cam sha256 run now request own position cam
    rw [run.policy.prepareHeader_cam sha256 now own position cam]
    refine ⟨(asked_cam isCam).symm, (asked_cam isCam).symm, ?_, List.nodup_nil, ?_⟩
    · intro id
      simp only [asked_cam isCam]
      simp
    · dsimp only
      rw [camSigner_next]
      split_ifs at certified ⊢
      · rw [lastCertified_of_some certified]
        rfl
      · rw [lastCertified_of_none certified]
        exact unchanged
  · have isOther : (preparation sha256 run.policy now request own position).isCam = false :=
      decide_eq_false cam
    have uncertified : PolicyEvent.certifiedAt
        (.prepared (preparation sha256 run.policy now request own position)) = none := by
      unfold PolicyEvent.certifiedAt
      dsimp only
      rw [isOther]
      rfl
    rw [run.policy.prepareHeader_other sha256 now own position cam]
    refine ⟨?_, ?_, ?_, tracks.distinct, ?_⟩
    · rw [asked_other isOther]
      exact tracks.certificate
    · rw [asked_other isOther]
      exact tracks.chain
    · intro id
      simp only [asked_other isOther]
      exact tracks.unknown id
    · rw [lastCertified_of_none uncertified]
      exact unchanged

end Headers

variable {sha256}

theorem create_tracks (now : ℤ) : Tracks ⟨.create now, now, []⟩ :=
  ⟨rfl, rfl, fun _ => by simp [DefaultSignHeaderPolicy.create, asked, pending], List.nodup_nil, le_rfl⟩

/-- **One call.** -/
theorem step_tracks {before after : PolicyRun} {call : Call} (tracks : before.Tracks)
    (taken : step sha256 before call = some after) : after.Tracks ∧
      ∃ event, after.history = event :: before.history ∧
        ∀ header, event = .prepared header → Conforms sha256 before.history header := by
  cases call with
  | request request =>
    cases taken
    refine ⟨ask_tracks tracks request, _, rfl, ?_⟩
    intro header same
    cases same
  | prepareHeader now request own position =>
    simp only [step] at taken
    split_ifs at taken with later
    cases taken
    refine ⟨prepareHeader_tracks tracks later, _, rfl, ?_⟩
    intro header same
    cases same
    exact tracks.conforms later

/-- **The policy over runs**: every header of a run is as it should be after what had happened before. -/
theorem sign_header_policy_conforms {run : PolicyRun} (reached : Reachable Initial (step sha256) run) :
    ∀ later earlier header, run.history = later ++ .prepared header :: earlier →
      Conforms sha256 earlier header := by
  have both : run.Tracks ∧ ∀ later earlier header,
      run.history = later ++ .prepared header :: earlier → Conforms sha256 earlier header := by
    induction reached with
    | start first =>
      obtain ⟨now, rfl⟩ := first
      refine ⟨create_tracks now, ?_⟩
      intro later earlier header split
      exact absurd split.symm (List.append_ne_nil_of_right_ne_nil _ (List.cons_ne_nil _ _))
    | next _ _ taken ih =>
      obtain ⟨tracks, event, extended, conforms⟩ := step_tracks ih.1 taken
      refine ⟨tracks, ?_⟩
      intro later earlier header split
      rw [extended] at split
      rcases List.cons_eq_append_iff.mp split with ⟨_, same⟩ | ⟨rest, _, before⟩
      · obtain ⟨here, rfl⟩ := List.cons.inj same
        exact conforms header here.symm
      · exact ih.2 rest earlier header before
  exact both.2

/-! ### A chain is asked for -/

def blankCertificates : OwnCertificates := ⟨.mk .self ⟨.authorizationTicket, []⟩ [] [] signaturePlaceholder, []⟩

/-- The chain comes with the first CAM after the request, not with the message in between. -/
def chainRequested : List Call :=
  [.prepareHeader 0 ⟨[], aidCa, []⟩ blankCertificates ⟨0, 0, none⟩, .request .certificateChain,
    .prepareHeader 100000 ⟨[], 37, []⟩ blankCertificates ⟨0, 0, none⟩,
    .prepareHeader 200000 ⟨[], aidCa, []⟩ blankCertificates ⟨0, 0, none⟩,
    .prepareHeader 1100000 ⟨[], aidCa, []⟩ blankCertificates ⟨0, 0, none⟩]

theorem sign_header_policy_conforms_chain : ∃ run : PolicyRun,
    run.history.map PolicyEvent.certifiedAt = [none, some 200000, none, none, some 0] ∧
      ∀ later earlier header, run.history = later ++ .prepared header :: earlier →
        Conforms (fun _ => ⟨List.replicate 32 0, rfl⟩) earlier header := by
  obtain ⟨run, reached, certified⟩ := run_reach Initial
    (step fun _ => ⟨List.replicate 32 0, rfl⟩) (fun _ _ => True)
    (fun run => run.history.map PolicyEvent.certifiedAt = [none, some 200000, none, none, some 0])
    ⟨0, rfl⟩ chainRequested (by decide +kernel)
  exact ⟨run, certified, sign_header_policy_conforms reached⟩

end PolicyRun

end Vanet.Security
