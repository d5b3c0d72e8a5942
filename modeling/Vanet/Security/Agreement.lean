/-
**What is accepted has been sent.**

Any number of stations send and receive, at any time and in any order, and what they receive is whatever an attacker
makes of what has been sent, or makes up. All that is assumed of the attacker is that it does not forge signatures: a
signature that verifies under the key of a station is one over bytes that the station has signed. `signings` is what
has been signed so far, and `accepted` what has been accepted; the code has no such members.

* `Deployment.Consistent`: the invariant. The caches hold certified tickets only, and every accepted message agrees
  with a signing.
* `accepted_was_signed`: **who accepts a message under a station's key, accepts a message of that station**, with its
  header fields and its payload, and of a time that is close to the station's.
-/

import Vanet.Security.Acquaintance
import Vanet.Security.Unambiguous

namespace Vanet.Security

open Vanet.Library

/-! ### The stations -/

/-- A station has signed a message. -/
structure Signed (ι : Type) where
  signer : ι
  now : ℕ
  message : SecuredMessage
  dataBuffer : ByteBuffer

/-- A station has accepted a message. -/
structure Acceptance (ι : Type) where
  receiver : ι
  moment : Moment
  message : SecuredMessage

/-- **All stations**, and what has happened. -/
structure Deployment (ι : Type) where
  entities : ι → Entity
  past : ι → List Moment
  signings : List (Signed ι)
  accepted : List (Acceptance ι)

/-- A station sends a message, or receives one from wherever. -/
inductive Traffic (ι : Type)
  | send (sender : ι) (now : ℕ) (position : HeaderPosition) (payload : ByteBuffer) (itsAid : UInt32)
  | receive (receiver : ι) (moment : Moment) (message : SecuredMessage)

namespace Deployment

variable {ι κ : Type} (installations : ι → Installation κ)

/-- The stations start with empty caches. -/
def Initial (deployment : Deployment ι) : Prop :=
  (∀ station, (deployment.entities station).cache = [] ∧ deployment.past station = []) ∧
    deployment.signings = [] ∧ deployment.accepted = []

/-- What a station signs. -/
def signed (deployment : Deployment ι) (sender : ι) (now : ℕ) (position : HeaderPosition)
    (payload : ByteBuffer) (itsAid : UInt32) : Signed ι where
  signer := sender
  now := now
  message := ((installations sender).encapsulatePacket now position payload itsAid
    (deployment.entities sender)).1
  dataBuffer := ((installations sender).signing now position
    (deployment.entities sender).policy).dataBuffer ⟨payload, itsAid, []⟩

/-- **One transmission or reception.** A run ends where an exception escapes. -/
def step [DecidableEq ι] (deployment : Deployment ι) : Traffic ι → Option (Deployment ι)
  | .send sender now position payload itsAid => some { deployment with
      entities := Function.update deployment.entities sender ((installations sender).encapsulatePacket
        now position payload itsAid (deployment.entities sender)).2
      signings := deployment.signed installations sender now position payload itsAid :: deployment.signings }
  | .receive receiver moment message =>
    let received := (installations receiver).decapsulatePacket moment message (deployment.entities receiver)
    received.1.map fun confirm => { deployment with
      entities := Function.update deployment.entities receiver received.2
      past := Function.update deployment.past receiver (moment :: deployment.past receiver)
      accepted :=
        if confirm.report = .success then ⟨receiver, moment, message⟩ :: deployment.accepted
        else deployment.accepted }

variable (publicKey : ι → EcdsaPublicKey)

/-- **No signature is forged**, and what is transmitted fits into a `size_t` and is of our time. -/
def Unforged (deployment : Deployment ι) : Traffic ι → Prop
  | .send sender now position payload itsAid => now < 2 ^ 62 ∧
      (deployment.signed installations sender now position payload itsAid).message.getSize < sizeLimit
  | .receive receiver _ message => message.getSize < sizeLimit ∧
      ∀ station sig, message.signature = some sig →
        (installations receiver).ctx.verifyData (publicKey station) message.signedBytes sig = true →
          ∃ signing ∈ deployment.signings, signing.signer = station ∧
            signing.dataBuffer = message.signedBytes

/-- **The message agrees with a signing**: it has the same header fields and the same payload, and the time of the
signing is in the window of the generation time. -/
structure Agrees (moment : Moment) (message : SecuredMessage) (signing : Signed ι) : Prop where
  headerFields : message.headerFields = signing.message.headerFields
  payload : message.payload = signing.message.payload
  recent : (moment.now : ℤ) - generationTimePast message ≤ signing.now
  early : signing.now ≤ moment.now + generationTimeFuture

/-- The acceptance is backed by a ticket with a chain to a trusted root, and if the ticket's key is that of a station,
by a signing of the station. -/
def Backed (signings : List (Signed ι)) (acceptance : Acceptance ι) : Prop :=
  ∃ receiver ticket, Receiver.Authentic (installations acceptance.receiver).ctx receiver acceptance.moment
      acceptance.message ticket ∧
    ∀ station, getPublicKey (installations acceptance.receiver).ctx ticket = .ok (some (publicKey station)) →
      ∃ signing ∈ signings, signing.signer = station ∧ Agrees acceptance.moment acceptance.message signing

/-- The receiver that a station is. -/
def receiver (deployment : Deployment ι) (station : ι) : Receiver :=
  ⟨⟨(deployment.entities station).cache, []⟩, deployment.past station⟩

/-- A signing is of a message that fits, and tells its time. -/
structure WellSigned (signing : Signed ι) : Prop where
  unsigned : ∃ trailers, signing.dataBuffer =
    (⟨signing.message.headerFields, signing.message.payload, []⟩ : SecuredMessage).convertForSigning trailers
  fits : (⟨signing.message.headerFields, signing.message.payload, []⟩ : SecuredMessage).getSize < sizeLimit
  time : signing.message.generationTime = some (convertTime64 signing.now)
  now_lt : signing.now < 2 ^ 62

/-- **The invariant.** -/
structure Consistent (deployment : Deployment ι) : Prop where
  certified : ∀ station,
    Receiver.CacheCertified (installations station).ctx (deployment.receiver station)
  wellSigned : ∀ signing ∈ deployment.signings, WellSigned signing
  backed : ∀ acceptance ∈ deployment.accepted,
    Backed installations publicKey deployment.signings acceptance

section Run

variable {installations publicKey} {deployment after : Deployment ι}

/-- Every message has the time at which it has been signed. -/
theorem generationTime_signed (sender : ι) (now : ℕ) (position : HeaderPosition) (payload : ByteBuffer)
    (itsAid : UInt32) :
    (deployment.signed installations sender now position payload itsAid).message.generationTime =
      some (convertTime64 now) := by
  show List.findSome? _ (DefaultSignHeaderPolicy.prepareHeader _ _ _ _ _ _).1 = _
  by_cases cam : (⟨payload, itsAid, []⟩ : SignRequest).itsAid = aidCa
  · rw [DefaultSignHeaderPolicy.prepareHeader_cam _ _ _ _ _ cam]
    rfl
  · rw [DefaultSignHeaderPolicy.prepareHeader_other _ _ _ _ _ cam]
    rfl

theorem wellSigned_signed {sender : ι} {now : ℕ} {position : HeaderPosition} {payload : ByteBuffer}
    {itsAid : UInt32} (small : now < 2 ^ 62)
    (fits : (deployment.signed installations sender now position payload itsAid).message.getSize <
      sizeLimit) :
    WellSigned (deployment.signed installations sender now position payload itsAid) := by
  refine ⟨⟨_, rfl⟩, ?_, generationTime_signed sender now position payload itsAid, small⟩
  have trailer := lengthCodingSize_positive (listSize TrailerField.getSize
    (deployment.signed installations sender now position payload itsAid).message.trailerFields)
  have none : lengthCodingSize 0 = 1 := by decide
  unfold SecuredMessage.getSize at *
  simp only [listSize_nil, none] at *
  omega

/-- **A message with the bytes of a signing agrees with it.** -/
theorem WellSigned.agrees {signing : Signed ι} (wellSigned : WellSigned signing) {moment : Moment}
    {message : SecuredMessage} (fits : message.getSize < sizeLimit) (fresh : Fresh message moment.now)
    (same : signing.dataBuffer = message.signedBytes) : Agrees moment message signing := by
  obtain ⟨⟨trailers, buffer⟩, small, time, now_lt⟩ := wellSigned
  obtain ⟨headers, payloads⟩ := headerFields_payload_inj fits small (same.symm.trans buffer)
  obtain ⟨generated, present, recent, early⟩ := fresh
  have timed : message.generationTime = some (convertTime64 signing.now) := by
    rw [← time]
    unfold SecuredMessage.generationTime
    rw [headers]
  have exact : ((generated.toNat : ℕ) : ℤ) = signing.now := by
    obtain rfl : generated = convertTime64 signing.now := Option.some.inj (present.symm.trans timed)
    rw [convertTime64_toNat]
    exact Int.emod_eq_of_lt (by omega) (by omega)
  refine ⟨headers, payloads, ?_, ?_⟩
  · rw [← exact]
    exact recent
  · omega

/-- **A success is backed.** -/
theorem backed_of_success (consistent : deployment.Consistent installations publicKey) {station : ι}
    {moment : Moment} {message : SecuredMessage}
    (unforged : deployment.Unforged installations publicKey (.receive station moment message))
    {confirm : DecapConfirm}
    (returned : ((installations station).decapsulatePacket moment message
      (deployment.entities station)).1 = some confirm)
    (success : confirm.report = .success) :
    Backed installations publicKey deployment.signings ⟨station, moment, message⟩ := by
  obtain ⟨verified, ran, rfl⟩ := Option.map_eq_some_iff.mp returned
  obtain ⟨itsAid, ticket, fromCache, _, from_, found⟩ :=
    (@verify_ensures _ _ moment message (consistent.certified station)).2 verified ran success
  have authentic := found.authentic from_
  refine ⟨deployment.receiver station, ticket, authentic, fun other key => ?_⟩
  obtain ⟨sig, there, _, signedKey, extracted, verifies⟩ := authentic.signed
  obtain rfl : signedKey = publicKey other :=
    Option.some.inj (Except.ok.inj (extracted.symm.trans key))
  obtain ⟨signing, member, signer, same⟩ := unforged.2 other sig there verifies
  exact ⟨signing, member, signer,
    (consistent.wellSigned signing member).agrees unforged.1 authentic.fresh same⟩

/-- What backs an acceptance stays. -/
theorem Backed.more {signings more : List (Signed ι)} {acceptance : Acceptance ι}
    (backed : Backed installations publicKey signings acceptance)
    (kept : ∀ signing ∈ signings, signing ∈ more) :
    Backed installations publicKey more acceptance := by
  obtain ⟨receiver, ticket, authentic, agrees⟩ := backed
  refine ⟨receiver, ticket, authentic, fun station key => ?_⟩
  obtain ⟨signing, member, agreed⟩ := agrees station key
  exact ⟨signing, kept signing member, agreed⟩

variable [DecidableEq ι]

/-- **One step.** -/
theorem Consistent.step {traffic : Traffic ι} (consistent : deployment.Consistent installations publicKey)
    (unforged : deployment.Unforged installations publicKey traffic)
    (taken : deployment.step installations traffic = some after) :
    after.Consistent installations publicKey := by
  cases traffic with
  | send sender now position payload itsAid =>
    cases taken
    refine ⟨fun station => ?_, ?_, fun acceptance member => ?_⟩
    · have same : (Function.update deployment.entities sender ((installations sender).encapsulatePacket
          now position payload itsAid (deployment.entities sender)).2 station).cache =
            (deployment.entities station).cache := by
        by_cases own : station = sender
        · rw [own, Function.update_self]
          rfl
        · rw [Function.update_of_ne own]
      unfold Receiver.CacheCertified receiver
      dsimp only
      rw [same]
      exact consistent.certified station
    · exact List.forall_mem_cons.mpr ⟨wellSigned_signed unforged.1 unforged.2, consistent.wellSigned⟩
    · exact (consistent.backed acceptance member).more fun _ => List.mem_cons_of_mem _
  | receive station moment message =>
    obtain ⟨confirm, returned, rfl⟩ := Option.map_eq_some_iff.mp taken
    refine ⟨fun other => ?_, consistent.wellSigned, fun acceptance member => ?_⟩
    · unfold Receiver.CacheCertified receiver
      dsimp only
      by_cases own : other = station
      · rw [own, Function.update_self, Function.update_self]
        intro cert member
        exact ((verify_ensures (consistent.certified station)).1 cert member).certified
      · rw [Function.update_of_ne own, Function.update_of_ne own]
        exact consistent.certified other
    · dsimp only at member
      split_ifs at member with success
      · rcases List.mem_cons.mp member with rfl | old
        · exact backed_of_success consistent unforged returned success
        · exact consistent.backed acceptance old
      · exact consistent.backed acceptance member

/-- **What is accepted has been signed.** In every run of any stations, with an attacker that forges no signature:
every accepted message comes from a ticket with a chain to a trusted root, and if the key of the ticket is that of a
station, then this station has signed these header fields and this payload, not longer ago than the generation time
may be, and not later than its window allows. -/
theorem accepted_was_signed (reached : GuardedReach Initial (step installations)
      (Unforged installations publicKey) deployment) :
    ∀ acceptance ∈ deployment.accepted, Backed installations publicKey deployment.signings acceptance := by
  have consistent : deployment.Consistent installations publicKey := by
    revert reached
    refine GuardedReach.invariant ?_ ?_ deployment
    · rintro first ⟨empty, none, nothing⟩
      refine ⟨fun station cert member => ?_, fun signing member => ?_, fun acceptance member => ?_⟩
      · unfold receiver at member
        dsimp only at member
        rw [(empty station).1] at member
        cases member
      · rw [none] at member
        cases member
      · rw [nothing] at member
        cases member
    · exact fun _ _ _ _ consistent unforged taken => consistent.step unforged taken
  exact consistent.backed

end Run

end Deployment

/-! ### One CAM -/

namespace Sample

/-- The announcer, and a listener. -/
def stations (announces : Bool) : Installation Unit := if announces then announcer else listener

def publicKeys (announces : Bool) : EcdsaPublicKey := if announces then ⟨fill 3, fill 0⟩ else ⟨fill 1, fill 0⟩

/-- The announcer has been asked for its chain. -/
def deployment : Deployment Bool where
  entities _ := ⟨⟨0, [], false, true⟩, []⟩
  past _ := []
  signings := []
  accepted := []

def cam : SecuredMessage := (deployment.signed stations true 1000000000 nowhere [7] aidCa).message

/-- The CAM has been sent. -/
def announcing : Deployment Bool := { deployment with
  entities := Function.update deployment.entities true
    (announcer.encapsulatePacket 1000000000 nowhere [7] aidCa (deployment.entities true)).2
  signings := [deployment.signed stations true 1000000000 nowhere [7] aidCa] }

theorem unforged_send : deployment.Unforged stations publicKeys (.send true 1000000000 nowhere [7] aidCa) :=
  ⟨by decide, by decide +kernel⟩

theorem unforged_cam : announcing.Unforged stations publicKeys (.receive false moment cam) := by
  refine ⟨by decide +kernel, fun station sig there verifies => ?_⟩
  cases station with
  | true => exact ⟨_, List.mem_singleton.mpr rfl, rfl, by decide +kernel⟩
  | false =>
    obtain rfl : sign 3 = sig := Option.some.inj there
    exact absurd verifies (by decide +kernel)

end Sample

namespace Deployment

theorem accepted_was_signed_cam : ∃ deployment : Deployment Bool, deployment.accepted.length = 1 ∧
    ∀ acceptance ∈ deployment.accepted,
      Backed Sample.stations Sample.publicKeys deployment.signings acceptance := by
  obtain ⟨after, taken, once⟩ : ∃ after, Sample.announcing.step Sample.stations
      (.receive false Sample.moment Sample.cam) = some after ∧ after.accepted.length = 1 := by
    have ran : ((Sample.announcing.step Sample.stations (.receive false Sample.moment Sample.cam)).any
        fun after => after.accepted.length = 1) = true := by decide +kernel
    obtain ⟨after, taken, once⟩ := (Option.any_eq_true _ _).mp ran
    exact ⟨after, taken, of_decide_eq_true once⟩
  have sent : GuardedReach Initial (step Sample.stations) (Unforged Sample.stations Sample.publicKeys)
      Sample.announcing :=
    .next (.start ⟨fun _ => ⟨rfl, rfl⟩, rfl, rfl⟩) Sample.unforged_send rfl
  exact ⟨after, once, accepted_was_signed (.next sent Sample.unforged_cam taken)⟩

end Deployment

end Vanet.Security
