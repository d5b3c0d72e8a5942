/-
**The sign services.**

`straightSignService` signs a message at once. `deferredSignService` puts a future into it: the backend
is asked for the signature when the message is serialised, and until then the future answers for the
signature's size. The size it is given is that of a whole `Signature`, with the byte of the algorithm,
where the future compares it with the size of the `EcdsaSignature` alone.

`assertions` says whether the assertions have been compiled in.
-/

import Vanet.Security.Deserialize
import Vanet.Security.VerifyService

namespace Vanet.Security

open Vanet.Library

/-! ### Signatures to come -/

/-- `EcdsaSignatureFuture`: what the backend will return, and the size that has been announced. -/
structure EcdsaSignatureFuture where
  signature : EcdsaSignature
  bytes : ℕ

namespace EcdsaSignatureFuture

def size (future : EcdsaSignatureFuture) : ℕ := future.bytes

def get (assertions : Bool) (future : EcdsaSignatureFuture) : Except Fault EcdsaSignature :=
  if assertions ∧ future.signature.getSize ≠ future.bytes then .error .assertion
  else .ok future.signature

def serialize (assertions : Bool) (future : EcdsaSignatureFuture) : Except Fault ByteBuffer := do
  let sig ← future.get assertions
  pure sig.serialize

end EcdsaSignatureFuture

/-- `Signature` of a message that is sent. -/
inductive SentSignature
  | ecdsa (sig : EcdsaSignature)
  | future (sig : EcdsaSignatureFuture)

namespace SentSignature

def getSize : SentSignature → ℕ
  | ecdsa sig => 1 + sig.getSize
  | future sig => 1 + sig.size

def serialize (assertions : Bool) : SentSignature → Except Fault ByteBuffer
  | ecdsa sig => pure (0 :: sig.serialize)
  | future sig => do
    let bytes ← sig.serialize assertions
    pure (0 :: bytes)

end SentSignature

/-- `TrailerField` of a message that is sent. -/
inductive SentTrailerField
  | signature (sig : SentSignature)

namespace SentTrailerField

def getSize : SentTrailerField → ℕ
  | signature sig => 1 + sig.getSize

def serialize (assertions : Bool) : SentTrailerField → Except Fault ByteBuffer
  | signature sig => do
    let bytes ← sig.serialize assertions
    pure (1 :: bytes)

end SentTrailerField

/-- A secured message as a sign service returns it. -/
structure SentMessage where
  headerFields : List HeaderField
  payload : Payload
  trailerFields : List SentTrailerField

/-- `serialize`, which may run into the assertion of a future. -/
def SentMessage.serialize (assertions : Bool) (message : SentMessage) : Except Fault ByteBuffer := do
  let trailer ← message.trailerFields.mapM (SentTrailerField.serialize assertions)
  pure (2 :: (serializeList HeaderField.getSize HeaderField.serialize message.headerFields ++
    message.payload.serialize ++
    serializeLength (listSize SentTrailerField.getSize message.trailerFields) ++ trailer.flatten))

/-! ### The services -/

structure SignRequest where
  plainMessage : ByteBuffer
  itsAid : UInt32
  permissions : ByteBuffer

/-- **What a service is created with**: the policy's headers, the private key of the certificate
provider and the backend. -/
structure Signing (κ : Type) where
  prepareHeader : SignRequest → List HeaderField
  ownPrivateKey : κ
  signData : κ → ByteBuffer → EcdsaSignature

/-- `signature_placeholder`. -/
def signaturePlaceholder : Signature :=
  ⟨.xCoordinateOnly ⟨List.replicate fieldSize 0x00, List.length_replicate⟩,
    ⟨List.replicate fieldSize 0x00, List.length_replicate⟩⟩

namespace Signing

variable {κ : Type} (signing : Signing κ)

/-- The message without its trailer, and a trailer with a placeholder for its signature. -/
def unsigned (request : SignRequest) : SecuredMessage :=
  ⟨signing.prepareHeader request, ⟨signedPayload, request.plainMessage⟩, []⟩

/-- The bytes that both services have signed. -/
def dataBuffer (request : SignRequest) : ByteBuffer :=
  (signing.unsigned request).convertForSigning [.signature signaturePlaceholder]

def signature (request : SignRequest) : EcdsaSignature :=
  signing.signData signing.ownPrivateKey (signing.dataBuffer request)

/-- The message with a trailer. -/
def confirm (request : SignRequest) (trailer : SentSignature) : SentMessage :=
  ⟨(signing.unsigned request).headerFields, (signing.unsigned request).payload, [.signature trailer]⟩

/-- `straight_sign_service`. -/
def straightSignService (request : SignRequest) : SentMessage :=
  signing.confirm request (.ecdsa (signing.signature request))

/-- The future of the deferred service. -/
def future (request : SignRequest) : EcdsaSignatureFuture :=
  ⟨signing.signature request, Signature.getSize signaturePlaceholder⟩

/-- `deferred_sign_service`. -/
def deferredSignService (request : SignRequest) : SentMessage :=
  signing.confirm request (.future (signing.future request))

end Signing

/-! ### What the services have in common -/

/-- The bytes of a signature value: the x coordinate of its point, and `s`. -/
def signatureValueSize : ℕ := 2 * fieldSize

/-- **Two serialised messages with one layout**: they differ in the value of the signature, which
comes last, at most. -/
def SameLayout (one other : ByteBuffer) : Prop :=
  one.length = other.length ∧
    one.take (one.length - signatureValueSize) = other.take (other.length - signatureValueSize)

/-- A receiver that can parse the message verifies the bytes that have been signed. -/
def VerifiesSigned (signed sent : ByteBuffer) : Prop :=
  ∀ limit received size tape,
    deserializeSecuredMessage limit (untouched sent) = (.ok (received, size), tape) →
      received.signedBytes = signed

/-- **The services agree** about a request. -/
structure Signing.Agree {κ : Type} (signing : Signing κ) (assertions : Bool) (request : SignRequest) :
    Prop where
  asserted : ∃ sig, (signing.future request).get true = .ok sig
  layout : ∃ straight deferred,
    (signing.straightSignService request).serialize assertions = .ok straight ∧
      (signing.deferredSignService request).serialize assertions = .ok deferred ∧
      SameLayout straight deferred
  verified : ∀ message ∈ [signing.straightSignService request, signing.deferredSignService request],
    ∀ sent, message.serialize assertions = .ok sent →
      VerifiesSigned (signing.dataBuffer request) sent

section Agreement

variable {κ : Type} {signing : Signing κ} {request : SignRequest}

/-- What the deferred service announces. -/
theorem placeholder_size : Signature.getSize signaturePlaceholder = 66 := by decide

theorem xCoordinateOnly_size {sig : EcdsaSignature} {x : Coordinate} (point : sig.R = .xCoordinateOnly x) :
    sig.getSize = 65 := by
  unfold EcdsaSignature.getSize
  rw [point, sig.s.2]
  show fieldSize + (1 + x.1.length) = 65
  rw [x.2]
  rfl

/-- The trailers of the two services. -/
theorem announced_size : serializeLength (1 + (1 + 65)) = [67] := by decide

theorem future_size : serializeLength (1 + (1 + Signature.getSize signaturePlaceholder)) = [68] := by
  decide

/-- What is written in front of the trailer's size. -/
def Signing.front (signing : Signing κ) (request : SignRequest) : ByteBuffer :=
  2 :: (serializeList HeaderField.getSize HeaderField.serialize (signing.prepareHeader request) ++
    (signing.unsigned request).payload.serialize)

/-- A message whose signature can be serialised. -/
theorem serialize_confirm {assertions : Bool} {trailer : SentSignature} {bytes : ByteBuffer}
    (serialized : trailer.serialize assertions = .ok bytes) :
    (signing.confirm request trailer).serialize assertions =
      .ok (signing.front request ++ (serializeLength (1 + trailer.getSize) ++ 1 :: bytes)) := by
  have trailers : [SentTrailerField.signature trailer].mapM (SentTrailerField.serialize assertions) =
      (Except.ok [1 :: bytes] : Except Fault (List ByteBuffer)) := by
    simp only [List.mapM_cons, List.mapM_nil, SentTrailerField.serialize, serialized]
    rfl
  have size : listSize SentTrailerField.getSize [.signature trailer] = 1 + trailer.getSize := by
    simp [listSize, SentTrailerField.getSize]
  unfold SentMessage.serialize Signing.confirm
  rw [trailers]
  show Except.ok _ = _
  rw [size]
  simp [Signing.front, Signing.unsigned]

theorem serialize_confirm_error {assertions : Bool} {trailer : SentSignature} {fault : Fault}
    (fails : trailer.serialize assertions = .error fault) :
    (signing.confirm request trailer).serialize assertions = .error fault := by
  have trailers : [SentTrailerField.signature trailer].mapM (SentTrailerField.serialize assertions) =
      (Except.error fault : Except Fault (List ByteBuffer)) := by
    simp only [List.mapM_cons, List.mapM_nil, SentTrailerField.serialize, fails]
    rfl
  unfold SentMessage.serialize Signing.confirm
  rw [trailers]
  rfl

/-- Two messages whose trailers announce different sizes in one byte. -/
theorem not_sameLayout {front value : ByteBuffer} {one other : UInt8} (different : one ≠ other)
    (size : signatureValueSize ≤ value.length) :
    ¬ SameLayout (front ++ ([one] ++ value)) (front ++ ([other] ++ value)) := by
  rintro ⟨length, same⟩
  have kept : ∀ first : UInt8, ((front ++ ([first] ++ value)).take
      ((front ++ ([first] ++ value)).length - signatureValueSize))[front.length]? = some first := by
    intro first
    rw [List.getElem?_take_of_lt]
    · simp
    · simp only [List.length_append, List.length_singleton]
      omega
  have read := congrArg (fun bytes : ByteBuffer => bytes[front.length]?) same
  rw [kept, kept] at read
  exact different (Option.some.inj read)

/-- **The services never agree.** The future is announced with a byte more than the signature has that
it compares itself with. Its assertion fails whenever the message is serialised; without assertions
the trailer announces a byte more than it has. -/
theorem sign_services_disagree (signing : Signing κ)
    (standard : ∀ key data, ∃ x, (signing.signData key data).R = .xCoordinateOnly x)
    (request : SignRequest) :
    (signing.deferredSignService request).serialize true = .error .assertion ∧
      (∃ straight deferred, (signing.straightSignService request).serialize false = .ok straight ∧
        (signing.deferredSignService request).serialize false = .ok deferred ∧
        ¬ SameLayout straight deferred) ∧
      ∀ assertions, ¬ signing.Agree assertions request := by
  obtain ⟨x, point⟩ : ∃ x, (signing.signature request).R = .xCoordinateOnly x :=
    standard signing.ownPrivateKey (signing.dataBuffer request)
  have size : (signing.signature request).getSize = 65 := xCoordinateOnly_size point
  have fails : (signing.future request).get true = .error .assertion := by
    unfold EcdsaSignatureFuture.get
    refine if_pos ⟨rfl, ?_⟩
    show (signing.signature request).getSize ≠ Signature.getSize signaturePlaceholder
    rw [size, placeholder_size]
    decide
  refine ⟨?_, ?_, ?_⟩
  · refine serialize_confirm_error ?_
    unfold SentSignature.serialize EcdsaSignatureFuture.serialize
    dsimp only
    rw [fails]
    rfl
  · have straight : (signing.straightSignService request).serialize false =
        .ok (signing.front request ++ ([67] ++ 1 :: 0 :: (signing.signature request).serialize)) := by
      rw [← announced_size, ← size]
      exact serialize_confirm rfl
    have deferred : (signing.deferredSignService request).serialize false =
        .ok (signing.front request ++ ([68] ++ 1 :: 0 :: (signing.signature request).serialize)) := by
      rw [← future_size]
      exact serialize_confirm rfl
    refine ⟨_, _, straight, deferred, not_sameLayout (by decide) ?_⟩
    have length : (signing.signature request).serialize.length = 65 := by
      unfold EcdsaSignature.serialize EccPoint.serialize
      rw [point, List.length_append, List.length_cons, x.2, (signing.signature request).s.2]
      rfl
    rw [List.length_cons, List.length_cons, length]
    decide
  · rintro assertions ⟨⟨sig, got⟩, _, _⟩
    rw [fails] at got
    cases got

end Agreement

/-! ### An empty message -/

/-- A backend that knows one signature, and a policy without any header fields. -/
def unitSigning : Signing Unit := ⟨fun _ => [], (), fun _ _ => signaturePlaceholder⟩

/-- The assertion fails for an empty CAM. -/
theorem not_sign_services_agree : ¬ unitSigning.Agree true ⟨[], aidCa, []⟩ := by
  intro agree
  obtain ⟨sig, got⟩ := agree.asserted
  have fails : (unitSigning.future ⟨[], aidCa, []⟩).get true = .error .assertion := by
    unfold EcdsaSignatureFuture.get
    exact if_pos (by decide)
  rw [fails] at got
  cases got

theorem sign_services_disagree_unit :
    (unitSigning.deferredSignService ⟨[], aidCa, []⟩).serialize true = .error .assertion :=
  (sign_services_disagree unitSigning (fun _ _ => ⟨_, rfl⟩) ⟨[], aidCa, []⟩).1

end Vanet.Security
