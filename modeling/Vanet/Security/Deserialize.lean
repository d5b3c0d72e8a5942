/-
**The deserialisers of secured messages.**

`ar >> x` throws `InputArchive::Exception` at the end of the input (`Fault.incomplete`), unknown
types are a `deserialization_error`; `Parser::parse_secured` catches these two. A failing `assert`
ends the process, and `limit` is the largest memory request that is certain to succeed apart from
those that the remaining input can fill.

Every deserialiser returns the value and the size its source returns. The notes record what the
deserialisers meet: every length field, every memory request of a size that the input has chosen,
and where a list ends.
-/

import Vanet.Security.Elements

namespace Vanet.Security

open Vanet.Library

inductive Fault
  | incomplete
  | deserializationError (what : String)
  | assertion
  | badAlloc
  | exhausted
  deriving DecidableEq

/-- **What the deserialisers meet in the input.** -/
inductive Note
  /-- A complete length field: its first byte and the decoded length. -/
  | length (first : UInt8) (value : UInt64)
  /-- A container is asked to grow by `count` while `left` bytes are left. -/
  | request (count left : ℕ)
  /-- The loop over a list has ended: what is left of the announced length, negative if the last
  element overran the end. -/
  | list (remainder : ℤ)
  /-- A list of `HashedId3` of the announced length. -/
  | hashedIds (announced : ℕ)
  /-- The loop over the header fields has ended: the announced length, and what was counted. -/
  | header (announced read : ℕ)
  /-- A certificate chain of the announced length. -/
  | chain (announced : ℕ)
  deriving DecidableEq

abbrev Read := Reader Note Fault

namespace Read

def byte : Read UInt8 := Reader.byte .incomplete

def octets (n : ℕ) : Read (Octets n) := Reader.octets .incomplete n

def fail {α : Type} (what : String) : Read α := Reader.fail (.deserializationError what)

/-- Record a note that decides nothing. -/
def record (entry : Note) : Read Unit := Reader.note entry (.ok ())

/-- Record a note and go on if the assertion holds. -/
def assert (entry : Note) (holds : Bool) : Read Unit :=
  Reader.note entry (if holds then .ok () else .error .assertion)

def loop {σ : Type} (guard : σ → Bool) (body : σ → Read σ) (state : σ) : Read σ :=
  Reader.whileM .exhausted guard body state

/-- The number with the given bytes, the most significant one first. -/
def networkOrder (bytes : ByteBuffer) : ℕ := bytes.foldl (fun n byte => n * 256 + byte.toNat) 0

def uint16 : Read UInt16 := do
  let bytes ← octets 2
  pure (UInt16.ofNat (networkOrder bytes.1))

def uint32 : Read UInt32 := do
  let bytes ← octets 4
  pure (UInt32.ofNat (networkOrder bytes.1))

def uint64 : Read UInt64 := do
  let bytes ← octets 8
  pure (UInt64.ofNat (networkOrder bytes.1))

end Read

open Read

variable (limit : ℕ)

/-- Ask a container to grow by `count` elements. -/
def resize (count : ℕ) : Read Unit := do
  let left ← Reader.left
  Reader.note (.request count left) (if count ≤ max limit left then .ok () else .error .badAlloc)

def deserializeLength : Read UInt64 := do
  let first ← byte
  let leading := countLeadingOnes first
  resize limit leading
  let rest ← octets leading
  let decoded := decodeLength (first :: rest.1)
  assert (.length first decoded.2) (decoded.1 ≠ 0)
  pure decoded.2

/-- The loop over a list: the elements' sizes count down the announced length, which is returned. -/
def listLoop {α : Type} (element : Read (α × ℕ)) (length : UInt64) : Read (List α × ℕ) := do
  let (list, remainder) ← loop (fun (_, remainder) => decide (0 < remainder))
    (fun (list, remainder) => do
      let (t, size) ← element
      pure (list ++ [t], remainder - (size : ℤ)))
    (([], (length.toNat : ℤ)) : List α × ℤ)
  assert (.list remainder) (remainder = 0)
  pure (list, length.toNat)

/-- The generic list. -/
def deserializeList {α : Type} (element : Read (α × ℕ)) : Read (List α × ℕ) := do
  let length ← deserializeLength limit
  listLoop element length

def deserializeIntX : Read (IntX × ℕ) := do
  let size ← deserializeLength limit
  pure (⟨size⟩, IntX.getSize ⟨size⟩)

/-! ### Regions -/

def deserializeTwoDLocation : Read (TwoDLocation × ℕ) := do
  let latitude ← uint32
  let longitude ← uint32
  let loc : TwoDLocation := ⟨latitude.toInt32, longitude.toInt32⟩
  pure (loc, loc.getSize)

def deserializeThreeDLocation : Read (ThreeDLocation × ℕ) := do
  let latitude ← uint32
  let longitude ← uint32
  let elevation ← octets 2
  let loc : ThreeDLocation := ⟨latitude.toInt32, longitude.toInt32, elevation⟩
  pure (loc, loc.getSize)

def deserializeCircularRegion : Read (CircularRegion × ℕ) := do
  let (center, size) ← deserializeTwoDLocation
  let radius ← uint16
  pure (⟨center, radius⟩, size + 2)

/-- The loop of the two lists of regions. It counts down a `size_t`, which wraps around if the length
is no multiple of a region's size. -/
def regionLoop {α : Type} (region : Read (α × ℕ)) (length : UInt64) : Read (List α × ℕ) := do
  let (list, _) ← loop (fun (_, size) => decide (0 < size))
    (fun (list, size) => do
      let (reg, taken) ← region
      pure (list ++ [reg], size - UInt64.ofNat taken))
    (([], length) : List α × UInt64)
  pure (list, length.toNat)

/-- Both corners, whose sizes are subtracted. -/
def deserializeRectangularRegion : Read (RectangularRegion × ℕ) := do
  let (northwest, first) ← deserializeTwoDLocation
  let (southeast, second) ← deserializeTwoDLocation
  pure (⟨northwest, southeast⟩, first + second)

def deserializeRectangularRegions : Read (List RectangularRegion × ℕ) := do
  let length ← deserializeLength limit
  regionLoop deserializeRectangularRegion length

def deserializePolygonalRegion : Read (PolygonalRegion × ℕ) := do
  let length ← deserializeLength limit
  regionLoop deserializeTwoDLocation length

def deserializeIdentifiedRegion : Read (IdentifiedRegion × ℕ) := do
  let regionDictionary ← byte
  let regionIdentifier ← uint16
  let (localRegion, _) ← deserializeIntX limit
  let reg : IdentifiedRegion := ⟨regionDictionary, regionIdentifier.toInt16, localRegion⟩
  pure (reg, 1 + 2 + reg.localRegion.getSize)

def deserializeGeographicRegion : Read (GeographicRegion × ℕ) := do
  let type ← byte
  match type.toNat with
  | 0 => pure (.none, 1)
  | 1 => do
    let (circle, size) ← deserializeCircularRegion
    pure (.circle circle, 1 + size)
  | 2 => do
    let (list, size) ← deserializeRectangularRegions limit
    pure (.rectangles list, 1 + size + lengthCodingSize (1 + size))
  | 3 => do
    let (polygon, size) ← deserializePolygonalRegion limit
    pure (.polygon polygon, 1 + size + lengthCodingSize (1 + size))
  | 4 => do
    let (id, size) ← deserializeIdentifiedRegion limit
    pure (.identified id, 1 + size)
  | _ => fail "Unknown RegionType"

/-! ### Keys and signatures -/

def deserializeEccPoint : Read EccPoint := do
  let type ← byte
  match type.toNat with
  | 0 => do
    let x ← octets fieldSize
    pure (.xCoordinateOnly x)
  | 2 => do
    let x ← octets fieldSize
    pure (.compressedLsbY0 x)
  | 3 => do
    let x ← octets fieldSize
    pure (.compressedLsbY1 x)
  | 4 => do
    let x ← octets fieldSize
    let y ← octets fieldSize
    pure (.uncompressed x y)
  | _ => fail "Unknown EccPointType"

def deserializePublicKey : Read (PublicKey × ℕ) := do
  let type ← byte
  match type.toNat with
  | 0 => do
    let publicKey ← deserializeEccPoint
    let key : PublicKey := .ecdsaNistp256WithSha256 publicKey
    pure (key, key.getSize)
  | 1 => do
    let supportedSymmAlg ← byte
    let publicKey ← deserializeEccPoint
    let key : PublicKey := .eciesNistp256 supportedSymmAlg publicKey
    pure (key, key.getSize)
  | _ => fail "Unknown PublicKeyAlgorithm"

def deserializeEcdsaSignature : Read (EcdsaSignature × ℕ) := do
  let point ← deserializeEccPoint
  let buf ← octets fieldSize
  let sig : EcdsaSignature := ⟨point, buf⟩
  pure (sig, sig.getSize)

def deserializeSignature : Read (Signature × ℕ) := do
  let algo ← byte
  match algo.toNat with
  | 0 => do
    let (signature, size) ← deserializeEcdsaSignature
    pure (signature, 1 + size)
  | _ => fail "Unknown PublicKeyAlgorithm"

def deserializeTrailerField : Read (TrailerField × ℕ) := do
  let type ← byte
  match type.toNat with
  | 1 => do
    let (sig, size) ← deserializeSignature
    pure (.signature sig, 1 + size)
  | _ => fail "Unknown TrailerFieldType"

/-! ### Certificates -/

/-- The name grows with the bytes that are read. -/
def deserializeSubjectInfo : Read (SubjectInfo × ℕ) := do
  let subjectType ← byte
  let size ← deserializeLength limit
  let subjectName ← octets size.toNat
  let sub : SubjectInfo := ⟨subjectType, subjectName.1⟩
  pure (sub, sub.getSize)

/-- The permissions get their size before their bytes are read. -/
def deserializeItsAidSsp : Read (ItsAidSsp × ℕ) := do
  let (itsAid, size) ← deserializeIntX limit
  let bufSize ← deserializeLength limit
  resize limit bufSize.toNat
  let permissions ← octets bufSize.toNat
  pure (⟨itsAid, permissions.1⟩, size + (bufSize.toNat + lengthCodingSize bufSize.toNat))

def deserializeSubjectAttribute : Read (SubjectAttribute × ℕ) := do
  let type ← byte
  match type.toNat with
  | 2 => do
    let raw ← byte
    pure (.assurance raw, 1 + 1)
  | 0 => do
    let (key, size) ← deserializePublicKey
    pure (.verificationKey key, 1 + size)
  | 1 => do
    let (key, size) ← deserializePublicKey
    pure (.encryptionKey key, 1 + size)
  | 32 => do
    let (list, tmpSize) ← deserializeList limit (deserializeIntX limit)
    pure (.itsAidList list, 1 + tmpSize + lengthCodingSize tmpSize)
  | 33 => do
    let (list, tmpSize) ← deserializeList limit (deserializeItsAidSsp limit)
    pure (.itsAidSspList list, 1 + tmpSize + lengthCodingSize tmpSize)
  | 3 => fail "unsupported deserialization of SubjectAttribute with EccPoint"
  | _ => fail "Unknown SubjectAttributeType"

def deserializeValidityRestriction : Read (ValidityRestriction × ℕ) := do
  let type ← byte
  match type.toNat with
  | 0 => do
    let endValidity ← uint32
    pure (.timeEnd endValidity, 1 + 4)
  | 2 => do
    let startValidity ← uint32
    let duration ← uint16
    pure (.timeStartAndDuration startValidity ⟨duration⟩, 1 + 6)
  | 1 => do
    let startValidity ← uint32
    let endValidity ← uint32
    pure (.timeStartAndEnd startValidity endValidity, 1 + 8)
  | 3 => do
    let (region, size) ← deserializeGeographicRegion limit
    pure (.region region, 1 + size)
  | _ => fail "Unknown ValidityRestrictionType"

/-- `deserialize` of a signer info, over the one of certificates. -/
def deserializeSignerInfoWith (certificate : Read (Certificate × ℕ)) : Read (SignerInfo × ℕ) := do
  let type ← byte
  match type.toNat with
  | 2 => do
    let (cert, size) ← certificate
    pure (.certificate cert, 1 + size)
  | 3 => do
    let (chain, size) ← deserializeList limit certificate
    record (.chain size)
    pure (.certificateChain chain, 1 + size + lengthCodingSize (1 + size))
  | 1 => do
    let digest ← octets 8
    pure (.certificateDigestWithSha256 digest, 1 + 8)
  | 4 => do
    let algorithm ← byte
    let digest ← octets 8
    pure (.certificateDigestWithOtherAlgorithm algorithm digest, 1 + (8 + 1))
  | 0 => pure (.self, 1)
  | _ => fail "Unknown SignerInfoType"

/-- `deserialize` of a certificate, over the one of the certificates in its signer info. -/
def deserializeCertificateWith (certificate : Read (Certificate × ℕ)) :
    Read (Certificate × ℕ) := do
  let version ← byte
  if version = 2 then do
    let (signerInfo, signerSize) ← deserializeSignerInfoWith limit certificate
    let (subjectInfo, subjectSize) ← deserializeSubjectInfo limit
    let (attributes, attributesSize) ← deserializeList limit (deserializeSubjectAttribute limit)
    let (restrictions, restrictionsSize) ←
      deserializeList limit (deserializeValidityRestriction limit)
    let (signature, signatureSize) ← deserializeSignature
    pure (⟨signerInfo, subjectInfo, attributes, restrictions, signature⟩,
      1 + signerSize + subjectSize +
      attributesSize + lengthCodingSize (listSize SubjectAttribute.getSize attributes) +
      restrictionsSize + lengthCodingSize (listSize ValidityRestriction.getSize restrictions) +
      signatureSize)
  else fail "Unsupported Certificate version"

def deserializeCertificate : Read (Certificate × ℕ) :=
  Reader.fix .exhausted (deserializeCertificateWith limit)

def deserializeSignerInfo : Read (SignerInfo × ℕ) :=
  deserializeSignerInfoWith limit (deserializeCertificate limit)

/-! ### Messages -/

def deserializeEncryptionParameter : Read (EncryptionParameter × ℕ) := do
  let algo ← byte
  match algo.toNat with
  | 0 => do
    let nonce ← octets 12
    pure (nonce, EncryptionParameter.getSize nonce)
  | _ => fail "Unknown Symmetric Algorithm"

/-- An opaque key gets its size before its bytes are read. -/
def deserializeRecipientInfo (symAlgo : SymmetricAlgorithm) : Read (RecipientInfo × ℕ) := do
  let certId ← octets 8
  let algo ← byte
  match algo.toNat, symAlgo with
  | 1, .aes128Ccm => do
    let v ← deserializeEccPoint
    let c ← octets (SymmetricAlgorithm.fieldSize .aes128Ccm)
    let t ← octets 16
    let info : RecipientInfo := ⟨certId, .ecies v c t⟩
    pure (info, info.getSize)
  | _, _ => do
    let length ← deserializeLength limit
    resize limit length.toNat
    let data ← octets length.toNat
    let info : RecipientInfo := ⟨certId, .opaqueKey data.1⟩
    pure (info, info.getSize)

/-- The loop over the ids takes three bytes as long as fewer than announced are counted. -/
def hashedIdLoop (length : UInt64) : Read (List HashedId3 × ℕ) := do
  record (.hashedIds length.toNat)
  let (ids, _) ← loop (fun (_, c) => decide (c < length.toNat))
    (fun (ids, c) => do
      let id ← octets 3
      pure (ids ++ [id], c + 3))
    (([], 0) : List HashedId3 × ℕ)
  pure (ids, length.toNat)

/-- One round of the loop over the header fields: the field, what is added to `read`, and the
symmetric algorithm known from then on. -/
def deserializeHeaderField (symAlgo : Option SymmetricAlgorithm) :
    Read (HeaderField × ℕ × Option SymmetricAlgorithm) := do
  let type ← byte
  match type.toNat with
  | 0 => do
    let time ← uint64
    pure (.generationTime time, 1 + 8, symAlgo)
  | 1 => do
    let time64 ← uint64
    let logStdDev ← byte
    pure (.generationTimeConfidence ⟨time64, logStdDev⟩, 1 + 8 + 1, symAlgo)
  | 2 => do
    let time ← uint32
    pure (.expiration time, 1 + 4, symAlgo)
  | 3 => do
    let (loc, size) ← deserializeThreeDLocation
    pure (.generationLocation loc, 1 + size, symAlgo)
  | 4 => do
    let length ← deserializeLength limit
    let (ids, tmpSize) ← hashedIdLoop length
    pure (.requestUnrecognizedCertificate ids, 1 + tmpSize + lengthCodingSize tmpSize, symAlgo)
  | 5 => do
    let (itsAid, size) ← deserializeIntX limit
    pure (.itsAid itsAid, 1 + size, symAlgo)
  | 128 => do
    let (info, size) ← deserializeSignerInfo limit
    pure (.signerInfo info, 1 + size, symAlgo)
  | 130 =>
    match symAlgo with
    | some algo => do
      let (recipients, tmpSize) ← deserializeList limit (deserializeRecipientInfo limit algo)
      pure (.recipientInfo recipients, 1 + tmpSize + lengthCodingSize tmpSize, symAlgo)
    | none => fail ("HeaderFields: RecipientInfo read before EncryptionParameters: " ++
        "SymmetricAlgorithm still unknown")
  | 129 => do
    let (param, size) ← deserializeEncryptionParameter
    pure (.encryptionParameters param, 1 + size, some .aes128Ccm)
  | _ => fail "Unknown HeaderFieldType"

/-- The loop over the header fields ends as soon as the announced length is reached. -/
def headerLoop (size : UInt64) : Read (List HeaderField × ℕ) := do
  let (list, read, _) ← loop (fun (_, read, _) => decide (read < size.toNat))
    (fun (list, read, symAlgo) => do
      let (field, taken, symAlgo) ← deserializeHeaderField limit symAlgo
      pure (list ++ [field], read + taken, symAlgo))
    (([], 0, none) : List HeaderField × ℕ × Option SymmetricAlgorithm)
  record (.header size.toNat read)
  pure (list, size.toNat)

def deserializeHeaderFields : Read (List HeaderField × ℕ) := do
  let size ← deserializeLength limit
  headerLoop limit size

/-- The payload's buffer gets its size before its bytes are read. -/
def deserializePayload : Read (Payload × ℕ) := do
  let type ← byte
  let dataLength ← deserializeLength limit
  resize limit dataLength.toNat
  let data ← octets dataLength.toNat
  pure (⟨type, data.1⟩, 1 + lengthCodingSize dataLength.toNat + dataLength.toNat)

def deserializeSecuredMessage : Read (SecuredMessage × ℕ) := do
  let protocolVersion ← byte
  if protocolVersion = 2 then do
    let (headerFields, hdrLength) ← deserializeHeaderFields limit
    let (payload, payloadLength) ← deserializePayload limit
    let (trailerFields, trlrLength) ← deserializeList limit deserializeTrailerField
    pure (⟨headerFields, payload, trailerFields⟩,
      1 + (hdrLength + lengthCodingSize hdrLength) + payloadLength +
      (trlrLength + lengthCodingSize trlrLength))
  else fail "Unsupported SecuredMessage protocol version"

/-! ### `Parser::parse_secured` -/

inductive Parsed
  /-- The number of bytes returned, 0 for a failure. -/
  | returned (bytes : ℕ) (secured : Option SecuredMessage)
  | fatal (fault : Fault)

/-- An input that nothing has been read of. -/
def untouched (input : ByteBuffer) : Tape Note := ⟨input, []⟩

def parseSecured (input : ByteBuffer) : Parsed :=
  match (deserializeSecuredMessage limit (untouched input)).1 with
  | .ok (secured, bytes) => .returned bytes (some secured)
  | .error .incomplete => .returned 0 none
  | .error (.deserializationError _) => .returned 0 none
  | .error fault => .fatal fault

/-- What `parseSecured` meets in the input. -/
def notes (input : ByteBuffer) : List Note :=
  (deserializeSecuredMessage limit (untouched input)).2.notes

end Vanet.Security
