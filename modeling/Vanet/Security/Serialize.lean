/-
**The serialisers of secured messages**, as far as signatures and hashes depend on them.

`convertForSigning` are the bytes a signature is made of, `calculateHash` is the id of a
certificate: the last eight bytes of the hash of its canonical encoding, in which the signature's
point is reduced to its x coordinate.
-/

import Vanet.Security.Elements

namespace Vanet.Security

open Vanet.Library

/-- The bytes of a number, the most significant one first. -/
def hton (bytes : ℕ) (value : ℕ) : ByteBuffer :=
  (List.range bytes).reverse.map fun i => UInt8.ofNat (value / 256 ^ i)

def serializeLength (size : ℕ) : ByteBuffer := encodeLength (UInt64.ofNat size)

/-- A list of elements behind its length. -/
def serializeList {α : Type} (getSize : α → ℕ) (serialize : α → ByteBuffer) (list : List α) :
    ByteBuffer :=
  serializeLength (listSize getSize list) ++ list.flatMap serialize

/-- A byte string behind its length. -/
def serializeBuffer (buffer : ByteBuffer) : ByteBuffer := serializeLength buffer.length ++ buffer

def IntX.serialize (intx : IntX) : ByteBuffer := encodeLength intx.value

/-! ### Regions -/

def TwoDLocation.serialize (loc : TwoDLocation) : ByteBuffer :=
  hton 4 loc.latitude.toUInt32.toNat ++ hton 4 loc.longitude.toUInt32.toNat

def ThreeDLocation.serialize (loc : ThreeDLocation) : ByteBuffer :=
  hton 4 loc.latitude.toUInt32.toNat ++ hton 4 loc.longitude.toUInt32.toNat ++ loc.elevation.1

def CircularRegion.serialize (reg : CircularRegion) : ByteBuffer :=
  reg.center.serialize ++ hton 2 reg.radius.toNat

def RectangularRegion.serialize (reg : RectangularRegion) : ByteBuffer :=
  reg.northwest.serialize ++ reg.southeast.serialize

def IdentifiedRegion.serialize (reg : IdentifiedRegion) : ByteBuffer :=
  reg.regionDictionary :: (hton 2 reg.regionIdentifier.toUInt16.toNat ++ reg.localRegion.serialize)

def GeographicRegion.serialize : GeographicRegion → ByteBuffer
  | .none => [0]
  | .circle region => 1 :: region.serialize
  | .rectangles regions =>
    2 :: serializeList RectangularRegion.getSize RectangularRegion.serialize regions
  | .polygon region => 3 :: serializeList TwoDLocation.getSize TwoDLocation.serialize region
  | .identified region => 4 :: region.serialize

/-! ### Keys and signatures -/

def EccPoint.serialize : EccPoint → ByteBuffer
  | .xCoordinateOnly x => 0 :: x.1
  | .compressedLsbY0 x => 2 :: x.1
  | .compressedLsbY1 x => 3 :: x.1
  | .uncompressed x y => 4 :: (x.1 ++ y.1)

def PublicKey.serialize : PublicKey → ByteBuffer
  | .ecdsaNistp256WithSha256 publicKey => 0 :: publicKey.serialize
  | .eciesNistp256 supportedSymmAlg publicKey => 1 :: supportedSymmAlg :: publicKey.serialize

def EcdsaSignature.serialize (sig : EcdsaSignature) : ByteBuffer := sig.R.serialize ++ sig.s.1

def Signature.serialize (sig : Signature) : ByteBuffer := 0 :: EcdsaSignature.serialize sig

/-! ### Certificates -/

def SubjectInfo.serialize (sub : SubjectInfo) : ByteBuffer :=
  sub.subjectType :: serializeBuffer sub.subjectName

def ItsAidSsp.serialize (itsAidSsp : ItsAidSsp) : ByteBuffer :=
  itsAidSsp.itsAid.serialize ++ serializeBuffer itsAidSsp.serviceSpecificPermissions

def SubjectAttribute.serialize : SubjectAttribute → ByteBuffer
  | .verificationKey key => 0 :: key.serialize
  | .encryptionKey key => 1 :: key.serialize
  | .assurance raw => [2, raw]
  | .itsAidList list => 32 :: serializeList IntX.getSize IntX.serialize list
  | .itsAidSspList list => 33 :: serializeList ItsAidSsp.getSize ItsAidSsp.serialize list

def ValidityRestriction.serialize : ValidityRestriction → ByteBuffer
  | .timeEnd endValidity => 0 :: hton 4 endValidity.toNat
  | .timeStartAndEnd startValidity endValidity =>
    1 :: (hton 4 startValidity.toNat ++ hton 4 endValidity.toNat)
  | .timeStartAndDuration startValidity duration =>
    2 :: (hton 4 startValidity.toNat ++ hton 2 duration.raw.toNat)
  | .region area => 3 :: area.serialize

/-- The lists and the signature at the end of a certificate. -/
def certificateTailSize (sub : SubjectInfo) (attributes : List SubjectAttribute)
    (restrictions : List ValidityRestriction) (sig : Signature) : ℕ :=
  let attributesSize := listSize SubjectAttribute.getSize attributes
  let restrictionsSize := listSize ValidityRestriction.getSize restrictions
  sub.getSize + attributesSize + lengthCodingSize attributesSize + restrictionsSize +
    lengthCodingSize restrictionsSize + Signature.getSize sig

/-- What is signed of a certificate behind its signer info. -/
def certificateTail (sub : SubjectInfo) (attributes : List SubjectAttribute)
    (restrictions : List ValidityRestriction) : ByteBuffer :=
  sub.serialize ++ serializeList SubjectAttribute.getSize SubjectAttribute.serialize attributes ++
    serializeList ValidityRestriction.getSize ValidityRestriction.serialize restrictions

mutual

def Certificate.getSize : Certificate → ℕ
  | .mk signerInfo sub attributes restrictions sig =>
    1 + signerInfoSize signerInfo + certificateTailSize sub attributes restrictions sig

def signerInfoSize : SignerInfoOf Certificate → ℕ
  | .self => 1
  | .certificateDigestWithSha256 digest => 1 + digest.1.length
  | .certificate cert => 1 + cert.getSize
  | .certificateChain chain => 1 + (chainSize chain + lengthCodingSize (chainSize chain))
  | .certificateDigestWithOtherAlgorithm _ digest => 1 + (digest.1.length + 1)

def chainSize : List Certificate → ℕ
  | [] => 0
  | cert :: chain => cert.getSize + chainSize chain

end

mutual

def Certificate.serialize : Certificate → ByteBuffer
  | .mk signerInfo sub attributes restrictions sig =>
    2 :: (serializeSignerInfo signerInfo ++ certificateTail sub attributes restrictions ++
      Signature.serialize sig)

def serializeSignerInfo : SignerInfoOf Certificate → ByteBuffer
  | .self => [0]
  | .certificateDigestWithSha256 digest => 1 :: digest.1
  | .certificate cert => 2 :: cert.serialize
  | .certificateChain chain => 3 :: (serializeLength (chainSize chain) ++ serializeChain chain)
  | .certificateDigestWithOtherAlgorithm algorithm digest => 4 :: algorithm :: digest.1

def serializeChain : List Certificate → ByteBuffer
  | [] => []
  | cert :: chain => cert.serialize ++ serializeChain chain

end

/-- The bytes that the signature of a certificate is made of. -/
def Certificate.convertForSigning : Certificate → ByteBuffer
  | .mk signerInfo sub attributes restrictions _ =>
    2 :: (serializeSignerInfo signerInfo ++ certificateTail sub attributes restrictions)

/-- The `canonical_visitor` of `calculate_hash`. -/
def EccPoint.canonical : EccPoint → EccPoint
  | .xCoordinateOnly x => .xCoordinateOnly x
  | .compressedLsbY0 x => .xCoordinateOnly x
  | .compressedLsbY1 x => .xCoordinateOnly x
  | .uncompressed x _ => .xCoordinateOnly x

def Certificate.canonical : Certificate → Certificate
  | .mk signerInfo sub attributes restrictions sig =>
    .mk signerInfo sub attributes restrictions ⟨sig.R.canonical, sig.s⟩

/-- `calculate_hash`, over the hash function. -/
def calculateHash (sha256 : ByteBuffer → Octets 32) (cert : Certificate) : HashedId8 :=
  let digest := sha256 cert.canonical.serialize
  ⟨digest.1.drop 24, by rw [List.length_drop, digest.2]⟩

/-! ### Messages -/

def RecipientInfo.serialize (info : RecipientInfo) : ByteBuffer :=
  info.certId.1 ++
    match info.encKey with
    | .ecies v c t => 1 :: (v.serialize ++ c.1 ++ t.1)
    | .opaqueKey data => 0 :: serializeBuffer data

def HeaderField.getSize : HeaderField → ℕ
  | .generationTime _ => 1 + 8
  | .generationTimeConfidence _ => 1 + (8 + 1)
  | .expiration _ => 1 + 4
  | .generationLocation location => 1 + location.getSize
  | .requestUnrecognizedCertificate ids =>
    let size := listSize (fun id : HashedId3 => id.1.length) ids
    1 + (size + lengthCodingSize size)
  | .itsAid aid => 1 + aid.getSize
  | .signerInfo info => 1 + signerInfoSize info
  | .encryptionParameters param => 1 + EncryptionParameter.getSize param
  | .recipientInfo recipients =>
    let size := listSize RecipientInfo.getSize recipients
    1 + (size + lengthCodingSize size)

def HeaderField.serialize : HeaderField → ByteBuffer
  | .generationTime time => 0 :: hton 8 time.toNat
  | .generationTimeConfidence time => 1 :: (hton 8 time.time64.toNat ++ [time.logStdDev])
  | .expiration time => 2 :: hton 4 time.toNat
  | .generationLocation location => 3 :: location.serialize
  | .requestUnrecognizedCertificate ids =>
    4 :: serializeList (fun id : HashedId3 => id.1.length) (fun id => id.1) ids
  | .itsAid aid => 5 :: aid.serialize
  | .signerInfo info => 128 :: serializeSignerInfo info
  | .encryptionParameters param => 129 :: 0 :: param.1
  | .recipientInfo recipients =>
    130 :: serializeList RecipientInfo.getSize RecipientInfo.serialize recipients

def Payload.getSize (payload : Payload) : ℕ :=
  1 + payload.data.length + lengthCodingSize payload.data.length

def Payload.serialize (payload : Payload) : ByteBuffer :=
  payload.type :: serializeBuffer payload.data

def TrailerField.serialize : TrailerField → ByteBuffer
  | .signature sig => 1 :: Signature.serialize sig

/-- The trailer fields in front of the signature, and the signature's type. -/
def trailerForSigning : List TrailerField → ByteBuffer
  | [] => []
  | .signature _ :: _ => [1]

def SecuredMessage.getSize (message : SecuredMessage) : ℕ :=
  let headerSize := listSize HeaderField.getSize message.headerFields
  let trailerSize := listSize TrailerField.getSize message.trailerFields
  1 + headerSize + lengthCodingSize headerSize + trailerSize + lengthCodingSize trailerSize +
    message.payload.getSize

def SecuredMessage.serialize (message : SecuredMessage) : ByteBuffer :=
  2 :: (serializeList HeaderField.getSize HeaderField.serialize message.headerFields ++
    message.payload.serialize ++
    serializeList TrailerField.getSize TrailerField.serialize message.trailerFields)

/-- The bytes that the signature of a message is made of. -/
def SecuredMessage.convertForSigning (message : SecuredMessage)
    (trailerFields : List TrailerField) : ByteBuffer :=
  2 :: (serializeList HeaderField.getSize HeaderField.serialize message.headerFields ++
    message.payload.serialize ++ serializeLength (listSize TrailerField.getSize trailerFields) ++
    trailerForSigning trailerFields)

end Vanet.Security
