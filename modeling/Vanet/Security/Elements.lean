/-
**The elements of a secured message and their sizes.**

The data types follow the source's: a `boost::variant` is an inductive type with the alternatives in
the same order. Byte strings whose length `serialize` asserts (coordinates, signature values,
encrypted keys) carry that length in their type. An enumeration that is read from a byte without a
check is that byte.

`getSize` is `get_size`: the number of bytes an element takes in its shortest encoding.
-/

import Vanet.Library.Reader
import Vanet.Security.LengthCoding

namespace Vanet.Security

open Vanet.Library

abbrev Time64 := UInt64
abbrev Time32 := UInt32
abbrev HashedId8 := Octets 8
abbrev HashedId3 := Octets 3

structure Time64WithStandardDeviation where
  time64 : Time64
  logStdDev : UInt8
  deriving DecidableEq

structure IntX where
  value : UInt64
  deriving DecidableEq

def IntX.getSize (intx : IntX) : ℕ := lengthCodingSize intx.value.toNat

/-- The elements of a list, without the length in front of them. -/
def listSize {α : Type} (getSize : α → ℕ) (list : List α) : ℕ := (list.map getSize).sum

@[simp] theorem listSize_nil {α : Type} (getSize : α → ℕ) : listSize getSize [] = 0 := rfl

@[simp] theorem listSize_concat {α : Type} (getSize : α → ℕ) (list : List α) (element : α) :
    listSize getSize (list ++ [element]) = listSize getSize list + getSize element := by
  simp [listSize]

/-! ### Regions -/

structure TwoDLocation where
  latitude : Int32
  longitude : Int32
  deriving DecidableEq

structure ThreeDLocation where
  latitude : Int32
  longitude : Int32
  elevation : Octets 2
  deriving DecidableEq

structure CircularRegion where
  center : TwoDLocation
  radius : UInt16
  deriving DecidableEq

structure RectangularRegion where
  northwest : TwoDLocation
  southeast : TwoDLocation
  deriving DecidableEq

abbrev PolygonalRegion := List TwoDLocation

/-- `region_dictionary` is 0 for ISO 3166-1 and 1 for the UN statistics division, or any other byte. -/
structure IdentifiedRegion where
  regionDictionary : UInt8
  regionIdentifier : Int16
  localRegion : IntX
  deriving DecidableEq

inductive GeographicRegion
  | none
  | circle (region : CircularRegion)
  | rectangles (regions : List RectangularRegion)
  | polygon (region : PolygonalRegion)
  | identified (region : IdentifiedRegion)
  deriving DecidableEq

def TwoDLocation.getSize (_ : TwoDLocation) : ℕ := 8

def ThreeDLocation.getSize (_ : ThreeDLocation) : ℕ := 10

def CircularRegion.getSize (region : CircularRegion) : ℕ := region.center.getSize + 2

def RectangularRegion.getSize (region : RectangularRegion) : ℕ :=
  region.northwest.getSize + region.southeast.getSize

def IdentifiedRegion.getSize (region : IdentifiedRegion) : ℕ := 1 + 2 + region.localRegion.getSize

def GeographicRegion.getSize : GeographicRegion → ℕ
  | .none => 1
  | .circle region => 1 + region.getSize
  | .rectangles regions =>
    let size := listSize RectangularRegion.getSize regions
    1 + (size + lengthCodingSize size)
  | .polygon region =>
    let size := listSize TwoDLocation.getSize region
    1 + (size + lengthCodingSize size)
  | .identified region => 1 + region.getSize

/-! ### Keys and signatures -/

/-- The `field_size` of both public key algorithms. -/
def fieldSize : ℕ := 32

inductive SymmetricAlgorithm
  | aes128Ccm
  deriving DecidableEq

def SymmetricAlgorithm.fieldSize : SymmetricAlgorithm → ℕ
  | .aes128Ccm => 16

abbrev Coordinate := Octets fieldSize

inductive EccPoint
  | xCoordinateOnly (x : Coordinate)
  | compressedLsbY0 (x : Coordinate)
  | compressedLsbY1 (x : Coordinate)
  | uncompressed (x y : Coordinate)
  deriving DecidableEq

def EccPoint.getSize : EccPoint → ℕ
  | .xCoordinateOnly x => 1 + x.1.length
  | .compressedLsbY0 x => 1 + x.1.length
  | .compressedLsbY1 x => 1 + x.1.length
  | .uncompressed x y => 1 + (x.1.length + y.1.length)

inductive PublicKey
  | ecdsaNistp256WithSha256 (publicKey : EccPoint)
  | eciesNistp256 (supportedSymmAlg : UInt8) (publicKey : EccPoint)
  deriving DecidableEq

def PublicKey.getSize : PublicKey → ℕ
  | .ecdsaNistp256WithSha256 publicKey => 1 + publicKey.getSize
  | .eciesNistp256 _ publicKey => 1 + (publicKey.getSize + 1)

structure EcdsaSignature where
  R : EccPoint
  s : Coordinate
  deriving DecidableEq

def EcdsaSignature.getSize (sig : EcdsaSignature) : ℕ := sig.s.1.length + sig.R.getSize

/-- A signature that is there: what was received is never a future. -/
abbrev Signature := EcdsaSignature

def Signature.getSize (sig : Signature) : ℕ := 1 + EcdsaSignature.getSize sig

inductive TrailerField
  | signature (sig : Signature)
  deriving DecidableEq

def TrailerField.getSize : TrailerField → ℕ
  | .signature sig => 1 + Signature.getSize sig

/-! ### Certificates -/

/-- `SubjectType`: a byte, of which these values are named. -/
abbrev SubjectType := UInt8

namespace SubjectType

def enrollmentCredential : SubjectType := 0
def authorizationTicket : SubjectType := 1
def authorizationAuthority : SubjectType := 2
def enrollmentAuthority : SubjectType := 3
def rootCa : SubjectType := 4
def crlSigner : SubjectType := 5

end SubjectType

structure SubjectInfo where
  subjectType : SubjectType
  subjectName : ByteBuffer
  deriving DecidableEq

def SubjectInfo.getSize (sub : SubjectInfo) : ℕ :=
  1 + sub.subjectName.length + lengthCodingSize sub.subjectName.length

structure ItsAidSsp where
  itsAid : IntX
  serviceSpecificPermissions : ByteBuffer
  deriving DecidableEq

def ItsAidSsp.getSize (itsAidSsp : ItsAidSsp) : ℕ :=
  itsAidSsp.itsAid.getSize + itsAidSsp.serviceSpecificPermissions.length +
    lengthCodingSize itsAidSsp.serviceSpecificPermissions.length

/-- An attribute with a reconstruction value is neither serialised nor deserialised: both throw. -/
inductive SubjectAttribute
  | verificationKey (key : PublicKey)
  | encryptionKey (key : PublicKey)
  | assurance (raw : UInt8)
  | itsAidList (list : List IntX)
  | itsAidSspList (list : List ItsAidSsp)
  deriving DecidableEq

def SubjectAttribute.getSize : SubjectAttribute → ℕ
  | .verificationKey key => 1 + key.getSize
  | .encryptionKey key => 1 + key.getSize
  | .assurance _ => 1 + 1
  | .itsAidList list =>
    let size := listSize IntX.getSize list
    1 + (size + lengthCodingSize size)
  | .itsAidSspList list =>
    let size := listSize ItsAidSsp.getSize list
    1 + (size + lengthCodingSize size)

/-- `Duration`: three bits of unit and thirteen bits of value. -/
structure Duration where
  raw : UInt16
  deriving DecidableEq

inductive ValidityRestriction
  | timeEnd (endValidity : Time32)
  | timeStartAndEnd (startValidity endValidity : Time32)
  | timeStartAndDuration (startValidity : Time32) (duration : Duration)
  | region (area : GeographicRegion)
  deriving DecidableEq

def ValidityRestriction.getSize : ValidityRestriction → ℕ
  | .timeEnd _ => 1 + 4
  | .timeStartAndEnd _ _ => 1 + 8
  | .timeStartAndDuration _ _ => 1 + 6
  | .region area => 1 + area.getSize

/-- `SignerInfo` over the type of the certificates in it. -/
inductive SignerInfoOf (γ : Type)
  | self
  | certificateDigestWithSha256 (digest : HashedId8)
  | certificate (cert : γ)
  | certificateChain (chain : List γ)
  | certificateDigestWithOtherAlgorithm (algorithm : UInt8) (digest : HashedId8)

inductive Certificate
  | mk (signerInfo : SignerInfoOf Certificate) (subjectInfo : SubjectInfo)
      (subjectAttributes : List SubjectAttribute) (validityRestriction : List ValidityRestriction)
      (signature : Signature)

abbrev SignerInfo := SignerInfoOf Certificate

namespace Certificate

def signerInfo : Certificate → SignerInfo
  | mk signerInfo _ _ _ _ => signerInfo

def subjectInfo : Certificate → SubjectInfo
  | mk _ subjectInfo _ _ _ => subjectInfo

def subjectAttributes : Certificate → List SubjectAttribute
  | mk _ _ subjectAttributes _ _ => subjectAttributes

def validityRestriction : Certificate → List ValidityRestriction
  | mk _ _ _ validityRestriction _ => validityRestriction

def signature : Certificate → Signature
  | mk _ _ _ _ signature => signature

end Certificate

/-! ### Messages -/

abbrev Nonce := Octets 12

/-- `EncryptionParameter`: a nonce for AES128_CCM. -/
abbrev EncryptionParameter := Nonce

def EncryptionParameter.getSize (param : EncryptionParameter) : ℕ := 1 + param.1.length

inductive Key
  | ecies (v : EccPoint) (c : Octets (SymmetricAlgorithm.fieldSize .aes128Ccm)) (t : Octets 16)
  | opaqueKey (data : ByteBuffer)
  deriving DecidableEq

structure RecipientInfo where
  certId : HashedId8
  encKey : Key
  deriving DecidableEq

def RecipientInfo.getSize (info : RecipientInfo) : ℕ :=
  info.certId.1.length + 1 +
    match info.encKey with
    | .ecies v c t => c.1.length + t.1.length + v.getSize
    | .opaqueKey data => lengthCodingSize data.length + data.length

inductive HeaderField
  | generationTime (time : Time64)
  | generationTimeConfidence (time : Time64WithStandardDeviation)
  | expiration (time : Time32)
  | generationLocation (location : ThreeDLocation)
  | requestUnrecognizedCertificate (ids : List HashedId3)
  | itsAid (aid : IntX)
  | signerInfo (info : SignerInfo)
  | encryptionParameters (param : EncryptionParameter)
  | recipientInfo (recipients : List RecipientInfo)

/-- `PayloadType`: 0 unsecured, 1 signed, 2 encrypted, 3 signed external, 4 signed and encrypted, or
any other byte. -/
abbrev PayloadType := UInt8

structure Payload where
  type : PayloadType
  data : ByteBuffer
  deriving DecidableEq

structure SecuredMessage where
  headerFields : List HeaderField
  payload : Payload
  trailerFields : List TrailerField

end Vanet.Security
