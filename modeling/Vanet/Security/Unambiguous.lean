/-
**What is signed is unambiguous.**

The bytes that are signed of a message tell its header fields and its payload, those of a certificate
tell everything but its signature: every element is serialised in a delimited way (`Delimited`), as
long as its size can be told in a `size_t`. A list is delimited as its size stands in front of it and
no element has the size zero.
-/

import Mathlib.Algebra.Order.BigOperators.Group.List
import Vanet.Library.Delimited
import Vanet.Security.LengthEncoding

namespace Vanet.Security

open Vanet.Library

/-- `SIZE_MAX` and one. -/
def sizeLimit : ℕ := 2 ^ 64

/-! ### Numbers -/

theorem delimited_hton (bytes : ℕ) : Delimited (fun value => value < 256 ^ bytes) (hton bytes) := by
  refine .fixed (fun value _ => length_hton bytes value) fun one other fits fitsOther same => ?_
  have read := congrArg Read.networkOrder same
  rwa [networkOrder_hton, networkOrder_hton, Nat.mod_eq_of_lt fits, Nat.mod_eq_of_lt fitsOther] at read

theorem delimited_octets (n : ℕ) : Delimited (fun _ => True) fun octets : Octets n => octets.1 :=
  .fixed (fun octets _ => octets.2) fun _ _ _ _ same => Subtype.ext same

theorem encodeLength_ne {one other : UInt64} (small : one.toNat < 2 ^ 56)
    (large : ¬ other.toNat < 2 ^ 56) (more rest : ByteBuffer) :
    encodeLength one ++ more ≠ encodeLength other ++ rest := by
  intro same
  obtain ⟨first, following, encodesOne⟩ := encodes small
  rw [encodesOne.encoded, encodeLength_large (Nat.le_of_not_lt large)] at same
  exact encodesOne.notFull (List.cons.inj same).1

/-- **A number is delimited** by its first byte, whether it can be decoded or not. -/
theorem delimited_encodeLength : Delimited (fun _ => True) encodeLength := by
  intro one other more rest _ _ same
  by_cases small : one.toNat < 2 ^ 56
  · by_cases smallOther : other.toNat < 2 ^ 56
    · obtain ⟨first, following, encodesOne⟩ := encodes small
      obtain ⟨firstOther, followingOther, encodesOther⟩ := encodes smallOther
      rw [encodesOne.encoded, encodesOther.encoded] at same
      obtain ⟨rfl, follow⟩ := List.cons.inj same
      obtain ⟨rfl, rests⟩ := List.append_inj follow
        (encodesOne.leading.symm.trans encodesOther.leading)
      have decoded := encodesOne.decoded.symm.trans encodesOther.decoded
      exact ⟨congrArg Prod.snd decoded, rests⟩
    · exact absurd same (encodeLength_ne small smallOther more rest)
  · by_cases smallOther : other.toNat < 2 ^ 56
    · exact absurd same.symm (encodeLength_ne smallOther small rest more)
    · rw [encodeLength_large (Nat.le_of_not_lt small),
        encodeLength_large (Nat.le_of_not_lt smallOther)] at same
      have follow := (List.cons.inj (List.cons.inj same).2).2
      obtain ⟨values, rests⟩ := delimited_hton 8 _ _ _ _ one.toNat_lt other.toNat_lt follow
      exact ⟨UInt64.toNat_inj.mp values, rests⟩

theorem delimited_serializeLength : Delimited (fun size => size < sizeLimit) serializeLength := by
  intro one other more rest fits fitsOther same
  obtain ⟨values, rests⟩ := delimited_encodeLength _ _ _ _ trivial trivial same
  have read := congrArg UInt64.toNat values
  rw [UInt64.toNat_ofNat_of_lt' fits, UInt64.toNat_ofNat_of_lt' fitsOther] at read
  exact ⟨read, rests⟩

theorem delimited_uint16 : Delimited (fun _ => True) fun value : UInt16 => hton 2 value.toNat :=
  (delimited_hton 2).comap UInt16.toNat (fun value _ => value.toNat_lt) fun _ _ => UInt16.toNat_inj.mp

theorem delimited_uint32 : Delimited (fun _ => True) fun value : UInt32 => hton 4 value.toNat :=
  (delimited_hton 4).comap UInt32.toNat (fun value _ => value.toNat_lt) fun _ _ => UInt32.toNat_inj.mp

theorem delimited_uint64 : Delimited (fun _ => True) fun value : UInt64 => hton 8 value.toNat :=
  (delimited_hton 8).comap UInt64.toNat (fun value _ => value.toNat_lt) fun _ _ => UInt64.toNat_inj.mp

theorem delimited_int16 : Delimited (fun _ => True) fun value : Int16 => hton 2 value.toUInt16.toNat :=
  delimited_uint16.comap Int16.toUInt16 (fun _ _ => trivial) fun one other same => by
    rw [← one.toInt16_toUInt16, same, other.toInt16_toUInt16]

theorem delimited_int32 : Delimited (fun _ => True) fun value : Int32 => hton 4 value.toUInt32.toNat :=
  delimited_uint32.comap Int32.toUInt32 (fun _ _ => trivial) fun one other same => by
    rw [← one.toInt32_toUInt32, same, other.toInt32_toUInt32]

/-! ### Byte strings and lists -/

theorem delimited_serializeBuffer :
    Delimited (fun buffer => buffer.length < sizeLimit) serializeBuffer := by
  intro one other more rest fits fitsOther same
  unfold serializeBuffer at same
  rw [List.append_assoc, List.append_assoc] at same
  obtain ⟨lengths, follow⟩ := delimited_serializeLength _ _ _ _ fits fitsOther same
  exact List.append_inj follow lengths

/-- **A list is delimited** if its elements are, and there is something to each of them. -/
theorem delimited_serializeList {α : Type} {P : α → Prop} {size : α → ℕ} {encode : α → ByteBuffer}
    (delimited : Delimited P encode) (positive : ∀ value, 0 < size value) :
    Delimited (fun list => listSize size list < sizeLimit ∧ ∀ value ∈ list, P value)
      (serializeList size encode) := by
  intro one other more rest fits fitsOther same
  unfold serializeList at same
  rw [List.append_assoc, List.append_assoc] at same
  obtain ⟨sizes, follow⟩ := delimited_serializeLength _ _ _ _ fits.1 fitsOther.1 same
  exact delimited.flatMap positive one other more rest fits.2 fitsOther.2 sizes follow

/-- The elements of a list are no larger than the list. -/
theorem size_le_listSize {α : Type} {size : α → ℕ} {list : List α} {value : α} (member : value ∈ list) :
    size value ≤ listSize size list :=
  List.single_le_sum (fun _ _ => Nat.zero_le _) _ (List.mem_map_of_mem member)

/-- A list whose elements are delimited up to a size. -/
theorem delimited_list {α : Type} {size : α → ℕ} {encode : α → ByteBuffer} {bound : ℕ}
    (delimited : Delimited (fun value => size value < bound) encode)
    (positive : ∀ value, 0 < size value) (small : bound ≤ sizeLimit) :
    Delimited (fun list => listSize size list < bound) (serializeList size encode) :=
  (delimited_serializeList delimited positive).mono fun _ fits =>
    ⟨fits.trans_le small, fun _ member => (size_le_listSize member).trans_lt fits⟩

/-! ### Regions -/

theorem delimited_intX : Delimited (fun _ => True) IntX.serialize :=
  delimited_encodeLength.comap IntX.value (fun _ _ => trivial) fun _ _ => congrArg IntX.mk

theorem delimited_twoDLocation : Delimited (fun _ => True) TwoDLocation.serialize := by
  rintro ⟨latitude, longitude⟩ ⟨latitude', longitude'⟩ more rest _ _ same
  unfold TwoDLocation.serialize at same
  rw [List.append_assoc, List.append_assoc] at same
  obtain ⟨rfl, follow⟩ := delimited_int32 _ _ _ _ trivial trivial same
  obtain ⟨rfl, rests⟩ := delimited_int32 _ _ _ _ trivial trivial follow
  exact ⟨rfl, rests⟩

theorem delimited_threeDLocation : Delimited (fun _ => True) ThreeDLocation.serialize := by
  rintro ⟨latitude, longitude, elevation⟩ ⟨latitude', longitude', elevation'⟩ more rest _ _ same
  unfold ThreeDLocation.serialize at same
  simp only [List.append_assoc] at same
  obtain ⟨rfl, follow⟩ := delimited_int32 _ _ _ _ trivial trivial same
  obtain ⟨rfl, last⟩ := delimited_int32 _ _ _ _ trivial trivial follow
  obtain ⟨rfl, rests⟩ := delimited_octets 2 _ _ _ _ trivial trivial last
  exact ⟨rfl, rests⟩

theorem delimited_circularRegion : Delimited (fun _ => True) CircularRegion.serialize := by
  rintro ⟨center, radius⟩ ⟨center', radius'⟩ more rest _ _ same
  unfold CircularRegion.serialize at same
  rw [List.append_assoc, List.append_assoc] at same
  obtain ⟨rfl, follow⟩ := delimited_twoDLocation _ _ _ _ trivial trivial same
  obtain ⟨rfl, rests⟩ := delimited_uint16 _ _ _ _ trivial trivial follow
  exact ⟨rfl, rests⟩

theorem delimited_rectangularRegion : Delimited (fun _ => True) RectangularRegion.serialize := by
  rintro ⟨northwest, southeast⟩ ⟨northwest', southeast'⟩ more rest _ _ same
  unfold RectangularRegion.serialize at same
  rw [List.append_assoc, List.append_assoc] at same
  obtain ⟨rfl, follow⟩ := delimited_twoDLocation _ _ _ _ trivial trivial same
  obtain ⟨rfl, rests⟩ := delimited_twoDLocation _ _ _ _ trivial trivial follow
  exact ⟨rfl, rests⟩

theorem delimited_identifiedRegion : Delimited (fun _ => True) IdentifiedRegion.serialize := by
  rintro ⟨dictionary, identifier, local_⟩ ⟨dictionary', identifier', local'⟩ more rest _ _ same
  unfold IdentifiedRegion.serialize at same
  simp only [List.cons_append, List.append_assoc, List.cons.injEq] at same
  obtain ⟨rfl, follow⟩ := same
  obtain ⟨rfl, last⟩ := delimited_int16 _ _ _ _ trivial trivial follow
  obtain ⟨rfl, rests⟩ := delimited_intX _ _ _ _ trivial trivial last
  exact ⟨rfl, rests⟩

theorem rectangularRegion_positive (region : RectangularRegion) : 0 < region.getSize := by
  unfold RectangularRegion.getSize TwoDLocation.getSize
  decide

section Sized

variable {bound : ℕ}

/-- What a list behind a tag takes bounds the list. -/
theorem lt_of_tagged {size : ℕ} (fits : 1 + (size + lengthCodingSize size) < bound) : size < bound := by
  omega

theorem delimited_geographicRegion (small : bound ≤ sizeLimit) :
    Delimited (fun region => region.getSize < bound) GeographicRegion.serialize := by
  intro one other more rest fits fitsOther same
  cases one <;> cases other <;> try exact absurd (List.cons.inj same).1 (by decide)
  case none.none => exact ⟨rfl, (List.cons.inj same).2⟩
  case circle.circle =>
    obtain ⟨rfl, rests⟩ := delimited_circularRegion _ _ _ _ trivial trivial (List.cons.inj same).2
    exact ⟨rfl, rests⟩
  case rectangles.rectangles =>
    obtain ⟨rfl, rests⟩ := delimited_list (delimited_rectangularRegion.mono fun _ _ => trivial)
      rectangularRegion_positive small _ _ _ _ (lt_of_tagged fits) (lt_of_tagged fitsOther)
      (List.cons.inj same).2
    exact ⟨rfl, rests⟩
  case polygon.polygon =>
    obtain ⟨rfl, rests⟩ := delimited_list (delimited_twoDLocation.mono fun _ _ => trivial)
      (fun _ => Nat.succ_pos 7) small _ _ _ _ (lt_of_tagged fits) (lt_of_tagged fitsOther)
      (List.cons.inj same).2
    exact ⟨rfl, rests⟩
  case identified.identified =>
    obtain ⟨rfl, rests⟩ := delimited_identifiedRegion _ _ _ _ trivial trivial (List.cons.inj same).2
    exact ⟨rfl, rests⟩

end Sized

/-! ### Keys and signatures -/

theorem delimited_coordinate : Delimited (fun _ => True) fun octets : Coordinate => octets.1 :=
  delimited_octets fieldSize

theorem delimited_eccPoint : Delimited (fun _ => True) EccPoint.serialize := by
  intro one other more rest _ _ same
  cases one <;> cases other <;> try exact absurd (List.cons.inj same).1 (by decide)
  case uncompressed.uncompressed x y x' y' =>
    unfold EccPoint.serialize at same
    simp only [List.cons_append, List.append_assoc, List.cons.injEq, true_and] at same
    obtain ⟨rfl, follow⟩ := delimited_coordinate _ _ _ _ trivial trivial same
    obtain ⟨rfl, rests⟩ := delimited_coordinate _ _ _ _ trivial trivial follow
    exact ⟨rfl, rests⟩
  all_goals
    obtain ⟨rfl, rests⟩ := delimited_coordinate _ _ _ _ trivial trivial (List.cons.inj same).2
    exact ⟨rfl, rests⟩

theorem delimited_publicKey : Delimited (fun _ => True) PublicKey.serialize := by
  intro one other more rest _ _ same
  cases one <;> cases other <;> try exact absurd (List.cons.inj same).1 (by decide)
  case ecdsaNistp256WithSha256.ecdsaNistp256WithSha256 =>
    obtain ⟨rfl, rests⟩ := delimited_eccPoint _ _ _ _ trivial trivial (List.cons.inj same).2
    exact ⟨rfl, rests⟩
  case eciesNistp256.eciesNistp256 =>
    obtain ⟨rfl, follow⟩ := List.cons.inj (List.cons.inj same).2
    obtain ⟨rfl, rests⟩ := delimited_eccPoint _ _ _ _ trivial trivial follow
    exact ⟨rfl, rests⟩

theorem delimited_signature : Delimited (fun _ => True) Signature.serialize := by
  rintro ⟨R, s⟩ ⟨R', s'⟩ more rest _ _ same
  unfold Signature.serialize EcdsaSignature.serialize at same
  simp only [List.cons_append, List.append_assoc, List.cons.injEq, true_and] at same
  obtain ⟨rfl, follow⟩ := delimited_eccPoint _ _ _ _ trivial trivial same
  obtain ⟨rfl, rests⟩ := delimited_coordinate _ _ _ _ trivial trivial follow
  exact ⟨rfl, rests⟩

/-! ### Certificates -/

theorem lengthCodingSize_positive (length : ℕ) : 0 < lengthCodingSize length := by
  unfold lengthCodingSize
  cases length with
  | zero => exact Nat.one_pos
  | succ length =>
    unfold lengthCodingSizeFrom
    split_ifs <;> exact Nat.succ_pos _

theorem intX_positive (intx : IntX) : 0 < intx.getSize := lengthCodingSize_positive _

theorem itsAidSsp_positive (itsAidSsp : ItsAidSsp) : 0 < itsAidSsp.getSize :=
  Nat.add_pos_right _ (lengthCodingSize_positive _)

theorem subjectAttribute_positive (attr : SubjectAttribute) : 0 < attr.getSize := by
  cases attr <;> exact Nat.add_pos_left Nat.one_pos _

theorem validityRestriction_positive (restriction : ValidityRestriction) : 0 < restriction.getSize := by
  cases restriction <;> exact Nat.add_pos_left Nat.one_pos _

theorem certificate_positive (cert : Certificate) : 0 < cert.getSize := by
  cases cert
  unfold Certificate.getSize
  omega

section Sized

variable {bound : ℕ}

/-- What a byte string in an element takes bounds the byte string. -/
theorem lt_of_buffered {ahead size : ℕ} (small : bound ≤ sizeLimit)
    (fits : ahead + size + lengthCodingSize size < bound) : size < sizeLimit := by
  omega

theorem delimited_subjectInfo (small : bound ≤ sizeLimit) :
    Delimited (fun sub => sub.getSize < bound) SubjectInfo.serialize := by
  rintro ⟨subjectType, subjectName⟩ ⟨subjectType', subjectName'⟩ more rest fits fitsOther same
  obtain ⟨rfl, follow⟩ := List.cons.inj same
  obtain ⟨rfl, rests⟩ := delimited_serializeBuffer _ _ _ _ (lt_of_buffered small fits)
    (lt_of_buffered small fitsOther) follow
  exact ⟨rfl, rests⟩

theorem delimited_itsAidSsp (small : bound ≤ sizeLimit) :
    Delimited (fun itsAidSsp => itsAidSsp.getSize < bound) ItsAidSsp.serialize := by
  rintro ⟨itsAid, permissions⟩ ⟨itsAid', permissions'⟩ more rest fits fitsOther same
  unfold ItsAidSsp.serialize at same
  rw [List.append_assoc, List.append_assoc] at same
  obtain ⟨rfl, follow⟩ := delimited_intX _ _ _ _ trivial trivial same
  obtain ⟨rfl, rests⟩ := delimited_serializeBuffer _ _ _ _ (lt_of_buffered small fits)
    (lt_of_buffered small fitsOther) follow
  exact ⟨rfl, rests⟩

theorem delimited_subjectAttribute (small : bound ≤ sizeLimit) :
    Delimited (fun attr => attr.getSize < bound) SubjectAttribute.serialize := by
  intro one other more rest fits fitsOther same
  cases one <;> cases other <;> try exact absurd (List.cons.inj same).1 (by decide)
  case assurance.assurance =>
    obtain ⟨rfl, rests⟩ := List.cons.inj (List.cons.inj same).2
    exact ⟨rfl, rests⟩
  case itsAidList.itsAidList =>
    obtain ⟨rfl, rests⟩ := delimited_list (delimited_intX.mono fun _ _ => trivial) intX_positive small
      _ _ _ _ (lt_of_tagged fits) (lt_of_tagged fitsOther) (List.cons.inj same).2
    exact ⟨rfl, rests⟩
  case itsAidSspList.itsAidSspList =>
    obtain ⟨rfl, rests⟩ := delimited_list (delimited_itsAidSsp small) itsAidSsp_positive small
      _ _ _ _ (lt_of_tagged fits) (lt_of_tagged fitsOther) (List.cons.inj same).2
    exact ⟨rfl, rests⟩
  all_goals
    obtain ⟨rfl, rests⟩ := delimited_publicKey _ _ _ _ trivial trivial (List.cons.inj same).2
    exact ⟨rfl, rests⟩

theorem delimited_validityRestriction (small : bound ≤ sizeLimit) :
    Delimited (fun restriction => restriction.getSize < bound) ValidityRestriction.serialize := by
  intro one other more rest fits fitsOther same
  cases one <;> cases other <;> try exact absurd (List.cons.inj same).1 (by decide)
  case timeEnd.timeEnd =>
    obtain ⟨rfl, rests⟩ := delimited_uint32 _ _ _ _ trivial trivial (List.cons.inj same).2
    exact ⟨rfl, rests⟩
  case timeStartAndEnd.timeStartAndEnd =>
    unfold ValidityRestriction.serialize at same
    simp only [List.cons_append, List.append_assoc, List.cons.injEq, true_and] at same
    obtain ⟨rfl, follow⟩ := delimited_uint32 _ _ _ _ trivial trivial same
    obtain ⟨rfl, rests⟩ := delimited_uint32 _ _ _ _ trivial trivial follow
    exact ⟨rfl, rests⟩
  case timeStartAndDuration.timeStartAndDuration start duration start' duration' =>
    obtain ⟨raw⟩ := duration
    obtain ⟨raw'⟩ := duration'
    unfold ValidityRestriction.serialize at same
    simp only [List.cons_append, List.append_assoc, List.cons.injEq, true_and] at same
    obtain ⟨rfl, follow⟩ := delimited_uint32 _ _ _ _ trivial trivial same
    obtain ⟨rfl, rests⟩ := delimited_uint16 _ _ _ _ trivial trivial follow
    exact ⟨rfl, rests⟩
  case region.region area area' =>
    have area_lt : area.getSize < bound := Nat.lt_of_le_of_lt (Nat.le_add_left _ 1) fits
    have area_lt' : area'.getSize < bound := Nat.lt_of_le_of_lt (Nat.le_add_left _ 1) fitsOther
    obtain ⟨rfl, rests⟩ := delimited_geographicRegion small _ _ _ _ area_lt area_lt'
      (List.cons.inj same).2
    exact ⟨rfl, rests⟩

theorem certificateTail_inj {sub sub' : SubjectInfo} {attributes attributes' : List SubjectAttribute}
    {restrictions restrictions' : List ValidityRestriction} (sig sig' : Signature)
    {more rest : ByteBuffer} (small : bound ≤ sizeLimit)
    (fits : certificateTailSize sub attributes restrictions sig < bound)
    (fits' : certificateTailSize sub' attributes' restrictions' sig' < bound)
    (same : certificateTail sub attributes restrictions ++ more =
      certificateTail sub' attributes' restrictions' ++ rest) :
    sub = sub' ∧ attributes = attributes' ∧ restrictions = restrictions' ∧ more = rest := by
  unfold certificateTailSize at fits fits'
  dsimp only at fits fits'
  unfold certificateTail at same
  simp only [List.append_assoc] at same
  obtain ⟨rfl, follow⟩ := delimited_subjectInfo small _ _ _ _ (by omega) (by omega) same
  obtain ⟨rfl, last⟩ := delimited_list (delimited_subjectAttribute small) subjectAttribute_positive
    small _ _ _ _ (by omega) (by omega) follow
  obtain ⟨rfl, rests⟩ := delimited_list (delimited_validityRestriction small)
    validityRestriction_positive small _ _ _ _ (by omega) (by omega) last
  exact ⟨rfl, rfl, rfl, rests⟩

theorem chainSize_eq (chain : List Certificate) : chainSize chain = listSize Certificate.getSize chain := by
  induction chain with
  | nil => rfl
  | cons cert chain ih => rw [chainSize, ih, listSize, listSize, List.map_cons, List.sum_cons]

theorem serializeChain_eq (chain : List Certificate) :
    serializeChain chain = chain.flatMap Certificate.serialize := by
  induction chain with
  | nil => rfl
  | cons cert chain ih => rw [serializeChain, ih, List.flatMap_cons]

theorem serializeSignerInfo_chain (chain : List Certificate) :
    serializeSignerInfo (.certificateChain chain) =
      3 :: serializeList Certificate.getSize Certificate.serialize chain := by
  rw [serializeSignerInfo, chainSize_eq, serializeChain_eq, serializeList]

/-- A signer info is delimited as far as the certificates in it are. -/
theorem delimited_signerInfo (small : bound ≤ sizeLimit)
    (certificates : Delimited (fun cert => cert.getSize < bound) Certificate.serialize) :
    Delimited (fun info => signerInfoSize info < bound) serializeSignerInfo := by
  intro one other more rest fits fitsOther same
  cases one <;> cases other <;> try exact absurd (List.cons.inj same).1 (by decide)
  case self.self => exact ⟨rfl, (List.cons.inj same).2⟩
  case certificateDigestWithSha256.certificateDigestWithSha256 =>
    obtain ⟨rfl, rests⟩ := delimited_octets 8 _ _ _ _ trivial trivial (List.cons.inj same).2
    exact ⟨rfl, rests⟩
  case certificate.certificate =>
    unfold signerInfoSize at fits fitsOther
    obtain ⟨rfl, rests⟩ := certificates _ _ _ _ (by omega) (by omega) (List.cons.inj same).2
    exact ⟨rfl, rests⟩
  case certificateChain.certificateChain =>
    unfold signerInfoSize at fits fitsOther
    rw [chainSize_eq] at fits fitsOther
    rw [serializeSignerInfo_chain, serializeSignerInfo_chain] at same
    obtain ⟨rfl, rests⟩ := delimited_list certificates certificate_positive small _ _ _ _
      (lt_of_tagged fits) (lt_of_tagged fitsOther) (List.cons.inj same).2
    exact ⟨rfl, rests⟩
  case certificateDigestWithOtherAlgorithm.certificateDigestWithOtherAlgorithm =>
    obtain ⟨rfl, follow⟩ := List.cons.inj (List.cons.inj same).2
    obtain ⟨rfl, rests⟩ := delimited_octets 8 _ _ _ _ trivial trivial follow
    exact ⟨rfl, rests⟩

/-- What is signed of two certificates tells all that stands in front of their signatures. -/
theorem convertForSigning_inj {one other : Certificate} {more rest : ByteBuffer}
    (small : bound ≤ sizeLimit)
    (certificates : Delimited (fun cert => cert.getSize < bound) Certificate.serialize)
    (fits : one.getSize ≤ bound) (fitsOther : other.getSize ≤ bound)
    (same : one.convertForSigning ++ more = other.convertForSigning ++ rest) :
    one.signerInfo = other.signerInfo ∧ one.subjectInfo = other.subjectInfo ∧
      one.subjectAttributes = other.subjectAttributes ∧
        one.validityRestriction = other.validityRestriction ∧ more = rest := by
  obtain ⟨signerInfo, sub, attributes, restrictions, sig⟩ := one
  obtain ⟨signerInfo', sub', attributes', restrictions', sig'⟩ := other
  unfold Certificate.getSize at fits fitsOther
  unfold Certificate.convertForSigning at same
  simp only [List.cons_append, List.append_assoc, List.cons.injEq, true_and] at same
  obtain ⟨rfl, follow⟩ := delimited_signerInfo small certificates _ _ _ _ (by omega) (by omega) same
  obtain ⟨rfl, rfl, rfl, rests⟩ := certificateTail_inj sig sig' small (by omega) (by omega) follow
  exact ⟨rfl, rfl, rfl, rfl, rests⟩

theorem serialize_certificate (cert : Certificate) :
    cert.serialize = cert.convertForSigning ++ Signature.serialize cert.signature := by
  cases cert
  rfl

/-- **Certificates are delimited**: the certificates in a signer info are smaller than it. -/
theorem delimited_certificate : ∀ bound ≤ sizeLimit,
    Delimited (fun cert => cert.getSize < bound) Certificate.serialize := by
  intro bound
  induction bound with
  | zero => exact fun _ _ _ _ _ fits => absurd fits (Nat.not_lt_zero _)
  | succ bound ih =>
    intro small one other more rest fits fitsOther same
    have smaller : bound ≤ sizeLimit := Nat.le_of_succ_le small
    rw [serialize_certificate, serialize_certificate, List.append_assoc, List.append_assoc] at same
    obtain ⟨signerInfos, subjectInfos, attributes, restrictions, follow⟩ :=
      convertForSigning_inj smaller (ih smaller) (Nat.le_of_lt_succ fits)
        (Nat.le_of_lt_succ fitsOther) same
    obtain ⟨signatures, rests⟩ := delimited_signature _ _ _ _ trivial trivial follow
    obtain ⟨signerInfo, sub, attributes, restrictions, sig⟩ := one
    obtain ⟨signerInfo', sub', attributes', restrictions', sig'⟩ := other
    cases signerInfos
    cases subjectInfos
    cases attributes
    cases restrictions
    cases signatures
    exact ⟨rfl, rests⟩

/-! ### Messages -/

theorem recipientInfo_positive (info : RecipientInfo) : 0 < info.getSize := by
  unfold RecipientInfo.getSize
  omega

theorem headerField_positive (field : HeaderField) : 0 < field.getSize := by
  cases field <;> exact Nat.add_pos_left Nat.one_pos _

theorem delimited_recipientInfo (small : bound ≤ sizeLimit) :
    Delimited (fun info => info.getSize < bound) RecipientInfo.serialize := by
  rintro ⟨certId, encKey⟩ ⟨certId', encKey'⟩ more rest fits fitsOther same
  unfold RecipientInfo.serialize at same
  rw [List.append_assoc, List.append_assoc] at same
  obtain ⟨rfl, follow⟩ := delimited_octets 8 _ _ _ _ trivial trivial same
  cases encKey <;> cases encKey' <;> try exact absurd (List.cons.inj follow).1 (by decide)
  case ecies.ecies =>
    simp only [List.cons_append, List.append_assoc, List.cons.injEq, true_and] at follow
    obtain ⟨rfl, values⟩ := delimited_eccPoint _ _ _ _ trivial trivial follow
    obtain ⟨rfl, tags⟩ := delimited_octets 16 _ _ _ _ trivial trivial values
    obtain ⟨rfl, rests⟩ := delimited_octets 16 _ _ _ _ trivial trivial tags
    exact ⟨rfl, rests⟩
  case opaqueKey.opaqueKey data data' =>
    unfold RecipientInfo.getSize at fits fitsOther
    dsimp only at fits fitsOther
    have dataFits : data.length < sizeLimit := by omega
    have dataFits' : data'.length < sizeLimit := by omega
    obtain ⟨rfl, rests⟩ := delimited_serializeBuffer _ _ _ _ dataFits dataFits' (List.cons.inj follow).2
    exact ⟨rfl, rests⟩

theorem delimited_headerField (small : bound ≤ sizeLimit) :
    Delimited (fun field => field.getSize < bound) HeaderField.serialize := by
  intro one other more rest fits fitsOther same
  cases one <;> cases other <;> try exact absurd (List.cons.inj same).1 (by decide)
  case generationTime.generationTime =>
    obtain ⟨rfl, rests⟩ := delimited_uint64 _ _ _ _ trivial trivial (List.cons.inj same).2
    exact ⟨rfl, rests⟩
  case generationTimeConfidence.generationTimeConfidence time time' =>
    obtain ⟨time64, logStdDev⟩ := time
    obtain ⟨time64', logStdDev'⟩ := time'
    unfold HeaderField.serialize at same
    simp only [List.cons_append, List.append_assoc, List.cons.injEq, true_and] at same
    obtain ⟨rfl, follow⟩ := delimited_uint64 _ _ _ _ trivial trivial same
    obtain ⟨rfl, rests⟩ := List.cons.inj follow
    exact ⟨rfl, rests⟩
  case expiration.expiration =>
    obtain ⟨rfl, rests⟩ := delimited_uint32 _ _ _ _ trivial trivial (List.cons.inj same).2
    exact ⟨rfl, rests⟩
  case generationLocation.generationLocation =>
    obtain ⟨rfl, rests⟩ := delimited_threeDLocation _ _ _ _ trivial trivial (List.cons.inj same).2
    exact ⟨rfl, rests⟩
  case requestUnrecognizedCertificate.requestUnrecognizedCertificate =>
    have positive : ∀ id : HashedId3, 0 < id.1.length := fun id => by rw [id.2]; exact Nat.succ_pos 2
    obtain ⟨rfl, rests⟩ := delimited_list ((delimited_octets 3).mono fun _ _ => trivial) positive small
      _ _ _ _ (lt_of_tagged fits) (lt_of_tagged fitsOther) (List.cons.inj same).2
    exact ⟨rfl, rests⟩
  case itsAid.itsAid =>
    obtain ⟨rfl, rests⟩ := delimited_intX _ _ _ _ trivial trivial (List.cons.inj same).2
    exact ⟨rfl, rests⟩
  case signerInfo.signerInfo info info' =>
    have info_lt : signerInfoSize info < bound := Nat.lt_of_le_of_lt (Nat.le_add_left _ 1) fits
    have info_lt' : signerInfoSize info' < bound := Nat.lt_of_le_of_lt (Nat.le_add_left _ 1) fitsOther
    obtain ⟨rfl, rests⟩ := delimited_signerInfo small (delimited_certificate bound small) _ _ _ _
      info_lt info_lt' (List.cons.inj same).2
    exact ⟨rfl, rests⟩
  case encryptionParameters.encryptionParameters =>
    obtain ⟨rfl, rests⟩ := delimited_octets 12 _ _ _ _ trivial trivial
      (List.cons.inj (List.cons.inj same).2).2
    exact ⟨rfl, rests⟩
  case recipientInfo.recipientInfo =>
    obtain ⟨rfl, rests⟩ := delimited_list (delimited_recipientInfo small) recipientInfo_positive small
      _ _ _ _ (lt_of_tagged fits) (lt_of_tagged fitsOther) (List.cons.inj same).2
    exact ⟨rfl, rests⟩

end Sized

theorem delimited_payload : Delimited (fun payload => payload.getSize < sizeLimit) Payload.serialize := by
  rintro ⟨type, data⟩ ⟨type', data'⟩ more rest fits fitsOther same
  obtain ⟨rfl, follow⟩ := List.cons.inj same
  obtain ⟨rfl, rests⟩ := delimited_serializeBuffer _ _ _ _ (lt_of_buffered (le_refl _) fits)
    (lt_of_buffered (le_refl _) fitsOther) follow
  exact ⟨rfl, rests⟩

theorem headerFields_payload_inj {one other : SecuredMessage} {trailers others : List TrailerField}
    (fits : one.getSize < sizeLimit) (fitsOther : other.getSize < sizeLimit)
    (same : one.convertForSigning trailers = other.convertForSigning others) :
    one.headerFields = other.headerFields ∧ one.payload = other.payload := by
  unfold SecuredMessage.getSize at fits fitsOther
  dsimp only at fits fitsOther
  unfold SecuredMessage.convertForSigning at same
  simp only [List.append_assoc] at same
  obtain ⟨headers, follow⟩ := delimited_list (delimited_headerField (le_refl _)) headerField_positive
    (le_refl _) _ _ _ _ (by omega) (by omega) (List.cons.inj same).2
  obtain ⟨payloads, _⟩ := delimited_payload _ _ _ _ (by omega) (by omega) follow
  exact ⟨headers, payloads⟩

/-- **The bytes that are signed are unambiguous**: those of a message, whatever trailer fields they are
made with, tell its header fields and its payload, and those of a certificate tell its signer info, its
subject and its restrictions. The sizes are those that fit into a `size_t`. -/
theorem signing_bytes_unambiguous :
    (∀ (one other : SecuredMessage) (trailers others : List TrailerField),
      one.getSize < sizeLimit → other.getSize < sizeLimit →
        one.convertForSigning trailers = other.convertForSigning others →
          one.headerFields = other.headerFields ∧ one.payload.type = other.payload.type ∧
            one.payload.data = other.payload.data) ∧
    ∀ one other : Certificate, one.getSize < sizeLimit → other.getSize < sizeLimit →
      one.convertForSigning = other.convertForSigning →
        one.signerInfo = other.signerInfo ∧ one.subjectInfo = other.subjectInfo ∧
          one.subjectAttributes = other.subjectAttributes ∧
            one.validityRestriction = other.validityRestriction := by
  constructor
  · intro one other trailers others fits fitsOther same
    obtain ⟨headers, payloads⟩ := headerFields_payload_inj fits fitsOther same
    exact ⟨headers, congrArg Payload.type payloads, congrArg Payload.data payloads⟩
  · intro one other fits fitsOther same
    have followed : one.convertForSigning ++ [] = other.convertForSigning ++ [] := by rw [same]
    obtain ⟨signerInfos, subjectInfos, attributes, restrictions, _⟩ :=
      convertForSigning_inj (le_refl _) (delimited_certificate sizeLimit (le_refl _))
        (Nat.le_of_lt fits) (Nat.le_of_lt fitsOther) followed
    exact ⟨signerInfos, subjectInfos, attributes, restrictions⟩

/-- A coordinate of one digit. -/
def repeatedCoordinate (digit : UInt8) : Coordinate :=
  ⟨List.replicate fieldSize digit, List.length_replicate⟩

def repeatedSignature (digit : UInt8) : Signature :=
  ⟨.xCoordinateOnly (repeatedCoordinate digit), repeatedCoordinate digit⟩

/-- A message with a time, and an application id of two bytes. -/
def timedMessage (digit : UInt8) : SecuredMessage :=
  ⟨[.generationTime 5, .itsAid ⟨300⟩], ⟨1, [7, 8]⟩, [.signature (repeatedSignature digit)]⟩

/-- A certificate of itself, until a time. -/
def timedCertificate (digit : UInt8) : Certificate :=
  .mk .self ⟨SubjectType.rootCa, [9]⟩ [.assurance 1] [.timeEnd 6] (repeatedSignature digit)

theorem signing_bytes_unambiguous_resigned :
    ((timedMessage 1).headerFields = (timedMessage 2).headerFields ∧
      (timedMessage 1).payload.type = (timedMessage 2).payload.type ∧
        (timedMessage 1).payload.data = (timedMessage 2).payload.data) ∧
    (timedCertificate 1).signerInfo = (timedCertificate 2).signerInfo ∧
      (timedCertificate 1).subjectInfo = (timedCertificate 2).subjectInfo ∧
        (timedCertificate 1).subjectAttributes = (timedCertificate 2).subjectAttributes ∧
          (timedCertificate 1).validityRestriction = (timedCertificate 2).validityRestriction :=
  ⟨signing_bytes_unambiguous.1 (timedMessage 1) (timedMessage 2) [.signature (repeatedSignature 1)]
      [.signature (repeatedSignature 2)] (by decide +kernel) (by decide +kernel) (by decide +kernel),
    signing_bytes_unambiguous.2 (timedCertificate 1) (timedCertificate 2) (by decide +kernel)
      (by decide +kernel) (by decide +kernel)⟩

end Vanet.Security
