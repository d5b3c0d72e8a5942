/-
**When the deserialisers count every byte.**

What a deserialiser consumes and what it returns as the size differ only at sites that are not
canonical: it consumes the superfluous bytes without counting them, and counts the missing byte of a
chain without consuming it. Both are read off the bytes along the wire format.
-/

import Vanet.Security.LengthEncoding
import Vanet.Security.WireSites

namespace Vanet.Security

open Vanet.Library Vanet.Library.Reader

/-! ### The length of a length field -/

theorem lengthCodingSize_le (size : ℕ) : ∀ {value : ℕ}, value < 128 ^ (size + 1) →
    lengthCodingSize value ≤ size + 1 := by
  induction size with
  | zero => exact fun small => (lengthCodingSize_of_lt small).le
  | succ size ih =>
    intro value small
    by_cases short : value < 128
    · rw [lengthCodingSize_of_lt short]
      omega
    · rw [lengthCodingSize_of_le (Nat.not_lt.mp short)]
      rw [pow_succ] at small
      exact Nat.succ_le_succ (ih (by omega))

/-- What the first byte has left for the number, and how large a number it makes. -/
theorem first_spec {first : UInt8} (few : countLeadingOnes first < 8) :
    ((first &&& UInt8.ofNat (2 ^ (8 - countLeadingOnes first) - 1)).toNat + 1) *
        256 ^ countLeadingOnes first ≤ 128 ^ (countLeadingOnes first + 1) ∧
      128 ^ (countLeadingOnes first + 1) ≤ 2 ^ 64 := by
  have every : ∀ n : Fin 256, countLeadingOnes (UInt8.ofNat n) < 8 →
      ((UInt8.ofNat n &&& UInt8.ofNat (2 ^ (8 - countLeadingOnes (UInt8.ofNat n)) - 1)).toNat + 1) *
          256 ^ countLeadingOnes (UInt8.ofNat n) ≤ 128 ^ (countLeadingOnes (UInt8.ofNat n) + 1) ∧
        128 ^ (countLeadingOnes (UInt8.ofNat n) + 1) ≤ 2 ^ 64 := by
    decide +kernel
  have this := every ⟨first.toNat, first.toNat_lt⟩
  simp only [UInt8.ofNat_toNat] at this
  exact this few

/-- Bytes are digits. -/
theorem foldl_bytes_lt (bytes : ByteBuffer) : ∀ start : ℕ,
    bytes.foldl (fun n byte => n * 256 + byte.toNat) start < (start + 1) * 256 ^ bytes.length := by
  induction bytes with
  | nil => intro start; simp
  | cons byte bytes ih =>
    intro start
    have byteSmall : byte.toNat < 256 := byte.toNat_lt
    have appended : start * 256 + byte.toNat + 1 ≤ (start + 1) * 256 := by omega
    rw [List.length_cons, pow_succ', ← mul_assoc]
    exact lt_of_lt_of_le (ih _) (Nat.mul_le_mul_right _ appended)

/-- **A length field is no shorter than the shortest encoding** of the number that it says. -/
theorem size_le_field (first : UInt8) (rest : Octets (countLeadingOnes first)) :
    lengthCodingSize (Site.value first rest.1) ≤ countLeadingOnes first + 1 := by
  obtain ⟨bytes, announced⟩ := rest
  unfold Site.value decodeLength
  simp only
  by_cases wide : 8 ≤ countLeadingOnes first
  · rw [if_pos wide]
    exact Nat.le_add_left 1 _
  · obtain ⟨small, fits⟩ := first_spec (Nat.not_le.mp wide)
    rw [if_neg wide, if_pos (by rw [List.length_cons, announced]; omega)]
    refine lengthCodingSize_le _ ?_
    rw [← announced, List.take_length, toNat_appendBytes]
    · refine lt_of_lt_of_le (foldl_bytes_lt bytes _) ?_
      rw [UInt8.toNat_toUInt64, announced]
      exact small
    · rw [UInt8.toNat_toUInt64, announced]
      refine le_trans (le_of_eq ?_) (small.trans fits)
      ring

/-! ### Superfluous and missing bytes -/

/-- **The surplus at a site** is what is consumed there without being counted. -/
theorem Site.note_surplus (site : Site) :
    site.note.surplus = (site.superfluous : ℤ) - site.missing := by
  cases site with
  | length first rest =>
    have enough := size_le_field first rest
    simp only [Site.note, Note.surplus, Site.superfluous, Site.missing, Site.value] at enough ⊢
    omega
  | room announced behind => rfl
  | list announced counted => rfl
  | ids announced =>
    simp only [Site.note, Note.surplus, Site.superfluous, Site.missing]
    omega
  | header announced overrun =>
    simp only [Site.note, Note.surplus, Site.superfluous, Site.missing]
    omega
  | chain announced =>
    have longer := lengthCodingSize_next announced
    simp only [Site.note, Note.surplus, Site.superfluous, Site.missing]
    omega

def superfluous (sites : List Site) : ℕ := (sites.map Site.superfluous).sum

def missing (sites : List Site) : ℕ := (sites.map Site.missing).sum

theorem surplus_sites (sites : List Site) :
    ((sites.map Site.note).map Note.surplus).sum = (superfluous sites : ℤ) - missing sites := by
  unfold superfluous missing
  induction sites with
  | nil => rfl
  | cons site sites ih =>
    simp only [List.map_cons, List.sum_cons, ih, site.note_surplus, Nat.cast_add]
    omega

theorem Site.canonical_iff (site : Site) :
    site.Canonical ↔ site.superfluous = 0 ∧ site.missing = 0 := by
  cases site with
  | length first rest =>
    have enough := size_le_field first rest
    simp only [Site.Canonical, Site.superfluous, Site.missing, and_true]
    omega
  | room announced behind => exact iff_of_true trivial ⟨rfl, rfl⟩
  | list announced counted => exact iff_of_true trivial ⟨rfl, rfl⟩
  | ids announced =>
    simp only [Site.Canonical, Site.superfluous, Site.missing, and_true]
    omega
  | header announced overrun =>
    simp only [Site.Canonical, Site.superfluous, Site.missing, and_true]
  | chain announced =>
    have longer := lengthCodingSize_next announced
    rw [Site.canonical_chain]
    simp only [Site.superfluous, Site.missing, true_and]
    omega

theorem superfluous_eq_zero_iff {sites : List Site} :
    superfluous sites = 0 ↔ ∀ site ∈ sites, site.superfluous = 0 := by
  unfold superfluous
  rw [List.sum_eq_zero_iff_forall_eq_nat, List.forall_mem_map]

theorem missing_eq_zero_iff {sites : List Site} :
    missing sites = 0 ↔ ∀ site ∈ sites, site.missing = 0 := by
  unfold missing
  rw [List.sum_eq_zero_iff_forall_eq_nat, List.forall_mem_map]

/-- Where nothing is missing, nothing is superfluous exactly if all sites are canonical. -/
theorem canonical_iff {sites : List Site} (complete : ∀ site ∈ sites, site.missing = 0) :
    (∀ site ∈ sites, site.Canonical) ↔ superfluous sites = missing sites := by
  rw [missing_eq_zero_iff.mpr complete, superfluous_eq_zero_iff]
  refine forall₂_congr fun site member => ?_
  rw [site.canonical_iff]
  exact and_iff_left (complete site member)

/-! ### Every format -/

/-- The walk along a format. -/
def Format.walk : Format → Walk ℕ
  | .securedMessage => Wire.securedMessage.walk
  | .headerFields announced =>
    Walk.headerFields (fun encrypted type => (Wire.headerField encrypted type).walk) announced
  | .headerField symAlgo => do
    let result ← Walk.headerField (fun encrypted type => (Wire.headerField encrypted type).walk)
      symAlgo.isSome
    pure result.1
  | .hashedIds announced => Walk.ids announced
  | .encryptionParameter => Wire.encryptionParameter.walk
  | .recipientInfos _ announced => Walk.elements Wire.recipientInfo.walk announced
  | .recipientInfo _ => Wire.recipientInfo.walk
  | .payload => Wire.payload.walk
  | .trailerFields announced => Walk.elements Wire.trailerField.walk announced
  | .trailerField => Wire.trailerField.walk
  | .signerInfo => Wire.signerInfo.walk
  | .certificateChain announced => Walk.elements Wire.certificate.walk announced
  | .certificate => Wire.certificate.walk
  | .subjectInfo => Wire.subjectInfo.walk
  | .subjectAttributes announced => Walk.elements Wire.subjectAttribute.walk announced
  | .subjectAttribute => Wire.subjectAttribute.walk
  | .itsAidList announced => Walk.elements Wire.number.walk announced
  | .itsAidSspList announced => Walk.elements Wire.itsAidSsp.walk announced
  | .itsAidSsp => Wire.itsAidSsp.walk
  | .validityRestrictions announced => Walk.elements Wire.validityRestriction.walk announced
  | .validityRestriction => Wire.validityRestriction.walk
  | .geographicRegion => Wire.geographicRegion.walk
  | .circularRegion => (Wire.octets 10).walk
  | .rectangularRegions announced => Walk.regions 16 announced
  | .polygonalRegion announced => Walk.regions 8 announced
  | .identifiedRegion => Wire.identifiedRegion.walk
  | .intX => Wire.number.walk
  | .publicKey => Wire.publicKey.walk
  | .signature => Wire.signature.walk

/-- **The sites of a byte string** along a format. -/
def Format.sites (format : Format) (input : ByteBuffer) : List Site := (format.walk ⟨input, []⟩).2.notes

variable {α : Type} {limit : ℕ}

theorem Follows.returnedSize {read : Read (α × ℕ)} {walk : Walk ℕ} (follows : Follows read walk) :
    Mirrors Site.note (returnedSize read) walk Eq :=
  follows.map fun _ _ same => same

/-- **Every deserialiser follows its walk.** -/
theorem Format.read_follows (format : Format) : Mirrors Site.note (format.read limit) format.walk Eq := by
  cases format with
  | securedMessage => exact deserializeSecuredMessage_follows.returnedSize
  | headerFields announced => exact (headerLoop_follows announced).returnedSize
  | headerField symAlgo =>
    exact .bind (deserializeHeaderField_mirrors rfl) fun _ _ same => .pure same.1
  | hashedIds announced => exact (hashedIdLoop_follows announced).returnedSize
  | encryptionParameter => exact Follows.returnedSize deserializeEncryptionParameter_mirrors
  | recipientInfos symAlgo announced =>
    exact (listLoop_follows (deserializeRecipientInfo_mirrors symAlgo) announced).returnedSize
  | recipientInfo symAlgo => exact Follows.returnedSize (deserializeRecipientInfo_mirrors symAlgo)
  | payload => exact Follows.returnedSize deserializePayload_mirrors
  | trailerFields announced =>
    exact (listLoop_follows deserializeTrailerField_mirrors announced).returnedSize
  | trailerField => exact Follows.returnedSize deserializeTrailerField_mirrors
  | signerInfo => exact deserializeSignerInfo_follows.returnedSize
  | certificateChain announced =>
    exact (listLoop_follows deserializeCertificate_follows announced).returnedSize
  | certificate => exact deserializeCertificate_follows.returnedSize
  | subjectInfo => exact Follows.returnedSize deserializeSubjectInfo_mirrors
  | subjectAttributes announced =>
    exact (listLoop_follows deserializeSubjectAttribute_mirrors announced).returnedSize
  | subjectAttribute => exact Follows.returnedSize deserializeSubjectAttribute_mirrors
  | itsAidList announced =>
    exact (listLoop_follows number_follows announced).returnedSize
  | itsAidSspList announced =>
    exact (listLoop_follows deserializeItsAidSsp_mirrors announced).returnedSize
  | itsAidSsp => exact Follows.returnedSize deserializeItsAidSsp_mirrors
  | validityRestrictions announced =>
    exact (listLoop_follows deserializeValidityRestriction_mirrors announced).returnedSize
  | validityRestriction => exact Follows.returnedSize deserializeValidityRestriction_mirrors
  | geographicRegion => exact Follows.returnedSize deserializeGeographicRegion_mirrors
  | circularRegion =>
    refine .bind (deserializeCircularRegion_fixed.gains
      (deserializeCircularRegion_spends.mono fun _ _ => And.right)) ?_
    rintro ⟨circle, size⟩ _ ⟨_, same⟩
    exact .pure same.symm
  | rectangularRegions announced =>
    exact (regionLoop_follows deserializeRectangularRegion_fixed
      (deserializeRectangularRegion_spends.mono fun _ _ => And.right) announced).returnedSize
  | polygonalRegion announced =>
    exact (regionLoop_follows deserializeTwoDLocation_fixed
      (deserializeTwoDLocation_spends.mono fun _ _ => And.right) announced).returnedSize
  | identifiedRegion => exact Follows.returnedSize deserializeIdentifiedRegion_mirrors
  | intX =>
    have follows : Follows (deserializeIntX limit) Wire.number.walk := number_follows
    exact follows.returnedSize
  | publicKey => exact Follows.returnedSize deserializePublicKey_mirrors
  | signature => exact Follows.returnedSize deserializeSignature_mirrors

/-- **The balance of an accepted input**, whatever has been noted before. -/
theorem Format.balance {format : Format} {input rest : ByteBuffer} {size : ℕ} {early met : List Note}
    (accepted : format.read limit ⟨input, early⟩ = (.ok size, ⟨rest, met⟩)) :
    input.length + missing (format.sites input) = rest.length + size + superfluous (format.sites input) := by
  have follows := @Format.read_follows limit format
  have same : (⟨input, early⟩ : Tape Note) = Tape.translate Site.note early ⟨input, []⟩ := by
    unfold Tape.translate
    rw [List.map_nil, List.append_nil]
  have notes : met = early ++ (format.sites input).map Site.note := by
    have walked := follows.notes early ⟨input, []⟩
    rw [← same, accepted] at walked
    exact walked
  have spent := format.read_spends _ _ _ accepted
  simp only [Tape.credit, Tape.left, notes, List.map_append, List.sum_append, surplus_sites] at spent
  omega

/-- What has been accepted, from its parts. -/
theorem Format.accepted {format : Format} {input rest : ByteBuffer} {size : ℕ}
    (returned : (format.read limit (untouched input)).1.toOption = some size)
    (left : (format.read limit (untouched input)).2.unread = rest) :
    ∃ met, format.read limit (untouched input) = (.ok size, ⟨rest, met⟩) := by
  generalize format.read limit (untouched input) = ended at returned left ⊢
  rcases ended with ⟨fault | value, unread, notes⟩
  · cases returned
  · cases returned
    cases left
    exact ⟨notes, rfl⟩

/-- A secured message whose sites are all canonical: an ITS-AID and the ids of two certificates that
are asked for in the header, a payload of two bytes and a signature. -/
def canonicalMessage : ByteBuffer :=
  [2, 10, 5, 36, 4, 6, 1, 2, 3, 4, 5, 6] ++ [1, 2, 7, 7] ++ [67, 1, 0, 0] ++ List.replicate 64 9

end Vanet.Security
