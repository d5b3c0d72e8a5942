/-
**The round trip of certificates.**

Besides the numbers that are too large, there are bytes that are counted but not there: the reader of a
certificate chain counts the length of the chain's size and the type byte, which may have one byte more
than the length of the chain's size. Such a surplus is carried along by the certificate with this signer
info. A certificate is restored with its surplus, but a chain of certificates is only read if none of
them has one.
-/

import Vanet.Security.ElementRoundTrip

namespace Vanet.Security

open Vanet.Library Reader Read

variable {limit : ℕ}

mutual

/-- How many bytes too many the reader of a certificate returns. -/
def Certificate.surplus : Certificate → ℕ
  | .mk signerInfo _ _ _ _ => signerInfoSurplus signerInfo

def signerInfoSurplus : SignerInfoOf Certificate → ℕ
  | .self => 0
  | .certificateDigestWithSha256 _ => 0
  | .certificate cert => cert.surplus
  | .certificateChain chain =>
    lengthCodingSize (1 + chainSize chain) - lengthCodingSize (chainSize chain)
  | .certificateDigestWithOtherAlgorithm _ _ => 0

end

mutual

def Certificate.Restorable : Certificate → Prop
  | .mk signerInfo sub attributes restrictions _ =>
    signerInfoRestorable signerInfo ∧ sub.Restorable ∧
      ListRestorable SubjectAttribute.getSize SubjectAttribute.Restorable attributes ∧
        ListRestorable ValidityRestriction.getSize ValidityRestriction.Restorable restrictions

def signerInfoRestorable : SignerInfoOf Certificate → Prop
  | .self => True
  | .certificateDigestWithSha256 _ => True
  | .certificate cert => cert.Restorable
  | .certificateChain chain => chainSize chain < codingLimit ∧ chainRestorable chain
  | .certificateDigestWithOtherAlgorithm _ _ => True

/-- The sizes that are returned of the certificates in a chain have to add up to the announced one. -/
def chainRestorable : List Certificate → Prop
  | [] => True
  | cert :: chain => (cert.Restorable ∧ cert.surplus = 0) ∧ chainRestorable chain

end

theorem chainRestorable_iff (chain : List Certificate) :
    chainRestorable chain ↔ ∀ cert ∈ chain, cert.Restorable ∧ cert.surplus = 0 := by
  induction chain with
  | nil => simp [chainRestorable]
  | cons cert chain ih => rw [chainRestorable, ih, List.forall_mem_cons]

theorem certificate_nonempty (cert : Certificate) : cert.serialize ≠ [] := by
  cases cert
  exact List.cons_ne_nil _ _

theorem length_le_chain {cert : Certificate} {chain : List Certificate} (member : cert ∈ chain) :
    cert.serialize.length ≤ (serializeChain chain).length := by
  rw [serializeChain_eq, List.length_flatMap]
  exact List.single_le_sum (fun _ _ => Nat.zero_le _) _ (List.mem_map_of_mem member)

section SignerInfo

variable {certificate : Read (Certificate × ℕ)} {depth : ℕ}

/-- The reader of the certificates in a signer info restores those that are short enough for it. -/
def RestoresShort (certificate : Read (Certificate × ℕ)) (depth : ℕ) : Prop :=
  ∀ cert : Certificate, cert.serialize.length < depth → cert.getSize < sizeLimit →
    ReadsIff certificate cert.serialize cert (cert.getSize + cert.surplus) cert.Restorable

theorem restoresIff_signerInfo (certificates : RestoresShort certificate depth) {info : SignerInfo}
    (short : (serializeSignerInfo info).length ≤ depth) (fits : signerInfoSize info < sizeLimit) :
    ReadsIff (deserializeSignerInfoWith limit certificate) (serializeSignerInfo info) info
      (signerInfoSize info + signerInfoSurplus info) (signerInfoRestorable info) := by
  cases info with
  | self => exact .after (restores_byte 0) (Restores.always .pure)
  | certificateDigestWithSha256 digest =>
    have returned : signerInfoSize (.certificateDigestWithSha256 digest) = 1 + 8 := by
      rw [signerInfoSize, digest.2]
    refine .after (restores_byte 1) (Restores.always ((Restores.octets digest).map ?_))
    rw [returned]
    exact .pure
  | certificate cert =>
    unfold signerInfoSize at fits
    have read := certificates cert short (by omega)
    refine .after (restores_byte 2) (read.map (fun _ => .pure ?_) ?_)
    · exact SignerInfoOf.certificate.inj
    · unfold signerInfoSize
      rw [Nat.add_assoc]
      exact .pure
  | certificateChain chain =>
    unfold signerInfoSize at fits
    have chainFits := lt_of_tagged fits
    rw [chainSize_eq] at chainFits
    have read : ∀ cert ∈ chain, ReadsIff certificate cert.serialize cert
        (cert.getSize + cert.surplus) cert.Restorable := by
      intro cert member
      refine certificates cert ?_ ((size_le_listSize member).trans_lt chainFits)
      refine lt_of_le_of_lt (length_le_chain member) (lt_of_lt_of_le ?_ short)
      rw [serializeSignerInfo, List.length_cons, List.length_append]
      omega
    have chained : ReadsIff (deserializeList limit certificate)
        (serializeList Certificate.getSize Certificate.serialize chain) chain
        (listSize Certificate.getSize chain)
        (ListRestorable Certificate.getSize (fun cert => cert.Restorable ∧ cert.surplus = 0) chain) :=
      restoresIff_counted chainFits (fun cert _ => certificate_nonempty cert)
        (fun cert _ => certificate_positive cert) read
    have returned : 1 + chainSize chain + lengthCodingSize (1 + chainSize chain) =
        signerInfoSize (.certificateChain chain) + signerInfoSurplus (.certificateChain chain) := by
      have longer := lengthCodingSize_next (chainSize chain)
      unfold signerInfoSize signerInfoSurplus
      omega
    rw [serializeSignerInfo_chain, ← returned, chainSize_eq]
    refine .congr (.after (restores_byte 3) (chained.map (fun _ => .bind fun _ => .pure ?_)
      (Restores.note.map .pure))) ?_
    · exact SignerInfoOf.certificateChain.inj
    · unfold ListRestorable signerInfoRestorable
      rw [chainRestorable_iff, chainSize_eq]
  | certificateDigestWithOtherAlgorithm algorithm digest =>
    have returned : signerInfoSize (.certificateDigestWithOtherAlgorithm algorithm digest) =
        1 + (8 + 1) := by
      rw [signerInfoSize, digest.2]
    refine .after (restores_byte 4) (Restores.always ((restores_byte algorithm).bind
      ((Restores.octets digest).map ?_)))
    rw [returned]
    exact .pure

/-- **One layer of a certificate.** -/
theorem restoresIff_certificateWith (certificates : RestoresShort certificate depth) :
    RestoresShort (deserializeCertificateWith limit certificate) (depth + 1) := by
  rintro ⟨signerInfo, sub, attributes, restrictions, sig⟩ short fits
  have bytes : (Certificate.mk signerInfo sub attributes restrictions sig).serialize =
      2 :: (serializeSignerInfo signerInfo ++ (sub.serialize ++
        (serializeList SubjectAttribute.getSize SubjectAttribute.serialize attributes ++
          (serializeList ValidityRestriction.getSize ValidityRestriction.serialize restrictions ++
            Signature.serialize sig)))) := by
    unfold Certificate.serialize certificateTail
    simp only [List.append_assoc]
  have shorter : (serializeSignerInfo signerInfo).length ≤ depth := by
    rw [bytes, List.length_cons, List.length_append] at short
    omega
  unfold Certificate.getSize certificateTailSize at fits
  dsimp only at fits
  have attributesRead : ∀ attr ∈ attributes, ReadsIff (deserializeSubjectAttribute limit)
      attr.serialize attr attr.getSize attr.Restorable :=
    fun attr member => restoresIff_subjectAttribute ((size_le_listSize member).trans_lt (by omega))
  have restrictionsRead : ∀ restriction ∈ restrictions, ReadsIff
      (deserializeValidityRestriction limit) restriction.serialize restriction restriction.getSize
        restriction.Restorable :=
    fun restriction member =>
      restoresIff_validityRestriction ((size_le_listSize member).trans_lt (by omega))
  rw [bytes]
  refine .congr (.after (restores_byte 2) ((restoresIff_signerInfo certificates shorter (by omega)).bind
    (fun _ => ?_) ((restoresIff_subjectInfo (by omega)).bind (fun _ => ?_)
      ((restoresIff_list (by omega) (fun attr => ?_) subjectAttribute_positive attributesRead).bind
        (fun _ => ?_) ((restoresIff_list (by omega) (fun restriction => ?_)
          validityRestriction_positive restrictionsRead).before (fun _ => ?_)
            ((restores_signature sig).map ?_)))))) ?_
  · exact .bind fun _ => .bind fun _ => .bind fun _ => .bind fun _ =>
      .pure (congrArg Certificate.signerInfo)
  · exact .bind fun _ => .bind fun _ => .bind fun _ => .pure (congrArg Certificate.subjectInfo)
  · cases attr <;> exact List.cons_ne_nil _ _
  · exact .bind fun _ => .bind fun _ => .pure (congrArg Certificate.subjectAttributes)
  · cases restriction <;> exact List.cons_ne_nil _ _
  · exact .bind fun _ => .pure (congrArg Certificate.validityRestriction)
  · have returned : 1 + (signerInfoSize signerInfo + signerInfoSurplus signerInfo) + sub.getSize +
        listSize SubjectAttribute.getSize attributes +
          lengthCodingSize (listSize SubjectAttribute.getSize attributes) +
        listSize ValidityRestriction.getSize restrictions +
          lengthCodingSize (listSize ValidityRestriction.getSize restrictions) +
        Signature.getSize sig =
      (Certificate.mk signerInfo sub attributes restrictions sig).getSize +
        (Certificate.mk signerInfo sub attributes restrictions sig).surplus := by
      unfold Certificate.getSize certificateTailSize Certificate.surplus
      dsimp only
      omega
    rw [← returned]
    exact .pure
  · unfold Certificate.Restorable
    rfl

end SignerInfo

/-- **Certificates are restored** down to the depth that there is room for. -/
theorem restoresShort_nest (depth : ℕ) :
    RestoresShort (nest .exhausted (deserializeCertificateWith limit) depth) depth := by
  induction depth with
  | zero => exact fun _ impossible => absurd impossible (Nat.not_lt_zero _)
  | succ depth ih => exact restoresIff_certificateWith ih

theorem restoresIff_certificate {cert : Certificate} (fits : cert.getSize < sizeLimit) :
    ReadsIff (deserializeCertificate limit) cert.serialize cert (cert.getSize + cert.surplus)
      cert.Restorable :=
  .fix fun depth short => restoresShort_nest depth cert short fits

mutual

theorem length_certificate : ∀ {cert : Certificate}, cert.Restorable →
    cert.serialize.length = cert.getSize
  | .mk signerInfo sub attributes restrictions sig, restorable => by
    unfold Certificate.Restorable at restorable
    obtain ⟨signer, subject, attributesSmall, restrictionsSmall⟩ := restorable
    unfold Certificate.serialize Certificate.getSize certificateTail certificateTailSize
    simp only [List.length_cons, List.length_append, length_signerInfo signer,
      length_subjectInfo subject, length_signature,
      length_serializeList attributesSmall fun _ _ => length_subjectAttribute,
      length_serializeList restrictionsSmall fun _ _ => length_validityRestriction]
    omega

theorem length_signerInfo : ∀ {info : SignerInfo}, signerInfoRestorable info →
    (serializeSignerInfo info).length = signerInfoSize info
  | .self, _ => rfl
  | .certificateDigestWithSha256 digest, _ => Nat.add_comm digest.1.length 1
  | .certificate cert, restorable =>
    length_tagged (length_certificate restorable)
  | .certificateChain chain, restorable => by
    unfold signerInfoRestorable at restorable
    unfold serializeSignerInfo signerInfoSize
    rw [List.length_cons, List.length_append, length_serializeLength restorable.1,
      length_chain restorable.2]
    omega
  | .certificateDigestWithOtherAlgorithm algorithm digest, _ => by
    unfold serializeSignerInfo signerInfoSize
    rw [List.length_cons, List.length_cons]
    omega

theorem length_chain : ∀ {chain : List Certificate}, chainRestorable chain →
    (serializeChain chain).length = chainSize chain
  | [], _ => rfl
  | cert :: chain, restorable => by
    unfold chainRestorable at restorable
    unfold serializeChain chainSize
    rw [List.length_append, length_certificate restorable.1.1, length_chain restorable.2]

end

end Vanet.Security
