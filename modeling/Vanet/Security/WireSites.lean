/-
**The deserialisers follow the wire format.**

Whatever the bytes and the allocation limit are, a deserialiser and the walk along its format return
together or fail together, leave the same bytes behind if they return, and count the same size; and the
notes of the deserialiser are the sites of the bytes (`Site.note`). So what a deserialiser meets can be
read off the bytes alone.

Each deserialiser mirrors its walk because its parts do. Only a size that is computed from a value needs
more: that the sizes of the values agree with the sizes of the bytes is known from the accounts.
-/

import Vanet.Library.Mirrors
import Vanet.Security.Accounting
import Vanet.Security.WireFormat

namespace Vanet.Security

open Vanet.Library Vanet.Library.Reader

/-- The note that is taken at a site. -/
def Site.note : Site → Note
  | .length first rest => .length first (decodeLength (first :: rest.1)).2
  | .room announced behind => .request announced behind
  | .list announced counted => .list (announced - counted)
  | .ids announced => .hashedIds announced
  | .header announced overrun => .header announced (announced + overrun)
  | .chain announced => .chain announced

/-- **The deserialiser follows the walk**: the size that it returns is counted. -/
abbrev Follows {α : Type} (read : Read (α × ℕ)) (walk : Walk ℕ) : Prop :=
  Mirrors Site.note read walk fun result counted => result.2 = counted

section Deserialisers

variable {limit : ℕ} {α β : Type} {below : Walk ℕ}

theorem byte_mirrors : Mirrors Site.note Read.byte Walk.byte Eq := .byte

theorem octets_mirrors (n : ℕ) : Mirrors Site.note (Read.octets n) (Walk.octets n) Eq := .octets n

/-- A deserialiser of `n` bytes. -/
abbrev Fixed (n : ℕ) (read : Read α) : Prop := Plain Site.note () n read

theorem octets_fixed (n : ℕ) : Fixed n (Read.octets n) := .octets n

theorem byte_fixed : Fixed 1 Read.byte := .byte

theorem uint16_fixed : Fixed 2 Read.uint16 := (octets_fixed 2).map

theorem uint32_fixed : Fixed 4 Read.uint32 := (octets_fixed 4).map

theorem uint64_fixed : Fixed 8 Read.uint64 := (octets_fixed 8).map

/-- Bytes whose number has been announced: both fail if they are not there, the deserialiser at the
latest when it reads them. -/
theorem filled_mirrors {n : ℕ} {next : Octets n → Read α} {more : Octets n → Walk β}
    {R : α → β → Prop} (rest : ∀ data, Mirrors Site.note (next data) (more data) R) :
    Mirrors Site.note (resize limit n >>= fun _ => Read.octets n >>= next)
      (Walk.filled n >>= more) R := by
  intro early tape
  by_cases enough : n ≤ tape.left
  · have granted : resize limit n (tape.translate Site.note early) =
        (.ok (), (tape.note (.room n tape.left)).translate Site.note early) := by
      rw [Tape.translate_note]
      exact congrArg (·, _) (if_pos (le_trans enough (le_max_right limit _)))
    rw [Action.bind_of_ok granted]
    exact Mirrors.bind (octets_mirrors n) (fun data _ same => same ▸ rest data)
      early (tape.note (.room n tape.left))
  · have few : tape.unread.length < n := Nat.not_le.mp enough
    have walked : Walk.filled n tape =
        (.error (), { tape.note (.room n tape.left) with unread := [] }) :=
      octets_of_lt few
    have same := congrArg Tape.notes (Tape.translate_note Site.note early tape (.room n tape.left))
    rw [Action.bind_of_error walked]
    by_cases granted : n ≤ max limit tape.left
    · have asked : resize limit n (tape.translate Site.note early) =
          (.ok (), (tape.translate Site.note early).note (.request n tape.left)) :=
        congrArg (·, _) (if_pos granted)
      have starved : (Read.octets n >>= next) ((tape.translate Site.note early).note (.request n tape.left)) =
          (.error .incomplete, _) :=
        Action.bind_of_error (octets_of_lt few)
      rw [Action.bind_of_ok asked, starved]
      exact .failed same.symm
    · have asked : resize limit n (tape.translate Site.note early) =
          (.error .badAlloc, (tape.translate Site.note early).note (.request n tape.left)) :=
        congrArg (·, _) (if_neg granted)
      rw [Action.bind_of_error asked]
      exact .failed same.symm

theorem deserializeLength_mirrors : Mirrors Site.note (deserializeLength limit) Walk.length Eq := by
  refine .bind byte_mirrors ?_
  rintro first _ rfl
  refine filled_mirrors fun rest => ?_
  refine .bind (.check (Site.length first rest) ?_) fun _ _ _ => .pure rfl
  have wide := decodeLength_eq_zero_iff first rest.1
  simpa using not_congr wide

/-- A part behind its length. -/
theorem announced_mirrors {next : UInt64 → Read α} {part : UInt64 → Walk ℕ} {coded : ℕ → ℕ}
    {R : α → ℕ → Prop}
    (follows : ∀ length, Mirrors Site.note (next length) (part length)
      fun value counted => R value (counted + lengthCodingSize (coded counted))) :
    Mirrors Site.note (deserializeLength limit >>= next) (Walk.announced coded part) R := by
  refine .bind deserializeLength_mirrors ?_
  rintro length _ rfl
  exact (follows length).count fun _ _ related => related

theorem listLoop_follows {element : Read (α × ℕ)} {walk : Walk ℕ} (follows : Follows element walk)
    (length : UInt64) : Follows (listLoop element length) (Walk.elements walk length) := by
  refine .bind (.whileM (fun (state : List α × ℤ) (counted : ℕ) =>
    state.2 = (length.toNat : ℤ) - counted) ?_ ?_ ?_) ?_
  · simp
  · rintro ⟨list, remainder⟩ counted same
    simp only at same ⊢
    rw [same]
    exact decide_eq_decide.mpr (by omega)
  · rintro ⟨list, remainder⟩ counted _ same
    refine .bind follows ?_
    rintro ⟨element, size⟩ size' rfl
    refine .pure ?_
    simp only at same ⊢
    omega
  · rintro ⟨list, remainder⟩ counted ⟨same, _⟩
    simp only at same
    subst same
    refine .bind (.check (Site.list length.toNat counted) ?_) fun _ _ _ => .pure rfl
    rw [decide_eq_true_eq]
    omega

theorem deserializeList_mirrors {element : Read (α × ℕ)} {walk : Wire}
    (follows : Follows element (walk.walkWith below)) :
    Mirrors Site.note (deserializeList limit element) ((Wire.list walk).walkWith below)
      fun result counted => result.2 + lengthCodingSize result.2 = counted :=
  announced_mirrors fun length => (listLoop_follows follows length).mono fun _ _ same => by rw [same]; rfl

theorem number_mirrors : Mirrors Site.note (deserializeIntX limit) (Wire.number.walkWith below)
    fun result counted => result.2 = counted ∧ result.1.getSize = counted := by
  refine .bind deserializeLength_mirrors ?_
  rintro value _ rfl
  exact .pure ⟨rfl, rfl⟩

theorem number_follows : Follows (deserializeIntX limit) (Wire.number.walkWith below) :=
  number_mirrors.mono fun _ _ => And.left

/-! ### Type bytes and sequences -/

theorem type_mirrors {cases : UInt8 → Wire} {next : UInt8 → Read α} {R : α → ℕ → Prop}
    (each : ∀ type wire, wire = cases type → Mirrors Site.note (next type) (wire.walkWith below)
      fun value counted => R value (1 + counted)) :
    Mirrors Site.note (Read.byte >>= next) ((Wire.type cases).walkWith below) R := by
  refine .bind byte_mirrors ?_
  rintro type _ rfl
  exact (each type _ rfl).count fun _ _ related => related

theorem seq_mirrors {first second : Wire} {read : Read α} {next : α → Read β} {R : α → ℕ → Prop}
    {T : β → ℕ → Prop} (front : Mirrors Site.note read (first.walkWith below) R)
    (rest : ∀ value counted, R value counted →
      Mirrors Site.note (next value) (second.walkWith below) fun result more => T result (counted + more)) :
    Mirrors Site.note (read >>= next) ((first.seq second).walkWith below) T :=
  .bind front fun value counted related => (rest value counted related).count fun _ _ both => both

/-- A deserialiser of `n` bytes, in front of others. -/
theorem Fixed.mirrors {n : ℕ} {read : Read α} (fixed : Fixed n read) :
    Mirrors Site.note read ((Wire.octets n).walkWith below) fun _ counted => counted = n :=
  fixed.count fun _ _ _ => rfl

theorem pure_mirrors {value : α} {R : α → ℕ → Prop} (related : R value 0) :
    Mirrors Site.note (pure value : Read α) ((Wire.octets 0).walkWith below) R := by
  intro early tape
  have walked : (Wire.octets 0).walkWith below tape = (.ok 0, tape) :=
    Action.bind_of_ok (octets_of_le (Nat.zero_le _))
  rw [walked]
  exact .returned tape related

theorem fail_mirrors {what : String} {R : α → ℕ → Prop} :
    Mirrors Site.note (Read.fail what : Read α) (Wire.reject.walkWith below) R :=
  .fail

/-! ### Keys and signatures -/

theorem deserializeEccPoint_mirrors :
    Mirrors Site.note deserializeEccPoint (Wire.eccPoint.walkWith below)
      fun point counted => point.getSize = counted := by
  refine type_mirrors fun type wire form => ?_
  split
  next is => rw [form, is]; exact .bind (octets_mirrors _) fun x _ _ => .pure (by simp [EccPoint.getSize, x.2])
  next is => rw [form, is]; exact .bind (octets_mirrors _) fun x _ _ => .pure (by simp [EccPoint.getSize, x.2])
  next is => rw [form, is]; exact .bind (octets_mirrors _) fun x _ _ => .pure (by simp [EccPoint.getSize, x.2])
  next is =>
    rw [form, is]
    refine seq_mirrors (octets_fixed _).mirrors fun x _ same => ?_
    exact .bind (octets_mirrors _) fun y _ _ => .pure (by simp [EccPoint.getSize, x.2, y.2, same])
  next =>
    rw [form]
    simp only
    exact fail_mirrors

theorem deserializePublicKey_mirrors :
    Mirrors Site.note deserializePublicKey (Wire.publicKey.walkWith below)
      fun result counted => result.2 = counted := by
  refine type_mirrors fun type wire form => ?_
  split
  next is =>
    rw [form, is]
    exact deserializeEccPoint_mirrors.map fun point _ same => by simp [PublicKey.getSize, same]
  next is =>
    rw [form, is]
    refine seq_mirrors byte_fixed.mirrors fun supported _ one => ?_
    exact deserializeEccPoint_mirrors.map fun point _ same => by
      simp [PublicKey.getSize, same, one]; omega
  next =>
    rw [form]
    simp only
    exact fail_mirrors

theorem deserializeEcdsaSignature_mirrors :
    Mirrors Site.note deserializeEcdsaSignature (Wire.ecdsaSignature.walkWith below)
      fun result counted => result.2 = counted := by
  refine seq_mirrors deserializeEccPoint_mirrors fun point _ same => ?_
  refine .bind (octets_mirrors _) fun s _ _ => .pure ?_
  simp only [EcdsaSignature.getSize, s.2, same]
  omega

theorem deserializeSignature_mirrors :
    Mirrors Site.note deserializeSignature (Wire.signature.walkWith below)
      fun result counted => result.2 = counted := by
  refine type_mirrors fun algo wire form => ?_
  split
  next is =>
    rw [form, is]
    exact deserializeEcdsaSignature_mirrors.map fun _ _ same => by simp only [same]
  next =>
    rw [form]
    simp only
    exact fail_mirrors

theorem deserializeTrailerField_mirrors :
    Mirrors Site.note deserializeTrailerField (Wire.trailerField.walkWith below)
      fun result counted => result.2 = counted := by
  refine type_mirrors fun type wire form => ?_
  split
  next is =>
    rw [form, is]
    exact deserializeSignature_mirrors.map fun _ _ same => by simp only [same]
  next =>
    rw [form]
    simp only
    exact fail_mirrors

/-! ### Regions -/

theorem deserializeTwoDLocation_fixed : Fixed 8 deserializeTwoDLocation :=
  uint32_fixed.bind fun _ => uint32_fixed.map

theorem deserializeThreeDLocation_fixed : Fixed (4 + (4 + 2)) deserializeThreeDLocation :=
  uint32_fixed.bind fun _ => uint32_fixed.bind fun _ => (octets_fixed 2).map

theorem deserializeThreeDLocation_sized :
    Spends Note.surplus deserializeThreeDLocation fun result _ => result.2 = 10 :=
  .bind uint32_spends fun _ _ _ => .bind uint32_spends fun _ _ _ =>
    .bind (octets_spends 2) fun _ _ _ => .pure rfl

theorem deserializeCircularRegion_fixed : Fixed (8 + 2) deserializeCircularRegion :=
  deserializeTwoDLocation_fixed.bind fun (_, _) => uint16_fixed.map

theorem deserializeRectangularRegion_fixed : Fixed (8 + 8) deserializeRectangularRegion :=
  deserializeTwoDLocation_fixed.bind fun (_, _) => deserializeTwoDLocation_fixed.map

theorem regionLoop_follows {region : Read (α × ℕ)} {unit : ℕ} (fixed : Fixed unit region)
    (sized : Spends Note.surplus region fun result _ => result.2 = unit) (length : UInt64) :
    Follows (regionLoop region length) (Walk.regions unit length) := by
  refine .bind (.whileM (fun (state : List α × UInt64) (remaining : UInt64) => state.2 = remaining)
    rfl ?_ ?_) fun _ _ _ => .pure rfl
  · rintro ⟨list, size⟩ remaining rfl
    rfl
  · rintro ⟨list, size⟩ remaining _ rfl
    refine .bind (fixed.gains sized) ?_
    rintro ⟨reg, taken⟩ _ ⟨_, rfl⟩
    exact .pure rfl

theorem deserializeRectangularRegions_mirrors :
    Mirrors Site.note (deserializeRectangularRegions limit) ((Wire.regions 16).walkWith below)
      fun result counted => result.2 + lengthCodingSize (1 + result.2) = counted :=
  announced_mirrors fun length =>
    (regionLoop_follows deserializeRectangularRegion_fixed
      (deserializeRectangularRegion_spends.mono fun _ _ => And.right) length).mono
      fun _ _ same => by rw [same]

theorem deserializePolygonalRegion_mirrors :
    Mirrors Site.note (deserializePolygonalRegion limit) ((Wire.regions 8).walkWith below)
      fun result counted => result.2 + lengthCodingSize (1 + result.2) = counted :=
  announced_mirrors fun length =>
    (regionLoop_follows deserializeTwoDLocation_fixed
      (deserializeTwoDLocation_spends.mono fun _ _ => And.right) length).mono
      fun _ _ same => by rw [same]

theorem deserializeIdentifiedRegion_mirrors :
    Mirrors Site.note (deserializeIdentifiedRegion limit) (Wire.identifiedRegion.walkWith below)
      fun result counted => result.2 = counted := by
  refine seq_mirrors byte_fixed.mirrors fun dictionary _ one => ?_
  refine seq_mirrors uint16_fixed.mirrors fun identifier _ two => ?_
  refine number_mirrors.map ?_
  rintro ⟨localRegion, size⟩ counted ⟨_, sized⟩
  simp only at sized ⊢
  omega

theorem deserializeGeographicRegion_mirrors :
    Mirrors Site.note (deserializeGeographicRegion limit) (Wire.geographicRegion.walkWith below)
      fun result counted => result.2 = counted := by
  refine type_mirrors fun type wire form => ?_
  split
  next is =>
    rw [form, is]
    exact pure_mirrors rfl
  next is =>
    rw [form, is]
    refine .bind (deserializeCircularRegion_fixed.gains
      (deserializeCircularRegion_spends.mono fun _ _ => And.right)) ?_
    rintro ⟨circle, size⟩ _ ⟨_, same⟩
    exact .pure (congrArg (1 + ·) same.symm)
  next is =>
    rw [form, is]
    refine deserializeRectangularRegions_mirrors.map ?_
    rintro ⟨list, size⟩ counted same
    simp only at same ⊢
    omega
  next is =>
    rw [form, is]
    refine deserializePolygonalRegion_mirrors.map ?_
    rintro ⟨polygon, size⟩ counted same
    simp only at same ⊢
    omega
  next is =>
    rw [form, is]
    exact deserializeIdentifiedRegion_mirrors.map fun _ _ same => by simp only [same]
  next =>
    rw [form]
    simp only
    exact fail_mirrors

/-! ### Certificates -/

theorem deserializeSubjectInfo_mirrors :
    Mirrors Site.note (deserializeSubjectInfo limit) (Wire.subjectInfo.walkWith below)
      fun result counted => result.2 = counted := by
  refine seq_mirrors byte_fixed.mirrors fun subjectType _ one => ?_
  refine announced_mirrors fun length => ?_
  refine .bind (octets_mirrors _) fun name _ _ => .pure ?_
  simp only [SubjectInfo.getSize, name.2, id]
  omega

theorem deserializeItsAidSsp_mirrors :
    Mirrors Site.note (deserializeItsAidSsp limit) (Wire.itsAidSsp.walkWith below)
      fun result counted => result.2 = counted := by
  refine seq_mirrors number_mirrors ?_
  rintro ⟨itsAid, size⟩ counted ⟨same, _⟩
  refine announced_mirrors fun length => filled_mirrors fun permissions => .pure ?_
  simp only [id] at same ⊢
  omega

theorem deserializeSubjectAttribute_mirrors :
    Mirrors Site.note (deserializeSubjectAttribute limit) (Wire.subjectAttribute.walkWith below)
      fun result counted => result.2 = counted := by
  refine type_mirrors fun type wire form => ?_
  split
  next is =>
    rw [form, is]
    exact .bind byte_fixed fun _ _ _ => .pure rfl
  next is =>
    rw [form, is]
    exact deserializePublicKey_mirrors.map fun _ _ same => by simp only [same]
  next is =>
    rw [form, is]
    exact deserializePublicKey_mirrors.map fun _ _ same => by simp only [same]
  next is =>
    rw [form, is]
    refine (deserializeList_mirrors number_follows).map ?_
    rintro ⟨list, size⟩ counted same
    simp only at same ⊢
    omega
  next is =>
    rw [form, is]
    refine (deserializeList_mirrors deserializeItsAidSsp_mirrors).map ?_
    rintro ⟨list, size⟩ counted same
    simp only at same ⊢
    omega
  next is =>
    rw [form, is]
    exact fail_mirrors
  next =>
    rw [form]
    simp only
    exact fail_mirrors

theorem deserializeValidityRestriction_mirrors :
    Mirrors Site.note (deserializeValidityRestriction limit) (Wire.validityRestriction.walkWith below)
      fun result counted => result.2 = counted := by
  refine type_mirrors fun type wire form => ?_
  split
  next is =>
    rw [form, is]
    exact .bind uint32_fixed fun _ _ _ => .pure rfl
  next is =>
    rw [form, is]
    exact .part (m := 4) (n := 2) uint32_fixed fun _ => .bind uint16_fixed fun _ _ _ => .pure rfl
  next is =>
    rw [form, is]
    exact .part (m := 4) (n := 4) uint32_fixed fun _ => .bind uint32_fixed fun _ _ _ => .pure rfl
  next is =>
    rw [form, is]
    exact deserializeGeographicRegion_mirrors.map fun _ _ same => by simp only [same]
  next =>
    rw [form]
    simp only
    exact fail_mirrors

/-- The chain's length is counted with the type byte. -/
theorem chain_mirrors {certificate : Read (Certificate × ℕ)} (follows : Follows certificate below) :
    Mirrors Site.note (do
        let (chain, size) ← deserializeList limit certificate
        Read.record (.chain size)
        pure ((.certificateChain chain : SignerInfo), 1 + size + lengthCodingSize (1 + size)))
      (Wire.chain.walkWith below) fun result counted => result.2 = 1 + counted := by
  unfold deserializeList
  rw [Action.bind_assoc]
  refine announced_mirrors fun length => ?_
  refine .bind (listLoop_follows follows length) ?_
  rintro ⟨chain, size⟩ counted rfl
  refine .bind (.note (Site.chain size)) fun _ _ _ => .pure ?_
  simp only
  omega

theorem deserializeSignerInfoWith_mirrors {certificate : Read (Certificate × ℕ)}
    (follows : Follows certificate below) :
    Follows (deserializeSignerInfoWith limit certificate) (Wire.signerInfo.walkWith below) := by
  refine type_mirrors fun type wire form => ?_
  split
  next is =>
    rw [form, is]
    exact follows.map fun _ _ same => by simp only [same]
  next is =>
    rw [form, is]
    exact chain_mirrors follows
  next is =>
    rw [form, is]
    exact .bind (octets_mirrors 8) fun _ _ _ => .pure rfl
  next is =>
    rw [form, is]
    exact .part (m := 1) (n := 8) byte_fixed fun _ => .bind (octets_mirrors 8) fun _ _ _ => .pure rfl
  next is =>
    rw [form, is]
    exact pure_mirrors rfl
  next =>
    rw [form]
    simp only
    exact fail_mirrors

/-- One layer of certificates. -/
theorem deserializeCertificateWith_mirrors {certificate : Read (Certificate × ℕ)}
    (follows : Follows certificate below) :
    Follows (deserializeCertificateWith limit certificate) (Wire.certificateContent.walkWith below) := by
  refine type_mirrors fun version wire form => ?_
  by_cases two : version = 2
  · rw [form, if_pos two, if_pos two]
    refine seq_mirrors (deserializeSignerInfoWith_mirrors follows) ?_
    rintro ⟨signerInfo, signerSize⟩ first rfl
    refine seq_mirrors deserializeSubjectInfo_mirrors ?_
    rintro ⟨subjectInfo, subjectSize⟩ second rfl
    refine seq_mirrors ((deserializeList_mirrors deserializeSubjectAttribute_mirrors).gains
      (deserializeList_sized (deserializeSubjectAttribute_spends.mono fun _ _ => And.right))) ?_
    rintro ⟨attributes, attributesSize⟩ third ⟨thirdSize, attributesSized⟩
    refine seq_mirrors ((deserializeList_mirrors deserializeValidityRestriction_mirrors).gains
      (deserializeList_sized (deserializeValidityRestriction_spends.mono fun _ _ => And.right))) ?_
    rintro ⟨restrictions, restrictionsSize⟩ fourth ⟨fourthSize, restrictionsSized⟩
    refine deserializeSignature_mirrors.map ?_
    rintro ⟨signature, signatureSize⟩ fifth rfl
    simp only [attributesSized, restrictionsSized] at thirdSize fourthSize ⊢
    omega
  · rw [form, if_neg two, if_neg two]
    exact fail_mirrors

/-- **Certificates, however deeply nested.** -/
theorem deserializeCertificate_follows :
    Follows (deserializeCertificate limit) Wire.certificate.walk :=
  .fix fun _ _ => deserializeCertificateWith_mirrors

theorem deserializeSignerInfo_follows :
    Follows (deserializeSignerInfo limit) Wire.signerInfo.walk :=
  deserializeSignerInfoWith_mirrors deserializeCertificate_follows

/-! ### Messages -/

theorem deserializeEncryptionParameter_mirrors :
    Mirrors Site.note deserializeEncryptionParameter (Wire.encryptionParameter.walkWith below)
      fun result counted => result.2 = counted := by
  refine type_mirrors fun algo wire form => ?_
  split
  next is =>
    rw [form, is]
    refine .bind (octets_mirrors 12) fun nonce _ _ => .pure ?_
    simp only [EncryptionParameter.getSize, nonce.2]
  next =>
    rw [form]
    simp only
    exact fail_mirrors

theorem deserializeRecipientInfo_mirrors (symAlgo : SymmetricAlgorithm) :
    Mirrors Site.note (deserializeRecipientInfo limit symAlgo) (Wire.recipientInfo.walkWith below)
      fun result counted => result.2 = counted := by
  cases symAlgo
  refine seq_mirrors (octets_fixed 8).mirrors fun certId _ first => ?_
  refine type_mirrors fun algo wire form => ?_
  split
  next is _ =>
    rw [form, is]
    refine seq_mirrors deserializeEccPoint_mirrors fun v _ third => ?_
    refine .part (m := 16) (n := 16) (octets_fixed 16) fun c => ?_
    refine .bind (octets_mirrors 16) fun t _ _ => .pure ?_
    simp only [RecipientInfo.getSize, SymmetricAlgorithm.fieldSize, certId.2, c.2, t.2]
    omega
  next other =>
    have unknown : algo.toNat = 1 → False := fun one => other one rfl
    rw [form]
    simp only
    refine announced_mirrors fun length => filled_mirrors fun data => .pure ?_
    simp only [RecipientInfo.getSize, certId.2, data.2, id]
    omega

theorem hashedIdLoop_follows (length : UInt64) : Follows (hashedIdLoop length) (Walk.ids length) := by
  refine .bind (.note (Site.ids length.toNat)) fun _ _ _ => ?_
  refine .bind (.whileM (fun (state : List HashedId3 × ℕ) (counted : ℕ) => state.2 = counted)
    rfl ?_ ?_) fun _ _ _ => .pure rfl
  · rintro ⟨ids, c⟩ counted rfl
    rfl
  · rintro ⟨ids, c⟩ counted _ rfl
    exact .bind (octets_mirrors 3) fun _ _ _ => .pure rfl

/-- One header field; an encryption is known from then on. -/
theorem deserializeHeaderField_mirrors {symAlgo : Option SymmetricAlgorithm} {encrypted : Bool}
    (known : symAlgo.isSome = encrypted) :
    Mirrors Site.note (deserializeHeaderField limit symAlgo)
      (Walk.headerField (fun encrypted type => (Wire.headerField encrypted type).walk) encrypted)
      fun result counted => result.2.1 = counted.1 ∧ result.2.2.isSome = counted.2 := by
  subst known
  refine .bind byte_mirrors ?_
  rintro type _ rfl
  refine Mirrors.count (R := fun result counted => result.2.1 = 1 + counted ∧
    result.2.2.isSome = (symAlgo.isSome || decide (type.toNat = 129))) ?_ fun _ _ both => both
  beta_reduce
  split
  next is =>
    rw [Wire.headerField, is]
    exact .bind uint64_fixed fun _ _ _ => .pure ⟨rfl, by simp⟩
  next is =>
    rw [Wire.headerField, is]
    exact .part (m := 8) (n := 1) uint64_fixed fun _ =>
      .bind byte_fixed fun _ _ _ => .pure ⟨rfl, by simp⟩
  next is =>
    rw [Wire.headerField, is]
    exact .bind uint32_fixed fun _ _ _ => .pure ⟨rfl, by simp⟩
  next is =>
    rw [Wire.headerField, is]
    refine .bind (deserializeThreeDLocation_fixed.gains deserializeThreeDLocation_sized) ?_
    rintro ⟨loc, size⟩ _ ⟨_, rfl⟩
    exact .pure ⟨rfl, by simp⟩
  next is =>
    rw [Wire.headerField, is]
    refine announced_mirrors fun length => (hashedIdLoop_follows length).map ?_
    rintro ⟨ids, size⟩ counted same
    refine ⟨?_, by simp⟩
    simp only [id] at same ⊢
    rw [same]
    omega
  next is =>
    rw [Wire.headerField, is]
    refine number_mirrors.map ?_
    rintro ⟨itsAid, size⟩ counted ⟨same, _⟩
    exact ⟨by simp only at same ⊢; omega, by simp⟩
  next is =>
    rw [Wire.headerField, is]
    refine deserializeSignerInfo_follows.map ?_
    rintro ⟨info, size⟩ counted same
    exact ⟨by simp only at same ⊢; omega, by simp⟩
  next is =>
    rw [Wire.headerField, is]
    cases symAlgo with
    | none => exact fail_mirrors
    | some algo =>
      refine (deserializeList_mirrors (deserializeRecipientInfo_mirrors algo)).map ?_
      rintro ⟨recipients, size⟩ counted same
      exact ⟨by simp only at same ⊢; omega, by simp⟩
  next is =>
    rw [Wire.headerField, is]
    refine deserializeEncryptionParameter_mirrors.map ?_
    rintro ⟨param, size⟩ counted same
    exact ⟨by simp only at same ⊢; omega, by simp⟩
  next =>
    rw [Wire.headerField]
    simp only
    exact fail_mirrors

theorem headerLoop_follows (length : UInt64) : Follows (headerLoop limit length)
    (Walk.headerFields (fun encrypted type => (Wire.headerField encrypted type).walk) length) := by
  refine .bind (.whileM (fun (state : List HeaderField × ℕ × Option SymmetricAlgorithm)
    (place : ℕ × Bool) => state.2.1 = place.1 ∧ state.2.2.isSome = place.2) ⟨rfl, rfl⟩ ?_ ?_) ?_
  · rintro ⟨list, read, symAlgo⟩ ⟨counted, encrypted⟩ ⟨rfl, rfl⟩
    rfl
  · rintro ⟨list, read, symAlgo⟩ ⟨counted, encrypted⟩ _ ⟨rfl, known⟩
    refine .bind (deserializeHeaderField_mirrors known) ?_
    rintro ⟨field, taken, symAlgo⟩ ⟨size, encrypted⟩ ⟨rfl, known⟩
    exact .pure ⟨rfl, known⟩
  · rintro ⟨list, read, symAlgo⟩ ⟨counted, encrypted⟩ ⟨⟨rfl, _⟩, stopped⟩
    have reached : ¬ read < length.toNat := of_decide_eq_false stopped
    have overrun : Note.header length.toNat read =
        (Site.header length.toNat (read - length.toNat)).note := by
      show _ = Note.header length.toNat (length.toNat + (read - length.toNat))
      rw [Nat.add_sub_of_le (Nat.not_lt.mp reached)]
    unfold Read.record
    simp only [overrun]
    exact .bind (.note _) fun _ _ _ => .pure rfl

theorem deserializePayload_mirrors :
    Mirrors Site.note (deserializePayload limit) (Wire.payload.walkWith below)
      fun result counted => result.2 = counted := by
  refine seq_mirrors byte_fixed.mirrors fun type _ one => ?_
  refine announced_mirrors fun length => filled_mirrors fun data => .pure ?_
  simp only [id]
  omega

/-- **Secured messages follow the wire format.** -/
theorem deserializeSecuredMessage_follows :
    Follows (deserializeSecuredMessage limit) Wire.securedMessage.walk := by
  refine type_mirrors fun version wire form => ?_
  by_cases two : version = 2
  · rw [form, if_pos two, if_pos two]
    refine seq_mirrors (R := fun result counted => result.2 + lengthCodingSize result.2 = counted)
      (announced_mirrors fun size => (headerLoop_follows size).mono fun _ _ same => by rw [same]; rfl) ?_
    rintro ⟨headerFields, hdrLength⟩ first firstSize
    refine seq_mirrors deserializePayload_mirrors ?_
    rintro ⟨payload, payloadLength⟩ second rfl
    refine (deserializeList_mirrors deserializeTrailerField_mirrors).map ?_
    rintro ⟨trailerFields, trlrLength⟩ third thirdSize
    simp only at firstSize thirdSize ⊢
    omega
  · rw [form, if_neg two, if_neg two]
    exact fail_mirrors

end Deserialisers

end Vanet.Security
