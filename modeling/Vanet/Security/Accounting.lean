/-
**Which bytes the deserialisers account for.**

The sizes that the deserialisers return are computed from the values. They differ from the number of
bytes consumed where a length field is longer than it has to be, where the ids of a list overrun the
announced length, where the last header field overruns the end of the header, and at a certificate
chain, whose length field is counted at the size of the chain and the type byte. `Note.surplus` is
the difference, and every deserialiser spends, of the bytes left and the surplus met, exactly what it
returns.
-/

import Vanet.Security.Deserialize

namespace Vanet.Security

open Vanet.Library Vanet.Library.Reader

/-- **The bytes consumed minus the bytes counted**, where a note has been taken. -/
def Note.surplus : Note → ℤ
  | .length first value => countLeadingOnes first + 1 - lengthCodingSize value.toNat
  | .hashedIds announced => 3 * ((announced + 2) / 3 : ℕ) - announced
  | .header announced read => read - announced
  | .chain announced => lengthCodingSize announced - lengthCodingSize (1 + announced)
  | _ => 0

section Deserialisers

variable {limit : ℕ} {α : Type}

/-- The reader accounts for what it consumes: the size it returns is what it spends. -/
abbrev Accounts (read : Read (α × ℕ)) : Prop :=
  Spends Note.surplus read fun result spent => spent = result.2

/-- The size it returns is `getSize` of the value. -/
abbrev Sized (getSize : α → ℕ) (read : Read (α × ℕ)) : Prop :=
  Spends Note.surplus read fun result _ => getSize result.1 = result.2

theorem byte_spends : Spends Note.surplus Read.byte fun _ spent => spent = 1 := Spends.byte

theorem octets_spends (n : ℕ) : Spends Note.surplus (Read.octets n) fun _ spent => spent = n :=
  Spends.octets n

theorem resize_spends (count : ℕ) :
    Spends Note.surplus (resize limit count) fun _ spent => spent = 0 := by
  refine .bind .left fun left spent nothing => .mono .note ?_
  rintro _ more ⟨_, rfl⟩
  simp [nothing, Note.surplus]

theorem deserializeLength_spends : Spends Note.surplus (deserializeLength limit)
    fun length spent => spent = lengthCodingSize length.toNat := by
  refine .bind byte_spends fun first one rfl => ?_
  refine .bind (resize_spends _) fun _ none rfl => ?_
  refine .bind (octets_spends _) fun rest more rfl => ?_
  refine .bind .note fun _ returned noted => .pure ?_
  obtain ⟨_, rfl⟩ := noted
  simp only [Note.surplus]
  omega

theorem assert_spends {entry : Note} {holds : Bool} :
    Spends Note.surplus (Read.assert entry holds) fun _ spent =>
      holds = true ∧ spent = - entry.surplus := by
  refine .mono .note ?_
  rintro _ spent ⟨passed, paid⟩
  cases holds with
  | true => exact ⟨rfl, paid⟩
  | false => cases passed

theorem deserializeIntX_accounts : Accounts (deserializeIntX limit) :=
  .bind deserializeLength_spends fun _ _ paid => .pure (by simpa [IntX.getSize] using paid)

theorem deserializeIntX_sized : Sized IntX.getSize (deserializeIntX limit) :=
  .bind deserializeLength_spends fun _ _ _ => .pure rfl

/-- The loop over a list: any measure of the elements that their sizes agree with counts down the
announced length. -/
theorem listLoop_spends {element : Read (α × ℕ)} (measure : List α → ℤ → ℤ)
    (begins : measure [] 0 = 0)
    (grows : ∀ list spent, Spends Note.surplus element fun result more =>
      measure (list ++ [result.1]) (spent + more) = measure list spent + result.2)
    (length : UInt64) :
    Spends Note.surplus (listLoop element length) fun result spent =>
      result.2 = length.toNat ∧ measure result.1 spent = result.2 := by
  refine .bind (.whileM (fun state spent => measure state.1 spent + state.2 = length.toNat)
    (by simp [begins]) ?_) ?_
  · rintro ⟨list, remainder⟩ spent _ invariant
    refine .bind (grows list spent) ?_
    rintro ⟨element, size⟩ more grown
    refine .pure ?_
    simp only [add_zero] at invariant grown ⊢
    omega
  · rintro ⟨list, remainder⟩ spent ⟨invariant, _⟩
    refine .bind assert_spends ?_
    rintro _ returned ⟨done, nothing⟩
    refine .pure ⟨rfl, ?_⟩
    simp only [decide_eq_true_eq, Note.surplus] at done nothing
    subst done nothing
    simpa using invariant

/-- The loop over a list accounts for its elements, and the announced length is what it returns. -/
abbrev AccountsFor (length : UInt64) (read : Read (α × ℕ)) : Prop :=
  Spends Note.surplus read fun result spent => spent = result.2 ∧ result.2 = length.toNat

theorem listLoop_accounts {element : Read (α × ℕ)} (accounts : Accounts element)
    (length : UInt64) : AccountsFor length (listLoop element length) := by
  refine .mono (listLoop_spends (fun _ spent => spent) rfl ?_ length) fun _ _ => And.symm
  exact fun list spent => .mono accounts fun _ more paid => by omega

theorem listLoop_sized {element : Read (α × ℕ)} {getSize : α → ℕ} (sized : Sized getSize element)
    (length : UInt64) : Sized (listSize getSize) (listLoop element length) := by
  refine .mono (listLoop_spends (fun list _ => listSize getSize list) rfl ?_ length) ?_
  · intro list spent
    refine .mono sized fun _ more same => ?_
    rw [listSize_concat, same, Int.natCast_add]
  · exact fun _ spent total => Int.ofNat_inj.mp total.2

/-- A loop behind the length field that announces its length. -/
theorem announced_spends {next : UInt64 → Read (α × ℕ)}
    (accounts : ∀ length, AccountsFor length (next length)) :
    Spends Note.surplus (deserializeLength limit >>= next) fun result spent =>
      spent = lengthCodingSize result.2 + result.2 := by
  refine .bind deserializeLength_spends fun length front paid => .mono (accounts length) ?_
  rintro result spent ⟨total, announced⟩
  rw [paid, total, announced]

theorem deserializeList_accounts {element : Read (α × ℕ)} (accounts : Accounts element) :
    Spends Note.surplus (deserializeList limit element) fun result spent =>
      spent = lengthCodingSize result.2 + result.2 :=
  announced_spends (listLoop_accounts accounts)

theorem deserializeList_sized {element : Read (α × ℕ)} {getSize : α → ℕ}
    (sized : Sized getSize element) :
    Sized (listSize getSize) (deserializeList limit element) :=
  .bind deserializeLength_spends fun length _ _ => listLoop_sized sized length

/-! ### Regions -/

theorem uint16_spends : Spends Note.surplus Read.uint16 fun _ spent => spent = 2 :=
  .bind (octets_spends 2) fun _ _ paid => .pure (by simpa using paid)

theorem uint32_spends : Spends Note.surplus Read.uint32 fun _ spent => spent = 4 :=
  .bind (octets_spends 4) fun _ _ paid => .pure (by simpa using paid)

theorem uint64_spends : Spends Note.surplus Read.uint64 fun _ spent => spent = 8 :=
  .bind (octets_spends 8) fun _ _ paid => .pure (by simpa using paid)

theorem deserializeTwoDLocation_spends : Spends Note.surplus deserializeTwoDLocation
    fun result spent => spent = 8 ∧ result.2 = 8 := by
  refine .bind uint32_spends fun _ _ first => .bind uint32_spends fun _ _ second => .pure ?_
  exact ⟨by omega, rfl⟩

theorem deserializeThreeDLocation_accounts : Accounts deserializeThreeDLocation := by
  refine .bind uint32_spends fun _ _ first => .bind uint32_spends fun _ _ second => ?_
  refine .bind (octets_spends 2) fun _ _ third => .pure ?_
  simp only [ThreeDLocation.getSize]
  omega

theorem deserializeCircularRegion_spends : Spends Note.surplus deserializeCircularRegion
    fun result spent => spent = result.2 ∧ result.1.getSize = result.2 := by
  refine .bind deserializeTwoDLocation_spends ?_
  rintro ⟨center, size⟩ spent ⟨first, eight⟩
  refine .bind uint16_spends fun _ _ second => .pure ?_
  simp only [CircularRegion.getSize, TwoDLocation.getSize] at eight ⊢
  omega

theorem deserializeRectangularRegion_spends : Spends Note.surplus deserializeRectangularRegion
    fun result spent => spent = 16 ∧ result.2 = 16 := by
  refine .bind deserializeTwoDLocation_spends ?_
  rintro ⟨northwest, first⟩ spent ⟨paid, eight⟩
  refine .bind deserializeTwoDLocation_spends ?_
  rintro ⟨southeast, second⟩ more ⟨paid', eight'⟩
  refine .pure ?_
  simp only at eight eight' ⊢
  omega

/-- One step of counting down a `size_t` in units that divide its range: whether the unit divides it
does not change, and it does not wrap as long as the unit does. -/
theorem countdown {size taken : UInt64} (divides : taken.toNat ∣ 2 ^ 64) (running : 0 < size) :
    (taken.toNat ∣ (size - taken).toNat ↔ taken.toNat ∣ size.toNat) ∧
      (taken.toNat ∣ size.toNat → (size - taken).toNat + taken.toNat = size.toNat) := by
  have below : taken.toNat < 2 ^ 64 := taken.toNat_lt
  have positive : 0 < size.toNat := UInt64.lt_iff_toNat_lt.mp running
  rw [UInt64.toNat_sub]
  constructor
  · rw [Nat.dvd_mod_iff divides]
    exact (Nat.dvd_add_right (Nat.dvd_sub divides (Nat.dvd_refl _)))
  · intro multiple
    have enough := Nat.le_of_dvd positive multiple
    have small : size.toNat < 2 ^ 64 := size.toNat_lt
    omega

/-- **The lists of regions**: their loop ends only at a length that the regions fill. -/
theorem regionLoop_spends {region : Read (α × ℕ)} {getSize : α → ℕ} {unit : ℕ}
    (divides : unit ∣ 2 ^ 64) (narrow : unit < 2 ^ 64) (sized : ∀ reg, getSize reg = unit)
    (spends : Spends Note.surplus region fun result spent => spent = unit ∧ result.2 = unit)
    (length : UInt64) :
    Spends Note.surplus (regionLoop region length) fun result spent =>
      (spent = result.2 ∧ result.2 = length.toNat) ∧
        listSize getSize result.1 = result.2 ∧ unit ∣ result.2 := by
  have taken_toNat : (UInt64.ofNat unit).toNat = unit := UInt64.toNat_ofNat_of_lt' narrow
  refine .bind (.whileM (fun state spent => spent = listSize getSize state.1 ∧
    (unit ∣ state.2.toNat ↔ unit ∣ length.toNat) ∧
    (unit ∣ length.toNat → state.2.toNat + listSize getSize state.1 = length.toNat)) ?_ ?_) ?_
  · exact ⟨rfl, Iff.rfl, fun _ => rfl⟩
  · rintro ⟨list, size⟩ spent running ⟨total, same, filled⟩
    refine .bind spends ?_
    rintro ⟨reg, taken⟩ more ⟨once, rfl⟩
    have step := @countdown size (UInt64.ofNat taken) (by rwa [taken_toNat])
      (of_decide_eq_true running)
    rw [taken_toNat] at step
    refine .pure ⟨?_, step.1.trans same, fun multiple => ?_⟩
    · rw [listSize_concat, sized, total, once]
      simp
    · have before : size.toNat + listSize getSize list = length.toNat := filled multiple
      have less := step.2 (same.mpr multiple)
      show (size - UInt64.ofNat taken).toNat + listSize getSize (list ++ [reg]) = length.toNat
      rw [listSize_concat, sized]
      omega
  · rintro ⟨list, size⟩ spent ⟨⟨total, same, filled⟩, stopped⟩
    have empty : size.toNat = 0 := by
      have stop := of_decide_eq_false stopped
      simpa [UInt64.lt_iff_toNat_lt] using stop
    rw [empty] at same filled
    have multiple : unit ∣ length.toNat := same.mp (Nat.dvd_zero unit)
    have whole : 0 + listSize getSize list = length.toNat := filled multiple
    refine .pure ⟨⟨?_, rfl⟩, ?_, multiple⟩
    · show spent + 0 = (length.toNat : ℤ)
      omega
    · show listSize getSize list = length.toNat
      omega

theorem rectangularLoop_spends (length : UInt64) :
    Spends Note.surplus (regionLoop deserializeRectangularRegion length) fun result spent =>
      (spent = result.2 ∧ result.2 = length.toNat) ∧
        listSize RectangularRegion.getSize result.1 = result.2 ∧ 16 ∣ result.2 :=
  regionLoop_spends (by decide) (by decide) (fun _ => rfl) deserializeRectangularRegion_spends length

theorem polygonalLoop_spends (length : UInt64) :
    Spends Note.surplus (regionLoop deserializeTwoDLocation length) fun result spent =>
      (spent = result.2 ∧ result.2 = length.toNat) ∧
        listSize TwoDLocation.getSize result.1 = result.2 ∧ 8 ∣ result.2 :=
  regionLoop_spends (by decide) (by decide) (fun _ => rfl) deserializeTwoDLocation_spends length

theorem deserializeRectangularRegions_spends :
    Spends Note.surplus (deserializeRectangularRegions limit) fun result spent =>
      spent = lengthCodingSize result.2 + result.2 ∧
        listSize RectangularRegion.getSize result.1 = result.2 ∧ 8 ∣ result.2 := by
  have loop := rectangularLoop_spends
  refine Spends.and (announced_spends fun length => (loop length).mono fun _ _ => And.left) ?_
  refine .bind deserializeLength_spends fun length _ _ => (loop length).mono ?_
  exact fun _ _ ⟨_, sized, multiple⟩ => ⟨sized, Nat.dvd_trans (by decide) multiple⟩

theorem deserializePolygonalRegion_spends :
    Spends Note.surplus (deserializePolygonalRegion limit) fun result spent =>
      spent = lengthCodingSize result.2 + result.2 ∧
        listSize TwoDLocation.getSize result.1 = result.2 ∧ 8 ∣ result.2 := by
  have loop := polygonalLoop_spends
  refine Spends.and (announced_spends fun length => (loop length).mono fun _ _ => And.left) ?_
  exact .bind deserializeLength_spends fun length _ _ => (loop length).mono fun _ _ => And.right

theorem deserializeIdentifiedRegion_spends :
    Spends Note.surplus (deserializeIdentifiedRegion limit) fun result spent =>
      spent = result.2 ∧ result.1.getSize = result.2 := by
  refine .bind byte_spends fun _ _ first => .bind uint16_spends fun _ _ second => ?_
  refine .bind (deserializeIntX_accounts.and deserializeIntX_sized) ?_
  rintro ⟨intx, size⟩ spent ⟨third, sized⟩
  refine .pure ⟨?_, rfl⟩
  simp only at third sized ⊢
  omega

/-- A length of whole regions is as long as it is with the type byte, so `size` is the same when it
is computed from the value. -/
theorem deserializeGeographicRegion_spends :
    Spends Note.surplus (deserializeGeographicRegion limit) fun result spent =>
      spent = result.2 ∧ result.1.getSize = result.2 := by
  refine .bind byte_spends fun type _ one => ?_
  split
  · exact .pure ⟨by omega, rfl⟩
  · refine .bind deserializeCircularRegion_spends ?_
    rintro ⟨circle, size⟩ spent ⟨paid, sized⟩
    refine .pure ?_
    simp only [GeographicRegion.getSize] at paid sized ⊢
    omega
  · refine .bind deserializeRectangularRegions_spends ?_
    rintro ⟨list, size⟩ spent ⟨paid, sized, multiple⟩
    refine .pure ?_
    have same := lengthCodingSize_succ multiple
    simp only [GeographicRegion.getSize, sized, Nat.add_comm 1 size, same] at paid ⊢
    omega
  · refine .bind deserializePolygonalRegion_spends ?_
    rintro ⟨list, size⟩ spent ⟨paid, sized, multiple⟩
    refine .pure ?_
    have same := lengthCodingSize_succ multiple
    simp only [GeographicRegion.getSize, sized, Nat.add_comm 1 size, same] at paid ⊢
    omega
  · refine .bind deserializeIdentifiedRegion_spends ?_
    rintro ⟨id, size⟩ spent ⟨paid, sized⟩
    refine .pure ?_
    simp only [GeographicRegion.getSize] at paid sized ⊢
    omega
  · exact .fail

/-! ### Keys and signatures -/

theorem deserializeEccPoint_spends :
    Spends Note.surplus deserializeEccPoint fun point spent => spent = point.getSize := by
  refine .bind byte_spends fun type _ one => ?_
  split
  · exact .bind (octets_spends _) fun x _ paid => .pure (by simp [EccPoint.getSize, x.2]; omega)
  · exact .bind (octets_spends _) fun x _ paid => .pure (by simp [EccPoint.getSize, x.2]; omega)
  · exact .bind (octets_spends _) fun x _ paid => .pure (by simp [EccPoint.getSize, x.2]; omega)
  · refine .bind (octets_spends _) fun x _ first => .bind (octets_spends _) fun y _ second => ?_
    exact .pure (by simp [EccPoint.getSize, x.2, y.2]; omega)
  · exact .fail

theorem deserializePublicKey_spends : Spends Note.surplus deserializePublicKey
    fun result spent => spent = result.2 ∧ result.1.getSize = result.2 := by
  refine .bind byte_spends fun type _ one => ?_
  split
  · refine .bind deserializeEccPoint_spends fun point _ paid => .pure ⟨?_, rfl⟩
    simp only [PublicKey.getSize]
    omega
  · refine .bind byte_spends fun _ _ second => ?_
    refine .bind deserializeEccPoint_spends fun point _ paid => .pure ⟨?_, rfl⟩
    simp only [PublicKey.getSize]
    omega
  · exact .fail

theorem deserializeEcdsaSignature_accounts : Accounts deserializeEcdsaSignature := by
  refine .bind deserializeEccPoint_spends fun point _ first => ?_
  refine .bind (octets_spends _) fun buf _ second => .pure ?_
  simp only [EcdsaSignature.getSize, buf.2]
  omega

theorem deserializeSignature_accounts : Accounts deserializeSignature := by
  refine .bind byte_spends fun algo _ one => ?_
  split
  · refine .bind deserializeEcdsaSignature_accounts fun (_, _) _ paid => .pure ?_
    simp only at paid ⊢
    omega
  · exact .fail

theorem deserializeTrailerField_accounts : Accounts deserializeTrailerField := by
  refine .bind byte_spends fun type _ one => ?_
  split
  · refine .bind deserializeSignature_accounts fun (_, _) _ paid => .pure ?_
    simp only at paid ⊢
    omega
  · exact .fail

/-! ### Certificates -/

theorem deserializeSubjectInfo_accounts : Accounts (deserializeSubjectInfo limit) := by
  refine .bind byte_spends fun _ _ one => .bind deserializeLength_spends fun size _ front => ?_
  refine .bind (octets_spends _) fun name _ paid => .pure ?_
  simp only [SubjectInfo.getSize, name.2]
  omega

theorem deserializeItsAidSsp_spends : Spends Note.surplus (deserializeItsAidSsp limit)
    fun result spent => spent = result.2 ∧ result.1.getSize = result.2 := by
  refine .bind (deserializeIntX_accounts.and deserializeIntX_sized) ?_
  rintro ⟨itsAid, size⟩ _ ⟨first, sized⟩
  refine .bind deserializeLength_spends fun bufSize _ front => ?_
  refine .bind (resize_spends _) fun _ _ nothing => ?_
  refine .bind (octets_spends _) fun permissions _ paid => .pure ?_
  simp only [ItsAidSsp.getSize, permissions.2] at first sized ⊢
  omega

/-- A list whose elements' sizes are computed from their values. -/
theorem deserializeList_both {element : Read (α × ℕ)} {getSize : α → ℕ}
    (both : Spends Note.surplus element fun result spent =>
      spent = result.2 ∧ getSize result.1 = result.2) :
    Spends Note.surplus (deserializeList limit element) fun result spent =>
      spent = lengthCodingSize result.2 + result.2 ∧ listSize getSize result.1 = result.2 :=
  (deserializeList_accounts (both.mono fun _ _ => And.left)).and
    (deserializeList_sized (both.mono fun _ _ => And.right))

theorem deserializeSubjectAttribute_spends :
    Spends Note.surplus (deserializeSubjectAttribute limit) fun result spent =>
      spent = result.2 ∧ result.1.getSize = result.2 := by
  refine .bind byte_spends fun type _ one => ?_
  split
  · refine .bind byte_spends fun raw _ paid => .pure ⟨?_, rfl⟩
    simp only
    omega
  · refine .bind deserializePublicKey_spends ?_
    rintro ⟨key, size⟩ _ ⟨paid, sized⟩
    refine .pure ?_
    simp only [SubjectAttribute.getSize] at paid sized ⊢
    omega
  · refine .bind deserializePublicKey_spends ?_
    rintro ⟨key, size⟩ _ ⟨paid, sized⟩
    refine .pure ?_
    simp only [SubjectAttribute.getSize] at paid sized ⊢
    omega
  · refine .bind (deserializeList_both (deserializeIntX_accounts.and deserializeIntX_sized)) ?_
    rintro ⟨list, tmpSize⟩ _ ⟨paid, sized⟩
    refine .pure ?_
    simp only [SubjectAttribute.getSize, sized] at paid ⊢
    omega
  · refine .bind (deserializeList_both deserializeItsAidSsp_spends) ?_
    rintro ⟨list, tmpSize⟩ _ ⟨paid, sized⟩
    refine .pure ?_
    simp only [SubjectAttribute.getSize, sized] at paid ⊢
    omega
  · exact .fail
  · exact .fail

theorem deserializeValidityRestriction_spends :
    Spends Note.surplus (deserializeValidityRestriction limit) fun result spent =>
      spent = result.2 ∧ result.1.getSize = result.2 := by
  refine .bind byte_spends fun type _ one => ?_
  split
  · refine .bind uint32_spends fun _ _ paid => .pure ⟨?_, rfl⟩
    simp only
    omega
  · refine .bind uint32_spends fun _ _ first => .bind uint16_spends fun _ _ second => ?_
    refine .pure ⟨?_, rfl⟩
    simp only
    omega
  · refine .bind uint32_spends fun _ _ first => .bind uint32_spends fun _ _ second => ?_
    refine .pure ⟨?_, rfl⟩
    simp only
    omega
  · refine .bind deserializeGeographicRegion_spends ?_
    rintro ⟨area, size⟩ _ ⟨paid, sized⟩
    refine .pure ?_
    simp only [ValidityRestriction.getSize] at paid sized ⊢
    omega
  · exact .fail

theorem deserializeSignerInfoWith_accounts {certificate : Read (Certificate × ℕ)}
    (accounts : Accounts certificate) : Accounts (deserializeSignerInfoWith limit certificate) := by
  refine .bind byte_spends fun type _ one => ?_
  split
  · refine .bind accounts fun (_, _) _ paid => .pure ?_
    simp only at paid ⊢
    omega
  · refine .bind (deserializeList_accounts accounts) fun (_, _) _ paid => ?_
    refine .bind .note fun _ _ ⟨_, returned⟩ => .pure ?_
    simp only [Note.surplus] at paid returned ⊢
    omega
  · exact .bind (octets_spends _) fun _ _ paid => .pure (by simp only; omega)
  · refine .bind byte_spends fun _ _ first => .bind (octets_spends _) fun _ _ second => .pure ?_
    simp only
    omega
  · exact .pure (by simp only; omega)
  · exact .fail

theorem deserializeCertificate_accounts : Accounts (deserializeCertificate limit) := by
  refine .fix fun below accounts => ?_
  refine .bind byte_spends fun version _ one => ?_
  split
  · refine .bind (deserializeSignerInfoWith_accounts accounts) ?_
    rintro ⟨signerInfo, signerSize⟩ _ first
    refine .bind deserializeSubjectInfo_accounts ?_
    rintro ⟨subjectInfo, subjectSize⟩ _ second
    refine .bind (deserializeList_both deserializeSubjectAttribute_spends) ?_
    rintro ⟨attributes, attributesSize⟩ _ ⟨third, attributesSized⟩
    refine .bind (deserializeList_both deserializeValidityRestriction_spends) ?_
    rintro ⟨restrictions, restrictionsSize⟩ _ ⟨fourth, restrictionsSized⟩
    refine .bind deserializeSignature_accounts ?_
    rintro ⟨signature, signatureSize⟩ _ fifth
    refine .pure ?_
    simp only [attributesSized, restrictionsSized] at first second third fourth fifth ⊢
    omega
  · exact .fail

theorem deserializeSignerInfo_accounts : Accounts (deserializeSignerInfo limit) :=
  deserializeSignerInfoWith_accounts deserializeCertificate_accounts

/-! ### Messages -/

theorem deserializeEncryptionParameter_accounts : Accounts deserializeEncryptionParameter := by
  refine .bind byte_spends fun algo _ one => ?_
  split
  · refine .bind (octets_spends _) fun nonce _ paid => .pure ?_
    simp only [EncryptionParameter.getSize, nonce.2]
    omega
  · exact .fail

theorem deserializeRecipientInfo_accounts (symAlgo : SymmetricAlgorithm) :
    Accounts (deserializeRecipientInfo limit symAlgo) := by
  refine .bind (octets_spends 8) fun certId _ first => .bind byte_spends fun algo _ second => ?_
  split
  · refine .bind deserializeEccPoint_spends fun v _ third => ?_
    refine .bind (octets_spends _) fun c _ fourth => .bind (octets_spends _) fun t _ fifth => ?_
    refine .pure ?_
    simp only [RecipientInfo.getSize, certId.2, c.2, t.2]
    omega
  · refine .bind deserializeLength_spends fun length _ third => ?_
    refine .bind (resize_spends _) fun _ _ nothing => ?_
    refine .bind (octets_spends _) fun data _ fourth => .pure ?_
    simp only [RecipientInfo.getSize, certId.2, data.2]
    omega

/-- Three bytes at a time, up to the first multiple of three that reaches the announced length. -/
theorem hashedIdLoop_accounts (length : UInt64) : AccountsFor length (hashedIdLoop length) := by
  refine .bind .note ?_
  rintro _ _ ⟨_, returned⟩
  refine .bind (.whileM (fun state spent => spent = state.2 ∧ 3 ∣ state.2 ∧
    state.2 < length.toNat + 3) ⟨rfl, by decide, by omega⟩ ?_) ?_
  · rintro ⟨ids, c⟩ spent running ⟨counted, multiple, _⟩
    have less : c < length.toNat := of_decide_eq_true running
    refine .bind (octets_spends 3) fun id _ paid => .pure ⟨?_, ?_, ?_⟩
    · rw [counted, paid]
      simp
    · omega
    · omega
  · rintro ⟨ids, c⟩ spent ⟨⟨counted, multiple, bounded⟩, stopped⟩
    have reached : ¬ c < length.toNat := of_decide_eq_false stopped
    refine .pure ⟨?_, rfl⟩
    simp only [Note.surplus] at returned ⊢
    omega

theorem deserializeHeaderField_spends (symAlgo : Option SymmetricAlgorithm) :
    Spends Note.surplus (deserializeHeaderField limit symAlgo) fun result spent =>
      spent = result.2.1 := by
  refine .bind byte_spends fun type _ one => ?_
  split
  · exact .bind uint64_spends fun _ _ paid => .pure (by simp only; omega)
  · refine .bind uint64_spends fun _ _ first => .bind byte_spends fun _ _ second => ?_
    exact .pure (by simp only; omega)
  · exact .bind uint32_spends fun _ _ paid => .pure (by simp only; omega)
  · exact .bind deserializeThreeDLocation_accounts fun (_, _) _ paid => .pure (by simp only at *; omega)
  · refine .bind deserializeLength_spends fun _ _ front => .bind (hashedIdLoop_accounts _) ?_
    rintro ⟨ids, tmpSize⟩ _ ⟨paid, rfl⟩
    exact .pure (by simp only at *; omega)
  · exact .bind deserializeIntX_accounts fun (_, _) _ paid => .pure (by simp only at *; omega)
  · exact .bind deserializeSignerInfo_accounts fun (_, _) _ paid => .pure (by simp only at *; omega)
  · cases symAlgo with
    | none => exact .fail
    | some algo =>
      refine .bind (deserializeList_accounts (deserializeRecipientInfo_accounts algo)) ?_
      exact fun (_, _) _ paid => .pure (by simp only at *; omega)
  · refine .bind deserializeEncryptionParameter_accounts ?_
    exact fun (_, _) _ paid => .pure (by simp only at *; omega)
  · exact .fail

/-- What is counted is what is consumed, and it is the announced length that is returned. -/
theorem headerLoop_accounts (size : UInt64) : AccountsFor size (headerLoop limit size) := by
  refine .bind (.whileM (fun state spent => spent = state.2.1) rfl ?_) ?_
  · rintro ⟨list, read, symAlgo⟩ spent _ counted
    refine .bind (deserializeHeaderField_spends symAlgo) ?_
    rintro ⟨field, taken, symAlgo⟩ more paid
    refine .pure ?_
    simp only at counted paid ⊢
    omega
  · rintro ⟨list, read, symAlgo⟩ spent ⟨counted, _⟩
    refine .bind .note ?_
    rintro _ _ ⟨_, returned⟩
    refine .pure ⟨?_, rfl⟩
    simp only [Note.surplus] at counted returned ⊢
    omega

theorem deserializeHeaderFields_spends : Spends Note.surplus (deserializeHeaderFields limit)
    fun result spent => spent = lengthCodingSize result.2 + result.2 :=
  announced_spends headerLoop_accounts

theorem deserializePayload_accounts : Accounts (deserializePayload limit) := by
  refine .bind byte_spends fun _ _ one => .bind deserializeLength_spends fun dataLength _ front => ?_
  refine .bind (resize_spends _) fun _ _ nothing => ?_
  refine .bind (octets_spends _) fun data _ paid => .pure ?_
  simp only
  omega

theorem deserializeSecuredMessage_accounts : Accounts (deserializeSecuredMessage limit) := by
  refine .bind byte_spends fun protocolVersion _ one => ?_
  split
  · refine .bind deserializeHeaderFields_spends ?_
    rintro ⟨headerFields, hdrLength⟩ _ first
    refine .bind deserializePayload_accounts ?_
    rintro ⟨payload, payloadLength⟩ _ second
    refine .bind (deserializeList_accounts deserializeTrailerField_accounts) ?_
    rintro ⟨trailerFields, trlrLength⟩ _ third
    refine .pure ?_
    simp only at first second third ⊢
    omega
  · exact .fail

end Deserialisers

/-! ### Every format -/

/-- **What is deserialised.** A list is the loop over it, for the length announced in front of it. -/
inductive Format
  | securedMessage
  | headerFields (announced : UInt64)
  | headerField (symAlgo : Option SymmetricAlgorithm)
  | hashedIds (announced : UInt64)
  | encryptionParameter
  | recipientInfos (symAlgo : SymmetricAlgorithm) (announced : UInt64)
  | recipientInfo (symAlgo : SymmetricAlgorithm)
  | payload
  | trailerFields (announced : UInt64)
  | trailerField
  | signerInfo
  | certificateChain (announced : UInt64)
  | certificate
  | subjectInfo
  | subjectAttributes (announced : UInt64)
  | subjectAttribute
  | itsAidList (announced : UInt64)
  | itsAidSspList (announced : UInt64)
  | itsAidSsp
  | validityRestrictions (announced : UInt64)
  | validityRestriction
  | geographicRegion
  | circularRegion
  | rectangularRegions (announced : UInt64)
  | polygonalRegion (announced : UInt64)
  | identifiedRegion
  | intX
  | publicKey
  | signature

/-- The size that a deserialiser returns. -/
def returnedSize {α : Type} (read : Read (α × ℕ)) : Read ℕ := do
  let result ← read
  pure result.2

/-- The size that the deserialiser of a format returns. -/
def Format.read (limit : ℕ) : Format → Read ℕ
  | .securedMessage => returnedSize (deserializeSecuredMessage limit)
  | .headerFields announced => returnedSize (headerLoop limit announced)
  | .headerField symAlgo => do
    let result ← deserializeHeaderField limit symAlgo
    pure result.2.1
  | .hashedIds announced => returnedSize (hashedIdLoop announced)
  | .encryptionParameter => returnedSize deserializeEncryptionParameter
  | .recipientInfos symAlgo announced =>
    returnedSize (listLoop (deserializeRecipientInfo limit symAlgo) announced)
  | .recipientInfo symAlgo => returnedSize (deserializeRecipientInfo limit symAlgo)
  | .payload => returnedSize (deserializePayload limit)
  | .trailerFields announced => returnedSize (listLoop deserializeTrailerField announced)
  | .trailerField => returnedSize deserializeTrailerField
  | .signerInfo => returnedSize (deserializeSignerInfo limit)
  | .certificateChain announced => returnedSize (listLoop (deserializeCertificate limit) announced)
  | .certificate => returnedSize (deserializeCertificate limit)
  | .subjectInfo => returnedSize (deserializeSubjectInfo limit)
  | .subjectAttributes announced =>
    returnedSize (listLoop (deserializeSubjectAttribute limit) announced)
  | .subjectAttribute => returnedSize (deserializeSubjectAttribute limit)
  | .itsAidList announced => returnedSize (listLoop (deserializeIntX limit) announced)
  | .itsAidSspList announced => returnedSize (listLoop (deserializeItsAidSsp limit) announced)
  | .itsAidSsp => returnedSize (deserializeItsAidSsp limit)
  | .validityRestrictions announced =>
    returnedSize (listLoop (deserializeValidityRestriction limit) announced)
  | .validityRestriction => returnedSize (deserializeValidityRestriction limit)
  | .geographicRegion => returnedSize (deserializeGeographicRegion limit)
  | .circularRegion => returnedSize deserializeCircularRegion
  | .rectangularRegions announced =>
    returnedSize (regionLoop deserializeRectangularRegion announced)
  | .polygonalRegion announced => returnedSize (regionLoop deserializeTwoDLocation announced)
  | .identifiedRegion => returnedSize (deserializeIdentifiedRegion limit)
  | .intX => returnedSize (deserializeIntX limit)
  | .publicKey => returnedSize deserializePublicKey
  | .signature => returnedSize deserializeSignature

variable {α : Type} {limit : ℕ}

theorem returnedSize_spends {read : Read (α × ℕ)} (accounts : Accounts read) :
    Spends Note.surplus (returnedSize read) fun size spent => spent = size :=
  .bind accounts fun _ _ paid => .pure (by simpa using paid)

theorem AccountsFor.returnedSize_spends {read : Read (α × ℕ)} {length : UInt64}
    (accounts : AccountsFor length read) :
    Spends Note.surplus (returnedSize read) fun size spent => spent = size :=
  Vanet.Security.returnedSize_spends (accounts.mono fun _ _ => And.left)

/-- **Every format spends what it returns.** -/
theorem Format.read_spends (format : Format) :
    Spends Note.surplus (format.read limit) fun size spent => spent = size := by
  have sized {α : Type} {getSize : α → ℕ} {read : Read (α × ℕ)}
      (both : Spends Note.surplus read fun result spent =>
        spent = result.2 ∧ getSize result.1 = result.2) :
      Spends Note.surplus (returnedSize read) fun size spent => spent = size :=
    returnedSize_spends (both.mono fun _ _ => And.left)
  cases format with
  | securedMessage => exact returnedSize_spends deserializeSecuredMessage_accounts
  | headerFields announced => exact (headerLoop_accounts announced).returnedSize_spends
  | headerField symAlgo =>
    exact .bind (deserializeHeaderField_spends symAlgo) fun _ _ paid => .pure (by simpa using paid)
  | hashedIds announced => exact (hashedIdLoop_accounts announced).returnedSize_spends
  | encryptionParameter => exact returnedSize_spends deserializeEncryptionParameter_accounts
  | recipientInfos symAlgo announced =>
    exact (listLoop_accounts (deserializeRecipientInfo_accounts symAlgo) _).returnedSize_spends
  | recipientInfo symAlgo => exact returnedSize_spends (deserializeRecipientInfo_accounts symAlgo)
  | payload => exact returnedSize_spends deserializePayload_accounts
  | trailerFields announced =>
    exact (listLoop_accounts deserializeTrailerField_accounts _).returnedSize_spends
  | trailerField => exact returnedSize_spends deserializeTrailerField_accounts
  | signerInfo => exact returnedSize_spends deserializeSignerInfo_accounts
  | certificateChain announced =>
    exact (listLoop_accounts deserializeCertificate_accounts _).returnedSize_spends
  | certificate => exact returnedSize_spends deserializeCertificate_accounts
  | subjectInfo => exact returnedSize_spends deserializeSubjectInfo_accounts
  | subjectAttributes announced =>
    exact (listLoop_accounts (deserializeSubjectAttribute_spends.mono fun _ _ => And.left)
      _).returnedSize_spends
  | subjectAttribute => exact sized deserializeSubjectAttribute_spends
  | itsAidList announced =>
    exact (listLoop_accounts deserializeIntX_accounts _).returnedSize_spends
  | itsAidSspList announced =>
    exact (listLoop_accounts (deserializeItsAidSsp_spends.mono fun _ _ => And.left)
      _).returnedSize_spends
  | itsAidSsp => exact sized deserializeItsAidSsp_spends
  | validityRestrictions announced =>
    exact (listLoop_accounts (deserializeValidityRestriction_spends.mono fun _ _ => And.left)
      _).returnedSize_spends
  | validityRestriction => exact sized deserializeValidityRestriction_spends
  | geographicRegion => exact sized deserializeGeographicRegion_spends
  | circularRegion => exact sized deserializeCircularRegion_spends
  | rectangularRegions announced =>
    have accounts : AccountsFor announced (regionLoop deserializeRectangularRegion announced) :=
      (rectangularLoop_spends announced).mono fun _ _ => And.left
    exact accounts.returnedSize_spends
  | polygonalRegion announced =>
    have accounts : AccountsFor announced (regionLoop deserializeTwoDLocation announced) :=
      (polygonalLoop_spends announced).mono fun _ _ => And.left
    exact accounts.returnedSize_spends
  | identifiedRegion => exact sized deserializeIdentifiedRegion_spends
  | intX => exact returnedSize_spends deserializeIntX_accounts
  | publicKey => exact sized deserializePublicKey_spends
  | signature => exact returnedSize_spends deserializeSignature_accounts

/-- The loops over ids and over header fields overrun the announced end. -/
example : (((Format.hashedIds 1).read 0 (untouched [1, 2, 3])).2.unread,
    ((Format.headerFields 2).read 0 (untouched [2, 0, 0, 0, 7])).2.unread) = ([], []) := by
  decide +kernel

end Vanet.Security
