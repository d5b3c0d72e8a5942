/-
**The round trips of regions, keys, signatures, attributes and restrictions.**

For each element there are two lemmas: its reader restores it from its bytes if and only if it is
`Restorable`, and then it has as many bytes as its size says. What holds no number of variable length
is always restored.
-/

import Vanet.Security.ListRoundTrip

namespace Vanet.Security

open Vanet.Library Reader Read

variable {limit : ℕ}

/-! ### Regions -/

def IntX.Restorable (intx : IntX) : Prop := intx.value.toNat < codingLimit

theorem restoresIff_intX (intx : IntX) :
    ReadsIff (deserializeIntX limit) intx.serialize intx intx.getSize intx.Restorable :=
  (restoresIff_number intx.value).map (fun _ _ _ _ _ _ => trivial) .pure

theorem length_intX {intx : IntX} (restorable : intx.Restorable) :
    intx.serialize.length = intx.getSize :=
  length_encodeLength restorable

theorem restores_twoDLocation (loc : TwoDLocation) :
    Restores deserializeTwoDLocation loc.serialize (loc, loc.getSize) := by
  refine (restores_uint32 loc.latitude.toUInt32).bind ((restores_uint32 loc.longitude.toUInt32).map ?_)
  exact .pure

theorem length_twoDLocation (loc : TwoDLocation) : loc.serialize.length = loc.getSize := by
  unfold TwoDLocation.serialize
  rw [List.length_append, length_hton, length_hton]
  rfl

theorem restores_threeDLocation (loc : ThreeDLocation) :
    Restores deserializeThreeDLocation loc.serialize (loc, loc.getSize) := by
  unfold ThreeDLocation.serialize
  rw [List.append_assoc]
  refine (restores_uint32 loc.latitude.toUInt32).bind
    ((restores_uint32 loc.longitude.toUInt32).bind ((Restores.octets loc.elevation).map ?_))
  exact .pure

theorem length_threeDLocation (loc : ThreeDLocation) : loc.serialize.length = loc.getSize := by
  unfold ThreeDLocation.serialize
  rw [List.length_append, List.length_append, length_hton, length_hton, loc.elevation.2]
  rfl

theorem restores_circularRegion (reg : CircularRegion) :
    Restores deserializeCircularRegion reg.serialize (reg, reg.getSize) :=
  (restores_twoDLocation reg.center).bind ((restores_uint16 reg.radius).map .pure)

theorem length_circularRegion (reg : CircularRegion) : reg.serialize.length = reg.getSize := by
  unfold CircularRegion.serialize
  rw [List.length_append, length_twoDLocation, length_hton]
  rfl

theorem restores_rectangularRegion (reg : RectangularRegion) :
    Restores deserializeRectangularRegion reg.serialize (reg, reg.getSize) :=
  (restores_twoDLocation reg.northwest).bind ((restores_twoDLocation reg.southeast).map .pure)

theorem length_rectangularRegion (reg : RectangularRegion) : reg.serialize.length = reg.getSize := by
  unfold RectangularRegion.serialize
  rw [List.length_append, length_twoDLocation, length_twoDLocation]
  rfl

section Regions

variable {α : Type} {region : Read (α × ℕ)} {getSize : α → ℕ} {serialize : α → ByteBuffer}

/-- The loop that counts down a `size_t` reads all of a list of the announced size. -/
theorem passes_regions (positive : ∀ reg, 0 < getSize reg) (list : List α) : ∀ {size : UInt64},
    size.toNat = listSize getSize list → Passes (fun size => decide (0 < size))
      (fun size reg => size - UInt64.ofNat (getSize reg)) (fun _ _ => True) size list := by
  induction list with
  | nil =>
    intro size nothing
    have zero : size = 0 := UInt64.toNat_inj.mp nothing
    rw [zero]
    rfl
  | cons reg list ih =>
    intro size announced
    have some := positive reg
    have limit := size.toNat_lt
    rw [listSize_cons] at announced
    have taken : (UInt64.ofNat (getSize reg)).toNat = getSize reg :=
      UInt64.toNat_ofNat_of_lt' (by show _ < 2 ^ 64; omega)
    refine ⟨decide_eq_true ?_, trivial, ih ?_⟩
    · rw [UInt64.lt_iff_toNat_lt, UInt64.toNat_zero]
      omega
    · rw [UInt64.toNat_sub_of_le _ _ ?_, taken]
      · omega
      · rw [UInt64.le_iff_toNat_le, taken]
        omega

theorem restoresIff_regions {list : List α} (fits : listSize getSize list < sizeLimit)
    (positive : ∀ reg, 0 < getSize reg) (nonempty : ∀ reg, serialize reg ≠ [])
    (each : ∀ reg, Restores region (serialize reg) (reg, getSize reg)) :
    ReadsIff (deserializeLength limit >>= regionLoop region) (serializeList getSize serialize list)
      list (listSize getSize list) (listSize getSize list < codingLimit) := by
  have value : (UInt64.ofNat (listSize getSize list)).toNat = listSize getSize list :=
    UInt64.toNat_ofNat_of_lt' fits
  have looped : Restores (loop (fun state => decide (0 < state.2))
      (fun state => do
        let read ← region
        pure (state.1 ++ [read.1], state.2 - UInt64.ofNat read.2))
      (([], UInt64.ofNat (listSize getSize list)) : List α × UInt64)) (list.flatMap serialize)
      ([] ++ list, list.foldl (fun size reg => size - UInt64.ofNat (getSize reg))
        (UInt64.ofNat (listSize getSize list))) := by
    refine (passes_regions positive list value).restores (fun reg _ => nonempty reg) ?_ []
    intro reg _ list size _
    refine (each reg).map ?_
    exact .pure
  refine (restoresIff_length fits).orFailBefore (looped.map ?_)
  show Restores (pure ([] ++ list, (UInt64.ofNat (listSize getSize list)).toNat)) [] _
  rw [value, List.nil_append]
  exact .pure

end Regions

def IdentifiedRegion.Restorable (reg : IdentifiedRegion) : Prop := reg.localRegion.Restorable

theorem restoresIff_identifiedRegion (reg : IdentifiedRegion) :
    ReadsIff (deserializeIdentifiedRegion limit) reg.serialize reg reg.getSize reg.Restorable := by
  refine .after (restores_byte reg.regionDictionary)
    (.after (restores_uint16 reg.regionIdentifier.toUInt16)
      ((restoresIff_intX reg.localRegion).map (fun _ => .pure ?_) ?_))
  · exact congrArg IdentifiedRegion.localRegion
  · exact .pure

theorem length_identifiedRegion {reg : IdentifiedRegion} (restorable : reg.Restorable) :
    reg.serialize.length = reg.getSize := by
  unfold IdentifiedRegion.serialize
  rw [List.length_cons, List.length_append, length_hton, length_intX restorable]
  unfold IdentifiedRegion.getSize
  omega

def GeographicRegion.Restorable : GeographicRegion → Prop
  | .none => True
  | .circle _ => True
  | .rectangles regions => listSize RectangularRegion.getSize regions < codingLimit
  | .polygon region => listSize TwoDLocation.getSize region < codingLimit
  | .identified region => region.Restorable

/-- A list behind its type is counted with the length of its size and the type byte, which is as long
as the one of its size if this is a multiple of eight. -/
theorem counted_eight {size : ℕ} (multiple : 8 ∣ size) :
    1 + size + lengthCodingSize (1 + size) = 1 + (size + lengthCodingSize size) := by
  rw [Nat.add_comm 1 size, lengthCodingSize_succ multiple]
  omega

theorem eight_dvd_listSize {α : Type} {getSize : α → ℕ} (eight : ∀ reg, 8 ∣ getSize reg)
    (list : List α) : 8 ∣ listSize getSize list := by
  induction list with
  | nil => exact Nat.dvd_zero 8
  | cons reg list ih =>
    rw [listSize_cons]
    exact Nat.dvd_add (eight reg) ih

theorem twoDLocation_nonempty (loc : TwoDLocation) : loc.serialize ≠ [] :=
  List.ne_nil_of_length_pos ((length_twoDLocation loc).symm ▸ Nat.succ_pos 7)

theorem rectangularRegion_nonempty (reg : RectangularRegion) : reg.serialize ≠ [] :=
  List.ne_nil_of_length_pos ((length_rectangularRegion reg).symm ▸ rectangularRegion_positive reg)

theorem restoresIff_geographicRegion {reg : GeographicRegion} (fits : reg.getSize < sizeLimit) :
    ReadsIff (deserializeGeographicRegion limit) reg.serialize reg reg.getSize reg.Restorable := by
  cases reg with
  | none => exact .after (restores_byte 0) (Restores.always .pure)
  | circle region =>
    refine .after (restores_byte 1) (Restores.always ((restores_circularRegion region).map ?_))
    exact .pure
  | rectangles regions =>
    have multiple : 8 ∣ listSize RectangularRegion.getSize regions :=
      eight_dvd_listSize (fun _ => ⟨2, rfl⟩) regions
    refine .after (restores_byte 2) ((restoresIff_regions (lt_of_tagged fits)
      rectangularRegion_positive rectangularRegion_nonempty restores_rectangularRegion).map
        (fun _ => .pure ?_) ?_)
    · exact GeographicRegion.rectangles.inj
    · rw [GeographicRegion.getSize, ← counted_eight multiple]
      exact .pure
  | polygon region =>
    have multiple : 8 ∣ listSize TwoDLocation.getSize region :=
      eight_dvd_listSize (fun _ => ⟨1, rfl⟩) region
    refine .after (restores_byte 3) ((restoresIff_regions (lt_of_tagged fits)
      (fun _ => Nat.succ_pos 7) twoDLocation_nonempty restores_twoDLocation).map
        (fun _ => .pure ?_) ?_)
    · exact GeographicRegion.polygon.inj
    · rw [GeographicRegion.getSize, ← counted_eight multiple]
      exact .pure
  | identified region =>
    refine .after (restores_byte 4) ((restoresIff_identifiedRegion region).map
      (fun _ => .pure ?_) .pure)
    exact GeographicRegion.identified.inj

theorem length_geographicRegion {reg : GeographicRegion} (restorable : reg.Restorable) :
    reg.serialize.length = reg.getSize := by
  cases reg with
  | none => rfl
  | circle region =>
    exact length_tagged (length_circularRegion region)
  | rectangles regions =>
    exact length_tagged (length_serializeList ⟨restorable, fun _ _ => trivial⟩
      fun reg _ _ => length_rectangularRegion reg)
  | polygon region =>
    exact length_tagged (length_serializeList ⟨restorable, fun _ _ => trivial⟩
      fun loc _ _ => length_twoDLocation loc)
  | identified region =>
    exact length_tagged (length_identifiedRegion restorable)

/-! ### Keys and signatures -/

theorem restores_eccPoint (point : EccPoint) : Restores deserializeEccPoint point.serialize point := by
  cases point with
  | xCoordinateOnly x => exact (restores_byte 0).bind ((Restores.octets x).map .pure)
  | compressedLsbY0 x => exact (restores_byte 2).bind ((Restores.octets x).map .pure)
  | compressedLsbY1 x => exact (restores_byte 3).bind ((Restores.octets x).map .pure)
  | uncompressed x y =>
    exact (restores_byte 4).bind ((Restores.octets x).bind ((Restores.octets y).map .pure))

theorem length_eccPoint (point : EccPoint) : point.serialize.length = point.getSize := by
  cases point
  all_goals
    simp only [EccPoint.serialize, EccPoint.getSize, List.length_cons, List.length_append]
    omega

theorem restores_publicKey (key : PublicKey) :
    Restores deserializePublicKey key.serialize (key, key.getSize) := by
  cases key with
  | ecdsaNistp256WithSha256 publicKey =>
    exact (restores_byte 0).bind ((restores_eccPoint publicKey).map .pure)
  | eciesNistp256 supportedSymmAlg publicKey =>
    exact (restores_byte 1).bind ((restores_byte supportedSymmAlg).bind
      ((restores_eccPoint publicKey).map .pure))

theorem length_publicKey (key : PublicKey) : key.serialize.length = key.getSize := by
  cases key
  all_goals
    simp only [PublicKey.serialize, PublicKey.getSize, List.length_cons, length_eccPoint]
    omega

theorem restores_signature (sig : Signature) :
    Restores deserializeSignature (Signature.serialize sig) (sig, Signature.getSize sig) := by
  have ecdsa : Restores deserializeEcdsaSignature (EcdsaSignature.serialize sig)
      (sig, EcdsaSignature.getSize sig) :=
    (restores_eccPoint sig.R).bind ((Restores.octets sig.s).map .pure)
  exact (restores_byte 0).bind (ecdsa.map .pure)

theorem length_signature (sig : Signature) :
    (Signature.serialize sig).length = Signature.getSize sig := by
  simp only [Signature.serialize, EcdsaSignature.serialize, Signature.getSize,
    EcdsaSignature.getSize, List.length_cons, List.length_append, length_eccPoint]
  omega

theorem restores_trailerField (field : TrailerField) :
    Restores deserializeTrailerField field.serialize (field, field.getSize) := by
  cases field with
  | signature sig => exact (restores_byte 1).bind ((restores_signature sig).map .pure)

theorem length_trailerField (field : TrailerField) : field.serialize.length = field.getSize := by
  cases field with
  | signature sig => exact length_tagged (length_signature sig)

/-! ### What certificates consist of -/

def SubjectInfo.Restorable (sub : SubjectInfo) : Prop := sub.subjectName.length < codingLimit

theorem restoresIff_subjectInfo {sub : SubjectInfo} (fits : sub.getSize < sizeLimit) :
    ReadsIff (deserializeSubjectInfo limit) sub.serialize sub sub.getSize sub.Restorable := by
  have named : sub.subjectName.length < sizeLimit := lt_of_buffered le_rfl fits
  have value : (UInt64.ofNat sub.subjectName.length).toNat = sub.subjectName.length :=
    UInt64.toNat_ofNat_of_lt' named
  exact .after (restores_byte sub.subjectType) ((restoresIff_length named).orFailBefore
    ((restores_octets value.symm).map .pure))

theorem length_subjectInfo {sub : SubjectInfo} (restorable : sub.Restorable) :
    sub.serialize.length = sub.getSize := by
  unfold SubjectInfo.serialize SubjectInfo.getSize
  rw [List.length_cons, length_serializeBuffer restorable]
  omega

def ItsAidSsp.Restorable (itsAidSsp : ItsAidSsp) : Prop :=
  itsAidSsp.itsAid.Restorable ∧ itsAidSsp.serviceSpecificPermissions.length < codingLimit

/-- A byte string that gets its size before its bytes are read. -/
theorem restoresIff_sizedBuffer {β : Type} {buffer : ByteBuffer} {T : β → Prop} {result : β}
    {next : (length : UInt64) → Octets length.toNat → Read β} (fits : buffer.length < sizeLimit)
    (second : ∀ same : buffer.length = (UInt64.ofNat buffer.length).toNat,
      Restores (next (UInt64.ofNat buffer.length) ⟨buffer, same⟩) [] result) :
    RestoresIff (deserializeLength limit >>= fun length => resize limit length.toNat >>= fun _ =>
      octets length.toNat >>= next length) (serializeBuffer buffer) result T
        (buffer.length < codingLimit) := by
  have value : buffer.length = (UInt64.ofNat buffer.length).toNat :=
    (UInt64.toNat_ofNat_of_lt' fits).symm
  have sized : RestoresIff (resize limit (UInt64.ofNat buffer.length).toNat >>= fun _ =>
      octets (UInt64.ofNat buffer.length).toNat >>= next (UInt64.ofNat buffer.length)) buffer result T
        True :=
    restoresIff_resize value.ge ((restores_octets value).map (second value)).always
  exact (restoresIff_length fits).orFailBefore (sized.restores trivial)

theorem restoresIff_itsAidSsp {itsAidSsp : ItsAidSsp} (fits : itsAidSsp.getSize < sizeLimit) :
    ReadsIff (deserializeItsAidSsp limit) itsAidSsp.serialize itsAidSsp itsAidSsp.getSize
      itsAidSsp.Restorable := by
  have permitted : itsAidSsp.serviceSpecificPermissions.length < sizeLimit := lt_of_buffered le_rfl fits
  have value := UInt64.toNat_ofNat_of_lt' permitted
  refine (restoresIff_intX itsAidSsp.itsAid).bind (fun _ => ?_)
    (restoresIff_sizedBuffer permitted fun same => ?_)
  · exact .bind fun _ => .bind fun _ => .bind fun _ => .pure (congrArg ItsAidSsp.itsAid)
  · show Restores (pure (itsAidSsp, itsAidSsp.itsAid.getSize + ((UInt64.ofNat _).toNat +
      lengthCodingSize (UInt64.ofNat _).toNat))) [] (itsAidSsp, itsAidSsp.getSize)
    rw [value, ← Nat.add_assoc]
    exact .pure

theorem length_itsAidSsp {itsAidSsp : ItsAidSsp} (restorable : itsAidSsp.Restorable) :
    itsAidSsp.serialize.length = itsAidSsp.getSize := by
  unfold ItsAidSsp.serialize ItsAidSsp.getSize
  rw [List.length_append, length_intX restorable.1, length_serializeBuffer restorable.2]
  omega

theorem intX_nonempty (intx : IntX) : intx.serialize ≠ [] := by
  by_cases small : intx.value.toNat < 2 ^ 56
  · obtain ⟨first, rest, encodes⟩ := encodes small
    rw [IntX.serialize, encodes.encoded]
    exact List.cons_ne_nil first rest
  · rw [IntX.serialize, encodeLength_large (Nat.le_of_not_lt small)]
    exact List.cons_ne_nil _ _

theorem itsAidSsp_nonempty (itsAidSsp : ItsAidSsp) : itsAidSsp.serialize ≠ [] :=
  List.append_ne_nil_of_left_ne_nil (intX_nonempty _) _

def SubjectAttribute.Restorable : SubjectAttribute → Prop
  | .verificationKey _ => True
  | .encryptionKey _ => True
  | .assurance _ => True
  | .itsAidList list => ListRestorable IntX.getSize IntX.Restorable list
  | .itsAidSspList list => ListRestorable ItsAidSsp.getSize ItsAidSsp.Restorable list

/-- A list behind its type. -/
theorem counted_tagged (size : ℕ) :
    1 + size + lengthCodingSize size = 1 + (size + lengthCodingSize size) := Nat.add_assoc _ _ _

theorem restoresIff_subjectAttribute {attr : SubjectAttribute} (fits : attr.getSize < sizeLimit) :
    ReadsIff (deserializeSubjectAttribute limit) attr.serialize attr attr.getSize attr.Restorable := by
  cases attr with
  | verificationKey key =>
    refine .after (restores_byte 0) (Restores.always ((restores_publicKey key).map ?_))
    exact .pure
  | encryptionKey key =>
    refine .after (restores_byte 1) (Restores.always ((restores_publicKey key).map ?_))
    exact .pure
  | assurance raw =>
    refine .after (restores_byte 2) (Restores.always ((restores_byte raw).map ?_))
    exact .pure
  | itsAidList list =>
    refine .after (restores_byte 32) ((restoresIff_list (lt_of_tagged fits) intX_nonempty intX_positive
      fun intx _ => restoresIff_intX intx).map (fun _ => .pure ?_) ?_)
    · exact SubjectAttribute.itsAidList.inj
    · rw [SubjectAttribute.getSize, ← counted_tagged]
      exact .pure
  | itsAidSspList list =>
    have each : ∀ itsAidSsp ∈ list, ReadsIff (deserializeItsAidSsp limit) itsAidSsp.serialize itsAidSsp
        itsAidSsp.getSize itsAidSsp.Restorable := by
      intro itsAidSsp member
      exact restoresIff_itsAidSsp ((size_le_listSize member).trans_lt (lt_of_tagged fits))
    refine .after (restores_byte 33) ((restoresIff_list (lt_of_tagged fits) itsAidSsp_nonempty
      itsAidSsp_positive each).map (fun _ => .pure ?_) ?_)
    · exact SubjectAttribute.itsAidSspList.inj
    · rw [SubjectAttribute.getSize, ← counted_tagged]
      exact .pure

theorem length_subjectAttribute {attr : SubjectAttribute} (restorable : attr.Restorable) :
    attr.serialize.length = attr.getSize := by
  cases attr with
  | verificationKey key => exact length_tagged (length_publicKey key)
  | encryptionKey key => exact length_tagged (length_publicKey key)
  | assurance raw => rfl
  | itsAidList list =>
    exact length_tagged (length_serializeList restorable fun _ _ => length_intX)
  | itsAidSspList list =>
    exact length_tagged (length_serializeList restorable fun _ _ => length_itsAidSsp)

def ValidityRestriction.Restorable : ValidityRestriction → Prop
  | .timeEnd _ => True
  | .timeStartAndEnd _ _ => True
  | .timeStartAndDuration _ _ => True
  | .region area => area.Restorable

theorem restoresIff_validityRestriction {restriction : ValidityRestriction}
    (fits : restriction.getSize < sizeLimit) :
    ReadsIff (deserializeValidityRestriction limit) restriction.serialize restriction
      restriction.getSize restriction.Restorable := by
  cases restriction with
  | timeEnd endValidity =>
    refine .after (restores_byte 0) (Restores.always ((restores_uint32 endValidity).map ?_))
    exact .pure
  | timeStartAndEnd startValidity endValidity =>
    refine .after (restores_byte 1) (Restores.always ((restores_uint32 startValidity).bind
      ((restores_uint32 endValidity).map ?_)))
    exact .pure
  | timeStartAndDuration startValidity duration =>
    refine .after (restores_byte 2) (Restores.always ((restores_uint32 startValidity).bind
      ((restores_uint16 duration.raw).map ?_)))
    exact .pure
  | region area =>
    have area_lt : area.getSize < sizeLimit := Nat.lt_of_le_of_lt (Nat.le_add_left _ 1) fits
    refine .after (restores_byte 3) ((restoresIff_geographicRegion area_lt).map
      (fun _ => .pure ?_) .pure)
    exact ValidityRestriction.region.inj

theorem length_validityRestriction {restriction : ValidityRestriction}
    (restorable : restriction.Restorable) : restriction.serialize.length = restriction.getSize := by
  cases restriction with
  | region area =>
    exact length_tagged (length_geographicRegion restorable)
  | _ => simp [ValidityRestriction.serialize, ValidityRestriction.getSize]

end Vanet.Security
