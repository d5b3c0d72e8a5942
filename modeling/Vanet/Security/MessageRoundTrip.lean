/-
**The round trip of messages.**

What is deserialised from the bytes of a message is the message, unless a number in it is too large for
the decoder or the surplus of certificate chains makes the header end too early: the loop over the
header fields stops as soon as it has counted the announced size, so it misses the last field if those
in front of it have as much surplus as this one has bytes.
-/

import Vanet.Security.CertificateRoundTrip

namespace Vanet.Security

open Vanet.Library Reader Read

variable {limit : ℕ}

/-! ### Header fields -/

def RecipientInfo.Restorable (info : RecipientInfo) : Prop :=
  match info.encKey with
  | .ecies _ _ _ => True
  | .opaqueKey data => data.length < codingLimit

theorem restoresIff_recipientInfo {info : RecipientInfo} (fits : info.getSize < sizeLimit) :
    ReadsIff (deserializeRecipientInfo limit .aes128Ccm) info.serialize info info.getSize
      info.Restorable := by
  obtain ⟨certId, encKey⟩ := info
  cases encKey with
  | ecies v c t =>
    have bytes : RecipientInfo.serialize ⟨certId, .ecies v c t⟩ =
        certId.1 ++ 1 :: (v.serialize ++ (c.1 ++ t.1)) := by
      simp only [RecipientInfo.serialize, List.append_assoc]
    rw [bytes]
    refine .after (Restores.octets certId) (.after (restores_byte 1) (Restores.always
      ((restores_eccPoint v).bind ((Restores.octets c).bind ((Restores.octets t).map ?_)))))
    exact .pure
  | opaqueKey data =>
    have dataFits : data.length < sizeLimit := by
      unfold RecipientInfo.getSize at fits
      dsimp only at fits
      omega
    refine .after (Restores.octets certId) (.after (restores_byte 0)
      (restoresIff_sizedBuffer dataFits fun same => ?_))
    exact .pure

theorem length_recipientInfo {info : RecipientInfo} (restorable : info.Restorable) :
    info.serialize.length = info.getSize := by
  obtain ⟨certId, encKey⟩ := info
  cases encKey with
  | ecies v c t =>
    simp only [RecipientInfo.serialize, RecipientInfo.getSize, List.length_append, List.length_cons,
      length_eccPoint]
    omega
  | opaqueKey data =>
    have buffered := length_serializeBuffer restorable
    simp only [RecipientInfo.serialize, RecipientInfo.getSize, List.length_append, List.length_cons,
      buffered]
    omega

theorem recipientInfo_nonempty (info : RecipientInfo) : info.serialize ≠ [] := by
  have some : info.certId.1 ≠ [] :=
    List.ne_nil_of_length_pos (by rw [info.certId.2]; exact Nat.succ_pos 7)
  exact List.append_ne_nil_of_left_ne_nil some _

/-- The size of the ids in a list. -/
abbrev idsSize (ids : List HashedId3) : ℕ := listSize (fun id : HashedId3 => id.1.length) ids

theorem passes_hashedIds (length : ℕ) (ids : List HashedId3) : ∀ {count : ℕ},
    count + idsSize ids = length → Passes (fun count => decide (count < length))
      (fun count _ => count + 3) (fun _ (_ : HashedId3) => True) count ids := by
  induction ids with
  | nil =>
    rintro count rfl
    exact decide_eq_false (Nat.lt_irrefl count)
  | cons id ids ih =>
    intro count counted
    rw [idsSize, listSize_cons, id.2] at counted
    refine ⟨decide_eq_true (by omega), trivial, ih ?_⟩
    show count + 3 + listSize (fun id : HashedId3 => id.1.length) ids = length
    omega

theorem restores_hashedIdLoop {ids : List HashedId3} {length : UInt64}
    (announced : length.toNat = idsSize ids) :
    Restores (hashedIdLoop length) (ids.flatMap fun id => id.1) (ids, length.toNat) := by
  have looped : Restores (loop (fun state => decide (state.2 < length.toNat))
      (fun state => do
        let id ← octets 3
        pure (state.1 ++ [id], state.2 + 3))
      (([], 0) : List HashedId3 × ℕ)) (ids.flatMap fun id => id.1)
      ([] ++ ids, ids.foldl (fun count _ => count + 3) 0) := by
    have passes := passes_hashedIds length.toNat ids (by omega : 0 + idsSize ids = length.toNat)
    refine passes.restores (fun id _ => ?_) ?_ []
    · exact List.ne_nil_of_length_pos (by rw [id.2]; exact Nat.succ_pos 2)
    · intro id _ list count _
      refine (Restores.octets id).map ?_
      exact .pure
  exact Restores.note.bind (looped.map .pure)

def HeaderField.surplus : HeaderField → ℕ
  | .signerInfo info => signerInfoSurplus info
  | _ => 0

def HeaderField.Restorable : HeaderField → Prop
  | .requestUnrecognizedCertificate ids => idsSize ids < codingLimit
  | .itsAid aid => aid.Restorable
  | .signerInfo info => signerInfoRestorable info
  | .recipientInfo recipients => ListRestorable RecipientInfo.getSize RecipientInfo.Restorable recipients
  | _ => True

/-- The symmetric algorithm that is known behind a header field. -/
def HeaderField.algorithm (symAlgo : Option SymmetricAlgorithm) : HeaderField → Option SymmetricAlgorithm
  | .encryptionParameters _ => some .aes128Ccm
  | _ => symAlgo

/-- Recipients can only be read where the symmetric algorithm is known. -/
def HeaderField.Known (symAlgo : Option SymmetricAlgorithm) : HeaderField → Prop
  | .recipientInfo _ => symAlgo ≠ none
  | _ => True

theorem restoresIff_headerField {symAlgo : Option SymmetricAlgorithm} {field : HeaderField}
    (known : field.Known symAlgo) (fits : field.getSize < sizeLimit) :
    RestoresIff (deserializeHeaderField limit symAlgo) field.serialize
      (field, field.getSize + field.surplus, field.algorithm symAlgo)
      (fun result => result.1 = field) field.Restorable := by
  cases field with
  | generationTime time =>
    refine .after (restores_byte 0) (Restores.always ((restores_uint64 time).map ?_))
    exact .pure
  | generationTimeConfidence time =>
    refine .after (restores_byte 1) (Restores.always ((restores_uint64 time.time64).bind
      ((restores_byte time.logStdDev).map ?_)))
    exact .pure
  | expiration time =>
    refine .after (restores_byte 2) (Restores.always ((restores_uint32 time).map ?_))
    exact .pure
  | generationLocation location =>
    refine .after (restores_byte 3) (Restores.always ((restores_threeDLocation location).map ?_))
    exact .pure
  | requestUnrecognizedCertificate ids =>
    have idsFit : idsSize ids < sizeLimit := lt_of_tagged fits
    have value : (UInt64.ofNat (idsSize ids)).toNat = idsSize ids := UInt64.toNat_ofNat_of_lt' idsFit
    refine .after (restores_byte 4) ((restoresIff_length idsFit).orFailBefore
      ((restores_hashedIdLoop value).map ?_))
    rw [value, HeaderField.getSize, ← counted_tagged]
    exact .pure
  | itsAid aid =>
    refine .after (restores_byte 5) ((restoresIff_intX aid).map (fun _ => .pure ?_) .pure)
    exact HeaderField.itsAid.inj
  | signerInfo info =>
    have infoFits : signerInfoSize info < sizeLimit := Nat.lt_of_le_of_lt (Nat.le_add_left _ 1) fits
    have read : ReadsIff (deserializeSignerInfo limit) (serializeSignerInfo info) info
        (signerInfoSize info + signerInfoSurplus info) (signerInfoRestorable info) :=
      restoresIff_signerInfo (fun cert _ certFits => restoresIff_certificate certFits) le_rfl infoFits
    refine .after (restores_byte 128) (read.map (fun _ => .pure ?_) ?_)
    · exact HeaderField.signerInfo.inj
    · rw [HeaderField.getSize, Nat.add_assoc]
      exact .pure
  | encryptionParameters param =>
    have returned : EncryptionParameter.getSize param = 1 + 12 := by
      rw [EncryptionParameter.getSize, param.2]
    have read : Restores deserializeEncryptionParameter (0 :: param.1)
        (param, EncryptionParameter.getSize param) :=
      (restores_byte 0).bind ((Restores.octets param).map .pure)
    refine .after (restores_byte 129) (Restores.always (read.map ?_))
    exact .pure
  | recipientInfo recipients =>
    have each : ∀ info ∈ recipients, ReadsIff (deserializeRecipientInfo limit .aes128Ccm)
        info.serialize info info.getSize info.Restorable := by
      intro info member
      exact restoresIff_recipientInfo ((size_le_listSize member).trans_lt (lt_of_tagged fits))
    cases symAlgo with
    | none => exact absurd rfl known
    | some algo =>
      cases algo
      refine .after (restores_byte 130) ((restoresIff_list (lt_of_tagged fits) recipientInfo_nonempty
        recipientInfo_positive each).map (fun _ => .pure ?_) ?_)
      · exact HeaderField.recipientInfo.inj
      · rw [HeaderField.getSize, ← counted_tagged]
        exact .pure

/-- Recipients of an unknown algorithm are rejected. -/
theorem misses_headerField {symAlgo : Option SymmetricAlgorithm} {field : HeaderField}
    (unknown : ¬ field.Known symAlgo) :
    Misses (deserializeHeaderField limit symAlgo) field.serialize fun result => result.1 = field := by
  cases field with
  | recipientInfo recipients =>
    obtain rfl : symAlgo = none := not_not.mp unknown
    intro rest notes result after returned
    obtain ⟨type, mid, ran, returned⟩ := bind_ok.mp returned
    cases ran
    cases fail_ok.mp returned
  | _ => exact absurd trivial unknown

theorem length_headerField {field : HeaderField} (restorable : field.Restorable) :
    field.serialize.length = field.getSize := by
  cases field with
  | generationLocation location =>
    exact length_tagged (length_threeDLocation location)
  | requestUnrecognizedCertificate ids =>
    exact length_tagged (length_serializeList ⟨restorable, fun _ _ => trivial⟩
      fun _ _ _ => rfl)
  | itsAid aid => exact length_tagged (length_intX restorable)
  | signerInfo info =>
    exact length_tagged (length_signerInfo restorable)
  | encryptionParameters param =>
    simp only [HeaderField.serialize, HeaderField.getSize, EncryptionParameter.getSize,
      List.length_cons]
    omega
  | recipientInfo recipients =>
    exact length_tagged (length_serializeList restorable fun _ _ => length_recipientInfo)
  | _ => simp [HeaderField.serialize, HeaderField.getSize]

theorem headerField_nonempty (field : HeaderField) : field.serialize ≠ [] := by
  cases field <;> exact List.cons_ne_nil _ _

/-- **The header is counted up to its last field**: the surplus of the fields in front of it is less
than its size. -/
def HeaderCounted (fields : List HeaderField) : Prop :=
  ∀ front last, fields = front ++ [last] → listSize HeaderField.surplus front < last.getSize

/-- Encryption parameters stand in front of recipients. -/
def ParametersFirst (fields : List HeaderField) : Prop :=
  ∀ front recipients behind, fields = front ++ .recipientInfo recipients :: behind →
    ∃ param, .encryptionParameters param ∈ front

theorem HeaderField.algorithm_known {symAlgo : Option SymmetricAlgorithm} {field : HeaderField}
    (known : symAlgo ≠ none) : field.algorithm symAlgo ≠ none := by
  cases field with
  | encryptionParameters param => exact Option.some_ne_none _
  | _ => exact known

/-- How far the loop over the header fields has counted, and the algorithm known there. -/
def HeaderField.advance (count : ℕ × Option SymmetricAlgorithm) (field : HeaderField) :
    ℕ × Option SymmetricAlgorithm :=
  (count.1 + (field.getSize + field.surplus), field.algorithm count.2)

/-- The loop passes the fields that are left if it has not counted too much when it comes to the last
one. -/
theorem passes_header_iff (size : ℕ) (fields : List HeaderField) :
    ∀ {count : ℕ × Option SymmetricAlgorithm} {excess : ℕ},
      count.1 + listSize HeaderField.getSize fields = size + excess →
      (∀ front recipients behind, fields = front ++ .recipientInfo recipients :: behind →
        count.2 ≠ none ∨ ∃ param, .encryptionParameters param ∈ front) →
      (Passes (fun count => decide (count.1 < size)) HeaderField.advance
          (fun count field => field.Known count.2 ∧ field.Restorable) count fields ↔
        (∀ field ∈ fields, field.Restorable) ∧ ∀ front last, fields = front ++ [last] →
          excess + listSize HeaderField.surplus front < last.getSize) := by
  induction fields with
  | nil =>
    intro count excess counted _
    refine iff_of_true (decide_eq_false ?_) ⟨fun _ member => absurd member List.not_mem_nil, ?_⟩
    · rw [listSize_nil] at counted
      omega
    · intro front last split
      exact absurd split (List.append_ne_nil_of_right_ne_nil _ (List.cons_ne_nil _ _)).symm
  | cons field rest ih =>
    intro count excess counted known
    rw [listSize_cons] at counted
    have knownHere : field.Known count.2 := by
      cases field with
      | recipientInfo recipients =>
        rcases known [] recipients rest rfl with some | ⟨_, impossible⟩
        · exact some
        · exact absurd impossible List.not_mem_nil
      | _ => trivial
    have countedNext : (HeaderField.advance count field).1 + listSize HeaderField.getSize rest =
        size + (excess + field.surplus) := by
      show count.1 + (field.getSize + field.surplus) + _ = _
      omega
    have next := ih countedNext fun front recipients behind split => by
      rcases known (field :: front) recipients behind (congrArg (field :: ·) split) with
        some | ⟨param, member⟩
      · exact .inl (HeaderField.algorithm_known some)
      · rcases List.mem_cons.mp member with rfl | later
        · exact .inl (Option.some_ne_none _)
        · exact .inr ⟨param, later⟩
    constructor
    · rintro ⟨go, ⟨_, restorable⟩, passes⟩
      have going : count.1 < size := of_decide_eq_true go
      obtain ⟨restorables, atLast⟩ := next.mp passes
      refine ⟨List.forall_mem_cons.mpr ⟨restorable, restorables⟩, ?_⟩
      intro front last split
      cases front with
      | nil =>
        cases split
        rw [listSize_nil] at counted ⊢
        omega
      | cons first front =>
        obtain ⟨rfl, inside⟩ := List.cons.inj split
        have less := atLast front last inside
        rw [listSize_cons]
        omega
    · rintro ⟨restorables, atLast⟩
      obtain ⟨restorable, restorables⟩ := List.forall_mem_cons.mp restorables
      refine ⟨decide_eq_true ?_, ⟨knownHere, restorable⟩, next.mpr ⟨restorables, ?_⟩⟩
      · rcases List.eq_nil_or_concat' rest with rfl | ⟨front, last, rfl⟩
        · have less := atLast [] field rfl
          rw [listSize_nil] at counted less
          omega
        · have less := atLast (field :: front) last rfl
          rw [listSize_cons] at less
          rw [listSize_concat] at counted
          omega
      · intro front last split
        have less := atLast (field :: front) last (congrArg (field :: ·) split)
        rw [listSize_cons] at less
        omega

theorem restoresIff_headerLoop {fields : List HeaderField} {size : UInt64}
    (announced : size.toNat = listSize HeaderField.getSize fields)
    (fits : listSize HeaderField.getSize fields < sizeLimit) (ordered : ParametersFirst fields) :
    ReadsIff (headerLoop limit size) (fields.flatMap HeaderField.serialize) fields size.toNat
      ((∀ field ∈ fields, field.Restorable) ∧ HeaderCounted fields) := by
  have looped : RestoresIff (loop (fun state => decide (state.2.1 < size.toNat))
      (fun state => do
        let read ← deserializeHeaderField limit state.2.2
        pure (state.1 ++ [read.1], state.2.1 + read.2.1, read.2.2))
      (([], 0, none) : List HeaderField × ℕ × Option SymmetricAlgorithm))
      (fields.flatMap HeaderField.serialize) (fields, fields.foldl HeaderField.advance (0, none))
      (fun last => last.1 = fields)
      (Passes (fun count => decide (count.1 < size.toNat)) HeaderField.advance
        (fun count field => field.Known count.2 ∧ field.Restorable) (0, none) fields) := by
    refine RestoresIff.loop (fun count => decide (count.1 < size.toNat))
      (fun field _ => headerField_nonempty field) ?_ ?_ (0, none)
    · rintro ⟨list, read, symAlgo⟩
      exact .bind fun read => .pure ⟨read.1, rfl⟩
    · rintro field member list ⟨read, symAlgo⟩
      have read : RestoresIff (deserializeHeaderField limit symAlgo) field.serialize
          (field, field.getSize + field.surplus, field.algorithm symAlgo)
          (fun result => result.1 = field) (field.Known symAlgo ∧ field.Restorable) := by
        by_cases known : field.Known symAlgo
        · exact (restoresIff_headerField known ((size_le_listSize member).trans_lt fits)).congr
            (and_iff_right known).symm
        · exact ⟨fun holds => absurd holds.1 known, fun _ => misses_headerField known⟩
      refine read.map (fun _ => .pure fun same => ?_) .pure
      exact List.singleton_inj.mp (List.append_cancel_left same)
  have counted : 0 + listSize HeaderField.getSize fields = size.toNat + 0 := by omega
  have passes := @passes_header_iff size.toNat fields (0, none) 0 counted
    fun front recipients behind split => .inr (ordered front recipients behind split)
  refine .congr (looped.map (fun _ => ?_) ?_) (passes.trans (and_congr_right fun _ => ?_))
  · exact .bind fun _ => .pure id
  · exact Restores.note.map .pure
  · simp only [Nat.zero_add]
    rfl

theorem restoresIff_headerFields {fields : List HeaderField}
    (fits : listSize HeaderField.getSize fields < sizeLimit) (ordered : ParametersFirst fields) :
    ReadsIff (deserializeHeaderFields limit)
      (serializeList HeaderField.getSize HeaderField.serialize fields) fields
      (listSize HeaderField.getSize fields)
      (ListRestorable HeaderField.getSize HeaderField.Restorable fields ∧ HeaderCounted fields) := by
  have value : (UInt64.ofNat (listSize HeaderField.getSize fields)).toNat =
      listSize HeaderField.getSize fields := UInt64.toNat_ofNat_of_lt' fits
  have looped := @restoresIff_headerLoop limit _ _ value fits ordered
  rw [value] at looped
  exact ((restoresIff_length fits).orFail looped).congr and_assoc.symm

/-! ### Messages -/

theorem restoresIff_payload {payload : Payload} (fits : payload.getSize < sizeLimit) :
    ReadsIff (deserializePayload limit) payload.serialize payload payload.getSize
      (payload.data.length < codingLimit) := by
  have dataFits : payload.data.length < sizeLimit := lt_of_buffered le_rfl fits
  have value := UInt64.toNat_ofNat_of_lt' dataFits
  have returned : 1 + lengthCodingSize payload.data.length + payload.data.length = payload.getSize := by
    unfold Payload.getSize
    omega
  refine .after (restores_byte payload.type) (restoresIff_sizedBuffer dataFits fun same => ?_)
  show Restores (pure (payload, 1 + lengthCodingSize (UInt64.ofNat payload.data.length).toNat +
    (UInt64.ofNat payload.data.length).toNat)) [] (payload, payload.getSize)
  rw [value, returned]
  exact .pure

theorem trailerField_positive (field : TrailerField) : 0 < field.getSize := by
  cases field
  exact Nat.add_pos_left Nat.one_pos _

theorem trailerField_nonempty (field : TrailerField) : field.serialize ≠ [] := by
  cases field
  exact List.cons_ne_nil _ _

/-- **A message that is restored**: its numbers are small enough, and its header is counted up to the
last field. -/
structure SecuredMessage.Restorable (message : SecuredMessage) : Prop where
  header : ListRestorable HeaderField.getSize HeaderField.Restorable message.headerFields
  counted : HeaderCounted message.headerFields
  payload : message.payload.data.length < codingLimit
  trailer : listSize TrailerField.getSize message.trailerFields < codingLimit

theorem restoresIff_message {message : SecuredMessage} (fits : message.getSize < sizeLimit)
    (ordered : ParametersFirst message.headerFields) :
    ReadsIff (deserializeSecuredMessage limit) message.serialize message message.getSize
      message.Restorable := by
  obtain ⟨headerFields, payload, trailerFields⟩ := message
  unfold SecuredMessage.getSize at fits
  dsimp only at fits
  have headerFits : listSize HeaderField.getSize headerFields < sizeLimit := by omega
  have trailers : ∀ field ∈ trailerFields, ReadsIff deserializeTrailerField field.serialize field
      field.getSize True := fun field _ => (restores_trailerField field).always
  have bytes : (SecuredMessage.mk headerFields payload trailerFields).serialize =
      2 :: (serializeList HeaderField.getSize HeaderField.serialize headerFields ++
        (payload.serialize ++
          serializeList TrailerField.getSize TrailerField.serialize trailerFields)) := by
    unfold SecuredMessage.serialize
    rw [List.append_assoc]
  rw [bytes]
  refine .congr (.after (restores_byte 2) ((restoresIff_headerFields headerFits ordered).bind
    (fun _ => ?_) ((restoresIff_payload (by omega)).bind (fun _ => ?_)
      ((restoresIff_list (by omega) trailerField_nonempty trailerField_positive trailers).map
        (fun _ => .pure ?_) ?_)))) ?_
  · exact .bind fun _ => .bind fun _ => .pure (congrArg SecuredMessage.headerFields)
  · exact .bind fun _ => .pure (congrArg SecuredMessage.payload)
  · exact congrArg SecuredMessage.trailerFields
  · have returned : 1 + (listSize HeaderField.getSize headerFields +
        lengthCodingSize (listSize HeaderField.getSize headerFields)) + payload.getSize +
      (listSize TrailerField.getSize trailerFields +
        lengthCodingSize (listSize TrailerField.getSize trailerFields)) =
          (SecuredMessage.mk headerFields payload trailerFields).getSize := by
      unfold SecuredMessage.getSize
      dsimp only
      omega
    rw [← returned]
    exact .pure
  · constructor
    · rintro ⟨⟨header, counted⟩, payloadSmall, trailerSmall, _⟩
      exact ⟨header, counted, payloadSmall, trailerSmall⟩
    · rintro ⟨header, counted, payloadSmall, trailerSmall⟩
      exact ⟨⟨header, counted⟩, payloadSmall, trailerSmall, fun _ _ => trivial⟩

theorem length_message {message : SecuredMessage} (restorable : message.Restorable) :
    message.serialize.length = message.getSize := by
  obtain ⟨header, _, payloadSmall, trailerSmall⟩ := restorable
  unfold SecuredMessage.serialize SecuredMessage.getSize Payload.serialize Payload.getSize
  simp only [List.length_cons, List.length_append, length_serializeBuffer payloadSmall,
    length_serializeList header fun _ _ => length_headerField,
    length_serializeList ⟨trailerSmall, fun _ _ => trivial⟩ fun field _ _ => length_trailerField field]
  omega

/-- **The round trip**: the value is read from its bytes, whatever follows them, these bytes are taken,
and as many as its size are written and returned. -/
def RoundTrip {α : Type} (read : Read (α × ℕ)) (bytes : ByteBuffer) (value : α) (size : ℕ) : Prop :=
  Restores read bytes (value, size) ∧ bytes.length = size

theorem ReadsIff.roundTrip_iff {α : Type} {read : Read (α × ℕ)} {bytes : ByteBuffer} {value : α}
    {size surplus : ℕ} {P : Prop} (decides : ReadsIff read bytes value (size + surplus) P)
    (length : P → bytes.length = size) :
    RoundTrip read bytes value size ↔ P ∧ surplus = 0 := by
  constructor
  · rintro ⟨restores, _⟩
    obtain ⟨taken, ran⟩ := restores [] []
    have holds : P := by
      by_contra fails
      exact decides.misses fails _ _ _ _ ran rfl
    obtain ⟨_, ran'⟩ := decides.restores holds [] []
    have same := (Prod.mk.inj (Except.ok.inj (Prod.mk.inj (ran.symm.trans ran')).1)).2
    exact ⟨holds, by omega⟩
  · rintro ⟨holds, rfl⟩
    exact ⟨decides.restores holds, length holds⟩

/-- **The round trip goes wrong in two ways, and only in these**: a number from `codingLimit` on is
written but not read, and a certificate chain may be counted with one byte too many. Of messages, the
sizes are those that fit into a `size_t`, and encryption parameters stand in front of recipients. -/
theorem round_trip_exactly (limit : ℕ) :
    (∀ message : SecuredMessage, message.getSize < sizeLimit → ParametersFirst message.headerFields →
      (RoundTrip (deserializeSecuredMessage limit) message.serialize message message.getSize ↔
        message.Restorable)) ∧
    ∀ cert : Certificate, cert.getSize < sizeLimit →
      (RoundTrip (deserializeCertificate limit) cert.serialize cert cert.getSize ↔
        cert.Restorable ∧ cert.surplus = 0) := by
  constructor
  · intro message fits ordered
    have decides : ReadsIff (deserializeSecuredMessage limit) message.serialize message
        (message.getSize + 0) message.Restorable := restoresIff_message fits ordered
    exact (decides.roundTrip_iff length_message).trans (and_iff_left rfl)
  · intro cert fits
    exact (restoresIff_certificate fits).roundTrip_iff length_certificate

theorem headerCounted_of_none {fields : List HeaderField} (none : ∀ field ∈ fields, field.surplus = 0) :
    HeaderCounted fields := by
  rintro front last rfl
  have nothing : listSize HeaderField.surplus front = 0 :=
    listSize_eq_zero.mpr fun field member => none field (List.mem_append_left _ member)
  rw [nothing]
  exact headerField_positive last

theorem parametersFirst_behind {ahead behind : List HeaderField} {param : EncryptionParameter}
    (none : ∀ recipients, .recipientInfo recipients ∉ ahead) :
    ParametersFirst (ahead ++ .encryptionParameters param :: behind) := by
  intro front recipients rest split
  rcases List.append_eq_append_iff.mp split with ⟨between, rfl, follow⟩ | ⟨between, rfl, follow⟩
  · cases between with
    | nil => cases follow
    | cons field between =>
      obtain ⟨rfl, _⟩ := List.cons.inj follow
      exact ⟨param, List.mem_append_right _ List.mem_cons_self⟩
  · cases between with
    | nil => cases follow
    | cons field between =>
      obtain ⟨rfl, _⟩ := List.cons.inj follow
      exact absurd (List.mem_append_right _ List.mem_cons_self) (none recipients)

theorem parametersFirst_of_none {fields : List HeaderField}
    (none : ∀ recipients, .recipientInfo recipients ∉ fields) : ParametersFirst fields := by
  rintro front recipients behind rfl
  exact absurd (List.mem_append_right _ List.mem_cons_self) (none recipients)

/-- An encrypted message of a signer with a chain. -/
def encryptedMessage : SecuredMessage :=
  ⟨[.signerInfo (.certificateChain [timedCertificate 1]), .generationTime 5,
    .encryptionParameters ⟨List.replicate 12 0, rfl⟩,
    .recipientInfo [⟨⟨List.replicate 8 1, rfl⟩, .opaqueKey [3, 4]⟩], .itsAid ⟨300⟩],
    ⟨4, [7, 8]⟩, [.signature (repeatedSignature 1)]⟩

theorem timedCertificate_restorable : (timedCertificate 1).Restorable := by
  refine ⟨trivial, (by decide +kernel : [(9 : UInt8)].length < codingLimit),
    ⟨by decide +kernel, ?_⟩, by decide +kernel, ?_⟩
  · intro attr member
    rw [List.mem_singleton.mp member]
    trivial
  · intro restriction member
    rw [List.mem_singleton.mp member]
    trivial

theorem encryptedMessage_restorable : encryptedMessage.Restorable := by
  refine ⟨⟨by decide +kernel, ?_⟩, headerCounted_of_none ?_, by decide +kernel, by decide +kernel⟩
  · simp only [encryptedMessage, List.forall_mem_cons]
    refine ⟨⟨by decide +kernel, ⟨timedCertificate_restorable, rfl⟩, trivial⟩, trivial, trivial,
      ⟨by decide +kernel, ?_⟩, (by decide +kernel : (300 : UInt64).toNat < codingLimit), by simp⟩
    intro info member
    rw [List.mem_singleton.mp member]
    exact (by decide +kernel : [(3 : UInt8), 4].length < codingLimit)
  · simp only [encryptedMessage, List.forall_mem_cons]
    exact ⟨by decide +kernel, rfl, rfl, rfl, rfl, by simp⟩

theorem round_trip_exactly_encrypted :
    RoundTrip (deserializeSecuredMessage 0) encryptedMessage.serialize encryptedMessage
        encryptedMessage.getSize ∧
      RoundTrip (deserializeCertificate 0) (timedCertificate 1).serialize (timedCertificate 1)
        (timedCertificate 1).getSize := by
  have ordered : ParametersFirst encryptedMessage.headerFields :=
    @parametersFirst_behind [_, _] _ _ (by simp)
  exact ⟨((round_trip_exactly 0).1 encryptedMessage (by decide +kernel) ordered).mpr
      encryptedMessage_restorable,
    ((round_trip_exactly 0).2 (timedCertificate 1) (by decide +kernel)).mpr
      ⟨timedCertificate_restorable, rfl⟩⟩

/-- An application id that is too large. -/
def wideMessage : SecuredMessage := ⟨[.itsAid ⟨0x100000000000000⟩], ⟨0, []⟩, []⟩

/-- A certificate of 127 bytes. -/
def fullCertificate : Certificate :=
  .mk .self ⟨SubjectType.rootCa, List.replicate 55 0⟩ [] [] (repeatedSignature 0)

/-- A chain of one certificate, the signer of which is a chain of 127 bytes. -/
def chainedMessage : SecuredMessage :=
  ⟨[.signerInfo (.certificateChain [.mk (.certificateChain [fullCertificate])
    ⟨SubjectType.authorizationAuthority, []⟩ [] [] (repeatedSignature 0)])], ⟨0, []⟩, []⟩

theorem not_roundTrip_of_fault {α : Type} {read : Read (α × ℕ)} {bytes : ByteBuffer} {value : α}
    {size : ℕ} {fault : Fault} (failed : ending (read (untouched (bytes ++ []))).1 = some fault) :
    ¬ RoundTrip read bytes value size := by
  rintro ⟨restores, _⟩
  obtain ⟨taken, ran⟩ := restores [] []
  rw [untouched, ran] at failed
  cases failed

/-- Both messages fail an assertion when they are read again. -/
theorem round_trip_asserted :
    (wideMessage.getSize < sizeLimit ∧ ParametersFirst wideMessage.headerFields ∧
      ¬ RoundTrip (deserializeSecuredMessage 0) wideMessage.serialize wideMessage
        wideMessage.getSize) ∧
    (chainedMessage.getSize < sizeLimit ∧ ParametersFirst chainedMessage.headerFields ∧
      ¬ RoundTrip (deserializeSecuredMessage 0) chainedMessage.serialize chainedMessage
        chainedMessage.getSize) := by
  refine ⟨⟨by decide +kernel, ?_, ?_⟩, by decide +kernel, ?_, ?_⟩
  · exact parametersFirst_of_none (by simp [wideMessage])
  · exact not_roundTrip_of_fault (by decide +kernel :
      ending (deserializeSecuredMessage 0 (untouched (wideMessage.serialize ++ []))).1 =
        some .assertion)
  · exact parametersFirst_of_none (by simp [chainedMessage])
  · exact not_roundTrip_of_fault (by decide +kernel :
      ending (deserializeSecuredMessage 0 (untouched (chainedMessage.serialize ++ []))).1 =
        some .assertion)

end Vanet.Security
