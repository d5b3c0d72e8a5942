/-
**What hostile input does to the deserialisers.**

An assertion fails at a length field whose first byte is `0xff` and where the elements of a list
overrun the announced end; buffers are sized by announced lengths before their bytes are read. These
are the only ways: `parseSecured_contained_iff` holds of every input and every allocation limit. In
particular no loop and no recursion runs out of its bound.

The proof is the conduct `safety`. The deserialisers keep every conduct that is `Tolerant`, which is
derived for one after the other. What they meet on the way is then read off the bytes: it is what the
wire format has at the sites of the message.
-/

import Vanet.Security.WireSites

set_option linter.unusedSectionVars false

namespace Vanet.Security

open Vanet.Library Vanet.Library.Reader

/-- **What the deserialisers can cope with.** -/
def Note.Benign : Note → Prop
  | .length first _ => first ≠ 0xff
  | .request count left => count ≤ left
  | .list remainder => remainder = 0
  | _ => True

instance (entry : Note) : Decidable entry.Benign := by
  cases entry <;> unfold Note.Benign <;> infer_instance

/-- The notes of an assertion that fails. -/
def Note.Fails : Note → Prop
  | .length first _ => first = 0xff
  | .list remainder => remainder ≠ 0
  | _ => False

theorem Note.Fails.not_benign {entry : Note} (fails : entry.Fails) : ¬ entry.Benign := by
  cases entry with
  | length first value => exact not_not_intro fails
  | list remainder => exact fails
  | request count left => exact fails.elim
  | hashedIds announced => exact fails.elim
  | header announced read => exact fails.elim
  | chain announced => exact fails.elim

/-- The exceptions that `parse_secured` catches. -/
def Fault.Caught : Fault → Prop
  | .incomplete => True
  | .deserializationError _ => True
  | _ => False

/-- The ending is one that `parse_secured` has no answer to. -/
def Fatal (how : Option Fault) : Prop := ∃ fault, how = some fault ∧ ¬ fault.Caught

theorem not_fatal_none : ¬ Fatal none := nofun

theorem not_fatal_of_caught {fault : Fault} (caught : fault.Caught) : ¬ Fatal (some fault) := by
  rintro ⟨_, same, uncaught⟩
  cases same
  exact uncaught caught

/-- **The conduct of the deserialisers**: a fatal ending has a cause among the notes, and a failing
assertion a fatal ending. -/
structure Safe (before : Tape Note) (how : Option Fault) (after : Tape Note) : Prop where
  shrinks : after.left ≤ before.left
  met : ∃ met, after.notes = before.notes ++ met ∧
    (Fatal how → ∃ entry ∈ met, ¬ entry.Benign) ∧ ((∃ entry ∈ met, entry.Fails) → Fatal how)

/-- A tape with no new notes, after an ending that is not fatal. -/
theorem Safe.silent {before after : Tape Note} {how : Option Fault}
    (shrinks : after.left ≤ before.left) (same : after.notes = before.notes)
    (mild : ¬ Fatal how) : Safe before how after :=
  ⟨shrinks, [], by rw [same, List.append_nil], fun fatal => absurd fatal mild, nofun⟩

theorem Safe.trans {before mid after : Tape Note} {how : Option Fault}
    (first : Safe before none mid) (second : Safe mid how after) : Safe before how after := by
  obtain ⟨early, earlyNotes, _, earlyFails⟩ := first.met
  obtain ⟨late, lateNotes, lateFatal, lateFails⟩ := second.met
  refine ⟨le_trans second.shrinks first.shrinks, early ++ late, ?_, ?_, ?_⟩
  · rw [lateNotes, earlyNotes, List.append_assoc]
  · intro fatal
    obtain ⟨entry, member, hostile⟩ := lateFatal fatal
    exact ⟨entry, List.mem_append_right early member, hostile⟩
  · rintro ⟨entry, member, fails⟩
    rcases List.mem_append.mp member with inEarly | inLate
    · exact absurd (earlyFails ⟨entry, inEarly, fails⟩) not_fatal_none
    · exact lateFails ⟨entry, inLate, fails⟩

theorem Safe.goes {entry : Note} (harmless : ¬ entry.Fails) (tape : Tape Note) :
    Safe tape none (tape.note entry) := by
  refine ⟨le_refl _, [entry], rfl, fun fatal => absurd fatal not_fatal_none, ?_⟩
  rintro ⟨_, member, fails⟩
  rw [List.mem_singleton.mp member] at fails
  exact absurd fails harmless

theorem Safe.stops {entry : Note} {fault : Fault} (uncaught : ¬ fault.Caught)
    (hostile : ¬ entry.Benign) (tape : Tape Note) : Safe tape (some fault) (tape.note entry) :=
  ⟨le_refl _, [entry], rfl, fun _ => ⟨entry, List.mem_singleton_self entry, hostile⟩,
    fun _ => ⟨fault, rfl, uncaught⟩⟩

def safety : Conduct Note Fault .incomplete where
  holds := Safe
  eats tape n := by
    refine .silent ?_ rfl not_fatal_none
    show (tape.unread.drop n).length ≤ tape.unread.length
    rw [List.length_drop]
    omega
  starves tape := .silent (Nat.zero_le _) rfl (not_fatal_of_caught trivial)
  trans := Safe.trans
  shrinks := Safe.shrinks

/-- **The conducts that the deserialisers keep**: those that allow them to reject the input, to take
a note that fails no assertion, and to stop at one that is not benign. -/
class Tolerant (Q : Conduct Note Fault .incomplete) : Prop where
  fails : ∀ what tape, Q.holds tape (some (.deserializationError what)) tape
  goes : ∀ {entry : Note}, ¬ entry.Fails → ∀ tape, Q.holds tape none (tape.note entry)
  stops : ∀ {entry : Note} {fault : Fault}, ¬ fault.Caught → ¬ entry.Benign → ∀ tape,
    Q.holds tape (some fault) (tape.note entry)

instance : Tolerant safety where
  fails _ _ := .silent (le_refl _) rfl (not_fatal_of_caught trivial)
  goes := Safe.goes
  stops := Safe.stops

/-- **What has not been read is the end of the input.** -/
def leavesSuffix : Conduct Note Fault .incomplete where
  holds before _ after := after.unread <:+ before.unread
  eats tape n := List.drop_suffix n tape.unread
  starves _ := List.nil_suffix
  trans first second := second.trans first
  shrinks suffix := suffix.length_le

instance : Tolerant leavesSuffix where
  fails _ _ := List.suffix_rfl
  goes _ _ := List.suffix_rfl
  stops _ _ _ := List.suffix_rfl

/-! ### One deserialiser after the other -/

section Deserialisers

variable {limit bound : ℕ} {Q : Conduct Note Fault .incomplete} [Tolerant Q]

theorem byte_keeps : Keeps Q bound Read.byte := Keeps.byte

theorem octets_keeps (n : ℕ) : Keeps Q bound (Read.octets n) := Keeps.octets n

theorem fail_keeps {α : Type} (what : String) : Keeps Q bound (Read.fail what : Read α) :=
  Keeps.fail (Tolerant.fails what)

theorem record_keeps {entry : Note} (harmless : ¬ entry.Fails) :
    Keeps Q bound (Read.record entry) :=
  Keeps.note (Tolerant.goes harmless)

/-- An assertion that fails exactly if its note says so. -/
theorem assert_keeps {entry : Note} {holds : Bool} (meaning : holds = true ↔ ¬ entry.Fails) :
    Keeps Q bound (Read.assert entry holds) := by
  cases holds with
  | true => exact Keeps.note (Tolerant.goes (meaning.mp rfl))
  | false =>
    have fails : entry.Fails := not_not.mp fun harmless => nomatch meaning.mpr harmless
    exact Keeps.note (Tolerant.stops id fails.not_benign)

theorem resize_keeps (count : ℕ) : Keeps Q bound (resize limit count) := by
  refine .bind .left fun left => Keeps.note fun tape => ?_
  split
  · exact Tolerant.goes id tape
  next large =>
    refine Tolerant.stops id ?_ tape
    intro fits
    exact large (le_trans fits (le_max_right limit left))

theorem deserializeLength_advances : Advances Q bound (deserializeLength limit) := by
  refine .byte fun first => .bind (resize_keeps _) fun _ => .bind (octets_keeps _) fun rest => ?_
  refine .bind (assert_keeps ?_) fun _ => .pure _
  have wide := decodeLength_eq_zero_iff first rest.1
  simpa [Note.Fails] using not_congr wide

theorem listLoop_keeps {α : Type} {element : Read (α × ℕ)}
    (advances : Advances Q bound element) (length : UInt64) :
    Keeps Q bound (listLoop element length) := by
  refine .bind (.whileM (fun (_, _) => .bind advances fun (_, _) => .pure _) _) ?_
  rintro ⟨list, remainder⟩
  refine .bind (assert_keeps ?_) fun _ => .pure _
  simp [Note.Fails]

theorem deserializeList_advances {α : Type} {element : Read (α × ℕ)}
    (advances : Advances Q bound element) :
    Advances Q bound (deserializeList limit element) :=
  .bind deserializeLength_advances fun length => listLoop_keeps advances length

theorem uint16_keeps : Keeps Q bound Read.uint16 :=
  .bind (octets_keeps 2) fun _ => .pure _

theorem uint32_advances : Advances Q bound Read.uint32 :=
  .bind (.octets (by decide)) fun _ => .pure _

theorem uint64_keeps : Keeps Q bound Read.uint64 :=
  .bind (octets_keeps 8) fun _ => .pure _

theorem deserializeIntX_advances : Advances Q bound (deserializeIntX limit) :=
  .bind deserializeLength_advances fun _ => .pure _

theorem deserializeTwoDLocation_advances : Advances Q bound deserializeTwoDLocation :=
  .bind uint32_advances fun _ => .bind uint32_advances.keeps fun _ => .pure _

theorem deserializeThreeDLocation_keeps : Keeps Q bound deserializeThreeDLocation :=
  .bind uint32_advances.keeps fun _ => .bind uint32_advances.keeps fun _ =>
    .bind (octets_keeps 2) fun _ => .pure _

theorem deserializeCircularRegion_keeps : Keeps Q bound deserializeCircularRegion :=
  .bind deserializeTwoDLocation_advances.keeps fun (_, _) => .bind uint16_keeps fun _ => .pure _

theorem deserializeRectangularRegion_advances :
    Advances Q bound deserializeRectangularRegion :=
  .bind deserializeTwoDLocation_advances fun (_, _) =>
    .bind deserializeTwoDLocation_advances.keeps fun (_, _) => .pure _

theorem regionLoop_keeps {α : Type} {region : Read (α × ℕ)}
    (advances : Advances Q bound region) (length : UInt64) :
    Keeps Q bound (regionLoop region length) := by
  refine .bind (.whileM ?_ _) fun (_, _) => .pure _
  rintro ⟨list, size⟩
  exact .bind advances fun (_, _) => .pure _

theorem deserializeRectangularRegions_keeps :
    Keeps Q bound (deserializeRectangularRegions limit) :=
  .bind deserializeLength_advances.keeps fun _ =>
    regionLoop_keeps deserializeRectangularRegion_advances _

theorem deserializePolygonalRegion_keeps :
    Keeps Q bound (deserializePolygonalRegion limit) :=
  .bind deserializeLength_advances.keeps fun _ =>
    regionLoop_keeps deserializeTwoDLocation_advances _

theorem deserializeIdentifiedRegion_keeps :
    Keeps Q bound (deserializeIdentifiedRegion limit) :=
  .bind byte_keeps fun _ => .bind uint16_keeps fun _ =>
    .bind deserializeIntX_advances.keeps fun (_, _) => .pure _

theorem deserializeGeographicRegion_keeps :
    Keeps Q bound (deserializeGeographicRegion limit) := by
  refine .bind byte_keeps fun type => ?_
  split
  · exact .pure _
  · exact .bind deserializeCircularRegion_keeps fun (_, _) => .pure _
  · exact .bind deserializeRectangularRegions_keeps fun (_, _) => .pure _
  · exact .bind deserializePolygonalRegion_keeps fun (_, _) => .pure _
  · exact .bind deserializeIdentifiedRegion_keeps fun (_, _) => .pure _
  · exact fail_keeps _

theorem deserializeEccPoint_keeps : Keeps Q bound deserializeEccPoint := by
  refine .bind byte_keeps fun type => ?_
  split
  · exact .bind (octets_keeps _) fun _ => .pure _
  · exact .bind (octets_keeps _) fun _ => .pure _
  · exact .bind (octets_keeps _) fun _ => .pure _
  · exact .bind (octets_keeps _) fun _ => .bind (octets_keeps _) fun _ => .pure _
  · exact fail_keeps _

theorem deserializePublicKey_keeps : Keeps Q bound deserializePublicKey := by
  refine .bind byte_keeps fun type => ?_
  split
  · exact .bind deserializeEccPoint_keeps fun _ => .pure _
  · exact .bind byte_keeps fun _ => .bind deserializeEccPoint_keeps fun _ => .pure _
  · exact fail_keeps _

theorem deserializeSignature_keeps : Keeps Q bound deserializeSignature := by
  refine .bind byte_keeps fun algo => ?_
  split
  · refine .bind ?_ fun (_, _) => .pure _
    exact .bind deserializeEccPoint_keeps fun _ => .bind (octets_keeps _) fun _ => .pure _
  · exact fail_keeps _

theorem deserializeTrailerField_advances : Advances Q bound deserializeTrailerField := by
  refine .byte fun type => ?_
  split
  · exact .bind deserializeSignature_keeps fun (_, _) => .pure _
  · exact fail_keeps _

theorem deserializeSubjectInfo_keeps : Keeps Q bound (deserializeSubjectInfo limit) :=
  .bind byte_keeps fun _ => .bind deserializeLength_advances.keeps fun _ =>
    .bind (octets_keeps _) fun _ => .pure _

theorem deserializeItsAidSsp_advances : Advances Q bound (deserializeItsAidSsp limit) :=
  .bind deserializeIntX_advances fun (_, _) => .bind deserializeLength_advances.keeps fun _ =>
    .bind (resize_keeps _) fun _ => .bind (octets_keeps _) fun _ => .pure _

theorem deserializeSubjectAttribute_advances :
    Advances Q bound (deserializeSubjectAttribute limit) := by
  refine .byte fun type => ?_
  split
  · exact .bind byte_keeps fun _ => .pure _
  · exact .bind deserializePublicKey_keeps fun (_, _) => .pure _
  · exact .bind deserializePublicKey_keeps fun (_, _) => .pure _
  · exact .bind (deserializeList_advances deserializeIntX_advances).keeps fun (_, _) => .pure _
  · exact .bind (deserializeList_advances deserializeItsAidSsp_advances).keeps fun (_, _) => .pure _
  · exact fail_keeps _
  · exact fail_keeps _

theorem deserializeValidityRestriction_advances :
    Advances Q bound (deserializeValidityRestriction limit) := by
  refine .byte fun type => ?_
  split
  · exact .bind uint32_advances.keeps fun _ => .pure _
  · exact .bind uint32_advances.keeps fun _ => .bind uint16_keeps fun _ => .pure _
  · exact .bind uint32_advances.keeps fun _ => .bind uint32_advances.keeps fun _ => .pure _
  · exact .bind deserializeGeographicRegion_keeps fun (_, _) => .pure _
  · exact fail_keeps _

theorem deserializeSignerInfoWith_keeps {certificate : Read (Certificate × ℕ)}
    (advances : Advances Q bound certificate) :
    Keeps Q bound (deserializeSignerInfoWith limit certificate) := by
  refine .bind byte_keeps fun type => ?_
  split
  · exact .bind advances.keeps fun (_, _) => .pure _
  · exact .bind (deserializeList_advances advances).keeps fun (_, _) =>
      .bind (record_keeps id) fun _ => .pure _
  · exact .bind (octets_keeps _) fun _ => .pure _
  · exact .bind byte_keeps fun _ => .bind (octets_keeps _) fun _ => .pure _
  · exact .pure _
  · exact fail_keeps _

/-- The certificates inside a certificate start behind its version byte. -/
theorem deserializeCertificate_advances : Advances Q bound (deserializeCertificate limit) := by
  refine .fix fun bound below advances => ?_
  refine .byte fun version => ?_
  split
  · exact .bind (deserializeSignerInfoWith_keeps advances) fun (_, _) =>
      .bind deserializeSubjectInfo_keeps fun (_, _) =>
      .bind (deserializeList_advances deserializeSubjectAttribute_advances).keeps fun (_, _) =>
      .bind (deserializeList_advances deserializeValidityRestriction_advances).keeps fun (_, _) =>
      .bind deserializeSignature_keeps fun (_, _) => .pure _
  · exact fail_keeps _

theorem deserializeEncryptionParameter_keeps :
    Keeps Q bound deserializeEncryptionParameter := by
  refine .bind byte_keeps fun algo => ?_
  split
  · exact .bind (octets_keeps _) fun _ => .pure _
  · exact fail_keeps _

theorem deserializeRecipientInfo_advances (symAlgo : SymmetricAlgorithm) :
    Advances Q bound (deserializeRecipientInfo limit symAlgo) := by
  refine .bind (.octets (by decide)) fun certId => .bind byte_keeps fun algo => ?_
  split
  · exact .bind deserializeEccPoint_keeps fun _ => .bind (octets_keeps _) fun _ =>
      .bind (octets_keeps _) fun _ => .pure _
  · exact .bind deserializeLength_advances.keeps fun _ => .bind (resize_keeps _) fun _ =>
      .bind (octets_keeps _) fun _ => .pure _

theorem hashedIdLoop_keeps (length : UInt64) : Keeps Q bound (hashedIdLoop length) := by
  refine .bind (record_keeps id) fun _ => .bind (.whileM ?_ _) fun (_, _) => .pure _
  rintro ⟨ids, c⟩
  exact .bind (.octets (by decide)) fun _ => .pure _

theorem deserializeHeaderField_advances (symAlgo : Option SymmetricAlgorithm) :
    Advances Q bound (deserializeHeaderField limit symAlgo) := by
  refine .byte fun type => ?_
  split
  · exact .bind uint64_keeps fun _ => .pure _
  · exact .bind uint64_keeps fun _ => .bind byte_keeps fun _ => .pure _
  · exact .bind uint32_advances.keeps fun _ => .pure _
  · exact .bind deserializeThreeDLocation_keeps fun (_, _) => .pure _
  · exact .bind deserializeLength_advances.keeps fun _ =>
      .bind (hashedIdLoop_keeps _) fun (_, _) => .pure _
  · exact .bind deserializeIntX_advances.keeps fun (_, _) => .pure _
  · exact .bind (deserializeSignerInfoWith_keeps deserializeCertificate_advances) fun (_, _) => .pure _
  · cases symAlgo with
    | none => exact fail_keeps _
    | some algo =>
      exact .bind (deserializeList_advances (deserializeRecipientInfo_advances algo)).keeps
        fun (_, _) => .pure _
  · exact .bind deserializeEncryptionParameter_keeps fun (_, _) => .pure _
  · exact fail_keeps _

theorem headerLoop_keeps (size : UInt64) : Keeps Q bound (headerLoop limit size) := by
  refine .bind (.whileM ?_ _) ?_
  · rintro ⟨list, read, symAlgo⟩
    exact .bind (deserializeHeaderField_advances symAlgo) fun (_, _, _) => .pure _
  · rintro ⟨list, read, symAlgo⟩
    exact .bind (record_keeps id) fun _ => .pure _

theorem deserializeHeaderFields_keeps : Keeps Q bound (deserializeHeaderFields limit) :=
  .bind deserializeLength_advances.keeps fun size => headerLoop_keeps size

theorem deserializePayload_keeps : Keeps Q bound (deserializePayload limit) :=
  .bind byte_keeps fun _ => .bind deserializeLength_advances.keeps fun _ =>
    .bind (resize_keeps _) fun _ => .bind (octets_keeps _) fun _ => .pure _

theorem deserializeSecuredMessage_keeps :
    Keeps Q bound (deserializeSecuredMessage limit) := by
  refine .bind byte_keeps fun protocolVersion => ?_
  split
  · exact .bind deserializeHeaderFields_keeps fun (_, _) =>
      .bind deserializePayload_keeps fun (_, _) =>
      .bind (deserializeList_advances deserializeTrailerField_advances).keeps fun (_, _) => .pure _
  · exact fail_keeps _

end Deserialisers

/-! ### The secured part of a packet -/

/-- **Hostile input is contained**: there is a value or a failure, and no container is asked to grow
beyond what the remaining input can fill. -/
structure Contained (limit : ℕ) (input : ByteBuffer) : Prop where
  answered : ∃ bytes secured, parseSecured limit input = .returned bytes secured
  filled : ∀ count left, .request count left ∈ notes limit input → count ≤ left

variable {limit : ℕ} {input : ByteBuffer}

/-- The conduct on a whole input. -/
theorem parse_safe : Safe (untouched input)
    (ending (deserializeSecuredMessage limit (untouched input)).1)
    (deserializeSecuredMessage limit (untouched input)).2 :=
  @deserializeSecuredMessage_keeps limit _ safety _ (untouched input) (Nat.lt_succ_self _)

theorem answered_iff :
    (∃ bytes secured, parseSecured limit input = .returned bytes secured) ↔
      ¬ Fatal (ending (deserializeSecuredMessage limit (untouched input)).1) := by
  unfold parseSecured
  rcases (deserializeSecuredMessage limit (untouched input)).1 with fault | ⟨secured, bytes⟩
  · cases fault with
    | incomplete => exact iff_of_true ⟨0, none, rfl⟩ (not_fatal_of_caught trivial)
    | deserializationError what => exact iff_of_true ⟨0, none, rfl⟩ (not_fatal_of_caught trivial)
    | assertion => exact iff_of_false nofun (not_not_intro ⟨_, rfl, id⟩)
    | badAlloc => exact iff_of_false nofun (not_not_intro ⟨_, rfl, id⟩)
    | exhausted => exact iff_of_false nofun (not_not_intro ⟨_, rfl, id⟩)
  · exact iff_of_true ⟨bytes, some secured, rfl⟩ not_fatal_none

theorem not_contained_of_fatal {fault : Fault} (fatal : parseSecured limit input = .fatal fault) :
    ¬ Contained limit input := by
  rintro ⟨⟨bytes, secured, answered⟩, _⟩
  rw [fatal] at answered
  cases answered

/-- Contained is what meets nothing but benign notes. -/
theorem contained_iff_notes : Contained limit input ↔ ∀ entry ∈ notes limit input, entry.Benign := by
  obtain ⟨met, met_eq, cause, effect⟩ := (@parse_safe limit input).met
  have notes_eq : notes limit input = met := met_eq
  constructor
  · rintro ⟨answered, filled⟩ entry member
    have mild : ¬ entry.Fails := fun fails =>
      answered_iff.mp answered (effect ⟨entry, notes_eq ▸ member, fails⟩)
    cases entry with
    | length first value => exact mild
    | request count left => exact filled count left member
    | list remainder => exact not_not.mp mild
    | hashedIds announced => trivial
    | header announced read => trivial
    | chain announced => trivial
  · intro benign
    refine ⟨answered_iff.mpr fun fatal => ?_, fun count left member => benign _ member⟩
    obtain ⟨entry, member, hostile⟩ := cause fatal
    exact hostile (benign entry (notes_eq ▸ member))

/-- **What `parseSecured` meets are the sites of the bytes**, whatever the allocation limit is. -/
theorem notes_eq_sites : notes limit input = (Wire.securedMessage.sites input).map Site.note :=
  (deserializeSecuredMessage_follows.notes [] ⟨input, []⟩).trans (List.nil_append _)

theorem Site.note_benign (site : Site) : site.note.Benign ↔ site.Benign := by
  cases site with
  | length first rest => exact Iff.rfl
  | room announced behind => exact Iff.rfl
  | list announced counted =>
    show (announced : ℤ) - counted = 0 ↔ counted = announced
    omega
  | ids announced => exact Iff.rfl
  | header announced overrun => exact Iff.rfl
  | chain announced => exact Iff.rfl

end Vanet.Security
