/-
**`DenmApplication`: a DENM from the simulator's text to the peers' JSON.**

The simulator splices four texts into a fixed JSON template: the station id, the sequence number,
the information quality and the cause codes. `DenmText` is what was spliced, `DenmText.loads` is
the parsed JSON (every spliced text has to be a JSON integer, the rest of the template is
well-formed) and `DenmText.broadcast` the message the other stations' brokers publish under
`fields`: what `DenmApplication::on_message` parses, if UPER can encode it.
-/

import Vanet.Library.Decimal
import Vanet.Socktap.Cam

namespace Vanet.Socktap

open Vanet.Library

/-- A string of the simulator. -/
abbrev Text := List Char

/-- The fields of a DENM which its readers look at. -/
structure Denm where
  originatingStationID : ℕ
  sequenceNumber : ℕ
  latitude : ℚ
  longitude : ℚ
  informationQuality : ℕ
  causeCode : ℕ
  subCauseCode : ℕ
  deriving DecidableEq

/-- A published DENM payload: the spliced texts, and the numbers written out in the template. -/
structure DenmText where
  originatingStationID : Text
  sequenceNumber : Text
  latitude : ℚ
  longitude : ℚ
  informationQuality : Text
  causeCode : ℕ
  subCauseCode : ℕ
  deriving DecidableEq

/-- The event type of a DENM: 100/1 SET, 100/2 REPEAT, 101/1 request to join, 101/2 join reply,
102/1 request to merge, 102/2 merge reply. -/
def Denm.Event (denm : Denm) (causeCode subCauseCode : ℕ) : Prop :=
  denm.causeCode = causeCode ∧ denm.subCauseCode = subCauseCode

/-- The event type of a published payload. -/
def DenmText.Event (text : DenmText) (causeCode subCauseCode : ℕ) : Prop :=
  text.causeCode = causeCode ∧ text.subCauseCode = subCauseCode

instance (denm : Denm) (causeCode subCauseCode : ℕ) :
    Decidable (denm.Event causeCode subCauseCode) := by
  unfold Denm.Event
  infer_instance

instance (text : DenmText) (causeCode subCauseCode : ℕ) :
    Decidable (text.Event causeCode subCauseCode) := by
  unfold DenmText.Event
  infer_instance

/-- `json.loads` (and `json::parse`) of a published payload. -/
def DenmText.loads (text : DenmText) : Option Denm :=
  match numeral text.originatingStationID, numeral text.sequenceNumber,
      numeral text.informationQuality with
  | some origin, some sequence, some quality =>
    some ⟨origin, sequence, text.latitude, text.longitude, quality, text.causeCode,
      text.subCauseCode⟩
  | _, _, _ => none

/-- Reading the payload into the ASN.1 types: the coordinates become integers. -/
def Denm.toAsn1 (denm : Denm) : Denm :=
  { denm with
    latitude := truncate denm.latitude
    longitude := truncate denm.longitude }

/-- The value ranges of the data dictionary. -/
def Denm.Encodable (denm : Denm) : Prop :=
  denm.originatingStationID ≤ 4294967295 ∧ denm.sequenceNumber ≤ 65535 ∧
    InRange (-900000000) (truncate denm.latitude) 900000001 ∧
    InRange (-1800000000) (truncate denm.longitude) 1800000001 ∧
    denm.informationQuality ≤ 7 ∧ denm.causeCode ≤ 255 ∧ denm.subCauseCode ≤ 255

instance (denm : Denm) : Decidable denm.Encodable := by
  unfold Denm.Encodable
  infer_instance

/-- **What reaches the other stations**: nothing, if the payload is not JSON or out of range. -/
def DenmText.broadcast (text : DenmText) : Option Denm :=
  match text.loads with
  | some denm => if denm.toAsn1.Encodable then some denm.toAsn1 else none
  | none => none

theorem DenmText.loads_eq_some_iff {text : DenmText} {denm : Denm} :
    text.loads = some denm ↔
      text.originatingStationID = Nat.toDigits 10 denm.originatingStationID ∧
      text.sequenceNumber = Nat.toDigits 10 denm.sequenceNumber ∧
      text.informationQuality = Nat.toDigits 10 denm.informationQuality ∧
      text.latitude = denm.latitude ∧ text.longitude = denm.longitude ∧
      text.causeCode = denm.causeCode ∧ text.subCauseCode = denm.subCauseCode := by
  unfold DenmText.loads
  constructor
  · intro parsed
    split at parsed
    · rename_i origin sequence quality readOrigin readSequence readQuality
      cases parsed
      exact ⟨numeral_eq_some_iff.mp readOrigin, numeral_eq_some_iff.mp readSequence,
        numeral_eq_some_iff.mp readQuality, rfl, rfl, rfl, rfl⟩
    · cases parsed
  · rintro ⟨origin, sequence, quality, latitude, longitude, cause, subCause⟩
    rw [origin, sequence, quality, latitude, longitude, cause, subCause]
    simp only [numeral_toDigits]

/-- **A message that reaches the others is the parsed payload with integer coordinates.** -/
theorem DenmText.broadcast_eq_some_iff {text : DenmText} {received : Denm} :
    text.broadcast = some received ↔
      ∃ denm, text.loads = some denm ∧ denm.toAsn1.Encodable ∧ received = denm.toAsn1 := by
  unfold DenmText.broadcast
  constructor
  · intro sent
    split at sent
    · rename_i denm parsed
      split at sent
      · rename_i encodable
        exact ⟨denm, parsed, encodable, (Option.some.inj sent).symm⟩
      · cases sent
    · cases sent
  · rintro ⟨denm, parsed, encodable, rfl⟩
    simp only [parsed, if_pos encodable]

/-- **A message arrives if its sequence number is a JSON number of 16 bits**, as long as its other
fields are in range. -/
theorem DenmText.broadcast_of_numeral {text : DenmText} {origin quality sequence : ℕ}
    (originator : text.originatingStationID = Nat.toDigits 10 origin)
    (informationQuality : text.informationQuality = Nat.toDigits 10 quality)
    (ranges : (Denm.toAsn1 ⟨origin, 0, text.latitude, text.longitude, quality, text.causeCode,
      text.subCauseCode⟩).Encodable)
    (read : numeral text.sequenceNumber = some sequence) (small : sequence ≤ 65535) :
    text.broadcast = some (Denm.toAsn1 ⟨origin, sequence, text.latitude, text.longitude, quality,
      text.causeCode, text.subCauseCode⟩) := by
  refine broadcast_eq_some_iff.mpr ⟨_, loads_eq_some_iff.mpr ⟨originator,
    numeral_eq_some_iff.mp read, informationQuality, rfl, rfl, rfl, rfl⟩, ?_, rfl⟩
  exact ⟨ranges.1, small, ranges.2.2⟩

/-- A message that arrives has a sequence number of 16 bits, and keeps it. -/
theorem DenmText.numeral_of_broadcast {text : DenmText} {received : Denm}
    (sent : text.broadcast = some received) :
    numeral text.sequenceNumber = some received.sequenceNumber ∧
      received.sequenceNumber ≤ 65535 := by
  obtain ⟨denm, parsed, encodable, rfl⟩ := broadcast_eq_some_iff.mp sent
  exact ⟨numeral_eq_some_iff.mpr (loads_eq_some_iff.mp parsed).2.1, encodable.2.1⟩

/-- The other fields of a message that arrives. -/
theorem DenmText.fields_of_broadcast {text : DenmText} {received : Denm}
    (sent : text.broadcast = some received) :
    received.Event text.causeCode text.subCauseCode ∧
      text.originatingStationID = Nat.toDigits 10 received.originatingStationID ∧
        text.informationQuality = Nat.toDigits 10 received.informationQuality := by
  obtain ⟨denm, parsed, -, rfl⟩ := broadcast_eq_some_iff.mp sent
  obtain ⟨origin, -, quality, -, -, cause, subCause⟩ := loads_eq_some_iff.mp parsed
  exact ⟨⟨cause.symm, subCause.symm⟩, origin, quality⟩

end Vanet.Socktap
