/-
**The MQTT handlers `on_message2` to `on_message5`.**

The four handlers are copies of one skeleton (`onMessage`) that differ in the station's number and
in four branches (`Branches`): what a REPEAT of a foreign group does, the answer to a request to
join, the reading of a join reply, and the answer to a request to merge. A handler returns the
process it leaves behind, the DENMs it published and the exception that ended it, if there is one:
what was assigned before the exception stays assigned.

`handler` is the handler of a station by its number.
-/

import Vanet.Simulator.Leader

namespace Vanet.Simulator

open Vanet.Library Vanet.Socktap

/-- What a station's broker hands to its handler. The topics are told apart by the words `fields`
and `management` in the payload. -/
inductive Message
  /-- The own DENM on `vanetza/in/denm`, as it was published. -/
  | ownDenm (payload : DenmText)
  /-- Another station's DENM on `vanetza/out/denm`, under `fields`. -/
  | denm (payload : Denm)
  /-- A CAM: the own one on `vanetza/in/cam` or another station's on `vanetza/out/cam`. -/
  | cam (payload : CamJson)
  deriving DecidableEq

/-- The end of a handler. -/
structure Outcome where
  process : Process
  denms : List DenmText := []
  raised : Option PyError := none

namespace Outcome

/-- Run to completion without publishing. -/
def done (p : Process) : Outcome := { process := p }

/-- End with an exception. -/
def raise (p : Process) (error : PyError) : Outcome := { process := p, raised := some error }

/-- Publish a DENM whose payload is being built. -/
def publish (p : Process) : Except PyError DenmText → Outcome
  | .ok payload => { process := p, denms := [payload] }
  | .error error => raise p error

@[simp] theorem publish_process (p : Process) (payload : Except PyError DenmText) :
    (publish p payload).process = p := by
  cases payload <;> rfl

end Outcome

/-- The coordinates in the template of every DENM a handler publishes. -/
def templatePosition : ℚ × ℚ := (40.63779925, -8.6523533)

/-- The DENM template of the handlers, filled with texts. -/
def denmText (origin sequenceNumber informationQuality : Text) (causeCode subCauseCode : ℕ) :
    DenmText where
  originatingStationID := origin
  sequenceNumber := sequenceNumber
  latitude := templatePosition.1
  longitude := templatePosition.2
  informationQuality := informationQuality
  causeCode := causeCode
  subCauseCode := subCauseCode

/-- The sequence number and the information quality are spliced into the template with `+`, so they
have to be strings already. -/
def denmPayload (origin : Text) (sequenceNumber informationQuality : PyVal)
    (causeCode subCauseCode : ℕ) : Except PyError DenmText := do
  return denmText origin (← sequenceNumber.asStr) (← informationQuality.asStr) causeCode
    subCauseCode

@[simp] theorem denmPayload_str (origin sequenceNumber informationQuality : Text)
    (causeCode subCauseCode : ℕ) :
    denmPayload origin (.str sequenceNumber) (.str informationQuality) causeCode subCauseCode =
      .ok (denmText origin sequenceNumber informationQuality causeCode subCauseCode) := rfl

@[simp] theorem denmPayload_int_left (origin : Text) (n : ℕ) (informationQuality : PyVal)
    (causeCode subCauseCode : ℕ) :
    denmPayload origin (.int n) informationQuality causeCode subCauseCode =
      .error .typeError := rfl

@[simp] theorem denmPayload_int_right (origin : Text) (sequenceNumber : PyVal) (n : ℕ)
    (causeCode subCauseCode : ℕ) :
    denmPayload origin sequenceNumber (.int n) causeCode subCauseCode = .error .typeError := by
  cases sequenceNumber <;> rfl

/-! ### The skeleton -/

/-- The branches in which the handlers differ. -/
structure Branches where
  repeatElse : Process → Outcome
  askJoin : Process → Denm → Outcome
  joinReply : Process → Denm → Process
  mergeRequest : Process → Denm → Outcome

section Skeleton

variable (i : Station) (own : Branches) (p : Process)

/-- `userdata[1][str(originatingStationID)] = ()`. -/
def noteOriginator (origin : ℕ) : Process :=
  { p with denmInfo := p.denmInfo.insert origin }

/-- A SET message: the station adopts the group, its speed and its check time. -/
def setGroupDenm (denm : Denm) : Process :=
  (noteOriginator p denm.originatingStationID).setVals (slot i)
    { p.vals i with
      groupID := denm.originatingStationID
      speed := syncStats100.1
      checkTime := syncStats100.2.2 }

/-- A REPEAT message: ask to join, or update the group, or what the handler does otherwise. -/
def repeatGroup (denm : Denm) : Outcome :=
  if (p.vals i).groupID = -1 then
    .publish p (denmPayload (str i) (.str ['0']) (.str ['7']) 101 1)
  else if (p.vals i).groupID = denm.originatingStationID then
    if (p.vals i).group ≠ .int denm.sequenceNumber then
      .done (p.setGroup (slot i) (.int denm.sequenceNumber))
    else .done p
  else own.repeatElse p

/-- A DENM of another station. -/
def onDenm (denm : Denm) : Outcome :=
  if denm.causeCode = 100 then
    if denm.subCauseCode = 1 then .done (setGroupDenm i p denm)
    else if denm.subCauseCode = 2 then repeatGroup i own p denm
    else .done p
  else if denm.causeCode = 101 then
    if denm.subCauseCode = 1 then own.askJoin p denm
    else if denm.subCauseCode = 2 then .done (own.joinReply p denm)
    else .done p
  else if denm.causeCode = 102 then
    if denm.subCauseCode = 1 then own.mergeRequest p denm
    else if denm.subCauseCode = 2 then
      .done (p.setVals (slot i) { p.vals i with overlord := .int denm.originatingStationID })
    else .done p
  else .done p

/-- The own DENM, read back as JSON. -/
def onOwnDenm (payload : DenmText) : Outcome :=
  match payload.loads with
  | none => .raise p .jsonDecodeError
  | some denm =>
    .done ((noteOriginator p denm.originatingStationID).setVals (slot i)
      { p.vals i with groupID := denm.originatingStationID })

/-- A CAM: the position is kept as long as the station is in no group. -/
def onCam (payload : CamJson) : Outcome :=
  if (p.vals i).groupID = -1 then
    .done { p with
      surroundings := p.surroundings.append payload.stationID
        [payload.latitude, payload.longitude, payload.heading] }
  else .done p

/-- One handler. -/
def onMessage : Message → Outcome
  | .denm denm => onDenm i own p denm
  | .ownDenm payload => onOwnDenm i p payload
  | .cam payload => onCam i p payload

end Skeleton

/-! ### The four handlers -/

section Handlers

variable (world : World)

/-- `valsList[k]["group"] = sequenceNumber`, if the reply is for the target. -/
def joinReplyFor (target : ℕ) (k : Fin 7) (addressee : ℕ) (p : Process) (denm : Denm) : Process :=
  if addressee = target then p.setGroup k (.int denm.sequenceNumber) else p

/-- A request to merge is answered if the station is `check`ed at its location: the requester is
added to the group, and the reply is published. -/
def mergeReply (i : Station) (p : Process) (checked : Except PyError Bool) (reqID : PyVal) :
    Outcome :=
  match checked with
  | .error error => .raise p error
  | .ok false => .done p
  | .ok true =>
    match (p.vals i).group.add reqID with
    | .error error => .raise p error
    | .ok group => .publish (p.setGroup (slot i) group) (denmPayload (str i) group reqID 102 2)

/-- `on_message4` and `on_message5`: the id of the requester is added as an integer. -/
def addRequester (i : Station) (p : Process) (denm : Denm) : Outcome :=
  if (p.vals i).groupID = (i : ℕ) then
    match (p.vals i).group.add (.int denm.originatingStationID) with
    | .error error => .raise p error
    | .ok group =>
      .publish (p.setGroup (slot i) group)
        (denmPayload (str i) group (.int denm.originatingStationID) 101 2)
  else .done p

/-- The branches of `on_message2`. -/
def branches2 : Branches where
  repeatElse := .done
  askJoin p denm :=
    if (p.vals 0).groupID = 0 then
      let group := (p.vals 0).group.toText ++ str denm.originatingStationID
      .publish (p.setGroup (slot 0) (.str group))
        (denmPayload (str 0) (.str group) (.str (str denm.originatingStationID)) 101 2)
    else .done p
  joinReply p denm := joinReplyFor 0 1 denm.originatingStationID p denm
  mergeRequest p denm :=
    mergeReply 0 p (check world ((p.vals 0).location ++ [90]) [42.48252, -95.98588])
      (.str (str denm.originatingStationID))

/-- The branches of `on_message3`. -/
def branches3 : Branches where
  repeatElse := .done
  askJoin p denm :=
    if (p.vals 1).groupID = 1 then
      .publish p (denmPayload (str 1) (p.vals 1).group (.int denm.originatingStationID) 101 1)
    else .done p
  joinReply p denm := joinReplyFor 1 1 denm.originatingStationID p denm
  mergeRequest p denm :=
    mergeReply 1 p (check world (p.vals 1).location [denm.latitude, denm.longitude])
      (.int denm.originatingStationID)

/-- The branches of `on_message4`. -/
def branches4 : Branches where
  repeatElse p :=
    if (p.vals 2).overlord = .str [] then
      .publish p (denmPayload (str 2) (.str ['0']) (.str ['7']) 102 1)
    else .done p
  askJoin := addRequester 2
  joinReply p denm := joinReplyFor 2 2 denm.informationQuality p denm
  -- `list.append` returns `None`, and `tuple(None)` raises
  mergeRequest p _ := .raise p .typeError

/-- The branches of `on_message5`. -/
def branches5 : Branches where
  repeatElse := .done
  askJoin := addRequester 3
  joinReply p denm := joinReplyFor 2 2 denm.informationQuality p denm
  mergeRequest p _ := .done p

def onMessage2 : Process → Message → Outcome := onMessage 0 (branches2 world)
def onMessage3 : Process → Message → Outcome := onMessage 1 (branches3 world)
def onMessage4 : Process → Message → Outcome := onMessage 2 branches4
def onMessage5 : Process → Message → Outcome := onMessage 3 branches5

/-- The branches of a station's handler. -/
def branches : Station → Branches
  | 0 => branches2 world
  | 1 => branches3 world
  | 2 => branches4
  | 3 => branches5

/-- The handler of station `i`. -/
def handler (i : Station) : Process → Message → Outcome :=
  match i with
  | 0 => onMessage2 world
  | 1 => onMessage3 world
  | 2 => onMessage4
  | 3 => onMessage5

theorem handler_eq : ∀ i : Station, handler world i = onMessage i (branches world i)
  | 0 => rfl
  | 1 => rfl
  | 2 => rfl
  | 3 => rfl

end Handlers

end Vanet.Simulator
