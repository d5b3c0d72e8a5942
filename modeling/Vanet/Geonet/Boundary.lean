/-
**Where the payload of a received packet begins.**

A context puts the boundary of the network layer behind as many bytes as its parser has counted. The
GeoNetworking headers are counted with their true lengths; a secured message is counted with the
sizes that its deserialisers compute, which may be more or fewer bytes than they have consumed. More
bytes than there are fail the assertion of `set_boundary`.

`pass` goes along a path in the bytes of the frame alone: it gives the sites of the secured message on
the path and the bytes behind its last header. On these depend where the boundaries are.
-/

import Vanet.Geonet.Indication
import Vanet.Security.ByteCount
import Vanet.Security.Rejection

namespace Vanet.Geonet

open Vanet.Net hiding ByteBuffer
open Vanet.Library Vanet.Security Reader

/-! ### The length of a header -/

section Headers

theorem Address.fixed : Fixed (2 + 6) Address.deserialize :=
  uint16_fixed.bind fun _ => (octets_fixed 6).map

theorem LongPositionVector.fixed : Fixed (8 + (4 + (4 + (4 + (2 + 2))))) LongPositionVector.deserialize :=
  Address.fixed.bind fun _ => uint32_fixed.bind fun _ => uint32_fixed.bind fun _ =>
    uint32_fixed.bind fun _ => uint16_fixed.bind fun _ => uint16_fixed.map

theorem BasicHeader.fixed : Fixed BasicHeader.lengthBytes BasicHeader.deserialize := by
  show Fixed (1 + (1 + (1 + 1))) _
  exact byte_fixed.bind fun _ => byte_fixed.bind fun _ => byte_fixed.bind fun _ => byte_fixed.map

theorem CommonHeader.fixed : Fixed CommonHeader.lengthBytes CommonHeader.deserialize := by
  show Fixed (1 + (1 + (1 + (1 + (2 + (1 + 1)))))) _
  exact byte_fixed.bind fun _ => byte_fixed.bind fun _ => byte_fixed.bind fun _ =>
    byte_fixed.bind fun _ => uint16_fixed.bind fun _ => byte_fixed.bind fun _ => byte_fixed.map

theorem BeaconHeader.fixed : Fixed BeaconHeader.lengthBytes BeaconHeader.deserialize :=
  LongPositionVector.fixed.map

theorem ShbHeader.fixed : Fixed ShbHeader.lengthBytes ShbHeader.deserialize := by
  show Fixed (24 + 4) _
  exact LongPositionVector.fixed.bind fun _ => uint32_fixed.map

theorem GeoBroadcastHeader.fixed :
    Fixed GeoBroadcastHeader.lengthBytes GeoBroadcastHeader.deserialize := by
  show Fixed (2 + (2 + (24 + (4 + (4 + (2 + (2 + (2 + 2)))))))) _
  exact uint16_fixed.bind fun _ => uint16_fixed.bind fun _ => LongPositionVector.fixed.bind fun _ =>
    uint32_fixed.bind fun _ => uint32_fixed.bind fun _ => uint16_fixed.bind fun _ =>
      uint16_fixed.bind fun _ => uint16_fixed.bind fun _ => uint16_fixed.map

end Headers

/-! ### A path through the bytes -/

/-- What a context is asked for; a plaintext payload has been decapsulated. -/
inductive Step
  | basic
  | secured
  | plaintext (payload : CohesivePacket)
  | common
  | extended (ht : HeaderType)

/-- The length of the extended header of a type. -/
def extendedLength (ht : HeaderType) : ℕ :=
  if ht = .tsbSingleHop then ShbHeader.lengthBytes
  else if ht = .geoBroadcastCircle ∨ ht = .geoBroadcastRect ∨ ht = .geoBroadcastElip then
    GeoBroadcastHeader.lengthBytes
  else if ht = .beacon then BeaconHeader.lengthBytes
  else 0

/-- **A header in the bytes**: its sites, which only a secured message has, and the bytes behind it. -/
def Step.pass : Step → ByteBuffer → List Site × ByteBuffer
  | .basic, bytes => ([], bytes.drop BasicHeader.lengthBytes)
  | .secured, bytes => (Wire.securedMessage.sites bytes, (Wire.securedMessage.walk ⟨bytes, []⟩).2.unread)
  | .plaintext _, bytes => ([], bytes)
  | .common, bytes => ([], bytes.drop CommonHeader.lengthBytes)
  | .extended ht, bytes => ([], bytes.drop (extendedLength ht))

/-- **A path in the bytes of a frame.** The headers behind the plaintext are those of the payload that
has been decapsulated. -/
def pass : List Step → ByteBuffer → List Site × ByteBuffer
  | [], bytes => ([], bytes)
  | .plaintext _ :: _, bytes => ([], bytes)
  | step :: rest, bytes =>
    let (sites, behind) := step.pass bytes
    let (more, last) := pass rest behind
    (sites ++ more, last)

/-! ### What a parser has counted -/

theorem superfluous_append (sites more : List Site) :
    superfluous (sites ++ more) = superfluous sites + superfluous more := by
  unfold superfluous
  rw [List.map_append, List.sum_append]

theorem missing_append (sites more : List Site) :
    missing (sites ++ more) = missing sites + missing more := by
  unfold missing
  rw [List.map_append, List.sum_append]

/-- **The parser's books**: what has not been parsed is the end of the bytes, and what has been
counted is the rest of them, but for the superfluous and the missing bytes of the sites. -/
structure Booked (bytes : ByteBuffer) (sites : List Site) (parser : Parser) : Prop where
  suffix : parser.archive.unread <:+ bytes
  total : bytes.length + missing sites =
    parser.readBytes + parser.archive.unread.length + superfluous sites

theorem Booked.start (bytes : ByteBuffer) : Booked bytes [] (.start bytes) :=
  ⟨List.suffix_rfl, by simp [Parser.start, untouched, missing, superfluous]⟩

/-- **The parser has found a header**: it has gone on to the bytes behind it, and has counted the bytes
of the header but for the superfluous and the missing ones. -/
structure Passed (header : List Site × ByteBuffer) (parser after : Parser) : Prop where
  unread : after.archive.unread = header.2
  suffix : header.2 <:+ parser.archive.unread
  total : parser.readBytes + parser.archive.unread.length + missing header.1 =
    after.readBytes + header.2.length + superfluous header.1

theorem Booked.pass {bytes : ByteBuffer} {sites : List Site} {header : List Site × ByteBuffer}
    {parser after : Parser} (booked : Booked bytes sites parser) (passed : Passed header parser after) :
    Booked bytes (sites ++ header.1) after := by
  obtain ⟨unread, suffix, total⟩ := passed
  have before := booked.total
  refine ⟨?_, ?_⟩
  · rw [unread]
    exact suffix.trans booked.suffix
  · rw [missing_append, superfluous_append, unread]
    omega

namespace Parser

variable {α : Type} {parser after : Parser}

/-- A header that has been found. -/
theorem parse_found {deserialize : Read (α × ℕ)} {value : α}
    (found : parser.parse deserialize = .ok (some value, after)) :
    ∃ size, deserialize parser.archive = (.ok (value, size), after.archive) ∧
      after.readBytes = parser.readBytes + size := by
  unfold parse at found
  split at found
  next parsed size archive ran =>
    injection found with found
    have counted : ⟨archive, parser.readBytes + size⟩ = after := congrArg Prod.snd found
    have some := congrArg Prod.fst found
    simp only at some
    split_ifs at some with positive
    cases some
    rw [← counted]
    exact ⟨size, ran, rfl⟩
  next => cases found
  next => cases found
  next => cases found

/-- A header that has not been found is not counted. -/
theorem parse_missed {deserialize : Read (α × ℕ)}
    (missed : parser.parse deserialize = .ok (none, after)) :
    after.readBytes = parser.readBytes := by
  unfold parse at missed
  split at missed
  next parsed size archive ran =>
    injection missed with missed
    have counted := congrArg Prod.snd missed
    have nothing := congrArg Prod.fst missed
    split_ifs at nothing with some
    simp only at counted
    rw [← counted]
    show parser.readBytes + size = parser.readBytes
    omega
  next =>
    cases missed
    rfl
  next =>
    cases missed
    rfl
  next => cases missed

/-- The archive is what the walk starts from, behind what has been noted before. -/
theorem archive_eq (parser : Parser) :
    parser.archive = Tape.translate Site.note parser.archive.notes ⟨parser.archive.unread, []⟩ := by
  unfold Tape.translate
  rw [List.map_nil, List.append_nil]

/-- A header of a fixed length. -/
theorem counted_passed {deserialize : Read α} {n : ℕ} {value : α} (fixed : Fixed n deserialize)
    (found : parser.parse (counted deserialize n) = .ok (some value, after)) :
    Passed ([], parser.archive.unread.drop n) parser after := by
  obtain ⟨size, ran, counted⟩ := parse_found found
  obtain ⟨header, mid, returned, finished⟩ := bind_ok.mp ran
  obtain ⟨sized, rfl⟩ := pure_ok.mp finished
  obtain rfl : n = size := congrArg Prod.snd sized
  rw [parser.archive_eq] at returned
  obtain ⟨bytes, last, walked, same, _⟩ := fixed.returned returned
  have unread : after.archive.unread = last.unread := congrArg Tape.unread same
  have split : parser.archive.unread = bytes.1 ++ last.unread := (octets_ok walked).1
  have behind : parser.archive.unread.drop n = last.unread := by
    rw [split, List.drop_left' bytes.2]
  have length := congrArg List.length split
  rw [List.length_append, bytes.2] at length
  refine ⟨unread.trans behind.symm, List.drop_suffix n _, ?_⟩
  rw [counted, behind]
  show parser.readBytes + parser.archive.unread.length + 0 =
    parser.readBytes + n + last.unread.length + 0
  omega

theorem parseBasic_passed {header : BasicHeader} (found : parser.parseBasic = .ok (some header, after)) :
    Passed (Step.basic.pass parser.archive.unread) parser after :=
  counted_passed BasicHeader.fixed found

theorem parseCommon_passed {header : CommonHeader}
    (found : parser.parseCommon = .ok (some header, after)) :
    Passed (Step.common.pass parser.archive.unread) parser after :=
  counted_passed CommonHeader.fixed found

theorem parseSecured_passed {limit : ℕ} {message : SecuredMessage}
    (found : parser.parseSecured limit = .ok (some message, after)) :
    Passed (Step.secured.pass parser.archive.unread) parser after := by
  obtain ⟨size, ran, counted⟩ := parse_found found
  have kept := @deserializeSecuredMessage_keeps limit _ leavesSuffix _ parser.archive
    (Nat.lt_succ_self _)
  rw [ran] at kept
  have accepted : Format.securedMessage.read limit ⟨parser.archive.unread, parser.archive.notes⟩ =
      (.ok size, ⟨after.archive.unread, after.archive.notes⟩) :=
    Action.bind_of_ok ran
  have balance := Format.balance accepted
  rw [parser.archive_eq] at ran
  obtain ⟨_, last, walked, same, _⟩ := deserializeSecuredMessage_follows.returned ran
  have unread : after.archive.unread = last.unread := congrArg Tape.unread same
  have behind : (Step.secured.pass parser.archive.unread).2 = last.unread := by
    show (Wire.securedMessage.walk ⟨parser.archive.unread, []⟩).2.unread = last.unread
    rw [walked]
  refine ⟨unread.trans behind.symm, ?_, ?_⟩
  · rw [behind, ← unread]
    exact kept
  · rw [behind, ← unread, counted]
    have total : parser.archive.unread.length + missing (Wire.securedMessage.sites parser.archive.unread) =
      after.archive.unread.length + size +
        superfluous (Wire.securedMessage.sites parser.archive.unread) := balance
    show parser.readBytes + parser.archive.unread.length +
        missing (Wire.securedMessage.sites parser.archive.unread) =
      parser.readBytes + size + after.archive.unread.length +
        superfluous (Wire.securedMessage.sites parser.archive.unread)
    omega

theorem parseExtended_passed {ht : HeaderType} {header : HeaderVariant}
    (found : parser.parseExtended ht = .ok (some header, after)) :
    Passed ((Step.extended ht).pass parser.archive.unread) parser after := by
  unfold parseExtended at found
  show Passed ([], parser.archive.unread.drop (extendedLength ht)) parser after
  unfold extendedLength
  split_ifs at found ⊢
  · exact counted_passed ShbHeader.fixed.map found
  · exact counted_passed GeoBroadcastHeader.fixed.map found
  · exact counted_passed BeaconHeader.fixed.map found
  · cases found

theorem parseExtended_missed {ht : HeaderType} (missed : parser.parseExtended ht = .ok (none, after)) :
    after.readBytes = parser.readBytes := by
  unfold parseExtended at missed
  split_ifs at missed
  · exact parse_missed missed
  · exact parse_missed missed
  · exact parse_missed missed
  · cases missed
    rfl

end Parser

/-! ### The boundaries of a context -/

/-- **A boundary that a context sets when it finishes**: in a packet, behind the bytes that a parser
has counted. -/
structure Boundary where
  packet : CohesivePacket
  parser : Parser

namespace Boundary

/-- The network layer. -/
def frame (boundary : Boundary) : ByteBuffer := boundary.packet.layer .network

/-- The bytes that have not been parsed. -/
def unparsed (boundary : Boundary) : ByteBuffer := boundary.parser.archive.unread

/-- **The boundary is exact**: the network layer has as many bytes as have been counted, and what
comes behind them are those that have not been parsed. -/
def Exact (boundary : Boundary) : Prop :=
  ∃ bounded, boundary.packet.setBoundary boundary.parser.readBytes = some bounded ∧
    bounded.layer .transport = boundary.unparsed ++ boundary.packet.layer .transport

/-- Parsing stays inside the frame. -/
def Within (boundary : Boundary) : Prop := boundary.parser.readBytes ≤ boundary.frame.length

variable {boundary : Boundary} {sites : List Site}

theorem within_iff (booked : Booked boundary.frame sites boundary.parser) :
    boundary.Within ↔ missing sites ≤ superfluous sites + boundary.unparsed.length := by
  have total := booked.total
  unfold Within unparsed
  omega

theorem exact_iff (booked : Booked boundary.frame sites boundary.parser) :
    boundary.Exact ↔ superfluous sites = missing sites := by
  have total := booked.total
  obtain ⟨front, split⟩ := booked.suffix
  have lengths : front.length + boundary.unparsed.length = boundary.frame.length := by
    rw [← split, List.length_append]
    rfl
  have counted : superfluous sites = missing sites ↔ boundary.parser.readBytes = front.length := by
    unfold unparsed at lengths
    omega
  rw [counted]
  constructor
  · rintro ⟨bounded, set, payload⟩
    unfold CohesivePacket.setBoundary at set
    split_ifs at set with inside
    cases set
    have dropped : boundary.frame.drop boundary.parser.readBytes = boundary.unparsed :=
      List.append_cancel_right payload
    have length := congrArg List.length dropped
    rw [List.length_drop] at length
    have inside' : boundary.parser.readBytes ≤ boundary.frame.length := inside
    omega
  · intro same
    have inside : boundary.parser.readBytes ≤ boundary.frame.length := by omega
    refine ⟨_, if_pos inside, ?_⟩
    have dropped : boundary.frame.drop boundary.parser.readBytes = boundary.unparsed := by
      rw [same, ← split, List.drop_left]
      rfl
    exact congrArg (· ++ boundary.packet.layer .transport) dropped

end Boundary

/-! ### Paths through an indication -/

namespace IndicationContext

/-- The context of a received packet. -/
def ofReceived (received : CohesivePacket) : IndicationContext :=
  basic (.deserialize received (.start (received.layer .network)))

/-- Whether the header has been found, and the context behind it. The contexts of the second phase
have no basic header and no secured message. -/
def take (limit : ℕ) (step : Step) (ctx : IndicationContext) :
    Except RouterFault (Bool × IndicationContext) :=
  match step, ctx with
  | .basic, basic ctx => ctx.parseBasic.map fun parsed => (parsed.1.isSome, basic parsed.2)
  | .secured, basic ctx =>
    (ctx.parseSecured limit).map fun parsed => (parsed.1.isSome, basic parsed.2)
  | .plaintext payload, basic ctx => (ofPlaintext ctx (.cohesive payload)).map fun next => (true, next)
  | .common, ctx => ctx.parseCommon.map fun parsed => (parsed.1.isSome, parsed.2)
  | .extended ht, ctx => (ctx.parseExtended ht).map fun parsed => (parsed.1.isSome, parsed.2)
  | _, ctx => .ok (false, ctx)

/-- The context behind a path, if all headers are found. -/
def follow (limit : ℕ) : List Step → IndicationContext → Option IndicationContext
  | [], ctx => some ctx
  | step :: rest, ctx =>
    match ctx.take limit step with
    | .ok (true, next) => next.follow limit rest
    | _ => none

/-- The boundaries that `finish` sets. -/
def boundaries : IndicationContext → List Boundary
  | basic (.deserialize packet parser) => [⟨packet, parser⟩]
  | basic (.cast _ _) => []
  | securedDeserialize (.deserialize packet parser) payload inner => [⟨payload, inner⟩, ⟨packet, parser⟩]
  | securedDeserialize (.cast _ _) payload inner => [⟨payload, inner⟩]
  | securedCast _ _ _ => []

variable {limit : ℕ} {ctx next after : IndicationContext} {step : Step}

/-- What an `Except` maps to has been returned. -/
theorem map_ok {ε α β : Type} {outcome : Except ε α} {f : α → β} {result : β}
    (mapped : outcome.map f = .ok result) : ∃ value, outcome = .ok value ∧ f value = result := by
  cases outcome with
  | error fault => cases mapped
  | ok value =>
    cases mapped
    exact ⟨value, rfl, rfl⟩

theorem found_of_isSome {α : Type} {found : Option α} {ctx : IndicationContext}
    (same : (found.isSome, ctx) = (true, next)) : (∃ value, found = some value) ∧ ctx = next := by
  injection same with some here
  exact ⟨Option.isSome_iff_exists.mp some, here⟩

section Steps

variable {packet payload : CohesivePacket} {parser inner : Parser}

/-- A header of the frame. -/
theorem take_outer (other : ∀ payload, step ≠ .plaintext payload)
    (found : (basic (.deserialize packet parser)).take limit step = .ok (true, next)) :
    ∃ after, next = basic (.deserialize packet after) ∧
      Passed (step.pass parser.archive.unread) parser after := by
  cases step with
  | plaintext payload => exact absurd rfl (other payload)
  | basic =>
    obtain ⟨⟨header, ctx'⟩, parsed, same⟩ := map_ok found
    obtain ⟨⟨header, rfl⟩, rfl⟩ := found_of_isSome same
    obtain ⟨⟨_, after⟩, ran, same⟩ := map_ok parsed
    cases same
    exact ⟨after, rfl, Parser.parseBasic_passed ran⟩
  | secured =>
    obtain ⟨⟨message, ctx'⟩, parsed, same⟩ := map_ok found
    obtain ⟨⟨message, rfl⟩, rfl⟩ := found_of_isSome same
    obtain ⟨⟨_, after⟩, ran, same⟩ := map_ok parsed
    cases same
    exact ⟨after, rfl, Parser.parseSecured_passed ran⟩
  | common =>
    obtain ⟨⟨header, ctx'⟩, parsed, same⟩ := map_ok found
    obtain ⟨⟨header, rfl⟩, rfl⟩ := found_of_isSome same
    obtain ⟨⟨_, after⟩, ran, same⟩ := map_ok parsed
    cases same
    exact ⟨after, rfl, Parser.parseCommon_passed ran⟩
  | extended ht =>
    obtain ⟨⟨header, ctx'⟩, parsed, same⟩ := map_ok found
    obtain ⟨⟨header, rfl⟩, rfl⟩ := found_of_isSome same
    obtain ⟨⟨_, after⟩, ran, same⟩ := map_ok parsed
    cases same
    exact ⟨after, rfl, Parser.parseExtended_passed ran⟩

/-- A header of the plaintext. -/
theorem take_inner {parent : BasicContext}
    (found : (securedDeserialize parent payload inner).take limit step = .ok (true, next)) :
    ∃ after behind, next = securedDeserialize parent payload after ∧
      Passed ([], behind) inner after := by
  cases step with
  | basic => cases found
  | secured => cases found
  | plaintext payload => cases found
  | common =>
    obtain ⟨⟨header, ctx'⟩, parsed, same⟩ := map_ok found
    obtain ⟨⟨header, rfl⟩, rfl⟩ := found_of_isSome same
    obtain ⟨⟨_, after⟩, ran, same⟩ := map_ok parsed
    cases same
    exact ⟨after, _, rfl, Parser.parseCommon_passed ran⟩
  | extended ht =>
    obtain ⟨⟨header, ctx'⟩, parsed, same⟩ := map_ok found
    obtain ⟨⟨header, rfl⟩, rfl⟩ := found_of_isSome same
    obtain ⟨⟨_, after⟩, ran, same⟩ := map_ok parsed
    cases same
    exact ⟨after, _, rfl, Parser.parseExtended_passed ran⟩

theorem follow_cons {rest : List Step} (followed : ctx.follow limit (step :: rest) = some next) :
    ∃ mid, ctx.take limit step = .ok (true, mid) ∧ mid.follow limit rest = some next := by
  unfold follow at followed
  split at followed
  next mid taken => exact ⟨mid, taken, followed⟩
  next => cases followed

/-- **The context behind a path**: the parser of the frame has passed the path in the frame's bytes, and
the parser of a plaintext has met no sites. -/
def Kept (frame : List Site × ByteBuffer) : IndicationContext → Prop
  | basic (.deserialize packet parser) =>
    Booked (packet.layer .network) frame.1 parser ∧ parser.archive.unread = frame.2
  | securedDeserialize (.deserialize packet parser) payload inner =>
    (Booked (packet.layer .network) frame.1 parser ∧ parser.archive.unread = frame.2) ∧
      Booked (payload.layer .network) [] inner
  | _ => False

theorem follow_inner {steps : List Step} {parent : BasicContext} {frame : List Site × ByteBuffer}
    (kept : (securedDeserialize parent payload inner).Kept frame)
    (followed : (securedDeserialize parent payload inner).follow limit steps = some next) :
    next.Kept frame := by
  induction steps generalizing inner with
  | nil =>
    cases followed
    exact kept
  | cons step rest ih =>
    obtain ⟨mid, taken, followed⟩ := follow_cons followed
    obtain ⟨after, behind, rfl, passed⟩ := take_inner taken
    refine ih ?_ followed
    cases parent with
    | cast => exact kept.elim
    | deserialize packet parser => exact ⟨kept.1, kept.2.pass passed⟩

/-- **Every path keeps the books.** -/
theorem follow_outer {steps : List Step} {sites : List Site}
    (booked : Booked (packet.layer .network) sites parser)
    (followed : (basic (.deserialize packet parser)).follow limit steps = some next) :
    next.Kept (sites ++ (pass steps parser.archive.unread).1, (pass steps parser.archive.unread).2) := by
  induction steps generalizing parser sites with
  | nil =>
    cases followed
    rw [pass, List.append_nil]
    exact ⟨booked, rfl⟩
  | cons step rest ih =>
    obtain ⟨mid, taken, onwards⟩ := follow_cons followed
    have onward (other : ∀ payload, step ≠ .plaintext payload)
        (same : pass (step :: rest) parser.archive.unread =
          ((step.pass parser.archive.unread).1 ++ (pass rest (step.pass parser.archive.unread).2).1,
            (pass rest (step.pass parser.archive.unread).2).2)) :
        next.Kept (sites ++ (pass (step :: rest) parser.archive.unread).1,
          (pass (step :: rest) parser.archive.unread).2) := by
      obtain ⟨after, rfl, passed⟩ := take_outer other taken
      have kept := ih (booked.pass passed) onwards
      rw [passed.unread, List.append_assoc] at kept
      rw [same]
      exact kept
    cases step with
    | basic => exact onward nofun rfl
    | secured => exact onward nofun rfl
    | common => exact onward nofun rfl
    | extended ht => exact onward nofun rfl
    | plaintext payload =>
      have made : securedDeserialize (.deserialize packet parser) payload
          (.start (payload.layer .network)) = mid := congrArg Prod.snd (Except.ok.inj taken)
      rw [← made] at onwards
      refine follow_inner ?_ onwards
      rw [pass, List.append_nil]
      exact ⟨⟨booked, rfl⟩, .start _⟩

theorem follow_kept {received : CohesivePacket} {steps : List Step}
    (followed : (ofReceived received).follow limit steps = some next) :
    next.Kept (pass steps (received.layer .network)) :=
  follow_outer (.start _) followed

/-- What holds of all boundaries, if it depends on the sites and the bytes that are left. -/
theorem Kept.forall_boundaries {frame : List Site × ByteBuffer} (kept : ctx.Kept frame)
    {P : Boundary → Prop} {Q : List Site → ByteBuffer → Prop}
    (each : ∀ boundary sites, Booked boundary.frame sites boundary.parser →
      (P boundary ↔ Q sites boundary.unparsed)) (plain : ∀ bytes, Q [] bytes) :
    (∀ boundary ∈ ctx.boundaries, P boundary) ↔ Q frame.1 frame.2 := by
  have outer {packet : CohesivePacket} {parser : Parser}
      (books : Booked (packet.layer .network) frame.1 parser ∧ parser.archive.unread = frame.2) :
      P ⟨packet, parser⟩ ↔ Q frame.1 frame.2 := by
    have holds := each ⟨packet, parser⟩ frame.1 books.1
    unfold Boundary.unparsed at holds
    rwa [books.2] at holds
  cases ctx with
  | securedCast => exact kept.elim
  | basic ctx =>
    cases ctx with
    | cast => exact kept.elim
    | deserialize packet parser => exact List.forall_mem_singleton.trans (outer kept)
  | securedDeserialize parent payload inner =>
    cases parent with
    | cast => exact kept.elim
    | deserialize packet parser =>
      have holds : P ⟨payload, inner⟩ := (each ⟨payload, inner⟩ [] kept.2).mpr (plain _)
      exact List.forall_mem_cons.trans ((and_iff_right holds).trans
        (List.forall_mem_singleton.trans (outer kept.1)))

end Steps

/-! ### Finishing -/

/-- **The context that is finished**: the extended header has been found, or it has not and the
context is finished all the same. -/
def Finishes (limit : ℕ) (ctx after : IndicationContext) : Prop :=
  after = ctx ∨ ∃ ht, ctx.take limit (.extended ht) = .ok (false, after)

theorem setBoundary_inside {packet : CohesivePacket} {bytes : ℕ}
    (inside : bytes ≤ (packet.layer .network).length) :
    ∃ bounded, packet.setBoundary bytes = some bounded := by
  unfold CohesivePacket.setBoundary
  rw [if_pos inside]
  exact ⟨_, rfl⟩

theorem setBoundary_outside {packet : CohesivePacket} {bytes : ℕ}
    (outside : ¬ bytes ≤ (packet.layer .network).length) : packet.setBoundary bytes = none :=
  if_neg outside

theorem not_ok_of_error {ε α : Type} {fault : ε} :
    ¬ ∃ value : α, (Except.error fault : Except ε α) = .ok value := by
  rintro ⟨_, impossible⟩
  cases impossible

/-- The context of the first phase finishes if there are as many bytes as have been counted. -/
theorem finish_basic_ok_iff {payload : ℕ} {ctx : BasicContext} :
    (∃ packet, ctx.finish payload = .ok packet) ↔ ∀ boundary ∈ (basic ctx).boundaries,
      boundary.parser.readBytes ≤ boundary.frame.length := by
  cases ctx with
  | cast packet => exact iff_of_true ⟨.chunk packet, rfl⟩ nofun
  | deserialize packet parser =>
    unfold BasicContext.finish
    by_cases inside : parser.readBytes ≤ (packet.layer .network).length
    · obtain ⟨bounded, set⟩ := setBoundary_inside inside
      simp only [set]
      exact iff_of_true ⟨_, rfl⟩ (List.forall_mem_singleton.mpr inside)
    · simp only [setBoundary_outside inside]
      refine iff_of_false not_ok_of_error fun all => ?_
      exact inside (all ⟨packet, parser⟩ (List.mem_singleton.mpr rfl))

/-- So does every context, for all boundaries that it sets. -/
theorem finish_ok_iff {payload : ℕ} :
    (∃ packet, ctx.finish payload = .ok packet) ↔
      ∀ boundary ∈ ctx.boundaries, boundary.parser.readBytes ≤ boundary.frame.length := by
  cases ctx with
  | securedCast packet => exact iff_of_true ⟨packet, rfl⟩ nofun
  | basic ctx => exact finish_basic_ok_iff
  | securedDeserialize parent received inner =>
    have both : (∀ boundary ∈ (securedDeserialize parent received inner).boundaries,
        boundary.parser.readBytes ≤ boundary.frame.length) ↔
          inner.readBytes ≤ (received.layer .network).length ∧
            ∃ packet, parent.finish payload = .ok packet := by
      rw [finish_basic_ok_iff]
      cases parent with
      | cast => exact List.forall_mem_cons
      | deserialize packet parser => exact List.forall_mem_cons
    rw [both]
    unfold finish
    by_cases inside : inner.readBytes ≤ (received.layer .network).length
    · obtain ⟨bounded, set⟩ := setBoundary_inside inside
      simp only [set]
      cases parent.finish payload with
      | error fault => exact iff_of_false not_ok_of_error fun both => not_ok_of_error both.2
      | ok packet => exact iff_of_true ⟨_, rfl⟩ ⟨inside, packet, rfl⟩
    · simp only [setBoundary_outside inside]
      exact iff_of_false not_ok_of_error fun all => inside all.1

/-- An extended header that is missing leaves the boundaries where they are. -/
theorem finish_missed {ht : HeaderType} {payload : ℕ}
    (missed : ctx.take limit (.extended ht) = .ok (false, after)) :
    after.finish payload = ctx.finish payload := by
  obtain ⟨⟨header, ctx'⟩, parsed, same⟩ := map_ok missed
  injection same with nothing here
  obtain rfl : header = none := Option.isSome_eq_false_iff.mp nothing |> Option.isNone_iff_eq_none.mp
  rw [← here]
  cases ctx with
  | securedCast => cases parsed
  | securedDeserialize parent received inner =>
    obtain ⟨⟨_, inner'⟩, ran, same⟩ := map_ok parsed
    cases same
    have counted := Parser.parseExtended_missed ran
    unfold finish
    simp only [counted]
  | basic ctx =>
    cases ctx with
    | cast => cases parsed
    | deserialize packet parser =>
      obtain ⟨⟨_, parser'⟩, ran, same⟩ := map_ok parsed
      cases same
      have counted := Parser.parseExtended_missed ran
      unfold finish BasicContext.finish
      simp only [counted]

end IndicationContext

/-! ### Two packets -/

namespace Sample

/-- A packet of a network layer. -/
def packet (network : ByteBuffer) : CohesivePacket :=
  ⟨fun layer => if layer = .network then network else []⟩

/-- A certificate of 127 bytes. -/
def certificate : ByteBuffer :=
  [2, 0, 1, 55] ++ List.replicate 55 0 ++ [0, 0, 0, 0] ++ List.replicate 64 0

/-- A basic header and a secured message: header fields of 131 bytes, which are a chain of this
certificate, a common header as payload, and no trailer fields. -/
def chained : CohesivePacket :=
  packet ([0x12, 0, 0, 1] ++ [2, 0x80, 131, 128, 3, 127] ++ certificate ++
    [1, 8] ++ List.replicate 8 0 ++ [0])

def plaintext : CohesivePacket := packet (List.replicate 8 0)

/-- A common header, the extended header of a single-hop broadcast and two more bytes. -/
def singleHop : ByteBuffer := [0x20, 0x50] ++ List.replicate 36 0

/-- A basic header, a secured message whose sites are all canonical, with an ITS-AID in the header and
this payload, and two more bytes. -/
def canonical : CohesivePacket :=
  packet ([0x12, 0, 0, 1] ++ [2, 2, 5, 36] ++ [1, 38] ++ singleHop ++ [67, 1, 0, 0] ++
    List.replicate 64 9 ++ [7, 7])

end Sample

namespace IndicationContext

end IndicationContext

end Vanet.Geonet
