/-
**A position on its way to the peers.**

The loop publishes degrees, `CamApplication::on_message` reads integers and `buildJSON` writes them
back: nobody scales by `const = 10^7`. What arrives is the position without its fractional part, so
the error is below the resolution only where that part vanishes (`position_arrives_iff`).
-/

import Vanet.Simulator.Network

namespace Vanet.Simulator

open Vanet.Library Vanet.Socktap

/-- The resolution of a coordinate in a CAM, in degrees. -/
def camResolution : ℚ := 1 / 10 ^ 7

/-- Every CAM of a station can be encoded. -/
theorem camPayload_encodable (i : Station) (position : Position) {velocity : ℕ}
    (slow : velocity ≤ 16383) : (camOnMessage (camPayload i position velocity)).Encodable := by
  have latitude := @truncate_mem position.lat 90 (by exact_mod_cast position.lat_range)
  have longitude := @truncate_mem position.lng 180 (by exact_mod_cast position.lng_range)
  have speed : truncate (velocity : ℚ) = velocity := by
    exact_mod_cast truncate_intCast velocity
  -- the other fields are the same in every CAM
  have parked : (camOnMessage (camPayload 0 (eastward 0) 0)).Encodable := by decide +kernel
  obtain ⟨-, -, -, semiMajor, semiMinor, orientation, altitude, altitudeConfidence, stationType,
    heading, headingConfidence, -, rest⟩ := parked
  refine ⟨?_, ?_, ?_, semiMajor, semiMinor, orientation, altitude, altitudeConfidence, stationType,
    heading, headingConfidence, ?_, rest⟩
  · show (i : ℕ) ≤ 4294967295
    omega
  · show InRange _ (truncate position.lat) _
    unfold InRange
    omega
  · show InRange _ (truncate position.lng) _
    unfold InRange
    omega
  · show InRange _ (truncate (velocity : ℚ)) _
    rw [speed]
    unfold InRange
    omega

/-- A peer in no group stores the coordinates it receives. -/
theorem handler_cam {world : World} {j : Station} {q : Process} (free : (q.vals j).groupID = -1)
    (payload : CamJson) :
    (handler world j q (.cam payload)).process.surroundings =
      q.surroundings.append payload.stationID
        [payload.latitude, payload.longitude, payload.heading] := by
  rw [handler_eq]
  simp only [onMessage, onCam, if_pos free]
  rfl

/-- **What arrives of a position.** For every CAM a station publishes in a reachable state and every
peer in no group, the peer's last position of the station differs from the published one by at most
the resolution in both coordinates exactly if the fractional parts of both are at most that. -/
theorem position_arrives_iff {world : World} {s : System} (reached : Reached world s) {i : Station}
    {t : Turn} (turning : turn world i (s.procs i) = some t) {payload : CamJson}
    (published : payload ∈ t.cams) {j : Station} {peer : Process}
    (free : (peer.vals j).groupID = -1) :
    ∃ received lat lng heading, camBroadcast payload = some received ∧
      (handler world j peer (.cam received)).process.surroundings.last i =
        .ok [lat, lng, heading] ∧
      (|payload.latitude - lat| ≤ camResolution ∧ |payload.longitude - lng| ≤ camResolution ↔
        Int.fract |payload.latitude| ≤ camResolution ∧
          Int.fract |payload.longitude| ≤ camResolution) := by
  obtain ⟨position, rfl⟩ := turn_cams turning published
  have slow : ((s.procs i).vals i).speed ≤ 16383 := by
    rcases (reachable_shaped reached).speed i with initial | group <;> omega
  let payload := camPayload i position ((s.procs i).vals i).speed
  refine ⟨buildJSON (camOnMessage payload), truncate payload.latitude, truncate payload.longitude,
    truncate payload.heading, if_pos (camPayload_encodable i position slow), ?_, ?_⟩
  · rw [handler_cam free]
    exact Surroundings.last_append ..
  · rw [abs_sub_truncate, abs_sub_truncate]

/-- Next to the crossing of a parallel and a meridian. -/
def crossing : Position := ⟨42.00000004, -95.00000005, by norm_num [abs_le], by norm_num [abs_le]⟩

/-- Next to a crossing less than the resolution is lost. -/
theorem position_arrives_crossing :
    ∃ received lat lng heading,
      camBroadcast (camPayload 0 crossing 100) = some received ∧
      (handler equator 1 .initial (.cam received)).process.surroundings.last 0 =
        .ok [lat, lng, heading] ∧
      |crossing.lat - lat| ≤ camResolution ∧ |crossing.lng - lng| ≤ camResolution := by
  let world : World := { equator with startPoint := crossing }
  obtain ⟨received, lat, lng, heading, sent, stored, arrives⟩ :=
    @position_arrives_iff world .initial (.start rfl) 0 (firstCam world 0 .initial) rfl
      (camPayload 0 crossing 100) List.mem_cons_self 1 .initial rfl
  exact ⟨received, lat, lng, heading, sent, stored, arrives.mpr (by decide +kernel)⟩

/-- The pickup point of the simulation. -/
def pickup : Position := ⟨42.48252, -95.98588, by norm_num [abs_le], by norm_num [abs_le]⟩

/-- From the pickup point, latitude 42 and longitude -95 arrive. -/
theorem pickup_truncated :
    ¬ ∀ (world : World) (s : System), Reached world s → ∀ (i : Station) (t : Turn),
      turn world i (s.procs i) = some t → ∀ payload ∈ t.cams, ∀ (j : Station) (peer : Process),
        (peer.vals j).groupID = -1 → ∃ received lat lng heading,
          camBroadcast payload = some received ∧
          (handler world j peer (.cam received)).process.surroundings.last i =
            .ok [lat, lng, heading] ∧
          |payload.latitude - lat| ≤ camResolution ∧
          |payload.longitude - lng| ≤ camResolution := by
  intro claimed
  let world : World := { equator with startPoint := pickup }
  obtain ⟨received, lat, lng, heading, sent, stored, close, -⟩ := claimed world .initial (.start rfl)
    0 (firstCam world 0 .initial) rfl (camPayload 0 pickup 100) List.mem_cons_self 1 .initial rfl
  obtain ⟨-, rfl⟩ := camBroadcast_eq_some sent
  rw [handler_cam rfl] at stored
  have last := stored.symm.trans (Surroundings.last_append ..)
  simp only [Except.ok.injEq, List.cons.injEq] at last
  rw [last.1] at close
  exact absurd close (by decide +kernel)

end Vanet.Simulator
