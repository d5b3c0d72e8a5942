/-
**The campaign of a station.**

What a station's own loop says of leadership are the `leaderCheck`s that it wins and the group messages
that it publishes. `currentGroup` is the station's own id from the SET on, so it does not run for leadership
again, and `repeatDenm` holds from then on, so nothing is repeated before.

`elected_once`: whatever is delivered or lost in between, a station is elected at most once, publishes at
most one SET, directly after its election, and nothing but REPEATs from then on.
-/

import Vanet.Simulator.Network

namespace Vanet.Simulator

open Vanet.Library Vanet.Socktap

/-- A won `leaderCheck` or a group message of station `i`. -/
def Event.campaigns (i : Station) : Event → Bool
  | .leaderCheckTrue j => j = i
  | .published j text => j = i ∧ text.causeCode = 100
  | .acceptedSet _ _ => false

/-- **What a station's loop has said of leadership**, in its order. -/
def campaign (i : Station) (history : List Event) : List Event := history.filter (Event.campaigns i)

/-- The event is the publication of a REPEAT by station `i`. -/
def Event.IsRepeatOf (i : Station) : Event → Prop
  | .published j text => j = i ∧ text.Event 100 2
  | _ => False

/-- **The campaigns that there are.** -/
inductive Campaign (i : Station) : List Event → Prop
  | silent : Campaign i []
  | won : Campaign i [.leaderCheckTrue i]
  | leads {set : DenmText} {repeats : List Event} (isSet : set.Event 100 1)
      (repeating : ∀ event ∈ repeats, event.IsRepeatOf i) :
      Campaign i (.leaderCheckTrue i :: .published i set :: repeats)

/-- Where a loop stands in its campaign. -/
inductive Stage (i : Station) (loop : Loop) : List Event → Prop
  | candidate (phase : loop.phase ≠ .elected) (silent : loop.repeatDenm = false) : Stage i loop []
  | elected (phase : loop.phase = .elected) : Stage i loop [.leaderCheckTrue i]
  | broken {error : PyError} (phase : loop.phase = .failed error) : Stage i loop [.leaderCheckTrue i]
  | leads {set : DenmText} {repeats : List Event} (phase : loop.phase ≠ .elected)
      (own : loop.currentGroup = (i : ℕ)) (isSet : set.Event 100 1)
      (repeating : ∀ event ∈ repeats, event.IsRepeatOf i) :
      Stage i loop (.leaderCheckTrue i :: .published i set :: repeats)

theorem Stage.legal {i : Station} {loop : Loop} {events : List Event} (stage : Stage i loop events) :
    Campaign i events := by
  cases stage with
  | candidate phase silent => exact .silent
  | elected phase => exact .won
  | broken phase => exact .won
  | leads phase own isSet repeating => exact .leads isSet repeating

section Turns

variable {world : World} {i : Station} {p : Process} {t : Turn} {events : List Event}

/-! ### Turns -/

/-- The events of a turn. -/
def turnEvents (i : Station) (t : Turn) : List Event := election i t ++ t.denms.map (.published i)

/-- A turn that neither wins an election nor publishes. -/
structure Idles (p : Process) (t : Turn) : Prop where
  quiet : t.denms = []
  phase : t.process.loop.phase ≠ .elected
  repeatDenm : t.process.loop.repeatDenm = true → p.loop.repeatDenm = true
  currentGroup : t.process.loop.currentGroup = p.loop.currentGroup

/-- **A won election is all that a turn without a message says.** -/
theorem campaign_election (quiet : t.denms = []) : campaign i (turnEvents i t) = election i t := by
  unfold turnEvents election
  rw [quiet, List.map_nil, List.append_nil]
  split_ifs
  · exact List.filter_cons_of_pos (decide_eq_true rfl)
  · rfl

/-- The campaign of a station that publishes a group message. -/
theorem campaign_publishes {subCauseCode : ℕ} {text : DenmText}
    (built : groupPayload i p subCauseCode = .ok text) (sent : t.denms = [text])
    (phase : t.process.loop.phase ≠ .elected) :
    text.Event 100 subCauseCode ∧ campaign i (turnEvents i t) = [.published i text] := by
  obtain ⟨group, -, rfl⟩ := groupPayload_eq_ok.mp built
  refine ⟨⟨rfl, rfl⟩, ?_⟩
  unfold turnEvents election
  rw [sent, if_neg phase]
  exact List.filter_cons_of_pos (decide_eq_true ⟨rfl, rfl⟩)

section Stages

variable (stage : Stage i p.loop events)
include stage

/-- **An idle turn keeps a candidate a candidate and a leader a leader.** -/
theorem Stage.keep (before : p.loop.phase ≠ .elected) (running : ∀ error, p.loop.phase ≠ .failed error)
    (idles : Idles p t) : Stage i t.process.loop (events ++ campaign i (turnEvents i t)) := by
  have silent : election i t = [] := if_neg idles.phase
  rw [campaign_election idles.quiet, silent, List.append_nil]
  cases stage with
  | candidate _ silent =>
    refine .candidate idles.phase (Bool.eq_false_iff.mpr fun held => ?_)
    rw [idles.repeatDenm held] at silent
    cases silent
  | elected elected => exact absurd elected before
  | broken failed => exact absurd failed (running _)
  | leads _ own isSet repeating =>
    exact .leads idles.phase (idles.currentGroup.trans own) isSet repeating

/-- **Only a leader repeats.** -/
theorem stage_repeatDenm (phase : p.loop.phase = .head) :
    Stage i (repeatDenm i p).process.loop (events ++ campaign i (turnEvents i (repeatDenm i p))) := by
  have before : p.loop.phase ≠ .elected := by
    rw [phase]
    nofun
  have running : ∀ error, p.loop.phase ≠ .failed error := by
    rw [phase]
    nofun
  rcases repeatDenm_cases with ⟨payload, repeats, _, built, result⟩ | ⟨_, _, _, _, result⟩ | result <;>
    rw [result]
  · obtain ⟨event, said⟩ := @campaign_publishes i p
      { process := p.setLoop { p.loop with phase := .body }, denms := [payload] } 2 payload built rfl nofun
    rw [said]
    cases stage with
    | candidate _ silent =>
      rw [repeats] at silent
      cases silent
    | elected elected => exact absurd elected before
    | broken failed => exact absurd failed (running _)
    | leads _ own isSet repeating =>
      refine .leads nofun own isSet fun published member => ?_
      rcases List.mem_append.mp member with old | new
      · exact repeating published old
      · rw [List.mem_singleton.mp new]
        exact ⟨rfl, event⟩
  · refine stage.keep before running ?_
    exact ⟨rfl, nofun, id, rfl⟩
  · refine stage.keep before running ?_
    exact ⟨rfl, nofun, id, rfl⟩

/-- **Only a candidate runs for leadership.** -/
theorem stage_checkLeader (phase : p.loop.phase = .body) :
    Stage i (checkLeader world i p).process.loop
      (events ++ campaign i (turnEvents i (checkLeader world i p))) := by
  have before : p.loop.phase ≠ .elected := by
    rw [phase]
    nofun
  have running : ∀ error, p.loop.phase ≠ .failed error := by
    rw [phase]
    nofun
  rcases checkLeader_cases with ⟨leader, stored, other, _, result⟩ | ⟨_, _, _, result⟩ | ⟨_, result⟩ <;>
    rw [result]
  · cases leader with
    | false =>
      refine stage.keep before running ?_
      cases stored <;> exact ⟨rfl, nofun, id, rfl⟩
    | true =>
      rw [campaign_election rfl]
      cases stage with
      | candidate _ silent => exact .elected rfl
      | elected elected => exact absurd elected before
      | broken failed => exact absurd failed (running _)
      | leads _ own _ _ => exact absurd own other
  · refine stage.keep before running ?_
    exact ⟨rfl, nofun, id, rfl⟩
  · refine stage.keep before running ?_
    exact ⟨rfl, nofun, id, rfl⟩

/-- **A SET follows the election.** -/
theorem stage_publishSet (phase : p.loop.phase = .elected) :
    Stage i (publishSet i p).process.loop (events ++ campaign i (turnEvents i (publishSet i p))) := by
  cases stage with
  | candidate before _ => exact absurd phase before
  | broken failed =>
    rw [phase] at failed
    cases failed
  | leads before _ _ _ => exact absurd phase before
  | elected _ =>
    rcases publishSet_cases with ⟨payload, built, result⟩ | ⟨_, _, result⟩
    · obtain ⟨event, said⟩ := @campaign_publishes i p (publishSet i p) 1 payload built (by rw [result])
        (by rw [result]; nofun)
      rw [said, result]
      exact .leads nofun rfl event fun _ member => absurd member List.not_mem_nil
    · rw [result]
      exact .broken rfl

/-- **A stretch of the loop takes the campaign on.** -/
theorem stage_turn (taken : turn world i p = some t) :
    Stage i t.process.loop (events ++ campaign i (turnEvents i t)) := by
  rcases turn_cases taken with ⟨phase, rfl⟩ | ⟨phase, rfl⟩ | ⟨phase, _, rfl⟩ | ⟨phase, _, rfl⟩ | ⟨phase, rfl⟩
  · have idles : Idles p (firstCam world i p) := ⟨rfl, nofun, nofun, rfl⟩
    refine stage.keep ?_ ?_ idles <;>
    · rw [phase]
      nofun
  · exact stage_repeatDenm stage phase
  · exact stage_checkLeader stage phase
  · obtain ⟨quiet, currentGroup, repeatDenm, after, _⟩ := @drive_cases world i p
    refine stage.keep ?_ ?_ ⟨quiet, after, fun held => repeatDenm ▸ held, currentGroup⟩ <;>
    · rw [phase]
      nofun
  · exact stage_publishSet stage phase

end Stages

end Turns

/-! ### Runs -/

section Runs

variable {world : World} {s : System}

theorem campaign_append (i : Station) (before after : List Event) :
    campaign i (before ++ after) = campaign i before ++ campaign i after := List.filter_append ..

/-- **A handler says nothing of leadership.** -/
theorem campaign_delivered (i : Station) (k : ℕ) (packet : Packet) :
    campaign i (s.delivered world k packet).history = campaign i s.history := by
  unfold System.delivered
  rw [campaign_append]
  refine List.append_right_eq_self.mpr (List.filter_eq_nil_iff.mpr fun event member => ?_)
  rcases List.mem_append.mp member with accepted | published
  · intro campaigns
    unfold acceptance at accepted
    split at accepted
    · split_ifs at accepted
      · rw [List.mem_singleton.mp accepted] at campaigns
        cases campaigns
      · cases accepted
    · cases accepted
  · obtain ⟨text, sent, rfl⟩ := List.mem_map.mp published
    obtain ⟨denm, -, answers⟩ := handler_sent sent
    intro campaigns
    exact answers.not_group text.subCauseCode ⟨(of_decide_eq_true campaigns).2, rfl⟩

/-- **A turn says nothing of the others.** -/
theorem campaign_turned_other {i j : Station} (t : Turn) (other : j ≠ i) :
    campaign j (s.turned i t).history = campaign j s.history := by
  unfold System.turned
  rw [campaign_append]
  refine List.append_right_eq_self.mpr (List.filter_eq_nil_iff.mpr fun event member => ?_)
  intro campaigns
  rcases List.mem_append.mp member with elected | published
  · unfold election at elected
    split_ifs at elected
    · rw [List.mem_singleton.mp elected] at campaigns
      exact other (of_decide_eq_true campaigns).symm
    · cases elected
  · obtain ⟨text, -, rfl⟩ := List.mem_map.mp published
    exact other (of_decide_eq_true campaigns).1.symm

/-- **A station is elected at most once**: whatever is delivered or lost in between, its loop wins at most
one `leaderCheck`, the SET follows it, and REPEATs are all it says of its group from then on. -/
theorem elected_once (reached : Reached world s) (i : Station) : Campaign i (campaign i s.history) := by
  suffices staged : ∀ j, Stage j (s.procs j).loop (campaign j s.history) from (staged i).legal
  refine system_invariant (I := fun s => ∀ j, Stage j (s.procs j).loop (campaign j s.history))
    ?_ ?_ ?_ ?_ s reached
  · exact fun j => .candidate nofun rfl
  · intro s k packet _ staged _ _ _ j
    rw [delivered_loop, campaign_delivered]
    exact staged j
  · exact fun s k staged => staged
  · intro s i t _ staged _ turning j
    by_cases same : j = i
    · subst same
      rw [turned_self, System.turned, campaign_append]
      exact stage_turn (staged j) turning
    · rw [turned_other t same, campaign_turned_other t same]
      exact staged j

/-- Station 0 is elected and has repeated its group once. -/
theorem elected_once_leader :
    ∃ s : System, (campaign 0 s.history).length = 3 ∧ Campaign 0 (campaign 0 s.history) := by
  obtain ⟨s, reached, said⟩ := run_reach (· = System.initial) (System.step equator) (fun _ _ => True)
    (fun s => (campaign 0 s.history).length = 3) rfl electionRun (by decide +kernel)
  exact ⟨s, said, elected_once reached 0⟩

end Runs

end Vanet.Simulator
