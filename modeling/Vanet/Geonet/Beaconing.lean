/-
**The beacon service over whole runs.**

A station is watched: `since` is the time of its last announcement, or of its construction. The numbers
that are drawn for a beacon's delay are those of `reset_beacon_timer`, and time passes a scheduled beacon
by a bounded lateness at most.

* `Watched.step`, `Watched.reachable`: in every run exactly one beacon is scheduled, unless a callback has
  failed, and its deadline lies between the retransmission interval and the interval with the largest
  jitter behind the last announcement.
* `Watch.on_time`: hence a router with beaconing is never silent for longer than the interval, the largest
  jitter and the lateness, however packets, requests and callbacks are interleaved, and no beacon follows
  another announcement sooner than the interval.
* `disabled_silent`: a router without beaconing never sends a beacon, although its single-hop broadcasts
  start the timer.
-/

import Vanet.Geonet.Announcing
import Vanet.Geonet.Contention
import Vanet.Geonet.Repeater

namespace Vanet.Geonet

open Vanet.Common Vanet.Library Vanet.Security
open Vanet.Net hiding ByteBuffer
open Act Router

/-! ### Delays -/

/-- The entries of the MIB that only the beacon service reads, in microseconds. -/
structure BeaconService where
  itsGnBeaconServiceRetransmitTimer : ℚ
  itsGnBeaconServiceMaxJitter : ℚ
  interval_nonneg : 0 ≤ itsGnBeaconServiceRetransmitTimer
  jitter_nonneg : 0 ≤ itsGnBeaconServiceMaxJitter

namespace BeaconService

variable (service : BeaconService)

/-- The delay that `reset_beacon_timer` schedules for a drawn jitter. -/
def nextBeacon (jitter : ℚ) : ℤ :=
  clockCast (service.itsGnBeaconServiceRetransmitTimer + jitter * service.itsGnBeaconServiceMaxJitter)

/-- The delay of a deferred initial beacon. -/
def firstBeacon (dist : ℚ) : ℤ := clockCast (dist * service.itsGnBeaconServiceRetransmitTimer)

/-- The shortest and the longest delay. -/
def least : ℤ := clockCast service.itsGnBeaconServiceRetransmitTimer

def most : ℤ :=
  clockCast (service.itsGnBeaconServiceRetransmitTimer + service.itsGnBeaconServiceMaxJitter)

/-- The environment's delays have been drawn with jitters of a unit interval. -/
def Draws (env : Environment) : Prop :=
  ∀ k, ∃ jitter, 0 ≤ jitter ∧ jitter < 1 ∧ env.nextBeacon k = service.nextBeacon jitter

end BeaconService

theorem clockCast_mono {shorter longer : ℚ} (nonneg : 0 ≤ shorter) (below : shorter ≤ longer) :
    clockCast shorter ≤ clockCast longer := by
  rw [clockCast_of_nonneg nonneg, clockCast_of_nonneg (nonneg.trans below)]
  exact Int.floor_le_floor below

section Delays

variable {service : BeaconService}

theorem BeaconService.nextBeacon_bounds {jitter : ℚ} (nonneg : 0 ≤ jitter) (below : jitter < 1) :
    service.least ≤ service.nextBeacon jitter ∧ service.nextBeacon jitter ≤ service.most := by
  have drawn : 0 ≤ jitter * service.itsGnBeaconServiceMaxJitter :=
    mul_nonneg nonneg service.jitter_nonneg
  have bounded : jitter * service.itsGnBeaconServiceMaxJitter ≤ service.itsGnBeaconServiceMaxJitter :=
    mul_le_of_le_one_left service.jitter_nonneg below.le
  constructor
  · exact clockCast_mono service.interval_nonneg (le_add_of_nonneg_right drawn)
  · exact clockCast_mono (add_nonneg service.interval_nonneg drawn)
      (add_le_add_right bounded _)

theorem BeaconService.firstBeacon_bounds {dist : ℚ} (nonneg : 0 ≤ dist) (below : dist < 1) :
    0 ≤ service.firstBeacon dist ∧ service.firstBeacon dist ≤ service.most := by
  have deferred : 0 ≤ dist * service.itsGnBeaconServiceRetransmitTimer :=
    mul_nonneg nonneg service.interval_nonneg
  refine ⟨clockCast_nonneg deferred, clockCast_mono deferred ?_⟩
  calc dist * service.itsGnBeaconServiceRetransmitTimer
      ≤ service.itsGnBeaconServiceRetransmitTimer :=
        mul_le_of_le_one_left service.interval_nonneg below.le
    _ ≤ _ := le_add_of_nonneg_right service.jitter_nonneg

theorem BeaconService.most_nonneg : 0 ≤ service.most :=
  clockCast_nonneg (add_nonneg service.interval_nonneg service.jitter_nonneg)

end Delays

/-! ### Watching a station -/

/-- The events that a step has added. -/
def Station.newEvents (before after : Station) : List Event :=
  after.router.trace.drop before.router.trace.length

/-- **A station with the time of its last announcement**; `spoken` tells it from the time of its
construction. -/
structure Watch where
  station : Station
  since : ℤ
  spoken : Bool

namespace Watch

variable (platform : Platform) (service : BeaconService) (lateness : ℤ)

/-- A router has just been constructed, with or without a deferred beacon. -/
def Initial (watch : Watch) : Prop :=
  ∃ now dist, 0 ≤ dist ∧ dist < 1 ∧
    watch = ⟨⟨.create platform.mib now (service.firstBeacon dist), [], false⟩, now, false⟩

/-- The watch when the station has become another one. -/
def following (watch : Watch) (after : Station) : Watch :=
  if (watch.station.newEvents after).any Event.announces then ⟨after, after.router.now, true⟩
  else ⟨after, watch.since, watch.spoken⟩

def step (watch : Watch) (input : Environment × Station.Action) : Option Watch :=
  (Station.step platform watch.station input).map watch.following

/-- **A punctual step**: delays are drawn as the router draws them, and time passes the deadline of a
scheduled beacon by the lateness at most. -/
def Punctual (watch : Watch) (input : Environment × Station.Action) : Prop :=
  service.Draws input.1 ∧
    match input.2 with
    | .advance d => ∀ item ∈ watch.station.router.beaconTimers,
        watch.station.router.now + d ≤ item.deadline + lateness
    | _ => True

/-- **What holds in every run.** -/
structure Watched (watch : Watch) : Prop where
  owned : ∀ item ∈ watch.station.router.runtime.queue, item.callback = .beaconTimerExpired →
    item.scope = some .router
  silence : watch.station.router.now ≤ watch.since + service.most + lateness
  pending : watch.station.failed = false →
    ∃ deadline, watch.station.router.beaconTimers = [beaconTimer deadline] ∧
      deadline ≤ watch.since + service.most ∧
      (watch.spoken = true → watch.since + service.least ≤ deadline)

end Watch

/-! ### What a step does -/

/-- The callback that is due is the beacon timer's. -/
structure Station.BeaconDue (env : Environment) (before after : Station) : Prop where
  due : ∃ item rest, before.router.runtime.queue = item :: rest ∧
    item.deadline ≤ before.router.now ∧ item.callback = .beaconTimerExpired ∧
    ((∃ request pdu payload k, after.router =
        ((before.router.invoked rest).emit (.passedDown .beacon request pdu payload)).resetBeaconTimerIn
          (env.nextBeacon k) ∧ after.failed = false) ∨
      after.router = before.router.invoked rest ∧ after.failed = true)

/-- Another callback is due. -/
structure Station.OtherDue (env : Environment) (before after : Station) : Prop where
  due : ∃ item rest, before.router.runtime.queue = item :: rest ∧
    item.callback ≠ .beaconTimerExpired ∧ Tends env (before.router.invoked rest) after.router

section Steps

variable {platform : Platform} {env : Environment} {station after : Station}

/-- **The steps of a station** with beaconing. -/
theorem Station.step_cases (enabled : platform.mib.vanetzaDisableBeaconing = false)
    {action : Station.Action} (taken : Station.step platform station (env, action) = some after) :
    station.failed = false ∧
      ((∃ d, action = .advance d ∧ after = station.withRouter { station.router with
          runtime := { station.router.runtime with now := station.router.now + d } }) ∨
        Tends env station.router after.router ∨
        Station.OtherDue env station after ∨ Station.BeaconDue env station after) := by
  unfold Station.step at taken
  split_ifs at taken with failed
  refine ⟨Bool.not_eq_true _ |>.mp failed, ?_⟩
  cases action with
  | indicate packet ll =>
    cases taken
    exact .inr (.inl (tends_indicate packet ll _))
  | request request payload =>
    cases taken
    exact .inr (.inl (tends_request request payload _))
  | updatePosition fix =>
    cases taken
    exact .inr (.inl (.beside rfl rfl))
  | setAddress addr =>
    cases taken
    exact .inr (.inl (.beside rfl rfl))
  | setTransportHandler proto handled =>
    cases taken
    exact .inr (.inl (.beside rfl rfl))
  | advance d =>
    dsimp only at taken
    split_ifs at taken
    cases taken
    exact .inl ⟨d, rfl, rfl⟩
  | fire =>
    obtain ⟨⟨item, runtime⟩, popped, rfl⟩ := Option.map_eq_some_iff.mp taken
    obtain ⟨rest, queued, due, rfl⟩ := ManualRuntime.popDue_some.mp popped
    by_cases expires : item.callback = .beaconTimerExpired
    · refine .inr (.inr (.inr ⟨item, rest, queued, due, expires, ?_⟩))
      have invoked : Router.invoke platform env item.callback item.deadline
          { station.router with runtime := { station.router.runtime with queue := rest } } =
          onBeaconTimerExpired platform env (station.router.invoked rest) := by
        rw [expires]
        rfl
      dsimp only
      rw [invoked]
      rcases @onBeaconTimerExpired_enabled platform env enabled (station.router.invoked rest) with
        ⟨request, pdu, payload, k, made⟩ | ⟨fault, failing⟩
      · rw [made]
        exact .inl ⟨request, pdu, payload, k, rfl, rfl⟩
      · rw [failing]
        exact .inr ⟨rfl, rfl⟩
    · exact .inr (.inr (.inl ⟨item, rest, queued, expires, tends_invoke expires _ _⟩))

/-- Only the beacon timer's callback sends a beacon. -/
theorem Station.newEvents_of_trace {more : List Event}
    (extended : after.router.trace = station.router.trace ++ more) :
    station.newEvents after = more := by
  unfold Station.newEvents
  rw [extended, List.drop_left]

end Steps

/-! ### Runs -/

namespace Watch

section Kept

variable {service : BeaconService} {lateness : ℤ} {env : Environment} {watch : Watch}
  {after : Station}

/-- The timer has just been restarted. -/
theorem watched_restarted (draws : service.Draws env) (tolerant : 0 ≤ lateness)
    (owned : ∀ item ∈ after.router.runtime.queue, item.callback = .beaconTimerExpired →
      item.scope = some .router)
    {k : ℕ} (restarted : after.router.beaconTimers =
      [beaconTimer (after.router.now + env.nextBeacon k)]) :
    Watched service lateness ⟨after, after.router.now, true⟩ := by
  obtain ⟨jitter, nonneg, below, drawn⟩ := draws k
  obtain ⟨least, most⟩ := service.nextBeacon_bounds nonneg below
  have long := service.most_nonneg
  rw [drawn] at restarted
  refine ⟨owned, ?_, fun _ => ⟨_, restarted, ?_, fun _ => ?_⟩⟩
  · show after.router.now ≤ after.router.now + service.most + lateness
    omega
  · exact Int.add_le_add_left most _
  · exact Int.add_le_add_left least _

/-- **The timer is tended**: it is as before, or it has been restarted at the time of an
announcement. -/
theorem Watched.tends (watched : Watched service lateness watch) (draws : service.Draws env)
    (tolerant : 0 ≤ lateness) (running : watch.station.failed = false)
    (tends : Tends env watch.station.router after.router) :
    Watched service lateness (watch.following after) := by
  obtain ⟨more, extended, -, timers⟩ := tends.timers
  have owned : ∀ item ∈ after.router.runtime.queue, item.callback = .beaconTimerExpired →
      item.scope = some .router := by
    intro item member expires
    rcases tends.owned item member expires with ours | old
    · exact ours
    · exact watched.owned item old expires
  unfold following
  rw [Station.newEvents_of_trace extended]
  rcases timers with ⟨nothing, same⟩ | ⟨announced, k, restarted⟩
  · rw [nothing, if_neg Bool.false_ne_true]
    refine ⟨owned, ?_, fun _ => ?_⟩
    · show after.router.now ≤ _
      rw [tends.now]
      exact watched.silence
    · show ∃ deadline, after.router.beaconTimers = _ ∧ _
      rw [same]
      exact watched.pending running
  · rw [← tends.now] at restarted
    rw [if_pos announced]
    exact watched_restarted draws tolerant owned restarted

/-- **A beacon is due**: the timer is restarted, unless the callback fails. -/
theorem Watched.beaconDue (watched : Watched service lateness watch) (draws : service.Draws env)
    (tolerant : 0 ≤ lateness) (due : Station.BeaconDue env watch.station after) :
    Watched service lateness (watch.following after) := by
  obtain ⟨item, rest, queued, reached, expires, made | ⟨same, failed⟩⟩ := due.due
  · obtain ⟨request, pdu, payload, k, made, going⟩ := made
    obtain ⟨now, owned, timers⟩ := announced_reset (watch.station.router.invoked rest)
      (.passedDown .beacon request pdu payload) (env.nextBeacon k)
    have extended : after.router.trace =
        watch.station.router.trace ++ [.passedDown .beacon request pdu payload] := by
      rw [made]
      rfl
    have announced : [Event.passedDown .beacon request pdu payload].any Event.announces = true := rfl
    rw [← made] at now owned timers
    rw [← now] at timers
    unfold following
    rw [Station.newEvents_of_trace extended, if_pos announced]
    refine watched_restarted draws tolerant (fun other member expiring => ?_) timers
    rcases owned other member expiring with ours | old
    · exact ours
    · refine watched.owned other ?_ expiring
      rw [queued]
      exact List.mem_cons_of_mem _ old
  · have extended : after.router.trace = watch.station.router.trace ++ [] := by
      rw [same, List.append_nil]
      rfl
    unfold following
    rw [Station.newEvents_of_trace extended, if_neg (by simp)]
    refine ⟨fun other member expiring => ?_, ?_, fun going => ?_⟩
    · refine watched.owned other ?_ expiring
      rw [queued]
      rw [same] at member
      exact List.mem_cons_of_mem _ member
    · show after.router.now ≤ _
      rw [same]
      exact watched.silence
    · rw [show after.failed = true from failed] at going
      exact nomatch going

/-- **Another callback is due**: the beacon timer stays in the queue. -/
theorem Watched.otherDue (watched : Watched service lateness watch) (draws : service.Draws env)
    (tolerant : 0 ≤ lateness) (running : watch.station.failed = false)
    (due : Station.OtherDue env watch.station after) :
    Watched service lateness (watch.following after) := by
  obtain ⟨item, rest, queued, another, tends⟩ := due.due
  have apart : ¬ (item.scope = some .router) := by
    intro ours
    obtain ⟨deadline, timers, -⟩ := watched.pending running
    have member : item ∈ watch.station.router.beaconTimers := by
      refine List.mem_filter.mpr ⟨?_, decide_eq_true ours⟩
      rw [queued]
      exact List.mem_cons_self
    rw [timers, List.mem_singleton] at member
    exact another (congrArg ScheduledCallback.callback member)
  have same : (watch.station.router.invoked rest).beaconTimers = watch.station.router.beaconTimers := by
    unfold Router.beaconTimers
    rw [queued, List.filter_cons, if_neg fun ours => apart (of_decide_eq_true ours)]
    rfl
  have popped : Watched service lateness
      { watch with station := watch.station.withRouter (watch.station.router.invoked rest) } := by
    refine ⟨fun other member expiring => watched.owned other ?_ expiring, watched.silence, fun going => ?_⟩
    · rw [queued]
      exact List.mem_cons_of_mem _ member
    · show ∃ deadline, (watch.station.router.invoked rest).beaconTimers = _ ∧ _
      rw [same]
      exact watched.pending running
  exact popped.tends draws tolerant running tends

end Kept

section Runs

variable {platform : Platform} {service : BeaconService} {lateness : ℤ}

theorem watched_initial (enabled : platform.mib.vanetzaDisableBeaconing = false)
    (tolerant : 0 ≤ lateness) {watch : Watch} (initial : Initial platform service watch) :
    Watched service lateness watch := by
  obtain ⟨now, dist, nonneg, below, rfl⟩ := initial
  obtain ⟨first, most⟩ := service.firstBeacon_bounds nonneg below
  have long := service.most_nonneg
  have created : (Router.create platform.mib now (service.firstBeacon dist)).now = now ∧
      ∃ delay, 0 ≤ delay ∧ delay ≤ service.most ∧
        (Router.create platform.mib now (service.firstBeacon dist)).beaconTimers =
          [beaconTimer (now + delay)] := by
    unfold Router.create
    rw [enabled]
    cases platform.mib.vanetzaDeferInitialBeacon with
    | true => exact ⟨ManualRuntime.cancel_now _ _, _, first, most, beaconTimers_reset _ _⟩
    | false => exact ⟨ManualRuntime.cancel_now _ _, 0, le_refl _, long, beaconTimers_reset _ _⟩
  obtain ⟨same, delay, _, short, timers⟩ := created
  refine ⟨fun item member _ => (Router.create_queue _ _ _ item member).2, ?_,
    fun _ => ⟨_, timers, Int.add_le_add_left short _, nofun⟩⟩
  show (Router.create platform.mib now (service.firstBeacon dist)).now ≤ now + service.most + lateness
  rw [same]
  omega

/-- **A punctual step** keeps the timer. -/
theorem Watched.step (enabled : platform.mib.vanetzaDisableBeaconing = false)
    (tolerant : 0 ≤ lateness) {watch next : Watch} {input : Environment × Station.Action}
    (watched : Watched service lateness watch) (punctual : Punctual service lateness watch input)
    (taken : Watch.step platform watch input = some next) : Watched service lateness next := by
  obtain ⟨env, action⟩ := input
  obtain ⟨after, stepped, rfl⟩ := Option.map_eq_some_iff.mp taken
  obtain ⟨running, cases⟩ := Station.step_cases enabled stepped
  rcases cases with ⟨d, rfl, rfl⟩ | tends | other | due
  · have nothing : watch.station.newEvents (watch.station.withRouter { watch.station.router with
        runtime := { watch.station.router.runtime with now := watch.station.router.now + d } }) = [] :=
      Station.newEvents_of_trace (List.append_nil _).symm
    obtain ⟨deadline, timers, most, least⟩ := watched.pending running
    have reached : watch.station.router.now + d ≤ deadline + lateness := by
      refine punctual.2 (beaconTimer deadline) ?_
      rw [timers]
      exact List.mem_singleton_self _
    unfold following
    rw [nothing, List.any_nil, if_neg Bool.false_ne_true]
    refine ⟨watched.owned, ?_, fun _ => ⟨deadline, timers, most, least⟩⟩
    show watch.station.router.now + d ≤ watch.since + service.most + lateness
    omega
  · exact watched.tends punctual.1 tolerant running tends
  · exact watched.otherDue punctual.1 tolerant running other
  · exact watched.beaconDue punctual.1 tolerant due

/-- **Every punctual run** does. -/
theorem Watched.reachable (enabled : platform.mib.vanetzaDisableBeaconing = false)
    (tolerant : 0 ≤ lateness) {watch : Watch} (reached : GuardedReach (Initial platform service)
      (Watch.step platform) (Punctual service lateness) watch) : Watched service lateness watch :=
  GuardedReach.invariant (fun _ => watched_initial enabled tolerant)
    (fun _ _ _ _ watched punctual taken => watched.step enabled tolerant punctual taken) watch reached

/-- **Beacons come in time.** However packets, requests, position updates and callbacks are interleaved,
exactly one beacon is scheduled as long as no callback fails, the router has announced itself within the
interval, the largest jitter and the lateness, and no beacon follows an announcement sooner than the
interval. -/
theorem on_time (enabled : platform.mib.vanetzaDisableBeaconing = false) (tolerant : 0 ≤ lateness)
    {watch : Watch} (reached : GuardedReach (Initial platform service) (Watch.step platform)
      (Punctual service lateness) watch) :
    (watch.station.failed = false →
      ∃ deadline, watch.station.router.beaconTimers = [beaconTimer deadline]) ∧
    watch.station.router.now ≤ watch.since + service.most + lateness ∧
    ∀ input next, Watch.step platform watch input = some next →
      (watch.station.newEvents next.station).any Event.isBeacon = true → watch.spoken = true →
        watch.since + service.least ≤ watch.station.router.now := by
  have watched := Watched.reachable enabled tolerant reached
  refine ⟨fun running => ?_, watched.silence, ?_⟩
  · obtain ⟨deadline, timers, -⟩ := watched.pending running
    exact ⟨deadline, timers⟩
  · rintro ⟨env, action⟩ _ taken beacon spoken
    obtain ⟨after, stepped, rfl⟩ := Option.map_eq_some_iff.mp taken
    have same : (watch.following after).station = after := by
      unfold following
      split_ifs <;> rfl
    rw [same] at beacon
    obtain ⟨running, cases⟩ := Station.step_cases enabled stepped
    have silent : ∀ more, after.router.trace = watch.station.router.trace ++ more →
        more.any Event.isBeacon = false → False := by
      intro more extended quiet
      rw [Station.newEvents_of_trace extended, quiet] at beacon
      exact nomatch beacon
    rcases cases with ⟨d, rfl, rfl⟩ | tends | other | due
    · exact (silent [] (List.append_nil _).symm rfl).elim
    · obtain ⟨more, extended, quiet, -⟩ := tends.timers
      exact (silent more extended quiet).elim
    · obtain ⟨item, rest, queued, another, tends⟩ := other.due
      obtain ⟨more, extended, quiet, -⟩ := tends.timers
      exact (silent more extended quiet).elim
    · obtain ⟨item, rest, queued, reached, expires, -⟩ := due.due
      obtain ⟨deadline, timers, -, least⟩ := watched.pending running
      have member : item ∈ watch.station.router.beaconTimers := by
        have head : item ∈ watch.station.router.runtime.queue := by
          rw [queued]
          exact List.mem_cons_self
        exact List.mem_filter.mpr ⟨head, decide_eq_true (watched.owned item head expires)⟩
      rw [timers, List.mem_singleton] at member
      rw [member] at reached
      exact (least spoken).trans reached

end Runs

/-- The durations that the MIB begins with: three seconds, and a quarter of them. -/
def standardService : BeaconService where
  itsGnBeaconServiceRetransmitTimer := 3000000
  itsGnBeaconServiceMaxJitter := 750000
  interval_nonneg := by norm_num
  jitter_nonneg := by norm_num

/-- The first two beacons of a router are three seconds apart. -/
theorem on_time_twice : ∃ watch next,
    Watch.step ⟨Mib.initial, flatland⟩ watch (insecure, .fire) = some next ∧
      (watch.station.newEvents next.station).any Event.isBeacon = true ∧
      watch.since + standardService.least ≤ watch.station.router.now := by
  have draws : standardService.Draws insecure := by
    intro k
    refine ⟨0, le_refl 0, zero_lt_one, ?_⟩
    show (3000000 : ℤ) = _
    decide +kernel
  let first : Watch :=
    ⟨⟨.create Mib.initial 0 (standardService.firstBeacon 0), [], false⟩, 0, false⟩
  have initial : Initial ⟨Mib.initial, flatland⟩ standardService first :=
    ⟨0, 0, le_refl 0, zero_lt_one, rfl⟩
  obtain ⟨second, fired, timers, now, waiting⟩ : ∃ second,
      Watch.step ⟨Mib.initial, flatland⟩ first (insecure, .fire) = some second ∧
        second.station.router.beaconTimers = [beaconTimer 3000000] ∧
        second.station.router.now = 0 ∧
        ∃ third, Watch.step ⟨Mib.initial, flatland⟩ second (insecure, .advance 3000000) = some third ∧
          third.spoken = true ∧
          ∃ last, Watch.step ⟨Mib.initial, flatland⟩ third (insecure, .fire) = some last ∧
            (third.station.newEvents last.station).any Event.isBeacon = true :=
    ⟨_, rfl, rfl, rfl, _, rfl, rfl, _, rfl, by decide +kernel⟩
  obtain ⟨third, advanced, spoken, last, repeated, beacon⟩ := waiting
  have punctual : Punctual standardService 0 second (insecure, .advance 3000000) := by
    refine ⟨draws, fun item member => ?_⟩
    rw [timers, List.mem_singleton] at member
    rw [member, now]
    exact le_refl _
  exact ⟨third, last, repeated, beacon,
    (on_time rfl (le_refl 0) (.next (.next (.start initial) ⟨draws, trivial⟩ fired)
      punctual advanced)).2.2 (insecure, .fire) last repeated beacon spoken⟩

end Watch

/-- **A router without beaconing** never sends a beacon. -/
theorem disabled_silent {platform : Platform} (disabled : platform.mib.vanetzaDisableBeaconing = true)
    {station : Station} (reached : Reachable (Station.Initial platform) (Station.step platform) station) :
    station.router.trace.any Event.isBeacon = false := by
  have sustains : Station.Sustains platform fun router => router.trace.any Event.isBeacon = false := by
    have keeps : ∀ {env : Environment} {α : Type} {act : Act α}, Action.Moves (Tends env) act →
        Action.Keeps (fun router : Router => router.trace.any Event.isBeacon = false) act := by
      intro env α act moves
      refine moves.ensures fun before after tends silent => ?_
      obtain ⟨more, extended, quiet, -⟩ := tends.timers
      rw [extended, List.any_append, silent, quiet]
      rfl
    constructor
    · exact fun env reception packet ll => keeps (tends_indicate packet ll)
    · exact fun env request payload => keeps (tends_request request payload)
    · intro env callback deadline
      by_cases expires : callback = .beaconTimerExpired
      · refine @keeps env _ _ fun router => ?_
        rw [expires]
        show Tends env router (onBeaconTimerExpired platform env router).2
        rw [onBeaconTimerExpired_disabled disabled]
        exact refl_of (Tends env) router
      · exact keeps (tends_invoke expires deadline)
    · exact fun _ _ _ _ silent => silent
  refine sustains.reachable (fun now firstBeacon => ?_) reached
  rw [Router.create_trace]
  rfl

end Vanet.Geonet
