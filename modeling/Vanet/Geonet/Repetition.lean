/-
**Packet repetition.**

The recorder keeps a station together with the requests it has accepted; other requests, indications
and timers come in between the repetitions of a request in any order.

* `orderly_of_reachable`: in every run the repeater is in order.
* `unfailing_of_reachable`: a repetition that throws an exception is the last action of its station.
* `inTime_of_prompt`: no callback of the repeater is overdue in a run without delay.
* `repetition_exact`: what follows from this for the number and the times of the executions.

Intervals are cut to whole microseconds when they are scheduled, so the times are multiples of what is
left of the interval (`repetition_truncated`).
-/

import Vanet.Geonet.RepetitionLedger

namespace Vanet.Geonet

open Vanet.Common Vanet.Library Vanet.Security
open Vanet.Net hiding ByteBuffer

/-! ### The recorder -/

/-- A request is rejected by its confirmation. After an exception there is none. -/
def isRejected : Except RouterFault ResultCode → Bool
  | .ok code => code ≠ .accepted
  | .error _ => false

/-- **A station with the requests it has accepted.** -/
structure Recorder where
  station : Station
  accepted : List AcceptedRequest

namespace Recorder

/-- What is recorded of an action that leads to this station. -/
def record (platform : Platform) (recorder : Recorder) (input : Environment × Station.Action)
    (after : Station) : List AcceptedRequest :=
  let router := recorder.station.router
  let stored := storedBetween router after.router
  match input.2 with
  | .request request payload =>
    if isRejected (Router.request platform input.1 request payload router).1 then recorder.accepted
    else recorder.accepted ++ [⟨request, payload, router.now, [], stored⟩]
  | .fire =>
    match router.runtime.popDue with
    | some (⟨deadline, .triggerRepetition ref, _⟩, runtime) =>
      let ran : Invocation := ⟨input.1, { router with runtime := runtime }, after.router, after.failed⟩
      recorder.accepted.map (AcceptedRequest.execute ref ⟨deadline, router.now, some ran⟩ stored)
    | _ => recorder.accepted
  | _ => recorder.accepted

def step (platform : Platform) (recorder : Recorder) (input : Environment × Station.Action) :
    Option Recorder :=
  (Station.step platform recorder.station input).map fun after =>
    ⟨after, recorder.record platform input after⟩

def Initial (platform : Platform) (recorder : Recorder) : Prop :=
  Station.Initial platform recorder.station ∧ recorder.accepted = []

/-- **The runtime triggers without delay**: no time passes beyond the deadline of a repetition. -/
def Prompt (recorder : Recorder) (input : Environment × Station.Action) : Prop :=
  match input.2 with
  | .advance d => ∀ item ∈ recorder.station.router.runtime.queue, item.scope = some .repeater →
      recorder.station.router.now + d ≤ item.deadline
  | _ => True

instance promptDecidable (recorder : Recorder) (input : Environment × Station.Action) :
    Decidable (recorder.Prompt input) := by
  unfold Prompt
  cases input.2 <;> infer_instance

end Recorder

/-! ### Runs -/

namespace Recorder

variable {platform : Platform} {recorder after : Recorder} {input : Environment × Station.Action}

/-- The station of a recorder does what it does without one. -/
theorem station_of_step (taken : step platform recorder input = some after) :
    Station.step platform recorder.station input = some after.station ∧
      after.accepted = recorder.record platform input after.station := by
  obtain ⟨station, stepped, rfl⟩ := Option.map_eq_some_iff.mp taken
  exact ⟨stepped, rfl⟩

theorem orderly_request (orderly : Orderly platform recorder.station.router recorder.accepted)
    (env : Environment) (request : DataRequestVariant) (payload : Option ChunkPacket) :
    Orderly platform (Router.request platform env request payload recorder.station.router).2
      (recorder.record platform (env, .request request payload) (recorder.station.withRouter
        (Router.request platform env request payload recorder.station.router).2)) := by
  unfold record
  dsimp only
  by_cases accepts : Router.Accepts platform request payload
  · obtain ⟨bytes, rfl⟩ := accepts.payload
    have stores := request_stores env recorder.station.router accepts
    have confirmed : isRejected
        (Router.request platform env request (some bytes) recorder.station.router).1 = false := by
      rcases request_confirmed env recorder.station.router accepts with ⟨_, ran⟩ | ⟨_, _, _, ran⟩
      · rw [ran]
        rfl
      · rw [ran]
        rfl
    rw [if_neg (Bool.eq_false_iff.mp confirmed)]
    exact orderly.accepts stores accepts
  · obtain ⟨code, refused, ran⟩ := request_rejected env recorder.station.router accepts
    have rejected : isRejected
        (Router.request platform env request payload recorder.station.router).1 = true := by
      rw [ran]
      exact decide_eq_true refused
    rw [if_pos rejected, ran]
    exact orderly

theorem orderly_fire (orderly : Orderly platform recorder.station.router recorder.accepted)
    (env : Environment) {due : ScheduledCallback RouterCallback RouterScope}
    {runtime : ManualRuntime RouterCallback RouterScope}
    (popped : recorder.station.router.runtime.popDue = some (due, runtime)) {station : Station}
    (ran : station.router = (Router.invoke platform env due.callback due.deadline
      { recorder.station.router with runtime := runtime }).2)
    (fails : station.failed = match (Router.invoke platform env due.callback due.deadline
      { recorder.station.router with runtime := runtime }).1 with
      | .ok _ => false
      | .error _ => true) :
    Orderly platform station.router (recorder.record platform (env, .fire) station) := by
  obtain ⟨rest, queued, late, rfl⟩ := ManualRuntime.popDue_some.mp popped
  unfold record
  dsimp only
  rw [popped]
  obtain ⟨deadline, callback, scope⟩ := due
  cases callback with
  | triggerRepetition ref => exact orderly.triggers queued late rfl env rfl ran fails
  | beaconTimerExpired =>
    rw [ran]
    exact orderly.invokes queued nofun env
  | flushCbfBuffer =>
    rw [ran]
    exact orderly.invokes queued nofun env

/-- **An action** keeps the repeater in order. -/
theorem orderly_of_step (orderly : Orderly platform recorder.station.router recorder.accepted)
    (taken : step platform recorder input = some after) :
    Orderly platform after.station.router after.accepted := by
  obtain ⟨stepped, recorded⟩ := station_of_step taken
  obtain ⟨env, action⟩ := input
  rw [recorded]
  generalize after.station = station at stepped
  unfold Station.step at stepped
  split_ifs at stepped
  cases action with
  | indicate packet ll =>
    cases stepped
    exact orderly.same (steady_indicate packet ll _).toSameRepeater
  | request request payload =>
    cases stepped
    exact orderly_request orderly env request payload
  | updatePosition fix =>
    cases stepped
    exact orderly.same ⟨rfl, rfl, .refl _⟩
  | setAddress addr =>
    cases stepped
    exact orderly.same ⟨rfl, rfl, .refl _⟩
  | setTransportHandler proto handled =>
    cases stepped
    exact orderly.same ⟨rfl, rfl, .refl _⟩
  | advance d =>
    dsimp only at stepped
    split_ifs at stepped
    cases stepped
    exact orderly.same ⟨rfl, rfl, .refl _⟩
  | fire =>
    obtain ⟨due, popped, rfl⟩ := Option.map_eq_some_iff.mp stepped
    exact orderly_fire orderly env popped rfl rfl

theorem orderly_of_initial (initial : Initial platform recorder) :
    Orderly platform recorder.station.router recorder.accepted := by
  obtain ⟨⟨now, firstBeacon, same⟩, none⟩ := initial
  have stored := Router.create_repetitions platform.mib now firstBeacon
  have queued := Router.create_queue platform.mib now firstBeacon
  rw [none, same]
  constructor
  case tidy =>
    constructor
    · rw [stored]
      exact List.nodup_nil
    · rw [stored]
      exact fun _ impossible => absurd impossible List.not_mem_nil
    · intro item member ref callback
      rw [(queued item member).1] at callback
      cases callback
  case scheduled =>
    intro item member scope
    rw [(queued item member).2] at scope
    cases scope
  case apart => exact List.Pairwise.nil
  case sound => exact fun _ impossible => absurd impossible List.not_mem_nil

/-- **Every run** keeps the repeater in order. -/
theorem orderly_of_reachable (reached : Reachable (Initial platform) (step platform) recorder) :
    Orderly platform recorder.station.router recorder.accepted :=
  GuardedReach.invariant
    (I := fun recorder => Orderly platform recorder.station.router recorder.accepted)
    (fun _ initial => orderly_of_initial initial)
    (fun _ _ _ _ orderly _ taken => orderly_of_step orderly taken) recorder reached

/-! ### Exceptions -/

/-- No callback of a repetition has thrown an exception. -/
def Unfailing (recorder : Recorder) : Prop :=
  ∀ request ∈ recorder.accepted, ∀ execution ∈ request.executions, ∀ ran, execution.ran = some ran →
    ran.failed = false

/-- **The exception of a repetition** is the end of its station. -/
theorem unfailing_of_step (unfailing : recorder.station.failed = false → Unfailing recorder)
    (taken : step platform recorder input = some after) (alive : after.station.failed = false) :
    Unfailing after := by
  obtain ⟨stepped, recorded⟩ := station_of_step taken
  have before : Unfailing recorder := by
    refine unfailing ?_
    unfold Station.step at stepped
    by_contra failed
    rw [if_pos (Bool.eq_true_of_not_eq_false failed)] at stepped
    cases stepped
  unfold Unfailing
  rw [recorded]
  unfold record
  dsimp only
  split
  · split_ifs
    · exact before
    · intro request known
      rcases List.mem_append.mp known with old | latest
      · exact before request old
      · rw [List.mem_singleton.mp latest]
        exact fun _ impossible => absurd impossible List.not_mem_nil
  · split
    · intro request known execution member ran same
      obtain ⟨older, old, rfl⟩ := List.mem_map.mp known
      unfold AcceptedRequest.execute at member
      split_ifs at member
      · rcases List.mem_append.mp member with past | last
        · exact before older old execution past ran same
        · rw [List.mem_singleton.mp last] at same
          cases same
          exact alive
      · exact before older old execution member ran same
    · exact before
  · exact before

/-- **Every run.** -/
theorem unfailing_of_reachable (reached : Reachable (Initial platform) (step platform) recorder) :
    recorder.station.failed = false → Unfailing recorder := by
  refine GuardedReach.invariant (I := fun recorder => recorder.station.failed = false →
    Unfailing recorder) ?_ ?_ recorder reached
  · rintro first ⟨-, none⟩ _ request known
    rw [none] at known
    cases known
  · intro before input after _ unfailing _ taken
    exact unfailing_of_step unfailing taken

/-! ### Runs without delay -/

/-- **No callback of the repeater is overdue**, and none has been late. -/
structure InTime (recorder : Recorder) : Prop where
  punctual : ∀ request ∈ recorder.accepted, Repetition.Punctual request.executions
  ahead : ∀ item ∈ recorder.station.router.runtime.queue, item.scope = some .repeater →
    recorder.station.router.now ≤ item.deadline

/-- The repeater's callbacks after an action are old ones, or not due before it. -/
def Ahead (before after : Router) : Prop :=
  after.now = before.now ∧ ∀ item ∈ after.runtime.queue, item.scope = some .repeater →
    item ∈ before.runtime.queue ∨ before.now ≤ item.deadline

theorem ahead_of_steady {before after : Router} (steady : Steady before after) : Ahead before after :=
  ⟨steady.now, fun _ member scope => .inl (steady.queue.mem member scope)⟩

theorem Ahead.trans {before mid after : Router} (first : Ahead before mid) (second : Ahead mid after) :
    Ahead before after := by
  refine ⟨second.1.trans first.1, fun item member scope => ?_⟩
  rcases second.2 item member scope with old | later
  · exact first.2 item old scope
  · rw [first.1] at later
    exact .inr later

theorem ahead_of_stores {request : DataRequestVariant} {payload : ChunkPacket} {before after : Router}
    (stores : Stores request payload before after) : Ahead before after := by
  refine ⟨stores.now, fun item member scope => ?_⟩
  rcases stores.scheduled member scope with old | ⟨-, -, later⟩
  · exact .inl old
  · exact .inr later

theorem ahead_request (env : Environment) (router : Router) (request : DataRequestVariant)
    (payload : Option ChunkPacket) :
    Ahead router (Router.request platform env request payload router).2 := by
  by_cases accepts : Router.Accepts platform request payload
  · obtain ⟨bytes, rfl⟩ := accepts.payload
    exact ahead_of_stores (request_stores env router accepts)
  · obtain ⟨code, -, ran⟩ := request_rejected env router accepts
    rw [ran]
    exact ahead_of_steady (refl_of Steady router)

theorem ahead_fire (orderly : Orderly platform recorder.station.router recorder.accepted)
    (env : Environment) {due : ScheduledCallback RouterCallback RouterScope}
    {runtime : ManualRuntime RouterCallback RouterScope}
    (popped : recorder.station.router.runtime.popDue = some (due, runtime)) :
    Ahead recorder.station.router (Router.invoke platform env due.callback due.deadline
      { recorder.station.router with runtime := runtime }).2 := by
  obtain ⟨rest, queued, late, rfl⟩ := ManualRuntime.popDue_some.mp popped
  have taken : Ahead recorder.station.router { recorder.station.router with
      runtime := { recorder.station.router.runtime with queue := rest } } := by
    refine ⟨rfl, fun item member _ => .inl ?_⟩
    rw [queued]
    exact List.mem_cons_of_mem _ member
  cases callback : due.callback with
  | triggerRepetition ref =>
    obtain ⟨node, repetition, stored, -, -, -, -, stores, ending⟩ :=
      orderly.stores queued callback env rfl
    have stored := ahead_of_stores stores
    refine taken.trans ?_
    unfold Router.invoke
    rcases ending with same | same
    · rw [same]
      exact stored
    · rw [same]
      exact stored
  | beaconTimerExpired =>
    have another : ∀ ref, RouterCallback.beaconTimerExpired ≠ .triggerRepetition ref := nofun
    exact taken.trans (ahead_of_steady (steady_invoke another _ _))
  | flushCbfBuffer =>
    have another : ∀ ref, RouterCallback.flushCbfBuffer ≠ .triggerRepetition ref := nofun
    exact taken.trans (ahead_of_steady (steady_invoke another _ _))

/-- What is recorded of an action without delay. -/
theorem punctual_record (orderly : Orderly platform recorder.station.router recorder.accepted)
    (inTime : InTime recorder) (input : Environment × Station.Action) (station : Station) :
    ∀ request ∈ recorder.record platform input station, Repetition.Punctual request.executions := by
  unfold record
  dsimp only
  split
  · split_ifs
    · exact inTime.punctual
    · intro request known
      rcases List.mem_append.mp known with old | latest
      · exact inTime.punctual request old
      · rw [List.mem_singleton.mp latest]
        exact fun _ impossible => absurd impossible List.not_mem_nil
  · split
    · rename_i deadline ref scope runtime popped
      obtain ⟨rest, queued, late, -⟩ := ManualRuntime.popDue_some.mp popped
      have first : ⟨deadline, .triggerRepetition ref, scope⟩ ∈ recorder.station.router.runtime.queue := by
        rw [queued]
        exact List.mem_cons_self
      have due : recorder.station.router.now = deadline := by
        refine le_antisymm ?_ late
        exact inTime.ahead _ first (orderly.tidy.owned _ first ref rfl)
      intro request known
      obtain ⟨before, old, rfl⟩ := List.mem_map.mp known
      unfold AcceptedRequest.execute
      split_ifs
      · exact Repetition.punctual_concat.mpr ⟨inTime.punctual before old, due⟩
      · exact inTime.punctual before old
    · exact inTime.punctual
  · exact inTime.punctual

/-- **An action without delay.** -/
theorem inTime_of_step (orderly : Orderly platform recorder.station.router recorder.accepted)
    (inTime : InTime recorder) (prompt : Prompt recorder input)
    (taken : step platform recorder input = some after) : InTime after := by
  obtain ⟨stepped, recorded⟩ := station_of_step taken
  obtain ⟨env, action⟩ := input
  have ahead : Ahead recorder.station.router after.station.router →
      ∀ item ∈ after.station.router.runtime.queue, item.scope = some .repeater →
        after.station.router.now ≤ item.deadline := by
    intro ahead item member scope
    rw [ahead.1]
    rcases ahead.2 item member scope with old | later
    · exact inTime.ahead item old scope
    · exact later
  constructor
  case punctual =>
    rw [recorded]
    exact punctual_record orderly inTime _ _
  case ahead =>
    generalize after.station = station at stepped ahead
    unfold Station.step at stepped
    split_ifs at stepped
    cases action with
    | indicate packet ll =>
      cases stepped
      exact ahead (ahead_of_steady (steady_indicate packet ll _))
    | request request payload =>
      cases stepped
      exact ahead (ahead_request env _ request payload)
    | updatePosition fix =>
      cases stepped
      exact ahead (ahead_of_steady (.silent rfl rfl rfl))
    | setAddress addr =>
      cases stepped
      exact ahead (ahead_of_steady (.silent rfl rfl rfl))
    | setTransportHandler proto handled =>
      cases stepped
      exact ahead (ahead_of_steady (.silent rfl rfl rfl))
    | advance d =>
      dsimp only at stepped
      split_ifs at stepped
      cases stepped
      exact prompt
    | fire =>
      obtain ⟨due, popped, rfl⟩ := Option.map_eq_some_iff.mp stepped
      exact ahead (ahead_fire orderly env popped)

/-- **Every run without delay** is in time. -/
theorem inTime_of_prompt
    (reached : GuardedReach (Initial platform) (step platform) Prompt recorder) :
    InTime recorder := by
  refine GuardedReach.invariant (I := InTime) ?_ ?_ recorder reached
  · rintro first ⟨⟨now, firstBeacon, same⟩, none⟩
    constructor
    · rw [none]
      exact fun _ impossible => absurd impossible List.not_mem_nil
    · rw [same]
      intro item member scope
      rw [(Router.create_queue platform.mib now firstBeacon item member).2] at scope
      cases scope
  · intro before input after reached inTime prompt taken
    exact inTime_of_step (orderly_of_reachable reached.reachable) inTime prompt taken

end Recorder

/-! ### The repetitions of a request -/

namespace AcceptedRequest

variable (request : AcceptedRequest) (router : Router) (repetition : Repetition)

variable (platform : Platform) in
/-- **The repetitions of a request in any run**: they are at most as many as intervals fit into the
maximum, each of them asks the router for the request, none is scheduled for a time after the maximum, and
whether there is another one depends on the delays of this request alone. -/
structure Bounded : Prop where
  count : request.executions.length ≤ ⌊repetition.maximum / repetition.interval⌋₊
  executed : ∀ execution ∈ request.executions, request.IsExecuted platform execution ∧
    (execution.deadline : ℚ) ≤ request.since + repetition.maximum
  scheduled : ∀ item ∈ router.runtime.queue, ∀ ref, request.pending = some ref →
    item.callback = .triggerRepetition ref → (item.deadline : ℚ) ≤ request.since + repetition.maximum
  own : request.pending.isSome = true ↔ repetition.interval ≤ repetition.maximum -
    (request.executions.map fun execution => repetition.interval + execution.delay).sum

/-- **The repetitions of a request in a run without delay**: they take place at multiples of the
interval as it is scheduled, there is a next one until their number is reached, and it is reached as
soon as the time of the last one has passed. -/
structure Exact : Prop where
  times : request.executions.map Execution.now = (List.range request.executions.length).map
    fun k : ℕ => request.since + (k + 1) * clockCast repetition.interval
  next : ∀ ref, request.pending = some ref →
    request.executions.length < ⌊repetition.maximum / repetition.interval⌋₊ ∧
      router.triggersOf ref =
        [⟨request.since + (request.executions.length + 1) * clockCast repetition.interval,
          .triggerRepetition ref, some .repeater⟩]
  stops : request.pending = none →
    request.executions.length = ⌊repetition.maximum / repetition.interval⌋₊
  complete : request.since + ⌊repetition.maximum / repetition.interval⌋₊ *
      clockCast repetition.interval < router.now →
    request.executions.length = ⌊repetition.maximum / repetition.interval⌋₊

variable {request router repetition} {platform : Platform}

theorem Sound.bounded (sound : request.Sound router platform) (tidy : router.Tidy)
    (repeats : request.request.request.repetition = some repetition)
    (positive : 0 < repetition.interval) : request.Bounded router repetition platform := by
  have legal := sound.legal repetition repeats
  constructor
  case count => exact legal.length_le positive
  case executed =>
    exact fun execution member => ⟨sound.executed execution member, legal.deadline_le execution member⟩
  case scheduled =>
    intro item member ref pending callback
    obtain ⟨other, same, waits⟩ := sound.waits ref pending
    rw [repeats] at same
    cases same
    have ours : item ∈ router.triggersOf ref := List.mem_filter.mpr
      ⟨member, decide_eq_true ⟨tidy.owned item member ref callback, callback⟩⟩
    rw [waits.scheduled, List.mem_singleton] at ours
    rw [ours]
    exact legal.next_le waits.further
  case own =>
    have further : (repetition.remaining request.executions).hasFurtherRepetition = true ↔
        repetition.interval ≤ repetition.maximum -
          (request.executions.map fun execution => repetition.interval + execution.delay).sum := by
      rw [Repetition.hasFurtherRepetition_iff, Repetition.remaining_eq]
      exact and_iff_right positive
    rw [← further]
    cases pending : request.pending with
    | none => simp [sound.stops pending repetition repeats]
    | some ref =>
      obtain ⟨other, same, waits⟩ := sound.waits ref pending
      rw [repeats] at same
      cases same
      simp [waits.further]

theorem Sound.exact (sound : request.Sound router platform)
    (repeats : request.request.request.repetition = some repetition)
    (positive : 0 < repetition.interval) (punctual : Repetition.Punctual request.executions)
    (ahead : ∀ item ∈ router.runtime.queue, item.scope = some .repeater → router.now ≤ item.deadline) :
    request.Exact router repetition := by
  have legal := sound.legal repetition repeats
  have next : ∀ ref, request.pending = some ref →
      request.executions.length < ⌊repetition.maximum / repetition.interval⌋₊ ∧
        router.triggersOf ref =
          [⟨request.since + (request.executions.length + 1) * clockCast repetition.interval,
            .triggerRepetition ref, some .repeater⟩] := by
    intro ref pending
    obtain ⟨other, same, waits⟩ := sound.waits ref pending
    rw [repeats] at same
    cases same
    refine ⟨(punctual.further_iff positive).mp waits.further, ?_⟩
    rw [waits.scheduled, legal.lastTime_eq punctual, add_assoc, ← add_one_mul]
  have stops : request.pending = none →
      request.executions.length = ⌊repetition.maximum / repetition.interval⌋₊ := by
    intro none
    refine le_antisymm (legal.length_le positive) ?_
    have last := sound.stops none repetition repeats
    rw [Bool.eq_false_iff, ne_eq, punctual.further_iff positive] at last
    exact not_lt.mp last
  refine ⟨legal.times punctual, next, stops, fun passed => ?_⟩
  cases pending : request.pending with
  | none => exact stops pending
  | some ref =>
    -- The next callback would be overdue.
    exfalso
    obtain ⟨fewer, scheduled⟩ := next ref pending
    have first : (⟨request.since + (request.executions.length + 1) * clockCast repetition.interval,
        .triggerRepetition ref, some .repeater⟩ : ScheduledCallback RouterCallback RouterScope) ∈
        router.triggersOf ref := by
      rw [scheduled]
      exact List.mem_cons_self
    have due := ahead _ (List.mem_filter.mp first).1 rfl
    have within : ((request.executions.length : ℤ) + 1) * clockCast repetition.interval ≤
        ⌊repetition.maximum / repetition.interval⌋₊ * clockCast repetition.interval :=
      mul_le_mul_of_nonneg_right (by exact_mod_cast fewer) (clockCast_nonneg positive.le)
    dsimp only at due
    linarith

end AcceptedRequest

/-- **Packet repetition.** In every run the repeater's callbacks belong to one accepted request each, and
the repetitions of every request are bounded by its own maximum. Each repetition is a run of `request`, which
accepts the request again; one that throws an exception is the end of its station. In every run without delay
there are exactly as many as intervals fit into the maximum, at multiples of the interval as it is
scheduled. -/
theorem repetition_exact (platform : Platform) :
    (∀ recorder, Reachable (Recorder.Initial platform) (Recorder.step platform) recorder →
      (∀ item ∈ recorder.station.router.runtime.queue, item.scope = some .repeater →
        ∃ request ∈ recorder.accepted, ∃ ref, request.pending = some ref ∧
          item.callback = .triggerRepetition ref) ∧
      (recorder.accepted.Pairwise fun one other =>
        ∀ ref, one.pending = some ref → other.pending ≠ some ref) ∧
      (recorder.station.failed = false → recorder.Unfailing) ∧
      ∀ request ∈ recorder.accepted, ∀ repetition,
        request.request.request.repetition = some repetition → 0 < repetition.interval →
          request.Bounded recorder.station.router repetition platform) ∧
    ∀ recorder,
      GuardedReach (Recorder.Initial platform) (Recorder.step platform) Recorder.Prompt recorder →
      ∀ request ∈ recorder.accepted, ∀ repetition,
        request.request.request.repetition = some repetition → 0 < repetition.interval →
          request.Exact recorder.station.router repetition := by
  constructor
  · intro recorder reached
    have orderly := Recorder.orderly_of_reachable reached
    refine ⟨orderly.scheduled, orderly.apart, Recorder.unfailing_of_reachable reached,
      fun request known repetition repeats positive => ?_⟩
    exact (orderly.sound request known).bounded orderly.tidy repeats positive
  · intro recorder reached request known repetition repeats positive
    have orderly := Recorder.orderly_of_reachable reached.reachable
    have inTime := Recorder.inTime_of_prompt reached
    exact (orderly.sound request known).exact repeats positive (inTime.punctual request known)
      inTime.ahead

/-! ### Two runs -/

section Runs

/-- A single-hop broadcast with a repetition. -/
def repeatedShb (repetition : Repetition) : DataRequestVariant :=
  .shb ⟨.btpB, .itsG5, 36, .set .tenSeconds 1, some repetition, 10, ⟨0⟩⟩

/-- The broadcast is requested, and its callbacks are triggered at these distances of time. -/
def repeatedRun (repetition : Repetition) (distances : List ℤ) : List (Environment × Station.Action) :=
  (insecure, .request (repeatedShb repetition) (some .empty)) ::
    distances.flatMap fun d => [(insecure, .advance d), (insecure, .fire)]

/-- The platform of both runs. -/
def flatPlatform : Platform := ⟨Mib.initial, flatland⟩

/-- A station that has just been created. -/
def freshRecorder : Recorder := ⟨⟨.create Mib.initial 0 0, [], false⟩, []⟩

theorem initial_freshRecorder : Recorder.Initial flatPlatform freshRecorder :=
  ⟨⟨0, 0, rfl⟩, rfl⟩

/-- Two intervals fit into the maximum. -/
theorem repetition_exact_twice : ∃ recorder : Recorder, ∃ request ∈ recorder.accepted,
    request.executions.map Execution.now = [100000, 200000] ∧ recorder.station.router.trace.length = 3 ∧
      request.Bounded recorder.station.router ⟨100000, 250000⟩ flatPlatform ∧
      request.Exact recorder.station.router ⟨100000, 250000⟩ := by
  obtain ⟨recorder, reached, recorded⟩ := run_reach (Recorder.Initial flatPlatform)
    (Recorder.step flatPlatform) Recorder.Prompt
    (fun recorder => (recorder.accepted.map fun request =>
        (request.request, request.executions.map Execution.now)) =
      [(repeatedShb ⟨100000, 250000⟩, [100000, 200000])] ∧ recorder.station.router.trace.length = 3)
    initial_freshRecorder (repeatedRun ⟨100000, 250000⟩ [100000, 100000]) (by decide +kernel)
  obtain ⟨recorded, sent⟩ := recorded
  obtain ⟨request, only, same⟩ := List.map_eq_singleton_iff.mp recorded
  obtain ⟨requested, times⟩ := Prod.mk.inj same
  have known : request ∈ recorder.accepted := by
    rw [only]
    exact List.mem_cons_self
  have repeats : request.request.request.repetition = some ⟨100000, 250000⟩ := by rw [requested]; rfl
  have positive : (0 : ℚ) < 100000 := by norm_num
  exact ⟨recorder, request, known, times, sent,
    ((repetition_exact flatPlatform).1 recorder reached.reachable).2.2.2 request known _ repeats positive,
    (repetition_exact flatPlatform).2 recorder reached request known _ repeats positive⟩

/-- **The times are no multiples of the interval** if this is no whole number of microseconds. -/
theorem repetition_truncated : ¬ ∀ (platform : Platform) (recorder : Recorder),
    GuardedReach (Recorder.Initial platform) (Recorder.step platform) Recorder.Prompt recorder →
      ∀ request ∈ recorder.accepted, ∀ repetition,
        request.request.request.repetition = some repetition → 0 < repetition.interval →
          ∀ execution ∈ request.executions,
            ∃ k : ℕ, (execution.now : ℚ) = request.since + k * repetition.interval := by
  intro always
  obtain ⟨recorder, reached, recorded⟩ := run_reach (Recorder.Initial flatPlatform)
    (Recorder.step flatPlatform) Recorder.Prompt
    (fun recorder => (recorder.accepted.map fun request =>
        (request.request, request.since, request.executions.map Execution.now)) =
      [(repeatedShb ⟨200001 / 2, 200001 / 2⟩, 0, [100000])])
    initial_freshRecorder (repeatedRun ⟨200001 / 2, 200001 / 2⟩ [100000]) (by decide +kernel)
  obtain ⟨request, only, same⟩ := List.map_eq_singleton_iff.mp recorded
  obtain ⟨requested, since, times⟩ : request.request = _ ∧ request.since = 0 ∧
    request.executions.map Execution.now = [100000] := by simpa using same
  obtain ⟨execution, single, now⟩ := List.map_eq_singleton_iff.mp times
  obtain ⟨k, multiple⟩ := always flatPlatform recorder reached request
    (by rw [only]; exact List.mem_cons_self) ⟨200001 / 2, 200001 / 2⟩ (by rw [requested]; rfl)
    (by norm_num) execution (by rw [single]; exact List.mem_cons_self)
  rw [now, since] at multiple
  have whole : (200000 : ℤ) = k * 200001 := by
    have scaled : (200000 : ℚ) = k * 200001 := by
      push_cast at multiple
      linarith
    exact_mod_cast scaled
  omega

end Runs

end Vanet.Geonet
