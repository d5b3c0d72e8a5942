/-
**The repeater of a router.**

The repeater keeps the requests that have a further repetition, and a callback of the runtime for each
of them. Only an accepted request and the repeater's own callback change what it has stored or
scheduled; everything else that a router does leaves both alone (`Steady`).

* `steady_indicate`, `steady_invoke`: indications and the other callbacks leave the repeater alone.
* `request_stores`: an accepted request is stored, and what follows leaves the repeater alone.
* `repeaterTrigger_stores`: so is the next repetition, and the one that was due is erased unless an
  exception is thrown.
-/

import Vanet.Geonet.Atomicity
import Vanet.Geonet.Stages

namespace Vanet.Geonet

open Vanet.Common Vanet.Library Vanet.Security
open Vanet.Net hiding ByteBuffer
open Act Router

/-! ### Leaving the repeater alone -/

/-- What the repeater has stored and scheduled is the same. -/
structure SameRepeater (before after : Router) : Prop where
  repetitions : after.repetitions = before.repetitions
  nextRepetition : after.nextRepetition = before.nextRepetition
  queue : SameTriggers before.runtime.queue after.runtime.queue

/-- **The repeater is left alone**, and no time passes. -/
structure Steady (before after : Router) : Prop extends SameRepeater before after where
  now : after.now = before.now

instance steadyPreorder : IsPreorder Router Steady where
  refl _ := ⟨⟨rfl, rfl, .refl _⟩, rfl⟩
  trans _ _ _ first second :=
    ⟨⟨second.repetitions.trans first.repetitions, second.nextRepetition.trans first.nextRepetition,
      first.queue.trans second.queue⟩, second.now.trans first.now⟩

/-- The repeater does not look at the rest of the router. -/
theorem Steady.silent {before after : Router} (repetitions : after.repetitions = before.repetitions)
    (nextRepetition : after.nextRepetition = before.nextRepetition)
    (runtime : after.runtime = before.runtime) : Steady before after := by
  refine ⟨⟨repetitions, nextRepetition, ?_⟩, ?_⟩
  · rw [runtime]
    exact .refl _
  · unfold Router.now
    rw [runtime]

/-- The contention buffer does not concern the repeater. -/
theorem sparesSteady (router : Router) :
    Cbf.Spares flushTimer fun runtime => runtime.now = router.now ∧
      SameTriggers router.runtime.queue runtime.queue where
  schedules _ tp spared := ⟨spared.1, spared.2.trans (.schedule tp nofun nofun)⟩
  cancels runtime spared :=
    ⟨(runtime.cancel_now _).trans spared.1, spared.2.trans (.cancel nofun)⟩

theorem steady_withCbf {router : Router} {cbf : Cbf GbcAction RouterCallback RouterScope}
    (spared : cbf.runtime.now = router.now ∧ SameTriggers router.runtime.queue cbf.runtime.queue) :
    Steady router (router.withCbf cbf) :=
  ⟨⟨rfl, rfl, spared.2⟩, spared.1⟩

section Steady

variable {A : PendingPacketGbc → Prop} {platform : Platform} {env : Environment} {reception : ℕ}
  {before after : Router} {α : Type}

/-- **An elementary change** without the repeater. -/
theorem Effect.steady (effect : Effect A False before after) : Steady before after := by
  have idle : before.cbf.runtime.now = before.now ∧
      SameTriggers before.runtime.queue before.cbf.runtime.queue := ⟨rfl, .refl _⟩
  cases effect with
  | sent own => exact .silent rfl rfl rfl
  | forwarded admitted tagged => exact .silent rfl rfl rfl
  | stopped => exact .silent rfl rfl rfl
  | buffered admitted => exact .silent rfl rfl rfl
  | bufferedShb => exact .silent rfl rfl rfl
  | contends admitted => exact steady_withCbf ((sparesSteady before).add _ _ _ _ idle)
  | removed => exact steady_withCbf ((sparesSteady before).remove _ _ idle)
  | updated =>
    refine steady_withCbf ?_
    rw [Cbf.update_runtime]
    exact idle
  | scheduled same => exact ⟨⟨rfl, rfl, same⟩, rfl⟩
  | repeated allowed => exact allowed.elim

theorem steady_of_performs {act : Act α} (performs : Performs A False act) :
    Action.Moves Steady act := by
  refine performs.mono fun first last effects => ?_
  induction effects with
  | refl => exact refl_of Steady first
  | tail _ effect ih => exact trans_of Steady ih effect.steady

theorem steady_processData (data : BufferData) :
    Action.Moves Steady (processData platform env data) := by
  refine steady_of_performs (performs_processData hereditary_all ?_)
  cases data <;> exact trivial

/-- **An indication** leaves the repeater alone. -/
theorem steady_indicate (packet : UpPacket) (ll : LinkLayer) :
    Action.Moves Steady (indicate platform env reception packet ll) := by
  refine Allows.indicate ?_ packet ll
  constructor
  case learns =>
    rintro first _ ⟨_, _, rfl⟩
    exact .silent rfl rfl rfl
  case processes => exact steady_processData
  all_goals
    intros
    exact .silent rfl rfl rfl

theorem steady_flushCbfBuffer : Action.Moves Steady (flushCbfBuffer platform env) := by
  have flushes : Action.Moves Steady (Action.update fun router : Router =>
      let flushed := router.cbf.flush flushTimer
      (flushed.1, router.withCbf flushed.2) : Act (List PendingPacketGbc)) :=
    .update fun router => steady_withCbf ((sparesSteady router).flush _ ⟨rfl, .refl _⟩)
  refine .bind flushes fun packets => moves_processAll fun packet _ => ?_
  exact steady_processData (.gbc packet)

/-- **The callbacks of others** leave the repeater alone. -/
theorem steady_invoke {callback : RouterCallback} (another : ∀ ref, callback ≠ .triggerRepetition ref)
    (deadline : ℤ) : Action.Moves Steady (invoke platform env callback deadline) := by
  cases callback with
  | beaconTimerExpired =>
    exact steady_of_performs (performs_onBeaconTimerExpired : Performs (fun _ => True) False _)
  | flushCbfBuffer => exact steady_flushCbfBuffer
  | triggerRepetition ref => exact absurd rfl (another ref)

end Steady

/-! ### Storing a request -/

/-- What the repeater has scheduled for the stored request. -/
def Router.triggersOf (router : Router) (ref : ℕ) :
    List (ScheduledCallback RouterCallback RouterScope) :=
  router.runtime.queue.filter fun item =>
    item.scope = some .repeater ∧ item.callback = .triggerRepetition ref

/-- The repeater with another request, whose next repetition is due at the deadline. -/
def Router.withRepetition (router : Router) (request : DataRequestVariant) (payload : ChunkPacket)
    (deadline : ℤ) : Router :=
  { router with
    repetitions := ⟨router.nextRepetition, request, payload⟩ :: router.repetitions
    nextRepetition := router.nextRepetition + 1
    runtime := router.runtime.schedule deadline (.triggerRepetition router.nextRepetition)
      (some .repeater) }

/-- What the repeater has for a reference is kept. -/
structure KeepsRef (ref : ℕ) (before after : Router) : Prop where
  nodes : ∀ node ∈ before.repetitions, node.ref = ref → node ∈ after.repetitions
  triggers : after.triggersOf ref = before.triggersOf ref

/-- **References are unique**, and the repeater's callbacks are known by their scope. -/
structure Router.Tidy (router : Router) : Prop where
  refs : (router.repetitions.map RepetitionNode.ref).Nodup
  numbered : ∀ node ∈ router.repetitions, node.ref < router.nextRepetition
  owned : ∀ item ∈ router.runtime.queue, ∀ ref, item.callback = .triggerRepetition ref →
    item.scope = some .repeater

section Tidy

variable {router before mid after : Router} {request : DataRequestVariant} {payload : ChunkPacket}
  {deadline : ℤ} {ref : ℕ}

theorem KeepsRef.trans (first : KeepsRef ref before mid) (second : KeepsRef ref mid after) :
    KeepsRef ref before after where
  nodes node member same := second.nodes node (first.nodes node member same) same
  triggers := second.triggers.trans first.triggers

theorem SameTriggers.triggersOf (same : SameTriggers before.runtime.queue after.runtime.queue) :
    after.triggersOf ref = before.triggersOf ref := by
  have ours : ∀ router : Router, router.triggersOf ref =
      (router.runtime.queue.filter fun item => item.scope = some .repeater).filter fun item =>
        item.callback = .triggerRepetition ref := by
    intro router
    unfold Router.triggersOf
    rw [List.filter_filter]
    refine List.filter_congr fun item _ => ?_
    rw [Bool.decide_and, Bool.and_comm]
  rw [ours, ours, same.triggers]

/-- A callback of the repeater was there before. -/
theorem SameTriggers.mem {before after : List (ScheduledCallback RouterCallback RouterScope)}
    (same : SameTriggers before after) {item : ScheduledCallback RouterCallback RouterScope}
    (member : item ∈ after) (scope : item.scope = some .repeater) : item ∈ before := by
  have ours : item ∈ after.filter fun item => item.scope = some .repeater :=
    List.mem_filter.mpr ⟨member, decide_eq_true scope⟩
  rw [same.triggers] at ours
  exact (List.mem_filter.mp ours).1

theorem SameRepeater.keepsRef (same : SameRepeater before after) (ref : ℕ) :
    KeepsRef ref before after where
  nodes node member _ := by
    rw [same.repetitions]
    exact member
  triggers := same.queue.triggersOf

theorem keepsRef_withRepetition (apart : ref ≠ router.nextRepetition) :
    KeepsRef ref router (router.withRepetition request payload deadline) where
  nodes _ member _ := List.mem_cons_of_mem _ member
  triggers := by
    refine ManualRuntime.filter_emplace ?_ router.runtime.queue
    simp [apart.symm]

/-- The next repetition of a stored request is scheduled once. -/
theorem triggersOf_withRepetition (unused : router.triggersOf router.nextRepetition = []) :
    (router.withRepetition request payload deadline).triggersOf router.nextRepetition =
      [⟨deadline, .triggerRepetition router.nextRepetition, some .repeater⟩] :=
  ManualRuntime.filter_emplace_self (by simp) unused

theorem keepsRef_erase {erased : ℕ} (apart : ref ≠ erased) :
    KeepsRef ref router
      { router with repetitions := router.repetitions.filter fun node => node.ref ≠ erased } where
  nodes node member same := by
    refine List.mem_filter.mpr ⟨member, ?_⟩
    rw [same]
    exact decide_eq_true apart
  triggers := rfl

theorem Router.Tidy.same (tidy : before.Tidy) (same : SameRepeater before after) : after.Tidy where
  refs := by
    rw [same.repetitions]
    exact tidy.refs
  numbered := by
    rw [same.repetitions, same.nextRepetition]
    exact tidy.numbered
  owned item member ref triggers :=
    tidy.owned item (same.queue.callbacks item member ref triggers) ref triggers

theorem Router.Tidy.withRepetition (tidy : router.Tidy) :
    (router.withRepetition request payload deadline).Tidy where
  refs := by
    refine List.nodup_cons.mpr ⟨fun used => ?_, tidy.refs⟩
    obtain ⟨node, member, same⟩ := List.mem_map.mp used
    exact absurd same (tidy.numbered node member).ne
  numbered node member := by
    rcases List.mem_cons.mp member with rfl | old
    · exact Nat.lt_succ_self _
    · exact (tidy.numbered node old).trans (Nat.lt_succ_self _)
  owned item member ref triggers := by
    rcases ManualRuntime.mem_emplace.mp member with rfl | old
    · rfl
    · exact tidy.owned item old ref triggers

theorem Router.Tidy.erase (tidy : router.Tidy) (ref : ℕ) : Router.Tidy
    { router with repetitions := router.repetitions.filter fun node => node.ref ≠ ref } where
  refs := (List.filter_sublist.map _).nodup tidy.refs
  numbered node member := tidy.numbered node (List.mem_filter.mp member).1
  owned := tidy.owned

/-- The iterator of a stored request leads to it. -/
theorem Router.Tidy.find (tidy : router.Tidy) {node : RepetitionNode}
    (member : node ∈ router.repetitions) :
    router.repetitions.find? (fun other => other.ref = node.ref) = some node := by
  obtain ⟨found, search⟩ := Option.isSome_iff_exists.mp (List.find?_isSome.mpr
    ⟨node, member, decide_eq_true (rfl : node.ref = node.ref)⟩ :
      (router.repetitions.find? fun other => decide (other.ref = node.ref)).isSome = true)
  have same : found.ref = node.ref := by simpa using List.find?_some search
  rw [search, List.inj_on_of_nodup_map tidy.refs (List.mem_of_find?_eq_some search) member same]

end Tidy

/-- What is not negative is rounded down. -/
theorem clockCast_of_nonneg {duration : ℚ} (nonneg : 0 ≤ duration) :
    clockCast duration = ⌊duration⌋ := by
  unfold clockCast
  rw [Rat.floor_def', Int.tdiv_eq_ediv_of_nonneg (Rat.num_nonneg.mpr nonneg)]

theorem clockCast_nonneg {duration : ℚ} (nonneg : 0 ≤ duration) : 0 ≤ clockCast duration := by
  rw [clockCast_of_nonneg nonneg]
  exact Int.floor_nonneg.mpr nonneg

theorem Repetition.hasFurtherRepetition_iff {repetition : Repetition} :
    repetition.hasFurtherRepetition = true ↔
      0 < repetition.interval ∧ repetition.interval ≤ repetition.maximum := by
  unfold Repetition.hasFurtherRepetition
  rw [decide_eq_true_iff]
  constructor
  · rintro ⟨-, positive, room⟩
    exact ⟨positive, room⟩
  · rintro ⟨positive, room⟩
    exact ⟨positive.trans_le room, positive, room⟩

/-- The repetition that the repeater has stored in between. -/
def storedBetween (before after : Router) : Option ℕ :=
  if before.nextRepetition < after.nextRepetition then some before.nextRepetition else none

section Stores

variable {platform : Platform} {env : Environment} {router : Router} {request : DataRequestVariant}
  {payload : ChunkPacket} {repetition : Repetition}

theorem repeaterAdd_further (repeats : request.request.repetition = some repetition)
    (further : repetition.hasFurtherRepetition = true) :
    repeaterAdd request payload router = (.ok (),
      router.withRepetition request payload (router.now + clockCast repetition.interval)) := by
  unfold repeaterAdd Act.modify Action.update
  dsimp only
  rw [repeats]
  dsimp only
  rw [if_pos further]
  rfl

theorem repeaterAdd_last (last : request.request.hasFurtherRepetition = false) :
    repeaterAdd request payload router = (.ok (), router) := by
  obtain ⟨stored, added, -, -, same, -⟩ := repeaterAdd_ok request payload router
  rw [added, same last]

/-- **The repeater stores the request** if it has a further repetition, and is left alone then. -/
def Stores (request : DataRequestVariant) (payload : ChunkPacket) (before after : Router) : Prop :=
  Steady (repeaterAdd request payload before).2 after

/-- The two cases. -/
theorem Stores.cases {before after : Router} (stores : Stores request payload before after) :
    request.request.hasFurtherRepetition = false ∧ Steady before after ∨
      ∃ repetition, request.request.repetition = some repetition ∧
        repetition.hasFurtherRepetition = true ∧
        Steady (before.withRepetition request payload
          (before.now + clockCast repetition.interval)) after := by
  unfold Stores at stores
  by_cases further : request.request.hasFurtherRepetition = true
  · obtain ⟨repetition, repeats, further⟩ := Option.any_eq_true _ _ |>.mp further
    rw [repeaterAdd_further repeats further] at stores
    exact .inr ⟨repetition, repeats, further, stores⟩
  · have last := Bool.not_eq_true _ |>.mp further
    rw [repeaterAdd_last last] at stores
    exact .inl ⟨last, stores⟩

theorem storedBetween_steady {before after : Router} (steady : Steady before after) :
    storedBetween before after = none := by
  unfold storedBetween
  rw [steady.nextRepetition, if_neg (Nat.lt_irrefl _)]

theorem storedBetween_withRepetition {before after : Router} {deadline : ℤ}
    (steady : Steady (before.withRepetition request payload deadline) after) :
    storedBetween before after = some before.nextRepetition := by
  unfold storedBetween
  rw [steady.nextRepetition]
  exact if_pos (Nat.lt_succ_self _)

theorem Stores.tidy {before after : Router} (stores : Stores request payload before after)
    (tidy : before.Tidy) : after.Tidy := by
  rcases stores.cases with ⟨-, steady⟩ | ⟨repetition, -, -, steady⟩
  · exact tidy.same steady.toSameRepeater
  · exact tidy.withRepetition.same steady.toSameRepeater

/-- What has been stored before is kept. -/
theorem Stores.keepsRef {before after : Router} {ref : ℕ}
    (stores : Stores request payload before after) (older : ref < before.nextRepetition) :
    KeepsRef ref before after := by
  rcases stores.cases with ⟨-, steady⟩ | ⟨repetition, -, -, steady⟩
  · exact steady.keepsRef ref
  · exact (keepsRef_withRepetition older.ne).trans (steady.keepsRef ref)

theorem Stores.now {before after : Router} (stores : Stores request payload before after) :
    after.now = before.now := by
  rcases stores.cases with ⟨-, steady⟩ | ⟨repetition, -, -, steady⟩
  · exact steady.now
  · exact steady.now

/-- **The callbacks** of the repeater are those that were there before, and the one of the new
repetition, which is not due before now. -/
theorem Stores.scheduled {before after : Router} (stores : Stores request payload before after)
    {item : ScheduledCallback RouterCallback RouterScope} (member : item ∈ after.runtime.queue)
    (scope : item.scope = some .repeater) :
    item ∈ before.runtime.queue ∨
      storedBetween before after = some before.nextRepetition ∧
        item.callback = .triggerRepetition before.nextRepetition ∧ before.now ≤ item.deadline := by
  rcases stores.cases with ⟨-, steady⟩ | ⟨repetition, -, further, steady⟩
  · exact .inl (steady.queue.mem member scope)
  · rcases ManualRuntime.mem_emplace.mp (steady.queue.mem member scope) with rfl | old
    · refine .inr ⟨storedBetween_withRepetition steady, rfl, ?_⟩
      obtain ⟨positive, -⟩ := Repetition.hasFurtherRepetition_iff.mp further
      exact Int.le_add_of_nonneg_right (clockCast_nonneg positive.le)
    · exact .inl old

/-- **An accepted request** is stored. -/
theorem request_stores (env : Environment) (router : Router)
    (accepted : Accepts platform request (some payload)) :
    Stores request payload router (Router.request platform env request (some payload) router).2 := by
  have sources : AdmitsSources fun _ => True := fun _ _ _ => trivial
  obtain ⟨stored, added, -⟩ := repeaterAdd_ok request payload router
  have stores : ∀ rest : Act ResultCode, Performs (fun _ => True) False rest →
      Stores request payload router ((repeaterAdd request payload >>= fun _ => rest) router).2 := by
    intro rest leaves
    unfold Stores
    rw [Action.bind_of_ok added, added]
    exact steady_of_performs leaves stored
  unfold Router.request
  cases request with
  | shb request =>
    obtain ⟨rest, leaves, same⟩ := requestShb_eq (A := fun _ => True) env request payload
    unfold Accepts at accepted
    dsimp only
    rw [same, if_pos accepted]
    exact stores rest (leaves False)
  | gbc request destination =>
    obtain ⟨rest, leaves, same⟩ :=
      requestGbc_eq env hereditary_all sources request destination payload
    unfold Accepts at accepted
    dsimp only
    rw [same, if_pos accepted]
    exact stores rest (leaves False)
  | gac request destination => exact accepted.elim
  | guc request destination => exact accepted.elim
  | tsb request => exact accepted.elim

/-- A request that is not accepted changes nothing. -/
theorem request_rejected {payload : Option ChunkPacket} (env : Environment) (router : Router)
    (rejected : ¬ Accepts platform request payload) :
    ∃ code, code ≠ .accepted ∧
      Router.request platform env request payload router = (.ok code, router) := by
  cases request with
  | shb request => exact requestShb_rejected rejected
  | gbc request destination => exact requestGbc_rejected rejected
  | gac request destination => exact ⟨.rejectedUnspecified, nofun, rfl⟩
  | guc request destination => exact ⟨.rejectedUnspecified, nofun, rfl⟩
  | tsb request => exact ⟨.rejectedUnspecified, nofun, rfl⟩

/-- An accepted request is confirmed, or a later step fails and an exception is thrown. -/
theorem request_confirmed {payload : Option ChunkPacket} (env : Environment) (router : Router)
    (accepted : Accepts platform request payload) :
    (∃ after, Router.request platform env request payload router = (.ok .accepted, after)) ∨
      Fails platform env router request ∧
        ∃ fault after, Router.request platform env request payload router = (.error fault, after) := by
  by_cases fails : Fails platform env router request
  · refine .inr ⟨fails, ?_⟩
    cases request with
    | shb request =>
      obtain ⟨fault, after, ran, -⟩ := requestShb_fails env router accepted fails
      exact ⟨fault, after, ran⟩
    | gbc request destination =>
      obtain ⟨fault, stored, after, ran, -⟩ := requestGbc_fails env router accepted fails
      exact ⟨fault, after, ran⟩
    | gac request destination => exact accepted.elim
    | guc request destination => exact accepted.elim
    | tsb request => exact accepted.elim
  · left
    cases request with
    | shb request => exact requestShb_completes accepted fails
    | gbc request destination => exact requestGbc_completes accepted fails
    | gac request destination => exact accepted.elim
    | guc request destination => exact accepted.elim
    | tsb request => exact accepted.elim

/-- **A repetition that is due** stores the next one, and is erased unless an exception is thrown. -/
theorem repeaterTrigger_stores (env : Environment) {ref : ℕ} {node : RepetitionNode}
    (found : router.repetitions.find? (fun node => node.ref = ref) = some node)
    (accepted : Accepts platform node.request (some node.payload))
    (repeats : node.request.request.repetition = some repetition) (invocation : ℤ) :
    ∃ stored, Stores (node.request.withRequest
        (nextRequest node.request.request repetition (router.now - invocation))) node.payload
        router stored ∧
      ((repeaterTrigger platform env ref invocation router).2 = stored ∨
        (repeaterTrigger platform env ref invocation router).2 =
          { stored with repetitions := stored.repetitions.filter fun node => node.ref ≠ ref }) := by
  have stores := request_stores env router (accepted.next repeats (router.now - invocation))
  refine ⟨_, stores, ?_⟩
  unfold repeaterTrigger
  rw [Act.read_bind, found]
  dsimp only
  rw [repeats]
  dsimp only
  rw [Action.bind_apply]
  rcases Router.request platform env (node.request.withRequest _) (some node.payload) router with
    ⟨fault | code, stored⟩
  · exact .inl rfl
  · exact .inr rfl

end Stores

end Vanet.Geonet
