/-
**The accounts of repeated requests.**

The accepted requests are kept with their executions. The repeater is in order (`Orderly`) if the
executions of every request are legal, its next repetition is stored and scheduled once exactly if its
maximum has room for one, and nothing else is scheduled by the repeater. What other requests,
indications and timers do leaves the account of a request alone.

* `sound_of_stores`: storing the request that continues an account keeps it sound.
* `Orderly.same`, `Orderly.accepts`, `Orderly.triggers`, `Orderly.invokes`: everything that happens to a
  repeater keeps it in order.
-/

import Vanet.Geonet.Executions

namespace Vanet.Geonet

open Vanet.Common Vanet.Library Vanet.Security
open Vanet.Net hiding ByteBuffer

/-! ### Accepted requests -/

/-- **An accepted request**, with its executions and the repetition that the repeater has stored for
it. -/
structure AcceptedRequest where
  request : DataRequestVariant
  payload : Option ChunkPacket
  since : ℤ
  executions : List Execution
  pending : Option ℕ

/-- The request is executed if the repetition is its own. -/
def AcceptedRequest.execute (ref : ℕ) (execution : Execution) (next : Option ℕ)
    (accepted : AcceptedRequest) : AcceptedRequest :=
  if accepted.pending = some ref then
    { accepted with executions := accepted.executions ++ [execution], pending := next }
  else accepted

/-! ### What holds of every request -/

/-- The request with another repetition. -/
def DataRequestVariant.repeated (request : DataRequestVariant) (repetition : Option Repetition) :
    DataRequestVariant :=
  request.withRequest { request.request with repetition := repetition }

namespace AcceptedRequest

variable (router : Router) (accepted : AcceptedRequest)

/-- **The execution is one of the request**: with its payload, and with its parameters but for the
repetition. -/
def IsExecuted (platform : Platform) (execution : Execution) : Prop :=
  ∃ ran repetition, execution.ran = some ran ∧ ran.before.now = execution.now ∧
    ran.Executes platform (accepted.request.repeated repetition) accepted.payload

/-- **The next repetition** of the request is stored and scheduled once. -/
structure Waits (platform : Platform) (repetition : Repetition) (ref : ℕ) : Prop where
  further : (repetition.remaining accepted.executions).hasFurtherRepetition = true
  stored : ∃ node ∈ router.repetitions, node.ref = ref ∧ accepted.payload = some node.payload ∧
    node.request = accepted.request.repeated (some (repetition.remaining accepted.executions)) ∧
    Router.Accepts platform node.request accepted.payload
  scheduled : router.triggersOf ref =
    [⟨Repetition.lastTime accepted.since accepted.executions + clockCast repetition.interval,
      .triggerRepetition ref, some .repeater⟩]

/-- **The account of a request**: its executions are legal, and there is a next one exactly if the
maximum has room for it. -/
structure Sound (platform : Platform) : Prop where
  legal : ∀ repetition, accepted.request.request.repetition = some repetition →
    repetition.Legal accepted.since accepted.executions
  executed : ∀ execution ∈ accepted.executions, accepted.IsExecuted platform execution
  waits : ∀ ref, accepted.pending = some ref → ∃ repetition,
    accepted.request.request.repetition = some repetition ∧
      accepted.Waits router platform repetition ref
  stops : accepted.pending = none → ∀ repetition,
    accepted.request.request.repetition = some repetition →
      (repetition.remaining accepted.executions).hasFurtherRepetition = false

end AcceptedRequest

/-- **The repeater is in order**: every callback it has scheduled is the next repetition of one request,
and the accounts are sound. -/
structure Orderly (platform : Platform) (router : Router) (accepted : List AcceptedRequest) : Prop where
  tidy : router.Tidy
  scheduled : ∀ item ∈ router.runtime.queue, item.scope = some .repeater →
    ∃ request ∈ accepted, ∃ ref, request.pending = some ref ∧ item.callback = .triggerRepetition ref
  apart : accepted.Pairwise fun one other => ∀ ref, one.pending = some ref → other.pending ≠ some ref
  sound : ∀ request ∈ accepted, request.Sound router platform

/-! ### What keeps an account sound -/

section Accounts

variable {platform : Platform} {router before after : Router} {request : AcceptedRequest}
  {accepted : List AcceptedRequest} {repetition : Repetition} {ref : ℕ}

theorem AcceptedRequest.Sound.keeps (sound : request.Sound before platform)
    (keeps : ∀ ref, request.pending = some ref → KeepsRef ref before after) :
    request.Sound after platform where
  legal := sound.legal
  executed := sound.executed
  waits := by
    intro ref pending
    obtain ⟨repetition, repeats, further, ⟨node, member, same, kept⟩, scheduled⟩ :=
      sound.waits ref pending
    refine ⟨repetition, repeats, further, ⟨node, ?_, same, kept⟩, ?_⟩
    · exact (keeps ref pending).nodes node member same
    · rw [(keeps ref pending).triggers]
      exact scheduled
  stops := sound.stops

/-- A pending repetition has been stored before. -/
theorem AcceptedRequest.Sound.numbered (sound : request.Sound router platform) (tidy : router.Tidy)
    (pending : request.pending = some ref) : ref < router.nextRepetition := by
  obtain ⟨_, _, _, ⟨node, member, rfl, _⟩, _⟩ := sound.waits ref pending
  exact tidy.numbered node member

/-- No callback has the next reference. -/
theorem Orderly.unscheduled (orderly : Orderly platform router accepted) :
    router.triggersOf router.nextRepetition = [] := by
  refine List.filter_eq_nil_iff.mpr fun item member triggers => ?_
  obtain ⟨scope, next⟩ := of_decide_eq_true triggers
  obtain ⟨request, known, ref, pending, callback⟩ := orderly.scheduled item member scope
  have older := (orderly.sound request known).numbered orderly.tidy pending
  rw [next] at callback
  cases callback
  exact absurd older (Nat.lt_irrefl _)

/-- **The request that is stored continues the account**: it has the remaining repetition exactly if
this is a further one. -/
structure AcceptedRequest.Continues (request : AcceptedRequest) (next : DataRequestVariant)
    (repetition : Repetition) : Prop where
  further_iff : next.request.hasFurtherRepetition = true ↔
    (repetition.remaining request.executions).hasFurtherRepetition = true
  repeated : (repetition.remaining request.executions).hasFurtherRepetition = true →
    next = request.request.repeated (some (repetition.remaining request.executions))

theorem DataRequestVariant.request_repeated (request : DataRequestVariant)
    (repetition : Option Repetition) :
    (request.repeated repetition).request = { request.request with repetition := repetition } := by
  cases request <;> rfl

/-- **Storing what continues an account** keeps it sound. -/
theorem AcceptedRequest.sound_of_stores {next : DataRequestVariant} {payload : ChunkPacket}
    (stores : Stores next payload before after)
    (unscheduled : before.triggersOf before.nextRepetition = [])
    (time : before.now = Repetition.lastTime request.since request.executions)
    (carries : request.payload = some payload)
    (pending : request.pending = storedBetween before after)
    (valid : Router.Accepts platform next (some payload))
    (legal : ∀ repetition, request.request.request.repetition = some repetition →
      repetition.Legal request.since request.executions)
    (executed : ∀ execution ∈ request.executions, request.IsExecuted platform execution)
    (continues : ∀ repetition, request.request.request.repetition = some repetition →
      request.Continues next repetition)
    (unrepeated : request.request.request.repetition = none →
      next.request.hasFurtherRepetition = false) :
    request.Sound after platform := by
  rcases stores.cases with ⟨last, steady⟩ | ⟨rest, repeats, further, steady⟩
  · rw [storedBetween_steady steady] at pending
    refine ⟨legal, executed, fun ref some => ?_, fun _ repetition repeats => ?_⟩
    · rw [pending] at some
      cases some
    · rw [Bool.eq_false_iff]
      intro more
      rw [(continues repetition repeats).further_iff.mpr more] at last
      cases last
  · have moreover : next.request.hasFurtherRepetition = true := by
      unfold DataRequest.hasFurtherRepetition
      rw [repeats]
      exact further
    rw [storedBetween_withRepetition steady] at pending
    refine ⟨legal, executed, fun ref some => ?_, fun none => ?_⟩
    · rw [pending] at some
      cases some
      cases original : request.request.request.repetition with
      | none =>
        rw [unrepeated original] at moreover
        cases moreover
      | some repetition =>
        have goesOn := (continues repetition original).further_iff.mp moreover
        have same := (continues repetition original).repeated goesOn
        have kept := steady.keepsRef before.nextRepetition
        refine ⟨repetition, rfl, goesOn, ⟨⟨before.nextRepetition, next, payload⟩, ?_, rfl, carries,
          same, ?_⟩, ?_⟩
        · exact kept.nodes _ List.mem_cons_self rfl
        · rw [carries]
          exact valid
        · have interval : rest.interval = repetition.interval := by
            rw [same, DataRequestVariant.request_repeated] at repeats
            cases repeats
            exact Repetition.remaining_interval
          rw [kept.triggers, triggersOf_withRepetition unscheduled, time, interval]
    · rw [pending] at none
      cases none

/-- **The repeater is left alone.** -/
theorem Orderly.same (orderly : Orderly platform before accepted) (same : SameRepeater before after) :
    Orderly platform after accepted where
  tidy := orderly.tidy.same same
  scheduled item member scope := orderly.scheduled item (same.queue.mem member scope) scope
  apart := orderly.apart
  sound request known := (orderly.sound request known).keeps fun ref _ => same.keepsRef ref

/-- **A repetition is erased** that belongs to no request any more. -/
theorem Orderly.erase (orderly : Orderly platform router accepted)
    (done : ∀ request ∈ accepted, request.pending ≠ some ref) :
    Orderly platform
      { router with repetitions := router.repetitions.filter fun node => node.ref ≠ ref }
      accepted where
  tidy := orderly.tidy.erase ref
  scheduled := orderly.scheduled
  apart := orderly.apart
  sound request known := (orderly.sound request known).keeps fun _ pending =>
    keepsRef_erase fun same => done request known (same ▸ pending)

/-- The original request, with its own repetition. -/
theorem DataRequestVariant.repeated_self {request : DataRequestVariant}
    (repeats : request.request.repetition = some repetition) :
    request.repeated (some repetition) = request := by
  unfold DataRequestVariant.repeated
  rw [← repeats]
  cases request <;> rfl

/-- **A request is accepted.** -/
theorem Orderly.accepts {request : DataRequestVariant} {payload : ChunkPacket}
    (orderly : Orderly platform before accepted) (stores : Stores request payload before after)
    (valid : Router.Accepts platform request (some payload)) :
    Orderly platform after
      (accepted ++ [⟨request, some payload, before.now, [], storedBetween before after⟩]) where
  tidy := stores.tidy orderly.tidy
  scheduled := by
    intro item member scope
    rcases stores.scheduled member scope with old | ⟨stored, callback, -⟩
    · obtain ⟨other, known, pending⟩ := orderly.scheduled item old scope
      exact ⟨other, List.mem_append_left _ known, pending⟩
    · exact ⟨_, List.mem_append_right _ List.mem_cons_self, _, stored, callback⟩
  apart := by
    refine List.pairwise_append.mpr ⟨orderly.apart, List.pairwise_singleton _ _, ?_⟩
    intro other known latest newest ref pending stored
    rw [List.mem_singleton.mp newest] at stored
    have older := (orderly.sound other known).numbered orderly.tidy pending
    unfold storedBetween at stored
    dsimp only at stored
    split_ifs at stored
    cases stored
    exact Nat.lt_irrefl _ older
  sound := by
    intro other known
    rcases List.mem_append.mp known with old | latest
    · have sound := orderly.sound other old
      exact sound.keeps fun ref pending => stores.keepsRef (sound.numbered orderly.tidy pending)
    · rw [List.mem_singleton.mp latest]
      refine AcceptedRequest.sound_of_stores stores orderly.unscheduled rfl rfl rfl valid
        (fun _ _ => trivial) (fun _ impossible => absurd impossible List.not_mem_nil) ?_ ?_
      · intro repetition repeats
        refine ⟨?_, fun _ => (DataRequestVariant.repeated_self repeats).symm⟩
        unfold DataRequest.hasFurtherRepetition
        dsimp only at repeats ⊢
        rw [repeats]
        rfl
      · intro none
        unfold DataRequest.hasFurtherRepetition
        dsimp only at none
        rw [none]
        rfl

/-! ### A repetition is due -/

theorem DataRequestVariant.repeated_repeated (request : DataRequestVariant)
    (first second : Option Repetition) :
    (request.repeated first).repeated second = request.repeated second := by
  cases request <;> rfl

/-- The request of the next repetition. -/
theorem nextRequest_eq (further : repetition.hasFurtherRepetition = true) (request : DataRequest)
    (delay : ℤ) : Router.nextRequest request repetition delay =
      { request with
        repetition := if (repetition.spent delay).hasFurtherRepetition then
          some (repetition.spent delay) else none } := by
  unfold Router.nextRequest DataRequest.hasFurtherRepetition
  dsimp only
  rw [Repetition.decrementByOne_of_further further]
  unfold Repetition.spent
  dsimp only [Option.any_some]
  split_ifs <;> rfl

/-- **What is known of a request whose repetition is due.** -/
structure AcceptedRequest.Due (request : AcceptedRequest) (platform : Platform) (router : Router)
    (due : ScheduledCallback RouterCallback RouterScope)
    (rest : List (ScheduledCallback RouterCallback RouterScope)) (ref : ℕ) (node : RepetitionNode)
    (repetition : Repetition) : Prop where
  repeats : request.request.request.repetition = some repetition
  further : (repetition.remaining request.executions).hasFurtherRepetition = true
  found : router.repetitions.find? (fun node => node.ref = ref) = some node
  carries : request.payload = some node.payload
  same : node.request = request.request.repeated (some (repetition.remaining request.executions))
  valid : Router.Accepts platform node.request (some node.payload)
  deadline : due.deadline =
    Repetition.lastTime request.since request.executions + clockCast repetition.interval
  last : rest.filter (fun item =>
    item.scope = some .repeater ∧ item.callback = .triggerRepetition ref) = []

section Due

variable {due : ScheduledCallback RouterCallback RouterScope}
  {rest : List (ScheduledCallback RouterCallback RouterScope)} {node : RepetitionNode}

theorem AcceptedRequest.Sound.isDue (sound : request.Sound router platform) (tidy : router.Tidy)
    (pending : request.pending = some ref) (queued : router.runtime.queue = due :: rest)
    (callback : due.callback = .triggerRepetition ref) :
    ∃ node repetition, request.Due platform router due rest ref node repetition := by
  obtain ⟨repetition, repeats, further, ⟨node, member, own, carries, same, valid⟩, scheduled⟩ :=
    sound.waits ref pending
  have found := tidy.find member
  rw [own] at found
  have scope := tidy.owned due (by rw [queued]; exact List.mem_cons_self) ref callback
  unfold Router.triggersOf at scheduled
  rw [queued, List.filter_cons_of_pos (by simp [scope, callback])] at scheduled
  obtain ⟨first, last⟩ := List.cons.inj scheduled
  rw [carries] at valid
  exact ⟨node, repetition, repeats, further, found, carries, same, valid, by rw [first], last⟩

/-- The request of the repetition that follows. -/
theorem AcceptedRequest.Due.next_eq (isDue : request.Due platform router due rest ref node repetition)
    (delay : ℤ) :
    node.request.withRequest
        (Router.nextRequest node.request.request (repetition.remaining request.executions) delay) =
      request.request.repeated
        (if ((repetition.remaining request.executions).spent delay).hasFurtherRepetition then
          some ((repetition.remaining request.executions).spent delay) else none) := by
  rw [nextRequest_eq isDue.further]
  exact (congrArg (DataRequestVariant.repeated · _) isDue.same).trans
    (DataRequestVariant.repeated_repeated _ _ _)

/-- **The request is executed**, and its next repetition is stored. -/
theorem AcceptedRequest.Due.execute (isDue : request.Due platform router due rest ref node repetition)
    (sound : request.Sound router platform) (pending : request.pending = some ref)
    (late : due.deadline ≤ router.now)
    (stores : Stores (node.request.withRequest (Router.nextRequest node.request.request
      (repetition.remaining request.executions) (router.now - due.deadline))) node.payload before after)
    (unscheduled : before.triggersOf before.nextRepetition = []) (now : before.now = router.now)
    {ran : Invocation} (time : ran.before.now = router.now)
    (executes : ran.Executes platform (node.request.withRequest (Router.nextRequest node.request.request
      (repetition.remaining request.executions) (router.now - due.deadline))) (some node.payload)) :
    (request.execute ref ⟨due.deadline, router.now, some ran⟩ (storedBetween before after)).Sound
      after platform := by
  have repeats : node.request.request.repetition =
      some (repetition.remaining request.executions) := by
    rw [isDue.same, DataRequestVariant.request_repeated]
  unfold AcceptedRequest.execute
  rw [if_pos pending]
  refine AcceptedRequest.sound_of_stores stores unscheduled ?_ isDue.carries rfl
    (isDue.valid.next repeats _) ?_ ?_ ?_ ?_
  · rw [Repetition.lastTime_concat]
    exact now
  · intro other original
    have legal := sound.legal other original
    have known := isDue.repeats
    rw [original] at known
    cases known
    exact Repetition.legal_concat.mpr ⟨legal, isDue.further, isDue.deadline, late⟩
  · intro execution member
    rcases List.mem_append.mp member with old | last
    · exact sound.executed execution old
    · rw [List.mem_singleton.mp last]
      rw [isDue.next_eq, ← isDue.carries] at executes
      exact ⟨ran, _, rfl, time, executes⟩
  · intro other original
    have known := isDue.repeats
    rw [original] at known
    cases known
    rw [isDue.next_eq]
    constructor
    · rw [Repetition.remaining_concat]
      unfold DataRequest.hasFurtherRepetition Execution.delay
      rw [DataRequestVariant.request_repeated]
      split_ifs with more
      · simp [more]
      · simp [more]
    · intro more
      rw [Repetition.remaining_concat] at more ⊢
      unfold Execution.delay at more ⊢
      rw [if_pos more]
  · intro none
    have known := isDue.repeats
    rw [none] at known
    cases known

/-- The repeater when its runtime has taken the first callback from the queue. -/
theorem Orderly.popped (orderly : Orderly platform router accepted)
    (queued : router.runtime.queue = due :: rest) {popped : Router}
    (taken : popped = { router with runtime := { router.runtime with queue := rest } }) :
    popped.Tidy ∧ popped.triggersOf popped.nextRepetition = [] ∧
      ∀ other, due.callback ≠ .triggerRepetition other → KeepsRef other router popped := by
  rw [taken]
  refine ⟨⟨orderly.tidy.refs, orderly.tidy.numbered, fun item member => ?_⟩, ?_, fun other apart => ?_⟩
  · exact orderly.tidy.owned item (by rw [queued]; exact List.mem_cons_of_mem _ member)
  · have unscheduled := orderly.unscheduled
    unfold Router.triggersOf at unscheduled ⊢
    rw [queued] at unscheduled
    exact List.filter_eq_nil_iff.mpr fun item member =>
      List.filter_eq_nil_iff.mp unscheduled item (List.mem_cons_of_mem _ member)
  · refine ⟨fun _ member _ => member, ?_⟩
    unfold Router.triggersOf
    rw [queued, List.filter_cons_of_neg (by simp [apart])]

/-- No request has the repetition that was due any more. -/
theorem AcceptedRequest.execute_pending {execution : Execution} {next : Option ℕ}
    (another : next ≠ some ref) : (request.execute ref execution next).pending ≠ some ref := by
  unfold AcceptedRequest.execute
  split_ifs with own
  · exact another
  · exact own

/-- The other requests are not concerned. -/
theorem AcceptedRequest.execute_other {execution : Execution} {next : Option ℕ}
    (other : request.pending ≠ some ref) : request.execute ref execution next = request := by
  unfold AcceptedRequest.execute
  rw [if_neg other]

theorem AcceptedRequest.execute_own {execution : Execution} {next : Option ℕ}
    (own : request.pending = some ref) : (request.execute ref execution next).pending = next := by
  unfold AcceptedRequest.execute
  rw [if_pos own]

/-- What is stored in between has a new reference. -/
theorem storedBetween_ne {older : ℕ} (numbered : older < before.nextRepetition) :
    storedBetween before after ≠ some older := by
  unfold storedBetween
  split_ifs
  · intro same
    cases same
    exact Nat.lt_irrefl _ numbered
  · exact nofun

/-- **The repetition that is due** is executed, and the next one stored. -/
theorem Orderly.executes (orderly : Orderly platform router accepted)
    (queued : router.runtime.queue = due :: rest) (late : due.deadline ≤ router.now)
    (callback : due.callback = .triggerRepetition ref) {popped stored : Router}
    (taken : popped = { router with runtime := { router.runtime with queue := rest } })
    (found : router.repetitions.find? (fun node => node.ref = ref) = some node)
    (repeats : node.request.request.repetition = some repetition)
    (stores : Stores (node.request.withRequest (Router.nextRequest node.request.request repetition
      (router.now - due.deadline))) node.payload popped stored) {ran : Invocation}
    (time : ran.before.now = router.now)
    (asks : ran.Executes platform (node.request.withRequest (Router.nextRequest node.request.request
      repetition (router.now - due.deadline))) (some node.payload)) :
    Orderly platform stored (accepted.map (AcceptedRequest.execute ref
      ⟨due.deadline, router.now, some ran⟩ (storedBetween popped stored))) := by
  obtain ⟨tidy, unscheduled, keeps⟩ := orderly.popped queued taken
  have now : popped.now = router.now := by rw [taken]; rfl
  have next : popped.nextRepetition = router.nextRepetition := by rw [taken]
  have queue : popped.runtime.queue = rest := by rw [taken]
  have older : ∀ request ∈ accepted, ∀ other, request.pending = some other →
      other < popped.nextRepetition := by
    intro request known other pending
    rw [next]
    exact (orderly.sound request known).numbered orderly.tidy pending
  constructor
  case tidy => exact stores.tidy tidy
  case scheduled =>
    intro item member scope
    rcases stores.scheduled member scope with old | ⟨new, triggers, -⟩
    · rw [queue] at old
      obtain ⟨request, known, other, pending, triggers⟩ :=
        orderly.scheduled item (by rw [queued]; exact List.mem_cons_of_mem _ old) scope
      have another : request.pending ≠ some ref := by
        intro own
        obtain ⟨_, _, isDue⟩ :=
          (orderly.sound request known).isDue orderly.tidy own queued callback
        rw [own] at pending
        cases pending
        exact List.filter_eq_nil_iff.mp isDue.last item old (decide_eq_true ⟨scope, triggers⟩)
      exact ⟨request, List.mem_map.mpr ⟨request, known, AcceptedRequest.execute_other another⟩,
        other, pending, triggers⟩
    · have due_scope :=
        orderly.tidy.owned due (by rw [queued]; exact List.mem_cons_self) ref callback
      obtain ⟨owner, known, own, pending, same⟩ :=
        orderly.scheduled due (by rw [queued]; exact List.mem_cons_self) due_scope
      rw [callback] at same
      cases same
      exact ⟨_, List.mem_map_of_mem known, _, (AcceptedRequest.execute_own pending).trans new, triggers⟩
  case apart =>
    refine List.pairwise_map.mpr (orderly.apart.imp_of_mem ?_)
    intro one another known other apart shared first second
    by_cases mine : one.pending = some ref
    · rw [AcceptedRequest.execute_own mine] at first
      rw [AcceptedRequest.execute_other (apart ref mine)] at second
      exact storedBetween_ne (older another other shared second) first
    · rw [AcceptedRequest.execute_other mine] at first
      by_cases others : another.pending = some ref
      · rw [AcceptedRequest.execute_own others] at second
        exact storedBetween_ne (older one known shared first) second
      · rw [AcceptedRequest.execute_other others] at second
        exact apart shared first second
  case sound =>
    intro request executed
    obtain ⟨before, known, rfl⟩ := List.mem_map.mp executed
    have sound := orderly.sound before known
    by_cases pending : before.pending = some ref
    · obtain ⟨other, own, isDue⟩ := sound.isDue orderly.tidy pending queued callback
      have same := isDue.found
      rw [found] at same
      cases same
      rw [isDue.same, DataRequestVariant.request_repeated] at repeats
      cases repeats
      exact isDue.execute sound pending late stores unscheduled now time asks
    · rw [AcceptedRequest.execute_other pending]
      refine sound.keeps fun other waits => ?_
      have apart : due.callback ≠ .triggerRepetition other := by
        rw [callback]
        rintro ⟨⟩
        exact pending waits
      exact (keeps other apart).trans (stores.keepsRef (older before known other waits))

/-- **The repeater's callback** asks for the request. -/
theorem repeaterTrigger_executes (env : Environment)
    (found : router.repetitions.find? (fun node => node.ref = ref) = some node)
    (accepted : Router.Accepts platform node.request (some node.payload))
    (repeats : node.request.request.repetition = some repetition) (invocation : ℤ) {ran : Invocation}
    (invoked : ran.env = env ∧ ran.before = router)
    (ended : ran.after = (Router.repeaterTrigger platform env ref invocation router).2)
    (failed : ran.failed = match (Router.repeaterTrigger platform env ref invocation router).1 with
      | .ok _ => false
      | .error _ => true) :
    ran.Executes platform (node.request.withRequest (Router.nextRequest node.request.request repetition
      (router.now - invocation))) (some node.payload) := by
  let next := node.request.withRequest (Router.nextRequest node.request.request repetition
    (router.now - invocation))
  have asks : Router.repeaterTrigger platform env ref invocation router =
      (Router.request platform env next (some node.payload) >>= fun _ => Act.modify fun router =>
        { router with repetitions := router.repetitions.filter fun node => node.ref ≠ ref }) router := by
    unfold Router.repeaterTrigger
    rw [Act.read_bind, found]
    dsimp only
    rw [repeats]
  rw [asks] at ended failed
  obtain ⟨rfl, rfl⟩ := invoked
  rcases request_confirmed ran.env ran.before (accepted.next repeats (ran.before.now - invocation)) with
    ⟨requested, confirmed⟩ | ⟨fails, fault, requested, thrown⟩
  · rw [Action.bind_of_ok confirmed] at ended failed
    exact .returned confirmed ended failed
  · rw [Action.bind_of_error thrown] at ended failed
    have same : ran.after = requested := ended
    rw [← same] at thrown
    exact .thrown thrown fails failed

/-- ... and stores the next repetition. -/
theorem Orderly.stores (orderly : Orderly platform router accepted)
    (queued : router.runtime.queue = due :: rest)
    (callback : due.callback = .triggerRepetition ref) (env : Environment) {popped : Router}
    (taken : popped = { router with runtime := { router.runtime with queue := rest } }) :
    ∃ node repetition stored,
      ref < router.nextRepetition ∧
      router.repetitions.find? (fun node => node.ref = ref) = some node ∧
      node.request.request.repetition = some repetition ∧
      Router.Accepts platform node.request (some node.payload) ∧
      Stores (node.request.withRequest (Router.nextRequest node.request.request repetition
        (router.now - due.deadline))) node.payload popped stored ∧
      ((Router.repeaterTrigger platform env ref due.deadline popped).2 = stored ∨
        (Router.repeaterTrigger platform env ref due.deadline popped).2 =
          { stored with repetitions := stored.repetitions.filter fun node => node.ref ≠ ref }) := by
  have first : due ∈ router.runtime.queue := by
    rw [queued]
    exact List.mem_cons_self
  have scope := orderly.tidy.owned due first ref callback
  obtain ⟨owner, known, own, pending, same⟩ := orderly.scheduled due first scope
  rw [callback] at same
  cases same
  have sound := orderly.sound owner known
  obtain ⟨node, repetition, isDue⟩ := sound.isDue orderly.tidy pending queued callback
  have repeats : node.request.request.repetition =
      some (repetition.remaining owner.executions) := by
    rw [isDue.same, DataRequestVariant.request_repeated]
  have found : popped.repetitions.find? (fun node => node.ref = ref) = some node := by
    rw [taken]
    exact isDue.found
  have now : popped.now = router.now := by
    rw [taken]
    rfl
  obtain ⟨stored, stores, ending⟩ :=
    repeaterTrigger_stores env found isDue.valid repeats due.deadline
  rw [now] at stores
  exact ⟨node, _, stored, sound.numbered orderly.tidy pending, isDue.found, repeats, isDue.valid, stores,
    ending⟩

/-- ... and keeps the repeater in order. -/
theorem Orderly.triggers (orderly : Orderly platform router accepted)
    (queued : router.runtime.queue = due :: rest) (late : due.deadline ≤ router.now)
    (callback : due.callback = .triggerRepetition ref) (env : Environment) {popped after : Router}
    (taken : popped = { router with runtime := { router.runtime with queue := rest } })
    (ran : after = (Router.repeaterTrigger platform env ref due.deadline popped).2) {failed : Bool}
    (fails : failed = match (Router.repeaterTrigger platform env ref due.deadline popped).1 with
      | .ok _ => false
      | .error _ => true) :
    Orderly platform after (accepted.map (AcceptedRequest.execute ref
      ⟨due.deadline, router.now, some ⟨env, popped, after, failed⟩⟩ (storedBetween router after))) := by
  obtain ⟨node, repetition, stored, numbered, found, repeats, valid, stores, ending⟩ :=
    orderly.stores queued callback env taken
  have now : popped.now = router.now := by rw [taken]; rfl
  have kept : popped.repetitions.find? (fun node => node.ref = ref) = some node := by
    rw [taken]
    exact found
  have asks := @repeaterTrigger_executes _ _ _ _ _ env kept valid repeats due.deadline
    ⟨env, popped, after, failed⟩ ⟨rfl, rfl⟩ ran fails
  rw [now] at asks
  have executes := orderly.executes queued late callback taken found repeats stores now asks
  have next : popped.nextRepetition = router.nextRepetition := by rw [taken]
  have between : storedBetween router after = storedBetween popped stored := by
    unfold storedBetween
    rw [next]
    rcases ending with same | same <;> rw [ran, same]
  rw [between]
  rw [← ran] at ending
  generalize (⟨env, popped, after, failed⟩ : Invocation) = invoked at executes ⊢
  rcases ending with same | same
  · rw [same]
    exact executes
  · rw [same]
    refine executes.erase fun request executed => ?_
    obtain ⟨before, old, rfl⟩ := List.mem_map.mp executed
    refine AcceptedRequest.execute_pending (storedBetween_ne ?_)
    rw [next]
    exact numbered

/-- The callbacks of others. -/
theorem Orderly.invokes (orderly : Orderly platform router accepted)
    (queued : router.runtime.queue = due :: rest)
    (another : ∀ ref, due.callback ≠ .triggerRepetition ref) (env : Environment) :
    Orderly platform (Router.invoke platform env due.callback due.deadline
      { router with runtime := { router.runtime with queue := rest } }).2 accepted := by
  have foreign : due.scope ≠ some .repeater := by
    intro scope
    obtain ⟨_, _, ref, _, callback⟩ :=
      orderly.scheduled due (by rw [queued]; exact List.mem_cons_self) scope
    exact another ref callback
  have taken : SameRepeater router { router with runtime := { router.runtime with queue := rest } } := by
    refine ⟨rfl, rfl, ?_, fun item member _ _ => ?_⟩
    · rw [queued, List.filter_cons_of_neg (by simp [foreign])]
    · rw [queued]
      exact List.mem_cons_of_mem _ member
  exact (orderly.same taken).same (steady_invoke another due.deadline _).toSameRepeater

end Due

end Accounts

end Vanet.Geonet
