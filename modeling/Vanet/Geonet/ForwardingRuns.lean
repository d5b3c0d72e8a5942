/-
**Runs of a forwarding buffer.**

A flush swaps the packets out and visits them one after another. The action of a packet that is visited may
push again, into the buffer that the flush has emptied. The packets are numbered as they are pushed, and a
run keeps account of where each of them has gone, and why.

* `step_ledger`: one step keeps the account.
* `step_reasons`: what is dropped has expired or had to go, and a flush hands over what `flushed` lists.
* `forwarding_buffer_lossless`: the buffer is a lossless bounded queue.
-/

import Mathlib.Algebra.Order.Group.Multiset
import Mathlib.Tactic.Abel
import Vanet.Geonet.BufferPush
import Vanet.Library.Run

namespace Vanet.Geonet

open Vanet.Library

/-- Data with the number of its push. -/
structure Numbered (δ : Type) where
  number : ℕ
  data : δ

variable {δ : Type} [PacketData δ]

instance numberedPacketData : PacketData (Numbered δ) where
  length numbered := PacketData.length numbered.data
  reduceLifetime numbered d :=
    ((PacketData.reduceLifetime numbered.data d).1,
      ⟨numbered.number, (PacketData.reduceLifetime numbered.data d).2⟩)

/-- The packets that have expired. -/
def PacketBuffer.outdated (buffer : PacketBuffer δ) (now : ℤ) : List (Expiry × δ) :=
  buffer.nodes.filter fun node => node.1.isExpired now

/-- A packet that was handed to its flush action: its node, the time and the data as they were then. -/
structure Release (δ : Type) where
  node : Expiry × Numbered δ
  now : ℤ
  handed : δ

/-- A packet that was dropped as expired: its node, and the time. -/
structure Lapse (δ : Type) where
  node : Expiry × Numbered δ
  now : ℤ

/-- A flush that is under way: its time, the nodes that it has not visited, and whether the action of the
packet that it visited last may be running. -/
structure Sweep (δ : Type) where
  now : ℤ
  nodes : List (Expiry × Numbered δ)
  calling : Bool

/-- **A run of a forwarding buffer**: the buffer and the flush that is under way. Besides, `mark` is the
number of pushes and `begun` that of released packets when the last flush began, and `listed` what it was to
process; the other lists tell which packets were pushed successfully, which of them were handed to their
actions, dropped as expired, and dropped for lack of space. -/
structure ForwardingRun (δ : Type) where
  buffer : PacketBuffer (Numbered δ)
  sweep : Option (Sweep δ)
  clock : ℤ
  pushes : ℕ
  mark : ℕ
  begun : ℕ
  listed : List δ
  accepted : List ℕ
  released : List (Release δ)
  expired : List (Lapse δ)
  dropped : List (PacketBuffer.Eviction (Numbered δ))

/-- The numbers of some packets. -/
def numbers (nodes : List (Expiry × Numbered δ)) : List ℕ := nodes.map fun node => node.2.number

namespace Sweep

/-- What is processed for a node. -/
def release (sweep : Sweep δ) (node : Expiry × Numbered δ) : Release δ :=
  ⟨node, sweep.now, (PacketData.reduceLifetime node.2.data (sweep.now - node.1.bufferedSince)).2⟩

/-- What a flush still has to process. -/
def due (sweep : Sweep δ) : List δ :=
  ((⟨sweep.nodes, 0, 0⟩ : PacketBuffer (Numbered δ)).flushed sweep.now).map Numbered.data

end Sweep

namespace ForwardingRun

inductive Action (δ : Type)
  | push (data : δ) (now : ℤ)
  | flush (now : ℤ)
  | visit

def starting (capacity : ℕ) (clock : ℤ) : ForwardingRun δ :=
  ⟨.empty capacity, none, clock, 0, 0, 0, [], [], [], [], []⟩

def Initial (capacity : ℕ) (run : ForwardingRun δ) : Prop := ∃ clock, run = starting capacity clock

/-- Nothing calls `push` while a flush is under way but the action of the packet that is visited. -/
def mayPush (run : ForwardingRun δ) : Bool := run.sweep.all Sweep.calling

def push (run : ForwardingRun δ) (data : δ) (now : ℤ) : ForwardingRun δ :=
  { run with
    buffer := (run.buffer.push ⟨run.pushes, data⟩ now).2
    clock := now
    pushes := run.pushes + 1
    accepted :=
      if (run.buffer.push ⟨run.pushes, data⟩ now).1 then run.accepted ++ [run.pushes] else run.accepted
    expired := run.expired ++ (run.buffer.outdated now).map (⟨·, now⟩)
    dropped := run.dropped ++ PacketBuffer.evictions (PacketData.length data)
      (run.buffer.spared ⟨run.pushes, data⟩ now) (run.buffer.crowdedOut ⟨run.pushes, data⟩ now) }

/-- `flush` begins: the nodes are swapped out. -/
def flush (run : ForwardingRun δ) (now : ℤ) : ForwardingRun δ :=
  { run with
    buffer := run.buffer.clear
    sweep := some ⟨now, run.buffer.nodes, false⟩
    clock := now
    mark := run.pushes
    begun := run.released.length
    listed := (run.buffer.flushed now).map Numbered.data }

/-- The packet that is visited has expired. -/
def pass (run : ForwardingRun δ) (sweep : Sweep δ) (node : Expiry × Numbered δ)
    (rest : List (Expiry × Numbered δ)) : ForwardingRun δ :=
  { run with
    sweep := some ⟨sweep.now, rest, false⟩
    expired := run.expired ++ [⟨node, sweep.now⟩] }

/-- It is handed to its action. -/
def hand (run : ForwardingRun δ) (sweep : Sweep δ) (node : Expiry × Numbered δ)
    (rest : List (Expiry × Numbered δ)) : ForwardingRun δ :=
  { run with
    sweep := some ⟨sweep.now, rest, true⟩
    released := run.released ++ [sweep.release node] }

/-- The loop of `flush` goes on. -/
def visitNext (run : ForwardingRun δ) (sweep : Sweep δ) : ForwardingRun δ :=
  match sweep.nodes with
  | [] => { run with sweep := none }
  | node :: rest =>
    if node.1.isExpired sweep.now then run.pass sweep node rest else run.hand sweep node rest

/-- **A step**, at times that do not decrease. -/
def step (run : ForwardingRun δ) : Action δ → Option (ForwardingRun δ)
  | .push data now => if run.clock ≤ now ∧ run.mayPush then some (run.push data now) else none
  | .flush now => if run.clock ≤ now ∧ run.sweep.isNone then some (run.flush now) else none
  | .visit => run.sweep.map run.visitNext

/-! ### Where the packets are -/

/-- The packets that the flush has swapped out and not visited. -/
def swapped (run : ForwardingRun δ) : List (Expiry × Numbered δ) := run.sweep.elim [] Sweep.nodes

/-- The packets that were flushed, in the order in which they were. -/
def flushedNumbers (run : ForwardingRun δ) : List ℕ :=
  run.released.map fun release => release.node.2.number

def expiredNumbers (run : ForwardingRun δ) : List ℕ := run.expired.map fun lapse => lapse.node.2.number

def droppedNumbers (run : ForwardingRun δ) : List ℕ :=
  run.dropped.map fun eviction => eviction.node.2.number

/-- **The line of the packets**: flushed, swapped out, and held. -/
def line (run : ForwardingRun δ) : List ℕ :=
  run.flushedNumbers ++ (numbers run.swapped ++ numbers run.buffer.nodes)

/-- **The account of a run.** -/
structure Ledger (run : ForwardingRun δ) : Prop where
  accounted : run.buffer.Accounted
  order : run.line.Pairwise (· < ·)
  earlier : ∀ number ∈ run.flushedNumbers ++ numbers run.swapped, number < run.mark
  once : run.accepted.Pairwise (· < ·)
  used : ∀ number ∈ run.accepted, number < run.pushes
  kept : run.accepted.Perm (run.line ++ (run.expiredNumbers ++ run.droppedNumbers))

theorem Ledger.line_used {run : ForwardingRun δ} (ledger : run.Ledger) :
    ∀ number ∈ run.line, number < run.pushes :=
  fun number member => ledger.used number (ledger.kept.mem_iff.mpr (List.mem_append_left _ member))

/-- What a push appends. -/
def appended (run : ForwardingRun δ) (data : δ) (now : ℤ) : List ℕ :=
  if (run.buffer.push ⟨run.pushes, data⟩ now).1 then [run.pushes] else []

theorem push_accepted (run : ForwardingRun δ) (data : δ) (now : ℤ) :
    (run.push data now).accepted = run.accepted ++ run.appended data now := by
  unfold push appended
  dsimp only
  split_ifs
  · rfl
  · rw [List.append_nil]

theorem push_held (run : ForwardingRun δ) (data : δ) (now : ℤ) :
    numbers (run.push data now).buffer.nodes =
      numbers (run.buffer.spared ⟨run.pushes, data⟩ now) ++ run.appended data now := by
  unfold push numbers appended
  dsimp only
  rw [PacketBuffer.push_nodes, List.map_append]
  split_ifs <;> rfl

/-- What was held has expired, is crowded out or is spared. -/
theorem held_perm (run : ForwardingRun δ) (data : δ) (now : ℤ) :
    (numbers run.buffer.nodes).Perm (numbers (run.buffer.outdated now) ++
      (numbers (run.buffer.crowdedOut ⟨run.pushes, data⟩ now) ++
        numbers (run.buffer.spared ⟨run.pushes, data⟩ now))) := by
  have parted := (List.filter_append_perm (fun node => node.1.isExpired now) run.buffer.nodes).symm
  change List.Perm _ (_ ++ run.buffer.live now) at parted
  rw [PacketBuffer.live_split ⟨run.pushes, data⟩ now] at parted
  have numbered := parted.map fun node => node.2.number
  rw [List.map_append, List.map_append] at numbered
  exact numbered

theorem appended_sublist (run : ForwardingRun δ) (data : δ) (now : ℤ) :
    (run.appended data now).Sublist [run.pushes] := by
  unfold appended
  split_ifs
  · exact .refl _
  · exact List.nil_sublist _

theorem push_expired (run : ForwardingRun δ) (data : δ) (now : ℤ) :
    (run.push data now).expiredNumbers = run.expiredNumbers ++ numbers (run.buffer.outdated now) := by
  unfold expiredNumbers push
  dsimp only
  rw [List.map_append, List.map_map]
  rfl

theorem push_dropped (run : ForwardingRun δ) (data : δ) (now : ℤ) :
    (run.push data now).droppedNumbers =
      run.droppedNumbers ++ numbers (run.buffer.crowdedOut ⟨run.pushes, data⟩ now) := by
  have nodes := congrArg numbers (PacketBuffer.evictions_nodes (PacketData.length data)
    (run.buffer.spared ⟨run.pushes, data⟩ now) (run.buffer.crowdedOut ⟨run.pushes, data⟩ now))
  unfold numbers at nodes
  rw [List.map_map] at nodes
  unfold droppedNumbers push
  dsimp only
  rw [List.map_append]
  exact congrArg (_ ++ ·) nodes

/-- An ascending list of numbers below the next one may be extended by it. -/
theorem ascending_append {list more : List ℕ} {next : ℕ} (ascending : list.Pairwise (· < ·))
    (below : ∀ number ∈ list, number < next) (sublist : more.Sublist [next]) :
    (list ++ more).Pairwise (· < ·) := by
  refine List.pairwise_append.mpr ⟨ascending, (List.pairwise_singleton _ _).sublist sublist, ?_⟩
  intro number member other new
  rw [List.mem_singleton.mp (sublist.subset new)]
  exact below number member

theorem push_line (run : ForwardingRun δ) (data : δ) (now : ℤ) :
    (run.push data now).line = run.flushedNumbers ++ (numbers run.swapped ++
      numbers (run.buffer.spared ⟨run.pushes, data⟩ now)) ++ run.appended data now := by
  have held := run.push_held data now
  unfold line
  rw [held, List.append_assoc, List.append_assoc]
  rfl

/-- A push. -/
theorem push_ledger {run : ForwardingRun δ} (ledger : run.Ledger) (data : δ) (now : ℤ) :
    (run.push data now).Ledger := by
  have spared : (run.flushedNumbers ++ (numbers run.swapped ++
      numbers (run.buffer.spared ⟨run.pushes, data⟩ now))).Sublist run.line := by
    refine (List.Sublist.refl _).append ((List.Sublist.refl _).append (List.Sublist.map _ ?_))
    exact (PacketBuffer.dropHeads_suffix _ _).sublist.trans List.filter_sublist
  have sublist := run.appended_sublist data now
  constructor
  case accounted => exact (ledger.accounted.push _ now).1
  case order =>
    rw [push_line]
    exact ascending_append (ledger.order.sublist spared)
      (fun number member => ledger.line_used number (spared.subset member)) sublist
  case earlier => exact ledger.earlier
  case once =>
    rw [push_accepted]
    exact ascending_append ledger.once ledger.used sublist
  case used =>
    intro number member
    change number < run.pushes + 1
    rw [push_accepted] at member
    rcases List.mem_append.mp member with old | new
    · exact (ledger.used number old).trans (Nat.lt_succ_self _)
    · rw [List.mem_singleton.mp (sublist.subset new)]
      exact Nat.lt_succ_self _
  case kept =>
    rw [push_accepted, push_line, push_expired, push_dropped]
    refine (ledger.kept.append_right _).trans ?_
    unfold line
    have held := run.held_perm data now
    rw [← Multiset.coe_eq_coe] at held ⊢
    simp only [← Multiset.coe_add] at held ⊢
    rw [held]
    abel

/-- A packet moves on in the line. -/
theorem Ledger.moved {run next : ForwardingRun δ} (ledger : run.Ledger)
    (accounted : next.buffer.Accounted) (line : next.line = run.line)
    (earlier : ∀ number ∈ next.flushedNumbers ++ numbers next.swapped, number < next.mark)
    (accepted : next.accepted = run.accepted) (pushes : next.pushes = run.pushes)
    (expired : next.expiredNumbers = run.expiredNumbers) (dropped : next.droppedNumbers = run.droppedNumbers) :
    next.Ledger := by
  obtain ⟨_, order, _, once, used, kept⟩ := ledger
  rw [← line] at order kept
  rw [← accepted] at once used kept
  rw [← pushes] at used
  rw [← expired, ← dropped] at kept
  exact ⟨accounted, order, earlier, once, used, kept⟩

/-- A flush begins. -/
theorem flush_ledger {run : ForwardingRun δ} (ledger : run.Ledger) (idle : run.sweep = none) (now : ℤ) :
    (run.flush now).Ledger := by
  have unswapped : numbers run.swapped = [] := by
    unfold swapped
    rw [idle]
    rfl
  have line : run.line = run.flushedNumbers ++ numbers run.buffer.nodes := by
    unfold ForwardingRun.line
    rw [unswapped, List.nil_append]
  have used := ledger.line_used
  refine ledger.moved (.clear _) ?_ ?_ rfl rfl rfl rfl
  · rw [line]
    exact congrArg (run.flushedNumbers ++ ·) (List.append_nil _)
  · rw [line] at used
    exact used

section Visits

variable {run : ForwardingRun δ} {sweep : Sweep δ} {node : Expiry × Numbered δ}
  {rest : List (Expiry × Numbered δ)}

omit [PacketData δ] in
theorem swapped_cons (underWay : run.sweep = some sweep) (nodes : sweep.nodes = node :: rest) :
    numbers run.swapped = node.2.number :: numbers rest := by
  unfold swapped
  rw [underWay]
  exact congrArg numbers nodes

theorem flushedNumbers_hand : (run.hand sweep node rest).flushedNumbers =
    run.flushedNumbers ++ [node.2.number] := by
  unfold hand flushedNumbers
  exact List.map_append

theorem hand_ledger (ledger : run.Ledger) (underWay : run.sweep = some sweep)
    (nodes : sweep.nodes = node :: rest) : (run.hand sweep node rest).Ledger := by
  have swapped := swapped_cons underWay nodes
  have moves : ∀ behind, run.flushedNumbers ++ [node.2.number] ++ behind =
      run.flushedNumbers ++ (node.2.number :: behind) := fun behind => by
    rw [List.append_assoc, List.singleton_append]
  refine ledger.moved ledger.accounted ?_ ?_ rfl rfl rfl rfl
  · unfold line
    rw [flushedNumbers_hand, swapped]
    exact moves _
  · have earlier := ledger.earlier
    rw [swapped, ← moves] at earlier
    rw [flushedNumbers_hand]
    exact earlier

theorem pass_ledger (ledger : run.Ledger) (underWay : run.sweep = some sweep)
    (nodes : sweep.nodes = node :: rest) : (run.pass sweep node rest).Ledger := by
  have swapped := swapped_cons underWay nodes
  obtain ⟨accounted, order, earlier, once, used, kept⟩ := ledger
  unfold line at order kept
  rw [swapped] at order earlier kept
  have fewer : (numbers rest).Sublist (node.2.number :: numbers rest) := List.sublist_cons_self _ _
  refine ⟨accounted, ?_, ?_, once, used, ?_⟩
  · exact order.sublist ((List.Sublist.refl _).append (fewer.append (.refl _)))
  · exact fun number member => earlier number (((List.Sublist.refl _).append fewer).subset member)
  · have expired : (run.pass sweep node rest).expiredNumbers = run.expiredNumbers ++ [node.2.number] := by
      unfold pass expiredNumbers
      exact List.map_append
    refine kept.trans ?_
    rw [expired]
    change List.Perm _ ((run.flushedNumbers ++ (numbers rest ++ numbers run.buffer.nodes)) ++
      ((run.expiredNumbers ++ [node.2.number]) ++ run.droppedNumbers))
    rw [← Multiset.coe_eq_coe, ← List.singleton_append]
    simp only [← Multiset.coe_add]
    abel

/-- The next packet of a flush, expired or not. -/
theorem visitNext_ledger (ledger : run.Ledger) (underWay : run.sweep = some sweep) :
    (run.visitNext sweep).Ledger ∧ (run.visitNext sweep).buffer = run.buffer := by
  unfold visitNext
  cases nodes : sweep.nodes with
  | nil =>
    have unswapped : numbers run.swapped = [] := by
      unfold swapped
      rw [underWay]
      exact congrArg numbers nodes
    refine ⟨ledger.moved ledger.accounted ?_ ?_ rfl rfl rfl rfl, rfl⟩
    · unfold line
      rw [unswapped]
      rfl
    · have earlier := ledger.earlier
      rw [unswapped] at earlier
      exact earlier
  | cons node rest =>
    dsimp only
    split_ifs
    · exact ⟨pass_ledger ledger underWay nodes, rfl⟩
    · exact ⟨hand_ledger ledger underWay nodes, rfl⟩

end Visits

/-- **One step keeps the account**, and the capacity. -/
theorem step_ledger {run next : ForwardingRun δ} {action : Action δ} (ledger : run.Ledger)
    (taken : run.step action = some next) :
    next.Ledger ∧ next.buffer.capacity = run.buffer.capacity := by
  cases action with
  | push data now =>
    simp only [step] at taken
    split_ifs at taken
    cases taken
    exact ⟨push_ledger ledger data now, (ledger.accounted.push _ now).2⟩
  | flush now =>
    simp only [step] at taken
    split_ifs at taken with allowed
    cases taken
    exact ⟨flush_ledger ledger (Option.isNone_iff_eq_none.mp allowed.2) now, rfl⟩
  | visit =>
    obtain ⟨sweep, underWay, rfl⟩ := Option.map_eq_some_iff.mp taken
    obtain ⟨visited, unchanged⟩ := visitNext_ledger ledger underWay
    exact ⟨visited, by rw [unchanged]⟩

/-! ### Why the packets go -/

/-- What the flush that is under way still has to process. -/
def outstanding (run : ForwardingRun δ) : List δ := run.sweep.elim [] Sweep.due

/-- What has been handed over since the last flush began. -/
def handedSince (run : ForwardingRun δ) : List δ := (run.released.drop run.begun).map Release.handed

/-- **The reasons of a run**: what was dropped as expired had expired, what was dropped from the head did not
leave the room that was needed, and the last flush hands over what the buffer listed when it began. -/
structure Reasons (run : ForwardingRun δ) : Prop where
  lapsed : ∀ lapse ∈ run.expired, lapse.node.1.isExpired lapse.now = true
  crowded : ∀ eviction ∈ run.dropped, run.buffer.capacity <
    PacketBuffer.bytes (eviction.node :: eviction.behind) + eviction.needed
  fresh : ∀ release ∈ run.released, release.node.1.isExpired release.now = false
  begun : run.begun ≤ run.released.length
  handsOver : run.handedSince ++ run.outstanding = run.listed

theorem push_reasons {run : ForwardingRun δ} (reasons : run.Reasons) (accounted : run.buffer.Accounted)
    (data : δ) (now : ℤ) : (run.push data now).Reasons := by
  have capacity : (run.push data now).buffer.capacity = run.buffer.capacity := (accounted.push _ now).2
  refine ⟨?_, ?_, reasons.fresh, reasons.begun, reasons.handsOver⟩
  · intro lapse member
    rcases List.mem_append.mp member with earlier | new
    · exact reasons.lapsed lapse earlier
    · obtain ⟨node, outdated, rfl⟩ := List.mem_map.mp new
      exact (List.mem_filter.mp outdated).2
  · intro eviction member
    rw [capacity]
    rcases List.mem_append.mp member with earlier | new
    · exact reasons.crowded eviction earlier
    · exact accounted.crowdedOut_crowded ⟨run.pushes, data⟩ now eviction new

/-- The swapped out nodes are those that `flushed` of the buffer is about. -/
theorem flush_reasons {run : ForwardingRun δ} (reasons : run.Reasons) (now : ℤ) :
    (run.flush now).Reasons := by
  refine ⟨reasons.lapsed, reasons.crowded, reasons.fresh, le_rfl, ?_⟩
  have unhanded : (run.flush now).handedSince = [] := by
    unfold handedSince flush
    rw [List.drop_length]
    rfl
  rw [unhanded]
  rfl

/-- **Visit by visit, a flush processes what is due**, in its order. -/
theorem visitNext_reasons {run : ForwardingRun δ} {sweep : Sweep δ} (reasons : run.Reasons)
    (underWay : run.sweep = some sweep) : (run.visitNext sweep).Reasons := by
  obtain ⟨now, nodes, calling⟩ := sweep
  obtain ⟨lapsed, crowded, fresh, begun, handsOver⟩ := reasons
  unfold outstanding at handsOver
  rw [underWay] at handsOver
  cases nodes with
  | nil => exact ⟨lapsed, crowded, fresh, begun, handsOver⟩
  | cons node rest =>
    unfold visitNext
    dsimp only
    split_ifs with expired
    · refine ⟨?_, crowded, fresh, begun, ?_⟩
      · intro lapse member
        rcases List.mem_append.mp member with earlier | new
        · exact lapsed lapse earlier
        · rw [List.mem_singleton.mp new]
          exact expired
      · refine Eq.trans ?_ handsOver
        simp [pass, handedSince, outstanding, Sweep.due, PacketBuffer.flushed, expired]
    · refine ⟨lapsed, crowded, ?_, ?_, ?_⟩
      · intro release member
        rcases List.mem_append.mp member with earlier | new
        · exact fresh release earlier
        · rw [List.mem_singleton.mp new]
          exact Bool.eq_false_iff.mpr expired
      · unfold hand
        rw [List.length_append]
        exact begun.trans (Nat.le_add_right _ _)
      · refine Eq.trans ?_ handsOver
        simp [hand, handedSince, outstanding, Sweep.due, PacketBuffer.flushed, Sweep.release, expired,
          PacketData.reduceLifetime, List.drop_append_of_le_length begun]

/-- **One step keeps the reasons.** -/
theorem step_reasons {run next : ForwardingRun δ} {action : Action δ} (ledger : run.Ledger)
    (reasons : run.Reasons) (taken : run.step action = some next) : next.Reasons := by
  cases action with
  | push data now =>
    simp only [step] at taken
    split_ifs at taken
    cases taken
    exact push_reasons reasons ledger.accounted data now
  | flush now =>
    simp only [step] at taken
    split_ifs at taken
    cases taken
    exact flush_reasons reasons now
  | visit =>
    obtain ⟨sweep, underWay, rfl⟩ := Option.map_eq_some_iff.mp taken
    exact visitNext_reasons reasons underWay

/-! ### Every run -/

theorem starting_ledger (capacity : ℕ) (clock : ℤ) :
    (starting capacity clock : ForwardingRun δ).Ledger :=
  ⟨.empty capacity, .nil, fun _ member => absurd member List.not_mem_nil, .nil,
    fun _ member => absurd member List.not_mem_nil, .refl _⟩

theorem starting_reasons (capacity : ℕ) (clock : ℤ) :
    (starting capacity clock : ForwardingRun δ).Reasons :=
  ⟨fun _ member => absurd member List.not_mem_nil, fun _ member => absurd member List.not_mem_nil,
    fun _ member => absurd member List.not_mem_nil, le_rfl, rfl⟩

theorem ledger_reachable {capacity : ℕ} {run : ForwardingRun δ}
    (reached : Reachable (Initial capacity) step run) :
    run.Ledger ∧ run.Reasons ∧ run.buffer.capacity = capacity := by
  induction reached with
  | start first =>
    obtain ⟨clock, rfl⟩ := first
    exact ⟨starting_ledger capacity clock, starting_reasons capacity clock, rfl⟩
  | next _ _ taken ih =>
    obtain ⟨before, reasons, sameBefore⟩ := ih
    obtain ⟨ledger, same⟩ := step_ledger before taken
    exact ⟨ledger, step_reasons before reasons taken, same.trans sameBefore⟩

/-- **A lossless bounded queue**: the bytes are counted and bounded, the packets are flushed in the order in
which they were pushed, each packet that was pushed successfully is in one place, and what was pushed since
the last flush began has not been flushed. What is flushed has not expired, what was dropped as expired had,
and a packet that was dropped from the head had to go: with it, and those behind it, there was no room. A
flush leaves out no other packet. -/
structure Lossless (capacity : ℕ) (run : ForwardingRun δ) : Prop where
  stored : run.buffer.stored = PacketBuffer.bytes run.buffer.nodes
  bounded : PacketBuffer.bytes run.buffer.nodes ≤ capacity
  inOrder : run.flushedNumbers.Pairwise (· < ·)
  distinct : run.accepted.Nodup
  somewhere : run.accepted.Perm (run.flushedNumbers ++ (run.expiredNumbers ++ (run.droppedNumbers ++
    (numbers run.swapped ++ numbers run.buffer.nodes))))
  lapsed : ∀ lapse ∈ run.expired, lapse.node.1.isExpired lapse.now = true
  crowded : ∀ eviction ∈ run.dropped,
    capacity < PacketBuffer.bytes (eviction.node :: eviction.behind) + eviction.needed
  fresh : ∀ release ∈ run.released, release.node.1.isExpired release.now = false
  handsOver : run.handedSince ++ run.outstanding = run.listed
  notFlushed : ∀ number ∈ run.flushedNumbers ++ numbers run.swapped, number < run.mark
  forNext : ∀ number ∈ run.accepted, run.mark ≤ number →
    number ∈ numbers run.buffer.nodes ∨ number ∈ run.expiredNumbers ∨ number ∈ run.droppedNumbers

theorem Ledger.lossless {run : ForwardingRun δ} (ledger : run.Ledger) (reasons : run.Reasons) :
    run.Lossless run.buffer.capacity := by
  have order := ledger.order
  have places : run.accepted.Perm (run.flushedNumbers ++ (run.expiredNumbers ++ (run.droppedNumbers ++
      (numbers run.swapped ++ numbers run.buffer.nodes)))) := by
    refine ledger.kept.trans ?_
    unfold line
    rw [← Multiset.coe_eq_coe]
    simp only [← Multiset.coe_add]
    abel
  refine ⟨ledger.accounted.stored, ledger.accounted.within, ?_, ?_, places, reasons.lapsed,
    reasons.crowded, reasons.fresh, reasons.handsOver, ledger.earlier, ?_⟩
  · exact (List.pairwise_append.mp order).1
  · exact ledger.once.imp fun less => less.ne
  · intro number member since
    have found := places.mem_iff.mp member
    simp only [List.mem_append] at found
    have late : ∀ list : List ℕ, (∀ n ∈ list, n < run.mark) → number ∉ list :=
      fun _ before inside => absurd since (not_le.mpr (before number inside))
    have unflushed : number ∉ run.flushedNumbers :=
      late _ fun n inside => ledger.earlier n (List.mem_append_left _ inside)
    have unswapped : number ∉ numbers run.swapped :=
      late _ fun n inside => ledger.earlier n (List.mem_append_right _ inside)
    tauto

/-- **A forwarding buffer is a lossless bounded queue**, in every state of every run, in the middle of a
flush and while the action of a packet pushes. -/
theorem forwarding_buffer_lossless {capacity : ℕ} {run : ForwardingRun δ}
    (reached : Reachable (Initial capacity) step run) : run.Lossless capacity := by
  obtain ⟨ledger, reasons, bounded⟩ := ledger_reachable reached
  rw [← bounded]
  exact ledger.lossless reasons

/-- The first of two packets is pushed again by its action while it is flushed, and crowded out by another
one after the flush, which expires. -/
theorem forwarding_buffer_lossless_reentrant : ∃ run : ForwardingRun BufferData,
    (run.flushedNumbers = [0, 1] ∧ run.droppedNumbers = [2] ∧ run.expiredNumbers = [3] ∧
      numbers run.buffer.nodes = [4]) ∧ run.Lossless 90 := by
  obtain ⟨run, reached, holds⟩ := run_reach (Initial 90) step (fun _ _ => True)
    (fun run => run.flushedNumbers = [0, 1] ∧ run.droppedNumbers = [2] ∧ run.expiredNumbers = [3] ∧
      numbers run.buffer.nodes = [4])
    ⟨0, rfl⟩
    [.push PacketBuffer.heldBroadcast 0, .push PacketBuffer.heldBroadcast 0, .flush 1000, .visit,
      .push PacketBuffer.heldBroadcast 1000, .visit, .visit,
      .push PacketBuffer.oversizedBroadcast 2000, .push PacketBuffer.heldBroadcast 60002001]
    (by decide +kernel)
  exact ⟨run, holds, forwarding_buffer_lossless reached⟩

end ForwardingRun

end Vanet.Geonet
