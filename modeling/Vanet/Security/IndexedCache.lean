/-
**`CertificateCache` with its members.**

A multimap keeps the certificates under their ids, a heap their expiries. An element of the heap has an
iterator to its node of the multimap, and the node has the handle of the element. The nodes are numbered as
they are created; they are listed in the order of their insertion, in which `equal_range` visits those of one
id. `CertificateCache` is the list of what is stored with its expiries, `entries` here.

* `WellFormed`: the nodes and the elements are in bijection.
* `dropExpired_spec`, `lookup_spec`, `insert_spec`: the operations keep that, and do to the entries what
  `CertificateCache` says.
-/

import Vanet.Library.HandleHeap
import Vanet.Security.Validator

namespace Vanet.Security

open Vanet.Library

/-- `CertificateCache::Expiry`: a time and an iterator. -/
structure CacheExpiry where
  expiry : ℕ
  certificate : ℕ
  deriving DecidableEq

/-- A node of the multimap. -/
structure CacheNode where
  ref : ℕ
  id : HashedId8
  certificate : Certificate
  handle : ℕ

/-- **The cache.** The clock of the runtime is an argument of the operations. -/
structure IndexedCache where
  expiries : HandleHeap CacheExpiry
  certificates : List CacheNode
  nextRef : ℕ

namespace CacheNode

def type (node : CacheNode) : SubjectType := node.certificate.subjectInfo.subjectType

end CacheNode

namespace IndexedCache

def rank (expiry : CacheExpiry) : ℤ := expiry.expiry

def empty : IndexedCache := ⟨.empty, [], 0⟩

def isExpired (now : ℕ) (expiry : CacheExpiry) : Bool := now > expiry.expiry

/-- The loop of `drop_expired`, which takes an element off the heap in each round. -/
def dropExpiredFrom (now : ℕ) : ℕ → IndexedCache → IndexedCache
  | 0, cache => cache
  | rounds + 1, cache =>
    match cache.expiries.top with
    | none => cache
    | some top =>
      if isExpired now top then
        dropExpiredFrom now rounds
          { cache with
            certificates := cache.certificates.filter fun node => node.ref ≠ top.certificate
            expiries := cache.expiries.pop }
      else cache

def dropExpired (now : ℕ) (cache : IndexedCache) : IndexedCache :=
  dropExpiredFrom now cache.expiries.nodes.length cache

/-- `refresh`: the key of the element is overwritten, then the heap is told. -/
def refresh (now lifetime handle : ℕ) (expiries : HandleHeap CacheExpiry) : HandleHeap CacheExpiry :=
  match expiries.get handle with
  | none => expiries
  | some expiry =>
    (expiries.write handle { expiry with expiry := now + lifetime }).update rank handle

/-- The loop of `lookup` over a range of the multimap. -/
def collect (now : ℕ) (type : SubjectType) :
    List CacheNode → HandleHeap CacheExpiry → List Certificate × HandleHeap CacheExpiry
  | [], expiries => ([], expiries)
  | item :: rest, expiries =>
    if item.type ≠ type then collect now type rest expiries
    else
      let renewed :=
        if item.type = SubjectType.authorizationTicket then refresh now (seconds 2) item.handle expiries
        else if item.type = SubjectType.authorizationAuthority then
          refresh now (seconds 3600) item.handle expiries
        else expiries
      let others := collect now type rest renewed
      (item.certificate :: others.1, others.2)

def lookup (now : ℕ) (id : HashedId8) (type : SubjectType) (cache : IndexedCache) :
    List Certificate × IndexedCache :=
  let live := cache.dropExpired now
  let collected := collect now type (live.certificates.filter fun item => item.id = id) live.expiries
  (collected.1, { live with expiries := collected.2 })

/-- A certificate and its expiry are stored. -/
def emplace (now lifetime : ℕ) (id : HashedId8) (certificate : Certificate) (cache : IndexedCache) :
    IndexedCache :=
  let pushed := cache.expiries.push rank ⟨now + lifetime, cache.nextRef⟩
  ⟨pushed.2, cache.certificates ++ [⟨cache.nextRef, id, certificate, pushed.1⟩], cache.nextRef + 1⟩

def insert (sha256 : ByteBuffer → Octets 32) (now : ℕ) (certificate : Certificate) (cache : IndexedCache) :
    IndexedCache :=
  let id := calculateHash sha256 certificate
  let type := certificate.subjectInfo.subjectType
  let found := cache.lookup now id type
  if found.1.any fun cert => cert.convertForSigning = certificate.convertForSigning then found.2
  else
    let lifetime := CertificateCache.lifetime type
    if 0 < lifetime then found.2.emplace now lifetime id certificate else found.2

def size (cache : IndexedCache) : ℕ := cache.certificates.length

/-! ### Nodes and elements -/

/-- All that is known of the heap. -/
theorem heap_contract : HandleHeap.Contract rank := HandleHeap.contract rank

/-- **The nodes of the multimap and the elements of the heap are in bijection**, and the heap is in
order: every handle denotes an element that points back, every iterator a node that has its handle. -/
structure WellFormed (cache : IndexedCache) : Prop where
  valid : cache.expiries.Valid
  ordered : cache.expiries.Ordered rank
  refs : (cache.certificates.map CacheNode.ref).Nodup
  used : ∀ node ∈ cache.certificates, node.ref < cache.nextRef
  denotes : ∀ node ∈ cache.certificates,
    ∃ expiry, (⟨node.handle, ⟨expiry, node.ref⟩⟩ : HeapNode CacheExpiry) ∈ cache.expiries.nodes
  stored : ∀ element ∈ cache.expiries.nodes,
    ∃ node ∈ cache.certificates, node.ref = element.item.certificate ∧ node.handle = element.handle

/-- The expiry of an element. -/
def expiryOf (expiries : HandleHeap CacheExpiry) (handle : ℕ) : ℕ :=
  ((expiries.get handle).map CacheExpiry.expiry).getD 0

/-- What is stored for a node. -/
def entry (expiries : HandleHeap CacheExpiry) (node : CacheNode) : CachedCertificate :=
  ⟨node.id, node.certificate, expiryOf expiries node.handle⟩

/-- **What the cache stores.** -/
def entries (cache : IndexedCache) : CertificateCache := cache.certificates.map (entry cache.expiries)

section Lemmas

variable {cache : IndexedCache} {node other : CacheNode} {expiries : HandleHeap CacheExpiry}
  {expiry handle now : ℕ}

theorem expiryOf_eq (valid : expiries.Valid) {item : CacheExpiry}
    (member : (⟨handle, item⟩ : HeapNode CacheExpiry) ∈ expiries.nodes) :
    expiryOf expiries handle = item.expiry := by
  unfold expiryOf
  rw [(heap_contract.get_iff valid).mpr member]
  rfl

theorem wellFormed_empty : empty.WellFormed :=
  ⟨heap_contract.valid_empty, heap_contract.ordered_empty, .nil,
    fun _ member => absurd member List.not_mem_nil, fun _ member => absurd member List.not_mem_nil,
    fun node member => absurd member (heap_contract.holds_empty node)⟩

/-- An iterator belongs to one node. -/
theorem WellFormed.ref_unique (formed : cache.WellFormed) (member : node ∈ cache.certificates)
    (otherMember : other ∈ cache.certificates) (same : node.ref = other.ref) : node = other :=
  List.inj_on_of_nodup_map formed.refs member otherMember same

/-- A handle belongs to one node. -/
theorem WellFormed.handle_unique (formed : cache.WellFormed) (member : node ∈ cache.certificates)
    (otherMember : other ∈ cache.certificates) (same : node.handle = other.handle) : node = other := by
  obtain ⟨expiry, element⟩ := formed.denotes node member
  obtain ⟨otherExpiry, otherElement⟩ := formed.denotes other otherMember
  have equal := heap_contract.unique formed.valid element otherElement same
  rw [HeapNode.mk.injEq, CacheExpiry.mk.injEq] at equal
  exact formed.ref_unique member otherMember equal.2.2

/-- The iterator of an element leads to the node that has its handle. -/
theorem WellFormed.handle_eq (formed : cache.WellFormed) {element : HeapNode CacheExpiry}
    (held : element ∈ cache.expiries.nodes) (member : node ∈ cache.certificates)
    (same : node.ref = element.item.certificate) : node.handle = element.handle := by
  obtain ⟨other, kept, back, handle⟩ := formed.stored element held
  rw [formed.ref_unique member kept (same.trans back.symm), handle]

theorem WellFormed.entry_eq (formed : cache.WellFormed)
    (element : (⟨node.handle, ⟨expiry, node.ref⟩⟩ : HeapNode CacheExpiry) ∈ cache.expiries.nodes) :
    entry cache.expiries node = ⟨node.id, node.certificate, expiry⟩ := by
  unfold entry
  rw [expiryOf_eq formed.valid element]

/-! ### Expired entries -/

theorem dropExpired_map (nodes : List CacheNode) :
    CertificateCache.dropExpired now (nodes.map (entry expiries)) =
      (nodes.filter fun node => ¬ (entry expiries node).expiry < now).map (entry expiries) :=
  List.filter_map

/-- **One round**: the element at the top goes, and its node. -/
theorem WellFormed.pop (formed : cache.WellFormed) {top : CacheExpiry}
    (first : cache.expiries.top = some top) :
    WellFormed { cache with
      certificates := cache.certificates.filter fun node => node.ref ≠ top.certificate
      expiries := cache.expiries.pop } := by
  obtain ⟨handle, held, popped⟩ := heap_contract.top_some formed.valid first
  refine ⟨heap_contract.valid_pop formed.valid, heap_contract.ordered_pop formed.ordered,
    formed.refs.sublist (List.filter_sublist.map _), ?_, ?_, ?_⟩
  · exact fun node member => formed.used node (List.mem_of_mem_filter member)
  · intro node member
    obtain ⟨kept, other⟩ := List.mem_filter.mp member
    obtain ⟨expiry, element⟩ := formed.denotes node kept
    refine ⟨expiry, (popped _).mpr ⟨element, fun shared => of_decide_eq_true other ?_⟩⟩
    cases heap_contract.unique formed.valid element held shared
    rfl
  · intro element member
    obtain ⟨old, other⟩ := (popped element).mp member
    obtain ⟨node, kept, back, denoting⟩ := formed.stored element old
    refine ⟨node, List.mem_filter.mpr ⟨kept, decide_eq_true fun same => other ?_⟩, back, denoting⟩
    rw [← denoting]
    exact formed.handle_eq held kept same

theorem WellFormed.pop_entries (formed : cache.WellFormed) {top : CacheExpiry}
    (first : cache.expiries.top = some top) (expired : top.expiry < now) :
    CertificateCache.dropExpired now (entries { cache with
        certificates := cache.certificates.filter fun node => node.ref ≠ top.certificate
        expiries := cache.expiries.pop }) =
      CertificateCache.dropExpired now cache.entries := by
  have formedAfter := formed.pop first
  obtain ⟨handle, held, popped⟩ := heap_contract.top_some formed.valid first
  have gone : ∀ node ∈ cache.certificates, node.ref = top.certificate →
      (entry cache.expiries node).expiry < now := by
    intro node member same
    have element : (⟨node.handle, top⟩ : HeapNode CacheExpiry) ∈ cache.expiries.nodes := by
      rw [formed.handle_eq held member same]
      exact held
    exact (expiryOf_eq formed.valid element).trans_lt expired
  have stays : ∀ node ∈ cache.certificates, node.ref ≠ top.certificate →
      entry cache.expiries.pop node = entry cache.expiries node := by
    intro node member other
    have kept : node ∈ cache.certificates.filter fun node => node.ref ≠ top.certificate :=
      List.mem_filter.mpr ⟨member, decide_eq_true other⟩
    obtain ⟨expiry, element⟩ := formedAfter.denotes node kept
    have before : (⟨node.handle, ⟨expiry, node.ref⟩⟩ : HeapNode CacheExpiry) ∈ cache.expiries.nodes :=
      ((popped _).mp element).1
    exact (formedAfter.entry_eq element).trans (formed.entry_eq before).symm
  unfold entries
  rw [dropExpired_map, dropExpired_map, List.filter_filter]
  have live : (cache.certificates.filter fun node =>
      decide (¬ (entry cache.expiries.pop node).expiry < now) &&
        decide (node.ref ≠ top.certificate)) =
      cache.certificates.filter fun node => ¬ (entry cache.expiries node).expiry < now := by
    refine List.filter_congr fun node member => ?_
    by_cases same : node.ref = top.certificate
    · simp [same, gone node member same]
    · simp [same, stays node member same]
  rw [live]
  refine List.map_congr_left fun node member => ?_
  obtain ⟨kept, alive⟩ := List.mem_filter.mp member
  exact stays node kept fun same => of_decide_eq_true alive (gone node kept same)

theorem dropExpiredFrom_spec (rounds : ℕ) : ∀ {cache : IndexedCache}, cache.WellFormed →
    cache.expiries.nodes.length ≤ rounds → (dropExpiredFrom now rounds cache).WellFormed ∧
      (dropExpiredFrom now rounds cache).entries = CertificateCache.dropExpired now cache.entries := by
  have settled : ∀ {cache : IndexedCache}, cache.WellFormed →
      (∀ element ∈ cache.expiries.nodes, ¬ element.item.expiry < now) →
        cache.entries = CertificateCache.dropExpired now cache.entries := by
    intro cache formed alive
    refine (List.filter_eq_self.mpr fun stored member => ?_).symm
    obtain ⟨node, kept, rfl⟩ := List.mem_map.mp member
    obtain ⟨expiry, element⟩ := formed.denotes node kept
    rw [formed.entry_eq element]
    exact decide_eq_true (alive _ element)
  induction rounds with
  | zero =>
    intro cache formed enough
    exact ⟨formed, settled formed fun element member =>
      absurd member (heap_contract.size_zero (Nat.le_zero.mp enough))⟩
  | succ rounds ih =>
    intro cache formed enough
    unfold dropExpiredFrom
    cases first : cache.expiries.top with
    | none =>
      exact ⟨formed, settled formed fun element member => absurd member (heap_contract.top_none first)⟩
    | some top =>
      dsimp only
      split_ifs with expired
      · have early : top.expiry < now := of_decide_eq_true expired
        have fewer : cache.expiries.pop.nodes.length ≤ rounds :=
          Nat.le_of_lt_succ ((heap_contract.size_pop first).trans_le enough)
        obtain ⟨formedAfter, refines⟩ := ih (formed.pop first) fewer
        exact ⟨formedAfter, refines.trans (formed.pop_entries first early)⟩
      · refine ⟨formed, settled formed fun element member => ?_⟩
        have least := heap_contract.top_le formed.ordered first member
        have late : ¬ top.expiry < now := fun early => expired (decide_eq_true early)
        unfold rank at least
        omega

theorem dropExpired_spec (formed : cache.WellFormed) : (cache.dropExpired now).WellFormed ∧
    (cache.dropExpired now).entries = CertificateCache.dropExpired now cache.entries :=
  dropExpiredFrom_spec _ formed le_rfl

/-! ### Renewals -/

/-- The cache with another heap. -/
def withExpiries (cache : IndexedCache) (expiries : HandleHeap CacheExpiry) : IndexedCache :=
  { cache with expiries := expiries }

/-- **A node is renewed**: its element has a new expiry, all others are as they were. -/
theorem WellFormed.refresh (formed : cache.WellFormed) (member : node ∈ cache.certificates)
    (now lifetime : ℕ) :
    (cache.withExpiries (refresh now lifetime node.handle cache.expiries)).WellFormed ∧
      ∀ other ∈ cache.certificates,
        expiryOf (IndexedCache.refresh now lifetime node.handle cache.expiries) other.handle =
          if other.ref = node.ref then now + lifetime else expiryOf cache.expiries other.handle := by
  obtain ⟨expiry, element⟩ := formed.denotes node member
  have renewed : IndexedCache.refresh now lifetime node.handle cache.expiries =
      (cache.expiries.write node.handle ⟨now + lifetime, node.ref⟩).update rank node.handle := by
    unfold IndexedCache.refresh
    rw [(heap_contract.get_iff formed.valid).mpr element]
  rw [renewed]
  set after := (cache.expiries.write node.handle ⟨now + lifetime, node.ref⟩).update rank node.handle
  have valid : after.Valid := heap_contract.valid_update (heap_contract.valid_write formed.valid)
  have elements : ∀ other, other ∈ after.nodes ↔
      (other ∈ cache.expiries.nodes ∧ other.handle ≠ node.handle) ∨
        other = ⟨node.handle, ⟨now + lifetime, node.ref⟩⟩ :=
    fun _ => heap_contract.holds_rewrite formed.valid element
  have own : (⟨node.handle, ⟨now + lifetime, node.ref⟩⟩ : HeapNode CacheExpiry) ∈ after.nodes :=
    (elements _).mpr (.inr rfl)
  refine ⟨⟨valid, heap_contract.ordered_rewrite formed.ordered, formed.refs, formed.used, ?_, ?_⟩, ?_⟩
  · intro other otherMember
    by_cases same : other = node
    · exact ⟨_, same ▸ own⟩
    · obtain ⟨passes, old⟩ := formed.denotes other otherMember
      exact ⟨passes, (elements _).mpr (.inl ⟨old, fun shared =>
        same (formed.handle_unique otherMember member shared)⟩)⟩
  · intro other otherMember
    rcases (elements other).mp otherMember with ⟨old, _⟩ | rfl
    · exact formed.stored other old
    · exact ⟨node, member, rfl, rfl⟩
  · intro other otherMember
    split_ifs with same
    · rw [formed.ref_unique otherMember member same]
      exact expiryOf_eq valid own
    · obtain ⟨passes, old⟩ := formed.denotes other otherMember
      have kept := (elements _).mpr (.inl ⟨old, fun shared =>
        same (congrArg CacheNode.ref (formed.handle_unique otherMember member shared))⟩)
      exact (expiryOf_eq valid kept).trans (expiryOf_eq formed.valid old).symm

/-- Only two types of certificates are renewed. -/
theorem renewed_eq (type : SubjectType) (handle : ℕ) (expiries : HandleHeap CacheExpiry) :
    (if type = SubjectType.authorizationTicket then IndexedCache.refresh now (seconds 2) handle expiries
      else if type = SubjectType.authorizationAuthority then
        IndexedCache.refresh now (seconds 3600) handle expiries
      else expiries) =
      if 0 < CertificateCache.lifetime type then
        IndexedCache.refresh now (CertificateCache.lifetime type) handle expiries
      else expiries := by
  unfold CertificateCache.lifetime
  by_cases ticket : type = SubjectType.authorizationTicket
  · rw [if_pos ticket, if_pos ticket, if_pos (by decide)]
  · rw [if_neg ticket, if_neg ticket]
    by_cases authority : type = SubjectType.authorizationAuthority
    · rw [if_pos authority, if_pos authority, if_pos (by decide)]
    · rw [if_neg authority, if_neg authority, if_neg (lt_irrefl 0)]

theorem collect_matching {type : SubjectType} {item : CacheNode} {rest : List CacheNode}
    (matching : item.type = type) : collect now type (item :: rest) expiries =
      let others := collect now type rest
        (if 0 < CertificateCache.lifetime type then
          IndexedCache.refresh now (CertificateCache.lifetime type) item.handle expiries
        else expiries)
      (item.certificate :: others.1, others.2) := by
  rw [← renewed_eq, ← matching]
  unfold collect
  rw [if_neg (not_not.mpr rfl)]
  cases rest <;> rfl

theorem collect_other {type : SubjectType} {item : CacheNode} {rest : List CacheNode}
    (other : item.type ≠ type) : collect now type (item :: rest) expiries =
      collect now type rest expiries := by
  conv_lhs => unfold collect
  rw [if_pos other]

/-- **The loop of `lookup`**: the certificates of the type are collected and renewed. -/
theorem collect_spec (type : SubjectType) (items : List CacheNode) : ∀ {cache : IndexedCache},
    cache.WellFormed → items ⊆ cache.certificates →
      (collect now type items cache.expiries).1 =
        (items.filter fun item => item.type = type).map CacheNode.certificate ∧
      (cache.withExpiries (collect now type items cache.expiries).2).WellFormed ∧
      ∀ other ∈ cache.certificates,
        expiryOf (collect now type items cache.expiries).2 other.handle =
          if other.ref ∈ items.map CacheNode.ref ∧ other.type = type ∧
              0 < CertificateCache.lifetime type then
            now + CertificateCache.lifetime type
          else expiryOf cache.expiries other.handle := by
  induction items with
  | nil =>
    intro cache formed _
    refine ⟨rfl, formed, fun other _ => ?_⟩
    rw [if_neg fun both => List.not_mem_nil both.1]
    rfl
  | cons item rest ih =>
    intro cache formed among
    have member : item ∈ cache.certificates := among List.mem_cons_self
    have others : rest ⊆ cache.certificates := fun node later => among (List.mem_cons_of_mem _ later)
    by_cases matching : item.type = type
    · rw [collect_matching matching, List.filter_cons, if_pos (decide_eq_true matching)]
      dsimp only
      by_cases lives : 0 < CertificateCache.lifetime type
      · rw [if_pos lives]
        obtain ⟨renewed, expiries⟩ := formed.refresh member now (CertificateCache.lifetime type)
        obtain ⟨certs, formedAfter, after⟩ := ih renewed others
        refine ⟨congrArg (item.certificate :: ·) certs, formedAfter, fun other otherMember => ?_⟩
        refine (after other otherMember).trans ?_
        change (if _ then _ else expiryOf (IndexedCache.refresh now (CertificateCache.lifetime type)
          item.handle cache.expiries) other.handle) = _
        rw [expiries other otherMember]
        by_cases here : other.ref = item.ref
        · have same := formed.ref_unique otherMember member here
          simp [same, matching, lives]
        · simp [here]
      · rw [if_neg lives]
        obtain ⟨certs, formedAfter, after⟩ := ih formed others
        refine ⟨congrArg (item.certificate :: ·) certs, formedAfter, fun other otherMember => ?_⟩
        refine (after other otherMember).trans ?_
        rw [if_neg fun both => lives both.2.2, if_neg fun both => lives both.2.2]
    · rw [collect_other matching, List.filter_cons, if_neg (by simpa using matching)]
      obtain ⟨certs, formedAfter, after⟩ := ih formed others
      refine ⟨certs, formedAfter, fun other otherMember => ?_⟩
      refine (after other otherMember).trans ?_
      by_cases here : other.ref = item.ref
      · have same := formed.ref_unique otherMember member here
        rw [if_neg fun both => matching (same ▸ both.2.1), if_neg fun both => matching (same ▸ both.2.1)]
      · simp [here]

/-! ### The operations -/

/-- **`lookup`.** -/
theorem lookup_spec (formed : cache.WellFormed) (id : HashedId8) (type : SubjectType) :
    (cache.lookup now id type).2.WellFormed ∧
      (cache.lookup now id type).1 = (CertificateCache.lookup now id type cache.entries).1 ∧
      (cache.lookup now id type).2.entries = (CertificateCache.lookup now id type cache.entries).2 := by
  obtain ⟨live, refines⟩ := @dropExpired_spec cache now formed
  obtain ⟨certs, formedAfter, expiries⟩ := @collect_spec now type
    ((cache.dropExpired now).certificates.filter fun item => item.id = id) _ live
    List.filter_sublist.subset
  unfold CertificateCache.lookup
  rw [← refines]
  dsimp only
  refine ⟨formedAfter, ?_, ?_⟩
  · refine certs.trans ?_
    unfold CertificateCache.certificates entries
    rw [List.filter_map, List.map_map, List.filter_filter]
    refine congrArg (List.map CacheNode.certificate) (List.filter_congr fun node _ => ?_)
    unfold CertificateCache.Matches CacheNode.type entry
    simp [and_comm]
  · unfold entries
    rw [List.map_map]
    refine List.map_congr_left fun node member => ?_
    have inRange : node.ref ∈ ((cache.dropExpired now).certificates.filter fun item => item.id = id).map
        CacheNode.ref ↔ node.id = id := by
      constructor
      · intro found
        obtain ⟨other, among, same⟩ := List.mem_map.mp found
        obtain ⟨otherMember, matching⟩ := List.mem_filter.mp among
        rw [← live.ref_unique otherMember member same]
        exact of_decide_eq_true matching
      · exact fun same => List.mem_map_of_mem (List.mem_filter.mpr ⟨member, decide_eq_true same⟩)
    have expiry := expiries node member
    simp only [inRange] at expiry
    refine (congrArg (CachedCertificate.mk node.id node.certificate) expiry).trans ?_
    unfold CertificateCache.Matches CertificateCache.refresh CacheNode.type entry
    dsimp only [Function.comp]
    by_cases matching : node.id = id ∧ node.certificate.subjectInfo.subjectType = type
    · by_cases lives : 0 < CertificateCache.lifetime type
      · simp [matching, lives]
      · simp [matching, lives]
    · have either : ¬ (node.id = id ∧ node.certificate.subjectInfo.subjectType = type ∧
          0 < CertificateCache.lifetime type) := fun all => matching ⟨all.1, all.2.1⟩
      simp [matching, either]

/-- **A certificate is stored.** -/
theorem emplace_spec (formed : cache.WellFormed) (now lifetime : ℕ) (id : HashedId8)
    (certificate : Certificate) :
    (cache.emplace now lifetime id certificate).WellFormed ∧
      (cache.emplace now lifetime id certificate).entries =
        cache.entries ++ [⟨id, certificate, now + lifetime⟩] := by
  set new : CacheNode := ⟨cache.nextRef, id, certificate, cache.expiries.fresh⟩
  set after := (cache.expiries.push rank ⟨now + lifetime, cache.nextRef⟩).2
  have valid : after.Valid := heap_contract.valid_push formed.valid
  have elements : ∀ other, other ∈ after.nodes ↔
      other = ⟨cache.expiries.fresh, ⟨now + lifetime, cache.nextRef⟩⟩ ∨ other ∈ cache.expiries.nodes :=
    fun other => heap_contract.holds_push
  have own : (⟨new.handle, ⟨now + lifetime, new.ref⟩⟩ : HeapNode CacheExpiry) ∈ after.nodes :=
    (elements _).mpr (.inl rfl)
  refine ⟨⟨valid, heap_contract.ordered_push formed.ordered, ?_, ?_, ?_, ?_⟩, ?_⟩
  · change ((cache.certificates ++ [new]).map CacheNode.ref).Nodup
    rw [List.map_append]
    refine List.Nodup.append formed.refs (List.nodup_singleton _) ?_
    intro ref old same
    obtain ⟨node, member, rfl⟩ := List.mem_map.mp old
    exact absurd (List.mem_singleton.mp same) (formed.used node member).ne
  · intro node member
    change node.ref < cache.nextRef + 1
    rcases List.mem_append.mp member with old | last
    · exact Nat.lt_succ_of_lt (formed.used node old)
    · rw [List.mem_singleton.mp last]
      exact Nat.lt_succ_self _
  · intro node member
    rcases List.mem_append.mp member with old | last
    · obtain ⟨expiry, element⟩ := formed.denotes node old
      exact ⟨expiry, (elements _).mpr (.inr element)⟩
    · rw [List.mem_singleton.mp last]
      exact ⟨_, own⟩
  · intro element member
    rcases (elements element).mp member with rfl | old
    · exact ⟨new, List.mem_append_right _ List.mem_cons_self, rfl, rfl⟩
    · obtain ⟨node, kept, back, handle⟩ := formed.stored element old
      exact ⟨node, List.mem_append_left _ kept, back, handle⟩
  · change (cache.certificates ++ [new]).map (entry after) = _
    rw [List.map_append]
    refine congr (congrArg _ (List.map_congr_left fun node member => ?_)) ?_
    · obtain ⟨expiry, element⟩ := formed.denotes node member
      have kept := (elements _).mpr (.inr element)
      rw [formed.entry_eq element]
      unfold entry
      rw [expiryOf_eq valid kept]
    · change [entry after new] = _
      unfold entry
      rw [expiryOf_eq valid own]

/-- **`insert`.** -/
theorem insert_spec (formed : cache.WellFormed) (ctx : Context) (now : ℕ) (certificate : Certificate) :
    (cache.insert ctx.sha256 now certificate).WellFormed ∧
      (cache.insert ctx.sha256 now certificate).entries =
        CertificateCache.insert ctx now certificate cache.entries := by
  obtain ⟨found, certs, entries⟩ := @lookup_spec cache now formed (calculateHash ctx.sha256 certificate)
    certificate.subjectInfo.subjectType
  unfold insert CertificateCache.insert
  dsimp only
  rw [certs, ← entries]
  split_ifs
  · exact ⟨found, rfl⟩
  · exact emplace_spec found now _ _ certificate
  · exact ⟨found, rfl⟩

end Lemmas

end IndexedCache

end Vanet.Security
