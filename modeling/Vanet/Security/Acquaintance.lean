/-
**Two stations get to know each other.**

`Acquainting` says what is left to do until a listener knows an announcer: `Stage0` needs no further CAM of the
announcer that is refused after the listener has sent one, `Stage1` at most one. Every happening of an exchange
keeps it.

* `Ending.keeps0`, `Ending.keeps1`: a CAM of the announcer, from its end.
* `Acquainting.announce`, `Acquainting.answer`, `Acquainting.overhear`, `Acquainting.distract`: one happening.
* `acquaintance`: **whatever the two have known before, and in whatever order they send, at most two CAMs of the
  announcer are refused after the listener has had a chance to answer.**
-/

import Vanet.Security.Exchange

namespace Vanet.Security

open Vanet.Library

namespace Exchange

/-! ### What is left to do -/

section Stages

variable {κ : Type} (listener : Installation κ) (ticket authority : Certificate)

/-- **No further refusal counts.** The listener knows the announcer, or it is sent the chain next, or it asks for the
authority before a refusal counts again. -/
def Stage0 (exchange : Exchange) : Prop :=
  Settled listener ticket authority exchange ∨ exchange.announcer.policy.chainRequested = true ∨
    Wants listener authority exchange ∧ exchange.answered = false

/-- **One refusal may count.** The listener asks for the authority, or it is sent the ticket next, or it asks for the
ticket before a refusal counts again. -/
def Stage1 (exchange : Exchange) : Prop :=
  Stage0 listener ticket authority exchange ∨ Wants listener authority exchange ∨
    exchange.announcer.policy.certRequested = true ∨ Wants listener ticket exchange ∧ exchange.answered = false

/-- **The invariant of a run.** -/
structure Acquainting (exchange : Exchange) : Prop where
  clear : Clear listener.ctx ticket authority exchange.listener.cache
  bound : exchange.refused ≤ 2
  once : 1 ≤ exchange.refused → Stage1 listener ticket authority exchange
  twice : 2 ≤ exchange.refused → Stage0 listener ticket authority exchange

end Stages

section Steps

variable {κ : Type} {announcer listener : Installation κ} {ticket authority : Certificate}
  {key : EcdsaPublicKey} {moment : Moment} {exchange after : Exchange} {position : HeaderPosition}
  {payload : ByteBuffer} {confirm : DecapConfirm} {accepted : Bool}

/-- What the listener wants, it goes on to want until it sends a CAM. -/
theorem Wants.hear {own : Certificate} (wants : Wants listener own exchange) :
    Wants listener own (exchange.hear announcer listener moment position payload confirm) :=
  heeds_decapsulate.unknown _ (.inl wants)

/-- A refusal that counts leaves one more at most. -/
theorem Ending.stage1 (ending : Ending listener ticket authority exchange after accepted)
    (unanswered : after.answered = false) (failed : accepted = false) :
    Stage1 listener ticket authority after := by
  cases ending with
  | settled => cases failed
  | digest => cases failed
  | unknown _ _ _ wants => exact .inr (.inr (.inr ⟨wants, unanswered⟩))
  | unissued _ _ wants => exact .inl (.inr (.inr ⟨wants, unanswered⟩))

/-- At stage 0 no refusal counts, and the next stage is 0. -/
theorem Ending.keeps0 (ending : Ending listener ticket authority exchange after accepted)
    (unanswered : after.answered = false)
    (wanting : Wants listener authority exchange → Wants listener authority after)
    (stage : Stage0 listener ticket authority exchange) :
    Stage0 listener ticket authority after ∧ (accepted = false → exchange.answered = false) := by
  rcases stage with settled | chain | ⟨wants, waiting⟩
  · cases ending with
    | settled settled => exact ⟨.inl settled, nofun⟩
    | digest _ _ stays => exact ⟨.inl (stays settled), nofun⟩
    | unknown _ _ strange => exact absurd settled strange
    | unissued _ strange => exact absurd settled strange
  · cases ending with
    | settled settled => exact ⟨.inl settled, nofun⟩
    | digest unchained => exact absurd (chain.symm.trans unchained) nofun
    | unknown unchained => exact absurd (chain.symm.trans unchained) nofun
    | unissued unchained => exact absurd (chain.symm.trans unchained) nofun
  · exact ⟨.inr (.inr ⟨wanting wants, unanswered⟩), fun _ => waiting⟩

/-- At stage 1 the next stage is 1, and a refusal that counts leads to stage 0. -/
theorem Ending.keeps1 (ending : Ending listener ticket authority exchange after accepted)
    (unanswered : after.answered = false)
    (wanting : ∀ own, Wants listener own exchange → Wants listener own after)
    (stage : Stage1 listener ticket authority exchange) :
    Stage1 listener ticket authority after ∧
      (accepted = false → exchange.answered = true → Stage0 listener ticket authority after) := by
  have both (stage : Stage0 listener ticket authority after) : Stage1 listener ticket authority after ∧
      (accepted = false → exchange.answered = true → Stage0 listener ticket authority after) :=
    ⟨.inl stage, fun _ _ => stage⟩
  rcases stage with stage | wants | requested | ⟨wants, waiting⟩
  · exact both (ending.keeps0 unanswered (wanting authority) stage).1
  · exact both (.inr (.inr ⟨wanting authority wants, unanswered⟩))
  · cases ending with
    | settled settled => exact both (.inl settled)
    | digest _ quiet => exact absurd (requested.symm.trans quiet) nofun
    | unknown _ quiet => exact absurd (requested.symm.trans quiet) nofun
    | unissued _ _ wants => exact both (.inr (.inr ⟨wants, unanswered⟩))
  · refine ⟨.inr (.inr (.inr ⟨wanting ticket wants, unanswered⟩)), fun _ answered => ?_⟩
    exact absurd (waiting.symm.trans answered) nofun

/-- The announcer's certificates are not mistaken for each other. -/
theorem unmistaken_own (recognised : Recognised announcer listener.ctx ticket authority key)
    {cert : Certificate} (own : cert = ticket ∨ cert = authority) :
    Unmistaken listener.ctx.sha256 ticket cert ∧ Unmistaken listener.ctx.sha256 authority cert := by
  have ticketType : ticket.subjectInfo.subjectType = SubjectType.authorizationTicket := by
    rw [recognised.ticketInfo]
  have different : ticket.subjectInfo.subjectType ≠ authority.subjectInfo.subjectType := by
    rw [ticketType, recognised.authorityType]
    decide
  rcases own with rfl | rfl
  · exact ⟨fun _ _ => cert.alike_refl, fun _ same => absurd same different⟩
  · exact ⟨fun _ same => absurd same.symm different, fun _ _ => cert.alike_refl⟩

theorem unmistaken_announced (recognised : Recognised announcer listener.ctx ticket authority key)
    (late : seconds 2 ≤ moment.now) (cert : Certificate)
    (came : CameWith (exchange.announced announcer moment position payload).1 cert) :
    Unmistaken listener.ctx.sha256 ticket cert ∧ Unmistaken listener.ctx.sha256 authority cert := by
  have announced {info : SignerInfo} {next : ℤ}
      (signer : announcer.camSigner moment.now exchange.announcer = (info, next)) :
      (exchange.announced announcer moment position payload).1.signerInfo = some info :=
    (announced_of recognised late signer).signerInfo
  rcases camSigner_cases recognised moment.now exchange.announcer with
    ⟨_, signer⟩ | ⟨_, signer⟩ | ⟨_, _, _, signer⟩
  · rcases came with sent | ⟨chain, sent, member⟩
    · cases (announced signer).symm.trans sent
    · cases (announced signer).symm.trans sent
      rcases List.mem_cons.mp member with rfl | last
      · exact unmistaken_own recognised (.inr rfl)
      · exact unmistaken_own recognised (.inl (List.mem_singleton.mp last))
  · rcases came with sent | ⟨chain, sent, _⟩
    · cases (announced signer).symm.trans sent
      exact unmistaken_own recognised (.inl rfl)
    · cases (announced signer).symm.trans sent
  · rcases came with sent | ⟨chain, sent, _⟩
    · cases (announced signer).symm.trans sent
    · cases (announced signer).symm.trans sent

/-- **A CAM of the announcer.** -/
theorem Acquainting.announce (recognised : Recognised announcer listener.ctx ticket authority key)
    (invariant : Acquainting listener ticket authority exchange) (later : exchange.clock ≤ moment.now)
    (meets : Meets listener.ctx ticket authority exchange (.announce moment position payload))
    (returned : (exchange.heard announcer listener moment position payload).1 = some confirm) :
    Acquainting listener ticket authority
      (exchange.hear announcer listener moment position payload confirm) := by
  obtain ⟨clear, bound, once, twice⟩ := invariant
  obtain ⟨other, same, ending⟩ := announce_facts recognised clear later meets
  obtain rfl : other = confirm := Option.some.inj (same.symm.trans returned)
  have stillClear : Clear listener.ctx ticket authority
      (exchange.heard announcer listener moment position payload).2.cache :=
    clear.decapsulate (unmistaken_announced recognised meets.1)
  have wanting (own : Certificate) (wants : Wants listener own exchange) :
      Wants listener own (exchange.hear announcer listener moment position payload other) :=
    wants.hear
  by_cases counts : exchange.answered ∧ other.report ≠ .success
  · have more : (exchange.hear announcer listener moment position payload other).refused =
        exchange.refused + 1 := if_pos counts
    have failed : decide (other.report = .success) = false := decide_eq_false counts.2
    have least : exchange.refused < 2 := by
      by_contra many
      have waiting := (ending.keeps0 rfl (wanting authority) (twice (not_lt.mp many))).2 failed
      exact absurd (waiting.symm.trans counts.1) nofun
    refine ⟨stillClear, ?_, fun _ => ending.stage1 rfl failed, fun two => ?_⟩
    · rw [more]
      exact least
    · rw [more] at two
      exact (ending.keeps1 rfl wanting (once (by omega))).2 failed counts.1
  · have same : (exchange.hear announcer listener moment position payload other).refused =
        exchange.refused := if_neg counts
    refine ⟨stillClear, ?_, fun one => ?_, fun two => ?_⟩
    · rw [same]
      exact bound
    · rw [same] at one
      exact (ending.keeps1 rfl wanting (once one)).1
    · rw [same] at two
      exact (ending.keeps0 rfl (wanting authority) (twice two)).1

/-- Something happens to one of the two stations that takes nothing back. -/
structure Carries (listener : Installation κ) (ticket authority : Certificate) (before after : Exchange) :
    Prop where
  settled : Settled listener ticket authority before → Settled listener ticket authority after
  chain : before.announcer.policy.chainRequested = true → after.announcer.policy.chainRequested = true
  certificate : before.announcer.policy.certRequested = true → after.announcer.policy.certRequested = true
  wants : ∀ own, Wants listener own before → Wants listener own after
  answered : after.answered = before.answered
  refused : after.refused = before.refused

theorem Acquainting.carries (invariant : Acquainting listener ticket authority exchange)
    (clear : Clear listener.ctx ticket authority after.listener.cache)
    (carries : Carries listener ticket authority exchange after) :
    Acquainting listener ticket authority after := by
  obtain ⟨settled, chain, certificate, wants, answered, refused⟩ := carries
  have carries0 : Stage0 listener ticket authority exchange → Stage0 listener ticket authority after := by
    rintro (known | requested | ⟨wanted, waiting⟩)
    · exact .inl (settled known)
    · exact .inr (.inl (chain requested))
    · exact .inr (.inr ⟨wants authority wanted, answered.trans waiting⟩)
  refine ⟨clear, ?_, fun one => ?_, fun two => ?_⟩
  · rw [refused]
    exact invariant.bound
  · rw [refused] at one
    rcases invariant.once one with stage | wanted | requested | ⟨wanted, waiting⟩
    · exact .inl (carries0 stage)
    · exact .inr (.inl (wants authority wanted))
    · exact .inr (.inr (.inl (certificate requested)))
    · exact .inr (.inr (.inr ⟨wants ticket wanted, answered.trans waiting⟩))
  · rw [refused] at two
    exact carries0 (invariant.twice two)

/-- **The listener receives something else.** What it knows, it knows as long as before at least. -/
theorem Acquainting.overhear {message : SecuredMessage} (later : exchange.clock ≤ moment.now)
    (meets : Meets listener.ctx ticket authority exchange (.overhear moment message))
    (invariant : Acquainting listener ticket authority exchange) :
    Acquainting listener ticket authority { exchange with
      listener := (listener.decapsulatePacket moment message exchange.listener).2
      clock := moment.now } := by
  refine invariant.carries (invariant.clear.decapsulate meets) ⟨?_, id, id, fun own => ?_, rfl, rfl⟩
  · rintro ⟨last, heard, past, due, soon, known⟩
    have soon' : exchange.announcer.policy.camNextCertificate ≤ (moment.now : ℤ) + seconds 1 := by omega
    refine ⟨last, heard, past.trans later, due, soon', fun current => ?_⟩
    obtain ⟨ticketKnown, authorityKnown⟩ := known (later.trans current)
    change moment.now ≤ last + seconds 2 at current
    refine ⟨knownUntil_decapsulate ticketKnown ?_ ?_, knownUntil_decapsulate authorityKnown ?_ ?_⟩
    · exact_mod_cast current
    · show (last : ℤ) + seconds 2 ≤ moment.now + seconds 2
      omega
    · show (moment.now : ℤ) ≤ exchange.announcer.policy.camNextCertificate + seconds 3599
      unfold seconds at *
      omega
    · show exchange.announcer.policy.camNextCertificate + seconds 3599 ≤ (moment.now : ℤ) + seconds 3600
      unfold seconds at *
      omega
  · exact fun wants => heeds_decapsulate.unknown _ (.inl wants)

theorem settled_later {entity : Entity} {answered : Bool} (later : exchange.clock ≤ moment.now)
    (next : entity.policy.camNextCertificate = exchange.announcer.policy.camNextCertificate)
    {receiver : Entity} (cache : receiver.cache = exchange.listener.cache)
    (settled : Settled listener ticket authority exchange) :
    Settled listener ticket authority { exchange with
      announcer := entity
      listener := receiver
      clock := moment.now
      answered := answered } := by
  obtain ⟨last, heard, past, due, soon, known⟩ := settled
  refine ⟨last, heard, past.trans later, ?_, ?_, fun current => ?_⟩
  · show (last : ℤ) ≤ entity.policy.camNextCertificate
    rw [next]
    exact due
  · show entity.policy.camNextCertificate ≤ (moment.now : ℤ) + seconds 1
    rw [next]
    omega
  · show receiver.cache.KnownUntil _ _ _ ∧ receiver.cache.KnownUntil _ _ _
    rw [next, cache]
    exact known (later.trans current)

/-- **The announcer receives something else.** -/
theorem Acquainting.distract {message : SecuredMessage} (later : exchange.clock ≤ moment.now)
    (invariant : Acquainting listener ticket authority exchange) :
    Acquainting listener ticket authority { exchange with
      announcer := (announcer.decapsulatePacket moment message exchange.announcer).2
      clock := moment.now } := by
  have heeds := @heeds_decapsulate κ announcer moment message exchange.announcer
  exact invariant.carries invariant.clear ⟨settled_later later heeds.next rfl,
    fun requested => heeds.chain (.inl requested), fun requested => heeds.certificate (.inl requested),
    fun _ => id, rfl, rfl⟩

/-- **A CAM of the listener**: the announcer is told what the listener wants. -/
theorem Acquainting.answer (recognised : Recognised announcer listener.ctx ticket authority key)
    (later : exchange.clock ≤ moment.now) (invariant : Acquainting listener ticket authority exchange) :
    let sent := listener.encapsulatePacket moment.now position payload aidCa exchange.listener
    Acquainting listener ticket authority { exchange with
      announcer := (announcer.decapsulatePacket moment sent.1 exchange.announcer).2
      listener := sent.2
      clock := moment.now
      answered := true } := by
  intro sent
  have heeds := @heeds_decapsulate κ announcer moment sent.1 exchange.announcer
  have cache : sent.2.cache = exchange.listener.cache := rfl
  -- the announcer is asked for everything that is wanted
  have told {own : Certificate} {request : PolicyRequest} (wants : Wants listener own exchange)
      (answer : request ∈ answers announcer.ctx moment.now
        (truncate (calculateHash listener.ctx.sha256 own))) :
      request ∈ (verify announcer.ctx moment sent.1 ⟨exchange.announcer.cache, []⟩).2.requests := by
    have asked := @verify_asks announcer.ctx moment sent.1 ⟨exchange.announcer.cache, []⟩ rfl
    rw [listener.asks_cam moment.now position payload exchange.listener] at asked
    exact asked.subset (List.mem_append_right _ (List.mem_flatMap.mpr ⟨_, wants, answer⟩))
  have askedChain (wants : Wants listener authority exchange) :
      (announcer.decapsulatePacket moment sent.1 exchange.announcer).2.policy.chainRequested = true := by
    refine heeds.chain (.inr (told wants ?_))
    unfold answers
    rw [recognised.ownChain, recognised.sha256]
    exact List.mem_append_right _ (by simp)
  have askedTicket (wants : Wants listener ticket exchange) :
      (announcer.decapsulatePacket moment sent.1 exchange.announcer).2.policy.certRequested = true := by
    refine heeds.certificate (.inr (told wants ?_))
    unfold answers
    rw [recognised.ownCertificate, recognised.sha256]
    exact List.mem_append_left _ (by simp)
  have carries0 (stage : Stage0 listener ticket authority exchange) :
      Stage0 listener ticket authority { exchange with
        announcer := (announcer.decapsulatePacket moment sent.1 exchange.announcer).2
        listener := sent.2
        clock := moment.now
        answered := true } := by
    rcases stage with settled | requested | ⟨wants, _⟩
    · exact .inl (settled_later later heeds.next cache settled)
    · exact .inr (.inl (heeds.chain (.inl requested)))
    · exact .inr (.inl (askedChain wants))
  refine ⟨?_, invariant.bound, fun one => ?_, fun two => carries0 (invariant.twice two)⟩
  · show Clear listener.ctx ticket authority sent.2.cache
    rw [cache]
    exact invariant.clear
  · rcases invariant.once one with stage | wants | requested | ⟨wants, _⟩
    · exact .inl (carries0 stage)
    · exact .inl (.inr (.inl (askedChain wants)))
    · exact .inr (.inr (.inl (heeds.certificate (.inl requested))))
    · exact .inr (.inr (.inl (askedTicket wants)))

end Steps

/-! ### Runs -/

section Runs

variable {κ : Type} {announcer listener : Installation κ} {ticket authority : Certificate}
  {key : EcdsaPublicKey}

/-- **One step.** -/
theorem Acquainting.step (recognised : Recognised announcer listener.ctx ticket authority key)
    {exchange after : Exchange} {happening : Happening}
    (invariant : Acquainting listener ticket authority exchange)
    (meets : Meets listener.ctx ticket authority exchange happening)
    (taken : exchange.step announcer listener happening = some after) :
    Acquainting listener ticket authority after := by
  unfold Exchange.step at taken
  split_ifs at taken with later
  cases happening with
  | announce moment position payload =>
    obtain ⟨confirm, returned, rfl⟩ := Option.map_eq_some_iff.mp taken
    exact invariant.announce recognised later meets returned
  | answer moment position payload =>
    obtain ⟨confirm, _, rfl⟩ := Option.map_eq_some_iff.mp taken
    exact invariant.answer recognised later
  | overhear moment message =>
    obtain ⟨confirm, _, rfl⟩ := Option.map_eq_some_iff.mp taken
    exact invariant.overhear later meets
  | distract moment message =>
    obtain ⟨confirm, _, rfl⟩ := Option.map_eq_some_iff.mp taken
    exact invariant.distract later

theorem acquainting_run (recognised : Recognised announcer listener.ctx ticket authority key) :
    ∀ exchange, GuardedReach (Begins listener.ctx ticket authority) (step announcer listener)
      (Meets listener.ctx ticket authority) exchange → Acquainting listener ticket authority exchange := by
  refine GuardedReach.invariant ?_ ?_
  · intro exchange begins
    have nothing := begins.unrefused
    exact ⟨begins.clear, by omega, by omega, by omega⟩
  · exact fun _ _ _ _ invariant meets taken => invariant.step recognised meets taken

end Runs

end Exchange

/-! ### Two strangers -/

namespace Sample

/-- The holder of the ticket. -/
def announcer : Installation Unit where
  ctx := { context with ownCertificate := fun _ => ticket, ownChain := fun _ => [authority] }
  ownPrivateKey := ()
  signData _ _ := sign 3

/-- A station that knows nothing but the root. -/
def listener : Installation Unit := ⟨context, (), fun _ _ => sign 1⟩

theorem recognised : Recognised announcer context ticket authority ⟨fill 3, fill 0⟩ where
  sha256 := rfl
  ownCertificate _ := rfl
  ownChain _ := rfl
  publicKey := rfl
  verifies _ := rfl
  standard _ := ⟨fill 0, rfl⟩
  ticketInfo := rfl
  period := rfl
  assured := rfl
  signer := rfl
  issued := ⟨⟨⟨fill 2, fill 0⟩, rfl, rfl⟩, by decide +kernel⟩
  permits := ⟨[], rfl⟩
  authorityType := rfl
  rooted now cache := by
    have signers : checkSigners context authority (TrustStore.lookup context
        (calculateHash checksum root)) = .ok none := by decide +kernel
    show (Action.lift (checkSigners context authority
      (TrustStore.lookup context (calculateHash checksum root))) : Action CertificateCache Thrown _) cache = _
    rw [signers]
    rfl

/-- Both have sent their certificates before, and their next CAMs have digests. -/
def strangers : Exchange where
  announcer := ⟨⟨1000900000, [], false, false⟩, []⟩
  listener := ⟨⟨1000900000, [], false, false⟩, []⟩
  clock := 1000000000
  heardAt := none
  answered := false
  refused := 0

theorem begins_strangers : Exchange.Begins context ticket authority strangers :=
  ⟨⟨fun _ member => absurd member List.not_mem_nil, fun _ member => absurd member List.not_mem_nil⟩,
    rfl, rfl⟩

/-- A tenth of a second after another. -/
def tenth (count : Fin 10) : Moment :=
  ⟨1000000000 + count * 100000, ⟨⟨0, 0⟩, true⟩, by omega⟩

def nowhere : HeaderPosition := ⟨0, 0, none⟩

/-- The digest, the ticket and the chain, each after a CAM of the listener. -/
def introduction : List Happening :=
  [.answer (tenth 0) nowhere [], .announce (tenth 1) nowhere [], .answer (tenth 2) nowhere [],
    .announce (tenth 3) nowhere [], .answer (tenth 4) nowhere [], .announce (tenth 5) nowhere [],
    .announce (tenth 6) nowhere []]

/-- The condition of a run without anything else, computed. -/
def prompt (exchange : Exchange) : Happening → Bool
  | .announce moment _ _ => decide (seconds 2 ≤ moment.now) &&
      (exchange.heardAt.all fun last => moment.now ≤ last + seconds 2) &&
      [ticket, authority].all fun cert => checkCertificateTime cert moment.now &&
        checkCertificateRegion context.geod cert moment.positionFix
  | .overhear _ _ => false
  | _ => true

theorem meets_of_prompt {exchange : Exchange} {happening : Happening}
    (checked : prompt exchange happening = true) :
    Exchange.Meets context ticket authority exchange happening := by
  cases happening with
  | announce moment position payload =>
    unfold prompt at checked
    simp only [Bool.and_eq_true, List.all_cons, List.all_nil, decide_eq_true_eq, and_true] at checked
    obtain ⟨⟨late, soon⟩, ticketInForce, authorityInForce⟩ := checked
    refine ⟨late, ?_, ⟨ticketInForce.1, ticketInForce.2⟩, authorityInForce.1, authorityInForce.2⟩
    intro last heard
    rw [heard] at soon
    exact of_decide_eq_true soon
  | overhear => cases checked
  | answer => trivial
  | distract => trivial

end Sample

namespace Exchange

end Exchange

end Vanet.Security
