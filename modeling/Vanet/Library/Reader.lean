/-
**Readers of a byte string.**

A reader consumes bytes from the front of a tape and ends with a value or with a fault. On its way
it notes what it meets: the notes are ghost state that no reader looks at. Loops and recursion are
bounded by the bytes left on the tape when they start (`whileM`, `fix`).

Four kinds of rules:

* `Conduct` is a relation between the tapes before and after and the way a reader ended, closed under
  sequencing. `Keeps` (and `Advances`, for readers that consume at least one byte) is derived
  constructor by constructor. A loop whose body advances, or a recursion whose every layer advances,
  never exhausts its bound.
* `*_ok` says what a reader has done if it returned a value; `whileM_ok` is the loop rule for such
  facts, `fix_ok` the rule for recursion.
* `Spends` relates the value returned to what was spent of a credit: the bytes left, and a number for
  each note. It is derived constructor by constructor, too.
* `Restores` says that a reader takes exactly the given bytes and returns the given value.
* `Takes` relates the value returned to the bytes that were taken for it.
-/

import Mathlib.Algebra.BigOperators.Group.List.Basic
import Mathlib.Algebra.Order.Ring.Int
import Vanet.Library.Action

namespace Vanet.Library

variable {ν ε α β σ : Type}

/-- The bytes that have not been read, and the notes taken so far. -/
structure Tape (ν : Type) where
  unread : List UInt8
  notes : List ν

namespace Tape

/-- The number of bytes that have not been read. -/
def left (tape : Tape ν) : ℕ := tape.unread.length

def note (tape : Tape ν) (entry : ν) : Tape ν := { tape with notes := tape.notes ++ [entry] }

@[simp] theorem note_left (tape : Tape ν) (entry : ν) : (tape.note entry).left = tape.left := rfl

@[simp] theorem note_notes (tape : Tape ν) (entry : ν) :
    (tape.note entry).notes = tape.notes ++ [entry] := rfl

end Tape

/-- A byte string of a fixed length. -/
abbrev Octets (n : ℕ) := { bytes : List UInt8 // bytes.length = n }

/-- **A reader**: an action on a tape. -/
abbrev Reader (ν ε α : Type) := Action (Tape ν) ε α

/-- How a reader ended: with a fault or, `none`, with a value. -/
def ending : Except ε α → Option ε
  | .ok _ => none
  | .error fault => some fault

namespace Reader

export Action (fail bind_apply bind_ok pure_ok fail_ok)

/-- Note an entry, then go on or fail. -/
def note (entry : ν) (verdict : Except ε Unit) : Reader ν ε Unit :=
  fun tape => (verdict, tape.note entry)

def left : Reader ν ε ℕ := fun tape => (.ok tape.left, tape)

def byte (incomplete : ε) : Reader ν ε UInt8 := fun tape =>
  match tape.unread with
  | [] => (.error incomplete, tape)
  | first :: rest => (.ok first, { tape with unread := rest })

/-- Read `n` bytes. If there are fewer, they are consumed before the reader fails. -/
def octets (incomplete : ε) (n : ℕ) : Reader ν ε (Octets n) := fun tape =>
  if enough : n ≤ tape.unread.length then
    (.ok ⟨tape.unread.take n, List.length_take_of_le enough⟩,
      { tape with unread := tape.unread.drop n })
  else
    (.error incomplete, { tape with unread := [] })

/-- A loop of at most `rounds` rounds. -/
def whileRounds (exhausted : ε) (guard : σ → Bool) (body : σ → Reader ν ε σ) :
    ℕ → σ → Reader ν ε σ
  | 0, state => if guard state then fail exhausted else pure state
  | rounds + 1, state =>
    if guard state then body state >>= whileRounds exhausted guard body rounds else pure state

/-- **A while loop**, of as many rounds as there are bytes left, and one more. -/
def whileM (exhausted : ε) (guard : σ → Bool) (body : σ → Reader ν ε σ) (state : σ) :
    Reader ν ε σ :=
  fun tape => whileRounds exhausted guard body (tape.left + 1) state tape

/-- A recursive reader down to the given depth. -/
def nest (exhausted : ε) (layer : Reader ν ε α → Reader ν ε α) : ℕ → Reader ν ε α
  | 0 => fail exhausted
  | depth + 1 => layer (nest exhausted layer depth)

/-- **A recursive reader**, down to a depth of the number of bytes left, and one more. -/
def fix (exhausted : ε) (layer : Reader ν ε α → Reader ν ε α) : Reader ν ε α :=
  fun tape => nest exhausted layer (tape.left + 1) tape

/-! ### Readers that returned a value -/

section Returned

variable {tape after : Tape ν}

theorem note_ok {entry : ν} {verdict : Except ε Unit} {result : Unit} :
    note entry verdict tape = (.ok result, after) ↔ verdict = .ok () ∧ tape.note entry = after := by
  show (verdict, tape.note entry) = _ ↔ _
  simp

theorem left_ok {count : ℕ} :
    (left : Reader ν ε ℕ) tape = (.ok count, after) ↔ tape.left = count ∧ tape = after := by
  show (Except.ok tape.left, tape) = _ ↔ _
  simp

/-- What a reader that returned from `n` bytes has done to the tape. -/
structure Ate (n : ℕ) (tape after : Tape ν) : Prop where
  left : tape.left = after.left + n
  notes : after.notes = tape.notes

theorem byte_ok {incomplete : ε} {first : UInt8} (returned : byte incomplete tape = (.ok first, after)) :
    tape.unread = first :: after.unread ∧ Ate 1 tape after := by
  rcases tape with ⟨_ | ⟨head, rest⟩, notes⟩
  · cases returned
  · cases returned
    exact ⟨rfl, rfl, rfl⟩

theorem octets_ok {incomplete : ε} {n : ℕ} {bytes : Octets n}
    (returned : octets incomplete n tape = (.ok bytes, after)) :
    tape.unread = bytes.1 ++ after.unread ∧ Ate n tape after := by
  unfold octets at returned
  split at returned
  next enough =>
    cases returned
    refine ⟨(List.take_append_drop n tape.unread).symm, ?_, rfl⟩
    show tape.unread.length = (tape.unread.drop n).length + n
    rw [List.length_drop]
    omega
  next => cases returned

/-- **The loop rule** for what holds of the state and the tape. -/
theorem whileM_ok {exhausted : ε} {guard : σ → Bool} {body : σ → Reader ν ε σ}
    (I : σ → Tape ν → Prop)
    (keep : ∀ state tape next after, guard state = true → I state tape →
      body state tape = (.ok next, after) → I next after)
    {first last : σ} (begins : I first tape)
    (returned : whileM exhausted guard body first tape = (.ok last, after)) :
    I last after ∧ guard last = false := by
  unfold whileM at returned
  generalize tape.left + 1 = rounds at returned
  induction rounds generalizing first tape with
  | zero =>
    unfold whileRounds at returned
    split at returned
    next => cases fail_ok.mp returned
    next stop =>
      obtain ⟨rfl, rfl⟩ := pure_ok.mp returned
      exact ⟨begins, eq_false_of_ne_true stop⟩
  | succ rounds ih =>
    unfold whileRounds at returned
    split at returned
    next go =>
      obtain ⟨next, mid, ran, returned⟩ := bind_ok.mp returned
      exact ih (keep _ _ _ _ go begins ran) returned
    next stop =>
      obtain ⟨rfl, rfl⟩ := pure_ok.mp returned
      exact ⟨begins, eq_false_of_ne_true stop⟩

/-- **The recursion rule**: what every layer adds to what is below it. -/
theorem fix_ok {exhausted : ε} {layer : Reader ν ε α → Reader ν ε α}
    (P : Tape ν → α → Tape ν → Prop)
    (keep : ∀ below, (∀ tape value after, below tape = (.ok value, after) → P tape value after) →
      ∀ tape value after, layer below tape = (.ok value, after) → P tape value after)
    (tape : Tape ν) (value : α) (after : Tape ν)
    (returned : fix exhausted layer tape = (.ok value, after)) : P tape value after := by
  have every : ∀ depth tape value after,
      nest exhausted layer depth tape = (.ok value, after) → P tape value after := by
    intro depth
    induction depth with
    | zero =>
      intro _ _ _ returned
      cases fail_ok.mp returned
    | succ depth ih => exact keep _ ih
  exact every _ _ _ _ returned

end Returned

/-! ### The conduct of readers, however they end -/

/-- **A conduct**: a relation between the tape before, the ending and the tape after that is closed
under sequencing, allows consuming bytes and failing for lack of them, and never gives bytes back. -/
structure Conduct (ν ε : Type) (incomplete : ε) where
  holds : Tape ν → Option ε → Tape ν → Prop
  eats : ∀ tape n, holds tape none { tape with unread := tape.unread.drop n }
  starves : ∀ tape, holds tape (some incomplete) { tape with unread := [] }
  trans : ∀ {before mid after how}, holds before none mid → holds mid how after →
    holds before how after
  shrinks : ∀ {before how after}, holds before how after → after.left ≤ before.left

namespace Conduct

variable {incomplete : ε} (Q : Conduct ν ε incomplete)

theorem refl (tape : Tape ν) : Q.holds tape none tape := Q.eats tape 0

end Conduct

section Rules

variable {incomplete exhausted : ε} (Q : Conduct ν ε incomplete)

/-- The reader keeps the conduct on every tape with fewer than `bound` bytes. -/
def Keeps (bound : ℕ) (read : Reader ν ε α) : Prop :=
  ∀ tape : Tape ν, tape.left < bound → Q.holds tape (ending (read tape).1) (read tape).2

/-- ... and consumes at least one of them before it returns. -/
def Advances (bound : ℕ) (read : Reader ν ε α) : Prop :=
  ∀ tape : Tape ν, tape.left < bound → Q.holds tape (ending (read tape).1) (read tape).2 ∧
    (ending (read tape).1 = none → (read tape).2.left < tape.left)

variable {Q} {bound : ℕ}

theorem Advances.keeps {read : Reader ν ε α} (advances : Advances Q bound read) :
    Keeps Q bound read :=
  fun tape small => (advances tape small).1

theorem Keeps.pure (value : α) : Keeps Q bound (pure value) := fun tape _ => Q.refl tape

theorem Keeps.fail {fault : ε} (allowed : ∀ tape, Q.holds tape (some fault) tape) :
    Keeps Q bound (fail fault : Reader ν ε α) :=
  fun tape _ => allowed tape

theorem Keeps.note {entry : ν} {verdict : Except ε Unit}
    (allowed : ∀ tape, Q.holds tape (ending verdict) (tape.note entry)) :
    Keeps Q bound (note entry verdict) :=
  fun tape _ => allowed tape

theorem Keeps.left : Keeps Q bound (left : Reader ν ε ℕ) := fun tape _ => Q.refl tape

/-- Sequencing: the second reader starts on a tape that is no longer than the first one's. -/
theorem Keeps.bind {read : Reader ν ε α} {next : α → Reader ν ε β} (first : Keeps Q bound read)
    (second : ∀ value, Keeps Q bound (next value)) : Keeps Q bound (read >>= next) := by
  intro tape small
  have went := first tape small
  rw [bind_apply]
  rcases ran : read tape with ⟨fault | value, mid⟩
  · rw [ran] at went
    exact went
  · rw [ran] at went
    exact Q.trans went (second value mid (lt_of_le_of_lt (Q.shrinks went) small))

theorem Advances.bind {read : Reader ν ε α} {next : α → Reader ν ε β}
    (first : Advances Q bound read) (second : ∀ value, Keeps Q bound (next value)) :
    Advances Q bound (read >>= next) := by
  intro tape small
  refine ⟨first.keeps.bind second tape small, ?_⟩
  obtain ⟨went, shorter⟩ := first tape small
  rw [bind_apply]
  rcases ran : read tape with ⟨fault | value, mid⟩
  · intro returned
    cases returned
  · rw [ran] at went shorter
    intro _
    have inside : mid.left < bound := lt_of_le_of_lt (Q.shrinks went) small
    exact lt_of_le_of_lt (Q.shrinks (second value mid inside)) (shorter rfl)

/-- After the first byte the bound is smaller by one: this is what makes a recursion end. -/
theorem Advances.byte {next : UInt8 → Reader ν ε α}
    (rest : ∀ first, Keeps Q (bound - 1) (next first)) :
    Advances Q bound (byte incomplete >>= next) := by
  intro tape small
  rcases tape with ⟨_ | ⟨first, unread⟩, notes⟩
  · exact ⟨Q.starves ⟨[], notes⟩, nofun⟩
  · have inside : (⟨unread, notes⟩ : Tape ν).left < bound - 1 := Nat.lt_sub_of_add_lt small
    have went := rest first ⟨unread, notes⟩ inside
    exact ⟨Q.trans (Q.eats ⟨first :: unread, notes⟩ 1) went,
      fun _ => Nat.lt_succ_of_le (Q.shrinks went)⟩

theorem Keeps.byte : Keeps Q bound (byte incomplete : Reader ν ε UInt8) := by
  intro tape small
  rcases tape with ⟨_ | ⟨first, unread⟩, notes⟩
  · exact Q.starves ⟨[], notes⟩
  · exact Q.eats ⟨first :: unread, notes⟩ 1

theorem Keeps.octets (n : ℕ) : Keeps Q bound (octets incomplete n : Reader ν ε (Octets n)) := by
  intro tape _
  unfold Reader.octets
  split
  · exact Q.eats tape n
  · exact Q.starves tape

theorem Advances.octets {n : ℕ} (some : 0 < n) :
    Advances Q bound (octets incomplete n : Reader ν ε (Octets n)) := by
  intro tape small
  refine ⟨Keeps.octets n tape small, ?_⟩
  intro returned
  rcases ran : (Reader.octets incomplete n : Reader ν ε (Octets n)) tape with ⟨fault | bytes, after⟩
  · rw [ran] at returned
    cases returned
  · have ate := (octets_ok ran).2.left
    show after.left < tape.left
    omega

/-- **A loop whose body advances keeps the conduct**: its rounds do not run out. -/
theorem Keeps.whileM {guard : σ → Bool} {body : σ → Reader ν ε σ}
    (advances : ∀ state, Advances Q bound (body state)) (state : σ) :
    Keeps Q bound (whileM exhausted guard body state) := by
  have every : ∀ rounds state, ∀ tape : Tape ν, tape.left < rounds → tape.left < bound →
      Q.holds tape (ending (whileRounds exhausted guard body rounds state tape).1)
        (whileRounds exhausted guard body rounds state tape).2 := by
    intro rounds
    induction rounds with
    | zero =>
      intro _ tape impossible _
      exact absurd impossible (Nat.not_lt_zero _)
    | succ rounds ih =>
      intro state tape enough small
      unfold whileRounds
      split
      · obtain ⟨went, shorter⟩ := advances state tape small
        rw [bind_apply]
        rcases ran : body state tape with ⟨fault | next, mid⟩
        · rw [ran] at went
          exact went
        · rw [ran] at went shorter
          have less : mid.left < tape.left := shorter rfl
          exact Q.trans went (ih next mid (by omega) (by omega))
      · exact Q.refl tape
  exact fun tape small => every _ _ tape (Nat.lt_succ_self _) small

/-- **A recursion whose layers advance keeps the conduct**: its depth does not run out. -/
theorem Advances.fix {layer : Reader ν ε α → Reader ν ε α}
    (advances : ∀ bound below, Advances Q bound below → Advances Q (bound + 1) (layer below)) :
    Advances Q bound (fix exhausted layer) := by
  have every : ∀ depth, Advances Q depth (nest exhausted layer depth) := by
    intro depth
    induction depth with
    | zero => exact fun tape impossible => absurd impossible (Nat.not_lt_zero _)
    | succ depth ih => exact advances depth _ ih
  exact fun tape _ => every (tape.left + 1) tape (Nat.lt_succ_self _)

end Rules

end Reader

/-! ### Accounting -/

namespace Tape

/-- The bytes left and what the notes add to them. -/
def credit (worth : ν → ℤ) (tape : Tape ν) : ℤ := tape.left + (tape.notes.map worth).sum

theorem credit_note (worth : ν → ℤ) (tape : Tape ν) (entry : ν) :
    (tape.note entry).credit worth = tape.credit worth + worth entry := by
  simp only [credit, note_left, note_notes, List.map_append, List.map_cons, List.map_nil,
    List.sum_append, List.sum_cons, List.sum_nil]
  omega

end Tape

namespace Reader

section Accounting

variable (worth : ν → ℤ)

/-- **What a reader spends**: `R` relates the value it returns to the credit it has used up. -/
def Spends (read : Reader ν ε α) (R : α → ℤ → Prop) : Prop :=
  ∀ tape value after, read tape = (.ok value, after) →
    R value (tape.credit worth - after.credit worth)

variable {worth} {read : Reader ν ε α} {R T : α → ℤ → Prop}

theorem Spends.mono (spends : Spends worth read R) (weaken : ∀ value spent, R value spent → T value spent) :
    Spends worth read T :=
  fun _ _ _ returned => weaken _ _ (spends _ _ _ returned)

theorem Spends.and (first : Spends worth read R) (second : Spends worth read T) :
    Spends worth read fun value spent => R value spent ∧ T value spent :=
  fun _ _ _ returned => ⟨first _ _ _ returned, second _ _ _ returned⟩

theorem Spends.pure {value : α} (nothing : R value 0) :
    Spends worth (pure value : Reader ν ε α) R := by
  intro tape result after returned
  obtain ⟨rfl, rfl⟩ := pure_ok.mp returned
  rwa [sub_self]

theorem Spends.fail {fault : ε} : Spends worth (fail fault : Reader ν ε α) R := by
  intro tape value after returned
  cases fail_ok.mp returned

theorem Spends.bind {next : α → Reader ν ε β} {T : β → ℤ → Prop} (first : Spends worth read R)
    (second : ∀ value spent, R value spent →
      Spends worth (next value) fun result more => T result (spent + more)) :
    Spends worth (read >>= next) T := by
  intro tape result after returned
  obtain ⟨value, mid, ran, returned⟩ := bind_ok.mp returned
  have total : T result (tape.credit worth - mid.credit worth +
      (mid.credit worth - after.credit worth)) :=
    second _ _ (first _ _ _ ran) _ _ _ returned
  rwa [sub_add_sub_cancel] at total

theorem Spends.byte {incomplete : ε} :
    Spends worth (byte incomplete : Reader ν ε UInt8) fun _ spent => spent = 1 := by
  intro tape first after returned
  obtain ⟨_, ate⟩ := byte_ok returned
  simp only [Tape.credit, ate.left, ate.notes]
  omega

theorem Spends.octets {incomplete : ε} (n : ℕ) :
    Spends worth (octets incomplete n : Reader ν ε (Octets n)) fun _ spent => spent = n := by
  intro tape bytes after returned
  obtain ⟨_, ate⟩ := octets_ok returned
  simp only [Tape.credit, ate.left, ate.notes]
  omega

theorem Spends.left : Spends worth (left : Reader ν ε ℕ) fun _ spent => spent = 0 := by
  intro tape count after returned
  obtain ⟨_, rfl⟩ := left_ok.mp returned
  exact sub_self _

/-- A note returns its worth. -/
theorem Spends.note {entry : ν} {verdict : Except ε Unit} :
    Spends worth (note entry verdict) fun _ spent => verdict = .ok () ∧ spent = - worth entry := by
  intro tape result after returned
  obtain ⟨passed, rfl⟩ := note_ok.mp returned
  refine ⟨passed, ?_⟩
  rw [Tape.credit_note]
  omega

/-- **The loop rule**: `I` relates the state of the loop to what has been spent since it began. -/
theorem Spends.whileM {exhausted : ε} {guard : σ → Bool} {body : σ → Reader ν ε σ} {first : σ}
    (I : σ → ℤ → Prop) (begins : I first 0)
    (keep : ∀ state spent, guard state = true → I state spent →
      Spends worth (body state) fun next more => I next (spent + more)) :
    Spends worth (whileM exhausted guard body first) fun last spent =>
      I last spent ∧ guard last = false := by
  intro tape last after returned
  refine whileM_ok (fun state now => I state (tape.credit worth - now.credit worth)) ?_ ?_ returned
  · intro state mid next later go holds ran
    have total : I next (tape.credit worth - mid.credit worth +
        (mid.credit worth - later.credit worth)) :=
      keep _ _ go holds _ _ _ ran
    rwa [sub_add_sub_cancel] at total
  · show I first (tape.credit worth - tape.credit worth)
    rwa [sub_self]

/-- **The recursion rule.** -/
theorem Spends.fix {exhausted : ε} {layer : Reader ν ε α → Reader ν ε α}
    (keep : ∀ below, Spends worth below R → Spends worth (layer below) R) :
    Spends worth (fix exhausted layer) R :=
  fix_ok (fun tape value after => R value (tape.credit worth - after.credit worth)) keep

end Accounting

/-! ### Round trips -/

section RoundTrip

/-- **A reader restores a value from bytes**: it takes these and nothing else, whatever follows. -/
def Restores (read : Reader ν ε α) (bytes : List UInt8) (value : α) : Prop :=
  ∀ rest notes, ∃ taken, read ⟨bytes ++ rest, notes⟩ = (.ok value, ⟨rest, taken⟩)

variable {bytes more : List UInt8} {value : α}

theorem Restores.pure : Restores (pure value : Reader ν ε α) [] value :=
  fun _ notes => ⟨notes, rfl⟩

theorem Restores.bind {read : Reader ν ε α} {next : α → Reader ν ε β} {result : β}
    (first : Restores read bytes value) (second : Restores (next value) more result) :
    Restores (read >>= next) (bytes ++ more) result := by
  intro rest notes
  obtain ⟨taken, ran⟩ := first (more ++ rest) notes
  obtain ⟨last, returned⟩ := second rest taken
  refine ⟨last, ?_⟩
  rw [bind_apply, List.append_assoc, ran]
  exact returned

/-- The last reader of a sequence takes nothing. -/
theorem Restores.map {read : Reader ν ε α} {next : α → Reader ν ε β} {result : β}
    (first : Restores read bytes value) (second : Restores (next value) [] result) :
    Restores (read >>= next) bytes result := by
  have both := first.bind second
  rwa [List.append_nil] at both

theorem Restores.byte {incomplete : ε} (first : UInt8) :
    Restores (byte incomplete : Reader ν ε UInt8) [first] first :=
  fun _ notes => ⟨notes, rfl⟩

theorem Restores.octets {incomplete : ε} {n : ℕ} (string : Octets n) :
    Restores (octets incomplete n : Reader ν ε (Octets n)) string.1 string := by
  obtain ⟨bytes, rfl⟩ := string
  intro rest notes
  refine ⟨notes, ?_⟩
  unfold Reader.octets
  have enough : bytes.length ≤ (bytes ++ rest).length := by
    rw [List.length_append]
    exact Nat.le_add_right _ _
  rw [dif_pos enough]
  simp only [List.take_left', List.drop_left']

theorem Restores.note {entry : ν} :
    Restores (note entry (.ok ()) : Reader ν ε Unit) [] () :=
  fun _ notes => ⟨notes ++ [entry], rfl⟩

end RoundTrip

section Taken

/-- **What a reader takes**: `R` relates the value it returns to the bytes it has consumed. -/
def Takes (read : Reader ν ε α) (R : α → List UInt8 → Prop) : Prop :=
  ∀ tape value after, read tape = (.ok value, after) →
    ∃ bytes, tape.unread = bytes ++ after.unread ∧ R value bytes

variable {read : Reader ν ε α} {R T : α → List UInt8 → Prop}

theorem Takes.pure {value : α} (nothing : R value []) : Takes (pure value : Reader ν ε α) R := by
  intro tape result after returned
  obtain ⟨rfl, rfl⟩ := pure_ok.mp returned
  exact ⟨[], rfl, nothing⟩

theorem Takes.bind {next : α → Reader ν ε β} {T : β → List UInt8 → Prop} (first : Takes read R)
    (second : ∀ value bytes, R value bytes →
      Takes (next value) fun result more => T result (bytes ++ more)) :
    Takes (read >>= next) T := by
  intro tape result after returned
  obtain ⟨value, mid, ran, returned⟩ := bind_ok.mp returned
  obtain ⟨bytes, taken, holds⟩ := first tape value mid ran
  obtain ⟨more, takenNext, holdsAll⟩ := second value bytes holds mid result after returned
  refine ⟨bytes ++ more, ?_, holdsAll⟩
  rw [taken, takenNext, List.append_assoc]

theorem Takes.byte {incomplete : ε} :
    Takes (byte incomplete : Reader ν ε UInt8) fun first bytes => bytes = [first] := by
  intro tape first after returned
  exact ⟨[first], (byte_ok returned).1, rfl⟩

theorem Takes.octets {incomplete : ε} (n : ℕ) :
    Takes (octets incomplete n : Reader ν ε (Octets n)) fun string bytes => bytes = string.1 := by
  intro tape string after returned
  exact ⟨string.1, (octets_ok returned).1, rfl⟩

end Taken

end Reader

end Vanet.Library
