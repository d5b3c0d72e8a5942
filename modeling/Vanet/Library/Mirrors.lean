/-
**Readers that mirror each other.**

Two readers may take notes of different types and return values of different types. `Mirrors` says
that they go through the same bytes all the same: they return together or fail together, leave the
same bytes behind if they return, and the notes of the one are the other's in its own words.

It is derived constructor by constructor, for loops from a relation between their states
(`Mirrors.whileM`) and for recursion from one layer (`Mirrors.fix`). What is known of the values that
the first reader returns can be added (`Mirrors.gains`).
-/

import Vanet.Library.Reader

namespace Vanet.Library

variable {μ ν δ ε α β γ η σ τ : Type}

/-- The same bytes, the notes in other words and behind earlier ones. -/
def Tape.translate (see : μ → ν) (early : List ν) (tape : Tape μ) : Tape ν :=
  ⟨tape.unread, early ++ tape.notes.map see⟩

theorem Tape.translate_note (see : μ → ν) (early : List ν) (tape : Tape μ) (entry : μ) :
    (tape.note entry).translate see early = (tape.translate see early).note (see entry) := by
  unfold Tape.translate Tape.note
  rw [List.map_append, ← List.append_assoc]
  rfl

namespace Reader

theorem octets_of_le {short : δ} {n : ℕ} {tape : Tape μ} (enough : n ≤ tape.unread.length) :
    octets short n tape = (.ok ⟨tape.unread.take n, List.length_take_of_le enough⟩,
      { tape with unread := tape.unread.drop n }) :=
  dif_pos enough

theorem octets_of_lt {short : δ} {n : ℕ} {tape : Tape μ} (few : tape.unread.length < n) :
    octets short n tape = (.error short, { tape with unread := [] }) :=
  dif_neg (Nat.not_le.mpr few)

/-- The endings of two readers that mirror each other. -/
inductive Endings (see : μ → ν) (early : List ν) (R : α → β → Prop) :
    Except ε α × Tape ν → Except δ β × Tape μ → Prop
  | returned {value : α} {result : β} (tape : Tape μ) :
    R value result → Endings see early R (.ok value, tape.translate see early) (.ok result, tape)
  | failed {fault : ε} {cause : δ} {left : Tape ν} {right : Tape μ} :
    left.notes = early ++ right.notes.map see →
      Endings see early R (.error fault, left) (.error cause, right)

/-- **A reader mirrors another** on every tape, whatever has been noted before; `R` relates the values
that they return. -/
def Mirrors (see : μ → ν) (read : Reader ν ε α) (walk : Reader μ δ β) (R : α → β → Prop) : Prop :=
  ∀ (early : List ν) (tape : Tape μ), Endings see early R (read (tape.translate see early)) (walk tape)

section Rules

variable {see : μ → ν} {read : Reader ν ε α} {walk : Reader μ δ β} {R R' : α → β → Prop}

/-- The notes are the same, however the readers end. -/
theorem Mirrors.notes (mirrors : Mirrors see read walk R) (early : List ν) (tape : Tape μ) :
    (read (tape.translate see early)).2.notes = early ++ (walk tape).2.notes.map see := by
  have met := mirrors early tape
  generalize read (tape.translate see early) = ended at met ⊢
  generalize walk tape = walked at met ⊢
  cases met with
  | returned after related => rfl
  | failed same => exact same

/-- Where the one returns the other does. -/
theorem Mirrors.returned (mirrors : Mirrors see read walk R) {early : List ν} {tape : Tape μ} {value : α}
    {after : Tape ν} (ran : read (tape.translate see early) = (.ok value, after)) :
    ∃ result last, walk tape = (.ok result, last) ∧ after = last.translate see early ∧
      R value result := by
  have met := mirrors early tape
  rw [ran] at met
  generalize walk tape = walked at met ⊢
  cases met with
  | returned last related => exact ⟨_, last, rfl, rfl, related⟩

theorem Mirrors.mono (mirrors : Mirrors see read walk R)
    (weaken : ∀ value result, R value result → R' value result) : Mirrors see read walk R' := by
  intro early tape
  have met := mirrors early tape
  generalize read (tape.translate see early) = ended at met ⊢
  generalize walk tape = walked at met ⊢
  cases met with
  | returned after related => exact .returned after (weaken _ _ related)
  | failed same => exact .failed same

/-- What is known of the values that the first reader returns. -/
theorem Mirrors.gains {worth : ν → ℤ} {T : α → Prop} (mirrors : Mirrors see read walk R)
    (known : Spends worth read fun value _ => T value) :
    Mirrors see read walk fun value result => R value result ∧ T value := by
  intro early tape
  have met := mirrors early tape
  have returns := known (tape.translate see early)
  generalize read (tape.translate see early) = ended at met returns ⊢
  generalize walk tape = walked at met ⊢
  cases met with
  | returned after related => exact .returned after ⟨related, returns _ _ rfl⟩
  | failed same => exact .failed same

theorem Mirrors.pure {value : α} {result : β} (related : R value result) :
    Mirrors see (pure value : Reader ν ε α) (pure result : Reader μ δ β) R :=
  fun _ tape => .returned tape related

theorem Mirrors.fail {fault : ε} {cause : δ} :
    Mirrors see (fail fault : Reader ν ε α) (fail cause : Reader μ δ β) R :=
  fun _ _ => .failed rfl

theorem Mirrors.bind {next : α → Reader ν ε γ} {more : β → Reader μ δ η} {T : γ → η → Prop}
    (first : Mirrors see read walk R)
    (second : ∀ value result, R value result → Mirrors see (next value) (more result) T) :
    Mirrors see (read >>= next) (walk >>= more) T := by
  intro early tape
  have met := first early tape
  rw [bind_apply, bind_apply]
  generalize read (tape.translate see early) = ended at met ⊢
  generalize walk tape = walked at met ⊢
  cases met with
  | returned after related => exact second _ _ related early after
  | failed same => exact .failed same

/-- What is computed of the value at the end. -/
theorem Mirrors.map {f : α → γ} {T : γ → β → Prop} (mirrors : Mirrors see read walk R)
    (computed : ∀ value result, R value result → T (f value) result) :
    Mirrors see (read >>= fun value => Pure.pure (f value)) walk T := by
  intro early tape
  have met := mirrors early tape
  rw [bind_apply]
  generalize read (tape.translate see early) = ended at met ⊢
  generalize walk tape = walked at met ⊢
  cases met with
  | returned after related => exact .returned after (computed _ _ related)
  | failed same => exact .failed same

/-- What the other reader computes at the end. -/
theorem Mirrors.count {f : β → η} {T : α → η → Prop} (mirrors : Mirrors see read walk R)
    (computed : ∀ value result, R value result → T value (f result)) :
    Mirrors see read (walk >>= fun result => Pure.pure (f result)) T := by
  intro early tape
  have met := mirrors early tape
  rw [bind_apply]
  generalize read (tape.translate see early) = ended at met ⊢
  generalize walk tape = walked at met ⊢
  cases met with
  | returned after related => exact .returned after (computed _ _ related)
  | failed same => exact .failed same

theorem Mirrors.byte {incomplete : ε} {short : δ} :
    Mirrors see (byte incomplete : Reader ν ε UInt8) (byte short : Reader μ δ UInt8) Eq := by
  rintro early ⟨_ | ⟨first, unread⟩, notes⟩
  · exact .failed rfl
  · exact .returned ⟨unread, notes⟩ rfl

theorem Mirrors.octets {incomplete : ε} {short : δ} (n : ℕ) :
    Mirrors see (octets incomplete n : Reader ν ε (Octets n)) (octets short n : Reader μ δ (Octets n))
      Eq := by
  intro early tape
  by_cases enough : n ≤ tape.unread.length
  · rw [octets_of_le enough, octets_of_le (by exact enough)]
    exact .returned { tape with unread := tape.unread.drop n } rfl
  · have few := Nat.not_le.mp enough
    rw [octets_of_lt few, octets_of_lt (by exact few)]
    exact .failed rfl

/-- A note in both words, which decides nothing. -/
theorem Mirrors.note (entry : μ) :
    Mirrors see (note (see entry) (.ok ()) : Reader ν ε Unit) (note entry (.ok ()) : Reader μ δ Unit)
      fun _ _ => True := by
  intro early tape
  show Endings see early _ (_, (tape.translate see early).note (see entry)) _
  rw [← Tape.translate_note]
  exact .returned _ trivial

/-- A note in both words, with one verdict. -/
theorem Mirrors.check (entry : μ) {fault : ε} {cause : δ} {holds good : Prop} [Decidable holds]
    [Decidable good] (same : holds ↔ good) :
    Mirrors see (Reader.note (see entry) (if holds then .ok () else .error fault) : Reader ν ε Unit)
      (Reader.note entry (if good then .ok () else .error cause) : Reader μ δ Unit) fun _ _ => good := by
  intro early tape
  show Endings see early _ (_, (tape.translate see early).note (see entry)) (_, tape.note entry)
  rw [← Tape.translate_note]
  by_cases good' : good
  · rw [if_pos (same.mpr good'), if_pos good']
    exact .returned _ good'
  · rw [if_neg fun holds' => good' (same.mp holds'), if_neg good']
    exact .failed rfl

/-- **The loop rule**: `S` relates the states of the two loops, whose guards agree. -/
theorem Mirrors.whileM {exhausted : ε} {late : δ} {guard : σ → Bool} {goes : τ → Bool}
    {body : σ → Reader ν ε σ} {round : τ → Reader μ δ τ} {first : σ} {start : τ} (S : σ → τ → Prop)
    (begins : S first start) (same : ∀ state place, S state place → guard state = goes place)
    (keep : ∀ state place, goes place = true → S state place →
      Mirrors see (body state) (round place) S) :
    Mirrors see (whileM exhausted guard body first) (whileM late goes round start)
      fun last place => S last place ∧ goes place = false := by
  intro early tape
  show Endings see early _ (whileRounds exhausted guard body (tape.left + 1) first (tape.translate see early))
    (whileRounds late goes round (tape.left + 1) start tape)
  generalize tape.left + 1 = rounds
  induction rounds generalizing first start tape with
  | zero =>
    unfold whileRounds
    rw [same _ _ begins]
    by_cases go : goes start = true
    · rw [if_pos go, if_pos go]
      exact .failed rfl
    · rw [if_neg go, if_neg go]
      exact .returned tape ⟨begins, eq_false_of_ne_true go⟩
  | succ rounds ih =>
    unfold whileRounds
    rw [same _ _ begins]
    by_cases go : goes start = true
    · rw [if_pos go, if_pos go, bind_apply, bind_apply]
      have met := keep _ _ go begins early tape
      generalize body first (tape.translate see early) = ended at met ⊢
      generalize round start tape = walked at met ⊢
      cases met with
      | returned after related => exact ih related after
      | failed same => exact .failed same
    · rw [if_neg go, if_neg go]
      exact .returned tape ⟨begins, eq_false_of_ne_true go⟩

/-- **The recursion rule**: every layer mirrors the other's if what is below does. -/
theorem Mirrors.fix {exhausted : ε} {late : δ} {layer : Reader ν ε α → Reader ν ε α}
    {floor : Reader μ δ β → Reader μ δ β}
    (keep : ∀ below under, Mirrors see below under R → Mirrors see (layer below) (floor under) R) :
    Mirrors see (fix exhausted layer) (fix late floor) R := by
  have every : ∀ depth, Mirrors see (nest exhausted layer depth) (nest late floor depth) R := by
    intro depth
    induction depth with
    | zero => exact .fail
    | succ depth ih => exact keep _ _ ih
  exact fun early tape => every (tape.left + 1) early tape

/-! ### Readers of a fixed number of bytes -/

/-- Reading so many bytes is reading some of them and then the others. -/
theorem octets_add {short : δ} (m n : ℕ) (more : Reader μ δ β) :
    (octets short (m + n) >>= fun _ => more) =
      octets short m >>= fun _ => octets short n >>= fun _ => more := by
  funext tape
  by_cases some : m ≤ tape.unread.length
  · have behind : (tape.unread.drop m).length = tape.unread.length - m := List.length_drop
    by_cases enough : m + n ≤ tape.unread.length
    · rw [Action.bind_of_ok (octets_of_le enough), Action.bind_of_ok (octets_of_le some),
        Action.bind_of_ok (octets_of_le (by simp only [behind]; omega))]
      simp only [List.drop_drop]
    · rw [Action.bind_of_error (octets_of_lt (Nat.not_le.mp enough)),
        Action.bind_of_ok (octets_of_le some),
        Action.bind_of_error (octets_of_lt (by simp only [behind]; omega))]
  · rw [Action.bind_of_error (octets_of_lt (by omega)),
      Action.bind_of_error (octets_of_lt (Nat.not_le.mp some))]

/-- The reader mirrors one of `n` bytes. -/
abbrev Plain (see : μ → ν) (short : δ) (n : ℕ) (read : Reader ν ε α) : Prop :=
  Mirrors see read (octets short n : Reader μ δ (Octets n)) fun _ _ => True

variable {short : δ} {m n : ℕ}

theorem Plain.octets {incomplete : ε} (n : ℕ) :
    Plain see short n (Reader.octets incomplete n : Reader ν ε (Octets n)) :=
  (Mirrors.octets n).mono fun _ _ _ => trivial

/-- What is computed of the bytes at the end. -/
theorem Plain.map {f : α → γ} (plain : Plain see short n read) :
    Plain see short n (read >>= fun value => Pure.pure (f value)) :=
  Mirrors.map plain fun _ _ _ => trivial

/-- A part of the bytes that the other reader reads at once. -/
theorem Mirrors.part {next : α → Reader ν ε γ} {more : Reader μ δ η} {T : γ → η → Prop}
    (first : Plain see short m read)
    (second : ∀ value, Mirrors see (next value) (Reader.octets short n >>= fun _ => more) T) :
    Mirrors see (read >>= next) (Reader.octets short (m + n) >>= fun _ => more) T := by
  rw [octets_add]
  exact .bind first fun value _ _ => second value

theorem Plain.bind {next : α → Reader ν ε γ} (first : Plain see short m read)
    (second : ∀ value, Plain see short n (next value)) : Plain see short (m + n) (read >>= next) := by
  have parts : Mirrors see (read >>= next)
      (Reader.octets short (m + n) >>= fun _ => (Pure.pure () : Reader μ δ Unit)) fun _ _ => True :=
    .part first fun value => (second value).count fun _ _ _ => trivial
  intro early tape
  have met := parts early tape
  rw [bind_apply (Reader.octets short (m + n))] at met
  generalize (read >>= next) (tape.translate see early) = ended at met ⊢
  generalize Reader.octets short (m + n) tape = walked at met ⊢
  rcases walked with ⟨_ | _, after⟩
  · cases met with
    | failed same => exact .failed same
  · cases met with
    | returned after related => exact .returned after trivial

theorem Plain.byte {incomplete : ε} : Plain see short 1 (Reader.byte incomplete : Reader ν ε UInt8) := by
  rintro early ⟨_ | ⟨first, unread⟩, notes⟩
  · exact .failed rfl
  · exact .returned ⟨unread, notes⟩ trivial

end Rules

end Reader

end Vanet.Library
