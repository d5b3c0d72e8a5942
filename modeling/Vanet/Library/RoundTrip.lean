/-
**Readers that restore a value or miss it.**

`RestoresIff` says on what it depends whether a reader restores a value from its bytes: it does if `P`
holds, and if not, whatever it returns from these bytes is something else.

The rules follow the constructors of readers. A sequence restores its result if its parts restore
theirs, provided that the result shows what the parts have returned. A loop restores a list if its guard
lets it read every element and stops it behind the last one (`Passes`).
-/

import Vanet.Library.Reader

namespace Vanet.Library

variable {ν ε α β κ : Type}

namespace Reader

/-- Whatever the reader returns has the property. -/
def Yields (read : Reader ν ε α) (Q : α → Prop) : Prop :=
  ∀ tape result after, read tape = (.ok result, after) → Q result

/-- **A reader misses**: whatever it returns from the bytes, and from those behind them, lacks the
property. -/
def Misses (read : Reader ν ε α) (bytes : List UInt8) (Q : α → Prop) : Prop :=
  ∀ rest notes result after, read ⟨bytes ++ rest, notes⟩ = (.ok result, after) → ¬ Q result

/-- **Whether a reader restores a result** is up to `P`: without it, the reader returns nothing that has
the property `Q`. -/
structure RestoresIff (read : Reader ν ε α) (bytes : List UInt8) (result : α) (Q : α → Prop)
    (P : Prop) : Prop where
  restores : P → Restores read bytes result
  misses : ¬ P → Misses read bytes Q

section Yields

variable {Q : α → Prop} {T : β → Prop}

theorem Yields.pure {value : α} (holds : Q value) : Yields (pure value : Reader ν ε α) Q := by
  intro tape result after returned
  obtain ⟨rfl, _⟩ := pure_ok.mp returned
  exact holds

/-- Only the last reader of a sequence matters. -/
theorem Yields.bind {read : Reader ν ε α} {next : α → Reader ν ε β}
    (every : ∀ value, Yields (next value) T) : Yields (read >>= next) T := by
  intro tape result after returned
  obtain ⟨value, mid, _, returned⟩ := bind_ok.mp returned
  exact every value mid result after returned

end Yields

section Rules

variable {bytes more : List UInt8} {value : α} {Q : α → Prop} {T : β → Prop} {P P' : Prop}
variable {read : Reader ν ε α} {next : α → Reader ν ε β} {result : β}

theorem Restores.always (restores : Restores read bytes value) :
    RestoresIff read bytes value Q True :=
  ⟨fun _ => restores, fun never => absurd trivial never⟩

theorem RestoresIff.congr (decides : RestoresIff read bytes value Q P) (same : P ↔ P') :
    RestoresIff read bytes value Q P' :=
  ⟨fun holds => decides.restores (same.mpr holds),
    fun fails => decides.misses fun holds => fails (same.mp holds)⟩

/-- A reader that restores its value leaves the decision to the next one. -/
theorem RestoresIff.after (first : Restores read bytes value)
    (second : RestoresIff (next value) more result T P) :
    RestoresIff (read >>= next) (bytes ++ more) result T P := by
  refine ⟨fun holds => first.bind (second.restores holds), ?_⟩
  intro fails rest notes found after returned
  rw [List.append_assoc] at returned
  obtain ⟨taken, ran⟩ := first (more ++ rest) notes
  rw [bind_apply, ran] at returned
  exact second.misses fails rest taken found after returned

/-- **Sequencing**: what the second reader makes of a wrong value is wrong. -/
theorem RestoresIff.bind (first : RestoresIff read bytes value Q P)
    (faithful : ∀ other, Yields (next other) fun result => T result → Q other)
    (second : RestoresIff (next value) more result T P') :
    RestoresIff (read >>= next) (bytes ++ more) result T (P ∧ P') := by
  refine ⟨fun holds => (first.restores holds.1).bind (second.restores holds.2), ?_⟩
  intro fails
  by_cases holds : P
  · exact (RestoresIff.after (first.restores holds) second).misses fun holds' => fails ⟨holds, holds'⟩
  · intro rest notes found after returned wanted
    rw [List.append_assoc] at returned
    obtain ⟨other, mid, ran, returned⟩ := bind_ok.mp returned
    exact first.misses holds _ _ _ _ ran (faithful other mid found after returned wanted)

theorem RestoresIff.before (first : RestoresIff read bytes value Q P)
    (faithful : ∀ other, Yields (next other) fun result => T result → Q other)
    (second : Restores (next value) more result) :
    RestoresIff (read >>= next) (bytes ++ more) result T P :=
  (first.bind faithful second.always).congr (iff_of_eq (and_true P))

/-- A reader that does not return anything wrong: it fails instead. -/
theorem RestoresIff.orFail (first : RestoresIff read bytes value (fun _ => True) P)
    (second : RestoresIff (next value) more result T P') :
    RestoresIff (read >>= next) (bytes ++ more) result T (P ∧ P') :=
  first.bind (fun _ _ _ _ _ _ => trivial) second

theorem RestoresIff.orFailBefore (first : RestoresIff read bytes value (fun _ => True) P)
    (second : Restores (next value) more result) :
    RestoresIff (read >>= next) (bytes ++ more) result T P :=
  first.before (fun _ _ _ _ _ _ => trivial) second

/-- The last reader of a sequence takes nothing, but it may decide. -/
theorem RestoresIff.last (first : RestoresIff read bytes value Q P)
    (faithful : ∀ other, Yields (next other) fun result => T result → Q other)
    (second : RestoresIff (next value) [] result T P') :
    RestoresIff (read >>= next) bytes result T (P ∧ P') := by
  have both := first.bind faithful second
  rwa [List.append_nil] at both

theorem RestoresIff.map (first : RestoresIff read bytes value Q P)
    (faithful : ∀ other, Yields (next other) fun result => T result → Q other)
    (second : Restores (next value) [] result) :
    RestoresIff (read >>= next) bytes result T P := by
  have both := first.before faithful second
  rwa [List.append_nil] at both

/-- **Recursion**: there is enough depth for as many layers as there are bytes. -/
theorem RestoresIff.fix {exhausted : ε} {layer : Reader ν ε α → Reader ν ε α}
    (every : ∀ depth, bytes.length < depth →
      RestoresIff (nest exhausted layer depth) bytes value Q P) :
    RestoresIff (fix exhausted layer) bytes value Q P := by
  have deep : ∀ rest (notes : List ν), bytes.length < (⟨bytes ++ rest, notes⟩ : Tape ν).left + 1 := by
    intro rest notes
    show bytes.length < (bytes ++ rest).length + 1
    rw [List.length_append]
    omega
  exact ⟨fun holds rest notes => (every _ (deep rest notes)).restores holds rest notes,
    fun fails rest notes => (every _ (deep rest notes)).misses fails rest notes⟩

end Rules

/-! ### Loops over a list -/

section Loop

variable (guard : κ → Bool) (advance : κ → α → κ) (P : κ → α → Prop)

/-- **A loop passes a list**: from the count it reads each of the elements, for which `P` holds, and
stops behind the last one. -/
def Passes : κ → List α → Prop
  | count, [] => guard count = false
  | count, element :: list =>
    guard count = true ∧ P count element ∧ Passes (advance count element) list

variable {guard advance P} {exhausted : ε} {body : List α × κ → Reader ν ε (List α × κ)}
  {encode : α → List UInt8} {target : List α}

theorem Passes.holds {count : κ} (passes : Passes guard advance P count target) :
    ∀ element ∈ target, ∃ now, P now element := by
  induction target generalizing count with
  | nil => exact fun _ member => absurd member List.not_mem_nil
  | cons first todo ih =>
    obtain ⟨_, holds, passes⟩ := passes
    intro element member
    rcases List.mem_cons.mp member with rfl | later
    · exact ⟨count, holds⟩
    · exact ih passes element later

theorem Passes.restores (nonempty : ∀ element ∈ target, encode element ≠ [])
    (each : ∀ element ∈ target, ∀ list count, P count element →
      Restores (body (list, count)) (encode element) (list ++ [element], advance count element))
    {count : κ} (passes : Passes guard advance P count target) (list : List α) :
    Restores (whileM exhausted (fun state => guard state.2) body (list, count))
      (target.flatMap encode) (list ++ target, target.foldl advance count) := by
  have every : ∀ rounds rest notes, (target.flatMap encode).length < rounds → ∃ taken,
      whileRounds exhausted (fun state => guard state.2) body rounds (list, count)
        ⟨target.flatMap encode ++ rest, notes⟩ =
          (.ok (list ++ target, target.foldl advance count), ⟨rest, taken⟩) := by
    induction target generalizing list count with
    | nil =>
      intro rounds rest notes enough
      obtain ⟨fewer, rfl⟩ := Nat.exists_eq_succ_of_ne_zero (Nat.ne_zero_of_lt enough)
      have stop : ¬ guard count = true := Bool.not_eq_true _ ▸ passes
      refine ⟨notes, ?_⟩
      unfold whileRounds
      rw [if_neg stop, List.append_nil]
      rfl
    | cons element todo ih =>
      intro rounds rest notes enough
      obtain ⟨fewer, rfl⟩ := Nat.exists_eq_succ_of_ne_zero (Nat.ne_zero_of_lt enough)
      obtain ⟨go, holds, passes⟩ := passes
      have some := List.length_pos_iff.mpr (nonempty element List.mem_cons_self)
      rw [List.flatMap_cons, List.length_append] at enough
      obtain ⟨mid, ran⟩ := each element List.mem_cons_self list count holds
        (todo.flatMap encode ++ rest) notes
      obtain ⟨taken, returned⟩ := ih (fun other member => nonempty other (List.mem_cons_of_mem _ member))
        (fun other member => each other (List.mem_cons_of_mem _ member)) passes (list ++ [element])
        fewer rest mid (by omega)
      refine ⟨taken, ?_⟩
      unfold whileRounds
      rw [if_pos go, List.flatMap_cons, List.append_assoc, bind_apply, ran]
      rw [List.append_assoc] at returned
      exact returned
  intro rest notes
  refine every _ rest notes ?_
  show (target.flatMap encode).length < (target.flatMap encode ++ rest).length + 1
  rw [List.length_append]
  omega

/-- **The loop rule**: `each` decides for the element that comes next. -/
theorem RestoresIff.loop (guard : κ → Bool) (nonempty : ∀ element ∈ target, encode element ≠ [])
    (grows : ∀ state, Yields (body state) fun next => ∃ element, next.1 = state.1 ++ [element])
    (each : ∀ element ∈ target, ∀ list count, RestoresIff (body (list, count)) (encode element)
      (list ++ [element], advance count element) (fun next => next.1 = list ++ [element])
      (P count element)) (count : κ) :
    RestoresIff (whileM exhausted (fun state => guard state.2) body ([], count))
      (target.flatMap encode) (target, target.foldl advance count) (fun last => last.1 = target)
      (Passes guard advance P count target) := by
  refine ⟨fun passes => passes.restores nonempty
    (fun element member list count => (each element member list count).restores) [], ?_⟩
  intro fails rest notes last after returned wanted
  -- As long as the list is the beginning of the target, the loop stands in front of the rest of it.
  have along := whileM_ok
    (fun state now => ∀ todo, target = state.1 ++ todo → now.unread = todo.flatMap encode ++ rest ∧
      (Passes guard advance P state.2 todo → Passes guard advance P count target))
    ?_ ?_ returned
  · obtain ⟨along, stop⟩ := along
    obtain ⟨_, back⟩ := along [] (by rw [wanted, List.append_nil])
    exact fails (back stop)
  · rintro ⟨list, now⟩ tape next mid go along ran todo split
    obtain ⟨element, grown⟩ := grows _ _ _ _ ran
    rw [grown, List.append_assoc] at split
    obtain ⟨stands, back⟩ := along (element :: todo) split
    have member : element ∈ target := by
      rw [split]
      exact List.mem_append_right _ List.mem_cons_self
    rw [List.flatMap_cons, List.append_assoc] at stands
    obtain ⟨unread, taken⟩ := tape
    subst stands
    have decides := each element member list now
    by_cases holds : P now element
    · obtain ⟨left, restored⟩ := decides.restores holds (todo.flatMap encode ++ rest) taken
      rw [restored] at ran
      cases ran
      exact ⟨rfl, fun passes => back ⟨go, holds, passes⟩⟩
    · exact absurd grown (decides.misses holds _ _ _ _ ran)
  · intro todo split
    rw [List.nil_append] at split
    subst split
    exact ⟨rfl, id⟩

end Loop

end Reader

end Vanet.Library
