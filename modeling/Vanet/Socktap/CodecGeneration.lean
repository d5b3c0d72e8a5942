/-
**The order in which the JSON functions are generated.**

`asn1json.py` collects the types of its ASN.1 files and prints each of them once the types of its members
have been printed, pass after pass over the collected types. It stops when the number of names that have
been printed has a certain value, which is ten too small.

* `emitPass_eq`: a pass prints what can be printed, or ends with an exception.
* `emits_iff`: what the passes print up to the exit.
* `generates_iff`: exactly when the generation is complete.
-/

import Mathlib.Data.List.Dedup
import Vanet.Library.Passes

namespace Vanet.Socktap

open Vanet.Library

/-! ### The types of the files -/

/-- `default_types`. -/
def defaultTypes : List String := ["INTEGER", "BOOLEAN", "ENUMERATED", "BIT STRING", "IA5String",
  "SEQUENCE", "OCTET STRING", "SEQUENCE OF", "UTF8String", "NumericString", "CHOICE"]

/-- `printed`, as it is at the start. -/
def prePrinted : List String := ["PhoneNumber", "VehicleHeight", "PreemptPriorityList", "WMInumber",
  "VDS", "RegionalExtension", "TemporaryID", "DescriptiveName", "MessageFrame", "OpeningDaysHours"]

/-- `ignore_member_names`. -/
def ignoreMemberNames : List String := ["regional", "shadowingApplies", "expiryTime", "validityDuration"]

/-- `ignore_member_types`. -/
def ignoreMemberTypes : List String := ["PhoneNumber", "OpeningDaysHours", "MessageFrame",
  "DescriptiveName", "RegionalExtension", "Iso3833VehicleType", "REG-EXT-ID-AND-TYPE.&id",
  "REG-EXT-ID-AND-TYPE.&Type", "MESSAGE-ID-AND-TYPE.&id", "MESSAGE-ID-AND-TYPE.&Type",
  "PreemptPriorityList", "WMInumber", "VDS", "TemporaryID"]

/-- An alternative of a CHOICE. -/
structure Alternative where
  name : String
  type : String
  deriving DecidableEq

/-- A member, with the alternatives of an inline CHOICE. An extension marker is `none`. -/
structure Member where
  name : String
  type : String
  alternatives : List (Option Alternative)
  deriving DecidableEq

/-- A definition, with what its type has of it. -/
structure Definition where
  type : String
  members : List (Option Member)
  element : String
  deriving DecidableEq

/-- An entry of `asn1_types`: the types of its members, unless it is an `ASN1TODO`. -/
structure Entry where
  name : String
  type : String
  members : Option (List String)
  deriving DecidableEq

/-- `asn1_types` and `basic`. -/
structure Collected where
  entries : List Entry
  basic : List String
  deriving DecidableEq

/-- The member after `parse_type` has named its inline CHOICE. -/
def Member.renamed (typeName : String) (m : Member) : Member :=
  if m.type = "CHOICE" then { m with type := typeName ++ "::" ++ (typeName ++ "__" ++ m.name) } else m

/-- `ASN1Sequence`. -/
def asn1Sequence (name : String) (members : List (Option Member)) : Entry where
  name := name
  type := "SEQUENCE"
  members := some (((members.filterMap id).filter fun m =>
    m.type ∉ ignoreMemberTypes ∧ m.name ∉ ignoreMemberNames).map Member.type)

/-- `ASN1Choice`. -/
def asn1Choice (name : String) (members : List (Option Alternative)) : Entry where
  name := name
  type := "CHOICE"
  members := some (((members.filterMap id).filter fun m =>
    m.type ∉ "TimestampIts" :: ignoreMemberTypes ∧ m.name ∉ ignoreMemberNames).map Alternative.type)

/-- The entry of an inline CHOICE. -/
def inlineChoice (typeName : String) (m : Member) : Option Entry :=
  if m.type = "CHOICE" then
    some (asn1Choice (typeName ++ "::" ++ (typeName ++ "__" ++ m.name)) m.alternatives)
  else none

/-- The types that become an `ASN1TODO`. -/
def todoTypes : List String :=
  ["OCTET STRING", "NumericString", "UTF8String", "IA5String", "NodeOffsetPointXY", "NodeOffsetPointZ"]

/-- `parse_type`. -/
def parseType (collected : Collected) (typeName : String) (asn1Type : Definition) : Collected :=
  let append (entries : List Entry) := { collected with entries := collected.entries ++ entries }
  if asn1Type.type = "SEQUENCE" then
    let members := asn1Type.members.map (Option.map (Member.renamed typeName))
    append ((asn1Type.members.filterMap id).filterMap (inlineChoice typeName) ++
      [asn1Sequence typeName members])
  else if asn1Type.type = "CHOICE" then
    let alternatives := asn1Type.members.map (Option.map fun m => (⟨m.name, m.type⟩ : Alternative))
    append [asn1Choice typeName alternatives]
  else if asn1Type.type = "SEQUENCE OF" then
    append [⟨typeName, "SEQUENCE OF", some [asn1Type.element]⟩]
  else if asn1Type.type = "BIT STRING" then
    append [⟨typeName, "BIT STRING", some []⟩]
  else if asn1Type.type ∈ todoTypes then
    append [⟨typeName, asn1Type.type, none⟩]
  else { collected with basic := collected.basic ++ [typeName] }

/-- The definitions of the files, in their order. -/
abbrev Files := List (List (String × Definition))

/-- The collection loop. -/
def collect (files : Files) : Collected :=
  files.flatten.foldl (fun collected one => parseType collected one.1 one.2) ⟨[], []⟩

/-! ### The emission loop -/

/-- The types that are printed without a look at the members. -/
def leafTypes : List String :=
  ["BIT STRING", "OCTET STRING", "NumericString", "UTF8String", "IA5String", "CLASS"]

/-- `AttributeError`: an `ASN1TODO` has no members. -/
inductive GenerationFault
  | noMembers
  deriving DecidableEq

/-- The types of the members that are not default types. -/
def Entry.needs (t : Entry) : List String :=
  if t.type ∈ leafTypes then [] else (t.members.getD []).filter (· ∉ defaultTypes)

/-- Whether an entry can be printed. -/
def isReady (printed : List String) (t : Entry) : Except GenerationFault Bool :=
  if t.type ∈ leafTypes then .ok true
  else
    match t.members with
    | none => .error .noMembers
    | some members => .ok (members.all (· ∈ printed ++ defaultTypes))

/-- The for loop: what is printed, and the names that have been printed. -/
def emitPass (printed : List String) : List Entry → Except GenerationFault (List Entry × List String)
  | [] => .ok ([], printed)
  | t :: rest =>
    if t.name ∈ printed then emitPass printed rest
    else do
      if ← isReady printed t then
        let (output, printed) ← emitPass (printed ++ [t.name]) rest
        .ok (t :: output, printed)
      else emitPass printed rest

/-- The while loop, from some printed names to its exit. `b` is the number of names that have been
printed before the loop. -/
inductive Emits (entries : List Entry) (b : ℕ) : List String → List Entry → Prop
  | exit {printed : List String} : printed.length + prePrinted.length = entries.length + b →
    Emits entries b printed []
  | loop {printed after : List String} {output further : List Entry} :
    printed.length + prePrinted.length ≠ entries.length + b →
    emitPass printed entries = .ok (output, after) → Emits entries b after further →
    Emits entries b printed (output ++ further)

namespace Collected

/-- `printed`, when the loop is entered. -/
def printed (collected : Collected) : List String := prePrinted ++ collected.basic

/-- The loop ends with this output. -/
def Prints (collected : Collected) (output : List Entry) : Prop :=
  Emits collected.entries collected.printed.length collected.printed output

/-- The names of the collected types that are not pre-printed. -/
def names (collected : Collected) : List String :=
  ((collected.entries.map Entry.name).filter (· ∉ prePrinted)).dedup

/-- **A complete generation**: it ends, prints each collected type that is not pre-printed exactly once,
and that after the types of its members. -/
def Complete (collected : Collected) : Prop :=
  ∃ output, collected.Prints output ∧ (output.map Entry.name).Nodup ∧
    (∀ name, name ∈ output.map Entry.name ↔ name ∈ collected.names) ∧
    ∀ before t after, output = before ++ t :: after →
      ∀ need ∈ t.needs, need ∈ collected.printed ++ before.map Entry.name

/-- The types of the members are defined, default or pre-printed ones. -/
def Resolves (collected : Collected) : Prop :=
  ∀ t ∈ collected.entries, ∀ need ∈ t.needs,
    need ∈ collected.printed ∨ need ∈ collected.entries.map Entry.name

/-- No type depends on itself. -/
def Acyclic (collected : Collected) : Prop :=
  ∀ name, ¬ Relation.TransGen (Depends Entry.name Entry.needs collected.entries) name name

end Collected

/-! ### One pass -/

variable {printed : List String} {entries : List Entry}

/-- An `ASN1TODO` whose members would be looked at. -/
def Entry.Faulty (t : Entry) : Prop := t.type ∉ leafTypes ∧ t.members = none

/-- What a pass can print. -/
abbrev printable (printed : List String) (entries : List Entry) : List Entry :=
  passOver Entry.name Entry.needs printed entries

/-- **There is no look at absent members**: the name is available from the entries in front of it. -/
def Covered (printed : List String) (entries : List Entry) : Prop :=
  ∀ before t after, entries = before ++ t :: after → t.Faulty →
    Available Entry.name Entry.needs printed before t.name

theorem covered_iff : Covered printed entries ↔ ∀ before t after, entries = before ++ t :: after → t.Faulty →
    t.name ∈ printed ++ (printable printed before).map Entry.name := by
  unfold Covered printable
  simp only [available_iff]

theorem isReady_eq {t : Entry} (sound : ¬ t.Faulty) :
    isReady printed t = .ok (decide (∀ need ∈ t.needs, need ∈ printed)) := by
  unfold isReady Entry.needs
  by_cases leaf : t.type ∈ leafTypes
  · rw [if_pos leaf, if_pos leaf]
    simp
  · rw [if_neg leaf, if_neg leaf]
    cases members : t.members with
    | none => exact absurd ⟨leaf, members⟩ sound
    | some types =>
      dsimp only
      congr 1
      rw [Bool.eq_iff_iff, List.all_eq_true, decide_eq_true_iff]
      simp only [decide_eq_true_eq, Option.getD_some, List.mem_filter, List.mem_append]
      refine forall_congr' fun type => ?_
      constructor
      · rintro known ⟨member, special⟩
        exact (known member).resolve_right special
      · intro known member
        by_cases special : type ∈ defaultTypes
        · exact .inr special
        · exact .inl (known ⟨member, special⟩)

theorem covered_cons {t : Entry} {rest : List Entry} :
    Covered printed (t :: rest) ↔ (t.Faulty → t.name ∈ printed) ∧
      Covered (if Ready Entry.name Entry.needs printed t then printed ++ [t.name] else printed) rest := by
  have later (before : List Entry) :
      printed ++ (printable printed (t :: before)).map Entry.name =
        (if Ready Entry.name Entry.needs printed t then printed ++ [t.name] else printed) ++
          (printable (if Ready Entry.name Entry.needs printed t then printed ++ [t.name] else printed)
            before).map Entry.name := by
    unfold printable
    rw [passOver]
    split_ifs
    · rw [List.map_cons, List.append_assoc, List.singleton_append]
    · rfl
  rw [covered_iff, covered_iff]
  constructor
  · intro covered
    refine ⟨fun faulty => ?_, fun before other after split faulty => ?_⟩
    · have first := covered [] t rest rfl faulty
      rwa [show printable printed [] = [] from rfl, List.map_nil, List.append_nil] at first
    · rw [← later]
      exact covered (t :: before) other after (by rw [split, List.cons_append]) faulty
  · rintro ⟨first, covered⟩ before other after split faulty
    cases before with
    | nil =>
      obtain ⟨rfl, rfl⟩ := List.cons.inj split
      exact List.mem_append_left _ (first faulty)
    | cons earlier before =>
      obtain ⟨rfl, rfl⟩ := List.cons.inj split
      rw [later]
      exact covered before other after rfl faulty

/-- **What a pass prints.** -/
theorem emitPass_eq (covered : Covered printed entries) :
    emitPass printed entries =
      .ok (printable printed entries, printed ++ (printable printed entries).map Entry.name) := by
  induction entries generalizing printed with
  | nil =>
    show Except.ok ([], printed) = .ok ([], printed ++ [])
    rw [List.append_nil]
  | cons t rest ih =>
    obtain ⟨first, covered⟩ := covered_cons.mp covered
    unfold emitPass printable
    rw [passOver]
    by_cases old : t.name ∈ printed
    · have unready : ¬ Ready Entry.name Entry.needs printed t := fun ready => ready.1 old
      rw [if_neg unready] at covered ⊢
      rw [if_pos old]
      exact ih covered
    · rw [if_neg old, isReady_eq (mt first old)]
      by_cases needs : ∀ need ∈ t.needs, need ∈ printed
      · have ready : Ready Entry.name Entry.needs printed t := ⟨old, needs⟩
        rw [if_pos ready] at covered ⊢
        rw [decide_eq_true needs]
        show (emitPass (printed ++ [t.name]) rest >>= _) = _
        rw [ih covered]
        show Except.ok (t :: _, _) = _
        rw [List.map_cons, List.append_assoc, List.singleton_append]
      · have unready : ¬ Ready Entry.name Entry.needs printed t := fun ready => needs ready.2
        rw [if_neg unready] at covered ⊢
        rw [decide_eq_false needs]
        exact ih covered

/-- **A pass that is not covered** ends with an exception. -/
theorem covered_of_emitPass {result : List Entry × List String}
    (done : emitPass printed entries = .ok result) : Covered printed entries := by
  induction entries generalizing printed result with
  | nil =>
    intro before t after split
    cases before <;> cases split
  | cons t rest ih =>
    rw [covered_cons]
    unfold emitPass at done
    by_cases old : t.name ∈ printed
    · rw [if_pos old] at done
      have unready : ¬ Ready Entry.name Entry.needs printed t := fun ready => ready.1 old
      rw [if_neg unready]
      exact ⟨fun _ => old, ih done⟩
    · rw [if_neg old] at done
      by_cases faulty : t.Faulty
      · unfold isReady at done
        rw [if_neg faulty.1, faulty.2] at done
        cases done
      · rw [isReady_eq faulty] at done
        refine ⟨fun wrong => absurd wrong faulty, ?_⟩
        by_cases needs : ∀ need ∈ t.needs, need ∈ printed
        · have ready : Ready Entry.name Entry.needs printed t := ⟨old, needs⟩
          rw [if_pos ready]
          rw [decide_eq_true needs] at done
          cases further : emitPass (printed ++ [t.name]) rest with
          | ok result => exact ih further
          | error fault =>
            have failed : (emitPass (printed ++ [t.name]) rest >>= fun _ => _) = Except.ok _ := done
            rw [further] at failed
            cases failed
        · have unready : ¬ Ready Entry.name Entry.needs printed t := fun ready => needs ready.2
          rw [if_neg unready]
          rw [decide_eq_false needs] at done
          exact ih done

/-! ### The passes up to the exit -/

/-- After a pass, no later one looks at absent members. -/
theorem Covered.after (covered : Covered printed entries) :
    Covered (printed ++ (printable printed entries).map Entry.name) entries := by
  intro before t rest split faulty
  have early := (covered before t rest split faulty).append (t :: rest)
  rw [← split, available_iff] at early
  exact .old early

/-- **What is printed up to the exit**: legal, collected, and of the number that the exit asks for. -/
theorem Emits.spec {b : ℕ} {output : List Entry} (emits : Emits entries b printed output) :
    Legal Entry.name Entry.needs printed output ∧ output ⊆ entries ∧
      printed.length + output.length + prePrinted.length = entries.length + b := by
  induction emits with
  | exit done => exact ⟨trivial, List.nil_subset _, done⟩
  | @loop printed after output further _ passed _ ih =>
    obtain ⟨legal, subset, count⟩ := ih
    have covered := covered_of_emitPass passed
    rw [emitPass_eq covered] at passed
    obtain ⟨rfl, rfl⟩ := Prod.mk.inj (Except.ok.inj passed)
    refine ⟨legal_append.mpr ⟨legal_passOver printed entries, legal⟩, List.append_subset.mpr
      ⟨(passOver_sublist printed entries).subset, subset⟩, ?_⟩
    rw [List.length_append, List.length_map] at count
    rw [List.length_append]
    omega

/-- **The loop ends with every unknown name printed**, if the exit asks for as many. -/
theorem exists_emits {b : ℕ} {unknown : List String} (covered : Covered printed entries)
    (acyclic : ∀ name, ¬ Relation.TransGen (Depends Entry.name Entry.needs entries) name name)
    (resolves : ∀ t ∈ entries, ∀ need ∈ t.needs, need ∈ printed ∨ need ∈ entries.map Entry.name)
    (nodup : unknown.Nodup)
    (names : ∀ name, name ∈ unknown ↔ name ∈ entries.map Entry.name ∧ name ∉ printed)
    (count : printed.length + unknown.length + prePrinted.length = entries.length + b) :
    ∃ output, Emits entries b printed output := by
  induction size : unknown.length using Nat.strong_induction_on generalizing printed unknown with
  | _ size ih =>
    by_cases exit : printed.length + prePrinted.length = entries.length + b
    · exact ⟨[], .exit exit⟩
    have some : unknown ≠ [] := by
      rintro rfl
      exact exit (by simpa using count)
    obtain ⟨name, member⟩ := List.exists_mem_of_ne_nil unknown some
    obtain ⟨defined, fresh⟩ := (names name).mp member
    obtain ⟨t, among, rfl⟩ := List.mem_map.mp defined
    obtain ⟨other, inside, ready⟩ := exists_ready acyclic resolves among fresh
    have taken : printable printed entries ≠ [] := passOver_ne_nil inside ready
    have legal : Legal Entry.name Entry.needs printed (printable printed entries) := legal_passOver printed entries
    obtain ⟨distinct, new⟩ := legal.nodup
    have subset : (printable printed entries).map Entry.name ⊆ unknown := by
      intro one printedNow
      obtain ⟨entry, here, rfl⟩ := List.mem_map.mp printedNow
      exact (names _).mpr ⟨List.mem_map_of_mem ((passOver_sublist printed entries).subset here),
        new _ printedNow⟩
    let now := (printable printed entries).map Entry.name
    let remaining := unknown.filter (· ∉ now)
    have positive : 0 < now.length := by
      rw [List.length_map]
      exact List.length_pos_iff.mpr taken
    have fewer : now.length + remaining.length = unknown.length := by
      have here : (unknown.filter (· ∈ now)).Perm now :=
        (List.perm_ext_iff_of_nodup (nodup.filter _) distinct).mpr fun one => by
          rw [List.mem_filter, decide_eq_true_iff]
          exact and_iff_right_of_imp fun printedNow => subset printedNow
      have parts := List.length_eq_length_filter_add (l := unknown) (· ∈ now)
      rw [here.length_eq] at parts
      rw [parts]
      congr 2
      exact List.filter_congr fun one _ => by simp
    have further : ∃ output, Emits entries b (printed ++ now) output := by
      refine ih remaining.length (by omega) covered.after ?_ (nodup.filter _) ?_ ?_ rfl
      · intro entry inside need needed
        exact (resolves entry inside need needed).imp_left (List.mem_append_left _)
      · intro one
        rw [List.mem_filter, decide_eq_true_iff, names, List.mem_append, not_or, and_assoc]
      · show (printed ++ now).length + remaining.length + prePrinted.length = entries.length + b
        rw [List.length_append]
        omega
    obtain ⟨output, emits⟩ := further
    exact ⟨_, .loop exit (emitPass_eq covered) emits⟩

/-! ### When the generation is complete -/

namespace Collected

variable {collected : Collected}

/-- **What a complete generation needs**: no collected type is a basic one as well, there is no look at
absent members, and the number of collected definitions is ten more than the number of names to print. -/
structure Coincides (collected : Collected) : Prop where
  structured : ∀ t ∈ collected.entries, t.name ∈ collected.basic → t.name ∈ prePrinted
  covered : Covered collected.printed collected.entries
  count : collected.entries.length = collected.names.length + prePrinted.length

theorem mem_names {name : String} :
    name ∈ collected.names ↔ name ∈ collected.entries.map Entry.name ∧ name ∉ prePrinted := by
  unfold names
  rw [List.mem_dedup, List.mem_filter, decide_eq_true_iff]

theorem coincides_of_complete (complete : collected.Complete) : collected.Coincides := by
  obtain ⟨output, emits, nodup, exact, _⟩ := complete
  obtain ⟨legal, _, count⟩ := emits.spec
  obtain ⟨_, fresh⟩ := legal.nodup
  have same : output.length = collected.names.length := by
    rw [← List.length_map Entry.name]
    exact ((List.perm_ext_iff_of_nodup nodup (List.nodup_dedup _)).mpr exact).length_eq
  have structured : ∀ t ∈ collected.entries, t.name ∈ collected.basic → t.name ∈ prePrinted := by
    intro t member basic
    by_contra unprinted
    have printedOnce := (exact t.name).mpr (mem_names.mpr ⟨List.mem_map_of_mem member, unprinted⟩)
    exact fresh t.name printedOnce (List.mem_append_right _ basic)
  refine ⟨structured, ?_, by omega⟩
  cases emits with
  | exit _ =>
    intro before t after split _
    have member : t ∈ collected.entries := split ▸ List.mem_append_right before List.mem_cons_self
    refine .old (List.mem_append_left _ ?_)
    by_contra unprinted
    cases (exact t.name).mpr (mem_names.mpr ⟨List.mem_map_of_mem member, unprinted⟩)
  | loop _ passed _ => exact covered_of_emitPass passed

/-- **When the generation is complete**, for definitions without a cycle that resolve. -/
theorem complete_iff (resolves : collected.Resolves) (acyclic : collected.Acyclic) :
    collected.Complete ↔ collected.Coincides := by
  refine ⟨coincides_of_complete, ?_⟩
  rintro ⟨structured, covered, count⟩
  have names (name : String) : name ∈ collected.names ↔
      name ∈ collected.entries.map Entry.name ∧ name ∉ collected.printed := by
    rw [mem_names]
    refine and_congr_right fun defined => not_congr ?_
    obtain ⟨t, member, rfl⟩ := List.mem_map.mp defined
    refine ⟨List.mem_append_left _, fun known => ?_⟩
    rcases List.mem_append.mp known with before | basic
    · exact before
    · exact structured t member basic
  have distinct : collected.names.Nodup := List.nodup_dedup _
  have asked : collected.printed.length + collected.names.length + prePrinted.length =
      collected.entries.length + collected.printed.length := by omega
  obtain ⟨output, emits⟩ := exists_emits covered acyclic resolves distinct names asked
  obtain ⟨legal, subset, total⟩ := emits.spec
  obtain ⟨nodup, fresh⟩ := legal.nodup
  refine ⟨output, emits, nodup, ?_, fun before t after split => (split ▸ legal).after⟩
  have inside : output.map Entry.name ⊆ collected.names := by
    intro name printed
    obtain ⟨t, member, rfl⟩ := List.mem_map.mp printed
    exact (names _).mpr ⟨List.mem_map_of_mem (subset member), fresh _ printed⟩
  have perm : (output.map Entry.name).Perm collected.names :=
    (nodup.subperm inside).perm_of_length_le (by rw [List.length_map]; omega)
  exact fun name => perm.mem_iff

end Collected

/-- **When the generation of all files is complete**, for definitions without a cycle that resolve. -/
theorem generates_iff (files : Files) (resolves : (collect files).Resolves)
    (acyclic : (collect files).Acyclic) : (collect files).Complete ↔ (collect files).Coincides :=
  Collected.complete_iff resolves acyclic

/-- Two files: the pre-printed types are octet strings, and the other types come in front of the ones that
they refer to, one of them by an inline CHOICE. -/
def dependentFiles : Files :=
  [("Outer", ⟨"SEQUENCE", [some ⟨"middle", "Middle", []⟩, some ⟨"items", "Items", []⟩, none], ""⟩) ::
      ("Items", ⟨"SEQUENCE OF", [], "Leaf"⟩) :: prePrinted.map fun name => (name, ⟨"OCTET STRING", [], ""⟩),
    [("Middle", ⟨"SEQUENCE", [some ⟨"which", "CHOICE", [some ⟨"leaf", "Leaf"⟩, some ⟨"count", "Count"⟩]⟩], ""⟩),
      ("Count", ⟨"INTEGER", [], ""⟩), ("Leaf", ⟨"BIT STRING", [], ""⟩)]]

/-- A type comes behind all types that it refers to. -/
def dependentRank (name : String) : ℕ :=
  ["Count", "Leaf", "Items", "Middle::Middle__which", "Middle", "Outer"].idxOf name

/-- The types of both files are printed, though the first pass prints a single one. -/
theorem generates_dependent :
    (collect dependentFiles).Complete ∧
      (printable (collect dependentFiles).printed (collect dependentFiles).entries).map Entry.name =
        ["Leaf"] := by
  have resolves : (collect dependentFiles).Resolves := by
    unfold Collected.Resolves
    decide +kernel
  have ranked : ∀ t ∈ (collect dependentFiles).entries, ∀ need ∈ t.needs,
      dependentRank need < dependentRank t.name := by
    decide +kernel
  have sound : ∀ t ∈ (collect dependentFiles).entries, t.type ∉ leafTypes → t.members ≠ none := by
    decide +kernel
  have acyclic : (collect dependentFiles).Acyclic := by
    intro name cycle
    have lower (other : String)
        (path : Relation.TransGen (Depends Entry.name Entry.needs (collect dependentFiles).entries) name other) :
        dependentRank other < dependentRank name := by
      induction path with
      | single edge =>
        obtain ⟨t, member, rfl, needed⟩ := edge
        exact ranked t member _ needed
      | tail _ edge ih =>
        obtain ⟨t, member, rfl, needed⟩ := edge
        exact (ranked t member _ needed).trans ih
    exact lt_irrefl _ (lower name cycle)
  refine ⟨(generates_iff dependentFiles resolves acyclic).mpr ⟨by decide +kernel, ?_, by decide +kernel⟩,
    by decide +kernel⟩
  intro before t after split faulty
  exact absurd faulty.2 (sound t (split ▸ List.mem_append_right before List.mem_cons_self) faulty.1)

/-- **One SEQUENCE without members**: the loop never ends. -/
theorem not_generates : ¬ (collect [[("Empty", ⟨"SEQUENCE", [], ""⟩)]]).Complete := by
  intro complete
  exact absurd (Collected.coincides_of_complete complete).count (by decide)

end Vanet.Socktap
