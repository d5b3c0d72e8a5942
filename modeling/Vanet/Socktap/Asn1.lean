/-
**Decoded messages and their JSON.**

The functions `to_json` are generated from the ASN.1 modules: one for each type, all of them alike. An
`Asn1Type` is what the function of a type looks at, `marshal` is the function. Members are read through
pointers where they are optional, and a CHOICE has one alternative at a time; a `Fault` is a read of
what is not there. `marshal_ok`: an object of the type is marshalled without any.
-/

import Mathlib.Algebra.Order.Ring.Rat
import Vanet.Net.Packet

namespace Vanet.Socktap

open Vanet.Net

inductive Json
  | null
  | bool (flag : Bool)
  | integer (n : ℤ)
  | number (q : ℚ)
  | text (content : String)
  | array (items : List Json)
  | object (members : List (String × Json))

/-- A read of an object that is not there, or of another alternative than the present one. -/
inductive Fault
  | absent
  | wrongAlternative
  deriving DecidableEq

/-- **A decoded object.** A null pointer is an absent one. -/
inductive Asn1
  | absent
  | integer (n : ℤ)
  | octetString (bytes : ByteBuffer)
  | bitString (buf : ByteBuffer)
  | sequence (members : List (String × Asn1))
  | choice (present : String) (content : Asn1)
  | sequenceOf (items : List Asn1)

namespace Asn1

/-- A member of a SEQUENCE. -/
def member (object : Asn1) (name : String) : Asn1 :=
  match object with
  | sequence members => (members.lookup name).getD absent
  | _ => absent

def readInteger : Asn1 → Except Fault ℤ
  | integer n => .ok n
  | _ => .error .absent

def readBits : Asn1 → Except Fault ByteBuffer
  | bitString buf => .ok buf
  | _ => .error .absent

def readItems : Asn1 → Except Fault (List Asn1)
  | sequenceOf items => .ok items
  | _ => .error .absent

def readChoice : Asn1 → Except Fault (String × Asn1)
  | choice present content => .ok (present, content)
  | _ => .error .absent

/-- A member of the union of a CHOICE, without a look at the alternative that is present. -/
def alternative (object : Asn1) (name : String) : Except Fault Asn1 :=
  match object with
  | choice present content => if present = name then .ok content else .error .wrongAlternative
  | _ => .error .absent

end Asn1

/-- A bit of a byte of the buffer, by the number of its name. -/
def marshalBit (buf : ByteBuffer) (name : String) (k : ℕ) : Except Fault (String × Json) :=
  match buf[k / 8]? with
  | some byte => .ok (name, .bool (byte.toNat.testBit (7 * (k / 8 + 1) - k % 8)))
  | none => .error .absent

/-! ### Types -/

mutual

/-- **A type** as its generated function sees it. INTEGER, ENUMERATED and BOOLEAN are numbers. -/
inductive Asn1Type
  | integer
  | octetString
  | bitString (names : List String)
  | sequence (members : List Asn1Member)
  | choice (alternatives : List Asn1Member)
  | sequenceOf (element : Asn1Type)

inductive Asn1Member
  | required (name : String) (type : Asn1Type)
  | optional (name : String) (type : Asn1Type)

end

mutual

/-- **`to_json`** of a type. -/
def marshal : Asn1Type → Asn1 → Except Fault Json
  | .integer, object => do
    let n ← object.readInteger
    pure (.integer n)
  -- nothing is marshalled yet
  | .octetString, _ => pure .null
  | .bitString names, object => do
    let buf ← object.readBits
    let members ← names.zipIdx.mapM fun entry => marshalBit buf entry.1 entry.2
    pure (.object members)
  | .sequence members, object => do
    let members ← marshalMembers members object
    pure (.object members)
  | .choice alternatives, object => do
    let (present, content) ← object.readChoice
    let members ← marshalAlternative alternatives present content
    pure (.object members)
  | .sequenceOf element, object => do
    let items ← object.readItems
    let items ← items.mapM (marshal element)
    pure (.array items)

/-- An optional member is marshalled if its pointer is not null. -/
def marshalMember : Asn1Member → Asn1 → Except Fault (List (String × Json))
  | .required name type, object => do
    let json ← marshal type (object.member name)
    pure [(name, json)]
  | .optional name type, object =>
    match object.member name with
    | .absent => pure []
    | content => do
      let json ← marshal type content
      pure [(name, json)]

def marshalMembers : List Asn1Member → Asn1 → Except Fault (List (String × Json))
  | [], _ => pure []
  | member :: rest, object => do
    let first ← marshalMember member object
    let others ← marshalMembers rest object
    pure (first ++ others)

/-- The alternative that is present, if it is one of these. -/
def marshalAlternative : List Asn1Member → String → Asn1 → Except Fault (List (String × Json))
  | [], _, _ => pure []
  | .required name type :: rest, present, content =>
    if present = name then do
      let json ← marshal type content
      pure [(name, json)]
    else marshalAlternative rest present content
  | .optional _ _ :: rest, present, content => marshalAlternative rest present content

end

/-! ### Objects of a type -/

mutual

/-- **The objects of a type**, as the decoder builds them. -/
def Holds : Asn1Type → Asn1 → Prop
  | .integer, object => ∃ n, object = .integer n
  | .octetString, object => ∃ bytes, object = .octetString bytes
  | .bitString names, object => ∃ buf, object = .bitString buf ∧ names.length ≤ 8 * buf.length
  | .sequence members, object => HoldsMembers members object
  | .choice alternatives, object => ∃ present content, object = .choice present content ∧
    HoldsAlternative alternatives present content
  | .sequenceOf element, object => ∃ items, object = .sequenceOf items ∧
    ∀ item ∈ items, Holds element item

def HoldsMember : Asn1Member → Asn1 → Prop
  | .required name type, object => Holds type (object.member name)
  | .optional name type, object => object.member name = .absent ∨ Holds type (object.member name)

def HoldsMembers : List Asn1Member → Asn1 → Prop
  | [], _ => True
  | member :: rest, object => HoldsMember member object ∧ HoldsMembers rest object

/-- An alternative that is not one of these comes from an extension of the type. -/
def HoldsAlternative : List Asn1Member → String → Asn1 → Prop
  | [], _, _ => True
  | .required name type :: rest, present, content =>
    if present = name then Holds type content else HoldsAlternative rest present content
  | .optional _ _ :: rest, present, content => HoldsAlternative rest present content

end

/-- A member that is not optional is there. -/
theorem HoldsMembers.required {name : String} {type : Asn1Type} {object : Asn1}
    {members : List Asn1Member} (holds : HoldsMembers members object)
    (member : Asn1Member.required name type ∈ members) : Holds type (object.member name) := by
  induction members with
  | nil => exact absurd member List.not_mem_nil
  | cons first rest ih =>
    unfold HoldsMembers at holds
    rcases List.mem_cons.mp member with same | later
    · subst same
      have own := holds.1
      unfold HoldsMember at own
      exact own
    · exact ih holds.2 later

/-! ### Marshalling -/

theorem mapM_ok {α β : Type} {f : α → Except Fault β} {items : List α}
    (each : ∀ item ∈ items, ∃ result, f item = .ok result) :
    ∃ results, items.mapM f = .ok results := by
  induction items with
  | nil => exact ⟨[], rfl⟩
  | cons item rest ih =>
    obtain ⟨first, marshalled⟩ := each item List.mem_cons_self
    obtain ⟨others, remaining⟩ := ih fun other member => each other (List.mem_cons_of_mem _ member)
    refine ⟨first :: others, ?_⟩
    rw [List.mapM_cons, marshalled, remaining]
    rfl

theorem marshalBit_ok {buf : ByteBuffer} {name : String} {k : ℕ} (inside : k < 8 * buf.length) :
    ∃ bit, marshalBit buf name k = .ok bit := by
  have byte : k / 8 < buf.length := by omega
  unfold marshalBit
  rw [List.getElem?_eq_getElem byte]
  exact ⟨_, rfl⟩

mutual

/-- **An object of the type is marshalled.** -/
theorem marshal_ok : ∀ (type : Asn1Type) (object : Asn1), Holds type object →
    ∃ json, marshal type object = .ok json
  | .integer, object, holds => by
    unfold Holds at holds
    obtain ⟨n, rfl⟩ := holds
    exact ⟨.integer n, rfl⟩
  | .octetString, object, _ => ⟨.null, rfl⟩
  | .bitString names, object, holds => by
    unfold Holds at holds
    obtain ⟨buf, rfl, enough⟩ := holds
    have bits : ∀ entry ∈ names.zipIdx, ∃ bit, marshalBit buf entry.1 entry.2 = .ok bit := by
      intro entry member
      have numbered := List.snd_lt_of_mem_zipIdx member
      exact marshalBit_ok (by omega)
    obtain ⟨members, marshalled⟩ := mapM_ok bits
    refine ⟨.object members, ?_⟩
    unfold marshal
    show (names.zipIdx.mapM fun entry => marshalBit buf entry.1 entry.2) >>= _ = _
    rw [marshalled]
    rfl
  | .sequence members, object, holds => by
    unfold Holds at holds
    obtain ⟨json, marshalled⟩ := marshalMembers_ok members object holds
    refine ⟨.object json, ?_⟩
    unfold marshal
    rw [marshalled]
    rfl
  | .choice alternatives, object, holds => by
    unfold Holds at holds
    obtain ⟨present, content, rfl, held⟩ := holds
    obtain ⟨json, marshalled⟩ := marshalAlternative_ok alternatives present content held
    refine ⟨.object json, ?_⟩
    unfold marshal
    show marshalAlternative alternatives present content >>= _ = _
    rw [marshalled]
    rfl
  | .sequenceOf element, object, holds => by
    unfold Holds at holds
    obtain ⟨items, rfl, each⟩ := holds
    have all : ∀ item ∈ items, ∃ json, marshal element item = .ok json :=
      fun item member => marshal_ok element item (each item member)
    obtain ⟨json, marshalled⟩ := mapM_ok all
    refine ⟨.array json, ?_⟩
    unfold marshal
    show items.mapM (marshal element) >>= _ = _
    rw [marshalled]
    rfl

theorem marshalMember_ok : ∀ (member : Asn1Member) (object : Asn1), HoldsMember member object →
    ∃ json, marshalMember member object = .ok json
  | .required name type, object, holds => by
    unfold HoldsMember at holds
    obtain ⟨json, marshalled⟩ := marshal_ok type _ holds
    refine ⟨[(name, json)], ?_⟩
    unfold marshalMember
    rw [marshalled]
    rfl
  | .optional name type, object, holds => by
    unfold HoldsMember at holds
    unfold marshalMember
    split
    · exact ⟨[], rfl⟩
    · rename_i present
      obtain ⟨json, marshalled⟩ := marshal_ok type _ (holds.resolve_left present)
      refine ⟨[(name, json)], ?_⟩
      rw [marshalled]
      rfl

theorem marshalMembers_ok : ∀ (members : List Asn1Member) (object : Asn1),
    HoldsMembers members object → ∃ json, marshalMembers members object = .ok json
  | [], object, _ => ⟨[], rfl⟩
  | member :: rest, object, holds => by
    unfold HoldsMembers at holds
    obtain ⟨first, marshalled⟩ := marshalMember_ok member object holds.1
    obtain ⟨others, remaining⟩ := marshalMembers_ok rest object holds.2
    refine ⟨first ++ others, ?_⟩
    unfold marshalMembers
    rw [marshalled, remaining]
    rfl

theorem marshalAlternative_ok : ∀ (alternatives : List Asn1Member) (present : String)
    (content : Asn1), HoldsAlternative alternatives present content →
      ∃ json, marshalAlternative alternatives present content = .ok json
  | [], present, content, _ => ⟨[], rfl⟩
  | .required name type :: rest, present, content, holds => by
    unfold HoldsAlternative at holds
    unfold marshalAlternative
    split_ifs at holds ⊢
    · obtain ⟨json, marshalled⟩ := marshal_ok type content holds
      refine ⟨[(name, json)], ?_⟩
      rw [marshalled]
      rfl
    · exact marshalAlternative_ok rest present content holds
  | .optional name type :: rest, present, content, holds => by
    unfold HoldsAlternative at holds
    unfold marshalAlternative
    exact marshalAlternative_ok rest present content holds

end

end Vanet.Socktap
