/-
**The wire format of secured messages.**

`Wire` is the grammar of TS 103 097 messages as far as the repository knows it: which elements follow
which, what a type byte announces, where a length field stands and what it is the length of. It has
neither values nor an allocator.

`Wire.walk` goes through a byte string along a format. On its way it notes the *sites*, the places
where the bytes announce something: how many bytes a length field has and which number it says, how
many bytes are announced and how many are there, how far the elements of a list get. A walk ends where
the bytes do, at an unknown type and behind a list that its elements overrun. `Site.Benign` and
`Site.Canonical` are conditions on a site.

A walk counts an element in its shortest encoding, which is how the announced length of a list is used
up. A length of regions is counted with the type byte of the region, a length of a certificate chain
with the type byte of the signer info.
-/

import Vanet.Security.Elements

namespace Vanet.Security

open Vanet.Library

/-- **A place where the input announces something.** -/
inductive Site
  /-- A complete length field: its first byte and those behind it. -/
  | length (first : UInt8) (rest : Octets (countLeadingOnes first))
  /-- So many bytes are announced, the rest of a length field or a buffer; and so many are behind. -/
  | room (announced behind : ℕ)
  /-- A list of the announced length, and the size of its elements up to the first that gets there. -/
  | list (announced counted : ℕ)
  /-- A list of `HashedId3` of the announced length. -/
  | ids (announced : ℕ)
  /-- Header fields of the announced length, and by how much the last one overruns it. -/
  | header (announced overrun : ℕ)
  /-- A certificate chain of the announced length. -/
  | chain (announced : ℕ)

namespace Site

/-- **The site does no harm**: a length field does not start with `0xff`, the bytes that are announced
are there, and a list ends where it is announced to end. -/
def Benign : Site → Prop
  | length first _ => first ≠ 0xff
  | room announced behind => announced ≤ behind
  | list announced counted => counted = announced
  | _ => True

/-- The number that a length field says. -/
def value (first : UInt8) (rest : ByteBuffer) : ℕ := (decodeLength (first :: rest)).2.toNat

/-- **The site is as the shortest encoding has it**: a length field has no more bytes than its number
needs, a list of ids is a multiple of three bytes, the last header field ends at the announced end, and
a chain has no size that is one below a power of 128, as with 127 or 16383 bytes. -/
def Canonical : Site → Prop
  | length first rest => countLeadingOnes first + 1 = lengthCodingSize (value first rest.1)
  | ids announced => 3 ∣ announced
  | header _ overrun => overrun = 0
  | chain announced => ∀ k, 1 + announced ≠ 128 ^ (k + 1)
  | _ => True

/-- **The bytes that the shortest encoding would not have**: of a length field those that its number
does not need, of a list of ids or header fields those behind its announced end. -/
def superfluous : Site → ℕ
  | length first rest => countLeadingOnes first + 1 - lengthCodingSize (value first rest.1)
  | ids announced => 3 * ((announced + 2) / 3) - announced
  | header _ overrun => overrun
  | _ => 0

/-- **The bytes of a chain that are counted without being there.** -/
def missing : Site → ℕ
  | chain announced => lengthCodingSize (1 + announced) - lengthCodingSize announced
  | _ => 0

instance : (site : Site) → Decidable site.Benign
  | length first _ => inferInstanceAs (Decidable (first ≠ 0xff))
  | room announced behind => inferInstanceAs (Decidable (announced ≤ behind))
  | list announced counted => inferInstanceAs (Decidable (counted = announced))
  | ids _ => inferInstanceAs (Decidable True)
  | header _ _ => inferInstanceAs (Decidable True)
  | chain _ => inferInstanceAs (Decidable True)

/-- The other chains have a length that takes as many bytes as it does with the type byte. -/
theorem canonical_chain (announced : ℕ) :
    (chain announced).Canonical ↔ lengthCodingSize (1 + announced) = lengthCodingSize announced := by
  rcases lengthCodingSize_next announced with ⟨same, other⟩ | ⟨longer, k, power⟩
  · exact iff_of_true other same
  · exact iff_of_false (fun other => other k power) (by omega)

instance : (site : Site) → Decidable site.Canonical
  | length first rest =>
    inferInstanceAs (Decidable (countLeadingOnes first + 1 = lengthCodingSize (value first rest.1)))
  | room _ _ => inferInstanceAs (Decidable True)
  | list _ _ => inferInstanceAs (Decidable True)
  | ids announced => inferInstanceAs (Decidable (3 ∣ announced))
  | header _ overrun => inferInstanceAs (Decidable (overrun = 0))
  | chain announced => decidable_of_iff _ (canonical_chain announced).symm

end Site

/-! ### Walking through bytes -/

/-- A walk notes sites and counts bytes. -/
abbrev Walk (α : Type) := Reader Site Unit α

namespace Walk

def byte : Walk UInt8 := Reader.byte ()

def octets (n : ℕ) : Walk (Octets n) := Reader.octets () n

/-- Bytes that are announced. -/
def filled (n : ℕ) : Walk (Octets n) := do
  let behind ← Reader.left
  Reader.note (.room n behind) (.ok ())
  octets n

def length : Walk UInt64 := do
  let first ← byte
  let rest ← filled (countLeadingOnes first)
  Reader.note (.length first rest) (if first ≠ 0xff then .ok () else .error ())
  pure (decodeLength (first :: rest.1)).2

/-- The elements of a list. -/
def elements (element : Walk ℕ) (announced : UInt64) : Walk ℕ := do
  let counted ← Reader.whileM () (fun counted => decide (counted < announced.toNat))
    (fun counted => do
      let size ← element
      pure (counted + size)) 0
  Reader.note (.list announced.toNat counted)
    (if counted = announced.toNat then .ok () else .error ())
  pure announced.toNat

/-- Regions of one size, as many as use up the announced length; it wraps around if it is no multiple
of their size. -/
def regions (unit : ℕ) (announced : UInt64) : Walk ℕ := do
  let _ ← Reader.whileM () (fun remaining => decide (0 < remaining))
    (fun remaining => do
      let _ ← octets unit
      pure (remaining - UInt64.ofNat unit)) announced
  pure announced.toNat

/-- Ids of three bytes, up to the first that gets to the announced length. -/
def ids (announced : UInt64) : Walk ℕ := do
  Reader.note (.ids announced.toNat) (.ok ())
  let _ ← Reader.whileM () (fun counted => decide (counted < announced.toNat))
    (fun counted => do
      let _ ← octets 3
      pure (counted + 3)) 0
  pure announced.toNat

/-- One header field, whose format depends on whether an encryption has been announced before it. -/
def headerField (field : Bool → UInt8 → Walk ℕ) (encrypted : Bool) : Walk (ℕ × Bool) := do
  let type ← byte
  let size ← field encrypted type
  pure (1 + size, encrypted || type.toNat = 129)

/-- Header fields, up to the first that gets to the announced length. -/
def headerFields (field : Bool → UInt8 → Walk ℕ) (announced : UInt64) : Walk ℕ := do
  let (counted, _) ← Reader.whileM () (fun (counted, _) => decide (counted < announced.toNat))
    (fun (counted, encrypted) => do
      let (size, encrypted) ← headerField field encrypted
      pure (counted + size, encrypted))
    ((0, false) : ℕ × Bool)
  Reader.note (.header announced.toNat (counted - announced.toNat)) (.ok ())
  pure announced.toNat

/-- A part whose length is announced in front of it, of a length that is counted as `coded` says. -/
def announced (coded : ℕ → ℕ) (part : UInt64 → Walk ℕ) : Walk ℕ := do
  let length ← length
  let size ← part length
  pure (size + lengthCodingSize (coded size))

end Walk

/-! ### The grammar -/

/-- **A format.** -/
inductive Wire
  /-- There is no such format. -/
  | reject
  | octets (n : ℕ)
  /-- A number, which is encoded as a length field. -/
  | number
  /-- A length and so many bytes, for which no room is made in advance. -/
  | name
  /-- A length and so many bytes. -/
  | buffer
  | seq (first second : Wire)
  /-- A type byte, and what it announces. -/
  | type (cases : UInt8 → Wire)
  /-- A length and elements of this length. -/
  | list (element : Wire)
  /-- A length and regions of one size. -/
  | regions (unit : ℕ)
  /-- A length and `HashedId3`s. -/
  | ids
  /-- A length and header fields. -/
  | fields (field : Bool → UInt8 → Wire)
  /-- A length and certificates. -/
  | chain
  /-- A certificate. -/
  | certificate

namespace Wire

/-- The walk along a format, over the one along a certificate. -/
def walkWith (below : Walk ℕ) : Wire → Walk ℕ
  | reject => Reader.fail ()
  | octets n => do
    let _ ← Walk.octets n
    pure n
  | number => do
    let value ← Walk.length
    pure (lengthCodingSize value.toNat)
  | name => .announced id fun length => do
    let _ ← Walk.octets length.toNat
    pure length.toNat
  | buffer => .announced id fun length => do
    let _ ← Walk.filled length.toNat
    pure length.toNat
  | seq first second => do
    let size ← first.walkWith below
    let more ← second.walkWith below
    pure (size + more)
  | type cases => do
    let type ← Walk.byte
    let size ← (cases type).walkWith below
    pure (1 + size)
  | list element => .announced id (Walk.elements (element.walkWith below))
  | regions unit => .announced (1 + ·) (Walk.regions unit)
  | ids => .announced id Walk.ids
  | fields field => .announced id (Walk.headerFields fun encrypted type =>
      (field encrypted type).walkWith below)
  | chain => .announced (1 + ·) fun length => do
    let size ← Walk.elements below length
    Reader.note (.chain size) (.ok ())
    pure size
  | certificate => below

/-! ### Keys, signatures and regions -/

def eccPoint : Wire := type fun type =>
  match type.toNat with
  | 0 => octets fieldSize
  | 2 => octets fieldSize
  | 3 => octets fieldSize
  | 4 => seq (octets fieldSize) (octets fieldSize)
  | _ => reject

def publicKey : Wire := type fun type =>
  match type.toNat with
  | 0 => eccPoint
  | 1 => seq (octets 1) eccPoint
  | _ => reject

def ecdsaSignature : Wire := seq eccPoint (octets fieldSize)

def signature : Wire := type fun type =>
  match type.toNat with
  | 0 => ecdsaSignature
  | _ => reject

def trailerField : Wire := type fun type =>
  match type.toNat with
  | 1 => signature
  | _ => reject

def identifiedRegion : Wire := seq (octets 1) (seq (octets 2) number)

def geographicRegion : Wire := type fun type =>
  match type.toNat with
  | 0 => octets 0
  | 1 => octets 10
  | 2 => regions 16
  | 3 => regions 8
  | 4 => identifiedRegion
  | _ => reject

/-! ### Certificates -/

def subjectInfo : Wire := seq (octets 1) name

def itsAidSsp : Wire := seq number buffer

def subjectAttribute : Wire := type fun type =>
  match type.toNat with
  | 2 => octets 1
  | 0 => publicKey
  | 1 => publicKey
  | 32 => list number
  | 33 => list itsAidSsp
  | _ => reject

def validityRestriction : Wire := type fun type =>
  match type.toNat with
  | 0 => octets 4
  | 2 => octets 6
  | 1 => octets 8
  | 3 => geographicRegion
  | _ => reject

def signerInfo : Wire := type fun type =>
  match type.toNat with
  | 2 => certificate
  | 3 => chain
  | 1 => octets 8
  | 4 => octets 9
  | 0 => octets 0
  | _ => reject

/-- What a certificate consists of. -/
def certificateContent : Wire := type fun version =>
  if version = 2 then
    seq signerInfo (seq subjectInfo (seq (list subjectAttribute)
      (seq (list validityRestriction) signature)))
  else reject

/-- **The walk along a format.** A certificate is walked along its content. -/
def walk (format : Wire) : Walk ℕ :=
  format.walkWith (Reader.fix () fun below => certificateContent.walkWith below)

/-! ### Messages -/

def encryptionParameter : Wire := type fun algo =>
  match algo.toNat with
  | 0 => octets 12
  | _ => reject

def recipientInfo : Wire := seq (octets 8) (type fun algo =>
  match algo.toNat with
  | 1 => seq eccPoint (octets 32)
  | _ => buffer)

/-- What the type byte of a header field announces; recipients come behind the encryption. -/
def headerField (encrypted : Bool) (type : UInt8) : Wire :=
  match type.toNat with
  | 0 => octets 8
  | 1 => octets 9
  | 2 => octets 4
  | 3 => octets 10
  | 4 => ids
  | 5 => number
  | 128 => signerInfo
  | 130 => if encrypted then list recipientInfo else reject
  | 129 => encryptionParameter
  | _ => reject

def payload : Wire := seq (octets 1) buffer

def securedMessage : Wire := type fun version =>
  if version = 2 then seq (fields headerField) (seq payload (list trailerField)) else reject

/-- **The sites of a byte string** along a format. -/
def sites (format : Wire) (input : ByteBuffer) : List Site := (format.walk ⟨input, []⟩).2.notes

end Wire

end Vanet.Security
