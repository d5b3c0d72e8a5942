/-
**The codec of lengths.**

`encode_length`, `decode_length`, `deserialize_length` and `length_coding_size` agree on the numbers that
have a byte to spare in a `uintmax_t`. The eight bytes of a larger number are written behind two bytes
`0xff`; `decode_length` gives up at the first of them, although the number would fit.
-/

import Vanet.Security.ListRoundTrip

namespace Vanet.Security

open Vanet.Library Reader Read

/-- **What is expected of the codec for a number.** -/
structure LengthCodec (value : UInt64) : Prop where
  decoded : ∀ tail, decodeLength (encodeLength value ++ tail) = ((encodeLength value).length, value)
  deserialized : ∀ limit, Restores (deserializeLength limit) (encodeLength value) value
  size : (encodeLength value).length = lengthCodingSize value.toNat
  unextended : ∀ other, encodeLength value <+: encodeLength other →
    encodeLength value = encodeLength other

/-- What follows the bytes that the first one announces is not looked at. -/
theorem decodeLength_append {first : UInt8} {rest : ByteBuffer}
    (announced : countLeadingOnes first = rest.length) (tail : ByteBuffer) :
    decodeLength (first :: rest ++ tail) = decodeLength (first :: rest) := by
  have long : rest.length < (first :: (rest ++ tail)).length := by
    rw [List.length_cons, List.length_append]
    omega
  have exact : rest.length < (first :: rest).length := by
    rw [List.length_cons]
    omega
  unfold decodeLength
  rw [List.cons_append]
  dsimp only
  rw [announced, if_pos long, if_pos exact, List.take_left, List.take_length]

/-- **No encoding is a proper prefix of another.** -/
theorem encodeLength_prefix {value other : UInt64}
    (begins : encodeLength value <+: encodeLength other) :
    encodeLength value = encodeLength other := by
  obtain ⟨more, same⟩ := begins
  have ended : encodeLength value ++ more = encodeLength other ++ [] := by
    rw [same, List.append_nil]
  obtain ⟨equal, _⟩ := delimited_encodeLength value other more [] trivial trivial ended
  rw [equal]

/-- A number below the limit. -/
theorem lengthCodec_small {value : UInt64} (small : value.toNat < codingLimit) :
    LengthCodec value where
  decoded := by
    intro tail
    obtain ⟨first, rest, encodes⟩ := encodes small
    rw [encodes.encoded, decodeLength_append encodes.leading, encodes.decoded, List.length_cons]
  deserialized := fun _ => (restoresIff_number value).restores small
  size := length_encodeLength small
  unextended := fun _ => encodeLength_prefix

/-- A number that needs all of its bytes. -/
theorem decodeLength_large {value : UInt64} (large : codingLimit ≤ value.toNat) (tail : ByteBuffer) :
    (decodeLength (encodeLength value ++ tail)).1 = 0 := by
  rw [encodeLength_large large, List.cons_append]
  exact (decodeLength_eq_zero_iff _ _).mpr rfl

/-- **When lengths survive their encoding**: exactly below `2 ^ 56`. No encoding is a proper prefix of
another, whatever the numbers. -/
theorem length_codec_iff (value : UInt64) :
    (LengthCodec value ↔ value.toNat < codingLimit) ∧
      ∀ other, encodeLength value <+: encodeLength other → encodeLength value = encodeLength other := by
  refine ⟨⟨fun codec => ?_, lengthCodec_small⟩, fun _ => encodeLength_prefix⟩
  by_contra small
  have large : codingLimit ≤ value.toNat := Nat.le_of_not_lt small
  have position := congrArg Prod.fst (codec.decoded [])
  rw [decodeLength_large large, encodeLength_large large] at position
  cases position

/-- **The first number that is lost**: it has ten bytes, where nine are expected, and it is not decoded. -/
theorem first_lost_length : ¬ ∀ value, LengthCodec value := by
  intro claimed
  have codec := claimed 0x100000000000000
  exact absurd (codec.decoded []) (by decide +kernel)

end Vanet.Security
