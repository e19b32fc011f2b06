import FieldOcr.Text.Utf8

/-!
# UTF-16

The UTF-16 form of a text in either byte order, without a byte-order mark, and
the reading of arbitrary bytes.  A surrogate without its partner, and bytes
left over at the end, are read as one replacement character each.
-/

namespace FieldOcr
namespace Text
namespace Utf16

/-- The order of the two bytes of a code unit. -/
inductive ByteOrder
  | little
  | big
  deriving DecidableEq, Repr

/-- The two bytes of a code unit. -/
def ByteOrder.bytes (order : ByteOrder) (unit : Nat) : List UInt8 :=
  match order with
  | .little => [UInt8.ofNat (unit % 0x100), UInt8.ofNat (unit / 0x100)]
  | .big => [UInt8.ofNat (unit / 0x100), UInt8.ofNat (unit % 0x100)]

/-- The code unit of two bytes. -/
def ByteOrder.unit (order : ByteOrder) (first second : UInt8) : Nat :=
  match order with
  | .little => first.toNat + 0x100 * second.toNat
  | .big => 0x100 * first.toNat + second.toNat

/-- The code units of one character. -/
def units (character : Char) : List Nat :=
  let code := character.toNat
  if code < 0x10000 then [code]
  else [0xD800 + (code - 0x10000) / 0x400, 0xDC00 + (code - 0x10000) % 0x400]

/-- The bytes of a text. -/
def encode (order : ByteOrder) (text : List Char) : List UInt8 :=
  text.flatMap fun character => (units character).flatMap order.bytes

/-- The character of a pair of surrogates. -/
def pairChar (high low : Nat) : Char :=
  Char.ofNat (0x10000 + (high - 0xD800) * 0x400 + (low - 0xDC00))

/-- Whether a code unit starts a surrogate pair. -/
def isHigh (unit : Nat) : Bool :=
  0xD800 ≤ unit && unit ≤ 0xDBFF

/-- Whether a code unit ends a surrogate pair. -/
def isLow (unit : Nat) : Bool :=
  0xDC00 ≤ unit && unit ≤ 0xDFFF

/-- The state between two code units: the characters read so far, the last
one first, and a high surrogate that still waits for its partner. -/
structure Progress where
  /-- The characters read so far, the last one first. -/
  readSoFar : List Char
  /-- The high surrogate read last, if its partner is still due. -/
  pending : Option Nat

/-- Reads one code unit. -/
def Progress.read (progress : Progress) (unit : Nat) : Progress :=
  match progress.pending with
  | some high =>
      if isLow unit then ⟨pairChar high unit :: progress.readSoFar, none⟩
      else if isHigh unit then
        ⟨Utf8.replacement :: progress.readSoFar, some unit⟩
      else
        ⟨Char.ofNat unit :: Utf8.replacement :: progress.readSoFar, none⟩
  | none =>
      if isHigh unit then ⟨progress.readSoFar, some unit⟩
      else if isLow unit then
        ⟨Utf8.replacement :: progress.readSoFar, none⟩
      else ⟨Char.ofNat unit :: progress.readSoFar, none⟩

/-- The text read when the bytes end, with one replacement character for a
surrogate or a byte left over. -/
def Progress.finish (progress : Progress) (oddByte : Bool) : List Char :=
  if oddByte || progress.pending.isSome then
    (Utf8.replacement :: progress.readSoFar).reverse
  else progress.readSoFar.reverse

/-- Reads bytes two at a time. -/
def decodeFrom
    (order : ByteOrder)
    (progress : Progress) : List UInt8 -> List Char
  | first :: second :: rest =>
      decodeFrom order (progress.read (order.unit first second)) rest
  | [_] => progress.finish true
  | [] => progress.finish false

/-- Reads bytes as a text. -/
def decode (order : ByteOrder) (bytes : List UInt8) : List Char :=
  decodeFrom order ⟨[], none⟩ bytes

end Utf16
end Text
end FieldOcr
