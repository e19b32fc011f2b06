/-!
# UTF-8

The UTF-8 form of a text, and the reading of arbitrary bytes.  Reading never
fails: each maximal run of bytes that starts a character but does not finish
it is read as the replacement character, and so is each byte that cannot
start one.
-/

namespace FieldOcr
namespace Text
namespace Utf8

/-- The character that stands for unreadable bytes. -/
def replacement : Char := '\uFFFD'

/-- The bytes of one character. -/
def encodeChar (character : Char) : List UInt8 :=
  let code := character.toNat
  if code < 0x80 then [UInt8.ofNat code]
  else if code < 0x800 then
    [UInt8.ofNat (0xC0 + code / 0x40), UInt8.ofNat (0x80 + code % 0x40)]
  else if code < 0x10000 then
    [UInt8.ofNat (0xE0 + code / 0x1000),
      UInt8.ofNat (0x80 + code / 0x40 % 0x40),
      UInt8.ofNat (0x80 + code % 0x40)]
  else
    [UInt8.ofNat (0xF0 + code / 0x40000),
      UInt8.ofNat (0x80 + code / 0x1000 % 0x40),
      UInt8.ofNat (0x80 + code / 0x40 % 0x40),
      UInt8.ofNat (0x80 + code % 0x40)]

/-- The bytes of a text. -/
def encode (text : List Char) : List UInt8 :=
  text.flatMap encodeChar

/-- The payload bits of a leading byte and the ranges that the bytes after it
must lie in. -/
def lead? (byte : Nat) : Option (Nat × List (Nat × Nat)) :=
  if byte < 0x80 then some (byte, [])
  else if 0xC2 ≤ byte && byte ≤ 0xDF then
    some (byte - 0xC0, [(0x80, 0xBF)])
  else if byte == 0xE0 then some (0, [(0xA0, 0xBF), (0x80, 0xBF)])
  else if byte == 0xED then some (0xD, [(0x80, 0x9F), (0x80, 0xBF)])
  else if 0xE1 ≤ byte && byte ≤ 0xEF then
    some (byte - 0xE0, [(0x80, 0xBF), (0x80, 0xBF)])
  else if byte == 0xF0 then
    some (0, [(0x90, 0xBF), (0x80, 0xBF), (0x80, 0xBF)])
  else if 0xF1 ≤ byte && byte ≤ 0xF3 then
    some (byte - 0xF0, [(0x80, 0xBF), (0x80, 0xBF), (0x80, 0xBF)])
  else if byte == 0xF4 then
    some (4, [(0x80, 0x8F), (0x80, 0xBF), (0x80, 0xBF)])
  else none

/-- Reads the bytes that must follow a leading byte.  The first byte outside
its range is left unread. -/
def readTail
    (value : Nat) : List (Nat × Nat) -> List UInt8 -> Char × List UInt8
  | [], rest => (Char.ofNat value, rest)
  | _ :: _, [] => (replacement, [])
  | (low, high) :: ranges, byte :: rest =>
      if low ≤ byte.toNat && byte.toNat ≤ high then
        readTail (value * 0x40 + (byte.toNat - 0x80)) ranges rest
      else (replacement, byte :: rest)

theorem readTail_length_le
    (value : Nat)
    (ranges : List (Nat × Nat))
    (bytes : List UInt8) :
    (readTail value ranges bytes).2.length ≤ bytes.length := by
  induction ranges generalizing value bytes with
  | nil => simp [readTail]
  | cons range ranges inductionHypothesis =>
      cases bytes with
      | nil => simp [readTail]
      | cons byte rest =>
          obtain ⟨low, high⟩ := range
          simp only [readTail]
          split
          · exact Nat.le_succ_of_le (inductionHypothesis _ rest)
          · exact Nat.le_refl _

/-- Reads one character from a byte and those that follow it. -/
def readChar (byte : UInt8) (rest : List UInt8) : Char × List UInt8 :=
  match lead? byte.toNat with
  | none => (replacement, rest)
  | some (value, ranges) => readTail value ranges rest

theorem readChar_length_le
    (byte : UInt8)
    (rest : List UInt8) :
    (readChar byte rest).2.length ≤ rest.length := by
  unfold readChar
  split
  · exact Nat.le_refl _
  · exact readTail_length_le _ _ _

/-- Reads bytes onto the characters read so far, the last one first. -/
def decodeOnto (readSoFar : List Char) : List UInt8 -> List Char
  | [] => readSoFar.reverse
  | byte :: rest =>
      decodeOnto ((readChar byte rest).1 :: readSoFar) (readChar byte rest).2
termination_by bytes => bytes.length
decreasing_by
  simpa using Nat.lt_succ_of_le (readChar_length_le byte rest)

/-- Reads bytes as a text. -/
def decode (bytes : List UInt8) : List Char :=
  decodeOnto [] bytes

/-- Whether bytes are the UTF-8 form of some text. -/
def isValid (bytes : List UInt8) : Bool :=
  encode (decode bytes) == bytes

end Utf8
end Text
end FieldOcr
