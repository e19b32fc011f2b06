/-!
# Punycode labels

Decoding of the ASCII form of an international label.  It is used only to
refuse labels that are no such form.
-/

namespace FieldOcr
namespace Url
namespace Punycode

/-- The value of a digit: letters first, then the ten decimal digits. -/
def digitValue? (character : Char) : Option Nat :=
  let code := character.toNat
  if 0x61 ≤ code && code ≤ 0x7A then some (code - 0x61)
  else if 0x41 ≤ code && code ≤ 0x5A then some (code - 0x41)
  else if 0x30 ≤ code && code ≤ 0x39 then some (code - 0x30 + 26)
  else none

/-- The threshold of the digit at a position. -/
def threshold (position bias : Nat) : Nat :=
  if position ≤ bias then 1
  else if bias + 26 ≤ position then 26
  else position - bias

/-- Scales a delta down until it is small. -/
def reduceDelta (delta scale : Nat) : Nat × Nat :=
  if 455 < delta then reduceDelta (delta / 35) (scale + 36) else (delta, scale)
termination_by delta
decreasing_by exact Nat.div_lt_self (by omega) (by omega)

/-- The bias after a delta was read. -/
def adapt (delta count : Nat) (first : Bool) : Nat :=
  let damped := if first then delta / 700 else delta / 2
  let (reduced, scale) := reduceDelta (damped + damped / count) 0
  scale + 36 * reduced / (reduced + 38)

/-- Reads one delta onto an index. -/
def readDelta
    (bias : Nat)
    (position weight index : Nat) : List Char -> Option (Nat × List Char)
  | [] => none
  | character :: rest =>
      match digitValue? character with
      | none => none
      | some digit =>
          let limit := threshold position bias
          let index := index + digit * weight
          if digit < limit then some (index, rest)
          else readDelta bias (position + 36) (weight * (36 - limit)) index rest

/-- Inserts code points into those decoded so far until the deltas end. -/
def insertAll
    (bias code index : Nat)
    (decoded : List Nat)
    (text : List Char) : Nat -> Option (List Nat)
  | 0 => none
  | fuel + 1 =>
      match text with
      | [] => some decoded
      | _ =>
          match readDelta bias 36 1 index text with
          | none => none
          | some (reached, rest) =>
              let count := decoded.length + 1
              let code := code + reached / count
              let place := reached % count
              if code.isValidChar then
                insertAll (adapt (reached - index) count (index == 0)) code
                  (place + 1) (decoded.insertIdx place code) rest fuel
              else none

/-- The code points of a label behind its marker. -/
def decode? (text : List Char) : Option (List Nat) :=
  let extension := (text.reverse.takeWhile (· != '-')).reverse
  let basic := (text.reverse.dropWhile (· != '-')).drop 1
  insertAll 72 128 0 (basic.reverse.map Char.toNat) extension (text.length + 1)

/-- Whether a label behind its marker may name a host: it decodes to some code
points, of which one at least is outside ASCII and none is a control. -/
def isLabel (text : List Char) : Bool :=
  match decode? text with
  | none => false
  | some codes =>
      codes.any (0x80 ≤ ·) && codes.all fun code =>
        !(0x80 ≤ code && code < 0xA0)

end Punycode
end Url
end FieldOcr
