/-!
# Base64

Bytes as text: three bytes make four digits of six bits, and a last group of
one or two bytes is filled up with equals signs.
-/

namespace FieldOcr
namespace Text
namespace Base64

/-- The digit of a value below 64. -/
def digit (value : Nat) : Char :=
  if value < 26 then Char.ofNat (0x41 + value)
  else if value < 52 then Char.ofNat (0x61 + (value - 26))
  else if value < 62 then Char.ofNat (0x30 + (value - 52))
  else if value = 62 then '+'
  else '/'

/-- The value of a digit. -/
def value? (character : Char) : Option Nat :=
  let code := character.toNat
  if 0x41 ≤ code && code ≤ 0x5A then some (code - 0x41)
  else if 0x61 ≤ code && code ≤ 0x7A then some (code - 0x61 + 26)
  else if 0x30 ≤ code && code ≤ 0x39 then some (code - 0x30 + 52)
  else if character = '+' then some 62
  else if character = '/' then some 63
  else none

/-- Writes bytes. -/
def encode : List UInt8 -> List Char
  | [] => []
  | [first] =>
      [digit (first.toNat / 4), digit (first.toNat % 4 * 16), '=', '=']
  | [first, second] =>
      [digit (first.toNat / 4),
        digit (first.toNat % 4 * 16 + second.toNat / 16),
        digit (second.toNat % 16 * 4), '=']
  | first :: second :: third :: rest =>
      digit (first.toNat / 4) ::
        digit (first.toNat % 4 * 16 + second.toNat / 16) ::
        digit (second.toNat % 16 * 4 + third.toNat / 64) ::
        digit (third.toNat % 64) :: encode rest

/-- The bytes of a group of four digits. -/
def groupBytes (a b c d : Nat) : List UInt8 :=
  [UInt8.ofNat (a * 4 + b / 16), UInt8.ofNat (b % 16 * 16 + c / 4),
    UInt8.ofNat (c % 4 * 64 + d)]

/-- Reads a group of four digits. -/
def readGroup? (first second third fourth : Char) : Option (List UInt8) := do
  return groupBytes (← value? first) (← value? second) (← value? third)
    (← value? fourth)

/-- Reads digits.  Their number has to be a multiple of four; equals signs may
stand at the end only. -/
def decode? : List Char -> Option (List UInt8)
  | [] => some []
  | [first, second, '=', '='] =>
      (readGroup? first second 'A' 'A').map (·.take 1)
  | [first, second, third, '='] =>
      (readGroup? first second third 'A').map (·.take 2)
  | first :: second :: third :: fourth :: rest => do
      let bytes ← readGroup? first second third fourth
      return bytes ++ (← decode? rest)
  | _ => none

end Base64
end Text
end FieldOcr
