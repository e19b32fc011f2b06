import FieldOcr.Text.Utf8

/-!
# Percent encoding

Each part of an address has its own set of characters that may not stand for
themselves.  Characters outside printable ASCII are always encoded, byte by
byte of their UTF-8 form.
-/

namespace FieldOcr
namespace Url

/-- An upper-case hexadecimal digit. -/
def hexDigit (value : Nat) : Char :=
  if value < 10 then Char.ofNat (0x30 + value)
  else Char.ofNat (0x41 + (value - 10))

/-- A byte behind a percent sign. -/
def percentByte (byte : UInt8) : List Char :=
  ['%', hexDigit (byte.toNat / 16), hexDigit (byte.toNat % 16)]

/-- The characters that are encoded in every part: controls and everything
outside ASCII. -/
def isControl (character : Char) : Bool :=
  character.toNat < 0x20 || 0x7E < character.toNat

/-- The characters that are encoded in a fragment. -/
def encodedInFragment (character : Char) : Bool :=
  isControl character || " \"<>`".toList.contains character

/-- The characters that are encoded in a path. -/
def encodedInPath (character : Char) : Bool :=
  encodedInFragment character || "#?\x7b\x7d".toList.contains character

/-- The characters that are encoded in a user name or password. -/
def encodedInUserinfo (character : Char) : Bool :=
  encodedInPath character || "/:;=@[\\]^|".toList.contains character

/-- The characters that are encoded in a query; the query of a special scheme
encodes the apostrophe too. -/
def encodedInQuery (special : Bool) (character : Char) : Bool :=
  isControl character || " \"#<>".toList.contains character ||
    (special && character == '\'')

/-- Encodes the characters of a set. -/
def percentEncode
    (encoded : Char -> Bool)
    (text : List Char) : List Char :=
  text.flatMap fun character =>
    if encoded character then
      (Text.Utf8.encodeChar character).flatMap percentByte
    else [character]

/-- The value of a hexadecimal digit. -/
def hexValue? (byte : UInt8) : Option Nat :=
  let code := byte.toNat
  if 0x30 ≤ code && code ≤ 0x39 then some (code - 0x30)
  else if 0x41 ≤ code && code ≤ 0x46 then some (code - 0x41 + 10)
  else if 0x61 ≤ code && code ≤ 0x66 then some (code - 0x61 + 10)
  else none

/-- Decodes bytes; a percent sign without two hexadecimal digits behind it
stands for itself. -/
def percentDecode : List UInt8 -> List UInt8
  | [] => []
  | [first] => [first]
  | [first, second] => [first, second]
  | first :: high :: low :: rest =>
      if first == 0x25 then
        match hexValue? high, hexValue? low with
        | some highValue, some lowValue =>
            UInt8.ofNat (highValue * 16 + lowValue) :: percentDecode rest
        | _, _ => first :: percentDecode (high :: low :: rest)
      else first :: percentDecode (high :: low :: rest)

end Url
end FieldOcr
