import FieldOcr.Text.Split
import FieldOcr.Url.Basic
import FieldOcr.Url.Percent

/-!
# Queries as lists of pairs

The encoding of named values in a query.  Letters, digits and four marks stand
for themselves, a space is written as a plus sign and every other byte behind
a percent sign.  `decodePairs` reads a query back.
-/

namespace FieldOcr
namespace Url

/-- Whether a byte stands for itself in an encoded value. -/
def isPlain (byte : UInt8) : Bool :=
  (0x30 ≤ byte && byte ≤ 0x39) || (0x41 ≤ byte && byte ≤ 0x5A) ||
    (0x61 ≤ byte && byte ≤ 0x7A) || byte == 0x2A || byte == 0x2D ||
    byte == 0x2E || byte == 0x5F

/-- One byte of an encoded value. -/
def formByte (byte : UInt8) : List Char :=
  if byte == 0x20 then ['+']
  else if isPlain byte then [Char.ofNat byte.toNat]
  else percentByte byte

/-- A name or value in its encoded form. -/
def formEncode (text : List Char) : List Char :=
  (Text.Utf8.encode text).flatMap formByte

/-- A name and its value in their encoded form. -/
def encodePair (pair : List Char × List Char) : List Char :=
  formEncode pair.1 ++ '=' :: formEncode pair.2

/-- Pairs in their encoded form. -/
def encodePairs (pairs : List (List Char × List Char)) : List Char :=
  ['&'].intercalate (pairs.map encodePair)

/-- Reads an encoded name or value. -/
def formDecode (text : List Char) : List Char :=
  let spaced :=
    text.map fun character => if character == '+' then ' ' else character
  Text.Utf8.decode (percentDecode (Text.Utf8.encode spaced))

/-- Reads an encoded pair; without an equals sign the value is empty. -/
def decodePair (piece : List Char) : List Char × List Char :=
  (formDecode (piece.takeWhile (· != '=')),
    formDecode ((piece.dropWhile (· != '=')).drop 1))

/-- Reads a query as a list of pairs; empty pieces count for nothing. -/
def decodePairs (query : List Char) : List (List Char × List Char) :=
  ((Text.splitAll '&' query).filter fun piece => !piece.isEmpty).map decodePair

end Url
end FieldOcr
