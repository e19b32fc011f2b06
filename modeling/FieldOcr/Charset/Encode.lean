import FieldOcr.Charset.Basic
import FieldOcr.Text.Numeral

/-!
# Writing texts in a charset

A character that the charset does not have is written as a numeric reference.
UTF-16 is written without a byte-order mark, and the replacement charset is
written as UTF-8.  The charsets with tables are written by an encoder that is
given.
-/

namespace FieldOcr
namespace Charset

/-- The numeric reference to a code point. -/
def reference (code : Nat) : List Char :=
  '&' :: '#' :: Text.decimal code ++ [';']

/-- The bytes of the numeric reference to a code point. -/
def referenceBytes (code : Nat) : List UInt8 :=
  (reference code).map fun character => UInt8.ofNat character.toNat

/-- Writes a text in a code page. -/
def CodePage.encode (page : CodePage) (text : List Char) : List UInt8 :=
  text.flatMap fun character =>
    match page.byte? character with
    | some byte => [byte]
    | none => referenceBytes character.toNat

/-- How texts are written in the charsets with tables.  Neither the tables nor
the ways to write their places are part of the program. -/
class Encoder where
  /-- Writes a text in a charset with tables. -/
  encode : MultiByte -> List Char -> List UInt8

/-- Writes a text in a charset. -/
def encode
    (charset : Charset)
    (encoder : Encoder)
    (text : List Char) : List UInt8 :=
  match charset with
  | .utf8 | .replacement => Text.Utf8.encode text
  | .utf16 order => Text.Utf16.encode order text
  | .singleByte page => page.encode text
  | .multiByte tables => encoder.encode tables text

end Charset
end FieldOcr
