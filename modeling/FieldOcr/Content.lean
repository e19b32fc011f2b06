import FieldOcr.Text.Blank
import FieldOcr.Text.Utf16
import FieldOcr.Text.Utf8
import FieldOcr.Text.WordCharacter

/-!
# The content of a result

The bytes of a result are read as the encoding that their byte-order mark
names, and as UTF-8 without one.  The text keeps what stands in front of its
first tag; a copy without this noise is what gets checked.
-/

namespace FieldOcr
namespace Content

/-- Reads the bytes of a result.  A byte-order mark chooses the encoding and
is no part of the text. -/
def decode : List UInt8 -> List Char
  | 0xEF :: 0xBB :: 0xBF :: rest => Text.Utf8.decode rest
  | 0xFF :: 0xFE :: rest => Text.Utf16.decode .little rest
  | 0xFE :: 0xFF :: rest => Text.Utf16.decode .big rest
  | bytes => Text.Utf8.decode bytes

/-- Drops one byte-order mark in front of a text. -/
def stripByteOrderMark : List Char -> List Char
  | '\uFEFF' :: rest => rest
  | text => text

/-- Drops noise in front of the last bracket reached before the first word
character, given the longest suffix of the text found so far.  `inside` holds
once a character of noise was passed. -/
def afterNoise
    (inside : Bool)
    (found : List Char) : List Char -> List Char
  | [] => found
  | character :: rest =>
      if Text.isWord character then found
      else if character == '<' && inside then
        afterNoise true (character :: rest) rest
      else afterNoise true found rest

/-- Trims a text, and drops all characters in front of the last bracket that
only characters which are no word characters precede. -/
def stripNoise (text : List Char) : List Char :=
  afterNoise false (Text.trim text) (Text.trim text)

end Content
end FieldOcr
