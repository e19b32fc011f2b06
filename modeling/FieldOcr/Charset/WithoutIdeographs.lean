import FieldOcr.Charset.Encode
import FieldOcr.Charset.Japanese

/-!
# An encoder without ideographs

The charsets with tables as far as they write ASCII, the marks, digits, letters
and kana of the first rows of the Japanese grid, and the code points beyond the
basic plane that need no table.  Every other character is written as a numeric
reference, as if the charset did not have it.
-/

namespace FieldOcr
namespace Charset

/-- Writes a text one character at a time. -/
def encodeEach
    (bytes? : Nat -> Option (List Nat))
    (text : List Char) : List UInt8 :=
  text.flatMap fun character =>
    match bytes? character.toNat with
    | some bytes => bytes.map UInt8.ofNat
    | none => referenceBytes character.toNat

/-- Writes a text in the switching form from a mode on, and ends in ASCII.
In front of a reference the grid is left; a character that would be read as a
switch is written as a reference to the replacement character. -/
def encodeSwitching (mode : Japanese.Mode) : List Char -> List (List Nat)
  | [] => [mode.goTo .ascii]
  | character :: rest =>
      let code := character.toNat
      match Japanese.switching? mode code with
      | some (next, bytes) =>
          mode.goTo next :: bytes :: encodeSwitching next rest
      | none =>
          let next := if mode = .grid then .ascii else mode
          let shown := if Japanese.isSwitching code then 0xFFFD else code
          mode.goTo next :: (reference shown).map Char.toNat ::
            encodeSwitching next rest

/-- The four bytes of a code point beyond the basic plane. -/
def fourBytes? (code : Nat) : Option (List Nat) :=
  if code < 0x80 then some [code]
  else if code < 0x10000 then none
  else
    let index := 189000 + (code - 0x10000)
    some [index / 12600 + 0x81, index / 1260 % 10 + 0x30,
      index / 10 % 126 + 0x81, index % 10 + 0x30]

/-- The byte of an ASCII code point. -/
def ascii? (code : Nat) : Option (List Nat) :=
  if code < 0x80 then some [code] else none

/-- The encoder without ideographs.  It is used unless another one is given. -/
instance Encoder.withoutIdeographs : Encoder where
  encode tables text :=
    match tables with
    | .shiftJis => encodeEach Japanese.shifted? text
    | .eucJp => encodeEach Japanese.extended? text
    | .iso2022Jp => (encodeSwitching .ascii text).flatten.map UInt8.ofNat
    | .gb18030 => encodeEach fourBytes? text
    | .gbk | .big5 | .eucKr => encodeEach ascii? text

end Charset
end FieldOcr
