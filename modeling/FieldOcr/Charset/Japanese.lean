/-!
# Japanese charsets

Kana, marks and wide letters stand in a grid of rows with 94 cells each.  A
*cell* is the position of a character in this grid, counted from zero.  Three
charsets write a cell as two bytes; they differ in how they do it and in what
they do with the narrow katakana, the yen sign and the overline.
-/

namespace FieldOcr
namespace Charset
namespace Japanese

/-- The code points of the first row, which holds marks. -/
def marks : List Nat :=
  [0x3000, 0x3001, 0x3002, 0xFF0C, 0xFF0E, 0x30FB, 0xFF1A, 0xFF1B, 0xFF1F,
    0xFF01, 0x309B, 0x309C, 0xB4, 0xFF40, 0xA8, 0xFF3E, 0xFFE3, 0xFF3F, 0x30FD,
    0x30FE, 0x309D, 0x309E, 0x3003, 0x4EDD, 0x3005, 0x3006, 0x3007, 0x30FC,
    0x2015, 0x2010, 0xFF0F, 0xFF3C, 0xFF5E, 0x2225, 0xFF5C, 0x2026, 0x2025,
    0x2018, 0x2019, 0x201C, 0x201D, 0xFF08, 0xFF09, 0x3014, 0x3015, 0xFF3B,
    0xFF3D, 0xFF5B, 0xFF5D, 0x3008, 0x3009, 0x300A, 0x300B, 0x300C, 0x300D,
    0x300E, 0x300F, 0x3010, 0x3011, 0xFF0B, 0xFF0D, 0xB1, 0xD7, 0xF7, 0xFF1D,
    0x2260, 0xFF1C, 0xFF1E, 0x2266, 0x2267, 0x221E, 0x2234, 0x2642, 0x2640,
    0xB0, 0x2032, 0x2033, 0x2103, 0xFFE5, 0xFF04, 0xFFE0, 0xFFE1, 0xFF05,
    0xFF03, 0xFF06, 0xFF0A, 0xFF20, 0xA7, 0x2606, 0x2605, 0x25CB, 0x25CF,
    0x25CE, 0x25C7]

/-- The code points of the wide characters for the narrow katakana from
U+FF61 on. -/
def wideForNarrow : List Nat :=
  [0x3002, 0x300C, 0x300D, 0x3001, 0x30FB, 0x30F2, 0x30A1, 0x30A3, 0x30A5,
    0x30A7, 0x30A9, 0x30E3, 0x30E5, 0x30E7, 0x30C3, 0x30FC, 0x30A2, 0x30A4,
    0x30A6, 0x30A8, 0x30AA, 0x30AB, 0x30AD, 0x30AF, 0x30B1, 0x30B3, 0x30B5,
    0x30B7, 0x30B9, 0x30BB, 0x30BD, 0x30BF, 0x30C1, 0x30C4, 0x30C6, 0x30C8,
    0x30CA, 0x30CB, 0x30CC, 0x30CD, 0x30CE, 0x30CF, 0x30D2, 0x30D5, 0x30D8,
    0x30DB, 0x30DE, 0x30DF, 0x30E0, 0x30E1, 0x30E2, 0x30E4, 0x30E6, 0x30E8,
    0x30E9, 0x30EA, 0x30EB, 0x30EC, 0x30ED, 0x30EF, 0x30F3, 0x309B, 0x309C]

/-- The ranges of the grid beyond its first row, each with the cell of its
first character. -/
def ranges : List (Nat × Nat × Nat) :=
  [(0xFF10, 0xFF19, 203), (0xFF21, 0xFF3A, 220), (0xFF41, 0xFF5A, 252),
    (0x3041, 0x3093, 282), (0x30A1, 0x30F6, 376)]

/-- The cell of a code point.  The minus sign shares the cell of its wide
form. -/
def cell? (code : Nat) : Option Nat :=
  let wide := if code = 0x2212 then 0xFF0D else code
  match marks.idxOf? wide with
  | some cell => some cell
  | none =>
      (ranges.find? fun (low, high, _) => low ≤ wide && wide ≤ high).map
        fun (low, _, cell) => cell + (wide - low)

/-- Whether a code point is one of the narrow katakana. -/
def isNarrow (code : Nat) : Bool :=
  0xFF61 ≤ code && code ≤ 0xFF9F

/-- The position of the yen sign or the overline in ASCII, which both take
from another character there. -/
def replacedAscii? (code : Nat) : Option Nat :=
  if code = 0xA5 then some 0x5C
  else if code = 0x203E then some 0x7E
  else none

/-- The shifted form: rows come in pairs, and the second byte tells the rows
of a pair apart. -/
def shifted? (code : Nat) : Option (List Nat) :=
  if code ≤ 0x80 then some [code]
  else
    match replacedAscii? code with
    | some ascii => some [ascii]
    | none =>
        if isNarrow code then some [code - 0xFF61 + 0xA1]
        else
          (cell? code).map fun cell =>
            let pair := cell / 188
            let within := cell % 188
            [pair + (if pair < 0x1F then 0x81 else 0xC1),
              within + (if within < 0x3F then 0x40 else 0x41)]

/-- The extended form: both bytes of a cell lie above ASCII. -/
def extended? (code : Nat) : Option (List Nat) :=
  if code < 0x80 then some [code]
  else
    match replacedAscii? code with
    | some ascii => some [ascii]
    | none =>
        if isNarrow code then some [0x8E, code - 0xFF61 + 0xA1]
        else
          (cell? code).map fun cell =>
            [cell / 94 + 0xA1, cell % 94 + 0xA1]

/-- The character set that the bytes of the switching form stand for. -/
inductive Mode
  | ascii
  | roman
  | grid
  deriving DecidableEq, Repr

/-- The bytes that switch to a mode. -/
def Mode.switch : Mode -> List Nat
  | .ascii => [0x1B, 0x28, 0x42]
  | .roman => [0x1B, 0x28, 0x4A]
  | .grid => [0x1B, 0x24, 0x42]

/-- The bytes that go from one mode to another. -/
def Mode.goTo (mode next : Mode) : List Nat :=
  if mode = next then [] else next.switch

/-- Whether a code point would be read as a switch. -/
def isSwitching (code : Nat) : Bool :=
  code = 0x0E || code = 0x0F || code = 0x1B

/-- The wide code point of a narrow katakana; other code points stay. -/
def widen (code : Nat) : Nat :=
  if isNarrow code then (wideForNarrow[code - 0xFF61]?).getD code else code

/-- The switching form of a code point: the mode that it needs and its bytes
there.  ASCII stays in the Roman mode where that mode has the character. -/
def switching? (mode : Mode) (code : Nat) : Option (Mode × List Nat) :=
  if isSwitching code then none
  else if code < 0x80 then
    if mode = .roman && code ≠ 0x5C && code ≠ 0x7E then some (.roman, [code])
    else some (.ascii, [code])
  else
    match replacedAscii? code with
    | some ascii => some (.roman, [ascii])
    | none =>
        (cell? (widen code)).map fun cell =>
          (.grid, [cell / 94 + 0x21, cell % 94 + 0x21])

end Japanese
end Charset
end FieldOcr
