import FieldOcr.Json.Decode
import FieldOcr.Setup.Fault
import FieldOcr.Text.Blank
import FieldOcr.Text.Numeral
import FieldOcr.Text.Split

/-!
# Regions

A *region* is a rectangle of pixels.  It is written as its four sides with
commas between them; blank characters around a side are ignored on reading.
-/

namespace FieldOcr
namespace Recognition

/-- A rectangle of pixels. -/
structure Region where
  /-- The left side. -/
  left : Nat
  /-- The top side. -/
  top : Nat
  /-- The right side. -/
  right : Nat
  /-- The bottom side. -/
  bottom : Nat
  deriving DecidableEq, Repr

namespace Region

/-- The region of four sides, which must not be empty or inverted. -/
def ofSides (left top right bottom : Nat) : Except Setup.Fault Region :=
  if left < right && top < bottom then .ok ⟨left, top, right, bottom⟩
  else .error (.request (.invertedRegion left top right bottom))

/-- The characters of a region's text. -/
def toText (region : Region) : List Char :=
  Text.decimal region.left ++ ',' :: Text.decimal region.top ++
    ',' :: Text.decimal region.right ++ ',' :: Text.decimal region.bottom

/-- The text of a region. -/
def render (region : Region) : String :=
  String.ofList region.toText

/-- Reads the sides of a region, each a word of 32 bits. -/
def readSides (text : List Char) : Except Text.NumeralFault (List Nat) :=
  (Text.splitAll ',' text).mapM fun side => Text.readWord 32 (Text.trim side)

/-- Reads a region. -/
def read (text : String) : Except Setup.Fault Region :=
  match readSides text.toList with
  | .ok [left, top, right, bottom] => ofSides left top right bottom
  | _ => .error (.parameter .region text)

/-- Reads a region from JSON, in any shape. -/
def reader : Json.Reader Region :=
  let side := Json.word 32 "u32"
  Json.record "struct Region"
    [⟨"left", .never, fun region => do
        return { region with left := ← side }⟩,
      ⟨"top", .never, fun region => do
        return { region with top := ← side }⟩,
      ⟨"right", .never, fun region => do
        return { region with right := ← side }⟩,
      ⟨"bottom", .never, fun region => do
        return { region with bottom := ← side }⟩]
    false ⟨0, 0, 0, 0⟩

end Region
end Recognition
end FieldOcr
