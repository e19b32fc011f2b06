import FieldOcr.Json.Decode
import FieldOcr.Setup.Fault
import FieldOcr.Text.Blank

/-!
# Closed sets of values with a word each

A *vocabulary* lists the values of a parameter and gives each its word on the
wire.  Reading ignores blank characters around a word and the case of its
ASCII letters.
-/

namespace FieldOcr
namespace Recognition

/-- Whether two texts agree up to the case of ASCII letters. -/
def agreeIgnoringCase (left right : String) : Bool :=
  left.toList.map Char.toLower == right.toList.map Char.toLower

/-- The values of a parameter and their words. -/
structure Vocabulary (α : Type) where
  /-- The parameter that takes the values. -/
  parameter : Setup.Parameter
  /-- The values in the order in which they are listed. -/
  values : List α
  /-- The word of a value on the wire. -/
  word : α -> String
  /-- The capitalized name of a value. -/
  name : α -> String := fun value => (word value).capitalize

namespace Vocabulary

/-- The value of a word. -/
def find? (vocabulary : Vocabulary α) (text : String) : Option α :=
  vocabulary.values.find? fun value =>
    agreeIgnoringCase (vocabulary.word value) text

/-- Reads a word. -/
def read
    (vocabulary : Vocabulary α)
    (text : String) : Except Setup.Fault α :=
  let trimmed := Text.trimString text
  match vocabulary.find? trimmed with
  | some value => .ok value
  | none => .error (.parameter vocabulary.parameter trimmed)

/-- Reads a word from JSON, where its case counts. -/
def reader (vocabulary : Vocabulary α) : Json.Reader α :=
  Json.enumeration
    (vocabulary.values.map fun value => (vocabulary.word value, value))

end Vocabulary
end Recognition
end FieldOcr
