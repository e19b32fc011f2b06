import FieldOcr.Text.Quoted

/-!
# Outlines of values

An *outline* shows a value on one line for people to read: a record as its name
and its fields in braces, a list in brackets, and an optional value behind the
word that says whether there is one.
-/

namespace FieldOcr
namespace Text
namespace Outline

/-- A name and, in braces, what stands for some fields. -/
def braced (name : String) (shown : List String) : String :=
  name ++ " \x7b " ++ ", ".intercalate shown ++ " \x7d"

/-- The outline of one field. -/
def field (entry : String × String) : String :=
  entry.1 ++ ": " ++ entry.2

/-- The outline of a record. -/
def record (name : String) (fields : List (String × String)) : String :=
  braced name (fields.map field)

/-- The outline of a record that has further fields. -/
def openRecord (name : String) (fields : List (String × String)) : String :=
  braced name (fields.map field ++ [".."])

/-- The outline of an optional value. -/
def optional (outline : α -> String) : Option α -> String
  | none => "None"
  | some value => "Some(" ++ outline value ++ ")"

/-- The outline of a list. -/
def list (outline : α -> String) (values : List α) : String :=
  "[" ++ ", ".intercalate (values.map outline) ++ "]"

/-- The outline of a truth value. -/
def boolean (value : Bool) : String :=
  if value then "true" else "false"

/-- One character of a path inside quotes. -/
def pathChar (character : Char) : String :=
  if character == '\'' then "\\'" else quoteChar character

/-- The outline of a path. -/
def path (text : String) : String :=
  "\"" ++ String.join (text.toList.map pathChar) ++ "\""

/-- The outline of a secret. -/
def secret (_text : String) : String :=
  quoted "<redacted>"

/-- The digits behind the point of a number of thousandths, without zeros at
the end. -/
def fraction (thousandths : Nat) : String :=
  let digits := [thousandths / 100, thousandths / 10 % 10, thousandths % 10]
  let shown := (digits.reverse.dropWhile (· = 0)).reverse
  if shown.isEmpty then ""
  else "." ++ String.join (shown.map toString)

/-- The outline of a time in milliseconds. -/
def milliseconds (time : Nat) : String :=
  if 1000 ≤ time then toString (time / 1000) ++ fraction (time % 1000) ++ "s"
  else if 0 < time then s!"{time}ms"
  else "0ns"

/-- The outline of a time limit.  Without one, the outline of the longest time
stands. -/
def limit : Option Nat -> String
  | some time => milliseconds time
  | none => "18446744073709551615.999999999s"

end Outline
end Text
end FieldOcr
