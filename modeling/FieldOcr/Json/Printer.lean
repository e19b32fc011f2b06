import FieldOcr.Text.Quoted

/-!
# Printing of JSON

A text is printed in quotes.  Quotes, backslashes and control characters are
escaped; all other characters stand for themselves.
-/

namespace FieldOcr
namespace Json

/-- A control character as an escape. -/
def escapeControl (character : Char) : String :=
  let code := character.toNat
  "\\u00" ++
    String.ofList [Nat.digitChar (code / 16), Nat.digitChar (code % 16)]

/-- One character of a text. -/
def escape (character : Char) : String :=
  match character with
  | '"' => "\\\""
  | '\\' => "\\\\"
  | '\n' => "\\n"
  | '\r' => "\\r"
  | '\t' => "\\t"
  | '\x08' => "\\b"
  | '\x0c' => "\\f"
  | character =>
      if character.toNat < 0x20 then escapeControl character
      else String.singleton character

/-- A text in quotes. -/
def quote (text : String) : String :=
  "\"" ++ String.join (text.toList.map escape) ++ "\""

/-- A member of an object on a line of its own. -/
def memberLine (member : String × String) : String :=
  "  " ++ quote member.1 ++ ": " ++ quote member.2

/-- An object of texts with a line for each member. -/
def objectLines (members : List (String × String)) : String :=
  "\x7b\n" ++ ",\n".intercalate (members.map memberLine) ++ "\n\x7d"

end Json
end FieldOcr
