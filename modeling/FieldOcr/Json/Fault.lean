import FieldOcr.Text.Quoted

/-!
# Faults of JSON texts

Why a JSON text cannot be read as a value of some type, and where.  Lines are
counted from one and columns in bytes from the start of the line.
-/

namespace FieldOcr
namespace Json

/-- What stands where something else was expected. -/
inductive Found
  | null
  | boolean (value : Bool)
  | integer (value : Int)
  | decimal (text : String)
  | string (text : String)
  | sequence
  | map
  | unitVariant
  deriving DecidableEq, Repr

/-- The wording of what was found. -/
def Found.message : Found -> String
  | .null => "null"
  | .boolean value => s!"boolean `{value}`"
  | .integer value => s!"integer `{value}`"
  | .decimal text => s!"floating point `{text}`"
  | .string text => "string " ++ Text.quoted text
  | .sequence => "sequence"
  | .map => "map"
  | .unitVariant => "unit variant"

/-- Why a JSON text cannot be read. -/
inductive Cause
  | endOfValue
  | endOfList
  | endOfObject
  | endOfString
  | expectedColon
  | expectedListEnd
  | expectedObjectEnd
  | expectedIdentifier
  | expectedValue
  | invalidEscape
  | invalidNumber
  | numberOutOfRange
  | loneSurrogate
  | endOfSurrogate
  | controlCharacter
  | keyNotString
  | trailingComma
  | trailingCharacters
  | invalidType (found : Found) (expected : String)
  | invalidValue (found : Found) (expected : String)
  | invalidLength (length : Nat) (expected : String)
  | unknownVariant (name : String) (known : List String)
  | unknownField (name : String) (known : List String)
  | missingField (name : String)
  | duplicateField (name : String)
  deriving DecidableEq, Repr

/-- Names as alternatives. -/
def alternatives (names : List String) : String :=
  let quotedNames := names.map fun name => s!"`{name}`"
  match quotedNames with
  | [only] => only
  | [first, second] => first ++ " or " ++ second
  | _ => "one of " ++ ", ".intercalate quotedNames

/-- The wording of a cause. -/
def Cause.message : Cause -> String
  | .endOfValue => "EOF while parsing a value"
  | .endOfList => "EOF while parsing a list"
  | .endOfObject => "EOF while parsing an object"
  | .endOfString => "EOF while parsing a string"
  | .expectedColon => "expected `:`"
  | .expectedListEnd => "expected `,` or `]`"
  | .expectedObjectEnd => "expected `,` or `\x7d`"
  | .expectedIdentifier => "expected ident"
  | .expectedValue => "expected value"
  | .invalidEscape => "invalid escape"
  | .invalidNumber => "invalid number"
  | .numberOutOfRange => "number out of range"
  | .loneSurrogate => "lone leading surrogate in hex escape"
  | .endOfSurrogate => "unexpected end of hex escape"
  | .controlCharacter =>
      "control character (\\u0000-\\u001F) found while parsing a string"
  | .keyNotString => "key must be a string"
  | .trailingComma => "trailing comma"
  | .trailingCharacters => "trailing characters"
  | .invalidType found expected =>
      "invalid type: " ++ found.message ++ ", expected " ++ expected
  | .invalidValue found expected =>
      "invalid value: " ++ found.message ++ ", expected " ++ expected
  | .invalidLength length expected =>
      s!"invalid length {length}, expected {expected}"
  | .unknownVariant name known =>
      s!"unknown variant `{name}`, expected " ++ alternatives known
  | .unknownField name known =>
      s!"unknown field `{name}`, expected " ++ alternatives known
  | .missingField name => s!"missing field `{name}`"
  | .duplicateField name => s!"duplicate field `{name}`"

/-- A cause and the line and column at which it is reported, if it is located
at all. -/
structure Fault where
  /-- Why the text cannot be read. -/
  cause : Cause
  /-- The line and the column of the fault. -/
  place : Option (Nat × Nat)
  deriving DecidableEq, Repr

/-- The wording of a fault. -/
def Fault.message (fault : Fault) : String :=
  match fault.place with
  | none => fault.cause.message
  | some (line, column) =>
      fault.cause.message ++ s!" at line {line} column {column}"

end Json
end FieldOcr
