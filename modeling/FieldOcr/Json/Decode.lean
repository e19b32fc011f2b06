import FieldOcr.Json.Reader
import FieldOcr.NameMap

/-!
# Reading typed values from JSON texts

Readers for scalars, enumerations, records and maps.  A record may be written
as an object, with its members in any order, or as a sequence of its fields.
-/

namespace FieldOcr
namespace Json

open Reader

/-- Reads a value after white space, by its first byte. -/
def valueBy (read : UInt8 -> Reader α) : Reader α := do
  match ← skipSpace with
  | none => failNext .endOfValue
  | some byte => read byte

/-- Reads a string; `expected` names it in faults. -/
def stringAs (expected : String) : Reader String :=
  valueBy fun byte =>
    if byte == 0x22 then do
      eat
      stringTail
    else invalidType expected

/-- Reads a string. -/
def string : Reader String :=
  stringAs "a string"

/-- Reads a boolean. -/
def boolean : Reader Bool :=
  valueBy fun byte =>
    if byte == 0x74 then do
      eat
      trueTail
      return true
    else if byte == 0x66 then do
      eat
      falseTail
      return false
    else invalidType "a boolean"

/-- Reads an unsigned word of some bits; `expected` names it in faults. -/
def word (bits : Nat) (expected : String) : Reader Nat :=
  valueBy fun byte =>
    if byte == 0x2D || isDigit byte then do
      match ← number with
      | .integer value =>
          if 0 ≤ value && value < Nat.pow 2 bits then return value.natAbs
          else failHere (.invalidValue (.integer value) expected)
      | double => failHere (.invalidType double.found expected)
    else invalidType expected

/-- Reads a value or null. -/
def optional (read : Reader α) : Reader (Option α) := do
  match ← skipSpace with
  | some 0x6E => do
      eat
      nullTail
      return none
  | _ => return some (← read)

/-- Reads null. -/
def null : Reader Unit :=
  valueBy fun byte =>
    if byte == 0x6E then do
      eat
      nullTail
    else invalidType "unit"

/-- Reads the name of one of some variants. -/
def variantName (known : List String) : Reader String := do
  let name ← stringAs "variant identifier"
  if known.contains name then return name
  else failHere (.unknownVariant name known)

/-- Reads a variant: either its bare name, or an object whose only key is its
name and whose value is its payload. -/
def variant
    (known : List String)
    (bare payload : String -> Reader α) : Reader α := do
  match ← skipSpace with
  | none => failNext .endOfValue
  | some 0x22 => do
      bare (← variantName known)
  | some 0x7B => do
      eat
      let name ← variantName known
      colon
      let value ← payload name
      match ← skipSpace with
      | some 0x7D => do
          eat
          return value
      | some _ => failHere .expectedValue
      | none => failHere .endOfObject
  | some _ => failNext .expectedValue

/-- Reads one of some named values without payload. -/
def enumeration (values : List (String × α)) : Reader α := do
  let known := values.map (·.1)
  let name ← variant known pure fun name => do
    null
    return name
  match values.find? (·.1 == name) with
  | some (_, value) => return value
  | none => failHere (.unknownVariant name known)

/-- When a field of a record may be left out. -/
inductive Absence
  | never
  | asMember
  | always
  deriving DecidableEq

/-- A field of a record. -/
structure FieldRule (α : Type) where
  /-- The name of the field. -/
  name : String
  /-- When the field may be left out. -/
  absence : Absence
  /-- Reads the field's value into the record. -/
  read : α -> Reader α

/-- How the fields of a record are counted in a fault. -/
def countText (expected : String) (count : Nat) : String :=
  s!"{expected} with {count} element" ++ (if count = 1 then "" else "s")

/-- Reads the fields of a record written as a sequence. -/
def elements
    (expected : String)
    (count index : Nat)
    (value : α) : List (FieldRule α) -> Reader α
  | [] => return value
  | field :: others => do
      if ← moreElements (index == 0) then
        elements expected count (index + 1) (← field.read value) others
      else if field.absence = .always then
        elements expected count (index + 1) value others
      else failUnplaced (.invalidLength index (countText expected count))

/-- Reads the members of a record written as an object.  `seen` lists the
fields read so far. -/
def members
    (fields : List (FieldRule α))
    (strict : Bool)
    (seen : List String)
    (value : α) : Nat -> Reader (List String × α)
  | 0 => failHere .endOfObject
  | fuel + 1 => do
      if ← moreKeys seen.isEmpty then
        eat
        let key ← stringTail
        match fields.find? (·.name == key) with
        | some field =>
            if seen.contains key then failUnplaced (.duplicateField key)
            else
              colon
              members fields strict (key :: seen) (← field.read value) fuel
        | none =>
            if strict then
              failUnplaced (.unknownField key (fields.map (·.name)))
            else
              colon
              skipValue
              members fields strict ("" :: seen) value fuel
      else return (seen, value)

/-- Reads a record onto the values that its fields have when left out.  A
strict record has no other members. -/
def record
    (expected : String)
    (fields : List (FieldRule α))
    (strict : Bool)
    (initial : α) : Reader α :=
  valueBy fun byte =>
    if byte == 0x5B then
      placed do
        eat
        thenEnd (elements expected fields.length 0 initial fields) sequenceEnd
    else if byte == 0x7B then
      placed do
        eat
        let contents : Reader α := do
          let rest ← get
          let (seen, value) ←
            members fields strict [] initial (rest.length + 1)
          match fields.find? fun field =>
              field.absence = .never && !seen.contains field.name with
          | some field => failUnplaced (.missingField field.name)
          | none => return value
        thenEnd contents objectEnd
    else invalidType expected

/-- Reads the entries of an object onto those read so far. -/
def entries
    (read : Reader α)
    (first : Bool)
    (map : NameMap α) : Nat -> Reader (NameMap α)
  | 0 => failHere .endOfObject
  | fuel + 1 => do
      if ← moreKeys first then
        eat
        let key ← stringTail
        colon
        entries read false (map.insert key (← read)) fuel
      else return map

/-- Reads an object whose members all have one type. -/
def map (read : Reader α) : Reader (NameMap α) :=
  valueBy fun byte =>
    if byte == 0x7B then
      placed do
        eat
        let rest ← get
        thenEnd (entries read true .empty (rest.length + 1)) objectEnd
    else invalidType "a map"

/-- The line and column of a place given by the number of bytes before it. -/
def lineAndColumn (bytes : List UInt8) (index : Nat) : Nat × Nat :=
  let before := bytes.take index
  let column := (before.reverse.takeWhile (· != 0x0A)).length
  (before.count 0x0A + 1, column)

/-- Reads a whole text as one value. -/
def decode (read : Reader α) (text : String) : Except Fault α :=
  let bytes := Text.Utf8.encode text.toList
  let whole : Reader α := do
    let value ← read
    match ← skipSpace with
    | some _ => failNext .trailingCharacters
    | none => return value
  match whole bytes with
  | .ok value _ => .ok value
  | .error stop _ =>
      .error ⟨stop.cause,
        stop.left.map fun left => lineAndColumn bytes (bytes.length - left)⟩

end Json
end FieldOcr
