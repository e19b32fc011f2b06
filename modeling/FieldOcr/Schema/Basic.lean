import FieldOcr.NameMap
import FieldOcr.Text.Blank
import FieldOcr.Text.Numeral

/-!
# Result schemas

A schema names the root element of a result and gives each element its rule:
the typed attributes it may or must carry, the children it may contain with
their occurrence bounds, and whether it may hold character data.  A schema is
*usable* when its root and every child it mentions have a rule, and every
occurrence range holds some positive count.
-/

namespace FieldOcr
namespace Schema

/-- The type of an attribute's value. -/
inductive AttributeType
  | string
  | integer
  | boolean
  deriving DecidableEq, Repr

namespace AttributeType

/-- The word for a type in a fault. -/
def word : AttributeType -> String
  | .string => "String"
  | .integer => "Integer"
  | .boolean => "Boolean"

/-- Whether a value is lexically of a type.  Blank characters around it are
ignored; an integer fits a signed word of 64 bits. -/
def accepts (type : AttributeType) (value : List Char) : Bool :=
  let trimmed := Text.trim value
  match type with
  | .string => true
  | .integer => (Text.readSigned (Nat.pow 2 63 - 1) trimmed).isOk
  | .boolean =>
      trimmed == "true".toList || trimmed == "false".toList ||
        trimmed == ['1'] || trimmed == ['0']

end AttributeType

/-- The rule of an attribute. -/
structure AttributeRule where
  /-- The type of the attribute's value. -/
  type : AttributeType := .string
  /-- Whether the attribute has to be present. -/
  required : Bool := false
  deriving DecidableEq, Repr

/-- How often a child may occur; without a maximum any number is allowed. -/
structure Occurrence where
  /-- The least number of occurrences. -/
  min : Nat := 0
  /-- The greatest number of occurrences, if there is one. -/
  max : Option Nat := none
  deriving DecidableEq, Repr

/-- Whether an occurrence range holds no positive count. -/
def Occurrence.isVoid (occurrence : Occurrence) : Bool :=
  match occurrence.max with
  | none => false
  | some greatest => greatest < occurrence.min || greatest == 0

/-- Whether one more than the maximum has been reached. -/
def Occurrence.exceededBy (occurrence : Occurrence) (count : Nat) : Bool :=
  match occurrence.max with
  | none => false
  | some greatest => greatest < count

/-- The rule of an element. -/
structure ElementRule where
  /-- The attributes with a rule of their own. -/
  attributes : NameMap AttributeRule := .empty
  /-- The children that are allowed. -/
  children : NameMap Occurrence := .empty
  /-- Whether character data that is not blank is allowed. -/
  text : Bool := false
  /-- Whether attributes without a rule are allowed. -/
  openAttributes : Bool := false
  deriving Repr

end Schema

/-- The grammar of one kind of result. -/
structure Schema where
  /-- The name of the schema. -/
  name : String
  /-- The name of the root element. -/
  root : String
  /-- The rules of the elements. -/
  elements : NameMap Schema.ElementRule
  deriving Repr

namespace Schema

/-- Why a schema is not usable. -/
inductive Flaw
  | rootWithoutRule (root : String)
  | childWithoutRule (element child : String)
  | voidRange (element child : String)
  deriving DecidableEq, Repr

/-- The wording of a flaw. -/
def Flaw.message : Flaw -> String
  | .rootWithoutRule root => s!"root element '{root}' has no rule"
  | .childWithoutRule element child =>
      s!"'{element}' allows child '{child}' which has no rule"
  | .voidRange element child =>
      s!"'{element}/{child}' has an empty occurrence range"

/-- The flaw of one child of an element. -/
def childFlaw?
    (schema : Schema)
    (element : String)
    (child : String × Occurrence) : Option Flaw :=
  if !schema.elements.contains child.1 then
    some (.childWithoutRule element child.1)
  else if child.2.isVoid then some (.voidRange element child.1)
  else none

/-- The first flaw of a schema: of its root, or else of the first flawed child
in the order of the names. -/
def flaw? (schema : Schema) : Option Flaw :=
  if !schema.elements.contains schema.root then
    some (.rootWithoutRule schema.root)
  else
    schema.elements.entries.findSome? fun (element, rule) =>
      rule.children.entries.findSome? (schema.childFlaw? element)

/-- The rule of an element, if the schema declares it. -/
def rule? (schema : Schema) (element : String) : Option ElementRule :=
  schema.elements.get? element

end Schema
end FieldOcr
