import FieldOcr.Json.Decode
import FieldOcr.Schema.Basic

/-!
# Reading schemas from JSON

A schema document is an object of a name, a root and the rules of the
elements.  Apart from these three, every part may be left out; no part that is
unknown may be present.
-/

namespace FieldOcr
namespace Schema

open Json (Reader)

/-- Reads an attribute type. -/
def attributeType : Reader AttributeType :=
  Json.enumeration
    [("string", .string), ("integer", .integer), ("boolean", .boolean)]

/-- Reads the rule of an attribute. -/
def attributeRule : Reader AttributeRule :=
  Json.record "struct AttributeRule"
    [⟨"type", .always, fun rule => do
        return { rule with type := ← attributeType }⟩,
      ⟨"required", .always, fun rule => do
        return { rule with required := ← Json.boolean }⟩]
    true { }

/-- Reads an occurrence range. -/
def occurrence : Reader Occurrence :=
  Json.record "struct Occurrence"
    [⟨"min", .always, fun range => do
        return { range with min := ← Json.word 32 "u32" }⟩,
      ⟨"max", .always, fun range => do
        return { range with max := ← Json.optional (Json.word 32 "u32") }⟩]
    true { }

/-- Reads the rule of an element. -/
def elementRule : Reader ElementRule :=
  Json.record "struct ElementRule"
    [⟨"attributes", .always, fun rule => do
        return { rule with attributes := ← Json.map attributeRule }⟩,
      ⟨"children", .always, fun rule => do
        return { rule with children := ← Json.map occurrence }⟩,
      ⟨"text", .always, fun rule => do
        return { rule with text := ← Json.boolean }⟩,
      ⟨"openAttributes", .always, fun rule => do
        return { rule with openAttributes := ← Json.boolean }⟩]
    true { }

/-- Reads a schema, usable or not. -/
def reader : Reader Schema :=
  Json.record "struct Schema"
    [⟨"name", .never, fun schema => do
        return { schema with name := ← Json.string }⟩,
      ⟨"root", .never, fun schema => do
        return { schema with root := ← Json.string }⟩,
      ⟨"elements", .never, fun schema => do
        return { schema with elements := ← Json.map elementRule }⟩]
    true ⟨"", "", .empty⟩

end Schema
end FieldOcr
