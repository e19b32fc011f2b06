import FieldOcr.Schema.Basic

/-!
# The schema of text-field results

A document holds fields; a field has a place, one value and any number of
lines; a line has characters; a character may list its variants.
-/

namespace FieldOcr
namespace Schema

/-- The attributes of a rectangle, each required or not. -/
def rectangleAttributes (required : Bool) : List (String × AttributeRule) :=
  ["left", "top", "right", "bottom"].map fun side =>
    (side, ⟨.integer, required⟩)

/-- The schema of text-field results. -/
def textField : Schema where
  name := "text_field"
  root := "document"
  elements := .ofList [
    ("document",
      { attributes := .ofList [("version", ⟨.string, false⟩),
          ("producer", ⟨.string, false⟩)]
        children := .ofList [("field", ⟨1, none⟩)]
        openAttributes := true }),
    ("field",
      { attributes :=
          .ofList (rectangleAttributes true ++ [("type", ⟨.string, false⟩)])
        children := .ofList [("value", ⟨1, some 1⟩), ("line", ⟨0, none⟩)] }),
    ("value",
      { attributes := .ofList [("encoding", ⟨.string, false⟩)]
        text := true }),
    ("line",
      { attributes :=
          .ofList
            (rectangleAttributes false ++ [("baseline", ⟨.integer, false⟩)])
        children := .ofList [("char", ⟨0, none⟩)] }),
    ("char",
      { attributes :=
          .ofList (rectangleAttributes false ++
            [("suspicious", ⟨.boolean, false⟩),
              ("confidence", ⟨.integer, false⟩)])
        children := .ofList [("charRecVariants", ⟨0, some 1⟩)]
        text := true }),
    ("charRecVariants", { children := .ofList [("variant", ⟨0, none⟩)] }),
    ("variant",
      { attributes := .ofList [("charConfidence", ⟨.integer, false⟩)]
        text := true })]

end Schema
end FieldOcr
