import FieldOcr.Proofs.ContentNoise
import FieldOcr.Proofs.Truncation

/-!
# Content behind a byte-order mark

A byte-order mark is no blank character, so that content of a mark and blank
characters is checked as a document where the blank characters alone pass.
In front of any other content a mark changes nothing.
-/

namespace FieldOcr
namespace Validation

open Recognition (ExportFormat)

/-- A text that is nothing but blank characters is no document. -/
theorem checkDocument_stripNoise_of_allBlank
    (schema : Schema)
    {text : List Char}
    (blank : Text.allBlank text = true) :
    checkDocument schema (Content.stripNoise text) = .error ⟨0, .noRoot⟩ := by
  have nothing : Content.stripNoise text = [] := by
    rw [Content.stripNoise, Text.trim_eq_nil_iff.mpr blank]
    rfl
  have events : Markup.scan [] = ⟨[], .complete 0⟩ :=
    Markup.scanOnto_of_space [] [] 0 rfl
  rw [nothing, checkDocument, events]
  rfl

/-- Content behind a mark is not blank. -/
theorem allBlank_mark (text : List Char) :
    Text.allBlank ('\uFEFF' :: text) = false := rfl

/-- Marked content that is blank otherwise is refused in a format with
structure. -/
theorem checkContent_mark_of_allBlank
    (schema : Schema)
    {format : ExportFormat}
    {text : List Char}
    (structured : format.isStructured = true)
    (blank : Text.allBlank text = true) :
    checkContent schema format ('\uFEFF' :: text) =
      .error (.malformed (Malformation.message ⟨0, .noRoot⟩)) := by
  have stripped : Content.stripByteOrderMark ('\uFEFF' :: text) = text := rfl
  rw [checkContent, allBlank_mark, structured, stripped, checkMarkup,
    checkDocument_stripNoise_of_allBlank schema blank]
  rfl

/-- Marked content that is not blank otherwise is checked like the content
without its mark. -/
theorem checkContent_mark_of_not_allBlank
    (schema : Schema)
    (format : ExportFormat)
    {text : List Char}
    (unmarked : text.head? ≠ some '\uFEFF')
    (filled : Text.allBlank text = false) :
    checkContent schema format ('\uFEFF' :: text) =
      checkContent schema format text := by
  have stripped : Content.stripByteOrderMark ('\uFEFF' :: text) = text := rfl
  rw [checkContent, checkContent, allBlank_mark, filled, stripped,
    stripByteOrderMark_of_head? unmarked]

/-- Content of a format without structure is valid. -/
theorem checkContent_of_not_isStructured
    (schema : Schema)
    {format : ExportFormat}
    (content : List Char)
    (plain : format.isStructured = false) :
    checkContent schema format content = .ok () := by
  simp [checkContent, plain]

theorem checkContent_of_allBlank
    (schema : Schema)
    (format : ExportFormat)
    {content : List Char}
    (blank : Text.allBlank content = true) :
    checkContent schema format content = .ok () := by
  simp [checkContent, blank]

/-- A mark in front of content is ignored exactly if the format has no
structure or the content is not blank.  Blank content of a format with
structure is valid without a mark, and behind a mark a document without a
root. -/
theorem checkContent_mark_eq_iff
    {text : List Char}
    (unmarked : text.head? ≠ some '\uFEFF')
    (schema : Schema)
    (format : ExportFormat) :
    (checkContent schema format ('\uFEFF' :: text) =
        checkContent schema format text ↔
      ¬(format.isStructured = true ∧ Text.allBlank text = true)) ∧
    (format.isStructured = true ->
      Text.allBlank text = true ->
        checkContent schema format text = .ok () ∧
          checkContent schema format ('\uFEFF' :: text) =
            .error (.malformed "at byte 0: document has no root element")) := by
  have refused
      (structured : format.isStructured = true)
      (blank : Text.allBlank text = true) :
      checkContent schema format text = .ok () ∧
        checkContent schema format ('\uFEFF' :: text) =
          .error (.malformed "at byte 0: document has no root element") :=
    ⟨checkContent_of_allBlank schema format blank,
      checkContent_mark_of_allBlank schema structured blank⟩
  refine ⟨⟨?_, ?_⟩, refused⟩
  · rintro same ⟨structured, blank⟩
    obtain ⟨passed, failed⟩ := refused structured blank
    rw [passed, failed] at same
    exact nomatch same
  · intro other
    cases structured : format.isStructured with
    | false =>
        rw [checkContent_of_not_isStructured schema _ structured,
          checkContent_of_not_isStructured schema _ structured]
    | true =>
        have filled : Text.allBlank text = false :=
          Bool.eq_false_iff.mpr fun blank => other ⟨structured, blank⟩
        exact checkContent_mark_of_not_allBlank schema format unmarked filled

/-- A mark alone is refused, though no content at all is valid. -/
theorem checkContent_mark_eq_iff_nil :
    ([] : List Char).head? ≠ some '\uFEFF' ∧
      ExportFormat.xml.isStructured = true ∧
      checkContent textSchema .xml [] = .ok () ∧
      checkContent textSchema .xml ['\uFEFF'] =
        .error (.malformed "at byte 0: document has no root element") := by
  have unmarked : ([] : List Char).head? ≠ some '\uFEFF' := nofun
  exact ⟨unmarked, rfl,
    (checkContent_mark_eq_iff unmarked textSchema .xml).2 rfl rfl⟩

end Validation
end FieldOcr
