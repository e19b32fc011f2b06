import FieldOcr.Content
import FieldOcr.RemoteTask.Failure
import FieldOcr.Validation.Document

/-!
# Checking a result

A result is checked twice: its size against a limit, before and after it is
downloaded, and its content against a schema.  Blank content passes, and so
does any content of a format without structure.
-/

namespace FieldOcr
namespace Validation

open Recognition (ExportFormat)
open RemoteTask (Rejection)

/-- The greatest size of a result, in bytes, unless another is set. -/
def defaultSizeLimit : Nat := 2097152

/-- Checks the size of a result; a size equal to the limit passes. -/
def checkSize
    (format : ExportFormat)
    (limit size : Nat) : Except Rejection Unit :=
  if size ≤ limit then .ok () else .error (.tooLarge format size limit)

/-- Checks a document and words what is wrong with it. -/
def checkMarkup
    (schema : Schema)
    (document : List Char) : Except Rejection Unit :=
  match checkDocument schema document with
  | .ok () => .ok ()
  | .error malformation => .error (.malformed malformation.message)

/-- Checks the content of a result without its noise. -/
def checkContent
    (schema : Schema)
    (format : ExportFormat)
    (content : List Char) : Except Rejection Unit :=
  if Text.allBlank content || !format.isStructured then .ok ()
  else
    checkMarkup schema
      (Content.stripNoise (Content.stripByteOrderMark content))

end Validation
end FieldOcr
