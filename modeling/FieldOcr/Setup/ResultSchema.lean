import FieldOcr.Schema.Reading
import FieldOcr.Schema.TextField
import FieldOcr.Setup.Fault
import FieldOcr.Storage.Tree

/-!
# The schema of a run's results

A schema document is accepted when it is a schema and the schema is usable.
Without a document, the schema of text fields is used.
-/

namespace FieldOcr
namespace Setup

/-- Reads a schema document, which goes by `name` until its own name is
known. -/
def readSchema (name document : String) : Except Fault Schema :=
  match Json.decode Schema.reader document with
  | .error fault => .error (.schema name (.notSchema fault))
  | .ok schema =>
      match schema.flaw? with
      | some flaw => .error (.schema schema.name (.inconsistent flaw))
      | none => .ok schema

/-- Loads the schema of a run. -/
def loadSchema
    (path : Option String)
    (files : Storage.Tree) : Except Fault Schema :=
  match path with
  | none => .ok Schema.textField
  | some path =>
      match files.readText path with
      | .error fault => .error (.schema path (.unreadable fault))
      | .ok document => readSchema path document

end Setup
end FieldOcr
