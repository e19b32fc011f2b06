import FieldOcr.Run.Perform
import FieldOcr.Setup.ResultSchema
import FieldOcr.Setup.Transport

/-!
# Launching a run

Before a run starts, its connection settings are checked and its schema is
loaded.  A fault of either keeps it from starting.
-/

namespace FieldOcr
namespace Run

variable [Url.NameConversion] [Charset.Encoder]

/-- Makes the plan of a run. -/
def preparePlan
    (request : Request)
    (options : RunOptions)
    (files : Storage.Tree) : Except Setup.Fault Plan := do
  Setup.checkTransport request.transport files
  let schema ← Setup.loadSchema options.schemaPath files
  return ⟨request, schema, options⟩

/-- Performs a run if it can start. -/
def launch
    (fuel : Nat)
    (transport : Transport)
    (request : Request)
    (options : RunOptions)
    (journal : Journal) : Except Setup.Fault (Option Report) :=
  (preparePlan request options journal.files).map fun plan =>
    perform fuel transport plan journal

end Run
end FieldOcr
