import FieldOcr.Run.Fetch
import FieldOcr.Run.Polling
import FieldOcr.Run.Submission

/-!
# Runs

A run submits a task, watches it and fetches its result.
-/

namespace FieldOcr
namespace Run

variable [Url.NameConversion]

/-- More queries than watching any task takes in practice. -/
def queryLimit : Nat := 1000000

/-- A record and the journal of its run. -/
structure Report where
  /-- The record. -/
  record : Record
  /-- What happened. -/
  journal : Journal
  deriving DecidableEq, Repr

/-- Tells that a run is complete. -/
def report (record : Record) (journal : Journal) : Report :=
  ⟨record, journal.tell (.complete record.taskId record.succeeded)⟩

/-- Performs a run.  There is no result where watching the task takes more
queries than allowed. -/
def perform
    (fuel : Nat)
    (transport : Transport)
    (plan : Plan)
    (journal : Journal) : Option Report :=
  match submit transport plan.request journal with
  | (.error failure, submitted) =>
      some (report (.unsubmitted failure) submitted)
  | (.ok handle, submitted) =>
      (awaitCompletion fuel transport plan.request plan.options.poll
          ⟨handle, submitted⟩).map fun watched =>
        let (record, fetched) :=
          fetch transport plan watched.handle watched.journal
        report record fetched

end Run
end FieldOcr
