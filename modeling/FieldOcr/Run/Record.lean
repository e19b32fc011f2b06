import FieldOcr.RemoteTask.Failure
import FieldOcr.RemoteTask.Handle

/-!
# Records

A run ends with one record: the validated content, a failure, or neither where
waiting was given up.
-/

namespace FieldOcr
namespace Run

open RemoteTask (Failure Handle)

/-- What a run ends with. -/
structure Record where
  /-- The validated content. -/
  content : List Char
  /-- The file that the content was written to. -/
  destination : Option String
  /-- The identifier of the task, if it was submitted. -/
  taskId : Option String
  /-- The credits that the task costs, if known. -/
  creditsUsed : Option Nat
  /-- The status code of the last answer. -/
  statusCode : Option Nat
  /-- Whether waiting was given up. -/
  timedOut : Bool
  /-- Why there is no content. -/
  failure : Option Failure
  deriving DecidableEq, Repr

namespace Record

/-- The record of a validated result. -/
def success
    (handle : Handle)
    (content : List Char)
    (destination : Option String)
    (code : Nat) : Record where
  content := content
  destination := destination
  taskId := some handle.taskId
  creditsUsed := handle.credits
  statusCode := some code
  timedOut := false
  failure := none

/-- The record of a failure in front of the submission. -/
def unsubmitted (failure : Failure) : Record where
  content := []
  destination := none
  taskId := none
  creditsUsed := none
  statusCode := failure.statusCode?
  timedOut := false
  failure := some failure

/-- The record of a failure behind the submission.  The status code of the
failure counts more than that of the last answer of the service. -/
def ofFailure (handle : Handle) (failure : Failure) : Record where
  content := []
  destination := none
  taskId := some handle.taskId
  creditsUsed := handle.credits
  statusCode := failure.statusCode?.or handle.lastStatusCode
  timedOut := false
  failure := some failure

/-- The record of a run that was given up. -/
def givenUp (handle : Handle) : Record where
  content := []
  destination := none
  taskId := some handle.taskId
  creditsUsed := handle.credits
  statusCode := handle.lastStatusCode
  timedOut := true
  failure := none

/-- A record whose status code is that of the last answer, unless its failure
has one. -/
def withLastStatusCode (record : Record) (code : Option Nat) : Record :=
  match record.failure.bind Failure.statusCode? with
  | some _ => record
  | none => { record with statusCode := code.or record.statusCode }

/-- Whether there is a validated result. -/
def succeeded (record : Record) : Bool :=
  record.failure.isNone && !record.timedOut

/-- The wording of a record's failure; it is empty without one. -/
def failureText (record : Record) : String :=
  (record.failure.map Failure.message).getD ""

/-- A number as a text; it is empty without one. -/
def numberText (number : Option Nat) : String :=
  (number.map toString).getD ""

/-- A truth value as a text. -/
def truthText (value : Bool) : String :=
  if value then "true" else "false"

/-- A record as named texts in the order of the names. -/
def outputs (record : Record) : List (String × String) :=
  [("content", String.ofList record.content),
    ("creditsUsed", numberText record.creditsUsed),
    ("destinationPath", record.destination.getD ""),
    ("error", record.failureText),
    ("httpStatusCode", numberText record.statusCode),
    ("succeeded", truthText record.succeeded),
    ("taskId", record.taskId.getD ""),
    ("timedOut", truthText record.timedOut)]

end Record
end Run
end FieldOcr
