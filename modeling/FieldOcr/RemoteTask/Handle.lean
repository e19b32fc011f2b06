import FieldOcr.Recognition.Parameters
import FieldOcr.RemoteTask.Status
import FieldOcr.Url.Basic

/-!
# Task handles

A *snapshot* is what the service reports about a task at one time.  A *handle*
gathers the snapshots of one task: its status never goes back, and known
credits and result addresses are kept until newer ones arrive.
-/

namespace FieldOcr
namespace RemoteTask

/-- What the service reports about a task. -/
structure Snapshot where
  /-- The identifier of the task. -/
  id : String
  /-- The status of the task. -/
  status : Status
  /-- The credits that the task costs, if reported. -/
  credits : Option Nat
  /-- The seconds that the task is expected to take, if reported. -/
  estimatedSeconds : Option Nat
  /-- The addresses of the results. -/
  resultUrls : List Url
  deriving DecidableEq, Repr

/-- A submitted task as far as it was observed. -/
structure Handle where
  /-- The identifier of the task. -/
  taskId : String
  /-- The status of the task. -/
  status : Status
  /-- The credits that the task costs, if known. -/
  credits : Option Nat
  /-- The addresses of the results. -/
  resultUrls : List Url
  /-- The status code of the last answer. -/
  lastStatusCode : Option Nat
  /-- Whether waiting for the task was given up. -/
  timedOut : Bool
  deriving DecidableEq, Repr

namespace Handle

/-- The handle of a task that was just submitted. -/
def ofSubmission (snapshot : Snapshot) (code : Nat) : Handle where
  taskId := snapshot.id
  status := snapshot.status
  credits := snapshot.credits
  resultUrls := snapshot.resultUrls
  lastStatusCode := some code
  timedOut := false

/-- Whether a snapshot may follow what was observed so far. -/
def accepts (handle : Handle) (snapshot : Snapshot) : Bool :=
  handle.status.canGoTo snapshot.status

/-- A handle after one more snapshot.  A snapshot that would take the status
back leaves nothing but its status code. -/
def advance (handle : Handle) (snapshot : Snapshot) (code : Nat) : Handle :=
  if handle.accepts snapshot then
    { handle with
      status := snapshot.status
      credits := snapshot.credits.or handle.credits
      resultUrls :=
        if snapshot.resultUrls.isEmpty then handle.resultUrls
        else snapshot.resultUrls
      lastStatusCode := some code }
  else { handle with lastStatusCode := some code }

/-- A handle after a query that failed. -/
def recordStatusCode (handle : Handle) (code : Option Nat) : Handle :=
  { handle with lastStatusCode := code.or handle.lastStatusCode }

/-- A handle after waiting was given up. -/
def markTimedOut (handle : Handle) : Handle :=
  { handle with timedOut := true }

end Handle

/-- What is known about a result before it is fetched. -/
structure ResultDescriptor where
  /-- Where the result can be fetched. -/
  locations : List Url
  /-- The format of the result. -/
  format : Recognition.ExportFormat
  /-- The size of the result, once reported. -/
  advertisedSize : Option Nat
  deriving Repr

/-- The place that counts. -/
def ResultDescriptor.primary? (descriptor : ResultDescriptor) : Option Url :=
  descriptor.locations.head?

/-- The description of a task's result in a format. -/
def Handle.resultDescriptor
    (handle : Handle)
    (format : Recognition.ExportFormat) : ResultDescriptor :=
  ⟨handle.resultUrls, format, none⟩

end RemoteTask
end FieldOcr
