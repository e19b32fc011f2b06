import FieldOcr.Json.Decode

/-!
# Task statuses

A task is queued, then in progress, and ends in one of three *terminal*
statuses.  A status may repeat but never goes back, and nothing follows a
terminal status.
-/

namespace FieldOcr
namespace RemoteTask

/-- What the service does with a task. -/
inductive Status
  | queued
  | inProgress
  | completed
  | failed
  | notEnoughCredits
  deriving DecidableEq, Repr

namespace Status

/-- The statuses. -/
def all : List Status :=
  [.queued, .inProgress, .completed, .failed, .notEnoughCredits]

/-- The name of a status. -/
def name : Status -> String
  | .queued => "Queued"
  | .inProgress => "InProgress"
  | .completed => "Completed"
  | .failed => "Failed"
  | .notEnoughCredits => "NotEnoughCredits"

/-- The status that the service reports by a word. -/
def ofWire? (word : String) : Option Status :=
  if word = "Submitted" || word = "Queued" then some .queued
  else if word = "InProgress" then some .inProgress
  else if word = "Completed" then some .completed
  else if word = "ProcessingFailed" || word = "Failed" || word = "Deleted" then
    some .failed
  else if word = "NotEnoughCredits" then some .notEnoughCredits
  else none

/-- Whether nothing follows a status. -/
def isTerminal : Status -> Bool
  | .queued | .inProgress => false
  | .completed | .failed | .notEnoughCredits => true

/-- Whether a status may be followed by another. -/
def canGoTo : Status -> Status -> Bool
  | .queued, _ => true
  | .inProgress, next => next ≠ .queued
  | .completed, _ | .failed, _ | .notEnoughCredits, _ => false

/-- Reads the name of a status from JSON. -/
def reader : Json.Reader Status :=
  Json.enumeration (all.map fun status => (status.name, status))

end Status
end RemoteTask
end FieldOcr
