import FieldOcr.Recognition.Parameters
import FieldOcr.RemoteTask.Status

/-!
# Task failures

Why a task has no validated result.  A failure is part of the record of a run
and never keeps a run from starting.
-/

namespace FieldOcr
namespace RemoteTask

open Recognition (ExportFormat)

/-- Why a task has no validated result. -/
inductive Failure
  | sourceUnreadable (reference detail : String)
  | submission (statusCode : Option Nat) (message : String)
  | polling (taskId : String) (statusCode : Option Nat) (message : String)
  | remoteFailure (taskId : String)
  | insufficientCredits (taskId : String)
  | noResult (taskId : String)
  | tooLarge (format : ExportFormat) (size limit : Nat)
  | sizeUnavailable
      (format : ExportFormat)
      (statusCode : Option Nat)
      (detail : String)
  | download (statusCode : Option Nat) (message : String)
  | malformed (detail : String)
  | destination (path detail : String)
  deriving DecidableEq, Repr

namespace Failure

/-- A status code in a message. -/
def codeSuffix : Option Nat -> String
  | none => ""
  | some code => s!" (HTTP {code})"

/-- The wording of a failure. -/
def message : Failure -> String
  | .sourceUnreadable reference detail =>
      s!"Cannot read source '{reference}': {detail}"
  | .submission code text =>
      "Task submission failed" ++ codeSuffix code ++ ": " ++ text
  | .polling taskId code text =>
      s!"Status query for task '{taskId}' failed" ++ codeSuffix code ++ ": " ++
        text
  | .remoteFailure taskId => s!"Task '{taskId}' failed on the remote service"
  | .insufficientCredits taskId =>
      s!"Task '{taskId}' was not processed: insufficient credits"
  | .noResult taskId => s!"Task '{taskId}' completed without a result URL"
  | .tooLarge format size limit =>
      "The " ++ format.word ++
        s!" result is {size} bytes, exceeding the maximum of {limit} bytes"
  | .sizeUnavailable format code detail =>
      "Could not determine the size of the " ++ format.word ++ " result" ++
        codeSuffix code ++ ": " ++ detail
  | .download code text =>
      "Failed to download the result" ++ codeSuffix code ++ ": " ++ text
  | .malformed detail => "The response did not pass validation: " ++ detail
  | .destination path detail =>
      s!"Failed to write destination file '{path}': {detail}"

/-- The status code of the exchange that failed, if it was answered. -/
def statusCode? : Failure -> Option Nat
  | .submission code _
  | .polling _ code _
  | .sizeUnavailable _ code _
  | .download code _ => code
  | _ => none

/-- The failure that a terminal status stands for, if it stands for one. -/
def ofStatus? (taskId : String) : Status -> Option Failure
  | .failed => some (.remoteFailure taskId)
  | .notEnoughCredits => some (.insufficientCredits taskId)
  | .queued | .inProgress | .completed => none

/-- The name of a failure's kind. -/
def kind : Failure -> String
  | .sourceUnreadable .. => "SourceUnreadable"
  | .submission .. => "RemoteSubmission"
  | .polling .. => "PollingTransport"
  | .remoteFailure _ => "RemoteTaskFailed"
  | .insufficientCredits _ => "InsufficientCredits"
  | .noResult _ => "NoResultAvailable"
  | .tooLarge .. => "ResultTooLarge"
  | .sizeUnavailable .. => "ResultSizeUnavailable"
  | .download .. => "ResultDownload"
  | .malformed _ => "ResultMalformed"
  | .destination .. => "DestinationWrite"

end Failure

/-- Why a result does not pass its checks. -/
inductive Rejection
  | tooLarge (format : ExportFormat) (size limit : Nat)
  | sizeUnavailable
      (format : ExportFormat)
      (statusCode : Option Nat)
      (detail : String)
  | malformed (detail : String)
  deriving DecidableEq, Repr

namespace Rejection

/-- The wording of a rejection. -/
def message : Rejection -> String
  | .tooLarge format size limit =>
      format.word ++ s!" result of {size} bytes exceeds the {limit}-byte limit"
  | .sizeUnavailable format _ detail =>
      "size of " ++ format.word ++ " result unavailable: " ++ detail
  | .malformed detail => detail

/-- The name of a rejection's kind. -/
def kind : Rejection -> String
  | .tooLarge .. => "TooLarge"
  | .sizeUnavailable .. => "SizeUnavailable"
  | .malformed _ => "Malformed"

/-- The failure of a task whose result is rejected. -/
def failure : Rejection -> Failure
  | .tooLarge format size limit => .tooLarge format size limit
  | .sizeUnavailable format code detail => .sizeUnavailable format code detail
  | .malformed detail => .malformed detail

end Rejection
end RemoteTask
end FieldOcr
