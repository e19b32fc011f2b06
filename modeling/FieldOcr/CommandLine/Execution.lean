import FieldOcr.CommandLine.Display
import FieldOcr.Run.Launch

/-!
# Execution of command lines

A command line is read, its request is built and its run is performed.  The
exit code is zero after a success, one after a failure and two where the
command line cannot be read.
-/

namespace FieldOcr
namespace CommandLine

variable [Url.NameConversion] [Charset.Encoder]

/-- How an execution ends. -/
structure Ending where
  /-- The exit code. -/
  exitCode : Nat
  /-- The standard output. -/
  output : String
  /-- The standard error. -/
  error : String
  /-- What happened. -/
  journal : Run.Journal
  deriving DecidableEq, Repr

/-- The end of an execution that does not lead to a run. -/
def endWithout (journal : Run.Journal) : Stop -> Ending
  | .help => ⟨0, purpose ++ "\n", "", journal⟩
  | .version => ⟨0, versionLine, "", journal⟩
  | .noArguments => ⟨2, "", purpose ++ "\n", journal⟩
  | .fault fault => ⟨2, "", s!"error: {fault.message}\n", journal⟩

/-- The end of an execution whose run has ended. -/
def endWith (invocation : Invocation) (report : Run.Report) : Ending where
  exitCode := if report.record.succeeded then 0 else 1
  output := standardOutput invocation report.record
  error := standardError invocation report.record
  journal := report.journal

/-- Executes an invocation.  There is no result where watching the task takes
more queries than allowed. -/
def executeInvocation
    (fuel : Nat)
    (transport : Run.Transport)
    (invocation : Invocation)
    (journal : Run.Journal) : Option Ending :=
  match invocation.draft.build with
  | .error fault =>
      some ⟨1, "", startFailure "Invalid request" fault, journal⟩
  | .ok request =>
      match Run.launch fuel transport request invocation.options journal with
      | .error fault =>
          some
            ⟨1, "", startFailure "Task could not be started" fault, journal⟩
      | .ok report => report.map (endWith invocation)

/-- Executes a command line. -/
def execute
    (fuel : Nat)
    (transport : Run.Transport)
    (environment : Environment)
    (words : List String)
    (journal : Run.Journal) : Option Ending :=
  match read environment words with
  | .error stop => some (endWithout journal stop)
  | .ok invocation => executeInvocation fuel transport invocation journal

end CommandLine
end FieldOcr
