import FieldOcr.CommandLine.Reading
import FieldOcr.Json.Printer
import FieldOcr.Run.Record

/-!
# What the terminal shows

The content goes to the standard output, or the whole record if that is asked
for.  Everything else goes to the standard error.
-/

namespace FieldOcr
namespace CommandLine

open Run (Record)

/-- A text between escape sequences for a style. -/
def styled (style : Nat) (text : String) : String :=
  s!"\x1b[{style}m" ++ text ++ "\x1b[0m"

/-- A bold text. -/
def bold : String -> String :=
  styled 1

/-- A red text. -/
def red : String -> String :=
  styled 31

/-- A green text. -/
def green : String -> String :=
  styled 32

/-- The purpose of the program. -/
def purpose : String :=
  "Submit a text-field OCR task, wait for it and fetch the validated result"

/-- The name and the version of the program. -/
def versionLine : String :=
  "cloud-ocr 0.1.0\n"

/-- Lines that are indented. -/
def indented (text : String) : String :=
  "\n".intercalate
    ((Text.splitAll '\n' text.toList).map ("    " ++ String.ofList ·))

/-- What is shown where a run cannot start. -/
def startFailure (step : String) (fault : Setup.Fault) : String :=
  s!"Error: {step}\n\nCaused by:\n" ++ indented fault.message ++ "\n"

/-- The line that tells that a run is complete. -/
def completionLine (record : Record) : String :=
  let task := bold (record.taskId.getD "-")
  if record.succeeded then green "✔" ++ s!" task {task} completed\n"
  else red "✘" ++ s!" task {task} did not succeed\n"

/-- The line that tells why there is no content. -/
def failureLine (invocation : Invocation) (record : Record) : String :=
  match record.failure with
  | some failure => red "error:" ++ s!" {failure.message}\n"
  | none =>
      if record.timedOut then
        let task := record.taskId.getD "-"
        red "timeout:" ++
          s!" task {task} still running after {invocation.patience}s\n"
      else ""

/-- The line that tells where the content was written to. -/
def destinationLine (path : String) : String :=
  "   → " ++ bold path ++ "\n"

/-- A text whose last line is ended. -/
def endLine (text : String) : String :=
  if text.toList.getLast? = some '\n' then text else text ++ "\n"

/-- What the standard output gets. -/
def standardOutput (invocation : Invocation) (record : Record) : String :=
  if invocation.json then Json.objectLines record.outputs ++ "\n"
  else if record.succeeded then endLine (String.ofList record.content)
  else ""

/-- What the standard error gets. -/
def standardError (invocation : Invocation) (record : Record) : String :=
  let completion :=
    if invocation.showsProgress then completionLine record else ""
  let failure :=
    if record.succeeded || invocation.json || invocation.quiet then ""
    else failureLine invocation record
  let destination :=
    if invocation.quiet then ""
    else (record.destination.map destinationLine).getD ""
  completion ++ failure ++ destination

end CommandLine
end FieldOcr
