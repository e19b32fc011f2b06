import FieldOcr.RemoteTask.Failure

/-!
# Failures as records

A failure is written in JSON as an object whose only key is its kind and whose
value holds its fields by name.  The same names serve for reading.
-/

namespace FieldOcr
namespace RemoteTask
namespace Failure

open Json (FieldRule Reader)
open Recognition (ExportFormat)

/-- The value of a field. -/
inductive FieldValue
  | text (value : String)
  | number (value : Nat)
  | absent
  deriving DecidableEq, Repr

/-- The value of a status code. -/
def FieldValue.ofCode : Option Nat -> FieldValue
  | none => .absent
  | some code => .number code

/-- The fields of a failure by name. -/
def fields : Failure -> List (String × FieldValue)
  | .sourceUnreadable reference detail =>
      [("source_ref", .text reference), ("detail", .text detail)]
  | .submission code text =>
      [("status_code", .ofCode code), ("message", .text text)]
  | .polling taskId code text =>
      [("task_id", .text taskId), ("status_code", .ofCode code),
        ("message", .text text)]
  | .remoteFailure taskId | .insufficientCredits taskId | .noResult taskId =>
      [("task_id", .text taskId)]
  | .tooLarge format size limit =>
      [("format", .text format.word), ("size", .number size),
        ("max", .number limit)]
  | .sizeUnavailable format code detail =>
      [("format", .text format.word), ("status_code", .ofCode code),
        ("detail", .text detail)]
  | .download code text =>
      [("status_code", .ofCode code), ("message", .text text)]
  | .malformed detail => [("detail", .text detail)]
  | .destination path detail =>
      [("path", .text path), ("detail", .text detail)]

/-- The parts of all failures together, as they are read. -/
structure Parts where
  /-- The source of a task. -/
  reference : String := ""
  /-- The detail of a failure. -/
  detail : String := ""
  /-- The message of a failed exchange. -/
  message : String := ""
  /-- The task. -/
  taskId : String := ""
  /-- The destination. -/
  path : String := ""
  /-- The status code of a failed exchange. -/
  statusCode : Option Nat := none
  /-- The format of a result. -/
  format : ExportFormat := .xml
  /-- The size of a result. -/
  size : Nat := 0
  /-- The limit of a result's size. -/
  limit : Nat := 0

/-- The source of a task. -/
def referenceField : FieldRule Parts :=
  ⟨"source_ref", .never, fun parts => do
    return { parts with reference := ← Json.string }⟩

/-- The detail of a failure. -/
def detailField : FieldRule Parts :=
  ⟨"detail", .never, fun parts => do
    return { parts with detail := ← Json.string }⟩

/-- The message of a failed exchange. -/
def messageField : FieldRule Parts :=
  ⟨"message", .never, fun parts => do
    return { parts with message := ← Json.string }⟩

/-- The task. -/
def taskIdField : FieldRule Parts :=
  ⟨"task_id", .never, fun parts => do
    return { parts with taskId := ← Json.string }⟩

/-- The destination. -/
def pathField : FieldRule Parts :=
  ⟨"path", .never, fun parts => do
    return { parts with path := ← Json.stringAs "path string" }⟩

/-- The status code of a failed exchange. -/
def statusCodeField : FieldRule Parts :=
  ⟨"status_code", .asMember, fun parts => do
    return { parts with
      statusCode := ← Json.optional (Json.word 16 "u16") }⟩

/-- The format of a result. -/
def formatField : FieldRule Parts :=
  ⟨"format", .never, fun parts => do
    return { parts with format := ← ExportFormat.vocabulary.reader }⟩

/-- The size of a result. -/
def sizeField : FieldRule Parts :=
  ⟨"size", .never, fun parts => do
    return { parts with size := ← Json.word 64 "u64" }⟩

/-- The limit of a result's size. -/
def limitField : FieldRule Parts :=
  ⟨"max", .never, fun parts => do
    return { parts with limit := ← Json.word 64 "u64" }⟩

/-- The kinds of failures, their fields and how these make a failure. -/
def shapes : List (String × List (FieldRule Parts) × (Parts -> Failure)) :=
  [("SourceUnreadable", [referenceField, detailField],
      fun parts => .sourceUnreadable parts.reference parts.detail),
    ("RemoteSubmission", [statusCodeField, messageField],
      fun parts => .submission parts.statusCode parts.message),
    ("PollingTransport", [taskIdField, statusCodeField, messageField],
      fun parts => .polling parts.taskId parts.statusCode parts.message),
    ("RemoteTaskFailed", [taskIdField],
      fun parts => .remoteFailure parts.taskId),
    ("InsufficientCredits", [taskIdField],
      fun parts => .insufficientCredits parts.taskId),
    ("NoResultAvailable", [taskIdField], fun parts => .noResult parts.taskId),
    ("ResultTooLarge", [formatField, sizeField, limitField],
      fun parts => .tooLarge parts.format parts.size parts.limit),
    ("ResultSizeUnavailable", [formatField, statusCodeField, detailField],
      fun parts =>
        .sizeUnavailable parts.format parts.statusCode parts.detail),
    ("ResultDownload", [statusCodeField, messageField],
      fun parts => .download parts.statusCode parts.message),
    ("ResultMalformed", [detailField], fun parts => .malformed parts.detail),
    ("DestinationWrite", [pathField, detailField],
      fun parts => .destination parts.path parts.detail)]

/-- Reads a failure from JSON. -/
def reader : Reader Failure :=
  Json.variant (shapes.map (·.1))
    (fun _ =>
      Json.Reader.failUnplaced
        (.invalidType .unitVariant "struct variant"))
    fun name =>
      match shapes.find? (·.1 == name) with
      | some (_, fields, finish) => do
          let parts ←
            Json.record ("struct variant TaskError::" ++ name) fields false { }
          return finish parts
      | none => Json.Reader.failHere .expectedValue

end Failure
end RemoteTask
end FieldOcr
