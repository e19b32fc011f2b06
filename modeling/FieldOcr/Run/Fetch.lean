import FieldOcr.Charset.Encode
import FieldOcr.Request.Options
import FieldOcr.Run.Journal
import FieldOcr.Run.Record
import FieldOcr.Service.Call
import FieldOcr.Storage.Disk

/-!
# Fetching a result

The result of a completed task is fetched from its first address: its size is
asked for, the result is downloaded, its content is checked and written to the
destination.  Each step is taken only if the steps in front of it succeeded.
-/

namespace FieldOcr
namespace Run

open RemoteTask (Failure Handle)

/-- What a run is about: its request, the schema of its result, its options,
and the disk and the encoder by which its result is stored. -/
structure Plan where
  /-- The request. -/
  request : Request
  /-- The schema of the result. -/
  schema : Schema
  /-- The options. -/
  options : RunOptions
  /-- The disk. -/
  [disk : Storage.Disk]
  /-- The encoder of charsets with tables. -/
  [encoder : Charset.Encoder]

/-- A failed fetch and the status code of its last answer, if it had one. -/
structure Abort where
  /-- The failure. -/
  failure : Failure
  /-- The status code of the last answer. -/
  lastStatusCode : Option Nat
  deriving DecidableEq, Repr

/-- Writes content to the destination of a request. -/
def writeDestination
    (plan : Plan)
    (path : String)
    (charset : Charset)
    (content : List Char)
    (journal : Journal) : Except Failure Unit × Journal :=
  let (files, written) :=
    plan.disk.replace journal.files path (charset.encode plan.encoder content)
  (written.mapError fun fault => .destination path fault.message,
    { journal with files := files })

/-- Checks downloaded bytes: their number again if it was announced
differently, and their content. -/
def checkDownload
    (plan : Plan)
    (announced : Option Nat)
    (bytes : List UInt8) : Except Failure (List Char) := do
  let format := plan.request.exportFormat
  if announced ≠ some bytes.length then
    (Validation.checkSize format plan.options.sizeLimit bytes.length).mapError
      RemoteTask.Rejection.failure
  let content := Content.stripByteOrderMark (Content.decode bytes)
  (Validation.checkContent plan.schema format content).mapError
    RemoteTask.Rejection.failure
  return content

/-- Keeps the content of a task and makes its record. -/
def keepContent
    (plan : Plan)
    (handle : Handle)
    (code : Nat)
    (content : List Char)
    (journal : Journal) : Except Abort Record × Journal :=
  let told :=
    journal.tell (.validated handle.taskId (Text.byteLength content))
  match plan.request.destination with
  | none => (.ok (.success handle content none code), told)
  | some path =>
      match
          writeDestination plan path plan.request.responseCharset content
            told with
      | (.error failure, written) => (.error ⟨failure, some code⟩, written)
      | (.ok (), written) =>
          (.ok (.success handle content (some path) code), written)

/-- Downloads a result whose size was announced. -/
def downloadFrom
    (transport : Transport)
    (plan : Plan)
    (handle : Handle)
    (location : Url)
    (size : Service.ResultSize)
    (journal : Journal) : Except Abort Record × Journal :=
  let request := Service.download plan.request location
  let (outcome, answered) := exchange transport request journal
  match Service.readDownload location outcome with
  | .error fault =>
      (.error ⟨.download fault.statusCode fault.message, some size.statusCode⟩,
        answered)
  | .ok downloaded =>
      match checkDownload plan size.bytes downloaded.bytes with
      | .error failure =>
          (.error ⟨failure, some downloaded.statusCode⟩, answered)
      | .ok content =>
          keepContent plan handle downloaded.statusCode content answered

/-- Fetches a result from an address. -/
def fetchFrom
    (transport : Transport)
    (plan : Plan)
    (handle : Handle)
    (location : Url)
    (journal : Journal) : Except Abort Record × Journal :=
  let request := Service.sizeQuery plan.request location
  let (outcome, answered) := exchange transport request journal
  match
      Service.checkedSize plan.request.exportFormat plan.options.sizeLimit
        location outcome with
  | .error rejection => (.error ⟨rejection.failure, none⟩, answered)
  | .ok size => downloadFrom transport plan handle location size answered

/-- Fetches the result of a completed task. -/
def fetchCompleted
    (transport : Transport)
    (plan : Plan)
    (handle : Handle)
    (journal : Journal) : Record × Journal :=
  let descriptor := handle.resultDescriptor plan.request.exportFormat
  match descriptor.primary? with
  | none => (.ofFailure handle (.noResult handle.taskId), journal)
  | some location =>
      match fetchFrom transport plan handle location journal with
      | (.ok record, fetched) => (record, fetched)
      | (.error abort, fetched) =>
          ((Record.ofFailure handle abort.failure).withLastStatusCode
            abort.lastStatusCode, fetched)

/-- Makes the record of a task that was watched. -/
def fetch
    (transport : Transport)
    (plan : Plan)
    (handle : Handle)
    (journal : Journal) : Record × Journal :=
  match handle.status with
  | .completed => fetchCompleted transport plan handle journal
  | .failed =>
      (.ofFailure handle (.remoteFailure handle.taskId), journal)
  | .notEnoughCredits =>
      (.ofFailure handle (.insufficientCredits handle.taskId), journal)
  | .queued | .inProgress =>
      if handle.timedOut then (.givenUp handle, journal)
      else (.ofFailure handle (.noResult handle.taskId), journal)

end Run
end FieldOcr
