import FieldOcr.Run.Source
import FieldOcr.Service.Call

/-!
# Submission

A task is submitted once its payload is loaded.
-/

namespace FieldOcr
namespace Run

open RemoteTask (Failure Handle)

variable [Url.NameConversion]

/-- Submits a payload. -/
def submitPayload
    (transport : Transport)
    (request : Request)
    (payload : List UInt8)
    (journal : Journal) : Except Failure Handle × Journal :=
  let submission := Service.submission request payload
  let (outcome, answered) := exchange transport submission journal
  match Service.readTaskReply submission.url outcome with
  | .error fault =>
      (.error (.submission fault.statusCode fault.message), answered)
  | .ok reply =>
      (.ok (.ofSubmission reply.snapshot reply.statusCode),
        answered.tell (.submitted reply.snapshot.id))

/-- Loads the source of a request and submits it. -/
def submit
    (transport : Transport)
    (request : Request)
    (journal : Journal) : Except Failure Handle × Journal :=
  match
      loadSource transport request.source request.transport.callTimeout
        journal with
  | (.error failure, loaded) => (.error failure, loaded)
  | (.ok payload, loaded) => submitPayload transport request payload loaded

end Run
end FieldOcr
