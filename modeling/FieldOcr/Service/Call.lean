import FieldOcr.Http.Message
import FieldOcr.Service.Address
import FieldOcr.Service.Envelope
import FieldOcr.Text.Base64
import FieldOcr.Validation.Result

/-!
# Calls of the service

The requests that make up a run, and the reading of their outcomes.  A call
fails if it has no response, if the response reports no success, or if its
envelope cannot be read.  Results are fetched without credentials.
-/

namespace FieldOcr
namespace Service

variable [Url.NameConversion]

/-- Why a call failed. -/
structure CallFault where
  /-- The status code of the response, if there was one. -/
  statusCode : Option Nat
  /-- What went wrong. -/
  message : String
  deriving DecidableEq, Repr

/-- The token of an account. -/
def token (credentials : Request.Credentials) : List Char :=
  Text.Base64.encode
    (Text.Utf8.encode
      (credentials.applicationId.toList ++ ':' :: credentials.password.toList))

/-- The header field that carries an account. -/
def authorization (credentials : Request.Credentials) : Http.Header :=
  ⟨"authorization", "Basic " ++ String.ofList (token credentials), true⟩

/-- The header field that carries an account, if its value may be sent.  It
always may (`Service.authorize_eq_ok`), so that the calls below carry the field
itself. -/
def authorize (credentials : Request.Credentials) : Except CallFault Http.Header :=
  let field := authorization credentials
  if field.value.toList.all Http.Response.isPlain then .ok field
  else .error ⟨none, "authorization header: failed to parse header value"⟩

/-- The request that submits a payload, with the account that `authorize`
gives. -/
def submission (request : Request) (payload : List UInt8) : Http.Request where
  method := .post
  url := submitUrl request
  headers :=
    [authorization request.credentials,
      ⟨"content-type", "application/octet-stream", false⟩]
  body := some payload
  timeout := request.transport.callTimeout

/-- The request that asks for the status of a task, with the account that
`authorize` gives. -/
def statusQuery (request : Request) (taskId : String) : Http.Request where
  method := .get
  url := statusUrl request taskId
  headers := [authorization request.credentials]
  timeout := request.transport.callTimeout

/-- The request that asks for the size of a result. -/
def sizeQuery (request : Request) (location : Url) : Http.Request where
  method := .head
  url := location
  timeout := request.transport.callTimeout

/-- The request that fetches a result. -/
def download (request : Request) (location : Url) : Http.Request where
  method := .get
  url := location
  timeout := request.transport.callTimeout

/-- The number of characters of a response that a fault may quote. -/
def snippetLength : Nat := 200

/-- The fault of a response without success: its message, or else the
beginning of its body, or else its status code. -/
def CallFault.ofResponse (response : Http.Response) : CallFault :=
  let body := Text.Utf8.decode response.body
  let message :=
    match errorMessage? body with
    | some message => String.ofList message
    | none =>
        let snippet := (Text.trim body).take snippetLength
        if snippet.isEmpty then s!"HTTP {response.status}"
        else String.ofList snippet
  ⟨some response.status, message⟩

/-- The successful response of a call to some address. -/
def successful
    (url : Url)
    (outcome : Http.Outcome) : Except CallFault Http.Response :=
  match outcome.result url with
  | .error message => .error ⟨none, message⟩
  | .ok response =>
      if response.isSuccess then .ok response
      else .error (.ofResponse response)

/-- A snapshot and the status code that it came with. -/
structure TaskReply where
  /-- The snapshot. -/
  snapshot : RemoteTask.Snapshot
  /-- The status code. -/
  statusCode : Nat
  deriving DecidableEq, Repr

/-- Reads the outcome of a submission or a status query. -/
def readTaskReply
    (url : Url)
    (outcome : Http.Outcome) : Except CallFault TaskReply :=
  match successful url outcome with
  | .error fault => .error fault
  | .ok response =>
      match readSnapshot (Text.Utf8.decode response.body) with
      | .error fault => .error ⟨some response.status, fault.message⟩
      | .ok snapshot => .ok ⟨snapshot, response.status⟩

/-- The announced size of a result and the status code that it came with. -/
structure ResultSize where
  /-- The announced size, if it can be read. -/
  bytes : Option Nat
  /-- The status code. -/
  statusCode : Nat
  deriving DecidableEq, Repr

/-- Reads the outcome of a size query. -/
def readSize (url : Url) (outcome : Http.Outcome) : Except CallFault ResultSize :=
  match successful url outcome with
  | .error fault => .error fault
  | .ok response => .ok ⟨response.contentLength?, response.status⟩

/-- The bytes of a result and the status code that they came with. -/
structure Downloaded where
  /-- The bytes. -/
  bytes : List UInt8
  /-- The status code. -/
  statusCode : Nat
  deriving DecidableEq, Repr

/-- Reads the outcome of a download. -/
def readDownload
    (url : Url)
    (outcome : Http.Outcome) : Except CallFault Downloaded :=
  match successful url outcome with
  | .error fault => .error fault
  | .ok response => .ok ⟨response.body, response.status⟩

/-- Reads the outcome of a size query as a check of the size: it has to be
known and must not be above the limit. -/
def checkedSize
    (format : Recognition.ExportFormat)
    (limit : Nat)
    (url : Url)
    (outcome : Http.Outcome) : Except RemoteTask.Rejection ResultSize :=
  match readSize url outcome with
  | .error fault =>
      .error (.sizeUnavailable format fault.statusCode fault.message)
  | .ok size =>
      match size.bytes with
      | none =>
          .error
            (.sizeUnavailable format (some size.statusCode)
              "response carried no Content-Length")
      | some bytes =>
          match Validation.checkSize format limit bytes with
          | .error rejection => .error rejection
          | .ok () => .ok size

end Service
end FieldOcr
