import FieldOcr.Text.Blank
import FieldOcr.Text.Numeral
import FieldOcr.Url.Basic

/-!
# Messages

A request that is sent and the response that answers it.  Names of header
fields are compared without regard to case.
-/

namespace FieldOcr
namespace Http

/-- The methods of requests. -/
inductive Method
  | get
  | post
  | head
  deriving DecidableEq, Repr

/-- The name of a method. -/
def Method.name : Method -> String
  | .get => "GET"
  | .post => "POST"
  | .head => "HEAD"

/-- A header field of a request. -/
structure Header where
  /-- The name in lower case. -/
  name : String
  /-- The value. -/
  value : String
  /-- Whether the value must not be shown. -/
  sensitive : Bool := false
  deriving DecidableEq, Repr

/-- A request. -/
structure Request where
  /-- The method. -/
  method : Method
  /-- The address. -/
  url : Url
  /-- The header fields in the order of their names. -/
  headers : List Header := []
  /-- The body, if there is one. -/
  body : Option (List UInt8) := none
  /-- The milliseconds after which an answer is no longer awaited. -/
  timeout : Option Nat := none
  deriving DecidableEq, Repr

/-- A response. -/
structure Response where
  /-- The status code. -/
  status : Nat
  /-- The header fields as they were sent. -/
  headers : List (String × String) := []
  /-- The body. -/
  body : List UInt8 := []
  deriving DecidableEq, Repr

namespace Response

/-- Whether a response reports success. -/
def isSuccess (response : Response) : Bool :=
  200 ≤ response.status && response.status < 300

/-- The first value of a header field, given its name in lower case. -/
def header? (response : Response) (name : String) : Option String :=
  (response.headers.find? fun field =>
    field.1.toList.map Char.toLower == name.toList).map (·.2)

/-- Whether a character is visible, a space or a tab. -/
def isPlain (character : Char) : Bool :=
  (0x20 ≤ character.toNat && character.toNat ≤ 0x7E) || character == '\t'

/-- The length that a response announces, if it can be read. -/
def contentLength? (response : Response) : Option Nat :=
  match response.header? "content-length" with
  | none => none
  | some value =>
      if value.toList.all isPlain then
        (Text.readWord 64 (Text.trim value.toList)).toOption
      else none

end Response

/-- What comes of a request: a response, or a reason why there is none. -/
inductive Outcome
  | response (response : Response)
  | timedOut
  | noConnection (reason : String)
  | failed (reason : String)
  deriving DecidableEq, Repr

/-- The response of an outcome, or the wording of its failure for a request to
some address. -/
def Outcome.result (url : Url) : Outcome -> Except String Response
  | .response received => .ok received
  | .timedOut => .error s!"request to {url.render} timed out"
  | .noConnection reason =>
      .error s!"could not connect to {url.render}: {reason}"
  | .failed reason => .error s!"request to {url.render} failed: {reason}"

end Http
end FieldOcr
