import FieldOcr.Request.Draft
import FieldOcr.Request.Options

/-!
# Invocations

What a command line says, and the request and the options that it stands for.
-/

namespace FieldOcr
namespace CommandLine

open Recognition (ExportFormat MarkingType Region ServiceLocation TextType)
open Recognition (WritingStyle)

/-- What a command line says. -/
structure Invocation where
  /-- The path or the address of the image. -/
  source : Option String := none
  /-- The file that the result is written to. -/
  output : Option String := none
  /-- The identifier of the application. -/
  applicationId : Option String := none
  /-- The password of the application. -/
  password : Option String := none
  /-- The data centre. -/
  location : Option ServiceLocation := none
  /-- The root of the service. -/
  baseUrl : Option String := none
  /-- The format of the result. -/
  exportFormat : Option ExportFormat := none
  /-- The charset of the written file. -/
  charset : Option String := none
  /-- The part of the image to recognize. -/
  region : Option Region := none
  /-- The languages of the text. -/
  languages : List String := []
  /-- The characters that the field may contain. -/
  letterSet : Option String := none
  /-- A regular expression that the text matches. -/
  regExp : Option String := none
  /-- The kind of print. -/
  textType : Option TextType := none
  /-- Whether the field holds one line. -/
  oneTextLine : Bool := false
  /-- Whether each line holds one word. -/
  oneWordPerTextLine : Bool := false
  /-- How the field is marked. -/
  markingType : Option MarkingType := none
  /-- The number of cells. -/
  placeholdersCount : Option Nat := none
  /-- The convention of handwriting. -/
  writingStyle : Option WritingStyle := none
  /-- A note that the service keeps with the task. -/
  description : Option String := none
  /-- The password of the source. -/
  pdfPassword : Option String := none
  /-- The seconds between status queries. -/
  pollInterval : Option Nat := none
  /-- The seconds after which waiting is given up. -/
  timeout : Option Nat := none
  /-- The file of the result schema. -/
  schema : Option String := none
  /-- The seconds to wait for a connection. -/
  connectTimeout : Option Nat := none
  /-- The seconds to wait for an answer. -/
  socketTimeout : Option Nat := none
  /-- Whether idle connections are not kept alive. -/
  noKeepAlive : Bool := false
  /-- The greatest number of idle connections to one host. -/
  connectionsMaxPerRoute : Option Nat := none
  /-- The host of the proxy. -/
  proxyHost : Option String := none
  /-- The port of the proxy. -/
  proxyPort : Option Nat := none
  /-- The user name at the proxy. -/
  proxyUsername : Option String := none
  /-- The password at the proxy. -/
  proxyPassword : Option String := none
  /-- Whether any certificate of a server is accepted. -/
  trustAllRoots : Bool := false
  /-- The file of further certificates to trust. -/
  trustBundle : Option String := none
  /-- Whether the whole record is printed. -/
  json : Bool := false
  /-- Whether progress is not shown. -/
  noProgress : Bool := false
  /-- Whether more is logged. -/
  verbose : Bool := false
  /-- Whether nothing but errors is shown. -/
  quiet : Bool := false
  deriving DecidableEq, Repr

namespace Invocation

/-- The proxy, which is there only if its host is given. -/
def proxy (invocation : Invocation) : Option Request.Proxy :=
  invocation.proxyHost.map fun host =>
    { host
      port := invocation.proxyPort.getD 8080
      username := invocation.proxyUsername
      password := invocation.proxyPassword }

/-- The connection settings of an invocation. -/
def transport (invocation : Invocation) : Request.TransportSettings where
  connectTimeout :=
    Request.limitOfSeconds (invocation.connectTimeout.getD 10)
  socketTimeout :=
    Request.limitOfSeconds (invocation.socketTimeout.getD 60)
  keepAlive := !invocation.noKeepAlive
  connectionsMaxPerRoute := invocation.connectionsMaxPerRoute.getD 2
  proxy := invocation.proxy
  trustAllRoots := invocation.trustAllRoots
  trustBundle := invocation.trustBundle

/-- The draft of the request that an invocation describes. -/
def draft (invocation : Invocation) : Request.Draft where
  source := invocation.source
  destination := invocation.output
  responseCharset := invocation.charset.getD "utf-8"
  exportFormat := invocation.exportFormat.getD .xml
  region := invocation.region
  languages :=
    if invocation.languages.isEmpty then ["English"]
    else invocation.languages
  letterSet := invocation.letterSet
  regExp := invocation.regExp
  textType := invocation.textType
  oneTextLine := invocation.oneTextLine
  oneWordPerTextLine := invocation.oneWordPerTextLine
  markingType := invocation.markingType
  placeholdersCount := invocation.placeholdersCount.getD 1
  writingStyle := invocation.writingStyle
  description := invocation.description
  pdfPassword := invocation.pdfPassword
  location := invocation.location.getD .europe
  baseUrl := invocation.baseUrl
  credentials :=
    { applicationId := invocation.applicationId.getD ""
      password := invocation.password.getD "" }
  transport := invocation.transport

/-- The seconds after which waiting is given up. -/
def patience (invocation : Invocation) : Nat :=
  invocation.timeout.getD 600

/-- The options of an invocation.  At least one second passes between status
queries. -/
def options (invocation : Invocation) : RunOptions where
  poll :=
    { interval := max 1 (invocation.pollInterval.getD 2) * 1000
      timeout := some (invocation.patience * 1000) }
  schemaPath := invocation.schema

/-- Whether progress is shown. -/
def showsProgress (invocation : Invocation) : Bool :=
  !invocation.quiet && !invocation.noProgress && !invocation.json

end Invocation
end CommandLine
end FieldOcr
