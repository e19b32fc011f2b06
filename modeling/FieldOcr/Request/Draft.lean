import FieldOcr.Charset.Label
import FieldOcr.Recognition.Parameters
import FieldOcr.Recognition.Region
import FieldOcr.Request.Settings
import FieldOcr.Url.Parser

/-!
# Requests

A *request* describes one text field to recognize.  It is built from a
*draft*, whose parts may have any value; building checks them in a fixed order
and reports the first that is not valid.
-/

namespace FieldOcr

open Recognition (ExportFormat MarkingType Region ServiceLocation TextType)
open Recognition (WritingStyle)

/-- A valid description of one text field to recognize. -/
structure Request where
  /-- The path or the address of the image. -/
  source : String
  /-- The file that the result is written to. -/
  destination : Option String
  /-- The charset of that file. -/
  responseCharset : Charset
  /-- The format of the result. -/
  exportFormat : ExportFormat
  /-- The part of the image to recognize. -/
  region : Option Region
  /-- The languages of the text. -/
  languages : List String
  /-- The characters that the field may contain. -/
  letterSet : Option String
  /-- A regular expression that the text matches. -/
  regExp : Option String
  /-- The kind of print. -/
  textType : Option TextType
  /-- Whether the field holds one line. -/
  oneTextLine : Bool
  /-- Whether each line holds one word. -/
  oneWordPerTextLine : Bool
  /-- How the field is marked. -/
  markingType : Option MarkingType
  /-- The number of cells. -/
  placeholdersCount : Nat
  /-- The convention of handwriting. -/
  writingStyle : Option WritingStyle
  /-- A note that the service keeps with the task. -/
  description : Option String
  /-- The password of the source. -/
  pdfPassword : Option String
  /-- The root of the service. -/
  baseUrl : Url
  /-- The account. -/
  credentials : Request.Credentials
  /-- How connections are made. -/
  transport : Request.TransportSettings
  deriving DecidableEq, Repr

namespace Request

/-- A request whose parts may have any value. -/
structure Draft where
  /-- The path or the address of the image. -/
  source : Option String := none
  /-- The file that the result is written to. -/
  destination : Option String := none
  /-- The label of that file's charset. -/
  responseCharset : String := "utf-8"
  /-- The format of the result. -/
  exportFormat : ExportFormat := .xml
  /-- The part of the image to recognize. -/
  region : Option Region := none
  /-- The languages of the text. -/
  languages : List String := ["English"]
  /-- The characters that the field may contain. -/
  letterSet : Option String := none
  /-- A regular expression that the text matches. -/
  regExp : Option String := none
  /-- The kind of print. -/
  textType : Option TextType := none
  /-- Whether the field holds one line. -/
  oneTextLine : Bool := false
  /-- Whether each line holds one word. -/
  oneWordPerTextLine : Bool := false
  /-- How the field is marked. -/
  markingType : Option MarkingType := none
  /-- The number of cells. -/
  placeholdersCount : Nat := 1
  /-- The convention of handwriting. -/
  writingStyle : Option WritingStyle := none
  /-- A note that the service keeps with the task. -/
  description : Option String := none
  /-- The password of the source. -/
  pdfPassword : Option String := none
  /-- The data centre. -/
  location : ServiceLocation := .europe
  /-- The root of the service, in place of the data centre's. -/
  baseUrl : Option String := none
  /-- The account. -/
  credentials : Credentials := { }
  /-- How connections are made. -/
  transport : TransportSettings := { }
  deriving DecidableEq, Repr

namespace Draft

/-- The languages that are not blank, without blanks around them. -/
def spokenLanguages (draft : Draft) : List String :=
  (draft.languages.map Text.trimString).filter (· ≠ "")

/-- The charset of the draft's label. -/
def charset? (draft : Draft) : Option Charset :=
  Charset.ofLabel? (Text.trim draft.responseCharset.toList)

/-- Whether the marking has a cell for each character. -/
def hasCells (draft : Draft) : Bool :=
  (draft.markingType.map MarkingType.hasCells).getD false

/-- The text of the service's root. -/
def base (draft : Draft) : String :=
  draft.baseUrl.getD draft.location.baseUrl

/-- Checks the number of cells. -/
def checkPlaceholders (draft : Draft) : Except Setup.Fault Unit :=
  if draft.placeholdersCount = 0 then .error (.request .noPlaceholders)
  else if 1 < draft.placeholdersCount && !draft.hasCells then
    .error (.request (.placeholdersWithoutCells draft.placeholdersCount))
  else .ok ()

/-- Checks what certificates are trusted. -/
def checkTrust (draft : Draft) : Except Setup.Fault Unit :=
  if draft.transport.trustAllRoots && draft.transport.trustBundle.isSome then
    .error (.request .contradictoryTrust)
  else .ok ()

/-- Checks the proxy. -/
def checkProxy (draft : Draft) : Except Setup.Fault Unit :=
  match draft.transport.proxy with
  | none => .ok ()
  | some proxy =>
      if Text.isBlankString proxy.host then .error (.request .emptyProxyHost)
      else if proxy.password.isSome && proxy.username.isNone then
        .error (.request .proxyPasswordWithoutUsername)
      else .ok ()

variable [Url.NameConversion]

/-- Reads the root of the service, which has to be an address of the web. -/
def readBase (draft : Draft) : Except Setup.Fault Url :=
  match Url.parseString draft.base with
  | .error fault =>
      .error (.parameter .baseUrl (draft.base ++ s!" ({fault.message})"))
  | .ok url =>
      if url.isWeb then .ok url
      else .error (.request (.baseUrlScheme draft.base))

/-- A text that is not empty. -/
def present (text : Option String) : Option String :=
  text.filter (· ≠ "")

/-- The source that is not blank. -/
def readSource (draft : Draft) : Except Setup.Fault String :=
  match draft.source.filter (!Text.isBlankString ·) with
  | none => .error (.request .noSource)
  | some source => .ok source

/-- Checks the application's identifier. -/
def checkApplicationId (draft : Draft) : Except Setup.Fault Unit :=
  if Text.isBlankString draft.credentials.applicationId then
    .error (.request .noApplicationId)
  else .ok ()

/-- Reads the languages, of which there has to be one. -/
def readLanguages (draft : Draft) : Except Setup.Fault (List String) :=
  if draft.spokenLanguages.isEmpty then .error (.request .noLanguage)
  else .ok draft.spokenLanguages

/-- Reads the charset. -/
def readCharset (draft : Draft) : Except Setup.Fault Charset :=
  match draft.charset? with
  | none => .error (.parameter .responseCharset draft.responseCharset)
  | some charset => .ok charset

/-- Builds the request of a draft. -/
def build (draft : Draft) : Except Setup.Fault Request := do
  let source ← draft.readSource
  draft.checkApplicationId
  let languages ← draft.readLanguages
  let responseCharset ← draft.readCharset
  draft.checkPlaceholders
  draft.checkTrust
  draft.checkProxy
  let baseUrl ← draft.readBase
  return {
    source
    destination := draft.destination
    responseCharset
    exportFormat := draft.exportFormat
    region := draft.region
    languages
    letterSet := present draft.letterSet
    regExp := present draft.regExp
    textType := draft.textType
    oneTextLine := draft.oneTextLine
    oneWordPerTextLine := draft.oneWordPerTextLine
    markingType := draft.markingType
    placeholdersCount := draft.placeholdersCount
    writingStyle := draft.writingStyle
    description := present draft.description
    pdfPassword := present draft.pdfPassword
    baseUrl
    credentials := draft.credentials
    transport := draft.transport }

end Draft
end Request
end FieldOcr
