import FieldOcr.Request.Draft
import FieldOcr.Request.Options
import FieldOcr.Text.Outline

/-!
# Outlines of requests and options

Outlines never show a password.
-/

namespace FieldOcr
namespace Request

open Text (quoted)

/-- The outline of an account. -/
def Credentials.outline (credentials : Credentials) : String :=
  Text.Outline.record "Credentials"
    [("application_id", quoted credentials.applicationId),
      ("password", Text.Outline.secret credentials.password)]

/-- The outline of a proxy. -/
def Proxy.outline (proxy : Proxy) : String :=
  Text.Outline.record "ProxySettings"
    [("host", quoted proxy.host), ("port", toString proxy.port),
      ("username", Text.Outline.optional quoted proxy.username),
      ("password",
        Text.Outline.optional Text.Outline.secret proxy.password)]

/-- The outline of a number of seconds. -/
def seconds (time : Nat) : String :=
  Text.Outline.milliseconds (time * 1000)

/-- The outline of connection settings. -/
def TransportSettings.outline (settings : TransportSettings) : String :=
  Text.Outline.record "TransportSettings"
    [("connect_timeout",
        Text.Outline.optional seconds settings.connectTimeout),
      ("socket_timeout", Text.Outline.optional seconds settings.socketTimeout),
      ("keep_alive", Text.Outline.boolean settings.keepAlive),
      ("connections_max_per_route", toString settings.connectionsMaxPerRoute),
      ("proxy", Text.Outline.optional Proxy.outline settings.proxy),
      ("trust_all_roots", Text.Outline.boolean settings.trustAllRoots),
      ("trust_bundle",
        Text.Outline.optional Text.Outline.path settings.trustBundle)]

/-- The outline of a region. -/
def regionOutline (region : Recognition.Region) : String :=
  Text.Outline.record "Region"
    [("left", toString region.left), ("top", toString region.top),
      ("right", toString region.right), ("bottom", toString region.bottom)]

/-- The outline of a request. -/
def outline (request : Request) : String :=
  Text.Outline.record "TaskRequest"
    [("source", quoted request.source),
      ("destination",
        Text.Outline.optional Text.Outline.path request.destination),
      ("response_charset", quoted request.responseCharset.name),
      ("export_format",
        Recognition.ExportFormat.vocabulary.name request.exportFormat),
      ("region", Text.Outline.optional regionOutline request.region),
      ("languages", Text.Outline.list quoted request.languages),
      ("letter_set", Text.Outline.optional quoted request.letterSet),
      ("reg_exp", Text.Outline.optional quoted request.regExp),
      ("text_type",
        Text.Outline.optional Recognition.TextType.vocabulary.name
          request.textType),
      ("one_text_line", Text.Outline.boolean request.oneTextLine),
      ("one_word_per_text_line",
        Text.Outline.boolean request.oneWordPerTextLine),
      ("marking_type",
        Text.Outline.optional Recognition.MarkingType.vocabulary.name
          request.markingType),
      ("placeholders_count", toString request.placeholdersCount),
      ("writing_style",
        Text.Outline.optional Recognition.WritingStyle.vocabulary.name
          request.writingStyle),
      ("description", Text.Outline.optional quoted request.description),
      ("pdf_password",
        Text.Outline.optional Text.Outline.secret request.pdfPassword),
      ("base_url", quoted request.baseUrl.render),
      ("credentials", request.credentials.outline),
      ("transport", request.transport.outline)]

/-- The outline of a draft, which leaves some fields out. -/
def Draft.outline (draft : Draft) : String :=
  Text.Outline.openRecord "TaskRequestBuilder"
    [("source", Text.Outline.optional quoted draft.source),
      ("destination",
        Text.Outline.optional Text.Outline.path draft.destination),
      ("export_format",
        Recognition.ExportFormat.vocabulary.name draft.exportFormat),
      ("languages", Text.Outline.list quoted draft.languages),
      ("pdf_password",
        Text.Outline.optional Text.Outline.secret draft.pdfPassword),
      ("location",
        Recognition.ServiceLocation.vocabulary.name draft.location),
      ("base_url", Text.Outline.optional quoted draft.baseUrl),
      ("credentials", draft.credentials.outline)]

end Request

/-- The outline of run options; `observed` holds where someone watches the
run. -/
def RunOptions.outline (options : RunOptions) (observed : Bool) : String :=
  Text.Outline.record "RunOptions"
    [("poll",
        Text.Outline.record "PollPolicy"
          [("interval", Text.Outline.milliseconds options.poll.interval),
            ("timeout", Text.Outline.limit options.poll.timeout)]),
      ("max_result_size", toString options.sizeLimit),
      ("schema_path",
        Text.Outline.optional Text.Outline.path options.schemaPath),
      ("observer",
        if observed then "Some(" ++ Text.quoted "<dyn TaskObserver>" ++ ")"
        else "None")]

end FieldOcr
