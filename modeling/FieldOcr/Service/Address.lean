import FieldOcr.Request.Draft
import FieldOcr.Url.Form

/-!
# Addresses of the service

The address of a submission carries every parameter of the field that is set;
the address of a status query carries the task's identifier.
-/

namespace FieldOcr
namespace Service

/-- A parameter of an address. -/
abbrev Parameter := List Char × List Char

/-- A parameter with its value. -/
def parameter (name value : String) : Parameter :=
  (name.toList, value.toList)

/-- A parameter that is there only if it has a value. -/
def optionalParameter (name : String) : Option String -> List Parameter
  | none => []
  | some value => [parameter name value]

/-- A parameter that is there only if it holds. -/
def flagParameter (name : String) (flag : Bool) : List Parameter :=
  if flag then [parameter name "true"] else []

/-- The path of an endpoint below the path of the service's root. -/
def endpointPath (base : List Char) (name : String) : List Char :=
  Text.dropWhileEnd (· == '/') base ++ '/' :: name.toList

/-- The address of an endpoint with some parameters, which replace the query
of the service's root. -/
def endpoint (base : Url) (name : String) (parameters : List Parameter) : Url :=
  { base with
    path := endpointPath base.path name
    query := some (Url.encodePairs parameters) }

/-- The parameters of a submission. -/
def submissionParameters (request : Request) : List Parameter :=
  optionalParameter "region" (request.region.map Recognition.Region.render) ++
    parameter "language" (",".intercalate request.languages) ::
    optionalParameter "letterSet" request.letterSet ++
    optionalParameter "regExp" request.regExp ++
    optionalParameter "textType"
      (request.textType.map Recognition.TextType.word) ++
    flagParameter "oneTextLine" request.oneTextLine ++
    flagParameter "oneWordPerTextLine" request.oneWordPerTextLine ++
    optionalParameter "markingType"
      (request.markingType.map Recognition.MarkingType.word) ++
    optionalParameter "placeholdersCount"
      (if 1 < request.placeholdersCount then
        some (toString request.placeholdersCount)
      else none) ++
    optionalParameter "writingStyle"
      (request.writingStyle.map Recognition.WritingStyle.word) ++
    optionalParameter "description" request.description ++
    optionalParameter "pdfPassword" request.pdfPassword ++
    (if request.exportFormat = .txt then
      [parameter "exportFormat" request.exportFormat.word]
    else [])

/-- The address of a submission. -/
def submitUrl (request : Request) : Url :=
  endpoint request.baseUrl "processTextField" (submissionParameters request)

/-- The address of a status query. -/
def statusUrl (request : Request) (taskId : String) : Url :=
  endpoint request.baseUrl "getTaskStatus" [parameter "taskId" taskId]

end Service
end FieldOcr
