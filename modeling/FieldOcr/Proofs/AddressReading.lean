import FieldOcr.Proofs.AccountCalls
import FieldOcr.Proofs.PathReading
import FieldOcr.Url.AsciiName

/-!
# Reading addresses of the service

What a server reads from the address of a call is what the call is about: the
fields of a submission that are set, in their order, or the identifier of a
task.  The path is that of the endpoint below the service's root, in normal
form.  No value adds, hides or changes a parameter other than its own.
-/

namespace FieldOcr

namespace Url

/-- The parameters that an address tells in its query. -/
def parameters (url : Url) : List (List Char × List Char) :=
  (url.query.map decodePairs).getD []

end Url

namespace Request

/-- A computation that goes on behind another one succeeds exactly if both
do. -/
theorem bind_eq_ok_iff
    {α β ε : Type}
    {first : Except ε α}
    {next : α -> Except ε β}
    {result : β} :
    first >>= next = .ok result ↔
      ∃ value, first = .ok value ∧ next value = .ok result := by
  cases first with
  | error fault => exact iff_of_false nofun nofun
  | ok value => simp [bind, Except.bind]

namespace Draft

variable
  [Url.NameConversion]
  {draft : Draft}
  {request : Request}

/-- A draft is built exactly if each of its parts can be read and passes its
check, and this fixes the request. -/
theorem build_eq_ok_iff :
    draft.build = .ok request ↔
      ∃ source languages charset baseUrl,
        draft.readSource = .ok source ∧
          draft.checkApplicationId = .ok () ∧
          draft.readLanguages = .ok languages ∧
          draft.readCharset = .ok charset ∧
          draft.checkPlaceholders = .ok () ∧
          draft.checkTrust = .ok () ∧
          draft.checkProxy = .ok () ∧
          draft.readBase = .ok baseUrl ∧
          request =
            { source
              destination := draft.destination
              responseCharset := charset
              exportFormat := draft.exportFormat
              region := draft.region
              languages
              letterSet := present draft.letterSet
              regExp := present draft.regExp
              textType := draft.textType
              oneTextLine := draft.oneTextLine
              oneWordPerTextLine := draft.oneWordPerTextLine
              markingType := draft.markingType
              placeholdersCount := draft.placeholdersCount
              writingStyle := draft.writingStyle
              description := present draft.description
              pdfPassword := present draft.pdfPassword
              baseUrl
              credentials := draft.credentials
              transport := draft.transport } := by
  unfold build
  simp only [bind_eq_ok_iff, pure, Except.pure, Except.ok.injEq]
  constructor
  · rintro ⟨source, read, ⟨⟩, account, languages, spoken, charset, labelled,
      ⟨⟩, cells, ⟨⟩, trust, ⟨⟩, proxy, baseUrl, based, rfl⟩
    exact ⟨source, languages, charset, baseUrl, read, account, spoken,
      labelled, cells, trust, proxy, based, rfl⟩
  · rintro ⟨source, languages, charset, baseUrl, read, account, spoken,
      labelled, cells, trust, proxy, based, rfl⟩
    exact ⟨source, read, (), account, languages, spoken, charset, labelled,
      (), cells, (), trust, (), proxy, baseUrl, based, rfl⟩

theorem readBase_eq_ok_iff {url : Url} :
    draft.readBase = .ok url ↔
      Url.parseString draft.base = .ok url ∧ url.isWeb = true := by
  unfold readBase
  cases Url.parseString draft.base with
  | error fault => simp
  | ok read =>
      by_cases web : read.isWeb = true
      · simp only [web, if_true, Except.ok.injEq, iff_self_and]
        rintro rfl
        exact web
      · simp only [web, Bool.false_eq_true, if_false, reduceCtorEq,
          Except.ok.injEq, false_iff, not_and]
        rintro rfl
        exact web

/-- The root of a request that was built is an address of the web that was
read. -/
theorem baseUrl_of_build (built : draft.build = .ok request) :
    Url.parseString draft.base = .ok request.baseUrl ∧
      request.baseUrl.isWeb = true := by
  obtain ⟨source, languages, charset, baseUrl, -, -, -, -, -, -, -, based,
    rfl⟩ := build_eq_ok_iff.mp built
  exact readBase_eq_ok_iff.mp based

end Draft
end Request

namespace Service

/-! ## Paths of endpoints -/

/-- An address is that of an endpoint below a root, and tells a server these
parameters. -/
structure IsEndpointWith
    (base : Url)
    (name : String)
    (parameters : List Parameter)
    (url : Url) : Prop extends IsEndpoint base name url where
  /-- The path is in normal form: it is read as itself. -/
  normal :
    Url.readPath true false (Url.dropSlash true url.path) = url.path
  /-- There is a query. -/
  query : url.query.isSome = true
  /-- The parameters are all that is read from the query. -/
  told : url.parameters = parameters

theorem endpoint_isEndpointWith
    {base : Url}
    (read : Url.IsNormalPath base.path)
    {name : String}
    (plain : Url.IsNormalSegment name.toList)
    (parameters : List Parameter) :
    IsEndpointWith base name parameters (endpoint base name parameters) where
  toIsEndpoint := endpoint_isEndpoint base name parameters
  normal := (read.dropWhileEnd.append plain).readPath_eq (by simp)
  query := rfl
  told := Url.decodePairs_encodePairs parameters

/-! ## The fields of a submission -/

/-- The fields that a submission tells, in their order: the name of each, and
its value if it is set. -/
def toldFields (request : Request) : List (String × Option String) :=
  [("region", request.region.map Recognition.Region.render),
    ("language", some (",".intercalate request.languages)),
    ("letterSet", request.letterSet),
    ("regExp", request.regExp),
    ("textType", request.textType.map Recognition.TextType.word),
    ("oneTextLine", if request.oneTextLine then some "true" else none),
    ("oneWordPerTextLine",
      if request.oneWordPerTextLine then some "true" else none),
    ("markingType", request.markingType.map Recognition.MarkingType.word),
    ("placeholdersCount",
      if 1 < request.placeholdersCount then
        some (toString request.placeholdersCount)
      else none),
    ("writingStyle", request.writingStyle.map Recognition.WritingStyle.word),
    ("description", request.description),
    ("pdfPassword", request.pdfPassword),
    ("exportFormat", if request.exportFormat = .txt then some "txt" else none)]

/-- The parameters of the fields that are set. -/
def parametersOf (fields : List (String × Option String)) : List Parameter :=
  fields.filterMap fun field => field.2.map (parameter field.1)

/-- The values that parameters have under a name. -/
def valuesOf (name : String) (parameters : List Parameter) : List String :=
  (parameters.filter (·.1 = name.toList)).map fun told =>
    String.ofList told.2

theorem parametersOf_cons
    (name : String)
    (value : Option String)
    (fields : List (String × Option String)) :
    parametersOf ((name, value) :: fields) =
      optionalParameter name value ++ parametersOf fields := by
  cases value <;> rfl

theorem flagParameter_eq (name : String) (flag : Bool) :
    flagParameter name flag =
      optionalParameter name (if flag then some "true" else none) := by
  cases flag <;> rfl

/-- The parameters of a submission are those of its fields. -/
theorem submissionParameters_eq (request : Request) :
    submissionParameters request = parametersOf (toldFields request) := by
  have format :
      (if request.exportFormat = .txt then
          [parameter "exportFormat" request.exportFormat.word]
        else []) =
        optionalParameter "exportFormat"
          (if request.exportFormat = .txt then some "txt" else none) := by
    cases request.exportFormat <;> rfl
  have nothing : parametersOf [] = [] := rfl
  unfold submissionParameters toldFields
  simp only [parametersOf_cons, nothing, flagParameter_eq, format,
    List.append_assoc, List.append_nil]
  rfl

/-- A parameter tells nothing under another name. -/
theorem valuesOf_append_of_ne
    {name other : String}
    (apart : other ≠ name)
    (value : Option String)
    (parameters : List Parameter) :
    valuesOf name (optionalParameter other value ++ parameters) =
      valuesOf name parameters := by
  have differs : other.toList ≠ name.toList :=
    fun same => apart (String.toList_injective same)
  cases value with
  | none => rfl
  | some value => simp [valuesOf, optionalParameter, parameter, differs]

/-- A parameter tells its value under its name. -/
theorem valuesOf_append_self
    (name : String)
    (value : Option String)
    (parameters : List Parameter) :
    valuesOf name (optionalParameter name value ++ parameters) =
      value.toList ++ valuesOf name parameters := by
  cases value with
  | none => rfl
  | some value => simp [valuesOf, optionalParameter, parameter]

/-- A name that no field has is not told. -/
theorem valuesOf_parametersOf_of_notMem
    {name : String}
    {fields : List (String × Option String)}
    (fresh : name ∉ fields.map Prod.fst) :
    valuesOf name (parametersOf fields) = [] := by
  induction fields with
  | nil => rfl
  | cons field fields inductionHypothesis =>
      rw [List.map_cons, List.mem_cons, not_or] at fresh
      rw [parametersOf_cons, valuesOf_append_of_ne (Ne.symm fresh.1)]
      exact inductionHypothesis fresh.2

/-- Where names are distinct, each tells the value of its own field. -/
theorem valuesOf_parametersOf
    {fields : List (String × Option String)}
    (distinct : (fields.map Prod.fst).Nodup)
    {field : String × Option String}
    (among : field ∈ fields) :
    valuesOf field.1 (parametersOf fields) = field.2.toList := by
  induction fields with
  | nil => exact absurd among List.not_mem_nil
  | cons first fields inductionHypothesis =>
      rw [List.map_cons, List.nodup_cons] at distinct
      obtain ⟨fresh, distinct⟩ := distinct
      rw [parametersOf_cons]
      rcases List.mem_cons.mp among with rfl | behind
      · rw [valuesOf_append_self, valuesOf_parametersOf_of_notMem fresh,
          List.append_nil]
      · have apart : first.1 ≠ field.1 := fun same =>
          fresh (same ▸ List.mem_map.mpr ⟨field, behind, rfl⟩)
        rw [valuesOf_append_of_ne apart]
        exact inductionHypothesis distinct behind

theorem toldFields_nodup (request : Request) :
    ((toldFields request).map Prod.fst).Nodup := by
  change
    ["region", "language", "letterSet", "regExp", "textType", "oneTextLine",
      "oneWordPerTextLine", "markingType", "placeholdersCount",
      "writingStyle", "description", "pdfPassword", "exportFormat"].Nodup
  decide

/-! ## Addresses of requests -/

/-- From the addresses of a request that was built its fields, and the
identifier of a task, are read as they are.  Each field is told under its name
only, once if it is set and not at all otherwise. -/
theorem addresses_tell
    [Url.NameConversion]
    {draft : Request.Draft}
    {request : Request}
    (built : draft.build = .ok request) :
    IsEndpointWith request.baseUrl "processTextField"
        (parametersOf (toldFields request)) (submitUrl request) ∧
      (∀ field ∈ toldFields request,
        valuesOf field.1 (submitUrl request).parameters = field.2.toList) ∧
      ∀ taskId,
        IsEndpointWith request.baseUrl "getTaskStatus"
          [("taskId".toList, taskId.toList)] (statusUrl request taskId) := by
  obtain ⟨read, web⟩ := Request.Draft.baseUrl_of_build built
  have normal := Url.parse_isNormalPath read web
  have submission :
      IsEndpointWith request.baseUrl "processTextField"
        (parametersOf (toldFields request)) (submitUrl request) := by
    rw [submitUrl, submissionParameters_eq]
    exact endpoint_isEndpointWith normal
      (Url.isNormalSegment_of_all (by decide) (by decide) (by decide)) _
  refine ⟨submission, ?_, ?_⟩
  · intro field among
    rw [submission.told]
    exact valuesOf_parametersOf (toldFields_nodup request) among
  · intro taskId
    exact endpoint_isEndpointWith normal
      (Url.isNormalSegment_of_all (by decide) (by decide) (by decide)) _

/-- A draft with marks of a query in a password, and a root with a query of its
own and slashes at the end of its path. -/
def markedDraft : Request.Draft where
  source := some "field.png"
  credentials := { applicationId := "app" }
  baseUrl := some "http://service/v2//?exportFormat=txt"
  pdfPassword := some "p&letterSet=1+%26#é"

/-- The password is told as it is, and nothing of the root's query. -/
theorem addresses_tell_markedDraft :
    ∃ request,
      markedDraft.build = .ok request ∧
        (submitUrl request).path = "/v2/processTextField".toList ∧
        (submitUrl request).parameters =
          [parameter "language" "English",
            parameter "pdfPassword" "p&letterSet=1+%26#é"] ∧
        valuesOf "letterSet" (submitUrl request).parameters = [] ∧
        (statusUrl request "t&u").parameters =
          [("taskId".toList, "t&u".toList)] := by
  have known :
      markedDraft.build.toOption.map
          (fun request =>
            (toldFields request, (submitUrl request).path)) =
        some
          ([("region", none), ("language", some "English"),
            ("letterSet", none), ("regExp", none), ("textType", none),
            ("oneTextLine", none), ("oneWordPerTextLine", none),
            ("markingType", none), ("placeholdersCount", none),
            ("writingStyle", none), ("description", none),
            ("pdfPassword", some "p&letterSet=1+%26#é"),
            ("exportFormat", none)],
            "/v2/processTextField".toList) := by
    decide +kernel
  cases built : markedDraft.build with
  | error fault =>
      rw [built] at known
      exact nomatch known
  | ok request =>
      rw [built] at known
      obtain ⟨fields, path⟩ := Prod.mk.inj (Option.some.inj known)
      obtain ⟨submission, values, status⟩ := addresses_tell built
      have told := submission.told
      have letterSet := values ("letterSet", none) (by simp [fields])
      rw [fields] at told
      exact ⟨request, rfl, path, told, letterSet, (status "t&u").told⟩

end Service
end FieldOcr
