import FieldOcr.Charset.WithoutIdeographs
import FieldOcr.Proofs.Performing
import FieldOcr.Url.AsciiName

/-!
# The status code of a record

A record has the last status code that its run received from the service or
from the place of its result.  There is one exception: the response that
announces too large a result does not count.
-/

namespace FieldOcr
namespace Run

open RemoteTask (Failure Handle)

/-- The last of some calls asked for a size, and was answered by one above a
limit. -/
def SizeRefused
    (transport : Transport)
    (limit : Nat)
    (earlier calls : List Call) : Prop :=
  ∃ front query bytes,
    calls = front ++ [query] ∧
      query.request.method = .head ∧
      Service.announced?
          (transport (earlier ++ front) query.request).outcome =
        some bytes ∧
      limit < bytes

theorem not_sizeRefused_of_method
    {transport : Transport}
    {limit : Nat}
    {earlier calls : List Call}
    (others : ∀ call ∈ calls, call.request.method ≠ .head) :
    ¬SizeRefused transport limit earlier calls := by
  rintro ⟨front, query, bytes, rfl, head, -⟩
  exact others query (by simp) head

theorem not_sizeRefused_nil
    {transport : Transport}
    {limit : Nat}
    {earlier : List Call} :
    ¬SizeRefused transport limit earlier [] :=
  not_sizeRefused_of_method fun _ made => absurd made List.not_mem_nil

theorem sizeRefused_concat_iff
    {transport : Transport}
    {limit : Nat}
    {earlier front : List Call}
    {query : Call} :
    SizeRefused transport limit earlier (front ++ [query]) ↔
      query.request.method = .head ∧
        ∃ bytes,
          Service.announced?
              (transport (earlier ++ front) query.request).outcome =
            some bytes ∧
          limit < bytes := by
  constructor
  · rintro ⟨other, last, bytes, same, head, announced, above⟩
    obtain ⟨rfl, last⟩ := List.append_inj' same rfl
    cases last
    exact ⟨head, bytes, announced, above⟩
  · rintro ⟨head, bytes, announced, above⟩
    exact ⟨front, query, bytes, rfl, head, announced, above⟩

theorem sizeRefused_singleton_iff
    {transport : Transport}
    {limit : Nat}
    {earlier : List Call}
    {query : Call} :
    SizeRefused transport limit earlier [query] ↔
      query.request.method = .head ∧
        ∃ bytes,
          Service.announced? (transport earlier query.request).outcome =
            some bytes ∧
          limit < bytes := by
  rw [← List.nil_append [query], sizeRefused_concat_iff, List.append_nil]

/-- Calls in front that do not ask for a size do not matter. -/
theorem sizeRefused_append_iff
    {transport : Transport}
    {limit : Nat}
    {earlier first second : List Call}
    (others : ∀ call ∈ first, call.request.method ≠ .head) :
    SizeRefused transport limit earlier (first ++ second) ↔
      SizeRefused transport limit (earlier ++ first) second := by
  rcases List.eq_nil_or_concat second with rfl | ⟨front, query, rfl⟩
  · rw [List.append_nil]
    exact iff_of_false (not_sizeRefused_of_method others) not_sizeRefused_nil
  · rw [List.concat_eq_append, ← List.append_assoc, sizeRefused_concat_iff,
      sizeRefused_concat_iff, List.append_assoc]

section

variable
  [Url.NameConversion]
  (transport : Transport)
  (plan : Plan)
  (journal : Journal)

/-- The calls of a run behind the fetch of its source. -/
def serviceCalls (ended : Journal) : List Call :=
  ended.calls.drop (journal.calls ++ sourceCalls plan journal).length

/-- The status codes that a run received, without that of its source. -/
def serviceCodes (ended : Journal) : List Nat :=
  statusCodes
    (receivedBy transport ended.now
      (journal.calls ++ sourceCalls plan journal)
      (serviceCalls plan journal ended))

/-- A run ended because its result was announced too large. -/
def EndedTooLarge (ended : Journal) : Prop :=
  SizeRefused transport plan.options.sizeLimit
    (journal.calls ++ sourceCalls plan journal)
    (serviceCalls plan journal ended)

/-- Which status code the record of a run has. -/
structure CodeOf (record : Record) (ended : Journal) : Prop where
  /-- It is the last one that was received, unless the size was refused by a
  response whose status code differs from the one before. -/
  last :
    record.statusCode = (serviceCodes transport plan journal ended).getLast? ↔
      ¬(EndedTooLarge transport plan journal ended ∧
        (serviceCodes transport plan journal ended).dropLast.getLast? ≠
          (serviceCodes transport plan journal ended).getLast?)
  /-- It is the one before the last if the size was refused. -/
  refused :
    EndedTooLarge transport plan journal ended ->
      record.statusCode =
        (serviceCodes transport plan journal ended).dropLast.getLast?
  /-- It is absent if no status code was received. -/
  absent :
    record.statusCode = none ↔
      serviceCodes transport plan journal ended = []

end

variable
  {transport : Transport}
  {plan : Plan}
  {journal ended : Journal}
  {record : Record}

theorem serviceCalls_of_calls
    [Url.NameConversion]
    {calls : List Call}
    (made : ended.calls = journal.calls ++ sourceCalls plan journal ++ calls) :
    serviceCalls plan journal ended = calls := by
  rw [serviceCalls, made, List.drop_left]

/-- The code of a record is the last one if the size was not refused. -/
theorem CodeOf.of_last
    [Url.NameConversion]
    (last :
      record.statusCode = (serviceCodes transport plan journal ended).getLast?)
    (passed : ¬EndedTooLarge transport plan journal ended) :
    CodeOf transport plan journal record ended where
  last := iff_of_true last fun refused => passed refused.1
  refused := fun refused => absurd refused passed
  absent := by rw [last, List.getLast?_eq_none_iff]

/-- The code of a record is the one before the last if the size was
refused. -/
theorem CodeOf.of_refused
    [Url.NameConversion]
    {codes : List Nat}
    {code : Nat}
    (received :
      serviceCodes transport plan journal ended = codes ++ [code])
    (nonempty : codes ≠ [])
    (before : record.statusCode = codes.getLast?)
    (refused : EndedTooLarge transport plan journal ended) :
    CodeOf transport plan journal record ended where
  last := by
    rw [received, List.dropLast_concat, before]
    simp [refused]
  refused := fun _ => by rw [received, List.dropLast_concat, before]
  absent := by simp [received, before, nonempty]

/-- The calls of a fetch, and how the status code of its record depends on
those that they received and on the one in front. -/
def FetchCode
    (transport : Transport)
    (plan : Plan)
    (journal fetched : Journal)
    (before : Option Nat)
    (record : Record) : Prop :=
  ∃ calls,
    fetched.calls = journal.calls ++ calls ∧
      ((SizeRefused transport plan.options.sizeLimit journal.calls calls ∧
          (∃ code,
            statusCodes
                (receivedBy transport fetched.now journal.calls calls) =
              [code]) ∧
          record.statusCode = before) ∨
        (¬SizeRefused transport plan.options.sizeLimit journal.calls calls ∧
          record.statusCode =
            (statusCodes
              (receivedBy transport fetched.now journal.calls
                calls)).getLast?.or before))

/-- Nothing is fetched, and nothing received. -/
theorem FetchCode.of_unchanged
    {before : Option Nat}
    (same : record.statusCode = before) :
    FetchCode transport plan journal journal before record :=
  ⟨[], by simp, Or.inr ⟨not_sizeRefused_nil, by simpa using same⟩⟩

/-- A size query was the only call. -/
theorem receivedBy_afterSize
    (transport : Transport)
    (plan : Plan)
    (location : Url)
    (journal : Journal) :
    receivedBy transport (afterSize transport plan location journal).now
        journal.calls
        [⟨journal.now, Service.sizeQuery plan.request location⟩] =
      [sizeOutcome transport plan location journal] :=
  receivedBy_answered transport _ journal.moment

/-- A download followed the size query. -/
theorem receivedBy_afterDownload
    (transport : Transport)
    (plan : Plan)
    (location : Url)
    (journal : Journal) :
    receivedBy transport (afterDownload transport plan location journal).now
        journal.calls
        ([⟨journal.now, Service.sizeQuery plan.request location⟩] ++
          [⟨(afterSize transport plan location journal).now,
            Service.download plan.request location⟩]) =
      [sizeOutcome transport plan location journal,
        downloadOutcome transport plan location journal] := by
  have arrived :
      AllArrived transport (afterSize transport plan location journal).now
        journal.calls
        [⟨journal.now, Service.sizeQuery plan.request location⟩] :=
    allArrived_answered transport _ journal.moment
  have later :
      (afterSize transport plan location journal).now ≤
        (afterDownload transport plan location journal).now :=
    Nat.le_add_right ..
  have downloaded :
      receivedBy transport (afterDownload transport plan location journal).now
          (journal.calls ++
            [⟨journal.now, Service.sizeQuery plan.request location⟩])
          [⟨(afterSize transport plan location journal).now,
            Service.download plan.request location⟩] =
        [downloadOutcome transport plan location journal] :=
    receivedBy_answered transport _
      (afterSize transport plan location journal).moment
  rw [receivedBy_append, arrived.receivedBy_eq later, receivedBy_afterSize,
    downloaded]
  rfl

theorem SizePasses.statusCode
    {location : Url}
    (passes : SizePasses transport plan location journal) :
    ∃ code,
      (sizeOutcome transport plan location journal).statusCode? =
        some code := by
  obtain ⟨bytes, announced, -⟩ := passes
  exact Service.statusCode?_of_announced? announced

/-- The download counts if it was answered, and the size query otherwise. -/
theorem FetchCode.of_download
    {location : Url}
    {fetched : Journal}
    {before : Option Nat}
    (passes : SizePasses transport plan location journal)
    (still :
      fetched.moment = (afterDownload transport plan location journal).moment)
    (code :
      record.statusCode =
        (downloadOutcome transport plan location journal).statusCode?.or
          (sizeOutcome transport plan location journal).statusCode?) :
    FetchCode transport plan journal fetched before record := by
  have calls : fetched.calls = _ := congrArg Moment.calls still
  have now : fetched.now = _ := congrArg Moment.now still
  refine ⟨_, calls.trans (List.append_assoc ..), Or.inr ⟨?_, ?_⟩⟩
  · rw [sizeRefused_concat_iff]
    rintro ⟨impossible, -⟩
    exact nomatch impossible
  · obtain ⟨sized, known⟩ := passes.statusCode
    have received :=
      congrArg statusCodes
        (receivedBy_afterDownload transport plan location journal)
    rw [code, now]
    refine Eq.trans ?_ (congrArg (fun codes : List Nat =>
      codes.getLast?.or before) received.symm)
    rw [← List.singleton_append, statusCodes_append, statusCodes_singleton,
      statusCodes_singleton, getLast?_append_toList, known]
    cases (downloadOutcome transport plan location journal).statusCode? <;> rfl

/-- Fetching from an address gives its record the code that is due. -/
theorem FetchedFrom.code
    {location : Url}
    {handle : Handle}
    {result : Except Abort Record}
    {fetched : Journal}
    (ending :
      FetchedFrom transport plan location journal handle result fetched) :
    FetchCode transport plan journal fetched handle.lastStatusCode
      (recordOf handle result) := by
  have sizeReceived :=
    congrArg statusCodes
      (receivedBy_afterSize transport plan location journal)
  rw [statusCodes_singleton] at sizeReceived
  cases ending with
  | tooLarge announced above =>
      obtain ⟨code, known⟩ := Service.statusCode?_of_announced? announced
      refine ⟨_, rfl, Or.inl ⟨?_, ⟨code, ?_⟩, ?_⟩⟩
      · exact sizeRefused_singleton_iff.mpr ⟨rfl, _, announced, above⟩
      · rw [sizeReceived, known]
        rfl
      · exact Record.ofFailure_withLastStatusCode_statusCode ..
  | sizeUnavailable detail unannounced =>
      refine ⟨_, rfl, Or.inr ⟨?_, ?_⟩⟩
      · rw [sizeRefused_singleton_iff]
        rintro ⟨-, bytes, announced, -⟩
        exact nomatch unannounced.symm.trans announced
      · rw [sizeReceived]
        refine (Record.ofFailure_withLastStatusCode_statusCode ..).trans ?_
        cases (sizeOutcome transport plan location journal).statusCode? <;> rfl
  | downloadFailed message passes failed =>
      obtain ⟨code, known⟩ := passes.statusCode
      apply FetchCode.of_download passes rfl
      refine (Record.ofFailure_withLastStatusCode_statusCode ..).trans ?_
      rw [known]
      rfl
  | rejected passes downloaded unacceptable uncoded =>
      apply FetchCode.of_download passes rfl
      refine (Record.ofFailure_withLastStatusCode_statusCode ..).trans ?_
      rw [uncoded, Http.Outcome.statusCode?_of_success? downloaded]
      rfl
  | unwritten path detail passes downloaded _ _ still =>
      apply FetchCode.of_download passes still
      rw [Http.Outcome.statusCode?_of_success? downloaded]
      exact Record.ofFailure_withLastStatusCode_statusCode ..
  | delivered passes downloaded _ _ still =>
      apply FetchCode.of_download passes still
      rw [Http.Outcome.statusCode?_of_success? downloaded]
      rfl

/-- Making a record gives it the code that is due. -/
theorem Fetched.code
    {handle : Handle}
    {fetched : Journal}
    (ending : Fetched transport plan journal handle record fetched) :
    FetchCode transport plan journal fetched handle.lastStatusCode record := by
  cases ending with
  | @stopped failure stopped =>
      apply FetchCode.of_unchanged
      have uncoded : failure.statusCode? = none := by
        cases status : handle.status <;> rw [status] at stopped <;>
          cases stopped <;> rfl
      simp [Record.ofFailure, uncoded]
  | givenUp | unfinished | unlocated => exact .of_unchanged rfl
  | fetched completed located ended => exact ended.code

section

variable
  [Url.NameConversion]
  {payload : List UInt8}
  {reply : Service.TaskReply}
  {queries : List Call}
  {watch : Watch}
  {fetched : Journal}

/-- Neither the submission nor a status query asks for a size. -/
theorem Polling.Follows.method_ne_head
    {progress : Progress}
    (follows :
      (submittedPolling transport plan journal payload).Follows
        (submittedWatch transport plan journal payload reply) queries
        progress) :
    ∀ call ∈ [submissionCall transport plan journal payload] ++ queries,
      call.request.method ≠ .head := by
  obtain ⟨handle, course⟩ := follows.course
  intro call made
  rcases List.mem_append.mp made with submission | query
  · rw [List.mem_singleton.mp submission]
    exact nofun
  · rw [course.requests call query]
    exact nofun

/-- What a task brings until its fetch has ended is the code of its
submission, and those of its status queries; the handle has the last one. -/
theorem Polling.Follows.codes
    (reported :
      Service.reported?
          (submissionOutcome transport plan.request payload journal) =
        some reply)
    (follows :
      (submittedPolling transport plan journal payload).Follows
        (submittedWatch transport plan journal payload reply) queries
        (.ended watch))
    (ending :
      Fetched transport plan watch.journal watch.handle record fetched) :
    let codes :=
      statusCodes
        (receivedBy transport fetched.now
          (journal.calls ++ sourceCalls plan journal)
          ([submissionCall transport plan journal payload] ++ queries))
    codes ≠ [] ∧ watch.handle.lastStatusCode = codes.getLast? := by
  obtain ⟨timedOut, received⟩ := follows.received ending
  obtain ⟨handle, course⟩ := follows.course
  have later :
      (afterSubmission transport plan.request payload journal).now ≤
        fetched.now :=
    Nat.le_trans course.clock ending.now_le.1
  have split :
      statusCodes
          (receivedBy transport fetched.now
            (journal.calls ++ sourceCalls plan journal)
            ([submissionCall transport plan journal payload] ++ queries)) =
        [reply.statusCode] ++
          statusCodes
            (receivedBy transport fetched.now
              (submittedWatch transport plan journal payload
                reply).journal.calls
              queries) := by
    rw [receivedBy_task transport plan journal payload later,
      ← List.singleton_append, statusCodes_append, statusCodes_singleton,
      Service.statusCode?_of_reported? reported,
      submittedWatch_calls transport plan journal payload reply]
    rfl
  intro codes
  refine ⟨by simp [codes, split], ?_⟩
  rw [received, show codes = _ from split, List.getLast?_append]
  exact Handle.afterOutcomes_lastStatusCode ..

end

/-- A fetch behind calls that do not ask for a size gives its record the code
that is due, if it starts from the last code of these calls. -/
theorem FetchCode.codeOf
    [Url.NameConversion]
    {begun fetched : Journal}
    {front : List Call}
    {before : Option Nat}
    (code : FetchCode transport plan begun fetched before record)
    (still : ended.moment = fetched.moment)
    (made : begun.calls = journal.calls ++ sourceCalls plan journal ++ front)
    (others : ∀ call ∈ front, call.request.method ≠ .head)
    (nonempty :
      statusCodes
          (receivedBy transport fetched.now
            (journal.calls ++ sourceCalls plan journal) front) ≠
        [])
    (last :
      before =
        (statusCodes
          (receivedBy transport fetched.now
            (journal.calls ++ sourceCalls plan journal) front)).getLast?) :
    CodeOf transport plan journal record ended := by
  obtain ⟨further, fetchedCalls, code⟩ := code
  have endedCalls : ended.calls = fetched.calls := congrArg Moment.calls still
  have endedNow : ended.now = fetched.now := congrArg Moment.now still
  have service : serviceCalls plan journal ended = front ++ further := by
    apply serviceCalls_of_calls
    rw [endedCalls, fetchedCalls, made, List.append_assoc]
  have codes :
      serviceCodes transport plan journal ended =
        statusCodes
            (receivedBy transport fetched.now
              (journal.calls ++ sourceCalls plan journal) front) ++
          statusCodes
            (receivedBy transport fetched.now begun.calls further) := by
    rw [serviceCodes, service, endedNow, receivedBy_append,
      statusCodes_append, ← made]
  have refusal :
      EndedTooLarge transport plan journal ended ↔
        SizeRefused transport plan.options.sizeLimit begun.calls further := by
    rw [EndedTooLarge, service, sizeRefused_append_iff others, ← made]
  rcases code with ⟨refused, ⟨code, received⟩, unchanged⟩ | ⟨passed, changed⟩
  · rw [received] at codes
    exact .of_refused codes nonempty (unchanged.trans last)
      (refusal.mpr refused)
  · apply CodeOf.of_last
    · rw [changed, codes, last, List.getLast?_append]
    · rw [refusal]
      exact passed

/-- However a run has got its record, this has the code that is due. -/
theorem Performed.codeOf
    [Url.NameConversion]
    {rounds : Nat}
    (performed :
      Performed transport plan journal rounds (some record) ended) :
    CodeOf transport plan journal record ended := by
  cases performed with
  | unloaded missing still =>
      have calls : serviceCalls plan journal ended = [] := by
        apply serviceCalls_of_calls
        rw [List.append_nil, ← afterSource_calls transport]
        exact congrArg Moment.calls still
      apply CodeOf.of_last
      · rw [serviceCodes, calls]
        rfl
      · rw [EndedTooLarge, calls]
        exact not_sizeRefused_nil
  | @unreported payload _ _ given unreported still =>
      have calls :
          serviceCalls plan journal ended =
            [submissionCall transport plan journal payload] := by
        apply serviceCalls_of_calls
        rw [← afterSubmission_calls]
        exact congrArg Moment.calls still
      have now :
          ended.now =
            (afterSubmission transport plan.request payload journal).now :=
        congrArg Moment.now still
      apply CodeOf.of_last
      · rw [serviceCodes, calls, now, receivedBy_submissionCall,
          statusCodes_singleton]
        cases (submissionOutcome transport plan.request payload
          journal).statusCode? <;> rfl
      · rw [EndedTooLarge, calls, sizeRefused_singleton_iff]
        rintro ⟨impossible, -⟩
        exact nomatch impossible
  | fetched given reported progress ending still =>
      obtain ⟨queries, -, follows⟩ := Polling.follows_of_after_start progress
      obtain ⟨nonempty, last⟩ := follows.codes reported ending
      refine ending.code.codeOf still ?_ follows.method_ne_head nonempty last
      rw [← List.append_assoc]
      exact follows.calls

/-- A run returns a record with the code that is due. -/
theorem returns_codeOf
    [Url.NameConversion]
    {report : Report}
    (returned : Returns transport plan journal report) :
    CodeOf transport plan journal report.record report.journal := by
  obtain ⟨rounds, reached⟩ := returns_iff.mp returned
  have ways := performFor_performed transport plan journal rounds
  rw [reached] at ways
  exact ways.codeOf

/-! ## A refused size -/

/-- A plan whose limit is eight bytes. -/
def narrowPlan : Plan where
  request :=
    { source := "field.png"
      destination := none
      responseCharset := .utf8
      exportFormat := .xml
      region := none
      languages := ["English"]
      letterSet := none
      regExp := none
      textType := none
      oneTextLine := false
      oneWordPerTextLine := false
      markingType := none
      placeholdersCount := 1
      writingStyle := none
      description := none
      pdfPassword := none
      baseUrl := ⟨"http".toList, [], none, some "service".toList, none, ['/'],
        none, none⟩
      credentials := { }
      transport := { } }
  schema := ⟨"result", "document", .empty⟩
  options := { sizeLimit := 8 }

/-- A service that has every task completed at once. -/
def promptService : Transport := fun _ request =>
  match request.method with
  | .post =>
      ⟨20, .response
        { status := 200
          body :=
            Text.Utf8.encode
              ("<r><task id='t' status='Completed' " ++
                "resultUrl='http://h/r'/></r>").toList }⟩
  | .head =>
      ⟨30, .response { status := 206, headers := [("Content-Length", "9")] }⟩
  | .get => ⟨0, .timedOut⟩

/-- A journal in front of a run that finds its source. -/
def journalWithSource : Journal :=
  .initial
    ⟨["work"],
      [(["work"], .directory), (["work", "field.png"], .file [7])]⟩

/-- A size that is refused by a response with another status code than the one
in front leaves this one in the record. -/
theorem returns_codeOf_narrowPlan :
    ∃ report,
      Returns promptService narrowPlan journalWithSource report ∧
        CodeOf promptService narrowPlan journalWithSource report.record
          report.journal ∧
        serviceCodes promptService narrowPlan journalWithSource
            report.journal = [200, 206] ∧
        report.record.statusCode = some 200 := by
  have codes :
      (perform 0 promptService narrowPlan journalWithSource).map
          (fun report =>
            (serviceCodes promptService narrowPlan journalWithSource
              report.journal, report.record.statusCode)) =
        some ([200, 206], some 200) := by
    decide +kernel
  obtain ⟨report, performed, known⟩ := Option.map_eq_some_iff.mp codes
  have returned : Returns promptService narrowPlan journalWithSource report :=
    ⟨0, performed⟩
  exact ⟨report, returned, returns_codeOf returned,
    congrArg Prod.fst known, congrArg Prod.snd known⟩

end Run
end FieldOcr
