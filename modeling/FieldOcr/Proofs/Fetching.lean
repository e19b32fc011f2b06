import FieldOcr.Proofs.Transcript
import FieldOcr.Run.Fetch

/-!
# Fetching a result

A fetch ends in one of few ways.  They are told apart by the handle, by the
outcomes of the size query and of the download, by the downloaded bytes and by
the destination.
-/

namespace FieldOcr
namespace Run

open RemoteTask (Failure Handle Rejection)

namespace Record

@[simp] theorem withLastStatusCode_failure
    (record : Record)
    (code : Option Nat) :
    (record.withLastStatusCode code).failure = record.failure := by
  unfold withLastStatusCode
  split <;> rfl

@[simp] theorem withLastStatusCode_timedOut
    (record : Record)
    (code : Option Nat) :
    (record.withLastStatusCode code).timedOut = record.timedOut := by
  unfold withLastStatusCode
  split <;> rfl

@[simp] theorem withLastStatusCode_taskId
    (record : Record)
    (code : Option Nat) :
    (record.withLastStatusCode code).taskId = record.taskId := by
  unfold withLastStatusCode
  split <;> rfl

/-- The status code of a failure counts more than that of the last answer from
the place of the result, and this more than that of the service. -/
theorem ofFailure_withLastStatusCode_statusCode
    (handle : Handle)
    (failure : Failure)
    (code : Option Nat) :
    ((ofFailure handle failure).withLastStatusCode code).statusCode =
      failure.statusCode?.or (code.or handle.lastStatusCode) := by
  cases failed : failure.statusCode? <;>
    simp [ofFailure, withLastStatusCode, failed]

end Record

/-- The record of a fetch that was broken off. -/
def Abort.record (handle : Handle) (abort : Abort) : Record :=
  (Record.ofFailure handle abort.failure).withLastStatusCode
    abort.lastStatusCode

@[simp] theorem Abort.record_failure (handle : Handle) (abort : Abort) :
    (abort.record handle).failure = some abort.failure :=
  Record.withLastStatusCode_failure ..

/-- A fetch that was broken off is no success. -/
@[simp] theorem Abort.record_succeeded (handle : Handle) (abort : Abort) :
    (abort.record handle).succeeded = false := by
  simp [Record.succeeded]

/-- The record that the result of a fetch from an address stands for. -/
def recordOf (handle : Handle) : Except Abort Record -> Record
  | .error abort => abort.record handle
  | .ok record => record

/-- The content that downloaded bytes stand for. -/
def contentOf (bytes : List UInt8) : List Char :=
  Content.stripByteOrderMark (Content.decode bytes)

/-- Downloaded bytes pass all checks of a plan. -/
structure Acceptable (plan : Plan) (bytes : List UInt8) : Prop where
  /-- They are not too many. -/
  size : bytes.length ≤ plan.options.sizeLimit
  /-- Their content is valid. -/
  content :
    Validation.checkContent plan.schema plan.request.exportFormat
      (contentOf bytes) = .ok ()

/-- Content can be written to the destination of a plan, if it has one. -/
def Stores
    (plan : Plan)
    (content : List Char)
    (files : Storage.Tree) : Prop :=
  ∀ path,
    plan.request.destination = some path ->
      (plan.disk.replace files path
        (plan.request.responseCharset.encode plan.encoder content)).2 = .ok ()

section

variable
  (transport : Transport)
  (plan : Plan)
  (location : Url)
  (journal : Journal)

/-- What comes of asking for the size of a result. -/
def sizeOutcome : Http.Outcome :=
  journal.moment.outcome transport (Service.sizeQuery plan.request location)

/-- A journal at the outcome of a size query. -/
def afterSize : Journal :=
  journal.answered transport (Service.sizeQuery plan.request location)

/-- The announced size of a result is not above the limit. -/
def SizePasses : Prop :=
  ∃ bytes,
    Service.announced? (sizeOutcome transport plan location journal) =
        some bytes ∧
      bytes ≤ plan.options.sizeLimit

/-- What comes of a download behind the size query. -/
def downloadOutcome : Http.Outcome :=
  (afterSize transport plan location journal).moment.outcome transport
    (Service.download plan.request location)

/-- A journal at the outcome of a download. -/
def afterDownload : Journal :=
  (afterSize transport plan location journal).answered transport
    (Service.download plan.request location)

/-- The files once content was written to the destination of a plan, as far as
that went. -/
def filesAfter (content : List Char) (files : Storage.Tree) : Storage.Tree :=
  match plan.request.destination with
  | none => files
  | some path =>
      (plan.disk.replace files path
        (plan.request.responseCharset.encode plan.encoder content)).1

/-- A journal behind the download at which its content was told and written. -/
def afterKeeping (handle : Handle) (content : List Char) : Journal :=
  let told :=
    (afterDownload transport plan location journal).tell
      (.validated handle.taskId (Text.byteLength content))
  { told with files := filesAfter plan content journal.files }

/-- The ways in which fetching a result from an address ends. -/
inductive FetchedFrom
    (handle : Handle) : Except Abort Record -> Journal -> Prop
  | tooLarge {bytes : Nat}
      (announced :
        Service.announced? (sizeOutcome transport plan location journal) =
          some bytes)
      (above : plan.options.sizeLimit < bytes) :
      FetchedFrom handle
        (.error
          ⟨.tooLarge plan.request.exportFormat bytes plan.options.sizeLimit,
            none⟩)
        (afterSize transport plan location journal)
  | sizeUnavailable (detail : String)
      (unannounced :
        Service.announced? (sizeOutcome transport plan location journal) =
          none) :
      FetchedFrom handle
        (.error
          ⟨.sizeUnavailable plan.request.exportFormat
            (sizeOutcome transport plan location journal).statusCode? detail,
            none⟩)
        (afterSize transport plan location journal)
  | downloadFailed (message : String)
      (passes : SizePasses transport plan location journal)
      (failed :
        (downloadOutcome transport plan location journal).success? = none) :
      FetchedFrom handle
        (.error
          ⟨.download
            (downloadOutcome transport plan location journal).statusCode?
            message,
            (sizeOutcome transport plan location journal).statusCode?⟩)
        (afterDownload transport plan location journal)
  | rejected {response : Http.Response} {reason : Rejection}
      (passes : SizePasses transport plan location journal)
      (downloaded :
        (downloadOutcome transport plan location journal).success? =
          some response)
      (unacceptable : ¬Acceptable plan response.body)
      (uncoded : reason.failure.statusCode? = none) :
      FetchedFrom handle (.error ⟨reason.failure, some response.status⟩)
        (afterDownload transport plan location journal)
  | unwritten
      {response : Http.Response}
      {written : Journal}
      (path detail : String)
      (passes : SizePasses transport plan location journal)
      (downloaded :
        (downloadOutcome transport plan location journal).success? =
          some response)
      (acceptable : Acceptable plan response.body)
      (unstored : ¬Stores plan (contentOf response.body) journal.files)
      (still :
        written.moment =
          (afterDownload transport plan location journal).moment)
      (kept :
        written =
          afterKeeping transport plan location journal handle
            (contentOf response.body)) :
      FetchedFrom handle
        (.error ⟨.destination path detail, some response.status⟩) written
  | delivered {response : Http.Response} {written : Journal}
      (passes : SizePasses transport plan location journal)
      (downloaded :
        (downloadOutcome transport plan location journal).success? =
          some response)
      (acceptable : Acceptable plan response.body)
      (stored : Stores plan (contentOf response.body) journal.files)
      (still :
        written.moment =
          (afterDownload transport plan location journal).moment)
      (kept :
        written =
          afterKeeping transport plan location journal handle
            (contentOf response.body)) :
      FetchedFrom handle
        (.ok
          (.success handle (contentOf response.body)
            plan.request.destination response.status))
        written

/-- The ways in which making the record of a watched task ends. -/
inductive Fetched (handle : Handle) : Record -> Journal -> Prop
  | stopped {failure : Failure}
      (stopped :
        Failure.ofStatus? handle.taskId handle.status = some failure) :
      Fetched handle (.ofFailure handle failure) journal
  | givenUp
      (unfinished : handle.status.isTerminal = false)
      (timedOut : handle.timedOut = true) :
      Fetched handle (.givenUp handle) journal
  | unfinished
      (unfinished : handle.status.isTerminal = false)
      (untimed : handle.timedOut = false) :
      Fetched handle (.ofFailure handle (.noResult handle.taskId)) journal
  | unlocated
      (completed : handle.status = .completed)
      (unlocated : handle.resultUrls.head? = none) :
      Fetched handle (.ofFailure handle (.noResult handle.taskId)) journal
  | fetched
      {location : Url}
      {result : Except Abort Record}
      {fetched : Journal}
      (completed : handle.status = .completed)
      (located : handle.resultUrls.head? = some location)
      (ended :
        FetchedFrom transport plan location journal handle result fetched) :
      Fetched handle (recordOf handle result) fetched

end

/-- Content is only rejected for being malformed. -/
theorem checkContent_error
    {schema : Schema}
    {format : Recognition.ExportFormat}
    {content : List Char}
    {reason : Rejection}
    (rejected :
      Validation.checkContent schema format content = .error reason) :
    ∃ detail, reason = .malformed detail := by
  unfold Validation.checkContent Validation.checkMarkup at rejected
  split at rejected
  · exact nomatch rejected
  · split at rejected
    · exact nomatch rejected
    · exact ⟨_, (Except.error.inj rejected).symm⟩

/-- The number of downloaded bytes counts, however many were announced. -/
theorem checkDownload_eq
    (plan : Plan)
    {announced : Nat}
    (fits : announced ≤ plan.options.sizeLimit)
    (bytes : List UInt8) :
    checkDownload plan (some announced) bytes =
      if bytes.length ≤ plan.options.sizeLimit then
        match
            Validation.checkContent plan.schema plan.request.exportFormat
              (contentOf bytes) with
        | .error reason => .error reason.failure
        | .ok () => .ok (contentOf bytes)
      else
        .error
          (.tooLarge plan.request.exportFormat bytes.length
            plan.options.sizeLimit) := by
  unfold checkDownload contentOf
  simp only [Validation.checkSize]
  by_cases exact : announced = bytes.length
  · subst exact
    simp only [fits, ne_eq, not_true, if_false, if_true, bind, Except.bind,
      pure, Except.pure]
    cases Validation.checkContent plan.schema plan.request.exportFormat
      (Content.stripByteOrderMark (Content.decode bytes)) <;> rfl
  · simp only [ne_eq, Option.some.injEq, exact, not_false_iff, if_true]
    by_cases size : bytes.length ≤ plan.options.sizeLimit
    · simp only [size, if_true]
      cases Validation.checkContent plan.schema plan.request.exportFormat
        (Content.stripByteOrderMark (Content.decode bytes)) <;> rfl
    · simp only [size, if_false]
      rfl

/-- Downloaded bytes whose announced number passed are checked exactly for
being acceptable. -/
theorem checkDownload_cases
    (plan : Plan)
    {announced : Nat}
    (fits : announced ≤ plan.options.sizeLimit)
    (bytes : List UInt8) :
    (Acceptable plan bytes ∧
      checkDownload plan (some announced) bytes = .ok (contentOf bytes)) ∨
    (∃ reason : Rejection,
      ¬Acceptable plan bytes ∧
        reason.failure.statusCode? = none ∧
        checkDownload plan (some announced) bytes =
          .error reason.failure) := by
  rw [checkDownload_eq plan fits]
  by_cases size : bytes.length ≤ plan.options.sizeLimit
  · rw [if_pos size]
    cases checked :
        Validation.checkContent plan.schema plan.request.exportFormat
          (contentOf bytes) with
    | ok done => exact Or.inl ⟨⟨size, checked⟩, rfl⟩
    | error reason =>
        obtain ⟨detail, rfl⟩ := checkContent_error checked
        refine Or.inr ⟨.malformed detail, ?_, rfl, rfl⟩
        intro acceptable
        rw [acceptable.content] at checked
        exact nomatch checked
  · rw [if_neg size]
    exact Or.inr
      ⟨.tooLarge plan.request.exportFormat bytes.length
        plan.options.sizeLimit,
        fun acceptable => size acceptable.size, rfl, rfl⟩

/-- Acceptable content is kept exactly if its destination can be written. -/
theorem keepContent_cases
    (plan : Plan)
    (handle : Handle)
    (code : Nat)
    (content : List Char)
    (journal : Journal) :
    ∃ written,
      written =
          { journal.tell
              (.validated handle.taskId (Text.byteLength content)) with
            files := filesAfter plan content journal.files } ∧
        ((Stores plan content journal.files ∧
            keepContent plan handle code content journal =
              (.ok (.success handle content plan.request.destination code),
                written)) ∨
          (∃ path detail,
            ¬Stores plan content journal.files ∧
              keepContent plan handle code content journal =
                (.error ⟨.destination path detail, some code⟩, written))) := by
  refine ⟨_, rfl, ?_⟩
  unfold keepContent Stores filesAfter
  cases plan.request.destination with
  | none => exact Or.inl ⟨by simp, rfl⟩
  | some path =>
      simp only [writeDestination, Journal.tell_files, Option.some.injEq,
        forall_eq']
      cases replaced :
          plan.disk.replace journal.files path
            (plan.request.responseCharset.encode plan.encoder content) with
      | mk files result =>
          cases result with
          | ok done => exact Or.inl ⟨rfl, rfl⟩
          | error fault => exact Or.inr ⟨path, fault.message, by simp, rfl⟩

/-- Fetching from an address ends in one of its ways. -/
theorem fetchFrom_fetchedFrom
    (transport : Transport)
    (plan : Plan)
    (handle : Handle)
    (location : Url)
    (journal : Journal) :
    FetchedFrom transport plan location journal handle
      (fetchFrom transport plan handle location journal).1
      (fetchFrom transport plan handle location journal).2 := by
  unfold fetchFrom
  simp only [exchange_eq]
  rcases Service.checkedSize_cases plan.request.exportFormat
      plan.options.sizeLimit location
      (sizeOutcome transport plan location journal) with
    ⟨bytes, code, announced, fits, coded, checked⟩ |
    ⟨bytes, announced, above, checked⟩ | ⟨detail, unannounced, checked⟩
  · have passes : SizePasses transport plan location journal :=
      ⟨bytes, announced, fits⟩
    unfold sizeOutcome at checked
    rw [checked]
    unfold downloadFrom
    simp only [exchange_eq]
    rcases Service.readDownload_cases location
        (downloadOutcome transport plan location journal) with
      ⟨response, downloaded, read⟩ | ⟨fault, failed, lost, read⟩
    · unfold downloadOutcome afterSize at read
      rw [read]
      simp only
      rcases checkDownload_cases plan fits response.body with
        ⟨acceptable, passed⟩ | ⟨reason, unacceptable, uncoded, rejected⟩
      · rw [passed]
        simp only
        obtain ⟨written, behind, kept⟩ :=
          keepContent_cases plan handle response.status
            (contentOf response.body)
            (afterDownload transport plan location journal)
        have still :
            written.moment =
              (afterDownload transport plan location journal).moment := by
          rw [behind]
          rfl
        rcases kept with ⟨stored, kept⟩ | ⟨path, detail, unstored, kept⟩
        · unfold afterDownload afterSize at kept
          rw [kept]
          exact .delivered passes downloaded acceptable stored still behind
        · unfold afterDownload afterSize at kept
          rw [kept]
          exact .unwritten path detail passes downloaded acceptable unstored
            still behind
      · rw [rejected]
        exact .rejected passes downloaded unacceptable uncoded
    · unfold downloadOutcome afterSize at read
      rw [read]
      have abort :
          (⟨.download fault.statusCode fault.message, some code⟩ : Abort) =
            ⟨.download
              (downloadOutcome transport plan location journal).statusCode?
              fault.message,
              (sizeOutcome transport plan location journal).statusCode?⟩ := by
        rw [coded, lost]
      simp only [abort]
      exact .downloadFailed fault.message passes failed
  · unfold sizeOutcome at checked
    rw [checked]
    exact .tooLarge announced above
  · unfold sizeOutcome at checked
    rw [checked]
    exact .sizeUnavailable detail unannounced

/-- Making the record of a watched task ends in one of its ways. -/
theorem fetch_fetched
    (transport : Transport)
    (plan : Plan)
    (handle : Handle)
    (journal : Journal) :
    Fetched transport plan journal handle
      (fetch transport plan handle journal).1
      (fetch transport plan handle journal).2 := by
  unfold fetch
  cases status : handle.status with
  | completed =>
      simp only [fetchCompleted, RemoteTask.ResultDescriptor.primary?,
        Handle.resultDescriptor]
      cases located : handle.resultUrls.head? with
      | none => exact .unlocated status located
      | some location =>
          have ended :=
            fetchFrom_fetchedFrom transport plan handle location journal
          cases fetching :
              fetchFrom transport plan handle location journal with
          | mk result fetched =>
              rw [fetching] at ended
              simp only [fetching]
              cases result <;> exact .fetched status located ended
  | failed => exact .stopped (by rw [status]; rfl)
  | notEnoughCredits => exact .stopped (by rw [status]; rfl)
  | queued | inProgress =>
      have unfinished : handle.status.isTerminal = false := by
        rw [status]
        rfl
      by_cases timedOut : handle.timedOut = true
      · simp only [timedOut, if_true]
        exact .givenUp unfinished timedOut
      · simp only [timedOut]
        rw [Bool.not_eq_true] at timedOut
        exact .unfinished unfinished timedOut

end Run
end FieldOcr
