import FieldOcr.Proofs.Performing

/-!
# The order of the calls

A run makes its calls in five phases.  It asks for the size of a result only
if the task is completed with an address, and downloads the result only if the
announced size passes.
-/

namespace FieldOcr
namespace Run

open RemoteTask (Failure Handle)

/-- The calls of a run by what they are for. -/
structure Phases where
  /-- The calls that fetch the source. -/
  source : List Call
  /-- The calls that submit the task. -/
  submission : List Call
  /-- The calls that ask for the status of the task. -/
  queries : List Call
  /-- The calls that ask for the size of the result. -/
  size : List Call
  /-- The calls that fetch the result. -/
  download : List Call

/-- The calls of all phases in their order. -/
def Phases.all (phases : Phases) : List Call :=
  phases.source ++ phases.submission ++ phases.queries ++ phases.size ++
    phases.download

/-- At most one call is made, and exactly if some request is wanted. -/
inductive OnlyCall (wanted : Http.Request -> Prop) : List Call -> Prop
  | made {call : Call}
      (called : wanted call.request) :
      OnlyCall wanted [call]
  | omitted
      (unwanted : ∀ request, ¬wanted request) :
      OnlyCall wanted []

/-- A request asks for the size of the result of a completed task, at its first
address. -/
def WantsSize (plan : Plan) (handle : Handle) (request : Http.Request) : Prop :=
  ∃ location,
    handle.status = .completed ∧
      handle.resultUrls.head? = some location ∧
      request = Service.sizeQuery plan.request location

/-- A request fetches a result whose size was asked for at the same address,
and announced not above the limit. -/
def WantsDownload
    (transport : Transport)
    (plan : Plan)
    (earlier size : List Call)
    (request : Http.Request) : Prop :=
  ∃ query ∈ size, ∃ bytes,
    Service.announced? (transport earlier query.request).outcome =
        some bytes ∧
      bytes ≤ plan.options.sizeLimit ∧
      request = Service.download plan.request query.request.url

/-- A record tells that its task failed or was given up. -/
def Record.Stopped (record : Record) : Prop :=
  record.timedOut = true ∨
    ∃ taskId,
      record.failure = some (.remoteFailure taskId) ∨
        record.failure = some (.insufficientCredits taskId)

section

variable
  [Url.NameConversion]
  (transport : Transport)
  (plan : Plan)
  (journal : Journal)

/-- The handle that the outcome of a submission leaves. -/
def submittedHandle? : Option Handle :=
  (payload? transport plan.request journal).bind fun payload =>
    (Service.reported?
      (submissionOutcome transport plan.request payload journal)).map
        fun reply => .ofSubmission reply.snapshot reply.statusCode

/-- The handle of a submitted task after all outcomes of its status queries
that are received by a time. -/
def observedHandle? (phases : Phases) (time : Nat) : Option Handle :=
  (submittedHandle? transport plan journal).map
    (·.afterOutcomes
      (receivedBy transport time
        (journal.calls ++ phases.source ++ phases.submission)
        phases.queries))

/-- Which calls a run makes, given its record, if it has one, and the journal
that it has come to. -/
structure CallOrder
    (phases : Phases)
    (record? : Option Record)
    (ended : Journal) : Prop where
  /-- The calls of the phases follow those that were made before. -/
  calls : ended.calls = journal.calls ++ phases.all
  /-- The source is fetched if it is an address of the web. -/
  source :
    OnlyCall
      (fun request =>
        ∃ url,
          isUrl plan.request.source = true ∧
            Url.parseString plan.request.source = .ok url ∧
            request = sourceRequest url plan.request.transport.callTimeout)
      phases.source
  /-- The task is submitted if there is a payload. -/
  submission :
    OnlyCall
      (fun request =>
        ∃ payload,
          payload? transport plan.request journal = some payload ∧
            request = Service.submission plan.request payload)
      phases.submission
  /-- Only the status of a task that was submitted, and had no terminal status
  then, is asked for. -/
  queries :
    ∀ call ∈ phases.queries,
      ∃ handle,
        submittedHandle? transport plan journal = some handle ∧
          handle.status.isTerminal = false ∧
          call.request = Service.statusQuery plan.request handle.taskId
  /-- The status of such a task is asked for. -/
  queried :
    ∀ handle,
      submittedHandle? transport plan journal = some handle ->
        handle.status.isTerminal = false ->
          phases.queries ≠ []
  /-- The size of the result is asked for if the task is completed with an
  address. -/
  size :
    OnlyCall
      (fun request =>
        ∃ handle,
          observedHandle? transport plan journal phases ended.now =
              some handle ∧
            WantsSize plan handle request)
      phases.size
  /-- The result is fetched if the announced size is not above the limit. -/
  download :
    OnlyCall
      (WantsDownload transport plan
        (journal.calls ++ phases.source ++ phases.submission ++
          phases.queries)
        phases.size)
      phases.download
  /-- Nothing is fetched for a task that failed or was given up. -/
  stopped :
    ∀ record,
      record? = some record ->
        record.Stopped ->
          phases.size = [] ∧ phases.download = []

end

/-- The source is fetched by the call that it needs. -/
theorem onlyCall_sourceCalls
    [Url.NameConversion]
    (plan : Plan)
    (journal : Journal) :
    OnlyCall
      (fun request =>
        ∃ url,
          isUrl plan.request.source = true ∧
            Url.parseString plan.request.source = .ok url ∧
            request = sourceRequest url plan.request.transport.callTimeout)
      (sourceCalls plan journal) := by
  unfold sourceCalls sourceRequest?
  by_cases address : isUrl plan.request.source = true
  · rw [if_pos address]
    cases parsed : Url.parseString plan.request.source with
    | error fault =>
        apply OnlyCall.omitted
        rintro request ⟨url, -, impossible, -⟩
        exact nomatch impossible
    | ok url => exact .made ⟨url, address, rfl, rfl⟩
  · rw [if_neg address]
    apply OnlyCall.omitted
    rintro request ⟨url, isAddress, -, -⟩
    exact address isAddress

section

variable
  {transport : Transport}
  {plan : Plan}
  {handle : Handle}
  {journal fetched : Journal}

/-- A fetch from an address asks for the size, and downloads if it passes. -/
theorem FetchedFrom.calls
    {location : Url}
    {result : Except Abort Record}
    (ending :
      FetchedFrom transport plan location journal handle result fetched) :
    ∃ download,
      fetched.calls =
          journal.calls ++
            [⟨journal.now, Service.sizeQuery plan.request location⟩] ++
            download ∧
        OnlyCall
          (fun request =>
            SizePasses transport plan location journal ∧
              request = Service.download plan.request location)
          download := by
  cases ending with
  | tooLarge announced above =>
      refine ⟨[], by simp [afterSize], .omitted ?_⟩
      rintro request ⟨⟨bytes, again, fits⟩, -⟩
      rw [announced] at again
      cases again
      exact Nat.not_le_of_lt above fits
  | sizeUnavailable _ unannounced =>
      refine ⟨[], by simp [afterSize], .omitted ?_⟩
      rintro request ⟨⟨bytes, announced, -⟩, -⟩
      rw [unannounced] at announced
      exact nomatch announced
  | downloadFailed _ passes | rejected passes =>
      exact ⟨_, rfl, .made ⟨passes, rfl⟩⟩
  | unwritten _ _ passes _ _ _ still | delivered passes _ _ _ still =>
      have calls : fetched.calls = _ := congrArg Moment.calls still
      exact ⟨_, calls, .made ⟨passes, rfl⟩⟩

/-- A fetch that is broken off does not stand for a task that failed. -/
theorem FetchedFrom.failure_ne
    {location : Url}
    {abort : Abort}
    (ending :
      FetchedFrom transport plan location journal handle (.error abort)
        fetched)
    (taskId : String) :
    abort.failure ≠ .remoteFailure taskId ∧
      abort.failure ≠ .insufficientCredits taskId := by
  cases ending with
  | tooLarge | sizeUnavailable | downloadFailed | unwritten =>
      exact ⟨nofun, nofun⟩
  | @rejected _ reason => cases reason <;> exact ⟨nofun, nofun⟩

theorem FetchedFrom.not_stopped
    {location : Url}
    {result : Except Abort Record}
    (ending :
      FetchedFrom transport plan location journal handle result fetched) :
    ¬(recordOf handle result).Stopped := by
  cases result with
  | ok record =>
      cases ending with
      | delivered =>
          rintro (impossible | ⟨taskId, impossible | impossible⟩) <;>
            exact nomatch impossible
  | error abort =>
      have failure := abort.record_failure handle
      have timedOut : (abort.record handle).timedOut = false :=
        Record.withLastStatusCode_timedOut ..
      rintro (impossible | ⟨taskId, remote | credits⟩)
      · exact nomatch timedOut.symm.trans impossible
      · exact (ending.failure_ne taskId).1
          (Option.some.inj (failure.symm.trans remote))
      · exact (ending.failure_ne taskId).2
          (Option.some.inj (failure.symm.trans credits))

/-- A fetch from an address makes the calls that are wanted for it. -/
theorem FetchedFrom.wanted
    {location : Url}
    {result : Except Abort Record}
    (completed : handle.status = .completed)
    (located : handle.resultUrls.head? = some location)
    (ending :
      FetchedFrom transport plan location journal handle result fetched) :
    ∃ size download,
      fetched.calls = journal.calls ++ size ++ download ∧
        OnlyCall (WantsSize plan handle) size ∧
        OnlyCall (WantsDownload transport plan journal.calls size)
          download := by
  obtain ⟨download, calls, downloads⟩ := ending.calls
  refine ⟨_, download, calls, .made ⟨location, completed, located, rfl⟩, ?_⟩
  cases downloads with
  | made wanted =>
      obtain ⟨⟨bytes, announced, fits⟩, request⟩ := wanted
      exact .made ⟨_, List.mem_singleton_self _, bytes, announced, fits,
        request⟩
  | omitted unwanted =>
      apply OnlyCall.omitted
      rintro request ⟨query, only, bytes, announced, fits, -⟩
      rw [List.mem_singleton.mp only] at announced
      exact unwanted _ ⟨⟨bytes, announced, fits⟩, rfl⟩

/-- Making a record makes the calls that are wanted for its handle. -/
theorem Fetched.calls
    {record : Record}
    (ending : Fetched transport plan journal handle record fetched) :
    ∃ size download,
      fetched.calls = journal.calls ++ size ++ download ∧
        OnlyCall (WantsSize plan handle) size ∧
        OnlyCall (WantsDownload transport plan journal.calls size) download ∧
        (record.Stopped -> size = [] ∧ download = []) := by
  have nothing
      (unwanted : ∀ request, ¬WantsSize plan handle request) :
      ∃ size download,
        journal.calls = journal.calls ++ size ++ download ∧
          OnlyCall (WantsSize plan handle) size ∧
          OnlyCall (WantsDownload transport plan journal.calls size)
            download ∧
          (record.Stopped -> size = [] ∧ download = []) := by
    refine ⟨[], [], by simp, .omitted unwanted, .omitted ?_,
      fun _ => ⟨rfl, rfl⟩⟩
    rintro request ⟨query, impossible, -⟩
    exact nomatch impossible
  cases ending with
  | stopped stopped =>
      apply nothing
      rintro request ⟨location, completed, -⟩
      rw [completed] at stopped
      exact nomatch stopped
  | givenUp unfinished | unfinished unfinished =>
      apply nothing
      rintro request ⟨location, completed, -⟩
      rw [completed] at unfinished
      exact nomatch unfinished
  | unlocated _ unlocated =>
      apply nothing
      rintro request ⟨location, -, located, -⟩
      rw [unlocated] at located
      exact nomatch located
  | fetched completed located ended =>
      obtain ⟨size, download, calls, sizes, downloads⟩ :=
        ended.wanted completed located
      exact ⟨size, download, calls, sizes, downloads,
        fun stopped => absurd stopped ended.not_stopped⟩

end

section

variable
  [Url.NameConversion]
  {transport : Transport}
  {plan : Plan}
  {journal ended : Journal}
  {payload : List UInt8}
  {reply : Service.TaskReply}

theorem submittedHandle?_of_reported
    (given : payload? transport plan.request journal = some payload)
    (reported :
      Service.reported?
          (submissionOutcome transport plan.request payload journal) =
        some reply) :
    submittedHandle? transport plan journal =
      some (.ofSubmission reply.snapshot reply.statusCode) := by
  simp [submittedHandle?, given, reported]

theorem onlyCall_submissionCall
    (given : payload? transport plan.request journal = some payload) :
    OnlyCall
      (fun request =>
        ∃ payload,
          payload? transport plan.request journal = some payload ∧
            request = Service.submission plan.request payload)
      [submissionCall transport plan journal payload] :=
  .made ⟨payload, given, rfl⟩

/-- A run that leaves no handle makes no call behind its submission. -/
theorem callOrder_of_unsubmitted
    {failure : Failure}
    {submission : List Call}
    (unsubmitted : submittedHandle? transport plan journal = none)
    (calls :
      ended.calls = journal.calls ++ sourceCalls plan journal ++ submission)
    (wanted :
      OnlyCall
        (fun request =>
          ∃ payload,
            payload? transport plan.request journal = some payload ∧
              request = Service.submission plan.request payload)
        submission) :
    CallOrder transport plan journal
      ⟨sourceCalls plan journal, submission, [], [], []⟩
      (some (.unsubmitted failure)) ended where
  calls := by simp [calls, Phases.all]
  source := onlyCall_sourceCalls plan journal
  submission := wanted
  queries := fun _ queried => absurd queried List.not_mem_nil
  queried := by
    intro handle submitted
    rw [unsubmitted] at submitted
    exact nomatch submitted
  size := by
    apply OnlyCall.omitted
    rintro request ⟨handle, observed, -⟩
    simp [observedHandle?, unsubmitted] at observed
  download := by
    apply OnlyCall.omitted
    rintro request ⟨query, impossible, -⟩
    exact nomatch impossible
  stopped := fun _ _ _ => ⟨rfl, rfl⟩

/-- A run that leaves a handle goes on with the calls that are wanted for what
its status queries make of it. -/
theorem callOrder_of_submitted
    {queries size download : List Call}
    {progress : Progress}
    {record? : Option Record}
    (given : payload? transport plan.request journal = some payload)
    (reported :
      Service.reported?
          (submissionOutcome transport plan.request payload journal) =
        some reply)
    (first : queries = [] ↔ reply.snapshot.status.isTerminal = true)
    (follows :
      (submittedPolling transport plan journal payload).Follows
        (submittedWatch transport plan journal payload reply) queries progress)
    (calls : ended.calls = progress.watch.journal.calls ++ size ++ download)
    (sizes :
      OnlyCall
        (WantsSize plan
          ((submittedWatch transport plan journal payload
            reply).handle.afterOutcomes
            (receivedBy transport ended.now
              (submittedWatch transport plan journal payload
                reply).journal.calls
              queries)))
        size)
    (downloads :
      OnlyCall (WantsDownload transport plan progress.watch.journal.calls size)
        download)
    (stopped :
      ∀ record,
        record? = some record ->
          record.Stopped ->
            size = [] ∧ download = []) :
    CallOrder transport plan journal
      ⟨sourceCalls plan journal,
        [submissionCall transport plan journal payload], queries, size,
        download⟩
      record? ended := by
  obtain ⟨handle, course⟩ := follows.course
  have submitted := submittedHandle?_of_reported given reported
  refine ⟨?_, onlyCall_sourceCalls plan journal, onlyCall_submissionCall given,
    ?_, ?_, ?_, ?_, stopped⟩
  · rw [calls, follows.calls]
    simp only [Phases.all, List.append_assoc]
  · intro call queried
    refine ⟨_, submitted, ?_, course.requests call queried⟩
    have nonempty : queries ≠ [] := List.ne_nil_of_mem queried
    exact Bool.eq_false_iff.mpr fun terminal => nonempty (first.mpr terminal)
  · intro other again unfinished empty
    rw [submitted] at again
    cases again
    have terminal := first.mp empty
    have running : reply.snapshot.status.isTerminal = false := unfinished
    rw [running] at terminal
    exact nomatch terminal
  · rw [submittedWatch_calls] at sizes
    simp only [observedHandle?, submitted, Option.map_some,
      Option.some.injEq, exists_eq_left']
    exact sizes
  · rw [follows.calls] at downloads
    exact downloads

/-- However a run goes, its calls are in order. -/
theorem Performed.callOrder
    {rounds : Nat}
    {record? : Option Record}
    (performed : Performed transport plan journal rounds record? ended) :
    ∃ phases, CallOrder transport plan journal phases record? ended := by
  cases performed with
  | unloaded missing still =>
      refine ⟨_, callOrder_of_unsubmitted (by simp [submittedHandle?, missing])
        ?_ (.omitted ?_)⟩
      · rw [List.append_nil, ← afterSource_calls]
        exact congrArg Moment.calls still
      · rintro request ⟨payload, given, -⟩
        rw [missing] at given
        exact nomatch given
  | unreported given unreported still =>
      refine ⟨_, callOrder_of_unsubmitted
        (by simp [submittedHandle?, given, unreported]) ?_
        (onlyCall_submissionCall given)⟩
      rw [← afterSubmission_calls]
      exact congrArg Moment.calls still
  | @watching _ _ watch given reported progress =>
      obtain ⟨queries, first, follows⟩ :=
        Polling.follows_of_after_start progress
      have calls :
          watch.journal.calls =
            (Progress.watching watch).watch.journal.calls ++ [] ++ [] := by
        simp [Progress.watch]
      refine ⟨_, callOrder_of_submitted given reported first follows calls
        (.omitted ?_) (.omitted ?_) fun _ returned _ => nomatch returned⟩
      · rintro request ⟨location, completed, -⟩
        obtain ⟨course, -, unfinished, -⟩ := follows
        have reached : watch.handle.status = .completed :=
          course.handle ▸ completed
        rw [reached] at unfinished
        exact nomatch unfinished
      · rintro request ⟨query, impossible, -⟩
        exact nomatch impossible
  | fetched given reported progress ending still =>
      obtain ⟨queries, first, follows⟩ :=
        Polling.follows_of_after_start progress
      obtain ⟨size, download, calls, sizes, downloads, stopped⟩ := ending.calls
      obtain ⟨timedOut, received⟩ := follows.received ending
      have now : ended.now = _ := congrArg Moment.now still
      refine ⟨_, callOrder_of_submitted given reported first follows ?_ ?_
        downloads ?_⟩
      · rw [show ended.calls = _ from congrArg Moment.calls still]
        exact calls
      · rw [received] at sizes
        rw [now]
        exact sizes
      · intro record same
        cases same
        exact stopped

end

/-- The calls of every run are in order, after any number of status queries.
What holds of a run that has its record is what holds of a performed run. -/
theorem calls_in_order
    [Url.NameConversion]
    (rounds : Nat)
    (transport : Transport)
    (plan : Plan)
    (journal : Journal) :
    (∃ phases,
      CallOrder transport plan journal phases
        (performFor rounds transport plan journal).1
        (performFor rounds transport plan journal).2) ∧
      perform rounds transport plan journal =
        (performFor rounds transport plan journal).1.map
          (⟨·, (performFor rounds transport plan journal).2⟩) :=
  ⟨(performFor_performed transport plan journal rounds).callOrder,
    perform_eq rounds transport plan journal⟩

end Run
end FieldOcr
