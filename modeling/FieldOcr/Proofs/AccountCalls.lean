import FieldOcr.Proofs.CallOrder
import Mathlib.Data.List.DropRight

/-!
# Where the account goes

The account of a request is carried by the calls of the service alone, and
these go to two endpoints below its root.  What fetches a source, asks for the
size of a result or fetches a result carries no header field, whatever its
address.
-/

namespace FieldOcr

namespace Http

/-- A request carries an account. -/
def Request.CarriesAccount (request : Request) : Prop :=
  ∃ field ∈ request.headers, field.name = "authorization"

/-- A request has a method and no header fields. -/
def Request.IsBare (method : Method) (request : Request) : Prop :=
  request.method = method ∧ request.headers = []

/-- A request without header fields carries no account. -/
theorem Request.IsBare.not_carriesAccount
    {method : Method}
    {request : Request}
    (bare : request.IsBare method) :
    ¬request.CarriesAccount := by
  rintro ⟨field, carried, -⟩
  rw [bare.2] at carried
  exact List.not_mem_nil carried

end Http

namespace Service

/-- An address is that of an endpoint below a root. -/
structure IsEndpoint (root : Url) (name : String) (url : Url) : Prop where
  /-- The scheme is that of the root. -/
  scheme : url.scheme = root.scheme
  /-- The host is that of the root. -/
  host : url.host = root.host
  /-- The port is that of the root. -/
  port : url.port = root.port
  /-- The path is that of the root, without the slashes at its end, and the
  name below it. -/
  path :
    ∃ front slashes,
      root.path = front ++ slashes ∧
        (∀ character ∈ slashes, character = '/') ∧
        front.getLast? ≠ some '/' ∧
        url.path = front ++ '/' :: name.toList

/-- A request that is sent calls an endpoint of the service with the account
of a request for recognition. -/
structure CallsWithAccount
    (request : Request)
    (method : Http.Method)
    (name : String)
    (sent : Http.Request) : Prop where
  /-- It has the method of the endpoint. -/
  method : sent.method = method
  /-- It goes to the endpoint. -/
  endpoint : IsEndpoint request.baseUrl name sent.url
  /-- It carries an account. -/
  carries : sent.CarriesAccount
  /-- This is the account of the request, which must not be shown. -/
  sensitive :
    ∀ field ∈ sent.headers,
      field.name = "authorization" ->
        field = authorization request.credentials ∧ field.sensitive = true

/-- The path of an endpoint is that of the root, up to its last slashes, and
the name of the endpoint. -/
theorem endpointPath_split (root : List Char) (name : String) :
    ∃ front slashes,
      root = front ++ slashes ∧
        (∀ character ∈ slashes, character = '/') ∧
        front.getLast? ≠ some '/' ∧
        endpointPath root name = front ++ '/' :: name.toList := by
  refine ⟨root.rdropWhile (· == '/'), root.rtakeWhile (· == '/'),
    (List.rdropWhile_append_rtakeWhile ..).symm, ?_, ?_, rfl⟩
  · intro character slash
    simpa using List.mem_rtakeWhile_imp slash
  · intro last
    have nonempty : root.rdropWhile (· == '/') ≠ [] := by
      intro empty
      rw [empty] at last
      exact nomatch last
    have kept := List.rdropWhile_last_not (· == '/') root nonempty
    rw [List.getLast?_eq_some_getLast nonempty, Option.some.injEq] at last
    simp [last] at kept

theorem endpoint_isEndpoint
    (root : Url)
    (name : String)
    (parameters : List Parameter) :
    IsEndpoint root name (endpoint root name parameters) :=
  ⟨rfl, rfl, rfl, endpointPath_split root.path name⟩

/-- A submission carries the account to its endpoint. -/
theorem submission_callsWithAccount
    (request : Request)
    (payload : List UInt8) :
    CallsWithAccount request .post "processTextField"
      (submission request payload) where
  method := rfl
  endpoint := endpoint_isEndpoint ..
  carries := ⟨authorization request.credentials, by simp [submission], rfl⟩
  sensitive := by
    intro field carried named
    simp only [submission, List.mem_cons, List.not_mem_nil, or_false]
      at carried
    rcases carried with rfl | rfl
    · exact ⟨rfl, rfl⟩
    · exact absurd named (by decide)

/-- A status query carries the account to its endpoint. -/
theorem statusQuery_callsWithAccount
    (request : Request)
    (taskId : String) :
    CallsWithAccount request .get "getTaskStatus"
      (statusQuery request taskId) where
  method := rfl
  endpoint := endpoint_isEndpoint ..
  carries := ⟨authorization request.credentials, by simp [statusQuery], rfl⟩
  sensitive := by
    intro field carried _
    simp only [statusQuery, List.mem_singleton] at carried
    subst carried
    exact ⟨rfl, rfl⟩

end Service

namespace Run

open RemoteTask (Handle)

/-- The calls of all phases carry the account where they should, and nowhere
else. -/
structure Phases.KeepAccount (request : Request) (phases : Phases) : Prop where
  /-- The source is fetched without header fields. -/
  source : ∀ call ∈ phases.source, call.request.IsBare .get
  /-- The task is submitted with the account. -/
  submission :
    ∀ call ∈ phases.submission,
      Service.CallsWithAccount request .post "processTextField" call.request
  /-- The status of the task is asked for with the account. -/
  queries :
    ∀ call ∈ phases.queries,
      Service.CallsWithAccount request .get "getTaskStatus" call.request
  /-- The size of the result is asked for without header fields. -/
  size : ∀ call ∈ phases.size, call.request.IsBare .head
  /-- The result is fetched without header fields. -/
  download : ∀ call ∈ phases.download, call.request.IsBare .get
  /-- Whatever carries an account goes to one of the endpoints. -/
  guarded :
    ∀ call ∈ phases.all,
      call.request.CarriesAccount ->
        Service.IsEndpoint request.baseUrl "processTextField"
            call.request.url ∨
          Service.IsEndpoint request.baseUrl "getTaskStatus" call.request.url

/-- The only call of a phase is wanted, if there is one. -/
theorem OnlyCall.wanted_of_mem
    {wanted : Http.Request -> Prop}
    {calls : List Call}
    (only : OnlyCall wanted calls)
    {call : Call}
    (made : call ∈ calls) :
    wanted call.request := by
  cases only with
  | made called =>
      rw [List.mem_singleton.mp made]
      exact called
  | omitted => exact absurd made List.not_mem_nil

/-- What holds of all requests of a kind holds of calls of this kind. -/
theorem forall_request
    {Value : Type}
    {make : Value -> Http.Request}
    {calls : List Call}
    (property : Http.Request -> Prop)
    (sent : ∀ call ∈ calls, ∃ value, call.request = make value)
    (holds : ∀ value, property (make value)) :
    ∀ call ∈ calls, property call.request := by
  intro call made
  obtain ⟨value, same⟩ := sent call made
  rw [same]
  exact holds value

/-- The account is kept if each phase makes the requests that it is for. -/
theorem Phases.keepAccount_of_requests
    {request : Request}
    {phases : Phases}
    (source :
      ∀ call ∈ phases.source, ∃ url,
        call.request = sourceRequest url request.transport.callTimeout)
    (submission :
      ∀ call ∈ phases.submission, ∃ payload,
        call.request = Service.submission request payload)
    (queries :
      ∀ call ∈ phases.queries, ∃ taskId,
        call.request = Service.statusQuery request taskId)
    (size :
      ∀ call ∈ phases.size, ∃ location,
        call.request = Service.sizeQuery request location)
    (download :
      ∀ call ∈ phases.download, ∃ location,
        call.request = Service.download request location) :
    phases.KeepAccount request := by
  have sourceBare :=
    forall_request (·.IsBare .get) source fun _ => ⟨rfl, rfl⟩
  have submissionCarries :=
    forall_request (Service.CallsWithAccount request .post "processTextField")
      submission (Service.submission_callsWithAccount request)
  have queriesCarry :=
    forall_request (Service.CallsWithAccount request .get "getTaskStatus")
      queries (Service.statusQuery_callsWithAccount request)
  have sizeBare :=
    forall_request (·.IsBare .head) size fun _ => ⟨rfl, rfl⟩
  have downloadBare :=
    forall_request (·.IsBare .get) download fun _ => ⟨rfl, rfl⟩
  refine ⟨sourceBare, submissionCarries, queriesCarry, sizeBare, downloadBare,
    ?_⟩
  intro call made carries
  simp only [Phases.all, List.mem_append] at made
  rcases made with (((made | made) | made) | made) | made
  · exact absurd carries (sourceBare call made).not_carriesAccount
  · exact Or.inl (submissionCarries call made).endpoint
  · exact Or.inr (queriesCarry call made).endpoint
  · exact absurd carries (sizeBare call made).not_carriesAccount
  · exact absurd carries (downloadBare call made).not_carriesAccount

/-- Calls that are made in order keep the account. -/
theorem CallOrder.keepAccount
    [Url.NameConversion]
    {transport : Transport}
    {plan : Plan}
    {journal ended : Journal}
    {phases : Phases}
    {record? : Option Record}
    (order : CallOrder transport plan journal phases record? ended) :
    phases.KeepAccount plan.request := by
  apply Phases.keepAccount_of_requests
  · intro call made
    obtain ⟨url, -, -, sent⟩ := order.source.wanted_of_mem made
    exact ⟨url, sent⟩
  · intro call made
    obtain ⟨payload, -, sent⟩ := order.submission.wanted_of_mem made
    exact ⟨payload, sent⟩
  · intro call made
    obtain ⟨handle, -, -, sent⟩ := order.queries call made
    exact ⟨handle.taskId, sent⟩
  · intro call made
    obtain ⟨handle, -, location, -, -, sent⟩ := order.size.wanted_of_mem made
    exact ⟨location, sent⟩
  · intro call made
    obtain ⟨query, -, bytes, -, -, sent⟩ := order.download.wanted_of_mem made
    exact ⟨query.request.url, sent⟩

/-- Some operation adds the calls of its phases to those that were made
before, and keeps the account. -/
structure CallsFor
    (request : Request)
    (journal : Journal)
    (phases : Phases)
    (ended : Journal) : Prop where
  /-- The calls follow those that were made before. -/
  calls : ended.calls = journal.calls ++ phases.all
  /-- They keep the account. -/
  kept : phases.KeepAccount request

section

variable
  (transport : Transport)
  (plan : Plan)
  (journal : Journal)

/-- Making the record of any handle asks for the size of the result and
fetches it, at most. -/
theorem fetch_callsFor (handle : Handle) :
    ∃ size download,
      CallsFor plan.request journal ⟨[], [], [], size, download⟩
        (fetch transport plan handle journal).2 := by
  obtain ⟨size, download, calls, sizes, downloads, -⟩ :=
    (fetch_fetched transport plan handle journal).calls
  refine ⟨size, download, ?_,
    Phases.keepAccount_of_requests (List.forall_mem_nil _)
      (List.forall_mem_nil _) (List.forall_mem_nil _) ?_ ?_⟩
  · rw [calls]
    simp [Phases.all]
  · intro call made
    obtain ⟨location, -, -, sent⟩ := sizes.wanted_of_mem made
    exact ⟨location, sent⟩
  · intro call made
    obtain ⟨query, -, bytes, -, -, sent⟩ := downloads.wanted_of_mem made
    exact ⟨query.request.url, sent⟩

variable [Url.NameConversion]

/-- A submission fetches the source and submits the task, at most. -/
theorem submit_callsFor :
    ∃ source submission,
      CallsFor plan.request journal ⟨source, submission, [], [], []⟩
        (submit transport plan.request journal).2 := by
  have sourceSent :
      ∀ call ∈ sourceCalls plan journal, ∃ url,
        call.request =
          sourceRequest url plan.request.transport.callTimeout := by
    intro call made
    obtain ⟨url, -, -, sent⟩ :=
      (onlyCall_sourceCalls plan journal).wanted_of_mem made
    exact ⟨url, sent⟩
  have submitted (payload : List UInt8) :
      CallsFor plan.request journal
        ⟨sourceCalls plan journal,
          [submissionCall transport plan journal payload], [], [], []⟩
        (afterSubmission transport plan.request payload journal) := by
    refine ⟨?_, Phases.keepAccount_of_requests sourceSent ?_
      (List.forall_mem_nil _) (List.forall_mem_nil _)
      (List.forall_mem_nil _)⟩
    · rw [afterSubmission_calls]
      simp [Phases.all]
    · intro call made
      rw [List.mem_singleton.mp made]
      exact ⟨payload, rfl⟩
  rcases submit_cases transport plan.request journal with
    ⟨detail, -, result⟩ | ⟨payload, fault, -, -, result⟩ |
    ⟨payload, reply, -, -, result⟩
  · refine ⟨sourceCalls plan journal, [], ?_,
      Phases.keepAccount_of_requests sourceSent (List.forall_mem_nil _)
        (List.forall_mem_nil _) (List.forall_mem_nil _)
        (List.forall_mem_nil _)⟩
    rw [result, afterSource_calls]
    simp [Phases.all]
  · rw [result]
    exact ⟨_, _, submitted payload⟩
  · rw [result]
    exact ⟨_, _, (submitted payload).calls, (submitted payload).kept⟩

/-- However long a task is watched, only its status is asked for. -/
theorem after_start_callsFor
    (request : Request)
    (policy : PollPolicy)
    (watch : Watch)
    (rounds : Nat) :
    let polling := pollingFrom transport request policy watch.journal.now
    ∃ queries,
      CallsFor request watch.journal ⟨[], [], queries, [], []⟩
        (polling.after rounds (polling.start watch)).watch.journal := by
  intro polling
  obtain ⟨queries, -, follows⟩ :=
    Polling.follows_of_after_start
      (rfl : polling.after rounds (polling.start watch) = _)
  obtain ⟨handle, course⟩ := follows.course
  refine ⟨queries, ?_,
    Phases.keepAccount_of_requests (List.forall_mem_nil _)
      (List.forall_mem_nil _) ?_ (List.forall_mem_nil _)
      (List.forall_mem_nil _)⟩
  · rw [course.calls]
    simp [Phases.all]
  · intro call made
    exact ⟨watch.handle.taskId, course.requests call made⟩

end

/-- The account goes to the endpoints of the service with each submission and
each status query, and nowhere else: in every run, after any number of status
queries, and in each of its parts, for any handle. -/
theorem account_kept
    [Url.NameConversion]
    (rounds : Nat)
    (transport : Transport)
    (plan : Plan)
    (journal : Journal) :
    (∃ phases,
      CallOrder transport plan journal phases
          (performFor rounds transport plan journal).1
          (performFor rounds transport plan journal).2 ∧
        CallsFor plan.request journal phases
          (performFor rounds transport plan journal).2) ∧
    perform rounds transport plan journal =
      (performFor rounds transport plan journal).1.map
        (⟨·, (performFor rounds transport plan journal).2⟩) ∧
    (∃ source submission,
      CallsFor plan.request journal ⟨source, submission, [], [], []⟩
        (submit transport plan.request journal).2) ∧
    (∀ policy watch,
      let polling :=
        pollingFrom transport plan.request policy watch.journal.now
      let progress := polling.after rounds (polling.start watch)
      (∃ queries,
        CallsFor plan.request watch.journal ⟨[], [], queries, [], []⟩
          progress.watch.journal) ∧
      awaitCompletion rounds transport plan.request policy watch =
        match progress with
        | .ended ended => some ended
        | .watching _ => none) ∧
    (∀ handle, ∃ size download,
      CallsFor plan.request journal ⟨[], [], [], size, download⟩
        (fetch transport plan handle journal).2) := by
  refine ⟨?_, perform_eq rounds transport plan journal,
    submit_callsFor transport plan journal, ?_,
    fetch_callsFor transport plan journal⟩
  · obtain ⟨phases, order⟩ :=
      (performFor_performed transport plan journal rounds).callOrder
    exact ⟨phases, order, order.calls, order.keepAccount⟩
  · intro policy watch polling progress
    exact ⟨after_start_callsFor transport plan.request policy watch rounds,
      polling.finish_eq rounds (polling.start watch)⟩

end Run
end FieldOcr
