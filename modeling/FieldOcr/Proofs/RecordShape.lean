import FieldOcr.Proofs.Observation

/-!
# The shape of a record

The record of a run is a success, a failure or a timeout.  Which of them it
is, and why, is told by the accepted snapshots of its task: a task that ends
without success or is given up has a record that says so, and a task that is
completed has a failure only if there is no address, or none whose result
passes.
-/

namespace FieldOcr

namespace RemoteTask
namespace Failure

/-- The wording of a failure is never empty. -/
theorem message_ne_empty (failure : Failure) : failure.message ≠ "" := by
  have longer {front rest : String} (nonempty : front ≠ "") :
      front ++ rest ≠ "" := fun empty =>
    nonempty (String.append_eq_empty_iff.mp empty).1
  cases failure <;> unfold message <;> (repeat' apply longer) <;> decide

/-- Why a run has a failure, given the identifier in its record and the
accepted snapshots of its task.  No run has the failure of a status query. -/
def Explained
    (snapshots : List Snapshot)
    (taskId : Option String) : Failure -> Prop
  | .sourceUnreadable .. | .submission .. => taskId = none ∧ snapshots = []
  | .polling .. => False
  | .remoteFailure _ =>
      taskId ≠ none ∧ finalStatus? snapshots = some .failed
  | .insufficientCredits _ =>
      taskId ≠ none ∧ finalStatus? snapshots = some .notEnoughCredits
  | .noResult _ =>
      taskId ≠ none ∧ finalStatus? snapshots = some .completed ∧
        ¬Located snapshots
  | .tooLarge .. | .sizeUnavailable .. | .download .. | .malformed ..
  | .destination .. =>
      taskId ≠ none ∧ finalStatus? snapshots = some .completed ∧
        Located snapshots

/-- A rejected result was located. -/
theorem explained_of_rejection
    {snapshots : List Snapshot}
    {taskId : Option String}
    (submitted : taskId ≠ none)
    (completed : finalStatus? snapshots = some .completed)
    (located : Located snapshots)
    (rejection : Rejection) :
    rejection.failure.Explained snapshots taskId := by
  cases rejection <;> exact ⟨submitted, completed, located⟩

end Failure
end RemoteTask

namespace Run

open RemoteTask
  (Failure Handle Located Snapshot Status acceptedAfter finalStatus?
    reportedSnapshots)

/-! ## Shapes -/

/-- The shapes of records. -/
inductive Shape
  | success
  | failure
  | timeout
  deriving DecidableEq, Repr

/-- A record has a shape. -/
def Record.HasShape (record : Record) : Shape -> Prop
  | .success =>
      record.failure = none ∧ record.timedOut = false ∧ record.taskId ≠ none
  | .failure =>
      record.failure ≠ none ∧ record.timedOut = false ∧
        record.content = [] ∧ record.destination = none
  | .timeout =>
      record.timedOut = true ∧ record.failure = none ∧
        record.content = [] ∧ record.destination = none ∧
        record.taskId ≠ none

/-- A record has one shape at most. -/
theorem Record.HasShape.unique
    {record : Record}
    {first second : Shape}
    (firstShape : record.HasShape first)
    (secondShape : record.HasShape second) :
    first = second := by
  cases first <;> cases second <;>
    simp_all [Record.HasShape]

/-- The outputs of a record tell success exactly if they tell neither a
failure nor that waiting was given up. -/
theorem Record.outputs_succeeded_iff (record : Record) :
    record.outputs.lookup "succeeded" = some "true" ↔
      record.outputs.lookup "error" = some "" ∧
        record.outputs.lookup "timedOut" = some "false" := by
  have succeeded :
      record.outputs.lookup "succeeded" =
        some (truthText record.succeeded) := rfl
  have error : record.outputs.lookup "error" = some record.failureText := rfl
  have timedOut :
      record.outputs.lookup "timedOut" = some (truthText record.timedOut) :=
    rfl
  have worded : record.failureText = "" ↔ record.failure = none := by
    unfold failureText
    cases record.failure with
    | none => simp
    | some failure => simp [failure.message_ne_empty]
  rw [succeeded, error, timedOut, Option.some.injEq, Option.some.injEq,
    Option.some.injEq, worded, Record.succeeded]
  cases record.failure <;> cases record.timedOut <;> simp [truthText]

/-- What the record of a run tells, given the accepted snapshots of its
task. -/
structure Tells (snapshots : List Snapshot) (record : Record) : Prop where
  /-- It has exactly one of the shapes. -/
  shape : ∃! shape, record.HasShape shape
  /-- A status query that failed is no failure of the run. -/
  unpolled :
    ∀ taskId code message,
      record.failure ≠ some (.polling taskId code message)
  /-- It names the task unless its source or its submission failed. -/
  unsubmitted :
    record.taskId = none ↔
      (∃ reference detail,
        record.failure = some (.sourceUnreadable reference detail)) ∨
      ∃ code message, record.failure = some (.submission code message)
  /-- The service failed to process the task. -/
  remoteFailure :
    (∃ taskId, record.failure = some (.remoteFailure taskId)) ↔
      finalStatus? snapshots = some .failed
  /-- The task was not paid for. -/
  insufficientCredits :
    (∃ taskId, record.failure = some (.insufficientCredits taskId)) ↔
      finalStatus? snapshots = some .notEnoughCredits
  /-- The task was completed, and no accepted snapshot brought an address. -/
  noResult :
    (∃ taskId, record.failure = some (.noResult taskId)) ↔
      finalStatus? snapshots = some .completed ∧ ¬Located snapshots
  /-- The task was not brought to a terminal status. -/
  timeout :
    record.HasShape .timeout ↔
      ∃ status,
        finalStatus? snapshots = some status ∧ status.isTerminal = false
  /-- The outputs agree with each other. -/
  outputs :
    record.outputs.lookup "succeeded" = some "true" ↔
      record.outputs.lookup "error" = some "" ∧
        record.outputs.lookup "timedOut" = some "false"

section

variable
  {snapshots : List Snapshot}
  {record : Record}

/-- A success is told of a task that is completed with an address. -/
theorem Tells.of_success
    (shape : record.HasShape .success)
    (completed : finalStatus? snapshots = some .completed)
    (located : Located snapshots) :
    Tells snapshots record where
  shape := ⟨.success, shape, fun _ other => other.unique shape⟩
  unpolled := by simp [shape.1]
  unsubmitted := by simp [shape.1, shape.2.2]
  remoteFailure := by simp [shape.1, completed]
  insufficientCredits := by simp [shape.1, completed]
  noResult := by simp [shape.1, located]
  timeout := by simp [Record.HasShape, shape.2.1, completed, Status.isTerminal]
  outputs := record.outputs_succeeded_iff

/-- A timeout is told of a task without a terminal status. -/
theorem Tells.of_timeout
    {status : Status}
    (shape : record.HasShape .timeout)
    (final : finalStatus? snapshots = some status)
    (unfinished : status.isTerminal = false) :
    Tells snapshots record where
  shape := ⟨.timeout, shape, fun _ other => other.unique shape⟩
  unpolled := by simp [shape.2.1]
  unsubmitted := by simp [shape.2.1, shape.2.2.2.2]
  remoteFailure := by
    cases status <;> simp_all [Record.HasShape, Status.isTerminal]
  insufficientCredits := by
    cases status <;> simp_all [Record.HasShape, Status.isTerminal]
  noResult := by
    cases status <;> simp_all [Record.HasShape, Status.isTerminal]
  timeout := iff_of_true shape ⟨status, final, unfinished⟩
  outputs := record.outputs_succeeded_iff

/-- A failure is told for its reason. -/
theorem Tells.of_failure
    {failure : Failure}
    (failed : record.failure = some failure)
    (shape : record.HasShape .failure)
    (explained : failure.Explained snapshots record.taskId) :
    Tells snapshots record where
  shape := ⟨.failure, shape, fun _ other => other.unique shape⟩
  unpolled := by
    rintro taskId code message again
    rw [failed] at again
    cases again
    exact explained
  unsubmitted := by
    cases failure <;> simp_all [Failure.Explained]
  remoteFailure := by
    cases failure <;> simp_all [Failure.Explained]
  insufficientCredits := by
    cases failure <;> simp_all [Failure.Explained]
  noResult := by
    cases failure <;> simp_all [Failure.Explained]
  timeout := by
    cases failure <;>
      simp_all [Failure.Explained, Record.HasShape, Status.isTerminal]
  outputs := record.outputs_succeeded_iff

end

/-! ## The accepted snapshots of a run -/

/-- The calls of a run that are about its task: those behind the fetch of the
source, and in front of the size query. -/
def taskCalls
    [Url.NameConversion]
    (plan : Plan)
    (journal ended : Journal) : List Call :=
  (serviceCalls plan journal ended).takeWhile (·.request.method != .head)

/-- The snapshots that a run accepted of its task, among all that it had
received when it ended. -/
def acceptedSnapshots
    [Url.NameConversion]
    (transport : Transport)
    (plan : Plan)
    (journal ended : Journal) : List Snapshot :=
  RemoteTask.accepted
    (reportedSnapshots
      (receivedBy transport ended.now (journal.calls ++ sourceCalls plan journal)
        (taskCalls plan journal ended)))

section

variable
  {transport : Transport}
  {plan : Plan}
  {journal ended fetched : Journal}
  {handle : Handle}
  {record : Record}
  {payload : List UInt8}
  {reply : Service.TaskReply}

/-- The calls about a task end where a size is asked for. -/
theorem taskCalls_of_calls
    [Url.NameConversion]
    {front further : List Call}
    (made :
      ended.calls =
        journal.calls ++ sourceCalls plan journal ++ (front ++ further))
    (others : ∀ call ∈ front, call.request.method ≠ .head)
    (asked : ∀ call ∈ further.head?, call.request.method = .head) :
    taskCalls plan journal ended = front := by
  have stops :
      further.takeWhile (·.request.method != .head) = [] := by
    cases further with
    | nil => rfl
    | cons call further =>
        have head : call.request.method = .head := asked call rfl
        rw [List.takeWhile_cons_of_neg (by simp [head])]
  rw [taskCalls, serviceCalls_of_calls made,
    List.takeWhile_append_of_pos fun call front =>
      bne_iff_ne.mpr (others call front),
    stops, List.append_nil]

/-- Where nothing is called, no size is asked for. -/
theorem asked_of_nil :
    ∀ call ∈ ([] : List Call).head?, call.request.method = .head :=
  fun _ impossible => nomatch impossible

/-- What is called for a result starts with its size query. -/
theorem Fetched.calls_head
    (ending : Fetched transport plan journal handle record fetched) :
    ∃ further,
      fetched.calls = journal.calls ++ further ∧
        ∀ call ∈ further.head?, call.request.method = .head := by
  obtain ⟨size, download, calls, sizes, downloads, -⟩ := ending.calls
  rw [List.append_assoc] at calls
  refine ⟨size ++ download, calls, ?_⟩
  cases sizes with
  | made wanted =>
      rintro call ⟨⟩
      obtain ⟨location, -, -, request⟩ := wanted
      rw [request]
      rfl
  | omitted =>
      cases downloads with
      | made wanted =>
          obtain ⟨query, impossible, -⟩ := wanted
          exact nomatch impossible
      | omitted => exact asked_of_nil

/-- A run without a task accepts no snapshot. -/
theorem acceptedSnapshots_of_unreported
    [Url.NameConversion]
    (unreported :
      Service.reported?
          (submissionOutcome transport plan.request payload journal) =
        none)
    (still :
      ended.moment =
        (afterSubmission transport plan.request payload journal).moment) :
    acceptedSnapshots transport plan journal ended = [] := by
  have calls :
      ended.calls =
        journal.calls ++ sourceCalls plan journal ++
          ([submissionCall transport plan journal payload] ++ []) := by
    rw [List.append_nil, ← afterSubmission_calls]
    exact congrArg Moment.calls still
  have now :
      ended.now =
        (afterSubmission transport plan.request payload journal).now :=
    congrArg Moment.now still
  have posted :
      ∀ call ∈ [submissionCall transport plan journal payload],
        call.request.method ≠ .head := by
    intro call made
    rw [List.mem_singleton.mp made]
    exact nofun
  rw [acceptedSnapshots, taskCalls_of_calls calls posted asked_of_nil, now,
    receivedBy_submissionCall]
  simp [unreported, RemoteTask.accepted]

/-- A run that has got its record without a source makes no call for a
task. -/
theorem acceptedSnapshots_of_unloaded
    [Url.NameConversion]
    (still :
      ended.moment = (afterSource transport plan.request journal).moment) :
    acceptedSnapshots transport plan journal ended = [] := by
  have calls :
      ended.calls = journal.calls ++ sourceCalls plan journal ++ ([] ++ []) := by
    rw [List.append_nil, List.append_nil, ← afterSource_calls transport]
    exact congrArg Moment.calls still
  have none : taskCalls plan journal ended = [] :=
    taskCalls_of_calls calls (fun _ impossible => nomatch impossible)
      asked_of_nil
  rw [acceptedSnapshots, none]
  rfl

/-- What a run accepted of its task is what its submission reported, and what
the received outcomes of its status queries add. -/
theorem Polling.Follows.acceptedSnapshots_eq
    [Url.NameConversion]
    {queries : List Call}
    {watch : Watch}
    (reported :
      Service.reported?
          (submissionOutcome transport plan.request payload journal) =
        some reply)
    (follows :
      (submittedPolling transport plan journal payload).Follows
        (submittedWatch transport plan journal payload reply) queries
        (.ended watch))
    (ending :
      Fetched transport plan watch.journal watch.handle record fetched)
    (still : ended.moment = fetched.moment) :
    acceptedSnapshots transport plan journal ended =
      reply.snapshot ::
        RemoteTask.acceptedAfter reply.snapshot.status
          (reportedSnapshots
            (receivedBy transport fetched.now
              (submittedWatch transport plan journal payload
                reply).journal.calls
              queries)) := by
  obtain ⟨further, fetchedCalls, asked⟩ := ending.calls_head
  obtain ⟨handle, course⟩ := follows.course
  have calls :
      ended.calls =
        journal.calls ++ sourceCalls plan journal ++
          ([submissionCall transport plan journal payload] ++ queries ++
            further) := by
    have endedCalls : ended.calls = fetched.calls :=
      congrArg Moment.calls still
    rw [endedCalls, fetchedCalls, show watch.journal.calls = _ from follows.calls]
    simp only [List.append_assoc]
  have now : ended.now = fetched.now := congrArg Moment.now still
  have later :
      (afterSubmission transport plan.request payload journal).now ≤
        fetched.now :=
    Nat.le_trans course.clock ending.now_le.1
  rw [acceptedSnapshots,
    taskCalls_of_calls calls follows.method_ne_head asked, now,
    receivedBy_task transport plan journal payload later,
    submittedWatch_calls transport plan journal payload reply]
  simp [reported, RemoteTask.accepted]

/-- The handle of a watch that has ended tells what was accepted, and is
marked exactly if this brought no terminal status. -/
theorem Polling.Follows.observed
    [Url.NameConversion]
    {queries : List Call}
    {watch : Watch}
    (reported :
      Service.reported?
          (submissionOutcome transport plan.request payload journal) =
        some reply)
    (follows :
      (submittedPolling transport plan journal payload).Follows
        (submittedWatch transport plan journal payload reply) queries
        (.ended watch))
    (ending :
      Fetched transport plan watch.journal watch.handle record fetched)
    (still : ended.moment = fetched.moment) :
    let snapshots := acceptedSnapshots transport plan journal ended
    finalStatus? snapshots = some watch.handle.status ∧
      (watch.handle.resultUrls = [] ↔ ¬Located snapshots) ∧
      (watch.handle.timedOut = true ↔
        watch.handle.status.isTerminal = false) := by
  intro snapshots
  have first :
      (submittedWatch transport plan journal payload reply).handle =
        .ofSubmission reply.snapshot reply.statusCode := rfl
  obtain ⟨timedOut, received⟩ := follows.received ending
  obtain ⟨status, located⟩ :=
    Handle.afterOutcomes_observed
      (submittedWatch transport plan journal payload reply).handle
      (receivedBy (submittedPolling transport plan journal payload).transport
        fetched.now
        (submittedWatch transport plan journal payload reply).journal.calls
        queries)
  have accepted : snapshots = _ :=
    follows.acceptedSnapshots_eq reported ending still
  refine ⟨?_, ?_, ?_⟩
  · rw [accepted, RemoteTask.finalStatus?_cons, received]
    exact congrArg some status.symm
  · rw [accepted, RemoteTask.located_cons_iff, not_or, not_not, received]
    exact located
  · rw [follows.timedOut_iff, first]
    simp [Handle.ofSubmission]

end

/-! ## The record of a run -/

section

variable
  {transport : Transport}
  {plan : Plan}
  {journal ended fetched : Journal}
  {handle : Handle}
  {record : Record}
  {snapshots : List Snapshot}

/-- A failure in front of the submission. -/
theorem Tells.of_unsubmitted
    {failure : Failure}
    (explained : failure.Explained snapshots none) :
    Tells snapshots (.unsubmitted failure) :=
  .of_failure rfl ⟨nofun, rfl, rfl, rfl⟩ explained

/-- A failure behind the submission. -/
theorem Tells.of_ofFailure
    {failure : Failure}
    (explained : failure.Explained snapshots (some handle.taskId)) :
    Tells snapshots (.ofFailure handle failure) :=
  .of_failure rfl ⟨nofun, rfl, rfl, rfl⟩ explained

/-- A fetch that was broken off. -/
theorem Tells.of_abort
    {abort : Abort}
    (explained : abort.failure.Explained snapshots (some handle.taskId)) :
    Tells snapshots (abort.record handle) := by
  have taskId : (abort.record handle).taskId = some handle.taskId :=
    Record.withLastStatusCode_taskId ..
  have failed := abort.record_failure handle
  refine .of_failure failed ⟨?_, ?_, ?_, ?_⟩ (taskId ▸ explained)
  · rw [failed]
    exact nofun
  · exact Record.withLastStatusCode_timedOut ..
  all_goals
    unfold Abort.record Record.withLastStatusCode
    split <;> rfl

/-- Fetching from an address makes the record of a success, or of a failure of
a task that is completed with an address. -/
theorem FetchedFrom.tells
    {location : Url}
    {result : Except Abort Record}
    (ending :
      FetchedFrom transport plan location journal handle result fetched)
    (completed : finalStatus? snapshots = some .completed)
    (located : Located snapshots) :
    Tells snapshots (recordOf handle result) := by
  have submitted : some handle.taskId ≠ none := nofun
  cases ending with
  | tooLarge | sizeUnavailable | downloadFailed | unwritten =>
      exact .of_abort ⟨submitted, completed, located⟩
  | rejected =>
      exact .of_abort
        (Failure.explained_of_rejection submitted completed located _)
  | delivered => exact .of_success ⟨rfl, rfl, nofun⟩ completed located

/-- The record that is made of a handle tells what this was observed to be. -/
theorem Fetched.tells
    (ending : Fetched transport plan journal handle record fetched)
    (final : finalStatus? snapshots = some handle.status)
    (located : handle.resultUrls = [] ↔ ¬Located snapshots)
    (timedOut : handle.timedOut = true ↔ handle.status.isTerminal = false) :
    Tells snapshots record := by
  have submitted : some handle.taskId ≠ none := nofun
  cases ending with
  | stopped stopped =>
      cases status : handle.status <;> rw [status] at stopped final <;>
        cases stopped <;> exact .of_ofFailure ⟨submitted, final⟩
  | givenUp unfinished =>
      exact .of_timeout ⟨rfl, rfl, rfl, rfl, submitted⟩ final unfinished
  | unfinished unfinished untimed =>
      exact absurd (timedOut.mpr unfinished) (by simp [untimed])
  | unlocated completed unlocated =>
      rw [completed] at final
      exact .of_ofFailure
        ⟨submitted, final, located.mp (List.head?_eq_none_iff.mp unlocated)⟩
  | fetched completed address fetched =>
      rw [completed] at final
      refine fetched.tells final (not_not.mp fun unlocated => ?_)
      rw [located.mpr unlocated] at address
      exact nomatch address

/-- However a run has got its record, this tells what was accepted of its
task. -/
theorem Performed.tells
    [Url.NameConversion]
    {rounds : Nat}
    (performed :
      Performed transport plan journal rounds (some record) ended) :
    Tells (acceptedSnapshots transport plan journal ended) record := by
  cases performed with
  | unloaded missing still =>
      exact .of_unsubmitted ⟨rfl, acceptedSnapshots_of_unloaded still⟩
  | unreported given unreported still =>
      exact .of_unsubmitted
        ⟨rfl, acceptedSnapshots_of_unreported unreported still⟩
  | fetched given reported progress ending still =>
      obtain ⟨queries, -, follows⟩ := Polling.follows_of_after_start progress
      obtain ⟨final, located, timedOut⟩ :=
        follows.observed reported ending still
      exact ending.tells final located timedOut

/-- A run returns a record that tells what was accepted of its task. -/
theorem returns_tells
    [Url.NameConversion]
    {report : Report}
    (returned : Returns transport plan journal report) :
    Tells (acceptedSnapshots transport plan journal report.journal)
      report.record := by
  obtain ⟨rounds, performed⟩ := returned.performed
  exact performed.tells

end

/-! ## A task that is given up -/

/-- A plan whose waiting is given up after one query. -/
def hastyPlan : Plan :=
  { narrowPlan with options := { poll := hastyPolicy } }

/-- A task that is still in progress when it is given up has the record of a
timeout. -/
theorem returns_tells_hastyPlan :
    ∃ report,
      Returns lateService hastyPlan journalWithSource report ∧
        Tells
          (acceptedSnapshots lateService hastyPlan journalWithSource
            report.journal)
          report.record ∧
        finalStatus?
            (acceptedSnapshots lateService hastyPlan journalWithSource
              report.journal) =
          some .inProgress ∧
        report.record.HasShape .timeout := by
  have known :
      (perform 0 lateService hastyPlan journalWithSource).map
          (fun report =>
            finalStatus?
              (acceptedSnapshots lateService hastyPlan journalWithSource
                report.journal)) =
        some (some .inProgress) := by
    decide +kernel
  obtain ⟨report, performed, final⟩ := Option.map_eq_some_iff.mp known
  have returned : Returns lateService hastyPlan journalWithSource report :=
    ⟨0, performed⟩
  have told := returns_tells returned
  exact ⟨report, returned, told, final,
    told.timeout.mpr ⟨_, final, rfl⟩⟩

end Run
end FieldOcr
