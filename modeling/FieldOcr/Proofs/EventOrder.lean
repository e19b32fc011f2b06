import FieldOcr.Proofs.Delivery
import FieldOcr.Proofs.RecordShape
import Mathlib.Data.List.Forall2

/-!
# The order of the events

An observer of a run is told of its submission, then of the reply to each
status query, then of content that passed its checks, and at last that the run
is complete.  The statuses it is told never go back, and none follows a
terminal one.
-/

namespace FieldOcr

namespace RemoteTask

namespace Status

/-- How far a task has come; all terminal statuses are equally far. -/
def rank : Status -> Nat
  | .queued => 0
  | .inProgress => 1
  | .completed | .failed | .notEnoughCredits => 2

/-- A status is only followed by one that is as far. -/
theorem rank_le_of_canGoTo
    {first next : Status}
    (follows : first.canGoTo next = true) :
    first.rank ≤ next.rank := by
  cases first <;> cases next <;> simp_all [canGoTo, rank]

end Status

theorem Handle.advance_rank_le
    (handle : Handle)
    (snapshot : Snapshot)
    (code : Nat) :
    handle.status.rank ≤ (handle.advance snapshot code).status.rank := by
  by_cases accepts : handle.status.canGoTo snapshot.status = true
  · rw [(Handle.advance_of_accepts accepts code).1]
    exact Status.rank_le_of_canGoTo accepts
  · exact Nat.le_of_eq
      (congrArg Status.rank
        (Handle.advance_of_not_accepts accepts code).1.symm)

end RemoteTask

namespace Run

open RemoteTask (Handle Status)

/-- The status that an event tells. -/
def Event.status? : Event -> Option Status
  | .status _ told => some told
  | .submitted _ | .pollFault _ _ | .validated _ _ | .complete _ _ => none

/-- The statuses that events tell, in order. -/
def toldStatuses (events : List Event) : List Status :=
  events.filterMap Event.status?

@[simp] theorem toldStatuses_nil : toldStatuses [] = [] := rfl

@[simp] theorem toldStatuses_status
    (taskId : String)
    (status : Status)
    (events : List Event) :
    toldStatuses (.status taskId status :: events) =
      status :: toldStatuses events := rfl

@[simp] theorem toldStatuses_pollFault
    (taskId message : String)
    (events : List Event) :
    toldStatuses (.pollFault taskId message :: events) =
      toldStatuses events := rfl

/-- An event tells what came of a status query: the status of the task if the
reply reports one, and a fault otherwise. -/
inductive Event.Answers
    [Url.NameConversion]
    (taskId : String) : Http.Outcome -> Event -> Prop
  | status {outcome : Http.Outcome} {reply : Service.TaskReply}
      (reported : Service.reported? outcome = some reply)
      (status : Status) :
      Answers taskId outcome (.status taskId status)
  | pollFault {outcome : Http.Outcome}
      (unreported : Service.reported? outcome = none)
      (message : String) :
      Answers taskId outcome (.pollFault taskId message)

end Run

namespace RemoteTask
namespace Handle

open Run

variable [Url.NameConversion] (url : Url)

/-- What is told of an outcome is the status that it takes the handle to, or
a fault that leaves the status. -/
theorem tiding_cases (handle : Handle) (outcome : Http.Outcome) :
    (∃ reply,
      Service.reported? outcome = some reply ∧
        handle.tiding url outcome =
          .status handle.taskId (handle.afterOutcome outcome).status ∧
        handle.status.rank ≤ (handle.afterOutcome outcome).status.rank) ∨
    (∃ message,
      Service.reported? outcome = none ∧
        handle.tiding url outcome = .pollFault handle.taskId message ∧
        (handle.afterOutcome outcome).status = handle.status) := by
  unfold tiding
  rcases Service.readTaskReply_cases url outcome with
    ⟨reply, reported, read⟩ | ⟨fault, unreported, -, read⟩
  · refine Or.inl ⟨reply, reported, by rw [read], ?_⟩
    simpa only [afterOutcome, reported] using
      handle.advance_rank_le reply.snapshot reply.statusCode
  · exact Or.inr ⟨_, unreported, by rw [read],
      by simp only [afterOutcome, unreported]; rfl⟩

/-- One event is told for each outcome. -/
theorem tidings_answer (handle : Handle) (outcomes : List Http.Outcome) :
    List.Forall₂ (Event.Answers handle.taskId) outcomes
      (tidings url handle outcomes) := by
  induction outcomes generalizing handle with
  | nil => exact .nil
  | cons outcome outcomes inductionHypothesis =>
      have rest := inductionHypothesis (handle.afterOutcome outcome)
      rw [afterOutcome_taskId] at rest
      refine .cons ?_ rest
      rcases handle.tiding_cases url outcome with
        ⟨reply, reported, told, -⟩ | ⟨message, unreported, told, -⟩
      · rw [told]
        exact .status reported _
      · rw [told]
        exact .pollFault unreported message

/-- The statuses that are told start with that of the handle, if the outcome
reports one. -/
theorem toldStatuses_tidings_cons
    (handle : Handle)
    (outcome : Http.Outcome)
    (outcomes : List Http.Outcome) :
    let next := handle.afterOutcome outcome
    let rest := toldStatuses (tidings url next outcomes)
    (toldStatuses (tidings url handle (outcome :: outcomes)) =
        next.status :: rest ∧
      handle.status.rank ≤ next.status.rank) ∨
    (toldStatuses (tidings url handle (outcome :: outcomes)) = rest ∧
      next.status = handle.status) := by
  rcases handle.tiding_cases url outcome with
    ⟨reply, -, told, advances⟩ | ⟨message, -, told, kept⟩
  · exact Or.inl ⟨by simp only [tidings, told, toldStatuses_status], advances⟩
  · exact Or.inr ⟨by simp only [tidings, told, toldStatuses_pollFault], kept⟩

/-- The statuses that are told never go back, and not behind that of the
handle. -/
theorem tidings_ordered (handle : Handle) (outcomes : List Http.Outcome) :
    (handle.status :: toldStatuses (tidings url handle outcomes)).Pairwise
      (·.rank ≤ ·.rank) := by
  induction outcomes generalizing handle with
  | nil => simp [tidings]
  | cons outcome outcomes inductionHypothesis =>
      have rest := inductionHypothesis (handle.afterOutcome outcome)
      rcases handle.toldStatuses_tidings_cons url outcome outcomes with
        ⟨told, advances⟩ | ⟨told, kept⟩
      · rw [told]
        refine List.pairwise_cons.mpr ⟨?_, rest⟩
        intro status later
        rcases List.mem_cons.mp later with rfl | later
        · exact advances
        · exact Nat.le_trans advances (List.rel_of_pairwise_cons rest later)
      · rw [told, ← kept]
        exact rest

/-- The last status that is told, or else that of the handle, is the status of
the handle after all outcomes. -/
theorem tidings_final (handle : Handle) (outcomes : List Http.Outcome) :
    (toldStatuses (tidings url handle outcomes)).getLast?.getD handle.status =
      (handle.afterOutcomes outcomes).status := by
  induction outcomes generalizing handle with
  | nil => rfl
  | cons outcome outcomes inductionHypothesis =>
      have rest := inductionHypothesis (handle.afterOutcome outcome)
      change _ = ((handle.afterOutcome outcome).afterOutcomes outcomes).status
      rw [← rest]
      rcases handle.toldStatuses_tidings_cons url outcome outcomes with
        ⟨told, -⟩ | ⟨told, kept⟩
      · rw [told, List.getLast?_cons, Option.getD_some]
      · rw [told, kept]

/-- No outcome is told behind a terminal status. -/
theorem tidings_awaited
    {handle : Handle}
    {outcomes : List Http.Outcome}
    (awaits : handle.Awaits outcomes)
    {front behind : List Event}
    {event : Event}
    (told : tidings url handle outcomes = front ++ event :: behind) :
    ∀ status ∈ handle.status :: toldStatuses front,
      status.isTerminal = false := by
  induction outcomes generalizing handle front with
  | nil => simp [tidings] at told
  | cons outcome outcomes inductionHypothesis =>
      obtain ⟨unfinished, later⟩ := awaits
      intro status known
      rcases List.mem_cons.mp known with rfl | known
      · exact unfinished
      cases front with
      | nil => exact absurd known List.not_mem_nil
      | cons first front =>
          simp only [tidings, List.cons_append, List.cons.injEq] at told
          obtain ⟨rfl, told⟩ := told
          have rest := inductionHypothesis later told
          rcases handle.tiding_cases url outcome with
            ⟨reply, -, first, -⟩ | ⟨message, -, first, -⟩
          · rw [first, toldStatuses_status] at known
            exact rest status known
          · rw [first, toldStatuses_pollFault] at known
            exact rest status (List.mem_cons_of_mem _ known)

end Handle
end RemoteTask

namespace Run

open RemoteTask (Handle Status)

/-! ## What a run tells -/

section

variable
  [Url.NameConversion]
  (transport : Transport)
  (plan : Plan)
  (journal : Journal)

/-- The replies to status queries that a run had received when it ended.  The
first reply about a task is that to its submission. -/
def statusReplies (ended : Journal) : List Http.Outcome :=
  (receivedBy transport ended.now (journal.calls ++ sourceCalls plan journal)
    (taskCalls plan journal ended)).tail

/-- Events tell the replies to status queries of a submitted task. -/
structure TellsReplies
    (handle : Handle)
    (replies : List Http.Outcome)
    (events : List Event) : Prop where
  /-- Each of them is told, and of this task. -/
  answers : List.Forall₂ (Event.Answers handle.taskId) replies events
  /-- So there are as many of them. -/
  count : events.length = replies.length
  /-- The statuses never go back, and not behind that of the submission. -/
  ordered :
    (handle.status :: toldStatuses events).Pairwise (·.rank ≤ ·.rank)
  /-- Nothing is told behind a terminal status. -/
  awaited :
    ∀ front event behind,
      events = front ++ event :: behind ->
        ∀ status ∈ handle.status :: toldStatuses front,
          status.isTerminal = false

/-- What is told of content: nothing if it did not pass, and its length
otherwise.  Then the run ended with the download of this content, of a task
whose final status was completed, and wrote and returned it as far as that
went. -/
inductive TellsContent
    (taskId : String)
    (final : Status)
    (record? : Option Record)
    (ended : Journal) : List Event -> Prop
  | unvalidated
      (failed : ∀ record ∈ record?, record.succeeded = false)
      (unwritten : ended.files = journal.files) :
      TellsContent taskId final record? ended []
  | validated
      {record : Record}
      {location : Url}
      {earlier : List Call}
      {time : Nat}
      {response : Http.Response}
      (returned : record? = some record)
      (completed : final = .completed)
      (called :
        ended.calls =
          earlier ++ [⟨time, Service.download plan.request location⟩])
      (downloaded :
        (transport earlier
          (Service.download plan.request location)).outcome.success? =
          some response)
      (written :
        ended.files = filesAfter plan (contentOf response.body) journal.files)
      (content :
        record.succeeded = true -> record.content = contentOf response.body) :
      TellsContent taskId final record? ended
        [.validated taskId (Text.byteLength (contentOf response.body))]

/-- What an observer of a run is told, behind what was told before. -/
inductive EventOrder : Option Record -> Journal -> Prop
  | unsubmitted {record : Record} {ended : Journal}
      (unsubmitted : submittedHandle? transport plan journal = none)
      (failed : record.succeeded = false)
      (told : ended.events = journal.events ++ [.complete none false]) :
      EventOrder (some record) ended
  | submitted
      {handle : Handle}
      {record? : Option Record}
      {ended : Journal}
      {observed validated : List Event}
      (submitted : submittedHandle? transport plan journal = some handle)
      (told :
        ended.events =
          journal.events ++ [.submitted handle.taskId] ++ observed ++
            validated ++
            record?.toList.map fun record =>
              .complete (some handle.taskId) record.succeeded)
      (replies :
        TellsReplies handle (statusReplies transport plan journal ended)
          observed)
      (content :
        TellsContent transport plan journal handle.taskId
          ((toldStatuses observed).getLast?.getD handle.status) record? ended
          validated) :
      EventOrder record? ended

end

section

variable
  {transport : Transport}
  {plan : Plan}
  {journal fetched ended : Journal}
  {handle : Handle}
  {record : Record}

/-- A fetch leaves events and files as they are and does not succeed, or tells
content that was downloaded and keeps it. -/
theorem FetchedFrom.tells_content
    {location : Url}
    {result : Except Abort Record}
    (ending :
      FetchedFrom transport plan location journal handle result fetched) :
    (fetched.events = journal.events ∧ fetched.files = journal.files ∧
      (recordOf handle result).succeeded = false) ∨
    ∃ response,
      (downloadOutcome transport plan location journal).success? =
          some response ∧
        fetched =
          afterKeeping transport plan location journal handle
            (contentOf response.body) ∧
        ((recordOf handle result).succeeded = true ->
          Stores plan (contentOf response.body) journal.files ∧
            (recordOf handle result).content = contentOf response.body) := by
  cases ending with
  | tooLarge | sizeUnavailable | downloadFailed | rejected =>
      exact Or.inl ⟨rfl, rfl, Abort.record_succeeded ..⟩
  | unwritten _ _ _ downloaded _ _ _ kept =>
      refine Or.inr ⟨_, downloaded, kept, fun succeeded => ?_⟩
      rw [recordOf, Abort.record_succeeded] at succeeded
      exact absurd succeeded Bool.false_ne_true
  | delivered _ downloaded _ stored _ kept =>
      exact Or.inr ⟨_, downloaded, kept, fun _ => ⟨stored, rfl⟩⟩

/-- Making a record tells no more than content that was downloaded and kept,
of a task that is completed. -/
theorem Fetched.tells_content
    (ending : Fetched transport plan journal handle record fetched) :
    (fetched.events = journal.events ∧ fetched.files = journal.files ∧
      record.succeeded = false) ∨
    ∃ location response,
      handle.status = .completed ∧
        (downloadOutcome transport plan location journal).success? =
          some response ∧
        fetched =
          afterKeeping transport plan location journal handle
            (contentOf response.body) ∧
        (record.succeeded = true ->
          Stores plan (contentOf response.body) journal.files ∧
            record.content = contentOf response.body) := by
  cases ending with
  | stopped | givenUp | unfinished | unlocated => exact Or.inl ⟨rfl, rfl, rfl⟩
  | fetched completed located ended =>
      rcases ended.tells_content with unchanged | ⟨response, kept⟩
      · exact Or.inl unchanged
      · exact Or.inr ⟨_, response, completed, kept⟩

/-- The record of a watched task names this task. -/
theorem Fetched.taskId
    (ending : Fetched transport plan journal handle record fetched) :
    record.taskId = some handle.taskId := by
  cases ending with
  | stopped | givenUp | unfinished | unlocated => rfl
  | @fetched _ result _ _ _ ended =>
      cases result with
      | error abort => exact Record.withLastStatusCode_taskId ..
      | ok record => cases ended with | delivered => rfl

section

variable
  [Url.NameConversion]
  {payload : List UInt8}
  {reply : Service.TaskReply}
  {queries : List Call}
  {progress : Progress}

/-- The replies to the status queries of a run are those that its watch
received. -/
theorem Polling.Follows.statusReplies_eq
    (follows :
      (submittedPolling transport plan journal payload).Follows
        (submittedWatch transport plan journal payload reply) queries progress)
    {further : List Call}
    (calls : ended.calls = progress.watch.journal.calls ++ further)
    (asked : ∀ call ∈ further.head?, call.request.method = .head)
    (later : progress.watch.journal.now ≤ ended.now) :
    statusReplies transport plan journal ended =
      receivedBy transport ended.now
        (submittedWatch transport plan journal payload reply).journal.calls
        queries := by
  obtain ⟨handle, course⟩ := follows.course
  have made :
      ended.calls =
        journal.calls ++ sourceCalls plan journal ++
          ([submissionCall transport plan journal payload] ++ queries ++
            further) := by
    rw [calls, follows.calls]
    simp only [List.append_assoc]
  rw [statusReplies, taskCalls_of_calls made follows.method_ne_head asked,
    receivedBy_task transport plan journal payload
      (Nat.le_trans course.clock later),
    List.tail_cons, submittedWatch_calls]

/-- A watch that has ended is about the task that its queries asked for, and
has the status that they brought. -/
theorem Polling.Follows.ended_course
    {watch : Watch}
    (follows :
      (submittedPolling transport plan journal payload).Follows
        (submittedWatch transport plan journal payload reply) queries
        (.ended watch)) :
    ∃ handle,
      (submittedPolling transport plan journal payload).Course
          (submittedWatch transport plan journal payload reply) queries
          ⟨handle, watch.journal⟩ ∧
        watch.handle.taskId = reply.snapshot.id ∧
        handle.status = watch.handle.status := by
  obtain ⟨handle, course, ending⟩ := follows
  have taskId : handle.taskId = reply.snapshot.id :=
    (congrArg Handle.taskId course.handle).trans
      (Handle.afterOutcomes_taskId ..)
  refine ⟨handle, course, ?_⟩
  rcases ending with ⟨same, -, -⟩ | ⟨givenUp, -⟩
  · rw [same]
    exact ⟨taskId, rfl⟩
  · rw [givenUp]
    exact ⟨taskId, rfl⟩

/-- What is told of a watch, and of content behind it, is in order. -/
theorem Polling.Course.eventOrder
    {watch : Watch}
    {record? : Option Record}
    {validated : List Event}
    (given : payload? transport plan.request journal = some payload)
    (reported :
      Service.reported?
          (submissionOutcome transport plan.request payload journal) =
        some reply)
    (course :
      (submittedPolling transport plan journal payload).Course
        (submittedWatch transport plan journal payload reply) queries watch)
    (replies :
      statusReplies transport plan journal ended =
        receivedBy transport watch.journal.now
          (submittedWatch transport plan journal payload reply).journal.calls
          queries)
    (told :
      ended.events =
        watch.journal.events ++ validated ++
          record?.toList.map fun record =>
            .complete (some reply.snapshot.id) record.succeeded)
    (content :
      TellsContent transport plan journal reply.snapshot.id
        watch.handle.status record? ended validated) :
    EventOrder transport plan journal record? ended := by
  let task : Handle := .ofSubmission reply.snapshot reply.statusCode
  let asked :=
    (submittedPolling transport plan journal payload).nextQuery
      (submittedWatch transport plan journal payload reply)
  let observed :=
    task.tidings asked.url (statusReplies transport plan journal ended)
  have events :
      watch.journal.events =
        journal.events ++ [.submitted task.taskId] ++ observed := by
    have before :
        (submittedWatch transport plan journal payload reply).journal.events =
          journal.events ++ [.submitted task.taskId] :=
      submittedWatch_events ..
    rw [← before]
    simp only [observed, replies]
    exact course.events
  have final :
      (toldStatuses observed).getLast?.getD task.status =
        watch.handle.status := by
    simp only [observed, Handle.tidings_final, replies]
    exact congrArg Handle.status course.handle.symm
  have awaited :
      task.Awaits (statusReplies transport plan journal ended) := by
    rw [replies]
    exact course.awaited
  have answers :=
    task.tidings_answer asked.url (statusReplies transport plan journal ended)
  refine .submitted (submittedHandle?_of_reported given reported) ?_
    ⟨answers, answers.length_eq.symm, task.tidings_ordered ..,
      fun _ _ _ told => Handle.tidings_awaited asked.url awaited told⟩
    (final ▸ content)
  rw [told, events]
  rfl

/-- What is told until a record is made of a watch that has ended is in
order. -/
theorem Fetched.eventOrder
    {watch : Watch}
    (given : payload? transport plan.request journal = some payload)
    (reported :
      Service.reported?
          (submissionOutcome transport plan.request payload journal) =
        some reply)
    (follows :
      (submittedPolling transport plan journal payload).Follows
        (submittedWatch transport plan journal payload reply) queries
        (.ended watch))
    (ending :
      Fetched transport plan watch.journal watch.handle record fetched)
    (told : ended = fetched.tell (.complete record.taskId record.succeeded)) :
    EventOrder transport plan journal (some record) ended := by
  have still : ended.moment = fetched.moment := by rw [told]; rfl
  have files : ended.files = fetched.files := by rw [told]; rfl
  have now : ended.now = fetched.now := congrArg Moment.now still
  have made : ended.calls = fetched.calls := congrArg Moment.calls still
  obtain ⟨further, calls, asked⟩ := ending.calls_head
  obtain ⟨handle, course, taskId, status⟩ := follows.ended_course
  have replies :
      statusReplies transport plan journal ended =
        receivedBy transport watch.journal.now
          (submittedWatch transport plan journal payload reply).journal.calls
          queries := by
    rw [follows.statusReplies_eq (made.trans calls) asked
      (now ▸ ending.now_le.1), now]
    exact follows.receivedBy_fetched ending
  have completion :
      ended.events =
        fetched.events ++
          [.complete (some reply.snapshot.id) record.succeeded] := by
    rw [told, Journal.tell_events, ending.taskId, taskId]
  rcases ending.tells_content with
    ⟨events, kept, failed⟩ |
    ⟨location, response, completed, downloaded, kept, delivered⟩
  · refine course.eventOrder given reported replies ?_ (.unvalidated ?_ ?_)
    · rw [completion, events]
      simp
    · rintro _ ⟨⟩
      exact failed
    · rw [files, kept, follows.files]
  · have called :
        ended.calls =
          (afterSize transport plan location watch.journal).calls ++
            [⟨(afterSize transport plan location watch.journal).now,
              Service.download plan.request location⟩] := by
      rw [made, kept]
      rfl
    refine course.eventOrder given reported replies ?_
      (.validated rfl (status.trans completed) called downloaded ?_
        fun succeeded => (delivered succeeded).2)
    · rw [completion, kept, ← taskId]
      exact congrArg (· ++ _) (Journal.tell_events ..)
    · rw [files, kept, ← follows.files]
      rfl

/-- However a run goes, its events are in order. -/
theorem Performed.eventOrder
    {rounds : Nat}
    {record? : Option Record}
    (performed : Performed transport plan journal rounds record? ended) :
    EventOrder transport plan journal record? ended := by
  cases performed with
  | unloaded missing still told =>
      refine .unsubmitted (by simp [submittedHandle?, missing]) rfl ?_
      rw [told, Journal.tell_events, afterSource_events]
  | unreported given unreported still told =>
      refine .unsubmitted (by simp [submittedHandle?, given, unreported]) rfl ?_
      rw [told, Journal.tell_events, afterSubmission_events]
  | @watching _ _ watch given reported progress =>
      obtain ⟨queries, -, follows⟩ := Polling.follows_of_after_start progress
      have replies :=
        follows.statusReplies_eq (List.append_nil _).symm asked_of_nil
          (Nat.le_refl _)
      refine follows.1.eventOrder given reported replies (by simp)
        (.unvalidated
          (fun _ returned => absurd returned (Option.not_mem_none _)) ?_)
      rw [follows.1.files, submittedWatch_files]
  | fetched given reported progress ending still told =>
      obtain ⟨queries, -, follows⟩ := Polling.follows_of_after_start progress
      exact ending.eventOrder given reported follows told

end

end

/-- The events of every run are in order, after any number of status queries.
What holds of a run that has its record is what holds of a performed run. -/
theorem events_in_order
    [Url.NameConversion]
    (rounds : Nat)
    (transport : Transport)
    (plan : Plan)
    (journal : Journal) :
    EventOrder transport plan journal
        (performFor rounds transport plan journal).1
        (performFor rounds transport plan journal).2 ∧
      perform rounds transport plan journal =
        (performFor rounds transport plan journal).1.map
          (⟨·, (performFor rounds transport plan journal).2⟩) :=
  ⟨(performFor_performed transport plan journal rounds).eventOrder,
    perform_eq rounds transport plan journal⟩

end Run
end FieldOcr
