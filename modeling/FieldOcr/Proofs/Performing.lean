import FieldOcr.Proofs.Fetching
import FieldOcr.Proofs.Submitting
import FieldOcr.Proofs.Watching
import FieldOcr.Run.Perform

/-!
# How runs go

A run can be looked at after any number of status queries, also where it never
ends.  Its calls are those for the source, for the submission, for the status
of the task and for the result, in this order.
-/

namespace FieldOcr
namespace Run

open RemoteTask (Failure Handle)

variable [Url.NameConversion]

/-- A run after at most a number of status queries behind the first one: its
record, once there is one, and what has happened so far. -/
def performFor
    (rounds : Nat)
    (transport : Transport)
    (plan : Plan)
    (journal : Journal) : Option Record × Journal :=
  match submit transport plan.request journal with
  | (.error failure, submitted) =>
      let record := Record.unsubmitted failure
      (some record, (report record submitted).journal)
  | (.ok handle, submitted) =>
      let polling :=
        pollingFrom transport plan.request plan.options.poll submitted.now
      match polling.after rounds (polling.start ⟨handle, submitted⟩) with
      | .watching watch => (none, watch.journal)
      | .ended watch =>
          let (record, fetched) :=
            fetch transport plan watch.handle watch.journal
          (some record, (report record fetched).journal)

/-- A run is performed by a number of status queries exactly if it has its
record after them. -/
theorem perform_eq
    (rounds : Nat)
    (transport : Transport)
    (plan : Plan)
    (journal : Journal) :
    perform rounds transport plan journal =
      (performFor rounds transport plan journal).1.map
        (⟨·, (performFor rounds transport plan journal).2⟩) := by
  unfold perform performFor
  rcases submit transport plan.request journal with
    ⟨failure | handle, submitted⟩
  · rfl
  · simp only [awaitCompletion, Polling.finish_eq]
    cases
      (pollingFrom transport plan.request plan.options.poll
        submitted.now).after rounds
        ((pollingFrom transport plan.request plan.options.poll
          submitted.now).start ⟨handle, submitted⟩) with
    | watching watch => rfl
    | ended watch => rfl

/-- A run that has its record stays as it is. -/
theorem performFor_mono
    {rounds more : Nat}
    {transport : Transport}
    {plan : Plan}
    {journal : Journal}
    (done : (performFor rounds transport plan journal).1.isSome = true)
    (le : rounds ≤ more) :
    performFor more transport plan journal =
      performFor rounds transport plan journal := by
  revert done
  unfold performFor
  rcases submit transport plan.request journal with
    ⟨failure | handle, submitted⟩
  · exact fun _ => rfl
  · intro done
    cases reached :
        (pollingFrom transport plan.request plan.options.poll
          submitted.now).after rounds
          ((pollingFrom transport plan.request plan.options.poll
            submitted.now).start ⟨handle, submitted⟩) with
    | watching watch =>
        simp only [reached] at done
        exact nomatch done
    | ended watch =>
        simp only [reached, Polling.after_mono reached le]

/-- A run returns a report, after however many status queries. -/
def Returns
    (transport : Transport)
    (plan : Plan)
    (journal : Journal)
    (report : Report) : Prop :=
  ∃ rounds, perform rounds transport plan journal = some report

/-- A run returns a report exactly if it has its record after some number of
status queries. -/
theorem returns_iff
    {transport : Transport}
    {plan : Plan}
    {journal : Journal}
    {report : Report} :
    Returns transport plan journal report ↔
      ∃ rounds,
        performFor rounds transport plan journal =
          (some report.record, report.journal) := by
  obtain ⟨record, ended⟩ := report
  apply exists_congr
  intro rounds
  rw [perform_eq]
  rcases performFor rounds transport plan journal with ⟨record? | _, last⟩
  · simp
  · simp

/-- A run returns one report at most. -/
theorem Returns.unique
    {transport : Transport}
    {plan : Plan}
    {journal : Journal}
    {first second : Report}
    (firstReturned : Returns transport plan journal first)
    (secondReturned : Returns transport plan journal second) :
    first = second := by
  obtain ⟨rounds, reached⟩ := returns_iff.mp firstReturned
  obtain ⟨more, reachedAgain⟩ := returns_iff.mp secondReturned
  have same :
      performFor rounds transport plan journal =
        performFor more transport plan journal := by
    rcases Nat.le_total rounds more with le | le
    · exact (performFor_mono (by rw [reached]; rfl) le).symm
    · exact performFor_mono (by rw [reachedAgain]; rfl) le
  obtain ⟨record, ended⟩ := first
  rw [reached, reachedAgain] at same
  cases same
  rfl

section

variable
  (transport : Transport)
  (plan : Plan)
  (journal : Journal)

/-- The call that fetches the source of a task, if it is needed. -/
def sourceCalls : List Call :=
  (sourceRequest? plan.request).toList.map (⟨journal.now, ·⟩)

/-- The call that submits a payload. -/
def submissionCall (payload : List UInt8) : Call :=
  ⟨(afterSource transport plan.request journal).now,
    Service.submission plan.request payload⟩

/-- The watch of a task that was just submitted, and reported by a reply. -/
def submittedWatch (payload : List UInt8) (reply : Service.TaskReply) : Watch :=
  ⟨.ofSubmission reply.snapshot reply.statusCode,
    (afterSubmission transport plan.request payload journal).tell
      (.submitted reply.snapshot.id)⟩

/-- The polling of a task that was just submitted. -/
def submittedPolling (payload : List UInt8) : Polling :=
  pollingFrom transport plan.request plan.options.poll
    (afterSubmission transport plan.request payload journal).now

/-- The ways in which a run goes, up to a number of status queries. -/
inductive Performed (rounds : Nat) : Option Record -> Journal -> Prop
  | unloaded {detail : String} {ended : Journal}
      (missing : payload? transport plan.request journal = none)
      (still :
        ended.moment = (afterSource transport plan.request journal).moment)
      (told :
        ended =
          (afterSource transport plan.request journal).tell
            (.complete none false)) :
      Performed rounds
        (some
          (.unsubmitted (.sourceUnreadable plan.request.source detail)))
        ended
  | unreported {payload : List UInt8} {message : String} {ended : Journal}
      (given : payload? transport plan.request journal = some payload)
      (unreported :
        Service.reported?
            (submissionOutcome transport plan.request payload journal) =
          none)
      (still :
        ended.moment =
          (afterSubmission transport plan.request payload journal).moment)
      (told :
        ended =
          (afterSubmission transport plan.request payload journal).tell
            (.complete none false)) :
      Performed rounds
        (some
          (.unsubmitted
            (.submission
              (submissionOutcome transport plan.request payload
                journal).statusCode?
              message)))
        ended
  | watching
      {payload : List UInt8}
      {reply : Service.TaskReply}
      {watch : Watch}
      (given : payload? transport plan.request journal = some payload)
      (reported :
        Service.reported?
            (submissionOutcome transport plan.request payload journal) =
          some reply)
      (progress :
        (submittedPolling transport plan journal payload).after rounds
            ((submittedPolling transport plan journal payload).start
              (submittedWatch transport plan journal payload reply)) =
          .watching watch) :
      Performed rounds none watch.journal
  | fetched
      {payload : List UInt8}
      {reply : Service.TaskReply}
      {watch : Watch}
      {record : Record}
      {fetched ended : Journal}
      (given : payload? transport plan.request journal = some payload)
      (reported :
        Service.reported?
            (submissionOutcome transport plan.request payload journal) =
          some reply)
      (progress :
        (submittedPolling transport plan journal payload).after rounds
            ((submittedPolling transport plan journal payload).start
              (submittedWatch transport plan journal payload reply)) =
          .ended watch)
      (ending :
        Fetched transport plan watch.journal watch.handle record fetched)
      (still : ended.moment = fetched.moment)
      (told :
        ended = fetched.tell (.complete record.taskId record.succeeded)) :
      Performed rounds (some record) ended

/-- A run goes in one of its ways, at any time. -/
theorem performFor_performed (rounds : Nat) :
    Performed transport plan journal rounds
      (performFor rounds transport plan journal).1
      (performFor rounds transport plan journal).2 := by
  unfold performFor
  rcases submit_cases transport plan.request journal with
    ⟨detail, missing, submitted⟩ |
    ⟨payload, message, given, unreported, submitted⟩ |
    ⟨payload, reply, given, reported, submitted⟩
  · rw [submitted]
    exact .unloaded missing rfl rfl
  · rw [submitted]
    exact .unreported given unreported rfl rfl
  · rw [submitted]
    simp only [Journal.tell_now]
    split
    · next watch progress => exact .watching given reported progress
    · next watch progress =>
        exact .fetched given reported progress
          (fetch_fetched transport plan watch.handle watch.journal) rfl rfl

end

/-- A run that returns has gone in one of its ways. -/
theorem Returns.performed
    {transport : Transport}
    {plan : Plan}
    {journal : Journal}
    {report : Report}
    (returned : Returns transport plan journal report) :
    ∃ rounds,
      Performed transport plan journal rounds (some report.record)
        report.journal := by
  obtain ⟨rounds, reached⟩ := returns_iff.mp returned
  have ways := performFor_performed transport plan journal rounds
  rw [reached] at ways
  exact ⟨rounds, ways⟩

section

variable
  (transport : Transport)
  (plan : Plan)
  (journal : Journal)
  (payload : List UInt8)

theorem afterSource_calls :
    (afterSource transport plan.request journal).calls =
      journal.calls ++ sourceCalls plan journal := by
  unfold afterSource sourceCalls
  cases sourceRequest? plan.request <;> simp

theorem afterSubmission_calls :
    (afterSubmission transport plan.request payload journal).calls =
      journal.calls ++ sourceCalls plan journal ++
        [submissionCall transport plan journal payload] := by
  unfold afterSubmission
  rw [Journal.answered_calls, afterSource_calls]
  rfl

theorem submittedWatch_calls (reply : Service.TaskReply) :
    (submittedWatch transport plan journal payload reply).journal.calls =
      journal.calls ++ sourceCalls plan journal ++
        [submissionCall transport plan journal payload] :=
  afterSubmission_calls transport plan journal payload

/-! No file is touched before a result is stored. -/

theorem afterSource_files :
    (afterSource transport plan.request journal).files = journal.files := by
  unfold afterSource
  cases sourceRequest? plan.request <;> rfl

theorem afterSubmission_files :
    (afterSubmission transport plan.request payload journal).files =
      journal.files := by
  rw [afterSubmission, Journal.answered_files, afterSource_files]

theorem submittedWatch_files (reply : Service.TaskReply) :
    (submittedWatch transport plan journal payload reply).journal.files =
      journal.files :=
  afterSubmission_files transport plan journal payload

/-! Nothing is told before a task is submitted. -/

theorem afterSource_events :
    (afterSource transport plan.request journal).events = journal.events := by
  unfold afterSource
  cases sourceRequest? plan.request <;> rfl

theorem afterSubmission_events :
    (afterSubmission transport plan.request payload journal).events =
      journal.events := by
  rw [afterSubmission, Journal.answered_events, afterSource_events]

theorem submittedWatch_events (reply : Service.TaskReply) :
    (submittedWatch transport plan journal payload reply).journal.events =
      journal.events ++ [.submitted reply.snapshot.id] := by
  rw [submittedWatch, Journal.tell_events, afterSubmission_events]

theorem allArrived_submissionCall :
    AllArrived transport
      (afterSubmission transport plan.request payload journal).now
      (journal.calls ++ sourceCalls plan journal)
      [submissionCall transport plan journal payload] := by
  rw [← afterSource_calls transport]
  exact allArrived_answered transport _
    (afterSource transport plan.request journal).moment

/-- The outcome of the submission is received when it was waited for. -/
theorem receivedBy_submissionCall :
    receivedBy transport
        (afterSubmission transport plan.request payload journal).now
        (journal.calls ++ sourceCalls plan journal)
        [submissionCall transport plan journal payload] =
      [submissionOutcome transport plan.request payload journal] := by
  rw [← afterSource_calls transport]
  exact receivedBy_answered transport _
    (afterSource transport plan.request journal).moment

/-- Once the submission is over, its outcome is received in front of those of
the calls behind it. -/
theorem receivedBy_task
    {now : Nat}
    {further : List Call}
    (later :
      (afterSubmission transport plan.request payload journal).now ≤ now) :
    receivedBy transport now (journal.calls ++ sourceCalls plan journal)
        ([submissionCall transport plan journal payload] ++ further) =
      submissionOutcome transport plan.request payload journal ::
        receivedBy transport now
          (journal.calls ++ sourceCalls plan journal ++
            [submissionCall transport plan journal payload])
          further := by
  rw [receivedBy_append,
    (allArrived_submissionCall transport plan journal
      payload).receivedBy_eq later,
    receivedBy_submissionCall]
  rfl

end

section

variable
  {transport : Transport}
  {plan : Plan}
  {handle : Handle}
  {journal fetched : Journal}

omit [Url.NameConversion] in
theorem FetchedFrom.now_le
    {location : Url}
    {result : Except Abort Record}
    (ending :
      FetchedFrom transport plan location journal handle result fetched) :
    journal.now ≤ fetched.now := by
  have size :
      journal.now ≤ (afterSize transport plan location journal).now :=
    Nat.le_add_right ..
  have download :
      journal.now ≤ (afterDownload transport plan location journal).now :=
    Nat.le_trans size (Nat.le_add_right ..)
  cases ending with
  | tooLarge | sizeUnavailable => exact size
  | downloadFailed | rejected => exact download
  | unwritten _ _ _ _ _ _ still | delivered _ _ _ _ still =>
      have now : fetched.now = _ := congrArg Moment.now still
      rw [now]
      exact download

omit [Url.NameConversion] in
/-- Fetching takes its time, and only what is completed is fetched. -/
theorem Fetched.now_le
    {record : Record}
    (ending : Fetched transport plan journal handle record fetched) :
    journal.now ≤ fetched.now ∧
      (handle.status ≠ .completed -> fetched.now = journal.now) := by
  cases ending with
  | stopped | givenUp | unfinished | unlocated =>
      exact ⟨Nat.le_refl _, fun _ => rfl⟩
  | fetched completed _ ended =>
      exact ⟨ended.now_le, fun incomplete => absurd completed incomplete⟩

/-- The status queries of a task follow its submission. -/
theorem Polling.Follows.calls
    {payload : List UInt8}
    {reply : Service.TaskReply}
    {queries : List Call}
    {progress : Progress}
    (follows :
      (submittedPolling transport plan journal payload).Follows
        (submittedWatch transport plan journal payload reply) queries
        progress) :
    progress.watch.journal.calls =
      journal.calls ++ sourceCalls plan journal ++
        [submissionCall transport plan journal payload] ++ queries := by
  obtain ⟨handle, course⟩ := follows.course
  rw [course.calls, submittedWatch_calls]

/-- What a watch that has ended received is all that its queries bring until
the fetch has ended as well. -/
theorem Polling.Follows.receivedBy_fetched
    {polling : Polling}
    {origin watch : Watch}
    {queries : List Call}
    {record : Record}
    (follows : polling.Follows origin queries (.ended watch))
    (ending :
      Fetched transport plan watch.journal watch.handle record fetched) :
    receivedBy polling.transport fetched.now origin.journal.calls queries =
      receivedBy polling.transport watch.journal.now origin.journal.calls
        queries := by
  obtain ⟨handle, -, ⟨-, -, arrived⟩ | ⟨givenUp, unfinished⟩⟩ := follows
  · exact arrived.receivedBy_eq ending.now_le.1
  · have incomplete : watch.handle.status ≠ .completed := by
      intro completed
      rw [givenUp] at completed
      rw [show handle.status = .completed from completed] at unfinished
      exact nomatch unfinished
    rw [ending.now_le.2 incomplete]

/-- The handle of a watch that has ended follows from what is received until
the fetch has ended as well. -/
theorem Polling.Follows.received
    {polling : Polling}
    {origin watch : Watch}
    {queries : List Call}
    {record : Record}
    (follows : polling.Follows origin queries (.ended watch))
    (ending :
      Fetched transport plan watch.journal watch.handle record fetched) :
    ∃ timedOut,
      watch.handle =
        { origin.handle.afterOutcomes
            (receivedBy polling.transport fetched.now origin.journal.calls
              queries) with
          timedOut := timedOut } := by
  rw [follows.receivedBy_fetched ending]
  obtain ⟨handle, course, ⟨same, -, -⟩ | ⟨givenUp, -⟩⟩ := follows
  · exact ⟨handle.timedOut, by rw [same, ← course.handle]⟩
  · exact ⟨true, by rw [givenUp, ← course.handle]; rfl⟩

end

end Run
end FieldOcr
