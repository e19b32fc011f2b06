import FieldOcr.Proofs.Transcript
import FieldOcr.Run.Polling
import Mathlib.Data.List.Induction

/-!
# Watching a task

Watching a task that has no terminal status yet only adds status queries of
this task to the calls.  The handle that it leaves is the handle in front of
it after the received outcomes of these queries, in their order; it is marked
as given up exactly where its status is still not terminal.  An observer is
told one event for each of these outcomes.
-/

namespace FieldOcr

variable [Url.NameConversion]

namespace RemoteTask

/-- A handle after the outcome of a status query. -/
def Handle.afterOutcome (handle : Handle) (outcome : Http.Outcome) : Handle :=
  match Service.reported? outcome with
  | some reply => handle.advance reply.snapshot reply.statusCode
  | none => handle.recordStatusCode outcome.statusCode?

/-- A handle after the outcomes of some status queries. -/
def Handle.afterOutcomes
    (handle : Handle)
    (outcomes : List Http.Outcome) : Handle :=
  outcomes.foldl Handle.afterOutcome handle

namespace Handle

omit [Url.NameConversion] in
@[simp] theorem advance_taskId
    (handle : Handle)
    (snapshot : Snapshot)
    (code : Nat) :
    (handle.advance snapshot code).taskId = handle.taskId := by
  unfold advance
  split <;> rfl

omit [Url.NameConversion] in
@[simp] theorem advance_lastStatusCode
    (handle : Handle)
    (snapshot : Snapshot)
    (code : Nat) :
    (handle.advance snapshot code).lastStatusCode = some code := by
  unfold advance
  split <;> rfl

@[simp] theorem afterOutcome_taskId
    (handle : Handle)
    (outcome : Http.Outcome) :
    (handle.afterOutcome outcome).taskId = handle.taskId := by
  unfold afterOutcome
  split
  · exact advance_taskId ..
  · rfl

/-- Whatever becomes of a query, its status code is the last one if it has
one. -/
theorem afterOutcome_lastStatusCode
    (handle : Handle)
    (outcome : Http.Outcome) :
    (handle.afterOutcome outcome).lastStatusCode =
      outcome.statusCode?.or handle.lastStatusCode := by
  unfold afterOutcome
  split
  · next reply reported =>
      rw [advance_lastStatusCode, Service.statusCode?_of_reported? reported]
      rfl
  · rfl

@[simp] theorem afterOutcomes_nil (handle : Handle) :
    handle.afterOutcomes [] = handle := rfl

theorem afterOutcomes_append
    (handle : Handle)
    (first second : List Http.Outcome) :
    handle.afterOutcomes (first ++ second) =
      (handle.afterOutcomes first).afterOutcomes second :=
  List.foldl_append

@[simp] theorem afterOutcomes_singleton
    (handle : Handle)
    (outcome : Http.Outcome) :
    handle.afterOutcomes [outcome] = handle.afterOutcome outcome := rfl

@[simp] theorem afterOutcomes_taskId
    (handle : Handle)
    (outcomes : List Http.Outcome) :
    (handle.afterOutcomes outcomes).taskId = handle.taskId := by
  induction outcomes generalizing handle with
  | nil => rfl
  | cons outcome outcomes inductionHypothesis =>
      exact (inductionHypothesis _).trans (afterOutcome_taskId handle outcome)

/-- The last status code of a handle is that of the last response among the
outcomes, or else the one it had. -/
theorem afterOutcomes_lastStatusCode
    (handle : Handle)
    (outcomes : List Http.Outcome) :
    (handle.afterOutcomes outcomes).lastStatusCode =
      (Run.statusCodes outcomes).getLast?.or handle.lastStatusCode := by
  induction outcomes using List.reverseRecOn with
  | nil => simp
  | append_singleton outcomes outcome inductionHypothesis =>
      rw [afterOutcomes_append, afterOutcomes_singleton,
        afterOutcome_lastStatusCode, inductionHypothesis,
        Run.statusCodes_append, Run.statusCodes_singleton,
        Run.getLast?_append_toList, Option.or_assoc]

/-- What an observer is told of the outcome of a status query. -/
def tiding (handle : Handle) (url : Url) (outcome : Http.Outcome) : Run.Event :=
  match Service.readTaskReply url outcome with
  | .ok _ =>
      .status handle.taskId (handle.afterOutcome outcome).status
  | .error fault =>
      .pollFault handle.taskId (Run.pollFailure handle.taskId fault).message

/-- What an observer is told of the outcomes of some status queries, given the
handle in front of them. -/
def tidings (url : Url) : Handle -> List Http.Outcome -> List Run.Event
  | _, [] => []
  | handle, outcome :: later =>
      handle.tiding url outcome ::
        tidings url (handle.afterOutcome outcome) later

/-- No outcome of a status query comes behind a terminal status. -/
def Awaits : Handle -> List Http.Outcome -> Prop
  | _, [] => True
  | handle, outcome :: later =>
      handle.status.isTerminal = false ∧
        Awaits (handle.afterOutcome outcome) later

theorem tidings_concat
    (url : Url)
    (handle : Handle)
    (outcomes : List Http.Outcome)
    (last : Http.Outcome) :
    tidings url handle (outcomes ++ [last]) =
      tidings url handle outcomes ++
        [(handle.afterOutcomes outcomes).tiding url last] := by
  induction outcomes generalizing handle with
  | nil => rfl
  | cons outcome outcomes inductionHypothesis =>
      simp only [List.cons_append, tidings, inductionHypothesis]
      rfl

theorem awaits_concat_iff
    {handle : Handle}
    {outcomes : List Http.Outcome}
    {last : Http.Outcome} :
    handle.Awaits (outcomes ++ [last]) ↔
      handle.Awaits outcomes ∧
        (handle.afterOutcomes outcomes).status.isTerminal = false := by
  induction outcomes generalizing handle with
  | nil => simp [Awaits]
  | cons outcome outcomes inductionHypothesis =>
      simp only [List.cons_append, Awaits, inductionHypothesis, and_assoc]
      rfl

end Handle
end RemoteTask

namespace Run

open RemoteTask (Handle)

/-! ## Progress of a watch -/

namespace Watch

/-- Observing an outcome tells an event and takes the handle on. -/
theorem observe_handle (watch : Watch) (url : Url) (outcome : Http.Outcome) :
    (watch.observe url outcome).handle =
      watch.handle.afterOutcome outcome := by
  unfold observe Handle.afterOutcome
  rcases Service.readTaskReply_cases url outcome with
    ⟨reply, reported, read⟩ | ⟨fault, unreported, code, read⟩
  · rw [read, reported]
  · rw [read, unreported, ← code]

theorem observe_journal (watch : Watch) (url : Url) (outcome : Http.Outcome) :
    (watch.observe url outcome).journal =
      watch.journal.tell (watch.handle.tiding url outcome) := by
  unfold observe Handle.tiding Handle.afterOutcome
  rcases Service.readTaskReply_cases url outcome with
    ⟨reply, reported, read⟩ | ⟨fault, -, -, read⟩
  · rw [read, reported]
    simp only [Handle.advance_taskId]
  · rw [read]

end Watch

/-- The watch that a progress has come to. -/
def Progress.watch : Progress -> Watch
  | .watching watch | .ended watch => watch

namespace Polling

/-- How a watch stands after at most a number of further queries. -/
def after (polling : Polling) : Nat -> Progress -> Progress
  | 0, progress => progress
  | _ + 1, .ended watch => .ended watch
  | rounds + 1, .watching watch => polling.after rounds (polling.next watch)

@[simp] theorem after_ended
    (polling : Polling)
    (rounds : Nat)
    (watch : Watch) :
    polling.after rounds (.ended watch) = .ended watch := by
  cases rounds <;> rfl

/-- A watch is finished by a number of queries exactly if it has ended after
them. -/
theorem finish_eq
    (polling : Polling)
    (rounds : Nat)
    (progress : Progress) :
    polling.finish rounds progress =
      match polling.after rounds progress with
      | .ended watch => some watch
      | .watching _ => none := by
  induction rounds generalizing progress with
  | zero => cases progress <;> rfl
  | succ rounds inductionHypothesis =>
      cases progress with
      | ended watch => rfl
      | watching watch => exact inductionHypothesis _

/-- A watch that has ended stays as it is. -/
theorem after_mono
    {polling : Polling}
    {rounds more : Nat}
    {progress : Progress}
    {watch : Watch}
    (ended : polling.after rounds progress = .ended watch)
    (le : rounds ≤ more) :
    polling.after more progress = .ended watch := by
  induction rounds generalizing progress more with
  | zero =>
      rw [show progress = .ended watch from ended, after_ended]
  | succ rounds inductionHypothesis =>
      cases progress with
      | ended other =>
          rw [after_ended] at ended ⊢
          exact ended
      | watching other =>
          cases more with
          | zero => omega
          | succ more =>
              exact @inductionHypothesis more (polling.next other) ended
                (Nat.le_of_succ_le_succ le)

/-- What every further query preserves holds after any number of them. -/
theorem after_induction
    {polling : Polling}
    (property : Progress -> Prop)
    (step : ∀ watch,
      property (.watching watch) -> property (polling.next watch))
    (rounds : Nat)
    {progress : Progress}
    (start : property progress) :
    property (polling.after rounds progress) := by
  induction rounds generalizing progress with
  | zero => exact start
  | succ rounds inductionHypothesis =>
      cases progress with
      | ended watch => exact start
      | watching watch => exact inductionHypothesis (step watch start)

/-- The request for the status of the task that a watch is about. -/
def nextQuery (polling : Polling) (watch : Watch) : Http.Request :=
  Service.statusQuery polling.request watch.handle.taskId

/-- What comes of the next query. -/
def nextOutcome (polling : Polling) (watch : Watch) : Http.Outcome :=
  watch.journal.moment.outcome polling.transport (polling.nextQuery watch)

/-- A watch after one more query whose outcome was waited for. -/
def observed (polling : Polling) (watch : Watch) : Watch :=
  Watch.observe
    ⟨watch.handle,
      watch.journal.answered polling.transport (polling.nextQuery watch)⟩
    (polling.nextQuery watch).url (polling.nextOutcome watch)

theorem observed_handle (polling : Polling) (watch : Watch) :
    (polling.observed watch).handle =
      watch.handle.afterOutcome (polling.nextOutcome watch) :=
  Watch.observe_handle ..

theorem observed_journal (polling : Polling) (watch : Watch) :
    (polling.observed watch).journal =
      (watch.journal.answered polling.transport
        (polling.nextQuery watch)).tell
          (watch.handle.tiding (polling.nextQuery watch).url
            (polling.nextOutcome watch)) :=
  Watch.observe_journal ..

theorem observed_moment (polling : Polling) (watch : Watch) :
    (polling.observed watch).journal.moment =
      watch.journal.moment.answered polling.transport
        (polling.nextQuery watch) := by
  rw [observed_journal]
  rfl

theorem observed_now (polling : Polling) (watch : Watch) :
    (polling.observed watch).journal.now =
      watch.journal.now +
        (polling.transport watch.journal.calls
          (polling.nextQuery watch)).delay :=
  congrArg Moment.now (polling.observed_moment watch)

theorem query_eq (polling : Polling) (watch : Watch) :
    polling.query watch = polling.settle (polling.observed watch) := rfl

/-- A query with a deadline is observed if its outcome arrives in time, and
otherwise dropped at the deadline. -/
theorem queryBy_eq (polling : Polling) (deadline : Nat) (watch : Watch) :
    polling.queryBy deadline watch =
      if (polling.observed watch).journal.now ≤ deadline then
        polling.settle (polling.observed watch)
      else
        .ended
          (Watch.giveUp
            ⟨watch.handle,
              (watch.journal.send (polling.nextQuery watch)).waitUntil
                deadline⟩) := by
  rw [observed_now]
  unfold queryBy
  simp only [exchangeBy_eq, Journal.answered_now]
  by_cases inTime :
      watch.journal.now +
        (polling.transport watch.journal.calls
          (polling.nextQuery watch)).delay ≤ deadline
  · rw [if_pos inTime]
    have taken := inTime
    unfold nextQuery at taken
    simp only [taken, if_true]
    rfl
  · rw [if_neg inTime]
    have passed := inTime
    unfold nextQuery at passed
    simp only [passed, if_false]
    rfl

/-- Some queries have taken a watch from one state to another. -/
structure Course
    (polling : Polling)
    (origin : Watch)
    (queries : List Call)
    (watch : Watch) : Prop where
  /-- The queries are the only calls. -/
  calls : watch.journal.calls = origin.journal.calls ++ queries
  /-- Each of them asks for the status of the task. -/
  requests : ∀ call ∈ queries, call.request = polling.nextQuery origin
  /-- No file is touched. -/
  files : watch.journal.files = origin.journal.files
  /-- Time does not go back. -/
  clock : origin.journal.now ≤ watch.journal.now
  /-- The handle follows from the received outcomes. -/
  handle :
    watch.handle =
      origin.handle.afterOutcomes
        (receivedBy polling.transport watch.journal.now origin.journal.calls
          queries)
  /-- Each received outcome was told. -/
  events :
    watch.journal.events =
      origin.journal.events ++
        Handle.tidings (polling.nextQuery origin).url origin.handle
          (receivedBy polling.transport watch.journal.now origin.journal.calls
            queries)
  /-- None of them came behind a terminal status. -/
  awaited :
    origin.handle.Awaits
      (receivedBy polling.transport watch.journal.now origin.journal.calls
        queries)

/-- How a progress depends on the queries that led to it.  A watch that goes
on has received every outcome, and so has one that ended with a terminal
status. -/
def Follows
    (polling : Polling)
    (origin : Watch)
    (queries : List Call) : Progress -> Prop
  | .watching watch =>
      polling.Course origin queries watch ∧
        AllArrived polling.transport watch.journal.now origin.journal.calls
          queries ∧
        watch.handle.status.isTerminal = false ∧
        polling.isOver watch.journal.now = false
  | .ended watch =>
      ∃ handle,
        polling.Course origin queries ⟨handle, watch.journal⟩ ∧
          ((watch.handle = handle ∧ handle.status.isTerminal = true ∧
              AllArrived polling.transport watch.journal.now
                origin.journal.calls queries) ∨
            (watch.handle = handle.markTimedOut ∧
              handle.status.isTerminal = false))

variable {polling : Polling} {origin watch : Watch} {queries : List Call}

/-- Whatever a watch has come to, its queries have taken it there. -/
theorem Follows.course
    {progress : Progress}
    (follows : polling.Follows origin queries progress) :
    ∃ handle,
      polling.Course origin queries ⟨handle, progress.watch.journal⟩ := by
  cases progress with
  | watching watch => exact ⟨watch.handle, follows.1⟩
  | ended watch =>
      obtain ⟨handle, course, -⟩ := follows
      exact ⟨handle, course⟩

/-- Every watch of a course is about the same task. -/
theorem Course.nextQuery_eq (course : polling.Course origin queries watch) :
    polling.nextQuery watch = polling.nextQuery origin := by
  unfold nextQuery
  rw [course.handle, Handle.afterOutcomes_taskId]

/-- One more query to the same task adds its call to those of a course. -/
theorem Course.requests_append
    (course : polling.Course origin queries watch)
    (time : Nat) :
    ∀ call ∈ queries ++ [⟨time, polling.nextQuery watch⟩],
      call.request = polling.nextQuery origin := by
  intro call present
  rcases List.mem_append.mp present with old | new
  · exact course.requests call old
  · rw [List.mem_singleton.mp new]
    exact course.nextQuery_eq

/-- A settled watch follows from its queries. -/
theorem Course.settle
    (course : polling.Course origin queries watch)
    (arrived :
      AllArrived polling.transport watch.journal.now origin.journal.calls
        queries) :
    polling.Follows origin queries (polling.settle watch) := by
  unfold Polling.settle
  by_cases terminal : watch.handle.status.isTerminal = true
  · rw [if_pos terminal]
    exact ⟨watch.handle, course, Or.inl ⟨rfl, terminal, arrived⟩⟩
  · rw [if_neg terminal]
    rw [Bool.not_eq_true] at terminal
    by_cases late : polling.isOver watch.journal.now = true
    · rw [if_pos late]
      exact ⟨watch.handle, course, Or.inr ⟨rfl, terminal⟩⟩
    · rw [if_neg late]
      rw [Bool.not_eq_true] at late
      exact ⟨course, arrived, terminal, late⟩

/-- Waiting changes nothing but the time once all outcomes are received. -/
theorem Course.waitUntil
    (course : polling.Course origin queries watch)
    (arrived :
      AllArrived polling.transport watch.journal.now origin.journal.calls
        queries)
    {time : Nat}
    (later : watch.journal.now ≤ time) :
    polling.Course origin queries
      ⟨watch.handle, watch.journal.waitUntil time⟩ where
  calls := course.calls
  requests := course.requests
  files := course.files
  clock := Nat.le_trans course.clock later
  handle := by
    rw [course.handle]
    exact congrArg _ (arrived.receivedBy_eq later).symm
  events :=
    course.events.trans
      (congrArg _ (congrArg _ (arrived.receivedBy_eq later).symm))
  awaited :=
    Eq.subst (motive := origin.handle.Awaits)
      (arrived.receivedBy_eq later).symm course.awaited

/-- One more query whose outcome is waited for. -/
theorem Course.observed
    (course : polling.Course origin queries watch)
    (arrived :
      AllArrived polling.transport watch.journal.now origin.journal.calls
        queries)
    (unfinished : watch.handle.status.isTerminal = false) :
    let extended := queries ++ [⟨watch.journal.now, polling.nextQuery watch⟩]
    polling.Course origin extended (polling.observed watch) ∧
      AllArrived polling.transport (polling.observed watch).journal.now
        origin.journal.calls extended := by
  intro extended
  have later : watch.journal.now ≤ (polling.observed watch).journal.now := by
    rw [observed_now]
    exact Nat.le_add_right ..
  have lastArrived :
      AllArrived polling.transport (polling.observed watch).journal.now
        (origin.journal.calls ++ queries)
        [⟨watch.journal.now, polling.nextQuery watch⟩] := by
    rw [observed_now, ← course.calls]
    exact allArrived_answered polling.transport _ watch.journal.moment
  have lastReceived :
      receivedBy polling.transport (polling.observed watch).journal.now
          (origin.journal.calls ++ queries)
          [⟨watch.journal.now, polling.nextQuery watch⟩] =
        [polling.nextOutcome watch] := by
    rw [observed_now, ← course.calls]
    exact receivedBy_answered polling.transport _ watch.journal.moment
  have received :
      receivedBy polling.transport (polling.observed watch).journal.now
          origin.journal.calls extended =
        receivedBy polling.transport watch.journal.now origin.journal.calls
            queries ++
          [polling.nextOutcome watch] := by
    rw [receivedBy_append, arrived.receivedBy_eq later, lastReceived]
  refine ⟨⟨?_, course.requests_append _, ?_,
    Nat.le_trans course.clock later, ?_, ?_, ?_⟩,
    (allArrived_append ..).mpr ⟨arrived.mono later, lastArrived⟩⟩
  · rw [observed_journal, Journal.tell_calls, Journal.answered_calls,
      course.calls, List.append_assoc]
  · rw [observed_journal, Journal.tell_files, Journal.answered_files,
      course.files]
  · rw [observed_handle, received, Handle.afterOutcomes_append,
      ← course.handle, Handle.afterOutcomes_singleton]
  · rw [received, observed_journal, Journal.tell_events,
      Journal.answered_events, course.events, Handle.tidings_concat,
      ← course.handle, course.nextQuery_eq, List.append_assoc]
  · rw [received, Handle.awaits_concat_iff, ← course.handle]
    exact ⟨course.awaited, unfinished⟩

/-- A query that is dropped at the deadline leaves no outcome behind. -/
theorem Course.dropped
    (course : polling.Course origin queries watch)
    (arrived :
      AllArrived polling.transport watch.journal.now origin.journal.calls
        queries)
    {deadline : Nat}
    (inTime : watch.journal.now ≤ deadline)
    (late : ¬(polling.observed watch).journal.now ≤ deadline) :
    polling.Course origin
      (queries ++ [⟨watch.journal.now, polling.nextQuery watch⟩])
      ⟨watch.handle,
        (watch.journal.send (polling.nextQuery watch)).waitUntil deadline⟩ := by
  have unanswered :
      receivedBy polling.transport deadline
        (origin.journal.calls ++ queries)
        [⟨watch.journal.now, polling.nextQuery watch⟩] = [] := by
    rw [observed_now] at late
    rw [← course.calls]
    simp only [receivedBy, late, if_false, List.append_nil]
  have received :
      receivedBy polling.transport deadline origin.journal.calls
          (queries ++ [⟨watch.journal.now, polling.nextQuery watch⟩]) =
        receivedBy polling.transport watch.journal.now origin.journal.calls
          queries := by
    rw [receivedBy_append, unanswered, List.append_nil,
      arrived.receivedBy_eq inTime]
  refine ⟨?_, course.requests_append _, course.files,
    Nat.le_trans course.clock inTime, ?_, ?_, ?_⟩
  · change watch.journal.calls ++ _ = _
    rw [course.calls, List.append_assoc]
  · exact course.handle.trans (congrArg _ received.symm)
  · exact course.events.trans (congrArg _ (congrArg _ received.symm))
  · change
      origin.handle.Awaits (receivedBy polling.transport deadline _ _)
    rw [received]
    exact course.awaited

/-- Going on with a watch adds queries of its task to the calls. -/
theorem Follows.next
    (follows : polling.Follows origin queries (.watching watch)) :
    ∃ further,
      polling.Follows origin (queries ++ further) (polling.next watch) := by
  obtain ⟨course, arrived, unfinished, early⟩ := follows
  have tick : watch.journal.now ≤ watch.journal.now + polling.interval :=
    Nat.le_add_right ..
  have waited := course.waitUntil arrived tick
  have stillArrived := arrived.mono tick
  obtain ⟨extended, allArrived⟩ := waited.observed stillArrived unfinished
  unfold Polling.next
  cases limit : polling.deadline with
  | none => exact ⟨_, extended.settle allArrived⟩
  | some deadline =>
      by_cases inTime : watch.journal.now + polling.interval ≤ deadline
      · simp only [inTime, if_true]
        rw [queryBy_eq]
        split
        · exact ⟨_, extended.settle allArrived⟩
        · next late =>
            exact ⟨_, watch.handle, waited.dropped stillArrived inTime late,
              Or.inr ⟨rfl, unfinished⟩⟩
      · simp only [inTime, if_false]
        have before : watch.journal.now ≤ deadline := by
          simp only [Polling.isOver, limit, decide_eq_false_iff_not] at early
          omega
        refine ⟨[], watch.handle, ?_, Or.inr ⟨rfl, unfinished⟩⟩
        rw [List.append_nil]
        exact course.waitUntil arrived before

/-- Watching a task for any number of queries follows from these queries.
There is none exactly if the task has a terminal status before. -/
theorem follows_of_after_start
    {polling : Polling}
    {origin : Watch}
    {rounds : Nat}
    {progress : Progress}
    (reached : polling.after rounds (polling.start origin) = progress) :
    ∃ queries,
      (queries = [] ↔ origin.handle.status.isTerminal = true) ∧
        polling.Follows origin queries progress := by
  subst reached
  have atRest : polling.Course origin [] origin :=
    ⟨by simp, by simp, rfl, Nat.le_refl _, rfl, by simp [Handle.tidings],
      trivial⟩
  unfold Polling.start
  by_cases terminal : origin.handle.status.isTerminal = true
  · refine ⟨[], by simp [terminal], ?_⟩
    rw [if_pos terminal, after_ended]
    exact ⟨origin.handle, atRest, Or.inl ⟨rfl, terminal, trivial⟩⟩
  · obtain ⟨first, allArrived⟩ :=
      atRest.observed trivial (Bool.eq_false_iff.mpr terminal)
    rw [if_neg terminal, query_eq]
    refine after_induction
      (fun progress =>
        ∃ queries,
          (queries = [] ↔ origin.handle.status.isTerminal = true) ∧
            polling.Follows origin queries progress)
      ?_ rounds ⟨_, by simp [terminal], first.settle allArrived⟩
    rintro watch ⟨queries, first, follows⟩
    obtain ⟨further, extended⟩ := follows.next
    have nonempty : queries ≠ [] := fun empty => terminal (first.mp empty)
    exact ⟨queries ++ further, by simp [nonempty, terminal], extended⟩

end Polling
end Run
end FieldOcr
