import FieldOcr.Proofs.Performing
import FieldOcr.Proofs.Settling

/-!
# Delivery

A run succeeds exactly if everything happens that a delivery takes: the source
is loaded, the task is submitted and completed in time with an address, the
announced size passes, and the download passes and is stored.
-/

namespace FieldOcr
namespace Run

open RemoteTask (Failure Handle)

variable [Url.NameConversion]

/-- All that has to happen for a validated result. -/
structure Delivery
    (transport : Transport)
    (plan : Plan)
    (journal : Journal) where
  /-- The payload of the task. -/
  payload : List UInt8
  /-- The source gives the payload, which is not empty. -/
  loaded : payload? transport plan.request journal = some payload
  /-- The task that the submission starts. -/
  reply : Service.TaskReply
  /-- The submission is answered by success, with a readable task. -/
  reported :
    Service.reported?
        (submissionOutcome transport plan.request payload journal) =
      some reply
  /-- The task as it was last observed. -/
  handle : Handle
  /-- The moment at which it was last observed. -/
  moment : Moment
  /-- The observations that count bring the task to a terminal status. -/
  finished :
    (submittedPolling transport plan journal payload).Finishes
      (.ofSubmission reply.snapshot reply.statusCode)
      (afterSubmission transport plan.request payload journal).moment
      handle moment
  /-- This status is success. -/
  completed : handle.status = .completed
  /-- The first address of the result. -/
  location : Url
  /-- The result has an address. -/
  located : handle.resultUrls.head? = some location
  /-- The announced size of the result. -/
  bytes : Nat
  /-- The size query is answered by success, with a readable length. -/
  announced :
    Service.announced?
        (moment.outcome transport
          (Service.sizeQuery plan.request location)) =
      some bytes
  /-- The announced size is not above the limit. -/
  fits : bytes ≤ plan.options.sizeLimit
  /-- The response to the download. -/
  response : Http.Response
  /-- The download is answered by success. -/
  downloaded :
    ((moment.answered transport
        (Service.sizeQuery plan.request location)).outcome transport
        (Service.download plan.request location)).success? =
      some response
  /-- The downloaded bytes are not above the limit, and valid. -/
  acceptable : Acceptable plan response.body
  /-- Their content can be written to the destination, if there is one. -/
  stored : Stores plan (contentOf response.body) journal.files

/-- The record of a validated result. -/
def Delivery.record
    {transport : Transport}
    {plan : Plan}
    {journal : Journal}
    (delivery : Delivery transport plan journal) : Record where
  content := contentOf delivery.response.body
  destination := plan.request.destination
  taskId := some delivery.reply.snapshot.id
  creditsUsed := delivery.handle.credits
  statusCode := some delivery.response.status
  timedOut := false
  failure := none

variable
  {transport : Transport}
  {plan : Plan}
  {journal : Journal}

/-- A task keeps its identifier. -/
theorem Polling.Settles.taskId
    {polling : Polling}
    {handle final : Handle}
    {moment ended : Moment}
    (settles : polling.Settles handle moment final ended) :
    final.taskId = handle.taskId := by
  induction settles with
  | last => exact Handle.afterOutcome_taskId ..
  | next _ _ _ inductionHypothesis =>
      exact inductionHypothesis.trans (Handle.afterOutcome_taskId ..)

theorem Polling.Finishes.taskId
    {polling : Polling}
    {handle final : Handle}
    {moment ended : Moment}
    (finishes : polling.Finishes handle moment final ended) :
    final.taskId = handle.taskId := by
  cases finishes with
  | atOnce => rfl
  | settled _ settles => exact settles.taskId

/-- A fetch from an address delivers if its size, its download and its storing
all succeed. -/
structure Delivers
    (transport : Transport)
    (plan : Plan)
    (journal : Journal)
    (handle : Handle)
    (location : Url)
    (response : Http.Response) : Prop where
  /-- The task is completed. -/
  completed : handle.status = .completed
  /-- The result has an address. -/
  located : handle.resultUrls.head? = some location
  /-- The announced size passes. -/
  passes : SizePasses transport plan location journal
  /-- The download is answered by success. -/
  downloaded :
    (downloadOutcome transport plan location journal).success? = some response
  /-- The downloaded bytes pass. -/
  acceptable : Acceptable plan response.body
  /-- Their content can be stored. -/
  stored : Stores plan (contentOf response.body) journal.files

section

variable
  {handle : Handle}
  {record : Record}
  {fetched : Journal}

omit [Url.NameConversion] in
theorem FetchedFrom.delivers
    {location : Url}
    (completed : handle.status = .completed)
    (located : handle.resultUrls.head? = some location)
    (ending :
      FetchedFrom transport plan location journal handle (.ok record)
        fetched) :
    ∃ response,
      Delivers transport plan journal handle location response ∧
        record =
          .success handle (contentOf response.body) plan.request.destination
            response.status := by
  cases ending with
  | delivered passes downloaded acceptable stored =>
      exact ⟨_, ⟨completed, located, passes, downloaded, acceptable, stored⟩,
        rfl⟩

omit [Url.NameConversion] in
/-- A record that succeeds was delivered. -/
theorem Fetched.delivers
    (ending : Fetched transport plan journal handle record fetched)
    (succeeded : record.succeeded = true) :
    ∃ location response,
      Delivers transport plan journal handle location response ∧
        record =
          .success handle (contentOf response.body) plan.request.destination
            response.status := by
  cases ending with
  | stopped | givenUp | unfinished | unlocated => exact nomatch succeeded
  | @fetched location result _ completed located ended =>
      cases result with
      | ok record => exact ⟨location, ended.delivers completed located⟩
      | error abort =>
          rw [recordOf, Abort.record_succeeded] at succeeded
          exact nomatch succeeded

omit [Url.NameConversion] in
/-- What is delivered makes a record that succeeds. -/
theorem Fetched.eq_success
    {location : Url}
    {response : Http.Response}
    (ending : Fetched transport plan journal handle record fetched)
    (delivers : Delivers transport plan journal handle location response) :
    record =
      .success handle (contentOf response.body) plan.request.destination
        response.status := by
  obtain ⟨completed, located, passes, downloaded, acceptable, stored⟩ :=
    delivers
  cases ending with
  | stopped stopped =>
      rw [completed] at stopped
      exact nomatch stopped
  | givenUp unfinished | unfinished unfinished =>
      rw [completed] at unfinished
      exact nomatch unfinished
  | unlocated _ unlocated => exact nomatch unlocated.symm.trans located
  | fetched _ again ended =>
      rw [located] at again
      cases again
      obtain ⟨bytes, announced, fits⟩ := passes
      cases ended with
      | tooLarge known above =>
          rw [announced] at known
          cases known
          exact absurd fits (Nat.not_le_of_lt above)
      | sizeUnavailable _ unannounced =>
          exact nomatch unannounced.symm.trans announced
      | downloadFailed _ _ failed =>
          exact nomatch failed.symm.trans downloaded
      | rejected _ same unacceptable =>
          rw [downloaded] at same
          cases same
          exact absurd acceptable unacceptable
      | unwritten _ _ _ same _ unstored =>
          rw [downloaded] at same
          cases same
          exact absurd stored unstored
      | delivered _ same =>
          rw [downloaded] at same
          cases same
          rfl

end

/-- The files are as they were before the run when a watch has ended. -/
theorem Polling.Follows.files
    {payload : List UInt8}
    {reply : Service.TaskReply}
    {queries : List Call}
    {watch : Watch}
    (follows :
      (submittedPolling transport plan journal payload).Follows
        (submittedWatch transport plan journal payload reply) queries
        (.ended watch)) :
    watch.journal.files = journal.files := by
  obtain ⟨handle, course⟩ := follows.course
  exact course.files.trans (submittedWatch_files ..)

/-- A performed run whose record succeeds has a delivery. -/
theorem Performed.exists_delivery
    {rounds : Nat}
    {record : Record}
    {ended : Journal}
    (performed : Performed transport plan journal rounds (some record) ended)
    (succeeded : record.succeeded = true) :
    ∃ delivery : Delivery transport plan journal, delivery.record = record := by
  cases performed with
  | unloaded | unreported => exact nomatch succeeded
  | @fetched payload reply watch _ _ _ given reported progress ending still =>
      obtain ⟨location, response, delivers, rfl⟩ := ending.delivers succeeded
      obtain ⟨queries, -, follows⟩ := Polling.follows_of_after_start progress
      have finished :
          (submittedPolling transport plan journal payload).Finishes
            (.ofSubmission reply.snapshot reply.statusCode)
            (afterSubmission transport plan.request payload journal).moment
            watch.handle watch.journal.moment := by
        refine Polling.finishes_iff.mpr ⟨?_, rounds, watch, progress, rfl, rfl⟩
        rw [delivers.completed]
        rfl
      obtain ⟨bytes, announced, fits⟩ := delivers.passes
      refine ⟨⟨payload, given, reply, reported, watch.handle,
        watch.journal.moment, finished, delivers.completed, location,
        delivers.located, bytes, announced, fits, response, delivers.downloaded,
        delivers.acceptable, follows.files ▸ delivers.stored⟩, ?_⟩
      simp only [Delivery.record, Record.success, finished.taskId]
      rfl

/-- A delivery makes a performed run succeed with its record. -/
theorem Delivery.exists_rounds (delivery : Delivery transport plan journal) :
    ∃ rounds, ∀ record? ended,
      Performed transport plan journal rounds record? ended ->
        record? = some delivery.record := by
  obtain ⟨payload, loaded, reply, reported, handle, moment, finished, completed,
    location, located, bytes, announced, fits, response, downloaded, acceptable,
    stored⟩ := delivery
  have taskId : handle.taskId = reply.snapshot.id := finished.taskId
  obtain ⟨-, rounds, watched, reached, rfl, rfl⟩ :=
    (@Polling.finishes_iff _ _
      (submittedWatch transport plan journal payload reply) _ _).mp finished
  obtain ⟨queries, -, follows⟩ := Polling.follows_of_after_start reached
  refine ⟨rounds, fun record? ended performed => ?_⟩
  cases performed with
  | unloaded missing => exact nomatch missing.symm.trans loaded
  | unreported given unreported =>
      rw [loaded] at given
      cases given
      exact nomatch unreported.symm.trans reported
  | watching given again progress =>
      rw [loaded] at given
      cases given
      rw [reported] at again
      cases again
      exact nomatch reached.symm.trans progress
  | fetched given again progress ending still =>
      rw [loaded] at given
      cases given
      rw [reported] at again
      cases again
      rw [reached] at progress
      cases progress
      have delivers :
          Delivers transport plan watched.journal watched.handle location
            response :=
        ⟨completed, located, ⟨bytes, announced, fits⟩, downloaded, acceptable,
          follows.files.symm ▸ stored⟩
      rw [ending.eq_success delivers]
      simp only [Delivery.record, Record.success, taskId]

/-- A run returns a record that succeeds exactly if everything happens that a
delivery takes, and this fixes the record. -/
theorem returns_succeeded_iff
    (transport : Transport)
    (plan : Plan)
    (journal : Journal)
    (record : Record) :
    ((∃ ended, Returns transport plan journal ⟨record, ended⟩) ∧
      record.succeeded = true) ↔
      ∃ delivery : Delivery transport plan journal,
        delivery.record = record := by
  constructor
  · rintro ⟨⟨ended, returned⟩, succeeded⟩
    obtain ⟨rounds, reached⟩ := returns_iff.mp returned
    have performed := performFor_performed transport plan journal rounds
    rw [reached] at performed
    exact performed.exists_delivery succeeded
  · rintro ⟨delivery, rfl⟩
    obtain ⟨rounds, made⟩ := delivery.exists_rounds
    have done :=
      made _ _ (performFor_performed transport plan journal rounds)
    refine ⟨⟨(performFor rounds transport plan journal).2,
      returns_iff.mpr ⟨rounds, ?_⟩⟩, rfl⟩
    exact Prod.ext done rfl

end Run
end FieldOcr
