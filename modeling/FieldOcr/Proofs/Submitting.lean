import FieldOcr.Proofs.Transcript
import FieldOcr.Run.Submission

/-!
# Submitting a task

A source is fetched only if it is an address of the web.  A submission is sent
exactly if the source gives a payload, and leaves a handle exactly if its
outcome reports a task.
-/

namespace FieldOcr
namespace Run

open RemoteTask (Failure Handle)

variable [Url.NameConversion]

/-- The request that the source of a task needs, if it is to be fetched. -/
def sourceRequest? (request : Request) : Option Http.Request :=
  if isUrl request.source then
    (Url.parseString request.source).toOption.map
      (sourceRequest · request.transport.callTimeout)
  else none

/-- A journal after the source of a task was fetched, if that is needed. -/
def afterSource
    (transport : Transport)
    (request : Request)
    (journal : Journal) : Journal :=
  match sourceRequest? request with
  | none => journal
  | some fetch => journal.answered transport fetch

/-- The bytes of a source: what is fetched from its address, or what the file
of that name holds. -/
def sourceBytes?
    (transport : Transport)
    (request : Request)
    (journal : Journal) : Option (List UInt8) :=
  if isUrl request.source then
    (sourceRequest? request).bind fun fetch =>
      (journal.moment.outcome transport fetch).success?.map (·.body)
  else (journal.files.read request.source).toOption

/-- The payload that a source gives, which must not be empty. -/
def payload?
    (transport : Transport)
    (request : Request)
    (journal : Journal) : Option (List UInt8) :=
  (sourceBytes? transport request journal).filter (!·.isEmpty)

/-- A journal at the outcome of a submission. -/
def afterSubmission
    (transport : Transport)
    (request : Request)
    (payload : List UInt8)
    (journal : Journal) : Journal :=
  (afterSource transport request journal).answered transport
    (Service.submission request payload)

/-- What comes of a submission. -/
def submissionOutcome
    (transport : Transport)
    (request : Request)
    (payload : List UInt8)
    (journal : Journal) : Http.Outcome :=
  (afterSource transport request journal).moment.outcome transport
    (Service.submission request payload)

omit [Url.NameConversion] in
/-- A source is read from an outcome exactly if this is a success. -/
theorem readSource_cases (url : Url) (outcome : Http.Outcome) :
    (∃ response,
      outcome.success? = some response ∧
        readSource url outcome = .ok response.body) ∨
    (∃ detail,
      outcome.success? = none ∧ readSource url outcome = .error detail) := by
  cases outcome with
  | response received =>
      by_cases success : received.isSuccess = true
      · left
        exact ⟨received, by simp [Http.Outcome.success?, success],
          by simp [readSource, Http.Outcome.result, success]⟩
      · right
        exact ⟨s!"HTTP {received.status}",
          by simp [Http.Outcome.success?, success],
          by simp [readSource, Http.Outcome.result, success]⟩
  | timedOut => exact Or.inr ⟨_, rfl, rfl⟩
  | noConnection reason => exact Or.inr ⟨_, rfl, rfl⟩
  | failed reason => exact Or.inr ⟨_, rfl, rfl⟩

section

variable
  (transport : Transport)
  (request : Request)
  (journal : Journal)

/-- A source is obtained exactly if it has bytes, at the cost of the call that
it needs. -/
theorem obtainSource_cases :
    (∃ bytes,
      sourceBytes? transport request journal = some bytes ∧
        obtainSource transport request.source request.transport.callTimeout
            journal =
          (.ok bytes, afterSource transport request journal)) ∨
    (∃ detail,
      sourceBytes? transport request journal = none ∧
        obtainSource transport request.source request.transport.callTimeout
            journal =
          (.error detail, afterSource transport request journal)) := by
  unfold sourceBytes? obtainSource afterSource sourceRequest?
  by_cases address : isUrl request.source = true
  · simp only [address, if_true]
    unfold fetchSource
    cases parsed : Url.parseString request.source with
    | error fault => exact Or.inr ⟨fault.message, rfl, rfl⟩
    | ok url =>
        simp only [Except.toOption, Option.map_some, Option.bind_some,
          exchange_eq]
        rcases readSource_cases url
            (journal.moment.outcome transport
              (sourceRequest url request.transport.callTimeout)) with
          ⟨response, fetched, read⟩ | ⟨detail, unfetched, read⟩
        · rw [fetched, read]
          exact Or.inl ⟨response.body, rfl, rfl⟩
        · rw [unfetched, read]
          exact Or.inr ⟨detail, rfl, rfl⟩
  · simp only [address]
    cases journal.files.read request.source with
    | error fault => exact Or.inr ⟨fault.message, rfl, rfl⟩
    | ok bytes => exact Or.inl ⟨bytes, rfl, rfl⟩

/-- A payload is loaded exactly if the source gives one. -/
theorem loadSource_cases :
    (∃ payload,
      payload? transport request journal = some payload ∧
        loadSource transport request.source request.transport.callTimeout
            journal =
          (.ok payload, afterSource transport request journal)) ∨
    (∃ detail,
      payload? transport request journal = none ∧
        loadSource transport request.source request.transport.callTimeout
            journal =
          (.error (.sourceUnreadable request.source detail),
            afterSource transport request journal)) := by
  unfold payload? loadSource
  rcases obtainSource_cases transport request journal with
    ⟨bytes, given, obtained⟩ | ⟨detail, missing, obtained⟩
  · rw [given, obtained]
    by_cases empty : bytes.isEmpty = true
    · right
      exact ⟨"source is empty", by simp [Option.filter, empty],
        by simp only [empty, if_true]⟩
    · left
      exact ⟨bytes, by simp [Option.filter, empty],
        by simp only [empty]; rfl⟩
  · rw [missing, obtained]
    exact Or.inr ⟨detail, rfl, rfl⟩

/-- Every way that a submission goes: without a payload, without a task that
is reported, or with one. -/
theorem submit_cases :
    (∃ detail,
      payload? transport request journal = none ∧
        submit transport request journal =
          (.error (.sourceUnreadable request.source detail),
            afterSource transport request journal)) ∨
    (∃ payload fault,
      payload? transport request journal = some payload ∧
        Service.reported?
            (submissionOutcome transport request payload journal) = none ∧
        submit transport request journal =
          (.error
              (.submission
                (submissionOutcome transport request payload
                  journal).statusCode?
                fault),
            afterSubmission transport request payload journal)) ∨
    (∃ payload reply,
      payload? transport request journal = some payload ∧
        Service.reported?
            (submissionOutcome transport request payload journal) =
          some reply ∧
        submit transport request journal =
          (.ok (.ofSubmission reply.snapshot reply.statusCode),
            (afterSubmission transport request payload journal).tell
              (.submitted reply.snapshot.id))) := by
  unfold submit
  rcases loadSource_cases transport request journal with
    ⟨payload, given, loaded⟩ | ⟨detail, missing, loaded⟩
  · right
    rw [loaded]
    simp only [submitPayload, exchange_eq]
    rcases Service.readTaskReply_cases (Service.submission request payload).url
        (submissionOutcome transport request payload journal) with
      ⟨reply, reported, read⟩ | ⟨fault, unreported, code, read⟩
    · right
      refine ⟨payload, reply, given, reported, ?_⟩
      unfold submissionOutcome at read
      rw [read]
      rfl
    · left
      refine ⟨payload, fault.message, given, unreported, ?_⟩
      rw [← code]
      unfold submissionOutcome at read
      rw [read]
      rfl
  · rw [loaded]
    exact Or.inl ⟨detail, missing, rfl⟩

end

end Run
end FieldOcr
