import FieldOcr.Service.Call

/-!
# What calls read from outcomes

Every call of the service reads the outcome of its request in the same way
first: it wants a response that reports success.  Reading succeeds exactly on
such responses with a readable body or length, and a fault carries the status
code of the response that it stems from.
-/

namespace FieldOcr

namespace Http

namespace Outcome

/-- The status code of an outcome, if it is a response. -/
def statusCode? : Outcome -> Option Nat
  | .response received => some received.status
  | .timedOut | .noConnection _ | .failed _ => none

/-- The response of an outcome, if it reports success. -/
def success? : Outcome -> Option Response
  | .response received => if received.isSuccess then some received else none
  | .timedOut | .noConnection _ | .failed _ => none

/-- A success is a response, and has its status code. -/
theorem success?_eq_some_iff {outcome : Outcome} {received : Response} :
    outcome.success? = some received ↔
      outcome = .response received ∧ received.isSuccess = true := by
  cases outcome with
  | response other =>
      by_cases success : other.isSuccess = true
      · simp only [success?, success, if_true, Option.some.injEq,
          Outcome.response.injEq]
        exact ⟨fun equal => ⟨equal, equal ▸ success⟩, And.left⟩
      · simp only [success?, success, Outcome.response.injEq]
        constructor
        · intro impossible
          simp at impossible
        · rintro ⟨rfl, holds⟩
          exact absurd holds success
  | timedOut => simp [success?]
  | noConnection reason => simp [success?]
  | failed reason => simp [success?]

theorem statusCode?_of_success?
    {outcome : Outcome}
    {received : Response}
    (success : outcome.success? = some received) :
    outcome.statusCode? = some received.status := by
  rw [(success?_eq_some_iff.mp success).1]
  rfl

end Outcome
end Http

namespace Service

open Http (Outcome Response)

/-- The task that an outcome reports, if it is a success whose body is a task
envelope. -/
def reported? [Url.NameConversion] (outcome : Outcome) : Option TaskReply :=
  outcome.success?.bind fun response =>
    (readSnapshot (Text.Utf8.decode response.body)).toOption.map
      fun snapshot => ⟨snapshot, response.status⟩

/-- The number of bytes that an outcome announces, if it is a success with a
length that can be read. -/
def announced? (outcome : Outcome) : Option Nat :=
  outcome.success?.bind Response.contentLength?

theorem statusCode?_of_reported?
    [Url.NameConversion]
    {outcome : Outcome}
    {reply : TaskReply}
    (reported : reported? outcome = some reply) :
    outcome.statusCode? = some reply.statusCode := by
  unfold reported? at reported
  obtain ⟨response, success, read⟩ := Option.bind_eq_some_iff.mp reported
  obtain ⟨snapshot, -, rfl⟩ := Option.map_eq_some_iff.mp read
  exact Outcome.statusCode?_of_success? success

theorem statusCode?_of_announced?
    {outcome : Outcome}
    {bytes : Nat}
    (announced : announced? outcome = some bytes) :
    ∃ code, outcome.statusCode? = some code := by
  unfold announced? at announced
  obtain ⟨response, success, -⟩ := Option.bind_eq_some_iff.mp announced
  exact ⟨response.status, Outcome.statusCode?_of_success? success⟩

/-- A call reads a response exactly if it is a success; otherwise it fails
with the status code of its outcome. -/
theorem successful_cases (url : Url) (outcome : Outcome) :
    (∃ response,
      outcome.success? = some response ∧
        successful url outcome = .ok response) ∨
    (∃ fault,
      outcome.success? = none ∧ fault.statusCode = outcome.statusCode? ∧
        successful url outcome = .error fault) := by
  cases outcome with
  | response received =>
      by_cases success : received.isSuccess = true
      · left
        exact ⟨received, by simp [Outcome.success?, success],
          by simp [successful, Outcome.result, success]⟩
      · right
        exact ⟨.ofResponse received, by simp [Outcome.success?, success],
          rfl, by simp [successful, Outcome.result, success]⟩
  | timedOut => exact Or.inr ⟨_, rfl, rfl, rfl⟩
  | noConnection reason => exact Or.inr ⟨_, rfl, rfl, rfl⟩
  | failed reason => exact Or.inr ⟨_, rfl, rfl, rfl⟩

/-- A call reads a task exactly if its outcome reports one; otherwise it fails
with the status code of its outcome. -/
theorem readTaskReply_cases
    [Url.NameConversion]
    (url : Url)
    (outcome : Outcome) :
    (∃ reply,
      reported? outcome = some reply ∧
        readTaskReply url outcome = .ok reply) ∨
    (∃ fault,
      reported? outcome = none ∧ fault.statusCode = outcome.statusCode? ∧
        readTaskReply url outcome = .error fault) := by
  unfold readTaskReply reported?
  rcases successful_cases url outcome with
    ⟨response, success, read⟩ | ⟨fault, failure, code, read⟩
  · rw [read, success]
    simp only [Option.bind_some]
    cases envelope : readSnapshot (Text.Utf8.decode response.body) with
    | ok snapshot => exact Or.inl ⟨_, rfl, rfl⟩
    | error fault =>
        exact Or.inr ⟨_, rfl, (Outcome.statusCode?_of_success? success).symm,
          rfl⟩
  · rw [read, failure]
    exact Or.inr ⟨fault, rfl, code, rfl⟩

/-- A download succeeds exactly if its outcome does; otherwise it fails with
the status code of its outcome. -/
theorem readDownload_cases (url : Url) (outcome : Outcome) :
    (∃ response,
      outcome.success? = some response ∧
        readDownload url outcome = .ok ⟨response.body, response.status⟩) ∨
    (∃ fault,
      outcome.success? = none ∧ fault.statusCode = outcome.statusCode? ∧
        readDownload url outcome = .error fault) := by
  unfold readDownload
  rcases successful_cases url outcome with
    ⟨response, success, read⟩ | ⟨fault, failure, code, read⟩
  · rw [read]
    exact Or.inl ⟨response, success, rfl⟩
  · rw [read]
    exact Or.inr ⟨fault, failure, code, rfl⟩

/-- A size passes exactly if it is announced and not above the limit.  One
that is announced above the limit is refused without a status code, and one
that is not announced with the status code of its outcome. -/
theorem checkedSize_cases
    (format : Recognition.ExportFormat)
    (limit : Nat)
    (url : Url)
    (outcome : Outcome) :
    (∃ bytes code,
      announced? outcome = some bytes ∧ bytes ≤ limit ∧
        outcome.statusCode? = some code ∧
        checkedSize format limit url outcome = .ok ⟨some bytes, code⟩) ∨
    (∃ bytes,
      announced? outcome = some bytes ∧ limit < bytes ∧
        checkedSize format limit url outcome =
          .error (.tooLarge format bytes limit)) ∨
    (∃ detail,
      announced? outcome = none ∧
        checkedSize format limit url outcome =
          .error (.sizeUnavailable format outcome.statusCode? detail)) := by
  unfold checkedSize readSize announced?
  rcases successful_cases url outcome with
    ⟨response, success, read⟩ | ⟨fault, failure, code, read⟩
  · have code := Outcome.statusCode?_of_success? success
    rw [read, success, code]
    simp only [Option.bind_some]
    cases length : response.contentLength? with
    | none => exact Or.inr (Or.inr ⟨_, rfl, rfl⟩)
    | some bytes =>
        by_cases fits : bytes ≤ limit
        · left
          exact ⟨bytes, response.status, rfl, fits, rfl,
            by simp [Validation.checkSize, fits]⟩
        · right
          left
          exact ⟨bytes, rfl, Nat.lt_of_not_le fits,
            by simp [Validation.checkSize, fits]⟩
  · rw [read, failure, ← code]
    exact Or.inr (Or.inr ⟨fault.message, rfl, rfl⟩)

end Service
end FieldOcr
