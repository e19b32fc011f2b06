import FieldOcr.Proofs.Reading
import FieldOcr.Run.Journal

/-!
# Transcripts

A transport fixes the reply to every call by the calls in front of it.  So the
calls of a journal tell all outcomes, and with the time also which of them
have been received.
-/

namespace FieldOcr
namespace Run

/-- What a transport can tell of a journal: the time and the calls. -/
structure Moment where
  /-- The time that has passed. -/
  now : Nat
  /-- The calls in their order. -/
  calls : List Call

namespace Moment

/-- What comes of a request that is sent now. -/
def outcome
    (moment : Moment)
    (transport : Transport)
    (request : Http.Request) : Http.Outcome :=
  (transport moment.calls request).outcome

/-- The moment at which the reply to a request that is sent now arrives. -/
def answered
    (moment : Moment)
    (transport : Transport)
    (request : Http.Request) : Moment where
  now := moment.now + (transport moment.calls request).delay
  calls := moment.calls ++ [⟨moment.now, request⟩]

/-- A later moment without further calls. -/
def waitUntil (moment : Moment) (time : Nat) : Moment :=
  { moment with now := time }

end Moment

namespace Journal

/-- The moment that a journal has come to. -/
def moment (journal : Journal) : Moment :=
  ⟨journal.now, journal.calls⟩

/-- A journal at the arrival of the reply to a request that is sent now. -/
def answered
    (journal : Journal)
    (transport : Transport)
    (request : Http.Request) : Journal :=
  (journal.send request).waitUntil
    (journal.now + (transport journal.calls request).delay)

@[simp] theorem answered_now
    (journal : Journal)
    (transport : Transport)
    (request : Http.Request) :
    (journal.answered transport request).now =
      journal.now + (transport journal.calls request).delay := rfl

@[simp] theorem answered_calls
    (journal : Journal)
    (transport : Transport)
    (request : Http.Request) :
    (journal.answered transport request).calls =
      journal.calls ++ [⟨journal.now, request⟩] := rfl

@[simp] theorem answered_files
    (journal : Journal)
    (transport : Transport)
    (request : Http.Request) :
    (journal.answered transport request).files = journal.files := rfl

/-- What an observer was told, in order. -/
def events (journal : Journal) : List Event :=
  journal.notices.map (·.event)

@[simp] theorem answered_events
    (journal : Journal)
    (transport : Transport)
    (request : Http.Request) :
    (journal.answered transport request).events = journal.events := rfl

@[simp] theorem tell_events (journal : Journal) (event : Event) :
    (journal.tell event).events = journal.events ++ [event] :=
  List.map_append

@[simp] theorem tell_now (journal : Journal) (event : Event) :
    (journal.tell event).now = journal.now := rfl

@[simp] theorem tell_calls (journal : Journal) (event : Event) :
    (journal.tell event).calls = journal.calls := rfl

@[simp] theorem tell_files (journal : Journal) (event : Event) :
    (journal.tell event).files = journal.files := rfl

end Journal

theorem exchange_eq
    (transport : Transport)
    (request : Http.Request)
    (journal : Journal) :
    exchange transport request journal =
      (journal.moment.outcome transport request,
        journal.answered transport request) := rfl

/-- Waiting up to a deadline gives the outcome of a request exactly if its
reply arrives by then. -/
theorem exchangeBy_eq
    (transport : Transport)
    (deadline : Nat)
    (request : Http.Request)
    (journal : Journal) :
    exchangeBy transport deadline request journal =
      if (journal.answered transport request).now ≤ deadline then
        (some (journal.moment.outcome transport request),
          journal.answered transport request)
      else (none, (journal.send request).waitUntil deadline) := rfl

/-! ## Received outcomes -/

/-- The outcomes that are received by a time for calls made in order, given
the calls in front of them. -/
def receivedBy
    (transport : Transport)
    (time : Nat) : List Call -> List Call -> List Http.Outcome
  | _, [] => []
  | earlier, call :: later =>
      let reply := transport earlier call.request
      (if call.time + reply.delay ≤ time then [reply.outcome] else []) ++
        receivedBy transport time (earlier ++ [call]) later

/-- Whether the replies to all of some calls have arrived by a time. -/
def AllArrived
    (transport : Transport)
    (time : Nat) : List Call -> List Call -> Prop
  | _, [] => True
  | earlier, call :: later =>
      call.time + (transport earlier call.request).delay ≤ time ∧
        AllArrived transport time (earlier ++ [call]) later

@[simp] theorem receivedBy_nil
    (transport : Transport)
    (time : Nat)
    (earlier : List Call) :
    receivedBy transport time earlier [] = [] := rfl

@[simp] theorem allArrived_nil
    (transport : Transport)
    (time : Nat)
    (earlier : List Call) :
    AllArrived transport time earlier [] := trivial

theorem receivedBy_append
    (transport : Transport)
    (time : Nat)
    (earlier first second : List Call) :
    receivedBy transport time earlier (first ++ second) =
      receivedBy transport time earlier first ++
        receivedBy transport time (earlier ++ first) second := by
  induction first generalizing earlier with
  | nil => simp
  | cons call first inductionHypothesis =>
      simp only [List.cons_append, receivedBy, inductionHypothesis,
        List.append_assoc, List.nil_append]

theorem allArrived_append
    (transport : Transport)
    (time : Nat)
    (earlier first second : List Call) :
    AllArrived transport time earlier (first ++ second) ↔
      AllArrived transport time earlier first ∧
        AllArrived transport time (earlier ++ first) second := by
  induction first generalizing earlier with
  | nil => simp
  | cons call first inductionHypothesis =>
      simp only [List.cons_append, AllArrived, inductionHypothesis,
        List.append_assoc, List.nil_append, and_assoc]

/-- What has arrived by a time has arrived later. -/
theorem AllArrived.mono
    {transport : Transport}
    {time later : Nat}
    {earlier calls : List Call}
    (arrived : AllArrived transport time earlier calls)
    (le : time ≤ later) :
    AllArrived transport later earlier calls := by
  induction calls generalizing earlier with
  | nil => trivial
  | cons call calls inductionHypothesis =>
      exact ⟨Nat.le_trans arrived.1 le, inductionHypothesis arrived.2⟩

/-- Once all replies have arrived, time brings no further outcome. -/
theorem AllArrived.receivedBy_eq
    {transport : Transport}
    {time later : Nat}
    {earlier calls : List Call}
    (arrived : AllArrived transport time earlier calls)
    (le : time ≤ later) :
    receivedBy transport later earlier calls =
      receivedBy transport time earlier calls := by
  induction calls generalizing earlier with
  | nil => rfl
  | cons call calls inductionHypothesis =>
      have soon := arrived.1
      have late := Nat.le_trans soon le
      simp only [receivedBy, soon, late, if_true,
        inductionHypothesis arrived.2]

/-- The reply to the last request has arrived when it was waited for. -/
theorem allArrived_answered
    (transport : Transport)
    (request : Http.Request)
    (moment : Moment) :
    AllArrived transport (moment.answered transport request).now
      moment.calls [⟨moment.now, request⟩] :=
  ⟨Nat.le_refl _, trivial⟩

/-- The outcome of the last request is received when it was waited for. -/
theorem receivedBy_answered
    (transport : Transport)
    (request : Http.Request)
    (moment : Moment) :
    receivedBy transport (moment.answered transport request).now
        moment.calls [⟨moment.now, request⟩] =
      [moment.outcome transport request] := by
  simp [receivedBy, Moment.answered, Moment.outcome]

/-! ## Status codes -/

/-- The status codes of the responses among outcomes, in order. -/
def statusCodes (outcomes : List Http.Outcome) : List Nat :=
  outcomes.filterMap Http.Outcome.statusCode?

@[simp] theorem statusCodes_nil : statusCodes [] = [] := rfl

@[simp] theorem statusCodes_append (first second : List Http.Outcome) :
    statusCodes (first ++ second) =
      statusCodes first ++ statusCodes second :=
  List.filterMap_append

@[simp] theorem statusCodes_singleton (outcome : Http.Outcome) :
    statusCodes [outcome] = outcome.statusCode?.toList := by
  cases code : outcome.statusCode? <;> simp [statusCodes, code]

/-- The last status code of some outcomes and one more. -/
theorem getLast?_append_toList
    (codes : List Nat)
    (code : Option Nat) :
    (codes ++ code.toList).getLast? = code.or codes.getLast? := by
  cases code <;> simp

end Run
end FieldOcr
