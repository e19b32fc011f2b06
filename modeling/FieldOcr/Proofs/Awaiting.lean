import FieldOcr.Proofs.StatusCode

/-!
# Awaiting a task again

A task that was given up may be awaited again, from the handle that the await
before returned.  An await that ends without a terminal status marks its
handle as given up, and nothing takes this mark away: a handle has it exactly
if some await of its task ended so, even where a later one ended with a
terminal status.
-/

namespace FieldOcr
namespace RemoteTask
namespace Handle

@[simp] theorem advance_timedOut
    (handle : Handle)
    (snapshot : Snapshot)
    (code : Nat) :
    (handle.advance snapshot code).timedOut = handle.timedOut := by
  unfold advance
  split <;> rfl

@[simp] theorem recordStatusCode_timedOut
    (handle : Handle)
    (code : Option Nat) :
    (handle.recordStatusCode code).timedOut = handle.timedOut := rfl

@[simp] theorem afterOutcome_timedOut
    [Url.NameConversion]
    (handle : Handle)
    (outcome : Http.Outcome) :
    (handle.afterOutcome outcome).timedOut = handle.timedOut := by
  unfold afterOutcome
  split
  · exact advance_timedOut ..
  · exact recordStatusCode_timedOut ..

/-- No outcome of a status query sets or clears the mark of a handle. -/
@[simp] theorem afterOutcomes_timedOut
    [Url.NameConversion]
    (handle : Handle)
    (outcomes : List Http.Outcome) :
    (handle.afterOutcomes outcomes).timedOut = handle.timedOut := by
  induction outcomes generalizing handle with
  | nil => rfl
  | cons outcome outcomes inductionHypothesis =>
      have rest := inductionHypothesis (handle.afterOutcome outcome)
      exact rest.trans (afterOutcome_timedOut handle outcome)

end Handle
end RemoteTask

namespace Run

open RemoteTask (Handle)

section

variable [Url.NameConversion]

/-- The handle of a watch that has ended is marked if it was marked before, or
has no terminal status. -/
theorem Polling.Follows.timedOut_iff
    {polling : Polling}
    {origin watch : Watch}
    {queries : List Call}
    (follows : polling.Follows origin queries (.ended watch)) :
    watch.handle.timedOut = true ↔
      watch.handle.status.isTerminal = false ∨
        origin.handle.timedOut = true := by
  obtain ⟨handle, course, ⟨same, terminal, -⟩ | ⟨givenUp, unfinished⟩⟩ :=
    follows
  · have kept : handle.timedOut = origin.handle.timedOut :=
      (congrArg Handle.timedOut course.handle).trans
        (Handle.afterOutcomes_timedOut ..)
    rw [same, kept, terminal]
    simp
  · have marked : watch.handle.timedOut = true := by
      rw [givenUp]
      rfl
    have status : watch.handle.status = handle.status := by
      rw [givenUp]
      rfl
    rw [status]
    exact iff_of_true marked (Or.inl unfinished)

/-- One await marks a handle that it returns without a terminal status, and
keeps the mark of a handle that has one. -/
theorem awaitCompletion_timedOut_iff
    {fuel : Nat}
    {transport : Transport}
    {request : Request}
    {policy : PollPolicy}
    {origin watch : Watch}
    (result : awaitCompletion fuel transport request policy origin = some watch) :
    watch.handle.timedOut = true ↔
      watch.handle.status.isTerminal = false ∨
        origin.handle.timedOut = true := by
  unfold awaitCompletion at result
  rw [Polling.finish_eq] at result
  split at result
  · next ended reached =>
      cases result
      obtain ⟨queries, -, follows⟩ := Polling.follows_of_after_start reached
      exact follows.timedOut_iff
  · exact nomatch result

/-- A submitted task was awaited some times, each time from the handle that
was returned before, and otherwise in any way and at any time.  The list holds
the returned handles, the last one first. -/
inductive Awaited : List Handle -> Handle -> Prop
  | submitted
      {transport : Transport}
      {request : Request}
      {journal submitted : Journal}
      {handle : Handle}
      (result : submit transport request journal = (.ok handle, submitted)) :
      Awaited [] handle
  | again
      {returned : List Handle}
      {handle : Handle}
      {fuel : Nat}
      {transport : Transport}
      {request : Request}
      {policy : PollPolicy}
      {journal : Journal}
      {watch : Watch}
      (before : Awaited returned handle)
      (result :
        awaitCompletion fuel transport request policy ⟨handle, journal⟩ =
          some watch) :
      Awaited (watch.handle :: returned) watch.handle

/-- A task is not marked when it is submitted. -/
theorem timedOut_of_submit
    {transport : Transport}
    {request : Request}
    {journal submitted : Journal}
    {handle : Handle}
    (result : submit transport request journal = (.ok handle, submitted)) :
    handle.timedOut = false := by
  rcases submit_cases transport request journal with
    ⟨detail, -, failed⟩ | ⟨payload, fault, -, -, failed⟩ |
    ⟨payload, reply, -, -, reported⟩
  · rw [failed] at result
    exact nomatch result
  · rw [failed] at result
    exact nomatch result
  · rw [reported] at result
    cases result
    rfl

/-- A handle is marked exactly if some await of its task returned it without a
terminal status. -/
theorem Awaited.timedOut_iff
    {returned : List Handle}
    {handle : Handle}
    (awaited : Awaited returned handle) :
    handle.timedOut = true ↔
      ∃ past ∈ returned, past.status.isTerminal = false := by
  induction awaited with
  | submitted result =>
      rw [timedOut_of_submit result]
      simp
  | again before result inductionHypothesis =>
      rw [awaitCompletion_timedOut_iff result, inductionHypothesis]
      simp only [List.mem_cons, exists_eq_or_imp]

/-- An await returns a handle as given up exactly if its status is not
terminal, or an earlier await of the same task has returned one that was not.
So the mark tells the status of a handle unless its task was given up
before. -/
theorem awaited_timedOut_iff
    {returned : List Handle}
    {handle : Handle}
    {fuel : Nat}
    {transport : Transport}
    {request : Request}
    {policy : PollPolicy}
    {journal : Journal}
    {watch : Watch}
    (before : Awaited returned handle)
    (result :
      awaitCompletion fuel transport request policy ⟨handle, journal⟩ =
        some watch) :
    watch.handle.timedOut = true ↔
      watch.handle.status.isTerminal = false ∨
        ∃ past ∈ returned, past.status.isTerminal = false := by
  rw [awaitCompletion_timedOut_iff result, before.timedOut_iff]

end

/-! ## A task that is completed when it is awaited again -/

/-- A service that has its task in progress when it is asked first, and
completed from then on. -/
def lateService : Transport := fun earlier request =>
  let status :=
    match request.method with
    | .post => "Queued"
    | _ => if earlier.length ≤ 1 then "InProgress" else "Completed"
  ⟨20, .response
    { status := 200
      body :=
        Text.Utf8.encode
          ("<r><task id='t' status='" ++ status ++ "'/></r>").toList }⟩

/-- Waiting that is given up after one query. -/
def hastyPolicy : PollPolicy where
  timeout := some 0

/-- A task that is awaited for one query, and then for another. -/
def awaitedTwice : Option (Handle × Journal × Watch × Watch) :=
  match submit lateService narrowPlan.request journalWithSource with
  | (.error _, _) => none
  | (.ok handle, submitted) => do
      let first ←
        awaitCompletion 0 lateService narrowPlan.request hastyPolicy
          ⟨handle, submitted⟩
      let second ←
        awaitCompletion 0 lateService narrowPlan.request hastyPolicy first
      return (handle, submitted, first, second)

theorem awaitedTwice_eq_some_iff
    {handle : Handle}
    {submitted : Journal}
    {first second : Watch} :
    awaitedTwice = some (handle, submitted, first, second) ↔
      submit lateService narrowPlan.request journalWithSource =
          (.ok handle, submitted) ∧
        awaitCompletion 0 lateService narrowPlan.request hastyPolicy
            ⟨handle, submitted⟩ =
          some first ∧
        awaitCompletion 0 lateService narrowPlan.request hastyPolicy first =
          some second := by
  unfold awaitedTwice
  rcases submit lateService narrowPlan.request journalWithSource with
    ⟨failure | other, journal⟩
  · simp
  · simp only [Option.bind_eq_bind, Option.bind_eq_some_iff]
    constructor
    · rintro ⟨_, started, _, continued, ⟨⟩⟩
      exact ⟨rfl, started, continued⟩
    · rintro ⟨⟨⟩, started, continued⟩
      exact ⟨first, started, second, continued, rfl⟩

/-- The second await of a task that was given up returns it completed, and
still marked. -/
theorem awaited_timedOut_iff_again :
    ∃ handle submitted first second,
      awaitedTwice = some (handle, submitted, first, second) ∧
        Awaited [first.handle] first.handle ∧
        (second.handle.timedOut = true ↔
          second.handle.status.isTerminal = false ∨
            ∃ past ∈ [first.handle], past.status.isTerminal = false) ∧
        second.handle.status = .completed ∧
        second.handle.timedOut = true := by
  have seen :
      awaitedTwice.map
          (fun (_, _, _, second) =>
            (second.handle.status, second.handle.timedOut)) =
        some (.completed, true) := by
    decide +kernel
  obtain ⟨⟨handle, submitted, first, second⟩, twice, known⟩ :=
    Option.map_eq_some_iff.mp seen
  obtain ⟨result, started, continued⟩ := awaitedTwice_eq_some_iff.mp twice
  have before : Awaited [first.handle] first.handle :=
    .again (.submitted result) started
  exact ⟨handle, submitted, first, second, twice, before,
    awaited_timedOut_iff before continued, congrArg Prod.fst known,
    congrArg Prod.snd known⟩

end Run
end FieldOcr
