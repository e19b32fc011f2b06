import FieldOcr.Proofs.Awaiting
import FieldOcr.Proofs.CallOrder

/-!
# What a task was observed to be

The service reports a task in snapshots.  A snapshot is accepted if its status
may follow that of the snapshot accepted before it; the others leave nothing
behind but their status codes.  So a handle has the status of the last
accepted snapshot, and the addresses of the last accepted one that has some.
-/

namespace FieldOcr
namespace RemoteTask

/-- The snapshots that are accepted behind a status. -/
def acceptedAfter (status : Status) : List Snapshot -> List Snapshot
  | [] => []
  | snapshot :: later =>
      if status.canGoTo snapshot.status then
        snapshot :: acceptedAfter snapshot.status later
      else acceptedAfter status later

/-- The accepted snapshots of a task, which starts with the first one. -/
def accepted : List Snapshot -> List Snapshot
  | [] => []
  | first :: later => first :: acceptedAfter first.status later

/-- The status of a task after its accepted snapshots, if there is one. -/
def finalStatus? (snapshots : List Snapshot) : Option Status :=
  snapshots.getLast?.map (·.status)

/-- A snapshot with an address of a result is among some. -/
def Located (snapshots : List Snapshot) : Prop :=
  ∃ snapshot ∈ snapshots, snapshot.resultUrls ≠ []

/-- The snapshots that outcomes of calls report, in order. -/
def reportedSnapshots
    [Url.NameConversion]
    (outcomes : List Http.Outcome) : List Snapshot :=
  outcomes.filterMap fun outcome =>
    (Service.reported? outcome).map (·.snapshot)

@[simp] theorem reportedSnapshots_nil [Url.NameConversion] :
    reportedSnapshots [] = [] := rfl

@[simp] theorem reportedSnapshots_cons
    [Url.NameConversion]
    (outcome : Http.Outcome)
    (outcomes : List Http.Outcome) :
    reportedSnapshots (outcome :: outcomes) =
      ((Service.reported? outcome).map (·.snapshot)).toList ++
        reportedSnapshots outcomes := by
  cases reported : Service.reported? outcome <;>
    simp [reportedSnapshots, reported]

@[simp] theorem finalStatus?_nil : finalStatus? [] = none := rfl

theorem finalStatus?_cons (first : Snapshot) (later : List Snapshot) :
    finalStatus? (first :: later) =
      some ((finalStatus? later).getD first.status) := by
  unfold finalStatus?
  rw [List.getLast?_cons]
  cases later.getLast? <;> rfl

theorem located_cons_iff {first : Snapshot} {later : List Snapshot} :
    Located (first :: later) ↔ first.resultUrls ≠ [] ∨ Located later := by
  simp [Located]

namespace Handle

/-- An accepted snapshot gives a handle its status, and its addresses if it
has some. -/
theorem advance_of_accepts
    {handle : Handle}
    {snapshot : Snapshot}
    (accepts : handle.status.canGoTo snapshot.status = true)
    (code : Nat) :
    (handle.advance snapshot code).status = snapshot.status ∧
      ((handle.advance snapshot code).resultUrls = [] ↔
        snapshot.resultUrls = [] ∧ handle.resultUrls = []) := by
  unfold advance Handle.accepts
  rw [if_pos accepts]
  refine ⟨rfl, ?_⟩
  cases snapshot.resultUrls <;> simp

/-- A snapshot that is not accepted leaves status and addresses. -/
theorem advance_of_not_accepts
    {handle : Handle}
    {snapshot : Snapshot}
    (refuses : ¬handle.status.canGoTo snapshot.status = true)
    (code : Nat) :
    (handle.advance snapshot code).status = handle.status ∧
      (handle.advance snapshot code).resultUrls = handle.resultUrls := by
  unfold advance Handle.accepts
  rw [if_neg refuses]
  exact ⟨rfl, rfl⟩

/-- An outcome of a status query brings a snapshot that is accepted, or leaves
status and addresses. -/
theorem afterOutcome_observed
    [Url.NameConversion]
    (handle : Handle)
    (outcome : Http.Outcome)
    (outcomes : List Http.Outcome) :
    (∃ snapshot,
      acceptedAfter handle.status (reportedSnapshots (outcome :: outcomes)) =
          snapshot ::
            acceptedAfter snapshot.status (reportedSnapshots outcomes) ∧
        (handle.afterOutcome outcome).status = snapshot.status ∧
        ((handle.afterOutcome outcome).resultUrls = [] ↔
          snapshot.resultUrls = [] ∧ handle.resultUrls = [])) ∨
    (acceptedAfter handle.status (reportedSnapshots (outcome :: outcomes)) =
        acceptedAfter handle.status (reportedSnapshots outcomes) ∧
      (handle.afterOutcome outcome).status = handle.status ∧
      (handle.afterOutcome outcome).resultUrls = handle.resultUrls) := by
  unfold afterOutcome
  cases reported : Service.reported? outcome with
  | none =>
      right
      exact ⟨by simp [reported], rfl, rfl⟩
  | some reply =>
      by_cases accepts :
          handle.status.canGoTo reply.snapshot.status = true
      · left
        exact ⟨reply.snapshot, by simp [reported, acceptedAfter, accepts],
          advance_of_accepts accepts reply.statusCode⟩
      · right
        exact ⟨by simp [reported, acceptedAfter, accepts],
          advance_of_not_accepts accepts reply.statusCode⟩

/-- A handle has the status of the last accepted snapshot, and an address
exactly if an accepted snapshot brings one or it had one before. -/
theorem afterOutcomes_observed
    [Url.NameConversion]
    (handle : Handle)
    (outcomes : List Http.Outcome) :
    let further := acceptedAfter handle.status (reportedSnapshots outcomes)
    (handle.afterOutcomes outcomes).status =
        (finalStatus? further).getD handle.status ∧
      ((handle.afterOutcomes outcomes).resultUrls = [] ↔
        handle.resultUrls = [] ∧ ¬Located further) := by
  induction outcomes generalizing handle with
  | nil => simp [acceptedAfter, finalStatus?, Located]
  | cons outcome outcomes inductionHypothesis =>
      obtain ⟨status, located⟩ :=
        inductionHypothesis (handle.afterOutcome outcome)
      change
        (handle.afterOutcomes (outcome :: outcomes)).status = _ at status
      change
        (handle.afterOutcomes (outcome :: outcomes)).resultUrls = [] ↔ _
          at located
      rcases handle.afterOutcome_observed outcome outcomes with
        ⟨snapshot, accepted, reached, urls⟩ | ⟨accepted, kept, urls⟩
      · rw [reached] at status located
        rw [urls] at located
        rw [accepted]
        constructor
        · rw [status, finalStatus?_cons, Option.getD_some]
        · rw [located, located_cons_iff, not_or, not_not, and_assoc]
          exact and_left_comm
      · rw [kept] at status located
        rw [urls] at located
        rw [accepted]
        exact ⟨status, located⟩

end Handle
end RemoteTask
end FieldOcr
