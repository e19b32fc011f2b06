import FieldOcr.Proofs.Watching

/-!
# Histories of a task

A task is observed again and again, by snapshots and by queries that fail.  A
snapshot is accepted unless one with a terminal status came before it, or it
would take a task back to the queue that was in progress.  What a handle holds
after any history is told in closed form: its status by all snapshots, its
credits and addresses by the accepted ones, and its last status code by all
observations.  Awaiting a task leaves what the history of its queries tells.
-/

namespace FieldOcr
namespace RemoteTask

/-- What is observed of a task: a snapshot with its status code, or a query
that failed, with a status code or without one. -/
inductive Observation
  | report (snapshot : Snapshot) (code : Nat)
  | fault (code : Option Nat)
  deriving DecidableEq, Repr

/-- The snapshot of an observation, if it is one. -/
def Observation.snapshot? : Observation -> Option Snapshot
  | .report snapshot _ => some snapshot
  | .fault _ => none

/-- The status code of an observation, if it has one. -/
def Observation.code? : Observation -> Option Nat
  | .report _ code => some code
  | .fault code => code

/-- The observation that the outcome of a status query makes. -/
def Observation.ofOutcome
    [Url.NameConversion]
    (outcome : Http.Outcome) : Observation :=
  match Service.reported? outcome with
  | some reply => .report reply.snapshot reply.statusCode
  | none => .fault outcome.statusCode?

/-- The snapshots of a history, in order. -/
def snapshotsOf (history : List Observation) : List Snapshot :=
  history.filterMap Observation.snapshot?

/-- The status codes of a history, in order. -/
def codesOf (history : List Observation) : List Nat :=
  history.filterMap Observation.code?

/-- A snapshot is accepted behind others, given the status in front of all: no
terminal status was observed, and a task that was in progress is not queued. -/
def IsAccepted
    (status : Status)
    (before : List Snapshot)
    (snapshot : Snapshot) : Prop :=
  (∀ earlier ∈ before, earlier.status.isTerminal = false) ∧
    (snapshot.status = .queued ->
      status ≠ .inProgress ∧
        ∀ earlier ∈ before, earlier.status ≠ .inProgress)

instance
    (status : Status)
    (before : List Snapshot)
    (snapshot : Snapshot) :
    Decidable (IsAccepted status before snapshot) :=
  inferInstanceAs (Decidable (_ ∧ _))

/-- The accepted ones of some snapshots, given those that were passed. -/
def acceptedFrom
    (status : Status)
    (passed : List Snapshot) : List Snapshot -> List Snapshot
  | [] => []
  | snapshot :: later =>
      (if IsAccepted status passed snapshot then [snapshot] else []) ++
        acceptedFrom status (passed ++ [snapshot]) later

/-- The status behind some snapshots: the first terminal one, or else whether
the task was ever in progress. -/
def statusBehind (status : Status) (snapshots : List Snapshot) : Status :=
  match (snapshots.map (·.status)).find? Status.isTerminal with
  | some terminal => terminal
  | none =>
      if status = .inProgress ∨ .inProgress ∈ snapshots.map (·.status) then
        .inProgress
      else .queued

namespace Handle

/-- A handle after one more observation. -/
def observe (handle : Handle) : Observation -> Handle
  | .report snapshot code => handle.advance snapshot code
  | .fault code => handle.recordStatusCode code

/-- A handle after the observations of a history, one after the other. -/
def observeAll (handle : Handle) (history : List Observation) : Handle :=
  history.foldl observe handle

/-- What a history leaves of a handle, in closed form. -/
def behindHistory (handle : Handle) (history : List Observation) : Handle :=
  let snapshots := snapshotsOf history
  let accepted := acceptedFrom handle.status [] snapshots
  let located := (accepted.map (·.resultUrls)).filter (· ≠ [])
  { handle with
    status := statusBehind handle.status snapshots
    credits := (accepted.filterMap (·.credits)).getLast?.or handle.credits
    resultUrls := located.getLast?.getD handle.resultUrls
    lastStatusCode := (codesOf history).getLast?.or handle.lastStatusCode }

end Handle

/-! ## One more snapshot -/

theorem acceptedFrom_concat
    (status : Status)
    (passed snapshots : List Snapshot)
    (last : Snapshot) :
    acceptedFrom status passed (snapshots ++ [last]) =
      acceptedFrom status passed snapshots ++
        if IsAccepted status (passed ++ snapshots) last then [last]
        else [] := by
  induction snapshots generalizing passed with
  | nil => simp [acceptedFrom]
  | cons first snapshots inductionHypothesis =>
      simp only [List.cons_append, acceptedFrom, inductionHypothesis,
        List.append_assoc, List.nil_append]

section

variable
  {status : Status}
  (snapshots : List Snapshot)
  (snapshot : Snapshot)

/-- Some snapshots hold a terminal status or they do not. -/
theorem ended_or_running :
    (∃ earlier ∈ snapshots, earlier.status.isTerminal = true) ∨
      ∀ earlier ∈ snapshots, earlier.status.isTerminal = false := by
  by_cases ended : ∃ earlier ∈ snapshots, earlier.status.isTerminal = true
  · exact Or.inl ended
  · right
    intro earlier member
    apply Bool.eq_false_iff.mpr
    exact fun terminal => ended ⟨earlier, member, terminal⟩

/-- Behind a terminal status nothing is accepted. -/
theorem not_isAccepted_of_terminal
    {earlier : Snapshot}
    (member : earlier ∈ snapshots)
    (terminal : earlier.status.isTerminal = true) :
    ¬IsAccepted status snapshots snapshot := by
  rintro ⟨nonterminal, -⟩
  rw [nonterminal earlier member] at terminal
  exact nomatch terminal

/-- The status behind some snapshots is terminal exactly if one of theirs
is. -/
theorem statusBehind_isTerminal_iff (status : Status) :
    (statusBehind status snapshots).isTerminal = true ↔
      ∃ earlier ∈ snapshots, earlier.status.isTerminal = true := by
  unfold statusBehind
  split
  · next terminal found =>
      have stops := List.find?_some found
      obtain ⟨earlier, member, rfl⟩ :=
        List.mem_map.mp (List.mem_of_find?_eq_some found)
      exact iff_of_true stops ⟨earlier, member, stops⟩
  · next missing =>
      have running :
          ¬∃ earlier ∈ snapshots, earlier.status.isTerminal = true := by
        rintro ⟨earlier, member, terminal⟩
        exact List.find?_eq_none.mp missing _
          (List.mem_map_of_mem member) terminal
      refine iff_of_false ?_ running
      split <;> simp [Status.isTerminal]

/-- Without a terminal status, a task is in progress if it ever was. -/
theorem statusBehind_of_running
    (running : ∀ earlier ∈ snapshots, earlier.status.isTerminal = false) :
    statusBehind status snapshots =
      if status = .inProgress ∨
          ∃ earlier ∈ snapshots, earlier.status = .inProgress then
        .inProgress
      else .queued := by
  have missing :
      (snapshots.map (·.status)).find? Status.isTerminal = none := by
    simpa using running
  unfold statusBehind
  simp only [missing, List.mem_map]

/-- The transitions between statuses accept exactly the snapshots that are
accepted behind all those passed. -/
theorem canGoTo_statusBehind_iff :
    (statusBehind status snapshots).canGoTo snapshot.status = true ↔
      IsAccepted status snapshots snapshot := by
  rcases ended_or_running snapshots with ended | running
  · have terminal := (statusBehind_isTerminal_iff snapshots status).mpr ended
    obtain ⟨earlier, member, stops⟩ := ended
    refine iff_of_false ?_
      (not_isAccepted_of_terminal snapshots snapshot member stops)
    cases reached : statusBehind status snapshots <;>
      simp_all [Status.isTerminal, Status.canGoTo]
  · rw [statusBehind_of_running snapshots running]
    unfold IsAccepted
    rw [and_iff_right running]
    split
    · next busy =>
        simp only [Status.canGoTo, decide_eq_true_eq]
        constructor
        · exact fun other queued => absurd queued other
        · intro idle queued
          obtain ⟨start, never⟩ := idle queued
          rcases busy with started | ⟨earlier, member, progressed⟩
          · exact start started
          · exact never earlier member progressed
    · next idle =>
        simp only [not_or, not_exists, not_and] at idle
        exact iff_of_true rfl fun _ => idle

/-- One more snapshot is the status if it is accepted, and changes nothing
otherwise. -/
theorem statusBehind_concat :
    statusBehind status (snapshots ++ [snapshot]) =
      if IsAccepted status snapshots snapshot then snapshot.status
      else statusBehind status snapshots := by
  rcases ended_or_running snapshots with ⟨earlier, member, stops⟩ | running
  · rw [if_neg (not_isAccepted_of_terminal snapshots snapshot member stops)]
    have first :
        ((snapshots.map (·.status)).find? Status.isTerminal).isSome = true :=
      List.find?_isSome.mpr ⟨_, List.mem_map_of_mem member, stops⟩
    obtain ⟨terminal, found⟩ := Option.isSome_iff_exists.mp first
    unfold statusBehind
    simp only [List.map_append, List.find?_append, found, Option.some_or]
  · by_cases stops : snapshot.status.isTerminal = true
    · have waiting : snapshot.status ≠ .queued := by
        intro queued
        rw [queued] at stops
        exact nomatch stops
      rw [if_pos ⟨running, fun queued => absurd queued waiting⟩]
      have missing :
          (snapshots.map (·.status)).find? Status.isTerminal = none := by
        simpa using running
      unfold statusBehind
      simp only [List.map_append, List.find?_append, missing, List.map_cons,
        List.map_nil, List.find?_cons, stops, Option.none_or]
    · have further :
          ∀ earlier ∈ snapshots ++ [snapshot],
            earlier.status.isTerminal = false := by
        simpa [or_imp, forall_and] using And.intro running stops
      rw [statusBehind_of_running _ further,
        statusBehind_of_running snapshots running]
      cases last : snapshot.status <;>
        simp_all [IsAccepted, Status.isTerminal]

end

/-! ## One more observation -/

namespace Handle

theorem observeAll_append
    (handle : Handle)
    (first second : List Observation) :
    handle.observeAll (first ++ second) =
      (handle.observeAll first).observeAll second :=
  List.foldl_append

/-- The outcomes of status queries leave a handle as the observations do that
they make. -/
theorem afterOutcomes_eq_observeAll
    [Url.NameConversion]
    (handle : Handle)
    (outcomes : List Http.Outcome) :
    handle.afterOutcomes outcomes =
      handle.observeAll (outcomes.map Observation.ofOutcome) := by
  unfold afterOutcomes observeAll
  rw [List.foldl_map]
  congr 1
  funext current outcome
  unfold afterOutcome Observation.ofOutcome
  cases Service.reported? outcome <;> rfl

variable {handle : Handle}

/-- The closed form follows every observation. -/
theorem behindHistory_concat
    (history : List Observation)
    (observation : Observation) :
    handle.behindHistory (history ++ [observation]) =
      (handle.behindHistory history).observe observation := by
  cases observation with
  | fault code =>
      simp only [observe, recordStatusCode, behindHistory, snapshotsOf, codesOf,
        List.filterMap_append, List.filterMap_cons, List.filterMap_nil,
        Observation.snapshot?, Observation.code?, List.append_nil]
      cases code <;> simp
  | report snapshot code =>
      have accepts :
          (handle.behindHistory history).accepts snapshot = true ↔
            IsAccepted handle.status (snapshotsOf history) snapshot :=
        canGoTo_statusBehind_iff _ _
      have snapshots :
          snapshotsOf (history ++ [.report snapshot code]) =
            snapshotsOf history ++ [snapshot] :=
        List.filterMap_append
      have codes :
          codesOf (history ++ [.report snapshot code]) =
            codesOf history ++ [code] :=
        List.filterMap_append
      simp only [observe, advance, accepts]
      simp only [behindHistory, snapshots, codes, acceptedFrom_concat,
        statusBehind_concat, List.nil_append]
      split
      · cases credits : snapshot.credits <;>
          cases urls : snapshot.resultUrls <;>
          simp [credits, urls]
      · simp

/-- A handle that starts without a terminal status holds what its history
tells. -/
theorem observeAll_eq_behindHistory
    (unfinished : handle.status.isTerminal = false)
    (history : List Observation) :
    handle.observeAll history = handle.behindHistory history := by
  induction history using List.reverseRecOn with
  | nil =>
      cases status : handle.status <;>
        simp_all [observeAll, behindHistory, snapshotsOf, codesOf, acceptedFrom,
          statusBehind, Status.isTerminal]
      all_goals
        rw [← status]
  | append_singleton history observation inductionHypothesis =>
      rw [observeAll_append, inductionHypothesis,
        behindHistory_concat]
      rfl

/-- The outcomes of status queries leave of a handle what the history tells that
they make. -/
theorem afterOutcomes_eq_behindHistory
    [Url.NameConversion]
    (unfinished : handle.status.isTerminal = false)
    (outcomes : List Http.Outcome) :
    handle.afterOutcomes outcomes =
      handle.behindHistory (outcomes.map Observation.ofOutcome) := by
  rw [afterOutcomes_eq_observeAll, observeAll_eq_behindHistory unfinished]

/-- A handle accepts a snapshot exactly if it is accepted behind all snapshots
that were observed, whether they were accepted or not. -/
theorem accepts_observeAll_iff
    (unfinished : handle.status.isTerminal = false)
    (history : List Observation)
    (snapshot : Snapshot) :
    (handle.observeAll history).accepts snapshot = true ↔
      IsAccepted handle.status (snapshotsOf history) snapshot := by
  rw [observeAll_eq_behindHistory unfinished]
  exact canGoTo_statusBehind_iff _ _

/-- One observation leaves all but the last status code of a handle with a
terminal status. -/
theorem observe_of_terminal
    (terminal : handle.status.isTerminal = true)
    (observation : Observation) :
    handle.observe observation =
      { handle with
        lastStatusCode := (handle.observe observation).lastStatusCode } := by
  cases observation with
  | fault code => rfl
  | report snapshot code =>
      have refused : handle.accepts snapshot = false := by
        unfold accepts
        cases status : handle.status <;>
          simp_all [Status.isTerminal, Status.canGoTo]
      simp only [observe, advance, refused]
      rfl

/-- A history leaves all but the last status code of a handle with a terminal
status. -/
theorem observeAll_of_terminal
    (terminal : handle.status.isTerminal = true)
    (history : List Observation) :
    handle.observeAll history =
      { handle with
        lastStatusCode := (handle.observeAll history).lastStatusCode } := by
  induction history using List.reverseRecOn with
  | nil => rfl
  | append_singleton history observation inductionHypothesis =>
      have still :
          (handle.observeAll history).status.isTerminal = true := by
        rw [inductionHypothesis]
        exact terminal
      rw [observeAll_append]
      change (handle.observeAll history).observe observation = _
      rw [observe_of_terminal still, inductionHypothesis]
      rfl

/-- One observation loses neither credits nor addresses. -/
theorem known_observe (handle : Handle) (observation : Observation) :
    (handle.credits.isSome = true ->
        (handle.observe observation).credits.isSome = true) ∧
      (handle.resultUrls ≠ [] ->
        (handle.observe observation).resultUrls ≠ []) := by
  cases observation with
  | fault code => exact ⟨id, id⟩
  | report snapshot code =>
      simp only [observe, advance]
      split
      · cases snapshot.credits <;> cases snapshot.resultUrls <;> simp
      · exact ⟨id, id⟩

/-- No history loses credits or addresses. -/
theorem known_observeAll (handle : Handle) (history : List Observation) :
    (handle.credits.isSome = true ->
        (handle.observeAll history).credits.isSome = true) ∧
      (handle.resultUrls ≠ [] ->
        (handle.observeAll history).resultUrls ≠ []) := by
  induction history generalizing handle with
  | nil => exact ⟨id, id⟩
  | cons observation history inductionHypothesis =>
      obtain ⟨credits, urls⟩ := handle.known_observe observation
      obtain ⟨laterCredits, laterUrls⟩ :=
        inductionHypothesis (handle.observe observation)
      exact ⟨laterCredits ∘ credits, laterUrls ∘ urls⟩

/-- Whatever is observed of a task that starts without a terminal status, its
handle holds what the history tells, and accepts exactly the snapshots that are
accepted behind those observed.  Behind a terminal status only the last status
code changes, and known credits and addresses are never lost. -/
theorem follows_history
    (unfinished : handle.status.isTerminal = false)
    (history : List Observation) :
    handle.observeAll history = handle.behindHistory history ∧
      (∀ snapshot,
        (handle.observeAll history).accepts snapshot = true ↔
          IsAccepted handle.status (snapshotsOf history) snapshot) ∧
      ∀ later,
        ((∃ earlier ∈ snapshotsOf history,
            earlier.status.isTerminal = true) ->
          handle.observeAll (history ++ later) =
            { handle.observeAll history with
              lastStatusCode :=
                (handle.observeAll (history ++ later)).lastStatusCode }) ∧
        ((handle.observeAll history).credits.isSome = true ->
          (handle.observeAll (history ++ later)).credits.isSome = true) ∧
        ((handle.observeAll history).resultUrls ≠ [] ->
          (handle.observeAll (history ++ later)).resultUrls ≠ []) := by
  refine ⟨observeAll_eq_behindHistory unfinished history,
    accepts_observeAll_iff unfinished history, ?_⟩
  intro later
  rw [observeAll_append]
  refine ⟨?_, known_observeAll _ later⟩
  intro ended
  apply observeAll_of_terminal
  rw [observeAll_eq_behindHistory unfinished]
  exact (statusBehind_isTerminal_iff _ _).mpr ended

end Handle

/-! ## A history that wavers -/

/-- A handle of a task that waits in the queue. -/
def queuedHandle : Handle where
  taskId := "t"
  status := .queued
  credits := none
  resultUrls := []
  lastStatusCode := some 200
  timedOut := false

/-- Where a result can be fetched. -/
def resultAddress : Url :=
  ⟨"http".toList, [], none, some "h".toList, none, "/r".toList, none, none⟩

/-- A task that goes back to the queue, is completed and then fails. -/
def waveringHistory : List Observation :=
  [.report ⟨"t", .inProgress, some 3, none, []⟩ 200,
    .report ⟨"t", .queued, some 9, none, [resultAddress]⟩ 201,
    .fault (some 500),
    .report ⟨"t", .completed, none, none, [resultAddress]⟩ 200,
    .fault none,
    .report ⟨"t", .failed, some 4, none, []⟩ 203]

/-- What goes back is ignored, and so is all behind the completion but its
status code. -/
theorem follows_history_wavering :
    queuedHandle.status.isTerminal = false ∧
      queuedHandle.observeAll waveringHistory =
        { queuedHandle with
          status := .completed
          credits := some 3
          resultUrls := [resultAddress]
          lastStatusCode := some 203 } := by
  have unfinished : queuedHandle.status.isTerminal = false := rfl
  have told := (Handle.follows_history unfinished waveringHistory).1
  exact ⟨unfinished, told.trans (by decide)⟩

end RemoteTask

/-! ## The history of a watch -/

namespace Run

open RemoteTask (Observation)

/-- Awaiting a task leaves of its handle what the history of its queries tells,
marked as given up exactly where its status is still not terminal. -/
theorem awaitCompletion_handle
    [Url.NameConversion]
    {fuel : Nat}
    {transport : Transport}
    {request : Request}
    {policy : PollPolicy}
    {origin watch : Watch}
    (unfinished : origin.handle.status.isTerminal = false)
    (result :
      awaitCompletion fuel transport request policy origin = some watch) :
    ∃ queries,
      watch.journal.calls = origin.journal.calls ++ queries ∧
        let outcomes :=
          receivedBy transport watch.journal.now origin.journal.calls queries
        let held :=
          origin.handle.behindHistory (outcomes.map Observation.ofOutcome)
        watch.handle =
          if held.status.isTerminal then held else held.markTimedOut := by
  unfold awaitCompletion at result
  rw [Polling.finish_eq] at result
  split at result
  · next ended reached =>
      cases result
      obtain ⟨queries, -, handle, course, ending⟩ :=
        Polling.follows_of_after_start reached
      refine ⟨queries, course.calls, ?_⟩
      intro outcomes held
      have told : handle = held :=
        course.handle.trans
          (RemoteTask.Handle.afterOutcomes_eq_behindHistory unfinished outcomes)
      rw [← told]
      rcases ending with ⟨same, terminal, -⟩ | ⟨givenUp, nonterminal⟩
      · rw [if_pos terminal, same]
      · rw [nonterminal, givenUp]
        rfl
  · exact nomatch result

end Run
end FieldOcr
