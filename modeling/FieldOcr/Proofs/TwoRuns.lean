import FieldOcr.Proofs.Performing
import Mathlib.Data.List.Forall2

/-!
# Two runs side by side

Two runs are alike as long as they send requests that are alike at the same
times, and are told the same.  If their transports treat such runs in the same
way, then nothing behind the submission tells them apart.
-/

namespace FieldOcr
namespace Run

open RemoteTask (Handle)

section

variable (sent : Http.Request -> Http.Request -> Prop)

/-- Calls are alike if their requests are, at the same time. -/
structure CallsAlike (call twin : Call) : Prop where
  /-- They are made at the same time. -/
  time : twin.time = call.time
  /-- Their requests are alike. -/
  request : sent call.request twin.request

/-- Journals are alike if their calls are, and all else is the same. -/
structure JournalsAlike (journal twin : Journal) : Prop where
  /-- The same time has passed. -/
  now : twin.now = journal.now
  /-- The calls are alike in their order. -/
  calls : List.Forall₂ (CallsAlike sent) journal.calls twin.calls
  /-- The same is told. -/
  notices : twin.notices = journal.notices
  /-- The files are the same. -/
  files : twin.files = journal.files

/-- Transports give the same replies to requests that are alike, behind calls
that are alike. -/
def TransportsAlike (transport twin : Transport) : Prop :=
  ∀ {calls twinCalls request twinRequest},
    List.Forall₂ (CallsAlike sent) calls twinCalls ->
      sent request twinRequest ->
        twin twinCalls twinRequest = transport calls request

/-- Results of two runs are the same, behind journals that are alike. -/
structure ResultsAlike {α : Type} (result twin : α × Journal) : Prop where
  /-- The results are the same. -/
  value : twin.1 = result.1
  /-- The journals are alike. -/
  journal : JournalsAlike sent result.2 twin.2

theorem ResultsAlike.exists_eq
    {sent : Http.Request -> Http.Request -> Prop}
    {α : Type}
    {result twin : α × Journal}
    (results : ResultsAlike sent result twin) :
    ∃ value journal twinJournal,
      result = (value, journal) ∧ twin = (value, twinJournal) ∧
        JournalsAlike sent journal twinJournal :=
  ⟨result.1, result.2, twin.2, rfl, Prod.ext results.value rfl,
    results.journal⟩

/-- Watches are of the same task, behind journals that are alike. -/
structure WatchesAlike (watch twin : Watch) : Prop where
  /-- The task was observed in the same way. -/
  handle : twin.handle = watch.handle
  /-- The journals are alike. -/
  journal : JournalsAlike sent watch.journal twin.journal

/-- Watches that are alike have both ended or both go on. -/
inductive ProgressesAlike : Progress -> Progress -> Prop
  | watching {watch twin : Watch}
      (watches : WatchesAlike sent watch twin) :
      ProgressesAlike (.watching watch) (.watching twin)
  | ended {watch twin : Watch}
      (watches : WatchesAlike sent watch twin) :
      ProgressesAlike (.ended watch) (.ended twin)

/-- Pollings are alike if they send the same queries at the same times. -/
structure PollingsAlike (polling twin : Polling) : Prop where
  /-- Their transports are alike. -/
  transport : TransportsAlike sent polling.transport twin.transport
  /-- They send the same queries. -/
  query :
    ∀ taskId,
      Service.statusQuery twin.request taskId =
        Service.statusQuery polling.request taskId
  /-- They wait for the same time. -/
  interval : twin.interval = polling.interval
  /-- They have the same deadline. -/
  deadline : twin.deadline = polling.deadline

end

variable
  {sent : Http.Request -> Http.Request -> Prop}
  {transport twinTransport : Transport}
  {journal twinJournal : Journal}

/-! ## Journals -/

theorem JournalsAlike.refl
    (reflexive : ∀ request, sent request request)
    (journal : Journal) :
    JournalsAlike sent journal journal where
  now := rfl
  calls := List.forall₂_same.mpr fun call _ => ⟨rfl, reflexive call.request⟩
  notices := rfl
  files := rfl

section

variable (journals : JournalsAlike sent journal twinJournal)

include journals

theorem JournalsAlike.tell (event : Event) :
    JournalsAlike sent (journal.tell event) (twinJournal.tell event) where
  now := journals.now
  calls := journals.calls
  notices := by simp only [Journal.tell, journals.now, journals.notices]
  files := journals.files

theorem JournalsAlike.waitUntil (time : Nat) :
    JournalsAlike sent (journal.waitUntil time) (twinJournal.waitUntil time) where
  now := rfl
  calls := journals.calls
  notices := journals.notices
  files := journals.files

theorem JournalsAlike.withFiles (files : Storage.Tree) :
    JournalsAlike sent { journal with files := files }
      { twinJournal with files := files } where
  now := journals.now
  calls := journals.calls
  notices := journals.notices
  files := rfl

variable
  {request twinRequest : Http.Request}
  (requests : sent request twinRequest)

include requests

theorem JournalsAlike.send :
    JournalsAlike sent (journal.send request)
      (twinJournal.send twinRequest) where
  now := journals.now
  calls :=
    List.rel_append journals.calls (.cons ⟨journals.now, requests⟩ .nil)
  notices := journals.notices
  files := journals.files

variable (transports : TransportsAlike sent transport twinTransport)

include transports

/-- Requests that are alike have the same outcome at the same time. -/
theorem JournalsAlike.answered :
    JournalsAlike sent (journal.answered transport request)
      (twinJournal.answered twinTransport twinRequest) := by
  unfold Journal.answered
  rw [transports journals.calls requests, journals.now]
  exact (journals.send requests).waitUntil _

theorem JournalsAlike.outcome_eq :
    twinJournal.moment.outcome twinTransport twinRequest =
      journal.moment.outcome transport request :=
  congrArg Reply.outcome (transports journals.calls requests)

end

/-! ## Watches -/

namespace Polling

variable
  {polling twin : Polling}
  {watch twinWatch : Watch}
  (reflexive : ∀ request, sent request request)
  (pollings : PollingsAlike sent polling twin)
  (watches : WatchesAlike sent watch twinWatch)

include watches in
theorem nextQuery_alike (pollings : PollingsAlike sent polling twin) :
    twin.nextQuery twinWatch = polling.nextQuery watch := by
  unfold nextQuery
  rw [watches.handle, pollings.query]

include reflexive pollings watches

/-- The same is observed of tasks that are alike. -/
theorem observed_alike [Url.NameConversion] :
    WatchesAlike sent (polling.observed watch) (twin.observed twinWatch) := by
  have query := nextQuery_alike watches pollings
  have alike : sent (polling.nextQuery watch) (twin.nextQuery twinWatch) :=
    query ▸ reflexive _
  have outcome :
      twin.nextOutcome twinWatch = polling.nextOutcome watch :=
    watches.journal.outcome_eq alike pollings.transport
  constructor
  · rw [observed_handle, observed_handle, watches.handle, outcome]
  · rw [observed_journal, observed_journal, watches.handle, outcome]
    rw [congrArg Http.Request.url query]
    exact (watches.journal.answered alike pollings.transport).tell _

omit reflexive

/-- Tasks that are alike are settled in the same way. -/
theorem settle_alike :
    ProgressesAlike sent (polling.settle watch) (twin.settle twinWatch) := by
  have ending :
      twin.isOver watch.journal.now = polling.isOver watch.journal.now := by
    unfold isOver
    rw [pollings.deadline]
  unfold settle
  rw [watches.handle, watches.journal.now, ending]
  split
  · exact .ended watches
  split
  · exact .ended ⟨congrArg Handle.markTimedOut watches.handle, watches.journal⟩
  · exact .watching watches

include reflexive

theorem queryBy_alike [Url.NameConversion] (deadline : Nat) :
    ProgressesAlike sent (polling.queryBy deadline watch)
      (twin.queryBy deadline twinWatch) := by
  have observed := observed_alike reflexive pollings watches
  have query := nextQuery_alike watches pollings
  rw [queryBy_eq, queryBy_eq, observed.journal.now]
  split
  · exact settle_alike pollings observed
  · refine .ended ⟨congrArg Handle.markTimedOut watches.handle, ?_⟩
    exact (watches.journal.send (query ▸ reflexive _)).waitUntil deadline

theorem next_alike [Url.NameConversion] :
    ProgressesAlike sent (polling.next watch) (twin.next twinWatch) := by
  unfold next
  rw [watches.journal.now, pollings.interval, pollings.deadline]
  have waited :
      WatchesAlike sent
        ⟨watch.handle,
          watch.journal.waitUntil (watch.journal.now + polling.interval)⟩
        ⟨twinWatch.handle,
          twinWatch.journal.waitUntil
            (watch.journal.now + polling.interval)⟩ :=
    ⟨watches.handle, watches.journal.waitUntil _⟩
  cases polling.deadline with
  | none =>
      exact settle_alike pollings (observed_alike reflexive pollings waited)
  | some deadline =>
      simp only
      split
      · exact queryBy_alike reflexive pollings waited deadline
      · exact .ended
          ⟨congrArg Handle.markTimedOut watches.handle,
            watches.journal.waitUntil deadline⟩

theorem start_alike [Url.NameConversion] :
    ProgressesAlike sent (polling.start watch) (twin.start twinWatch) := by
  unfold start
  rw [watches.handle]
  split
  · exact .ended watches
  · exact settle_alike pollings (observed_alike reflexive pollings watches)

omit watches

/-- Watches that are alike stay alike. -/
theorem after_alike
    [Url.NameConversion]
    (rounds : Nat)
    {progress twinProgress : Progress}
    (progresses : ProgressesAlike sent progress twinProgress) :
    ProgressesAlike sent (polling.after rounds progress)
      (twin.after rounds twinProgress) := by
  induction rounds generalizing progress twinProgress with
  | zero => exact progresses
  | succ rounds inductionHypothesis =>
      cases progresses with
      | ended watches => exact .ended watches
      | watching watches =>
          exact inductionHypothesis (next_alike reflexive pollings watches)

end Polling

/-! ## Calls for a source and a result -/

section

variable
  (reflexive : ∀ request, sent request request)
  (transports : TransportsAlike sent transport twinTransport)
  (journals : JournalsAlike sent journal twinJournal)

include reflexive transports journals

/-- The same source is loaded. -/
theorem loadSource_alike
    [Url.NameConversion]
    (source : String)
    (timeout : Option Nat) :
    ResultsAlike sent (loadSource transport source timeout journal)
      (loadSource twinTransport source timeout twinJournal) := by
  have obtained :
      ResultsAlike sent (obtainSource transport source timeout journal)
        (obtainSource twinTransport source timeout twinJournal) := by
    unfold obtainSource
    split
    · unfold fetchSource
      split
      · exact ⟨rfl, journals⟩
      · next url _ =>
          have alike := reflexive (sourceRequest url timeout)
          simp only [exchange_eq]
          rw [journals.outcome_eq alike transports]
          exact ⟨rfl, journals.answered alike transports⟩
    · rw [journals.files]
      exact ⟨rfl, journals⟩
  obtain ⟨value, loaded, twinLoaded, first, second, loadedAlike⟩ :=
    obtained.exists_eq
  unfold loadSource
  rw [first, second]
  cases value with
  | error detail => exact ⟨rfl, loadedAlike⟩
  | ok payload =>
      simp only
      split <;> exact ⟨rfl, loadedAlike⟩

omit reflexive transports in
/-- The same content is kept in the same way. -/
theorem keepContent_alike
    (plan : Plan)
    (handle : Handle)
    (code : Nat)
    (content : List Char) :
    ResultsAlike sent (keepContent plan handle code content journal)
      (keepContent plan handle code content twinJournal) := by
  have told :=
    journals.tell (.validated handle.taskId (Text.byteLength content))
  unfold keepContent
  cases plan.request.destination with
  | none => exact ⟨rfl, told⟩
  | some path =>
      simp only [writeDestination]
      rw [told.files]
      rcases plan.disk.replace _ path _ with ⟨after, written⟩
      cases written <;> exact ⟨rfl, told.withFiles after⟩

/-- The same result is downloaded. -/
theorem downloadFrom_alike
    (plan : Plan)
    (handle : Handle)
    (location : Url)
    (size : Service.ResultSize) :
    ResultsAlike sent
      (downloadFrom transport plan handle location size journal)
      (downloadFrom twinTransport plan handle location size twinJournal) := by
  have alike := reflexive (Service.download plan.request location)
  have answered := journals.answered alike transports
  unfold downloadFrom
  simp only [exchange_eq]
  rw [journals.outcome_eq alike transports]
  split
  · exact ⟨rfl, answered⟩
  split
  · exact ⟨rfl, answered⟩
  · exact keepContent_alike answered plan handle _ _

/-- The same result is fetched from an address. -/
theorem fetchFrom_alike (plan : Plan) (handle : Handle) (location : Url) :
    ResultsAlike sent (fetchFrom transport plan handle location journal)
      (fetchFrom twinTransport plan handle location twinJournal) := by
  have alike := reflexive (Service.sizeQuery plan.request location)
  have answered := journals.answered alike transports
  unfold fetchFrom
  simp only [exchange_eq]
  rw [journals.outcome_eq alike transports]
  split
  · exact ⟨rfl, answered⟩
  · exact downloadFrom_alike reflexive transports answered plan handle
      location _

/-- The same record is made of a task. -/
theorem fetch_alike (plan : Plan) (handle : Handle) :
    ResultsAlike sent (fetch transport plan handle journal)
      (fetch twinTransport plan handle twinJournal) := by
  unfold fetch fetchCompleted
  split
  · simp only
    split
    · exact ⟨rfl, journals⟩
    · next location _ =>
        obtain ⟨result, ended, twinEnded, first, second, endedAlike⟩ :=
          (fetchFrom_alike reflexive transports journals plan handle
            location).exists_eq
        rw [first, second]
        cases result <;> exact ⟨rfl, endedAlike⟩
  · exact ⟨rfl, journals⟩
  · exact ⟨rfl, journals⟩
  all_goals split <;> exact ⟨rfl, journals⟩

end

end Run
end FieldOcr
