import FieldOcr.Proofs.Awaiting
import FieldOcr.Proofs.Settling
import FieldOcr.Run.Script

/-!
# Relaxed limits

Two watches of one task that differ only in their deadlines go in step until
the one with the shorter deadline gives up.  So a run that was not given up
goes in the same way with more time, and a run that succeeded does so with a
greater size limit as well.
-/

namespace FieldOcr
namespace Run

open RemoteTask (Failure Handle)

/-- A time limit leaves at least as much time as another one does. -/
def Extends (limit shorter : Option Nat) : Prop :=
  ∀ time, limit = some time -> ∃ least, shorter = some least ∧ least ≤ time

/-- More time leaves more time from any moment on. -/
theorem Extends.from
    {limit shorter : Option Nat}
    (longer : Extends limit shorter)
    (moment : Nat) :
    Extends (limit.map (moment + ·)) (shorter.map (moment + ·)) := by
  intro time reached
  obtain ⟨wait, limited, rfl⟩ := Option.map_eq_some_iff.mp reached
  obtain ⟨least, known, le⟩ := longer wait limited
  exact ⟨moment + least, by rw [known]; rfl, Nat.add_le_add_left le moment⟩

/-- A plan with another time limit for its task and another size limit for its
result. -/
def Plan.within (plan : Plan) (timeout : Option Nat) (limit : Nat) : Plan :=
  { plan with
    options :=
      { plan.options with
        poll := { plan.options.poll with timeout := timeout }
        sizeLimit := limit } }

theorem Plan.within_request
    (plan : Plan)
    (timeout : Option Nat)
    (limit : Nat) :
    (plan.within timeout limit).request = plan.request := rfl

/-! ## Watches in step -/

namespace Polling

/-- A polling with another deadline. -/
def withDeadline (polling : Polling) (deadline : Option Nat) : Polling :=
  { polling with deadline := deadline }

/-- A watch stands where another one with a later deadline does, or was given
up. -/
inductive InStep : Progress -> Progress -> Prop
  | watching {watch : Watch}
      (unfinished : watch.handle.status.isTerminal = false) :
      InStep (.watching watch) (.watching watch)
  | ended {watch : Watch} :
      InStep (.ended watch) (.ended watch)
  | givenUp {watch : Watch} {relaxed : Progress}
      (unfinished : watch.handle.status.isTerminal = false) :
      InStep (.ended watch) relaxed

/-- What has ended with a terminal status has ended so with a later
deadline. -/
theorem InStep.eq_of_terminal
    {watch : Watch}
    {relaxed : Progress}
    (inStep : InStep (.ended watch) relaxed)
    (terminal : watch.handle.status.isTerminal = true) :
    relaxed = .ended watch := by
  cases inStep with
  | ended => rfl
  | givenUp unfinished => exact nomatch unfinished.symm.trans terminal

variable
  {polling : Polling}
  {deadline : Option Nat}
  (later : Extends deadline polling.deadline)

include later

theorem settle_inStep (watch : Watch) :
    InStep (polling.settle watch)
      ((polling.withDeadline deadline).settle watch) := by
  rcases polling.settle_cases watch with
    ⟨terminal, settled⟩ | ⟨unfinished, early, settled⟩ |
    ⟨unfinished, -, settled⟩
  · rw [settled, settle, if_pos terminal]
    exact .ended
  · rw [settled]
    rcases (polling.withDeadline deadline).settle_cases watch with
      ⟨terminal, -⟩ | ⟨-, -, relaxed⟩ | ⟨-, ⟨time, limit, late⟩, -⟩
    · exact absurd (unfinished.symm.trans terminal) Bool.false_ne_true
    · rw [relaxed]
      exact .watching unfinished
    · obtain ⟨least, shorter, le⟩ := later time limit
      exact absurd (Nat.le_trans le late)
        (Nat.not_le_of_lt (early least shorter))
  · rw [settled]
    exact .givenUp unfinished

theorem next_inStep
    [Url.NameConversion]
    {watch : Watch}
    (unfinished : watch.handle.status.isTerminal = false) :
    InStep (polling.next watch)
      ((polling.withDeadline deadline).next watch) := by
  rcases polling.next_cases watch with
    ⟨inTime, next⟩ | ⟨-, journal, next⟩
  · rw [next]
    rcases (polling.withDeadline deadline).next_cases watch with
      ⟨-, relaxed⟩ | ⟨⟨time, limit, late⟩, -⟩
    · rw [relaxed]
      exact settle_inStep later (polling.observed (polling.ticked watch))
    · -- A query that is in time for the deadline is so for a later one.
      obtain ⟨least, shorter, le⟩ := later time limit
      obtain ⟨due, arrival⟩ := inTime least shorter
      exact absurd ⟨Nat.le_trans due le, Nat.le_trans arrival le⟩ late
  · rw [next]
    exact .givenUp unfinished

theorem start_inStep [Url.NameConversion] (watch : Watch) :
    InStep (polling.start watch)
      ((polling.withDeadline deadline).start watch) := by
  unfold start
  split
  · exact .ended
  · exact settle_inStep later (polling.observed watch)

/-- Watches in step stay in step. -/
theorem after_inStep
    [Url.NameConversion]
    (rounds : Nat)
    {progress relaxed : Progress}
    (inStep : InStep progress relaxed) :
    InStep (polling.after rounds progress)
      ((polling.withDeadline deadline).after rounds relaxed) := by
  induction rounds generalizing progress relaxed with
  | zero => exact inStep
  | succ rounds inductionHypothesis =>
      cases inStep with
      | watching unfinished =>
          exact inductionHypothesis (next_inStep later unfinished)
      | ended => exact .ended
      | givenUp unfinished => exact .givenUp unfinished

/-- A watch that comes to a terminal status does so with a later deadline. -/
theorem after_start_relaxed
    [Url.NameConversion]
    {rounds : Nat}
    {origin watch : Watch}
    (reached : polling.after rounds (polling.start origin) = .ended watch)
    (terminal : watch.handle.status.isTerminal = true) :
    (polling.withDeadline deadline).after rounds
        ((polling.withDeadline deadline).start origin) =
      .ended watch := by
  have inStep := after_inStep later rounds (start_inStep later origin)
  rw [reached] at inStep
  exact inStep.eq_of_terminal terminal

end Polling

/-- A plan with another time limit has another deadline. -/
theorem pollingFrom_within
    (transport : Transport)
    (plan : Plan)
    (timeout : Option Nat)
    (limit time : Nat) :
    pollingFrom transport plan.request (plan.within timeout limit).options.poll
        time =
      (pollingFrom transport plan.request plan.options.poll time).withDeadline
        (timeout.map (time + ·)) := rfl

/-! ## Results below a greater limit -/

section

variable
  {transport : Transport}
  {plan : Plan}
  {timeout : Option Nat}
  {limit : Nat}
  {handle : Handle}
  {journal fetched again : Journal}

/-- A result that is delivered is delivered in the same way below a greater
limit. -/
theorem FetchedFrom.relaxed
    (greater : plan.options.sizeLimit ≤ limit)
    {location : Url}
    {record : Record}
    {result : Except Abort Record}
    (ending :
      FetchedFrom transport plan location journal handle (.ok record) fetched)
    (relaxed :
      FetchedFrom transport (plan.within timeout limit) location journal handle
        result again) :
    result = .ok record ∧ again = fetched := by
  cases ending with
  | delivered passes downloaded acceptable stored still kept =>
      obtain ⟨bytes, announced, fits⟩ := passes
      cases relaxed with
      | tooLarge announcedAgain above =>
          cases announced.symm.trans announcedAgain
          exact absurd (Nat.le_trans fits greater) (Nat.not_le_of_lt above)
      | sizeUnavailable _ unannounced =>
          exact nomatch announced.symm.trans unannounced
      | downloadFailed _ _ failed =>
          exact nomatch downloaded.symm.trans failed
      | rejected _ downloadedAgain unacceptable =>
          cases downloaded.symm.trans downloadedAgain
          have size := Nat.le_trans acceptable.size greater
          exact absurd ⟨size, acceptable.content⟩ unacceptable
      | unwritten _ _ _ downloadedAgain _ unstored =>
          cases downloaded.symm.trans downloadedAgain
          exact absurd stored unstored
      | delivered _ downloadedAgain _ _ _ keptAgain =>
          cases downloaded.symm.trans downloadedAgain
          exact ⟨rfl, keptAgain.trans kept.symm⟩

/-- A success is made in the same way below a greater limit. -/
theorem Fetched.relaxed
    (greater : plan.options.sizeLimit ≤ limit)
    {record other : Record}
    (ending : Fetched transport plan journal handle record fetched)
    (succeeded : record.succeeded = true)
    (relaxed :
      Fetched transport (plan.within timeout limit) journal handle other
        again) :
    other = record ∧ again = fetched := by
  cases ending with
  | stopped | givenUp | unfinished | unlocated => exact nomatch succeeded
  | @fetched location result _ completed located ended =>
      cases result with
      | error abort =>
          exact nomatch (abort.record_succeeded handle).symm.trans succeeded
      | ok record =>
          cases relaxed with
          | stopped stopped =>
              rw [completed] at stopped
              exact nomatch stopped
          | givenUp unfinished | unfinished unfinished =>
              rw [completed] at unfinished
              exact nomatch unfinished
          | unlocated _ unlocated => exact nomatch located.symm.trans unlocated
          | fetched _ locatedAgain endedAgain =>
              cases located.symm.trans locatedAgain
              obtain ⟨rfl, rfl⟩ := ended.relaxed greater endedAgain
              exact ⟨rfl, rfl⟩

/-- The record of a task that was not given up is made at a terminal status,
if the handles without one are marked. -/
theorem Fetched.terminal
    {record : Record}
    (ending : Fetched transport plan journal handle record fetched)
    (finished : record.timedOut = false)
    (marked : handle.status.isTerminal = false -> handle.timedOut = true) :
    handle.status.isTerminal = true := by
  apply Bool.of_not_eq_false
  intro unfinished
  cases ending with
  | stopped stopped =>
      cases status : handle.status <;>
        simp_all [Failure.ofStatus?, RemoteTask.Status.isTerminal]
  | givenUp => exact nomatch finished
  | unfinished _ untimed => exact nomatch untimed.symm.trans (marked unfinished)
  | unlocated completed | fetched completed =>
      rw [completed] at unfinished
      exact nomatch unfinished

/-- The same record is made of a task with more time, and with a greater limit
if it is a success. -/
theorem fetch_relaxed
    (handle : Handle)
    (journal : Journal)
    (allowed :
      limit = plan.options.sizeLimit ∨
        (fetch transport plan handle journal).1.succeeded = true ∧
          plan.options.sizeLimit ≤ limit) :
    fetch transport (plan.within timeout limit) handle journal =
      fetch transport plan handle journal := by
  rcases allowed with rfl | ⟨succeeded, greater⟩
  · rfl
  · have ending := fetch_fetched transport plan handle journal
    have relaxed :=
      fetch_fetched transport (plan.within timeout limit) handle journal
    obtain ⟨record, after⟩ := ending.relaxed greater succeeded relaxed
    exact Prod.ext record after

/-- What a run comes to without being given up, it comes to with more time, and
a success with a greater limit. -/
theorem performFor_relaxed
    [Url.NameConversion]
    (longer : Extends timeout plan.options.poll.timeout)
    {rounds : Nat}
    {record : Record}
    {ended : Journal}
    (reached : performFor rounds transport plan journal = (some record, ended))
    (finished : record.timedOut = false)
    (allowed :
      limit = plan.options.sizeLimit ∨
        record.succeeded = true ∧ plan.options.sizeLimit ≤ limit) :
    performFor rounds transport (plan.within timeout limit) journal =
      (some record, ended) := by
  unfold performFor at reached ⊢
  rw [Plan.within_request]
  rcases submitting : submit transport plan.request journal with
    ⟨failure | handle, submitted⟩
  · rw [submitting] at reached
    exact reached
  · simp only [submitting, pollingFrom_within] at reached ⊢
    have later := longer.from submitted.now
    generalize polled :
      pollingFrom transport plan.request plan.options.poll submitted.now =
        polling at reached ⊢
    have deadline :
        polling.deadline = plan.options.poll.timeout.map (submitted.now + ·) :=
      polled ▸ rfl
    cases watched :
        polling.after rounds (polling.start ⟨handle, submitted⟩) with
    | watching watch =>
        rw [watched] at reached
        exact nomatch reached
    | ended watch =>
        simp only [watched, Prod.mk.injEq, Option.some.injEq] at reached
        obtain ⟨made, told⟩ := reached
        obtain ⟨queries, -, follows⟩ := Polling.follows_of_after_start watched
        have ending := fetch_fetched transport plan watch.handle watch.journal
        rw [made] at ending
        have terminal := ending.terminal finished
          fun unfinished => follows.timedOut_iff.mpr (Or.inl unfinished)
        rw [← deadline] at later
        rw [Polling.after_start_relaxed later watched terminal]
        rw [← made] at allowed
        simp only [fetch_relaxed watch.handle watch.journal allowed]
        exact Prod.ext (congrArg some made) told

/-- A run that was not given up comes to the same end with any longer time
limit: the same calls at the same times, the same events, files and record.  A
run that succeeded does so with any greater size limit as well. -/
theorem returns_relaxed_iff
    [Url.NameConversion]
    {report : Report}
    (returned : Returns transport plan journal report)
    (finished : report.record.timedOut = false)
    (longer : Extends timeout plan.options.poll.timeout)
    (allowed :
      limit = plan.options.sizeLimit ∨
        report.record.succeeded = true ∧ plan.options.sizeLimit ≤ limit)
    (other : Report) :
    Returns transport (plan.within timeout limit) journal other ↔
      other = report := by
  obtain ⟨rounds, reached⟩ := returns_iff.mp returned
  have again : Returns transport (plan.within timeout limit) journal report :=
    returns_iff.mpr ⟨rounds, performFor_relaxed longer reached finished allowed⟩
  constructor
  · exact fun relaxed => relaxed.unique again
  · rintro rfl
    exact again

end

/-! ## A task that is completed at its deadline -/

/-- A plan for a text of two bytes that leaves its task 1030 milliseconds. -/
def tightPlan : Plan :=
  { narrowPlan with
    request := { narrowPlan.request with exportFormat := .txt }
    options :=
      { poll := { interval := 1000, timeout := some 1030 }
        sizeLimit := 2 } }

/-- A response of success with the envelope of a task. -/
def taskResponse (attributes : String) : Http.Outcome :=
  .response
    { status := 200
      body :=
        Text.Utf8.encode
          ("<r><task id='t' " ++ attributes ++ "/></r>").toList }

/-- A service whose second status reply arrives at the deadline of the task, and
completes it. -/
def punctualScript : Script :=
  [("POST http://service/processTextField",
      [⟨20, taskResponse "status='Queued'"⟩]),
    ("GET http://service/getTaskStatus",
      [⟨10, taskResponse "status='InProgress'"⟩,
        ⟨20, taskResponse "status='Completed' resultUrl='http://h/r'"⟩]),
    ("HEAD http://h/r",
      [⟨5, .response
        { status := 200, headers := [("Content-Length", "2")] }⟩]),
    ("GET http://h/r", [⟨5, .response { status := 200, body := [104, 105] }⟩])]

/-- The text is delivered at the same time without any deadline, and with a
greater limit. -/
theorem returns_relaxed_iff_punctualScript :
    ∃ report,
      Returns punctualScript.transport tightPlan journalWithSource report ∧
        report.record.succeeded = true ∧
        report.record.timedOut = false ∧
        report.journal.now = 1060 ∧
        Extends none tightPlan.options.poll.timeout ∧
        tightPlan.options.sizeLimit ≤ 9 ∧
        ∀ other,
          Returns punctualScript.transport (tightPlan.within none 9)
              journalWithSource other ↔
            other = report := by
  have known :
      (perform 1 punctualScript.transport tightPlan journalWithSource).map
          (fun report =>
            (report.record.succeeded, report.record.timedOut,
              report.journal.now)) =
        some (true, false, 1060) := by
    decide +kernel
  obtain ⟨report, performed, known⟩ := Option.map_eq_some_iff.mp known
  have succeeded : report.record.succeeded = true := congrArg Prod.fst known
  have finished : report.record.timedOut = false :=
    congrArg (·.2.1) known
  have time : report.journal.now = 1060 := congrArg (·.2.2) known
  have returned :
      Returns punctualScript.transport tightPlan journalWithSource report :=
    ⟨1, performed⟩
  have endless : Extends none tightPlan.options.poll.timeout := nofun
  have greater : tightPlan.options.sizeLimit ≤ 9 := by decide
  exact ⟨report, returned, succeeded, finished, time, endless, greater,
    returns_relaxed_iff returned finished endless
      (Or.inr ⟨succeeded, greater⟩)⟩

end Run
end FieldOcr
