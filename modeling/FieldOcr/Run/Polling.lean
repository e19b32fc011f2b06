import FieldOcr.RemoteTask.Failure
import FieldOcr.RemoteTask.Handle
import FieldOcr.Request.Options
import FieldOcr.Run.Journal
import FieldOcr.Service.Call

/-!
# Polling

A task is watched by status queries until it reaches a terminal status or a
deadline passes.  The first query is sent at once and its outcome always
counts.  Every later query is sent an interval after the last outcome, unless
that is behind the deadline, and its outcome counts unless it arrives behind
the deadline.  A query that fails is told and does not end the watch.
-/

namespace FieldOcr
namespace Run

open RemoteTask (Failure Handle)

variable [Url.NameConversion]

/-- How a task is watched. -/
structure Polling where
  /-- The replies to queries. -/
  transport : Transport
  /-- The request of the task. -/
  request : Request
  /-- The time between an outcome and the next query. -/
  interval : Nat
  /-- The time behind which no query and no outcome counts. -/
  deadline : Option Nat

/-- A task that is watched. -/
structure Watch where
  /-- The task as far as it was observed. -/
  handle : Handle
  /-- What has happened so far. -/
  journal : Journal
  deriving DecidableEq, Repr

/-- A watch that goes on or has ended. -/
inductive Progress
  | watching (watch : Watch)
  | ended (watch : Watch)
  deriving DecidableEq, Repr

/-- The failure of a status query. -/
def pollFailure (taskId : String) (fault : Service.CallFault) : Failure :=
  .polling taskId fault.statusCode fault.message

/-- A watch after the outcome of a query. -/
def Watch.observe
    (watch : Watch)
    (url : Url)
    (outcome : Http.Outcome) : Watch :=
  match Service.readTaskReply url outcome with
  | .ok reply =>
      let handle := watch.handle.advance reply.snapshot reply.statusCode
      ⟨handle, watch.journal.tell (.status handle.taskId handle.status)⟩
  | .error fault =>
      let taskId := watch.handle.taskId
      ⟨watch.handle.recordStatusCode fault.statusCode,
        watch.journal.tell
          (.pollFault taskId (pollFailure taskId fault).message)⟩

/-- A watch that is given up. -/
def Watch.giveUp (watch : Watch) : Watch :=
  { watch with handle := watch.handle.markTimedOut }

namespace Polling

/-- Whether a time is at the deadline or behind it. -/
def isOver (polling : Polling) (time : Nat) : Bool :=
  match polling.deadline with
  | none => false
  | some deadline => deadline ≤ time

/-- Ends a watch at a terminal status or at the deadline. -/
def settle (polling : Polling) (watch : Watch) : Progress :=
  if watch.handle.status.isTerminal then .ended watch
  else if polling.isOver watch.journal.now then .ended watch.giveUp
  else .watching watch

/-- Sends a query and waits for its outcome, however long that takes. -/
def query (polling : Polling) (watch : Watch) : Progress :=
  let request :=
    Service.statusQuery polling.request watch.handle.taskId
  let (outcome, answered) :=
    exchange polling.transport request watch.journal
  polling.settle
    (Watch.observe ⟨watch.handle, answered⟩ request.url outcome)

/-- Sends a query and waits for its outcome up to a deadline. -/
def queryBy
    (polling : Polling)
    (deadline : Nat)
    (watch : Watch) : Progress :=
  let request :=
    Service.statusQuery polling.request watch.handle.taskId
  match exchangeBy polling.transport deadline request watch.journal with
  | (none, dropped) => .ended (Watch.giveUp ⟨watch.handle, dropped⟩)
  | (some outcome, answered) =>
      polling.settle
        (Watch.observe ⟨watch.handle, answered⟩ request.url outcome)

/-- Waits for the interval and sends the next query. -/
def next (polling : Polling) (watch : Watch) : Progress :=
  let tick := watch.journal.now + polling.interval
  let waited : Watch := ⟨watch.handle, watch.journal.waitUntil tick⟩
  match polling.deadline with
  | none => polling.query waited
  | some deadline =>
      if tick ≤ deadline then polling.queryBy deadline waited
      else
        .ended
          (Watch.giveUp
            ⟨watch.handle, watch.journal.waitUntil deadline⟩)

/-- Starts a watch. -/
def start (polling : Polling) (watch : Watch) : Progress :=
  if watch.handle.status.isTerminal then .ended watch
  else polling.query watch

/-- Goes on with a watch until it ends, for at most a number of queries. -/
def finish (polling : Polling) : Nat -> Progress -> Option Watch
  | _, .ended watch => some watch
  | 0, .watching _ => none
  | fuel + 1, .watching watch => finish polling fuel (polling.next watch)

/-- Goes on with a watch until it ends or a time has passed, for at most a
number of queries. -/
def goOnUntil (polling : Polling) (time : Nat) : Nat -> Progress -> Progress
  | _, .ended watch => .ended watch
  | 0, .watching watch => .watching watch
  | fuel + 1, .watching watch =>
      if time < watch.journal.now then .watching watch
      else goOnUntil polling time fuel (polling.next watch)

end Polling

/-- The polling of a request from a time on. -/
def pollingFrom
    (transport : Transport)
    (request : Request)
    (policy : PollPolicy)
    (time : Nat) : Polling where
  transport := transport
  request := request
  interval := policy.interval
  deadline := policy.timeout.map (time + ·)

/-- Watches a task until it ends or waiting for it is given up.  There is no
result where more queries are needed than allowed. -/
def awaitCompletion
    (fuel : Nat)
    (transport : Transport)
    (request : Request)
    (policy : PollPolicy)
    (watch : Watch) : Option Watch :=
  let polling := pollingFrom transport request policy watch.journal.now
  polling.finish fuel (polling.start watch)

/-- Watches a task for some time.  If the watch has not ended by then, nothing
counts that would have happened later. -/
def awaitFor
    (fuel patience : Nat)
    (transport : Transport)
    (request : Request)
    (policy : PollPolicy)
    (watch : Watch) : Progress :=
  let polling := pollingFrom transport request policy watch.journal.now
  let time := watch.journal.now + patience
  let interrupted (later : Watch) : Progress :=
    .watching ⟨watch.handle, later.journal.cutAt time⟩
  match polling.goOnUntil time fuel (polling.start watch) with
  | .watching later => interrupted later
  | .ended later =>
      if later.journal.now ≤ time then .ended later else interrupted later

end Run
end FieldOcr
