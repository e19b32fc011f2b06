import FieldOcr.Http.Message
import FieldOcr.RemoteTask.Status
import FieldOcr.Storage.Tree

/-!
# Journals

A *journal* keeps what a run does to the world: the time that has passed, the
calls that were made, the events that an observer is told and the files.
Times are counted in milliseconds.

A *transport* answers each request.  Its reply may depend on all earlier calls
and takes some time to arrive.
-/

namespace FieldOcr
namespace Run

/-- A request and the time at which it was sent. -/
structure Call where
  /-- The time at which the request was sent. -/
  time : Nat
  /-- The request. -/
  request : Http.Request
  deriving DecidableEq, Repr

/-- What comes of a request, and after what time. -/
structure Reply where
  /-- The time that the reply takes. -/
  delay : Nat
  /-- What comes of the request. -/
  outcome : Http.Outcome
  deriving DecidableEq, Repr

/-- The replies to requests, given the earlier calls in their order. -/
abbrev Transport :=
  List Call -> Http.Request -> Reply

/-- What an observer is told. -/
inductive Event
  | submitted (taskId : String)
  | status (taskId : String) (status : RemoteTask.Status)
  | pollFault (taskId : String) (message : String)
  | validated (taskId : String) (bytes : Nat)
  | complete (taskId : Option String) (succeeded : Bool)
  deriving DecidableEq, Repr

/-- An event and its time. -/
structure Notice where
  /-- The time of the event. -/
  time : Nat
  /-- The event. -/
  event : Event
  deriving DecidableEq, Repr

/-- What has happened so far. -/
structure Journal where
  /-- The time that has passed. -/
  now : Nat
  /-- The calls in their order. -/
  calls : List Call
  /-- The events in their order. -/
  notices : List Notice
  /-- The files. -/
  files : Storage.Tree
  deriving DecidableEq, Repr

namespace Journal

/-- The journal in front of a run. -/
def initial (files : Storage.Tree) : Journal :=
  ⟨0, [], [], files⟩

/-- Tells an event. -/
def tell (journal : Journal) (event : Event) : Journal :=
  { journal with notices := journal.notices ++ [⟨journal.now, event⟩] }

/-- Waits until a time. -/
def waitUntil (journal : Journal) (time : Nat) : Journal :=
  { journal with now := time }

/-- Sends a request without waiting for its reply. -/
def send (journal : Journal) (request : Http.Request) : Journal :=
  { journal with calls := journal.calls ++ [⟨journal.now, request⟩] }

/-- What remains of a journal when all that happened behind a time is left
out. -/
def cutAt (journal : Journal) (time : Nat) : Journal where
  now := time
  calls := journal.calls.filter (·.time ≤ time)
  notices := journal.notices.filter (·.time ≤ time)
  files := journal.files

end Journal

/-- Sends a request and waits for its reply. -/
def exchange
    (transport : Transport)
    (request : Http.Request)
    (journal : Journal) : Http.Outcome × Journal :=
  let reply := transport journal.calls request
  (reply.outcome,
    (journal.send request).waitUntil (journal.now + reply.delay))

/-- Sends a request and waits for its reply, but not beyond a deadline; a reply
that arrives at the deadline still counts. -/
def exchangeBy
    (transport : Transport)
    (deadline : Nat)
    (request : Http.Request)
    (journal : Journal) : Option Http.Outcome × Journal :=
  let reply := transport journal.calls request
  let arrival := journal.now + reply.delay
  if arrival ≤ deadline then
    (some reply.outcome, (journal.send request).waitUntil arrival)
  else (none, (journal.send request).waitUntil deadline)

end Run
end FieldOcr
