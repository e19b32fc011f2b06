import FieldOcr.Charset.Encode
import FieldOcr.Run.Perform
import FieldOcr.Url.Parser

/-!
# Sessions

A *session* takes single steps of a run, in any order.  It holds one task at a
time, which submitting or adopting a task replaces.
-/

namespace FieldOcr
namespace Run

open RemoteTask (Failure Handle Rejection ResultDescriptor Snapshot)
open Service (CallFault Downloaded ResultSize TaskReply)

variable [Url.NameConversion]

/-- The task that a session holds and what has happened so far. -/
structure Session where
  /-- The task, if there is one. -/
  handle : Option Handle
  /-- What has happened so far. -/
  journal : Journal
  deriving DecidableEq, Repr

/-- What the steps of a session share. -/
structure Setting where
  /-- The replies to requests. -/
  transport : Transport
  /-- What the session is about. -/
  plan : Plan
  /-- The greatest number of queries of one watch. -/
  fuel : Nat

/-- A step of a session. -/
inductive Step
  | run
  | submit
  | adopt (snapshot : Snapshot) (code : Nat)
  | await (policy : PollPolicy) (patience : Option Nat)
  | fetch
  | describe (format : Recognition.ExportFormat)
  | sendPayload (payload : List UInt8)
  | queryStatus (taskId : String)
  | querySize (location : String)
  | download (location : String)
  | checkSize (location : String)
  | repeatQuery (taskId : String) (interval count : Nat)
  | loadSource (source : String) (timeout : Option Nat)
  | write (path : String) (charset : Charset) (content : List Char)
  deriving Repr

/-- What a step ends with. -/
inductive Finding
  | done
  | interrupted
  | noHandle
  | unfinished
  | record (record : Record)
  | descriptor (descriptor : ResultDescriptor)
  | task (reply : TaskReply)
  | size (size : ResultSize)
  | downloaded (downloaded : Downloaded)
  | queries (replies : List (Except CallFault TaskReply))
  | payload (bytes : List UInt8)
  | written (path : String)
  | failure (failure : Failure)
  | rejection (rejection : Rejection)
  | callFault (fault : CallFault)
  | addressFault (fault : Url.Fault)

/-- The finding of a result. -/
def Finding.ofResult
    (success : α -> Finding)
    (failure : ε -> Finding) : Except ε α -> Finding
  | .ok value => success value
  | .error cause => failure cause

/-- Asks for the status of a task. -/
def queryStatus
    (setting : Setting)
    (taskId : String)
    (journal : Journal) : Except CallFault TaskReply × Journal :=
  let request := Service.statusQuery setting.plan.request taskId
  let (outcome, answered) := exchange setting.transport request journal
  (Service.readTaskReply request.url outcome, answered)

/-- Asks for the status of a task several times more, each time after an
interval. -/
def queryAgain
    (setting : Setting)
    (taskId : String)
    (interval : Nat)
    (journal : Journal) :
    Nat -> List (Except CallFault TaskReply) × Journal
  | 0 => ([], journal)
  | count + 1 =>
      let waited := journal.waitUntil (journal.now + interval)
      let (reply, answered) := queryStatus setting taskId waited
      let (replies, ended) :=
        queryAgain setting taskId interval answered count
      (reply :: replies, ended)

/-- Asks for the status of a task several times, the first time at once. -/
def queryRepeatedly
    (setting : Setting)
    (taskId : String)
    (interval : Nat)
    (journal : Journal) :
    Nat -> List (Except CallFault TaskReply) × Journal
  | 0 => ([], journal)
  | count + 1 =>
      let (reply, answered) := queryStatus setting taskId journal
      let (replies, ended) :=
        queryAgain setting taskId interval answered count
      (reply :: replies, ended)

namespace Session

/-- The session in front of its first step. -/
def initial (files : Storage.Tree) : Session :=
  ⟨none, .initial files⟩

/-- A session whose task stays as it is. -/
def goOn
    (session : Session)
    (step : Finding × Journal) : Finding × Session :=
  (step.1, { session with journal := step.2 })

/-- Performs a whole run, which leaves the session's task alone. -/
def run (setting : Setting) (session : Session) : Finding × Session :=
  match
      perform setting.fuel setting.transport setting.plan session.journal with
  | none => (.unfinished, session)
  | some report => session.goOn (.record report.record, report.journal)

/-- Submits a task and holds it. -/
def submit (setting : Setting) (session : Session) : Finding × Session :=
  match
      Run.submit setting.transport setting.plan.request session.journal with
  | (.error failure, journal) => (.failure failure, ⟨none, journal⟩)
  | (.ok handle, journal) => (.done, ⟨some handle, journal⟩)

/-- Watches the task up to its end. -/
def awaitEnd
    (setting : Setting)
    (policy : PollPolicy)
    (handle : Handle)
    (session : Session) : Finding × Session :=
  match
      awaitCompletion setting.fuel setting.transport setting.plan.request
        policy ⟨handle, session.journal⟩ with
  | none => (.unfinished, session)
  | some watch => (.done, ⟨some watch.handle, watch.journal⟩)

/-- Watches the task for some time. -/
def awaitSome
    (setting : Setting)
    (policy : PollPolicy)
    (patience : Nat)
    (handle : Handle)
    (session : Session) : Finding × Session :=
  match
      awaitFor setting.fuel patience setting.transport setting.plan.request
        policy ⟨handle, session.journal⟩ with
  | .watching watch => (.interrupted, ⟨some watch.handle, watch.journal⟩)
  | .ended watch => (.done, ⟨some watch.handle, watch.journal⟩)

/-- Takes a step that needs a task. -/
def withHandle
    (session : Session)
    (step : Handle -> Finding × Session) : Finding × Session :=
  match session.handle with
  | none => (.noHandle, session)
  | some handle => step handle

/-- Sends a request whose address has to be read first, and reads its
outcome. -/
def inquire
    (setting : Setting)
    (location : String)
    (request : Url -> Http.Request)
    (read : Url -> Http.Outcome -> Finding)
    (session : Session) : Finding × Session :=
  match Url.parseString location with
  | .error fault => (.addressFault fault, session)
  | .ok url =>
      let (outcome, answered) :=
        exchange setting.transport (request url) session.journal
      session.goOn (read url outcome, answered)

/-- Sends a payload as a submission. -/
def sendPayload
    (setting : Setting)
    (payload : List UInt8)
    (session : Session) : Finding × Session :=
  let request := Service.submission setting.plan.request payload
  let (outcome, answered) :=
    exchange setting.transport request session.journal
  session.goOn
    (.ofResult .task .callFault (Service.readTaskReply request.url outcome),
      answered)

/-- Asks for the status of a task. -/
def queryStatus
    (setting : Setting)
    (taskId : String)
    (session : Session) : Finding × Session :=
  let (reply, answered) := Run.queryStatus setting taskId session.journal
  session.goOn (.ofResult .task .callFault reply, answered)

/-- Asks for the status of a task several times. -/
def repeatQuery
    (setting : Setting)
    (taskId : String)
    (interval count : Nat)
    (session : Session) : Finding × Session :=
  let (replies, answered) :=
    queryRepeatedly setting taskId interval session.journal count
  session.goOn (.queries replies, answered)

/-- Loads a source. -/
def loadSource
    (setting : Setting)
    (source : String)
    (timeout : Option Nat)
    (session : Session) : Finding × Session :=
  let (result, loaded) :=
    Run.loadSource setting.transport source timeout session.journal
  session.goOn (.ofResult .payload .failure result, loaded)

/-- Writes content to a file. -/
def write
    (setting : Setting)
    (path : String)
    (charset : Charset)
    (content : List Char)
    (session : Session) : Finding × Session :=
  let (result, written) :=
    writeDestination setting.plan path charset content session.journal
  session.goOn (.ofResult (fun _ => .written path) .failure result, written)

/-- Takes a step. -/
def take
    (setting : Setting)
    (session : Session) : Step -> Finding × Session
  | .run => session.run setting
  | .submit => session.submit setting
  | .adopt snapshot code =>
      (.done, { session with handle := some (.ofSubmission snapshot code) })
  | .await policy none =>
      session.withHandle fun handle =>
        session.awaitEnd setting policy handle
  | .await policy (some patience) =>
      session.withHandle fun handle =>
        session.awaitSome setting policy patience handle
  | .fetch =>
      session.withHandle fun handle =>
        let (record, fetched) :=
          fetch setting.transport setting.plan handle session.journal
        session.goOn (.record record, fetched)
  | .describe format =>
      session.withHandle fun handle =>
        (.descriptor (handle.resultDescriptor format), session)
  | .sendPayload payload => session.sendPayload setting payload
  | .queryStatus taskId => session.queryStatus setting taskId
  | .querySize location =>
      session.inquire setting location
        (Service.sizeQuery setting.plan.request)
        fun url outcome =>
          .ofResult .size .callFault (Service.readSize url outcome)
  | .download location =>
      session.inquire setting location
        (Service.download setting.plan.request)
        fun url outcome =>
          .ofResult .downloaded .callFault (Service.readDownload url outcome)
  | .checkSize location =>
      session.inquire setting location
        (Service.sizeQuery setting.plan.request)
        fun url outcome =>
          .ofResult .size .rejection
            (Service.checkedSize setting.plan.request.exportFormat
              setting.plan.options.sizeLimit url outcome)
  | .repeatQuery taskId interval count =>
      session.repeatQuery setting taskId interval count
  | .loadSource source timeout => session.loadSource setting source timeout
  | .write path charset content =>
      session.write setting path charset content

end Session
end Run
end FieldOcr
