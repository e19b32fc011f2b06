import FieldOcr.RemoteTask.Failure
import FieldOcr.Run.Journal
import FieldOcr.Url.Parser

/-!
# Sources

The source of a task is a file, or a result of the web that is fetched first.
It must not be empty.
-/

namespace FieldOcr
namespace Run

open RemoteTask (Failure)

variable [Url.NameConversion]

/-- Whether a source is an address of the web. -/
def isUrl (source : String) : Bool :=
  "http://".toList.isPrefixOf source.toList ||
    "https://".toList.isPrefixOf source.toList

/-- The request that fetches a source. -/
def sourceRequest (url : Url) (timeout : Option Nat) : Http.Request where
  method := .get
  url := url
  timeout := timeout

/-- Reads the outcome of fetching a source. -/
def readSource (url : Url) (outcome : Http.Outcome) : Except String (List UInt8) :=
  match outcome.result url with
  | .error message => .error message
  | .ok response =>
      if response.isSuccess then .ok response.body
      else .error s!"HTTP {response.status}"

/-- Fetches a source from its address. -/
def fetchSource
    (transport : Transport)
    (source : String)
    (timeout : Option Nat)
    (journal : Journal) : Except String (List UInt8) × Journal :=
  match Url.parseString source with
  | .error fault => (.error fault.message, journal)
  | .ok url =>
      let (outcome, answered) :=
        exchange transport (sourceRequest url timeout) journal
      (readSource url outcome, answered)

/-- Reads a source from wherever it is. -/
def obtainSource
    (transport : Transport)
    (source : String)
    (timeout : Option Nat)
    (journal : Journal) : Except String (List UInt8) × Journal :=
  if isUrl source then fetchSource transport source timeout journal
  else
    ((journal.files.read source).mapError Storage.Fault.message, journal)

/-- Loads the payload of a task. -/
def loadSource
    (transport : Transport)
    (source : String)
    (timeout : Option Nat)
    (journal : Journal) : Except Failure (List UInt8) × Journal :=
  match obtainSource transport source timeout journal with
  | (.error detail, loaded) => (.error (.sourceUnreadable source detail), loaded)
  | (.ok payload, loaded) =>
      if payload.isEmpty then
        (.error (.sourceUnreadable source "source is empty"), loaded)
      else (.ok payload, loaded)

end Run
end FieldOcr
