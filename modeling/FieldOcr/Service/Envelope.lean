import FieldOcr.Markup.Reader
import FieldOcr.Markup.Reference
import FieldOcr.RemoteTask.Handle
import FieldOcr.Text.Numeral
import FieldOcr.Url.Parser

/-!
# Envelopes of the service

The service answers with an envelope in markup.  A task envelope holds a task
element, whose attributes make a snapshot; an error envelope holds a message.
Elements and attributes are known by their names without prefixes.
-/

namespace FieldOcr
namespace Service

open Markup (Located)

variable [Url.NameConversion]

/-- Why a text is no task envelope. -/
inductive EnvelopeFault
  | doctype
  | noTask
  | unreadable (position : Nat) (fault : Markup.ReaderFault)
  | attributeSyntax (fault : Markup.AttributeFault)
  | reference (key : String) (fault : Markup.ReferenceFault)
  | unknownStatus (word : String)
  | resultUrl (key value : String) (fault : Url.Fault)
  | noId
  | noStatus
  deriving DecidableEq, Repr

/-- The wording of an envelope fault behind its common beginning. -/
def EnvelopeFault.detail : EnvelopeFault -> String
  | .doctype => "DOCTYPE not allowed"
  | .noTask => "no <task> element"
  | .unreadable position fault =>
      s!"XML error at position {position}: " ++ fault.message
  | .attributeSyntax fault => "bad attribute: " ++ fault.message
  | .reference key fault => s!"bad value for {key}: " ++ fault.message
  | .unknownStatus word => s!"unknown task status '{word}'"
  | .resultUrl key value fault => s!"bad {key} '{value}': " ++ fault.message
  | .noId => "task without id"
  | .noStatus => "task without status"

/-- The wording of an envelope fault. -/
def EnvelopeFault.message (fault : EnvelopeFault) : String :=
  "unexpected service response: " ++ fault.detail

/-- What the attributes of a task element have told so far. -/
structure TaskFields where
  /-- The identifier. -/
  id : Option String := none
  /-- The status. -/
  status : Option RemoteTask.Status := none
  /-- The credits. -/
  credits : Option Nat := none
  /-- The expected seconds. -/
  estimatedSeconds : Option Nat := none
  /-- The result addresses by index, in the order of the attributes. -/
  resultUrls : List (Nat × Url) := []
  deriving Repr

/-- The characters of the name of result addresses. -/
def resultUrlName : List Char :=
  "resultUrl".toList

/-- The index in the name of a result address; without one it is the first. -/
def resultIndex? (key : List Char) : Option Nat :=
  match key.drop resultUrlName.length with
  | [] => some 1
  | digits => (Text.readWord 32 digits).toOption

/-- Adds a result address.  An attribute without an index or a value counts
for nothing. -/
def TaskFields.withResultUrl
    (fields : TaskFields)
    (key value : List Char) : Except EnvelopeFault TaskFields :=
  match resultIndex? key with
  | none => .ok fields
  | some index =>
      if value.isEmpty then .ok fields
      else
        match Url.parse value with
        | .error fault =>
            .error
              (.resultUrl (String.ofList key) (String.ofList value) fault)
        | .ok url =>
            .ok { fields with resultUrls := fields.resultUrls ++ [(index, url)] }

/-- Adds the value of one attribute. -/
def TaskFields.withValue
    (fields : TaskFields)
    (key value : List Char) : Except EnvelopeFault TaskFields :=
  if key == "id".toList then
    .ok { fields with id := some (String.ofList value) }
  else if key == "status".toList then
    match RemoteTask.Status.ofWire? (String.ofList value) with
    | some status => .ok { fields with status := some status }
    | none => .error (.unknownStatus (String.ofList value))
  else if key == "credits".toList then
    .ok { fields with credits := (Text.readWord 32 value).toOption }
  else if key == "estimatedProcessingTime".toList then
    .ok { fields with estimatedSeconds := (Text.readWord 32 value).toOption }
  else if resultUrlName.isPrefixOf key then fields.withResultUrl key value
  else .ok fields

/-- Adds one attribute. -/
def TaskFields.withAttribute
    (fields : TaskFields)
    (attr : Markup.Attribute) : Except EnvelopeFault TaskFields :=
  let key := Markup.localName attr.name
  match Markup.expand attr.value with
  | .error fault => .error (.reference (String.ofList key) fault)
  | .ok value => fields.withValue key value

/-- The snapshot of all attributes.  The result addresses stand in ascending
order of their indices. -/
def TaskFields.snapshot (fields : TaskFields) : Except EnvelopeFault RemoteTask.Snapshot :=
  match fields.id.filter (· ≠ ""), fields.status with
  | none, _ => .error .noId
  | some _, none => .error .noStatus
  | some id, some status =>
      let sorted := fields.resultUrls.mergeSort fun left right =>
        decide (left.1 ≤ right.1)
      .ok ⟨id, status, fields.credits, fields.estimatedSeconds,
        sorted.map (·.2)⟩

/-- Reads a task element: its attributes in their order, then what is wrong
behind them, and last whether an attribute is missing. -/
def snapshotOfTag (tag : Markup.Tag) : Except EnvelopeFault RemoteTask.Snapshot :=
  let (attributes, fault) := tag.attributes
  match attributes.foldlM TaskFields.withAttribute { } with
  | .error fault => .error fault
  | .ok fields =>
      match fault with
      | some fault => .error (.attributeSyntax fault)
      | none => fields.snapshot

/-- Whether a tag's name without its prefix is a given one. -/
def isNamed (expected : String) (name : List Char) : Bool :=
  Markup.localName name == expected.toList

/-- Reads the first task element among events. -/
def snapshotOfEvents
    (ending : Markup.Ending) : List Located -> Except EnvelopeFault RemoteTask.Snapshot
  | [] =>
      match ending with
      | .complete _ => .error .noTask
      | .broken position fault => .error (.unreadable position fault)
  | located :: rest =>
      match located.event with
      | .opening tag | .selfClosing tag =>
          if isNamed "task" tag.name then snapshotOfTag tag
          else snapshotOfEvents ending rest
      | .doctype => .error .doctype
      | _ => snapshotOfEvents ending rest

/-- Reads a task envelope. -/
def readSnapshot (body : List Char) : Except EnvelopeFault RemoteTask.Snapshot :=
  let scan := Markup.scan body
  snapshotOfEvents scan.ending scan.events

/-- Gathers the character data of a message onto what was gathered so far.
`inside` holds behind the opening tag of a message. -/
def gatherMessage
    (inside : Bool)
    (gathered : List Char) : List Located -> Option (List Char)
  | [] => some gathered
  | located :: rest =>
      match located.event with
      | .opening tag =>
          gatherMessage (inside || isNamed "message" tag.name) gathered rest
      | .closing name =>
          if isNamed "message" name then some gathered
          else gatherMessage inside gathered rest
      | .characters raw =>
          if inside then
            match Markup.expand raw with
            | .error _ => none
            | .ok text => gatherMessage inside (gathered ++ text) rest
          else gatherMessage inside gathered rest
      | .literal text =>
          if inside then gatherMessage inside (gathered ++ text) rest
          else gatherMessage inside gathered rest
      | _ => gatherMessage inside gathered rest

/-- The message of an error envelope, if it is not blank. -/
def errorMessage? (body : List Char) : Option (List Char) :=
  match gatherMessage false [] (Markup.scan body).events with
  | none => none
  | some gathered =>
      let message := Text.trim gathered
      if message.isEmpty then none else some message

end Service
end FieldOcr
