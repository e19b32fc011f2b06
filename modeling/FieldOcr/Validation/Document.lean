import FieldOcr.Markup.Reader
import FieldOcr.Markup.Reference
import FieldOcr.Schema.Basic

/-!
# Checking a document against a schema

A document is checked in one pass over its events.  The state of the pass is
the stack of open elements, each with its rule and the number of children of
each name opened so far.  The first violation ends the check; it is located
where its event is.
-/

namespace FieldOcr
namespace Validation

open Schema (AttributeType ElementRule)

/-- What a document does wrong. -/
inductive Violation
  | unreadable (fault : Markup.ReaderFault)
  | doctype
  | secondRoot (element : String)
  | wrongRoot (element expected : String)
  | childNotAllowed (child parent : String)
  | tooManyChildren (parent : String) (limit : Nat) (child : String)
  | undeclared (element : String)
  | attributeSyntax (element : String) (fault : Markup.AttributeFault)
  | attributeReference
      (key element : String)
      (fault : Markup.ReferenceFault)
  | attributeType (key element : String) (type : AttributeType) (value : String)
  | attributeNotAllowed (key element : String)
  | attributeMissing (element key : String)
  | unexpectedClosing (name : String)
  | closingMismatch (name opened : String)
  | tooFewChildren (parent : String) (least : Nat) (child : String) (found : Nat)
  | textReference (fault : Markup.ReferenceFault)
  | textOutsideRoot
  | textNotAllowed (element : String)
  | notClosed (element : String)
  | noRoot
  deriving DecidableEq, Repr

/-- The wording of a violation. -/
def Violation.message : Violation -> String
  | .unreadable fault => fault.message
  | .doctype => "DOCTYPE declarations are not allowed"
  | .secondRoot element => s!"second root element <{element}>"
  | .wrongRoot element expected =>
      s!"root element is <{element}>, expected <{expected}>"
  | .childNotAllowed child parent =>
      s!"element <{child}> is not allowed inside <{parent}>"
  | .tooManyChildren parent limit child =>
      s!"<{parent}> allows at most {limit} <{child}> element(s)"
  | .undeclared element => s!"element <{element}> is not declared"
  | .attributeSyntax element fault =>
      s!"bad attribute on <{element}>: " ++ fault.message
  | .attributeReference key element fault =>
      s!"attribute '{key}' on <{element}>: " ++ fault.message
  | .attributeType key element type value =>
      s!"attribute '{key}' on <{element}> is not a valid " ++
        type.word ++ s!": '{value}'"
  | .attributeNotAllowed key element =>
      s!"attribute '{key}' is not allowed on <{element}>"
  | .attributeMissing element key =>
      s!"<{element}> is missing required attribute '{key}'"
  | .unexpectedClosing name => s!"unexpected closing tag </{name}>"
  | .closingMismatch name opened =>
      s!"closing tag </{name}> does not match <{opened}>"
  | .tooFewChildren parent least child found =>
      s!"<{parent}> needs at least {least} <{child}> element(s), found {found}"
  | .textReference fault => fault.message
  | .textOutsideRoot => "character data outside the root element"
  | .textNotAllowed element => s!"<{element}> does not allow character data"
  | .notClosed element => s!"element <{element}> is not closed"
  | .noRoot => "document has no root element"

/-- A violation and the byte at which it is reported. -/
structure Malformation where
  /-- The byte at which the violation is reported. -/
  position : Nat
  /-- The violation. -/
  violation : Violation
  deriving DecidableEq, Repr

/-- The wording of a located violation. -/
def Malformation.message (malformation : Malformation) : String :=
  s!"at byte {malformation.position}: " ++ malformation.violation.message

/-- An element that is open. -/
structure Frame where
  /-- The element's name without its prefix. -/
  name : String
  /-- The element's rule. -/
  rule : ElementRule
  /-- The number of children opened so far, by name. -/
  counts : List (String × Nat)
  deriving Repr

/-- The number of children of one name opened so far. -/
def Frame.count (frame : Frame) (child : String) : Nat :=
  ((frame.counts.find? (·.1 = child)).map (·.2)).getD 0

/-- Adds one to the count of a name.  A count is a natural number, where the
validator has 32 bits for it: no count is greater than the number of bytes of
the document (`Validation.count_le_byteLength`), so that below 2^32 bytes both
are the same. -/
def increment (name : String) : List (String × Nat) -> List (String × Nat)
  | [] => [(name, 1)]
  | (other, count) :: rest =>
      if other = name then (other, count + 1) :: rest
      else (other, count) :: increment name rest

/-- A frame after one more child was opened. -/
def Frame.withChild (frame : Frame) (child : String) : Frame :=
  { frame with counts := increment child frame.counts }

/-- The state of a check between two events. -/
structure State where
  /-- The open elements, innermost first. -/
  stack : List Frame
  /-- Whether a root element was opened. -/
  rootSeen : Bool
  deriving Repr

/-- The state before the first event. -/
def State.initial : State :=
  ⟨[], false⟩

/-- Checks one attribute that declares no namespace. -/
def checkAttribute
    (element : String)
    (rule : ElementRule)
    (attr : Markup.Attribute) : Except Violation Unit :=
  let key := String.ofList (Markup.localName attr.name)
  match Markup.expand attr.value with
  | .error fault => .error (.attributeReference key element fault)
  | .ok value =>
      match rule.attributes.get? key with
      | some expected =>
          if expected.type.accepts value then .ok ()
          else
            .error
              (.attributeType key element expected.type (String.ofList value))
      | none =>
          if rule.openAttributes then .ok ()
          else .error (.attributeNotAllowed key element)

/-- The attributes of a tag that declare no namespace. -/
def ordinary (attributes : List Markup.Attribute) : List Markup.Attribute :=
  attributes.filter fun attr => !Markup.bindsNamespace attr.name

/-- The first required attribute that is not among some names. -/
def missingAttribute?
    (rule : ElementRule)
    (present : List String) : Option String :=
  (rule.attributes.entries.find? fun (name, expected) =>
    expected.required && !present.contains name).map (·.1)

/-- Checks the attributes of a tag: each in its order, then that none is
missing. -/
def checkAttributes
    (element : String)
    (rule : ElementRule)
    (tag : Markup.Tag) : Except Violation Unit :=
  let (attributes, fault) := tag.attributes
  let checked := ordinary attributes
  match checked.forM (checkAttribute element rule) with
  | .error violation => .error violation
  | .ok () =>
      match fault with
      | some fault => .error (.attributeSyntax element fault)
      | none =>
          let present := checked.map fun attr =>
            String.ofList (Markup.localName attr.name)
          match missingAttribute? rule present with
          | some key => .error (.attributeMissing element key)
          | none => .ok ()

/-- Enters an element where it is opened: as the root, or as a child of the
innermost open element. -/
def enter
    (schema : Schema)
    (state : State)
    (name : String) : Except Violation State :=
  match state.stack with
  | [] =>
      if state.rootSeen then .error (.secondRoot name)
      else if name ≠ schema.root then .error (.wrongRoot name schema.root)
      else .ok { state with rootSeen := true }
  | parent :: outer =>
      match parent.rule.children.get? name with
      | none => .error (.childNotAllowed name parent.name)
      | some occurrence =>
          let extended := parent.withChild name
          if occurrence.exceededBy (extended.count name) then
            .error
              (.tooManyChildren parent.name (occurrence.max.getD 0) name)
          else .ok { state with stack := extended :: outer }

/-- Opens an element: the result holds the state without it and its frame. -/
def openElement
    (schema : Schema)
    (state : State)
    (tag : Markup.Tag) : Except Violation (State × Frame) :=
  let name := String.ofList (Markup.localName tag.name)
  match enter schema state name with
  | .error violation => .error violation
  | .ok entered =>
      match schema.rule? name with
      | none => .error (.undeclared name)
      | some rule =>
          match checkAttributes name rule tag with
          | .error violation => .error violation
          | .ok () => .ok (entered, ⟨name, rule, []⟩)

/-- Checks on closing an element that no child occurs too seldom. -/
def closeElement (frame : Frame) : Except Violation Unit :=
  match frame.rule.children.entries.find? fun (child, occurrence) =>
      frame.count child < occurrence.min with
  | some (child, occurrence) =>
      .error
        (.tooFewChildren frame.name occurrence.min child (frame.count child))
  | none => .ok ()

/-- Checks that character data may stand where it does.  Blank character data
may stand anywhere. -/
def checkText (stack : List Frame) (text : List Char) : Except Violation Unit :=
  if Text.allBlank text then .ok ()
  else
    match stack with
    | [] => .error .textOutsideRoot
    | frame :: _ =>
        if frame.rule.text then .ok () else .error (.textNotAllowed frame.name)

/-- Checks one event. -/
def step
    (schema : Schema)
    (state : State) : Markup.Event -> Except Violation State
  | .doctype => .error .doctype
  | .opening tag =>
      (openElement schema state tag).map fun (entered, frame) =>
        { entered with stack := frame :: entered.stack }
  | .selfClosing tag =>
      match openElement schema state tag with
      | .error violation => .error violation
      | .ok (entered, frame) => (closeElement frame).map fun () => entered
  | .closing name =>
      let name := String.ofList (Markup.localName name)
      match state.stack with
      | [] => .error (.unexpectedClosing name)
      | frame :: outer =>
          if frame.name ≠ name then .error (.closingMismatch name frame.name)
          else
            (closeElement frame).map fun () => { state with stack := outer }
  | .characters raw =>
      match Markup.expand raw with
      | .error fault => .error (.textReference fault)
      | .ok text => (checkText state.stack text).map fun () => state
  | .literal text => (checkText state.stack text).map fun () => state
  | .ignored => .ok state

/-- Checks events in order. -/
def checkEvents
    (schema : Schema)
    (state : State) : List Markup.Located -> Except Malformation State
  | [] => .ok state
  | located :: rest =>
      match step schema state located.event with
      | .error violation => .error ⟨located.position, violation⟩
      | .ok next => checkEvents schema next rest

/-- Checks what stands behind the last event. -/
def checkEnding (state : State) : Markup.Ending -> Except Malformation Unit
  | .broken position fault => .error ⟨position, .unreadable fault⟩
  | .complete position =>
      match state.stack with
      | frame :: _ => .error ⟨position, .notClosed frame.name⟩
      | [] =>
          if state.rootSeen then .ok () else .error ⟨position, .noRoot⟩

/-- Checks a document against a schema. -/
def checkDocument
    (schema : Schema)
    (document : List Char) : Except Malformation Unit :=
  let scan := Markup.scan document
  match checkEvents schema .initial scan.events with
  | .error malformation => .error malformation
  | .ok state => checkEnding state scan.ending

end Validation
end FieldOcr
