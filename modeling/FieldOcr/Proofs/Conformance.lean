import FieldOcr.Proofs.AttributeConformance
import FieldOcr.Proofs.ElementTree

/-!
# Conforming documents

A document passes its check exactly if it can be read, has no document type
declaration, and denotes a tree that conforms to the schema.  The check keeps
a frame for each open element; the frame of an element that is closed has
counted its children.
-/

namespace FieldOcr
namespace Validation

open Markup (Denotes Event Leads Node Tag)
open Schema (ElementRule Occurrence)

/-! ## The grammar of a schema -/

/-- The name of the element that a tag makes. -/
def elementName (tag : Tag) : String :=
  String.ofList (Markup.localName tag.name)

/-- The elements among some nodes. -/
def elements (nodes : List Node) : List (Tag × List Node) :=
  nodes.filterMap fun
    | .element tag content => some (tag, content)
    | .characters _ | .literal _ => none

/-- The names of the elements among some nodes. -/
def childNames (nodes : List Node) : List String :=
  (elements nodes).map fun element => elementName element.1

/-- Character data expands, and is blank where none is allowed. -/
def TextPasses (allowed : Bool) : Node -> Prop
  | .element _ _ => True
  | .characters raw =>
      ∃ text,
        Markup.expand raw = .ok text ∧
          (Text.allBlank text = true ∨ allowed = true)
  | .literal text => Text.allBlank text = true ∨ allowed = true

/-- The nodes directly inside an element fit its rule. -/
structure ContentFits (rule : ElementRule) (content : List Node) : Prop where
  /-- Each child is allowed. -/
  allowed :
    ∀ child ∈ childNames content, (rule.children.get? child).isSome = true
  /-- No child occurs too seldom. -/
  enough :
    ∀ entry ∈ rule.children.entries,
      entry.2.min ≤ (childNames content).count entry.1
  /-- No child occurs too often. -/
  bounded :
    ∀ child occurrence limit,
      rule.children.get? child = some occurrence ->
        occurrence.max = some limit ->
          (childNames content).count child ≤ limit
  /-- Character data that is not blank stands only where it is allowed. -/
  text : ∀ node ∈ content, TextPasses rule.text node

/-- An element conforms to a schema if its rule fits, and all elements inside
it conform. -/
inductive Conforms (schema : Schema) : Tag -> List Node -> Prop
  | element {tag : Tag} {content : List Node} {rule : ElementRule}
      (declared : schema.rule? (elementName tag) = some rule)
      (attributes : AttributesConform rule tag)
      (fits : ContentFits rule content)
      (inner :
        ∀ child ∈ elements content, Conforms schema child.1 child.2) :
      Conforms schema tag content

/-- The outermost nodes of a document conform to a schema: there is one
element, the root, and no other character data than blanks. -/
structure DocumentConforms (schema : Schema) (nodes : List Node) : Prop where
  /-- The only element is the root, and conforms. -/
  root :
    ∃ tag content,
      elements nodes = [(tag, content)] ∧
        elementName tag = schema.root ∧ Conforms schema tag content
  /-- All character data is blank. -/
  text : ∀ node ∈ nodes, TextPasses false node

@[simp] theorem elements_element
    (tag : Tag)
    (content nodes : List Node) :
    elements (.element tag content :: nodes) =
      (tag, content) :: elements nodes := rfl

@[simp] theorem elements_characters (raw : List Char) (nodes : List Node) :
    elements (.characters raw :: nodes) = elements nodes := rfl

@[simp] theorem elements_literal (text : List Char) (nodes : List Node) :
    elements (.literal text :: nodes) = elements nodes := rfl

@[simp] theorem childNames_element
    (tag : Tag)
    (content nodes : List Node) :
    childNames (.element tag content :: nodes) =
      elementName tag :: childNames nodes := rfl

@[simp] theorem childNames_characters (raw : List Char) (nodes : List Node) :
    childNames (.characters raw :: nodes) = childNames nodes := rfl

@[simp] theorem childNames_literal (text : List Char) (nodes : List Node) :
    childNames (.literal text :: nodes) = childNames nodes := rfl

/-! ## Frames count children -/

/-- A frame after some more children were opened. -/
def Frame.withChildren (frame : Frame) (children : List String) : Frame :=
  children.foldl Frame.withChild frame

@[simp] theorem withChildren_nil (frame : Frame) :
    frame.withChildren [] = frame := rfl

@[simp] theorem withChildren_cons
    (frame : Frame)
    (child : String)
    (children : List String) :
    frame.withChildren (child :: children) =
      (frame.withChild child).withChildren children := rfl

@[simp] theorem withChildren_rule (frame : Frame) (children : List String) :
    (frame.withChildren children).rule = frame.rule := by
  induction children generalizing frame with
  | nil => rfl
  | cons child children inductionHypothesis => exact inductionHypothesis _

@[simp] theorem withChildren_name (frame : Frame) (children : List String) :
    (frame.withChildren children).name = frame.name := by
  induction children generalizing frame with
  | nil => rfl
  | cons child children inductionHypothesis => exact inductionHypothesis _

/-- Opening a child adds one to its count, and nothing to other counts. -/
theorem count_withChild (frame : Frame) (child other : String) :
    (frame.withChild child).count other =
      frame.count other + if child = other then 1 else 0 := by
  obtain ⟨name, rule, counts⟩ := frame
  unfold Frame.withChild Frame.count
  dsimp only
  induction counts with
  | nil => by_cases same : child = other <;> simp [increment, same]
  | cons entry counts inductionHypothesis =>
      obtain ⟨counted, count⟩ := entry
      by_cases here : counted = child
      · subst here
        by_cases same : counted = other <;> simp [increment, same]
      · by_cases found : counted = other
        · subst found
          simp [increment, here, Ne.symm here]
        · simpa [increment, here, found] using inductionHypothesis

/-- A frame has counted all children that were opened. -/
theorem count_withChildren
    (frame : Frame)
    (children : List String)
    (child : String) :
    (frame.withChildren children).count child =
      frame.count child + children.count child := by
  induction children generalizing frame with
  | nil => simp
  | cons other children inductionHypothesis =>
      rw [withChildren_cons, inductionHypothesis, count_withChild,
        List.count_cons]
      simp only [beq_iff_eq]
      omega

/-! ## Steps of the check -/

/-- Whether character data that is not blank may stand in the innermost open
element; outside of all elements it may not. -/
def textAllowed : List Frame -> Bool
  | [] => false
  | frame :: _ => frame.rule.text

theorem checkText_eq_ok_iff {stack : List Frame} {text : List Char} :
    checkText stack text = .ok () ↔
      Text.allBlank text = true ∨ textAllowed stack = true := by
  unfold checkText textAllowed
  by_cases blank : Text.allBlank text = true
  · simp [blank]
  · cases stack with
    | nil => simp [blank]
    | cons frame outer =>
        by_cases allowed : frame.rule.text = true <;> simp [blank, allowed]

theorem closeElement_eq_ok_iff {frame : Frame} :
    closeElement frame = .ok () ↔
      ∀ entry ∈ frame.rule.children.entries,
        entry.2.min ≤ frame.count entry.1 := by
  unfold closeElement
  split
  · next child occurrence found =>
      have few := List.find?_some found
      have present := List.mem_of_find?_eq_some found
      simp only [decide_eq_true_eq] at few
      refine iff_of_false (fun impossible => nomatch impossible) ?_
      intro enough
      exact absurd (enough _ present) (Nat.not_le_of_lt few)
  · next found =>
      have none := List.find?_eq_none.mp found
      refine iff_of_true rfl ?_
      intro entry present
      have many := none entry present
      simp only [decide_eq_true_eq] at many
      exact Nat.le_of_not_lt many

theorem exceededBy_eq_false_iff {occurrence : Occurrence} {count : Nat} :
    occurrence.exceededBy count = false ↔
      ∀ limit, occurrence.max = some limit -> count ≤ limit := by
  unfold Occurrence.exceededBy
  cases occurrence.max <;> simp

section

variable
  {schema : Schema}
  {state entered final : State}
  {frame : Frame}
  {outer : List Frame}
  {seen : Bool}
  {name : String}

/-- The root is entered once, under its name. -/
theorem enter_outside_eq_ok_iff :
    enter schema ⟨[], seen⟩ name = .ok entered ↔
      seen = false ∧ name = schema.root ∧ entered = ⟨[], true⟩ := by
  unfold enter
  cases seen with
  | true => simp
  | false =>
      by_cases root : name = schema.root
      · simp [root, eq_comm]
      · simp [root]

/-- A child is entered if it is allowed, and counted. -/
theorem enter_inside_eq_ok_iff :
    enter schema ⟨frame :: outer, seen⟩ name = .ok entered ↔
      ∃ occurrence,
        frame.rule.children.get? name = some occurrence ∧
          occurrence.exceededBy ((frame.withChild name).count name) = false ∧
          entered = ⟨frame.withChild name :: outer, seen⟩ := by
  unfold enter
  dsimp only
  cases frame.rule.children.get? name with
  | none => simp
  | some occurrence =>
      by_cases room :
          occurrence.exceededBy ((frame.withChild name).count name) = true
      · simp [room]
      · rw [Bool.not_eq_true] at room
        simp only [room, Bool.false_eq_true, if_false, Except.ok.injEq,
          Option.some.injEq, exists_eq_left', true_and]
        exact eq_comm

theorem openElement_eq_ok_iff {tag : Tag} :
    openElement schema state tag = .ok (entered, frame) ↔
      enter schema state (elementName tag) = .ok entered ∧
        ∃ rule,
          schema.rule? (elementName tag) = some rule ∧
            AttributesConform rule tag ∧
            frame = ⟨elementName tag, rule, []⟩ := by
  unfold openElement elementName
  dsimp only
  cases enter schema state (String.ofList (Markup.localName tag.name)) with
  | error violation => simp
  | ok other =>
      dsimp only
      cases schema.rule? (String.ofList (Markup.localName tag.name)) with
      | none => simp
      | some rule =>
          simp only [Option.some.injEq, exists_eq_left',
            ← @checkAttributes_eq_ok_iff
              (String.ofList (Markup.localName tag.name)) rule tag]
          cases checkAttributes (String.ofList (Markup.localName tag.name)) rule
            tag with
          | error violation => simp
          | ok done =>
              simp only [Except.ok.injEq, Prod.mk.injEq, true_and]
              exact and_congr Iff.rfl eq_comm

end

/-- A check takes one state to another by some events. -/
def Runs
    (schema : Schema)
    (state : State)
    (events : List Event)
    (final : State) : Prop :=
  events.foldlM (step schema) state = .ok final

section

variable
  {schema : Schema}
  {state final : State}
  {tag : Tag}
  {event : Event}
  {events : List Event}

@[simp] theorem runs_nil_iff : Runs schema state [] final ↔ final = state := by
  simp only [Runs, List.foldlM_nil, pure, Except.pure, Except.ok.injEq]
  exact eq_comm

theorem runs_cons_iff :
    Runs schema state (event :: events) final ↔
      ∃ next, step schema state event = .ok next ∧
        Runs schema next events final := by
  simp only [Runs, List.foldlM_cons, bind, Except.bind]
  cases step schema state event <;> simp

theorem runs_append_iff {front : List Event} :
    Runs schema state (front ++ events) final ↔
      ∃ middle, Runs schema state front middle ∧
        Runs schema middle events final := by
  simp only [Runs, List.foldlM_append, bind, Except.bind]
  cases front.foldlM (step schema) state <;> simp

/-- An opening tag is passed by opening its element. -/
theorem step_opening_eq_ok_iff :
    step schema state (.opening tag) = .ok final ↔
      ∃ entered frame,
        openElement schema state tag = .ok (entered, frame) ∧
          final = ⟨frame :: entered.stack, entered.rootSeen⟩ := by
  simp only [step]
  cases openElement schema state tag with
  | error violation => simp [Except.map]
  | ok opened =>
      obtain ⟨entered, frame⟩ := opened
      simp only [Except.map, Except.ok.injEq, Prod.mk.injEq]
      constructor
      · rintro rfl
        exact ⟨entered, frame, ⟨rfl, rfl⟩, rfl⟩
      · rintro ⟨_, _, ⟨rfl, rfl⟩, rfl⟩
        rfl

/-- A tag that closes itself is passed by opening and closing its element. -/
theorem step_selfClosing_eq_ok_iff :
    step schema state (.selfClosing tag) = .ok final ↔
      ∃ frame,
        openElement schema state tag = .ok (final, frame) ∧
          closeElement frame = .ok () := by
  simp only [step]
  cases openElement schema state tag with
  | error violation => simp
  | ok opened =>
      obtain ⟨entered, frame⟩ := opened
      cases closed : closeElement frame with
      | error violation => simp [Except.map, closed]
      | ok done =>
          simp only [closed, Except.map, Except.ok.injEq, Prod.mk.injEq]
          constructor
          · rintro rfl
            exact ⟨frame, ⟨rfl, rfl⟩, closed⟩
          · rintro ⟨_, ⟨rfl, rfl⟩, -⟩
            rfl

theorem step_closing_eq_ok_iff
    {name : List Char}
    {frame : Frame}
    {outer : List Frame}
    {seen : Bool}
    (named : frame.name = String.ofList (Markup.localName name)) :
    step schema ⟨frame :: outer, seen⟩ (.closing name) = .ok final ↔
      closeElement frame = .ok () ∧ final = ⟨outer, seen⟩ := by
  simp only [step, named, ne_eq, not_true, if_false]
  cases closeElement frame with
  | error violation => simp [Except.map]
  | ok done =>
      simp only [Except.map, Except.ok.injEq, true_and]
      exact eq_comm

theorem step_characters_eq_ok_iff {raw : List Char} :
    step schema state (.characters raw) = .ok final ↔
      TextPasses (textAllowed state.stack) (.characters raw) ∧
        final = state := by
  simp only [step, TextPasses]
  cases Markup.expand raw with
  | error fault => simp
  | ok text =>
      simp only [Except.ok.injEq, exists_eq_left', ← checkText_eq_ok_iff]
      cases checkText state.stack text with
      | error violation => simp [Except.map]
      | ok done =>
          simp only [Except.map, Except.ok.injEq, true_and]
          exact eq_comm

theorem step_literal_eq_ok_iff {text : List Char} :
    step schema state (.literal text) = .ok final ↔
      TextPasses (textAllowed state.stack) (.literal text) ∧
        final = state := by
  simp only [step, TextPasses, ← checkText_eq_ok_iff]
  cases checkText state.stack text with
  | error violation => simp [Except.map]
  | ok done =>
      simp only [Except.map, Except.ok.injEq, true_and]
      exact eq_comm

theorem step_ignored_eq_ok_iff :
    step schema state .ignored = .ok final ↔ final = state := by
  simp only [step, Except.ok.injEq]
  exact eq_comm

theorem runs_characters_iff {raw : List Char} :
    Runs schema state (.characters raw :: events) final ↔
      TextPasses (textAllowed state.stack) (.characters raw) ∧
        Runs schema state events final := by
  simp only [runs_cons_iff, step_characters_eq_ok_iff, and_assoc,
    exists_and_left, exists_eq_left]

theorem runs_literal_iff {text : List Char} :
    Runs schema state (.literal text :: events) final ↔
      TextPasses (textAllowed state.stack) (.literal text) ∧
        Runs schema state events final := by
  simp only [runs_cons_iff, step_literal_eq_ok_iff, and_assoc,
    exists_and_left, exists_eq_left]

theorem runs_ignored_iff :
    Runs schema state (.ignored :: events) final ↔
      Runs schema state events final := by
  simp only [runs_cons_iff, step_ignored_eq_ok_iff, exists_eq_left]

/-- A check that runs through meets no document type declaration. -/
theorem Runs.not_mem_doctype (runs : Runs schema state events final) :
    Event.doctype ∉ events := by
  induction events generalizing state with
  | nil => exact List.not_mem_nil
  | cons event events inductionHypothesis =>
      obtain ⟨next, stepped, rest⟩ := runs_cons_iff.mp runs
      rintro (_ | ⟨_, later⟩)
      · exact nomatch stepped
      · exact inductionHypothesis rest later

end

/-! ## Nodes are checked in order -/

/-- The nodes that are still to come inside an open element pass, given what
its frame has counted. -/
structure Passes (schema : Schema) (frame : Frame) (nodes : List Node) :
    Prop where
  /-- Each child is allowed. -/
  allowed :
    ∀ child ∈ childNames nodes, (frame.rule.children.get? child).isSome = true
  /-- No child occurs too often, with those that were counted. -/
  bounded :
    ∀ child ∈ childNames nodes, ∀ occurrence limit,
      frame.rule.children.get? child = some occurrence ->
        occurrence.max = some limit ->
          frame.count child + (childNames nodes).count child ≤ limit
  /-- Character data passes. -/
  text : ∀ node ∈ nodes, TextPasses frame.rule.text node
  /-- Each element conforms. -/
  inner : ∀ child ∈ elements nodes, Conforms schema child.1 child.2

theorem passes_nil (schema : Schema) (frame : Frame) :
    Passes schema frame [] :=
  ⟨nofun, nofun, nofun, nofun⟩

/-- Character data leaves the count as it is. -/
theorem passes_cons_data_iff
    {schema : Schema}
    {frame : Frame}
    {node : Node}
    {nodes : List Node}
    (data : elements (node :: nodes) = elements nodes) :
    Passes schema frame (node :: nodes) ↔
      TextPasses frame.rule.text node ∧ Passes schema frame nodes := by
  have names : childNames (node :: nodes) = childNames nodes := by
    rw [childNames, data, childNames]
  constructor
  · rintro ⟨allowed, bounded, text, inner⟩
    rw [names] at allowed bounded
    rw [data] at inner
    rw [List.forall_mem_cons] at text
    exact ⟨text.1, allowed, bounded, text.2, inner⟩
  · rintro ⟨first, allowed, bounded, text, inner⟩
    rw [← names] at allowed bounded
    rw [← data] at inner
    exact ⟨allowed, bounded, List.forall_mem_cons.mpr ⟨first, text⟩, inner⟩

/-- An element is counted before the nodes behind it are checked. -/
theorem passes_cons_element_iff
    {schema : Schema}
    {frame : Frame}
    {tag : Tag}
    {content nodes : List Node} :
    Passes schema frame (.element tag content :: nodes) ↔
      (∃ occurrence,
        frame.rule.children.get? (elementName tag) = some occurrence ∧
          occurrence.exceededBy
              ((frame.withChild (elementName tag)).count (elementName tag)) =
            false) ∧
        Conforms schema tag content ∧
        Passes schema (frame.withChild (elementName tag)) nodes := by
  constructor
  · rintro ⟨allowed, bounded, text, inner⟩
    rw [childNames_element, List.forall_mem_cons] at allowed
    rw [elements_element, List.forall_mem_cons] at inner
    rw [List.forall_mem_cons] at text
    obtain ⟨occurrence, known⟩ := Option.isSome_iff_exists.mp allowed.1
    refine ⟨⟨occurrence, known, ?_⟩, inner.1, allowed.2, ?_, text.2, inner.2⟩
    · rw [exceededBy_eq_false_iff]
      intro limit limited
      have room :=
        bounded (elementName tag) (List.mem_cons_self ..) occurrence limit
          known limited
      rw [childNames_element, List.count_cons_self] at room
      rw [count_withChild, if_pos rfl]
      omega
    · intro child present other limit found limited
      have room :=
        bounded child (List.mem_cons_of_mem _ present) other limit found limited
      rw [childNames_element, List.count_cons] at room
      rw [count_withChild]
      simp only [beq_iff_eq] at room
      omega
  · rintro ⟨⟨occurrence, known, room⟩, conforms, allowed, bounded, text, inner⟩
    refine ⟨?_, ?_, List.forall_mem_cons.mpr ⟨trivial, text⟩,
      List.forall_mem_cons.mpr ⟨conforms, inner⟩⟩
    · rw [childNames_element, List.forall_mem_cons]
      exact ⟨by rw [known]; rfl, allowed⟩
    · intro child present other limit found limited
      rw [childNames_element, List.count_cons]
      simp only [beq_iff_eq]
      by_cases later : child ∈ childNames nodes
      · have counted := bounded child later other limit found limited
        rw [count_withChild] at counted
        omega
      · have same : child = elementName tag :=
          (List.mem_cons.mp present).resolve_right later
        subst same
        rw [known] at found
        cases found
        have counted := exceededBy_eq_false_iff.mp room limit limited
        rw [count_withChild] at counted
        rw [List.count_eq_zero_of_not_mem later]
        omega

/-- The frame of an element that was just opened. -/
def Frame.opened (tag : Tag) (rule : ElementRule) : Frame :=
  ⟨elementName tag, rule, []⟩

theorem count_opened (tag : Tag) (rule : ElementRule) (child : String) :
    (Frame.opened tag rule).count child = 0 := rfl

/-- An element conforms exactly if its content passes with a frame that has
counted nothing, and the frame can be closed when it has counted all. -/
theorem conforms_iff
    {schema : Schema}
    {tag : Tag}
    {content : List Node} :
    Conforms schema tag content ↔
      ∃ rule,
        schema.rule? (elementName tag) = some rule ∧
          AttributesConform rule tag ∧
          Passes schema (.opened tag rule) content ∧
          closeElement
              ((Frame.opened tag rule).withChildren (childNames content)) =
            .ok () := by
  constructor
  · rintro ⟨declared, attributes, ⟨allowed, enough, bounded, text⟩, inner⟩
    refine ⟨_, declared, attributes, ⟨allowed, ?_, text, inner⟩, ?_⟩
    · intro child present occurrence limit known limited
      rw [count_opened, Nat.zero_add]
      exact bounded child occurrence limit known limited
    · rw [closeElement_eq_ok_iff, withChildren_rule]
      intro entry present
      rw [count_withChildren, count_opened, Nat.zero_add]
      exact enough entry present
  · rintro ⟨rule, declared, attributes, ⟨allowed, bounded, text, inner⟩,
      closed⟩
    rw [closeElement_eq_ok_iff, withChildren_rule] at closed
    refine .element declared attributes ⟨allowed, ?_, ?_, text⟩ inner
    · intro entry present
      have enough := closed entry present
      rw [count_withChildren, count_opened, Nat.zero_add] at enough
      exact enough
    · intro child occurrence limit known limited
      by_cases present : child ∈ childNames content
      · have room := bounded child present occurrence limit known limited
        rw [count_opened, Nat.zero_add] at room
        exact room
      · rw [List.count_eq_zero_of_not_mem present]
        exact Nat.zero_le limit

/-- Inside any open element some events run through exactly if some nodes pass
there; they leave its frame with the elements among the nodes counted. -/
def RunsAs (schema : Schema) (events : List Event) (nodes : List Node) : Prop :=
  ∀ frame outer seen final,
    Runs schema ⟨frame :: outer, seen⟩ events final ↔
      Passes schema frame nodes ∧
        final = ⟨frame.withChildren (childNames nodes) :: outer, seen⟩

section

variable
  {schema : Schema}
  {state final : State}
  {tag : Tag}
  {inside events : List Event}
  {content nodes : List Node}

/-- A tag that closes itself is an element without content. -/
theorem runs_selfClosing_iff :
    Runs schema state (.selfClosing tag :: events) final ↔
      ∃ entered,
        enter schema state (elementName tag) = .ok entered ∧
          Conforms schema tag [] ∧ Runs schema entered events final := by
  rw [runs_cons_iff, conforms_iff]
  simp only [step_selfClosing_eq_ok_iff, openElement_eq_ok_iff]
  constructor
  · rintro ⟨entered, ⟨frame, ⟨enters, rule, declared, attributes, rfl⟩, closed⟩,
      rest⟩
    exact ⟨entered, enters,
      ⟨rule, declared, attributes, passes_nil .., closed⟩, rest⟩
  · rintro ⟨entered, enters, ⟨rule, declared, attributes, -, closed⟩, rest⟩
    exact ⟨entered, ⟨.opened tag rule,
      ⟨enters, rule, declared, attributes, rfl⟩, closed⟩, rest⟩

/-- What stands between two tags is the content of an element. -/
theorem runs_element_iff
    (insideRuns : RunsAs schema inside content) :
    Runs schema state
        (.opening tag :: (inside ++ .closing tag.name :: events)) final ↔
      ∃ entered,
        enter schema state (elementName tag) = .ok entered ∧
          Conforms schema tag content ∧ Runs schema entered events final := by
  rw [runs_cons_iff, conforms_iff]
  simp only [step_opening_eq_ok_iff, openElement_eq_ok_iff, runs_append_iff,
    runs_cons_iff]
  constructor
  · rintro ⟨opened, ⟨entered, frame, ⟨enters, rule, declared, attributes, rfl⟩,
      rfl⟩, middle, runs, next, closes, rest⟩
    obtain ⟨passes, rfl⟩ := (insideRuns ..).mp runs
    rw [step_closing_eq_ok_iff (withChildren_name ..)] at closes
    obtain ⟨closed, rfl⟩ := closes
    exact ⟨entered, enters, ⟨rule, declared, attributes, passes, closed⟩, rest⟩
  · rintro ⟨entered, enters, ⟨rule, declared, attributes, passes, closed⟩, rest⟩
    refine ⟨_, ⟨entered, .opened tag rule,
      ⟨enters, rule, declared, attributes, rfl⟩, rfl⟩, _,
      (insideRuns ..).mpr ⟨passes, rfl⟩, entered, ?_, rest⟩
    rw [step_closing_eq_ok_iff (withChildren_name ..)]
    exact ⟨closed, rfl⟩

/-- Inside an open element a child passes if it can be entered and conforms. -/
theorem child_passes_iff
    {frame : Frame}
    {outer : List Frame}
    {seen : Bool}
    (restRuns : RunsAs schema events nodes) :
    (∃ entered,
      enter schema ⟨frame :: outer, seen⟩ (elementName tag) = .ok entered ∧
        Conforms schema tag content ∧ Runs schema entered events final) ↔
      Passes schema frame (.element tag content :: nodes) ∧
        final =
          ⟨frame.withChildren (childNames (.element tag content :: nodes)) ::
            outer, seen⟩ := by
  simp only [enter_inside_eq_ok_iff, passes_cons_element_iff]
  constructor
  · rintro ⟨entered, ⟨occurrence, known, room, rfl⟩, conforms, rest⟩
    obtain ⟨passes, rfl⟩ := (restRuns ..).mp rest
    exact ⟨⟨⟨occurrence, known, room⟩, conforms, passes⟩, rfl⟩
  · rintro ⟨⟨⟨occurrence, known, room⟩, conforms, passes⟩, rfl⟩
    exact ⟨_, ⟨occurrence, known, room, rfl⟩, conforms,
      (restRuns ..).mpr ⟨passes, rfl⟩⟩

/-- Inside an open element events run as the nodes that they denote. -/
theorem runsAs_of_denotes
    (denotes : Denotes events nodes)
    (typeless : Event.doctype ∉ events) :
    RunsAs schema events nodes := by
  induction denotes with
  | nil =>
      intro frame outer seen final
      rw [runs_nil_iff]
      exact ⟨fun same => ⟨passes_nil .., same⟩, And.right⟩
  | selfClosing rest inductionHypothesis =>
      intro frame outer seen final
      rw [List.mem_cons, not_or] at typeless
      rw [runs_selfClosing_iff]
      exact child_passes_iff (inductionHypothesis typeless.2)
  | element enclosed rest insideHypothesis restHypothesis =>
      intro frame outer seen final
      simp only [List.mem_cons, List.mem_append, not_or] at typeless
      obtain ⟨-, insideTypeless, -, restTypeless⟩ := typeless
      rw [runs_element_iff (insideHypothesis insideTypeless)]
      exact child_passes_iff (restHypothesis restTypeless)
  | characters rest inductionHypothesis =>
      intro frame outer seen final
      rw [List.mem_cons, not_or] at typeless
      rw [runs_characters_iff, passes_cons_data_iff (elements_characters ..),
        inductionHypothesis typeless.2, childNames_characters, and_assoc]
      exact Iff.rfl
  | literal rest inductionHypothesis =>
      intro frame outer seen final
      rw [List.mem_cons, not_or] at typeless
      rw [runs_literal_iff, passes_cons_data_iff (elements_literal ..),
        inductionHypothesis typeless.2, childNames_literal, and_assoc]
      exact Iff.rfl
  | doctype rest inductionHypothesis =>
      exact absurd (List.mem_cons_self ..) typeless
  | ignored rest inductionHypothesis =>
      intro frame outer seen final
      rw [List.mem_cons, not_or] at typeless
      rw [runs_ignored_iff, inductionHypothesis typeless.2]

/-- Behind the root there is no element, and no character data but blanks. -/
theorem runs_behind_root_iff
    (denotes : Denotes events nodes)
    (typeless : Event.doctype ∉ events) :
    Runs schema ⟨[], true⟩ events ⟨[], true⟩ ↔
      elements nodes = [] ∧ ∀ node ∈ nodes, TextPasses false node := by
  induction denotes with
  | nil => exact iff_of_true (runs_nil_iff.mpr rfl) ⟨rfl, nofun⟩
  | selfClosing rest _ =>
      rw [runs_selfClosing_iff]
      simp only [enter_outside_eq_ok_iff, elements_element]
      simp
  | element enclosed rest _ _ =>
      simp only [List.mem_cons, List.mem_append, not_or] at typeless
      rw [runs_element_iff (runsAs_of_denotes enclosed typeless.2.1)]
      simp only [enter_outside_eq_ok_iff, elements_element]
      simp
  | characters rest inductionHypothesis =>
      rw [List.mem_cons, not_or] at typeless
      rw [runs_characters_iff, inductionHypothesis typeless.2,
        elements_characters, List.forall_mem_cons]
      exact and_left_comm
  | literal rest inductionHypothesis =>
      rw [List.mem_cons, not_or] at typeless
      rw [runs_literal_iff, inductionHypothesis typeless.2,
        elements_literal, List.forall_mem_cons]
      exact and_left_comm
  | doctype rest inductionHypothesis =>
      exact absurd (List.mem_cons_self ..) typeless
  | ignored rest inductionHypothesis =>
      rw [List.mem_cons, not_or] at typeless
      rw [runs_ignored_iff, inductionHypothesis typeless.2]

/-- The root is entered first, and everything else is behind it. -/
theorem root_conforms_iff
    (restRuns :
      Runs schema ⟨[], true⟩ events ⟨[], true⟩ ↔
        elements nodes = [] ∧ ∀ node ∈ nodes, TextPasses false node) :
    (∃ entered,
      enter schema .initial (elementName tag) = .ok entered ∧
        Conforms schema tag content ∧
        Runs schema entered events ⟨[], true⟩) ↔
      DocumentConforms schema (.element tag content :: nodes) := by
  simp only [State.initial, enter_outside_eq_ok_iff, true_and]
  constructor
  · rintro ⟨entered, ⟨root, rfl⟩, conforms, rest⟩
    obtain ⟨none, text⟩ := restRuns.mp rest
    refine ⟨⟨tag, content, ?_, root, conforms⟩,
      List.forall_mem_cons.mpr ⟨trivial, text⟩⟩
    rw [elements_element, none]
  · rintro ⟨⟨_, _, only, root, conforms⟩, text⟩
    rw [elements_element] at only
    obtain ⟨same, none⟩ := List.cons.inj only
    cases same
    exact ⟨_, ⟨root, rfl⟩, conforms,
      restRuns.mpr ⟨none, (List.forall_mem_cons.mp text).2⟩⟩

/-- Character data in front of the root is blank. -/
theorem documentConforms_cons_data_iff
    {node : Node}
    (data : elements (node :: nodes) = elements nodes) :
    DocumentConforms schema (node :: nodes) ↔
      TextPasses false node ∧ DocumentConforms schema nodes := by
  constructor
  · rintro ⟨root, text⟩
    rw [data] at root
    rw [List.forall_mem_cons] at text
    exact ⟨text.1, root, text.2⟩
  · rintro ⟨first, root, text⟩
    rw [← data] at root
    exact ⟨root, List.forall_mem_cons.mpr ⟨first, text⟩⟩

/-- The events of a document run through exactly if it conforms. -/
theorem runs_document_iff
    (denotes : Denotes events nodes)
    (typeless : Event.doctype ∉ events) :
    Runs schema .initial events ⟨[], true⟩ ↔
      DocumentConforms schema nodes := by
  induction denotes with
  | nil =>
      refine iff_of_false (fun runs => nomatch runs_nil_iff.mp runs) ?_
      rintro ⟨⟨_, _, impossible, -⟩, -⟩
      exact nomatch impossible
  | selfClosing rest _ =>
      rw [List.mem_cons, not_or] at typeless
      rw [runs_selfClosing_iff]
      exact root_conforms_iff (runs_behind_root_iff rest typeless.2)
  | element enclosed rest _ _ =>
      simp only [List.mem_cons, List.mem_append, not_or] at typeless
      obtain ⟨-, insideTypeless, -, restTypeless⟩ := typeless
      rw [runs_element_iff (runsAs_of_denotes enclosed insideTypeless)]
      exact root_conforms_iff (runs_behind_root_iff rest restTypeless)
  | characters rest inductionHypothesis =>
      rw [List.mem_cons, not_or] at typeless
      rw [runs_characters_iff, inductionHypothesis typeless.2,
        documentConforms_cons_data_iff (elements_characters ..)]
      exact Iff.rfl
  | literal rest inductionHypothesis =>
      rw [List.mem_cons, not_or] at typeless
      rw [runs_literal_iff, inductionHypothesis typeless.2,
        documentConforms_cons_data_iff (elements_literal ..)]
      exact Iff.rfl
  | doctype rest inductionHypothesis =>
      exact absurd (List.mem_cons_self ..) typeless
  | ignored rest inductionHypothesis =>
      rw [List.mem_cons, not_or] at typeless
      rw [runs_ignored_iff, inductionHypothesis typeless.2]

end

/-! ## Whole documents -/

section

variable
  {schema : Schema}
  {state final : State}

theorem checkEvents_eq_ok_iff {events : List Markup.Located} :
    checkEvents schema state events = .ok final ↔
      Runs schema state (events.map (·.event)) final := by
  induction events generalizing state with
  | nil =>
      rw [List.map_nil, runs_nil_iff, checkEvents, Except.ok.injEq]
      exact eq_comm
  | cons located events inductionHypothesis =>
      rw [List.map_cons, runs_cons_iff, checkEvents]
      cases step schema state located.event with
      | error violation => simp
      | ok next => simpa using inductionHypothesis

theorem checkEnding_eq_ok_iff {ending : Markup.Ending} :
    checkEnding state ending = .ok () ↔
      (∃ position, ending = .complete position) ∧ state = ⟨[], true⟩ := by
  obtain ⟨stack, seen⟩ := state
  cases ending with
  | broken position fault => simp [checkEnding]
  | complete position =>
      cases stack with
      | cons frame outer => simp [checkEnding]
      | nil => cases seen <;> simp [checkEnding]

theorem enter_stack_length
    {entered : State}
    {name : String}
    (entering : enter schema state name = .ok entered) :
    entered.stack.length = state.stack.length := by
  obtain ⟨stack, seen⟩ := state
  cases stack with
  | nil =>
      obtain ⟨-, -, rfl⟩ := enter_outside_eq_ok_iff.mp entering
      rfl
  | cons parent outer =>
      obtain ⟨_, -, -, rfl⟩ := enter_inside_eq_ok_iff.mp entering
      rfl

/-- The stack stays as high as there are open tags. -/
theorem step_stack_length
    {next : State}
    {event : Event}
    {names : List (List Char)}
    (stepped : step schema state event = .ok next)
    (level : state.stack.length = names.length) :
    next.stack.length = (Markup.openAfter names event).length := by
  cases event with
  | opening tag =>
      obtain ⟨entered, frame, opened, rfl⟩ := step_opening_eq_ok_iff.mp stepped
      have entering := enter_stack_length (openElement_eq_ok_iff.mp opened).1
      simp only [Markup.openAfter, List.length_cons]
      omega
  | selfClosing tag =>
      obtain ⟨frame, opened, -⟩ := step_selfClosing_eq_ok_iff.mp stepped
      have entering := enter_stack_length (openElement_eq_ok_iff.mp opened).1
      exact entering.trans level
  | closing name =>
      obtain ⟨stack, seen⟩ := state
      cases stack with
      | nil => exact nomatch stepped
      | cons frame outer =>
          by_cases named :
              frame.name = String.ofList (Markup.localName name)
          · obtain ⟨-, rfl⟩ := (step_closing_eq_ok_iff named).mp stepped
            rw [Markup.openAfter, List.length_tail, ← level]
            rfl
          · simp [step, named] at stepped
  | characters raw =>
      obtain ⟨-, rfl⟩ := step_characters_eq_ok_iff.mp stepped
      exact level
  | literal text =>
      obtain ⟨-, rfl⟩ := step_literal_eq_ok_iff.mp stepped
      exact level
  | doctype => exact nomatch stepped
  | ignored =>
      obtain rfl := step_ignored_eq_ok_iff.mp stepped
      exact level

theorem Runs.stack_length
    {events : List Event}
    {names left : List (List Char)}
    (runs : Runs schema state events final)
    (leads : Leads names events left)
    (level : state.stack.length = names.length) :
    final.stack.length = left.length := by
  induction leads generalizing state with
  | nil =>
      rw [runs_nil_iff.mp runs]
      exact level
  | cons _ _ inductionHypothesis =>
      obtain ⟨next, stepped, rest⟩ := runs_cons_iff.mp runs
      exact inductionHypothesis rest (step_stack_length stepped level)

end

/-- A document passes its check exactly if it can be read to its end, declares
no document type, and denotes a tree that conforms to the schema. -/
theorem checkDocument_eq_ok_iff
    (schema : Schema)
    (document : List Char) :
    checkDocument schema document = .ok () ↔
      (∃ position, (Markup.scan document).ending = .complete position) ∧
        Event.doctype ∉ (Markup.scan document).eventList ∧
        ∃ nodes,
          Denotes (Markup.scan document).eventList nodes ∧
            DocumentConforms schema nodes := by
  have checked :
      checkDocument schema document = .ok () ↔
        (∃ position, (Markup.scan document).ending = .complete position) ∧
          Runs schema .initial (Markup.scan document).eventList ⟨[], true⟩ := by
    unfold checkDocument Markup.Scan.eventList
    dsimp only
    rw [← checkEvents_eq_ok_iff]
    cases checkEvents schema .initial (Markup.scan document).events with
    | error malformation => simp
    | ok state =>
        simp only [checkEnding_eq_ok_iff, Except.ok.injEq]
  rw [checked]
  refine and_congr Iff.rfl ⟨?_, ?_⟩
  · intro runs
    obtain ⟨final, leads⟩ := Markup.scan_leads document
    have closed : final = [] :=
      List.eq_nil_of_length_eq_zero (runs.stack_length leads rfl).symm
    subst closed
    obtain ⟨nodes, denotes⟩ := leads.exists_denotes
    have typeless := runs.not_mem_doctype
    exact ⟨typeless, nodes, denotes,
      (runs_document_iff denotes typeless).mp runs⟩
  · rintro ⟨typeless, nodes, denotes, conforms⟩
    exact (runs_document_iff denotes typeless).mpr conforms

end Validation
end FieldOcr
