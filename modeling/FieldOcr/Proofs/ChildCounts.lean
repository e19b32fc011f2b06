import FieldOcr.Proofs.ContentNoise
import FieldOcr.Proofs.Fetching
import FieldOcr.Proofs.ReaderProgress
import Mathlib.Data.List.Forall2

/-!
# Counts of children

The frame of an open element has counted the children opened in it, each under
its name.  Opening a child takes a byte of the document at least, so that no
count is ever greater than the number of bytes read.  A count of 32 bits is
wide enough for every document shorter than 2 ^ 32 bytes, and thereby for every
result of a size within the default limit.
-/

namespace FieldOcr
namespace Validation

open Markup (Cursor Event Growth Located Node Tag)

@[simp] theorem childNames_nil : childNames [] = [] := rfl

theorem childNames_append (front nodes : List Node) :
    childNames (front ++ nodes) = childNames front ++ childNames nodes := by
  simp [childNames, elements]

/-! ## Open elements of a tree -/

/-- The open elements, innermost first, with the names of the children opened
in each so far; an element that is open is the last child of the one around
it. -/
def enclosing
    (children : List String) :
    List (Tag × List Node) -> List (Tag × List String)
  | [] => []
  | (tag, front) :: outer =>
      (tag, children) ::
        enclosing (childNames front ++ [elementName tag]) outer

/-- The open elements of a tree that grows. -/
def openElements (growth : Growth) : List (Tag × List String) :=
  enclosing (childNames growth.front) growth.outer

@[simp] theorem openElements_add (growth : Growth) (node : Node) :
    openElements (growth.add node) =
      enclosing (childNames growth.front ++ childNames [node])
        growth.outer := by
  simp [openElements, Growth.add, childNames_append]

/-- The open elements after some events of a document. -/
def openAt (events : List Event) : List (Tag × List String) :=
  openElements (events.foldl Growth.after ⟨[], []⟩)

/-- A frame has counted the children of an open element, of which there are no
more than bytes were read. -/
structure Counts
    (position : Nat)
    (element : Tag × List String)
    (frame : Frame) : Prop where
  /-- The frame has the name of the element. -/
  name : frame.name = elementName element.1
  /-- Each child was counted under its name. -/
  count : ∀ child, frame.count child = element.2.count child
  /-- Each child took a byte at least. -/
  bounded : element.2.length ≤ position

section

variable
  {schema : Schema}
  {state entered next : State}
  {position later : Nat}
  {growth : Growth}
  {event : Event}

theorem Counts.mono
    {element : Tag × List String}
    {frame : Frame}
    (counts : Counts position element frame)
    (forward : position ≤ later) :
    Counts later element frame :=
  ⟨counts.name, counts.count, counts.bounded.trans forward⟩

/-- No count is greater than the number of bytes read. -/
theorem Counts.count_le
    {element : Tag × List String}
    {frame : Frame}
    (counts : Counts position element frame)
    (child : String) :
    frame.count child ≤ position := by
  rw [counts.count]
  exact List.count_le_length.trans counts.bounded

/-- A child that took a byte is counted once. -/
theorem Counts.withChild
    {tag : Tag}
    {children : List String}
    {frame : Frame}
    (counts : Counts position (tag, children) frame)
    (forward : position < later)
    (child : String) :
    Counts later (tag, children ++ [child]) (frame.withChild child) := by
  refine ⟨counts.name, ?_, ?_⟩
  · intro other
    rw [count_withChild, counts.count, List.count_append, List.count_singleton]
    simp only [beq_iff_eq]
  · have bounded := counts.bounded
    simp only [List.length_append, List.length_singleton] at bounded ⊢
    omega

/-! ## The check counts what is opened -/

/-- Entering an element adds it to the children of the innermost one. -/
theorem enter_counts
    {children : List String}
    {outer : List (Tag × List Node)}
    {name : String}
    (counted :
      List.Forall₂ (Counts position) (enclosing children outer) state.stack)
    (forward : position < later)
    (entering : enter schema state name = .ok entered) :
    List.Forall₂ (Counts later) (enclosing (children ++ [name]) outer)
      entered.stack := by
  obtain ⟨stack, seen⟩ := state
  cases outer with
  | nil =>
      cases counted
      obtain ⟨-, -, rfl⟩ := enter_outside_eq_ok_iff.mp entering
      exact .nil
  | cons element outer =>
      obtain _ | ⟨innermost, around⟩ := counted
      obtain ⟨_, -, -, rfl⟩ := enter_inside_eq_ok_iff.mp entering
      exact .cons (innermost.withChild forward name)
        (around.imp fun _ _ counts => counts.mono forward.le)

/-- A closing tag takes its frame from the stack. -/
theorem stack_of_step_closing
    {name : List Char}
    (stepped : step schema state (.closing name) = .ok next) :
    ∃ frame, state.stack = frame :: next.stack := by
  obtain ⟨stack, seen⟩ := state
  cases stack with
  | nil => cases stepped
  | cons frame outer =>
      by_cases named : frame.name = String.ofList (Markup.localName name)
      · obtain ⟨-, rfl⟩ := (step_closing_eq_ok_iff named).mp stepped
        exact ⟨frame, rfl⟩
      · simp [step, named] at stepped

/-- The stack has counted the children of each open element after every
event. -/
theorem step_counts
    (counted :
      List.Forall₂ (Counts position) (openElements growth) state.stack)
    (forward : position ≤ later)
    (opens : ∀ tag, event.tag? = some tag -> position < later)
    (stepped : step schema state event = .ok next) :
    List.Forall₂ (Counts later) (openElements (growth.after event))
      next.stack := by
  have kept := counted.imp fun _ _ counts => Counts.mono counts forward
  cases event with
  | opening tag =>
      obtain ⟨entered, frame, opened, rfl⟩ := step_opening_eq_ok_iff.mp stepped
      obtain ⟨entering, rule, -, -, rfl⟩ := openElement_eq_ok_iff.mp opened
      exact .cons ⟨rfl, fun _ => rfl, Nat.zero_le _⟩
        (enter_counts counted (opens tag rfl) entering)
  | selfClosing tag =>
      obtain ⟨frame, opened, -⟩ := step_selfClosing_eq_ok_iff.mp stepped
      have entering := (openElement_eq_ok_iff.mp opened).1
      have more := enter_counts counted (opens tag rfl) entering
      simpa [Growth.after] using more
  | closing name =>
      obtain ⟨frame, stack⟩ := stack_of_step_closing stepped
      obtain ⟨front, outer⟩ := growth
      rw [stack] at kept
      cases outer with
      | nil => cases kept
      | cons element outer =>
          obtain _ | ⟨-, around⟩ := kept
          simpa [Growth.after] using around
  | characters raw =>
      obtain ⟨-, rfl⟩ := step_characters_eq_ok_iff.mp stepped
      rw [Growth.after, openElements_add, childNames_characters,
        childNames_nil, List.append_nil]
      exact kept
  | literal text =>
      obtain ⟨-, rfl⟩ := step_literal_eq_ok_iff.mp stepped
      rw [Growth.after, openElements_add, childNames_literal, childNames_nil,
        List.append_nil]
      exact kept
  | doctype => cases stepped
  | ignored =>
      obtain rfl := step_ignored_eq_ok_iff.mp stepped
      exact kept

/-- The stack has counted the children of each open element wherever the reader
has come. -/
theorem Runs.counts
    {cursor reached : Cursor}
    {events : List Located}
    {final : State}
    (runs : Runs schema state (events.map (·.event)) final)
    (passes : cursor.Passes events reached)
    (counted :
      List.Forall₂ (Counts cursor.position) (openElements growth)
        state.stack) :
    List.Forall₂ (Counts reached.position)
      (openElements ((events.map (·.event)).foldl Growth.after growth))
      final.stack := by
  induction passes generalizing state growth with
  | nil =>
      obtain rfl := runs_nil_iff.mp runs
      exact counted
  | cons reads rest inductionHypothesis =>
      obtain ⟨next, stepped, rest⟩ := runs_cons_iff.mp runs
      exact inductionHypothesis rest
        (step_counts counted reads.position_le
          (fun _ opens => reads.position_lt opens) stepped)

end

/-- The frames of a check have counted the children of the open elements
wherever the reader has come. -/
theorem Runs.counts_start
    {schema : Schema}
    {document : List Char}
    {front : List Located}
    {cursor : Cursor}
    {state : State}
    (runs : Runs schema .initial (front.map (·.event)) state)
    (passes : (Cursor.start document).Passes front cursor) :
    List.Forall₂ (Counts cursor.position) (openAt (front.map (·.event)))
      state.stack :=
  runs.counts passes .nil

/-- A tag that is counted was read: the count is not greater than the number of
bytes of the document. -/
theorem count_le_byteLength
    {schema : Schema}
    {document : List Char}
    {front : List Located}
    {located : Located}
    {state : State}
    {frame : Frame}
    {tag : Tag}
    (within : front ++ [located] <+: (Markup.scan document).events)
    (checked : checkEvents schema .initial front = .ok state)
    (opens : located.event.tag? = some tag)
    (innermost : state.stack.head? = some frame) :
    (frame.withChild (elementName tag)).count (elementName tag) ≤
      Text.byteLength document := by
  obtain ⟨stack, seen⟩ := state
  obtain ⟨reached, passes⟩ := Markup.exists_passes within
  obtain ⟨cursor, passed, last⟩ := Cursor.passes_append_iff.mp passes
  have counted := (checkEvents_eq_ok_iff.mp checked).counts_start passed
  have few : frame.count (elementName tag) ≤ cursor.position := by
    generalize openAt (front.map (·.event)) = elements at counted
    cases counted with
    | nil => cases innermost
    | cons counts around =>
        cases innermost
        exact counts.count_le _
  have forward : cursor.position < reached.position := by
    obtain _ | ⟨reads, ⟨⟩⟩ := last
    exact reads.position_lt opens
  have short := passes.position_le
  rw [count_withChild, if_pos rfl]
  omega

/-! ## Results within the default limit -/

/-- What is checked of a text is a part of it. -/
theorem stripNoise_isInfix (text : List Char) :
    Content.stripNoise text <:+: text := by
  apply List.IsInfix.trans _ (Text.trim_isInfix text)
  rcases Content.stripNoise_cases text with
    ⟨front, behind, split, -, -, kept⟩ | ⟨-, kept⟩
  · rw [kept, split]
    exact (List.suffix_append _ _).isInfix
  · exact kept ▸ List.infix_rfl

/-- The document that is checked takes at most three times as many bytes as
were downloaded. -/
theorem byteLength_checked_le (bytes : List UInt8) :
    Text.byteLength
        (Content.stripNoise
          (Content.stripByteOrderMark (Run.contentOf bytes))) ≤
      3 * bytes.length := by
  have within :
      Content.stripNoise (Content.stripByteOrderMark (Run.contentOf bytes)) <:+:
        Content.decode bytes :=
    (stripNoise_isInfix _).trans
      ((Content.stripByteOrderMark_suffix _).trans
        (Content.stripByteOrderMark_suffix _)).isInfix
  exact (Text.byteLength_le_of_infix within).trans
    (Content.byteLength_decode_le bytes)

/-- After every event of a check, the frames on the stack belong to the open
elements of the tree read so far, each has counted the children opened in its
element, and no count is greater than the number of bytes read.  In a document
shorter than 2 ^ 32 bytes, adding one to a count at a tag gives a number of 32
bits; the document of a result within the default limit is that short. -/
theorem counts_follow_children (schema : Schema) (document : List Char) :
    (∀ front state,
      front <+: (Markup.scan document).events ->
        checkEvents schema .initial front = .ok state ->
          (∃ cursor, (Cursor.start document).Passes front cursor) ∧
          ∀ cursor,
            (Cursor.start document).Passes front cursor ->
              List.Forall₂
                (fun element frame =>
                  frame.name = elementName element.1 ∧
                    ∀ child,
                      frame.count child = element.2.count child ∧
                        frame.count child ≤ cursor.position)
                (openAt (front.map (·.event))) state.stack) ∧
      (Text.byteLength document < Nat.pow 2 32 ->
        ∀ front located state frame tag,
          front ++ [located] <+: (Markup.scan document).events ->
            checkEvents schema .initial front = .ok state ->
              located.event.tag? = some tag ->
                state.stack.head? = some frame ->
                  (frame.withChild (elementName tag)).count
                      (elementName tag) <
                    Nat.pow 2 32) ∧
      ∀ bytes,
        bytes.length ≤ defaultSizeLimit ->
          Text.byteLength
              (Content.stripNoise
                (Content.stripByteOrderMark (Run.contentOf bytes))) ≤
              3 * bytes.length ∧
            3 * bytes.length < Nat.pow 2 32 := by
  refine ⟨?_, ?_, ?_⟩
  · intro front state within checked
    refine ⟨Markup.exists_passes within, fun cursor passes => ?_⟩
    refine ((checkEvents_eq_ok_iff.mp checked).counts_start passes).imp ?_
    intro element frame counts
    exact ⟨counts.name, fun child =>
      ⟨counts.count child, counts.count_le child⟩⟩
  · intro short front located state frame tag within checked opens innermost
    exact (count_le_byteLength within checked opens innermost).trans_lt short
  · intro bytes small
    refine ⟨byteLength_checked_le bytes, ?_⟩
    have wide : 3 * defaultSizeLimit < Nat.pow 2 32 := by decide
    omega

/-- A schema of items that may stand inside one another. -/
def listSchema : Schema :=
  ⟨"list", "list",
    .ofList
      [("list", { children := .ofList [("item", {})] }),
        ("item", { children := .ofList [("item", {})] })]⟩

/-- A list of three items, the third of which is open and holds one more. -/
def openList : List Char :=
  "<list><item/><p:item></p:item><item><item/>".toList

/-- Two elements are left open, with three children and one. -/
theorem counts_follow_children_openList :
    ∃ state cursor,
      checkEvents listSchema .initial (Markup.scan openList).events =
          .ok state ∧
        (Cursor.start openList).Passes (Markup.scan openList).events cursor ∧
        List.Forall₂
          (fun element frame =>
            frame.name = elementName element.1 ∧
              ∀ child,
                frame.count child = element.2.count child ∧
                  frame.count child ≤ cursor.position)
          (openAt ((Markup.scan openList).events.map (·.event)))
          state.stack ∧
        state.stack.map (fun frame => (frame.name, frame.count "item")) =
          [("item", 1), ("list", 3)] := by
  have known :
      ((checkEvents listSchema .initial
            (Markup.scan openList).events).toOption.map
          fun state =>
            state.stack.map fun frame => (frame.name, frame.count "item")) =
        some [("item", 1), ("list", 3)] := by
    decide +kernel
  cases checked :
      checkEvents listSchema .initial (Markup.scan openList).events with
  | error malformation =>
      rw [checked] at known
      cases known
  | ok state =>
      rw [checked] at known
      obtain ⟨⟨cursor, passes⟩, counted⟩ :=
        (counts_follow_children listSchema openList).1 _ _ List.prefix_rfl
          checked
      exact ⟨state, cursor, rfl, passes, counted cursor passes,
        Option.some.inj known⟩

end Validation
end FieldOcr
