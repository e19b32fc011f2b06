import FieldOcr.Proofs.ReaderProgress
import FieldOcr.Setup.ResultSchema
import Mathlib.Data.List.Forall2

/-!
# Open elements

At every step of a check the stack holds a frame for each tag that the reader
has open, in the same order, with the rule that the schema declares for it.  A
schema that was read has a rule for its root and for every child it mentions.
So no closing tag ever meets a stack that does not match it, and no element
that was entered lacks a rule.
-/

namespace FieldOcr

theorem NameMap.mem_of_get?
    {α : Type}
    {map : NameMap α}
    {name : String}
    {value : α}
    (present : map.get? name = some value) :
    (name, value) ∈ map.entries := by
  obtain ⟨⟨other, _⟩, found, rfl⟩ := Option.map_eq_some_iff.mp present
  obtain rfl : other = name := by simpa using List.find?_some found
  exact List.mem_of_find?_eq_some found

namespace Schema

variable {schema : Schema}

/-- A schema has a rule for each element that can occur. -/
structure IsClosed (schema : Schema) : Prop where
  /-- The root has a rule. -/
  root : schema.rule? schema.root ≠ none
  /-- So has every child of an element with a rule. -/
  children :
    ∀ element rule child occurrence,
      schema.rule? element = some rule ->
        rule.children.get? child = some occurrence ->
          schema.rule? child ≠ none

/-- A schema without a flaw is closed. -/
theorem isClosed_of_flaw? (usable : schema.flaw? = none) :
    schema.IsClosed := by
  unfold flaw? at usable
  split at usable
  · exact nomatch usable
  · next rooted =>
      refine ⟨by simpa [NameMap.contains, rule?] using rooted, ?_⟩
      intro element rule child occurrence declared allowed
      rw [List.findSome?_eq_none_iff] at usable
      have sound := usable _ (NameMap.mem_of_get? declared)
      rw [List.findSome?_eq_none_iff] at sound
      have childSound := sound _ (NameMap.mem_of_get? allowed)
      unfold childFlaw? at childSound
      split at childSound
      · exact nomatch childSound
      · next ruled => simpa [NameMap.contains, rule?] using ruled

/-- A schema that was read has no flaw. -/
theorem flaw?_of_readSchema
    {name document : String}
    (read : Setup.readSchema name document = .ok schema) :
    schema.flaw? = none := by
  unfold Setup.readSchema at read
  split at read
  · exact nomatch read
  · split at read
    · exact nomatch read
    · next unflawed =>
        cases read
        exact unflawed

end Schema

namespace Validation

open Markup (Cursor Event Located Tag)
open Schema (ElementRule)

/-- A frame belongs to an open tag: it has the name of the tag without its
prefix, and the rule that the schema declares for this name. -/
structure FrameOf
    (schema : Schema)
    (openName : List Char)
    (frame : Frame) : Prop where
  /-- The name is that of the tag. -/
  name : frame.name = String.ofList (Markup.localName openName)
  /-- The rule is the one of the schema. -/
  rule : schema.rule? frame.name = some frame.rule

/-- Whether a violation can only come from a stack that does not match the open
tags, or from a schema that lacks a rule. -/
def Violation.isInternal : Violation -> Bool
  | .unexpectedClosing _ | .closingMismatch _ _ | .undeclared _ => true
  | _ => false

section

variable
  {schema : Schema}
  {state entered next : State}
  {openNames : List (List Char)}
  {event : Event}
  {violation : Violation}

/-! ## The stack follows the reader -/

/-- Entering an element counts it and leaves the frames where they are. -/
theorem enter_matches
    {name : String}
    (matched : List.Forall₂ (FrameOf schema) openNames state.stack)
    (entering : enter schema state name = .ok entered) :
    List.Forall₂ (FrameOf schema) openNames entered.stack := by
  obtain ⟨stack, seen⟩ := state
  cases matched with
  | nil =>
      obtain ⟨-, -, rfl⟩ := enter_outside_eq_ok_iff.mp entering
      exact .nil
  | cons innermost outer =>
      obtain ⟨_, -, -, rfl⟩ := enter_inside_eq_ok_iff.mp entering
      exact .cons ⟨innermost.name, innermost.rule⟩ outer

/-- The stack holds a frame for each open tag after every event. -/
theorem step_matches
    (matched : List.Forall₂ (FrameOf schema) openNames state.stack)
    (closes : ∀ name, event = .closing name -> openNames.head? = some name)
    (stepped : step schema state event = .ok next) :
    List.Forall₂ (FrameOf schema) (Markup.openAfter openNames event)
      next.stack := by
  cases event with
  | opening tag =>
      obtain ⟨entered, frame, opened, rfl⟩ := step_opening_eq_ok_iff.mp stepped
      obtain ⟨entering, rule, declared, -, rfl⟩ :=
        openElement_eq_ok_iff.mp opened
      exact .cons ⟨rfl, declared⟩ (enter_matches matched entering)
  | selfClosing tag =>
      obtain ⟨frame, opened, -⟩ := step_selfClosing_eq_ok_iff.mp stepped
      exact enter_matches matched (openElement_eq_ok_iff.mp opened).1
  | closing name =>
      obtain ⟨stack, seen⟩ := state
      cases matched with
      | nil => cases closes name rfl
      | cons innermost outer =>
          cases closes name rfl
          obtain ⟨-, rfl⟩ := (step_closing_eq_ok_iff innermost.name).mp stepped
          exact outer
  | characters raw =>
      obtain ⟨-, rfl⟩ := step_characters_eq_ok_iff.mp stepped
      exact matched
  | literal text =>
      obtain ⟨-, rfl⟩ := step_literal_eq_ok_iff.mp stepped
      exact matched
  | doctype => exact nomatch stepped
  | ignored =>
      obtain rfl := step_ignored_eq_ok_iff.mp stepped
      exact matched

/-- The stack holds a frame for each open tag wherever the reader has come. -/
theorem Runs.matches
    {cursor reached : Cursor}
    {events : List Located}
    {final : State}
    (runs : Runs schema state (events.map (·.event)) final)
    (passes : cursor.Passes events reached)
    (matched : List.Forall₂ (FrameOf schema) cursor.openNames state.stack) :
    List.Forall₂ (FrameOf schema) reached.openNames final.stack := by
  induction passes generalizing state with
  | nil =>
      obtain rfl := runs_nil_iff.mp runs
      exact matched
  | cons reads rest inductionHypothesis =>
      obtain ⟨next, stepped, later⟩ := runs_cons_iff.mp runs
      apply inductionHypothesis later
      rw [reads.openNames_eq]
      apply step_matches matched _ stepped
      rintro name rfl
      exact reads.matched

/-! ## Violations that cannot occur -/

/-- What is made of a result fails as the result does. -/
theorem eq_error_of_map
    {α β : Type}
    {result : Except Violation α}
    {make : α -> β}
    (failed : result.map make = .error violation) :
    result = .error violation := by
  cases result with
  | error other =>
      cases failed
      rfl
  | ok value => cases failed

/-- A list of checks fails with the violation of one of them. -/
theorem exists_of_forM_eq_error
    {α : Type}
    {check : α -> Except Violation Unit}
    {items : List α}
    (failed : items.forM check = .error violation) :
    ∃ item ∈ items, check item = .error violation := by
  induction items with
  | nil => cases failed
  | cons item items inductionHypothesis =>
      rw [List.forM] at failed
      cases checked : check item with
      | error other =>
          rw [checked] at failed
          cases failed
          exact ⟨item, List.mem_cons_self, checked⟩
      | ok done =>
          rw [checked] at failed
          obtain ⟨later, member, wrong⟩ := inductionHypothesis failed
          exact ⟨later, List.mem_cons_of_mem _ member, wrong⟩

theorem rule?_of_enter
    {name : String}
    (closed : schema.IsClosed)
    (matched : List.Forall₂ (FrameOf schema) openNames state.stack)
    (entering : enter schema state name = .ok entered) :
    schema.rule? name ≠ none := by
  obtain ⟨stack, seen⟩ := state
  cases matched with
  | nil =>
      obtain ⟨-, rfl, -⟩ := enter_outside_eq_ok_iff.mp entering
      exact closed.root
  | cons innermost outer =>
      obtain ⟨occurrence, allowed, -, -⟩ := enter_inside_eq_ok_iff.mp entering
      exact closed.children _ _ _ _ innermost.rule allowed

/-- Nothing that is wrong with entering an element is internal. -/
theorem isInternal_of_enter
    {name : String}
    (entering : enter schema state name = .error violation) :
    violation.isInternal = false := by
  unfold enter at entering
  dsimp only at entering
  repeat' split at entering
  all_goals cases entering <;> rfl

theorem isInternal_of_checkAttribute
    {element : String}
    {rule : ElementRule}
    {attr : Markup.Attribute}
    (checked : checkAttribute element rule attr = .error violation) :
    violation.isInternal = false := by
  unfold checkAttribute at checked
  dsimp only at checked
  repeat' split at checked
  all_goals cases checked <;> rfl

theorem isInternal_of_checkAttributes
    {element : String}
    {rule : ElementRule}
    {tag : Tag}
    (checked : checkAttributes element rule tag = .error violation) :
    violation.isInternal = false := by
  unfold checkAttributes at checked
  dsimp only at checked
  split at checked
  · next single =>
      cases checked
      obtain ⟨attr, -, wrong⟩ := exists_of_forM_eq_error single
      exact isInternal_of_checkAttribute wrong
  · repeat' split at checked
    all_goals cases checked <;> rfl

theorem isInternal_of_closeElement
    {frame : Frame}
    (closing : closeElement frame = .error violation) :
    violation.isInternal = false := by
  unfold closeElement at closing
  split at closing
  · cases closing
    rfl
  · cases closing

theorem isInternal_of_checkText
    {stack : List Frame}
    {text : List Char}
    (checked : checkText stack text = .error violation) :
    violation.isInternal = false := by
  unfold checkText at checked
  repeat' split at checked
  all_goals cases checked <;> rfl

/-- Nothing that is wrong with opening an element is internal, if the schema
has a rule for it. -/
theorem isInternal_of_openElement
    {tag : Tag}
    (closed : schema.IsClosed)
    (matched : List.Forall₂ (FrameOf schema) openNames state.stack)
    (opening : openElement schema state tag = .error violation) :
    violation.isInternal = false := by
  unfold openElement at opening
  dsimp only at opening
  split at opening
  · next entering =>
      cases opening
      exact isInternal_of_enter entering
  · next entering =>
      split at opening
      · next undeclared =>
          exact absurd undeclared (rule?_of_enter closed matched entering)
      · split at opening
        · next attributes =>
            cases opening
            exact isInternal_of_checkAttributes attributes
        · cases opening

/-- No event leads to an internal violation where the stack matches the open
tags. -/
theorem isInternal_of_step
    (closed : schema.IsClosed)
    (matched : List.Forall₂ (FrameOf schema) openNames state.stack)
    (closes : ∀ name, event = .closing name -> openNames.head? = some name)
    (stepped : step schema state event = .error violation) :
    violation.isInternal = false := by
  cases event with
  | opening tag =>
      cases opening : openElement schema state tag with
      | error other =>
          rw [step, opening] at stepped
          cases stepped
          exact isInternal_of_openElement closed matched opening
      | ok opened =>
          rw [step, opening] at stepped
          cases stepped
  | selfClosing tag =>
      cases opening : openElement schema state tag with
      | error other =>
          simp only [step, opening] at stepped
          cases stepped
          exact isInternal_of_openElement closed matched opening
      | ok opened =>
          obtain ⟨entered, frame⟩ := opened
          simp only [step, opening] at stepped
          exact isInternal_of_closeElement (eq_error_of_map stepped)
  | closing name =>
      obtain ⟨stack, seen⟩ := state
      cases matched with
      | nil => cases closes name rfl
      | cons innermost outer =>
          cases closes name rfl
          simp only [step, innermost.name, ne_eq, not_true, if_false] at stepped
          exact isInternal_of_closeElement (eq_error_of_map stepped)
  | characters raw =>
      cases expanded : Markup.expand raw with
      | error fault =>
          simp only [step, expanded] at stepped
          cases stepped
          rfl
      | ok text =>
          simp only [step, expanded] at stepped
          exact isInternal_of_checkText (eq_error_of_map stepped)
  | literal text => exact isInternal_of_checkText (eq_error_of_map stepped)
  | doctype =>
      cases stepped
      rfl
  | ignored => cases stepped

/-- A check that fails at an event has passed the events in front of it. -/
theorem exists_of_checkEvents_eq_error
    {events : List Located}
    {malformation : Malformation}
    (failed : checkEvents schema state events = .error malformation) :
    ∃ front located back reached,
      events = front ++ located :: back ∧
        Runs schema state (front.map (·.event)) reached ∧
        step schema reached located.event =
          .error malformation.violation := by
  induction events generalizing state with
  | nil => cases failed
  | cons located events inductionHypothesis =>
      rw [checkEvents] at failed
      cases stepped : step schema state located.event with
      | error violation =>
          rw [stepped] at failed
          cases failed
          exact ⟨[], located, events, state, rfl, runs_nil_iff.mpr rfl,
            stepped⟩
      | ok next =>
          rw [stepped] at failed
          obtain ⟨front, other, back, reached, rfl, runs, wrong⟩ :=
            inductionHypothesis failed
          exact ⟨located :: front, other, back, reached, rfl,
            runs_cons_iff.mpr ⟨next, stepped, runs⟩, wrong⟩

theorem isInternal_of_checkEnding
    {ending : Markup.Ending}
    {malformation : Malformation}
    (checked : checkEnding state ending = .error malformation) :
    malformation.violation.isInternal = false := by
  unfold checkEnding at checked
  repeat' split at checked
  all_goals cases checked <;> rfl

end

/-- The stack of a check matches the open tags wherever the reader has come. -/
theorem Runs.matches_start
    {schema : Schema}
    {document : List Char}
    {front : List Located}
    {cursor : Cursor}
    {state : State}
    (runs : Runs schema .initial (front.map (·.event)) state)
    (passes : (Cursor.start document).Passes front cursor) :
    List.Forall₂ (FrameOf schema) cursor.openNames state.stack :=
  runs.matches passes .nil

/-- The check of a document never fails for an internal reason. -/
theorem isInternal_of_checkDocument
    {schema : Schema}
    {document : List Char}
    {malformation : Malformation}
    (closed : schema.IsClosed)
    (failed : checkDocument schema document = .error malformation) :
    malformation.violation.isInternal = false := by
  unfold checkDocument at failed
  dsimp only at failed
  split at failed
  · next wrong =>
      cases failed
      obtain ⟨front, located, back, state, events, runs, stepped⟩ :=
        exists_of_checkEvents_eq_error wrong
      -- The reader has delivered the event at which the check fails.
      have within : front ++ [located] <+: (Markup.scan document).events := by
        rw [events]
        exact ⟨back, by simp⟩
      obtain ⟨cursor, passes⟩ := Markup.exists_passes within
      obtain ⟨middle, passed, last⟩ := Cursor.passes_append_iff.mp passes
      obtain _ | ⟨reads, -⟩ := last
      apply isInternal_of_step closed (runs.matches_start passed) _ stepped
      rintro name rfl
      exact reads.matched
  · exact isInternal_of_checkEnding failed

/-- In a check against a schema that was read, the stack holds a frame with the
local name and the rule of each tag that the reader has open, after every event;
and no violation is one that a stack or a schema which does not match leads
to. -/
theorem stack_follows_reader
    {name text : String}
    {schema : Schema}
    (read : Setup.readSchema name text = .ok schema)
    (document : List Char) :
    (∀ front state,
      front <+: (Markup.scan document).events ->
        checkEvents schema .initial front = .ok state ->
          (∃ cursor, (Cursor.start document).Passes front cursor) ∧
          ∀ cursor,
            (Cursor.start document).Passes front cursor ->
              List.Forall₂ (FrameOf schema) cursor.openNames state.stack) ∧
      ∀ malformation,
        checkDocument schema document = .error malformation ->
          malformation.violation.isInternal = false := by
  constructor
  · intro front state within checked
    exact ⟨Markup.exists_passes within, fun cursor passes =>
      (checkEvents_eq_ok_iff.mp checked).matches_start passes⟩
  · intro malformation failed
    exact isInternal_of_checkDocument
      (Schema.isClosed_of_flaw? (Schema.flaw?_of_readSchema read)) failed

/-- A schema of items that may stand inside one another. -/
def nestedSchemaText : String :=
  "\x7b\"name\": \"nested\", \"root\": \"doc\", \"elements\": \x7b" ++
    "\"doc\": \x7b\"children\": \x7b\"item\": \x7b\"min\": 1\x7d\x7d\x7d, " ++
    "\"item\": \x7b\"children\": \x7b\"item\": \x7b\x7d\x7d, \"text\": true\x7d\x7d\x7d"

/-- A document whose names have prefixes, and which is not closed. -/
def prefixedDocument : List Char :=
  "<a:doc xmlns:a='u'> <b:item><c:item/><item>x".toList

/-- Four tags of the document leave three elements open. -/
theorem stack_follows_reader_prefixedDocument :
    ∃ schema state cursor,
      Setup.readSchema "nested.json" nestedSchemaText = .ok schema ∧
        checkEvents schema .initial
            ((Markup.scan prefixedDocument).events.take 4) =
          .ok state ∧
        (Cursor.start prefixedDocument).Passes
          ((Markup.scan prefixedDocument).events.take 4) cursor ∧
        List.Forall₂ (FrameOf schema) cursor.openNames state.stack ∧
        state.stack.map (·.name) = ["item", "item", "doc"] := by
  have known :
      ((Setup.readSchema "nested.json" nestedSchemaText).toOption.bind
          fun schema =>
            (checkEvents schema .initial
                ((Markup.scan prefixedDocument).events.take 4)).toOption.map
              fun state => state.stack.map (·.name)) =
        some ["item", "item", "doc"] := by
    decide +kernel
  cases read : Setup.readSchema "nested.json" nestedSchemaText with
  | error fault =>
      rw [read] at known
      cases known
  | ok schema =>
      rw [read] at known
      rw [Except.toOption, Option.bind_some] at known
      cases checked :
          checkEvents schema .initial
            ((Markup.scan prefixedDocument).events.take 4) with
      | error malformation =>
          rw [checked] at known
          cases known
      | ok state =>
          rw [checked] at known
          obtain ⟨⟨cursor, passes⟩, stack⟩ :=
            (stack_follows_reader read prefixedDocument).1 _ _
              (List.take_prefix 4 _) checked
          exact ⟨schema, state, cursor, rfl, checked, passes,
            stack cursor passes, Option.some.inj known⟩

end Validation
end FieldOcr
