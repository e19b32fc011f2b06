import FieldOcr.Content
import FieldOcr.Proofs.Conformance
import Mathlib.Data.List.TakeWhile

/-!
# Text in front of a document

Character data in front of the first bracket of a document is one event of its
own, or none.  The events behind it are those of the document without it, at
other positions.  So a document that passes its check passes it without this
text as well.
-/

namespace FieldOcr
namespace Markup

/-- A document was read to its end. -/
def Scan.IsComplete (scan : Scan) : Prop :=
  ∃ position, scan.ending = .complete position

/-- Two scans deliver the same events behind those read before, and reach the
end both or neither. -/
def Scan.AgreeBehind
    (firstRead secondRead : List Located)
    (first second : Scan) : Prop :=
  ∃ further,
    first.eventList = firstRead.reverse.map (·.event) ++ further ∧
      second.eventList = secondRead.reverse.map (·.event) ++ further ∧
      (first.IsComplete ↔ second.IsComplete)

/-- Events that were read at other positions agree as well. -/
theorem Scan.AgreeBehind.of_cons
    {firstRead secondRead : List Located}
    {firstPosition secondPosition : Nat}
    {event : Event}
    {first second : Scan}
    (agree :
      AgreeBehind (⟨firstPosition, event⟩ :: firstRead)
        (⟨secondPosition, event⟩ :: secondRead) first second) :
    AgreeBehind firstRead secondRead first second := by
  obtain ⟨further, firstEvents, secondEvents, complete⟩ := agree
  refine ⟨event :: further, ?_, ?_, complete⟩
  · simpa using firstEvents
  · simpa using secondEvents

/-- The character data that starts with a character and ends at the next
bracket. -/
def characterData (first : Char) (behind : List Char) : List Char :=
  Text.dropWhileEnd Text.isMarkupSpace
    (first :: behind.takeWhile (· != '<'))

/-- What a search for a bracket finds is one. -/
theorem eq_bracket_of_dropWhile
    {text behind : List Char}
    {found : Char}
    (search : text.dropWhile (· != '<') = found :: behind) :
    found = '<' := by
  have passed := List.head?_dropWhile_not (· != '<') text
  rw [search] at passed
  simpa using passed

/-- A bracket that a text lacks is not in what a search in it finds. -/
theorem not_bracket_of_dropWhile
    {test : Char -> Bool}
    {text behind : List Char}
    {found : Char}
    (plain : '<' ∉ text)
    (search : text.dropWhile test = found :: behind) :
    found ≠ '<' ∧ '<' ∉ behind := by
  have within : '<' ∉ found :: behind := by
    rw [← search]
    exact fun bracket => plain ((List.dropWhile_suffix test).mem bracket)
  rw [List.mem_cons, not_or] at within
  exact ⟨Ne.symm within.1, within.2⟩

/-- A search for a bracket passes what holds none. -/
theorem ne_bracket_of_not_mem
    {text : List Char}
    (plain : '<' ∉ text) :
    ∀ character ∈ text, (character != '<') = true := by
  intro character member
  rw [bne_iff_ne]
  rintro rfl
  exact plain member

/-! ## The reader, construct by construct -/

section

variable
  (openNames : List (List Char))
  {text behind : List Char}

theorem scanOnto_of_space
    (readSoFar : List Located)
    (offset : Nat)
    (shape : text.dropWhile Text.isMarkupSpace = []) :
    scanOnto readSoFar openNames offset text =
      ⟨readSoFar.reverse, .complete offset⟩ := by
  rw [scanOnto]
  split <;> simp_all

theorem scanOnto_of_bracket
    (readSoFar : List Located)
    (offset : Nat)
    (shape : text.dropWhile Text.isMarkupSpace = '<' :: behind) :
    scanOnto readSoFar openNames offset text =
      let start := offset + (text.takeWhile Text.isMarkupSpace).length
      match readConstruct openNames behind with
      | .faulty distance fault =>
          ⟨readSoFar.reverse, .broken (start + distance) fault⟩
      | .read event content rest =>
          scanOnto (⟨offset, event⟩ :: readSoFar) (openAfter openNames event)
            (start + 2 + Text.byteLength content) rest := by
  rw [scanOnto]
  split
  · next empty =>
      exact absurd (shape.symm.trans empty) (List.cons_ne_nil _ _)
  · next same =>
      cases same.symm.trans shape
      split <;> simp_all
  · next other same =>
      exact absurd (List.cons.inj (same.symm.trans shape)).1 other

/-- Character data is read as one event, and what is behind it from its first
bracket on. -/
theorem scanOnto_of_characters
    {first : Char}
    (readSoFar : List Located)
    (offset : Nat)
    (plain : first ≠ '<')
    (shape : text.dropWhile Text.isMarkupSpace = first :: behind) :
    ∃ position,
      scanOnto readSoFar openNames offset text =
        scanOnto
          (⟨offset, .characters (characterData first behind)⟩ :: readSoFar)
          openNames position (behind.dropWhile (· != '<')) := by
  refine
    ⟨offset + (text.takeWhile Text.isMarkupSpace).length +
        Text.byteLength (first :: behind.takeWhile (· != '<')),
      ?_⟩
  rw [scanOnto]
  split
  · next empty =>
      exact absurd (shape.symm.trans empty) (List.cons_ne_nil _ _)
  · next same =>
      cases same.symm.trans shape
      exact absurd rfl plain
  · next same =>
      cases same.symm.trans shape
      split
      · next none =>
          rw [none, scanOnto_of_space _ _ _ rfl]
          rfl
      · next bracket afterBracket found =>
          -- The construct behind the character data is the same for both sides.
          obtain rfl := eq_bracket_of_dropWhile found
          have shapeThere :
              ('<' :: afterBracket).dropWhile Text.isMarkupSpace =
                '<' :: afterBracket := rfl
          have noSpace :
              ('<' :: afterBracket).takeWhile Text.isMarkupSpace = [] := rfl
          rw [found, scanOnto_of_bracket _ _ _ shapeThere, noSpace]
          dsimp only [List.length_nil, Nat.add_zero]
          split <;> simp_all [characterData]

/-- The events behind a place of a document depend on what stands there, apart
from white space, and not on the position or on the events in front. -/
theorem scanOnto_agreeBehind
    {first second : List Char}
    (firstRead secondRead : List Located)
    (openNames : List (List Char))
    (firstOffset secondOffset : Nat)
    (same :
      first.dropWhile Text.isMarkupSpace =
        second.dropWhile Text.isMarkupSpace) :
    Scan.AgreeBehind firstRead secondRead
      (scanOnto firstRead openNames firstOffset first)
      (scanOnto secondRead openNames secondOffset second) := by
  -- Every construct shortens the text, so the induction is on its length.
  induction size : first.length using Nat.strongRecOn
    generalizing first second firstRead secondRead openNames firstOffset
      secondOffset with
  | _ length inductionHypothesis =>
  have dropped := dropWhile_length_le Text.isMarkupSpace first
  cases shape : first.dropWhile Text.isMarkupSpace with
  | nil =>
      rw [scanOnto_of_space _ _ _ shape,
        scanOnto_of_space _ _ _ (same.symm.trans shape)]
      exact ⟨[], (List.append_nil _).symm, (List.append_nil _).symm,
        iff_of_true ⟨_, rfl⟩ ⟨_, rfl⟩⟩
  | cons character behind =>
      rw [shape, List.length_cons] at dropped
      by_cases bracket : character = '<'
      · subst bracket
        rw [scanOnto_of_bracket _ _ _ shape,
          scanOnto_of_bracket _ _ _ (same.symm.trans shape)]
        cases result : readConstruct openNames behind with
        | faulty distance fault =>
            exact ⟨[], (List.append_nil _).symm, (List.append_nil _).symm,
              iff_of_false nofun nofun⟩
        | read event content rest =>
            have shorter := readConstruct_length_lt result
            exact .of_cons
              (inductionHypothesis rest.length (by omega) _ _ _ _ _ rfl rfl)
      · obtain ⟨firstPosition, firstScan⟩ :=
          scanOnto_of_characters openNames firstRead firstOffset bracket shape
        obtain ⟨secondPosition, secondScan⟩ :=
          scanOnto_of_characters openNames secondRead secondOffset bracket
            (same.symm.trans shape)
        have shorter := dropWhile_length_le (· != '<') behind
        rw [firstScan, secondScan]
        exact .of_cons
          (inductionHypothesis _ (by omega) _ _ _ _ _ rfl rfl)

end

/-! ## Leading text -/

theorem scan_eq_scanOnto (document : List Char) :
    scan document =
      scanOnto [] [] 0 (Content.stripByteOrderMark document) := by
  cases document with
  | nil => rfl
  | cons first rest =>
      by_cases mark : first = '\uFEFF'
      · subst mark
        rfl
      · simp [scan, Content.stripByteOrderMark, mark]

/-- What is dropped in front of a bracket holds none. -/
theorem stripByteOrderMark_append_bracket
    {front : List Char}
    (behind : List Char)
    (plain : '<' ∉ front) :
    ∃ kept,
      '<' ∉ kept ∧
        Content.stripByteOrderMark (front ++ '<' :: behind) =
          kept ++ '<' :: behind := by
  unfold Content.stripByteOrderMark
  split
  · next rest shape =>
      cases front with
      | nil => exact nomatch shape
      | cons mark front =>
          rw [List.cons_append, List.cons.injEq] at shape
          exact ⟨front, fun bracket => plain (List.mem_cons_of_mem _ bracket),
            shape.2.symm⟩
  · exact ⟨front, plain, rfl⟩

/-- The character data that a text without a bracket holds: one piece, or none
if the text is white space. -/
def leadingText (front : List Char) : List (List Char) :=
  match front.dropWhile Text.isMarkupSpace with
  | [] => []
  | first :: more => [characterData first more]

/-- Text in front of a bracket is read on its own. -/
theorem scanOnto_append_bracket
    (openNames : List (List Char))
    {front : List Char}
    (behind : List Char)
    (plain : '<' ∉ front) :
    let scan := scanOnto [] openNames 0 (front ++ '<' :: behind)
    let alone := scanOnto [] openNames 0 ('<' :: behind)
    scan.eventList = (leadingText front).map .characters ++ alone.eventList ∧
      (scan.IsComplete ↔ alone.IsComplete) := by
  intro scan alone
  unfold leadingText
  cases shape : front.dropWhile Text.isMarkupSpace with
  | nil =>
      have same :
          (front ++ '<' :: behind).dropWhile Text.isMarkupSpace =
            ('<' :: behind).dropWhile Text.isMarkupSpace := by
        rw [List.dropWhile_append, shape]
        rfl
      obtain ⟨further, events, eventsAlone, complete⟩ :=
        scanOnto_agreeBehind [] [] openNames 0 0 same
      exact ⟨events.trans eventsAlone.symm, complete⟩
  | cons first more =>
      obtain ⟨firstPlain, morePlain⟩ :=
        not_bracket_of_dropWhile plain shape
      have passed := ne_bracket_of_not_mem morePlain
      have found :
          (more ++ '<' :: behind).dropWhile (· != '<') = '<' :: behind := by
        rw [List.dropWhile_append_of_pos passed]
        rfl
      have data :
          characterData first (more ++ '<' :: behind) =
            characterData first more := by
        unfold characterData
        rw [List.takeWhile_append_of_pos passed,
          List.takeWhile_eq_self_iff.mpr passed]
        simp
      have dropped :
          (front ++ '<' :: behind).dropWhile Text.isMarkupSpace =
            first :: (more ++ '<' :: behind) := by
        rw [List.dropWhile_append, shape]
        rfl
      obtain ⟨position, scanned⟩ :=
        scanOnto_of_characters openNames [] 0 firstPlain dropped
      rw [found, data] at scanned
      obtain ⟨further, events, eventsAlone, complete⟩ :=
        scanOnto_agreeBehind [⟨0, .characters (characterData first more)⟩] []
          openNames position 0 (rfl : ('<' :: behind).dropWhile _ = _)
      rw [← scanned] at events complete
      exact ⟨events.trans (congrArg _ eventsAlone.symm), complete⟩

/-- Where no bracket is, all events are character data. -/
theorem scanOnto_of_not_mem_bracket
    (openNames : List (List Char))
    {text : List Char}
    (plain : '<' ∉ text) :
    (scanOnto [] openNames 0 text).eventList =
      (leadingText text).map .characters := by
  unfold leadingText
  cases shape : text.dropWhile Text.isMarkupSpace with
  | nil =>
      rw [scanOnto_of_space _ _ _ shape]
      rfl
  | cons first more =>
      obtain ⟨firstPlain, morePlain⟩ :=
        not_bracket_of_dropWhile plain shape
      have nothing : more.dropWhile (· != '<') = [] :=
        List.dropWhile_eq_nil_iff.mpr (ne_bracket_of_not_mem morePlain)
      obtain ⟨position, scanned⟩ :=
        scanOnto_of_characters openNames [] 0 firstPlain shape
      rw [scanned, nothing, scanOnto_of_space _ _ _ rfl]
      rfl

/-- Text in front of the first bracket of a document is one event of its own,
or none. -/
theorem scan_append_bracket
    {front : List Char}
    (behind : List Char)
    (plain : '<' ∉ front) :
    ∃ leading : List (List Char),
      (scan (front ++ '<' :: behind)).eventList =
          leading.map .characters ++ (scan ('<' :: behind)).eventList ∧
        ((scan (front ++ '<' :: behind)).IsComplete ↔
          (scan ('<' :: behind)).IsComplete) := by
  obtain ⟨kept, keptPlain, stripped⟩ :=
    stripByteOrderMark_append_bracket behind plain
  have alone : Content.stripByteOrderMark ('<' :: behind) = '<' :: behind := rfl
  rw [scan_eq_scanOnto, scan_eq_scanOnto, stripped, alone]
  exact ⟨leadingText kept, scanOnto_append_bracket [] behind keptPlain⟩

/-- Where no bracket is, all events are character data. -/
theorem scan_of_not_mem_bracket
    {text : List Char}
    (plain : '<' ∉ text) :
    ∃ leading : List (List Char),
      (scan text).eventList = leading.map .characters := by
  have strippedPlain : '<' ∉ Content.stripByteOrderMark text := by
    unfold Content.stripByteOrderMark
    split
    · exact fun bracket => plain (List.mem_cons_of_mem _ bracket)
    · exact plain
  rw [scan_eq_scanOnto]
  exact ⟨_, scanOnto_of_not_mem_bracket [] strippedPlain⟩

end Markup

namespace Validation

variable
  {schema : Schema}
  {document : List Char}

/-- A document passes its check exactly if it is read to its end, and its
events leave the root closed. -/
theorem checkDocument_eq_ok_iff_runs :
    checkDocument schema document = .ok () ↔
      (Markup.scan document).IsComplete ∧
        Runs schema .initial (Markup.scan document).eventList ⟨[], true⟩ := by
  unfold checkDocument Markup.Scan.eventList
  dsimp only
  rw [← checkEvents_eq_ok_iff]
  cases checkEvents schema .initial (Markup.scan document).events with
  | error malformation => simp
  | ok state =>
      simp only [checkEnding_eq_ok_iff, Except.ok.injEq,
        Markup.Scan.IsComplete]

/-- Character data leaves the state of a check. -/
theorem runs_leading_iff
    {state final : State}
    {leading : List (List Char)}
    {events : List Markup.Event} :
    Runs schema state (leading.map .characters ++ events) final ↔
      (∀ raw ∈ leading,
        TextPasses (textAllowed state.stack) (.characters raw)) ∧
        Runs schema state events final := by
  induction leading with
  | nil => simp
  | cons raw leading inductionHypothesis =>
      rw [List.map_cons, List.cons_append, runs_characters_iff,
        inductionHypothesis, List.forall_mem_cons, and_assoc]

theorem Runs.behind_characters
    {state final : State}
    {leading : List (List Char)}
    {events : List Markup.Event}
    (runs : Runs schema state (leading.map .characters ++ events) final) :
    Runs schema state events final :=
  (runs_leading_iff.mp runs).2

/-- A document that passes its check passes it without the text in front of
its first bracket. -/
theorem checkDocument_of_leading_text
    {front behind : List Char}
    (plain : '<' ∉ front)
    (passed : checkDocument schema (front ++ '<' :: behind) = .ok ()) :
    checkDocument schema ('<' :: behind) = .ok () := by
  obtain ⟨complete, runs⟩ := checkDocument_eq_ok_iff_runs.mp passed
  obtain ⟨leading, events, sameEnding⟩ :=
    Markup.scan_append_bracket behind plain
  rw [events] at runs
  exact checkDocument_eq_ok_iff_runs.mpr
    ⟨sameEnding.mp complete, runs.behind_characters⟩

/-- A document without a bracket does not pass its check. -/
theorem mem_bracket_of_checkDocument
    (passed : checkDocument schema document = .ok ()) :
    '<' ∈ document := by
  obtain ⟨-, runs⟩ := checkDocument_eq_ok_iff_runs.mp passed
  refine Decidable.byContradiction fun plain => ?_
  obtain ⟨leading, events⟩ := Markup.scan_of_not_mem_bracket plain
  rw [events, ← List.append_nil (leading.map _)] at runs
  exact nomatch runs_nil_iff.mp runs.behind_characters

end Validation
end FieldOcr
