import FieldOcr.Proofs.TagEnding
import FieldOcr.Service.Envelope

/-!
# The task element of an envelope

An envelope is read as far as its first task element, and of this element only
the tag counts.  Whatever stands behind the tag, the same tag is found.  A tag
whose attributes can all be read is also found in both forms, with a slash in
front of its closing bracket and without one.
-/

namespace FieldOcr
namespace Markup

/-! ## Searching a document -/

/-- The first event that stops a search, from a place in a document on. -/
def firstStop?
    (stops : Event -> Bool)
    (openNames : List (List Char))
    (text : List Char) : Option Event :=
  (scanOnto [] openNames 0 text).eventList.find? stops

/-- Text in front of a bracket that a search passes: whatever construct is read
behind the bracket is found, if it stops the search. -/
def SearchArrives
    (stops : Event -> Bool)
    (openNames names : List (List Char))
    (front : List Char) : Prop :=
  ∀ ⦃behind event content rest⦄,
    readConstruct names behind = .read event content rest ->
      stops event = true ->
        firstStop? stops openNames (front ++ '<' :: behind) = some event

section

variable
  {stops : Event -> Bool}
  {openNames names : List (List Char)}
  {front behind content rest text : List Char}
  {event : Event}

/-- Nothing is found at a faulty construct. -/
theorem firstStop?_of_faulty
    {distance : Nat}
    {fault : ReaderFault}
    (result : readConstruct openNames behind = .faulty distance fault) :
    firstStop? stops openNames ('<' :: behind) = none := by
  rw [firstStop?, scanOnto_of_bracket openNames [] 0 rfl, result]
  rfl

/-- A construct is found if it stops the search, and passed otherwise. -/
theorem firstStop?_of_read
    (result : readConstruct openNames behind = .read event content rest) :
    firstStop? stops openNames ('<' :: behind) =
      if stops event then some event
      else firstStop? stops (openAfter openNames event) rest := by
  obtain ⟨events, -⟩ := scanOnto_of_read result
  rw [firstStop?, events, List.find?_cons, firstStop?]
  cases stops event <;> rfl

variable (passesText : ∀ raw, stops (.characters raw) = false)

include passesText

theorem find?_characters (leading : List (List Char)) :
    (leading.map Event.characters).find? stops = none := by
  rw [List.find?_eq_none]
  intro event found
  obtain ⟨raw, -, rfl⟩ := List.mem_map.mp found
  exact Bool.eq_false_iff.mp (passesText raw)

/-- Character data is passed. -/
theorem firstStop?_append_bracket (plain : '<' ∉ front) :
    firstStop? stops openNames (front ++ '<' :: behind) =
      firstStop? stops openNames ('<' :: behind) := by
  obtain ⟨events, -⟩ := scanOnto_append_bracket openNames behind plain
  rw [firstStop?, events, List.find?_append, find?_characters passesText]
  rfl

theorem firstStop?_of_not_mem_bracket (plain : '<' ∉ text) :
    firstStop? stops openNames text = none := by
  rw [firstStop?, scanOnto_of_not_mem_bracket openNames plain,
    find?_characters passesText]

/-- A search arrives behind character data. -/
theorem searchArrives_of_plain (plain : '<' ∉ front) :
    SearchArrives stops openNames openNames front := by
  intro behind event content rest result stopped
  rw [firstStop?_append_bracket passesText plain, firstStop?_of_read result,
    if_pos stopped]

/-- A search that passes a construct arrives where it does behind it. -/
theorem SearchArrives.behind_construct
    {inside : List Char}
    (plain : '<' ∉ front)
    (reads :
      ∀ other,
        readConstruct openNames (content ++ '>' :: other) =
          .read event content other)
    (passed : stops event = false)
    (arrives : SearchArrives stops (openAfter openNames event) names inside) :
    SearchArrives stops openNames names
      (front ++ '<' :: (content ++ '>' :: inside)) := by
  intro behind found foundContent rest result stopped
  have located := arrives result stopped
  have whole :
      firstStop? stops openNames
          (front ++ '<' :: (content ++ '>' :: (inside ++ '<' :: behind))) =
        some found := by
    rw [firstStop?_append_bracket passesText plain, firstStop?_of_read (reads _),
      passed, located]
    rfl
  simpa using whole

/-- What a search finds is read behind a bracket at which the search arrives. -/
theorem exists_searchArrives
    (found : firstStop? stops openNames text = some event) :
    ∃ front names behind content rest,
      text = front ++ '<' :: behind ∧
        readConstruct names behind = .read event content rest ∧
        SearchArrives stops openNames names front := by
  -- Every construct shortens the text, so the induction is on its length.
  induction size : text.length using Nat.strongRecOn
    generalizing text openNames with
  | _ length inductionHypothesis =>
  by_cases bracket : '<' ∈ text
  · obtain ⟨leading, behind, rfl, plain⟩ :=
      List.eq_append_cons_of_mem bracket
    rw [firstStop?_append_bracket passesText plain] at found
    cases result : readConstruct openNames behind with
    | faulty distance fault =>
        rw [firstStop?_of_faulty result] at found
        exact absurd found.symm (Option.some_ne_none event)
    | read first content rest =>
        rw [firstStop?_of_read result] at found
        split at found
        · cases found
          exact ⟨leading, openNames, behind, content, rest, rfl, result,
            searchArrives_of_plain passesText plain⟩
        · next passed =>
            obtain ⟨rfl, reads⟩ := readConstruct_readsTo result
            have shorter : rest.length < length := by
              subst size
              simp only [List.length_append, List.length_cons]
              omega
            obtain ⟨inside, names, behind, _, _, rfl, stopped, arrives⟩ :=
              inductionHypothesis _ shorter found rfl
            exact ⟨leading ++ '<' :: (content ++ '>' :: inside), names,
              behind, _, _, by simp, stopped,
              arrives.behind_construct passesText plain reads
                (Bool.eq_false_iff.mpr passed)⟩
  · rw [firstStop?_of_not_mem_bracket passesText bracket] at found
    exact absurd found.symm (Option.some_ne_none event)

/-- What a search in a whole document finds is read behind a bracket, and
whatever is read there is found if it stops the search. -/
theorem exists_scanArrives
    {document : List Char}
    (found : (scan document).eventList.find? stops = some event) :
    ∃ front names behind content rest,
      document = front ++ '<' :: behind ∧
        readConstruct names behind = .read event content rest ∧
        ∀ ⦃behind event content rest⦄,
          readConstruct names behind = .read event content rest ->
            stops event = true ->
              (scan (front ++ '<' :: behind)).eventList.find? stops =
                some event := by
  rw [scan_eq_scanOnto] at found
  obtain ⟨front, names, behind, content, rest, shape, result, arrives⟩ :=
    exists_searchArrives passesText found
  by_cases marked : document.head? = some '\uFEFF'
  · obtain ⟨stripped, rfl⟩ := List.head?_eq_some_iff.mp marked
    refine ⟨'\uFEFF' :: front, names, behind, content, rest,
      congrArg _ shape, result, ?_⟩
    intro behind event content rest result stopped
    rw [scan_eq_scanOnto]
    exact arrives result stopped
  · rw [Validation.stripByteOrderMark_of_head? marked] at shape
    refine ⟨front, names, behind, content, rest, shape, result, ?_⟩
    intro behind event content rest result stopped
    have unmarked : (front ++ '<' :: behind).head? ≠ some '\uFEFF' := by
      rw [shape] at marked
      cases front with
      | nil => exact fun head => absurd (Option.some.inj head) (by decide)
      | cons first front => exact marked
    rw [scan_eq_scanOnto, Validation.stripByteOrderMark_of_head? unmarked]
    exact arrives result stopped

end

end Markup

namespace Service

open Markup (Event Tag)

/-- The tag of a task whose attributes can all be read does not end in a
slash. -/
theorem getLast?_of_readable_task
    {text : List Char}
    (named : isNamed "task" (Tag.ofText text).name = true)
    (readable : (Tag.ofText text).attributes.2 = none) :
    text.getLast? ≠ some '/' := by
  have split := Tag.name_append_body text
  have unslashed := Markup.getLast?_of_readAttributes readable
  cases shape : (Tag.ofText text).body with
  | nil =>
      -- The name ends as its part behind the prefix does.
      rw [shape, List.append_nil] at split
      obtain ⟨front, whole⟩ := Markup.localName_suffix (Tag.ofText text).name
      rw [eq_of_beq named, split] at whole
      rw [← whole, List.getLast?_append_of_ne_nil _ (by decide)]
      decide
  | cons first rest =>
      rw [shape] at split unslashed
      rw [← split, List.getLast?_append_cons]
      exact unslashed

/-! ## Reaching the task element -/

/-- Whether an event ends the search for a task element: the tag of such an
element, or a document type declaration. -/
def stopsTaskSearch : Event -> Bool
  | .opening tag | .selfClosing tag => isNamed "task" tag.name
  | .doctype => true
  | _ => false

/-- The tag of the first task element of an envelope, if neither a fault nor a
document type declaration stands in front of it. -/
def reachedTask? (body : List Char) : Option Tag :=
  ((Markup.scan body).eventList.find? stopsTaskSearch).bind Event.tag?

section

variable [Url.NameConversion]

theorem snapshotOfEvents_of_reached
    {ending : Markup.Ending}
    {events : List Markup.Located}
    {tag : Tag}
    (reached :
      ((events.map (·.event)).find? stopsTaskSearch).bind Event.tag? =
        some tag) :
    snapshotOfEvents ending events = snapshotOfTag tag := by
  induction events with
  | nil => cases reached
  | cons located events inductionHypothesis =>
      rw [List.map_cons, List.find?_cons] at reached
      rw [snapshotOfEvents]
      cases shape : located.event with
      | opening found | selfClosing found =>
          rw [shape] at reached
          by_cases named : isNamed "task" found.name = true
          · simp only [stopsTaskSearch, named] at reached
            cases reached
            exact if_pos named
          · rw [Bool.not_eq_true] at named
            simp only [stopsTaskSearch, named] at reached
            exact (if_neg (by simp [named])).trans
              (inductionHypothesis reached)
      | doctype =>
          rw [shape] at reached
          cases reached
      | closing name | characters raw | literal text | ignored =>
          rw [shape] at reached
          exact inductionHypothesis reached

/-- Only the tag that is reached counts. -/
theorem readSnapshot_of_reached
    {body : List Char}
    {tag : Tag}
    (reached : reachedTask? body = some tag) :
    readSnapshot body = snapshotOfTag tag :=
  snapshotOfEvents_of_reached reached

end

/-- A tag that is reached has the name of a task. -/
theorem isNamed_of_reached
    {body : List Char}
    {tag : Tag}
    (reached : reachedTask? body = some tag) :
    isNamed "task" tag.name = true := by
  obtain ⟨event, found, opens⟩ := Option.bind_eq_some_iff.mp reached
  have stopped := List.find?_some found
  cases event <;> cases opens <;> exact stopped

/-- A construct that opens the tag of a task stops the search. -/
theorem stopsTaskSearch_of_tag
    {event : Event}
    {tag : Tag}
    (opens : event.tag? = some tag)
    (named : isNamed "task" tag.name = true) :
    stopsTaskSearch event = true := by
  cases event <;> cases opens <;> exact named

/-- A tag is reached in front of everything that may stand behind it, and if its
attributes can all be read, with either ending. -/
theorem exists_taskText
    {body : List Char}
    {tag : Tag}
    (reached : reachedTask? body = some tag) :
    ∃ front text ending rest,
      ending ∈ Markup.tagEndings ∧
        body = front ++ '<' :: (text ++ (ending ++ rest)) ∧
        Tag.ofText text = tag ∧
        ∀ other ∈ Markup.tagEndings,
          other = ending ∨ tag.attributes.2 = none ->
            ∀ behind,
              reachedTask? (front ++ '<' :: (text ++ (other ++ behind))) =
                some tag := by
  have named := isNamed_of_reached reached
  obtain ⟨event, found, opens⟩ := Option.bind_eq_some_iff.mp reached
  obtain ⟨front, names, _, content, rest, rfl, result, arrives⟩ :=
    Markup.exists_scanArrives (fun _ => rfl) found
  -- Whatever is read behind the bracket as this tag is reached.
  have reaches {behind content rest : List Char} {event : Event}
      (result : Markup.readConstruct names behind = .read event content rest)
      (opens : event.tag? = some tag) :
      reachedTask? (front ++ '<' :: behind) = some tag := by
    have stopped := stopsTaskSearch_of_tag opens named
    rw [reachedTask?, arrives result stopped]
    exact opens
  obtain ⟨shape, again⟩ := Markup.readConstruct_readsTo result
  obtain ⟨opening, plain⟩ := Markup.readConstruct_opens result opens
  obtain ⟨text, ending, ends, rfl, whole, split⟩ :=
    Markup.readOpening_ending opening opens
  have parts (other : List Char) :
      content ++ '>' :: other = text ++ (ending ++ other) := by
    rw [← List.append_assoc, ← whole]
    simp
  have filled : text ≠ [] := by
    rintro rfl
    exact absurd named (by decide)
  rw [shape, parts, List.head?_append_of_ne_nil _ filled] at plain
  refine ⟨front, text, ending, rest, ends, by rw [shape, parts], rfl, ?_⟩
  rintro other others (rfl | readable) behind
  · rw [← parts]
    exact reaches (again behind) opens
  · have unslashed := getLast?_of_readable_task named readable
    obtain ⟨event, content, opens, result⟩ :=
      Markup.readConstruct_tagEnding filled plain split unslashed others behind
    exact reaches result opens

end Service
end FieldOcr
