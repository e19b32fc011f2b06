import FieldOcr.Proofs.Expansion
import FieldOcr.Proofs.WrittenMarkup

/-!
# Content as it is written

The content of an element is character data, and between it comments,
instructions, literal sections and elements with content of their own.  A place
in a document is told by the elements that are open there, each with the content
in front of it.  The reader delivers the events that are written, on every
level, whatever stands behind them.
-/

namespace FieldOcr
namespace Markup

/-- Character data as it is written, and the text that it stands for. -/
structure WrittenText where
  /-- What is written. -/
  raw : List Char
  /-- The text with its references replaced. -/
  text : List Char
  /-- Brackets are written as references. -/
  plain : '<' ∉ raw
  /-- Every reference denotes a character. -/
  standsFor : StandsFor raw text

/-- Text without references and brackets stands for itself. -/
def WrittenText.ofPlain
    (text : List Char)
    (plain : '<' ∉ text)
    (ordinary : '&' ∉ text) : WrittenText :=
  ⟨text, text, plain, .refl ordinary⟩

/-- The content of an element: character data, which an insertion or an element
and more content may follow. -/
inductive Content
  | text (data : WrittenText)
  | insertion (data : WrittenText) (markup : Insertion) (rest : Content)
  | element
      (data : WrittenText)
      (tag : WrittenTag)
      (inside : Content)
      (space : List Char)
      (blank : ∀ character ∈ space, Text.isMarkupSpace character = true)
      (rest : Content)

/-- An element from behind its first bracket on: its tag, its content, and its
closing tag with white space behind the name.  Other text follows. -/
def WrittenTag.enclose
    (tag : WrittenTag)
    (inside space rest : List Char) : List Char :=
  tag.text ++ '>' :: (inside ++ '<' :: ('/' :: (tag.name ++ space) ++ '>' :: rest))

namespace Content

/-- The text of the content. -/
def write : Content -> List Char
  | .text data => data.raw
  | .insertion data markup rest =>
      data.raw ++ '<' :: (markup.write ++ '>' :: rest.write)
  | .element data tag inside space _ rest =>
      data.raw ++ '<' :: tag.enclose inside.write space rest.write

/-- What is to be read of the content. -/
def events : Content -> List Event
  | .text data => (leadingText data.raw).map .characters
  | .insertion data markup rest =>
      (leadingText data.raw).map .characters ++ markup.event :: rest.events
  | .element data tag inside _ _ rest =>
      (leadingText data.raw).map .characters ++
        .opening tag.toTag ::
          (inside.events ++ .closing tag.name :: rest.events)

/-- The tags of all elements in the content. -/
def tags : Content -> List Tag
  | .text _ => []
  | .insertion _ markup rest => markup.event.tag?.toList ++ rest.tags
  | .element _ tag inside _ _ rest => tag.toTag :: (inside.tags ++ rest.tags)

end Content

/-- Content that is text without references and brackets. -/
def Content.ofPlain
    (text : List Char)
    (plain : '<' ∉ text)
    (ordinary : '&' ∉ text) : Content :=
  .text (.ofPlain text plain ordinary)

/-- No content at all. -/
def Content.none : Content :=
  .ofPlain [] (by decide) (by decide)

/-! ## Reading content -/

/-- The events of a text in which some tags are open. -/
def eventsFrom (names : List (List Char)) (text : List Char) : List Event :=
  (scanOnto [] names 0 text).eventList

section

variable {names : List (List Char)}

/-- Character data in front of a bracket is read on its own. -/
theorem eventsFrom_append_bracket
    {front : List Char}
    (plain : '<' ∉ front)
    (behind : List Char) :
    eventsFrom names (front ++ '<' :: behind) =
      (leadingText front).map .characters ++
        eventsFrom names ('<' :: behind) :=
  (scanOnto_append_bracket names behind plain).1

/-- A construct is one event in front of those of the rest. -/
theorem eventsFrom_of_read
    {behind content rest : List Char}
    {event : Event}
    (result : readConstruct names behind = .read event content rest) :
    eventsFrom names ('<' :: behind) =
      event :: eventsFrom (openAfter names event) rest :=
  (scanOnto_of_read result).1

/-- An element is read as it is written, if its content is. -/
theorem eventsFrom_enclose
    {inside : List Char}
    {events : List Event}
    (reads :
      ∀ names behind,
        eventsFrom names (inside ++ '<' :: behind) =
          events ++ eventsFrom names ('<' :: behind))
    (tag : WrittenTag)
    {space : List Char}
    (blank : ∀ character ∈ space, Text.isMarkupSpace character = true)
    (rest : List Char) :
    eventsFrom names ('<' :: tag.enclose inside space rest) =
      .opening tag.toTag ::
        (events ++ .closing tag.name :: eventsFrom names rest) := by
  unfold WrittenTag.enclose
  rw [eventsFrom_of_read (tag.read_opening names _), reads, openAfter,
    eventsFrom_of_read (tag.read_closing names blank rest)]
  rfl

/-- Content is read as it is written. -/
theorem eventsFrom_content
    (content : Content)
    (names : List (List Char))
    (behind : List Char) :
    eventsFrom names (content.write ++ '<' :: behind) =
      content.events ++ eventsFrom names ('<' :: behind) := by
  induction content generalizing names behind with
  | text data => exact eventsFrom_append_bracket data.plain behind
  | insertion data markup rest inductionHypothesis =>
      rw [Content.write, Content.events, List.append_assoc, List.cons_append,
        List.append_assoc, List.cons_append,
        eventsFrom_append_bracket data.plain,
        eventsFrom_of_read (markup.read_write names _),
        markup.openAfter_event, inductionHypothesis]
      simp
  | element data tag inside space blank rest insideHypothesis
      restHypothesis =>
      have together (more : List Char) :
          tag.enclose inside.write space rest.write ++ more =
            tag.enclose inside.write space (rest.write ++ more) := by
        simp [WrittenTag.enclose]
      rw [Content.write, Content.events, List.append_assoc, List.cons_append,
        together, eventsFrom_append_bracket data.plain,
        eventsFrom_enclose insideHypothesis tag blank, restHypothesis]
      simp

end

/-! ## The tags of content -/

/-- An event opens or closes no element other than those of some tags. -/
def Event.BelongsTo (tags : List Tag) : Event -> Prop
  | .opening tag | .selfClosing tag => tag ∈ tags
  | .closing name => ∃ tag ∈ tags, tag.name = name
  | _ => True

theorem Event.BelongsTo.mono
    {tags more : List Tag}
    {event : Event}
    (belongs : event.BelongsTo tags)
    (contained : tags ⊆ more) :
    event.BelongsTo more := by
  cases event with
  | opening tag | selfClosing tag => exact contained belongs
  | closing name =>
      obtain ⟨tag, member, same⟩ := belongs
      exact ⟨tag, contained member, same⟩
  | characters raw | literal text | doctype | ignored => trivial

theorem belongsTo_characters
    (tags : List Tag)
    (leading : List (List Char)) :
    ∀ event ∈ leading.map Event.characters, event.BelongsTo tags := by
  intro event member
  obtain ⟨raw, -, rfl⟩ := List.mem_map.mp member
  trivial

/-- What is read of content belongs to its elements. -/
theorem Content.belongsTo_tags (content : Content) :
    ∀ event ∈ content.events, event.BelongsTo content.tags := by
  induction content with
  | text data => exact belongsTo_characters _ _
  | insertion data markup rest inductionHypothesis =>
      refine List.forall_mem_append.mpr
        ⟨belongsTo_characters _ _, List.forall_mem_cons.mpr ⟨?_, ?_⟩⟩
      · cases markup with
        | emptyElement tag => exact List.mem_cons_self
        | comment | instruction | literal | doctype => trivial
      · exact fun event member =>
          (inductionHypothesis event member).mono
            (List.subset_append_right _ _)
  | element data tag inside space blank rest insideHypothesis
      restHypothesis =>
      have within : inside.tags ⊆ tag.toTag :: (inside.tags ++ rest.tags) :=
        List.subset_cons_of_subset _ (List.subset_append_left _ _)
      have behind : rest.tags ⊆ tag.toTag :: (inside.tags ++ rest.tags) :=
        List.subset_cons_of_subset _ (List.subset_append_right _ _)
      refine List.forall_mem_append.mpr
        ⟨belongsTo_characters _ _, List.forall_mem_cons.mpr
          ⟨List.mem_cons_self, List.forall_mem_append.mpr
            ⟨?_, List.forall_mem_cons.mpr
              ⟨⟨tag.toTag, List.mem_cons_self, rfl⟩, ?_⟩⟩⟩⟩
      · exact fun event member => (insideHypothesis event member).mono within
      · exact fun event member => (restHypothesis event member).mono behind

/-! ## Places -/

/-- An element that is open, and the content in front of it on its level. -/
structure Level where
  /-- The content in front of the element. -/
  front : Content
  /-- The tag of the element. -/
  tag : WrittenTag

/-- A place in a document: the elements that are open there, outermost
first. -/
abbrev Place :=
  List Level

namespace Place

/-- What is written in front of a place. -/
def write : Place -> List Char
  | [] => []
  | level :: place =>
      level.front.write ++ '<' :: (level.tag.text ++ '>' :: write place)

/-- What is to be read in front of a place. -/
def events : Place -> List Event
  | [] => []
  | level :: place =>
      level.front.events ++ .opening level.tag.toTag :: events place

/-- The tags of the open elements and of all elements in front of them. -/
def tags : Place -> List Tag
  | [] => []
  | level :: place => level.front.tags ++ level.tag.toTag :: tags place

/-- The names of the open elements, innermost first. -/
def names (place : Place) : List (List Char) :=
  (place.map (·.tag.name)).reverse

/-- What stands in front of a place is read as it is written. -/
theorem eventsFrom_write
    (place : Place)
    (outer : List (List Char))
    (text : List Char) :
    eventsFrom outer (place.write ++ text) =
      place.events ++ eventsFrom (place.names ++ outer) text := by
  induction place generalizing outer with
  | nil => rfl
  | cons level place inductionHypothesis =>
      rw [write, events, List.append_assoc, List.cons_append,
        List.append_assoc, List.cons_append, eventsFrom_content,
        eventsFrom_of_read (level.tag.read_opening outer _), openAfter,
        inductionHypothesis]
      simp [names]

/-- What is read in front of a place belongs to its tags. -/
theorem belongsTo_tags (place : Place) :
    ∀ event ∈ place.events, event.BelongsTo place.tags := by
  induction place with
  | nil => exact List.forall_mem_nil _
  | cons level place inductionHypothesis =>
      refine List.forall_mem_append.mpr ⟨?_, List.forall_mem_cons.mpr
        ⟨List.mem_append_right _ List.mem_cons_self, ?_⟩⟩
      · exact fun event member =>
          (level.front.belongsTo_tags event member).mono
            (List.subset_append_left _ _)
      · exact fun event member =>
          (inductionHypothesis event member).mono
            (List.Subset.trans (List.subset_cons_self _ _)
              (List.subset_append_right _ _))

end Place

/-- A document and its text are read alike, apart from character data in front
of the first bracket. -/
theorem scan_eventsFrom (document : List Char) :
    ∃ (leading front : List (List Char)) (events : List Event),
      (scan document).eventList = leading.map .characters ++ events ∧
        eventsFrom [] document = front.map .characters ++ events := by
  by_cases bracket : '<' ∈ document
  · obtain ⟨front, behind, rfl, plain⟩ := List.eq_append_cons_of_mem bracket
    obtain ⟨leading, events, -⟩ := scan_append_bracket behind plain
    exact ⟨leading, leadingText front, _, events,
      eventsFrom_append_bracket plain behind⟩
  · obtain ⟨leading, events⟩ := scan_of_not_mem_bracket bracket
    refine ⟨leading, leadingText document, [], ?_, ?_⟩
    · rw [events, List.append_nil]
    · rw [List.append_nil]
      exact scanOnto_of_not_mem_bracket [] bracket

end Markup
end FieldOcr
