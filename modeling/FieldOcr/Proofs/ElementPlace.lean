import FieldOcr.Proofs.MessageData
import FieldOcr.Proofs.TaskElement
import FieldOcr.Url.AsciiName

/-!
# Where the elements of envelopes stand

A task is read from the first task element of a body, and a message from its
first message element.  The elements around them are not looked at: whatever is
open there, and whatever content of other elements stands in front, the element
is read as it is in an envelope of its own.
-/

namespace FieldOcr
namespace Service

open Markup (Content Event Place Tag WrittenTag)

/-! ## Tasks -/

/-- Where no task element is reached, a body is refused. -/
theorem snapshotOfEvents_of_unreached
    [Url.NameConversion]
    (ending : Markup.Ending)
    {events : List Markup.Located}
    (unreached :
      ((events.map (·.event)).find? stopsTaskSearch).bind Event.tag? = none) :
    ∃ fault, snapshotOfEvents ending events = .error fault := by
  induction events with
  | nil => cases ending <;> exact ⟨_, rfl⟩
  | cons located events inductionHypothesis =>
      rw [List.map_cons, List.find?_cons] at unreached
      rw [snapshotOfEvents]
      cases shape : located.event with
      | opening found | selfClosing found =>
          rw [shape] at unreached
          by_cases named : isNamed "task" found.name = true
          · simp only [stopsTaskSearch, named] at unreached
            exact absurd unreached (Option.some_ne_none found)
          · rw [Bool.not_eq_true] at named
            simp only [stopsTaskSearch, named] at unreached
            obtain ⟨fault, refused⟩ := inductionHypothesis unreached
            exact ⟨fault, (if_neg (by simp [named])).trans refused⟩
      | doctype => exact ⟨_, rfl⟩
      | closing name | characters raw | literal text | ignored =>
          rw [shape] at unreached
          exact inductionHypothesis unreached

/-- A body is accepted as a task exactly if a task element is reached whose
attributes make a snapshot. -/
theorem readSnapshot_eq_ok_iff
    [Url.NameConversion]
    {body : List Char}
    {snapshot : RemoteTask.Snapshot} :
    readSnapshot body = .ok snapshot ↔
      ∃ tag, reachedTask? body = some tag ∧ snapshotOfTag tag = .ok snapshot := by
  constructor
  · intro accepted
    cases reached : reachedTask? body with
    | none =>
        obtain ⟨fault, refused⟩ :=
          snapshotOfEvents_of_unreached (Markup.scan body).ending reached
        cases accepted.symm.trans refused
    | some tag =>
        rw [readSnapshot_of_reached reached] at accepted
        exact ⟨tag, rfl, accepted⟩
  · rintro ⟨tag, reached, told⟩
    rw [readSnapshot_of_reached reached, told]

/-- A search in a document finds what is written behind a place, if it passes
all that is written there. -/
theorem find?_scan_of_place
    {stops : Event -> Bool}
    (passesText : ∀ raw, stops (.characters raw) = false)
    (place : Place)
    (before : Content)
    (passed : ∀ event ∈ place.events ++ before.events, stops event = false)
    {behind content rest : List Char}
    {event : Event}
    (result :
      Markup.readConstruct place.names behind = .read event content rest)
    (stopped : stops event = true) :
    (Markup.scan
        (place.write ++ (before.write ++ '<' :: behind))).eventList.find?
      stops = some event := by
  obtain ⟨leading, front, events, scanned, read⟩ :=
    Markup.scan_eventsFrom (place.write ++ (before.write ++ '<' :: behind))
  have skipped :
      (place.events ++ before.events).find? stops = none := by
    rw [List.find?_eq_none]
    exact fun other member => Bool.eq_false_iff.mp (passed other member)
  have found :
      (Markup.eventsFrom []
        (place.write ++ (before.write ++ '<' :: behind))).find? stops =
        some event := by
    rw [place.eventsFrom_write, List.append_nil, Markup.eventsFrom_content,
      Markup.eventsFrom_of_read result, ← List.append_assoc,
      List.find?_append, skipped, List.find?_cons, stopped]
    rfl
  rw [read, List.find?_append, Markup.find?_characters passesText] at found
  rw [scanned, List.find?_append, Markup.find?_characters passesText]
  exact found

/-- A task element is read wherever it is written, behind content that does not
stop the search. -/
theorem readSnapshot_of_place
    [Url.NameConversion]
    (place : Place)
    (before : Content)
    {tag : WrittenTag}
    (named : isNamed "task" tag.name = true)
    (passed :
      ∀ event ∈ place.events ++ before.events, stopsTaskSearch event = false)
    {ending : List Char}
    (ends : ending ∈ Markup.tagEndings)
    (behind : List Char) :
    readSnapshot
        (place.write ++
          (before.write ++ '<' :: (tag.text ++ (ending ++ behind)))) =
      snapshotOfTag tag.toTag := by
  apply readSnapshot_of_reached
  obtain ⟨event, content, opens, result⟩ :=
    tag.read_tagEnding place.names ends behind
  have stopped := stopsTaskSearch_of_tag opens named
  rw [reachedTask?,
    find?_scan_of_place (fun _ => rfl) place before passed result stopped]
  exact opens

/-! ## Messages -/

theorem exists_tag_of_opensMessage
    {event : Event}
    (opens : opensMessage event = true) :
    ∃ tag, event = .opening tag ∧ isNamed "message" tag.name = true := by
  cases event with
  | opening tag => exact ⟨tag, rfl, opens⟩
  | selfClosing | closing | characters | literal | doctype | ignored =>
      exact absurd opens (by simp [opensMessage])

/-- A body has a message exactly if a message element is opened in it, and the
character data behind its tag is not blank. -/
theorem errorMessage?_eq_some_iff
    {body message : List Char} :
    errorMessage? body = some message ↔
      ∃ front tag behind text,
        (Markup.scan body).eventList = front ++ .opening tag :: behind ∧
          (∀ event ∈ front, opensMessage event = false) ∧
          isNamed "message" tag.name = true ∧
          heldTexts? (behind.takeWhile fun event => !closesMessage event) =
            some text ∧
          presented? text = some message := by
  rw [errorMessage?_eq, Option.bind_eq_some_iff]
  constructor
  · rintro ⟨text, held, presented⟩
    have split :=
      List.takeWhile_append_dropWhile (p := fun event => !opensMessage event)
        (l := (Markup.scan body).eventList)
    unfold messageEvents at held
    cases shape :
        (Markup.scan body).eventList.dropWhile
          fun event => !opensMessage event with
    | nil =>
        rw [shape] at held
        cases held
        exact absurd presented.symm (Option.some_ne_none message)
    | cons first behind =>
        have stopped :=
          List.head?_dropWhile_not (fun event => !opensMessage event)
            (Markup.scan body).eventList
        rw [shape] at split stopped held
        have opens : opensMessage first = true := by simpa using stopped
        obtain ⟨tag, rfl, named⟩ := exists_tag_of_opensMessage opens
        refine ⟨_, tag, behind, text, split.symm, ?_, named, held, presented⟩
        intro event member
        simpa using List.mem_takeWhile_imp member
  · rintro ⟨front, tag, behind, text, events, unopened, named, held, presented⟩
    have opens : opensMessage (.opening tag) = true := named
    refine ⟨text, ?_, presented⟩
    rw [events, messageEvents_append unopened, ← held]
    simp [messageEvents, opens]

/-! ## Envelopes -/

/-- A tag without attributes at the beginning of its level. -/
def bareLevel (tag : WrittenTag) : Markup.Level :=
  ⟨.none, tag⟩

/-- The tag of an envelope of tasks. -/
def responseTag : WrittenTag :=
  .ofName "response".toList (by decide) rfl

/-- The envelope of a task. -/
def taskEnvelope (tag : WrittenTag) : List Char :=
  "<response><".toList ++ (tag.text ++ "/></response>".toList)

/-- The envelope of a message. -/
def messageEnvelope (content : Content) : List Char :=
  "<error><message>".toList ++
    (content.write ++ "</message></error>".toList)

theorem readSnapshot_taskEnvelope
    [Url.NameConversion]
    {tag : WrittenTag}
    (named : isNamed "task" tag.name = true) :
    readSnapshot (taskEnvelope tag) = snapshotOfTag tag.toTag := by
  have ends : ['/', '>'] ∈ Markup.tagEndings := by decide
  exact readSnapshot_of_place [bareLevel responseTag] .none named (by decide)
    ends "</response>".toList

theorem errorMessage?_messageEnvelope
    {content : Content}
    (others : ∀ tag ∈ content.tags, isNamed "message" tag.name = false) :
    errorMessage? (messageEnvelope content) =
      (heldTexts? content.events).bind presented? := by
  have named : isNamed "message" messageTag.name = true := rfl
  have around :
      ∀ tag ∈ Markup.Place.tags [bareLevel errorTag] ++ [] ++ content.tags,
        isNamed "message" tag.name = false :=
    List.forall_mem_append.mpr ⟨by decide, others⟩
  have blank : ∀ character ∈ [], Text.isMarkupSpace character = true :=
    List.forall_mem_nil _
  have read :=
    errorMessage?_of_place [bareLevel errorTag] .none content named around blank
      "</error>".toList
  rw [← read]
  rfl

/-- A body is accepted as a task exactly if a task element is reached whose
attributes make a snapshot, and it has a message exactly if a message element
is opened whose character data is not blank.  The elements that are open around
either make no difference: behind every place and content without such
elements, it is read as in an envelope of its own. -/
theorem elements_read_at_every_place
    [Url.NameConversion]
    (body : List Char)
    (place : Place)
    (before : Content)
    (behind : List Char) :
    (∀ snapshot,
      readSnapshot body = .ok snapshot ↔
        ∃ tag,
          reachedTask? body = some tag ∧
            snapshotOfTag tag = .ok snapshot) ∧
    (∀ message,
      errorMessage? body = some message ↔
        ∃ front tag behind text,
          (Markup.scan body).eventList = front ++ .opening tag :: behind ∧
            (∀ event ∈ front, opensMessage event = false) ∧
            isNamed "message" tag.name = true ∧
            heldTexts? (behind.takeWhile fun event => !closesMessage event) =
              some text ∧
            presented? text = some message) ∧
    (∀ (tag : WrittenTag) (ending : List Char),
      isNamed "task" tag.name = true ->
        ending ∈ Markup.tagEndings ->
          (∀ event ∈ place.events ++ before.events,
            stopsTaskSearch event = false) ->
            readSnapshot
                (place.write ++ (before.write ++
                  '<' :: (tag.text ++ (ending ++ behind)))) =
              readSnapshot (taskEnvelope tag)) ∧
    (∀ (tag : WrittenTag) (content : Content) (space : List Char),
      isNamed "message" tag.name = true ->
        (∀ other ∈ place.tags ++ before.tags ++ content.tags,
          isNamed "message" other.name = false) ->
          (∀ character ∈ space, Text.isMarkupSpace character = true) ->
            errorMessage?
                (place.write ++ (before.write ++
                  '<' :: tag.enclose content.write space behind)) =
              errorMessage? (messageEnvelope content)) := by
  refine ⟨?_, ?_, ?_, ?_⟩
  · exact fun snapshot => readSnapshot_eq_ok_iff
  · exact fun message => errorMessage?_eq_some_iff
  · intro tag ending named ends passed
    rw [readSnapshot_taskEnvelope named,
      readSnapshot_of_place place before named passed ends behind]
  · intro tag content space named others blank
    have inside : ∀ other ∈ content.tags, isNamed "message" other.name = false :=
      (List.forall_mem_append.mp others).2
    rw [errorMessage?_messageEnvelope inside,
      errorMessage?_of_place place before content named others blank behind]

/-- The tag of a task that waits. -/
def queuedTag : WrittenTag :=
  .ofAttributes "task".toList
    [⟨"id".toList, "t".toList⟩, ⟨"status".toList, "Queued".toList⟩]
    (by decide) rfl rfl

/-- A place two elements deep, in an error. -/
def notePlace : Place :=
  [bareLevel errorTag, bareLevel (.ofName "note".toList (by decide) rfl)]

/-- A task in a note of an error is accepted, and a message there is one. -/
theorem elements_read_at_every_place_note :
    readSnapshot
          "<error><note><task id=\"t\" status=\"Queued\"/></note></error>".toList =
        readSnapshot (taskEnvelope queuedTag) ∧
      (readSnapshot (taskEnvelope queuedTag)).isOk = true ∧
      errorMessage?
          "<error><note><message>x</message></note></error>".toList =
        errorMessage?
          (messageEnvelope (.ofPlain ['x'] (by decide) (by decide))) ∧
      errorMessage?
          (messageEnvelope (.ofPlain ['x'] (by decide) (by decide))) =
        some ['x'] := by
  have read :=
    elements_read_at_every_place [] notePlace .none "</note></error>".toList
  refine ⟨?_, ?_, ?_, ?_⟩
  · exact read.2.2.1 queuedTag ['/', '>'] rfl (by decide) (by decide)
  · decide +kernel
  · exact read.2.2.2 messageTag (.ofPlain ['x'] (by decide) (by decide)) [] rfl
      (by decide) (List.forall_mem_nil _)
  · decide +kernel

end Service
end FieldOcr
