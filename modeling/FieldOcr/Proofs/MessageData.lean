import FieldOcr.Proofs.WrittenContent
import FieldOcr.Service.Envelope

/-!
# The character data of a message

The message of a body is the text that its events hold behind the first opening
tag of a message and up to the next closing tag of one.  In front of the former
no closing tag of a message can stand, since the reader matches them.  So the
message of a body that is written with one is what the content of its element
holds, wherever this element stands.
-/

namespace FieldOcr
namespace Service

open Markup (Content Event Leads Located Place Tag WrittenTag)

/-- Whether an event opens a message. -/
def opensMessage : Event -> Bool
  | .opening tag => isNamed "message" tag.name
  | _ => false

/-- Whether an event closes a message. -/
def closesMessage : Event -> Bool
  | .closing name => isNamed "message" name
  | _ => false

/-- The events between the first opening tag of a message and the next closing
tag of one. -/
def messageEvents (events : List Event) : List Event :=
  let behind := (events.dropWhile fun event => !opensMessage event).drop 1
  behind.takeWhile fun event => !closesMessage event

/-- The text that an event holds, unless one of its references denotes no
character. -/
def heldText? : Event -> Option (List Char)
  | .characters raw => (Markup.expand raw).toOption
  | .literal text => some text
  | _ => some []

/-- The texts that some events hold, one behind the other. -/
def heldTexts? : List Event -> Option (List Char)
  | [] => some []
  | event :: events =>
      (heldText? event).bind fun text => (heldTexts? events).map (text ++ ·)

theorem heldTexts?_append (first second : List Event) :
    heldTexts? (first ++ second) =
      (heldTexts? first).bind fun text =>
        (heldTexts? second).map (text ++ ·) := by
  induction first with
  | nil => cases shape : heldTexts? second <;> simp [heldTexts?, shape]
  | cons event first inductionHypothesis =>
      rw [List.cons_append, heldTexts?, inductionHypothesis, heldTexts?]
      cases heldText? event with
      | none => rfl
      | some text =>
          cases heldTexts? first with
          | none => rfl
          | some more =>
              cases heldTexts? second <;> simp

/-- A text without blank characters at its ends, if anything is left. -/
def presented? (text : List Char) : Option (List Char) :=
  let message := Text.trim text
  if message.isEmpty then none else some message

/-- Nothing is presented exactly of a blank text. -/
theorem presented?_eq_none_iff {text : List Char} :
    presented? text = none ↔ Text.allBlank text = true := by
  rw [← Text.trim_eq_nil_iff, presented?]
  cases Text.trim text <;> simp

/-- What is presented are trimmed texts. -/
theorem presented?_eq_iff {first second : List Char} :
    presented? first = presented? second ↔
      Text.trim first = Text.trim second := by
  unfold presented?
  cases Text.trim first <;> cases Text.trim second <;> simp

/-! ## Gathering -/

/-- Behind the opening tag of a message, what is held up to the next closing tag
of one is gathered. -/
theorem gatherMessage_inside
    (gathered : List Char)
    (located : List Located) :
    gatherMessage true gathered located =
      (heldTexts?
        ((located.map (·.event)).takeWhile
          fun event => !closesMessage event)).map (gathered ++ ·) := by
  induction located generalizing gathered with
  | nil => simp [gatherMessage, heldTexts?]
  | cons first located inductionHypothesis =>
      rw [List.map_cons, gatherMessage]
      cases shape : first.event with
      | closing name =>
          by_cases closes : isNamed "message" name = true
          · simp [closes, closesMessage, heldTexts?]
          · rw [Bool.not_eq_true] at closes
            simp [closes, closesMessage, heldTexts?, heldText?,
              inductionHypothesis]
      | characters raw =>
          cases expanded : Markup.expand raw with
          | error fault =>
              simp [expanded, closesMessage, heldTexts?, heldText?,
                Except.toOption]
          | ok text =>
              simp [expanded, closesMessage, heldTexts?, heldText?,
                inductionHypothesis, Except.toOption, Function.comp_def]
      | opening tag | selfClosing tag | literal text | doctype | ignored =>
          simp [closesMessage, heldTexts?, heldText?, inductionHypothesis,
            Function.comp_def]

/-- Where no message is open, the first one that is opened is gathered. -/
theorem gatherMessage_outside
    {names final : List (List Char)}
    (gathered : List Char)
    (located : List Located)
    (leads : Leads names (located.map (·.event)) final)
    (unopened : ∀ name ∈ names, isNamed "message" name = false) :
    gatherMessage false gathered located =
      (heldTexts? (messageEvents (located.map (·.event)))).map
        (gathered ++ ·) := by
  induction located generalizing names with
  | nil => simp [gatherMessage, messageEvents, heldTexts?]
  | cons first located inductionHypothesis =>
      rw [List.map_cons] at leads ⊢
      rw [gatherMessage]
      obtain _ | ⟨matched, later⟩ := leads
      cases shape : first.event with
      | opening tag =>
          rw [shape] at later
          by_cases opens : isNamed "message" tag.name = true
          · dsimp only
            rw [opens, Bool.or_true, gatherMessage_inside]
            simp [messageEvents, opensMessage, opens]
          · rw [Bool.not_eq_true] at opens
            have still :
                ∀ name ∈ tag.name :: names, isNamed "message" name = false :=
              List.forall_mem_cons.mpr ⟨opens, unopened⟩
            dsimp only
            rw [opens, Bool.or_false, inductionHypothesis later still]
            simp [messageEvents, opensMessage, opens]
      | closing name =>
          rw [shape] at later
          -- A closing tag matches an open one, which is no message.
          have other : isNamed "message" name = false :=
            unopened name (List.mem_of_mem_head? (matched name shape))
          have still :
              ∀ name ∈ names.tail, isNamed "message" name = false :=
            fun name member => unopened name (List.mem_of_mem_tail member)
          dsimp only
          rw [other, if_neg (by decide), inductionHypothesis later still]
          simp [messageEvents, opensMessage]
      | selfClosing tag | characters raw | literal text | doctype | ignored =>
          rw [shape] at later
          simp only [if_false, Bool.false_eq_true]
          rw [inductionHypothesis later unopened]
          simp [messageEvents, opensMessage]

/-- The message of a body is what its first message holds. -/
theorem errorMessage?_eq (body : List Char) :
    errorMessage? body =
      (heldTexts? (messageEvents (Markup.scan body).eventList)).bind
        presented? := by
  obtain ⟨final, leads⟩ := Markup.scan_leads body
  have gathered := gatherMessage_outside [] _ leads (List.forall_mem_nil _)
  rw [errorMessage?, gathered, ← Markup.Scan.eventList]
  cases heldTexts? (messageEvents (Markup.scan body).eventList) <;> rfl

/-! ## Messages as they are written -/

/-- The tag of an envelope of messages. -/
def errorTag : WrittenTag :=
  .ofName "error".toList (by decide) rfl

/-- The tag of a message. -/
def messageTag : WrittenTag :=
  .ofName "message".toList (by decide) rfl

section

variable {tags : List Tag} {event : Event}

/-- What belongs to elements with other names opens no message. -/
theorem opensMessage_of_belongsTo
    (others : ∀ tag ∈ tags, isNamed "message" tag.name = false)
    (belongs : event.BelongsTo tags) :
    opensMessage event = false := by
  cases event with
  | opening tag => exact others tag belongs
  | selfClosing | closing | characters | literal | doctype | ignored => rfl

/-- What belongs to elements with other names closes no message. -/
theorem closesMessage_of_belongsTo
    (others : ∀ tag ∈ tags, isNamed "message" tag.name = false)
    (belongs : event.BelongsTo tags) :
    closesMessage event = false := by
  cases event with
  | closing name =>
      obtain ⟨tag, member, rfl⟩ := belongs
      exact others tag member
  | opening | selfClosing | characters | literal | doctype | ignored => rfl

end

/-- What opens no message is skipped. -/
theorem messageEvents_append
    {front : List Event}
    (unopened : ∀ event ∈ front, opensMessage event = false)
    (behind : List Event) :
    messageEvents (front ++ behind) = messageEvents behind := by
  have skipped : ∀ event ∈ front, (!opensMessage event) = true :=
    fun event member => by rw [unopened event member]; rfl
  rw [messageEvents, List.dropWhile_append_of_pos skipped]
  rfl

/-- The events of a message are those between its tags. -/
theorem messageEvents_enclosed
    {message : WrittenTag}
    (named : isNamed "message" message.name = true)
    {inside : List Event}
    (unclosed : ∀ event ∈ inside, closesMessage event = false)
    (behind : List Event) :
    messageEvents
        (.opening message.toTag :: (inside ++ .closing message.name :: behind)) =
      inside := by
  have opens : opensMessage (.opening message.toTag) = true := named
  have closes : closesMessage (.closing message.name) = true := named
  have kept : ∀ event ∈ inside, (!closesMessage event) = true :=
    fun event member => by rw [unclosed event member]; rfl
  rw [messageEvents, List.dropWhile_cons, opens, Bool.not_true,
    if_neg (by decide), List.drop_one, List.tail_cons,
    List.takeWhile_append_of_pos kept, List.takeWhile_cons, closes]
  exact List.append_nil inside

/-- The message of a written element is what its content holds, wherever the
element stands behind content without messages. -/
theorem errorMessage?_of_place
    (place : Place)
    (before content : Content)
    {message : WrittenTag}
    (named : isNamed "message" message.name = true)
    (others :
      ∀ tag ∈ place.tags ++ before.tags ++ content.tags,
        isNamed "message" tag.name = false)
    {space : List Char}
    (blank : ∀ character ∈ space, Text.isMarkupSpace character = true)
    (behind : List Char) :
    errorMessage?
        (place.write ++ (before.write ++
          '<' :: message.enclose content.write space behind)) =
      (heldTexts? content.events).bind presented? := by
  rw [List.forall_mem_append, List.forall_mem_append] at others
  obtain ⟨⟨othersAround, othersBefore⟩, othersInside⟩ := others
  obtain ⟨leading, front, events, scanned, read⟩ :=
    Markup.scan_eventsFrom
      (place.write ++ (before.write ++
        '<' :: message.enclose content.write space behind))
  have unopened (texts : List (List Char)) :
      ∀ event ∈ texts.map Event.characters, opensMessage event = false := by
    intro event member
    obtain ⟨raw, -, rfl⟩ := List.mem_map.mp member
    rfl
  -- Character data in front of the first bracket makes no difference.
  have same :
      messageEvents events =
        messageEvents (Markup.eventsFrom []
          (place.write ++ (before.write ++
            '<' :: message.enclose content.write space behind))) := by
    rw [read, messageEvents_append (unopened front)]
  rw [errorMessage?_eq, scanned, messageEvents_append (unopened leading), same,
    place.eventsFrom_write, Markup.eventsFrom_content,
    Markup.eventsFrom_enclose (Markup.eventsFrom_content content) message blank,
    messageEvents_append, messageEvents_append,
    messageEvents_enclosed named]
  · exact fun event member =>
      closesMessage_of_belongsTo othersInside
        (content.belongsTo_tags event member)
  · exact fun event member =>
      opensMessage_of_belongsTo othersBefore
        (before.belongsTo_tags event member)
  · exact fun event member =>
      opensMessage_of_belongsTo othersAround
        (place.belongsTo_tags event member)

end Service
end FieldOcr
