import FieldOcr.Proofs.MessageData

/-!
# The text of an error message

The message of an error envelope is the text of the content of its message
element, in document order and without white space at its ends.  But each run of
character data is read without the white space that is written at its own ends.
So white space beside a literal section, a comment or an element is lost also in
the middle of the message; the message is the whole text exactly if such white
space stands only at the ends of the text.
-/

namespace FieldOcr
namespace Markup

/-- A character of a text, and whether it is read. -/
structure Shown where
  /-- The character. -/
  character : Char
  /-- Whether it is read. -/
  isRead : Bool

namespace Shown

/-- The whole text. -/
def text (shown : List Shown) : List Char :=
  shown.map (·.character)

/-- The text that is read. -/
def readText (shown : List Shown) : List Char :=
  (shown.filter (·.isRead)).map (·.character)

/-- Characters that are all read, or all not read. -/
def all (isRead : Bool) (text : List Char) : List Shown :=
  text.map fun character => ⟨character, isRead⟩

@[simp] theorem text_append (first second : List Shown) :
    text (first ++ second) = text first ++ text second :=
  List.map_append

@[simp] theorem readText_append (first second : List Shown) :
    readText (first ++ second) = readText first ++ readText second := by
  simp [readText]

@[simp] theorem text_all (isRead : Bool) (characters : List Char) :
    text (all isRead characters) = characters := by
  simp [text, all, Function.comp_def]

@[simp] theorem readText_all_true (characters : List Char) :
    readText (all true characters) = characters := by
  simp [readText, all, List.filter_map, Function.comp_def]

@[simp] theorem readText_all_false (characters : List Char) :
    readText (all false characters) = [] := by
  simp [readText, all, List.filter_map, Function.comp_def]

end Shown

/-- The characters of a run of character data: white space that is written at
its ends is not read. -/
def WrittenText.shown (data : WrittenText) : List Shown :=
  let leading := data.raw.takeWhile Text.isMarkupSpace
  let trailing :=
    (data.raw.dropWhile Text.isMarkupSpace).rtakeWhile Text.isMarkupSpace
  let core := (data.text.drop leading.length).rdrop trailing.length
  Shown.all false leading ++ Shown.all true core ++ Shown.all false trailing

/-- The text of an insertion: only literal sections have one. -/
def Insertion.text : Insertion -> List Char
  | .literal text _ => text
  | _ => []

namespace Content

/-- The text of the content: all of its character data in document order. -/
def fullText : Content -> List Char
  | .text data => data.text
  | .insertion data markup rest => data.text ++ markup.text ++ rest.fullText
  | .element data _ inside _ _ rest =>
      data.text ++ inside.fullText ++ rest.fullText

/-- The characters of the content in document order. -/
def shown : Content -> List Shown
  | .text data => data.shown
  | .insertion data markup rest =>
      data.shown ++ Shown.all true markup.text ++ rest.shown
  | .element data _ inside _ _ rest =>
      data.shown ++ inside.shown ++ rest.shown

end Content

/-! ## What is read of character data -/

/-- Text without ampersands in front of another one stands for itself. -/
theorem StandsFor.exists_of_plain_append
    {first second shown : List Char}
    (plain : '&' ∉ first)
    (stands : StandsFor (first ++ second) shown) :
    ∃ secondShown, StandsFor second secondShown ∧ shown = first ++ secondShown := by
  induction first generalizing shown with
  | nil => exact ⟨shown, stands, rfl⟩
  | cons character first inductionHypothesis =>
      rw [List.mem_cons, not_or] at plain
      generalize whole : character :: first ++ second = text at stands
      cases stands with
      | nil => exact absurd whole (List.cons_ne_nil _ _)
      | plain ordinary behind =>
          obtain ⟨rfl, rfl⟩ := List.cons.inj whole
          obtain ⟨secondShown, later, rfl⟩ :=
            inductionHypothesis plain.2 behind
          exact ⟨secondShown, later, rfl⟩
      | reference unmarked denoted behind =>
          exact absurd (List.cons.inj whole).1.symm plain.1

/-- White space is no mark of a reference. -/
theorem unmarked_of_space
    {space : List Char}
    (blank : ∀ character ∈ space, Text.isMarkupSpace character = true) :
    Unmarked space :=
  ⟨fun mark => absurd (blank _ mark) (by decide),
    fun mark => absurd (blank _ mark) (by decide)⟩

/-- A run of character data is white space, what is read of it, and white space
again. -/
theorem WrittenText.exists_core (data : WrittenText) :
    ∃ leading core trailing,
      (∀ character ∈ leading, Text.isMarkupSpace character = true) ∧
        (∀ character ∈ trailing, Text.isMarkupSpace character = true) ∧
        StandsFor (Text.trimWhile Text.isMarkupSpace data.raw) core ∧
        data.text = leading ++ core ++ trailing ∧
        data.shown =
          Shown.all false leading ++ Shown.all true core ++
            Shown.all false trailing := by
  obtain ⟨raw, text, -, stands⟩ := data
  have leads :
      ∀ character ∈ raw.takeWhile Text.isMarkupSpace,
        Text.isMarkupSpace character = true :=
    fun _ => List.mem_takeWhile_imp
  have trails :
      ∀ character ∈
        (raw.dropWhile Text.isMarkupSpace).rtakeWhile Text.isMarkupSpace,
        Text.isMarkupSpace character = true :=
    fun _ => List.mem_rtakeWhile_imp
  have standsSplit := stands
  rw [Text.trimWhile_parts Text.isMarkupSpace raw] at standsSplit
  obtain ⟨front, standsFront, rfl⟩ :=
    standsSplit.exists_of_append (unmarked_of_space trails)
  obtain ⟨core, standsCore, rfl⟩ :=
    standsFront.exists_of_plain_append (unmarked_of_space leads).1
  refine ⟨_, core, _, leads, trails, standsCore, rfl, ?_⟩
  simp [WrittenText.shown, List.rdrop_append_length]

/-- The whole text of a run is the one that its characters show. -/
theorem WrittenText.text_shown (data : WrittenText) :
    Shown.text data.shown = data.text := by
  obtain ⟨leading, core, trailing, -, -, -, whole, shown⟩ := data.exists_core
  rw [shown, whole]
  simp

/-- Only white space is not read. -/
theorem WrittenText.isBlank_of_unread
    (data : WrittenText) :
    ∀ shown ∈ data.shown,
      shown.isRead = false -> Text.isBlank shown.character = true := by
  obtain ⟨leading, core, trailing, leads, trails, -, -, shown⟩ :=
    data.exists_core
  rw [shown]
  intro character member unread
  simp only [Shown.all, List.mem_append, List.mem_map] at member
  rcases member with
    (⟨space, member, rfl⟩ | ⟨kept, member, rfl⟩) | ⟨space, member, rfl⟩
  · exact Text.isBlank_of_isMarkupSpace (leads space member)
  · exact absurd unread (by simp)
  · exact Text.isBlank_of_isMarkupSpace (trails space member)

namespace Content

/-- The whole text of content is the one that its characters show. -/
theorem text_shown (content : Content) :
    Shown.text content.shown = content.fullText := by
  induction content with
  | text data => exact data.text_shown
  | insertion data markup rest inductionHypothesis =>
      simp [shown, fullText, data.text_shown, inductionHypothesis]
  | element data tag inside space blank rest insideHypothesis
      restHypothesis =>
      simp [shown, fullText, data.text_shown, insideHypothesis, restHypothesis]

/-- Only white space is not read. -/
theorem isBlank_of_unread (content : Content) :
    ∀ shown ∈ content.shown,
      shown.isRead = false -> Text.isBlank shown.character = true := by
  induction content with
  | text data => exact data.isBlank_of_unread
  | insertion data markup rest inductionHypothesis =>
      refine List.forall_mem_append.mpr
        ⟨List.forall_mem_append.mpr ⟨data.isBlank_of_unread, ?_⟩,
          inductionHypothesis⟩
      intro shown member unread
      obtain ⟨character, -, rfl⟩ := List.mem_map.mp member
      exact absurd unread (by simp)
  | element data tag inside space blank rest insideHypothesis
      restHypothesis =>
      exact List.forall_mem_append.mpr
        ⟨List.forall_mem_append.mpr
          ⟨data.isBlank_of_unread, insideHypothesis⟩, restHypothesis⟩

end Content

/-! ## Texts of which some white space is not read -/

section

variable {shown : List Shown}

/-- Where only blank characters are not read, a blank text is read of a blank
text. -/
theorem allBlank_readText_iff
    (unread :
      ∀ character ∈ shown,
        character.isRead = false -> Text.isBlank character.character = true) :
    Text.allBlank (Shown.readText shown) = true ↔
      Text.allBlank (Shown.text shown) = true := by
  simp only [Text.allBlank, Shown.readText, Shown.text, List.all_eq_true,
    List.forall_mem_map, List.mem_filter, and_imp]
  constructor
  · intro read character member
    cases isRead : character.isRead with
    | true => exact read character member isRead
    | false => exact unread character member isRead
  · exact fun all character member _ => all character member

theorem allBlank_text_iff :
    Text.allBlank (Shown.text shown) = true ↔
      ∀ character ∈ shown, Text.isBlank character.character = true := by
  simp [Text.allBlank, Shown.text]

/-- A text is blank in front of its first visible character and behind its last
one. -/
theorem exists_visible_core (shown : List Shown) :
    ∃ leading core trailing,
      shown = leading ++ core ++ trailing ∧
        (∀ character ∈ leading, Text.isBlank character.character = true) ∧
        (∀ character ∈ trailing, Text.isBlank character.character = true) ∧
        (∀ first ∈ core.head?, Text.isBlank first.character = false) ∧
        ∀ last ∈ core.getLast?, Text.isBlank last.character = false := by
  let blank := fun character : Shown => Text.isBlank character.character
  refine ⟨shown.takeWhile blank, (shown.dropWhile blank).rdropWhile blank,
    (shown.dropWhile blank).rtakeWhile blank, ?_, ?_, ?_, ?_, ?_⟩
  · rw [List.append_assoc, List.rdropWhile_append_rtakeWhile,
      List.takeWhile_append_dropWhile]
  · exact fun _ => List.mem_takeWhile_imp
  · exact fun _ => List.mem_rtakeWhile_imp
  · intro first head
    obtain ⟨behind, same⟩ :=
      List.rdropWhile_prefix (p := blank) (shown.dropWhile blank)
    have found : (shown.dropWhile blank).head? = some first := by
      rw [← same, List.head?_append, head]
      rfl
    have visible := List.head?_dropWhile_not blank shown
    rw [found] at visible
    exact Bool.eq_false_iff.mpr (by simpa using visible)
  · intro last found
    have filled : (shown.dropWhile blank).rdropWhile blank ≠ [] := by
      intro empty
      rw [empty] at found
      cases found
    have visible := List.rdropWhile_last_not blank _ filled
    rw [List.getLast?_eq_some_getLast filled] at found
    rw [Option.mem_some.mp found] at visible
    exact Bool.eq_false_iff.mpr visible

/-- If only blank characters are not read, then a text with visible ends is read
with these ends. -/
theorem trim_readText_of_visible_ends
    (unread :
      ∀ character ∈ shown,
        character.isRead = false -> Text.isBlank character.character = true)
    (first :
      ∀ character ∈ shown.head?, Text.isBlank character.character = false)
    (last :
      ∀ character ∈ shown.getLast?, Text.isBlank character.character = false) :
    Text.trim (Shown.readText shown) = Shown.readText shown := by
  have read :
      ∀ character ∈ shown,
        Text.isBlank character.character = false ->
          character.isRead = true := by
    intro character member visible
    by_contra lost
    rw [unread character member (Bool.eq_false_iff.mpr lost)] at visible
    exact absurd visible (by decide)
  apply Text.trim_of_visible_ends
  · cases shown with
    | nil => simp [Shown.readText]
    | cons character shown =>
        have visible := first character rfl
        have kept := read character List.mem_cons_self visible
        simpa [Shown.readText, kept] using visible
  · obtain rfl | ⟨front, character, rfl⟩ := List.eq_nil_or_concat shown
    · simp [Shown.readText]
    · rw [List.concat_eq_append] at last read ⊢
      have visible := last character List.getLast?_concat
      have kept := read character List.mem_concat_self visible
      simpa [Shown.readText, kept] using visible

/-- A member of a text in three parts is in the middle one, or has only the
first part in front of it or only the last part behind it. -/
theorem mem_core_or_outside
    {leading core trailing front behind : List Shown}
    {member : Shown}
    (same : leading ++ core ++ trailing = front ++ member :: behind) :
    member ∈ core ∨ front ⊆ leading ∨ behind ⊆ trailing := by
  rcases List.append_eq_append_iff.mp same with
    ⟨more, rfl, rfl⟩ | ⟨more, whole, within⟩
  · exact .inr (.inr (List.Subset.trans (List.subset_cons_self _ _)
      (List.subset_append_right _ _)))
  · cases more with
    | nil =>
        rw [List.nil_append] at within
        rw [← within]
        exact .inr (.inr (List.subset_cons_self _ _))
    | cons other more =>
        obtain ⟨rfl, rfl⟩ := List.cons.inj within
        rcases List.append_eq_append_iff.mp whole with
          ⟨inside, rfl, rfl⟩ | ⟨inside, rfl, -⟩
        · exact .inl (List.mem_append_right _ List.mem_cons_self)
        · exact .inr (.inl (List.subset_append_left _ _))

/-- A blank character of a text with visible ends stands between visible
ones. -/
theorem exists_visible_around
    {front behind : List Shown}
    {space : Shown}
    (first :
      ∀ character ∈ (front ++ space :: behind).head?,
        Text.isBlank character.character = false)
    (last :
      ∀ character ∈ (front ++ space :: behind).getLast?,
        Text.isBlank character.character = false)
    (blank : Text.isBlank space.character = true) :
    (∃ visible ∈ front, Text.isBlank visible.character = false) ∧
      ∃ visible ∈ behind, Text.isBlank visible.character = false := by
  constructor
  · cases front with
    | nil =>
        rw [first space rfl] at blank
        exact absurd blank (by decide)
    | cons visible front =>
        exact ⟨visible, List.mem_cons_self, first visible rfl⟩
  · obtain rfl | ⟨behind, visible, rfl⟩ := List.eq_nil_or_concat behind
    · rw [last space List.getLast?_concat] at blank
      exact absurd blank (by decide)
    · rw [List.concat_eq_append] at last ⊢
      refine ⟨visible, List.mem_concat_self, last visible ?_⟩
      rw [← List.cons_append, ← List.append_assoc]
      exact List.getLast?_concat

/-- A text is read as a whole exactly if all of its characters are read. -/
theorem readText_eq_text_iff :
    Shown.readText shown = Shown.text shown ↔
      ∀ character ∈ shown, character.isRead = true := by
  rw [← List.length_filter_eq_length_iff]
  constructor
  · intro same
    simpa [Shown.readText, Shown.text] using congrArg List.length same
  · intro whole
    rw [Shown.readText, Shown.text,
      List.filter_sublist.eq_of_length whole]

/-- All of a text with visible ends is read exactly if what is not read of it,
and of blank characters around it, stands in front of the first visible
character or behind the last one. -/
theorem forall_isRead_iff
    {leading core trailing : List Shown}
    (leads :
      ∀ character ∈ leading, Text.isBlank character.character = true)
    (trails :
      ∀ character ∈ trailing, Text.isBlank character.character = true)
    (first :
      ∀ character ∈ core.head?, Text.isBlank character.character = false)
    (last :
      ∀ character ∈ core.getLast?, Text.isBlank character.character = false)
    (unread :
      ∀ character ∈ core,
        character.isRead = false -> Text.isBlank character.character = true) :
    (∀ character ∈ core, character.isRead = true) ↔
      ∀ front lost behind,
        leading ++ core ++ trailing = front ++ lost :: behind ->
          lost.isRead = false ->
            Text.allBlank (Shown.text front) = true ∨
              Text.allBlank (Shown.text behind) = true := by
  constructor
  · intro read front lost behind same unreadLost
    rw [allBlank_text_iff, allBlank_text_iff]
    rcases mem_core_or_outside same with member | within | within
    · rw [read lost member] at unreadLost
      exact absurd unreadLost (by decide)
    · exact .inl fun character member => leads character (within member)
    · exact .inr fun character member => trails character (within member)
  · intro outside lost member
    by_contra unreadLost
    rw [Bool.not_eq_true] at unreadLost
    have blank := unread lost member unreadLost
    obtain ⟨front, behind, rfl⟩ := List.append_of_mem member
    obtain ⟨⟨left, leftMember, leftVisible⟩, right, rightMember, rightVisible⟩ :=
      exists_visible_around first last blank
    have stands :=
      outside (leading ++ front) lost (behind ++ trailing) (by simp) unreadLost
    rw [allBlank_text_iff, allBlank_text_iff] at stands
    rcases stands with blankFront | blankBehind
    · rw [blankFront left (List.mem_append_right _ leftMember)] at leftVisible
      exact absurd leftVisible (by decide)
    · rw [blankBehind right (List.mem_append_left _ rightMember)] at rightVisible
      exact absurd rightVisible (by decide)

/-- What is read of a text is, apart from blank characters at its ends, the
whole text exactly if all that is not read stands in front of the first visible
character or behind the last one. -/
theorem trim_readText_eq_iff
    (unread :
      ∀ character ∈ shown,
        character.isRead = false -> Text.isBlank character.character = true) :
    Text.trim (Shown.readText shown) = Text.trim (Shown.text shown) ↔
      ∀ front lost behind,
        shown = front ++ lost :: behind ->
          lost.isRead = false ->
            Text.allBlank (Shown.text front) = true ∨
              Text.allBlank (Shown.text behind) = true := by
  obtain ⟨leading, core, trailing, rfl, leads, trails, first, last⟩ :=
    exists_visible_core shown
  have unreadCore :
      ∀ character ∈ core,
        character.isRead = false ->
          Text.isBlank character.character = true :=
    fun character member =>
      unread character
        (List.mem_append_left _ (List.mem_append_right _ member))
  have blankText
      {around : List Shown}
      (blank :
        ∀ character ∈ around, Text.isBlank character.character = true) :
      ∀ character ∈ Shown.text around, Text.isBlank character = true :=
    List.forall_mem_map.mpr blank
  have blankRead
      {around : List Shown}
      (blank :
        ∀ character ∈ around, Text.isBlank character.character = true) :
      ∀ character ∈ Shown.readText around, Text.isBlank character = true :=
    fun character member =>
      blankText blank character ((List.filter_sublist.map _).mem member)
  -- Both texts are those of the core, between blank characters.
  have readCore :
      Text.trim (Shown.readText (leading ++ core ++ trailing)) =
        Shown.readText core := by
    rw [Shown.readText_append, Shown.readText_append, Text.trim,
      Text.trimWhile_between _ (blankRead leads) (blankRead trails)]
    exact trim_readText_of_visible_ends unreadCore first last
  have textCore :
      Text.trim (Shown.text (leading ++ core ++ trailing)) =
        Shown.text core := by
    rw [Shown.text_append, Shown.text_append, Text.trim,
      Text.trimWhile_between _ (blankText leads) (blankText trails)]
    apply Text.trim_of_visible_ends
    · simpa [Shown.text] using first
    · simpa [Shown.text] using last
  rw [readCore, textCore, readText_eq_text_iff]
  exact forall_isRead_iff leads trails first last unreadCore

end

end Markup

namespace Service

open Markup (Content Shown WrittenTag)

/-- What is held by a run of character data is what is read of it. -/
theorem heldTexts?_leadingText (data : Markup.WrittenText) :
    heldTexts? ((Markup.leadingText data.raw).map .characters) =
      some (Shown.readText data.shown) := by
  obtain ⟨leading, core, trailing, -, -, stands, -, shown⟩ := data.exists_core
  have expanded := Markup.expand_eq_ok_iff.mpr stands
  have read : Shown.readText data.shown = core := by
    rw [shown]
    simp
  unfold Markup.leadingText
  cases shape : data.raw.dropWhile Text.isMarkupSpace with
  | nil =>
      rw [Text.trimWhile, shape] at stands
      have nothing : core = [] := stands.unique .nil
      rw [read, nothing]
      rfl
  | cons first more =>
      obtain ⟨-, plain⟩ := Markup.not_bracket_of_dropWhile data.plain shape
      have whole :
          Markup.characterData first more =
            Text.trimWhile Text.isMarkupSpace data.raw := by
        rw [Markup.characterData, Text.trimWhile, shape,
          List.takeWhile_eq_self_iff.mpr (Markup.ne_bracket_of_not_mem plain)]
      simp [heldTexts?, heldText?, whole, expanded, read, Except.toOption]

/-- What is held by content is what is read of it. -/
theorem heldTexts?_content (content : Content) :
    heldTexts? content.events = some (Shown.readText content.shown) := by
  induction content with
  | text data => exact heldTexts?_leadingText data
  | insertion data markup rest inductionHypothesis =>
      have held : heldText? markup.event = some markup.text := by
        cases markup <;> rfl
      rw [Content.events, heldTexts?_append, heldTexts?_leadingText, heldTexts?,
        held, inductionHypothesis]
      simp [Content.shown]
  | element data tag inside space blank rest insideHypothesis
      restHypothesis =>
      rw [Content.events, heldTexts?_append, heldTexts?_leadingText]
      simp [heldTexts?, heldText?, heldTexts?_append, insideHypothesis,
        restHypothesis, Content.shown]

/-! ## Error envelopes -/

/-- An error envelope as it is written: a root named for errors, and in it a
message.  What stands behind the message is not read. -/
structure ErrorEnvelope where
  /-- What stands in front of the root. -/
  prolog : Content
  /-- The tag of the root. -/
  root : WrittenTag
  /-- The root is an error. -/
  isError : isNamed "error" root.name = true
  /-- What the root holds in front of the message. -/
  before : Content
  /-- The tag of the message. -/
  message : WrittenTag
  /-- The message is one. -/
  isMessage : isNamed "message" message.name = true
  /-- The content of the message. -/
  content : Content
  /-- All other elements so far have other names. -/
  others :
    ∀ tag ∈ prolog.tags ++ before.tags ++ content.tags,
      isNamed "message" tag.name = false
  /-- White space in the closing tag of the message. -/
  space : List Char
  /-- Nothing else stands behind its name. -/
  blank : ∀ character ∈ space, Text.isMarkupSpace character = true
  /-- What stands behind the message. -/
  behind : List Char

namespace ErrorEnvelope

variable (envelope : ErrorEnvelope)

/-- The text of the envelope. -/
def write : List Char :=
  envelope.prolog.write ++
    '<' :: (envelope.root.text ++
      '>' :: (envelope.before.write ++
        '<' :: envelope.message.enclose envelope.content.write envelope.space
          envelope.behind))

/-- The message is what is read of its content. -/
theorem errorMessage?_readText :
    errorMessage? envelope.write =
      presented? (Shown.readText envelope.content.shown) := by
  have otherRoot : isNamed "message" envelope.root.name = false := by
    rw [isNamed, eq_of_beq envelope.isError]
    rfl
  have others := envelope.others
  rw [List.append_assoc, List.forall_mem_append] at others
  have around :
      ∀ tag ∈
        Markup.Place.tags [⟨envelope.prolog, envelope.root⟩] ++
          envelope.before.tags ++ envelope.content.tags,
        isNamed "message" tag.name = false := by
    simp only [Markup.Place.tags, List.append_assoc, List.singleton_append]
    exact List.forall_mem_append.mpr
      ⟨others.1, List.forall_mem_cons.mpr ⟨otherRoot, others.2⟩⟩
  have read :=
    errorMessage?_of_place [⟨envelope.prolog, envelope.root⟩] envelope.before
      envelope.content envelope.isMessage around envelope.blank envelope.behind
  rw [heldTexts?_content] at read
  rw [← Option.bind_some (f := presented?), ← read]
  simp [write, Markup.Place.write]

/-- The message of an error envelope is the text of its content without the
white space that is written at the ends of runs of character data.  There is
none exactly if the whole text is blank.  It is the whole text without blank
characters at its ends exactly if what is not read stands in front of the first
visible character or behind the last one. -/
theorem errorMessage?_write :
    errorMessage? envelope.write =
        presented? (Shown.readText envelope.content.shown) ∧
      (errorMessage? envelope.write = none ↔
        Text.allBlank envelope.content.fullText = true) ∧
      (errorMessage? envelope.write = presented? envelope.content.fullText ↔
        ∀ front lost behind,
          envelope.content.shown = front ++ lost :: behind ->
            lost.isRead = false ->
              Text.allBlank (Shown.text front) = true ∨
                Text.allBlank (Shown.text behind) = true) := by
  have unread := envelope.content.isBlank_of_unread
  rw [envelope.errorMessage?_readText, ← envelope.content.text_shown]
  refine ⟨rfl, ?_, ?_⟩
  · rw [presented?_eq_none_iff]
    exact Markup.allBlank_readText_iff unread
  · rw [presented?_eq_iff]
    exact Markup.trim_readText_eq_iff unread

end ErrorEnvelope

/-- An envelope whose message has an element between two words. -/
def spacedEnvelope : ErrorEnvelope where
  prolog := .none
  root := errorTag
  isError := rfl
  before := .none
  message := messageTag
  isMessage := rfl
  content :=
    .element (.ofPlain "limit ".toList (by decide) (by decide))
      (.ofName "b".toList (by decide) rfl)
      (.ofPlain "5".toList (by decide) (by decide)) []
      (List.forall_mem_nil _)
      (.ofPlain " pages".toList (by decide) (by decide))
  others := List.forall_mem_singleton.mpr rfl
  space := []
  blank := List.forall_mem_nil _
  behind := "</error>".toList

/-- The white space around the element is lost. -/
theorem errorMessage?_write_spacedEnvelope :
    spacedEnvelope.write =
        "<error><message>limit <b>5</b> pages</message></error>".toList ∧
      spacedEnvelope.content.fullText = "limit 5 pages".toList ∧
      errorMessage? spacedEnvelope.write = some "limit5pages".toList :=
  ⟨rfl, rfl, spacedEnvelope.errorMessage?_write.1⟩

end Service
end FieldOcr
