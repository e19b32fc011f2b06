import FieldOcr.Proofs.TagEnding
import FieldOcr.Proofs.Trimming
import Mathlib.Data.List.Induction

/-!
# Markup as it is written

Comments, instructions, literal sections, document type declarations and tags,
each as the text between its angle brackets.  The reader finds each of them
again, whatever stands behind it.  What may stand inside is what cannot end the
construct: two dashes and a bracket in a comment, a bracket outside quotes in a
tag, and so on.
-/

namespace FieldOcr
namespace Markup

/-! ## Splitting what is written -/

section

variable
  {step : σ -> Char -> σ}
  {accepts : σ -> Bool}
  {state : σ}
  {text : List Char}

/-- A text is split at the bracket behind it if this bracket is accepted and
none in the text is. -/
theorem splitAtBracket_append_bracket
    (taken rest : List Char)
    (passed :
      ∀ front behind,
        text = front ++ '>' :: behind ->
          accepts (front.foldl step state) = false)
    (accepted : accepts (text.foldl step state) = true) :
    splitAtBracket step accepts state taken (text ++ '>' :: rest) =
      some (taken.reverse ++ text, rest) := by
  induction text generalizing state taken with
  | nil =>
      rw [List.foldl_nil] at accepted
      simp [splitAtBracket, accepted]
  | cons character text inductionHypothesis =>
      have continues : (character == '>' && accepts state) = false := by
        by_cases bracket : character = '>'
        · subst bracket
          have refused : accepts state = false := passed [] text rfl
          rw [refused, Bool.and_false]
        · rw [beq_false_of_ne bracket, Bool.false_and]
      have further :=
        @inductionHypothesis (step state character) (character :: taken)
          (fun front behind same =>
            passed (character :: front) behind (congrArg _ same))
          accepted
      rw [List.cons_append, splitAtBracket, continues, if_neg (by decide),
        further]
      simp

/-- A text without a bracket that is accepted is taken as it stands, and leaves
the state as it was. -/
def PassesBy
    (step : σ -> Char -> σ)
    (accepts : σ -> Bool)
    (state : σ)
    (text : List Char) : Prop :=
  ∀ taken behind,
    splitAtBracket step accepts state taken (text ++ behind) =
      splitAtBracket step accepts state (text.reverse ++ taken) behind

theorem PassesBy.nil : PassesBy step accepts state [] :=
  fun _ _ => rfl

theorem PassesBy.append
    {second : List Char}
    (firstPasses : PassesBy step accepts state text)
    (secondPasses : PassesBy step accepts state second) :
    PassesBy step accepts state (text ++ second) := by
  intro taken behind
  rw [List.append_assoc, firstPasses, secondPasses, List.reverse_append,
    List.append_assoc]

/-- A character that leads to a state from which another one leads back, with a
text between them that keeps this state. -/
theorem PassesBy.between
    {opening closing : Char}
    (inner : σ)
    (opens :
      (opening == '>' && accepts state) = false ∧ step state opening = inner)
    (inside : PassesBy step accepts inner text)
    (closes :
      (closing == '>' && accepts inner) = false ∧
        step inner closing = state) :
    PassesBy step accepts state (opening :: (text ++ [closing])) := by
  intro taken behind
  obtain ⟨opens, rfl⟩ := opens
  obtain ⟨closes, back⟩ := closes
  rw [List.cons_append, List.append_assoc, splitAtBracket, opens,
    if_neg (by decide), inside, List.cons_append, splitAtBracket, closes,
    if_neg (by decide), back]
  simp

/-- A character that keeps the state and is no bracket passes in front of what
does. -/
theorem PassesBy.cons
    {character : Char}
    (kept :
      (character == '>' && accepts state) = false ∧
        step state character = state)
    (passes : PassesBy step accepts state text) :
    PassesBy step accepts state (character :: text) := by
  intro taken behind
  rw [List.cons_append, splitAtBracket, kept.1, if_neg (by decide), kept.2,
    passes]
  simp

/-- Characters that keep the state and are no brackets pass. -/
theorem PassesBy.of_forall
    (ordinary :
      ∀ character ∈ text,
        (character == '>' && accepts state) = false ∧
          step state character = state) :
    PassesBy step accepts state text := by
  induction text with
  | nil => exact .nil
  | cons character text inductionHypothesis =>
      rw [List.forall_mem_cons] at ordinary
      exact (inductionHypothesis ordinary.2).cons ordinary.1

/-- What passes is split at the bracket behind it. -/
theorem PassesBy.split
    (passes : PassesBy step accepts state text)
    (accepted : accepts state = true)
    (rest : List Char) :
    splitAtBracket step accepts state [] (text ++ '>' :: rest) =
      some (text, rest) := by
  rw [passes, splitAtBracket, accepted]
  simp

end

section

variable {first second front behind : List Char}

/-- A bracket that is not in the first of two texts is in the second. -/
theorem exists_of_plain_first
    (plain : '>' ∉ first)
    (same : first ++ second = front ++ '>' :: behind) :
    ∃ inside, front = first ++ inside ∧ second = inside ++ '>' :: behind := by
  rcases List.append_eq_append_iff.mp same with
    ⟨inside, whole, within⟩ | ⟨excess, rfl, within⟩
  · exact ⟨inside, whole, within⟩
  · cases excess with
    | nil => exact ⟨[], by simp, within.symm⟩
    | cons bracket excess =>
        obtain ⟨rfl, -⟩ := List.cons.inj within
        exact absurd (List.mem_append_right _ List.mem_cons_self) plain

/-- A bracket that is not in the second of two texts is in the first. -/
theorem exists_of_plain_second
    (plain : '>' ∉ second)
    (same : first ++ second = front ++ '>' :: behind) :
    ∃ more, first = front ++ '>' :: more := by
  rcases List.append_eq_append_iff.mp same with
    ⟨inside, rfl, within⟩ | ⟨more, rfl, within⟩
  · rw [within] at plain
    exact absurd (List.mem_append_right _ List.mem_cons_self) plain
  · cases more with
    | nil =>
        rw [List.nil_append] at within
        rw [← within] at plain
        exact absurd List.mem_cons_self plain
    | cons bracket more =>
        obtain ⟨rfl, -⟩ := List.cons.inj within
        exact ⟨more, rfl⟩

/-- A bracket in a text that stands between others without brackets is in the
text itself. -/
theorem exists_of_bracket_between
    {opening text ending : List Char}
    (openingPlain : '>' ∉ opening)
    (endingPlain : '>' ∉ ending)
    (same : opening ++ (text ++ ending) = front ++ '>' :: behind) :
    ∃ inside more,
      front = opening ++ inside ∧ text = inside ++ '>' :: more := by
  obtain ⟨inside, whole, within⟩ := exists_of_plain_first openingPlain same
  obtain ⟨more, found⟩ := exists_of_plain_second endingPlain within
  exact ⟨inside, more, whole, found⟩

end

/-- How often a character stands at the end of a text. -/
def countAtEnd (mark : Char) (text : List Char) : Nat :=
  text.foldl
    (fun count character => if character == mark then count + 1 else 0) 0

theorem le_countAtEnd_iff
    (mark : Char)
    (text : List Char)
    (number : Nat) :
    number ≤ countAtEnd mark text ↔ List.replicate number mark <:+ text := by
  unfold countAtEnd
  induction text using List.reverseRecOn generalizing number with
  | nil => simp
  | append_singleton text last inductionHypothesis =>
      rw [List.foldl_append, List.foldl_cons, List.foldl_nil]
      cases number with
      | zero => simp
      | succ number =>
          rw [List.replicate_succ', List.suffix_concat_iff]
          by_cases same : last = mark
          · subst same
            rw [beq_self_eq_true, if_pos rfl, Nat.add_le_add_iff_right,
              inductionHypothesis]
            simp
          · rw [beq_false_of_ne same]
            simp [Ne.symm same]

/-! ## Comments, literal sections and instructions -/

/-- A text holds an ending if it holds its last bracket behind the rest of it. -/
theorem infix_of_suffix
    {text inside more ending : List Char}
    (found : text = inside ++ '>' :: more)
    (ends : ending <:+ inside) :
    ending ++ ['>'] <:+: text := by
  obtain ⟨front, rfl⟩ := ends
  exact ⟨front, more, by simp [found]⟩

/-- The state in which a comment is split: how much was read, and the dashes at
its end. -/
theorem foldl_commentState (text : List Char) :
    text.foldl
        (fun (state : Nat × Nat) character =>
          (state.1 + 1, if character == '-' then state.2 + 1 else 0))
        (0, 0) =
      (text.length, countAtEnd '-' text) := by
  induction text using List.reverseRecOn with
  | nil => rfl
  | append_singleton text last inductionHypothesis =>
      rw [List.foldl_append, inductionHypothesis]
      simp [countAtEnd]

/-- A comment ends at the first two dashes with a bracket behind its
beginning. -/
theorem splitComment_written
    {text : List Char}
    (whole : ¬"-->".toList <:+: text)
    (rest : List Char) :
    splitComment ("!--".toList ++ (text ++ "--".toList) ++ '>' :: rest) =
      some ("!--".toList ++ (text ++ "--".toList), rest) := by
  refine splitAtBracket_append_bracket [] rest ?_ ?_
  · intro front behind same
    obtain ⟨inside, more, rfl, found⟩ :=
      exists_of_bracket_between (by decide) (by decide) same
    rw [foldl_commentState, Bool.and_eq_false_iff]
    by_cases long : 4 < ("!--".toList ++ inside).length
    · refine Or.inr (decide_eq_false ?_)
      intro dashes
      rw [le_countAtEnd_iff] at dashes
      have within : List.replicate 2 '-' <:+ inside := by
        apply List.suffix_of_suffix_length_le dashes (List.suffix_append _ _)
        simp only [List.length_append] at long
        simp only [List.length_replicate]
        change 4 < 3 + inside.length at long
        omega
      exact whole (infix_of_suffix found within)
    · exact Or.inl (decide_eq_false long)
  · rw [foldl_commentState, Bool.and_eq_true, decide_eq_true_iff,
      decide_eq_true_iff, le_countAtEnd_iff]
    refine ⟨?_, ("!--".toList ++ text), ?_⟩
    · simp
    · simp

/-- A literal section ends at the first two square brackets with a bracket
behind its beginning. -/
theorem splitLiteral_written
    {text : List Char}
    (whole : ¬"]]>".toList <:+: text)
    (rest : List Char) :
    splitLiteral ("![CDATA[".toList ++ (text ++ "]]".toList) ++ '>' :: rest) =
      some ("![CDATA[".toList ++ (text ++ "]]".toList), rest) := by
  refine splitAtBracket_append_bracket [] rest ?_ ?_
  · intro front behind same
    obtain ⟨inside, more, rfl, found⟩ :=
      exists_of_bracket_between (by decide) (by decide) same
    rw [List.foldl_append]
    refine decide_eq_false ?_
    intro brackets
    have within : List.replicate 2 ']' <:+ inside :=
      (le_countAtEnd_iff ']' inside 2).mp brackets
    exact whole (infix_of_suffix found within)
  · refine decide_eq_true ((le_countAtEnd_iff ']' _ 2).mpr ?_)
    exact ⟨"![CDATA[".toList ++ text, by simp⟩

/-- An instruction ends at the first question mark with a bracket behind it. -/
theorem splitInstruction_written
    {text : List Char}
    (whole : ¬"?>".toList <:+: text)
    (rest : List Char) :
    splitInstruction (text ++ ['?'] ++ '>' :: rest) =
      some (text ++ ['?'], rest) := by
  refine splitAtBracket_append_bracket [] rest ?_ ?_
  · intro front behind same
    obtain ⟨more, found⟩ := exists_of_plain_second (by decide) same
    cases front using List.reverseRecOn with
    | nil => rfl
    | append_singleton front last =>
        rw [List.foldl_append]
        refine beq_false_of_ne ?_
        rintro rfl
        exact whole (infix_of_suffix found (List.suffix_append front ['?']))
  · rw [List.foldl_append]
    rfl

/-! ## Document types -/

/-- Text whose angle brackets are in pairs. -/
inductive Balanced : List Char -> Prop
  | nil : Balanced []
  | plain
      {character : Char}
      {rest : List Char}
      (ordinary : character ≠ '<' ∧ character ≠ '>')
      (behind : Balanced rest) :
      Balanced (character :: rest)
  | enclosed
      {inside rest : List Char}
      (within : Balanced inside)
      (behind : Balanced rest) :
      Balanced ('<' :: (inside ++ ['>']) ++ rest)

/-- A document type declaration ends at a bracket that closes no other one. -/
theorem splitDoctype_written
    {text : List Char}
    (balanced : Balanced text)
    (rest : List Char) :
    splitDoctype (text ++ '>' :: rest) = some (text, rest) := by
  -- Whatever stands in pairs of brackets is passed at every depth.
  have passes (depth : Nat) :
      PassesBy
        (fun (depth : Nat) character =>
          if character == '<' then depth + 1
          else if character == '>' then depth - 1
          else depth)
        (fun depth => depth == 0) depth text := by
    induction balanced generalizing depth with
    | nil => exact .nil
    | @plain character text ordinary _ inductionHypothesis =>
        exact (inductionHypothesis depth).cons (by simp [ordinary])
    | enclosed _ _ insideHypothesis inductionHypothesis =>
        refine .append ?_ (inductionHypothesis depth)
        exact .between (depth + 1) ⟨rfl, rfl⟩ (insideHypothesis _) ⟨rfl, rfl⟩
  exact (passes 0).split rfl rest

/-! ## Tags -/

/-- Text in which every quote is closed, and no closing bracket stands outside
quotes. -/
inductive Quoted : List Char -> Prop
  | nil : Quoted []
  | plain
      {character : Char}
      {rest : List Char}
      (ordinary : character ∉ ['>', '"', '\''])
      (behind : Quoted rest) :
      Quoted (character :: rest)
  | value
      {quote : Char}
      {inside rest : List Char}
      (quotes : quote ∈ ['"', '\''])
      (whole : quote ∉ inside)
      (behind : Quoted rest) :
      Quoted (quote :: (inside ++ [quote]) ++ rest)

/-- Characters of a class without quotes and brackets may stand in front. -/
theorem Quoted.append_of_forall
    {test : Char -> Bool}
    (special : test '>' = false ∧ test '"' = false ∧ test '\'' = false)
    {text rest : List Char}
    (ordinary : ∀ character ∈ text, test character = true)
    (behind : Quoted rest) :
    Quoted (text ++ rest) := by
  induction text with
  | nil => exact behind
  | cons character text inductionHypothesis =>
      rw [List.forall_mem_cons] at ordinary
      refine .plain ?_ (inductionHypothesis ordinary.2)
      intro member
      simp only [List.mem_cons, List.not_mem_nil, or_false] at member
      obtain ⟨bracket, double, single⟩ := special
      rcases member with rfl | rfl | rfl
      · exact absurd (bracket.symm.trans ordinary.1) (by decide)
      · exact absurd (double.symm.trans ordinary.1) (by decide)
      · exact absurd (single.symm.trans ordinary.1) (by decide)

/-- A tag ends at the bracket behind its quotes. -/
theorem splitTag_written
    {text : List Char}
    (quoted : Quoted text)
    (rest : List Char) :
    splitTag (text ++ '>' :: rest) = some (text, rest) := by
  refine PassesBy.split ?_ rfl rest
  induction quoted with
  | nil => exact .nil
  | @plain character text ordinary _ inductionHypothesis =>
      simp only [List.mem_cons, List.not_mem_nil, or_false, not_or] at ordinary
      exact inductionHypothesis.cons (by simp [ordinary])
  | @value quote inside text quotes whole _ inductionHypothesis =>
      refine .append ?_ inductionHypothesis
      have differs : quote ≠ '>' := by
        rintro rfl
        exact absurd quotes (by decide)
      have opens : (quote == '"' || quote == '\'') = true := by
        simpa using quotes
      refine .between (some quote) ?_ (.of_forall ?_) ?_
      · simp [differs, opens]
      · intro character member
        have other : character ≠ quote := fun same => whole (same ▸ member)
        simp [other]
      · simp

/-- The characters of names of elements. -/
def isNameCharacter (character : Char) : Bool :=
  !Text.isMarkupSpace character &&
    !(['!', '?', '/', '<', '>', '=', '\'', '"', '&'].contains character)

/-- A tag as it is written: a name, and behind it, after white space, attributes
with quoted values. -/
structure WrittenTag extends Tag where
  /-- The name is not empty. -/
  named : name ≠ []
  /-- The name consists of characters of names. -/
  plain : ∀ character ∈ name, isNameCharacter character = true
  /-- White space separates the attributes from the name. -/
  spaced : ∀ first ∈ body.head?, Text.isMarkupSpace first = true
  /-- The values of the attributes are quoted. -/
  quoted : Quoted body
  /-- The last character is no slash. -/
  unslashed : body.getLast? ≠ some '/'

/-- The text of attributes, each behind a space and with its value in double
quotes. -/
def writeAttributes (attributes : List Attribute) : List Char :=
  attributes.flatMap fun attr =>
    ' ' :: (attr.name ++ '=' :: ('"' :: (attr.value ++ ['"'])))

/-- Whether an attribute can be written between double quotes. -/
def isWritable (attr : Attribute) : Bool :=
  attr.name.all isNameCharacter && !attr.value.contains '"'

theorem quoted_writeAttributes
    {attributes : List Attribute}
    (writable : attributes.all isWritable = true) :
    Quoted (writeAttributes attributes) := by
  induction attributes with
  | nil => exact .nil
  | cons attr attributes inductionHypothesis =>
      rw [List.all_cons, Bool.and_eq_true, isWritable, Bool.and_eq_true,
        Bool.not_eq_true', List.contains_eq_mem, decide_eq_false_iff_not,
        List.all_eq_true] at writable
      obtain ⟨⟨named, valued⟩, later⟩ := writable
      have behind :
          Quoted
            ('"' :: (attr.value ++ ['"']) ++ writeAttributes attributes) :=
        .value (by decide) valued (inductionHypothesis later)
      have assigned :=
        Quoted.append_of_forall (by decide) named
          (.plain (by decide) behind : Quoted ('=' :: _))
      have spaced : Quoted (' ' :: _) := .plain (by decide) assigned
      simpa [writeAttributes] using spaced

/-- The tag with a name and attributes. -/
def WrittenTag.ofAttributes
    (name : List Char)
    (attributes : List Attribute)
    (named : name ≠ [])
    (plain : name.all isNameCharacter = true)
    (writable : attributes.all isWritable = true) :
    WrittenTag where
  name := name
  body := writeAttributes attributes
  named := named
  plain := List.all_eq_true.mp plain
  spaced := by
    cases attributes with
    | nil => simp [writeAttributes]
    | cons attr attributes =>
        intro first head
        cases head
        rfl
  quoted := quoted_writeAttributes writable
  unslashed := by
    obtain rfl | ⟨front, last, rfl⟩ := List.eq_nil_or_concat attributes
    · decide
    · have ends :
          writeAttributes (front.concat last) =
            writeAttributes front ++
              ' ' :: (last.name ++ '=' :: '"' :: last.value) ++ ['"'] := by
        simp [writeAttributes]
      rw [ends, List.getLast?_concat]
      decide

/-- The tag with a name and no attributes. -/
def WrittenTag.ofName
    (name : List Char)
    (named : name ≠ [])
    (plain : name.all isNameCharacter = true) :
    WrittenTag :=
  .ofAttributes name [] named plain rfl

namespace WrittenTag

variable (tag : WrittenTag)

/-- The text of a tag without its ending. -/
def text : List Char :=
  tag.name ++ tag.body

theorem not_isMarkupSpace_name :
    ∀ character ∈ tag.name, Text.isMarkupSpace character = false := by
  intro character member
  have plain := tag.plain character member
  rw [isNameCharacter, Bool.and_eq_true, Bool.not_eq_true'] at plain
  exact plain.1

theorem not_mem_name
    {character : Char}
    (special : isNameCharacter character = false) :
    character ∉ tag.name := by
  intro member
  rw [tag.plain character member] at special
  exact absurd special (by decide)

/-- Names need no quotes. -/
theorem quoted_name
    {rest : List Char}
    (behind : Quoted rest) :
    Quoted (tag.name ++ rest) :=
  .append_of_forall (by decide) tag.plain behind

/-- A tag is found in its text again. -/
theorem ofText_text : Tag.ofText tag.text = tag.toTag := by
  have within :
      ∀ character ∈ tag.name, (!Text.isMarkupSpace character) = true := by
    intro character member
    rw [tag.not_isMarkupSpace_name character member]
    rfl
  have behind :
      tag.body.takeWhile (fun character => !Text.isMarkupSpace character) =
          [] ∧
        tag.body.dropWhile (fun character => !Text.isMarkupSpace character) =
          tag.body := by
    have spaced := tag.spaced
    cases shape : tag.body with
    | nil => exact ⟨rfl, rfl⟩
    | cons first body =>
        rw [shape] at spaced
        have space := spaced first rfl
        simp [space]
  unfold Tag.ofText text
  rw [List.takeWhile_append_of_pos within, List.dropWhile_append_of_pos within,
    behind.1, behind.2, List.append_nil]

theorem head?_text :
    ∀ first ∈ tag.text.head?, first ∉ ['!', '?', '/'] := by
  intro first head marked
  rw [text, List.head?_append_of_ne_nil _ tag.named] at head
  have member : first ∈ tag.name := List.mem_of_mem_head? head
  simp only [List.mem_cons, List.not_mem_nil, or_false] at marked
  rcases marked with rfl | rfl | rfl <;>
    exact tag.not_mem_name (by decide) member

theorem getLast?_text : tag.text.getLast? ≠ some '/' := by
  intro slash
  by_cases empty : tag.body = []
  · rw [text, empty, List.append_nil] at slash
    exact tag.not_mem_name (by decide) (List.mem_of_getLast? slash)
  · rw [text, List.getLast?_append_of_ne_nil _ empty] at slash
    exact tag.unslashed slash

theorem readConstruct_text_append
    (names : List (List Char))
    (behind : List Char) :
    readConstruct names (tag.text ++ behind) =
      readOpening (tag.text ++ behind) := by
  have filled : tag.text ≠ [] :=
    List.append_ne_nil_of_left_ne_nil tag.named _
  apply readConstruct_opening
  rw [List.head?_append_of_ne_nil _ filled]
  exact tag.head?_text

/-- White space behind the name of a closing tag is dropped. -/
theorem closingName_append
    {space : List Char}
    (blank : ∀ character ∈ space, Text.isMarkupSpace character = true) :
    closingName (tag.name ++ space) = tag.name := by
  obtain ⟨front, last, shape⟩ :=
    List.eq_nil_or_concat tag.name |>.resolve_left tag.named
  have kept : Text.isMarkupSpace last = false := by
    apply tag.not_isMarkupSpace_name
    rw [shape, List.concat_eq_append]
    exact List.mem_concat_self
  rw [List.concat_eq_append] at shape
  have filled : (tag.name ++ space).all Text.isMarkupSpace = false := by
    rw [shape]
    simp [kept]
  rw [closingName, filled, if_neg (by decide),
    Text.dropWhileEnd_append_of_forall blank, shape,
    Text.dropWhileEnd_concat kept]

/-- An opening tag is read as it is written. -/
theorem read_opening
    (names : List (List Char))
    (rest : List Char) :
    readConstruct names (tag.text ++ '>' :: rest) =
      .read (.opening tag.toTag) tag.text rest := by
  have split : splitTag (tag.text ++ '>' :: rest) = some (tag.text, rest) :=
    splitTag_written (tag.quoted_name tag.quoted) rest
  rw [tag.readConstruct_text_append,
    readOpening_of_unslashed split tag.getLast?_text, tag.ofText_text]

/-- A tag that closes itself is read as it is written. -/
theorem read_selfClosing
    (names : List (List Char))
    (rest : List Char) :
    readConstruct names (tag.text ++ ['/'] ++ '>' :: rest) =
      .read (.selfClosing tag.toTag) (tag.text ++ ['/']) rest := by
  have split :
      splitTag (tag.text ++ ['/'] ++ '>' :: rest) =
        some (tag.text ++ ['/'], rest) := by
    rw [List.append_assoc]
    exact splitTag_append_slash_iff.mpr
      (splitTag_written (tag.quoted_name tag.quoted) rest)
  have read := readOpening_of_slash split
  rw [tag.ofText_text] at read
  rw [List.append_assoc] at read ⊢
  rw [tag.readConstruct_text_append, read]

/-- A tag is read with either ending. -/
theorem read_tagEnding
    (names : List (List Char))
    {ending : List Char}
    (ends : ending ∈ tagEndings)
    (rest : List Char) :
    ∃ event content,
      event.tag? = some tag.toTag ∧
        readConstruct names (tag.text ++ (ending ++ rest)) =
          .read event content rest := by
  rw [tagEndings, List.mem_pair] at ends
  rcases ends with rfl | rfl
  · exact ⟨_, _, rfl, tag.read_opening names rest⟩
  · have read := tag.read_selfClosing names rest
    rw [List.append_assoc] at read
    exact ⟨_, _, rfl, read⟩

/-- The closing tag of an element, with white space behind its name, is read as
it is written. -/
theorem read_closing
    (names : List (List Char))
    {space : List Char}
    (blank : ∀ character ∈ space, Text.isMarkupSpace character = true)
    (rest : List Char) :
    readConstruct (tag.name :: names)
        ('/' :: (tag.name ++ space) ++ '>' :: rest) =
      .read (.closing tag.name) ('/' :: (tag.name ++ space)) rest := by
  have quotedSpace : Quoted (space ++ []) :=
    .append_of_forall (by decide) blank .nil
  rw [List.append_nil] at quotedSpace
  have quoted : Quoted ('/' :: (tag.name ++ space)) :=
    .plain (by decide) (tag.quoted_name quotedSpace)
  have split := splitTag_written quoted rest
  have closes :
      readConstruct (tag.name :: names)
          ('/' :: (tag.name ++ space) ++ '>' :: rest) =
        readClosing (tag.name :: names)
          ('/' :: (tag.name ++ space) ++ '>' :: rest) := rfl
  rw [closes, readClosing, split]
  simp [tag.closingName_append blank]

end WrittenTag

/-! ## Markup that encloses no element -/

/-- Markup that has no content of its own, as it is written. -/
inductive Insertion
  | comment (text : List Char) (whole : ¬"-->".toList <:+: text)
  | instruction
      (text : List Char)
      (filled : text.head? ≠ some '>')
      (whole : ¬"?>".toList <:+: text)
  | literal (text : List Char) (whole : ¬"]]>".toList <:+: text)
  | doctype
      (body : List Char)
      (balanced : Balanced body)
      (named : body.all Text.isMarkupSpace = false)
  | emptyElement (tag : WrittenTag)

/-- What is written between the angle brackets. -/
def Insertion.write : Insertion -> List Char
  | .comment text _ => "!--".toList ++ (text ++ "--".toList)
  | .instruction text _ _ => '?' :: (text ++ ['?'])
  | .literal text _ => "![CDATA[".toList ++ (text ++ "]]".toList)
  | .doctype body _ _ => "!DOCTYPE".toList ++ body
  | .emptyElement tag => tag.text ++ ['/']

/-- What is read of the markup. -/
def Insertion.event : Insertion -> Event
  | .comment _ _ | .instruction _ _ _ => .ignored
  | .literal text _ => .literal text
  | .doctype _ _ _ => .doctype
  | .emptyElement tag => .selfClosing tag.toTag

/-- No tag is opened or closed. -/
theorem Insertion.openAfter_event
    (insertion : Insertion)
    (names : List (List Char)) :
    openAfter names insertion.event = names := by
  cases insertion <;> rfl

section

variable
  {behind content rest : List Char}

theorem readDeclaration_of_comment
    (split : splitComment ('!' :: '-' :: behind) = some (content, rest))
    (marked : "!--".toList.isPrefixOf content = true) :
    readDeclaration ('!' :: '-' :: behind) = .read .ignored content rest := by
  unfold readDeclaration
  simp only [split, marked, if_true]

theorem readDeclaration_of_literal
    (split : splitLiteral ('!' :: '[' :: behind) = some (content, rest))
    (marked : "![CDATA[".toList.isPrefixOf content = true) :
    readDeclaration ('!' :: '[' :: behind) =
      .read (.literal (content.drop 8).dropLast.dropLast) content rest := by
  unfold readDeclaration
  simp only [split, marked, if_true]

end

section

variable
  (names : List (List Char))
  {text : List Char}
  (rest : List Char)

theorem readConstruct_comment (whole : ¬"-->".toList <:+: text) :
    readConstruct names ("!--".toList ++ (text ++ "--".toList) ++ '>' :: rest) =
      .read .ignored ("!--".toList ++ (text ++ "--".toList)) rest :=
  readDeclaration_of_comment (splitComment_written whole rest) rfl

theorem readConstruct_literal (whole : ¬"]]>".toList <:+: text) :
    readConstruct names
        ("![CDATA[".toList ++ (text ++ "]]".toList) ++ '>' :: rest) =
      .read (.literal text) ("![CDATA[".toList ++ (text ++ "]]".toList))
        rest := by
  have inside :
      (("![CDATA[".toList ++ (text ++ "]]".toList)).drop 8).dropLast.dropLast =
        text := by
    simp
  refine Eq.trans ?_
    (congrArg (fun inside => Construct.read (.literal inside) _ rest) inside)
  exact readDeclaration_of_literal (splitLiteral_written whole rest) rfl

theorem readConstruct_doctype
    (balanced : Balanced text)
    (named : text.all Text.isMarkupSpace = false) :
    readConstruct names ("!DOCTYPE".toList ++ text ++ '>' :: rest) =
      .read .doctype ("!DOCTYPE".toList ++ text) rest := by
  have whole : Balanced ("!DOCTYPE".toList ++ text) := by
    repeat refine .plain (by decide) ?_
    exact balanced
  have split := splitDoctype_written whole rest
  have word :
      startsWithIgnoringCase "!DOCTYPE".toList ("!DOCTYPE".toList ++ text) =
        true := rfl
  have unnamed :
      ¬(("!DOCTYPE".toList ++ text).drop 8).all Text.isMarkupSpace = true :=
    Bool.eq_false_iff.mp named
  have declared :
      readConstruct names ("!DOCTYPE".toList ++ text ++ '>' :: rest) =
        readDeclaration ("!DOCTYPE".toList ++ text ++ '>' :: rest) := rfl
  have lettered :=
    readDeclaration_of_letter (.inl rfl) ("OCTYPE".toList ++ text ++ '>' :: rest)
  have shape :
      '!' :: 'D' :: ("OCTYPE".toList ++ text ++ '>' :: rest) =
        "!DOCTYPE".toList ++ text ++ '>' :: rest := rfl
  rw [shape, split] at lettered
  dsimp only at lettered
  rw [if_pos word, if_neg unnamed] at lettered
  exact declared.trans lettered

end

/-- Markup is read as it is written. -/
theorem Insertion.read_write
    (insertion : Insertion)
    (names : List (List Char))
    (rest : List Char) :
    readConstruct names (insertion.write ++ '>' :: rest) =
      .read insertion.event insertion.write rest := by
  cases insertion with
  | comment text whole => exact readConstruct_comment names rest whole
  | instruction text filled whole =>
      have head : (text ++ ['?'] ++ '>' :: rest).head? ≠ some '>' := by
        cases text with
        | nil => exact fun first => absurd (Option.some.inj first) (by decide)
        | cons first text => exact filled
      refine (readConstruct_instruction head).trans ?_
      rw [splitInstruction_written whole]
      rfl
  | literal text whole => exact readConstruct_literal names rest whole
  | doctype body balanced named =>
      exact readConstruct_doctype names rest balanced named
  | emptyElement tag => exact tag.read_selfClosing names rest

end Markup
end FieldOcr
