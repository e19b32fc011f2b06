import FieldOcr.Proofs.ByteLength
import FieldOcr.Proofs.TagEnding

/-!
# The progress of the reader

The reader of a document goes from event to event.  Between two events it
stands at a place of the document, with some tags open and some bytes read.
The events that it delivers are those of the document's scan, and no byte is
read twice or left out.
-/

namespace FieldOcr

namespace Markup

/-- A reader between two events. -/
structure Cursor where
  /-- The names of the open tags, innermost first. -/
  openNames : List (List Char)
  /-- The number of bytes read. -/
  position : Nat
  /-- What is left to read. -/
  rest : List Char

namespace Cursor

/-- The reader in front of a document. -/
def start (document : List Char) : Cursor :=
  ⟨[], 0, Content.stripByteOrderMark document⟩

/-- A reader passes white space and delivers one event: a construct between
brackets, or the character data in front of the next bracket. -/
inductive Reads : Cursor -> Event -> Cursor -> Prop
  | construct
      {openNames : List (List Char)}
      {position : Nat}
      {text behind content rest : List Char}
      {event : Event}
      (shape : text.dropWhile Text.isMarkupSpace = '<' :: behind)
      (result : readConstruct openNames behind = .read event content rest) :
      Reads ⟨openNames, position, text⟩ event
        ⟨openAfter openNames event,
          position + (text.takeWhile Text.isMarkupSpace).length + 2 +
            Text.byteLength content,
          rest⟩
  | characters
      {openNames : List (List Char)}
      {position : Nat}
      {text behind : List Char}
      {first : Char}
      (shape : text.dropWhile Text.isMarkupSpace = first :: behind)
      (plain : first ≠ '<') :
      Reads ⟨openNames, position, text⟩
        (.characters (characterData first behind))
        ⟨openNames,
          position + (text.takeWhile Text.isMarkupSpace).length +
            Text.byteLength (first :: behind.takeWhile (· != '<')),
          behind.dropWhile (· != '<')⟩

/-- A reader delivers events, each located at the number of bytes read before
it. -/
inductive Passes : Cursor -> List Located -> Cursor -> Prop
  | nil {cursor : Cursor} : Passes cursor [] cursor
  | cons
      {cursor next final : Cursor}
      {event : Event}
      {events : List Located}
      (reads : Reads cursor event next)
      (rest : Passes next events final) :
      Passes cursor (⟨cursor.position, event⟩ :: events) final

section

variable
  {cursor next final : Cursor}
  {event : Event}
  {events front back : List Located}

/-- A construct is read from its bracket on. -/
theorem Reads.bracket
    {openNames : List (List Char)}
    {position : Nat}
    {behind content rest : List Char}
    (result : readConstruct openNames behind = .read event content rest) :
    Reads ⟨openNames, position, '<' :: behind⟩ event
      ⟨openAfter openNames event, position + 2 + Text.byteLength content,
        rest⟩ :=
  .construct rfl result

theorem passes_append_iff :
    Passes cursor (front ++ back) final ↔
      ∃ middle, Passes cursor front middle ∧ Passes middle back final := by
  constructor
  · intro passes
    induction front generalizing cursor with
    | nil => exact ⟨cursor, .nil, passes⟩
    | cons located front inductionHypothesis =>
        obtain _ | ⟨reads, rest⟩ := passes
        obtain ⟨middle, passed, later⟩ := inductionHypothesis rest
        exact ⟨middle, .cons reads passed, later⟩
  · rintro ⟨middle, passed, later⟩
    induction passed with
    | nil => exact later
    | cons reads rest inductionHypothesis =>
        exact .cons reads (inductionHypothesis later)

/-- A reader takes tags from the open ones and adds to them as its events
say. -/
theorem Reads.openNames_eq (reads : Reads cursor event next) :
    next.openNames = openAfter cursor.openNames event := by
  cases reads <;> rfl

/-- A closing tag is delivered only if it closes the innermost open tag. -/
theorem Reads.matched
    {name : List Char}
    (reads : Reads cursor (.closing name) next) :
    cursor.openNames.head? = some name := by
  cases reads with
  | construct shape result => exact readConstruct_matched result

/-- The bytes read and those that are left are those of the document. -/
theorem Reads.bytes (reads : Reads cursor event next) :
    next.position + Text.byteLength next.rest =
      cursor.position + Text.byteLength cursor.rest := by
  cases reads with
  | @construct _ _ text behind content rest _ shape result =>
      obtain ⟨rfl, -⟩ := readConstruct_readsTo result
      have whole := Text.byteLength_dropSpace text
      have single : '<'.utf8Size = 1 ∧ '>'.utf8Size = 1 := ⟨rfl, rfl⟩
      rw [shape] at whole
      simp only [Text.byteLength_cons, Text.byteLength_append, single] at whole
      dsimp only
      omega
  | @characters _ _ text behind first shape plain =>
      have whole := Text.byteLength_dropSpace text
      have split :
          Text.byteLength (behind.takeWhile (· != '<')) +
              Text.byteLength (behind.dropWhile (· != '<')) =
            Text.byteLength behind := by
        rw [← Text.byteLength_append, List.takeWhile_append_dropWhile]
      rw [shape] at whole
      simp only [Text.byteLength_cons] at whole ⊢
      omega

/-- Reading a tag takes a byte at least. -/
theorem Reads.position_lt
    {tag : Tag}
    (reads : Reads cursor event next)
    (opens : event.tag? = some tag) :
    cursor.position < next.position := by
  cases reads with
  | construct shape result =>
      dsimp only
      omega
  | characters shape plain => exact nomatch opens

/-- A reader never goes back. -/
theorem Reads.position_le (reads : Reads cursor event next) :
    cursor.position ≤ next.position := by
  cases reads <;>
    · dsimp only
      omega

theorem Passes.bytes (passes : Passes cursor events final) :
    final.position + Text.byteLength final.rest =
      cursor.position + Text.byteLength cursor.rest := by
  induction passes with
  | nil => rfl
  | cons reads rest inductionHypothesis =>
      exact inductionHypothesis.trans reads.bytes

end

/-- A reader reads no more bytes than there are. -/
theorem Passes.position_le
    {document : List Char}
    {events : List Located}
    {final : Cursor}
    (passes : Passes (.start document) events final) :
    final.position ≤ Text.byteLength document := by
  have bytes := passes.bytes
  have short :=
    Text.byteLength_le_of_infix
      (Content.stripByteOrderMark_suffix document).isInfix
  simp only [start] at bytes
  omega

end Cursor

/-! ## The reader delivers the events of a scan -/

theorem scanOnto_passes
    (readSoFar : List Located)
    (openNames : List (List Char))
    (offset : Nat)
    (text : List Char) :
    ∃ further final,
      (scanOnto readSoFar openNames offset text).events =
          readSoFar.reverse ++ further ∧
        Cursor.Passes ⟨openNames, offset, text⟩ further final := by
  fun_induction scanOnto readSoFar openNames offset text with
  | case1 | case2 => exact ⟨[], _, (List.append_nil _).symm, .nil⟩
  | case3 =>
      rename_i shape _ _ _ result inductionHypothesis
      obtain ⟨further, final, events, passes⟩ := inductionHypothesis
      rw [List.reverse_cons, List.append_assoc] at events
      exact ⟨_, final, events, .cons (.construct shape result) passes⟩
  | case4 =>
      rename_i plain shape _ _ _ _
      exact ⟨[_], _, List.reverse_cons,
        .cons (.characters shape plain) .nil⟩
  | case5 =>
      rename_i plain shape _ _ _ _ _ _ _ _ _
      exact ⟨[_], _, List.reverse_cons,
        .cons (.characters shape plain) .nil⟩
  | case6 =>
      rename_i plain shape _ _ _ _ _ found _ _ _ result inductionHypothesis
      obtain ⟨further, final, events, passes⟩ := inductionHypothesis
      obtain rfl := eq_bracket_of_dropWhile found
      rw [List.reverse_cons, List.reverse_cons, List.append_assoc,
        List.append_assoc] at events
      refine ⟨_, final, events, .cons (.characters shape plain) ?_⟩
      rw [found]
      exact .cons (.bracket result) passes

/-- At each of its events the reader of a document has come to some place. -/
theorem exists_passes
    {document : List Char}
    {front : List Located}
    (within : front <+: (scan document).events) :
    ∃ cursor, (Cursor.start document).Passes front cursor := by
  obtain ⟨further, final, events, passes⟩ :=
    scanOnto_passes [] [] 0 (Content.stripByteOrderMark document)
  rw [← scan_eq_scanOnto, List.reverse_nil, List.nil_append] at events
  obtain ⟨back, split⟩ := within
  rw [← events, ← split, Cursor.passes_append_iff] at passes
  obtain ⟨cursor, passed, -⟩ := passes
  exact ⟨cursor, passed⟩

end Markup
end FieldOcr
