import FieldOcr.Markup.Tag

/-!
# Reading markup as events

A document is read from left to right as a list of located events, which ends
either at the end of the input or at the first place that is not well formed.
The reader checks that closing tags match the tags that are open; it expands
no reference and reads no document type declaration.  White space at either
end of character data is dropped, and character data that is white space
alone is no event.

An event is located at the number of bytes read when its predecessor ended, a
fault at the bracket that opens the faulty construct.
-/

namespace FieldOcr
namespace Markup

/-- One piece of a document. -/
inductive Event
  | opening (tag : Tag)
  | selfClosing (tag : Tag)
  | closing (name : List Char)
  | characters (raw : List Char)
  | literal (text : List Char)
  | doctype
  | ignored
  deriving DecidableEq, Repr

/-- Why a document cannot be read further. -/
inductive ReaderFault
  | tagNotClosed
  | literalNotClosed
  | commentNotClosed
  | doctypeNotClosed
  | instructionNotClosed
  | unknownMarkup
  | doctypeWithoutName
  | mismatchedClosing (expected found : String)
  | unmatchedClosing (name : String)
  deriving DecidableEq, Repr

/-- The wording of a reader fault. -/
def ReaderFault.message : ReaderFault -> String
  | .tagNotClosed =>
      "syntax error: tag not closed: `>` not found before end of input"
  | .literalNotClosed =>
      "syntax error: CDATA not closed: `]]>` not found before end of input"
  | .commentNotClosed =>
      "syntax error: comment not closed: `-->` not found before end of input"
  | .doctypeNotClosed =>
      "syntax error: DOCTYPE not closed: `>` not found before end of input"
  | .instructionNotClosed =>
      "syntax error: processing instruction or xml declaration not closed: " ++
        "`?>` not found before end of input"
  | .unknownMarkup => "syntax error: unknown or missed symbol in markup"
  | .doctypeWithoutName =>
      "ill-formed document: `<!DOCTYPE>` declaration does not contain a name " ++
        "of a document type"
  | .mismatchedClosing expected found =>
      s!"ill-formed document: expected `</{expected}>`, but `</{found}>` " ++
        "was found"
  | .unmatchedClosing name =>
      s!"ill-formed document: close tag `</{name}>` does not match any open tag"

/-- Splits a text at the first closing bracket that is accepted in the state
reached there.  The result holds what stands before the bracket and behind
it. -/
def splitAtBracket
    (step : σ -> Char -> σ)
    (accepts : σ -> Bool)
    (state : σ)
    (taken : List Char) : List Char -> Option (List Char × List Char)
  | [] => none
  | character :: rest =>
      if character == '>' && accepts state then some (taken.reverse, rest)
      else
        splitAtBracket step accepts (step state character) (character :: taken)
          rest

theorem splitAtBracket_length_lt
    {step : σ -> Char -> σ}
    {accepts : σ -> Bool}
    {state : σ}
    {taken text before rest : List Char}
    (split : splitAtBracket step accepts state taken text = some (before, rest)) :
    rest.length < text.length := by
  induction text generalizing state taken with
  | nil => simp [splitAtBracket] at split
  | cons character text inductionHypothesis =>
      unfold splitAtBracket at split
      split at split
      · simp only [Option.some.injEq, Prod.mk.injEq] at split
        simp [split.2]
      · exact Nat.lt_succ_of_lt (inductionHypothesis split)

/-- Splits a tag at the first closing bracket outside quotes. -/
def splitTag : List Char -> Option (List Char × List Char) :=
  splitAtBracket
    (fun quote character =>
      match quote with
      | none =>
          if character == '"' || character == '\'' then some character
          else none
      | some open_ => if character == open_ then none else some open_)
    Option.isNone none []

/-- Splits a comment, from its exclamation mark on, behind two dashes that are
not those of its beginning. -/
def splitComment : List Char -> Option (List Char × List Char) :=
  splitAtBracket
    (fun (state : Nat × Nat) character =>
      (state.1 + 1, if character == '-' then state.2 + 1 else 0))
    (fun state => 4 < state.1 && 2 ≤ state.2) (0, 0) []

/-- Splits a literal section, from its exclamation mark on, behind two square
brackets. -/
def splitLiteral : List Char -> Option (List Char × List Char) :=
  splitAtBracket
    (fun (brackets : Nat) character =>
      if character == ']' then brackets + 1 else 0)
    (fun brackets => 2 ≤ brackets) 0 []

/-- Splits a document type declaration where its angle brackets balance. -/
def splitDoctype : List Char -> Option (List Char × List Char) :=
  splitAtBracket
    (fun (depth : Nat) character =>
      if character == '<' then depth + 1
      else if character == '>' then depth - 1
      else depth)
    (fun depth => depth == 0) 0 []

/-- Splits an instruction, from behind its question mark on, behind the next
question mark that a closing bracket follows. -/
def splitInstruction : List Char -> Option (List Char × List Char) :=
  splitAtBracket (fun _ character => character == '?') id false []

/-- Whether a text starts with another one, apart from the case of ASCII
letters. -/
def startsWithIgnoringCase (expected text : List Char) : Bool :=
  (text.take expected.length).map Char.toUpper == expected.map Char.toUpper

/-- One construct between angle brackets, or the reason why it is none
together with the distance of the fault from the opening bracket. -/
inductive Construct
  | faulty (distance : Nat) (fault : ReaderFault)
  | read (event : Event) (content rest : List Char)

/-- Reads a construct that starts with an exclamation mark. -/
def readDeclaration (text : List Char) : Construct :=
  match text with
  | '!' :: '[' :: _ =>
      match splitLiteral text with
      | some (content, rest) =>
          if "![CDATA[".toList.isPrefixOf content then
            .read (.literal (content.drop 8).dropLast.dropLast) content rest
          else .faulty 0 .literalNotClosed
      | none => .faulty 0 .literalNotClosed
  | '!' :: '-' :: _ =>
      match splitComment text with
      | some (content, rest) =>
          if "!--".toList.isPrefixOf content then .read .ignored content rest
          else .faulty 0 .commentNotClosed
      | none => .faulty 0 .commentNotClosed
  | '!' :: letter :: _ =>
      if letter == 'D' || letter == 'd' then
        match splitDoctype text with
        | some (content, rest) =>
            if startsWithIgnoringCase "!DOCTYPE".toList content then
              if (content.drop 8).all Text.isMarkupSpace then
                .faulty (1 + Text.byteLength content) .doctypeWithoutName
              else .read .doctype content rest
            else .faulty 0 .doctypeNotClosed
        | none => .faulty 0 .doctypeNotClosed
      else .faulty 0 .unknownMarkup
  | _ => .faulty 0 .unknownMarkup

/-- The name of a closing tag: white space behind it is dropped, unless there
is nothing else. -/
def closingName (text : List Char) : List Char :=
  if text.all Text.isMarkupSpace then text
  else Text.dropWhileEnd Text.isMarkupSpace text

/-- Reads a closing tag, given the names of the open tags, innermost first. -/
def readClosing (openNames : List (List Char)) (text : List Char) : Construct :=
  match splitTag text with
  | none => .faulty 0 .tagNotClosed
  | some (content, rest) =>
      let name := closingName (content.drop 1)
      match openNames with
      | [] => .faulty 0 (.unmatchedClosing (String.ofList name))
      | expected :: _ =>
          if expected == name then .read (.closing name) content rest
          else
            .faulty 0
              (.mismatchedClosing (String.ofList expected) (String.ofList name))

/-- Reads an opening or self-closing tag. -/
def readOpening (text : List Char) : Construct :=
  match splitTag text with
  | none => .faulty 0 .tagNotClosed
  | some (content, rest) =>
      if content.getLast? == some '/' then
        .read (.selfClosing (Tag.ofText content.dropLast)) content rest
      else .read (.opening (Tag.ofText content)) content rest

/-- Reads the construct behind an opening bracket.  One question mark cannot
both begin and end an instruction. -/
def readConstruct
    (openNames : List (List Char))
    (text : List Char) : Construct :=
  match text with
  | '!' :: _ => readDeclaration text
  | '?' :: '>' :: _ => .faulty 0 .instructionNotClosed
  | '?' :: behind =>
      match splitInstruction behind with
      | some (content, rest) => .read .ignored ('?' :: content) rest
      | none => .faulty 0 .instructionNotClosed
  | '/' :: _ => readClosing openNames text
  | _ => readOpening text

theorem readConstruct_length_lt
    {openNames : List (List Char)}
    {text content rest : List Char}
    {event : Event}
    (result : readConstruct openNames text = .read event content rest) :
    rest.length < text.length := by
  unfold readConstruct at result
  split at result
  · unfold readDeclaration at result
    repeat' split at result
    all_goals first
      | (simp at result; done)
      | (simp only [Construct.read.injEq] at result
         rw [← result.2.2]
         exact splitAtBracket_length_lt (by assumption))
  · simp at result
  · split at result
    · next shape =>
        simp only [Construct.read.injEq] at result
        rw [← result.2.2]
        exact Nat.lt_succ_of_lt (splitAtBracket_length_lt shape)
    · simp at result
  · unfold readClosing at result
    split at result
    · simp at result
    · next shape =>
        dsimp only at result
        split at result
        · simp at result
        · split at result
          · simp only [Construct.read.injEq] at result
            rw [← result.2.2]
            exact splitAtBracket_length_lt shape
          · simp at result
  · unfold readOpening at result
    split at result
    · simp at result
    · next shape =>
        split at result
        all_goals
          simp only [Construct.read.injEq] at result
          rw [← result.2.2]
          exact splitAtBracket_length_lt shape

/-- The names of the open tags after an event, innermost first. -/
def openAfter (openNames : List (List Char)) : Event -> List (List Char)
  | .opening tag => tag.name :: openNames
  | .closing _ => openNames.tail
  | _ => openNames

/-- An event and the number of bytes read before it. -/
structure Located where
  /-- The number of bytes read before the event. -/
  position : Nat
  /-- The event. -/
  event : Event
  deriving DecidableEq, Repr

/-- Where and how reading ends. -/
inductive Ending
  | complete (position : Nat)
  | broken (position : Nat) (fault : ReaderFault)
  deriving DecidableEq, Repr

/-- A document as the reader sees it. -/
structure Scan where
  /-- The events in document order. -/
  events : List Located
  /-- What stands behind the last event. -/
  ending : Ending
  deriving DecidableEq, Repr

/-- Reads a document onto the events read so far, the last one first.
`offset` is the position of the text and `openNames` lists the open tags,
innermost first. -/
def scanOnto
    (readSoFar : List Located)
    (openNames : List (List Char))
    (offset : Nat)
    (text : List Char) : Scan :=
  let space := text.takeWhile Text.isMarkupSpace
  let start := offset + space.length
  match _shape : text.dropWhile Text.isMarkupSpace with
  | [] => ⟨readSoFar.reverse, .complete offset⟩
  | '<' :: behind =>
      match _result : readConstruct openNames behind with
      | .faulty distance fault =>
          ⟨readSoFar.reverse, .broken (start + distance) fault⟩
      | .read event content rest =>
          scanOnto (⟨offset, event⟩ :: readSoFar) (openAfter openNames event)
            (start + 2 + Text.byteLength content) rest
  | first :: behind =>
      let raw := first :: behind.takeWhile (· != '<')
      let characters :=
        Event.characters (Text.dropWhileEnd Text.isMarkupSpace raw)
      let bracket := start + Text.byteLength raw
      match _found : behind.dropWhile (· != '<') with
      | [] =>
          ⟨(⟨offset, characters⟩ :: readSoFar).reverse, .complete bracket⟩
      | _ :: afterBracket =>
          match _result : readConstruct openNames afterBracket with
          | .faulty distance fault =>
              ⟨(⟨offset, characters⟩ :: readSoFar).reverse,
                .broken (bracket + distance) fault⟩
          | .read event content rest =>
              scanOnto
                (⟨bracket, event⟩ :: ⟨offset, characters⟩ :: readSoFar)
                (openAfter openNames event)
                (bracket + 2 + Text.byteLength content) rest
termination_by text.length
decreasing_by
  · have skipped := dropWhile_length_le Text.isMarkupSpace text
    have shorter := readConstruct_length_lt _result
    rw [_shape, List.length_cons] at skipped
    omega
  · have skipped := dropWhile_length_le Text.isMarkupSpace text
    have found := dropWhile_length_le (· != '<') behind
    have shorter := readConstruct_length_lt _result
    rw [_shape, List.length_cons] at skipped
    rw [_found, List.length_cons] at found
    omega

/-- Reads a whole document.  A byte-order mark in front of it is not
counted. -/
def scan (text : List Char) : Scan :=
  match text with
  | '\uFEFF' :: rest => scanOnto [] [] 0 rest
  | _ => scanOnto [] [] 0 text

end Markup
end FieldOcr
