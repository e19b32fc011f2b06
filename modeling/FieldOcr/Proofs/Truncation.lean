import FieldOcr.Proofs.LeadingText

/-!
# Truncated documents

Every construct ends at a closing bracket that is found whatever stands behind
it.  So the place where the root of a document ends is found in each prefix that
contains it, and a document that is cut off in front of this place does not
pass its check.  Cut off behind it, the document passes.
-/

namespace FieldOcr
namespace Markup

/-! ## Constructs end at their closing bracket -/

/-- What a split finds ends at a closing bracket, and is found there whatever
stands behind. -/
def Delimits (split : List Char -> Option (List Char × List Char)) : Prop :=
  ∀ ⦃text before rest⦄,
    split text = some (before, rest) ->
      text = before ++ '>' :: rest ∧
        ∀ other, split (before ++ '>' :: other) = some (before, other)

/-- What is split off stands behind what was taken before. -/
theorem splitAtBracket_eq_some
    {step : σ -> Char -> σ}
    {accepts : σ -> Bool}
    {state : σ}
    {taken text before rest : List Char}
    (split :
      splitAtBracket step accepts state taken text = some (before, rest)) :
    ∃ more,
      before = taken.reverse ++ more ∧
        text = more ++ '>' :: rest ∧
        ∀ other,
          splitAtBracket step accepts state taken (more ++ '>' :: other) =
            some (before, other) := by
  induction text generalizing state taken with
  | nil => exact nomatch split
  | cons character text inductionHypothesis =>
      unfold splitAtBracket at split
      split at split
      · next found =>
          rw [Bool.and_eq_true, beq_iff_eq] at found
          obtain ⟨rfl, accepted⟩ := found
          cases split
          refine ⟨[], (List.append_nil _).symm, rfl, ?_⟩
          intro other
          simp [splitAtBracket, accepted]
      · next passed =>
          obtain ⟨more, same, rfl, again⟩ := inductionHypothesis split
          refine ⟨character :: more, ?_, rfl, ?_⟩
          · rw [same, List.reverse_cons, List.append_assoc]
            rfl
          · intro other
            rw [List.cons_append, splitAtBracket, if_neg passed]
            exact again other

theorem splitAtBracket_delimits
    (step : σ -> Char -> σ)
    (accepts : σ -> Bool)
    (state : σ) :
    Delimits (splitAtBracket step accepts state []) := by
  intro text before rest split
  obtain ⟨more, rfl, same, again⟩ := splitAtBracket_eq_some split
  exact ⟨same, again⟩

/-- A reader finds an event in front of a closing bracket, and does so whatever
stands behind. -/
def ReadsTo
    (read : List Char -> Construct)
    (text : List Char)
    (event : Event)
    (content rest : List Char) : Prop :=
  text = content ++ '>' :: rest ∧
    ∀ other, read (content ++ '>' :: other) = .read event content other

section

variable
  {openNames : List (List Char)}
  {text content rest : List Char}
  {event : Event}

/-- A text that starts with another character than the bracket at which its
content ends starts as this content does. -/
theorem head_of_content
    {first : Char}
    {behind : List Char}
    (plain : first ≠ '>')
    (shape : first :: behind = content ++ '>' :: rest) :
    ∃ more, content = first :: more ∧ behind = more ++ '>' :: rest := by
  cases content with
  | nil => exact absurd (List.cons.inj shape).1 plain
  | cons other more =>
      obtain ⟨rfl, same⟩ := List.cons.inj shape
      exact ⟨more, rfl, same⟩

theorem head?_of_content (content rest other : List Char) :
    (content ++ '>' :: other).head? = (content ++ '>' :: rest).head? := by
  cases content <;> rfl

/-- A reader that goes by a split finds the same event where the split does not
change, as long as the text starts with the same two characters. -/
theorem ReadsTo.of_heads
    {read : List Char -> Construct}
    {split : List Char -> Option (List Char × List Char)}
    {first second : Char}
    {behind : List Char}
    (delimits : Delimits split)
    (plain : first ≠ '>' ∧ second ≠ '>')
    (found : split (first :: second :: behind) = some (content, rest))
    (reads :
      ∀ more other,
        split (first :: second :: more) = some (content, other) ->
          read (first :: second :: more) = .read event content other) :
    ReadsTo read (first :: second :: behind) event content rest := by
  obtain ⟨same, again⟩ := delimits found
  refine ⟨same, ?_⟩
  intro other
  obtain ⟨inside, rfl, shape⟩ := head_of_content plain.1 same
  obtain ⟨inside, rfl, -⟩ := head_of_content plain.2 shape
  exact reads _ other (again other)

/-- A declaration of a document type, from its second character on. -/
theorem readDeclaration_of_letter
    {letter : Char}
    (doctype : letter = 'D' ∨ letter = 'd')
    (behind : List Char) :
    readDeclaration ('!' :: letter :: behind) =
      match splitDoctype ('!' :: letter :: behind) with
      | some (content, rest) =>
          if startsWithIgnoringCase "!DOCTYPE".toList content then
            if (content.drop 8).all Text.isMarkupSpace then
              .faulty (1 + Text.byteLength content) .doctypeWithoutName
            else .read .doctype content rest
          else .faulty 0 .doctypeNotClosed
      | none => .faulty 0 .doctypeNotClosed := by
  rcases doctype with rfl | rfl <;> rfl

theorem readDoctype_readsTo
    {letter : Char}
    {behind : List Char}
    (doctype : letter = 'D' ∨ letter = 'd')
    (result :
      readDeclaration ('!' :: letter :: behind) = .read event content rest) :
    ReadsTo readDeclaration ('!' :: letter :: behind) event content rest := by
  have plain : letter ≠ '>' := by
    rcases doctype with rfl | rfl <;> decide
  rw [readDeclaration_of_letter doctype] at result
  split at result
  · next found split =>
      split at result
      · next named =>
          split at result
          · exact nomatch result
          · next filled =>
              cases result
              apply ReadsTo.of_heads (splitAtBracket_delimits _ _ _)
                ⟨by decide, plain⟩ split
              intro more other found
              rw [readDeclaration_of_letter doctype, splitDoctype, found]
              exact (if_pos named).trans (if_neg filled)
      · exact nomatch result
  · exact nomatch result

theorem readDeclaration_readsTo
    (result : readDeclaration text = .read event content rest) :
    ReadsTo readDeclaration text event content rest := by
  have whole := result
  unfold readDeclaration at result
  split at result
  · split at result
    · next split =>
        split at result
        · next named =>
            cases result
            apply ReadsTo.of_heads (splitAtBracket_delimits _ _ _)
              ⟨by decide, by decide⟩ split
            intro more other found
            unfold readDeclaration splitLiteral
            simp only [found, named, if_true]
        · exact nomatch result
    · exact nomatch result
  · split at result
    · next split =>
        split at result
        · next named =>
            cases result
            apply ReadsTo.of_heads (splitAtBracket_delimits _ _ _)
              ⟨by decide, by decide⟩ split
            intro more other found
            unfold readDeclaration splitComment
            simp only [found, named, if_true]
        · exact nomatch result
    · exact nomatch result
  · split at result
    · next letter =>
        rw [Bool.or_eq_true, beq_iff_eq, beq_iff_eq] at letter
        exact readDoctype_readsTo letter whole
    · exact nomatch result
  · exact nomatch result

theorem readClosing_readsTo
    (result : readClosing openNames text = .read event content rest) :
    ReadsTo (readClosing openNames) text event content rest := by
  unfold readClosing at result
  split at result
  · exact nomatch result
  · next split =>
      obtain ⟨same, again⟩ := splitAtBracket_delimits _ _ _ split
      cases openNames with
      | nil => exact nomatch result
      | cons expected outer =>
          dsimp only at result
          split at result
          · next matched =>
              cases result
              refine ⟨same, ?_⟩
              intro other
              rw [readClosing, splitTag, again other]
              exact if_pos matched
          · exact nomatch result

theorem readOpening_readsTo
    (result : readOpening text = .read event content rest) :
    ReadsTo readOpening text event content rest := by
  unfold readOpening at result
  split at result
  · exact nomatch result
  · next split =>
      obtain ⟨same, again⟩ := splitAtBracket_delimits _ _ _ split
      split at result
      · next slash =>
          cases result
          refine ⟨same, ?_⟩
          intro other
          rw [readOpening, splitTag, again other]
          exact if_pos slash
      · next plain =>
          cases result
          refine ⟨same, ?_⟩
          intro other
          rw [readOpening, splitTag, again other]
          exact if_neg plain

theorem readConstruct_instruction
    {behind : List Char}
    (filled : behind.head? ≠ some '>') :
    readConstruct openNames ('?' :: behind) =
      match splitInstruction behind with
      | some (content, rest) => .read .ignored ('?' :: content) rest
      | none => .faulty 0 .instructionNotClosed := by
  cases behind with
  | nil => rfl
  | cons first behind =>
      rw [List.head?_cons, Ne, Option.some.injEq] at filled
      unfold readConstruct
      split
      · next shape => exact nomatch (List.cons.inj shape).1
      · next shape =>
          exact absurd (List.cons.inj (List.cons.inj shape).2).1 filled
      · next shape => cases shape; rfl
      · next shape => exact nomatch (List.cons.inj shape).1
      · next other _ => exact absurd rfl (other _)

/-- What starts with none of three characters is an opening tag. -/
theorem readConstruct_opening
    (plain : ∀ first ∈ text.head?, first ∉ ['!', '?', '/']) :
    readConstruct openNames text = readOpening text := by
  unfold readConstruct
  split
  · exact absurd (plain '!' rfl) (by decide)
  · exact absurd (plain '?' rfl) (by decide)
  · exact absurd (plain '?' rfl) (by decide)
  · exact absurd (plain '/' rfl) (by decide)
  · rfl

/-- Every construct ends at a closing bracket, and is read there whatever stands
behind. -/
theorem readConstruct_readsTo
    (result : readConstruct openNames text = .read event content rest) :
    ReadsTo (readConstruct openNames) text event content rest := by
  unfold readConstruct at result
  split at result
  · obtain ⟨same, again⟩ := readDeclaration_readsTo result
    refine ⟨same, ?_⟩
    intro other
    obtain ⟨inside, rfl, -⟩ := head_of_content (by decide) same
    exact again other
  · exact nomatch result
  · next behind closed =>
      split at result
      · next inside _ split =>
          cases result
          obtain ⟨same, again⟩ := splitAtBracket_delimits _ _ _ split
          refine ⟨congrArg _ same, ?_⟩
          intro other
          have filled : (inside ++ '>' :: other).head? ≠ some '>' := by
            rw [head?_of_content _ rest, ← same]
            intro head
            obtain ⟨tail, rfl⟩ := List.head?_eq_some_iff.mp head
            exact closed tail rfl
          rw [List.cons_append, readConstruct_instruction filled,
            splitInstruction, again other]
      · exact nomatch result
  · obtain ⟨same, again⟩ := readClosing_readsTo result
    refine ⟨same, ?_⟩
    intro other
    obtain ⟨inside, rfl, -⟩ := head_of_content (by decide) same
    exact again other
  · next declaration empty instruction closing =>
      obtain ⟨same, again⟩ := readOpening_readsTo result
      refine ⟨same, ?_⟩
      intro other
      rw [readConstruct_opening]
      · exact again other
      · intro first head marked
        rw [head?_of_content _ rest, ← same] at head
        obtain ⟨tail, rfl⟩ := List.head?_eq_some_iff.mp head
        simp only [List.mem_cons, List.not_mem_nil, or_false] at marked
        rcases marked with rfl | rfl | rfl
        · exact declaration _ rfl
        · exact instruction _ rfl
        · exact closing _ rfl

end

/-! ## The end of the root -/

/-- Whether an event ends the root: a tag that leaves no tag open, other than an
opening one. -/
def endsRoot (openNames : List (List Char)) (event : Event) : Bool :=
  match event with
  | .selfClosing _ | .closing _ => (openAfter openNames event).isEmpty
  | _ => false

/-- What stands behind the tag that ends the root, given the names of the tags
that are open in front of the text. -/
def behindRoot? (openNames : List (List Char)) (text : List Char) :
    Option (List Char) :=
  match _shape : text.dropWhile (· != '<') with
  | [] => none
  | _ :: behind =>
      match _result : readConstruct openNames behind with
      | .faulty _ _ => none
      | .read event _ rest =>
          if endsRoot openNames event then some rest
          else behindRoot? (openAfter openNames event) rest
termination_by text.length
decreasing_by
  have found := dropWhile_length_le (· != '<') text
  have shorter := readConstruct_length_lt _result
  rw [_shape, List.length_cons] at found
  omega

section

variable
  {openNames : List (List Char)}
  {front behind content rest : List Char}
  {event : Event}

theorem behindRoot?_of_bracket
    {text : List Char}
    (shape : text.dropWhile (· != '<') = '<' :: behind) :
    behindRoot? openNames text =
      match readConstruct openNames behind with
      | .faulty _ _ => none
      | .read event _ rest =>
          if endsRoot openNames event then some rest
          else behindRoot? (openAfter openNames event) rest := by
  rw [behindRoot?]
  split
  · next empty => exact nomatch shape.symm.trans empty
  · next same =>
      cases shape.symm.trans same
      split <;> simp_all

theorem behindRoot?_of_not_mem_bracket
    {text : List Char}
    (plain : '<' ∉ text) :
    behindRoot? openNames text = none := by
  have nothing : text.dropWhile (· != '<') = [] :=
    List.dropWhile_eq_nil_iff.mpr (ne_bracket_of_not_mem plain)
  rw [behindRoot?]
  split
  · rfl
  · next found => exact nomatch nothing.symm.trans found

/-- Text in front of the first bracket does not matter. -/
theorem behindRoot?_append
    (plain : '<' ∉ front)
    (text : List Char) :
    behindRoot? openNames (front ++ text) = behindRoot? openNames text := by
  have passed :
      (front ++ text).dropWhile (· != '<') = text.dropWhile (· != '<') :=
    List.dropWhile_append_of_pos (ne_bracket_of_not_mem plain)
  cases found : text.dropWhile (· != '<') with
  | nil =>
      have nothing : '<' ∉ text := by
        intro bracket
        have absent := List.dropWhile_eq_nil_iff.mp found '<' bracket
        exact absurd absent (by decide)
      rw [behindRoot?_of_not_mem_bracket nothing,
        behindRoot?_of_not_mem_bracket]
      simp [plain, nothing]
  | cons bracket behind =>
      obtain rfl := eq_bracket_of_dropWhile found
      rw [behindRoot?_of_bracket found,
        behindRoot?_of_bracket (passed.trans found)]

/-- The end of the root is that of the first construct, or behind it. -/
theorem behindRoot?_append_bracket
    (plain : '<' ∉ front)
    (result : readConstruct openNames behind = .read event content rest) :
    behindRoot? openNames (front ++ '<' :: behind) =
      if endsRoot openNames event then some rest
      else behindRoot? (openAfter openNames event) rest := by
  rw [behindRoot?_append plain, behindRoot?_of_bracket rfl, result]

/-- A construct is one event in front of those of the rest. -/
theorem scanOnto_of_read
    (result : readConstruct openNames behind = .read event content rest) :
    let scan := scanOnto [] openNames 0 ('<' :: behind)
    let later := scanOnto [] (openAfter openNames event) 0 rest
    scan.eventList = event :: later.eventList ∧
      (scan.IsComplete ↔ later.IsComplete) := by
  intro scan later
  have read :
      scan =
        scanOnto [⟨0, event⟩] (openAfter openNames event)
          (0 + 0 + 2 + Text.byteLength content) rest := by
    unfold scan
    rw [scanOnto_of_bracket openNames [] 0 rfl, result]
    rfl
  obtain ⟨further, events, laterEvents, complete⟩ :=
    scanOnto_agreeBehind [⟨0, event⟩] [] (openAfter openNames event)
      (0 + 0 + 2 + Text.byteLength content) 0 (rfl : rest.dropWhile _ = _)
  rw [← read] at events complete
  exact ⟨events.trans (congrArg _ laterEvents.symm), complete⟩

/-- What holds a faulty construct is not read to its end. -/
theorem not_isComplete_of_faulty
    {distance : Nat}
    {fault : ReaderFault}
    (result : readConstruct openNames behind = .faulty distance fault) :
    ¬(scanOnto [] openNames 0 ('<' :: behind)).IsComplete := by
  rw [scanOnto_of_bracket openNames [] 0 rfl, result]
  rintro ⟨position, broken⟩
  exact nomatch broken

end

end Markup

namespace Validation

open Markup (Event)

/-! ## Documents that pass their check -/

/-- The rest of a document passes its check, from a state on and with some tags
open. -/
def RestPasses
    (schema : Schema)
    (state : State)
    (openNames : List (List Char))
    (text : List Char) : Prop :=
  let scan := Markup.scanOnto [] openNames 0 text
  scan.IsComplete ∧ Runs schema state scan.eventList ⟨[], true⟩

section

variable
  {schema : Schema}
  {state next : State}
  {openNames : List (List Char)}
  {front behind content rest text : List Char}
  {event : Event}

/-- A construct passes if the text in front of it does, then the construct
itself, and then the rest. -/
theorem restPasses_append_bracket_iff
    (plain : '<' ∉ front)
    (result :
      Markup.readConstruct openNames behind = .read event content rest) :
    RestPasses schema state openNames (front ++ '<' :: behind) ↔
      (∀ raw ∈ Markup.leadingText front,
        TextPasses (textAllowed state.stack) (.characters raw)) ∧
        ∃ next,
          step schema state event = .ok next ∧
            RestPasses schema next (Markup.openAfter openNames event) rest := by
  obtain ⟨leading, sameEnding⟩ :=
    Markup.scanOnto_append_bracket openNames behind plain
  obtain ⟨events, laterEnding⟩ := Markup.scanOnto_of_read result
  unfold RestPasses
  dsimp only
  rw [leading, sameEnding, events, laterEnding, runs_leading_iff, runs_cons_iff]
  constructor
  · rintro ⟨complete, text, next, stepped, later⟩
    exact ⟨text, next, stepped, complete, later⟩
  · rintro ⟨text, next, stepped, complete, later⟩
    exact ⟨complete, text, next, stepped, later⟩

theorem not_restPasses_of_faulty
    {distance : Nat}
    {fault : Markup.ReaderFault}
    (plain : '<' ∉ front)
    (result :
      Markup.readConstruct openNames behind = .faulty distance fault) :
    ¬RestPasses schema state openNames (front ++ '<' :: behind) := by
  rintro ⟨complete, -⟩
  obtain ⟨-, sameEnding⟩ :=
    Markup.scanOnto_append_bracket openNames behind plain
  exact Markup.not_isComplete_of_faulty result (sameEnding.mp complete)

/-- What holds no bracket passes only behind the root. -/
theorem RestPasses.eq_of_not_mem_bracket
    (passes : RestPasses schema state openNames text)
    (plain : '<' ∉ text) :
    state = ⟨[], true⟩ := by
  obtain ⟨-, runs⟩ := passes
  rw [Markup.scanOnto_of_not_mem_bracket openNames plain,
    ← List.append_nil (List.map _ _)] at runs
  exact (runs_nil_iff.mp runs.behind_characters).symm

/-- Nothing is left to pass behind the root. -/
theorem restPasses_nil
    (schema : Schema)
    (openNames : List (List Char)) :
    RestPasses schema ⟨[], true⟩ openNames [] := by
  have nothing :
      Markup.scanOnto [] openNames 0 [] = ⟨[], .complete 0⟩ :=
    Markup.scanOnto_of_space openNames [] 0 rfl
  unfold RestPasses
  dsimp only
  rw [nothing]
  exact ⟨⟨0, rfl⟩, runs_nil_iff.mpr rfl⟩

theorem stripByteOrderMark_of_head?
    (unmarked : text.head? ≠ some '\uFEFF') :
    Content.stripByteOrderMark text = text := by
  unfold Content.stripByteOrderMark
  split
  · exact absurd rfl unmarked
  · rfl

theorem checkDocument_eq_ok_iff_restPasses (document : List Char) :
    checkDocument schema document = .ok () ↔
      RestPasses schema .initial []
        (Content.stripByteOrderMark document) := by
  rw [checkDocument_eq_ok_iff_runs, Markup.scan_eq_scanOnto]
  exact Iff.rfl

/-! ## In front of the end of the root -/

/-- A state in front of the end of the root has a frame for each open tag, and
has seen the root exactly if there is one. -/
structure BeforeRootEnd
    (state : State)
    (openNames : List (List Char)) : Prop where
  /-- There is a frame for each open tag. -/
  level : state.stack.length = openNames.length
  /-- The root was seen if a tag is open. -/
  seen : state.rootSeen = true ↔ openNames ≠ []

/-- The root was seen where an element is open. -/
theorem BeforeRootEnd.seen_of_frame
    {frame : Frame}
    {outer : List Frame}
    {seen : Bool}
    (before : BeforeRootEnd ⟨frame :: outer, seen⟩ openNames) :
    seen = true := by
  apply before.seen.mpr
  rintro rfl
  exact nomatch before.level

/-- An element that is entered is the root or within it. -/
theorem BeforeRootEnd.enter
    {entered : State}
    {name : String}
    (before : BeforeRootEnd state openNames)
    (entering : enter schema state name = .ok entered) :
    entered.rootSeen = true := by
  obtain ⟨stack, seen⟩ := state
  cases stack with
  | nil =>
      obtain ⟨-, -, rfl⟩ := enter_outside_eq_ok_iff.mp entering
      rfl
  | cons parent outer =>
      obtain ⟨_, -, -, rfl⟩ := enter_inside_eq_ok_iff.mp entering
      exact before.seen_of_frame

/-- A tag that is closed is the root or within it. -/
theorem BeforeRootEnd.close
    {name : List Char}
    (before : BeforeRootEnd state openNames)
    (stepped : step schema state (.closing name) = .ok next) :
    next.rootSeen = true := by
  obtain ⟨stack, seen⟩ := state
  cases stack with
  | nil => exact nomatch stepped
  | cons frame outer =>
      by_cases named : frame.name = String.ofList (Markup.localName name)
      · obtain ⟨-, rfl⟩ := (step_closing_eq_ok_iff named).mp stepped
        exact before.seen_of_frame
      · simp [step, named] at stepped

/-- A tag leads behind the root if it leaves no tag open, and stays in front of
its end otherwise. -/
theorem BeforeRootEnd.of_tag
    {names : List (List Char)}
    (level : next.stack.length = names.length)
    (seen : next.rootSeen = true) :
    if names.isEmpty then next = ⟨[], true⟩ else BeforeRootEnd next names := by
  cases names with
  | nil =>
      obtain ⟨stack, rootSeen⟩ := next
      have empty : stack = [] := List.eq_nil_of_length_eq_zero level
      rw [if_pos List.isEmpty_nil, empty, show rootSeen = true from seen]
  | cons name names =>
      exact ⟨level, iff_of_true seen (List.cons_ne_nil _ _)⟩

/-- One event leads behind the root if it ends it, and stays in front of its end
otherwise. -/
theorem BeforeRootEnd.step
    (before : BeforeRootEnd state openNames)
    (stepped : step schema state event = .ok next) :
    if Markup.endsRoot openNames event then next = ⟨[], true⟩
    else BeforeRootEnd next (Markup.openAfter openNames event) := by
  have level := step_stack_length stepped before.level
  cases event with
  | opening tag =>
      obtain ⟨entered, frame, opened, rfl⟩ := step_opening_eq_ok_iff.mp stepped
      have seen := before.enter (openElement_eq_ok_iff.mp opened).1
      exact BeforeRootEnd.of_tag level seen
  | selfClosing tag =>
      obtain ⟨frame, opened, -⟩ := step_selfClosing_eq_ok_iff.mp stepped
      have seen := before.enter (openElement_eq_ok_iff.mp opened).1
      exact BeforeRootEnd.of_tag level seen
  | closing name =>
      exact BeforeRootEnd.of_tag level (before.close stepped)
  | characters raw =>
      obtain ⟨-, rfl⟩ := step_characters_eq_ok_iff.mp stepped
      exact before
  | literal text =>
      obtain ⟨-, rfl⟩ := step_literal_eq_ok_iff.mp stepped
      exact before
  | doctype => exact nomatch stepped
  | ignored =>
      obtain rfl := step_ignored_eq_ok_iff.mp stepped
      exact before

/-- The text in front of the bracket that ends the root: the end is found there
whatever stands behind it, and the text passes with its bracket. -/
structure RootFront
    (schema : Schema)
    (state : State)
    (openNames : List (List Char))
    (front : List Char) : Prop where
  /-- The end is found whatever stands behind it. -/
  located :
    ∀ other,
      Markup.behindRoot? openNames (front ++ '>' :: other) = some other
  /-- Nothing has to stand behind it. -/
  passes : RestPasses schema state openNames (front ++ ['>'])

section

variable
  (plain : '<' ∉ front)
  (reads :
    ∀ other,
      Markup.readConstruct openNames (content ++ '>' :: other) =
        .read event content other)
  (data :
    ∀ raw ∈ Markup.leadingText front,
      TextPasses (textAllowed state.stack) (.characters raw))

include plain reads data

/-- The root ends with a construct that ends it. -/
theorem RootFront.of_ending
    (stepped : step schema state event = .ok ⟨[], true⟩)
    (ends : Markup.endsRoot openNames event = true) :
    RootFront schema state openNames (front ++ '<' :: content) where
  located := by
    intro other
    have found := Markup.behindRoot?_append_bracket plain (reads other)
    rw [if_pos ends] at found
    simpa using found
  passes := by
    have passed :=
      (restPasses_append_bracket_iff plain (reads [])).mpr
        ⟨data, _, stepped, restPasses_nil schema _⟩
    simpa using passed

/-- The root ends behind a construct that does not end it. -/
theorem RootFront.of_construct
    (stepped : step schema state event = .ok next)
    (goesOn : ¬Markup.endsRoot openNames event = true)
    {inside : List Char}
    (root : RootFront schema next (Markup.openAfter openNames event) inside) :
    RootFront schema state openNames
      (front ++ '<' :: (content ++ '>' :: inside)) where
  located := by
    intro other
    have found :=
      Markup.behindRoot?_append_bracket plain (reads (inside ++ '>' :: other))
    rw [if_neg goesOn, root.located] at found
    simpa using found
  passes := by
    have passed :=
      (restPasses_append_bracket_iff plain (reads (inside ++ ['>']))).mpr
        ⟨data, _, stepped, root.passes⟩
    simpa using passed

end

/-- What passes in front of the end of the root holds this end. -/
theorem RestPasses.exists_rootFront
    (passes : RestPasses schema state openNames text)
    (before : BeforeRootEnd state openNames) :
    ∃ front rest,
      text = front ++ '>' :: rest ∧ RootFront schema state openNames front := by
  -- Every construct shortens the text, so the induction is on its length.
  induction size : text.length using Nat.strongRecOn
    generalizing text state openNames with
  | _ length inductionHypothesis =>
  have split :
      text.takeWhile (· != '<') ++ text.dropWhile (· != '<') = text :=
    List.takeWhile_append_dropWhile
  have plain : '<' ∉ text.takeWhile (· != '<') := by
    intro bracket
    exact absurd (List.mem_takeWhile_imp bracket) (by decide)
  cases found : text.dropWhile (· != '<') with
  | nil =>
      rw [found, List.append_nil] at split
      rw [split] at plain
      obtain rfl := passes.eq_of_not_mem_bracket plain
      have empty := List.eq_nil_of_length_eq_zero before.level.symm
      exact absurd empty (before.seen.mp rfl)
  | cons bracket behind =>
      obtain rfl := Markup.eq_bracket_of_dropWhile found
      rw [found] at split
      generalize text.takeWhile (· != '<') = leading at split plain
      subst split
      cases result : Markup.readConstruct openNames behind with
      | faulty distance fault =>
          exact absurd passes (not_restPasses_of_faulty plain result)
      | read event content rest =>
          obtain ⟨rfl, reads⟩ := Markup.readConstruct_readsTo result
          obtain ⟨data, next, stepped, later⟩ :=
            (restPasses_append_bracket_iff plain result).mp passes
          have moved := before.step stepped
          split at moved
          · next ends =>
              subst moved
              exact ⟨leading ++ '<' :: content, rest, by simp,
                .of_ending plain reads data stepped ends⟩
          · next goesOn =>
              have shorter : rest.length < length := by
                subst size
                simp only [List.length_append, List.length_cons]
                omega
              obtain ⟨inside, behind, rfl, root⟩ :=
                inductionHypothesis _ shorter later moved rfl
              exact ⟨leading ++ '<' :: (content ++ '>' :: inside), behind,
                by simp, .of_construct plain reads data stepped goesOn root⟩

/-- A document that passes its check holds the end of its root, which is found
whatever stands behind it, and passes as far as it. -/
theorem exists_rootEnd_of_checkDocument
    {document : List Char}
    (passed : checkDocument schema document = .ok ()) :
    ∃ front rest,
      document = front ++ '>' :: rest ∧
        (∀ other,
          Markup.behindRoot? [] (front ++ '>' :: other) = some other) ∧
        checkDocument schema (front ++ ['>']) = .ok () := by
  have initial : BeforeRootEnd .initial [] := ⟨rfl, by decide⟩
  rw [checkDocument_eq_ok_iff_restPasses] at passed
  obtain ⟨front, rest, shape, located, sharp⟩ := passed.exists_rootFront initial
  by_cases marked : document.head? = some '\uFEFF'
  · obtain ⟨stripped, rfl⟩ := List.head?_eq_some_iff.mp marked
    refine ⟨'\uFEFF' :: front, rest, congrArg _ shape, ?_, ?_⟩
    · intro other
      have plain : '<' ∉ ['\uFEFF'] := by decide
      have skipped :
          Markup.behindRoot? [] (['\uFEFF'] ++ (front ++ '>' :: other)) =
            Markup.behindRoot? [] (front ++ '>' :: other) :=
        Markup.behindRoot?_append plain _
      exact skipped.trans (located other)
    · exact (checkDocument_eq_ok_iff_restPasses _).mpr sharp
  · rw [stripByteOrderMark_of_head? marked] at shape
    refine ⟨front, rest, shape, located, ?_⟩
    rw [shape, ← Markup.head?_of_content front rest []] at marked
    rw [checkDocument_eq_ok_iff_restPasses, stripByteOrderMark_of_head? marked]
    exact sharp

/-- A document that passes its check has an end of its root.  Cut off anywhere
in front of the bracket of this end, it does not pass; cut off behind it, it
does. -/
theorem checkDocument_truncated
    {document : List Char}
    (passed : checkDocument schema document = .ok ()) :
    ∃ front rest,
      Markup.behindRoot? [] document = some rest ∧
        document = front ++ '>' :: rest ∧
        (∀ cut,
          cut <+: front ->
            ∃ malformation,
              checkDocument schema cut = .error malformation) ∧
        checkDocument schema (front ++ ['>']) = .ok () := by
  obtain ⟨front, rest, rfl, located, sharp⟩ :=
    exists_rootEnd_of_checkDocument passed
  refine ⟨front, rest, located rest, rfl, ?_, sharp⟩
  intro cut inFront
  cases checked : checkDocument schema cut with
  | error malformation => exact ⟨malformation, rfl⟩
  | ok done =>
      -- The end of the root that the cut would hold is that of the document.
      obtain ⟨cutFront, cutRest, rfl, cutLocated, -⟩ :=
        exists_rootEnd_of_checkDocument checked
      obtain ⟨behind, rfl⟩ := inFront
      have same := located rest
      rw [List.append_assoc, List.append_assoc, List.cons_append,
        cutLocated] at same
      have lengths := congrArg List.length (Option.some.inj same)
      simp only [List.length_append, List.length_cons] at lengths
      omega

end

/-- A schema of text with any attributes. -/
def textSchema : Schema :=
  ⟨"result", "document",
    .ofList [("document", { text := true, openAttributes := true })]⟩

/-- A text whose last bracket does not end its root, and whose root could be
taken to end before. -/
def commentedText : List Char :=
  ("<document note='</document>'><![CDATA[</document>]]></document >" ++
    "<!-- -->").toList

/-- The root ends in front of the comment. -/
theorem checkDocument_truncated_commentedText :
    checkDocument textSchema commentedText = .ok () ∧
      ∃ front,
        commentedText = front ++ '>' :: "<!-- -->".toList ∧
          (∀ cut,
            cut <+: front ->
              ∃ malformation,
                checkDocument textSchema cut = .error malformation) ∧
          checkDocument textSchema (front ++ ['>']) = .ok () := by
  have passed : checkDocument textSchema commentedText = .ok () := by
    decide +kernel
  have ends :
      Markup.behindRoot? [] commentedText = some "<!-- -->".toList := by
    decide +kernel
  obtain ⟨front, rest, located, shape, cuts, sharp⟩ :=
    checkDocument_truncated passed
  cases ends.symm.trans located
  exact ⟨passed, front, shape, cuts, sharp⟩

end Validation
end FieldOcr
