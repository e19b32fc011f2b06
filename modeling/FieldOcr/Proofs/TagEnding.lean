import FieldOcr.Proofs.Truncation
import Mathlib.Data.List.Basic

/-!
# How tags end

A tag ends at a bracket, with a slash in front of it or without one.  A text
that is a tag and does not end in a slash is the same tag with either ending.
The text of a tag whose attributes can all be read ends in no slash, unless the
name of the tag does.
-/

namespace FieldOcr
namespace Markup

/-! ## Both forms of a tag -/

/-- What may end a tag. -/
def tagEndings : List (List Char) :=
  [['>'], ['/', '>']]

/-- The tag that an event opens. -/
def Event.tag? : Event -> Option Tag
  | .opening tag | .selfClosing tag => some tag
  | _ => none

/-- A character that keeps the state of a split may stand in front of its
bracket, or be missing there.  `Met` holds of the states that are met. -/
theorem splitAtBracket_append_kept_iff
    (Met : σ -> Prop)
    {step : σ -> Char -> σ}
    {accepts : σ -> Bool}
    {state : σ}
    {kept : Char}
    {taken text rest : List Char}
    (keeps : ∀ state, Met state -> step state kept = state)
    (stays : ∀ state character, Met state -> Met (step state character))
    (plain : kept ≠ '>')
    (met : Met state) :
    splitAtBracket step accepts state taken (text ++ kept :: '>' :: rest) =
        some (taken.reverse ++ (text ++ [kept]), rest) ↔
      splitAtBracket step accepts state taken (text ++ '>' :: rest) =
        some (taken.reverse ++ text, rest) := by
  -- A split leaves less than it was given.
  have shorter {state : σ} {taken before : List Char} :
      splitAtBracket step accepts state taken rest ≠ some (before, rest) :=
    fun split => Nat.lt_irrefl _ (splitAtBracket_length_lt split)
  induction text generalizing state taken with
  | nil =>
      simp only [List.nil_append, splitAtBracket, keeps state met]
      by_cases accepted : accepts state = true
      · simp [accepted, plain]
      · simp [accepted, shorter]
  | cons character text inductionHypothesis =>
      simp only [List.cons_append, splitAtBracket]
      split
      · simp
      · have further :=
          @inductionHypothesis (step state character) (character :: taken)
            (stays state character met)
        simpa using further

/-- A slash in front of the bracket of a tag belongs to its text. -/
theorem splitTag_append_slash_iff {text rest : List Char} :
    splitTag (text ++ '/' :: '>' :: rest) = some (text ++ ['/'], rest) ↔
      splitTag (text ++ '>' :: rest) = some (text, rest) := by
  refine splitAtBracket_append_kept_iff (· ≠ some '/') ?_ ?_ ?_ ?_
  · rintro (_ | quote) unslashed
    · rfl
    · have differs : '/' ≠ quote := by
        rintro rfl
        exact unslashed rfl
      simp [differs]
  · rintro (_ | quote) character unslashed
    · dsimp only
      split
      · next quoted =>
          rintro ⟨⟩
          exact absurd quoted (by decide)
      · exact nofun
    · dsimp only
      split
      · exact nofun
      · exact unslashed
  · decide
  · exact nofun

theorem readDeclaration_tag?
    {text content rest : List Char}
    {event : Event}
    (result : readDeclaration text = .read event content rest) :
    event.tag? = none := by
  unfold readDeclaration at result
  repeat' split at result
  all_goals cases result
  all_goals rfl

/-- Only a text that starts with none of three characters opens a tag. -/
theorem readConstruct_opens
    {names : List (List Char)}
    {text content rest : List Char}
    {event : Event}
    {tag : Tag}
    (result : readConstruct names text = .read event content rest)
    (opens : event.tag? = some tag) :
    readOpening text = .read event content rest ∧
      ∀ first ∈ text.head?, first ∉ ['!', '?', '/'] := by
  unfold readConstruct at result
  split at result
  · exact nomatch opens.symm.trans (readDeclaration_tag? result)
  · exact nomatch result
  · split at result
    · cases result
      exact nomatch opens
    · exact nomatch result
  · unfold readClosing at result
    dsimp only at result
    repeat' split at result
    all_goals cases result
    exact nomatch opens
  · next declaration _ instruction closing =>
      refine ⟨result, ?_⟩
      intro first head marked
      obtain ⟨more, rfl⟩ := List.head?_eq_some_iff.mp head
      simp only [List.mem_cons, List.not_mem_nil, or_false] at marked
      rcases marked with rfl | rfl | rfl
      · exact declaration _ rfl
      · exact instruction _ rfl
      · exact closing _ rfl

/-- A tag that is opened is the text of the tag with one of the endings. -/
theorem readOpening_ending
    {text content rest : List Char}
    {event : Event}
    {tag : Tag}
    (result : readOpening text = .read event content rest)
    (opens : event.tag? = some tag) :
    ∃ inside, ∃ ending ∈ tagEndings,
      Tag.ofText inside = tag ∧
        content ++ ['>'] = inside ++ ending ∧
        splitTag (inside ++ '>' :: rest) = some (inside, rest) := by
  obtain ⟨shape, -⟩ := readOpening_readsTo result
  unfold readOpening at result
  split at result
  · exact nomatch result
  · next split =>
      rw [shape] at split
      split at result
      · next slash =>
          cases result
          cases opens
          obtain ⟨inside, rfl⟩ :=
            List.getLast?_eq_some_iff.mp (eq_of_beq slash)
          rw [List.append_assoc] at split
          rw [List.dropLast_concat]
          exact ⟨inside, ['/', '>'], by decide, rfl, by simp,
            splitTag_append_slash_iff.mp split⟩
      · cases result
        cases opens
        exact ⟨content, ['>'], by decide, rfl, rfl, split⟩

theorem readOpening_of_unslashed
    {text content rest : List Char}
    (split : splitTag text = some (content, rest))
    (unslashed : content.getLast? ≠ some '/') :
    readOpening text = .read (.opening (Tag.ofText content)) content rest := by
  rw [readOpening, split]
  exact if_neg (by simpa using unslashed)

theorem readOpening_of_slash
    {text content rest : List Char}
    (split : splitTag text = some (content ++ ['/'], rest)) :
    readOpening text =
      .read (.selfClosing (Tag.ofText content)) (content ++ ['/']) rest := by
  rw [readOpening, split]
  simp

/-- The text of a tag that does not end in a slash is read with either
ending. -/
theorem readConstruct_tagEnding
    {names : List (List Char)}
    {text rest ending : List Char}
    (filled : text ≠ [])
    (plain : ∀ first ∈ text.head?, first ∉ ['!', '?', '/'])
    (split : splitTag (text ++ '>' :: rest) = some (text, rest))
    (unslashed : text.getLast? ≠ some '/')
    (ends : ending ∈ tagEndings)
    (other : List Char) :
    ∃ event content,
      event.tag? = some (Tag.ofText text) ∧
        readConstruct names (text ++ (ending ++ other)) =
          .read event content other := by
  have bare : splitTag (text ++ '>' :: other) = some (text, other) :=
    (splitAtBracket_delimits _ _ _ split).2 other
  have opening (behind : List Char) :
      readConstruct names (text ++ behind) = readOpening (text ++ behind) := by
    apply readConstruct_opening
    rw [List.head?_append_of_ne_nil _ filled]
    exact plain
  rw [tagEndings, List.mem_pair] at ends
  rcases ends with rfl | rfl
  · refine ⟨.opening (Tag.ofText text), text, rfl, ?_⟩
    exact (opening _).trans (readOpening_of_unslashed bare unslashed)
  · refine ⟨.selfClosing (Tag.ofText text), text ++ ['/'], rfl, ?_⟩
    exact (opening _).trans
      (readOpening_of_slash (splitTag_append_slash_iff.mpr bare))

/-! ## How a readable tag ends -/

/-- A value that is read ends at a quote. -/
theorem readValue_quoted
    {position stop : Nat}
    {text value rest : List Char}
    (result : readValue position text = .ok (value, stop, rest)) :
    ∃ quote ∈ ['"', '\''], quote :: rest <:+ text := by
  unfold readValue skipSpace at result
  split at result
  · exact nomatch result
  · next quote afterQuote shape =>
      obtain ⟨-, shape⟩ := Prod.mk.inj shape
      have opened := List.dropWhile_suffix Text.isMarkupSpace (l := text)
      rw [shape] at opened
      split at result
      · next quoted =>
          dsimp only at result
          split at result
          · exact nomatch result
          · next closing remaining found =>
              have closed :=
                List.dropWhile_suffix (· != quote) (l := afterQuote)
              have same := List.head?_dropWhile_not (· != quote) afterQuote
              rw [found] at closed same
              obtain rfl : closing = quote := by simpa using same
              simp only [Except.ok.injEq, Prod.mk.injEq] at result
              rw [← result.2.2]
              refine ⟨closing, by simpa using quoted, ?_⟩
              exact closed.trans ((List.suffix_cons _ _).trans opened)
      · exact nomatch result

theorem readEquals_suffix
    {position stop : Nat}
    {text rest : List Char}
    (result : readEquals position text = .ok (stop, rest)) :
    rest <:+ text := by
  unfold readEquals skipSpace at result
  split at result
  · next behind shape =>
      obtain ⟨-, shape⟩ := Prod.mk.inj shape
      have skipped := List.dropWhile_suffix Text.isMarkupSpace (l := text)
      simp only [Except.ok.injEq, Prod.mk.injEq] at result
      rw [shape, result.2] at skipped
      exact (List.suffix_cons _ _).trans skipped
  · exact nomatch result

theorem splitName_suffix (text : List Char) :
    (splitName text).2 <:+ text := by
  cases text with
  | nil => exact List.suffix_rfl
  | cons first rest =>
      exact (List.dropWhile_suffix _).trans (List.suffix_cons _ _)

/-- An attribute that is found ends at a quote. -/
theorem readAttribute_quoted
    {known : List (List Char × Nat)}
    {position start stop : Nat}
    {text rest : List Char}
    {attr : Attribute}
    (result :
      readAttribute known position text = .found attr start stop rest) :
    ∃ quote ∈ ['"', '\''], quote :: rest <:+ text := by
  unfold readAttribute skipSpace at result
  split at result
  · exact nomatch result
  · next first behind shape =>
      obtain ⟨-, shape⟩ := Prod.mk.inj shape
      have skipped := List.dropWhile_suffix Text.isMarkupSpace (l := text)
      rw [shape] at skipped
      dsimp only at result
      split at result
      · exact nomatch result
      · next equals =>
          split at result
          · exact nomatch result
          · split at result
            · exact nomatch result
            · next value =>
                simp only [AttributeStep.found.injEq] at result
                obtain ⟨quote, quoted, closed⟩ := readValue_quoted value
                rw [result.2.2.2] at closed
                refine ⟨quote, quoted, closed.trans ?_⟩
                exact (readEquals_suffix equals).trans
                  ((splitName_suffix _).trans skipped)

/-- Nothing but white space is left where no attribute is found. -/
theorem isMarkupSpace_of_readAttribute
    {known : List (List Char × Nat)}
    {position : Nat}
    {text : List Char}
    (result : readAttribute known position text = .finished) :
    ∀ character ∈ text, Text.isMarkupSpace character = true := by
  unfold readAttribute skipSpace at result
  split at result
  · next shape =>
      exact List.dropWhile_eq_nil_iff.mp (Prod.mk.inj shape).2
  · dsimp only at result
    repeat' split at result
    all_goals exact nomatch result

/-- Attributes that can all be read end at a quote or at white space. -/
theorem getLast?_of_readAttributes
    {known : List (List Char × Nat)}
    {position : Nat}
    {text : List Char}
    (readable : (readAttributes known position text).2 = none) :
    text.getLast? ≠ some '/' := by
  fun_induction readAttributes known position text with
  | case1 =>
      rename_i finished
      intro last
      have space :=
        isMarkupSpace_of_readAttribute finished _ (List.mem_of_getLast? last)
      exact absurd space (by decide)
  | case2 => exact absurd readable (Option.some_ne_none _)
  | case3 =>
      rename_i rest found _ _ read inductionHypothesis
      rw [read] at inductionHypothesis
      obtain ⟨quote, quoted, front, rfl⟩ := readAttribute_quoted found
      rw [List.getLast?_append_cons]
      cases rest with
      | nil =>
          rintro ⟨⟩
          exact absurd quoted (by decide)
      | cons first rest =>
          rw [List.getLast?_cons_cons]
          exact inductionHypothesis readable

theorem localName_suffix (name : List Char) :
    localName name <:+ name := by
  unfold localName
  split
  · exact List.suffix_rfl
  · next shape =>
      have found := List.dropWhile_suffix (· != ':') (l := name)
      rw [shape] at found
      exact (List.suffix_cons _ _).trans found

/-- The text of a tag is its name and what stands behind it. -/
theorem Tag.name_append_body (text : List Char) :
    (Tag.ofText text).name ++ (Tag.ofText text).body = text :=
  List.takeWhile_append_dropWhile

end Markup
end FieldOcr
