import FieldOcr.Text.Blank
import Mathlib.Data.List.DropRight

/-!
# Trimmed texts

A text is trimmed at both ends alike: what is dropped stands in front of what is
kept and behind it, and nothing between is lost.
-/

namespace FieldOcr
namespace Text

section

variable {test : Char -> Bool}

/-- What only extends a text by characters that are dropped changes nothing. -/
theorem dropWhileEnd_append_of_forall
    {text trailing : List Char}
    (dropped : ∀ character ∈ trailing, test character = true) :
    dropWhileEnd test (text ++ trailing) = dropWhileEnd test text := by
  unfold dropWhileEnd
  rw [List.reverse_append, List.dropWhile_append_of_pos]
  exact fun character member =>
    dropped character (List.mem_reverse.mp member)

/-- The end of a text from which nothing is dropped keeps all of it as
well. -/
theorem dropWhileEnd_of_append
    {front behind : List Char}
    (nonempty : behind ≠ [])
    (kept : dropWhileEnd test (front ++ behind) = front ++ behind) :
    dropWhileEnd test behind = behind := by
  change List.rdropWhile test _ = _ at kept
  change List.rdropWhile test _ = _
  rw [List.rdropWhile_eq_self_iff] at kept ⊢
  intro _
  have last := kept (List.append_ne_nil_of_right_ne_nil front nonempty)
  rwa [List.getLast_append_of_ne_nil _ nonempty] at last

/-- Nothing is dropped from a text whose last character is kept. -/
theorem dropWhileEnd_concat
    {text : List Char}
    {last : Char}
    (kept : test last = false) :
    dropWhileEnd test (text ++ [last]) = text ++ [last] := by
  simp [dropWhileEnd, kept]

/-- Text between characters that are dropped is trimmed as it is alone. -/
theorem trimWhile_between
    {leading trailing : List Char}
    (core : List Char)
    (leads : ∀ character ∈ leading, test character = true)
    (trails : ∀ character ∈ trailing, test character = true) :
    trimWhile test (leading ++ core ++ trailing) = trimWhile test core := by
  have nothing : trailing.dropWhile test = [] :=
    List.dropWhile_eq_nil_iff.mpr trails
  unfold trimWhile
  rw [List.append_assoc, List.dropWhile_append_of_pos leads,
    List.dropWhile_append]
  split
  · next empty =>
      rw [nothing, List.isEmpty_iff.mp empty]
  · exact dropWhileEnd_append_of_forall trails

/-- A text is what is dropped in front, what is kept, and what is dropped
behind. -/
theorem trimWhile_parts (test : Char -> Bool) (text : List Char) :
    text =
      text.takeWhile test ++ trimWhile test text ++
        (text.dropWhile test).rtakeWhile test := by
  rw [List.append_assoc]
  change text = _ ++ (List.rdropWhile test _ ++ _)
  rw [List.rdropWhile_append_rtakeWhile, List.takeWhile_append_dropWhile]

/-- A text stands between what is dropped from it. -/
theorem trimWhile_split (test : Char -> Bool) (text : List Char) :
    ∃ leading trailing,
      text = leading ++ trimWhile test text ++ trailing ∧
        (∀ character ∈ leading, test character = true) ∧
        (∀ character ∈ trailing, test character = true) ∧
        dropWhileEnd test (trimWhile test text) = trimWhile test text := by
  refine ⟨_, _, trimWhile_parts test text, ?_, ?_, ?_⟩
  · exact fun _ => List.mem_takeWhile_imp
  · exact fun _ => List.mem_rtakeWhile_imp
  · exact List.rdropWhile_idempotent _ _

/-- Nothing is left exactly of a text whose characters are all dropped. -/
theorem trimWhile_eq_nil_iff {text : List Char} :
    trimWhile test text = [] ↔ text.all test = true := by
  rw [List.all_eq_true]
  constructor
  · intro nothing
    obtain ⟨leading, trailing, split, leads, trails, -⟩ :=
      trimWhile_split test text
    rw [nothing, List.append_nil] at split
    rw [split]
    exact List.forall_mem_append.mpr ⟨leads, trails⟩
  · intro all
    rw [trimWhile, List.dropWhile_eq_nil_iff.mpr all]
    rfl

end

/-- A trimmed text stands between blank characters, and ends with none. -/
theorem trim_split (text : List Char) :
    ∃ leading trailing,
      text = leading ++ trim text ++ trailing ∧
        (∀ character ∈ leading, isBlank character = true) ∧
        (∀ character ∈ trailing, isBlank character = true) ∧
        dropWhileEnd isBlank (trim text) = trim text :=
  trimWhile_split isBlank text

/-- Nothing is left of a text that is blank, and only of such a text. -/
theorem trim_eq_nil_iff {text : List Char} :
    trim text = [] ↔ allBlank text = true :=
  trimWhile_eq_nil_iff

/-- Nothing is trimmed from a text with visible characters at its ends. -/
theorem trim_of_visible_ends
    {text : List Char}
    (first : ∀ character ∈ text.head?, isBlank character = false)
    (last : ∀ character ∈ text.getLast?, isBlank character = false) :
    trim text = text := by
  have front : text.dropWhile isBlank = text := by
    cases text with
    | nil => rfl
    | cons character text =>
        exact List.dropWhile_cons_of_neg
          (Bool.eq_false_iff.mp (first character rfl))
  rw [trim, trimWhile, front]
  obtain rfl | ⟨behind, character, rfl⟩ := List.eq_nil_or_concat text
  · rfl
  · rw [List.concat_eq_append] at last ⊢
    exact dropWhileEnd_concat (last character List.getLast?_concat)

/-- Markup space is blank. -/
theorem isBlank_of_isMarkupSpace
    {character : Char}
    (space : isMarkupSpace character = true) :
    isBlank character = true := by
  simp only [isMarkupSpace, Bool.or_eq_true, beq_iff_eq] at space
  rcases space with ((rfl | rfl) | rfl) | rfl <;> rfl

end Text
end FieldOcr
