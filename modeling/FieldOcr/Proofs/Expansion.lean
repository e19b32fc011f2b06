import FieldOcr.Proofs.ReferenceGrammar

/-!
# What a text with references stands for

A text stands for itself with each reference replaced by its character.  This
is what its expansion gives, so that a text whose parts can be expanded stands
for their expansions one behind the other.
-/

namespace FieldOcr
namespace Markup

/-- A text stands for another one if replacing each of its references by the
character that it denotes gives that text. -/
inductive StandsFor : List Char -> List Char -> Prop
  | nil : StandsFor [] []
  | plain
      {character : Char}
      {rest shown : List Char}
      (ordinary : character ≠ '&')
      (behind : StandsFor rest shown) :
      StandsFor (character :: rest) (character :: shown)
  | reference
      {body rest shown : List Char}
      {character : Char}
      (unmarked : Unmarked body)
      (denoted : resolve 0 body = .ok character)
      (behind : StandsFor rest shown) :
      StandsFor ('&' :: (body ++ ';' :: rest)) (character :: shown)

/-- A reference denotes the same character wherever it stands. -/
theorem resolve_eq_ok_iff
    {start other : Nat}
    {body : List Char}
    {character : Char} :
    resolve start body = .ok character ↔ resolve other body = .ok character := by
  unfold resolve
  split
  · exact Iff.rfl
  · split
    · exact Iff.rfl
    · exact iff_of_false (by simp) (by simp)

/-- A text without marks is cut at the semicolon behind it. -/
theorem splitAtMark_of_unmarked
    {body : List Char}
    (unmarked : Unmarked body)
    (rest : List Char) :
    splitAtMark [] (body ++ ';' :: rest) = (body, some (';', rest)) := by
  rcases splitAtMark_cases [] (body ++ ';' :: rest) with
    ⟨marked, -⟩ | ⟨before, mark, behind, same, ordinary, known, cut⟩
  · exact absurd (List.mem_append_right _ List.mem_cons_self) marked.2
  · obtain ⟨rfl, rfl, rfl⟩ :=
      first_mark_unique unmarked ordinary (Or.inr rfl) known same
    exact cut

theorem expandOnto_reference
    {body : List Char}
    {character : Char}
    (unmarked : Unmarked body)
    (denoted : resolve 0 body = .ok character)
    (total offset : Nat)
    (expanded rest : List Char) :
    expandOnto total offset expanded ('&' :: (body ++ ';' :: rest)) =
      expandOnto total (offset + 2 + Text.byteLength body)
        (character :: expanded) rest := by
  have cut := splitAtMark_of_unmarked unmarked rest
  have resolved : resolve (offset + 1) body = .ok character :=
    resolve_eq_ok_iff.mp denoted
  rw [expandOnto]
  split
  · next same =>
      cases cut.symm.trans same
      rw [resolved]
  · next uncut => exact absurd cut (uncut body rest)

/-- What a text is expanded to onto other text is what it stands for. -/
theorem expandOnto_eq_ok_iff
    {total offset : Nat}
    {expanded text result : List Char} :
    expandOnto total offset expanded text = .ok result ↔
      ∃ shown, StandsFor text shown ∧ result = expanded.reverse ++ shown := by
  constructor
  · intro read
    fun_induction expandOnto total offset expanded text with
    | case1 =>
        cases read
        exact ⟨[], .nil, (List.append_nil _).symm⟩
    | case2 => cases read
    | case3 =>
        rename_i cut _ resolved inductionHypothesis
        obtain ⟨rfl, unmarked⟩ := eq_of_splitAtMark cut
        obtain ⟨shown, behind, same⟩ := inductionHypothesis read
        refine ⟨_, .reference unmarked (resolve_eq_ok_iff.mp resolved) behind,
          ?_⟩
        rw [same, List.reverse_cons, List.append_assoc]
        rfl
    | case4 => cases read
    | case5 =>
        rename_i ordinary inductionHypothesis
        obtain ⟨shown, behind, same⟩ := inductionHypothesis read
        refine ⟨_, .plain ordinary behind, ?_⟩
        rw [same, List.reverse_cons, List.append_assoc]
        rfl
  · rintro ⟨shown, stands, rfl⟩
    induction stands generalizing offset expanded with
    | nil => rw [expandOnto, List.append_nil]
    | plain ordinary _ inductionHypothesis =>
        rw [expandOnto, inductionHypothesis, List.reverse_cons,
          List.append_assoc]
        · rfl
        · exact ordinary
    | reference unmarked denoted _ inductionHypothesis =>
        rw [expandOnto_reference unmarked denoted, inductionHypothesis,
          List.reverse_cons, List.append_assoc]
        rfl

/-- A text is expanded to what it stands for. -/
theorem expand_eq_ok_iff {text shown : List Char} :
    expand text = .ok shown ↔ StandsFor text shown := by
  rw [expand, expandOnto_eq_ok_iff]
  constructor
  · rintro ⟨_, stands, rfl⟩
    exact stands
  · exact fun stands => ⟨shown, stands, rfl⟩

namespace StandsFor

variable {first second text firstShown secondShown shown : List Char}

/-- A text stands for one text at most. -/
theorem unique
    (firstStands : StandsFor text firstShown)
    (secondStands : StandsFor text secondShown) :
    firstShown = secondShown := by
  rw [← expand_eq_ok_iff] at firstStands secondStands
  exact Except.ok.inj (firstStands.symm.trans secondStands)

/-- Texts one behind the other stand for what each of them stands for. -/
theorem append
    (firstStands : StandsFor first firstShown)
    (secondStands : StandsFor second secondShown) :
    StandsFor (first ++ second) (firstShown ++ secondShown) := by
  induction firstStands with
  | nil => exact secondStands
  | plain ordinary _ inductionHypothesis =>
      exact .plain ordinary inductionHypothesis
  | reference unmarked denoted _ inductionHypothesis =>
      rw [List.cons_append, List.append_assoc]
      exact .reference unmarked denoted inductionHypothesis

/-- A text without ampersands stands for itself. -/
theorem refl (ordinary : '&' ∉ text) : StandsFor text text := by
  induction text with
  | nil => exact .nil
  | cons character text inductionHypothesis =>
      rw [List.mem_cons, not_or] at ordinary
      exact .plain (Ne.symm ordinary.1) (inductionHypothesis ordinary.2)

/-- A text in front of one without marks can be expanded if both together
can. -/
theorem exists_of_append
    (stands : StandsFor (first ++ second) shown)
    (unmarked : Unmarked second) :
    ∃ firstShown, StandsFor first firstShown ∧ shown = firstShown ++ second := by
  have referenced : WellReferenced (first ++ second) :=
    exists_expand_iff.mp ⟨shown, expand_eq_ok_iff.mpr stands⟩
  have kept : WellReferenced first := by
    rintro front behind rfl
    obtain ⟨body, rest, whole, reference⟩ :=
      referenced front (behind ++ second) (by simp)
    -- The semicolon of the reference is not in the second text.
    rcases List.append_eq_append_iff.mp whole with
      ⟨between, -, within⟩ | ⟨between, rfl, within⟩
    · rw [within] at unmarked
      exact absurd (List.mem_append_right _ List.mem_cons_self) unmarked.2
    · cases between with
      | nil =>
          rw [List.nil_append] at within
          rw [← within] at unmarked
          exact absurd List.mem_cons_self unmarked.2
      | cons mark more =>
          obtain ⟨rfl, -⟩ := List.cons.inj within
          exact ⟨body, more, rfl, reference⟩
  obtain ⟨firstShown, expanded⟩ := exists_expand_iff.mpr kept
  have firstStands := expand_eq_ok_iff.mp expanded
  exact ⟨firstShown, firstStands,
    stands.unique (firstStands.append (refl unmarked.1))⟩

end StandsFor

end Markup
end FieldOcr
