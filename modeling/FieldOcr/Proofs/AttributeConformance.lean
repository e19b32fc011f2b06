import FieldOcr.Validation.Document

/-!
# Conforming attributes

The attributes of a tag pass their check exactly if they can all be read, no
name occurs twice, each one that binds no namespace has a value that its
element allows, and none that is required is missing.
-/

namespace FieldOcr
namespace Markup

/-- The name of an attribute without its prefix. -/
def Attribute.key (attr : Attribute) : String :=
  String.ofList (localName attr.name)

/-- An attribute that is found has a name that was not read before. -/
theorem readAttribute_fresh
    {known : List (List Char × Nat)}
    {position start stop : Nat}
    {text rest : List Char}
    {attr : Attribute}
    (result :
      readAttribute known position text = .found attr start stop rest) :
    ∀ entry ∈ known, entry.1 ≠ attr.name := by
  unfold readAttribute at result
  split at result
  · exact nomatch result
  · dsimp only at result
    split at result
    · exact nomatch result
    · split at result
      · exact nomatch result
      · next unknown =>
          split at result
          · exact nomatch result
          · simp only [AttributeStep.found.injEq] at result
            intro entry present same
            have differs := List.find?_eq_none.mp unknown entry present
            rw [same, ← result.1] at differs
            exact differs (beq_self_eq_true _)

/-- Attributes that are read have names that differ from each other and from
those read before. -/
theorem readAttributes_fresh
    (known : List (List Char × Nat))
    (position : Nat)
    (text : List Char) :
    ((readAttributes known position text).1.map (·.name)).Nodup ∧
      ∀ attr ∈ (readAttributes known position text).1,
        ∀ entry ∈ known, entry.1 ≠ attr.name := by
  fun_induction readAttributes known position text with
  | case1 | case2 => exact ⟨List.nodup_nil, nofun⟩
  | case3 =>
      rename_i known _ _ attr start _ _ result attributes _ read
        inductionHypothesis
      rw [read] at inductionHypothesis
      obtain ⟨distinct, fresh⟩ := inductionHypothesis
      constructor
      · rw [List.map_cons, List.nodup_cons]
        refine ⟨?_, distinct⟩
        intro again
        obtain ⟨other, present, same⟩ := List.mem_map.mp again
        exact fresh other present _ (List.mem_cons_self ..) same.symm
      · intro other present entry before
        rcases List.mem_cons.mp present with rfl | later
        · exact readAttribute_fresh result entry before
        · exact fresh other later entry (List.mem_cons_of_mem _ before)

/-- The attributes of a tag have different names. -/
theorem Tag.attributes_nodup (tag : Tag) :
    (tag.attributes.1.map (·.name)).Nodup :=
  (readAttributes_fresh ..).1

end Markup

namespace Validation

open Schema (AttributeRule ElementRule)

/-- An element allows an attribute with a value: it has a rule for it whose
type accepts the value, or no rule but open attributes. -/
def AllowsAttribute
    (rule : ElementRule)
    (key : String)
    (value : List Char) : Prop :=
  (∃ expected,
    rule.attributes.get? key = some expected ∧
      expected.type.accepts value = true) ∨
  (rule.attributes.get? key = none ∧ rule.openAttributes = true)

/-- The attributes of a tag conform to the rule of its element. -/
structure AttributesConform (rule : ElementRule) (tag : Markup.Tag) : Prop where
  /-- All attributes can be read. -/
  readable : tag.attributes.2 = none
  /-- No name occurs twice. -/
  distinct : (tag.attributes.1.map (·.name)).Nodup
  /-- Each attribute that binds no namespace expands to an allowed value. -/
  allowed :
    ∀ attr ∈ tag.attributes.1,
      Markup.bindsNamespace attr.name = false ->
        ∃ value,
          Markup.expand attr.value = .ok value ∧
            AllowsAttribute rule attr.key value
  /-- Each required attribute is present. -/
  present :
    ∀ entry ∈ rule.attributes.entries,
      entry.2.required = true ->
        ∃ attr ∈ tag.attributes.1,
          Markup.bindsNamespace attr.name = false ∧ attr.key = entry.1

theorem checkAttribute_eq_ok_iff
    {element : String}
    {rule : ElementRule}
    {attr : Markup.Attribute} :
    checkAttribute element rule attr = .ok () ↔
      ∃ value,
        Markup.expand attr.value = .ok value ∧
          AllowsAttribute rule attr.key value := by
  unfold checkAttribute AllowsAttribute Markup.Attribute.key
  cases Markup.expand attr.value with
  | error fault => simp
  | ok value =>
      simp only [Except.ok.injEq, exists_eq_left']
      cases rule.attributes.get?
        (String.ofList (Markup.localName attr.name)) with
      | none => by_cases open_ : rule.openAttributes = true <;> simp [open_]
      | some expected =>
          by_cases accepted : expected.type.accepts value = true <;>
            simp [accepted]

/-- A check passes all entries of a list exactly if it passes each. -/
theorem forM_eq_ok_iff
    {α ε : Type}
    {check : α -> Except ε Unit}
    {entries : List α} :
    entries.forM check = .ok () ↔
      ∀ entry ∈ entries, check entry = .ok () := by
  induction entries with
  | nil => simp [pure, Except.pure]
  | cons entry entries inductionHypothesis =>
      rw [List.forM, List.forall_mem_cons, ← inductionHypothesis]
      cases check entry with
      | error fault => simp [bind, Except.bind]
      | ok done => simp [bind, Except.bind]

theorem mem_ordinary_iff
    {attributes : List Markup.Attribute}
    {attr : Markup.Attribute} :
    attr ∈ ordinary attributes ↔
      attr ∈ attributes ∧ Markup.bindsNamespace attr.name = false := by
  simp [ordinary]

theorem missingAttribute?_eq_none_iff
    {rule : ElementRule}
    {present : List String} :
    missingAttribute? rule present = none ↔
      ∀ entry ∈ rule.attributes.entries,
        entry.2.required = true -> entry.1 ∈ present := by
  simp [missingAttribute?]

/-- Attributes pass their check exactly if they conform. -/
theorem checkAttributes_eq_ok_iff
    {element : String}
    {rule : ElementRule}
    {tag : Markup.Tag} :
    checkAttributes element rule tag = .ok () ↔
      AttributesConform rule tag := by
  have each :
      (ordinary tag.attributes.1).forM (checkAttribute element rule) =
          .ok () ↔
        ∀ attr ∈ tag.attributes.1,
          Markup.bindsNamespace attr.name = false ->
            ∃ value,
              Markup.expand attr.value = .ok value ∧
                AllowsAttribute rule attr.key value := by
    simp only [forM_eq_ok_iff, mem_ordinary_iff, checkAttribute_eq_ok_iff,
      and_imp]
  have all :
      missingAttribute? rule
          ((ordinary tag.attributes.1).map Markup.Attribute.key) = none ↔
        ∀ entry ∈ rule.attributes.entries,
          entry.2.required = true ->
            ∃ attr ∈ tag.attributes.1,
              Markup.bindsNamespace attr.name = false ∧
                attr.key = entry.1 := by
    simp only [missingAttribute?_eq_none_iff, List.mem_map, mem_ordinary_iff,
      and_assoc]
  have conforms :
      AttributesConform rule tag ↔
        (ordinary tag.attributes.1).forM (checkAttribute element rule) =
            .ok () ∧
          tag.attributes.2 = none ∧
          missingAttribute? rule
            ((ordinary tag.attributes.1).map Markup.Attribute.key) = none := by
    rw [each, all]
    exact ⟨fun ⟨readable, _, allowed, present⟩ => ⟨allowed, readable, present⟩,
      fun ⟨allowed, readable, present⟩ =>
        ⟨readable, tag.attributes_nodup, allowed, present⟩⟩
  rw [conforms]
  unfold checkAttributes
  dsimp only
  cases (ordinary tag.attributes.1).forM (checkAttribute element rule) with
  | error violation => simp
  | ok done =>
      cases tag.attributes.2 with
      | some fault => simp
      | none =>
          have keys :
              (fun attr : Markup.Attribute =>
                  String.ofList (Markup.localName attr.name)) =
                Markup.Attribute.key := rfl
          rw [keys]
          cases missingAttribute? rule
            ((ordinary tag.attributes.1).map Markup.Attribute.key) with
          | some key => simp
          | none => simp

end Validation
end FieldOcr
