import FieldOcr.Proofs.LeadingText
import FieldOcr.Proofs.ReferenceGrammar

/-!
# References in documents that pass

A document that passes its check declares no document type, so that no entity
is declared in it, and refers to none but the predefined ones: neither in its
character data, nor in an attribute that binds no namespace.  What binds a
namespace is not looked at.
-/

namespace FieldOcr
namespace Validation

open Markup (Attribute Event Tag WellReferenced)

/-- The tags among events, in document order. -/
def tags (events : List Event) : List Tag :=
  events.filterMap fun
    | .opening tag | .selfClosing tag => some tag
    | _ => none

theorem mem_tags_iff {events : List Event} {tag : Tag} :
    tag ∈ tags events ↔
      .opening tag ∈ events ∨ .selfClosing tag ∈ events := by
  unfold tags
  rw [List.mem_filterMap]
  constructor
  · rintro ⟨event, member, named⟩
    cases event <;> cases named
    · exact Or.inl member
    · exact Or.inr member
  · rintro (member | member)
    · exact ⟨_, member, rfl⟩
    · exact ⟨_, member, rfl⟩

/-- Events refer to no undeclared entity, apart from what binds a
namespace. -/
structure ReferencesResolve (events : List Event) : Prop where
  /-- No entity is declared. -/
  typeless : Event.doctype ∉ events
  /-- The references of character data can be expanded. -/
  characters :
    ∀ raw, .characters raw ∈ events -> WellReferenced raw
  /-- The attributes of each tag can be read. -/
  readable : ∀ tag ∈ tags events, tag.attributes.2 = none
  /-- The references of an attribute can be expanded unless it binds a
  namespace. -/
  attributes :
    ∀ tag ∈ tags events,
      ∀ attr ∈ tag.attributes.1,
        Markup.bindsNamespace attr.name = false ->
          WellReferenced attr.value

section

variable
  {schema : Schema}
  {state final : State}
  {events : List Event}

/-- A check that runs through takes a step at each event. -/
theorem Runs.exists_step
    {event : Event}
    (runs : Runs schema state events final)
    (member : event ∈ events) :
    ∃ before after, step schema before event = .ok after := by
  induction events generalizing state with
  | nil => exact absurd member List.not_mem_nil
  | cons first events inductionHypothesis =>
      obtain ⟨next, stepped, rest⟩ := runs_cons_iff.mp runs
      rcases List.mem_cons.mp member with rfl | later
      · exact ⟨state, next, stepped⟩
      · exact inductionHypothesis rest later

/-- Each tag of a check that runs through has attributes that conform to some
rule. -/
theorem Runs.attributesConform
    {tag : Tag}
    (runs : Runs schema state events final)
    (member : tag ∈ tags events) :
    ∃ rule, AttributesConform rule tag := by
  have opened :
      ∃ before entered frame,
        openElement schema before tag = .ok (entered, frame) := by
    rcases mem_tags_iff.mp member with opening | selfClosing
    · obtain ⟨before, after, stepped⟩ := runs.exists_step opening
      obtain ⟨entered, frame, opened, -⟩ := step_opening_eq_ok_iff.mp stepped
      exact ⟨before, entered, frame, opened⟩
    · obtain ⟨before, after, stepped⟩ := runs.exists_step selfClosing
      obtain ⟨frame, opened, -⟩ := step_selfClosing_eq_ok_iff.mp stepped
      exact ⟨before, after, frame, opened⟩
  obtain ⟨before, entered, frame, opened⟩ := opened
  obtain ⟨-, rule, -, conform, -⟩ := openElement_eq_ok_iff.mp opened
  exact ⟨rule, conform⟩

/-- A check that runs through meets no reference to an undeclared entity, apart
from what binds a namespace. -/
theorem Runs.referencesResolve
    (runs : Runs schema state events final) :
    ReferencesResolve events where
  typeless := runs.not_mem_doctype
  characters := by
    intro raw member
    obtain ⟨before, after, stepped⟩ := runs.exists_step member
    obtain ⟨⟨text, expanded, -⟩, -⟩ := step_characters_eq_ok_iff.mp stepped
    exact Markup.exists_expand_iff.mp ⟨text, expanded⟩
  readable := by
    intro tag member
    obtain ⟨rule, conform⟩ := runs.attributesConform member
    exact conform.readable
  attributes := by
    intro tag member attr present ordinary
    obtain ⟨rule, conform⟩ := runs.attributesConform member
    obtain ⟨value, expanded, -⟩ := conform.allowed attr present ordinary
    exact Markup.exists_expand_iff.mp ⟨value, expanded⟩

end

/-- A document that passes its check refers to no undeclared entity, apart from
what binds a namespace. -/
theorem referencesResolve_of_checkDocument
    {schema : Schema}
    {document : List Char}
    (passed : checkDocument schema document = .ok ()) :
    ReferencesResolve (Markup.scan document).eventList := by
  obtain ⟨-, runs⟩ := checkDocument_eq_ok_iff_runs.mp passed
  exact runs.referencesResolve

/-- A document passes though it binds a namespace to an entity that is not
declared. -/
theorem referencesResolve_of_checkDocument_namespace :
    let schema : Schema :=
      ⟨"result", "document", .ofList [("document", { })]⟩
    let document := "<document xmlns='&nope;'/>".toList
    let tag : Tag := .ofText "document xmlns='&nope;'".toList
    let binding : Attribute := ⟨"xmlns".toList, "&nope;".toList⟩
    checkDocument schema document = .ok () ∧
      ReferencesResolve (Markup.scan document).eventList ∧
      tag ∈ tags (Markup.scan document).eventList ∧
      binding ∈ tag.attributes.1 ∧
      ¬WellReferenced binding.value := by
  intro schema document tag binding
  have passed : checkDocument schema document = .ok () := by
    decide +kernel
  refine ⟨passed, referencesResolve_of_checkDocument passed, ?_, ?_, ?_⟩
  · decide +kernel
  · decide +kernel
  · rw [← Markup.exists_expand_iff]
    rintro ⟨text, expanded⟩
    have refused :
        Markup.expand binding.value =
          .error (.unrecognized 1 5 "nope") := by
      decide +kernel
    exact nomatch refused.symm.trans expanded

end Validation
end FieldOcr
