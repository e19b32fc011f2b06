import FieldOcr.Proofs.AttributeConformance
import FieldOcr.Proofs.TaskElement
import FieldOcr.Url.AsciiName
import Mathlib.Data.List.Induction
import Mathlib.Data.List.Sort

/-!
# The attributes of a task element

An attribute of a task element is about one topic or about none.  Where no two
attributes are about the same topic, the order in which they are read does not
show in the snapshot: it tells what each topic is given, with the result
addresses in ascending order of their indices.  An attribute about no topic has
to have a value whose references can be expanded, and counts for nothing else.
-/

namespace FieldOcr
namespace Service

open Markup (Attribute Tag)
open RemoteTask (Snapshot Status)

/-! ## Topics and what is said about them -/

/-- What an attribute of a task element may be about. -/
inductive Topic
  | id
  | status
  | credits
  | estimate
  | result (index : Nat)
  deriving DecidableEq, Repr

/-- The topic of a name without a prefix. -/
def topic? (key : List Char) : Option Topic :=
  if key == "id".toList then some .id
  else if key == "status".toList then some .status
  else if key == "credits".toList then some .credits
  else if key == "estimatedProcessingTime".toList then some .estimate
  else if resultUrlName.isPrefixOf key then (resultIndex? key).map .result
  else none

/-- The topic of an attribute. -/
def topicOf? (attr : Attribute) : Option Topic :=
  topic? (Markup.localName attr.name)

/-- The identifier that a value is. -/
def nameOf? (value : List Char) : Option String :=
  some (String.ofList value)

/-- The status that a value names. -/
def statusOf? (value : List Char) : Option Status :=
  Status.ofWire? (String.ofList value)

/-- The number that a value is. -/
def numberOf? (value : List Char) : Option Nat :=
  (Text.readWord 32 value).toOption

theorem localName_of_unprefixed
    {name : List Char}
    (unprefixed : ':' ∉ name) :
    Markup.localName name = name := by
  have nothing : name.dropWhile (· != ':') = [] := by
    rw [List.dropWhile_eq_nil_iff]
    intro character present
    rw [bne_iff_ne]
    rintro rfl
    exact unprefixed present
  rw [Markup.localName, nothing]

/-- The name under which a topic stands, in front of an index. -/
def Topic.name : Topic -> List Char
  | .id => "id".toList
  | .status => "status".toList
  | .credits => "credits".toList
  | .estimate => "estimatedProcessingTime".toList
  | .result _ => resultUrlName

/-- A name without an index is the one name of its topic. -/
theorem eq_name_of_topic?
    {key : List Char}
    {topic : Topic}
    (about : topic? key = some topic)
    (single : ∀ index, topic ≠ .result index) :
    key = topic.name := by
  unfold topic? at about
  iterate 4
    split at about
    · next named =>
        cases about
        exact eq_of_beq named
  split at about
  · obtain ⟨index, -, rfl⟩ := Option.map_eq_some_iff.mp about
    exact absurd rfl (single index)
  · exact nomatch about

theorem toOption_eq_of_ok_iff
    {first second : Except ε α}
    (same : ∀ value, first = .ok value ↔ second = .ok value) :
    first.toOption = second.toOption := by
  cases first with
  | ok value => rw [(same value).mp rfl]
  | error fault =>
      cases second with
      | ok value => exact nomatch (same value).mpr rfl
      | error other => rfl

section

variable [Url.NameConversion]

/-- The address that a value is.  An empty value is none. -/
def addressOf? (value : List Char) : Option Url :=
  if value.isEmpty then none else (Url.parse value).toOption

/-- Whether a topic admits a value: a status has to be known, and a result
address has to be one unless it is empty. -/
def Topic.Admits (topic : Topic) (value : List Char) : Prop :=
  match topic with
  | .status => ∃ status, statusOf? value = some status
  | .result _ => value = [] ∨ ∃ url, addressOf? value = some url
  | _ => True

/-- An attribute has a value, and its topic admits it. -/
def Acceptable (attr : Attribute) : Prop :=
  ∃ value,
    Markup.expand attr.value = .ok value ∧
      ∀ topic ∈ topicOf? attr, topic.Admits value

/-- One of the attributes gives a value to a topic. -/
def Says
    (attributes : List Attribute)
    (topic : Topic)
    (value : List Char) : Prop :=
  ∃ attr ∈ attributes,
    topicOf? attr = some topic ∧ Markup.expand attr.value = .ok value

/-- What is held of a topic is what the values say that it is given. -/
def Holds
    (attributes : List Attribute)
    (topic : Topic)
    (read : List Char -> Option β)
    (held : Option β) : Prop :=
  ∀ content,
    held = some content ↔
      ∃ value, Says attributes topic value ∧ read value = some content

/-- Entries are the indices and addresses of the results that are told. -/
def Lists (attributes : List Attribute) (entries : List (Nat × Url)) : Prop :=
  ∀ index url,
    (index, url) ∈ entries ↔
      ∃ value,
        Says attributes (.result index) value ∧ addressOf? value = some url

/-- Two attributes are not about the same topic. -/
def Apart (first second : Attribute) : Prop :=
  ∀ topic, topicOf? first = some topic -> topicOf? second ≠ some topic

/-- What attributes tell of a task, in whatever order they stand. -/
structure Tells (attributes : List Attribute) (snapshot : Snapshot) : Prop where
  /-- Every attribute is acceptable. -/
  acceptable : ∀ attr ∈ attributes, Acceptable attr
  /-- The identifier is told. -/
  id : Holds attributes .id nameOf? (some snapshot.id)
  /-- The identifier is not empty. -/
  named : snapshot.id ≠ ""
  /-- The status is told. -/
  status : Holds attributes .status statusOf? (some snapshot.status)
  /-- The credits are those told, if a number is. -/
  credits : Holds attributes .credits numberOf? snapshot.credits
  /-- The expected seconds are those told, if a number is. -/
  estimate : Holds attributes .estimate numberOf? snapshot.estimatedSeconds
  /-- The addresses are those told, each once, in ascending order of their
  indices. -/
  results :
    ∃ entries : List (Nat × Url),
      snapshot.resultUrls = entries.map (·.2) ∧
        entries.Pairwise (·.1 < ·.1) ∧
        Lists attributes entries

/-! ## One attribute -/

/-- The entry that a value adds to the results, if its topic is a result. -/
def entryOf? (topic : Option Topic) (value : List Char) :
    Option (Nat × Url) :=
  match topic with
  | some (.result index) => (addressOf? value).map (index, ·)
  | _ => none

/-- The fields once a value was read, with its topic if it has one. -/
def TaskFields.hear
    (fields : TaskFields)
    (topic : Option Topic)
    (value : List Char) : TaskFields where
  id := if topic = some .id then nameOf? value else fields.id
  status := if topic = some .status then statusOf? value else fields.status
  credits := if topic = some .credits then numberOf? value else fields.credits
  estimatedSeconds :=
    if topic = some .estimate then numberOf? value
    else fields.estimatedSeconds
  resultUrls := fields.resultUrls ++ (entryOf? topic value).toList

theorem withResultUrl_eq_ok_iff
    {fields next : TaskFields}
    {key value : List Char} :
    fields.withResultUrl key value = .ok next ↔
      (∀ topic ∈ (resultIndex? key).map Topic.result, topic.Admits value) ∧
        next = fields.hear ((resultIndex? key).map .result) value := by
  unfold TaskFields.withResultUrl
  rw [eq_comm (a := next)]
  cases resultIndex? key with
  | none => simp [TaskFields.hear, entryOf?]
  | some index =>
      simp only [Option.map_some, Option.mem_def, Option.some.injEq,
        forall_eq', Topic.Admits, TaskFields.hear, entryOf?, addressOf?]
      by_cases empty : value = []
      · simp [empty]
      · cases Url.parse value <;> simp [empty, Except.toOption]

/-- A value is added exactly if its topic admits it. -/
theorem withValue_eq_ok_iff
    {fields next : TaskFields}
    {key value : List Char} :
    fields.withValue key value = .ok next ↔
      (∀ topic ∈ topic? key, topic.Admits value) ∧
        next = fields.hear (topic? key) value := by
  unfold TaskFields.withValue topic?
  rw [eq_comm (a := next)]
  split
  · simp [Topic.Admits, TaskFields.hear, entryOf?, nameOf?]
  split
  · simp only [Option.mem_def, Option.some.injEq, forall_eq', Topic.Admits,
      TaskFields.hear, entryOf?, statusOf?]
    cases Status.ofWire? (String.ofList value) <;> simp
  split
  · simp [Topic.Admits, TaskFields.hear, entryOf?, numberOf?]
  split
  · simp [Topic.Admits, TaskFields.hear, entryOf?, numberOf?]
  split
  · rw [eq_comm (b := next)]
    exact withResultUrl_eq_ok_iff
  · simp [TaskFields.hear, entryOf?]

/-- An attribute is added exactly if it is acceptable. -/
theorem withAttribute_eq_ok_iff
    {fields next : TaskFields}
    {attr : Attribute} :
    fields.withAttribute attr = .ok next ↔
      ∃ value,
        Markup.expand attr.value = .ok value ∧
          (∀ topic ∈ topicOf? attr, topic.Admits value) ∧
          next = fields.hear (topicOf? attr) value := by
  unfold TaskFields.withAttribute
  cases Markup.expand attr.value with
  | error fault => simp
  | ok value =>
      simp only [Except.ok.injEq, exists_eq_left']
      exact withValue_eq_ok_iff

theorem exists_withAttribute_iff
    (fields : TaskFields)
    (attr : Attribute) :
    (∃ next, fields.withAttribute attr = .ok next) ↔ Acceptable attr := by
  simp only [withAttribute_eq_ok_iff, Acceptable]
  constructor
  · rintro ⟨_, value, expanded, admitted, -⟩
    exact ⟨value, expanded, admitted⟩
  · rintro ⟨value, expanded, admitted⟩
    exact ⟨_, value, expanded, admitted, rfl⟩

/-- All attributes are added exactly if each is acceptable. -/
theorem exists_foldlM_withAttribute_iff
    {fields : TaskFields}
    {attributes : List Attribute} :
    (∃ final, attributes.foldlM TaskFields.withAttribute fields = .ok final) ↔
      ∀ attr ∈ attributes, Acceptable attr := by
  induction attributes generalizing fields with
  | nil => simp [pure, Except.pure]
  | cons attr attributes inductionHypothesis =>
      have first := exists_withAttribute_iff fields attr
      rw [List.forall_mem_cons, List.foldlM_cons, ← first]
      cases added : fields.withAttribute attr with
      | error fault => exact iff_of_false nofun nofun
      | ok next =>
          exact inductionHypothesis.trans (and_iff_right ⟨next, rfl⟩).symm

/-! ## What the fields hold -/

section

variable
  {attributes : List Attribute}
  {attr : Attribute}
  {topic : Topic}
  {value : List Char}

omit [Url.NameConversion] in
/-- What is said once one more attribute was read. -/
theorem says_concat_iff
    {word : List Char}
    (expanded : Markup.expand attr.value = .ok value) :
    Says (attributes ++ [attr]) topic word ↔
      Says attributes topic word ∨
        topicOf? attr = some topic ∧ word = value := by
  have same : Markup.expand attr.value = .ok word ↔ word = value := by
    rw [expanded, Except.ok.injEq, eq_comm]
  unfold Says
  simp only [List.mem_append, List.mem_singleton, or_and_right, exists_or,
    exists_eq_left, same]

omit [Url.NameConversion] in
/-- A topic that was not met before holds what it is given last. -/
theorem Holds.concat
    {read : List Char -> Option β}
    {held : Option β}
    (holds : Holds attributes topic read held)
    (expanded : Markup.expand attr.value = .ok value)
    (apart : ∀ earlier ∈ attributes, Apart earlier attr) :
    Holds (attributes ++ [attr]) topic read
      (if topicOf? attr = some topic then read value else held) := by
  intro content
  simp only [says_concat_iff expanded]
  split
  · next about =>
      have fresh (word : List Char) : ¬Says attributes topic word := by
        rintro ⟨earlier, present, same, -⟩
        exact apart earlier present topic same about
      simp [fresh, about]
  · next about =>
      simp only [about, false_and, or_false]
      exact holds content

omit [Url.NameConversion] in
/-- What is held of a topic is determined by what is said. -/
theorem Holds.unique
    {read : List Char -> Option β}
    {first second : Option β}
    (holds : Holds attributes topic read first)
    (other : Holds attributes topic read second) :
    first = second :=
  Option.ext fun content => (holds content).trans (other content).symm

/-- Fields hold what the attributes that were read tell. -/
structure Gathered
    (attributes : List Attribute)
    (fields : TaskFields) : Prop where
  /-- The identifier. -/
  id : Holds attributes .id nameOf? fields.id
  /-- The status. -/
  status : Holds attributes .status statusOf? fields.status
  /-- The credits. -/
  credits : Holds attributes .credits numberOf? fields.credits
  /-- The expected seconds. -/
  estimate : Holds attributes .estimate numberOf? fields.estimatedSeconds
  /-- The addresses with their indices. -/
  results : Lists attributes fields.resultUrls
  /-- No index occurs twice. -/
  distinct : (fields.resultUrls.map (·.1)).Nodup

theorem gathered_nil : Gathered [] { } := by
  constructor <;> simp [Holds, Lists, Says]

theorem entryOf?_eq_some_iff
    {topic : Option Topic}
    {index : Nat}
    {url : Url} :
    entryOf? topic value = some (index, url) ↔
      topic = some (.result index) ∧ addressOf? value = some url := by
  rcases topic with _ | (_ | _ | _ | _ | other)
  all_goals simp [entryOf?, and_comm]

/-- One attribute keeps what is held, and adds what it tells. -/
theorem Gathered.concat
    {fields : TaskFields}
    (gathered : Gathered attributes fields)
    (expanded : Markup.expand attr.value = .ok value)
    (apart : ∀ earlier ∈ attributes, Apart earlier attr) :
    Gathered (attributes ++ [attr])
      (fields.hear (topicOf? attr) value) where
  id := gathered.id.concat expanded apart
  status := gathered.status.concat expanded apart
  credits := gathered.credits.concat expanded apart
  estimate := gathered.estimate.concat expanded apart
  results := by
    intro index url
    simp only [TaskFields.hear, List.mem_append, Option.mem_toList,
      entryOf?_eq_some_iff, says_concat_iff expanded, or_and_right, exists_or,
      ← gathered.results index url]
    simp
  distinct := by
    rw [TaskFields.hear, List.map_append, List.nodup_append]
    refine ⟨gathered.distinct, ?_, ?_⟩
    · cases entryOf? (topicOf? attr) value <;> simp
    · intro index before other added
      obtain ⟨⟨_, url⟩, listed, rfl⟩ := List.mem_map.mp before
      obtain ⟨word, ⟨earlier, present, same, -⟩, -⟩ :=
        (gathered.results _ _).mp listed
      obtain ⟨⟨_, url⟩, entry, rfl⟩ := List.mem_map.mp added
      obtain ⟨about, -⟩ :=
        entryOf?_eq_some_iff.mp (Option.mem_toList.mp entry)
      rintro rfl
      exact apart earlier present _ same about

/-- What is read onto no fields is what the attributes tell. -/
theorem gathered_of_foldlM
    {final : TaskFields}
    (apart : attributes.Pairwise Apart)
    (read : attributes.foldlM TaskFields.withAttribute { } = .ok final) :
    Gathered attributes final := by
  induction attributes using List.reverseRecOn generalizing final with
  | nil =>
      cases read
      exact gathered_nil
  | append_singleton attributes attr inductionHypothesis =>
      rw [List.foldlM_append] at read
      cases first : attributes.foldlM TaskFields.withAttribute { } with
      | error fault =>
          rw [first] at read
          exact nomatch read
      | ok fields =>
          rw [first] at read
          have added : (fields.withAttribute attr >>= pure) = .ok final := read
          rw [bind_pure] at added
          obtain ⟨value, expanded, -, rfl⟩ :=
            withAttribute_eq_ok_iff.mp added
          obtain ⟨earlier, -, later⟩ := List.pairwise_append.mp apart
          exact (inductionHypothesis earlier first).concat expanded
            fun other present => later other present attr (by simp)

end

/-! ## The snapshot -/

/-- The addresses with their indices, in ascending order of these. -/
def TaskFields.sortedResults (fields : TaskFields) : List (Nat × Url) :=
  fields.resultUrls.mergeSort fun left right => decide (left.1 ≤ right.1)

omit [Url.NameConversion] in
theorem snapshot_eq_ok_iff
    {fields : TaskFields}
    {snapshot : Snapshot} :
    fields.snapshot = .ok snapshot ↔
      fields.id = some snapshot.id ∧
        snapshot.id ≠ "" ∧
        fields.status = some snapshot.status ∧
        fields.credits = snapshot.credits ∧
        fields.estimatedSeconds = snapshot.estimatedSeconds ∧
        snapshot.resultUrls = fields.sortedResults.map (·.2) := by
  obtain ⟨id, status, credits, estimate, urls⟩ := snapshot
  unfold TaskFields.snapshot TaskFields.sortedResults
  cases fields.id with
  | none => simp
  | some name =>
      by_cases empty : name = ""
      · have nameless : (some name).filter (· ≠ "") = none := by
          simp [empty]
        rw [nameless]
        refine iff_of_false nofun ?_
        rintro ⟨⟨⟩, named, -⟩
        exact named empty
      · have named : (some name).filter (· ≠ "") = some name := by
          simp [empty]
        rw [named]
        cases fields.status with
        | none => simp
        | some word =>
            simp only [Except.ok.injEq, Snapshot.mk.injEq, Option.some.injEq]
            constructor
            · rintro ⟨rfl, rfl, rfl, rfl, rfl⟩
              exact ⟨rfl, empty, rfl, rfl, rfl, rfl⟩
            · rintro ⟨rfl, -, rfl, rfl, rfl, rfl⟩
              exact ⟨rfl, rfl, rfl, rfl, rfl⟩

/-- Sorted results have ascending indices if no index occurs twice. -/
theorem Gathered.sortedResults_pairwise
    {attributes : List Attribute}
    {fields : TaskFields}
    (gathered : Gathered attributes fields) :
    fields.sortedResults.Pairwise (·.1 < ·.1) := by
  have ascending : fields.sortedResults.Pairwise (·.1 ≤ ·.1) := by
    have sorted :
        fields.sortedResults.Pairwise fun left right =>
          decide (left.1 ≤ right.1) = true :=
      List.pairwise_mergeSort (fun _ _ _ => by simpa using Nat.le_trans)
        (fun _ _ => by simpa using Nat.le_total _ _) _
    exact sorted.imp of_decide_eq_true
  have different : fields.sortedResults.Pairwise (·.1 ≠ ·.1) := by
    have permuted : fields.sortedResults.Perm fields.resultUrls :=
      List.mergeSort_perm _ _
    have distinct := (permuted.map (·.1)).nodup_iff.mpr gathered.distinct
    exact List.pairwise_map.mp distinct
  exact (ascending.and different).imp fun ⟨least, differs⟩ =>
    Nat.lt_of_le_of_ne least differs

theorem lists_sortedResults_iff
    {attributes : List Attribute}
    {fields : TaskFields} :
    Lists attributes fields.sortedResults ↔
      Lists attributes fields.resultUrls := by
  simp [Lists, TaskFields.sortedResults]

/-- Entries in ascending order of their indices are determined by what is
said. -/
theorem Lists.unique
    {attributes : List Attribute}
    {first second : List (Nat × Url)}
    (lists : Lists attributes first)
    (other : Lists attributes second)
    (ascending : first.Pairwise (·.1 < ·.1))
    (otherAscending : second.Pairwise (·.1 < ·.1)) :
    first = second := by
  have irreflexive :
      Std.Irrefl fun left right : Nat × Url => left.1 < right.1 :=
    ⟨fun entry => Nat.lt_irrefl entry.1⟩
  have antisymmetric :
      Std.Antisymm fun left right : Nat × Url => left.1 < right.1 :=
    ⟨fun left right less greater => absurd greater (Nat.lt_asymm less)⟩
  apply List.Pairwise.eq_of_mem_iff ascending otherAscending
  rintro ⟨index, url⟩
  exact (lists index url).trans (other index url).symm

/-- Fields give a snapshot exactly if the attributes tell it. -/
theorem Gathered.snapshot_eq_ok_iff
    {attributes : List Attribute}
    {fields : TaskFields}
    {snapshot : Snapshot}
    (gathered : Gathered attributes fields)
    (acceptable : ∀ attr ∈ attributes, Acceptable attr) :
    fields.snapshot = .ok snapshot ↔ Tells attributes snapshot := by
  have listed := lists_sortedResults_iff.mpr gathered.results
  have ascending := gathered.sortedResults_pairwise
  rw [Service.snapshot_eq_ok_iff]
  constructor
  · rintro ⟨id, named, status, credits, estimate, urls⟩
    exact
      { acceptable
        id := id ▸ gathered.id
        named
        status := status ▸ gathered.status
        credits := credits ▸ gathered.credits
        estimate := estimate ▸ gathered.estimate
        results := ⟨_, urls, ascending, listed⟩ }
  · intro tells
    obtain ⟨entries, urls, entriesAscending, entriesListed⟩ := tells.results
    have same :=
      listed.unique entriesListed ascending entriesAscending
    exact ⟨gathered.id.unique tells.id, tells.named,
      gathered.status.unique tells.status,
      gathered.credits.unique tells.credits,
      gathered.estimate.unique tells.estimate, same ▸ urls⟩

/-- A tag whose attributes are about different topics is read exactly if they
can all be read and tell a snapshot. -/
theorem snapshotOfTag_eq_ok_iff
    {tag : Tag}
    {snapshot : Snapshot}
    (apart : tag.attributes.1.Pairwise Apart) :
    snapshotOfTag tag = .ok snapshot ↔
      tag.attributes.2 = none ∧ Tells tag.attributes.1 snapshot := by
  unfold snapshotOfTag
  dsimp only
  cases read : tag.attributes.1.foldlM TaskFields.withAttribute { } with
  | error fault =>
      refine iff_of_false nofun ?_
      rintro ⟨-, tells⟩
      obtain ⟨final, same⟩ :=
        exists_foldlM_withAttribute_iff.mpr tells.acceptable
      exact nomatch read.symm.trans same
  | ok fields =>
      have gathered := gathered_of_foldlM apart read
      have acceptable := exists_foldlM_withAttribute_iff.mp ⟨fields, read⟩
      rw [← gathered.snapshot_eq_ok_iff acceptable]
      cases tag.attributes.2 <;> simp

/-! ## Order and other attributes -/

/-- Attributes that are about no topic count for nothing, and the order of the
others does not count either. -/
theorem Tells.of_same
    {first second : List Attribute}
    {snapshot : Snapshot}
    (tells : Tells first snapshot)
    (same :
      ∀ attr, topicOf? attr ≠ none -> (attr ∈ first ↔ attr ∈ second))
    (others :
      ∀ attr ∈ second,
        topicOf? attr = none -> (Markup.expand attr.value).isOk = true) :
    Tells second snapshot := by
  have said (topic : Topic) (value : List Char) :
      Says first topic value ↔ Says second topic value := by
    refine exists_congr fun attr => ?_
    rw [← and_assoc, ← and_assoc]
    refine and_congr_left fun _ => and_congr_left fun about => ?_
    exact same attr (by simp [about])
  have holds {β : Type} {topic : Topic} {read : List Char -> Option β}
      {held : Option β}
      (told : Holds first topic read held) :
      Holds second topic read held := by
    intro content
    simp only [told content, said]
  have lists {entries : List (Nat × Url)}
      (listed : Lists first entries) :
      Lists second entries := by
    intro index url
    simp only [listed index url, said]
  obtain ⟨entries, urls, ascending, listed⟩ := tells.results
  refine
    { acceptable := ?_
      id := holds tells.id
      named := tells.named
      status := holds tells.status
      credits := holds tells.credits
      estimate := holds tells.estimate
      results := ⟨entries, urls, ascending, lists listed⟩ }
  intro attr present
  by_cases about : topicOf? attr = none
  · cases expanded : Markup.expand attr.value with
    | error fault =>
        have read := others attr present about
        rw [expanded] at read
        exact nomatch read
    | ok value => exact ⟨value, expanded, by simp [about]⟩
  · exact tells.acceptable attr ((same attr about).mpr present)

/-- The index of an attribute that is about a result. -/
def resultIndexOf? (attr : Attribute) : Option Nat :=
  match topicOf? attr with
  | some (.result index) => some index
  | _ => none

/-- The attributes that are about a topic. -/
def telling (attributes : List Attribute) : List Attribute :=
  attributes.filter fun attr => (topicOf? attr).isSome

/-- A tag whose attributes can all be read and are about different topics: those
about a topic have no prefix, and no index of a result occurs twice. -/
structure IsPlain (tag : Tag) : Prop where
  /-- All attributes can be read. -/
  readable : tag.attributes.2 = none
  /-- No attribute that is about a topic has a prefix. -/
  unprefixed : ∀ attr ∈ telling tag.attributes.1, ':' ∉ attr.name
  /-- No index occurs twice. -/
  indices : (tag.attributes.1.filterMap resultIndexOf?).Nodup

omit [Url.NameConversion] in
/-- The attributes of a plain tag are about different topics. -/
theorem IsPlain.apart
    {tag : Tag}
    (plain : IsPlain tag) :
    tag.attributes.1.Pairwise Apart := by
  have names := List.pairwise_map.mp tag.attributes_nodup
  have indices := List.pairwise_filterMap.mp plain.indices
  refine (names.and indices).imp_of_mem ?_
  rintro first second present later ⟨namesDiffer, indicesDiffer⟩ topic
    about same
  by_cases single : ∀ index, topic ≠ .result index
  · have key {attr : Attribute}
        (present : attr ∈ tag.attributes.1)
        (about : topicOf? attr = some topic) :
        attr.name = topic.name := by
      have told : attr ∈ telling tag.attributes.1 := by
        simp [telling, present, about]
      rw [topicOf?, localName_of_unprefixed (plain.unprefixed attr told)]
        at about
      exact eq_name_of_topic? about single
    exact namesDiffer ((key present about).trans (key later same).symm)
  · simp only [ne_eq, not_forall, not_not] at single
    obtain ⟨index, rfl⟩ := single
    exact indicesDiffer index (by rw [resultIndexOf?, about]) index
      (by rw [resultIndexOf?, same]) rfl

/-! ## Reading an envelope -/

/-- A tag whose attributes cannot all be read is refused. -/
theorem snapshotOfTag_of_unreadable
    {tag : Tag}
    (unreadable : tag.attributes.2 ≠ none) :
    ∃ fault, snapshotOfTag tag = .error fault := by
  unfold snapshotOfTag
  dsimp only
  split
  · exact ⟨_, rfl⟩
  · split
    · exact ⟨_, rfl⟩
    · next readable => exact absurd readable unreadable

/-- A plain tag is read exactly if its attributes tell a snapshot. -/
theorem IsPlain.readSnapshot_eq_ok_iff
    {body : List Char}
    {tag : Tag}
    {snapshot : Snapshot}
    (plain : IsPlain tag)
    (reached : reachedTask? body = some tag) :
    readSnapshot body = .ok snapshot ↔ Tells tag.attributes.1 snapshot := by
  rw [readSnapshot_of_reached reached, snapshotOfTag_eq_ok_iff plain.apart]
  exact and_iff_right plain.readable

/-- Plain tags are read alike if the attributes about a topic are the same in
some order, and all others have values that can be expanded. -/
theorem IsPlain.readSnapshot_of_perm
    {body otherBody : List Char}
    {tag otherTag : Tag}
    (plain : IsPlain tag)
    (otherPlain : IsPlain otherTag)
    (reached : reachedTask? body = some tag)
    (otherReached : reachedTask? otherBody = some otherTag)
    (permuted :
      (telling tag.attributes.1).Perm (telling otherTag.attributes.1))
    (others :
      ∀ attr ∈ tag.attributes.1 ++ otherTag.attributes.1,
        topicOf? attr = none -> (Markup.expand attr.value).isOk = true) :
    (readSnapshot otherBody).toOption = (readSnapshot body).toOption := by
  have same (attr : Attribute) (about : topicOf? attr ≠ none) :
      attr ∈ tag.attributes.1 ↔ attr ∈ otherTag.attributes.1 := by
    have kept := permuted.mem_iff (a := attr)
    rw [← Option.isSome_iff_ne_none] at about
    simpa [telling, about] using kept
  apply toOption_eq_of_ok_iff
  intro snapshot
  rw [plain.readSnapshot_eq_ok_iff reached,
    otherPlain.readSnapshot_eq_ok_iff otherReached]
  constructor
  · intro tells
    exact tells.of_same (fun attr about => (same attr about).symm)
      fun attr present => others attr (List.mem_append_left _ present)
  · intro tells
    exact tells.of_same same
      fun attr present => others attr (List.mem_append_right _ present)

/-- Only the first task element counts, and of it only the tag.  A tag whose
attributes cannot all be read is refused.  Whatever stands behind the tag does
not matter, and neither does the way in which it ends if its attributes can be
read.  A plain tag is read exactly if its attributes tell a snapshot, which
depends neither on their order nor on those about no topic. -/
theorem readSnapshot_tells
    {body : List Char}
    {tag : Tag}
    (reached : reachedTask? body = some tag) :
    (tag.attributes.2 ≠ none -> ∃ fault, readSnapshot body = .error fault) ∧
      (∃ front text ending rest,
        ending ∈ Markup.tagEndings ∧
          body = front ++ '<' :: (text ++ (ending ++ rest)) ∧
          Tag.ofText text = tag ∧
          ∀ other ∈ Markup.tagEndings,
            other = ending ∨ tag.attributes.2 = none ->
              ∀ behind,
                readSnapshot (front ++ '<' :: (text ++ (other ++ behind))) =
                  readSnapshot body) ∧
      (IsPlain tag ->
        (∀ snapshot,
          readSnapshot body = .ok snapshot ↔
            Tells tag.attributes.1 snapshot) ∧
          ∀ otherBody otherTag,
            reachedTask? otherBody = some otherTag ->
              IsPlain otherTag ->
                (telling tag.attributes.1).Perm
                    (telling otherTag.attributes.1) ->
                  (∀ attr ∈ tag.attributes.1 ++ otherTag.attributes.1,
                    topicOf? attr = none ->
                      (Markup.expand attr.value).isOk = true) ->
                    (readSnapshot otherBody).toOption =
                      (readSnapshot body).toOption) := by
  refine ⟨?_, ?_, ?_⟩
  · rw [readSnapshot_of_reached reached]
    exact snapshotOfTag_of_unreadable
  · obtain ⟨front, text, ending, rest, ends, shape, rfl, again⟩ :=
      exists_taskText reached
    refine ⟨front, text, ending, rest, ends, shape, rfl, ?_⟩
    intro other others kept behind
    rw [readSnapshot_of_reached reached,
      readSnapshot_of_reached (again other others kept behind)]
  · intro plain
    refine ⟨fun _ => plain.readSnapshot_eq_ok_iff reached, ?_⟩
    intro otherBody otherTag otherReached otherPlain permuted others
    exact plain.readSnapshot_of_perm otherPlain reached otherReached permuted
      others

end

/-- The text of a task's tag with the given attributes. -/
def taskText (attributes : List Attribute) : List Char :=
  "task".toList ++
    attributes.flatMap fun attr =>
      ' ' :: (attr.name ++ '=' :: '\'' :: (attr.value ++ ['\'']))

/-- Attributes whose addresses do not stand in the order of their indices. -/
def secondAddressFirst : List Attribute :=
  [⟨"resultUrl2".toList, "http://b.test".toList⟩,
    ⟨"note".toList, "&lt;".toList⟩,
    ⟨"id".toList, "t".toList⟩,
    ⟨"resultUrl".toList, "http://a.test".toList⟩,
    ⟨"status".toList, "Completed".toList⟩]

/-- The attributes that are about a topic in another order. -/
def firstAddressFirst : List Attribute :=
  [⟨"id".toList, "t".toList⟩,
    ⟨"resultUrl".toList, "http://a.test".toList⟩,
    ⟨"status".toList, "Completed".toList⟩,
    ⟨"resultUrl2".toList, "http://b.test".toList⟩]

/-- Both orders are read, and alike. -/
theorem readSnapshot_tells_secondAddressFirst :
    let body := '<' :: (taskText secondAddressFirst ++ "/>".toList)
    let otherBody := '<' :: (taskText firstAddressFirst ++ ">".toList)
    (∃ snapshot,
      readSnapshot body = .ok snapshot ∧
        Tells secondAddressFirst snapshot) ∧
      (readSnapshot otherBody).toOption = (readSnapshot body).toOption := by
  intro body otherBody
  have attributes :
      (Tag.ofText (taskText secondAddressFirst)).attributes =
        (secondAddressFirst, none) := by
    decide +kernel
  have otherAttributes :
      (Tag.ofText (taskText firstAddressFirst)).attributes =
        (firstAddressFirst, none) := by
    decide +kernel
  have plain : IsPlain (.ofText (taskText secondAddressFirst)) := by
    constructor <;> rw [attributes] <;> decide +kernel
  have otherPlain : IsPlain (.ofText (taskText firstAddressFirst)) := by
    constructor <;> rw [otherAttributes] <;> decide +kernel
  have reached :
      reachedTask? body = some (.ofText (taskText secondAddressFirst)) := by
    decide +kernel
  have otherReached :
      reachedTask? otherBody = some (.ofText (taskText firstAddressFirst)) := by
    decide +kernel
  have accepted : (readSnapshot body).isOk = true := by
    decide +kernel
  obtain ⟨-, -, reads⟩ := readSnapshot_tells reached
  obtain ⟨told, reordered⟩ := reads plain
  rw [attributes] at told reordered
  refine ⟨?_, reordered _ _ otherReached otherPlain ?_ ?_⟩
  · cases read : readSnapshot body with
    | error fault =>
        rw [read] at accepted
        exact nomatch accepted
    | ok snapshot => exact ⟨snapshot, rfl, (told snapshot).mp read⟩
  · rw [otherAttributes]
    decide +kernel
  · rw [otherAttributes]
    decide +kernel

/-- An attribute about no topic does count if it makes the tag unreadable: with
a second note, the task is refused. -/
theorem not_readSnapshot_taskText :
    ¬∀ first second : List Attribute,
        (∀ attr ∈ first ++ second,
          attr.name ≠ [] ∧
            attr.name.all Char.isAlphanum = true ∧
            '\'' ∉ attr.value ∧
            (Markup.expand attr.value).isOk = true) ->
          (first.filterMap resultIndexOf?).Nodup ->
            (second.filterMap resultIndexOf?).Nodup ->
              (telling first).Perm (telling second) ->
                (readSnapshot
                    ('<' :: (taskText first ++ "/>".toList))).toOption =
                  (readSnapshot
                    ('<' :: (taskText second ++ "/>".toList))).toOption := by
  intro law
  let noted : List Attribute :=
    [⟨"id".toList, "t".toList⟩, ⟨"status".toList, "Queued".toList⟩,
      ⟨"note".toList, "1".toList⟩]
  have same := law noted (noted ++ [⟨"note".toList, "2".toList⟩])
    (by decide +kernel) (by decide +kernel) (by decide +kernel)
    (by decide +kernel)
  exact absurd same (by decide +kernel)

end Service
end FieldOcr
