import FieldOcr.Proofs.Delivery
import FieldOcr.Proofs.LeadingText
import FieldOcr.Proofs.StatusCode
import FieldOcr.Proofs.Trimming

/-!
# Noise in front of a document

What is checked of content is what stands in it from the last bracket on that
only noise precedes, or from its first bracket on where noise holds none.  So
content that passes is a document from its first bracket on, unless its noise
holds several brackets: then it is one from the last of these on.
-/

namespace FieldOcr

namespace Text

/-- No blank character is a word character. -/
theorem isWord_of_isBlank
    {character : Char}
    (blank : isBlank character = true) :
    isWord character = false := by
  have coded :
      character.toNat ∈
        List.range' 0x09 5 ++ List.range' 0x2000 11 ++
          [0x20, 0x85, 0xA0, 0x1680, 0x2028, 0x2029, 0x202F, 0x205F,
            0x3000] := by
    simp only [isBlank, Bool.or_eq_true, Bool.and_eq_true, decide_eq_true_eq,
      beq_iff_eq] at blank
    simp only [List.mem_append, List.mem_range'_1, List.mem_cons,
      List.not_mem_nil, or_false]
    omega
  have unlisted :
      ∀ code ∈
        List.range' 0x09 5 ++ List.range' 0x2000 11 ++
          [0x20, 0x85, 0xA0, 0x1680, 0x2028, 0x2029, 0x202F, 0x205F, 0x3000],
        inRanges code wordRanges = false := by
    decide +kernel
  exact unlisted _ coded

end Text

namespace Content

/-- The characters in front of the first word character of a text. -/
def noise (text : List Char) : List Char :=
  text.takeWhile fun character => !Text.isWord character

/-- A text from its first bracket on. -/
def fromFirstBracket (text : List Char) : List Char :=
  text.dropWhile (· != '<')

/-- A text consists of characters that are no word characters. -/
def IsNoise (text : List Char) : Prop :=
  ∀ character ∈ text, Text.isWord character = false

theorem noise_append
    {front : List Char}
    (quiet : IsNoise front)
    (behind : List Char) :
    noise (front ++ behind) = front ++ noise behind := by
  unfold noise
  rw [List.takeWhile_append_of_pos]
  exact fun character member => by simp [quiet character member]

/-- A bracket behind noise is part of the noise. -/
theorem bracket_mem_noise
    {front : List Char}
    (quiet : IsNoise front)
    (behind : List Char) :
    '<' ∈ noise (front ++ '<' :: behind) := by
  rw [noise_append quiet]
  exact List.mem_append_right _ (List.mem_cons_self ..)

/-- Noise does not get a bracket from text that holds none. -/
theorem not_mem_noise_append
    {text trailing : List Char}
    (last : '<' ∉ noise text)
    (plain : '<' ∉ trailing) :
    '<' ∉ noise (text ++ trailing) := by
  unfold noise at last ⊢
  rw [List.takeWhile_append]
  split
  · next long =>
      rw [(List.takeWhile_prefix _).eq_of_length long] at last
      rw [List.mem_append, not_or]
      exact ⟨last, fun bracket => plain ((List.takeWhile_prefix _).mem bracket)⟩
  · exact last

theorem not_mem_noise_cons
    {character : Char}
    {text : List Char}
    (plain : character ≠ '<')
    (last : '<' ∉ noise text) :
    '<' ∉ noise (character :: text) := by
  unfold noise at last ⊢
  rw [List.takeWhile_cons]
  split
  · rw [List.mem_cons, not_or]
    exact ⟨Ne.symm plain, last⟩
  · exact List.not_mem_nil

theorem noise_cons_bracket (behind : List Char) :
    noise ('<' :: behind) = '<' :: noise behind := rfl

theorem fromFirstBracket_append
    {front : List Char}
    (plain : '<' ∉ front)
    (behind : List Char) :
    fromFirstBracket (front ++ '<' :: behind) = '<' :: behind := by
  unfold fromFirstBracket
  rw [List.dropWhile_append_of_pos (Markup.ne_bracket_of_not_mem plain)]
  rfl

/-- Behind some noise, noise is dropped up to its last bracket, and none if it
holds no bracket. -/
theorem afterNoise_cases (found text : List Char) :
    (∃ front behind,
      text = front ++ '<' :: behind ∧
        IsNoise front ∧
        '<' ∉ noise behind ∧
        afterNoise true found text = '<' :: behind) ∨
    ('<' ∉ noise text ∧ afterNoise true found text = found) := by
  induction text generalizing found with
  | nil => exact Or.inr ⟨List.not_mem_nil, rfl⟩
  | cons character text inductionHypothesis =>
      by_cases word : Text.isWord character = true
      · right
        simp [noise, afterNoise, word]
      by_cases bracket : character = '<'
      · subst bracket
        have step :
            afterNoise true found ('<' :: text) =
              afterNoise true ('<' :: text) text := rfl
        rw [step]
        left
        rcases inductionHypothesis ('<' :: text) with
          ⟨front, behind, rfl, quiet, last, checked⟩ | ⟨last, checked⟩
        · refine ⟨'<' :: front, behind, rfl, ?_, last, checked⟩
          exact List.forall_mem_cons.mpr ⟨rfl, quiet⟩
        · exact ⟨[], text, rfl, nofun, last, checked⟩
      · have step :
            afterNoise true found (character :: text) =
              afterNoise true found text := by
          simp [afterNoise, word, bracket]
        rw [step]
        rw [Bool.not_eq_true] at word
        rcases inductionHypothesis found with
          ⟨front, behind, rfl, quiet, last, checked⟩ | ⟨last, checked⟩
        · left
          refine ⟨character :: front, behind, rfl, ?_, last, checked⟩
          exact List.forall_mem_cons.mpr ⟨word, quiet⟩
        · right
          exact ⟨not_mem_noise_cons bracket last, checked⟩

/-- What is kept of a trimmed text starts at the last bracket of its noise, and
is all of it if its noise holds no bracket. -/
theorem stripNoise_cases (text : List Char) :
    (∃ front behind,
      Text.trim text = front ++ '<' :: behind ∧
        IsNoise front ∧
        '<' ∉ noise behind ∧
        stripNoise text = '<' :: behind) ∨
    ('<' ∉ noise (Text.trim text) ∧ stripNoise text = Text.trim text) := by
  unfold stripNoise
  generalize Text.trim text = trimmed
  cases trimmed with
  | nil => exact Or.inr ⟨List.not_mem_nil, rfl⟩
  | cons character rest =>
      by_cases word : Text.isWord character = true
      · right
        simp [noise, afterNoise, word]
      have step :
          afterNoise false (character :: rest) (character :: rest) =
            afterNoise true (character :: rest) rest := by
        simp [afterNoise, word]
      rw [step]
      rw [Bool.not_eq_true] at word
      rcases afterNoise_cases (character :: rest) rest with
        ⟨front, behind, rfl, quiet, last, checked⟩ | ⟨last, checked⟩
      · left
        refine ⟨character :: front, behind, rfl, ?_, last, checked⟩
        exact List.forall_mem_cons.mpr ⟨word, quiet⟩
      · by_cases bracket : character = '<'
        · subst bracket
          exact Or.inl ⟨[], rest, rfl, nofun, last, checked⟩
        · right
          exact ⟨not_mem_noise_cons bracket last, checked⟩

/-- A text is what is trimmed of it, behind noise without a bracket and in
front of blank characters. -/
theorem trimmed_split (text : List Char) :
    ∃ leading trailing,
      text =
          leading ++ Text.trim (stripByteOrderMark text) ++ trailing ∧
        IsNoise leading ∧
        '<' ∉ leading ∧
        (∀ character ∈ trailing, Text.isBlank character = true) ∧
        Text.dropWhileEnd Text.isBlank
            (Text.trim (stripByteOrderMark text)) =
          Text.trim (stripByteOrderMark text) := by
  have marked :
      ∃ mark,
        text = mark ++ stripByteOrderMark text ∧
          IsNoise mark ∧ '<' ∉ mark := by
    unfold stripByteOrderMark
    split
    · next rest =>
        refine ⟨['\uFEFF'], rfl, ?_, by decide⟩
        exact List.forall_mem_singleton.mpr (by decide +kernel)
    · exact ⟨[], rfl, nofun, List.not_mem_nil⟩
  obtain ⟨mark, whole, quiet, plain⟩ := marked
  obtain ⟨leading, trailing, inner, leadingBlank, trailingBlank, kept⟩ :=
    Text.trim_split (stripByteOrderMark text)
  refine ⟨mark ++ leading, trailing, ?_, ?_, ?_, trailingBlank, kept⟩
  · rw [List.append_assoc, List.append_assoc, ← List.append_assoc leading,
      ← inner]
    exact whole
  · exact List.forall_mem_append.mpr
      ⟨quiet, fun character member =>
        Text.isWord_of_isBlank (leadingBlank character member)⟩
  · rw [List.mem_append, not_or]
    exact ⟨plain, fun bracket => nomatch leadingBlank _ bracket⟩

/-- Where in a text the document starts that is checked of it: at the last
bracket of its noise, or at its first bracket if its noise holds none. -/
def StartsBehind (front behind : List Char) : Prop :=
  (IsNoise front ∧ '<' ∉ noise behind) ∨ ('<' ∉ front ∧ ¬IsNoise front)

end Content

namespace Validation

open Content (IsNoise StartsBehind fromFirstBracket noise)

/-- A document passes its check without the blank characters at its end. -/
def PassesTrimmed (schema : Schema) (document : List Char) : Prop :=
  checkDocument schema (Text.dropWhileEnd Text.isBlank document) = .ok ()

/-- What content is known to hold that has passed its check. -/
structure PassesBehindNoise (schema : Schema) (content : List Char) : Prop where
  /-- It is a document from its first bracket on, if its noise holds one
  bracket at most. -/
  first :
    (noise content).count '<' ≤ 1 ->
      PassesTrimmed schema (fromFirstBracket content)
  /-- It is a document from the last bracket of its noise on, if there is
  one. -/
  last :
    ∀ front behind,
      content = front ++ '<' :: behind ->
        IsNoise front ->
          '<' ∉ noise behind ->
            PassesTrimmed schema ('<' :: behind)

section

variable
  {schema : Schema}
  {content : List Char}

/-- Content that is not blank passes its check exactly if what is kept of it
behind noise is a document that does. -/
theorem checkContent_eq_ok_iff
    (nonblank : Text.allBlank content = false) :
    checkContent schema .xml content = .ok () ↔
      checkDocument schema
          (Content.stripNoise (Content.stripByteOrderMark content)) =
        .ok () := by
  have structured : Recognition.ExportFormat.xml.isStructured = true := rfl
  unfold checkContent checkMarkup
  rw [nonblank, structured]
  cases checkDocument schema
      (Content.stripNoise (Content.stripByteOrderMark content)) <;>
    simp

/-- Content that passes its check holds a document that does. -/
theorem exists_document_of_checkContent
    (nonblank : Text.allBlank content = false)
    (passed : checkContent schema .xml content = .ok ()) :
    ∃ front behind,
      content = front ++ '<' :: behind ∧
        StartsBehind front behind ∧
        PassesTrimmed schema ('<' :: behind) := by
  obtain ⟨leading, trailing, whole, quiet, plain, blank, kept⟩ :=
    Content.trimmed_split content
  have checked := (checkContent_eq_ok_iff nonblank).mp passed
  -- Whatever is checked ends where the trimmed text ends.
  have located {front behind : List Char}
      (split :
        Text.trim (Content.stripByteOrderMark content) =
          front ++ '<' :: behind)
      (accepted : checkDocument schema ('<' :: behind) = .ok ()) :
      content = (leading ++ front) ++ '<' :: (behind ++ trailing) ∧
        PassesTrimmed schema ('<' :: (behind ++ trailing)) := by
    constructor
    · rw [whole, split]
      simp only [List.append_assoc, List.cons_append]
    · rw [split] at kept
      rw [PassesTrimmed, ← List.cons_append,
        Text.dropWhileEnd_append_of_forall blank,
        Text.dropWhileEnd_of_append (List.cons_ne_nil _ _) kept]
      exact accepted
  rcases Content.stripNoise_cases (Content.stripByteOrderMark content) with
    ⟨front, behind, split, frontQuiet, last, rest⟩ | ⟨bracketless, rest⟩
  · rw [rest] at checked
    obtain ⟨parts, passes⟩ := located split checked
    have trailingPlain : '<' ∉ trailing := fun bracket =>
      nomatch blank _ bracket
    refine ⟨leading ++ front, behind ++ trailing, parts, Or.inl ⟨?_, ?_⟩, passes⟩
    · exact List.forall_mem_append.mpr ⟨quiet, frontQuiet⟩
    · exact Content.not_mem_noise_append last trailingPlain
  · rw [rest] at checked
    obtain ⟨front, behind, split, frontPlain⟩ :=
      List.eq_append_cons_of_mem (mem_bracket_of_checkDocument checked)
    rw [split] at checked
    obtain ⟨parts, passes⟩ :=
      located split (checkDocument_of_leading_text frontPlain checked)
    refine ⟨leading ++ front, behind ++ trailing, parts, Or.inr ⟨?_, ?_⟩, passes⟩
    · rw [List.mem_append, not_or]
      exact ⟨plain, frontPlain⟩
    · intro allQuiet
      have frontQuiet : IsNoise front :=
        (List.forall_mem_append.mp allQuiet).2
      apply bracketless
      rw [split]
      exact Content.bracket_mem_noise frontQuiet behind

/-- Where a document starts behind noise is no second place for it to start. -/
theorem eq_of_startsBehind
    {front behind otherFront otherBehind : List Char}
    (starts : StartsBehind front behind)
    (same : front ++ '<' :: behind = otherFront ++ '<' :: otherBehind)
    (otherQuiet : IsNoise otherFront)
    (otherLast : '<' ∉ noise otherBehind) :
    behind = otherBehind := by
  -- One of the fronts is longer, and what it has more starts with a bracket.
  rcases List.append_eq_append_iff.mp same with
    ⟨between, rfl, rest⟩ | ⟨between, rfl, rest⟩
  · obtain ⟨frontQuiet, betweenQuiet⟩ := List.forall_mem_append.mp otherQuiet
    rcases List.cons_eq_append_iff.mp rest with
      ⟨rfl, rest⟩ | ⟨more, rfl, rfl⟩
    · exact (List.cons.inj rest).2
    · rcases starts with ⟨-, last⟩ | ⟨-, loud⟩
      · have moreQuiet : IsNoise more :=
          (List.forall_mem_cons.mp betweenQuiet).2
        exact absurd (Content.bracket_mem_noise moreQuiet otherBehind) last
      · exact absurd frontQuiet loud
  · rcases List.cons_eq_append_iff.mp rest with
      ⟨rfl, rest⟩ | ⟨more, rfl, rfl⟩
    · exact (List.cons.inj rest).2.symm
    · rcases starts with ⟨quiet, -⟩ | ⟨plain, -⟩
      · have betweenQuiet := (List.forall_mem_append.mp quiet).2
        have moreQuiet : IsNoise more :=
          (List.forall_mem_cons.mp betweenQuiet).2
        exact absurd (Content.bracket_mem_noise moreQuiet behind) otherLast
      · exact absurd (List.mem_append_right _ (List.mem_cons_self ..)) plain

/-- Content that passes its check is a document behind its noise. -/
theorem passesBehindNoise_of_checkContent
    (nonblank : Text.allBlank content = false)
    (passed : checkContent schema .xml content = .ok ()) :
    PassesBehindNoise schema content := by
  obtain ⟨front, behind, rfl, starts, passes⟩ :=
    exists_document_of_checkContent nonblank passed
  constructor
  · intro few
    have plain : '<' ∉ front := by
      rcases starts with ⟨quiet, -⟩ | ⟨plain, -⟩
      · rw [Content.noise_append quiet, Content.noise_cons_bracket,
          List.count_append, List.count_cons_self] at few
        exact List.count_eq_zero.mp (by omega)
      · exact plain
    rw [Content.fromFirstBracket_append plain]
    exact passes
  · intro otherFront otherBehind same otherQuiet otherLast
    rw [← eq_of_startsBehind starts same otherQuiet otherLast]
    exact passes

end
end Validation

namespace Run

open Validation (PassesBehindNoise checkContent passesBehindNoise_of_checkContent)

/-- The content of a record that succeeds has passed its check. -/
theorem checkContent_of_returns
    [Url.NameConversion]
    {transport : Transport}
    {plan : Plan}
    {journal : Journal}
    {report : Report}
    (returned : Returns transport plan journal report)
    (succeeded : report.record.succeeded = true) :
    checkContent plan.schema plan.request.exportFormat report.record.content =
      .ok () := by
  obtain ⟨rounds, performed⟩ := returned.performed
  obtain ⟨delivery, made⟩ := performed.exists_delivery succeeded
  rw [← made]
  exact delivery.acceptable.content

/-- Content that passes its check, and the content of every record that
succeeds, is a document from its first bracket on if its noise holds one
bracket at most, and from the last bracket of its noise on otherwise. -/
theorem passed_content_is_document [Url.NameConversion] (schema : Schema) :
    (∀ content,
      Text.allBlank content = false ->
        checkContent schema .xml content = .ok () ->
          PassesBehindNoise schema content) ∧
    ∀ transport plan journal report,
      plan.schema = schema ->
        plan.request.exportFormat = .xml ->
          Returns transport plan journal report ->
            report.record.succeeded = true ->
              Text.allBlank report.record.content = false ->
                PassesBehindNoise schema report.record.content := by
  constructor
  · intro content nonblank passed
    exact passesBehindNoise_of_checkContent nonblank passed
  · rintro transport plan journal report rfl format returned succeeded nonblank
    have passed := checkContent_of_returns returned succeeded
    rw [format] at passed
    exact passesBehindNoise_of_checkContent nonblank passed

/-! ## Content with two brackets in front -/

/-- A plan for documents that are an empty element. -/
def emptyElementPlan : Plan :=
  { narrowPlan with
    schema :=
      ⟨"result", "document", .ofList [("document", { })]⟩
    options := { } }

/-- A document with one bracket too many. -/
def doubledBracket : List Char := "<<document/>".toList

/-- A service that has every task completed at once, with this result. -/
def doubledService : Transport := fun earlier request =>
  match request.method with
  | .post => promptService earlier request
  | .head =>
      ⟨30, .response { status := 200, headers := [("Content-Length", "12")] }⟩
  | .get =>
      ⟨30, .response
        { status := 200, body := Text.Utf8.encode doubledBracket }⟩

/-- Content with two brackets in its noise passes, and is delivered, though
from its first bracket on it is no document. -/
theorem passed_content_is_document_doubled :
    PassesBehindNoise emptyElementPlan.schema doubledBracket ∧
      (∃ report,
        Returns doubledService emptyElementPlan journalWithSource report ∧
          report.record.content = doubledBracket ∧
          PassesBehindNoise emptyElementPlan.schema report.record.content) ∧
      Content.fromFirstBracket doubledBracket = doubledBracket ∧
      ¬Validation.PassesTrimmed emptyElementPlan.schema doubledBracket := by
  have passed :
      checkContent emptyElementPlan.schema .xml doubledBracket = .ok () := by
    decide +kernel
  have delivered :
      (perform 0 doubledService emptyElementPlan journalWithSource).map
          (fun report => (report.record.succeeded, report.record.content)) =
        some (true, doubledBracket) := by
    decide +kernel
  have nonblank : Text.allBlank doubledBracket = false := by decide +kernel
  have law := passed_content_is_document emptyElementPlan.schema
  obtain ⟨report, performed, known⟩ := Option.map_eq_some_iff.mp delivered
  have succeeded : report.record.succeeded = true := congrArg Prod.fst known
  have content : report.record.content = doubledBracket :=
    congrArg Prod.snd known
  refine ⟨law.1 _ nonblank passed, ⟨report, ⟨0, performed⟩, content, ?_⟩, ?_, ?_⟩
  · exact law.2 _ _ _ _ rfl rfl ⟨0, performed⟩ succeeded (content ▸ nonblank)
  · decide +kernel
  · unfold Validation.PassesTrimmed
    decide +kernel

end Run
end FieldOcr
