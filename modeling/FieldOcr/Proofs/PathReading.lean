import FieldOcr.Proofs.FormReading
import FieldOcr.Url.Parser
import Mathlib.Data.List.DropRight

/-!
# Reading paths

A hierarchical path that was read is in normal form: its segments hold only
characters that stand for themselves, and none of them is a dot segment.
Reading a path in normal form again changes nothing.
-/

namespace FieldOcr

namespace Text

/-- The parts of a text hold its characters without the separator. -/
theorem mem_of_mem_splitAll
    {separator : Char}
    {text part : List Char}
    (among : part ∈ splitAll separator text) :
    ∀ character ∈ part, character ∈ text ∧ character ≠ separator := by
  induction text generalizing part with
  | nil =>
      rw [splitAll, List.mem_singleton] at among
      rw [among]
      exact fun _ member => absurd member List.not_mem_nil
  | cons first text inductionHypothesis =>
      have later {part : List Char} (among : part ∈ splitAll separator text) :
          ∀ character ∈ part,
            character ∈ first :: text ∧ character ≠ separator := by
        intro character within
        obtain ⟨member, other⟩ := inductionHypothesis among character within
        exact ⟨List.mem_cons_of_mem _ member, other⟩
      rw [splitAll] at among
      split at among
      · rcases List.mem_cons.mp among with rfl | among
        · exact fun _ member => absurd member List.not_mem_nil
        · exact later among
      · next other =>
          have fresh : first ≠ separator := by simpa using other
          split at among
          · rw [List.mem_singleton] at among
            rw [among, List.forall_mem_singleton]
            exact ⟨List.mem_cons_self, fresh⟩
          · next shape =>
              rcases List.mem_cons.mp among with rfl | among
              · rw [List.forall_mem_cons]
                refine ⟨⟨List.mem_cons_self, fresh⟩, later ?_⟩
                rw [shape]
                exact List.mem_cons_self
              · apply later
                rw [shape]
                exact List.mem_cons_of_mem _ among

end Text

namespace Url

/-- A character can stand in a segment of a path. -/
def IsSegmentCharacter (character : Char) : Prop :=
  character ≠ '/' ∧ character ≠ '\\' ∧ encodedInPath character = false

instance (character : Char) : Decidable (IsSegmentCharacter character) :=
  inferInstanceAs (Decidable (_ ∧ _ ∧ _))

/-- A segment as it stands in a path that was read. -/
structure IsNormalSegment (segment : List Char) : Prop where
  /-- Its characters stand for themselves. -/
  plain : ∀ character ∈ segment, IsSegmentCharacter character
  /-- It does not stand for the segment before it. -/
  notDouble : isDoubleDot segment = false
  /-- It does not stand for itself only. -/
  notSingle : isSingleDot segment = false

/-- A path as it stands in an address that was read. -/
def IsNormalPath (path : List Char) : Prop :=
  ∃ segments,
    path = joinSegments segments ∧
      ∀ segment ∈ segments, IsNormalSegment segment

theorem isNormalSegment_nil : IsNormalSegment [] :=
  ⟨nofun, by decide, by decide⟩

/-- A name that can be checked character by character. -/
theorem isNormalSegment_of_all
    {segment : List Char}
    (plain :
      (segment.all fun character => decide (IsSegmentCharacter character)) =
        true)
    (notDouble : isDoubleDot segment = false)
    (notSingle : isSingleDot segment = false) :
    IsNormalSegment segment := by
  refine ⟨fun character among => ?_, notDouble, notSingle⟩
  exact of_decide_eq_true (List.all_eq_true.mp plain character among)

/-! ## Characters that stand for themselves -/

theorem isSegmentCharacter_hexDigit {value : Nat} (digit : value < 16) :
    IsSegmentCharacter (hexDigit value) := by
  interval_cases value <;> decide

/-- What is encoded holds percent signs, hexadecimal digits, and the characters
that stand for themselves. -/
theorem forall_mem_percentEncode
    {property : Char -> Prop}
    {encoded : Char -> Bool}
    {text : List Char}
    (sign : property '%')
    (digits : ∀ value < 16, property (hexDigit value))
    (kept :
      ∀ character ∈ text, encoded character = false -> property character) :
    ∀ character ∈ percentEncode encoded text, property character := by
  intro character among
  obtain ⟨source, member, among⟩ := List.mem_flatMap.mp among
  split at among
  · obtain ⟨byte, -, among⟩ := List.mem_flatMap.mp among
    have short : byte.toNat < 256 := byte.toNat_lt
    simp only [percentByte, List.mem_cons, List.not_mem_nil, or_false] at among
    rcases among with rfl | rfl | rfl
    · exact sign
    · exact digits _ (by omega)
    · exact digits _ (by omega)
  · next plain =>
      rw [List.mem_singleton] at among
      subst among
      exact kept _ member (Bool.eq_false_iff.mpr plain)

/-- What is left of an encoded segment stands for itself. -/
theorem isSegmentCharacter_of_mem_percentEncode
    {segment : List Char}
    (unslashed :
      ∀ character ∈ segment, character ≠ '/' ∧ character ≠ '\\') :
    ∀ character ∈ percentEncode encodedInPath segment,
      IsSegmentCharacter character :=
  forall_mem_percentEncode (by decide) (fun _ => isSegmentCharacter_hexDigit)
    fun character member kept =>
      ⟨(unslashed character member).1, (unslashed character member).2, kept⟩

/-- Characters that stand for themselves are not encoded. -/
theorem percentEncode_of_forall
    {encoded : Char -> Bool}
    {text : List Char}
    (kept : ∀ character ∈ text, encoded character = false) :
    percentEncode encoded text = text := by
  have single :
      ∀ character ∈ text,
        (if encoded character then
            (Text.Utf8.encodeChar character).flatMap percentByte
          else [character]) =
          [character] := by
    intro character member
    rw [kept character member]
    rfl
  rw [percentEncode, List.flatMap_congr single, List.flatMap_singleton']

/-! ## Segments -/

/-- Dot segments are resolved, and what was normal stays so. -/
theorem resolveSegments_normal
    {resolved segments : List (List Char)}
    (normal : ∀ segment ∈ resolved, IsNormalSegment segment)
    (plain :
      ∀ segment ∈ segments,
        ∀ character ∈ segment, IsSegmentCharacter character) :
    ∀ segment ∈ resolveSegments false resolved segments,
      IsNormalSegment segment := by
  induction segments generalizing resolved with
  | nil =>
      intro segment among
      exact normal segment (List.mem_reverse.mp among)
  | cons first segments inductionHypothesis =>
      obtain ⟨firstPlain, plain⟩ := List.forall_mem_cons.mp plain
      have marked {shorter : List (List Char)}
          (within : ∀ segment ∈ shorter, IsNormalSegment segment) :
          ∀ segment ∈
              if segments.isEmpty then [] :: shorter else shorter,
            IsNormalSegment segment := by
        split
        · exact List.forall_mem_cons.mpr ⟨isNormalSegment_nil, within⟩
        · exact within
      unfold resolveSegments
      dsimp only
      split
      · apply inductionHypothesis (marked _) plain
        intro segment among
        unfold dropSegment at among
        split at among
        · exact absurd among List.not_mem_nil
        · exact normal segment (List.mem_of_mem_tail among)
      split
      · exact inductionHypothesis (marked normal) plain
      · next notDouble notSingle =>
          simp only [Bool.false_and, Bool.false_eq_true, if_false]
          apply inductionHypothesis _ plain
          rw [List.forall_mem_cons]
          exact
            ⟨⟨firstPlain, Bool.eq_false_iff.mpr notDouble,
              Bool.eq_false_iff.mpr notSingle⟩, normal⟩

/-- Segments in normal form are what they are resolved to. -/
theorem resolveSegments_of_normal
    (resolved : List (List Char))
    {segments : List (List Char)}
    (normal : ∀ segment ∈ segments, IsNormalSegment segment) :
    resolveSegments false resolved segments =
      resolved.reverse ++ segments := by
  induction segments generalizing resolved with
  | nil => exact (List.append_nil _).symm
  | cons first segments inductionHypothesis =>
      obtain ⟨firstNormal, normal⟩ := List.forall_mem_cons.mp normal
      rw [resolveSegments]
      simp only [firstNormal.notDouble, firstNormal.notSingle,
        Bool.false_and, Bool.false_eq_true, if_false]
      rw [inductionHypothesis _ normal, List.reverse_cons, List.append_assoc]
      rfl

theorem segmentsOf_plain (text : List Char) :
    ∀ segment ∈ segmentsOf true text,
      ∀ character ∈ segment, IsSegmentCharacter character := by
  intro segment among
  obtain ⟨part, split, rfl⟩ := List.mem_map.mp among
  apply isSegmentCharacter_of_mem_percentEncode
  intro character within
  obtain ⟨member, other⟩ := Text.mem_of_mem_splitAll split character within
  rw [if_pos rfl] at member
  obtain ⟨source, -, rfl⟩ := List.mem_map.mp member
  refine ⟨other, ?_⟩
  split
  · decide
  · next unmarked => simpa using unmarked

/-! ## Paths -/

theorem joinSegments_append (first second : List (List Char)) :
    joinSegments (first ++ second) = joinSegments first ++ joinSegments second :=
  List.flatMap_append

theorem joinSegments_singleton (segment : List Char) :
    joinSegments [segment] = '/' :: segment := by
  simp [joinSegments]

/-- Segments behind slashes are segments between slashes behind one more. -/
theorem joinSegments_eq_intercalate
    {segments : List (List Char)}
    (nonempty : segments ≠ []) :
    joinSegments segments = '/' :: ['/'].intercalate segments := by
  induction segments with
  | nil => exact absurd rfl nonempty
  | cons first segments inductionHypothesis =>
      cases segments with
      | nil => simp [joinSegments, List.intercalate]
      | cons second segments =>
          rw [← List.singleton_append, joinSegments_append,
            joinSegments_singleton, inductionHypothesis (List.cons_ne_nil _ _),
            List.singleton_append, List.intercalate_cons_cons]
          simp

/-- Segments in normal form are read from between their slashes. -/
theorem segmentsOf_intercalate
    {segments : List (List Char)}
    (normal : ∀ segment ∈ segments, IsNormalSegment segment)
    (nonempty : segments ≠ []) :
    segmentsOf true (['/'].intercalate segments) = segments := by
  have unmarked : '\\' ∉ ['/'].intercalate segments := by
    intro marked
    have within : '\\' ∈ joinSegments segments := by
      rw [joinSegments_eq_intercalate nonempty]
      exact List.mem_cons_of_mem _ marked
    obtain ⟨segment, among, within⟩ := List.mem_flatMap.mp within
    rcases List.mem_cons.mp within with slash | within
    · exact absurd slash (by decide)
    · exact ((normal segment among).plain _ within).2.1 rfl
  have unchanged :
      ∀ character ∈ ['/'].intercalate segments,
        (if character == '\\' then '/' else character) = id character := by
    intro character among
    apply if_neg
    rw [beq_iff_eq]
    rintro rfl
    exact unmarked among
  have clean : ∀ segment ∈ segments, '/' ∉ segment := by
    intro segment among slash
    exact ((normal segment among).plain _ slash).1 rfl
  have kept :
      ∀ segment ∈ segments,
        percentEncode encodedInPath segment = id segment := by
    intro segment among
    apply percentEncode_of_forall
    intro character within
    exact ((normal segment among).plain character within).2.2
  rw [segmentsOf, if_pos rfl, List.map_congr_left unchanged, List.map_id,
    Text.splitAll_intercalate clean nonempty, List.map_congr_left kept,
    List.map_id]

/-- A path that was read is in normal form. -/
theorem readPath_isNormalPath (text : List Char) :
    IsNormalPath (readPath true false text) :=
  ⟨resolveSegments false [] (segmentsOf true text), rfl,
    resolveSegments_normal nofun (segmentsOf_plain text)⟩

/-- A path in normal form is read as itself. -/
theorem IsNormalPath.readPath_eq
    {path : List Char}
    (normal : IsNormalPath path)
    (nonempty : path ≠ []) :
    readPath true false (dropSlash true path) = path := by
  obtain ⟨segments, rfl, normal⟩ := normal
  have filled : segments ≠ [] := by
    rintro rfl
    exact nonempty rfl
  rw [joinSegments_eq_intercalate filled]
  change
    joinSegments
        (resolveSegments false []
          (segmentsOf true (['/'].intercalate segments))) =
      _
  rw [segmentsOf_intercalate normal filled,
    resolveSegments_of_normal [] normal, List.reverse_nil, List.nil_append,
    joinSegments_eq_intercalate filled]

/-- A path in normal form stays so without the slashes at its end. -/
theorem IsNormalPath.dropWhileEnd
    {path : List Char}
    (normal : IsNormalPath path) :
    IsNormalPath (Text.dropWhileEnd (· == '/') path) := by
  obtain ⟨segments, rfl, normal⟩ := normal
  change IsNormalPath (List.rdropWhile (· == '/') (joinSegments segments))
  induction segments using List.reverseRecOn with
  | nil => exact ⟨[], rfl, nofun⟩
  | append_singleton segments last inductionHypothesis =>
      rw [List.forall_mem_append, List.forall_mem_singleton] at normal
      obtain ⟨normal, lastNormal⟩ := normal
      rcases List.eq_nil_or_concat last with rfl | ⟨front, final, rfl⟩
      · rw [joinSegments_append, joinSegments_singleton,
          List.rdropWhile_concat_pos _ _ _ (by decide)]
        exact inductionHypothesis normal
      · have other : final ≠ '/' := (lastNormal.plain final (by simp)).1
        rw [List.concat_eq_append] at lastNormal ⊢
        have ends :
            joinSegments (segments ++ [front ++ [final]]) =
              (joinSegments segments ++ '/' :: front) ++ [final] := by
          simp [joinSegments]
        rw [ends, List.rdropWhile_concat_neg _ _ _ (by simpa using other),
          ← ends]
        refine ⟨segments ++ [front ++ [final]], rfl, ?_⟩
        rw [List.forall_mem_append, List.forall_mem_singleton]
        exact ⟨normal, lastNormal⟩

/-- A path in normal form stays so with one more segment. -/
theorem IsNormalPath.append
    {path segment : List Char}
    (normal : IsNormalPath path)
    (last : IsNormalSegment segment) :
    IsNormalPath (path ++ '/' :: segment) := by
  obtain ⟨segments, rfl, normal⟩ := normal
  refine ⟨segments ++ [segment], ?_, ?_⟩
  · rw [joinSegments_append, joinSegments_singleton]
  · rw [List.forall_mem_append, List.forall_mem_singleton]
    exact ⟨normal, last⟩

/-! ## Addresses of the web -/

theorem exists_of_map_eq_ok
    {α β ε : Type}
    {change : α -> β}
    {result : Except ε α}
    {value : β}
    (mapped : result.map change = .ok value) :
    ∃ source, result = .ok source ∧ change source = value := by
  cases result with
  | error fault => exact nomatch mapped
  | ok source => exact ⟨source, rfl, Except.ok.inj mapped⟩

@[simp] theorem withTail_path
    (url : Url)
    (special : Bool)
    (text : List Char) :
    (withTail url special text).path = url.path := by
  unfold withTail
  dsimp only
  split <;> rfl

@[simp] theorem withTail_scheme
    (url : Url)
    (special : Bool)
    (text : List Char) :
    (withTail url special text).scheme = url.scheme := by
  unfold withTail
  dsimp only
  split <;> rfl

theorem isWeb_iff {url : Url} :
    url.isWeb = true ↔
      url.scheme = "http".toList ∨ url.scheme = "https".toList := by
  rw [isWeb, Bool.or_eq_true, beq_iff_eq, beq_iff_eq]

/-- An address of the web has a special scheme other than that of files. -/
theorem isWeb_scheme
    {url : Url}
    (web : url.isWeb = true) :
    isSpecialScheme url.scheme = true ∧ url.scheme ≠ "file".toList := by
  rcases isWeb_iff.mp web with http | https
  · rw [http]
    decide
  · rw [https]
    decide

variable [NameConversion]

theorem readWithAuthority_scheme
    {scheme text : List Char}
    {special : Bool}
    {url : Url}
    (read : readWithAuthority scheme special text = .ok url) :
    url.scheme = scheme := by
  unfold readWithAuthority at read
  split at read
  · exact nomatch read
  · cases read
    exact withTail_scheme ..

theorem readWithAuthority_isNormalPath
    {scheme text : List Char}
    {url : Url}
    (read : readWithAuthority scheme true text = .ok url) :
    IsNormalPath url.path := by
  unfold readWithAuthority at read
  split at read
  · exact nomatch read
  · cases read
    simp only [Bool.not_true, Bool.and_false, Bool.false_eq_true, if_false,
      withTail_path]
    exact readPath_isNormalPath _

theorem readFile_scheme
    {text : List Char}
    {url : Url}
    (read : readFile text = .ok url) :
    url.scheme = "file".toList := by
  unfold readFile at read
  dsimp only at read
  split at read
  · split at read
    · split at read
      · cases read
        exact withTail_scheme ..
      · obtain ⟨host, -, rfl⟩ := exists_of_map_eq_ok read
        exact withTail_scheme ..
    · cases read
      exact withTail_scheme ..
  · cases read
    exact withTail_scheme ..

theorem readGeneric_scheme
    {scheme text : List Char}
    {url : Url}
    (read : readGeneric scheme text = .ok url) :
    url.scheme = scheme := by
  unfold readGeneric at read
  split at read
  · exact readWithAuthority_scheme read
  · cases read
    exact withTail_scheme ..

/-- An address of the web is read from behind its scheme. -/
theorem exists_readWithAuthority_of_parse
    {text : List Char}
    {url : Url}
    (read : parse text = .ok url)
    (web : url.isWeb = true) :
    ∃ rest, readWithAuthority url.scheme true rest = .ok url := by
  obtain ⟨special, notFile⟩ := isWeb_scheme web
  unfold parse at read
  split at read
  · cases read
  · split at read
    · exact absurd (readFile_scheme read) notFile
    · split at read
      · rw [readWithAuthority_scheme read]
        exact ⟨_, read⟩
      · next ordinary =>
          rw [← readGeneric_scheme read] at ordinary
          exact absurd special ordinary

/-- The path of an address of the web that was read is in normal form. -/
theorem parse_isNormalPath
    {text : List Char}
    {url : Url}
    (read : parse text = .ok url)
    (web : url.isWeb = true) :
    IsNormalPath url.path := by
  obtain ⟨rest, read⟩ := exists_readWithAuthority_of_parse read web
  exact readWithAuthority_isNormalPath read

end Url
end FieldOcr
