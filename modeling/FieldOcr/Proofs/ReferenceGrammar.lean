import FieldOcr.Markup.Reference

/-!
# References that can be expanded

A text can be expanded exactly if each of its ampersands begins a reference:
the name of a predefined entity or the code of a character, with a semicolon
behind it.  There is no other entity.
-/

namespace FieldOcr

namespace Text

/-- The number that digits stand for behind a number, if they all are
digits. -/
def numeralFrom? (base value : Nat) (digits : List Char) : Option Nat :=
  digits.foldlM
    (fun value digit => (digitValue? base digit).map (value * base + ·))
    value

@[simp] theorem numeralFrom?_nil (base value : Nat) :
    numeralFrom? base value [] = some value := rfl

theorem numeralFrom?_cons
    (base value : Nat)
    (digit : Char)
    (digits : List Char) :
    numeralFrom? base value (digit :: digits) =
      (digitValue? base digit).bind fun read =>
        numeralFrom? base (value * base + read) digits := by
  unfold numeralFrom?
  rw [List.foldlM_cons]
  cases digitValue? base digit <;> rfl

/-- More digits never make a number smaller. -/
theorem le_of_numeralFrom?
    {base value number : Nat}
    {digits : List Char}
    (positive : 0 < base)
    (stands : numeralFrom? base value digits = some number) :
    value ≤ number := by
  induction digits generalizing value with
  | nil =>
      rw [numeralFrom?_nil] at stands
      exact Nat.le_of_eq (Option.some.inj stands)
  | cons digit digits inductionHypothesis =>
      rw [numeralFrom?_cons] at stands
      obtain ⟨read, -, rest⟩ := Option.bind_eq_some_iff.mp stands
      have grown : value ≤ value * base := Nat.le_mul_of_pos_right value positive
      have below := inductionHypothesis rest
      omega

/-- Digits are read exactly if they stand for a number up to the limit. -/
theorem readDigits_eq_ok_iff
    {base limit value number : Nat}
    {overflow : NumeralFault}
    {digits : List Char}
    (positive : 0 < base)
    (below : value ≤ limit) :
    readDigits base limit overflow value digits = .ok number ↔
      numeralFrom? base value digits = some number ∧ number ≤ limit := by
  induction digits generalizing value with
  | nil =>
      rw [readDigits, numeralFrom?_nil, Except.ok.injEq, Option.some.injEq]
      constructor
      · rintro rfl
        exact ⟨rfl, below⟩
      · exact And.left
  | cons digit digits inductionHypothesis =>
      rw [readDigits, numeralFrom?_cons]
      cases digitValue? base digit with
      | none => simp
      | some read =>
          by_cases within : value * base + read ≤ limit
          · simpa [within] using inductionHypothesis within
          · simp only [within, if_false, Option.bind_some]
            refine iff_of_false nofun ?_
            rintro ⟨stands, bounded⟩
            exact within
              (Nat.le_trans (le_of_numeralFrom? positive stands) bounded)

/-- No sign is a digit. -/
theorem digitValue?_of_sign
    (base : Nat)
    {sign : Char}
    (known : sign = '+' ∨ sign = '-') :
    digitValue? base sign = none := by
  rcases known with rfl | rfl <;> rfl

/-- Without a sign, a numeral is its digits. -/
theorem readUnsigned_of_unsigned
    (base limit : Nat)
    {first : Char}
    (rest : List Char)
    (unsigned : ¬(first = '+' ∨ first = '-')) :
    readUnsigned base limit (first :: rest) =
      readDigits base limit .tooLarge 0 (first :: rest) := by
  rw [not_or] at unsigned
  unfold readUnsigned
  split <;> simp_all

end Text

namespace Markup

/-- A code that a character reference may have: that of a character other than
the first one. -/
def IsReferable (code : Nat) : Prop :=
  code ≠ 0 ∧ code.isValidChar

/-- Digits stand for the code of a character. -/
def DenotesCharacter (base : Nat) (digits : List Char) : Prop :=
  digits ≠ [] ∧
    ∃ code,
      Text.numeralFrom? base 0 digits = some code ∧ IsReferable code

/-- The names of the predefined entities. -/
def predefinedNames : List (List Char) :=
  ["lt".toList, "gt".toList, "amp".toList, "apos".toList, "quot".toList]

/-- What may stand between an ampersand and its semicolon: the name of a
predefined entity, or the decimal or hexadecimal code of a character. -/
def IsReference (body : List Char) : Prop :=
  body ∈ predefinedNames ∨
    (∃ digits, body = '#' :: digits ∧ DenotesCharacter 10 digits) ∨
    ∃ digits, body = '#' :: 'x' :: digits ∧ DenotesCharacter 16 digits

/-- Each ampersand of a text begins a reference. -/
def WellReferenced (text : List Char) : Prop :=
  ∀ front behind,
    text = front ++ '&' :: behind ->
      ∃ body rest, behind = body ++ ';' :: rest ∧ IsReference body

/-! ## Codes of characters -/

theorem mapError_eq_ok_iff
    {ε ε' α : Type}
    {result : Except ε α}
    {wrap : ε -> ε'}
    {value : α} :
    result.mapError wrap = .ok value ↔ result = .ok value := by
  cases result with
  | error fault => exact iff_of_false nofun nofun
  | ok read =>
      constructor <;> intro same <;> cases same <;> rfl

/-- A code is read exactly if its digits stand for it and it fits a word of 32
bits. -/
theorem readCode_eq_ok_iff
    {base code : Nat}
    {digits : List Char}
    (positive : 0 < base) :
    readCode base digits = .ok code ↔
      digits ≠ [] ∧ Text.numeralFrom? base 0 digits = some code ∧
        code ≤ Text.wordLimit 32 := by
  cases digits with
  | nil => simp [readCode, Text.readUnsigned]
  | cons first rest =>
      by_cases signed : first = '+' ∨ first = '-'
      · rw [Text.numeralFrom?_cons, Text.digitValue?_of_sign base signed]
        rcases signed with rfl | rfl <;> simp [readCode]
      · have unsigned :
            readCode base (first :: rest) =
              (Text.readDigits base (Text.wordLimit 32) .tooLarge 0
                (first :: rest)).mapError .numeral := by
          rw [← Text.readUnsigned_of_unsigned _ _ _ signed]
          rw [not_or] at signed
          unfold readCode
          split
          · simp_all
          · simp_all
          · cases Text.readUnsigned base (Text.wordLimit 32) (first :: rest) <;>
              rfl
        rw [unsigned, mapError_eq_ok_iff,
          Text.readDigits_eq_ok_iff positive (Nat.zero_le _)]
        simp

/-- Where a code is read that a reference may have, its digits denote a
character; the word that it is read into is long enough. -/
theorem denotesCharacter_iff
    {base : Nat}
    {digits : List Char}
    (positive : 0 < base) :
    DenotesCharacter base digits ↔
      ∃ code, readCode base digits = .ok code ∧ IsReferable code := by
  unfold DenotesCharacter
  simp only [readCode_eq_ok_iff positive]
  constructor
  · rintro ⟨nonempty, code, stands, referable⟩
    -- The codes of characters end far below the limit of the word.
    have fits : code ≤ Text.wordLimit 32 := by
      have small : code < 0x110000 := by
        rcases referable.2 with low | ⟨-, high⟩
        · omega
        · exact high
      have limit : Text.wordLimit 32 = 0xFFFFFFFF := rfl
      omega
    exact ⟨code, ⟨nonempty, stands, fits⟩, referable⟩
  · rintro ⟨code, ⟨nonempty, stands, -⟩, referable⟩
    exact ⟨nonempty, code, stands, referable⟩

/-- The character of a code that was read. -/
def charOfCode (code : Nat) : Except CharacterFault Char :=
  if code = 0 then .error .zero
  else if code.isValidChar then .ok (Char.ofNat code)
  else .error (.notScalar code)

theorem exists_charOfCode_iff {read : Except CharacterFault Nat} :
    (∃ character, read.bind charOfCode = .ok character) ↔
      ∃ code, read = .ok code ∧ IsReferable code := by
  cases read with
  | error fault => simp [Except.bind]
  | ok code =>
      by_cases zero : code = 0
      · simp [Except.bind, charOfCode, IsReferable, zero]
      · by_cases valid : code.isValidChar <;>
          simp [Except.bind, charOfCode, IsReferable, zero, valid]

theorem referencedChar_hexadecimal (digits : List Char) :
    referencedChar ('x' :: digits) =
      (readCode 16 digits).bind charOfCode := by
  cases read : readCode 16 digits <;> simp only [referencedChar, read] <;> rfl

theorem referencedChar_decimal
    {digits : List Char}
    (decimal : digits.head? ≠ some 'x') :
    referencedChar digits = (readCode 10 digits).bind charOfCode := by
  unfold referencedChar
  split
  · exact absurd rfl decimal
  · cases readCode 10 digits <;> rfl

/-- What stands behind a number sign is read as digits of one of two bases. -/
theorem exists_referencedChar_iff {body : List Char} :
    (∃ character, referencedChar body = .ok character) ↔
      DenotesCharacter 10 body ∨
        ∃ digits, body = 'x' :: digits ∧ DenotesCharacter 16 digits := by
  by_cases hexadecimal : body.head? = some 'x'
  · obtain ⟨digits, rfl⟩ := List.head?_eq_some_iff.mp hexadecimal
    have undecimal : ¬DenotesCharacter 10 ('x' :: digits) := by
      rintro ⟨-, code, stands, -⟩
      cases stands
    rw [referencedChar_hexadecimal, exists_charOfCode_iff,
      ← denotesCharacter_iff (by decide)]
    simp [undecimal]
  · have other :
        ¬∃ digits, body = 'x' :: digits ∧ DenotesCharacter 16 digits := by
      rintro ⟨digits, rfl, -⟩
      exact hexadecimal rfl
    rw [referencedChar_decimal hexadecimal, exists_charOfCode_iff,
      ← denotesCharacter_iff (by decide), or_iff_left other]

theorem exists_predefined?_iff {name : List Char} :
    (∃ character, predefined? name = some character) ↔
      name ∈ predefinedNames := by
  unfold predefined? predefinedNames
  simp only [List.mem_cons, List.not_mem_nil, or_false]
  repeat' split
  all_goals simp_all

/-- A reference is resolved exactly if it is one. -/
theorem exists_resolve_iff {start : Nat} {body : List Char} :
    (∃ character, resolve start body = .ok character) ↔ IsReference body := by
  unfold resolve IsReference
  split
  · next digits =>
      have unnamed : '#' :: digits ∉ predefinedNames := by
        simp [predefinedNames]
      simp only [mapError_eq_ok_iff, exists_referencedChar_iff, unnamed,
        false_or, List.cons.injEq, true_and, exists_eq_left']
  · next unnumbered =>
      have numberless :
          ¬((∃ digits, body = '#' :: digits ∧ DenotesCharacter 10 digits) ∨
            ∃ digits,
              body = '#' :: 'x' :: digits ∧ DenotesCharacter 16 digits) := by
        rintro (⟨digits, whole, -⟩ | ⟨digits, whole, -⟩)
        · exact unnumbered _ whole
        · exact unnumbered _ whole
      rw [← exists_predefined?_iff, or_iff_left numberless]
      cases predefined? body <;> simp

/-! ## Marks -/

/-- A text holds no ampersand and no semicolon. -/
def Unmarked (text : List Char) : Prop :=
  '&' ∉ text ∧ ';' ∉ text

theorem unmarked_cons_iff {character : Char} {text : List Char} :
    Unmarked (character :: text) ↔
      (character ≠ '&' ∧ character ≠ ';') ∧ Unmarked text := by
  unfold Unmarked
  simp only [List.mem_cons, not_or, ne_eq, eq_comm (a := '&'),
    eq_comm (a := ';')]
  exact and_and_and_comm

/-- A text is cut at its first mark. -/
theorem splitAtMark_cases (taken text : List Char) :
    (Unmarked text ∧
      splitAtMark taken text = (taken.reverse ++ text, none)) ∨
    ∃ before mark rest,
      text = before ++ mark :: rest ∧
        Unmarked before ∧
        (mark = '&' ∨ mark = ';') ∧
        splitAtMark taken text =
          (taken.reverse ++ before, some (mark, rest)) := by
  induction text generalizing taken with
  | nil => exact Or.inl ⟨⟨nofun, nofun⟩, by simp [splitAtMark]⟩
  | cons character text inductionHypothesis =>
      by_cases marks : character = '&' ∨ character = ';'
      · right
        refine ⟨[], character, text, rfl, ⟨nofun, nofun⟩, marks, ?_⟩
        simp [splitAtMark, marks]
      · have step :
            splitAtMark taken (character :: text) =
              splitAtMark (character :: taken) text := by
          simp [splitAtMark, marks]
        rw [step]
        rw [not_or] at marks
        rcases inductionHypothesis (character :: taken) with
          ⟨unmarked, split⟩ | ⟨before, mark, rest, rfl, unmarked, known, split⟩
        · left
          refine ⟨unmarked_cons_iff.mpr ⟨marks, unmarked⟩, ?_⟩
          rw [split, List.reverse_cons, List.append_assoc]
          rfl
        · right
          refine ⟨character :: before, mark, rest, rfl,
            unmarked_cons_iff.mpr ⟨marks, unmarked⟩, known, ?_⟩
          rw [split, List.reverse_cons, List.append_assoc]
          rfl

/-- A text that is cut at a semicolon has its first mark there. -/
theorem eq_of_splitAtMark
    {text body rest : List Char}
    (cut : splitAtMark [] text = (body, some (';', rest))) :
    text = body ++ ';' :: rest ∧ Unmarked body := by
  rcases splitAtMark_cases [] text with
    ⟨-, other⟩ | ⟨before, mark, behind, rfl, unmarked, -, other⟩
  · cases other.symm.trans cut
  · cases other.symm.trans cut
    exact ⟨rfl, unmarked⟩

/-- A text that is not cut at a semicolon has none in front of its first
ampersand. -/
theorem unterminated_of_splitAtMark
    {text : List Char}
    (uncut :
      ∀ body rest, splitAtMark [] text = (body, some (';', rest)) -> False) :
    Unmarked text ∨
      ∃ before rest, text = before ++ '&' :: rest ∧ Unmarked before := by
  rcases splitAtMark_cases [] text with
    ⟨unmarked, -⟩ | ⟨before, mark, behind, rfl, unmarked, rfl | rfl, cut⟩
  · exact Or.inl unmarked
  · exact Or.inr ⟨before, behind, rfl, unmarked⟩
  · exact (uncut before behind cut).elim

/-- A text has one first mark. -/
theorem first_mark_unique
    {before otherBefore rest otherRest : List Char}
    {mark other : Char}
    (unmarked : Unmarked before)
    (otherUnmarked : Unmarked otherBefore)
    (known : mark = '&' ∨ mark = ';')
    (otherKnown : other = '&' ∨ other = ';')
    (same : before ++ mark :: rest = otherBefore ++ other :: otherRest) :
    before = otherBefore ∧ mark = other ∧ rest = otherRest := by
  induction before generalizing otherBefore with
  | nil =>
      cases otherBefore with
      | nil =>
          cases same
          exact ⟨rfl, rfl, rfl⟩
      | cons character otherBefore =>
          cases same
          have apart := (unmarked_cons_iff.mp otherUnmarked).1
          rcases known with rfl | rfl
          · exact absurd rfl apart.1
          · exact absurd rfl apart.2
  | cons character before inductionHypothesis =>
      have apart := unmarked_cons_iff.mp unmarked
      cases otherBefore with
      | nil =>
          cases same
          rcases otherKnown with rfl | rfl
          · exact absurd rfl apart.1.1
          · exact absurd rfl apart.1.2
      | cons otherCharacter otherBefore =>
          obtain ⟨rfl, rest⟩ := List.cons.inj same
          obtain ⟨rfl, rfl, rfl⟩ :=
            inductionHypothesis apart.2 (unmarked_cons_iff.mp otherUnmarked).2
              rest
          exact ⟨rfl, rfl, rfl⟩

/-- No digit is a mark. -/
theorem unmarked_of_numeralFrom?
    {base value number : Nat}
    {digits : List Char}
    (stands : Text.numeralFrom? base value digits = some number) :
    Unmarked digits := by
  induction digits generalizing value with
  | nil => exact ⟨nofun, nofun⟩
  | cons digit digits inductionHypothesis =>
      rw [Text.numeralFrom?_cons] at stands
      obtain ⟨read, known, rest⟩ := Option.bind_eq_some_iff.mp stands
      refine unmarked_cons_iff.mpr ⟨⟨?_, ?_⟩, inductionHypothesis rest⟩
      · rintro rfl
        exact nomatch known
      · rintro rfl
        exact nomatch known

/-- What stands between an ampersand and its semicolon holds neither. -/
theorem IsReference.unmarked
    {body : List Char}
    (reference : IsReference body) :
    Unmarked body := by
  rcases reference with known | ⟨digits, rfl, -, code, stands, -⟩ |
    ⟨digits, rfl, -, code, stands, -⟩
  · simp only [predefinedNames, List.mem_cons, List.not_mem_nil, or_false]
      at known
    rcases known with rfl | rfl | rfl | rfl | rfl <;>
      exact ⟨by decide, by decide⟩
  · exact unmarked_cons_iff.mpr
      ⟨⟨by decide, by decide⟩, unmarked_of_numeralFrom? stands⟩
  · have unmarked := unmarked_of_numeralFrom? stands
    exact unmarked_cons_iff.mpr
      ⟨⟨by decide, by decide⟩,
        unmarked_cons_iff.mpr ⟨⟨by decide, by decide⟩, unmarked⟩⟩

/-! ## Whole texts -/

theorem wellReferenced_nil : WellReferenced [] := by
  intro front behind impossible
  exact absurd impossible (by simp)

theorem wellReferenced_cons_iff
    {character : Char}
    {text : List Char}
    (plain : character ≠ '&') :
    WellReferenced (character :: text) ↔ WellReferenced text := by
  constructor
  · intro referenced front behind whole
    exact referenced (character :: front) behind (by rw [whole]; rfl)
  · intro referenced front behind whole
    cases front with
    | nil => exact absurd (List.cons.inj whole).1 plain
    | cons first front => exact referenced front behind (List.cons.inj whole).2

/-- An ampersand begins a reference if there is one up to the first mark, which
is a semicolon. -/
theorem wellReferenced_reference_iff
    {body rest : List Char}
    (unmarked : Unmarked body) :
    WellReferenced ('&' :: (body ++ ';' :: rest)) ↔
      IsReference body ∧ WellReferenced rest := by
  constructor
  · intro referenced
    constructor
    · obtain ⟨other, otherRest, whole, reference⟩ := referenced [] _ rfl
      obtain ⟨rfl, -⟩ :=
        first_mark_unique unmarked reference.unmarked (Or.inr rfl) (Or.inr rfl)
          whole
      exact reference
    · intro front behind whole
      apply referenced ('&' :: (body ++ ';' :: front))
      rw [whole]
      simp
  · rintro ⟨reference, referenced⟩ front behind whole
    cases front with
    | nil => exact ⟨body, rest, (List.cons.inj whole).2.symm, reference⟩
    | cons first front =>
        -- A later ampersand stands behind the semicolon, as the body has none.
        rcases List.append_eq_append_iff.mp (List.cons.inj whole).2 with
          ⟨between, rfl, within⟩ | ⟨between, rfl, within⟩
        · rcases List.cons_eq_append_iff.mp within with
            ⟨-, impossible⟩ | ⟨more, -, there⟩
          · exact absurd (List.cons.inj impossible).1 (by decide)
          · exact referenced more behind there
        · rcases List.cons_eq_append_iff.mp within with
            ⟨-, impossible⟩ | ⟨more, rfl, -⟩
          · exact absurd (List.cons.inj impossible).1 (by decide)
          · exact absurd (List.mem_append_right _ (List.mem_cons_self ..))
              unmarked.1

/-- An ampersand without a semicolon in front of the next one begins no
reference. -/
theorem not_wellReferenced_of_unterminated
    {text : List Char}
    (unterminated :
      Unmarked text ∨
        ∃ before rest, text = before ++ '&' :: rest ∧ Unmarked before) :
    ¬WellReferenced ('&' :: text) := by
  intro referenced
  obtain ⟨body, rest, rfl, reference⟩ := referenced [] text rfl
  rcases unterminated with unmarked | ⟨before, other, whole, unmarked⟩
  · exact unmarked.2 (List.mem_append_right _ (List.mem_cons_self ..))
  · obtain ⟨-, impossible, -⟩ :=
      first_mark_unique reference.unmarked unmarked (Or.inr rfl) (Or.inl rfl)
        whole
    exact absurd impossible (by decide)

/-- What is expanded onto other text is expanded exactly if each ampersand
begins a reference. -/
theorem exists_expandOnto_iff
    (total offset : Nat)
    (expanded text : List Char) :
    (∃ result, expandOnto total offset expanded text = .ok result) ↔
      WellReferenced text := by
  fun_induction expandOnto total offset expanded text with
  | case1 => exact iff_of_true ⟨_, rfl⟩ wellReferenced_nil
  | case2 =>
      rename_i cut _ failed
      obtain ⟨rfl, unmarked⟩ := eq_of_splitAtMark cut
      rw [wellReferenced_reference_iff unmarked, ← exists_resolve_iff, failed]
      simp
  | case3 =>
      rename_i cut _ resolved inductionHypothesis
      obtain ⟨rfl, unmarked⟩ := eq_of_splitAtMark cut
      rw [wellReferenced_reference_iff unmarked, ← exists_resolve_iff, resolved,
        inductionHypothesis]
      simp
  | case4 =>
      rename_i uncut
      have unterminated := unterminated_of_splitAtMark uncut
      exact iff_of_false nofun
        (not_wellReferenced_of_unterminated unterminated)
  | case5 =>
      rename_i plain inductionHypothesis
      rw [inductionHypothesis, wellReferenced_cons_iff plain]

/-- A text can be expanded exactly if each of its ampersands begins a
reference. -/
theorem exists_expand_iff {text : List Char} :
    (∃ result, expand text = .ok result) ↔ WellReferenced text :=
  exists_expandOnto_iff ..

end Markup
end FieldOcr
