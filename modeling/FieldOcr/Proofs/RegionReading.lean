import FieldOcr.Proofs.CharsetReading
import FieldOcr.Proofs.Trimming
import FieldOcr.Recognition.Region
import Mathlib.Data.List.Forall2

/-!
# Reading regions

A text is read as a region exactly if it has four parts between its commas,
each a decimal number of 32 bits, and these numbers are the sides of a region
that is not empty or inverted.  The text of a region is such a text.
-/

namespace FieldOcr

namespace Text

/-! ## Decimal numbers -/

/-- A text writes a number: it consists of decimal digits, in front of which a
plus sign may stand. -/
def Writes (text : List Char) (number : Nat) : Prop :=
  ∃ digits,
    (text = digits ∨ text = '+' :: digits) ∧ digits ≠ [] ∧
      (∀ digit ∈ digits, digit.isDigit = true) ∧
      Nat.ofDigitChars 10 digits 0 = number

theorem isDigit_iff {character : Char} :
    character.isDigit = true ↔
      0x30 ≤ character.toNat ∧ character.toNat ≤ 0x39 := by
  simp only [Char.isDigit, Bool.and_eq_true, decide_eq_true_eq,
    UInt32.le_iff_toNat_le, Char.toNat]
  exact Iff.rfl

theorem digitValue?_ten_eq_some_iff {character : Char} {digit : Nat} :
    digitValue? 10 character = some digit ↔
      character.isDigit = true ∧ character.toNat - '0'.toNat = digit := by
  have zero : '0'.toNat = 0x30 := rfl
  unfold digitValue?
  simp only [isDigit_iff, zero, Option.filter_eq_some_iff, Bool.and_eq_true,
    decide_eq_true_eq]
  split
  · simp only [Option.some.injEq]
    omega
  split
  · simp only [Option.some.injEq]
    omega
  split
  · simp only [Option.some.injEq]
    omega
  · simp only [reduceCtorEq, false_and, false_iff]
    omega

/-- Digits stand for the number that they write, and nothing else stands for
one. -/
theorem numeralFrom?_ten_eq_some_iff {value number : Nat} {digits : List Char} :
    numeralFrom? 10 value digits = some number ↔
      (∀ digit ∈ digits, digit.isDigit = true) ∧
        Nat.ofDigitChars 10 digits value = number := by
  induction digits generalizing value with
  | nil => simp
  | cons digit digits inductionHypothesis =>
      rw [numeralFrom?_cons, Option.bind_eq_some_iff, List.forall_mem_cons,
        Nat.ofDigitChars_cons, Nat.mul_comm 10 value]
      constructor
      · rintro ⟨read, digital, rest⟩
        obtain ⟨single, rfl⟩ := digitValue?_ten_eq_some_iff.mp digital
        obtain ⟨digital, stands⟩ := inductionHypothesis.mp rest
        exact ⟨⟨single, digital⟩, stands⟩
      · rintro ⟨⟨single, digital⟩, stands⟩
        exact ⟨_, digitValue?_ten_eq_some_iff.mpr ⟨single, rfl⟩,
          inductionHypothesis.mpr ⟨digital, stands⟩⟩

/-- Text behind a plus sign writes what its digits write. -/
theorem writes_plus_iff {number : Nat} {digits : List Char} :
    Writes ('+' :: digits) number ↔
      digits ≠ [] ∧ numeralFrom? 10 0 digits = some number := by
  rw [numeralFrom?_ten_eq_some_iff]
  constructor
  · rintro ⟨written, rfl | same, nonempty, digital, stands⟩
    · exact absurd (digital '+' List.mem_cons_self) (by decide)
    · cases same
      exact ⟨nonempty, digital, stands⟩
  · rintro ⟨nonempty, digital, stands⟩
    exact ⟨digits, Or.inr rfl, nonempty, digital, stands⟩

/-- Text without a plus sign writes what its own digits write. -/
theorem writes_unsigned_iff
    {number : Nat}
    {text : List Char}
    (unsigned : text.head? ≠ some '+') :
    Writes text number ↔
      text ≠ [] ∧ numeralFrom? 10 0 text = some number := by
  rw [numeralFrom?_ten_eq_some_iff]
  constructor
  · rintro ⟨digits, rfl | rfl, nonempty, digital, stands⟩
    · exact ⟨nonempty, digital, stands⟩
    · exact absurd rfl unsigned
  · rintro ⟨nonempty, digital, stands⟩
    exact ⟨text, Or.inl rfl, nonempty, digital, stands⟩

/-- A numeral is read exactly from a text that writes it, up to the limit. -/
theorem readUnsigned_eq_ok_iff {limit number : Nat} {text : List Char} :
    readUnsigned 10 limit text = .ok number ↔
      Writes text number ∧ number ≤ limit := by
  have digitsRead {digits : List Char} :
      readDigits 10 limit .tooLarge 0 digits = .ok number ↔
        numeralFrom? 10 0 digits = some number ∧ number ≤ limit :=
    readDigits_eq_ok_iff (by decide) (Nat.zero_le _)
  cases text with
  | nil =>
      rw [writes_unsigned_iff (by simp)]
      simp [readUnsigned]
  | cons first rest =>
      by_cases plus : first = '+'
      · subst plus
        rw [writes_plus_iff]
        cases rest with
        | nil => simp [readUnsigned]
        | cons second rest => simp [readUnsigned, digitsRead]
      · rw [writes_unsigned_iff (by simpa using plus)]
        by_cases minus : first = '-'
        · -- A minus sign is no digit.
          subst minus
          have nothing : numeralFrom? 10 0 ('-' :: rest) = none := rfl
          rw [nothing]
          cases rest <;> simp [readUnsigned, digitsRead, nothing]
        · rw [readUnsigned_of_unsigned _ _ _ (by simp [plus, minus]),
            digitsRead]
          simp

/-- A word is read exactly from a text that writes a number of its size. -/
theorem readWord_eq_ok_iff {bits number : Nat} {text : List Char} :
    readWord bits text = .ok number ↔
      Writes text number ∧ number < Nat.pow 2 bits := by
  have positive : 0 < Nat.pow 2 bits := Nat.pow_pos (by decide)
  rw [readWord, readUnsigned_eq_ok_iff, wordLimit]
  exact and_congr Iff.rfl (by omega)

/-- The decimal digits of a number write it. -/
theorem writes_decimal (number : Nat) : Writes (decimal number) number := by
  obtain ⟨digital, stands⟩ :=
    numeralFrom?_ten_eq_some_iff.mp (numeralFrom?_decimal number)
  refine ⟨decimal number, Or.inl rfl, ?_, digital, stands⟩
  rw [decimal]
  split <;> simp

theorem isDigit_of_mem_decimal
    {number : Nat}
    {character : Char}
    (member : character ∈ decimal number) :
    character.isDigit = true :=
  (numeralFrom?_ten_eq_some_iff.mp (numeralFrom?_decimal number)).1 character
    member

theorem isBlank_of_mem_decimal
    {number : Nat}
    {character : Char}
    (member : character ∈ decimal number) :
    isBlank character = false := by
  have digit := isDigit_iff.mp (isDigit_of_mem_decimal member)
  simp only [isBlank, Bool.or_eq_false_iff, Bool.and_eq_false_iff,
    decide_eq_false_iff_not, beq_eq_false_iff_ne]
  omega

theorem comma_not_mem_decimal (number : Nat) : ',' ∉ decimal number := by
  intro member
  exact absurd (isDigit_of_mem_decimal member) (by decide)

/-- What is between the separators of a text is split as it is elsewhere. -/
theorem splitAll_eq_splitOn (separator : Char) (text : List Char) :
    splitAll separator text = text.splitOn separator := by
  induction text with
  | nil => rfl
  | cons character text inductionHypothesis =>
      rw [splitAll, List.splitOn_cons_eq_if_modifyHead, inductionHypothesis]
      split
      · rfl
      · cases empty : text.splitOn separator with
        | nil => exact absurd empty (List.splitOn_ne_nil _ _)
        | cons part parts => rfl

/-- A list is read exactly if each of its members is. -/
theorem mapM_eq_ok_iff
    {α β ε : Type}
    {read : α -> Except ε β}
    {sources : List α}
    {values : List β} :
    sources.mapM read = .ok values ↔
      List.Forall₂ (fun source value => read source = .ok value) sources
        values := by
  induction sources generalizing values with
  | nil => simp [pure, Except.pure, List.forall₂_nil_left_iff, eq_comm]
  | cons source sources inductionHypothesis =>
      rw [List.mapM_cons, List.forall₂_cons_left_iff]
      simp only [← inductionHypothesis]
      cases read source with
      | error fault => simp [bind, Except.bind]
      | ok value =>
          cases sources.mapM read <;>
            simp [bind, Except.bind, pure, Except.pure, eq_comm]

end Text

namespace Recognition
namespace Region

/-- A part of a region's text writes one of its sides, a number of 32 bits;
blank characters around it do not count. -/
def WritesSide (part : List Char) (side : Nat) : Prop :=
  Text.Writes (Text.trim part) side ∧ side < Nat.pow 2 32

/-- A text writes a region. -/
structure IsWritten (region : Region) (text : String) : Prop where
  /-- There are four parts between commas, which write the sides. -/
  sides :
    List.Forall₂ WritesSide (text.toList.splitOn ',')
      [region.left, region.top, region.right, region.bottom]
  /-- The left side is left of the right one. -/
  wide : region.left < region.right
  /-- The top is above the bottom. -/
  high : region.top < region.bottom

theorem ofSides_eq_ok_iff {left top right bottom : Nat} {region : Region} :
    ofSides left top right bottom = .ok region ↔
      left < right ∧ top < bottom ∧ region = ⟨left, top, right, bottom⟩ := by
  unfold ofSides
  by_cases wide : left < right
  · by_cases high : top < bottom <;> simp [wide, high, eq_comm]
  · simp [wide]

/-- The sides that are read are those that the parts between commas write. -/
theorem readSides_eq_ok_iff {text : List Char} {sides : List Nat} :
    readSides text = .ok sides ↔
      List.Forall₂ WritesSide (text.splitOn ',') sides := by
  unfold readSides
  rw [Text.splitAll_eq_splitOn, Text.mapM_eq_ok_iff]
  simp only [Text.readWord_eq_ok_iff]
  exact Iff.rfl

/-- A region is read exactly from a text that writes it. -/
theorem read_eq_ok_iff {text : String} {region : Region} :
    read text = .ok region ↔ region.IsWritten text := by
  constructor
  · intro success
    unfold read at success
    split at success
    · next sides =>
        obtain ⟨wide, high, rfl⟩ := ofSides_eq_ok_iff.mp success
        exact ⟨readSides_eq_ok_iff.mp sides, wide, high⟩
    · exact nomatch success
  · rintro ⟨sides, wide, high⟩
    unfold read
    rw [readSides_eq_ok_iff.mpr sides]
    exact ofSides_eq_ok_iff.mpr ⟨wide, high, rfl⟩

/-! ## The text of a region -/

/-- The decimal digits of a side write it. -/
theorem writesSide_decimal {side : Nat} (small : side < Nat.pow 2 32) :
    WritesSide (Text.decimal side) side := by
  refine ⟨?_, small⟩
  rw [Text.trim_of_visible_ends]
  · exact Text.writes_decimal side
  · exact fun character first =>
      Text.isBlank_of_mem_decimal (List.mem_of_mem_head? first)
  · exact fun character last =>
      Text.isBlank_of_mem_decimal (List.mem_of_mem_getLast? last)

/-- The text of a region is split at its commas into its sides. -/
theorem splitOn_render (region : Region) :
    region.render.toList.splitOn ',' =
      [Text.decimal region.left, Text.decimal region.top,
        Text.decimal region.right, Text.decimal region.bottom] := by
  have joined :
      region.render.toList =
        [','].intercalate
          [Text.decimal region.left, Text.decimal region.top,
            Text.decimal region.right, Text.decimal region.bottom] := by
    simp [render, toText, List.intercalate]
  rw [joined, List.splitOn_intercalate]
  · simp [Text.comma_not_mem_decimal]
  · exact List.cons_ne_nil _ _

/-- The text of a region of words writes it. -/
theorem isWritten_render
    {region : Region}
    (wide : region.left < region.right)
    (high : region.top < region.bottom)
    (right : region.right < Nat.pow 2 32)
    (bottom : region.bottom < Nat.pow 2 32) :
    region.IsWritten region.render where
  sides := by
    rw [splitOn_render]
    exact .cons (writesSide_decimal (Nat.lt_trans wide right))
      (.cons (writesSide_decimal (Nat.lt_trans high bottom))
        (.cons (writesSide_decimal right)
          (.cons (writesSide_decimal bottom) .nil)))
  wide := wide
  high := high

/-- A region that is accepted is read back from its text, and a text is read as
the region that it writes, if it writes one. -/
theorem read_exactly :
    (∀ (left top right bottom : UInt32) (region : Region),
      ofSides left.toNat top.toNat right.toNat bottom.toNat = .ok region ->
        read region.render = .ok region) ∧
    ∀ (text : String) (region : Region),
      read text = .ok region ↔ region.IsWritten text := by
  refine ⟨?_, fun _ _ => read_eq_ok_iff⟩
  intro left top right bottom region accepted
  obtain ⟨wide, high, rfl⟩ := ofSides_eq_ok_iff.mp accepted
  exact read_eq_ok_iff.mpr
    (isWritten_render wide high right.toNat_lt bottom.toNat_lt)

/-- The greatest side is read back, and it is read from a text with a sign,
zeros and blank characters. -/
theorem read_exactly_greatestSide :
    ofSides 0 7 4294967295 4294967295 =
        .ok ⟨0, 7, 4294967295, 4294967295⟩ ∧
      read (render ⟨0, 7, 4294967295, 4294967295⟩) =
        .ok ⟨0, 7, 4294967295, 4294967295⟩ ∧
      IsWritten ⟨0, 7, 4294967295, 4294967295⟩
        "+0,\t007 , 4294967295,004294967295" :=
  ⟨rfl, read_exactly.1 0 7 4294967295 4294967295 _ rfl,
    (read_exactly.2 _ _).mp rfl⟩

end Region
end Recognition
end FieldOcr
