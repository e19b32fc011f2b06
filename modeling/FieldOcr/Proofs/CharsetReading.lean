import FieldOcr.Charset.Label
import FieldOcr.Charset.WithoutIdeographs
import FieldOcr.Proofs.Expansion
import FieldOcr.Proofs.Utf8Reading
import Mathlib.Tactic.IntervalCases

/-!
# Reading what was written in a charset

A code page lists no code point twice.  So what is read from a text that was
written in a code page is the text, except that a decimal reference stands for
each character that the page lacks; such a reference denotes that character.
UTF-8 lacks none.
-/

namespace FieldOcr

namespace Text

/-! ## Decimal numbers -/

/-- The decimal digit of a number below ten has its value. -/
theorem digitValue?_decimal {digit : Nat} (single : digit < 10) :
    digitValue? 10 (Char.ofNat (0x30 + digit)) = some digit := by
  interval_cases digit <;> rfl

theorem numeralFrom?_append
    (base value : Nat)
    (first second : List Char) :
    numeralFrom? base value (first ++ second) =
      (numeralFrom? base value first).bind fun read =>
        numeralFrom? base read second := by
  unfold numeralFrom?
  exact List.foldlM_append

/-- The decimal digits of a number stand for it. -/
theorem numeralFrom?_decimal (number : Nat) :
    numeralFrom? 10 0 (decimal number) = some number := by
  induction number using decimal.induct with
  | case1 number single =>
      rw [decimal, if_pos single, numeralFrom?_cons,
        digitValue?_decimal single]
      simp
  | case2 number several inductionHypothesis =>
      have digit : number % 10 < 10 := Nat.mod_lt _ (by decide)
      have whole : number / 10 * 10 + number % 10 = number := by omega
      rw [decimal, if_neg several, numeralFrom?_append, inductionHypothesis,
        Option.bind_some, numeralFrom?_cons, digitValue?_decimal digit,
        Option.bind_some, numeralFrom?_nil, whole]

/-- Decimal digits are ASCII characters. -/
theorem ascii_of_mem_decimal
    {number : Nat}
    {character : Char}
    (member : character ∈ decimal number) :
    character.toNat < 0x80 := by
  have digitAscii {digit : Nat} (single : digit < 10) :
      (Char.ofNat (0x30 + digit)).toNat < 0x80 := by
    interval_cases digit <;> decide
  induction number using decimal.induct with
  | case1 number single =>
      rw [decimal, if_pos single, List.mem_singleton] at member
      rw [member]
      exact digitAscii single
  | case2 number several inductionHypothesis =>
      rw [decimal, if_neg several, List.mem_append, List.mem_singleton]
        at member
      rcases member with front | rfl
      · exact inductionHypothesis front
      · exact digitAscii (Nat.mod_lt _ (by decide))

end Text

namespace Charset

/-- The number of the character of a valid number. -/
theorem toNat_ofNat_of_isValidChar
    {code : Nat}
    (valid : code.isValidChar) :
    (Char.ofNat code).toNat = code := by
  rw [Char.ofNat, dif_pos valid]
  rfl

/-! ## References -/

theorem ascii_of_mem_reference
    {code : Nat}
    {character : Char}
    (member : character ∈ reference code) :
    character.toNat < 0x80 := by
  rw [reference, List.mem_append, List.mem_cons, List.mem_cons,
    List.mem_singleton] at member
  rcases member with (rfl | rfl | digit) | rfl
  · decide
  · decide
  · exact Text.ascii_of_mem_decimal digit
  · decide

/-- The decimal digits of the number of a character denote it. -/
theorem referencedChar_of_decimal
    {character : Char}
    (beyond : 0x80 ≤ character.toNat) :
    Markup.referencedChar (Text.decimal character.toNat) = .ok character := by
  have digits := Text.numeralFrom?_decimal character.toNat
  have valid : character.toNat.isValidChar := character.valid
  have decimal : (Text.decimal character.toNat).head? ≠ some 'x' := by
    intro head
    obtain ⟨more, same⟩ := List.head?_eq_some_iff.mp head
    rw [same, Text.numeralFrom?_cons] at digits
    exact nomatch digits
  have filled : Text.decimal character.toNat ≠ [] := by
    intro empty
    rw [empty, Text.numeralFrom?_nil, Option.some.injEq] at digits
    omega
  have fits : character.toNat ≤ Text.wordLimit 32 := by
    have limit : Text.wordLimit 32 = 0xFFFFFFFF := rfl
    unfold Nat.isValidChar at valid
    omega
  have read :
      Markup.readCode 10 (Text.decimal character.toNat) =
        .ok character.toNat :=
    (Markup.readCode_eq_ok_iff (by decide)).mpr ⟨filled, digits, fits⟩
  have nonzero : character.toNat ≠ 0 := by omega
  rw [Markup.referencedChar_decimal decimal, read, Except.bind,
    Markup.charOfCode, if_neg nonzero, if_pos valid, Char.ofNat_toNat]

/-- A reference denotes the character that it was written for. -/
theorem expand_reference
    {character : Char}
    (beyond : 0x80 ≤ character.toNat) :
    Markup.expand (reference character.toNat) = .ok [character] := by
  have digits := Text.numeralFrom?_decimal character.toNat
  have unmarked : Markup.Unmarked ('#' :: Text.decimal character.toNat) :=
    Markup.unmarked_cons_iff.mpr
      ⟨⟨by decide, by decide⟩, Markup.unmarked_of_numeralFrom? digits⟩
  have denoted :
      Markup.resolve 0 ('#' :: Text.decimal character.toNat) =
        .ok character :=
    Markup.mapError_eq_ok_iff.mpr (referencedChar_of_decimal beyond)
  rw [Markup.expand_eq_ok_iff]
  exact .reference unmarked denoted .nil

namespace CodePage

/-! ## Code pages tell their characters apart -/

/-- Whether the numbers of a list other than zero are distinct, and none of
them is in a set, which has the bits of its members. -/
def areApart (seen : Nat) : List Nat -> Bool
  | [] => true
  | code :: rest =>
      (code == 0 || !seen.testBit code) &&
        areApart (seen ||| 1 <<< code) rest

/-- Whether the upper half of a code page has a place for each byte, tells its
code points apart and lists those of characters beyond ASCII. -/
def isInvertible (page : CodePage) : Bool :=
  page.upperHalf.length == 0x80 && areApart 0 page.upperHalf &&
    page.upperHalf.all fun code =>
      code == 0 || (0x80 ≤ code && decide code.isValidChar)

theorem all_isInvertible : all.all isInvertible = true := by
  decide +kernel

theorem mem_all (page : CodePage) : page ∈ all := by
  cases page <;> decide

theorem testBit_insert (seen code other : Nat) :
    (seen ||| 1 <<< code).testBit other =
      (seen.testBit other || decide (code = other)) := by
  rw [Nat.testBit_or, Nat.one_shiftLeft, Nat.testBit_two_pow]

/-- A number of a list of distinct numbers is found where it stands. -/
theorem idxOf?_of_areApart
    {seen code index : Nat}
    {codes : List Nat}
    (apart : areApart seen codes = true)
    (listed : codes[index]? = some code)
    (nonzero : code ≠ 0) :
    seen.testBit code = false ∧ codes.idxOf? code = some index := by
  induction codes generalizing seen index with
  | nil => exact nomatch listed
  | cons first codes inductionHypothesis =>
      rw [areApart, Bool.and_eq_true] at apart
      cases index with
      | zero =>
          obtain rfl : first = code := by simpa using listed
          have fresh : seen.testBit first = false := by
            simpa [nonzero] using apart.1
          exact ⟨fresh, by simp [List.idxOf?_cons]⟩
      | succ index =>
          obtain ⟨fresh, found⟩ :=
            inductionHypothesis apart.2 (by simpa using listed)
          rw [testBit_insert, Bool.or_eq_false_iff, decide_eq_false_iff_not]
            at fresh
          refine ⟨fresh.1, ?_⟩
          simp [List.idxOf?_cons, fresh.2, found]

section

variable
  {page : CodePage}
  {code index : Nat}

theorem isInvertible_eq_true (page : CodePage) : page.isInvertible = true :=
  List.all_eq_true.mp all_isInvertible page (mem_all page)

theorem length_upperHalf (page : CodePage) : page.upperHalf.length = 0x80 := by
  have invertible := isInvertible_eq_true page
  simp only [isInvertible, Bool.and_eq_true, beq_iff_eq] at invertible
  exact invertible.1.1

/-- A code point is listed at one place. -/
theorem idxOf?_upperHalf_iff (nonzero : code ≠ 0) :
    page.upperHalf.idxOf? code = some index ↔
      page.upperHalf[index]? = some code := by
  have invertible := isInvertible_eq_true page
  simp only [isInvertible, Bool.and_eq_true] at invertible
  constructor
  · intro found
    obtain ⟨inside, same, -⟩ := List.idxOf?_eq_some_iff.mp found
    exact List.getElem?_eq_some_iff.mpr ⟨inside, same⟩
  · intro listed
    exact (idxOf?_of_areApart invertible.1.2 listed nonzero).2

/-- The code points that are listed are those of characters beyond ASCII. -/
theorem beyond_of_listed
    (listed : page.upperHalf[index]? = some code)
    (nonzero : code ≠ 0) :
    0x80 ≤ code ∧ code.isValidChar := by
  have invertible := isInvertible_eq_true page
  simp only [isInvertible, Bool.and_eq_true] at invertible
  have known :=
    List.all_eq_true.mp invertible.2 code (List.mem_of_getElem? listed)
  simpa [nonzero] using known

end

variable
  {page : CodePage}
  {character : Char}
  {byte : UInt8}

/-- A byte of the lower half stands for its ASCII character. -/
theorem char?_lower_iff (low : byte.toNat < 0x80) :
    page.char? byte = some character ↔ byte.toNat = character.toNat := by
  have valid : byte.toNat.isValidChar := Or.inl (by omega)
  rw [char?, if_pos low, Option.some.injEq]
  constructor
  · rintro rfl
    rw [toNat_ofNat_of_isValidChar valid]
  · intro same
    rw [same, Char.ofNat_toNat]

/-- A byte of the upper half stands for the character that is listed for it,
if there is one. -/
theorem char?_upper_iff (high : 0x80 ≤ byte.toNat) :
    page.char? byte = some character ↔
      0x80 ≤ character.toNat ∧
        page.upperHalf[byte.toNat - 0x80]? = some character.toNat := by
  rw [char?, if_neg (Nat.not_lt_of_le high)]
  split
  · next missing =>
      rw [missing]
      exact iff_of_false nofun nofun
  · next zero =>
      rw [zero]
      refine iff_of_false nofun ?_
      rintro ⟨beyond, same⟩
      rw [← Option.some.inj same] at beyond
      exact absurd beyond (by decide)
  · next code nonzero listed =>
      obtain ⟨beyond, valid⟩ := beyond_of_listed listed nonzero
      rw [listed, Option.some.injEq, Option.some.injEq]
      constructor
      · rintro rfl
        rw [toNat_ofNat_of_isValidChar valid]
        exact ⟨beyond, rfl⟩
      · rintro ⟨-, rfl⟩
        exact Char.ofNat_toNat character

/-- A character beyond ASCII is written as the byte of its place. -/
theorem byte?_upper_iff (beyond : 0x80 ≤ character.toNat) :
    page.byte? character = some byte ↔
      0x80 ≤ byte.toNat ∧
        page.upperHalf[byte.toNat - 0x80]? = some character.toNat := by
  have nonzero : character.toNat ≠ 0 := by omega
  rw [byte?, if_neg (Nat.not_lt_of_le beyond), upperByte?]
  simp only [Option.map_map, Option.map_eq_some_iff, Function.comp_apply]
  constructor
  · rintro ⟨index, found, rfl⟩
    have listed := (idxOf?_upperHalf_iff nonzero).mp found
    have short : index < 0x80 := by
      rw [← length_upperHalf page]
      exact (List.getElem?_eq_some_iff.mp listed).1
    have exact : (UInt8.ofNat (0x80 + index)).toNat = 0x80 + index :=
      UInt8.toNat_ofNat_of_lt' (show 0x80 + index < 256 by omega)
    rw [exact, Nat.add_sub_cancel_left]
    exact ⟨Nat.le_add_right _ _, listed⟩
  · rintro ⟨high, listed⟩
    refine ⟨_, (idxOf?_upperHalf_iff nonzero).mpr listed, ?_⟩
    rw [Nat.add_sub_of_le high, UInt8.ofNat_toNat]

/-- An ASCII character is written as its number. -/
theorem byte?_lower_iff (ascii : character.toNat < 0x80) :
    page.byte? character = some byte ↔ byte.toNat = character.toNat := by
  have exact : (UInt8.ofNat character.toNat).toNat = character.toNat :=
    UInt8.toNat_ofNat_of_lt' (show character.toNat < 256 by omega)
  rw [byte?, if_pos ascii, Option.some.injEq, ← UInt8.toNat_inj, exact]
  exact eq_comm

/-- A character is written as the byte that stands for it. -/
theorem byte?_eq_some_iff :
    page.byte? character = some byte ↔ page.char? byte = some character := by
  by_cases ascii : character.toNat < 0x80
  · rw [byte?_lower_iff ascii]
    by_cases low : byte.toNat < 0x80
    · rw [char?_lower_iff low]
    · rw [char?_upper_iff (Nat.le_of_not_lt low)]
      omega
  · rw [byte?_upper_iff (Nat.le_of_not_lt ascii)]
    by_cases low : byte.toNat < 0x80
    · rw [char?_lower_iff low]
      omega
    · have high := Nat.le_of_not_lt low
      rw [char?_upper_iff high]
      exact and_congr_left' (iff_of_true high (Nat.le_of_not_lt ascii))

/-- Whether a code page has a character: some byte stands for it. -/
def has (page : CodePage) (character : Char) : Bool :=
  (List.range 0x100).any fun number =>
    page.char? (UInt8.ofNat number) == some character

theorem has_iff :
    page.has character = true ↔
      ∃ byte, page.byte? character = some byte := by
  simp only [has, List.any_eq_true, List.mem_range, beq_iff_eq,
    byte?_eq_some_iff]
  constructor
  · rintro ⟨number, -, read⟩
    exact ⟨_, read⟩
  · rintro ⟨byte, read⟩
    exact ⟨byte.toNat, byte.toNat_lt, by rw [UInt8.ofNat_toNat, read]⟩

/-- ASCII characters are read from their numbers. -/
theorem decode_ascii
    {text : List Char}
    (ascii : ∀ character ∈ text, character.toNat < 0x80) :
    page.decode (text.map fun character => UInt8.ofNat character.toNat) =
      text := by
  induction text with
  | nil => rfl
  | cons character text inductionHypothesis =>
      rw [List.forall_mem_cons] at ascii
      have read :
          page.char? (UInt8.ofNat character.toNat) = some character := by
        rw [← byte?_eq_some_iff, byte?, if_pos ascii.1]
      have behind := inductionHypothesis ascii.2
      unfold decode at behind ⊢
      rw [List.map_cons, List.map_cons, behind, read, Option.getD_some]

end CodePage

/-! ## Texts -/

/-- What is known of reading a charset: how bytes are read, and which
characters the charset has. -/
structure Reading where
  /-- The reading of bytes. -/
  decode : List UInt8 -> List Char
  /-- Whether the charset has a character. -/
  has : Char -> Bool

/-- The reading of UTF-8, which has every character, and of the code pages. -/
def reading? : Charset -> Option Reading
  | .utf8 => some ⟨Text.Utf8.decode, fun _ => true⟩
  | .singleByte page => some ⟨page.decode, page.has⟩
  | _ => none

/-- A text with a decimal reference in the place of each character that a
charset lacks. -/
def Reading.referenced (reading : Reading) (text : List Char) : List Char :=
  text.flatMap fun character =>
    if reading.has character then [character]
    else reference character.toNat

theorem CodePage.decode_encode (page : CodePage) (text : List Char) :
    page.decode (page.encode text) =
      Reading.referenced ⟨page.decode, page.has⟩ text := by
  induction text with
  | nil => rfl
  | cons character text inductionHypothesis =>
      have split (first second : List UInt8) :
          page.decode (first ++ second) =
            page.decode first ++ page.decode second :=
        List.map_append
      unfold encode Reading.referenced at inductionHypothesis ⊢
      rw [List.flatMap_cons, List.flatMap_cons, split, inductionHypothesis]
      congr 1
      cases known : page.byte? character with
      | none =>
          have missing : ¬page.has character = true := by
            rw [CodePage.has_iff, known]
            exact nofun
          rw [if_neg missing]
          exact CodePage.decode_ascii fun _ => ascii_of_mem_reference
      | some byte =>
          rw [if_pos (CodePage.has_iff.mpr ⟨byte, known⟩)]
          have read := CodePage.byte?_eq_some_iff.mp known
          simp [CodePage.decode, read]

/-- A charset lacks no ASCII character. -/
theorem beyond_of_lacks
    {charset : Charset}
    {reading : Reading}
    {character : Char}
    (known : charset.reading? = some reading)
    (lacks : reading.has character = false) :
    0x80 ≤ character.toNat := by
  cases charset with
  | utf8 =>
      cases known
      exact absurd lacks.symm Bool.false_ne_true
  | singleByte page =>
      cases known
      apply Nat.le_of_not_lt
      intro ascii
      have has : page.has character = true :=
        CodePage.has_iff.mpr ⟨_, if_pos ascii⟩
      exact absurd (has.symm.trans lacks) (by decide)
  | _ => exact nomatch known

/-- What is read from a text that was written in UTF-8 or in a code page is the
text, with a decimal reference in the place of each character that the charset
lacks.  Each of these references denotes its character. -/
theorem decode_encode_of_reading?
    {charset : Charset}
    {reading : Reading}
    (known : charset.reading? = some reading)
    (encoder : Encoder)
    (text : List Char) :
    reading.decode (charset.encode encoder text) = reading.referenced text ∧
      ∀ character ∈ text,
        reading.has character = false ->
          Markup.expand (reference character.toNat) = .ok [character] := by
  refine ⟨?_, fun character _ lacks =>
    expand_reference (beyond_of_lacks known lacks)⟩
  cases charset with
  | utf8 =>
      cases known
      rw [Reading.referenced]
      simp [encode]
  | singleByte page =>
      cases known
      exact page.decode_encode text
  | _ => exact nomatch known

/-- A text of which a code page for Western European languages has three
characters. -/
def mixedText : List Char := ['é', 'Ω', '€', '😀', 'a']

/-- The omega and the smiling face are written as references. -/
theorem decode_encode_of_reading?_mixedText :
    (Charset.singleByte .windows1252).reading? =
        some ⟨CodePage.windows1252.decode, CodePage.windows1252.has⟩ ∧
      CodePage.windows1252.decode
          ((Charset.singleByte .windows1252).encode
            Encoder.withoutIdeographs mixedText) =
        "é&#937;€&#128512;a".toList := by
  have known :
      (Charset.singleByte .windows1252).reading? =
        some ⟨CodePage.windows1252.decode, CodePage.windows1252.has⟩ := rfl
  have read :=
    (decode_encode_of_reading? known Encoder.withoutIdeographs mixedText).1
  refine ⟨known, read.trans ?_⟩
  decide +kernel

end Charset
end FieldOcr
