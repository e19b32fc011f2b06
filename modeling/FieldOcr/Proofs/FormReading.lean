import FieldOcr.Proofs.Utf8Reading
import FieldOcr.Url.Form
import Mathlib.Data.List.Basic

/-!
# Reading queries

What is read from the encoded form of pairs is these pairs, whatever
characters they hold.  So a query tells every value that it was made of.
-/

namespace FieldOcr

namespace Text

/-- Parts without the separator are split where it stands between them. -/
theorem splitAll_append
    {separator : Char}
    {part : List Char}
    (clean : separator ∉ part)
    (rest : List Char) :
    splitAll separator (part ++ separator :: rest) =
      part :: splitAll separator rest := by
  induction part with
  | nil => simp [splitAll]
  | cons character part inductionHypothesis =>
      rw [List.mem_cons, not_or] at clean
      have other : ¬(character == separator) = true := by
        simpa using Ne.symm clean.1
      rw [List.cons_append, splitAll, if_neg other,
        inductionHypothesis clean.2]

theorem splitAll_of_notMem
    {separator : Char}
    {part : List Char}
    (clean : separator ∉ part) :
    splitAll separator part = [part] := by
  induction part with
  | nil => rfl
  | cons character part inductionHypothesis =>
      rw [List.mem_cons, not_or] at clean
      have other : ¬(character == separator) = true := by
        simpa using Ne.symm clean.1
      rw [splitAll, if_neg other, inductionHypothesis clean.2]

/-- Splitting takes parts apart that were put together. -/
theorem splitAll_intercalate
    {separator : Char}
    {parts : List (List Char)}
    (clean : ∀ part ∈ parts, separator ∉ part)
    (nonempty : parts ≠ []) :
    splitAll separator ([separator].intercalate parts) = parts := by
  induction parts with
  | nil => exact absurd rfl nonempty
  | cons part parts inductionHypothesis =>
      have first := clean part List.mem_cons_self
      have others : ∀ part ∈ parts, separator ∉ part :=
        fun part among => clean part (List.mem_cons_of_mem _ among)
      cases parts with
      | nil => simpa [List.intercalate] using splitAll_of_notMem first
      | cons next parts =>
          rw [List.intercalate_cons_cons, List.append_assoc,
            List.singleton_append, splitAll_append first,
            inductionHypothesis others (by simp)]

end Text

namespace Url

/-! ## Percent signs -/

/-- A byte other than the percent sign stands for itself. -/
theorem percentDecode_cons
    {byte : UInt8}
    (plain : byte ≠ 0x25)
    (rest : List UInt8) :
    percentDecode (byte :: rest) = byte :: percentDecode rest := by
  match rest with
  | [] => rfl
  | [_] => rfl
  | _ :: _ :: _ => simp [percentDecode, plain]

/-- A character is none of the marks of a query. -/
def IsUnmarked (character : Char) : Prop :=
  '+' ≠ character ∧ '&' ≠ character ∧ '=' ≠ character

instance (character : Char) : Decidable (IsUnmarked character) :=
  inferInstanceAs (Decidable (_ ∧ _ ∧ _))

/-- A digit is its own byte, which has its value, and no mark. -/
theorem hexDigit_spec {value : Nat} (digit : value < 16) :
    Text.Utf8.encodeChar (hexDigit value) =
        [UInt8.ofNat (hexDigit value).toNat] ∧
      hexValue? (UInt8.ofNat (hexDigit value).toNat) = some value ∧
      IsUnmarked (hexDigit value) := by
  interval_cases value <;> decide

/-- A byte that stands for itself is that of its character, which is no
mark. -/
theorem isPlain_spec {byte : UInt8} (plain : isPlain byte = true) :
    Text.Utf8.encodeChar (Char.ofNat byte.toNat) = [byte] ∧
      byte ≠ 0x25 ∧
      IsUnmarked (Char.ofNat byte.toNat) := by
  have all :
      ∀ code : Fin 256,
        isPlain (UInt8.ofNat code) = true ->
          Text.Utf8.encodeChar (Char.ofNat code) = [UInt8.ofNat code] ∧
            UInt8.ofNat code ≠ 0x25 ∧
            IsUnmarked (Char.ofNat code) := by
    decide +kernel
  simpa [plain] using all ⟨byte.toNat, byte.toNat_lt⟩

/-! ## Encoded values -/

/-- An encoded value with its plus signs read as spaces. -/
def spaced (text : List Char) : List Char :=
  text.map fun character => if character == '+' then ' ' else character

@[simp] theorem spaced_append (first second : List Char) :
    spaced (first ++ second) = spaced first ++ spaced second :=
  List.map_append

/-- A text without plus signs has no space read into it. -/
theorem spaced_of_notMem {text : List Char} (clean : '+' ∉ text) :
    spaced text = text := by
  have kept : ∀ character ∈ text,
      (if character == '+' then ' ' else character) = id character := by
    intro character among
    apply if_neg
    rw [beq_iff_eq]
    rintro rfl
    exact clean among
  rw [spaced, List.map_congr_left kept, List.map_id]

/-- What is read from one encoded byte is this byte. -/
theorem percentDecode_formByte (byte : UInt8) (rest : List UInt8) :
    percentDecode (Text.Utf8.encode (spaced (formByte byte)) ++ rest) =
      byte :: percentDecode rest := by
  unfold formByte
  by_cases space : byte = 0x20
  · subst space
    exact percentDecode_cons (by decide) rest
  rw [if_neg (by simpa using space)]
  by_cases plain : isPlain byte = true
  · obtain ⟨bytes, unmarked, marks⟩ := isPlain_spec plain
    have clean : '+' ∉ [Char.ofNat byte.toNat] := by simpa using marks.1
    have form : Text.Utf8.encode [Char.ofNat byte.toNat] = [byte] := by
      simp [Text.Utf8.encode, bytes]
    rw [if_pos plain, spaced_of_notMem clean, form]
    exact percentDecode_cons unmarked rest
  · have short : byte.toNat < 256 := byte.toNat_lt
    obtain ⟨highByte, highValue, highMarks⟩ :=
      hexDigit_spec (show byte.toNat / 16 < 16 by omega)
    obtain ⟨lowByte, lowValue, lowMarks⟩ :=
      hexDigit_spec (show byte.toNat % 16 < 16 by omega)
    have clean : '+' ∉ percentByte byte := by
      simp [percentByte, highMarks.1, lowMarks.1]
    have form :
        Text.Utf8.encode (percentByte byte) =
          [0x25, UInt8.ofNat (hexDigit (byte.toNat / 16)).toNat,
            UInt8.ofNat (hexDigit (byte.toNat % 16)).toNat] := by
      simp only [Text.Utf8.encode, percentByte, List.flatMap_cons, highByte,
        lowByte]
      rfl
    have value : byte.toNat / 16 * 16 + byte.toNat % 16 = byte.toNat :=
      Nat.div_add_mod' ..
    rw [if_neg plain, spaced_of_notMem clean, form]
    simp [percentDecode, highValue, lowValue, value]

/-- What is read from an encoded value is the value. -/
@[simp] theorem formDecode_formEncode (text : List Char) :
    formDecode (formEncode text) = text := by
  have read (bytes : List UInt8) :
      percentDecode
          (Text.Utf8.encode (spaced (bytes.flatMap formByte))) =
        bytes := by
    induction bytes with
    | nil => rfl
    | cons byte bytes inductionHypothesis =>
        rw [List.flatMap_cons, spaced_append, Text.Utf8.encode_append,
          percentDecode_formByte, inductionHypothesis]
  change
    Text.Utf8.decode
        (percentDecode (Text.Utf8.encode (spaced (formEncode text)))) =
      text
  rw [formEncode, read, Text.Utf8.decode_encode]

/-! ## Encoded pairs -/

/-- An encoded byte holds neither mark between names, values and pairs. -/
theorem formByte_unmarked (byte : UInt8) :
    '&' ∉ formByte byte ∧ '=' ∉ formByte byte := by
  unfold formByte
  split
  · decide
  split
  · next plain =>
      obtain ⟨-, -, -, marks⟩ := isPlain_spec plain
      simpa using marks
  · have short : byte.toNat < 256 := byte.toNat_lt
    obtain ⟨-, -, -, high⟩ :=
      hexDigit_spec (show byte.toNat / 16 < 16 by omega)
    obtain ⟨-, -, -, low⟩ :=
      hexDigit_spec (show byte.toNat % 16 < 16 by omega)
    simp [percentByte, high, low]

theorem formEncode_unmarked (text : List Char) :
    '&' ∉ formEncode text ∧ '=' ∉ formEncode text := by
  constructor <;>
  · intro marked
    obtain ⟨byte, -, among⟩ := List.mem_flatMap.mp marked
    simp [formByte_unmarked] at among

/-- What is read from an encoded pair is the pair. -/
@[simp] theorem decodePair_encodePair (pair : List Char × List Char) :
    decodePair (encodePair pair) = pair := by
  have name : ∀ character ∈ formEncode pair.1, (character != '=') = true := by
    intro character among
    rw [bne_iff_ne]
    rintro rfl
    exact (formEncode_unmarked pair.1).2 among
  unfold decodePair encodePair
  rw [List.takeWhile_append_of_pos name, List.dropWhile_append_of_pos name]
  simp

/-- What is read from an encoded query is what it was made of. -/
@[simp] theorem decodePairs_encodePairs (pairs : List (List Char × List Char)) :
    decodePairs (encodePairs pairs) = pairs := by
  unfold decodePairs encodePairs
  by_cases empty : pairs = []
  · subst empty
    rfl
  have clean : ∀ piece ∈ pairs.map encodePair, '&' ∉ piece := by
    intro piece among
    obtain ⟨pair, -, rfl⟩ := List.mem_map.mp among
    simp [encodePair, formEncode_unmarked]
  have full :
      (pairs.map encodePair).filter (fun piece => !piece.isEmpty) =
        pairs.map encodePair := by
    rw [List.filter_eq_self]
    intro piece among
    obtain ⟨pair, -, rfl⟩ := List.mem_map.mp among
    simp [encodePair]
  rw [Text.splitAll_intercalate clean (by simpa using empty), full,
    List.map_map]
  simp [Function.comp_def]

/-- Queries that are the same were made of the same pairs. -/
theorem encodePairs_injective : Function.Injective encodePairs :=
  Function.LeftInverse.injective decodePairs_encodePairs

end Url
end FieldOcr
