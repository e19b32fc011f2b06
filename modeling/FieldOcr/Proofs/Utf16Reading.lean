import FieldOcr.Text.Utf16

/-!
# Reading UTF-16

What is read from the UTF-16 form of a text, in either byte order, is the
text.  A character beyond the basic plane is read from its two surrogates; no
other character has a surrogate in its form.
-/

namespace FieldOcr
namespace Text
namespace Utf16

/-- A code unit is read from its two bytes, whatever follows. -/
theorem decodeFrom_bytes
    (order : ByteOrder)
    {unit : Nat}
    (short : unit < 0x10000)
    (progress : Progress)
    (rest : List UInt8) :
    decodeFrom order progress (order.bytes unit ++ rest) =
      decodeFrom order (progress.read unit) rest := by
  have lower : (UInt8.ofNat (unit % 0x100)).toNat = unit % 0x100 :=
    UInt8.toNat_ofNat_of_lt' (Nat.mod_lt _ (by decide))
  have upper : (UInt8.ofNat (unit / 0x100)).toNat = unit / 0x100 :=
    UInt8.toNat_ofNat_of_lt' (show unit / 0x100 < 256 by omega)
  have whole : 0x100 * (unit / 0x100) + unit % 0x100 = unit :=
    Nat.div_add_mod ..
  cases order with
  | little =>
      simp only [ByteOrder.bytes, List.cons_append, List.nil_append,
        decodeFrom, ByteOrder.unit, lower, upper]
      rw [Nat.add_comm, whole]
  | big =>
      simp only [ByteOrder.bytes, List.cons_append, List.nil_append,
        decodeFrom, ByteOrder.unit, lower, upper]
      rw [whole]

/-- A code unit outside the surrogates is read as its character. -/
theorem read_of_plain
    {character : Char}
    (basic : character.toNat < 0x10000)
    (readSoFar : List Char) :
    Progress.read ⟨readSoFar, none⟩ character.toNat =
      ⟨character :: readSoFar, none⟩ := by
  have valid : character.toNat.isValidChar := character.valid
  unfold Nat.isValidChar at valid
  have notHigh : isHigh character.toNat = false := by
    simp only [isHigh, Bool.and_eq_false_iff, decide_eq_false_iff_not]
    omega
  have notLow : isLow character.toNat = false := by
    simp only [isLow, Bool.and_eq_false_iff, decide_eq_false_iff_not]
    omega
  simp [Progress.read, notHigh, notLow]

/-- A pair of surrogates is read as one character. -/
theorem read_of_pair
    {high low : Nat}
    (starts : isHigh high = true)
    (ends : isLow low = true)
    (readSoFar : List Char) :
    (Progress.read ⟨readSoFar, none⟩ high).read low =
      ⟨pairChar high low :: readSoFar, none⟩ := by
  have waiting :
      Progress.read ⟨readSoFar, none⟩ high = ⟨readSoFar, some high⟩ :=
    if_pos starts
  rw [waiting]
  exact if_pos ends

/-- The surrogates of a character are a pair, and the character is theirs. -/
theorem surrogates_spec
    {character : Char}
    (beyond : 0x10000 ≤ character.toNat) :
    ∃ high low,
      units character = [high, low] ∧
        isHigh high = true ∧
        isLow low = true ∧
        pairChar high low = character := by
  have valid : character.toNat.isValidChar := character.valid
  unfold Nat.isValidChar at valid
  have code :
      0x10000 +
            (0xD800 + (character.toNat - 0x10000) / 0x400 - 0xD800) * 0x400 +
          (0xDC00 + (character.toNat - 0x10000) % 0x400 - 0xDC00) =
        character.toNat := by
    omega
  refine ⟨_, _, if_neg (Nat.not_lt_of_le beyond), ?_, ?_, ?_⟩
  · simp only [isHigh, Bool.and_eq_true, decide_eq_true_eq]
    omega
  · simp only [isLow, Bool.and_eq_true, decide_eq_true_eq]
    omega
  · rw [pairChar, code, Char.ofNat_toNat]

/-- A surrogate is a code unit. -/
theorem lt_of_isSurrogate
    {unit : Nat}
    (surrogate : isHigh unit = true ∨ isLow unit = true) :
    unit < 0x10000 := by
  simp only [isHigh, isLow, Bool.and_eq_true, decide_eq_true_eq] at surrogate
  omega

/-- A character is read from its form, whatever follows. -/
theorem decodeFrom_units
    (order : ByteOrder)
    (readSoFar : List Char)
    (character : Char)
    (rest : List UInt8) :
    decodeFrom order ⟨readSoFar, none⟩
        ((units character).flatMap order.bytes ++ rest) =
      decodeFrom order ⟨character :: readSoFar, none⟩ rest := by
  by_cases basic : character.toNat < 0x10000
  · have form : units character = [character.toNat] := if_pos basic
    rw [form, List.flatMap_singleton, decodeFrom_bytes order basic,
      read_of_plain basic]
  · obtain ⟨high, low, form, starts, ends, pair⟩ :=
      surrogates_spec (Nat.le_of_not_lt basic)
    rw [form, List.flatMap_cons, List.flatMap_singleton, List.append_assoc,
      decodeFrom_bytes order (lt_of_isSurrogate (Or.inl starts)),
      decodeFrom_bytes order (lt_of_isSurrogate (Or.inr ends)),
      read_of_pair starts ends, pair]

theorem decodeFrom_encode
    (order : ByteOrder)
    (readSoFar text : List Char) :
    decodeFrom order ⟨readSoFar, none⟩ (encode order text) =
      readSoFar.reverse ++ text := by
  induction text generalizing readSoFar with
  | nil => simp [encode, decodeFrom, Progress.finish]
  | cons character text inductionHypothesis =>
      rw [encode, List.flatMap_cons, decodeFrom_units, ← encode,
        inductionHypothesis, List.reverse_cons, List.append_assoc]
      rfl

/-- The form of a text is read as this text. -/
@[simp] theorem decode_encode (order : ByteOrder) (text : List Char) :
    decode order (encode order text) = text :=
  decodeFrom_encode order [] text

end Utf16
end Text
end FieldOcr
