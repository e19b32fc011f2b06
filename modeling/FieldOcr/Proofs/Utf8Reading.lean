import FieldOcr.Text.Utf8
import Mathlib.Tactic.IntervalCases

/-!
# Reading UTF-8

What is read from the UTF-8 form of a text is the text.  So no two texts have
the same form.
-/

namespace FieldOcr
namespace Text
namespace Utf8

/-- A byte in its range is taken up. -/
theorem readTail_cons
    {value low high : Nat}
    {ranges : List (Nat × Nat)}
    {byte : Nat}
    (above : low ≤ byte)
    (below : byte ≤ high)
    (short : byte < 256)
    (rest : List UInt8) :
    readTail value ((low, high) :: ranges) (UInt8.ofNat byte :: rest) =
      readTail (value * 0x40 + (byte - 0x80)) ranges rest := by
  have exact : (UInt8.ofNat byte).toNat = byte := UInt8.toNat_ofNat_of_lt' short
  simp [readTail, exact, above, below]

/-- A character is read from its number. -/
theorem readTail_nil
    {value : Nat}
    {character : Char}
    (same : value = character.toNat)
    (rest : List UInt8) :
    readTail value [] rest = (character, rest) := by
  rw [readTail, same, Char.ofNat_toNat]

/-- A character is read by what its leading byte tells. -/
theorem readChar_eq
    {byte value : Nat}
    {ranges : List (Nat × Nat)}
    (leads : lead? byte = some (value, ranges))
    (short : byte < 256)
    (rest : List UInt8) :
    readChar (UInt8.ofNat byte) rest = readTail value ranges rest := by
  have exact : (UInt8.ofNat byte).toNat = byte := UInt8.toNat_ofNat_of_lt' short
  rw [readChar, exact, leads]

/-! ## Leading bytes -/

theorem lead?_one {byte : Nat} (ascii : byte < 0x80) :
    lead? byte = some (byte, []) := by
  simp [lead?, ascii]

theorem lead?_two {byte : Nat} (above : 0xC2 ≤ byte) (below : byte ≤ 0xDF) :
    lead? byte = some (byte - 0xC0, [(0x80, 0xBF)]) := by
  have high : ¬byte < 0x80 := by omega
  simp [lead?, high, above, below]

/-- The range of the second byte of three keeps each character in its shortest
form and leaves out surrogates. -/
theorem lead?_three {byte : Nat} (above : 0xE0 ≤ byte) (below : byte ≤ 0xEF) :
    lead? byte =
      some (byte - 0xE0,
        [(if byte = 0xE0 then 0xA0 else 0x80,
            if byte = 0xED then 0x9F else 0xBF),
          (0x80, 0xBF)]) := by
  interval_cases byte <;> rfl

/-- The range of the second byte of four keeps each character in its shortest
form and below the last one. -/
theorem lead?_four {byte : Nat} (above : 0xF0 ≤ byte) (below : byte ≤ 0xF4) :
    lead? byte =
      some (byte - 0xF0,
        [(if byte = 0xF0 then 0x90 else 0x80,
            if byte = 0xF4 then 0x8F else 0xBF),
          (0x80, 0xBF), (0x80, 0xBF)]) := by
  interval_cases byte <;> rfl

/-! ## Characters and texts -/

/-- A character is read from its form, whatever follows. -/
theorem readChar_encodeChar (character : Char) :
    ∃ byte tail,
      encodeChar character = byte :: tail ∧
        ∀ rest, readChar byte (tail ++ rest) = (character, rest) := by
  have valid := character.valid
  change character.toNat.isValidChar at valid
  unfold Nat.isValidChar at valid
  unfold encodeChar
  generalize number : character.toNat = code at valid
  simp only
  by_cases one : code < 0x80
  · rw [if_pos one]
    refine ⟨_, _, rfl, fun rest => ?_⟩
    rw [readChar_eq (lead?_one one) (by omega)]
    exact readTail_nil number.symm rest
  rw [if_neg one]
  by_cases two : code < 0x800
  · rw [if_pos two]
    refine ⟨_, _, rfl, fun rest => ?_⟩
    rw [readChar_eq (lead?_two (by omega) (by omega)) (by omega),
      List.cons_append,
      readTail_cons (by omega) (by omega) (by omega)]
    exact readTail_nil (by omega) rest
  rw [if_neg two]
  by_cases three : code < 0x10000
  · rw [if_pos three]
    refine ⟨_, _, rfl, fun rest => ?_⟩
    rw [readChar_eq (lead?_three (by omega) (by omega)) (by omega),
      List.cons_append,
      readTail_cons (by split <;> omega) (by split <;> omega) (by omega),
      List.cons_append,
      readTail_cons (by omega) (by omega) (by omega)]
    exact readTail_nil (by omega) rest
  · rw [if_neg three]
    refine ⟨_, _, rfl, fun rest => ?_⟩
    rw [readChar_eq (lead?_four (by omega) (by omega)) (by omega),
      List.cons_append,
      readTail_cons (by split <;> omega) (by split <;> omega) (by omega),
      List.cons_append,
      readTail_cons (by omega) (by omega) (by omega),
      List.cons_append,
      readTail_cons (by omega) (by omega) (by omega)]
    exact readTail_nil (by omega) rest

theorem encode_append (first second : List Char) :
    encode (first ++ second) = encode first ++ encode second :=
  List.flatMap_append

theorem decodeOnto_encode (readSoFar text : List Char) :
    decodeOnto readSoFar (encode text) = readSoFar.reverse ++ text := by
  induction text generalizing readSoFar with
  | nil => simp [encode, decodeOnto]
  | cons character text inductionHypothesis =>
      obtain ⟨byte, tail, form, reads⟩ := readChar_encodeChar character
      have bytes :
          encode (character :: text) = byte :: (tail ++ encode text) := by
        simp [encode, form]
      rw [bytes, decodeOnto, reads (encode text), inductionHypothesis]
      simp

/-- The form of a text is read as this text. -/
@[simp] theorem decode_encode (text : List Char) :
    decode (encode text) = text :=
  decodeOnto_encode [] text

end Utf8
end Text
end FieldOcr
