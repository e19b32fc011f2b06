import FieldOcr.Text.Base64
import Mathlib.Tactic.IntervalCases

/-!
# Reading Base64

What is read from the digits of bytes are these bytes, whatever their number,
so that no two lists of bytes have the same digits.  The digits are visible
ASCII characters.
-/

namespace FieldOcr
namespace Text
namespace Base64

/-! ## Digits -/

section

variable {value : Nat}

theorem value?_digit (short : value < 64) :
    value? (digit value) = some value := by
  interval_cases value <;> rfl

/-- No digit is the sign that fills up a group. -/
theorem digit_ne_filler (short : value < 64) : digit value ≠ '=' := by
  interval_cases value <;> decide

theorem visible_digit (short : value < 64) :
    0x21 ≤ (digit value).toNat ∧ (digit value).toNat ≤ 0x7E := by
  interval_cases value <;> decide

end

/-- A group of four digits is read as the bytes that it was written for. -/
theorem readGroup?_digits (first second third : UInt8) :
    readGroup? (digit (first.toNat / 4))
        (digit (first.toNat % 4 * 16 + second.toNat / 16))
        (digit (second.toNat % 16 * 4 + third.toNat / 64))
        (digit (third.toNat % 64)) =
      some [first, second, third] := by
  have firstShort := first.toNat_lt
  have secondShort := second.toNat_lt
  have thirdShort := third.toNat_lt
  have firstByte :
      first.toNat / 4 * 4 +
          (first.toNat % 4 * 16 + second.toNat / 16) / 16 =
        first.toNat := by
    omega
  have secondByte :
      (first.toNat % 4 * 16 + second.toNat / 16) % 16 * 16 +
          (second.toNat % 16 * 4 + third.toNat / 64) / 4 =
        second.toNat := by
    omega
  have thirdByte :
      (second.toNat % 16 * 4 + third.toNat / 64) % 4 * 64 +
          third.toNat % 64 =
        third.toNat := by
    omega
  rw [readGroup?, value?_digit (by omega), value?_digit (by omega),
    value?_digit (by omega), value?_digit (by omega)]
  simp only [Option.bind_eq_bind, Option.bind_some, Option.pure_def,
    groupBytes, firstByte, secondByte, thirdByte, UInt8.ofNat_toNat]

/-- A full group is read, whatever follows. -/
theorem decode?_group
    (first second third : UInt8)
    (rest : List Char) :
    decode? (digit (first.toNat / 4) ::
        digit (first.toNat % 4 * 16 + second.toNat / 16) ::
        digit (second.toNat % 16 * 4 + third.toNat / 64) ::
        digit (third.toNat % 64) :: rest) =
      (decode? rest).map ([first, second, third] ++ ·) := by
  have last : digit (third.toNat % 64) ≠ '=' :=
    digit_ne_filler (Nat.mod_lt _ (by decide))
  rw [decode?]
  · rw [readGroup?_digits]
    cases decode? rest <;> rfl
  · intro _ same
    exact absurd same last
  · intro same
    exact absurd same last

/-- What is read from the digits of bytes are these bytes. -/
theorem decode?_encode (bytes : List UInt8) :
    decode? (encode bytes) = some bytes := by
  induction bytes using encode.induct with
  | case1 => rfl
  | case2 first =>
      -- The missing bytes are read as zeros, which are dropped.
      have read :
          readGroup? (digit (first.toNat / 4)) (digit (first.toNat % 4 * 16))
              'A' 'A' =
            some [first, 0, 0] :=
        readGroup?_digits first 0 0
      rw [encode, decode?, read]
      rfl
  | case3 first second =>
      have third :
          digit (second.toNat % 16 * 4) ≠ '=' :=
        digit_ne_filler (by omega)
      have read :
          readGroup? (digit (first.toNat / 4))
              (digit (first.toNat % 4 * 16 + second.toNat / 16))
              (digit (second.toNat % 16 * 4)) 'A' =
            some [first, second, 0] :=
        readGroup?_digits first second 0
      rw [encode, decode?, read]
      · rfl
      · exact third
  | case4 first second third rest inductionHypothesis =>
      rw [encode, decode?_group, inductionHypothesis]
      rfl

/-- The digits of bytes, and what fills them up, are visible. -/
theorem visible_encode (bytes : List UInt8) :
    ∀ character ∈ encode bytes,
      0x21 ≤ character.toNat ∧ character.toNat ≤ 0x7E := by
  induction bytes using encode.induct with
  | case1 => exact nofun
  | case2 first =>
      have firstShort := first.toNat_lt
      simp only [encode, List.forall_mem_cons]
      exact ⟨visible_digit (by omega), visible_digit (by omega),
        by decide, by decide, nofun⟩
  | case3 first second =>
      have firstShort := first.toNat_lt
      have secondShort := second.toNat_lt
      simp only [encode, List.forall_mem_cons]
      exact ⟨visible_digit (by omega), visible_digit (by omega),
        visible_digit (by omega), by decide, nofun⟩
  | case4 first second third rest inductionHypothesis =>
      have firstShort := first.toNat_lt
      have secondShort := second.toNat_lt
      have thirdShort := third.toNat_lt
      simp only [encode, List.forall_mem_cons]
      exact ⟨visible_digit (by omega), visible_digit (by omega),
        visible_digit (by omega), visible_digit (by omega),
        inductionHypothesis⟩

end Base64
end Text
end FieldOcr
