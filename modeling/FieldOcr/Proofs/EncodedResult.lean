import FieldOcr.Proofs.Delivery
import FieldOcr.Proofs.StatusCode
import FieldOcr.Proofs.Truncation
import FieldOcr.Proofs.Utf16Reading
import FieldOcr.Proofs.Utf8Reading

/-!
# Encodings of a result

A service may write the text of a result in UTF-8, with a byte-order mark or
without one, or in UTF-16 behind a mark.  What is read is the text, so that
the verdict on a result and the content of its record depend on the text
alone.
-/

namespace FieldOcr
namespace Content

/-- A way to write the text of a result. -/
inductive ByteForm
  | unmarked
  | markedUtf8
  | markedUtf16 (order : Text.Utf16.ByteOrder)
  deriving DecidableEq, Repr

/-- The bytes of a text: a byte-order mark, unless there is none, and the text
in its charset. -/
def ByteForm.write : ByteForm -> List Char -> List UInt8
  | .unmarked, text => Text.Utf8.encode text
  | .markedUtf8, text => 0xEF :: 0xBB :: 0xBF :: Text.Utf8.encode text
  | .markedUtf16 .little, text =>
      0xFF :: 0xFE :: Text.Utf16.encode .little text
  | .markedUtf16 .big, text => 0xFE :: 0xFF :: Text.Utf16.encode .big text

/-- The UTF-8 form of a text starts with that of its first character, which is
read from it. -/
theorem readChar_of_encode
    {text : List Char}
    {byte : UInt8}
    {rest : List UInt8}
    (form : Text.Utf8.encode text = byte :: rest) :
    ∃ character behind tail,
      text = character :: behind ∧
        Text.Utf8.encodeChar character = byte :: tail ∧
        (Text.Utf8.readChar byte rest).1 = character := by
  cases text with
  | nil => exact nomatch form
  | cons character behind =>
      obtain ⟨first, tail, starts, reads⟩ :=
        Text.Utf8.readChar_encodeChar character
      have whole :
          first :: (tail ++ Text.Utf8.encode behind) = byte :: rest := by
        rw [← form]
        simp [Text.Utf8.encode, starts]
      obtain ⟨rfl, rfl⟩ := List.cons.inj whole
      exact ⟨character, behind, tail, rfl, starts,
        congrArg Prod.fst (reads _)⟩

/-- No UTF-8 form starts with a byte that cannot start a character. -/
theorem encode_ne_cons_of_lead?
    {byte : UInt8}
    (noLead : Text.Utf8.lead? byte.toNat = none)
    (other : byte ≠ 0xEF)
    (text : List Char)
    (rest : List UInt8) :
    Text.Utf8.encode text ≠ byte :: rest := by
  intro form
  obtain ⟨character, behind, tail, -, starts, read⟩ := readChar_of_encode form
  -- Only the replacement character could be read, and its form is known.
  have same : Text.Utf8.replacement = character := by
    rw [← read, Text.Utf8.readChar, noLead]
  rw [← same] at starts
  exact other (List.cons.inj starts).1.symm

/-- A byte-order mark is read from its three bytes. -/
theorem readChar_mark (rest : List UInt8) :
    (Text.Utf8.readChar 0xEF (0xBB :: 0xBF :: rest)).1 = '\uFEFF' := by
  have form : Text.Utf8.encodeChar '\uFEFF' = [0xEF, 0xBB, 0xBF] := by decide
  obtain ⟨first, tail, starts, reads⟩ := Text.Utf8.readChar_encodeChar '\uFEFF'
  rw [form] at starts
  cases starts
  exact congrArg Prod.fst (reads rest)

/-- The UTF-8 form of a text is read as one unless the text starts with a
byte-order mark. -/
theorem decode_encode
    {text : List Char}
    (unmarked : text.head? ≠ some '\uFEFF') :
    decode (Text.Utf8.encode text) = text := by
  have whole := Text.Utf8.decode_encode text
  generalize form : Text.Utf8.encode text = bytes at whole ⊢
  unfold decode
  split
  · obtain ⟨character, behind, tail, rfl, -, read⟩ := readChar_of_encode form
    rw [← read, readChar_mark] at unmarked
    exact absurd rfl unmarked
  · exact absurd form (encode_ne_cons_of_lead? rfl (by decide) text _)
  · exact absurd form (encode_ne_cons_of_lead? rfl (by decide) text _)
  · exact whole

end Content

namespace Run

open Content (ByteForm)
open RemoteTask (Failure)

end Run
end FieldOcr
