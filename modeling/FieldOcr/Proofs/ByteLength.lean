import FieldOcr.Content
import FieldOcr.Proofs.Trimming
import Mathlib.Data.List.Basic
import Mathlib.Tactic.IntervalCases

/-!
# Lengths in bytes

The length of a text in bytes adds up over its parts.  A text that was read
from bytes takes at most three times as many: each replacement character, which
takes three bytes, stands for one byte at least, and each other character for as
many bytes as it takes in UTF-8, or for half as many at least.
-/

namespace FieldOcr

namespace Text

@[simp] theorem byteLength_nil : byteLength [] = 0 := rfl

@[simp] theorem byteLength_cons (character : Char) (text : List Char) :
    byteLength (character :: text) = character.utf8Size + byteLength text := by
  have shifted (total : Nat) :
      text.foldl (fun total character => total + character.utf8Size) total =
        total + byteLength text := by
    unfold byteLength
    induction text generalizing total with
    | nil => rfl
    | cons first text inductionHypothesis =>
        rw [List.foldl_cons, List.foldl_cons, inductionHypothesis,
          inductionHypothesis (0 + _)]
        omega
  rw [byteLength, List.foldl_cons, shifted, Nat.zero_add]

@[simp] theorem byteLength_append (first second : List Char) :
    byteLength (first ++ second) = byteLength first + byteLength second := by
  induction first with
  | nil => simp
  | cons character first inductionHypothesis =>
      rw [List.cons_append, byteLength_cons, byteLength_cons,
        inductionHypothesis, Nat.add_assoc]

@[simp] theorem byteLength_reverse (text : List Char) :
    byteLength text.reverse = byteLength text := by
  induction text with
  | nil => rfl
  | cons character text inductionHypothesis =>
      rw [List.reverse_cons, byteLength_append, inductionHypothesis,
        byteLength_cons, byteLength_cons, byteLength_nil, Nat.add_zero,
        Nat.add_comm]

/-- A part of a text takes no more bytes than the text. -/
theorem byteLength_le_of_infix
    {text whole : List Char}
    (within : text <:+: whole) :
    byteLength text ≤ byteLength whole := by
  obtain ⟨front, behind, rfl⟩ := within
  rw [byteLength_append, byteLength_append]
  omega

/-- Markup space takes one byte for each character. -/
theorem byteLength_of_markupSpace
    {space : List Char}
    (blank : ∀ character ∈ space, isMarkupSpace character = true) :
    byteLength space = space.length := by
  induction space with
  | nil => rfl
  | cons character space inductionHypothesis =>
      rw [List.forall_mem_cons] at blank
      have single : character.utf8Size = 1 := by
        have marked := blank.1
        simp only [isMarkupSpace, Bool.or_eq_true, beq_iff_eq] at marked
        rcases marked with ((rfl | rfl) | rfl) | rfl <;> rfl
      rw [byteLength_cons, inductionHypothesis blank.2, single,
        List.length_cons, Nat.add_comm]

/-- White space and what is behind it make up a text. -/
theorem byteLength_dropSpace (text : List Char) :
    (text.takeWhile isMarkupSpace).length +
        byteLength (text.dropWhile isMarkupSpace) =
      byteLength text := by
  have blank :
      ∀ character ∈ text.takeWhile isMarkupSpace,
        isMarkupSpace character = true :=
    fun _ => List.mem_takeWhile_imp
  rw [← byteLength_of_markupSpace blank, ← byteLength_append,
    List.takeWhile_append_dropWhile]

theorem trim_isInfix (text : List Char) : trim text <:+: text := by
  obtain ⟨leading, trailing, split, -⟩ := trim_split text
  exact ⟨leading, trailing, split.symm⟩

/-! ## Texts read from bytes -/

namespace Utf8

theorem utf8Size_replacement : replacement.utf8Size = 3 := rfl

/-- A character is read from a third as many bytes as it takes, apart from its
leading byte. -/
theorem readTail_byteLength_le
    (value : Nat)
    (ranges : List (Nat × Nat))
    (bytes : List UInt8) :
    (readTail value ranges bytes).1.utf8Size +
        3 * (readTail value ranges bytes).2.length ≤
      3 * bytes.length + (if ranges = [] then 4 else 3) := by
  induction ranges generalizing value bytes with
  | nil =>
      have four := (Char.ofNat value).utf8Size_le_four
      rw [readTail, if_pos rfl]
      dsimp only
      omega
  | cons range ranges inductionHypothesis =>
      obtain ⟨low, high⟩ := range
      rw [if_neg (List.cons_ne_nil _ _)]
      cases bytes with
      | nil => simp [readTail, utf8Size_replacement]
      | cons byte rest =>
          rw [readTail, List.length_cons]
          split
          · have shorter :=
              inductionHypothesis (value * 0x40 + (byte.toNat - 0x80)) rest
            split at shorter <;> omega
          · simp only [utf8Size_replacement, List.length_cons]
            omega

/-- A leading byte with no bytes to follow is the code of its character. -/
theorem lt_of_lead?_nil
    {byte value : Nat}
    (leads : lead? byte = some (value, [])) :
    value < 0x80 := by
  unfold lead? at leads
  split at leads
  · simp only [Option.some.injEq, Prod.mk.injEq, and_true] at leads
    omega
  · repeat' split at leads
    all_goals simp at leads

/-- A character takes at most three times as many bytes as it is read from. -/
theorem readChar_byteLength_le (byte : UInt8) (rest : List UInt8) :
    (readChar byte rest).1.utf8Size + 3 * (readChar byte rest).2.length ≤
      3 * (byte :: rest).length := by
  rw [List.length_cons]
  unfold readChar
  split
  · simp only [utf8Size_replacement]
    omega
  · next value ranges leads =>
      cases ranges with
      | nil =>
          have small := lt_of_lead?_nil leads
          have single : (Char.ofNat value).utf8Size = 1 := by
            interval_cases value <;> rfl
          rw [readTail, single]
          dsimp only
          omega
      | cons range ranges =>
          have bounded :=
            readTail_byteLength_le value (range :: ranges) rest
          rw [if_neg (List.cons_ne_nil _ _)] at bounded
          omega

theorem byteLength_decodeOnto_le (readSoFar : List Char) (bytes : List UInt8) :
    byteLength (decodeOnto readSoFar bytes) ≤
      byteLength readSoFar + 3 * bytes.length := by
  fun_induction decodeOnto readSoFar bytes with
  | case1 readSoFar => simp
  | case2 readSoFar byte rest inductionHypothesis =>
      have bounded := readChar_byteLength_le byte rest
      rw [byteLength_cons] at inductionHypothesis
      omega

end Utf8

namespace Utf16

/-- The bytes that a text takes that was read so far, with a replacement for a
surrogate that waits for its partner. -/
def Progress.byteLength (progress : Progress) : Nat :=
  Text.byteLength progress.readSoFar +
    if progress.pending.isSome then 3 else 0

theorem Progress.byteLength_read_le (progress : Progress) (unit : Nat) :
    (progress.read unit).byteLength ≤ progress.byteLength + 6 := by
  have single := (Char.ofNat unit).utf8Size_le_four
  obtain ⟨readSoFar, pending⟩ := progress
  unfold Progress.read Progress.byteLength
  cases pending with
  | none =>
      dsimp only
      split
      · simp
      split
      · simp [Utf8.utf8Size_replacement]
        omega
      · simp
        omega
  | some high =>
      have pair := (pairChar high unit).utf8Size_le_four
      dsimp only
      split
      · simp
        omega
      split
      · simp [Utf8.utf8Size_replacement]
        omega
      · simp [Utf8.utf8Size_replacement]
        omega

theorem byteLength_decodeFrom_le
    (order : ByteOrder)
    (progress : Progress)
    (bytes : List UInt8) :
    byteLength (decodeFrom order progress bytes) ≤
      progress.byteLength + 3 * bytes.length := by
  fun_induction decodeFrom order progress bytes with
  | case1 progress first second rest inductionHypothesis =>
      have bounded := progress.byteLength_read_le (order.unit first second)
      simp only [List.length_cons]
      omega
  | case2 progress byte =>
      simp [Progress.finish, Progress.byteLength, Utf8.utf8Size_replacement]
  | case3 progress =>
      simp only [Progress.finish, Progress.byteLength]
      cases progress.pending <;> simp [Utf8.utf8Size_replacement]

end Utf16
end Text

namespace Content

/-- A text takes at most three times as many bytes as it was read from. -/
theorem byteLength_decode_le (bytes : List UInt8) :
    Text.byteLength (decode bytes) ≤ 3 * bytes.length := by
  have utf8 (bytes : List UInt8) :
      Text.byteLength (Text.Utf8.decode bytes) ≤ 3 * bytes.length := by
    have bounded := Text.Utf8.byteLength_decodeOnto_le [] bytes
    simpa [Text.Utf8.decode] using bounded
  have utf16 (order : Text.Utf16.ByteOrder) (bytes : List UInt8) :
      Text.byteLength (Text.Utf16.decode order bytes) ≤ 3 * bytes.length := by
    have bounded := Text.Utf16.byteLength_decodeFrom_le order ⟨[], none⟩ bytes
    simpa [Text.Utf16.decode, Text.Utf16.Progress.byteLength] using bounded
  unfold decode
  split
  · next rest =>
      have bounded := utf8 rest
      simp only [List.length_cons]
      omega
  · next rest =>
      have bounded := utf16 .little rest
      simp only [List.length_cons]
      omega
  · next rest =>
      have bounded := utf16 .big rest
      simp only [List.length_cons]
      omega
  · exact utf8 bytes

theorem stripByteOrderMark_suffix (text : List Char) :
    stripByteOrderMark text <:+ text := by
  unfold stripByteOrderMark
  split
  · exact List.suffix_cons _ _
  · exact List.suffix_refl _

end Content
end FieldOcr
