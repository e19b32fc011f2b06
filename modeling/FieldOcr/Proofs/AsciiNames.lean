import FieldOcr.Proofs.HostReading
import FieldOcr.Url.AsciiName

/-!
# Names in ASCII

The conversion of names in ASCII keeps what is promised of every conversion:
what it gives is in lower case, so that converting it again changes nothing.
-/

namespace FieldOcr
namespace Url

/-- A character that may stand in a name may do so in lower case, and lower
case is its own. -/
theorem toLower_of_permitted
    {character : Char}
    (permitted : forbiddenInName character = false) :
    forbiddenInName character.toLower = false ∧
      character.toLower.toLower = character.toLower := by
  have ascii := toNat_lt_of_permitted permitted
  revert permitted
  exact
    Text.of_ascii
      (fun character =>
        forbiddenInName character = false ->
          forbiddenInName character.toLower = false ∧
            character.toLower.toLower = character.toLower)
      (by decide +kernel) ascii

/-- A name is converted exactly if its characters may stand in a name, and its
labels in lower case do. -/
theorem lowerName?_eq_some_iff
    {bytes : List UInt8}
    {name : List Char} :
    lowerName? bytes = some name ↔
      (∀ character ∈ Text.Utf8.decode bytes,
        forbiddenInName character = false) ∧
      (Text.splitAll '.' name).all isNameLabel = true ∧
      (Text.Utf8.decode bytes).map Char.toLower = name := by
  unfold lowerName?
  dsimp only
  split
  · next forbidden =>
      refine iff_of_false nofun ?_
      rintro ⟨permitted, -⟩
      obtain ⟨character, among, stops⟩ := List.any_eq_true.mp forbidden
      rw [permitted character among] at stops
      exact nomatch stops
  · next permitted =>
      rw [Bool.not_eq_true, List.any_eq_false] at permitted
      have allowed :
          ∀ character ∈ Text.Utf8.decode bytes,
            forbiddenInName character = false :=
        fun character among => Bool.eq_false_iff.mpr (permitted character among)
      rw [and_iff_right allowed]
      split
      · next labels =>
          rw [Option.some.injEq, iff_and_self]
          rintro rfl
          exact labels
      · next labels =>
          refine iff_of_false nofun ?_
          rintro ⟨known, rfl⟩
          exact labels known

/-- A name that is in lower case is converted to itself. -/
theorem lowerName?_encode
    {name : List Char}
    (permitted : ∀ character ∈ name, forbiddenInName character = false)
    (lower : ∀ character ∈ name, character.toLower = character)
    (labels : (Text.splitAll '.' name).all isNameLabel = true) :
    lowerName? (Text.Utf8.encode name) = some name := by
  rw [lowerName?_eq_some_iff, Text.Utf8.decode_encode]
  refine ⟨permitted, labels, ?_⟩
  rw [List.map_congr_left lower, List.map_id']

/-- No part of an IPv4 address is marked as international. -/
theorem isNameLabel_decimal (number : Nat) :
    isNameLabel (Text.decimal number) = true := by
  unfold isNameLabel
  rw [if_neg]
  intro marked
  obtain ⟨rest, shape⟩ := List.isPrefixOf_iff_prefix.mp marked
  have digit : 'x' ∈ Text.decimal number := by
    rw [← shape]
    exact List.mem_cons_self
  exact absurd (Text.isDigit_of_mem_decimal digit) (by decide)

theorem toLower_of_isDigit
    {character : Char}
    (digit : character.isDigit = true) :
    character.toLower = character := by
  have code := Text.isDigit_iff.mp digit
  revert digit
  exact
    Text.of_ascii
      (fun character =>
        character.isDigit = true -> character.toLower = character)
      (by decide +kernel) (by omega)

theorem NameConversion.ascii_lawful : NameConversion.ascii.Lawful where
  permitted := by
    intro bytes name converted
    obtain ⟨permitted, -, rfl⟩ := lowerName?_eq_some_iff.mp converted
    rw [List.forall_mem_map]
    exact fun source among => (toLower_of_permitted (permitted source among)).1
  stable := by
    intro bytes name converted
    obtain ⟨permitted, labels, rfl⟩ := lowerName?_eq_some_iff.mp converted
    apply lowerName?_encode _ _ labels
    · rw [List.forall_mem_map]
      exact fun source among =>
        (toLower_of_permitted (permitted source among)).1
    · rw [List.forall_mem_map]
      exact fun source among =>
        (toLower_of_permitted (permitted source among)).2
  numeric := by
    intro address
    apply lowerName?_encode
    · intro character member
      rcases mem_renderIpv4 member with rfl | digit
      · decide
      · exact permitted_of_isDigit digit
    · intro character member
      rcases mem_renderIpv4 member with rfl | digit
      · decide
      · exact toLower_of_isDigit digit
    · rw [splitAll_renderIpv4, List.all_map, List.all_eq_true]
      exact fun number _ => isNameLabel_decimal number

end Url
end FieldOcr
