/-!
# The outline of certificates

A certificate is a nest of tagged values.  Only its outline is checked: a body
with its parts in order, an algorithm and a signature.
-/

namespace FieldOcr
namespace Trust

/-- A tag and the bytes of its value. -/
structure Tagged where
  /-- The tag. -/
  tag : Nat
  /-- The bytes of the value. -/
  contents : List UInt8

/-- The number that some bytes write, the most significant one first. -/
def bigEndian (bytes : List UInt8) : Nat :=
  bytes.foldl (fun value byte => value * 0x100 + byte.toNat) 0

/-- The least length that needs a long form of some bytes. -/
def leastLength (count : Nat) : Nat :=
  if count = 1 then 0x80 else Nat.pow 0x100 (count - 1)

/-- Reads the length of a value.  A long form must not be longer than it has
to be. -/
def readLength? : List UInt8 -> Option (Nat × List UInt8)
  | [] => none
  | first :: rest =>
      if first.toNat < 0x80 then some (first.toNat, rest)
      else
        let count := first.toNat - 0x80
        let value := bigEndian (rest.take count)
        if count = 0 || 4 < count || rest.length < count ||
            value < leastLength count then
          none
        else some (value, rest.drop count)

/-- Reads one tagged value. -/
def readTagged? : List UInt8 -> Option (Tagged × List UInt8)
  | [] => none
  | tag :: rest => do
      let (length, behind) ← readLength? rest
      if behind.length < length then none
      else some (⟨tag.toNat, behind.take length⟩, behind.drop length)

theorem readLength?_length_lt
    {bytes rest : List UInt8}
    {length : Nat}
    (result : readLength? bytes = some (length, rest)) :
    rest.length < bytes.length := by
  cases bytes with
  | nil => simp [readLength?] at result
  | cons first bytes =>
      simp only [readLength?] at result
      split at result
      · simp only [Option.some.injEq, Prod.mk.injEq] at result
        simp [result.2]
      · split at result
        · simp at result
        · simp only [Option.some.injEq, Prod.mk.injEq] at result
          rw [← result.2, List.length_drop, List.length_cons]
          omega

theorem readTagged?_length_lt
    {bytes rest : List UInt8}
    {value : Tagged}
    (result : readTagged? bytes = some (value, rest)) :
    rest.length < bytes.length := by
  cases bytes with
  | nil => simp [readTagged?] at result
  | cons tag bytes =>
      simp only [readTagged?, Option.bind_eq_bind,
        Option.bind_eq_some_iff] at result
      obtain ⟨⟨length, behind⟩, read, result⟩ := result
      have shorter := readLength?_length_lt read
      split at result
      · simp at result
      · simp only [Option.some.injEq, Prod.mk.injEq] at result
        rw [← result.2, List.length_drop, List.length_cons]
        omega

/-- Reads tagged values up to the end. -/
def readAll? (bytes : List UInt8) : Option (List Tagged) :=
  if bytes.isEmpty then some []
  else
    match _result : readTagged? bytes with
    | none => none
    | some (value, rest) => (readAll? rest).map (value :: ·)
termination_by bytes.length
decreasing_by exact readTagged?_length_lt _result

/-- The tag of a sequence. -/
def sequenceTag : Nat := 0x30

/-- Whether the parts of a certificate's body stand in order: an optional
version, a serial number, five sequences and optional extensions. -/
def isBody (parts : List Tagged) : Bool :=
  let tags := parts.map (·.tag)
  let numbered := if tags.head? = some 0xA0 then tags.drop 1 else tags
  numbered.take 6 ==
      0x02 :: List.replicate 5 sequenceTag &&
    (numbered.drop 6).all fun tag => tag == 0x81 || tag == 0x82 || tag == 0xA3

/-- Whether bytes have the outline of a certificate. -/
def isCertificate (bytes : List UInt8) : Bool :=
  match readAll? bytes with
  | some [whole] =>
      whole.tag == sequenceTag &&
        (match readAll? whole.contents with
        | some [body, algorithm, signature] =>
            body.tag == sequenceTag && algorithm.tag == sequenceTag &&
              signature.tag == 0x03 &&
              ((readAll? body.contents).map isBody).getD false
        | _ => false)
  | _ => false

end Trust
end FieldOcr
