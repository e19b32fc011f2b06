import FieldOcr.Text.Blank
import FieldOcr.Text.Numeral

/-!
# References in character data

Expansion of the five predefined entities and of character references.  No
other entity exists, so a document can never define one.  Positions in faults
count bytes from the start of the expanded text.
-/

namespace FieldOcr
namespace Markup

/-- Why a character reference denotes no character. -/
inductive CharacterFault
  | signed
  | numeral (fault : Text.NumeralFault)
  | zero
  | notScalar (code : Nat)
  deriving DecidableEq, Repr

/-- The wording of a character-reference fault. -/
def CharacterFault.message : CharacterFault -> String
  | .signed => "unexpected number sign"
  | .numeral fault => fault.message
  | .zero => "0x0 character is not permitted in XML"
  | .notScalar code => s!"`{code}` is not a valid codepoint"

/-- Why a text with references cannot be expanded. -/
inductive ReferenceFault
  | unterminated (start stop : Nat)
  | unrecognized (start stop : Nat) (name : String)
  | character (fault : CharacterFault)
  deriving DecidableEq, Repr

/-- The wording of a reference fault. -/
def ReferenceFault.message : ReferenceFault -> String
  | .unterminated start stop =>
      s!"Error while escaping character at range {start}..{stop}: " ++
        "Cannot find ';' after '&'"
  | .unrecognized start stop name =>
      s!"at {start}..{stop}: unrecognized entity `{name}`"
  | .character fault => "invalid character reference: " ++ fault.message

/-- Reads the code of a character reference in one base. -/
def readCode (base : Nat) : List Char -> Except CharacterFault Nat
  | '+' :: _ => .error .signed
  | '-' :: _ => .error .signed
  | digits =>
      match Text.readUnsigned base (Text.wordLimit 32) digits with
      | .ok code => .ok code
      | .error fault => .error (.numeral fault)

/-- The character of a character reference, given what stands after its number
sign.  A lower-case `x` introduces hexadecimal digits. -/
def referencedChar (body : List Char) : Except CharacterFault Char :=
  let code :=
    match body with
    | 'x' :: digits => readCode 16 digits
    | digits => readCode 10 digits
  match code with
  | .error fault => .error fault
  | .ok code =>
      if code = 0 then .error .zero
      else if code.isValidChar then .ok (Char.ofNat code)
      else .error (.notScalar code)

/-- The character of a predefined entity. -/
def predefined? (name : List Char) : Option Char :=
  if name = ['l', 't'] then some '<'
  else if name = ['g', 't'] then some '>'
  else if name = ['a', 'm', 'p'] then some '&'
  else if name = ['a', 'p', 'o', 's'] then some '\''
  else if name = ['q', 'u', 'o', 't'] then some '"'
  else none

/-- The character that a reference stands for, given what stands between its
ampersand and its semicolon and where that begins. -/
def resolve
    (start : Nat)
    (body : List Char) : Except ReferenceFault Char :=
  match body with
  | '#' :: code => (referencedChar code).mapError .character
  | name =>
      match predefined? name with
      | some character => .ok character
      | none =>
          .error (.unrecognized start (start + Text.byteLength name)
            (String.ofList name))

/-- A text cut at its first ampersand or semicolon: what stands before, the
character that was found, and what stands behind it. -/
def splitAtMark
    (taken : List Char) : List Char -> List Char × Option (Char × List Char)
  | [] => (taken.reverse, none)
  | character :: rest =>
      if character == '&' || character == ';' then
        (taken.reverse, some (character, rest))
      else splitAtMark (character :: taken) rest

theorem splitAtMark_length_lt
    {taken text before rest : List Char}
    {mark : Char}
    (split : splitAtMark taken text = (before, some (mark, rest))) :
    rest.length < text.length := by
  induction text generalizing taken with
  | nil => simp [splitAtMark] at split
  | cons character text inductionHypothesis =>
      unfold splitAtMark at split
      split at split
      · simp only [Prod.mk.injEq, Option.some.injEq] at split
        simp [split.2.2]
      · exact Nat.lt_succ_of_lt (inductionHypothesis split)

/-- Expands a text onto what has been expanded so far, the last character
first.  `offset` is the position of the text and `total` the length of the
whole. -/
def expandOnto
    (total offset : Nat)
    (expanded : List Char) :
    List Char -> Except ReferenceFault (List Char)
  | [] => .ok expanded.reverse
  | '&' :: rest =>
      match _split : splitAtMark [] rest with
      | (body, some (';', remaining)) =>
          match resolve (offset + 1) body with
          | .error fault => .error fault
          | .ok character =>
              expandOnto total (offset + 2 + Text.byteLength body)
                (character :: expanded) remaining
      | _ => .error (.unterminated offset total)
  | character :: rest =>
      expandOnto total (offset + character.utf8Size) (character :: expanded)
        rest
termination_by text => text.length
decreasing_by
  · have := splitAtMark_length_lt _split
    simp only [List.length_cons]
    omega
  · simp

/-- Expands every reference of a text. -/
def expand (text : List Char) : Except ReferenceFault (List Char) :=
  expandOnto (Text.byteLength text) 0 [] text

end Markup
end FieldOcr
