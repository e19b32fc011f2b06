import FieldOcr.Text.Blank

/-!
# Tags and their attributes

An opening tag is a name and the text behind it, which lists the attributes.
Names may carry a prefix that ends at their first colon.  Positions in faults
count bytes from the start of the tag's name.
-/

namespace FieldOcr
namespace Markup

/-- An opening or self-closing tag without its angle brackets. -/
structure Tag where
  /-- The name with its prefix. -/
  name : List Char
  /-- What stands behind the name. -/
  body : List Char
  deriving DecidableEq, Repr

/-- Splits the text of a tag behind its name. -/
def Tag.ofText (text : List Char) : Tag where
  name := text.takeWhile fun character => !Text.isMarkupSpace character
  body := text.dropWhile fun character => !Text.isMarkupSpace character

/-- A name without its prefix. -/
def localName (name : List Char) : List Char :=
  match name.dropWhile (· != ':') with
  | [] => name
  | _ :: rest => rest

/-- Whether a name declares a namespace. -/
def bindsNamespace (name : List Char) : Bool :=
  name == "xmlns".toList || "xmlns:".toList.isPrefixOf name

/-- A name and the text between the quotes behind it. -/
structure Attribute where
  /-- The name with its prefix. -/
  name : List Char
  /-- The value with its references unexpanded. -/
  value : List Char
  deriving DecidableEq, Repr

/-- Why a tag's attributes cannot be read. -/
inductive AttributeFault
  | expectedEquals (position : Nat)
  | expectedValue (position : Nat)
  | unquotedValue (position : Nat)
  | expectedQuote (position : Nat) (quote : Char)
  | duplicated (position previous : Nat)
  deriving DecidableEq, Repr

/-- The wording of an attribute fault. -/
def AttributeFault.message : AttributeFault -> String
  | .expectedEquals position =>
      s!"position {position}: attribute key must be directly followed by " ++
        "`=` or space"
  | .expectedValue position =>
      s!"position {position}: `=` must be followed by an attribute value"
  | .unquotedValue position =>
      s!"position {position}: attribute value must be enclosed in `\"` or `'`"
  | .expectedQuote position quote =>
      s!"position {position}: missing closing quote `" ++
        String.ofList [quote] ++ "` in attribute value"
  | .duplicated position previous =>
      s!"position {position}: duplicated attribute, previous declaration at " ++
        s!"position {previous}"

/-- Skips white space and reports the position behind it. -/
def skipSpace (position : Nat) (text : List Char) : Nat × List Char :=
  (position + (text.takeWhile Text.isMarkupSpace).length,
    text.dropWhile Text.isMarkupSpace)

/-- Splits an attribute name from what follows.  The first character belongs
to the name whatever it is; the name ends before the next equals sign or white
space. -/
def splitName : List Char -> List Char × List Char
  | [] => ([], [])
  | first :: rest =>
      let continues := fun character =>
        !(character == '=' || Text.isMarkupSpace character)
      (first :: rest.takeWhile continues, rest.dropWhile continues)

/-- Reads the equals sign behind a name, and white space in front of it. -/
def readEquals
    (position : Nat)
    (text : List Char) : Except AttributeFault (Nat × List Char) :=
  match skipSpace position text with
  | (position, '=' :: rest) => .ok (position + 1, rest)
  | (position, _) => .error (.expectedEquals position)

/-- Reads a quoted value, and white space in front of it.  The result holds
the value, the position behind its closing quote and what follows. -/
def readValue
    (position : Nat)
    (text : List Char) :
    Except AttributeFault (List Char × Nat × List Char) :=
  match skipSpace position text with
  | (position, []) => .error (.expectedValue position)
  | (position, quote :: rest) =>
      if quote == '"' || quote == '\'' then
        let value := rest.takeWhile (· != quote)
        let stop := position + 1 + Text.byteLength value
        match rest.dropWhile (· != quote) with
        | [] => .error (.expectedQuote stop quote)
        | _ :: remaining => .ok (value, stop + 1, remaining)
      else .error (.unquotedValue position)

/-- What one step of reading attributes finds. -/
inductive AttributeStep
  | finished
  | faulty (fault : AttributeFault)
  | found
      (attr : Attribute)
      (start position : Nat)
      (rest : List Char)

/-- Reads the next attribute.  `known` holds the names read so far with their
positions.  A name that was read before is reported ahead of a fault in its
value. -/
def readAttribute
    (known : List (List Char × Nat))
    (position : Nat)
    (text : List Char) : AttributeStep :=
  match skipSpace position text with
  | (_, []) => .finished
  | (start, first :: rest) =>
      let (name, afterName) := splitName (first :: rest)
      match readEquals (start + Text.byteLength name) afterName with
      | .error fault => .faulty fault
      | .ok (position, afterEquals) =>
          match known.find? (·.1 == name) with
          | some (_, previous) => .faulty (.duplicated start previous)
          | none =>
              match readValue position afterEquals with
              | .error fault => .faulty fault
              | .ok (value, position, remaining) =>
                  .found ⟨name, value⟩ start position remaining

theorem dropWhile_length_le
    (test : Char -> Bool)
    (text : List Char) :
    (text.dropWhile test).length ≤ text.length :=
  (List.dropWhile_sublist test).length_le

theorem readValue_length_lt
    {position stop : Nat}
    {text value rest : List Char}
    (result : readValue position text = .ok (value, stop, rest)) :
    rest.length < text.length := by
  have skipped := dropWhile_length_le Text.isMarkupSpace text
  unfold readValue skipSpace at result
  split at result
  · simp at result
  · next quote afterQuote shape =>
      obtain ⟨-, shape⟩ := Prod.mk.inj shape
      rw [shape] at skipped
      simp only [List.length_cons] at skipped
      split at result
      · have dropped := dropWhile_length_le (· != quote) afterQuote
        dsimp only at result
        split at result
        · simp at result
        · next remaining dropShape =>
            rw [dropShape] at dropped
            simp only [List.length_cons] at dropped
            simp only [Except.ok.injEq, Prod.mk.injEq] at result
            rw [← result.2.2]
            omega
      · simp at result

theorem readEquals_length_le
    {position stop : Nat}
    {text rest : List Char}
    (result : readEquals position text = .ok (stop, rest)) :
    rest.length ≤ text.length := by
  have skipped := dropWhile_length_le Text.isMarkupSpace text
  unfold readEquals skipSpace at result
  split at result
  · next behind shape =>
      obtain ⟨-, shape⟩ := Prod.mk.inj shape
      simp only [Except.ok.injEq, Prod.mk.injEq] at result
      rw [shape, List.length_cons] at skipped
      rw [← result.2]
      omega
  · simp at result

theorem splitName_length_le (text : List Char) :
    (splitName text).2.length ≤ text.length := by
  cases text with
  | nil => simp [splitName]
  | cons first rest =>
      exact Nat.le_succ_of_le (dropWhile_length_le _ rest)

theorem readAttribute_length_lt
    {known : List (List Char × Nat)}
    {position start stop : Nat}
    {text rest : List Char}
    {attr : Attribute}
    (result :
      readAttribute known position text = .found attr start stop rest) :
    rest.length < text.length := by
  have skipped := dropWhile_length_le Text.isMarkupSpace text
  unfold readAttribute skipSpace at result
  split at result
  · simp at result
  · next first behind shape =>
      obtain ⟨-, shape⟩ := Prod.mk.inj shape
      rw [shape] at skipped
      have named := splitName_length_le (first :: behind)
      dsimp only at result
      split at result
      · simp at result
      · next afterEquals equals =>
          have equalsLength := readEquals_length_le equals
          split at result
          · simp at result
          · split at result
            · simp at result
            · next quoted =>
                have valueLength := readValue_length_lt quoted
                simp only [AttributeStep.found.injEq] at result
                rw [← result.2.2.2]
                omega

/-- Reads attributes until the text ends or a fault is met. -/
def readAttributes
    (known : List (List Char × Nat))
    (position : Nat)
    (text : List Char) : List Attribute × Option AttributeFault :=
  match _result : readAttribute known position text with
  | .finished => ([], none)
  | .faulty fault => ([], some fault)
  | .found attr start stop rest =>
      let (attributes, fault) :=
        readAttributes ((attr.name, start) :: known) stop rest
      (attr :: attributes, fault)
termination_by text.length
decreasing_by exact readAttribute_length_lt _result

/-- The attributes of a tag in order, and the fault that ends them early. -/
def Tag.attributes (tag : Tag) : List Attribute × Option AttributeFault :=
  readAttributes [] (Text.byteLength tag.name) tag.body

end Markup
end FieldOcr
