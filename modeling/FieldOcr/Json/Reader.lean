import FieldOcr.Json.Fault
import FieldOcr.Text.ShortestDecimal
import FieldOcr.Text.Utf8

/-!
# Reading JSON texts

The lexical level: white space, strings, numbers, literals, the punctuation of
aggregates and the skipping of values.  A reader consumes bytes of UTF-8 and
keeps its place when it fails, so that an aggregate whose contents are faulty
is still read to its end.  A fault is located by the number of bytes that were
left to read; a fault of meaning is located by whoever reads the value.
-/

namespace FieldOcr
namespace Json

/-- Why reading stops, and how many bytes were left, if that is settled. -/
structure Stop where
  /-- Why reading stops. -/
  cause : Cause
  /-- How many bytes were left to read. -/
  left : Option Nat

/-- A reader of bytes. -/
abbrev Reader :=
  EStateM Stop (List UInt8)

namespace Reader

/-- Fails at the number of bytes consumed. -/
def failHere (cause : Cause) : Reader α := do
  let rest ← get
  throw ⟨cause, some rest.length⟩

/-- Fails at the byte that comes next. -/
def failNext (cause : Cause) : Reader α := do
  let rest ← get
  throw ⟨cause, some (rest.length - 1)⟩

/-- Fails without a place. -/
def failUnplaced (cause : Cause) : Reader α :=
  throw ⟨cause, none⟩

/-- Places a fault without a place at the number of bytes consumed. -/
def placed (reader : Reader α) : Reader α := fun bytes =>
  match reader bytes with
  | .ok value rest => .ok value rest
  | .error stop rest =>
      .error ⟨stop.cause, some (stop.left.getD rest.length)⟩ rest

/-- Reads an aggregate's contents and then its end.  The end is read even if
the contents are faulty; of two faults the first counts. -/
def thenEnd (contents : Reader α) (finish : Reader Unit) : Reader α :=
  fun bytes =>
    match contents bytes with
    | .ok value rest =>
        match finish rest with
        | .ok () rest => .ok value rest
        | .error stop rest => .error stop rest
    | .error stop rest =>
        match finish rest with
        | .ok () rest => .error stop rest
        | .error _ rest => .error stop rest

/-- The next byte. -/
def next? : Reader (Option UInt8) := do
  return (← get).head?

/-- Consumes one byte. -/
def eat : Reader Unit :=
  modify List.tail

/-- Whether a byte is white space. -/
def isSpace (byte : UInt8) : Bool :=
  byte == 0x20 || byte == 0x0A || byte == 0x0D || byte == 0x09

/-- Skips white space and reports the byte behind it. -/
def skipSpace : Reader (Option UInt8) := do
  modify (·.dropWhile isSpace)
  next?

/-- Reads the rest of a literal. -/
def literal : List UInt8 -> Reader Unit
  | [] => return ()
  | expected :: others => do
      match ← next? with
      | none => failHere .endOfValue
      | some byte =>
          eat
          if byte == expected then literal others
          else failHere .expectedIdentifier

/-- Reads what follows the first letter of `null`. -/
def nullTail : Reader Unit :=
  literal [0x75, 0x6C, 0x6C]

/-- Reads what follows the first letter of `true`. -/
def trueTail : Reader Unit :=
  literal [0x72, 0x75, 0x65]

/-- Reads what follows the first letter of `false`. -/
def falseTail : Reader Unit :=
  literal [0x61, 0x6C, 0x73, 0x65]

/-- The value of a hexadecimal digit. -/
def hexValue? (byte : UInt8) : Option Nat :=
  let code := byte.toNat
  if 0x30 ≤ code && code ≤ 0x39 then some (code - 0x30)
  else if 0x41 ≤ code && code ≤ 0x46 then some (code - 0x41 + 10)
  else if 0x61 ≤ code && code ≤ 0x66 then some (code - 0x61 + 10)
  else none

/-- Reads four hexadecimal digits. -/
def fourHex : Reader Nat := do
  match ← get with
  | first :: second :: third :: fourth :: rest =>
      set rest
      let digits := [first, second, third, fourth].mapM hexValue?
      match digits with
      | some values => return values.foldl (fun value digit => value * 16 + digit) 0
      | none => failHere .invalidEscape
  | _ =>
      set ([] : List UInt8)
      failHere .endOfString

/-- The byte that comes next inside a string. -/
def nextInString : Reader UInt8 := do
  match ← next? with
  | some byte => return byte
  | none => failHere .endOfString

/-- Reads the escape of a character by its UTF-16 code units, from behind the
letter that introduces it. -/
def unicodeEscape : Reader (List UInt8) := do
  let first ← fourHex
  if 0xDC00 ≤ first && first ≤ 0xDFFF then failHere .loneSurrogate
  else if first < 0xD800 || 0xDBFF < first then
    return Text.Utf8.encodeChar (Char.ofNat first)
  else
    if (← nextInString) != 0x5C then
      eat
      failHere .endOfSurrogate
    eat
    if (← nextInString) != 0x75 then
      eat
      failHere .endOfSurrogate
    eat
    let second ← fourHex
    if second < 0xDC00 || 0xDFFF < second then failHere .loneSurrogate
    else
      let code := 0x10000 + (first - 0xD800) * 0x400 + (second - 0xDC00)
      return Text.Utf8.encodeChar (Char.ofNat code)

/-- The byte that a letter behind a backslash stands for. -/
def escapedByte? (letter : UInt8) : Option UInt8 :=
  if letter == 0x22 || letter == 0x5C || letter == 0x2F then some letter
  else if letter == 0x62 then some 0x08
  else if letter == 0x66 then some 0x0C
  else if letter == 0x6E then some 0x0A
  else if letter == 0x72 then some 0x0D
  else if letter == 0x74 then some 0x09
  else none

/-- Reads an escape from behind its backslash. -/
def escape : Reader (List UInt8) := do
  let letter ← nextInString
  eat
  if letter == 0x75 then unicodeEscape
  else
    match escapedByte? letter with
    | some byte => return [byte]
    | none => failHere .invalidEscape

/-- Reads an escape whose value does not matter. -/
def skippedEscape : Reader Unit := do
  let letter ← nextInString
  eat
  if letter == 0x75 then discard fourHex
  else if (escapedByte? letter).isNone then failHere .invalidEscape

/-- Reads the bytes of a string, up to and with its closing quote, onto those
read so far, the last one first. -/
def stringBytes (readSoFar : List UInt8) : Nat -> Reader (List UInt8)
  | 0 => failHere .endOfString
  | fuel + 1 => do
      let byte ← nextInString
      eat
      if byte == 0x22 then return readSoFar.reverse
      else if byte == 0x5C then
        let bytes ← escape
        stringBytes (bytes.reverse ++ readSoFar) fuel
      else if byte < 0x20 then failHere .controlCharacter
      else stringBytes (byte :: readSoFar) fuel

/-- Reads a string from behind its opening quote. -/
def stringTail : Reader String := do
  let rest ← get
  let bytes ← stringBytes [] (rest.length + 1)
  return String.ofList (Text.Utf8.decode bytes)

/-- Skips a string up to and with its closing quote. -/
def skipStringBytes : Nat -> Reader Unit
  | 0 => failHere .endOfString
  | fuel + 1 => do
      let byte ← nextInString
      if byte == 0x22 then eat
      else if byte == 0x5C then
        eat
        skippedEscape
        skipStringBytes fuel
      else if byte < 0x20 then failHere .controlCharacter
      else
        eat
        skipStringBytes fuel

/-- Skips a string from behind its opening quote. -/
def skipString : Reader Unit := do
  let rest ← get
  skipStringBytes (rest.length + 1)

/-- A number as it is read: an integer that fits 64 bits, or a double. -/
inductive Number
  | integer (value : Int)
  | double (value : Float)

/-- How a number appears in a fault. -/
def Number.found : Number -> Found
  | .integer value => .integer value
  | .double value => .decimal (Text.ShortestDecimal.ofFloat value)

/-- Whether a byte is a decimal digit. -/
def isDigit (byte : UInt8) : Bool :=
  0x30 ≤ byte && byte ≤ 0x39

/-- Whether a byte introduces an exponent. -/
def isExponentMark (byte : UInt8) : Bool :=
  byte == 0x65 || byte == 0x45

/-- Consumes a run of digits. -/
def digits : Reader (List Nat) := do
  let rest ← get
  set (rest.dropWhile isDigit)
  return (rest.takeWhile isDigit).map fun byte => byte.toNat - 0x30

/-- The digits that still fit 64 bits, and the number of those behind them. -/
def significand (value : Nat) : List Nat -> Nat × Nat
  | [] => (value, 0)
  | digit :: rest =>
      if value * 10 + digit < Nat.pow 2 64 then
        significand (value * 10 + digit) rest
      else (value, rest.length + 1)

/-- Scales a double by a power of ten, if the result is finite. -/
def scale (value : Float) (exponent : Int) : Nat -> Option Float
  | 0 => none
  | fuel + 1 =>
      let power := fun (size : Nat) => Float.ofScientific 1 false size
      if exponent.natAbs ≤ 308 then
        if exponent < 0 then some (value / power exponent.natAbs)
        else
          let product := value * power exponent.natAbs
          if product.isInf then none else some product
      else if value == 0 then some value
      else if exponent < 0 then
        scale (value / power 308) (exponent + 308) fuel
      else none

/-- The double of a sign, a significand and a power of ten. -/
def double
    (positive : Bool)
    (value : Nat)
    (exponent : Int) : Reader Number :=
  match scale (Float.ofNat value) exponent (exponent.natAbs + 1) with
  | some magnitude =>
      return .double (if positive then magnitude else -magnitude)
  | none => failHere .numberOutOfRange

/-- Reads an exponent, from its mark on, that adds to a power of ten. -/
def exponentPart
    (positive : Bool)
    (value : Nat)
    (exponent : Int) : Reader Number := do
  eat
  let negative ←
    match ← next? with
    | some 0x2B => eat; pure false
    | some 0x2D => eat; pure true
    | _ => pure false
  match ← next? with
  | none => failHere .endOfValue
  | some byte =>
      if !isDigit byte then
        eat
        failHere .invalidNumber
      else
        let read : Nat :=
          (← digits).foldl (fun total digit => total * 10 + digit) 0
        if read ≥ Nat.pow 2 31 then
          if value ≠ 0 && !negative then failHere .numberOutOfRange
          else double positive 0 0
        else
          double positive value
            (if negative then exponent - (read : Int)
              else exponent + (read : Int))

/-- Reads what may follow the fraction of a number. -/
def fractionTail
    (positive : Bool)
    (value : Nat)
    (exponent : Int) : Reader Number := do
  match ← next? with
  | some byte =>
      if isExponentMark byte then exponentPart positive value exponent
      else double positive value exponent
  | none => double positive value exponent

/-- Reads a fraction from its point on. -/
def fractionPart
    (positive : Bool)
    (value : Nat)
    (exponent : Int) : Reader Number := do
  eat
  let places ← digits
  if places.isEmpty then
    match ← next? with
    | some _ => failNext .invalidNumber
    | none => failNext .endOfValue
  else
    let (value, dropped) := significand value places
    let used : Nat := places.length - dropped
    fractionTail positive value (exponent - (used : Int))

/-- Reads what follows the whole part of a number. -/
def numberTail
    (positive : Bool)
    (value dropped : Nat) : Reader Number := do
  let whole : Reader Number :=
    if dropped ≠ 0 then double positive value dropped
    else if positive then return .integer value
    else if value = 0 || Nat.pow 2 63 < value then
      return .double (-(Float.ofNat value))
    else return .integer (-value)
  match ← next? with
  | some 0x2E => fractionPart positive value dropped
  | some byte =>
      if isExponentMark byte then exponentPart positive value dropped
      else whole
  | none => whole

/-- Reads a number from behind its sign. -/
def unsignedNumber (positive : Bool) : Reader Number := do
  match ← next? with
  | none => failHere .endOfValue
  | some 0x30 =>
      eat
      match ← next? with
      | some byte =>
          if isDigit byte then failNext .invalidNumber
          else numberTail positive 0 0
      | none => numberTail positive 0 0
  | some byte =>
      if isDigit byte then
        let (value, dropped) := significand 0 (← digits)
        numberTail positive value dropped
      else
        eat
        failHere .invalidNumber

/-- Reads a number. -/
def number : Reader Number := do
  match ← next? with
  | some 0x2D =>
      eat
      unsignedNumber false
  | _ => unsignedNumber true

/-- Skips the exponent of a number from its mark on. -/
def skipExponent : Reader Unit := do
  eat
  match ← next? with
  | some 0x2B => eat
  | some 0x2D => eat
  | _ => pure ()
  match ← next? with
  | none => failHere .invalidNumber
  | some byte =>
      eat
      if isDigit byte then modify (·.dropWhile isDigit)
      else failHere .invalidNumber

/-- Skips a number from behind its sign. -/
def skipNumber : Reader Unit := do
  match ← next? with
  | none => failHere .invalidNumber
  | some 0x30 =>
      eat
      match ← next? with
      | some byte => if isDigit byte then failNext .invalidNumber
      | none => pure ()
  | some byte =>
      if isDigit byte then modify (·.dropWhile isDigit)
      else
        eat
        failHere .invalidNumber
  match ← next? with
  | some 0x2E =>
      eat
      if (← digits).isEmpty then failNext .invalidNumber
      match ← next? with
      | some byte => if isExponentMark byte then skipExponent
      | none => pure ()
  | some byte => if isExponentMark byte then skipExponent
  | none => pure ()

/-- Whether another element of a sequence follows. -/
def moreElements (first : Bool) : Reader Bool := do
  match ← skipSpace with
  | none => failNext .endOfList
  | some 0x5D => return false
  | some byte =>
      if first then return true
      else if byte == 0x2C then
        eat
        match ← skipSpace with
        | some 0x5D => failNext .trailingComma
        | some _ => return true
        | none => failNext .endOfValue
      else failNext .expectedListEnd

/-- Whether another key of an object follows. -/
def moreKeys (first : Bool) : Reader Bool := do
  match ← skipSpace with
  | none => failNext .endOfObject
  | some 0x7D => return false
  | some byte =>
      if first then
        if byte == 0x22 then return true else failNext .keyNotString
      else if byte == 0x2C then
        eat
        match ← skipSpace with
        | some 0x22 => return true
        | some 0x7D => failNext .trailingComma
        | some _ => failNext .keyNotString
        | none => failNext .endOfValue
      else failNext .expectedObjectEnd

/-- Reads the end of a sequence. -/
def sequenceEnd : Reader Unit := do
  match ← skipSpace with
  | some 0x5D => eat
  | some 0x2C =>
      eat
      match ← skipSpace with
      | some 0x5D => failNext .trailingComma
      | _ => failNext .trailingCharacters
  | some _ => failNext .trailingCharacters
  | none => failNext .endOfList

/-- Reads the end of an object. -/
def objectEnd : Reader Unit := do
  match ← skipSpace with
  | some 0x7D => eat
  | some 0x2C => failNext .trailingComma
  | some _ => failNext .trailingCharacters
  | none => failNext .endOfObject

/-- Reads the colon behind a key. -/
def colon : Reader Unit := do
  match ← skipSpace with
  | some 0x3A => eat
  | some _ => failNext .expectedColon
  | none => failNext .endOfObject

/-- An aggregate that is being skipped. -/
inductive Enclosing
  | sequence
  | object
  deriving DecidableEq

/-- Skips the key of a member and its colon. -/
def skipKey : Reader Unit := do
  match ← skipSpace with
  | some 0x22 =>
      eat
      skipString
      colon
  | some _ => failNext .keyNotString
  | none => failNext .endOfObject

mutual

/-- Skips a value inside some aggregates, innermost first, and whatever they
still hold. -/
def skipInside (enclosing : List Enclosing) : Nat -> Reader Unit
  | 0 => failHere .endOfValue
  | fuel + 1 => do
      match ← skipSpace with
      | none => failNext .endOfValue
      | some 0x6E => do
          eat
          nullTail
          skipOn enclosing fuel
      | some 0x74 => do
          eat
          trueTail
          skipOn enclosing fuel
      | some 0x66 => do
          eat
          falseTail
          skipOn enclosing fuel
      | some 0x2D => do
          eat
          skipNumber
          skipOn enclosing fuel
      | some 0x22 => do
          eat
          skipString
          skipOn enclosing fuel
      | some 0x5B => do
          eat
          match ← skipSpace with
          | some 0x5D => do
              eat
              skipOn enclosing fuel
          | some _ => skipInside (.sequence :: enclosing) fuel
          | none => failNext .endOfList
      | some 0x7B => do
          eat
          match ← skipSpace with
          | some 0x7D => do
              eat
              skipOn enclosing fuel
          | some _ => do
              skipKey
              skipInside (.object :: enclosing) fuel
          | none => failNext .endOfObject
      | some byte =>
          if isDigit byte then do
            skipNumber
            skipOn enclosing fuel
          else failNext .expectedValue

/-- Skips what follows a value inside some aggregates, innermost first. -/
def skipOn (enclosing : List Enclosing) : Nat -> Reader Unit
  | 0 => failHere .endOfValue
  | fuel + 1 => do
      match enclosing with
      | [] => return ()
      | .sequence :: outer =>
          match ← skipSpace with
          | some 0x2C => do
              eat
              skipInside enclosing fuel
          | some 0x5D => do
              eat
              skipOn outer fuel
          | some _ => failNext .expectedListEnd
          | none => failNext .endOfList
      | .object :: outer =>
          match ← skipSpace with
          | some 0x2C => do
              eat
              skipKey
              skipInside enclosing fuel
          | some 0x7D => do
              eat
              skipOn outer fuel
          | some _ => failNext .expectedObjectEnd
          | none => failNext .endOfObject

end

/-- Skips a value of any type. -/
def skipValue : Reader Unit := do
  let rest ← get
  skipInside [] (2 * rest.length + 2)

/-- Reads whatever stands where another type was expected, and fails. -/
def invalidType (expected : String) : Reader α := do
  let found : Reader Found := do
    match ← next? with
    | some 0x6E => do
        eat
        nullTail
        return .null
    | some 0x74 => do
        eat
        trueTail
        return .boolean true
    | some 0x66 => do
        eat
        falseTail
        return .boolean false
    | some 0x22 => do
        eat
        return .string (← stringTail)
    | some 0x5B => return .sequence
    | some 0x7B => return .map
    | some byte =>
        if byte == 0x2D || isDigit byte then return (← number).found
        else failNext .expectedValue
    | none => failNext .expectedValue
  let found ← found
  failHere (.invalidType found expected)

end Reader
end Json
end FieldOcr
