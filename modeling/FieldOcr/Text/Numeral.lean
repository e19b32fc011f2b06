/-!
# Numerals

Reading of unsigned and signed numerals with a bound, and the decimal text of
a natural number.  Digits are ASCII digits only, an optional plus sign may
stand in front of any numeral and a minus sign in front of a signed one.  A
numeral is read from left to right, so a value that leaves its bound is
reported before a later character that is no digit.
-/

namespace FieldOcr
namespace Text

/-- Why a text is not a numeral of the requested range. -/
inductive NumeralFault
  | empty
  | invalidDigit
  | tooLarge
  | tooSmall
  deriving DecidableEq, Repr

/-- The wording of a numeral fault. -/
def NumeralFault.message : NumeralFault -> String
  | .empty => "cannot parse integer from empty string"
  | .invalidDigit => "invalid digit found in string"
  | .tooLarge => "number too large to fit in target type"
  | .tooSmall => "number too small to fit in target type"

/-- The value of a digit in bases up to sixteen. -/
def digitValue? (base : Nat) (character : Char) : Option Nat :=
  let code := character.toNat
  let value :=
    if 0x30 ≤ code && code ≤ 0x39 then some (code - 0x30)
    else if 0x41 ≤ code && code ≤ 0x46 then some (code - 0x41 + 10)
    else if 0x61 ≤ code && code ≤ 0x66 then some (code - 0x61 + 10)
    else none
  value.filter (· < base)

/-- Reads digits onto the value read so far, refusing the first digit that
takes the value above the limit. -/
def readDigits
    (base limit : Nat)
    (overflow : NumeralFault)
    (value : Nat) : List Char -> Except NumeralFault Nat
  | [] => .ok value
  | character :: rest =>
      match digitValue? base character with
      | none => .error .invalidDigit
      | some digit =>
          if value * base + digit ≤ limit then
            readDigits base limit overflow (value * base + digit) rest
          else .error overflow

/-- Reads an unsigned numeral that is at most `limit`. -/
def readUnsigned
    (base limit : Nat) : List Char -> Except NumeralFault Nat
  | [] => .error .empty
  | ['+'] => .error .invalidDigit
  | ['-'] => .error .invalidDigit
  | '+' :: digits => readDigits base limit .tooLarge 0 digits
  | digits => readDigits base limit .tooLarge 0 digits

/-- Reads a signed decimal numeral between `-limit - 1` and `limit`. -/
def readSigned (limit : Nat) : List Char -> Except NumeralFault Int
  | [] => .error .empty
  | ['+'] => .error .invalidDigit
  | ['-'] => .error .invalidDigit
  | '-' :: digits =>
      (readDigits 10 (limit + 1) .tooSmall 0 digits).map fun value =>
        -(value : Int)
  | '+' :: digits =>
      (readDigits 10 limit .tooLarge 0 digits).map fun value => (value : Int)
  | digits =>
      (readDigits 10 limit .tooLarge 0 digits).map fun value => (value : Int)

/-- The largest value of an unsigned word of the given number of bits. -/
def wordLimit (bits : Nat) : Nat :=
  Nat.pow 2 bits - 1

/-- Reads a decimal numeral that fits an unsigned word. -/
def readWord (bits : Nat) (text : List Char) : Except NumeralFault Nat :=
  readUnsigned 10 (wordLimit bits) text

/-- The decimal digits of a natural number, most significant first. -/
def decimal (value : Nat) : List Char :=
  if value < 10 then [Char.ofNat (0x30 + value)]
  else decimal (value / 10) ++ [Char.ofNat (0x30 + value % 10)]
termination_by value

end Text
end FieldOcr
