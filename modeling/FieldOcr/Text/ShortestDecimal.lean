/-!
# The shortest decimal text of a floating-point number

A finite double is a natural number times a power of two.  The decimals that
read back as it form an interval; the shortest of them has the coarsest decimal
grid that meets the interval, and of two points of that grid the nearer one is
taken.
-/

namespace FieldOcr
namespace Text
namespace ShortestDecimal

/-- A positive rational number. -/
structure Fraction where
  /-- The numerator. -/
  numerator : Nat
  /-- The denominator. -/
  denominator : Nat

/-- A natural number times a power of two. -/
def scaled (mantissa : Nat) (exponent : Int) : Fraction :=
  if exponent < 0 then ⟨mantissa, Nat.pow 2 exponent.natAbs⟩
  else ⟨mantissa * Nat.pow 2 exponent.natAbs, 1⟩

/-- A natural number times a power of ten. -/
def decimalScaled (digits : Nat) (exponent : Int) : Fraction :=
  if exponent < 0 then ⟨digits, Nat.pow 10 exponent.natAbs⟩
  else ⟨digits * Nat.pow 10 exponent.natAbs, 1⟩

/-- Whether one fraction is below another. -/
def Fraction.below (left right : Fraction) : Bool :=
  left.numerator * right.denominator < right.numerator * left.denominator

/-- The distance between two fractions. -/
def Fraction.distance (left right : Fraction) : Fraction :=
  let first := left.numerator * right.denominator
  let second := right.numerator * left.denominator
  ⟨max first second - min first second, left.denominator * right.denominator⟩

/-- A positive double together with the interval of the numbers that round to
it. -/
structure Target where
  /-- The double. -/
  value : Fraction
  /-- The lower end of the interval. -/
  lower : Fraction
  /-- The upper end of the interval. -/
  upper : Fraction
  /-- Whether the ends belong to the interval. -/
  closed : Bool

/-- The target of a positive finite double, given by its bits. -/
def target (bits : Nat) : Target :=
  let stored : Nat := bits / Nat.pow 2 52 % Nat.pow 2 11
  let fraction : Nat := bits % Nat.pow 2 52
  let mantissa : Nat := if stored = 0 then fraction else fraction + Nat.pow 2 52
  let exponent : Int := (if stored = 0 then 1 else (stored : Int)) - 1075
  let narrow := fraction = 0 && stored > 1
  { value := scaled mantissa exponent
    lower :=
      if narrow then scaled (4 * mantissa - 1) (exponent - 2)
      else scaled (2 * mantissa - 1) (exponent - 1)
    upper := scaled (2 * mantissa + 1) (exponent - 1)
    closed := mantissa % 2 = 0 }

/-- Whether a decimal reads back as the target. -/
def Target.admits (target : Target) (candidate : Fraction) : Bool :=
  if target.closed then
    !candidate.below target.lower && !target.upper.below candidate
  else target.lower.below candidate && candidate.below target.upper

/-- The digits on the grid of one power of ten that read back as the target,
the nearer ones if there are two. -/
def Target.onGrid? (target : Target) (exponent : Int) : Option Nat :=
  let unit := decimalScaled 1 exponent
  let low :=
    target.value.numerator * unit.denominator /
      (target.value.denominator * unit.numerator)
  let high := low + 1
  let lowPoint := decimalScaled low exponent
  let highPoint := decimalScaled high exponent
  match 0 < low && target.admits lowPoint, target.admits highPoint with
  | true, true =>
      if (highPoint.distance target.value).below
          (lowPoint.distance target.value) then
        some high
      else some low
  | true, false => some low
  | false, true => some high
  | false, false => none

/-- Searches ever finer grids for the first point that reads back. -/
def search (target : Target) (exponent : Int) : Nat -> Nat × Int
  | 0 => (0, exponent)
  | fuel + 1 =>
      match target.onGrid? exponent with
      | some digits => (digits, exponent)
      | none => search target (exponent - 1) fuel

/-- The shortest digits of a positive finite double and their power of ten. -/
def shortest (bits : Nat) : Nat × Int :=
  search (target bits) 309 700

/-- A decimal in positional notation where its point stands near its digits,
and in scientific notation elsewhere. -/
def render (digits : Nat) (exponent : Int) : String :=
  let text := toString digits
  let count : Int := text.length
  let point := count + exponent
  if 0 ≤ exponent && point ≤ 16 then
    text ++ "".pushn '0' exponent.natAbs ++ ".0"
  else if 0 < point && point ≤ 16 then
    (text.take point.natAbs).toString ++ "." ++
      (text.drop point.natAbs).toString
  else if -5 < point && point ≤ 0 then
    "0." ++ "".pushn '0' point.natAbs ++ text
  else if count = 1 then text ++ "e" ++ toString (point - 1)
  else
    (text.take 1).toString ++ "." ++ (text.drop 1).toString ++ "e" ++
      toString (point - 1)

/-- The shortest decimal text of a finite double. -/
def ofFloat (number : Float) : String :=
  let bits := number.toBits.toNat
  let sign := if bits ≥ Nat.pow 2 63 then "-" else ""
  let magnitude := bits % Nat.pow 2 63
  if magnitude = 0 then sign ++ "0.0"
  else
    let (digits, exponent) := shortest magnitude
    sign ++ render digits exponent

end ShortestDecimal
end Text
end FieldOcr
