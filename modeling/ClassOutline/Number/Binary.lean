set_option autoImplicit false

namespace ClassOutline

/-- The nearest natural number to `num / den`; a tie goes to the even one. -/
def roundHalfEven (num den : Nat) : Nat :=
  let quotient := num / den
  let twice := 2 * (num % den)
  if twice < den ∨ (twice = den ∧ quotient % 2 = 0) then quotient else quotient + 1

/-- How many digits `number` has in `base`; zero has none. -/
def digitCount (base number : Nat) : Nat :=
  if 2 ≤ base ∧ 0 < number then digitCount base (number / base) + 1 else 0
termination_by number
decreasing_by exact Nat.div_lt_self (by omega) (by omega)

/-- A positive quotient as the numerator and denominator of itself over `base ^ exponent`. -/
def scaledBy (base : Nat) (exponent : Int) (num den : Nat) : Nat × Nat :=
  (num * Nat.pow base (-exponent).toNat, den * Nat.pow base exponent.toNat)

/-- The exponent of the leading digit: `base ^ e ≤ num / den < base ^ (e + 1)`. -/
def leadingExponent (base num den : Nat) : Int :=
  let estimate : Int := (digitCount base num : Int) - (digitCount base den : Int)
  let scaled := scaledBy base estimate num den
  if scaled.2 ≤ scaled.1 then estimate else estimate - 1

/-- The multiple of `base ^ exponent` nearest to `num / den`; a tie goes to the even one. -/
def roundAt (base : Nat) (exponent : Int) (num den : Nat) : Nat :=
  let scaled := scaledBy base exponent num den
  roundHalfEven scaled.1 scaled.2

/-- A finite value is `significand * 2 ^ exponent` with a sign. -/
inductive FloatValue
  | nan
  | infinite (negative : Bool)
  | finite (negative : Bool) (significand : Nat) (exponent : Int)
deriving DecidableEq, Repr, Inhabited

/-- The significand has `precision` binary digits, the first of them implied. -/
structure BinaryFormat where
  precision : Nat
  exponentBits : Nat
deriving DecidableEq, Repr

def binary32 : BinaryFormat := ⟨24, 8⟩

def binary64 : BinaryFormat := ⟨53, 11⟩

namespace FloatValue

def ofInt (number : Int) : FloatValue :=
  .finite (number < 0) number.natAbs 0

def quotient (significand : Nat) (exponent : Int) : Nat × Nat :=
  scaledBy 2 (-exponent) significand 1

/-- Equality of numbers: the two zeros are equal, and NaN equals nothing. -/
def sameNumber : FloatValue → FloatValue → Bool
  | .infinite left, .infinite right => left == right
  | .finite leftSign left leftExponent, .finite rightSign right rightExponent =>
    let leftQuotient := quotient left leftExponent
    let rightQuotient := quotient right rightExponent
    leftQuotient.1 * rightQuotient.2 == rightQuotient.1 * leftQuotient.2 &&
      (leftSign == rightSign || left == 0)
  | _, _ => false

end FloatValue

namespace BinaryFormat

def minExponent (format : BinaryFormat) : Int :=
  3 - (Nat.pow 2 (format.exponentBits - 1) : Int) - (format.precision : Int)

/-- The bits of infinity. The magnitudes of the format, in order, have the bits below them. -/
def infinityBits (format : BinaryFormat) : Nat :=
  (Nat.pow 2 format.exponentBits - 1) * Nat.pow 2 (format.precision - 1)

def signBit (format : BinaryFormat) : Nat :=
  Nat.pow 2 (format.precision - 1 + format.exponentBits)

/-- The significand and exponent with the given magnitude bits. -/
def magnitude (format : BinaryFormat) (bits : Nat) : Nat × Int :=
  let unit := Nat.pow 2 (format.precision - 1)
  if bits < unit then (bits, format.minExponent)
  else (unit + bits % unit, format.minExponent + (bits / unit - 1 : Nat))

def decode (format : BinaryFormat) (bits : Nat) : FloatValue :=
  let negative := format.signBit ≤ bits
  let rest := bits % format.signBit
  if rest = format.infinityBits then .infinite negative
  else if format.infinityBits < rest then .nan
  else
    let value := format.magnitude rest
    .finite negative value.1 value.2

/-- The magnitude bits of the number nearest to `num / den`, a tie going to the even significand.
The result is at least `infinityBits` when the quotient rounds beyond the largest number. -/
def nearestBits (format : BinaryFormat) (num den : Nat) : Nat :=
  if num = 0 then 0
  else
    let exponent := max format.minExponent (leadingExponent 2 num den - format.precision + 1)
    (exponent - format.minExponent).toNat * Nat.pow 2 (format.precision - 1) +
      roundAt 2 exponent num den

/-- The nearest number of the format, none if that is beyond the largest one. -/
def nearest? (format : BinaryFormat) (negative : Bool) (num den : Nat) : Option FloatValue :=
  let bits := format.nearestBits num den
  if bits < format.infinityBits then
    let value := format.magnitude bits
    some (.finite negative value.1 value.2)
  else none

/-- The nearest number of the format to a value; none if a finite value is beyond the largest. -/
def convert? (format : BinaryFormat) : FloatValue → Option FloatValue
  | .finite negative significand exponent =>
    let quotient := FloatValue.quotient significand exponent
    format.nearest? negative quotient.1 quotient.2
  | other => some other

/-- The bits of a value, rounded to the format; NaN has one pattern. -/
def encode (format : BinaryFormat) : FloatValue → Nat
  | .nan => format.infinityBits + Nat.pow 2 (format.precision - 2)
  | .infinite negative => format.infinityBits + if negative then format.signBit else 0
  | .finite negative significand exponent =>
    let quotient := FloatValue.quotient significand exponent
    min (format.nearestBits quotient.1 quotient.2) format.infinityBits +
      if negative then format.signBit else 0

end BinaryFormat

end ClassOutline
