import ClassOutline.Number.Binary
import ClassOutline.Text.Basic

set_option autoImplicit false

namespace ClassOutline

/-- The number `coefficient * 10 ^ exponent`. -/
structure Decimal where
  coefficient : Nat
  exponent : Int
deriving DecidableEq, Repr

namespace Decimal

def quotient (decimal : Decimal) : Nat × Nat :=
  scaledBy 10 (-decimal.exponent) decimal.coefficient 1

/-- The quotient to a number of significant digits; a tie goes to the even last digit. -/
def significant (digits num den : Nat) : Decimal :=
  if num = 0 then ⟨0, 0⟩
  else
    let exponent := leadingExponent 10 num den - digits + 1
    ⟨roundAt 10 exponent num den, exponent⟩

/-- The two neighbours of `num / den` among the numbers with that many significant digits, the
nearer one first; of two equally near ones, the one with the even last digit. -/
def neighbours (digits num den : Nat) : List Decimal :=
  let exponent := leadingExponent 10 num den - digits + 1
  let scaled := scaledBy 10 exponent num den
  let below := scaled.1 / scaled.2
  let nearer := roundHalfEven scaled.1 scaled.2
  [⟨nearer, exponent⟩, ⟨if nearer = below then below + 1 else below, exponent⟩]

/-- The fewest significant digits that a number of the format is told apart by, out of at most
`limit` beyond `digits`; among equally short forms the nearest to the number. -/
def shortestFrom (format : BinaryFormat) (bits num den : Nat) : Nat → Nat → Decimal
  | 0, digits => significant digits num den
  | limit + 1, digits =>
    match (neighbours digits num den).find? fun decimal =>
        format.nearestBits decimal.quotient.1 decimal.quotient.2 == bits with
    | some decimal => decimal
    | none => shortestFrom format bits num den limit (digits + 1)

/-- The shortest decimal that reads back as the same double. Seventeen digits always do. -/
def shortest (num den : Nat) : Decimal :=
  if num = 0 then ⟨0, 0⟩
  else shortestFrom binary64 (binary64.nearestBits num den) num den 16 1

/-- Coefficient digits without trailing zeros, and the exponent of the first one. -/
def scientific (decimal : Decimal) : Text × Int :=
  let digits := Text.ofNat decimal.coefficient
  let stripped := (digits.reverse.dropWhile (· == 0x30)).reverse
  (if stripped.isEmpty then [0x30] else stripped,
    if decimal.coefficient = 0 then 0 else decimal.exponent + (digits.length - 1 : Nat))

/-- Positional with a digit after the point when the exponent is from -4 to 15; otherwise in
scientific notation, the exponent signed and of at least two digits. -/
def layout (decimal : Decimal) : Text :=
  let (digits, exponent) := decimal.scientific
  if -4 ≤ exponent ∧ exponent < 0 then
    ("0." : Text) ++ (List.replicate (-exponent - 1).toNat 0x30 ++ digits)
  else if 0 ≤ exponent ∧ exponent < 16 then
    let whole := digits.take (exponent.toNat + 1)
    let fraction := digits.drop (exponent.toNat + 1)
    whole ++ (List.replicate (exponent.toNat + 1 - digits.length) 0x30 ++
      (0x2E :: if fraction.isEmpty then [0x30] else fraction))
  else
    let fraction := digits.drop 1
    let power := Text.ofNat exponent.natAbs
    digits.take 1 ++ ((if fraction.isEmpty then [] else 0x2E :: fraction) ++
      (0x65 :: (if exponent < 0 then 0x2D else 0x2B) ::
        (List.replicate (2 - power.length) 0x30 ++ power)))

end Decimal

namespace FloatValue

/-- The shortest text that reads back as the same double. -/
def text : FloatValue → Text
  | .nan => "nan"
  | .infinite negative => if negative then "-inf" else "inf"
  | .finite negative significand exponent =>
    let quotient := quotient significand exponent
    (if negative then [0x2D] else []) ++ (Decimal.shortest quotient.1 quotient.2).layout

end FloatValue

end ClassOutline
