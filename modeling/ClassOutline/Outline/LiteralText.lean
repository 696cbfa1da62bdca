import ClassOutline.Pool.Entry

set_option autoImplicit false

namespace ClassOutline

/-- Why a constant has no source text. -/
inductive LiteralFault
  | wrongType
  | notCodePoint
  | overflow
deriving DecidableEq, Repr

namespace LiteralText

/-- One character of a literal. Controls and surrogates are written as `\u` escapes. -/
def escapedPoint (quote point : CodePoint) : Text :=
  if point = 0x08 then "\\b"
  else if point = 0x09 then "\\t"
  else if point = 0x0A then "\\n"
  else if point = 0x0C then "\\f"
  else if point = 0x0D then "\\r"
  else if point = 0x5C ∨ point = quote then [0x5C, point]
  else if point < 0x20 ∨ (0x7F ≤ point ∧ point < 0xA0) ∨ Text.isSurrogate point then
    "\\u" ++ Text.ofHex 4 point
  else [point]

def escaped (quote : CodePoint) (text : Text) : Text :=
  quote :: text.flatMap (escapedPoint quote) ++ [quote]

/-- Numbers in decimal, texts as they are. -/
def plain : Literal → Text
  | .int value => Text.ofInt value
  | .float value => value.text
  | .text value => value

/-- Zero and the empty text are false. -/
def isTrue : Literal → Bool
  | .int value => value != 0
  | .float (.finite _ significand _) => significand != 0
  | .float _ => true
  | .text value => !value.isEmpty

def character : Literal → Except LiteralFault Text
  | .int value =>
    if value < -0x80000000 ∨ 0x80000000 ≤ value then .error .overflow
    else if 0 ≤ value ∧ value < 0x110000 then .ok (escaped 0x27 [value.toNat])
    else .error .notCodePoint
  | _ => .error .wrongType

/-- The number to round and the number that the result must equal: they differ when an integer is
not a double. -/
def number : Literal → Except LiteralFault (FloatValue × FloatValue)
  | .int value =>
    match binary64.convert? (.ofInt value) with
    | some rounded => .ok (rounded, .ofInt value)
    | none => .error .overflow
  | .float value => .ok (value, value)
  | .text _ => .error .wrongType

/-- Tries the roundings of `num / den` to more and more significant digits, until one reads back as
`exact` through a double and a 32-bit number. One beyond the 32-bit range ends the search. -/
def shortestSingle (exact : FloatValue) (negative : Bool) (num den : Nat) :
    List Nat → Except LiteralFault (Option FloatValue)
  | [] => .ok none
  | digits :: more =>
    let quotient := (Decimal.significant digits num den).quotient
    match binary64.nearest? negative quotient.1 quotient.2 with
    | none => shortestSingle exact negative num den more
    | some double =>
      match binary32.convert? double with
      | none => .error .overflow
      | some single =>
        if single.sameNumber exact then .ok (some double)
        else shortestSingle exact negative num den more

/-- A floating-point constant: named if it is not finite, otherwise what `finite` makes of it. -/
def floating (box : Text) (literal : Literal)
    (finite : FloatValue → Bool → Nat → Int → Except LiteralFault Text) :
    Except LiteralFault Text := do
  let (rounded, exact) ← number literal
  match rounded with
  | .nan => return box ++ ".NaN"
  | .infinite negative =>
    return box ++ if negative then ".NEGATIVE_INFINITY" else ".POSITIVE_INFINITY"
  | .finite negative significand exponent => finite exact negative significand exponent

/-- The shortest decimal that reads back, from one to nine significant digits; the plain form if
none does. -/
def single (literal : Literal) : Except LiteralFault Text :=
  floating "Float" literal fun exact negative significand exponent => do
    let quotient := FloatValue.quotient significand exponent
    let found ← shortestSingle exact negative quotient.1 quotient.2 [1, 2, 3, 4, 5, 6, 7, 8, 9]
    return ((found.map FloatValue.text).getD (plain literal)) ++ "f"

def double (literal : Literal) : Except LiteralFault Text :=
  floating "Double" literal fun _ _ _ _ => return plain literal

end LiteralText

/-- The source text of a constant of a field with the given descriptor. -/
def literalText (literal : Literal) (descriptor : Text) : Except LiteralFault Text :=
  if descriptor = "Ljava/lang/String;" then
    match literal with
    | .text value => .ok (LiteralText.escaped 0x22 value)
    | _ => .error .wrongType
  else if descriptor = "Z" then .ok (if LiteralText.isTrue literal then "true" else "false")
  else if descriptor = "C" then LiteralText.character literal
  else if descriptor = "J" then .ok (LiteralText.plain literal ++ "L")
  else if descriptor = "F" then LiteralText.single literal
  else if descriptor = "D" then LiteralText.double literal
  else .ok (LiteralText.plain literal)

end ClassOutline
