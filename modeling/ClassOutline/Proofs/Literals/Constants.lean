import ClassOutline.Outline.LiteralText
import ClassOutline.Proofs.Number.Numeral

set_option autoImplicit false

namespace ClassOutline

namespace Numeral

theorem integer?_ofNat (number : Nat) : integer? (Text.ofNat number) = some (number : Int) := by
  have digits := Text.ofNat_digits number
  have natural := natural?_eq (Text.ofNat_ne_nil number) digits
  rw [Text.decimalValue_ofNat] at natural
  unfold integer?
  split
  · rename_i rest same
    rw [same, List.all_cons, Bool.and_eq_true] at digits
    exact absurd digits.1 (by decide)
  · rename_i rest same
    rw [same, List.all_cons, Bool.and_eq_true] at digits
    exact absurd digits.1 (by decide)
  · rw [natural]
    rfl

theorem integer?_ofInt (value : Int) : integer? (Text.ofInt value) = some value := by
  cases value with
  | ofNat number => exact integer?_ofNat number
  | negSucc number =>
    have natural := natural?_eq (Text.ofNat_ne_nil (number + 1)) (Text.ofNat_digits (number + 1))
    rw [Text.decimalValue_ofNat] at natural
    rw [Text.ofInt, integer?, natural]
    rfl

end Numeral

namespace LiteralText

/-- What is false as the constant of a boolean field. -/
inductive IsZero : Literal → Prop
  | int : IsZero (.int 0)
  | float (negative : Bool) (exponent : Int) : IsZero (.float (.finite negative 0 exponent))
  | text : IsZero (.text [])

/-- The form of a constant that is not put between quotes. An integer is a numeral for it. -/
inductive IsPlain : Literal → Text → Prop
  | int (value : Int) : IsPlain (.int value) (Text.ofInt value)
  | float (value : FloatValue) : IsPlain (.float value) value.text
  | text (value : Text) : IsPlain (.text value) value

/-- The types with forms of their own for floating-point numbers, and the classes that name what is
no number or not finite. -/
def boxes : List (Text × Text) :=
  [("F", "Float"), ("D", "Double")]

/-- The form of a constant by the type of its field. Finite numbers of the type `float` are left
out: they have as few digits as tell them apart. -/
inductive IsForm : Text → Literal → Text → Prop
  | string (value : Text) : IsForm "Ljava/lang/String;" (.text value) (escaped 0x22 value)
  | no {literal : Literal} (zero : IsZero literal) : IsForm "Z" literal "false"
  | yes {literal : Literal} (nonzero : ¬IsZero literal) : IsForm "Z" literal "true"
  | character {value : Nat} (point : value < 0x110000) :
    IsForm "C" (.int value) (escaped 0x27 [value])
  | long {literal : Literal} {form : Text} (plain : IsPlain literal form) :
    IsForm "J" literal (form ++ "L")
  | nan {type box : Text} (boxed : (type, box) ∈ boxes) :
    IsForm type (.float .nan) (box ++ ".NaN")
  | infinite {type box : Text} (boxed : (type, box) ∈ boxes) (negative : Bool) :
    IsForm type (.float (.infinite negative))
      (box ++ if negative then ".NEGATIVE_INFINITY" else ".POSITIVE_INFINITY")
  | double (negative : Bool) (significand : Nat) (exponent : Int) :
    IsForm "D" (.float (.finite negative significand exponent))
      (FloatValue.finite negative significand exponent).text
  | rounded {value : Int} (inRange : (binary64.convert? (.ofInt value)).isSome = true) :
    IsForm "D" (.int value) (Text.ofInt value)
  | other {type : Text} {literal : Literal} {form : Text}
    (ordinary : type ∉ (["Ljava/lang/String;", "Z", "C", "J", "F", "D"] : List Text))
    (plain : IsPlain literal form) : IsForm type literal form

variable {literal : Literal} {type box form : Text}

theorem mem_boxes_iff : (type, box) ∈ boxes ↔
    type = "F" ∧ box = "Float" ∨ type = "D" ∧ box = "Double" := by
  simp only [boxes, List.mem_cons, List.not_mem_nil, or_false, Prod.mk.injEq]

theorem isTrue_eq_true_iff : isTrue literal = true ↔ ¬IsZero literal := by
  constructor
  · rintro isTrue zero
    cases zero <;> cases isTrue
  · intro nonzero
    cases literal with
    | int value => exact bne_iff_ne.mpr fun zero => nonzero (zero ▸ .int)
    | float value =>
      cases value with
      | finite negative significand exponent =>
        exact bne_iff_ne.mpr fun zero => nonzero (zero ▸ .float negative exponent)
      | _ => rfl
    | text value =>
      cases value with
      | nil => exact absurd .text nonzero
      | cons point rest => rfl

theorem isPlain_iff : IsPlain literal form ↔ plain literal = form := by
  constructor
  · rintro (_ | _ | _) <;> rfl
  · rintro rfl
    cases literal <;> constructor

theorem IsPlain.integer?_eq {value : Int} (plain : IsPlain (.int value) form) :
    Numeral.integer? form = some value := by
  cases plain
  exact Numeral.integer?_ofInt value

theorem character_eq_ok_iff : character literal = .ok form ↔
    ∃ value < 0x110000, literal = .int (value : Nat) ∧ form = escaped 0x27 [value] := by
  constructor
  · intro made
    cases literal with
    | int value =>
      rw [character] at made
      split at made
      · cases made
      · split at made
        · rename_i point
          obtain ⟨number, rfl⟩ := Int.eq_ofNat_of_zero_le point.1
          cases made
          exact ⟨number, by omega, rfl, rfl⟩
        · cases made
    | float value => cases made
    | text value => cases made
  · rintro ⟨value, point, rfl, rfl⟩
    rw [character, if_neg (by omega), if_pos ⟨Int.natCast_nonneg value, by omega⟩]
    rfl

theorem exists_finite_of_convert? {value : Int} {rounded : FloatValue}
    (converted : binary64.convert? (.ofInt value) = some rounded) :
    ∃ negative significand exponent, rounded = .finite negative significand exponent := by
  rw [FloatValue.ofInt, BinaryFormat.convert?, BinaryFormat.nearest?] at converted
  obtain ⟨-, same⟩ := Option.ite_none_right_eq_some.mp converted
  exact ⟨_, _, _, (Option.some.inj same).symm⟩

theorem double_int (value : Int) : double (.int value) =
    if (binary64.convert? (.ofInt value)).isSome = true then .ok (Text.ofInt value)
    else .error .overflow := by
  rw [double, floating, number]
  cases converted : binary64.convert? (.ofInt value) with
  | none => rfl
  | some rounded =>
    obtain ⟨negative, significand, exponent, rfl⟩ := exists_finite_of_convert? converted
    rfl

theorem double_eq_ok_iff : double literal = .ok form ↔ IsForm "D" literal form := by
  constructor
  · intro made
    cases literal with
    | int value =>
      rw [double_int] at made
      split at made
      · rename_i inRange
        cases made
        exact .rounded inRange
      · cases made
    | float value =>
      cases value <;> cases made
      · exact .nan (by decide)
      · exact .infinite (by decide) _
      · exact .double ..
    | text value => cases made
  · intro isForm
    cases isForm with
    | nan boxed =>
      rcases mem_boxes_iff.mp boxed with ⟨same, -⟩ | ⟨-, rfl⟩
      · exact absurd same (by decide)
      · rfl
    | infinite boxed negative =>
      rcases mem_boxes_iff.mp boxed with ⟨same, -⟩ | ⟨-, rfl⟩
      · exact absurd same (by decide)
      · rfl
    | double => rfl
    | rounded inRange => rw [double_int, if_pos inRange]
    | other ordinary => exact absurd ordinary (by decide)

theorem literalText_eq_double : literalText literal "D" = double literal := by
  rw [literalText.eq_def, if_neg (by decide), if_neg (by decide), if_neg (by decide),
    if_neg (by decide), if_neg (by decide), if_pos rfl]

theorem literalText_eq_single : literalText literal "F" = single literal := by
  rw [literalText.eq_def, if_neg (by decide), if_neg (by decide), if_neg (by decide),
    if_neg (by decide), if_pos rfl]

/-- A constant is printed exactly in the form that it has by the type of its field. -/
theorem literalText_eq_ok_iff
    (named : type = "F" →
      literal = .float .nan ∨ ∃ negative, literal = .float (.infinite negative)) :
    literalText literal type = .ok form ↔ IsForm type literal form := by
  constructor
  · intro made
    unfold literalText at made
    split at made
    · rename_i same
      subst same
      cases literal <;> cases made
      exact .string _
    split at made
    · rename_i same
      subst same
      by_cases shown : isTrue literal = true
      · rw [if_pos shown] at made
        cases made
        exact .yes (isTrue_eq_true_iff.mp shown)
      · rw [if_neg shown] at made
        cases made
        exact .no (by rwa [isTrue_eq_true_iff, not_not] at shown)
    split at made
    · rename_i same
      subst same
      obtain ⟨value, point, rfl, rfl⟩ := character_eq_ok_iff.mp made
      exact .character point
    split at made
    · rename_i same
      subst same
      cases made
      exact .long (isPlain_iff.mpr rfl)
    split at made
    · rename_i same
      subst same
      rcases named rfl with rfl | ⟨negative, rfl⟩
      · cases made
        exact .nan (by decide)
      · cases made
        exact .infinite (by decide) negative
    split at made
    · rename_i same
      subst same
      exact double_eq_ok_iff.mp made
    · cases made
      refine .other ?_ (isPlain_iff.mpr rfl)
      simp only [List.mem_cons, List.not_mem_nil, or_false, not_or]
      exact ⟨‹_›, ‹_›, ‹_›, ‹_›, ‹_›, ‹_›⟩
  · intro isForm
    cases isForm with
    | string value => rw [literalText, if_pos rfl]
    | no zero =>
      have shown : ¬isTrue literal = true := by rwa [isTrue_eq_true_iff, not_not]
      rw [literalText.eq_def, if_neg (by decide), if_pos rfl, if_neg shown]
    | yes nonzero =>
      rw [literalText.eq_def, if_neg (by decide), if_pos rfl,
        if_pos (isTrue_eq_true_iff.mpr nonzero)]
    | character point =>
      rw [literalText.eq_def, if_neg (by decide), if_neg (by decide), if_pos rfl]
      exact character_eq_ok_iff.mpr ⟨_, point, rfl, rfl⟩
    | long plain =>
      rw [literalText.eq_def, if_neg (by decide), if_neg (by decide), if_neg (by decide),
        if_pos rfl, isPlain_iff.mp plain]
    | nan boxed | infinite boxed negative =>
      rcases mem_boxes_iff.mp boxed with ⟨rfl, rfl⟩ | ⟨rfl, rfl⟩
      · rw [literalText_eq_single]
        rfl
      · rw [literalText_eq_double]
        rfl
    | double negative significand exponent =>
      rw [literalText_eq_double]
      exact double_eq_ok_iff.mpr (.double ..)
    | rounded inRange =>
      rw [literalText_eq_double]
      exact double_eq_ok_iff.mpr (.rounded inRange)
    | other ordinary plain =>
      simp only [List.mem_cons, List.not_mem_nil, or_false, not_or] at ordinary
      obtain ⟨notString, notBoolean, notCharacter, notLong, notSingle, notDouble⟩ := ordinary
      rw [literalText.eq_def, if_neg notString, if_neg notBoolean, if_neg notCharacter,
        if_neg notLong, if_neg notSingle, if_neg notDouble, isPlain_iff.mp plain]

end LiteralText

end ClassOutline
