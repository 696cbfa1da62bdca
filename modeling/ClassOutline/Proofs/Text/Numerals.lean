import Mathlib.Algebra.Group.Nat.Defs
import Mathlib.Data.List.Induction
import ClassOutline.Text.Basic

set_option autoImplicit false

namespace ClassOutline.Text

/-- The digit for a value below sixteen. -/
def digit (value : Nat) : Nat :=
  (Nat.digitChar value).toNat

variable {number width : Nat}

theorem ofHex_one (small : number < 16) : ofHex 1 number = [digit number] := by
  simp [ofHex, digit, Nat.toDigits_of_lt_base small]

theorem ofHex_succ (positive : 0 < width) (number : Nat) :
    ofHex (width + 1) number = ofHex width (number / 16) ++ [digit (number % 16)] := by
  by_cases small : number < 16
  · obtain ⟨width, rfl⟩ := Nat.exists_eq_add_one_of_ne_zero (Nat.ne_of_gt positive)
    have zero : Nat.toDigits 16 0 = ['0'] := rfl
    simp [ofHex, digit, Nat.toDigits_of_lt_base small, Nat.div_eq_of_lt small,
      Nat.mod_eq_of_lt small, zero, List.replicate_succ']
  · have split := Nat.toDigits_of_base_le (by decide : 1 < 16) (Nat.le_of_not_lt small)
    simp [ofHex, digit, split]

/-- A code unit is written with four digits. -/
theorem ofHex_four (small : number < 0x10000) :
    ofHex 4 number = [digit (number / 0x1000), digit (number / 0x100 % 16),
      digit (number / 0x10 % 16), digit (number % 16)] := by
  have first : number / 16 / 16 / 16 < 16 := by omega
  rw [ofHex_succ (by decide), ofHex_succ (by decide), ofHex_succ (by decide), ofHex_one first]
  simp [Nat.div_div_eq_div_mul]

def isDecimalDigit (point : CodePoint) : Bool :=
  0x30 ≤ point && point ≤ 0x39

def decimalValue (digits : Text) : Nat :=
  digits.foldl (fun value point => 10 * value + (point - 0x30)) 0

@[simp] theorem decimalValue_nil : decimalValue [] = 0 := rfl

theorem decimalValue_concat (digits : Text) (point : CodePoint) :
    decimalValue (digits ++ [point]) = 10 * decimalValue digits + (point - 0x30) := by
  simp [decimalValue]

theorem decimalValue_append (first second : Text) :
    decimalValue (first ++ second) =
      decimalValue first * 10 ^ second.length + decimalValue second := by
  induction second using List.reverseRecOn with
  | nil => simp
  | append_singleton second point ih =>
    rw [← List.append_assoc, decimalValue_concat, decimalValue_concat, ih, List.length_append,
      List.length_singleton, Nat.pow_succ, ← Nat.mul_assoc]
    omega

@[simp] theorem decimalValue_zeros (count : Nat) :
    decimalValue (List.replicate count 0x30) = 0 := by
  induction count with
  | zero => rfl
  | succ count ih => rw [List.replicate_succ', decimalValue_concat, ih]

theorem digit_of_lt_ten (small : number < 10) : digit number = 0x30 + number :=
  Nat.toNat_digitChar_of_lt_ten small

theorem isDecimalDigit_add (small : number < 10) : isDecimalDigit (0x30 + number) = true := by
  have most : 0x30 + number ≤ 0x39 := by omega
  simp [isDecimalDigit, most]

theorem ofNat_of_lt_ten (small : number < 10) : ofNat number = [0x30 + number] := by
  rw [ofNat, Nat.toDigits_of_lt_base small]
  exact congrArg (fun point => [point]) (digit_of_lt_ten small)

theorem ofNat_of_ten_le (large : 10 ≤ number) :
    ofNat number = ofNat (number / 10) ++ [0x30 + number % 10] := by
  rw [ofNat, Nat.toDigits_of_base_le (by decide) large, List.map_append]
  exact congrArg (fun point => ofNat (number / 10) ++ [point])
    (digit_of_lt_ten (Nat.mod_lt number (by decide)))

theorem ofNat_ne_nil (number : Nat) : ofNat number ≠ [] := by
  by_cases small : number < 10
  · simp [ofNat_of_lt_ten small]
  · simp [ofNat_of_ten_le (Nat.le_of_not_lt small)]

theorem ofNat_digits (number : Nat) : (ofNat number).all isDecimalDigit = true := by
  induction number using Nat.strongRecOn with
  | ind number ih =>
    by_cases small : number < 10
    · simp [ofNat_of_lt_ten small, isDecimalDigit_add small]
    · have shorter := ih (number / 10) (by omega)
      have last := isDecimalDigit_add (Nat.mod_lt number (by decide : 0 < 10))
      simp [ofNat_of_ten_le (Nat.le_of_not_lt small), shorter, last]

@[simp] theorem decimalValue_ofNat (number : Nat) : decimalValue (ofNat number) = number := by
  induction number using Nat.strongRecOn with
  | ind number ih =>
    by_cases small : number < 10
    · rw [ofNat_of_lt_ten small]
      simp [decimalValue]
    · rw [ofNat_of_ten_le (Nat.le_of_not_lt small), decimalValue_concat, ih _ (by omega)]
      omega

end ClassOutline.Text
