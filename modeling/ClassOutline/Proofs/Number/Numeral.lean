import Mathlib.Data.List.TakeWhile
import ClassOutline.Proofs.Number.Decimal
import ClassOutline.Proofs.Text.Numerals

set_option autoImplicit false

namespace ClassOutline.Numeral

open Text

/-- Decimal digits, at least one. -/
def natural? (digits : Text) : Option Nat :=
  if digits ≠ [] ∧ digits.all isDecimalDigit then some (decimalValue digits) else none

def integer? : Text → Option Int
  | 0x2D :: digits => (natural? digits).map fun number : Nat => -(number : Int)
  | 0x2B :: digits => (natural? digits).map Int.ofNat
  | digits => (natural? digits).map Int.ofNat

/-- Digits with an optional point among or beside them, and an optional power of ten. -/
def unsigned? (text : Text) : Option Decimal := do
  let mantissa := text.takeWhile (· != 0x65)
  let whole := mantissa.takeWhile (· != 0x2E)
  let fraction := (mantissa.dropWhile (· != 0x2E)).drop 1
  let coefficient ← natural? (whole ++ fraction)
  let exponent ←
    match text.dropWhile (· != 0x65) with
    | [] => some 0
    | _ :: power => integer? power
  return ⟨coefficient, exponent - fraction.length⟩

/-- The sign and the magnitude of a numeral. -/
def read? : Text → Option (Bool × Decimal)
  | 0x2D :: text => (unsigned? text).map fun decimal => (true, decimal)
  | text => (unsigned? text).map fun decimal => (false, decimal)

example : read? "-12.50e-3" = some (true, ⟨1250, -5⟩) := by decide

/-- Digits with a point, which is left out before an empty fraction. -/
def pointed (whole fraction : Text) : Text :=
  whole ++ if fraction.isEmpty then [] else 0x2E :: fraction

variable {digits whole fraction power : Text} {exponent : Int}

theorem natural?_eq (nonempty : digits ≠ []) (decimal : digits.all isDecimalDigit = true) :
    natural? digits = some (decimalValue digits) :=
  if_pos ⟨nonempty, decimal⟩

theorem ne_of_decimal {mark : CodePoint} (other : isDecimalDigit mark = false)
    (decimal : digits.all isDecimalDigit = true) : ∀ point ∈ digits, (point != mark) = true := by
  intro point member
  have digit := List.all_eq_true.mp decimal point member
  rw [bne_iff_ne]
  intro same
  rw [same, other] at digit
  cases digit

theorem ne_of_pointed (wholeDigits : whole.all isDecimalDigit = true)
    (fractionDigits : fraction.all isDecimalDigit = true) :
    ∀ point ∈ pointed whole fraction, (point != 0x65) = true := by
  have left := ne_of_decimal (by decide : isDecimalDigit 0x65 = false) wholeDigits
  have right := ne_of_decimal (by decide : isDecimalDigit 0x65 = false) fractionDigits
  intro point member
  unfold pointed at member
  split at member
  · exact left point (by simpa using member)
  · rw [List.mem_append, List.mem_cons] at member
    rcases member with inWhole | rfl | inFraction
    · exact left point inWhole
    · rfl
    · exact right point inFraction

theorem takeWhile_pointed (wholeDigits : whole.all isDecimalDigit = true) :
    (pointed whole fraction).takeWhile (· != 0x2E) = whole := by
  have other := ne_of_decimal (by decide : isDecimalDigit 0x2E = false) wholeDigits
  unfold pointed
  rw [List.takeWhile_append_of_pos other]
  split <;> simp

theorem dropWhile_pointed (wholeDigits : whole.all isDecimalDigit = true) :
    ((pointed whole fraction).dropWhile (· != 0x2E)).drop 1 = fraction := by
  have other := ne_of_decimal (by decide : isDecimalDigit 0x2E = false) wholeDigits
  unfold pointed
  rw [List.dropWhile_append_of_pos other]
  split
  case isTrue empty => simpa using empty.symm
  case isFalse => simp

theorem unsigned?_pointed (nonempty : whole ++ fraction ≠ [])
    (wholeDigits : whole.all isDecimalDigit = true)
    (fractionDigits : fraction.all isDecimalDigit = true) :
    unsigned? (pointed whole fraction) =
      some ⟨decimalValue (whole ++ fraction), -fraction.length⟩ := by
  have mantissa := ne_of_pointed wholeDigits fractionDigits
  have all : (whole ++ fraction).all isDecimalDigit = true := by
    rw [List.all_append, wholeDigits, fractionDigits, Bool.and_self]
  have before : (pointed whole fraction).takeWhile (· != 0x65) = pointed whole fraction :=
    List.takeWhile_eq_self_iff.mpr mantissa
  have after : (pointed whole fraction).dropWhile (· != 0x65) = [] :=
    List.dropWhile_eq_nil_iff.mpr mantissa
  simp [unsigned?, before, after, takeWhile_pointed wholeDigits, dropWhile_pointed wholeDigits,
    natural?_eq nonempty all]

theorem unsigned?_power (nonempty : whole ++ fraction ≠ [])
    (wholeDigits : whole.all isDecimalDigit = true)
    (fractionDigits : fraction.all isDecimalDigit = true)
    (read : integer? power = some exponent) :
    unsigned? (pointed whole fraction ++ 0x65 :: power) =
      some ⟨decimalValue (whole ++ fraction), exponent - fraction.length⟩ := by
  have mantissa := ne_of_pointed wholeDigits fractionDigits
  have all : (whole ++ fraction).all isDecimalDigit = true := by
    rw [List.all_append, wholeDigits, fractionDigits, Bool.and_self]
  have before : (pointed whole fraction ++ 0x65 :: power).takeWhile (· != 0x65) =
      pointed whole fraction := by
    rw [List.takeWhile_append_of_pos mantissa]
    simp
  have after : (pointed whole fraction ++ 0x65 :: power).dropWhile (· != 0x65) = 0x65 :: power := by
    rw [List.dropWhile_append_of_pos mantissa]
    simp
  simp [unsigned?, before, after, takeWhile_pointed wholeDigits, dropWhile_pointed wholeDigits,
    natural?_eq nonempty all, read]

theorem integer?_power (exponent : Int) :
    integer? ((if exponent < 0 then 0x2D else 0x2B) ::
      (List.replicate (2 - (ofNat exponent.natAbs).length) 0x30 ++ ofNat exponent.natAbs)) =
      some exponent := by
  have nonempty : List.replicate (2 - (ofNat exponent.natAbs).length) 0x30 ++
      ofNat exponent.natAbs ≠ [] := by simp [ofNat_ne_nil]
  have all : (List.replicate (2 - (ofNat exponent.natAbs).length) 0x30 ++
      ofNat exponent.natAbs).all isDecimalDigit = true := by
    rw [List.all_append, ofNat_digits, Bool.and_true, List.all_replicate]
    simp [isDecimalDigit]
  have value := natural?_eq nonempty all
  rw [decimalValue_append, decimalValue_zeros, Nat.zero_mul, Nat.zero_add,
    decimalValue_ofNat] at value
  split
  case isTrue negative =>
    have same : -(exponent.natAbs : Int) = exponent := by omega
    simp only [integer?, value, Option.map_some, same]
  case isFalse positive =>
    have same : Int.ofNat exponent.natAbs = exponent :=
      Int.natAbs_of_nonneg (Int.not_lt.mp positive)
    simp only [integer?, value, Option.map_some, same]

/-- Digits of which the first stands for a power of ten. -/
structure Leads (digits : Text) (exponent : Int) (value : ℚ) : Prop where
  nonempty : digits ≠ []
  decimal : digits.all isDecimalDigit = true
  same : value = decimalValue digits * (10 : ℚ) ^ (exponent + 1 - digits.length)

theorem all_take (decimal : digits.all isDecimalDigit = true) (count : Nat) :
    (digits.take count).all isDecimalDigit = true :=
  List.all_eq_true.mpr fun point member =>
    List.all_eq_true.mp decimal point (List.mem_of_mem_take member)

theorem all_drop (decimal : digits.all isDecimalDigit = true) (count : Nat) :
    (digits.drop count).all isDecimalDigit = true :=
  List.all_eq_true.mpr fun point member =>
    List.all_eq_true.mp decimal point (List.mem_of_mem_drop member)

theorem all_zeros (count : Nat) : (List.replicate count 0x30).all isDecimalDigit = true := by
  simp [isDecimalDigit]

/-- Digits without the zeros at their end. -/
def stripped (digits : Text) : Text :=
  (digits.reverse.dropWhile (· == 0x30)).reverse

theorem exists_zeros (digits : Text) :
    ∃ count, stripped digits ++ List.replicate count 0x30 = digits := by
  refine ⟨(digits.reverse.takeWhile (· == 0x30)).length, ?_⟩
  have zeros : digits.reverse.takeWhile (· == 0x30) =
      List.replicate (digits.reverse.takeWhile (· == 0x30)).length 0x30 :=
    List.eq_replicate_of_mem fun point member => by simpa using List.mem_takeWhile_imp member
  rw [stripped, ← List.reverse_replicate, ← zeros, ← List.reverse_append,
    List.takeWhile_append_dropWhile, List.reverse_reverse]

theorem scientific_of_ne_zero {decimal : Decimal} (nonzero : decimal.coefficient ≠ 0)
    (nonempty : stripped (ofNat decimal.coefficient) ≠ []) :
    decimal.scientific = (stripped (ofNat decimal.coefficient),
      decimal.exponent + ((ofNat decimal.coefficient).length - 1 : Nat)) := by
  have digits : (stripped (ofNat decimal.coefficient)).isEmpty = false := by simpa using nonempty
  unfold stripped at digits
  simp [Decimal.scientific, nonzero, digits, stripped]

theorem leads_scientific (decimal : Decimal) :
    Leads decimal.scientific.1 decimal.scientific.2 decimal.amount := by
  by_cases zero : decimal.coefficient = 0
  · have form : decimal.scientific = ([0x30], 0) := by
      simp [Decimal.scientific, zero, ofNat_of_lt_ten]
    rw [form]
    exact ⟨by simp, by decide, by simp [Decimal.amount, zero, decimalValue]⟩
  · obtain ⟨count, split⟩ := exists_zeros (ofNat decimal.coefficient)
    have value := decimalValue_ofNat decimal.coefficient
    have all := ofNat_digits decimal.coefficient
    have length := congrArg List.length split
    rw [← split, decimalValue_append, decimalValue_zeros, List.length_replicate,
      Nat.add_zero] at value
    rw [← split, List.all_append, Bool.and_eq_true] at all
    rw [List.length_append, List.length_replicate] at length
    have nonempty : stripped (ofNat decimal.coefficient) ≠ [] := by
      intro empty
      rw [empty, decimalValue_nil, Nat.zero_mul] at value
      exact zero value.symm
    have least := List.length_pos_iff.mpr nonempty
    rw [scientific_of_ne_zero zero nonempty]
    refine ⟨nonempty, all.1, ?_⟩
    rw [Decimal.amount, ← congrArg (Nat.cast (R := ℚ)) value]
    push_cast
    rw [mul_assoc, ← zpow_natCast, ← zpow_add₀ (by norm_num)]
    congr 2
    omega

/-- A numeral of this text is read as a decimal of this value. -/
def Reads (text : Text) (value : ℚ) : Prop :=
  ∃ decimal : Decimal, unsigned? text = some decimal ∧ decimal.amount = value

theorem amount_congr {coefficient : Nat} {first second : Int} (same : first = second) :
    Decimal.amount ⟨coefficient, first⟩ = coefficient * (10 : ℚ) ^ second := by
  rw [Decimal.amount, same]

/-- The digits after a zero and a point, behind as many zeros as the exponent asks for. -/
theorem Leads.reads_below_one {value : ℚ} (leads : Leads digits exponent value)
    (negative : exponent < 0) :
    Reads (0x30 :: 0x2E :: (List.replicate (-exponent - 1).toNat 0x30 ++ digits)) value := by
  have all : (List.replicate (-exponent - 1).toNat 0x30 ++ digits).all isDecimalDigit = true := by
    rw [List.all_append, all_zeros, leads.decimal, Bool.and_self]
  have fraction : (List.replicate (-exponent - 1).toNat 0x30 ++ digits).isEmpty = false := by
    simp [leads.nonempty]
  have coefficient : decimalValue ([0x30] ++ (List.replicate (-exponent - 1).toNat 0x30 ++
      digits)) = decimalValue digits := by
    rw [← List.append_assoc, decimalValue_append, List.singleton_append, ← List.replicate_succ,
      decimalValue_zeros, Nat.zero_mul, Nat.zero_add]
  have read := unsigned?_pointed (by simp) (by decide : [0x30].all isDecimalDigit = true) all
  rw [pointed, fraction, coefficient] at read
  refine ⟨_, read, ?_⟩
  rw [leads.same]
  refine amount_congr ?_
  rw [List.length_append, List.length_replicate]
  omega

/-- The digits with the point among them, or behind them and as many zeros as are missing. -/
theorem Leads.reads_positional {value : ℚ} (leads : Leads digits exponent value)
    (nonneg : 0 ≤ exponent) :
    Reads (digits.take (exponent.toNat + 1) ++
      (List.replicate (exponent.toNat + 1 - digits.length) 0x30 ++
        (0x2E :: if (digits.drop (exponent.toNat + 1)).isEmpty then [0x30]
          else digits.drop (exponent.toNat + 1)))) value := by
  by_cases long : exponent.toNat + 1 < digits.length
  · have fraction : (digits.drop (exponent.toNat + 1)).isEmpty = false := by
      simpa using long
    have enough : exponent.toNat + 1 - digits.length = 0 := by omega
    have nonempty : digits.take (exponent.toNat + 1) ++ digits.drop (exponent.toNat + 1) ≠ [] := by
      rw [List.take_append_drop]
      exact leads.nonempty
    have read := unsigned?_pointed nonempty (all_take leads.decimal _) (all_drop leads.decimal _)
    rw [pointed, fraction, List.take_append_drop] at read
    rw [fraction, enough, List.replicate_zero, List.nil_append]
    refine ⟨_, read, ?_⟩
    rw [leads.same]
    refine amount_congr ?_
    rw [List.length_drop]
    omega
  · have all : (digits ++ List.replicate (exponent.toNat + 1 - digits.length) 0x30).all
        isDecimalDigit = true := by
      rw [List.all_append, all_zeros, leads.decimal, Bool.and_self]
    have read := unsigned?_pointed (by simp) all (by decide : [0x30].all isDecimalDigit = true)
    rw [List.append_assoc _ _ [0x30], ← List.replicate_succ', decimalValue_append,
      decimalValue_zeros, List.length_replicate, Nat.add_zero] at read
    rw [List.take_of_length_le (by omega), List.drop_of_length_le (by omega), ← List.append_assoc]
    refine ⟨_, read, ?_⟩
    rw [leads.same, Decimal.amount, Nat.add_zero]
    push_cast
    rw [mul_assoc, ← zpow_natCast, ← zpow_add₀ (by norm_num)]
    congr 2
    rw [List.length_singleton]
    omega

theorem Leads.reads_scientific {value : ℚ} (leads : Leads digits exponent value)
    (read : integer? power = some exponent) :
    Reads (pointed (digits.take 1) (digits.drop 1) ++ 0x65 :: power) value := by
  have nonempty : digits.take 1 ++ digits.drop 1 ≠ [] := by
    rw [List.take_append_drop]
    exact leads.nonempty
  have least := List.length_pos_iff.mpr leads.nonempty
  have scientific := unsigned?_power nonempty (all_take leads.decimal 1) (all_drop leads.decimal 1)
    read
  refine ⟨_, scientific, ?_⟩
  rw [List.take_append_drop, leads.same]
  refine amount_congr ?_
  rw [List.length_drop]
  omega

theorem reads_layout (decimal : Decimal) : Reads decimal.layout decimal.amount := by
  have leads := leads_scientific decimal
  unfold Decimal.layout
  generalize decimal.scientific = form at *
  obtain ⟨digits, exponent⟩ := form
  dsimp only at *
  split
  case isTrue small => exact leads.reads_below_one small.2
  case isFalse =>
    split
    case isTrue middle => exact leads.reads_positional middle.1
    case isFalse =>
      have scientific := leads.reads_scientific (integer?_power exponent)
      rw [pointed, List.append_assoc] at scientific
      exact scientific

theorem unsigned?_minus (text : Text) : unsigned? (0x2D :: text) = none := by
  simp [unsigned?, natural?, isDecimalDigit]

/-- The layout of a decimal behind a sign is a numeral for it. -/
theorem read?_layout (negative : Bool) (decimal : Decimal) :
    ∃ read : Decimal, read? ((if negative then [0x2D] else []) ++ decimal.layout) =
      some (negative, read) ∧ read.amount = decimal.amount := by
  obtain ⟨read, found, same⟩ := reads_layout decimal
  refine ⟨read, ?_, same⟩
  cases negative with
  | true => simp [read?, found]
  | false =>
    simp only [Bool.false_eq_true, ↓reduceIte, List.nil_append]
    unfold read?
    split
    case h_1 text form =>
      rw [form, unsigned?_minus] at found
      cases found
    case h_2 => rw [found, Option.map_some]

end ClassOutline.Numeral
