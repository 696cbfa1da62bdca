import Mathlib.Tactic.IntervalCases
import ClassOutline.Proofs.Number.Decimal

set_option autoImplicit false

/- Decimals read as 32-bit numbers through a double. Nine significant digits tell the numbers apart
in spite of the double between; next to the largest one, fewer digits can round beyond the range. -/

namespace ClassOutline

open BinaryFormat Decimal

/-- The double nearest to a value and the 32-bit number nearest to that double, by their bits. -/
structure Narrows (value : ℚ) (double single : Nat) : Prop where
  nearest : binary64.Nearest value double
  narrowed : binary32.Nearest (binary64.amount double) single

/-- The greatest value whose roundings to at most nine digits stay in the range. -/
def singleLimit : ℚ :=
  34025 * 10 ^ 34

variable {value other : ℚ} {double single double' single' bits digits : Nat} {decimal : Decimal}

theorem Narrows.mono (order : value ≤ other) (first : Narrows value double single)
    (second : Narrows other double' single') : double ≤ double' ∧ single ≤ single' :=
  have doubles := first.nearest.mono order second.nearest
  ⟨doubles, first.narrowed.mono (amount_mono doubles) second.narrowed⟩

theorem Narrows.unique (first : Narrows value double single)
    (second : Narrows value double' single') : single = single' :=
  Nat.le_antisymm (first.mono le_rfl second).2 (second.mono le_rfl first).2

theorem narrows_zero : Narrows 0 0 0 := by
  have double := nearest_amount binary64 0
  have single := nearest_amount binary32 0
  rw [amount_zero] at double single
  exact ⟨double, by rwa [amount_zero]⟩

/-- The bits of the 32-bit number nearest to a double. -/
def narrow (double : Nat) : Nat :=
  binary32.nearestBits (binary64.quotient double).1 (binary64.quotient double).2

theorem narrows_nearestBits {quotient : Nat × Nat} (positive : 0 < quotient.2) :
    Narrows (ratio quotient) (binary64.nearestBits quotient.1 quotient.2)
      (narrow (binary64.nearestBits quotient.1 quotient.2)) := by
  refine ⟨nearest_nearestBits (by decide) quotient.1 positive, ?_⟩
  generalize binary64.nearestBits quotient.1 quotient.2 = double
  rw [← BinaryFormat.ratio_quotient]
  exact nearest_nearestBits (by decide) _ (BinaryFormat.quotient_pos binary64 double)

theorem narrows_natCast {number : Nat} (same : (number : ℚ) = value)
    (nearest : binary64.nearestBits number 1 = double) (narrowed : narrow double = single) :
    Narrows value double single := by
  have computed : Narrows (ratio (number, 1)) (binary64.nearestBits number 1)
    (narrow (binary64.nearestBits number 1)) := narrows_nearestBits Nat.one_pos
  rw [nearest, narrowed, ratio, same] at computed
  simpa using computed

theorem narrows_singleLimit : Narrows singleLimit 0x47EFFF388600BDF5 0x7F7FF9C4 :=
  have same : ((34025 * 10 ^ 34 : Nat) : ℚ) = singleLimit := by norm_num [singleLimit]
  narrows_natCast same (by decide +kernel) (by decide +kernel)

theorem Narrows.in_range (narrows : Narrows value double single) (order : value ≤ singleLimit) :
    double < binary64.infinityBits ∧ single < binary32.infinityBits := by
  have ⟨doubles, singles⟩ := narrows.mono order narrows_singleLimit
  exact ⟨lt_of_le_of_lt doubles (by decide), lt_of_le_of_lt singles (by decide)⟩

theorem lastPlace_of_between (least : (10 : ℚ) ^ 38 ≤ value) (most : value < 10 ^ 39) :
    lastPlace digits value = 39 - digits := by
  have leading : Int.log 10 value = 38 := log_eq (by decide) (by exact_mod_cast least)
    (by exact_mod_cast most)
  rw [lastPlace, leading]
  omega

/-- The limit has five digits. To four digits it is a tie, which goes down to the even digit. -/
theorem rounds_singleLimit (nonempty : 0 < digits) (few : digits ≤ 9) :
    ∃ rounded : Nat, Rounds (singleLimit / (10 : ℚ) ^ (39 - digits : Int)) rounded ∧
      rounded * (10 : ℚ) ^ (39 - digits : Int) ≤ singleLimit := by
  by_cases many : 5 ≤ digits
  · have place : (10 : ℚ) ^ (39 - digits : Int) * 10 ^ (digits - 5) = 10 ^ 34 := by
      rw [← zpow_natCast, ← zpow_natCast, ← zpow_add₀ (by norm_num)]
      congr 1
      omega
    have multiple : singleLimit =
        (34025 * 10 ^ (digits - 5) : Nat) * (10 : ℚ) ^ (39 - digits : Int) := by
      rw [singleLimit, ← place]
      push_cast
      ring
    refine ⟨34025 * 10 ^ (digits - 5), ?_, multiple.ge⟩
    rw [multiple, mul_div_cancel_right₀ _ (zpow_pos (by norm_num) _).ne']
    exact rounds_natCast _
  · interval_cases digits
    · exact ⟨3, rounds_of_near (by norm_num [singleLimit]), by norm_num [singleLimit]⟩
    · exact ⟨34, rounds_of_near (by norm_num [singleLimit]), by norm_num [singleLimit]⟩
    · exact ⟨340, rounds_of_near (by norm_num [singleLimit]), by norm_num [singleLimit]⟩
    · exact ⟨3402, ⟨by norm_num [singleLimit], by norm_num [singleLimit], fun _ => rfl⟩,
        by norm_num [singleLimit]⟩

theorem Decimal.IsRounding.le_singleLimit (rounding : IsRounding digits value decimal)
    (nonempty : 0 < digits) (few : digits ≤ 9) (positive : 0 < value)
    (order : value ≤ singleLimit) : decimal.amount ≤ singleLimit := by
  rw [rounding.amount_eq]
  have place := zpow_lastPlace_pos digits value
  by_cases top : (10 : ℚ) ^ 38 ≤ value
  · obtain ⟨rounded, rounds, within⟩ := rounds_singleLimit nonempty few
    have below : value < 10 ^ 39 := order.trans_lt (by norm_num [singleLimit])
    have rounding := rounding.rounds
    rw [lastPlace_of_between top below] at rounding place ⊢
    have most := rounding.mono (div_le_div_of_nonneg_right order place.le) rounds
    refine le_trans ?_ within
    gcongr
  · have leading : Int.log 10 value < 38 :=
      (Int.lt_zpow_iff_log_lt (by decide) positive).mp (by exact_mod_cast not_le.mp top)
    have small : (decimal.coefficient : ℚ) ≤ 10 ^ digits := by
      exact_mod_cast rounding.coefficient_le
    calc (decimal.coefficient : ℚ) * 10 ^ lastPlace digits value
        ≤ 10 ^ digits * 10 ^ lastPlace digits value := mul_le_mul_of_nonneg_right small place.le
      _ = 10 ^ (Int.log 10 value + 1) := ten_pow_mul_lastPlace digits value
      _ ≤ 10 ^ (38 : Int) := zpow_le_zpow_right₀ (by norm_num) (by omega)
      _ ≤ singleLimit := by norm_num [singleLimit]

theorem narrows_three_digits : Narrows (34 * 10 ^ 37) 0x47EFF933C78CDFAD 0x7F7FC99E :=
  have same : ((34 * 10 ^ 37 : Nat) : ℚ) = 34 * 10 ^ 37 := by norm_num
  narrows_natCast same (by decide +kernel) (by decide +kernel)

/-- To four digits, a value beyond the limit is beyond the range as well. -/
theorem narrows_four_digits : Narrows (3403 * 10 ^ 35) 0x47F00036560BF535 0x7F8001B3 :=
  have same : ((3403 * 10 ^ 35 : Nat) : ℚ) = 3403 * 10 ^ 35 := by norm_num
  narrows_natCast same (by decide +kernel) (by decide +kernel)

theorem amount_lt (finite : bits < binary32.infinityBits) :
    binary32.amount bits < 3403 * 10 ^ 35 := by
  have order : bits ≤ 0x7F7FFFFF := by
    have infinity : binary32.infinityBits = 0x7F800000 := by decide
    omega
  refine (amount_mono order).trans_lt ?_
  have form : binary32.magnitude 0x7F7FFFFF = (0xFFFFFF, 104) := by decide +kernel
  norm_num [BinaryFormat.amount, form]

theorem lt_of_beyond (beyond : singleLimit < binary32.amount bits) : 0x7F7FC99E < bits := by
  by_contra order
  have most : binary32.amount bits ≤ binary32.amount 0x7F7FC99E := amount_mono (by omega)
  have form : binary32.magnitude 0x7F7FC99E = (0xFFC99E, 104) := by decide +kernel
  have value : binary32.amount 0x7F7FC99E ≤ singleLimit := by
    norm_num [BinaryFormat.amount, form, singleLimit]
  exact absurd beyond (not_lt.mpr (most.trans value))

/-- A value beyond the limit is rounded to the number of places that is nearest to both bounds. -/
theorem Decimal.IsRounding.amount_beyond (rounding : IsRounding digits value decimal)
    (beyond : singleLimit < value) (below : value < 3403 * 10 ^ 35) {number : Nat} {place : ℚ}
    (last : (10 : ℚ) ^ (39 - digits : Int) = place)
    (low : number * place - place / 2 ≤ singleLimit)
    (high : 3403 * 10 ^ 35 ≤ number * place + place / 2) : decimal.amount = number * place := by
  have decade : lastPlace digits value = 39 - digits :=
    lastPlace_of_between (le_trans (by norm_num [singleLimit]) beyond.le)
      (below.trans (by norm_num))
  refine rounding.amount_of_near (by rw [decade, last]) (abs_lt.mpr ⟨?_, ?_⟩)
  · linarith
  · linarith

/-- To three digits or fewer, a value beyond the limit is rounded down, below the limit. -/
theorem Decimal.IsRounding.le_of_beyond (rounding : IsRounding digits value decimal)
    (nonempty : 0 < digits) (few : digits ≤ 3) (beyond : singleLimit < value)
    (below : value < 3403 * 10 ^ 35) : decimal.amount ≤ 34 * 10 ^ 37 := by
  interval_cases digits
  · have amount : decimal.amount = (3 : Nat) * 10 ^ 38 := rounding.amount_beyond beyond below
      (by norm_num) (by norm_num [singleLimit]) (by norm_num)
    norm_num [amount]
  · have amount : decimal.amount = (34 : Nat) * 10 ^ 37 := rounding.amount_beyond beyond below
      (by norm_num) (by norm_num [singleLimit]) (by norm_num)
    norm_num [amount]
  · have amount : decimal.amount = (340 : Nat) * 10 ^ 36 := rounding.amount_beyond beyond below
      (by norm_num) (by norm_num [singleLimit]) (by norm_num)
    norm_num [amount]

theorem Decimal.IsRounding.eq_of_beyond (rounding : IsRounding 4 value decimal)
    (beyond : singleLimit < value) (below : value < 3403 * 10 ^ 35) :
    decimal.amount = 3403 * 10 ^ 35 := by
  have amount : decimal.amount = (3403 : Nat) * 10 ^ 35 := rounding.amount_beyond beyond below
    (by norm_num) (by norm_num [singleLimit]) (by norm_num)
  exact_mod_cast amount

/-- Half the least 32-bit number is a normal double. -/
theorem double_normal_le : binary64.unit * binary64.place 0 ≤ binary32.place 0 / 2 := by
  have double : binary64.unit * binary64.place 0 = (2 : ℚ) ^ (-1022 : Int) := by
    rw [cast_unit (by decide), place, ← zpow_add₀ two_ne_zero]
    congr 1
  have half : binary32.place 0 / 2 = (2 : ℚ) ^ (-150 : Int) := by
    rw [place, div_eq_mul_inv, ← zpow_sub_one₀ two_ne_zero]
    congr 1
  rw [double, half]
  exact zpow_le_zpow_right₀ one_le_two (by decide)

theorem Decimal.IsRounding.normal (positive : 0 < bits)
    (rounding : IsRounding digits (binary32.amount bits) decimal) (nonempty : 0 < digits) :
    binary64.unit * binary64.place 0 ≤ decimal.amount := by
  have least : binary32.place 0 ≤ binary32.amount bits := place_zero_le_amount positive
  have error := rounding.error (amount_pos positive)
  have low := neg_abs_le (decimal.amount - binary32.amount bits)
  have ten : (10 : ℚ) ≤ 10 ^ digits := le_self_pow₀ (by norm_num) (by omega)
  have fewest := mul_le_mul_of_nonneg_left ten (abs_nonneg (decimal.amount - binary32.amount bits))
  refine double_normal_le.trans ?_
  linarith

theorem Decimal.IsRounding.double_pos (positive : 0 < bits)
    (rounding : IsRounding digits (binary32.amount bits) decimal) (nonempty : 0 < digits)
    (nearest : binary64.Nearest decimal.amount double) : 0 < double := by
  refine Nat.pos_of_ne_zero fun zero => ?_
  have normal := rounding.normal positive nonempty
  have error := nearest.error normal
  have size : 0 < binary64.unit * binary64.place 0 :=
    mul_pos (zero_lt_one.trans_le (one_le_unit binary64)) (place_pos binary64 0)
  have units := one_le_unit binary64
  rw [zero, amount_zero, zero_sub, abs_neg, abs_of_pos (size.trans_le normal)] at error
  nlinarith

/-- Nine digits are enough, also through a double. -/
theorem Decimal.IsRounding.narrows (positive : 0 < bits)
    (rounding : IsRounding 9 (binary32.amount bits) decimal)
    (nearest : binary64.Nearest decimal.amount double) : Narrows decimal.amount double bits := by
  have size : 0 < binary32.amount bits := amount_pos positive
  have first := rounding.error size
  have second := nearest.error (rounding.normal positive (by decide))
  have units : (binary64.unit : ℚ) = 2 ^ 52 ∧ (binary32.unit : ℚ) = 2 ^ 23 := by
    norm_num [unit, binary32, binary64]
  refine ⟨nearest, nearest_of_near positive ?_⟩
  have triangle := abs_sub_le (binary64.amount double) decimal.amount (binary32.amount bits)
  have high := le_abs_self (decimal.amount - binary32.amount bits)
  rw [units.1] at second
  rw [units.2]
  linarith

end ClassOutline
