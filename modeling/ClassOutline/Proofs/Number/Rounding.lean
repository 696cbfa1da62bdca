import Mathlib.Data.Int.Log
import Mathlib.Data.Rat.Floor
import Mathlib.Tactic.FieldSimp
import Mathlib.Tactic.Linarith
import Mathlib.Tactic.Positivity
import ClassOutline.Number.Binary

set_option autoImplicit false

namespace ClassOutline

def ratio (quotient : Nat × Nat) : ℚ :=
  quotient.1 / quotient.2

/-- The nearest natural number to a value; a tie goes to the even one. -/
structure Rounds (value : ℚ) (rounded : Nat) : Prop where
  below : rounded ≤ value + 1 / 2
  above : value ≤ rounded + 1 / 2
  even : value = rounded + 1 / 2 ∨ value = rounded - 1 / 2 → rounded % 2 = 0

section Rounds

variable {value other : ℚ} {rounded next number : Nat}

/-- Two neighbours cannot both be even, so a tie is broken the same way from both sides. -/
theorem Rounds.mono (order : value ≤ other) (first : Rounds value rounded)
    (second : Rounds other next) : rounded ≤ next := by
  by_contra beyond
  have step : (next : ℚ) + 1 ≤ rounded := by exact_mod_cast Nat.lt_of_not_le beyond
  have low := first.below
  have high := second.above
  have lowEven := first.even (.inr (by linarith))
  have highEven := second.even (.inl (by linarith))
  have tied : (rounded : ℚ) = next + 1 := by linarith
  have tied : rounded = next + 1 := by exact_mod_cast tied
  omega

theorem Rounds.unique (first : Rounds value rounded) (second : Rounds value next) :
    rounded = next :=
  Nat.le_antisymm (first.mono le_rfl second) (second.mono le_rfl first)

theorem rounds_of_near (near : |value - number| < 1 / 2) : Rounds value number := by
  have ⟨low, high⟩ := abs_lt.mp near
  refine ⟨by linarith, by linarith, ?_⟩
  rintro (tied | tied) <;> linarith

theorem rounds_natCast (number : Nat) : Rounds number number :=
  rounds_of_near (by norm_num)

theorem Rounds.le_of_le (rounds : Rounds value rounded) (order : value ≤ number) :
    rounded ≤ number :=
  rounds.mono order (rounds_natCast number)

theorem Rounds.ge_of_ge (rounds : Rounds value rounded) (order : number ≤ value) :
    number ≤ rounded :=
  (rounds_natCast number).mono order rounds

theorem Rounds.error (rounds : Rounds value rounded) : |rounded - value| ≤ 1 / 2 := by
  have low := rounds.below
  have high := rounds.above
  exact abs_le.mpr ⟨by linarith, by linarith⟩

variable {place : ℚ}

/-- A value within half a place of a multiple of the place is rounded to it. -/
theorem rounds_div_of_near (positive : 0 < place) (near : |value - number * place| < place / 2) :
    Rounds (value / place) number := by
  have scaled : value / place - number = (value - number * place) / place := by field_simp
  refine rounds_of_near ?_
  rw [scaled, abs_div, abs_of_pos positive, div_lt_iff₀ positive]
  linarith

theorem Rounds.error_mul (positive : 0 < place) (rounds : Rounds (value / place) rounded) :
    |rounded * place - value| ≤ place / 2 := by
  have scaled : rounded * place - value = (rounded - value / place) * place := by field_simp
  have half := mul_le_mul_of_nonneg_right rounds.error positive.le
  rw [scaled, abs_mul, abs_of_pos positive]
  linarith

end Rounds

variable {base num den : Nat} {exponent : Int}

theorem div_eq_whole_add (num : Nat) (positive : 0 < den) :
    (num : ℚ) / den = (num / den : Nat) + (num % den : Nat) / (den : ℚ) := by
  have whole : (den : ℚ) * (num / den : Nat) + (num % den : Nat) = num := by
    exact_mod_cast Nat.div_add_mod num den
  have denPositive : (0 : ℚ) < den := by exact_mod_cast positive
  field_simp
  linarith

theorem twice_cast_eq_iff {part : Nat} (positive : 0 < den) :
    2 * part = den ↔ (part : ℚ) / den = 1 / 2 := by
  have castPositive : (0 : ℚ) < den := by exact_mod_cast positive
  rw [div_eq_div_iff castPositive.ne' two_ne_zero, one_mul, mul_comm (part : ℚ)]
  exact_mod_cast Iff.rfl

theorem twice_cast_lt_iff {part : Nat} (positive : 0 < den) :
    2 * part < den ↔ (part : ℚ) / den < 1 / 2 := by
  have castPositive : (0 : ℚ) < den := by exact_mod_cast positive
  rw [div_lt_div_iff₀ castPositive two_pos, one_mul, mul_comm (part : ℚ)]
  exact_mod_cast Iff.rfl

theorem rounds_roundHalfEven (num : Nat) (positive : 0 < den) :
    Rounds (num / den) (roundHalfEven num den) := by
  have castPositive : (0 : ℚ) < den := by exact_mod_cast positive
  have least : (0 : ℚ) ≤ (num % den : Nat) / (den : ℚ) := by positivity
  have small : ((num % den : Nat) : ℚ) / den < 1 := by
    rw [div_lt_one castPositive]
    exact_mod_cast Nat.mod_lt num positive
  rw [div_eq_whole_add num positive]
  simp only [roundHalfEven, twice_cast_lt_iff positive, twice_cast_eq_iff positive]
  generalize num / den = whole
  generalize ((num % den : Nat) : ℚ) / den = fraction at *
  split
  case isTrue lower =>
    have upTo : fraction ≤ 1 / 2 := lower.elim le_of_lt fun tied => le_of_eq tied.1
    refine ⟨by linarith, by linarith, ?_⟩
    rintro (tied | tied)
    · have notLess : ¬fraction < 1 / 2 := by linarith
      exact (lower.resolve_left notLess).2
    · linarith
  case isFalse upper =>
    have atLeast : 1 / 2 ≤ fraction := not_lt.mp fun less => upper (.inl less)
    have next : ((whole + 1 : Nat) : ℚ) = whole + 1 := Nat.cast_succ whole
    refine ⟨by linarith, by linarith, ?_⟩
    rintro (tied | tied)
    · linarith
    · have odd : ¬whole % 2 = 0 := fun even => upper (.inr ⟨by linarith, even⟩)
      omega

theorem scaledBy_pos (basePositive : 0 < base) (positive : 0 < den) :
    0 < (scaledBy base exponent num den).2 :=
  Nat.mul_pos positive (Nat.pow_pos basePositive)

theorem ratio_scaledBy (basePositive : 0 < base) (exponent : Int) (num den : Nat) :
    ratio (scaledBy base exponent num den) = num / den / (base : ℚ) ^ exponent := by
  have nonzero : (base : ℚ) ≠ 0 := by exact_mod_cast Nat.ne_of_gt basePositive
  have split : (base : ℚ) ^ exponent = base ^ exponent.toNat / base ^ (-exponent).toNat := by
    rw [← zpow_natCast, ← zpow_natCast, ← zpow_sub₀ nonzero, Int.toNat_sub_toNat_neg]
  simp only [ratio, scaledBy, Nat.pow_eq, Nat.cast_mul, Nat.cast_pow]
  rw [split, div_div_eq_mul_div, div_mul_eq_mul_div, div_div]

theorem rounds_roundAt (basePositive : 0 < base) (positive : 0 < den) (exponent : Int)
    (num : Nat) :
    Rounds (num / den / (base : ℚ) ^ exponent) (roundAt base exponent num den) := by
  rw [← ratio_scaledBy basePositive]
  exact rounds_roundHalfEven _ (scaledBy_pos basePositive positive)

theorem digitCount_eq_log (large : 1 < base) {number : Nat} (positive : 0 < number) :
    digitCount base number = Nat.log base number + 1 := by
  induction number using Nat.strongRecOn with
  | ind number ih =>
    rw [digitCount, if_pos ⟨large, positive⟩]
    by_cases short : number < base
    · rw [Nat.log_of_lt short, Nat.div_eq_of_lt short, digitCount, if_neg (by omega)]
    · have long := Nat.le_of_not_lt short
      rw [ih _ (Nat.div_lt_self positive large) (Nat.div_pos long (by omega)),
        Nat.log_of_one_lt_of_le large long]

/-- Between neighbouring powers of the base there is one exponent for a number. -/
theorem log_eq (large : 1 < base) {value : ℚ} (reaches : (base : ℚ) ^ exponent ≤ value)
    (below : value < (base : ℚ) ^ (exponent + 1)) : Int.log base value = exponent := by
  have basePositive : (0 : ℚ) < base := by exact_mod_cast Nat.lt_of_succ_lt large
  have positive : 0 < value := lt_of_lt_of_le (zpow_pos basePositive exponent) reaches
  have least := (Int.zpow_le_iff_le_log large positive).mp reaches
  have most := (Int.lt_zpow_iff_log_lt large positive).mp below
  omega

theorem scaledBy_le_iff (basePositive : 0 < base) (positive : 0 < den) (exponent : Int)
    (num : Nat) :
    (scaledBy base exponent num den).2 ≤ (scaledBy base exponent num den).1 ↔
      (base : ℚ) ^ exponent ≤ num / den := by
  have castPositive : (0 : ℚ) < base := by exact_mod_cast basePositive
  have scaledPositive : (0 : ℚ) < (scaledBy base exponent num den).2 := by
    exact_mod_cast scaledBy_pos basePositive positive
  rw [← one_le_div (zpow_pos castPositive exponent), ← ratio_scaledBy basePositive, ratio,
    one_le_div scaledPositive]
  exact Nat.cast_le.symm

/-- The leading exponents of the two parts give that of the quotient, or one above it. -/
theorem quotient_between (large : 1 < base) (numPositive : 0 < num) (denPositive : 0 < den)
    (estimated : exponent = (Nat.log base num : Int) - Nat.log base den) :
    (base : ℚ) ^ (exponent - 1) ≤ num / den ∧ (num / den : ℚ) < (base : ℚ) ^ (exponent + 1) := by
  have castPositive : (0 : ℚ) < base := by exact_mod_cast Nat.lt_of_succ_lt large
  have castDen : (0 : ℚ) < den := by exact_mod_cast denPositive
  have numLow : (base : ℚ) ^ Nat.log base num ≤ num := by
    exact_mod_cast Nat.pow_log_le_self base (Nat.ne_of_gt numPositive)
  have numHigh : (num : ℚ) < base ^ (Nat.log base num + 1) := by
    exact_mod_cast Nat.lt_pow_succ_log_self large num
  have denLow : (base : ℚ) ^ Nat.log base den ≤ den := by
    exact_mod_cast Nat.pow_log_le_self base (Nat.ne_of_gt denPositive)
  have denHigh : (den : ℚ) ≤ base ^ (Nat.log base den + 1) := by
    exact_mod_cast Nat.le_of_lt (Nat.lt_pow_succ_log_self large den)
  constructor
  · rw [le_div_iff₀ castDen]
    calc (base : ℚ) ^ (exponent - 1) * den
        ≤ (base : ℚ) ^ (exponent - 1) * base ^ (Nat.log base den + 1) :=
          mul_le_mul_of_nonneg_left denHigh (zpow_pos castPositive _).le
      _ = base ^ Nat.log base num := by
        rw [← zpow_natCast, ← zpow_natCast, ← zpow_add₀ castPositive.ne', estimated]
        congr 1
        push_cast
        omega
      _ ≤ num := numLow
  · rw [div_lt_iff₀ castDen]
    calc (num : ℚ) < base ^ (Nat.log base num + 1) := numHigh
      _ = (base : ℚ) ^ (exponent + 1) * base ^ Nat.log base den := by
        rw [← zpow_natCast, ← zpow_natCast, ← zpow_add₀ castPositive.ne', estimated]
        congr 1
        push_cast
        omega
      _ ≤ (base : ℚ) ^ (exponent + 1) * den :=
        mul_le_mul_of_nonneg_left denLow (zpow_pos castPositive _).le

theorem leadingExponent_eq_log (large : 1 < base) (numPositive : 0 < num) (denPositive : 0 < den) :
    leadingExponent base num den = Int.log base (num / den : ℚ) := by
  unfold leadingExponent
  dsimp only
  generalize counts : (digitCount base num : Int) - digitCount base den = estimate
  have estimated : estimate = (Nat.log base num : Int) - Nat.log base den := by
    rw [← counts, digitCount_eq_log large numPositive, digitCount_eq_log large denPositive]
    omega
  have ⟨reaches, below⟩ := quotient_between large numPositive denPositive estimated
  simp only [scaledBy_le_iff (Nat.lt_of_succ_lt large) denPositive]
  split
  case isTrue least => exact (log_eq large least below).symm
  case isFalse less =>
    refine (log_eq large reaches ?_).symm
    simpa using less

end ClassOutline
