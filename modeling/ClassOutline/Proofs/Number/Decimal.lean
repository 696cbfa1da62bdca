import Mathlib.Algebra.Order.Floor.Semifield
import ClassOutline.Number.Decimal
import ClassOutline.Proofs.Number.Binary

set_option autoImplicit false

namespace ClassOutline.Decimal

def amount (decimal : Decimal) : ℚ :=
  decimal.coefficient * (10 : ℚ) ^ decimal.exponent

/-- The value can be written with that many significant digits. -/
def HasDigits (digits : Nat) (value : ℚ) : Prop :=
  ∃ coefficient : Nat, coefficient < 10 ^ digits ∧
    ∃ exponent : Int, value = coefficient * (10 : ℚ) ^ exponent

/-- The exponent of the last of that many significant digits. -/
def lastPlace (digits : Nat) (value : ℚ) : Int :=
  Int.log 10 value - digits + 1

/-- The decimal is the value, correctly rounded to that many significant digits. -/
structure IsRounding (digits : Nat) (value : ℚ) (decimal : Decimal) : Prop where
  exponent : decimal.exponent = lastPlace digits value
  rounds : Rounds (value / 10 ^ lastPlace digits value) decimal.coefficient

variable {digits num den : Nat} {value : ℚ} {decimal : Decimal}

theorem quotient_pos (decimal : Decimal) : 0 < decimal.quotient.2 :=
  scaledBy_pos (by decide) Nat.one_pos

theorem ratio_quotient (decimal : Decimal) : ratio decimal.quotient = decimal.amount := by
  have scaled := ratio_scaledBy (by decide : 0 < 10) (-decimal.exponent) decimal.coefficient 1
  simpa [quotient, amount, zpow_neg] using scaled

theorem zpow_lastPlace_pos (digits : Nat) (value : ℚ) : (0 : ℚ) < 10 ^ lastPlace digits value :=
  zpow_pos (by norm_num) _

/-- The places of the significant digits are those of the value. -/
theorem ten_pow_mul_lastPlace (digits : Nat) (value : ℚ) :
    (10 : ℚ) ^ digits * 10 ^ lastPlace digits value = 10 ^ (Int.log 10 value + 1) := by
  rw [← zpow_natCast, ← zpow_add₀ (by norm_num), lastPlace]
  congr 1
  omega

theorem lt_ten_pow_mul_lastPlace (digits : Nat) (value : ℚ) :
    value < (10 : ℚ) ^ digits * 10 ^ lastPlace digits value := by
  rw [ten_pow_mul_lastPlace]
  exact_mod_cast Int.lt_zpow_succ_log_self (by decide : 1 < 10) value

theorem ten_pow_mul_lastPlace_le (digits : Nat) (positive : 0 < value) :
    (10 : ℚ) ^ digits * 10 ^ lastPlace digits value ≤ 10 * value := by
  have least := Int.zpow_log_le_self (by decide : 1 < 10) positive
  rw [ten_pow_mul_lastPlace, zpow_add_one₀ (by norm_num), mul_comm]
  gcongr
  exact_mod_cast least

/-- One more than the greatest coefficient is a power of ten, which has one digit. -/
theorem hasDigits_of_le (nonempty : 0 < digits) {coefficient : Nat} (exponent : Int)
    (small : coefficient ≤ 10 ^ digits) : HasDigits digits (coefficient * (10 : ℚ) ^ exponent) := by
  by_cases full : coefficient = 10 ^ digits
  · refine ⟨1, Nat.one_lt_pow (by omega) (by decide), digits + exponent, ?_⟩
    rw [full, zpow_add₀ (by norm_num), zpow_natCast]
    push_cast
    ring
  · exact ⟨coefficient, by omega, exponent, rfl⟩

theorem HasDigits.mono {more : Nat} (fewer : digits ≤ more) (has : HasDigits digits value) :
    HasDigits more value := by
  obtain ⟨coefficient, small, exponent, same⟩ := has
  exact ⟨coefficient, lt_of_lt_of_le small (Nat.pow_le_pow_right (by decide) fewer), exponent,
    same⟩

theorem IsRounding.unique {other : Decimal} (first : IsRounding digits value decimal)
    (second : IsRounding digits value other) : decimal = other := by
  have exponents := first.exponent.trans second.exponent.symm
  have coefficients := first.rounds.unique second.rounds
  cases decimal
  cases other
  congr

theorem IsRounding.amount_eq (rounding : IsRounding digits value decimal) :
    decimal.amount = decimal.coefficient * (10 : ℚ) ^ lastPlace digits value := by
  rw [amount, rounding.exponent]

theorem IsRounding.coefficient_le (rounding : IsRounding digits value decimal) :
    decimal.coefficient ≤ 10 ^ digits := by
  refine rounding.rounds.le_of_le ?_
  rw [div_le_iff₀ (zpow_lastPlace_pos _ _)]
  push_cast
  exact (lt_ten_pow_mul_lastPlace digits _).le

theorem IsRounding.hasDigits (rounding : IsRounding digits value decimal) (nonempty : 0 < digits) :
    HasDigits digits decimal.amount :=
  hasDigits_of_le nonempty _ rounding.coefficient_le

/-- A rounding is off by at most half of its last place. -/
theorem IsRounding.error (rounding : IsRounding digits value decimal) (positive : 0 < value) :
    |decimal.amount - value| * (2 * 10 ^ digits) ≤ 10 * value := by
  have half := rounding.rounds.error_mul (zpow_lastPlace_pos digits value)
  rw [rounding.amount_eq]
  calc |decimal.coefficient * (10 : ℚ) ^ lastPlace digits value - value| * (2 * 10 ^ digits)
      ≤ 10 ^ lastPlace digits value / 2 * (2 * 10 ^ digits) := by gcongr
    _ = 10 ^ digits * 10 ^ lastPlace digits value := by ring
    _ ≤ 10 * value := ten_pow_mul_lastPlace_le digits positive

theorem IsRounding.amount_of_near {number : Nat} {place : ℚ}
    (rounding : IsRounding digits value decimal)
    (last : (10 : ℚ) ^ lastPlace digits value = place)
    (near : |value - number * place| < place / 2) : decimal.amount = number * place := by
  have positive := zpow_lastPlace_pos digits value
  have rounds := rounding.rounds
  rw [rounding.amount_eq]
  rw [last] at rounds positive ⊢
  rw [rounds.unique (rounds_div_of_near positive near)]

theorem isRounding_significant (numPositive : 0 < num) (denPositive : 0 < den) :
    IsRounding digits (num / den) (significant digits num den) := by
  rw [significant, if_neg (Nat.ne_of_gt numPositive),
    leadingExponent_eq_log (by decide) numPositive denPositive, ← lastPlace]
  refine ⟨rfl, ?_⟩
  exact_mod_cast rounds_roundAt (by decide : 0 < 10) denPositive _ num

/-- The neighbours are the whole number of last places in the value and the next one. -/
theorem mem_neighbours_iff (numPositive : 0 < num) (denPositive : 0 < den) :
    decimal ∈ neighbours digits num den ↔
      (decimal.coefficient = ⌊num / den / (10 : ℚ) ^ lastPlace digits (num / den)⌋₊ ∨
        decimal.coefficient = ⌊num / den / (10 : ℚ) ^ lastPlace digits (num / den)⌋₊ + 1) ∧
      decimal.exponent = lastPlace digits (num / den) := by
  have scaled := ratio_scaledBy (by decide : 0 < 10) (lastPlace digits (num / den)) num den
  push_cast at scaled
  rw [neighbours, leadingExponent_eq_log (by decide) numPositive denPositive, ← lastPlace,
    ← scaled, ratio, Nat.floor_div_eq_div]
  generalize scaledBy 10 (lastPlace digits (num / den)) num den = quotient
  generalize lastPlace digits (num / den) = exponent
  have nearer : roundHalfEven quotient.1 quotient.2 = quotient.1 / quotient.2 ∨
      roundHalfEven quotient.1 quotient.2 = quotient.1 / quotient.2 + 1 := by
    unfold roundHalfEven
    dsimp only
    split
    · exact .inl rfl
    · exact .inr rfl
  cases decimal
  cases nearer with
  | inl low => simp [low, or_and_right]
  | inr high => simp [high, or_and_right, or_comm]

theorem hasDigits_neighbour (nonempty : 0 < digits) (numPositive : 0 < num)
    (denPositive : 0 < den) (neighbour : decimal ∈ neighbours digits num den) :
    HasDigits digits decimal.amount := by
  have place := zpow_lastPlace_pos digits (num / den)
  have less := (div_lt_iff₀ place).mpr (lt_ten_pow_mul_lastPlace digits (num / den))
  have whole : ⌊num / den / (10 : ℚ) ^ lastPlace digits (num / den)⌋₊ < 10 ^ digits := by
    refine (Nat.floor_lt (by positivity)).mpr ?_
    exact_mod_cast less
  have ⟨coefficient, _⟩ := (mem_neighbours_iff numPositive denPositive).mp neighbour
  exact hasDigits_of_le nonempty _ (by omega)

/-- A multiple of the last place that is less than one place away is a neighbour. -/
theorem neighbour_of_near (numPositive : 0 < num) (denPositive : 0 < den) {coefficient : Nat}
    (near : |num / den - coefficient * (10 : ℚ) ^ lastPlace digits (num / den)| <
      10 ^ lastPlace digits (num / den)) :
    ⟨coefficient, lastPlace digits (num / den)⟩ ∈ neighbours digits num den := by
  refine (mem_neighbours_iff numPositive denPositive).mpr ⟨?_, rfl⟩
  have place := zpow_lastPlace_pos digits (num / den)
  have nonneg : (0 : ℚ) ≤ num / den := by positivity
  generalize (10 : ℚ) ^ lastPlace digits (num / den) = weight at *
  generalize (num / den : ℚ) = value at *
  have ⟨low, high⟩ := abs_lt.mp near
  by_cases above : coefficient * weight ≤ value
  · refine .inl ((Nat.floor_eq_iff (by positivity)).mpr ⟨?_, ?_⟩).symm
    · exact (le_div_iff₀ place).mpr above
    · rw [div_lt_iff₀ place]
      linarith
  · refine .inr ?_
    have positive : 0 < coefficient := by
      refine Nat.pos_of_ne_zero fun zero => above ?_
      rw [zero, Nat.cast_zero, zero_mul]
      exact nonneg
    obtain ⟨previous, rfl⟩ := Nat.exists_eq_add_one_of_ne_zero (Nat.ne_of_gt positive)
    have whole : ⌊value / weight⌋₊ = previous := by
      refine (Nat.floor_eq_iff (by positivity)).mpr ⟨?_, ?_⟩
      · rw [le_div_iff₀ place]
        push_cast at low
        linarith
      · rw [div_lt_iff₀ place]
        push_cast at above
        linarith
    rw [whole]

/-- If some number of digits within the limit has a neighbour that reads back, the search ends with
one of at most that many digits. -/
theorem shortestFrom_spec {format : BinaryFormat} {bits : Nat} (limit start : Nat)
    (after : start ≤ digits) (within : digits < start + limit)
    (reads : ∃ decimal ∈ neighbours digits num den,
      format.nearestBits decimal.quotient.1 decimal.quotient.2 = bits) :
    ∃ used, start ≤ used ∧ used ≤ digits ∧
      shortestFrom format bits num den limit start ∈ neighbours used num den ∧
      format.nearestBits (shortestFrom format bits num den limit start).quotient.1
        (shortestFrom format bits num den limit start).quotient.2 = bits := by
  induction limit generalizing start with
  | zero => omega
  | succ limit ih =>
    unfold shortestFrom
    split
    case h_1 decimal found =>
      have reading := List.find?_some found
      exact ⟨start, le_rfl, after, List.mem_of_find?_eq_some found, by simpa using reading⟩
    case h_2 nothing =>
      have different : start ≠ digits := by
        intro same
        obtain ⟨decimal, neighbour, reading⟩ := reads
        subst same
        have missed := List.find?_eq_none.mp nothing decimal neighbour
        simp [reading] at missed
      have ⟨used, later, fewer, spec⟩ := ih (start + 1) (by omega) (by omega)
      exact ⟨used, by omega, fewer, spec⟩

/-- A decimal of at most fifteen digits is a multiple of the last place of the double nearest to it,
and less than one such place away. -/
theorem neighbour_of_nearest {bits : Nat} (few : digits ≤ 15) (numPositive : 0 < num)
    (denPositive : 0 < den) (double : binary64.amount bits = num / den)
    (has : HasDigits digits value) (nearest : binary64.Nearest value bits)
    (normal : binary64.unit * binary64.place 0 ≤ value) :
    ∃ decimal ∈ neighbours digits num den, decimal.amount = value := by
  obtain ⟨coefficient, small, exponent, rfl⟩ := has
  have castPositive : (0 : ℚ) < num / den :=
    div_pos (Nat.cast_pos.mpr numPositive) (Nat.cast_pos.mpr denPositive)
  have unit : (binary64.unit : ℚ) = 2 ^ 52 := by norm_num [BinaryFormat.unit, binary64]
  have error := nearest.error normal
  rw [double, unit] at error
  have low := neg_abs_le (num / den - coefficient * (10 : ℚ) ^ exponent)
  have high := le_abs_self (num / den - coefficient * (10 : ℚ) ^ exponent)
  have limit : (10 : ℚ) ^ digits ≤ 10 ^ 15 := pow_le_pow_right₀ (by norm_num) few
  -- Rounding to a double cannot carry the decimal to the next power of ten.
  have last : lastPlace digits (num / den) ≤ exponent := by
    have weight : (0 : ℚ) < 10 ^ exponent := zpow_pos (by norm_num) _
    have most : (coefficient + 1 : ℚ) ≤ 10 ^ digits := by exact_mod_cast small
    have below : (num / den : ℚ) < 10 ^ digits * 10 ^ exponent := by
      have scaled := mul_le_mul_of_nonneg_right most weight.le
      have scaledLimit := mul_le_mul_of_nonneg_right limit weight.le
      linarith
    rw [← zpow_natCast, ← zpow_add₀ (by norm_num)] at below
    have leading := (Int.lt_zpow_iff_log_lt (by decide : 1 < 10) castPositive).mp
      (by exact_mod_cast below)
    unfold lastPlace
    omega
  have multiple : coefficient * (10 : ℚ) ^ exponent =
      (coefficient * 10 ^ (exponent - lastPlace digits (num / den)).toNat : Nat) *
        10 ^ lastPlace digits (num / den) := by
    push_cast
    rw [mul_assoc, ← zpow_natCast, ← zpow_add₀ (by norm_num)]
    congr 2
    omega
  refine ⟨_, neighbour_of_near numPositive denPositive ?_, multiple.symm⟩
  rw [← multiple]
  have below := lt_ten_pow_mul_lastPlace digits (num / den)
  have scaledLimit := mul_le_mul_of_nonneg_right limit (zpow_lastPlace_pos digits (num / den)).le
  linarith

/-- A decimal of at most fifteen digits is printed, through the double nearest to it, with at most
as many digits, and what is printed reads back as that double. -/
theorem shortest_spec {bits : Nat} (nonempty : 0 < digits) (few : digits ≤ 15)
    (numPositive : 0 < num) (denPositive : 0 < den)
    (double : binary64.amount bits = num / den) (has : HasDigits digits value)
    (nearest : binary64.Nearest value bits)
    (normal : binary64.unit * binary64.place 0 ≤ value) :
    binary64.Nearest (shortest num den).amount bits ∧
      HasDigits digits (shortest num den).amount := by
  have precise : 0 < binary64.precision := by decide
  have own : binary64.nearestBits num den = bits := by
    have exact := BinaryFormat.nearest_amount binary64 bits
    rw [double] at exact
    exact (BinaryFormat.nearest_nearestBits precise num denPositive).unique exact
  obtain ⟨decimal, neighbour, same⟩ :=
    neighbour_of_nearest few numPositive denPositive double has nearest normal
  have reads : binary64.nearestBits decimal.quotient.1 decimal.quotient.2 = bits := by
    refine BinaryFormat.nearestBits_eq precise (quotient_pos decimal) ?_
    rwa [ratio_quotient, same]
  have ⟨used, least, fewer, found, reading⟩ := shortestFrom_spec 16 1 nonempty (by omega)
    ⟨decimal, neighbour, reads⟩
  rw [shortest, if_neg (Nat.ne_of_gt numPositive), own]
  refine ⟨?_, (hasDigits_neighbour least numPositive denPositive found).mono fewer⟩
  have computed := BinaryFormat.nearest_nearestBits precise
    (shortestFrom binary64 bits num den 16 1).quotient.1
    (quotient_pos (shortestFrom binary64 bits num den 16 1))
  rw [reading] at computed
  rwa [← ratio_quotient]

end ClassOutline.Decimal
