import ClassOutline.Number.Binary
import ClassOutline.Proofs.Number.Rounding

set_option autoImplicit false

namespace ClassOutline

namespace BinaryFormat

def unit (format : BinaryFormat) : Nat :=
  Nat.pow 2 (format.precision - 1)

/-- The weight of the last place of the numbers with a shift. -/
def place (format : BinaryFormat) (shift : Nat) : ℚ :=
  (2 : ℚ) ^ (format.minExponent + shift)

def amount (format : BinaryFormat) (bits : Nat) : ℚ :=
  (format.magnitude bits).1 * (2 : ℚ) ^ (format.magnitude bits).2

/-- The significand is the value in places, rounded; only the least shift has short ones. -/
structure NearestAt (format : BinaryFormat) (value : ℚ) (shift significand : Nat) : Prop where
  rounds : Rounds (value / format.place shift) significand
  below : value < 2 * format.unit * format.place shift
  reaches : shift = 0 ∨ format.unit * format.place shift ≤ value

/-- The magnitude with these bits is the nearest to a value, if no magnitude is out of range. -/
def Nearest (format : BinaryFormat) (value : ℚ) (bits : Nat) : Prop :=
  ∃ shift significand, NearestAt format value shift significand ∧
    bits = shift * format.unit + significand

variable {format : BinaryFormat} {value other : ℚ} {shift significand bits : Nat}

theorem unit_pos (format : BinaryFormat) : 0 < format.unit :=
  Nat.pow_pos (by decide)

theorem one_le_unit (format : BinaryFormat) : (1 : ℚ) ≤ format.unit := by
  exact_mod_cast unit_pos format

theorem place_pos (format : BinaryFormat) (shift : Nat) : 0 < format.place shift :=
  zpow_pos two_pos _

theorem place_succ (format : BinaryFormat) (shift : Nat) :
    format.place (shift + 1) = 2 * format.place shift := by
  have next : format.minExponent + (shift + 1 : Nat) = format.minExponent + shift + 1 := by
    push_cast
    omega
  rw [place, place, next, zpow_add_one₀ two_ne_zero, mul_comm]

theorem two_mul_place_le {first second : Nat} (less : first < second) :
    2 * format.place first ≤ format.place second := by
  rw [← place_succ]
  exact zpow_le_zpow_right₀ one_le_two (by omega)

theorem magnitude_split (small : significand < 2 * format.unit)
    (normal : shift = 0 ∨ format.unit ≤ significand) :
    format.magnitude (shift * format.unit + significand) =
      (significand, format.minExponent + shift) := by
  by_cases short : significand < format.unit
  · have least : shift = 0 := by omega
    rw [least, Nat.zero_mul, Nat.zero_add]
    exact (if_pos short).trans (by simp)
  · have long : ¬shift * format.unit + significand < format.unit := by omega
    have split : shift * format.unit + significand =
        significand - format.unit + format.unit * (shift + 1) := by
      rw [Nat.mul_succ, Nat.mul_comm]
      omega
    have within : significand - format.unit < format.unit := by omega
    refine (if_neg long).trans ?_
    change (format.unit + _ % format.unit, format.minExponent + (_ / format.unit - 1 : Nat)) = _
    rw [split, Nat.add_mul_mod_self_left, Nat.add_mul_div_left _ _ (unit_pos format),
      Nat.mod_eq_of_lt within, Nat.div_eq_of_lt within]
    congr 1
    · omega
    · omega

/-- A significand one too large for its shift is the least one of the next shift. -/
theorem amount_split (small : significand ≤ 2 * format.unit)
    (normal : shift = 0 ∨ format.unit ≤ significand) :
    format.amount (shift * format.unit + significand) = significand * format.place shift := by
  by_cases full : significand = 2 * format.unit
  · have positive := unit_pos format
    have carried : shift * format.unit + significand =
        (shift + 1) * format.unit + format.unit := by
      rw [full]
      ring
    rw [amount, carried, magnitude_split (by omega) (.inr le_rfl), full]
    change format.unit * format.place (shift + 1) = _
    rw [place_succ]
    push_cast
    ring
  · rw [amount, magnitude_split (by omega) normal]
    rfl

theorem exists_split (format : BinaryFormat) (bits : Nat) :
    ∃ shift significand, bits = shift * format.unit + significand ∧
      significand < 2 * format.unit ∧ (shift = 0 ∨ format.unit ≤ significand) := by
  by_cases short : bits < format.unit
  · exact ⟨0, bits, by omega, by omega, .inl rfl⟩
  · have within := Nat.mod_lt bits (unit_pos format)
    refine ⟨bits / format.unit - 1, format.unit + bits % format.unit, ?_, by omega,
      .inr (by omega)⟩
    have whole := Nat.div_add_mod' bits format.unit
    have least : 1 ≤ bits / format.unit :=
      (Nat.one_le_div_iff (unit_pos format)).mpr (Nat.le_of_not_lt short)
    rw [Nat.sub_mul, Nat.one_mul]
    have covered : format.unit ≤ bits / format.unit * format.unit :=
      Nat.le_mul_of_pos_left format.unit least
    omega

theorem amount_pos (positive : 0 < bits) : 0 < format.amount bits := by
  obtain ⟨shift, significand, rfl, small, normal⟩ := exists_split format bits
  rw [amount_split small.le normal]
  have nonzero : 0 < significand := by
    have unitPositive := unit_pos format
    cases normal with
    | inl least => simpa [least] using positive
    | inr full => omega
  exact mul_pos (Nat.cast_pos.mpr nonzero) (place_pos format shift)

namespace NearestAt

theorem significand_le (nearest : NearestAt format value shift significand) :
    significand ≤ 2 * format.unit := by
  refine nearest.rounds.le_of_le ?_
  rw [div_le_iff₀ (place_pos format shift)]
  push_cast
  exact nearest.below.le

theorem normal (nearest : NearestAt format value shift significand) :
    shift = 0 ∨ format.unit ≤ significand :=
  nearest.reaches.imp_right fun least =>
    nearest.rounds.ge_of_ge ((le_div_iff₀ (place_pos format shift)).mpr least)

theorem amount_eq (nearest : NearestAt format value shift significand) :
    format.amount (shift * format.unit + significand) = significand * format.place shift :=
  amount_split nearest.significand_le nearest.normal

theorem error (nearest : NearestAt format value shift significand) :
    |significand * format.place shift - value| ≤ format.place shift / 2 :=
  nearest.rounds.error_mul (place_pos format shift)

/-- A value of a greater shift is past all the places of a smaller one. -/
theorem shift_le (order : value ≤ other) {shift' significand' : Nat}
    (first : NearestAt format value shift significand)
    (second : NearestAt format other shift' significand') : shift ≤ shift' := by
  by_contra greater
  have reaches := first.reaches.resolve_left (by omega)
  have twice : 2 * format.place shift' ≤ format.place shift :=
    two_mul_place_le (Nat.lt_of_not_le greater)
  have scaled := mul_le_mul_of_nonneg_left twice (zero_le_one.trans (one_le_unit format))
  linarith [second.below]

end NearestAt

/-- Rounding to a format keeps the order. -/
theorem Nearest.mono {next : Nat} (order : value ≤ other) (first : format.Nearest value bits)
    (second : format.Nearest other next) : bits ≤ next := by
  obtain ⟨shift, significand, first, rfl⟩ := first
  obtain ⟨shift', significand', second, rfl⟩ := second
  have shifts := first.shift_le order second
  by_cases same : shift = shift'
  · subst same
    have scaled := div_le_div_of_nonneg_right order (place_pos format shift).le
    exact Nat.add_le_add_left (first.rounds.mono scaled second.rounds) _
  · have most := first.significand_le
    have least := second.normal.resolve_left (by omega)
    have step : (shift + 1) * format.unit ≤ shift' * format.unit :=
      Nat.mul_le_mul_right _ (by omega)
    rw [Nat.succ_mul] at step
    omega

theorem Nearest.unique {next : Nat} (first : format.Nearest value bits)
    (second : format.Nearest value next) : bits = next :=
  Nat.le_antisymm (first.mono le_rfl second) (second.mono le_rfl first)

/-- Of a value with all its places, rounding loses at most half a unit of the last one. -/
theorem Nearest.error (nearest : format.Nearest value bits)
    (least : format.unit * format.place 0 ≤ value) :
    |format.amount bits - value| * (2 * format.unit) ≤ value := by
  obtain ⟨shift, significand, nearest, rfl⟩ := nearest
  have reaches : format.unit * format.place shift ≤ value :=
    nearest.reaches.elim (fun zero => zero ▸ least) id
  have unitPositive := one_le_unit format
  rw [nearest.amount_eq]
  calc |significand * format.place shift - value| * (2 * format.unit)
      ≤ format.place shift / 2 * (2 * format.unit) :=
        mul_le_mul_of_nonneg_right nearest.error (by positivity)
    _ = format.unit * format.place shift := by ring
    _ ≤ value := reaches

/-- A value within half a unit of the last place of a number is nearest to it, and within a quarter
also where the places below the number are half as wide. -/
theorem nearest_of_near (positive : 0 < bits)
    (near : |value - format.amount bits| * (4 * format.unit) < format.amount bits) :
    format.Nearest value bits := by
  obtain ⟨shift, significand, rfl, small, normal⟩ := exists_split format bits
  rw [amount_split small.le normal] at near
  have placePositive := place_pos format shift
  have unitLeast := one_le_unit format
  have most : (significand + 1 : ℚ) * format.place shift ≤
      2 * format.unit * format.place shift := by
    gcongr
    exact_mod_cast small
  by_cases reaches : shift = 0 ∨ format.unit * format.place shift ≤ value
  · have half : |value - significand * format.place shift| < format.place shift / 2 := by
      nlinarith
    have high := (abs_lt.mp half).2
    exact ⟨shift, significand, ⟨rounds_div_of_near placePositive half, by linarith, reaches⟩, rfl⟩
  · -- the value lies below the least number of its shift, among the places half as wide
    obtain ⟨shift, rfl⟩ : ∃ previous, shift = previous + 1 :=
      Nat.exists_eq_add_one_of_ne_zero fun zero => reaches (.inl zero)
    have less : value < format.unit * format.place (shift + 1) :=
      not_le.mp fun least => reaches (.inr least)
    have half : |value - significand * format.place (shift + 1)| <
        format.place (shift + 1) / 2 := by
      nlinarith
    have low := (abs_lt.mp half).1
    have least : significand = format.unit := by
      have bound : (significand : ℚ) < format.unit + 1 := by nlinarith
      have bound : significand < format.unit + 1 := by exact_mod_cast bound
      omega
    rw [least, place_succ] at near low
    rw [place_succ] at less
    have previous := place_pos format shift
    have quarter : |value - (2 * format.unit : Nat) * format.place shift| <
        format.place shift / 2 := by
      have same : ((2 * format.unit : Nat) : ℚ) * format.place shift =
          format.unit * (2 * format.place shift) := by
        push_cast
        ring
      rw [same]
      nlinarith
    refine ⟨shift, 2 * format.unit,
      ⟨rounds_div_of_near previous quarter, by linarith, .inr ?_⟩, ?_⟩
    · nlinarith
    · rw [least]
      ring

@[simp] theorem amount_zero (format : BinaryFormat) : format.amount 0 = 0 := by
  have split : format.amount (0 * format.unit + 0) = (0 : Nat) * format.place 0 :=
    amount_split (Nat.zero_le _) (.inl rfl)
  simpa using split

theorem nearest_amount (format : BinaryFormat) (bits : Nat) :
    format.Nearest (format.amount bits) bits := by
  by_cases zero : bits = 0
  · have positive := mul_pos (zero_lt_one.trans_le (one_le_unit format)) (place_pos format 0)
    subst zero
    refine ⟨0, 0, ⟨rounds_div_of_near (place_pos format 0) ?_, ?_, .inl rfl⟩, by simp⟩
    · simpa using place_pos format 0
    · rw [amount_zero]
      linarith
  · have positive := Nat.pos_of_ne_zero zero
    exact nearest_of_near positive (by simpa using amount_pos positive)

/-- Numbers with the same magnitude have the same bits. -/
theorem amount_injective (format : BinaryFormat) : Function.Injective format.amount := by
  intro first second same
  exact (same ▸ nearest_amount format first).unique (nearest_amount format second)

theorem amount_mono {first second : Nat} (order : first ≤ second) :
    format.amount first ≤ format.amount second := by
  by_contra less
  have reversed := (nearest_amount format second).mono (not_le.mp less).le
    (nearest_amount format first)
  have same : first = second := Nat.le_antisymm order reversed
  exact less (same ▸ le_rfl)

theorem place_zero_le_amount (positive : 0 < bits) : format.place 0 ≤ format.amount bits := by
  have first : format.amount (0 * format.unit + 1) = (1 : Nat) * format.place 0 :=
    amount_split (by have := unit_pos format; omega) (.inl rfl)
  calc format.place 0 = format.amount 1 := by simpa using first.symm
    _ ≤ format.amount bits := amount_mono positive

theorem cast_unit (precise : 0 < format.precision) :
    (format.unit : ℚ) = (2 : ℚ) ^ ((format.precision : Int) - 1) := by
  have digits : (format.precision : Int) - 1 = (format.precision - 1 : Nat) := by omega
  rw [digits, zpow_natCast, unit]
  exact Nat.cast_pow 2 _

/-- The bits that the format computes are those of the nearest magnitude. -/
theorem nearest_nearestBits (precise : 0 < format.precision) (num : Nat) {den : Nat}
    (positive : 0 < den) : format.Nearest (num / den) (format.nearestBits num den) := by
  by_cases zero : num = 0
  · have nothing : format.nearestBits num den = 0 := if_pos zero
    have nearest := nearest_amount format 0
    rw [amount_zero] at nearest
    rwa [nothing, zero, Nat.cast_zero, zero_div]
  · have numPositive := Nat.pos_of_ne_zero zero
    have castPositive : (0 : ℚ) < num / den :=
      div_pos (Nat.cast_pos.mpr numPositive) (Nat.cast_pos.mpr positive)
    have least := Int.zpow_log_le_self Nat.one_lt_two castPositive
    have most := Int.lt_zpow_succ_log_self Nat.one_lt_two (num / den : ℚ)
    unfold nearestBits
    rw [if_neg zero, leadingExponent_eq_log Nat.one_lt_two numPositive positive]
    generalize Int.log 2 (num / den : ℚ) = leading at *
    generalize chosen : max format.minExponent (leading - format.precision + 1) = exponent
    have weight : format.place (exponent - format.minExponent).toNat = (2 : ℚ) ^ exponent := by
      rw [place]
      congr 1
      omega
    have full : format.unit * format.place (exponent - format.minExponent).toNat =
        (2 : ℚ) ^ (exponent + format.precision - 1) := by
      rw [weight, cast_unit precise, ← zpow_add₀ two_ne_zero]
      congr 1
      omega
    -- The exponent is that of the leading digit less the precision, unless that is too small.
    refine ⟨_, _, ⟨?_, ?_, ?_⟩, rfl⟩
    · rw [weight]
      exact_mod_cast rounds_roundAt Nat.two_pos positive exponent num
    · rw [mul_assoc, full, ← zpow_one_add₀ two_ne_zero]
      exact lt_of_lt_of_le most (zpow_le_zpow_right₀ one_le_two (by omega))
    · rw [full]
      by_cases short : exponent = format.minExponent
      · exact .inl (by omega)
      · exact .inr (le_trans (zpow_le_zpow_right₀ one_le_two (by omega)) least)

/-- The next number is a place above the nearest one, unless that is not below the value. -/
theorem NearestAt.above (nearest : NearestAt format value shift significand) :
    value ≤ significand * format.place shift ∨
      format.amount (shift * format.unit + significand + 1) =
        significand * format.place shift + format.place shift := by
  by_cases full : significand = 2 * format.unit
  · have below := nearest.below
    have same : (significand : ℚ) = 2 * format.unit := by exact_mod_cast full
    exact .inl (same ▸ below.le)
  · have most := nearest.significand_le
    have next : format.amount (shift * format.unit + (significand + 1)) =
        (significand + 1 : Nat) * format.place shift :=
      amount_split (by omega) (nearest.normal.imp_right Nat.le_succ_of_le)
    rw [Nat.cast_succ, add_one_mul] at next
    exact .inr next

/-- The number before the nearest one is a place below it, unless that is not above the value. -/
theorem NearestAt.beneath (nearest : NearestAt format value shift significand) {previous : Nat}
    (next : previous + 1 = shift * format.unit + significand) :
    significand * format.place shift ≤ value ∨
      format.amount previous + format.place shift = significand * format.place shift := by
  have most := nearest.significand_le
  by_cases normal : shift = 0 ∨ format.unit < significand
  · obtain ⟨less, rfl⟩ : ∃ less, significand = less + 1 := by
      refine Nat.exists_eq_add_one_of_ne_zero fun zero => ?_
      rcases normal with least | long
      · simp [least, zero] at next
      · omega
    have split : previous = shift * format.unit + less := by omega
    have amount : format.amount (shift * format.unit + less) = less * format.place shift :=
      amount_split (by omega) (normal.imp_right Nat.le_of_lt_succ)
    rw [split, amount, Nat.cast_succ, add_one_mul]
    exact .inr rfl
  · have first : significand = format.unit := by
      have long := nearest.normal
      omega
    have reaches := nearest.reaches.resolve_left fun least => normal (.inl least)
    exact .inl (first ▸ reaches)

/-- No number of the format is nearer to a value than the one it is rounded to. -/
theorem Nearest.le (nearest : format.Nearest value bits) (candidate : Nat) :
    |value - format.amount bits| ≤ |value - format.amount candidate| := by
  obtain ⟨shift, significand, nearest, rfl⟩ := nearest
  have error := nearest.error
  have ⟨low, high⟩ := abs_le.mp error
  rw [nearest.amount_eq, abs_sub_comm]
  by_cases above : shift * format.unit + significand < candidate
  · have order : format.amount (shift * format.unit + significand + 1) ≤
        format.amount candidate := amount_mono above
    have farther : format.amount (shift * format.unit + significand) ≤
        format.amount candidate := amount_mono above.le
    rw [nearest.amount_eq] at farther
    refine le_trans ?_ (neg_le_abs _)
    rcases nearest.above with reached | next
    · rw [abs_of_nonneg (by linarith)]
      linarith
    · rw [next] at order
      linarith
  · by_cases same : candidate = shift * format.unit + significand
    · rw [same, nearest.amount_eq, abs_sub_comm]
    · obtain ⟨previous, next⟩ : ∃ previous, previous + 1 = shift * format.unit + significand :=
        ⟨shift * format.unit + significand - 1, by omega⟩
      have order : format.amount candidate ≤ format.amount previous := amount_mono (by omega)
      have farther : format.amount candidate ≤
          format.amount (shift * format.unit + significand) := amount_mono (by omega)
      rw [nearest.amount_eq] at farther
      refine le_trans ?_ (le_abs_self _)
      rcases nearest.beneath next with reached | before
      · rw [abs_of_nonpos (by linarith)]
        linarith
      · linarith

theorem nearestBits_eq (precise : 0 < format.precision) {quotient : Nat × Nat}
    (positive : 0 < quotient.2) (nearest : format.Nearest (ratio quotient) bits) :
    format.nearestBits quotient.1 quotient.2 = bits :=
  (nearest_nearestBits precise quotient.1 positive).unique nearest

def quotient (format : BinaryFormat) (bits : Nat) : Nat × Nat :=
  FloatValue.quotient (format.magnitude bits).1 (format.magnitude bits).2

theorem quotient_pos (format : BinaryFormat) (bits : Nat) : 0 < (format.quotient bits).2 :=
  scaledBy_pos Nat.two_pos Nat.one_pos

theorem ratio_quotient (format : BinaryFormat) (bits : Nat) :
    ratio (format.quotient bits) = format.amount bits := by
  have scaled := ratio_scaledBy Nat.two_pos (-(format.magnitude bits).2)
    (format.magnitude bits).1 1
  simpa [quotient, FloatValue.quotient, amount, zpow_neg] using scaled

def number (format : BinaryFormat) (negative : Bool) (bits : Nat) : FloatValue :=
  .finite negative (format.magnitude bits).1 (format.magnitude bits).2

/-- What the fields of a word stand for. The first digit of a significand is implied, but with the
least exponent it is zero. The greatest exponent is that of infinity and of what is no number. -/
def ofFields (format : BinaryFormat) (negative : Bool) (exponent fraction : Nat) : FloatValue :=
  if exponent = Nat.pow 2 format.exponentBits - 1 then
    if fraction = 0 then .infinite negative else .nan
  else if exponent = 0 then .finite negative fraction format.minExponent
  else .finite negative (format.unit + fraction) (format.minExponent + (exponent - 1 : Nat))

theorem signBit_eq (format : BinaryFormat) :
    format.signBit = format.unit * Nat.pow 2 format.exponentBits :=
  Nat.pow_add 2 (format.precision - 1) format.exponentBits

/-- A word is a sign, an exponent and a fraction behind one another. -/
theorem decode_eq_ofFields (format : BinaryFormat) (bits : Nat) :
    format.decode bits =
      format.ofFields (decide (format.unit * Nat.pow 2 format.exponentBits ≤ bits))
        (bits / format.unit % Nat.pow 2 format.exponentBits) (bits % format.unit) := by
  have split : bits % format.signBit =
      bits % format.unit +
        format.unit * (bits / format.unit % Nat.pow 2 format.exponentBits) := by
    rw [signBit_eq, Nat.mod_mul]
  have short := Nat.mod_lt bits (unit_pos format)
  have exponents : 0 < Nat.pow 2 format.exponentBits := Nat.pow_pos Nat.two_pos
  have small := Nat.mod_lt (bits / format.unit) exponents
  have top : format.infinityBits = format.unit * (Nat.pow 2 format.exponentBits - 1) :=
    Nat.mul_comm _ _
  rw [decode, split, top, signBit_eq]
  generalize bits / format.unit % Nat.pow 2 format.exponentBits = exponent at *
  generalize bits % format.unit = fraction at *
  rw [ofFields]
  by_cases greatest : exponent = Nat.pow 2 format.exponentBits - 1
  · rw [if_pos greatest, ← greatest]
    by_cases whole : fraction = 0
    · rw [if_pos whole, if_pos (by omega)]
    · rw [if_neg whole, if_neg (by omega), if_pos (by omega)]
  · have inRange : fraction + format.unit * exponent <
        format.unit * (Nat.pow 2 format.exponentBits - 1) := by
      have next : format.unit * (exponent + 1) ≤
          format.unit * (Nat.pow 2 format.exponentBits - 1) :=
        Nat.mul_le_mul_left _ (by omega)
      rw [Nat.mul_succ] at next
      omega
    rw [if_neg greatest, if_neg (by omega), if_neg (by omega)]
    cases exponent with
    | zero =>
      have magnitude := magnitude_split (by omega : fraction < 2 * format.unit)
        (.inl rfl : 0 = 0 ∨ format.unit ≤ fraction)
      rw [Nat.zero_mul, Nat.zero_add] at magnitude
      rw [if_pos rfl, Nat.mul_zero, Nat.add_zero, magnitude]
      simp
    | succ shift =>
      have magnitude := magnitude_split (by omega : format.unit + fraction < 2 * format.unit)
        (.inr (Nat.le_add_right _ _) : shift = 0 ∨ format.unit ≤ format.unit + fraction)
      have place : fraction + format.unit * (shift + 1) =
          shift * format.unit + (format.unit + fraction) := by ring
      rw [if_neg (Nat.succ_ne_zero shift), place, magnitude, Nat.add_sub_cancel]

variable {source : BinaryFormat} {negative : Bool} {result : Nat}

theorem exists_number {exponent : Int}
    (decoded : format.decode bits = .finite negative significand exponent) :
    ∃ rest, rest < format.infinityBits ∧ .finite negative significand exponent =
      format.number negative rest := by
  unfold decode at decoded
  dsimp only at decoded
  split at decoded
  · cases decoded
  · split at decoded
    · cases decoded
    · cases decoded
      exact ⟨bits % format.signBit, by omega, rfl⟩

theorem nearest?_eq (precise : 0 < format.precision) {quotient : Nat × Nat}
    (positive : 0 < quotient.2) (nearest : format.Nearest (ratio quotient) bits) :
    format.nearest? negative quotient.1 quotient.2 =
      if bits < format.infinityBits then some (format.number negative bits) else none := by
  rw [nearest?, nearestBits_eq precise positive nearest]
  rfl

theorem convert?_number (precise : 0 < format.precision)
    (nearest : format.Nearest (source.amount bits) result) :
    format.convert? (source.number negative bits) =
      if result < format.infinityBits then some (format.number negative result) else none := by
  rw [← ratio_quotient] at nearest
  exact nearest?_eq precise (quotient_pos source bits) nearest

theorem number_injective (same : format.number negative bits = format.number negative result) :
    bits = result := by
  refine amount_injective format ?_
  injection same with _ significands exponents
  rw [amount, amount, significands, exponents]

theorem sameNumber_number :
    (format.number negative bits).sameNumber (format.number negative result) = true ↔
      bits = result := by
  have first := quotient_pos format bits
  have second := quotient_pos format result
  have cross : (format.quotient bits).1 * (format.quotient result).2 =
      (format.quotient result).1 * (format.quotient bits).2 ↔
      ratio (format.quotient bits) = ratio (format.quotient result) := by
    rw [ratio, ratio, div_eq_div_iff (by exact_mod_cast first.ne') (by exact_mod_cast second.ne')]
    exact_mod_cast Iff.rfl
  rw [number, number, FloatValue.sameNumber, ← quotient, ← quotient, Bool.and_eq_true, beq_iff_eq,
    cross, ratio_quotient, ratio_quotient, beq_self_eq_true, Bool.true_or, eq_self, and_true]
  exact (amount_injective format).eq_iff

end BinaryFormat

end ClassOutline
