import ClassOutline.Outline.LiteralText
import ClassOutline.Proofs.Number.Numeral
import ClassOutline.Proofs.Number.Single

set_option autoImplicit false

namespace ClassOutline.LiteralText

open BinaryFormat Decimal

variable {bits num den double single digits : Nat} {negative : Bool} {decimal : Decimal}

/-- A decimal read as a double and rounded to 32 bits; none if either is beyond the range. -/
def readSingle? (negative : Bool) (decimal : Decimal) : Option FloatValue :=
  (binary64.nearest? negative decimal.quotient.1 decimal.quotient.2).bind binary32.convert?

theorem exists_narrows (decimal : Decimal) :
    ∃ double single, Narrows decimal.amount double single := by
  have narrows := narrows_nearestBits (Decimal.quotient_pos decimal)
  rw [Decimal.ratio_quotient] at narrows
  exact ⟨_, _, narrows⟩

theorem nearest?_double (narrows : Narrows decimal.amount double single) :
    binary64.nearest? negative decimal.quotient.1 decimal.quotient.2 =
      if double < binary64.infinityBits then some (binary64.number negative double) else none := by
  refine BinaryFormat.nearest?_eq (by decide) (Decimal.quotient_pos decimal) ?_
  rw [Decimal.ratio_quotient]
  exact narrows.nearest

theorem convert?_double (narrows : Narrows decimal.amount double single) :
    binary32.convert? (binary64.number negative double) =
      if single < binary32.infinityBits then some (binary32.number negative single) else none :=
  convert?_number (by decide) narrows.narrowed

theorem readSingle?_eq (narrows : Narrows decimal.amount double single)
    (doubleFinite : double < binary64.infinityBits) (finite : single < binary32.infinityBits) :
    readSingle? negative decimal = some (binary32.number negative single) := by
  rw [readSingle?, nearest?_double narrows, if_pos doubleFinite, Option.bind_some,
    convert?_double narrows, if_pos finite]

theorem narrows_of_readSingle?
    (reads : readSingle? negative decimal = some (binary32.number negative bits)) :
    ∃ double, Narrows decimal.amount double bits := by
  obtain ⟨double, single, narrows⟩ := exists_narrows decimal
  rw [readSingle?, nearest?_double narrows] at reads
  split at reads
  case isTrue =>
    rw [Option.bind_some, convert?_double narrows] at reads
    split at reads
    case isTrue =>
      have same := number_injective (Option.some.inj reads)
      exact ⟨double, same ▸ narrows⟩
    case isFalse => cases reads
  case isFalse => cases reads

theorem shortestSingle_cons (more : List Nat)
    (narrows : Narrows (significant digits num den).amount double single) :
    shortestSingle (binary32.number negative bits) negative num den (digits :: more) =
      if double < binary64.infinityBits then
        if single < binary32.infinityBits then
          if single = bits then .ok (some (binary64.number negative double))
          else shortestSingle (binary32.number negative bits) negative num den more
        else .error .overflow
      else shortestSingle (binary32.number negative bits) negative num den more := by
  by_cases doubleFinite : double < binary64.infinityBits
  · by_cases finite : single < binary32.infinityBits
    · simp only [shortestSingle, nearest?_double narrows, doubleFinite, convert?_double narrows,
        finite, sameNumber_number, ↓reduceIte]
    · simp only [shortestSingle, nearest?_double narrows, doubleFinite, convert?_double narrows,
        finite, ↓reduceIte]
  · simp only [shortestSingle, nearest?_double narrows, doubleFinite, ↓reduceIte]

/-- The rounding to this many digits is the first to read back. -/
structure Finds (bits num den digits double : Nat) : Prop where
  narrows : Narrows (significant digits num den).amount double bits
  finite : double < binary64.infinityBits
  first : ∀ fewer other, 0 < fewer → fewer < digits →
    ¬Narrows (significant fewer num den).amount other bits

/-- Among roundings that stay in the range the search ends at the first that reads back. -/
theorem shortestSingle_range' (finite : bits < binary32.infinityBits) (negative : Bool)
    (count start : Nat) (nonempty : 0 < start)
    (failed : ∀ fewer other, 0 < fewer → fewer < start →
      ¬Narrows (significant fewer num den).amount other bits)
    (small : ∀ digits, start ≤ digits → digits < start + count →
      (significant digits num den).amount ≤ singleLimit)
    (reads : ∃ digits double, start ≤ digits ∧ digits < start + count ∧
      Narrows (significant digits num den).amount double bits) :
    ∃ digits double, start ≤ digits ∧ digits < start + count ∧
      Finds bits num den digits double ∧
      shortestSingle (binary32.number negative bits) negative num den (List.range' start count) =
        .ok (some (binary64.number negative double)) := by
  -- By the attempts left; what has failed before `start` grows by one attempt at each step.
  induction count generalizing start with
  | zero =>
    obtain ⟨digits, _, least, most, _⟩ := reads
    omega
  | succ count ih =>
    obtain ⟨double, single, narrows⟩ := exists_narrows (significant start num den)
    have ⟨doubleFinite, singleFinite⟩ := narrows.in_range (small start le_rfl (by omega))
    rw [List.range'_succ, shortestSingle_cons _ narrows, if_pos doubleFinite, if_pos singleFinite]
    by_cases same : single = bits
    · subst same
      exact ⟨start, double, le_rfl, by omega, ⟨narrows, doubleFinite, failed⟩, if_pos rfl⟩
    · have missed (other : Nat) : ¬Narrows (significant start num den).amount other bits :=
        fun reading => same (narrows.unique reading)
      have ⟨digits, found, least, most, spec⟩ := ih (start + 1) (by omega)
        (fun fewer other positive less => by
          by_cases last : fewer = start
          · exact last ▸ missed other
          · exact failed fewer other positive (by omega))
        (fun digits least most => small digits (by omega) (by omega))
        (by
          obtain ⟨digits, other, least, most, reading⟩ := reads
          have later : digits ≠ start := fun last => missed other (last ▸ reading)
          exact ⟨digits, other, by omega, by omega, reading⟩)
      rw [if_neg same]
      exact ⟨digits, found, by omega, by omega, spec⟩

/-- The quotient is the magnitude of a 32-bit number. -/
structure Represents (num den bits : Nat) : Prop where
  positive : 0 < den
  exact : (num / den : ℚ) = binary32.amount bits

namespace Represents

variable (represents : Represents num den bits)

include represents

theorem num_pos (positive : 0 < bits) : 0 < num := by
  refine Nat.pos_of_ne_zero fun zero => ?_
  have size : 0 < binary32.amount bits := amount_pos positive
  rw [← represents.exact, zero, Nat.cast_zero, zero_div] at size
  exact lt_irrefl _ size

theorem isRounding (positive : 0 < bits) (digits : Nat) :
    IsRounding digits (binary32.amount bits) (significant digits num den) := by
  rw [← represents.exact]
  exact isRounding_significant (represents.num_pos positive) represents.positive

theorem amount_of_zero (zero : bits = 0) (digits : Nat) :
    (significant digits num den).amount = 0 := by
  have exact := represents.exact
  rw [zero, amount_zero, div_eq_zero_iff] at exact
  have nonzero : (den : ℚ) ≠ 0 := by exact_mod_cast represents.positive.ne'
  have nothing : num = 0 := by exact_mod_cast exact.resolve_right nonzero
  rw [significant, if_pos nothing, Decimal.amount]
  simp

theorem le_singleLimit (order : binary32.amount bits ≤ singleLimit) (nonempty : 0 < digits)
    (few : digits ≤ 9) : (significant digits num den).amount ≤ singleLimit := by
  by_cases zero : bits = 0
  · rw [represents.amount_of_zero zero]
    norm_num [singleLimit]
  · have positive := Nat.pos_of_ne_zero zero
    exact (represents.isRounding positive digits).le_singleLimit nonempty few
      (amount_pos positive) order

theorem narrows_nine : ∃ double, Narrows (significant 9 num den).amount double bits := by
  by_cases zero : bits = 0
  · rw [represents.amount_of_zero zero, zero]
    exact ⟨0, narrows_zero⟩
  · have positive := Nat.pos_of_ne_zero zero
    obtain ⟨double, single, narrows⟩ := exists_narrows (significant 9 num den)
    exact ⟨double, (represents.isRounding positive 9).narrows positive narrows.nearest⟩

theorem finds (finite : bits < binary32.infinityBits)
    (order : binary32.amount bits ≤ singleLimit) (negative : Bool) :
    ∃ digits double, 0 < digits ∧ digits ≤ 9 ∧ Finds bits num den digits double ∧
      shortestSingle (binary32.number negative bits) negative num den [1, 2, 3, 4, 5, 6, 7, 8, 9] =
        .ok (some (binary64.number negative double)) := by
  obtain ⟨double, narrows⟩ := represents.narrows_nine
  have ⟨digits, double, least, most, spec⟩ := shortestSingle_range' finite negative 9 1 Nat.one_pos
    (fun fewer other positive less => by omega)
    (fun digits least most => represents.le_singleLimit order least (by omega))
    ⟨9, double, by decide, by decide, narrows⟩
  exact ⟨digits, double, least, by omega, spec⟩

/-- The decimal printed for the double that was found reads as the double again, and has as many
significant digits as the rounding at most. -/
theorem shortest_of_finds {double : Nat} (finds : Finds bits num den digits double)
    (nonempty : 0 < digits) (few : digits ≤ 9) {quotient : Nat × Nat}
    (positive : 0 < quotient.2) (same : ratio quotient = binary64.amount double) :
    binary64.Nearest (shortest quotient.1 quotient.2).amount double ∧
      HasDigits digits (shortest quotient.1 quotient.2).amount := by
  have nearest := finds.narrows.nearest
  by_cases zero : bits = 0
  · rw [represents.amount_of_zero zero] at nearest
    have none := nearest.unique narrows_zero.nearest
    rw [none, amount_zero, ratio, div_eq_zero_iff] at same
    have nonzero : (quotient.2 : ℚ) ≠ 0 := by exact_mod_cast positive.ne'
    have nothing : quotient.1 = 0 := by exact_mod_cast same.resolve_right nonzero
    have empty : (shortest quotient.1 quotient.2).amount = 0 := by
      rw [shortest, if_pos nothing, Decimal.amount]
      simp
    rw [empty, none]
    exact ⟨narrows_zero.nearest, 0, Nat.pow_pos (by decide), 0, by simp⟩
  · have rounding := represents.isRounding (Nat.pos_of_ne_zero zero) digits
    have bitsPositive := Nat.pos_of_ne_zero zero
    have size : 0 < binary64.amount double :=
      amount_pos (rounding.double_pos bitsPositive nonempty nearest)
    have numPositive : 0 < quotient.1 := by
      refine Nat.pos_of_ne_zero fun nothing => ?_
      rw [← same, ratio, nothing, Nat.cast_zero, zero_div] at size
      exact lt_irrefl _ size
    exact shortest_spec nonempty (by omega) numPositive positive same.symm
      (rounding.hasDigits nonempty) nearest (rounding.normal bitsPositive nonempty)

/-- A constant beyond the limit is passed over up to three digits. -/
theorem shortestSingle_skip (beyond : singleLimit < binary32.amount bits)
    (finite : bits < binary32.infinityBits) (negative : Bool) (nonempty : 0 < digits)
    (few : digits ≤ 3) (more : List Nat) :
    shortestSingle (binary32.number negative bits) negative num den (digits :: more) =
      shortestSingle (binary32.number negative bits) negative num den more := by
  have past := lt_of_beyond beyond
  obtain ⟨double, single, narrows⟩ := exists_narrows (significant digits num den)
  have low := (represents.isRounding (by omega) digits).le_of_beyond nonempty few beyond
    (amount_lt finite)
  have ⟨doubleFinite, singleFinite⟩ := narrows.in_range (low.trans (by norm_num [singleLimit]))
  have below := (narrows.mono low narrows_three_digits).2
  rw [shortestSingle_cons more narrows, if_pos doubleFinite, if_pos singleFinite,
    if_neg (by omega)]

/-- Its rounding to four digits is beyond the range of the format. -/
theorem shortestSingle_overflow (beyond : singleLimit < binary32.amount bits)
    (finite : bits < binary32.infinityBits) (negative : Bool) :
    shortestSingle (binary32.number negative bits) negative num den [1, 2, 3, 4, 5, 6, 7, 8, 9] =
      .error .overflow := by
  have past := lt_of_beyond beyond
  have rounded := (represents.isRounding (by omega) 4).eq_of_beyond beyond (amount_lt finite)
  have narrows := narrows_four_digits
  rw [← rounded] at narrows
  rw [represents.shortestSingle_skip beyond finite negative (by decide) (by decide),
    represents.shortestSingle_skip beyond finite negative (by decide) (by decide),
    represents.shortestSingle_skip beyond finite negative (by decide) (by decide),
    shortestSingle_cons _ narrows, if_pos (by decide), if_neg (by decide)]

end Represents

theorem represents_quotient (bits : Nat) :
    Represents (binary32.quotient bits).1 (binary32.quotient bits).2 bits :=
  ⟨BinaryFormat.quotient_pos binary32 bits, BinaryFormat.ratio_quotient binary32 bits⟩

theorem literalText_number (negative : Bool) (bits : Nat) :
    literalText (.float (binary32.number negative bits)) "F" =
      (shortestSingle (binary32.number negative bits) negative (binary32.quotient bits).1
        (binary32.quotient bits).2 [1, 2, 3, 4, 5, 6, 7, 8, 9]).map fun found =>
          (found.map FloatValue.text).getD (plain (.float (binary32.number negative bits))) ++
            ("f" : Text) :=
  rfl

/-- A constant up to the limit is printed as the double that the search finds. -/
theorem exists_literalText (finite : bits < binary32.infinityBits)
    (order : binary32.amount bits ≤ singleLimit) (negative : Bool) :
    ∃ digits double, 0 < digits ∧ digits ≤ 9 ∧
      Finds bits (binary32.quotient bits).1 (binary32.quotient bits).2 digits double ∧
      literalText (.float (binary32.number negative bits)) "F" =
        .ok ((binary64.number negative double).text ++ ("f" : Text)) := by
  have ⟨digits, double, nonempty, few, finds, found⟩ :=
    (represents_quotient bits).finds finite order negative
  refine ⟨digits, double, nonempty, few, finds, ?_⟩
  rw [literalText_number, found]
  rfl

/-- What is printed for a double is a numeral of the shortest decimal that reads as the double. -/
theorem read?_text (negative : Bool) (double : Nat) :
    ∃ decimal, Numeral.read? (binary64.number negative double).text = some (negative, decimal) ∧
      decimal.amount =
        (shortest (binary64.quotient double).1 (binary64.quotient double).2).amount :=
  Numeral.read?_layout negative _

/-- The rounding that was found is the shortest one: fewer digits than are printed do not read
back. -/
theorem Finds.shortest {found : Nat} (finds : Finds bits num den found double)
    (represents : Represents num den bits) (nonempty : 0 < digits) (fewer : digits < found)
    {rounding : Decimal} (rounds : IsRounding digits (binary32.amount bits) rounding) :
    readSingle? negative rounding ≠ some (binary32.number negative bits) := by
  intro reads
  obtain ⟨other, narrows⟩ := narrows_of_readSingle? reads
  by_cases zero : bits = 0
  · have reading := finds.first digits 0 nonempty fewer
    rw [represents.amount_of_zero zero, zero] at reading
    exact reading narrows_zero
  · have same := rounds.unique (represents.isRounding (Nat.pos_of_ne_zero zero) digits)
    exact finds.first digits other nonempty fewer (same ▸ narrows)

theorem literalText_eq_overflow_iff (finite : bits < binary32.infinityBits) (negative : Bool) :
    literalText (.float (binary32.number negative bits)) "F" = .error .overflow ↔
      singleLimit < binary32.amount bits := by
  constructor
  · intro failed
    by_contra order
    obtain ⟨_, _, _, _, _, text⟩ := exists_literalText finite (not_lt.mp order) negative
    rw [text] at failed
    cases failed
  · intro beyond
    rw [literalText_number, (represents_quotient bits).shortestSingle_overflow beyond finite]
    rfl

theorem exists_numeral (finite : bits < binary32.infinityBits)
    (order : binary32.amount bits ≤ singleLimit) (negative : Bool) :
    ∃ (numeral : Text) (decimal : Decimal),
      literalText (.float (binary32.number negative bits)) "F" = .ok (numeral ++ "f") ∧
      Numeral.read? numeral = some (negative, decimal) ∧
      readSingle? negative decimal = some (binary32.number negative bits) ∧
      ∀ digits rounding, 0 < digits → ¬HasDigits digits decimal.amount →
        IsRounding digits (binary32.amount bits) rounding →
        readSingle? negative rounding ≠ some (binary32.number negative bits) := by
  have represents := represents_quotient bits
  obtain ⟨found, double, nonempty, few, finds, text⟩ := exists_literalText finite order negative
  obtain ⟨decimal, read, same⟩ := read?_text negative double
  have ⟨nearest, has⟩ := represents.shortest_of_finds finds nonempty few
    (BinaryFormat.quotient_pos binary64 double) (BinaryFormat.ratio_quotient binary64 double)
  rw [← same] at nearest has
  have narrows : Narrows decimal.amount double bits := ⟨nearest, finds.narrows.narrowed⟩
  refine ⟨_, decimal, text, read, readSingle?_eq narrows finds.finite finite, ?_⟩
  intro digits rounding positive more rounds
  have fewer : digits < found := by
    by_contra enough
    exact more (has.mono (not_lt.mp enough))
  exact finds.shortest represents positive fewer rounds

/-- A constant is printed unless it is beyond the limit. The decimal printed before the suffix reads
back as the constant, and no correct rounding of the constant to fewer significant digits does. -/
theorem literalText_single {significand : Nat} {exponent : Int}
    (finite : binary32.decode bits = .finite negative significand exponent) :
    (literalText (.float (.finite negative significand exponent)) "F" = .error .overflow ↔
      singleLimit < significand * (2 : ℚ) ^ exponent) ∧
    (significand * (2 : ℚ) ^ exponent ≤ singleLimit → ∃ (numeral : Text) (decimal : Decimal),
      literalText (.float (.finite negative significand exponent)) "F" = .ok (numeral ++ "f") ∧
      Numeral.read? numeral = some (negative, decimal) ∧
      readSingle? negative decimal = some (.finite negative significand exponent) ∧
      ∀ digits rounding, 0 < digits → ¬HasDigits digits decimal.amount →
        IsRounding digits (significand * (2 : ℚ) ^ exponent) rounding →
        readSingle? negative rounding ≠ some (.finite negative significand exponent)) := by
  obtain ⟨rest, inRange, form⟩ := exists_number finite
  have magnitude : significand * (2 : ℚ) ^ exponent = binary32.amount rest := by
    injection form with _ significands exponents
    rw [significands, exponents, BinaryFormat.amount]
  rw [form, magnitude]
  exact ⟨literalText_eq_overflow_iff inRange negative,
    fun order => exists_numeral inRange order negative⟩

/-- A tenth is not a number of the format, but the one nearest to it is printed as a tenth. -/
theorem literalText_single_tenth :
    binary32.decode 0x3DCCCCCD = .finite false 0xCCCCCD (-27) ∧
    literalText (.float (.finite false 0xCCCCCD (-27))) "F" = .ok "0.1f" ∧
    literalText (.float (.finite false 0xCCCCCD (-27))) "F" ≠ .error .overflow ∧
    ∃ (numeral : Text) (decimal : Decimal),
      literalText (.float (.finite false 0xCCCCCD (-27))) "F" = .ok (numeral ++ "f") ∧
      Numeral.read? numeral = some (false, decimal) ∧
      readSingle? false decimal = some (.finite false 0xCCCCCD (-27)) := by
  have decoded : binary32.decode 0x3DCCCCCD = .finite false 0xCCCCCD (-27) := by decide +kernel
  have order : ((0xCCCCCD : Nat) : ℚ) * 2 ^ (-27 : Int) ≤ singleLimit := by
    norm_num [singleLimit]
  obtain ⟨overflow, printed⟩ := literalText_single decoded
  obtain ⟨numeral, decimal, text, read, reading, _⟩ := printed order
  exact ⟨decoded, by decide +kernel, fun failed => not_lt.mpr order (overflow.mp failed), numeral,
    decimal, text, read, reading⟩

/-- The greatest number of the format has no text. -/
theorem not_forall_exists_literalText :
    ¬∀ (bits significand : Nat) (negative : Bool) (exponent : Int),
      binary32.decode bits = .finite negative significand exponent →
        ∃ text, literalText (.float (.finite negative significand exponent)) "F" = .ok text := by
  intro writable
  have overflow : literalText (.float (.finite false 0xFFFFFF 104)) "F" = .error .overflow := by
    decide +kernel
  obtain ⟨text, printed⟩ := writable 0x7F7FFFFF 0xFFFFFF false 104 (by decide +kernel)
  rw [overflow] at printed
  cases printed

end ClassOutline.LiteralText
