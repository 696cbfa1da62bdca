import ClassOutline.Text.ModifiedUtf8

set_option autoImplicit false

namespace ClassOutline.ModifiedUtf8

def pairBytes (point : Nat) : List UInt8 :=
  [UInt8.ofNat (0xC0 + point / 0x40), UInt8.ofNat (0x80 + point % 0x40)]

def tripleBytes (point : Nat) : List UInt8 :=
  [UInt8.ofNat (0xE0 + point / 0x1000), UInt8.ofNat (0x80 + point / 0x40 % 0x40),
    UInt8.ofNat (0x80 + point % 0x40)]

def quadrupleBytes (point : Nat) : List UInt8 :=
  [UInt8.ofNat (0xF0 + point / 0x40000), UInt8.ofNat (0x80 + point / 0x1000 % 0x40),
    UInt8.ofNat (0x80 + point / 0x40 % 0x40), UInt8.ofNat (0x80 + point % 0x40)]

/-- A character in UTF-8. -/
def pointBytes (point : Nat) : List UInt8 :=
  if point < 0x80 then [UInt8.ofNat point]
  else if point < 0x800 then pairBytes point
  else if point < 0x10000 then tripleBytes point
  else quadrupleBytes point

/-- A UTF-16 code unit, surrogate halves and all, in the spelling of class files. -/
def unitBytes (unit : Nat) : List UInt8 :=
  if unit = 0 then [0xC0, 0x80]
  else if unit < 0x80 then [UInt8.ofNat unit]
  else if unit < 0x800 then pairBytes unit
  else tripleBytes unit

def highHalf (point : Nat) : Nat :=
  0xD800 + (point - 0x10000) / 0x400

def lowHalf (point : Nat) : Nat :=
  0xDC00 + (point - 0x10000) % 0x400

/-- The UTF-16 code units of a text. -/
def units : Text → List Nat
  | [] => []
  | point :: rest =>
    if point < 0x10000 then point :: units rest
    else highHalf point :: lowHalf point :: units rest

inductive Spelling
  | utf8
  | utf16
deriving DecidableEq, Repr

def encode (text : Text) : Spelling → List UInt8
  | .utf8 => text.flatMap pointBytes
  | .utf16 => (units text).flatMap unitBytes

/-- No high surrogate stands right in front of a low one. -/
def PairFree : Text → Prop
  | high :: low :: rest =>
    ¬ (Text.isHighSurrogate high = true ∧ Text.isLowSurrogate low = true) ∧ PairFree (low :: rest)
  | _ => True

instance instDecidablePairFree : (text : Text) → Decidable (PairFree text)
  | [] | [_] => isTrue trivial
  | _ :: low :: rest =>
    have := instDecidablePairFree (low :: rest)
    inferInstanceAs (Decidable (_ ∧ _))

section

variable {first second third fourth : UInt8} {rest : List UInt8} {point : CodePoint}

theorem points?_single (ascii : first.toNat < 0x80) :
    points? (first :: rest) = (points? rest).map (first.toNat :: ·) := by
  rw [points?.eq_def]
  simp only [ascii, ↓reduceIte]

theorem points?_pair (large : ¬ first.toNat < 0x80) (found : pair? first second = some point) :
    points? (first :: second :: rest) = (points? rest).map (point :: ·) := by
  rw [points?.eq_def]
  simp only [large, ↓reduceIte, found]

theorem points?_triple (large : ¬ first.toNat < 0x80) (longer : pair? first second = none)
    (found : triple? first second third = some point) :
    points? (first :: second :: third :: rest) = (points? rest).map (point :: ·) := by
  rw [points?.eq_def]
  simp only [large, ↓reduceIte, longer, found]

theorem points?_quadruple (large : ¬ first.toNat < 0x80) (longer : pair? first second = none)
    (again : triple? first second third = none)
    (found : quadruple? first second third fourth = some point) :
    points? (first :: second :: third :: fourth :: rest) =
      (points? rest).map (point :: ·) := by
  rw [points?.eq_def]
  simp only [large, ↓reduceIte, longer, again, found]

end

theorem isContinuation_ofNat (low : Nat) (small : low < 0x40) :
    isContinuation (UInt8.ofNat (0x80 + low)) = true ∧
      (UInt8.ofNat (0x80 + low)).toNat = 0x80 + low := by
  have value : (UInt8.ofNat (0x80 + low)).toNat = 0x80 + low :=
    UInt8.toNat_ofNat_of_lt (by rw [UInt8.size]; omega)
  refine ⟨?_, value⟩
  rw [isContinuation, value]
  simp only [Bool.and_eq_true, decide_eq_true_eq]
  omega

/-- The first byte of a sequence that goes on. -/
theorem toNat_lead {mark high : Nat} (fits : mark + high < 0x100) :
    (UInt8.ofNat (mark + high)).toNat = mark + high :=
  UInt8.toNat_ofNat_of_lt fits

theorem points?_pairBytes {point : Nat} (lower : 0x80 ≤ point) (upper : point < 0x800)
    (rest : List UInt8) :
    points? (pairBytes point ++ rest) = (points? rest).map (point :: ·) := by
  have value : (0xC0 + point / 0x40 - 0xC0) * 0x40 + (0x80 + point % 0x40 - 0x80) = point := by
    omega
  have lead : (UInt8.ofNat (0xC0 + point / 0x40)).toNat = 0xC0 + point / 0x40 :=
    toNat_lead (by omega)
  obtain ⟨tail, low⟩ := isContinuation_ofNat (point % 0x40) (by omega)
  apply points?_pair
  · omega
  · rw [pair?, if_neg (by omega), if_pos ⟨by omega, by omega, tail⟩, lead, low]
    exact congrArg some value

theorem pair?_eq_none {first : UInt8} (large : 0xE0 ≤ first.toNat) (second : UInt8) :
    pair? first second = none := by
  rw [pair?, if_neg (by omega), if_neg (by omega)]

theorem points?_tripleBytes {point : Nat} (lower : 0x800 ≤ point) (upper : point < 0x10000)
    (rest : List UInt8) :
    points? (tripleBytes point ++ rest) = (points? rest).map (point :: ·) := by
  have value : (0xE0 + point / 0x1000 - 0xE0) * 0x1000 +
      (0x80 + point / 0x40 % 0x40 - 0x80) * 0x40 + (0x80 + point % 0x40 - 0x80) = point := by
    omega
  have lead : (UInt8.ofNat (0xE0 + point / 0x1000)).toNat = 0xE0 + point / 0x1000 :=
    toNat_lead (by omega)
  obtain ⟨second, middle⟩ := isContinuation_ofNat (point / 0x40 % 0x40) (by omega)
  obtain ⟨third, low⟩ := isContinuation_ofNat (point % 0x40) (by omega)
  apply points?_triple
  · omega
  · exact pair?_eq_none (by omega) _
  · rw [triple?, lead, middle, low, if_pos ⟨by omega, by omega, second, third, by omega⟩]
    exact congrArg some value

theorem points?_quadrupleBytes {point : Nat} (lower : 0x10000 ≤ point)
    (upper : point < 0x110000) (rest : List UInt8) :
    points? (quadrupleBytes point ++ rest) = (points? rest).map (point :: ·) := by
  have value : (0xF0 + point / 0x40000 - 0xF0) * 0x40000 +
      (0x80 + point / 0x1000 % 0x40 - 0x80) * 0x1000 +
        (0x80 + point / 0x40 % 0x40 - 0x80) * 0x40 + (0x80 + point % 0x40 - 0x80) = point := by
    omega
  have lead : (UInt8.ofNat (0xF0 + point / 0x40000)).toNat = 0xF0 + point / 0x40000 :=
    toNat_lead (by omega)
  obtain ⟨second, high⟩ := isContinuation_ofNat (point / 0x1000 % 0x40) (by omega)
  obtain ⟨third, middle⟩ := isContinuation_ofNat (point / 0x40 % 0x40) (by omega)
  obtain ⟨fourth, low⟩ := isContinuation_ofNat (point % 0x40) (by omega)
  apply points?_quadruple
  · omega
  · exact pair?_eq_none (by omega) _
  · rw [triple?, if_neg (by omega)]
  · rw [quadruple?, lead, high, middle, low,
      if_pos ⟨by omega, by omega, second, third, fourth, by omega, by omega⟩]
    exact congrArg some value

theorem points?_pointBytes {point : Nat} (valid : point < 0x110000) (rest : List UInt8) :
    points? (pointBytes point ++ rest) = (points? rest).map (point :: ·) := by
  unfold pointBytes
  split
  · have value : (UInt8.ofNat point).toNat = point :=
      UInt8.toNat_ofNat_of_lt (by rw [UInt8.size]; omega)
    rw [List.singleton_append, points?_single (by omega), value]
  split
  · exact points?_pairBytes (by omega) (by omega) rest
  split
  · exact points?_tripleBytes (by omega) (by omega) rest
  · exact points?_quadrupleBytes (by omega) valid rest

theorem points?_unitBytes {unit : Nat} (valid : unit < 0x10000) (rest : List UInt8) :
    points? (unitBytes unit ++ rest) = (points? rest).map (unit :: ·) := by
  unfold unitBytes
  split
  · rename_i null
    subst null
    exact points?_pair (by decide) rfl
  split
  · have value : (UInt8.ofNat unit).toNat = unit :=
      UInt8.toNat_ofNat_of_lt (by rw [UInt8.size]; omega)
    rw [List.singleton_append, points?_single (by omega), value]
  split
  · exact points?_pairBytes (by omega) (by omega) rest
  · exact points?_tripleBytes (by omega) valid rest

/-- Characters that are read back one by one are read back together. -/
theorem points?_flatMap {bytes : Nat → List UInt8} {text : Text}
    (each : ∀ point ∈ text, ∀ rest, points? (bytes point ++ rest) =
      (points? rest).map (point :: ·)) : points? (text.flatMap bytes) = some text := by
  induction text with
  | nil => rfl
  | cons point rest ih =>
    rw [List.flatMap_cons, each point List.mem_cons_self,
      ih fun other later => each other (List.mem_cons_of_mem _ later)]
    rfl

theorem joinPairs_cons {high : CodePoint} {rest : Text}
    (apart : ∀ low ∈ rest.head?,
      ¬ (Text.isHighSurrogate high = true ∧ Text.isLowSurrogate low = true)) :
    joinPairs (high :: rest) = high :: joinPairs rest := by
  cases rest with
  | nil => rfl
  | cons low rest =>
    have single := apart low rfl
    rw [joinPairs, if_neg (fun pair => single (Bool.and_eq_true_iff.mp pair))]

theorem PairFree.head {high : CodePoint} {rest : Text} (free : PairFree (high :: rest)) :
    ∀ low ∈ rest.head?, ¬ (Text.isHighSurrogate high = true ∧ Text.isLowSurrogate low = true) := by
  cases rest with
  | nil =>
    intro low absent
    cases absent
  | cons next rest =>
    intro low first
    cases first
    exact free.1

theorem PairFree.tail {high : CodePoint} {rest : Text} (free : PairFree (high :: rest)) :
    PairFree rest := by
  cases rest with
  | nil => trivial
  | cons next rest => exact free.2

theorem joinPairs_of_pairFree {text : Text} (free : PairFree text) : joinPairs text = text := by
  induction text with
  | nil => rfl
  | cons point rest ih => rw [joinPairs_cons free.head, ih free.tail]

theorem highHalf_lt {point : Nat} (valid : point < 0x110000) : highHalf point < 0xDC00 := by
  rw [highHalf]
  omega

theorem lowHalf_lt (point : Nat) : lowHalf point < 0xE000 := by
  rw [lowHalf]
  omega

theorem isHighSurrogate_highHalf {point : Nat} (valid : point < 0x110000) :
    Text.isHighSurrogate (highHalf point) = true := by
  simp only [Text.isHighSurrogate, Bool.and_eq_true, decide_eq_true_eq]
  exact ⟨Nat.le_add_right _ _, highHalf_lt valid⟩

theorem isLowSurrogate_lowHalf (point : Nat) : Text.isLowSurrogate (lowHalf point) = true := by
  simp only [Text.isLowSurrogate, Bool.and_eq_true, decide_eq_true_eq]
  exact ⟨Nat.le_add_right _ _, lowHalf_lt point⟩

theorem combine_halves {point : Nat} (large : ¬ point < 0x10000) :
    combine (highHalf point) (lowHalf point) = point := by
  have value : 0x10000 + (highHalf point - 0xD800) * 0x400 + (lowHalf point - 0xDC00) = point := by
    rw [highHalf, lowHalf]
    omega
  exact value

theorem isLowSurrogate_of_isHighSurrogate {unit : Nat}
    (high : Text.isHighSurrogate unit = true) : Text.isLowSurrogate unit = false := by
  simp only [Text.isHighSurrogate, Bool.and_eq_true, decide_eq_true_eq] at high
  simp only [Text.isLowSurrogate, Bool.and_eq_false_iff, decide_eq_false_iff_not]
  exact Or.inl (Nat.not_le.mpr high.2)

/-- The first code unit of a text is a low surrogate only if the first character is. -/
theorem head?_units {text : Text} (valid : ∀ point ∈ text, point < 0x110000) {unit : Nat}
    (first : unit ∈ (units text).head?) (low : Text.isLowSurrogate unit = true) :
    unit ∈ text.head? := by
  cases text with
  | nil => cases first
  | cons point rest =>
    unfold units at first
    split at first
    · exact first
    · cases first
      have high := isHighSurrogate_highHalf (valid point List.mem_cons_self)
      rw [isLowSurrogate_of_isHighSurrogate high] at low
      cases low

theorem units_lt {text : Text} (valid : ∀ point ∈ text, point < 0x110000) :
    ∀ unit ∈ units text, unit < 0x10000 := by
  induction text with
  | nil =>
    intro unit absent
    cases absent
  | cons point rest ih =>
    have limit := valid point List.mem_cons_self
    have others := ih fun other later => valid other (List.mem_cons_of_mem _ later)
    unfold units
    split
    · rename_i small
      exact List.forall_mem_cons.mpr ⟨small, others⟩
    · have high := Nat.lt_trans (highHalf_lt limit) (by decide : 0xDC00 < 0x10000)
      have low := Nat.lt_trans (lowHalf_lt point) (by decide : 0xE000 < 0x10000)
      exact List.forall_mem_cons.mpr ⟨high, List.forall_mem_cons.mpr ⟨low, others⟩⟩

theorem joinPairs_units {text : Text} (valid : ∀ point ∈ text, point < 0x110000)
    (free : PairFree text) : joinPairs (units text) = text := by
  induction text with
  | nil => rfl
  | cons point rest ih =>
    have limit := valid point List.mem_cons_self
    have behind : ∀ other ∈ rest, other < 0x110000 :=
      fun other later => valid other (List.mem_cons_of_mem _ later)
    have others := ih behind free.tail
    unfold units
    split
    · rw [joinPairs_cons, others]
      rintro low first ⟨high, surrogate⟩
      exact free.head low (head?_units behind first surrogate) ⟨high, surrogate⟩
    · rename_i large
      have pair := Bool.and_eq_true_iff.mpr
        ⟨isHighSurrogate_highHalf limit, isLowSurrogate_lowHalf point⟩
      rw [joinPairs, if_pos pair, others, combine_halves large]

/-- Both spellings of a text are read back. -/
theorem decode?_encode {text : Text} (valid : ∀ point ∈ text, point < 0x110000)
    (free : PairFree text) (spelling : Spelling) : decode? (encode text spelling) = some text := by
  cases spelling with
  | utf8 =>
    have found := points?_flatMap fun point present => points?_pointBytes (valid point present)
    rw [decode?, encode, found, Option.map_some, joinPairs_of_pairFree free]
  | utf16 =>
    have found := points?_flatMap fun unit present =>
      points?_unitBytes (units_lt valid unit present)
    rw [decode?, encode, found, Option.map_some, joinPairs_units valid free]

end ClassOutline.ModifiedUtf8
