import ClassOutline.Proofs.Text.ModifiedUtf8

set_option autoImplicit false

namespace ClassOutline.ModifiedUtf8

/-- A well-formed sequence with its character. No sequence is longer than the character needs, but
for the one of two bytes that stands for NUL. -/
inductive Sequence : List UInt8 → CodePoint → Prop
  | single {byte : UInt8} (upper : byte.toNat < 0x80) : Sequence [byte] byte.toNat
  | null : Sequence [0xC0, 0x80] 0
  | pair {point : Nat} (lower : 0x80 ≤ point) (upper : point < 0x800) :
      Sequence (pairBytes point) point
  | triple {point : Nat} (lower : 0x800 ≤ point) (upper : point < 0x10000) :
      Sequence (tripleBytes point) point
  | quadruple {point : Nat} (lower : 0x10000 ≤ point) (upper : point < 0x110000) :
      Sequence (quadrupleBytes point) point

/-- Well-formed sequences one behind another. -/
inductive Sequences : List UInt8 → Text → Prop
  | nil : Sequences [] []
  | cons {bytes rest : List UInt8} {point : CodePoint} {text : Text}
      (first : Sequence bytes point) (later : Sequences rest text) :
      Sequences (bytes ++ rest) (point :: text)

section

variable {first second third fourth : UInt8} {point : Nat}

theorem eq_ofNat {byte : UInt8} {number : Nat} (value : byte.toNat = number) :
    byte = UInt8.ofNat number := by
  rw [← value, UInt8.ofNat_toNat]

theorem bounds_of_isContinuation {byte : UInt8} (continuation : isContinuation byte = true) :
    0x80 ≤ byte.toNat ∧ byte.toNat < 0xC0 := by
  simpa only [isContinuation, Bool.and_eq_true, decide_eq_true_eq] using continuation

theorem sequence_of_pair? (found : pair? first second = some point) :
    Sequence [first, second] point := by
  unfold pair? at found
  split at found
  · rename_i isNull
    have lead : first = 0xC0 := UInt8.toNat_inj.mp isNull.1
    have low : second = 0x80 := UInt8.toNat_inj.mp isNull.2
    rw [lead, low, ← Option.some.inj found]
    exact .null
  · split at found
    · rename_i range
      obtain ⟨lower, upper, continuation⟩ := range
      obtain ⟨lowest, highest⟩ := bounds_of_isContinuation continuation
      have value : (first.toNat - 0xC0) * 0x40 + (second.toNat - 0x80) = point :=
        Option.some.inj found
      have lead : first = UInt8.ofNat (0xC0 + point / 0x40) := eq_ofNat (by omega)
      have low : second = UInt8.ofNat (0x80 + point % 0x40) := eq_ofNat (by omega)
      rw [lead, low]
      exact .pair (by omega) (by omega)
    · cases found

theorem sequence_of_triple? (found : triple? first second third = some point) :
    Sequence [first, second, third] point := by
  unfold triple? at found
  simp only at found
  split at found
  · rename_i range
    obtain ⟨lower, upper, continuation, last, shortest⟩ := range
    obtain ⟨lowest, highest⟩ := bounds_of_isContinuation continuation
    obtain ⟨lowestLast, highestLast⟩ := bounds_of_isContinuation last
    have value : (first.toNat - 0xE0) * 0x1000 + (second.toNat - 0x80) * 0x40 +
        (third.toNat - 0x80) = point := Option.some.inj found
    have lead : first = UInt8.ofNat (0xE0 + point / 0x1000) := eq_ofNat (by omega)
    have middle : second = UInt8.ofNat (0x80 + point / 0x40 % 0x40) := eq_ofNat (by omega)
    have low : third = UInt8.ofNat (0x80 + point % 0x40) := eq_ofNat (by omega)
    rw [lead, middle, low]
    exact .triple (by omega) (by omega)
  · cases found

theorem sequence_of_quadruple? (found : quadruple? first second third fourth = some point) :
    Sequence [first, second, third, fourth] point := by
  unfold quadruple? at found
  simp only at found
  split at found
  · rename_i range
    obtain ⟨lower, upper, continuation, next, last, shortest, valid⟩ := range
    obtain ⟨lowest, highest⟩ := bounds_of_isContinuation continuation
    obtain ⟨lowestNext, highestNext⟩ := bounds_of_isContinuation next
    obtain ⟨lowestLast, highestLast⟩ := bounds_of_isContinuation last
    have value : (first.toNat - 0xF0) * 0x40000 + (second.toNat - 0x80) * 0x1000 +
        (third.toNat - 0x80) * 0x40 + (fourth.toNat - 0x80) = point := Option.some.inj found
    have lead : first = UInt8.ofNat (0xF0 + point / 0x40000) := eq_ofNat (by omega)
    have high : second = UInt8.ofNat (0x80 + point / 0x1000 % 0x40) := eq_ofNat (by omega)
    have middle : third = UInt8.ofNat (0x80 + point / 0x40 % 0x40) := eq_ofNat (by omega)
    have low : fourth = UInt8.ofNat (0x80 + point % 0x40) := eq_ofNat (by omega)
    rw [lead, high, middle, low]
    exact .quadruple (by omega) (by omega)
  · cases found

end

variable {bytes : List UInt8} {point : Nat} {text : Text}

/-- A well-formed sequence is read as its character, whatever stands behind it. -/
theorem Sequence.points?_append (sequence : Sequence bytes point) (rest : List UInt8) :
    points? (bytes ++ rest) = (points? rest).map (point :: ·) := by
  cases sequence with
  | single upper => exact points?_single upper
  | null => exact points?_pair (by decide) rfl
  | pair lower upper => exact points?_pairBytes lower upper rest
  | triple lower upper => exact points?_tripleBytes lower upper rest
  | quadruple lower upper => exact points?_quadrupleBytes lower upper rest

theorem sequence_pointBytes (valid : point < 0x110000) : Sequence (pointBytes point) point := by
  unfold pointBytes
  split
  · rename_i upper
    have value : (UInt8.ofNat point).toNat = point :=
      UInt8.toNat_ofNat_of_lt (by rw [UInt8.size]; omega)
    have single := @Sequence.single (UInt8.ofNat point) (by omega)
    rwa [value] at single
  split
  · exact .pair (by omega) (by omega)
  split
  · exact .triple (by omega) (by omega)
  · exact .quadruple (by omega) valid

/-- A sequence is the UTF-8 of its character, or the one for NUL. -/
theorem Sequence.eq_pointBytes (sequence : Sequence bytes point) :
    bytes = pointBytes point ∨ bytes = [0xC0, 0x80] ∧ point = 0 := by
  cases sequence with
  | single upper =>
    left
    rw [pointBytes, if_pos upper, UInt8.ofNat_toNat]
  | null => exact Or.inr ⟨rfl, rfl⟩
  | pair lower upper =>
    left
    rw [pointBytes, if_neg (by omega), if_pos upper]
  | triple lower upper =>
    left
    rw [pointBytes, if_neg (by omega), if_neg (by omega), if_pos upper]
  | quadruple lower upper =>
    left
    rw [pointBytes, if_neg (by omega), if_neg (by omega), if_neg (by omega)]

theorem Sequence.point_lt (sequence : Sequence bytes point) : point < 0x110000 := by
  cases sequence <;> omega

theorem Sequences.point_lt (sequences : Sequences bytes text) :
    ∀ point ∈ text, point < 0x110000 := by
  induction sequences with
  | nil => exact nofun
  | cons first later ih => exact List.forall_mem_cons.mpr ⟨first.point_lt, ih⟩

theorem sequences_of_points? (found : points? bytes = some text) : Sequences bytes text := by
  fun_induction points? bytes generalizing text with
  | case1 =>
    cases found
    exact .nil
  | case2 first rest ascii ih =>
    obtain ⟨later, read, rfl⟩ := Option.map_eq_some_iff.mp found
    exact .cons (.single ascii) (ih read)
  | case4 first large second rest point pair ih =>
    obtain ⟨later, read, rfl⟩ := Option.map_eq_some_iff.mp found
    exact .cons (sequence_of_pair? pair) (ih read)
  | case6 first large second longer third rest point triple ih =>
    obtain ⟨later, read, rfl⟩ := Option.map_eq_some_iff.mp found
    exact .cons (sequence_of_triple? triple) (ih read)
  | case8 first large second longer third again fourth rest point quadruple ih =>
    obtain ⟨later, read, rfl⟩ := Option.map_eq_some_iff.mp found
    exact .cons (sequence_of_quadruple? quadruple) (ih read)
  -- The bytes end within a sequence, or four of them are none.
  | case3 | case5 | case7 | case9 => cases found

theorem points?_eq_some_iff : points? bytes = some text ↔ Sequences bytes text := by
  constructor
  · exact sequences_of_points?
  · intro sequences
    induction sequences with
    | nil => rfl
    | cons first later ih => rw [first.points?_append, ih, Option.map_some]

/-- A text is read exactly from well-formed sequences, and is that of their characters with the
surrogates joined. -/
theorem decode?_eq_some_iff :
    decode? bytes = some text ↔ ∃ points, Sequences bytes points ∧ text = joinPairs points := by
  rw [decode?, Option.map_eq_some_iff]
  exact exists_congr fun points => and_congr points?_eq_some_iff eq_comm

end ClassOutline.ModifiedUtf8
