import ClassOutline.Proofs.Text.Sequences

set_option autoImplicit false

/- Reading by way of code units. Joining surrogates keeps the UTF-16 code units of a text and leaves
no pair apart, so the result is the same when the bytes are first made plain UTF-8, read as such,
and then taken as code units. Whatever code units are written are those of the text that is read. -/

namespace ClassOutline.ModifiedUtf8

theorem units_of_lt {point : Nat} (small : point < 0x10000) (rest : Text) :
    units (point :: rest) = point :: units rest := by
  rw [units, if_pos small]

theorem units_eq_self {codeUnits : List Nat} (valid : ∀ unit ∈ codeUnits, unit < 0x10000) :
    units codeUnits = codeUnits := by
  induction codeUnits with
  | nil => rfl
  | cons unit rest ih =>
    obtain ⟨small, others⟩ := List.forall_mem_cons.mp valid
    rw [units_of_lt small, ih others]

section

variable {high low : Nat} (isHigh : Text.isHighSurrogate high = true)
  (isLow : Text.isLowSurrogate low = true)

include isHigh isLow

theorem halves_bounds : (0xD800 ≤ high ∧ high < 0xDC00) ∧ 0xDC00 ≤ low ∧ low < 0xE000 := by
  simpa only [Text.isHighSurrogate, Text.isLowSurrogate, Bool.and_eq_true, decide_eq_true_eq]
    using And.intro isHigh isLow

theorem combine_bounds : 0x10000 ≤ combine high low ∧ combine high low < 0x110000 := by
  obtain ⟨upper, lower⟩ := halves_bounds isHigh isLow
  have bounds : 0x10000 ≤ 0x10000 + (high - 0xD800) * 0x400 + (low - 0xDC00) ∧
      0x10000 + (high - 0xD800) * 0x400 + (low - 0xDC00) < 0x110000 := by
    omega
  exact bounds

theorem not_isHighSurrogate_combine : ¬ Text.isHighSurrogate (combine high low) = true := by
  have large := (combine_bounds isHigh isLow).1
  simp only [Text.isHighSurrogate, Bool.and_eq_true, decide_eq_true_eq, not_and, Nat.not_lt]
  exact fun _ => Nat.le_trans (by decide) large

theorem not_isLowSurrogate_combine : ¬ Text.isLowSurrogate (combine high low) = true := by
  have large := (combine_bounds isHigh isLow).1
  simp only [Text.isLowSurrogate, Bool.and_eq_true, decide_eq_true_eq, not_and, Nat.not_lt]
  exact fun _ => Nat.le_trans (by decide) large

/-- A character made of two surrogates has those two as its code units. -/
theorem units_combine (rest : Text) :
    units (combine high low :: rest) = high :: low :: units rest := by
  obtain ⟨upper, lower⟩ := halves_bounds isHigh isLow
  have large := Nat.not_lt.mpr (combine_bounds isHigh isLow).1
  have value : combine high low = 0x10000 + (high - 0xD800) * 0x400 + (low - 0xDC00) := rfl
  have first : highHalf (combine high low) = high := by
    rw [highHalf, value]
    omega
  have second : lowHalf (combine high low) = low := by
    rw [lowHalf, value]
    omega
  rw [units, if_neg large, first, second]

end

theorem units_joinPairs (text : Text) : units (joinPairs text) = units text := by
  fun_induction joinPairs text with
  | case1 high low rest pair ih =>
    obtain ⟨isHigh, isLow⟩ := Bool.and_eq_true_iff.mp pair
    obtain ⟨upper, lower⟩ := halves_bounds isHigh isLow
    rw [units_combine isHigh isLow, ih, units_of_lt (by omega), units_of_lt (by omega)]
  | case2 high low rest apart ih => rw [units, units, ih]
  | case3 => rfl

theorem joinPairs_lt {text : Text} (valid : ∀ point ∈ text, point < 0x110000) :
    ∀ point ∈ joinPairs text, point < 0x110000 := by
  fun_induction joinPairs text with
  | case1 high low rest pair ih =>
    obtain ⟨isHigh, isLow⟩ := Bool.and_eq_true_iff.mp pair
    have others : ∀ point ∈ rest, point < 0x110000 :=
      (List.forall_mem_cons.mp (List.forall_mem_cons.mp valid).2).2
    exact List.forall_mem_cons.mpr ⟨(combine_bounds isHigh isLow).2, ih others⟩
  | case2 high low rest apart ih =>
    obtain ⟨first, others⟩ := List.forall_mem_cons.mp valid
    exact List.forall_mem_cons.mpr ⟨first, ih others⟩
  | case3 => exact valid

/-- A joined text begins with a low surrogate only if the text does. -/
theorem head?_joinPairs {text : Text} {point : CodePoint} (first : point ∈ (joinPairs text).head?)
    (low : Text.isLowSurrogate point = true) : point ∈ text.head? := by
  match text with
  | [] | [_] => exact first
  | high :: half :: rest =>
    rw [joinPairs] at first
    split at first
    · rename_i pair
      obtain ⟨isHigh, isLow⟩ := Bool.and_eq_true_iff.mp pair
      have same : combine high half = point := Option.some.inj first
      rw [← same] at low
      exact absurd low (not_isLowSurrogate_combine isHigh isLow)
    · exact first

theorem pairFree_cons {high : CodePoint} {rest : Text}
    (apart : ∀ low ∈ rest.head?,
      ¬ (Text.isHighSurrogate high = true ∧ Text.isLowSurrogate low = true))
    (free : PairFree rest) : PairFree (high :: rest) := by
  cases rest with
  | nil => trivial
  | cons low rest => exact ⟨apart low rfl, free⟩

theorem pairFree_joinPairs (text : Text) : PairFree (joinPairs text) := by
  fun_induction joinPairs text with
  | case1 high low rest pair ih =>
    obtain ⟨isHigh, isLow⟩ := Bool.and_eq_true_iff.mp pair
    apply pairFree_cons _ ih
    exact fun next first both => not_isHighSurrogate_combine isHigh isLow both.1
  | case2 high low rest apart ih =>
    apply pairFree_cons _ ih
    rintro next first ⟨isHigh, isLow⟩
    cases head?_joinPairs first isLow
    exact apart (Bool.and_eq_true_iff.mpr ⟨isHigh, isLow⟩)
  | case3 short notPair =>
    match short with
    | [] | [_] => trivial
    | high :: low :: rest => exact (notPair high low rest rfl).elim

/-- Joining the code units of a text joins what is apart in it, and splits nothing. -/
theorem joinPairs_units_eq {text : Text} (valid : ∀ point ∈ text, point < 0x110000) :
    joinPairs (units text) = joinPairs text := by
  rw [← units_joinPairs, joinPairs_units (joinPairs_lt valid) (pairFree_joinPairs text)]

/-- Every `C0 80`, from left to right, as a zero byte. -/
def plainNulls : List UInt8 → List UInt8
  | first :: second :: rest =>
    if first = 0xC0 ∧ second = 0x80 then 0 :: plainNulls rest
    else first :: plainNulls (second :: rest)
  | short => short

/-- A text that is read from bytes in passes: each `C0 80` becomes a zero byte, the bytes are now
the UTF-8 of some characters, lone surrogates allowed, and their UTF-16 code units, in turn, are
read as UTF-16. -/
def ReadInPasses (bytes : List UInt8) (text : Text) : Prop :=
  ∃ points, (∀ point ∈ points, point < 0x110000) ∧ encode points .utf8 = plainNulls bytes ∧
    text = joinPairs (units points)

theorem plainNulls_cons {first : UInt8} (other : first ≠ 0xC0) (rest : List UInt8) :
    plainNulls (first :: rest) = first :: plainNulls rest := by
  cases rest with
  | nil => rfl
  | cons second rest => rw [plainNulls, if_neg fun null => other null.1]

theorem plainNulls_append {front : List UInt8} (absent : 0xC0 ∉ front) (rest : List UInt8) :
    plainNulls (front ++ rest) = front ++ plainNulls rest := by
  induction front with
  | nil => rfl
  | cons byte front ih =>
    have other : byte ≠ 0xC0 := (List.ne_of_not_mem_cons absent).symm
    rw [List.cons_append, plainNulls_cons other, ih (List.not_mem_of_not_mem_cons absent),
      List.cons_append]

theorem eq_nil_of_plainNulls {bytes : List UInt8} (empty : plainNulls bytes = []) : bytes = [] := by
  match bytes with
  | [] => rfl
  | [_] => cases empty
  | first :: second :: rest =>
    rw [plainNulls] at empty
    split at empty <;> cases empty

/-- What the first byte of the result comes from. -/
theorem plainNulls_eq_cons {bytes rest : List UInt8} {byte : UInt8}
    (same : plainNulls bytes = byte :: rest) :
    (∃ later, bytes = byte :: later ∧ plainNulls later = rest) ∨
      byte = 0 ∧ ∃ later, bytes = 0xC0 :: 0x80 :: later ∧ plainNulls later = rest := by
  match bytes with
  | [] => cases same
  | [only] =>
    cases same
    exact Or.inl ⟨[], rfl, rfl⟩
  | first :: second :: later =>
    rw [plainNulls] at same
    split at same
    · rename_i null
      obtain ⟨rfl, rfl⟩ := null
      cases same
      exact Or.inr ⟨rfl, later, rfl, rfl⟩
    · cases same
      exact Or.inl ⟨second :: later, rfl, rfl⟩

/-- Where no zero byte is, nothing was replaced. -/
theorem exists_of_plainNulls_eq_append {front back bytes : List UInt8} (absent : 0 ∉ front)
    (same : plainNulls bytes = front ++ back) :
    ∃ rest, bytes = front ++ rest ∧ plainNulls rest = back := by
  induction front generalizing bytes with
  | nil => exact ⟨bytes, rfl, same⟩
  | cons byte front ih =>
    rcases plainNulls_eq_cons same with ⟨later, rfl, others⟩ | ⟨zero, -⟩
    · obtain ⟨rest, rfl, behind⟩ := ih (List.not_mem_of_not_mem_cons absent) others
      exact ⟨rest, rfl, behind⟩
    · exact absurd zero.symm (List.ne_of_not_mem_cons absent)

/-- The bytes of a character in UTF-8 are neither `C0` nor, but for NUL, zero. -/
theorem byte_of_pointBytes {point : Nat} (valid : point < 0x110000) (nonzero : point ≠ 0) :
    ∀ byte ∈ pointBytes point, byte ≠ 0xC0 ∧ byte ≠ 0 := by
  have differs (number : Nat) (range : 0 < number ∧ number < 0x100 ∧ number ≠ 0xC0) :
      UInt8.ofNat number ≠ 0xC0 ∧ UInt8.ofNat number ≠ 0 := by
    have value : (UInt8.ofNat number).toNat = number := UInt8.toNat_ofNat_of_lt range.2.1
    constructor <;> intro same <;> rw [same] at value
    · exact range.2.2 value.symm
    · exact Nat.ne_of_gt range.1 value.symm
  unfold pointBytes
  split
  · exact List.forall_mem_singleton.mpr (differs _ (by omega))
  split
  · rw [pairBytes, List.forall_mem_cons, List.forall_mem_singleton]
    exact ⟨differs _ (by omega), differs _ (by omega)⟩
  split
  · rw [tripleBytes, List.forall_mem_cons, List.forall_mem_cons, List.forall_mem_singleton]
    exact ⟨differs _ (by omega), differs _ (by omega), differs _ (by omega)⟩
  · rw [quadrupleBytes, List.forall_mem_cons, List.forall_mem_cons, List.forall_mem_cons,
      List.forall_mem_singleton]
    exact ⟨differs _ (by omega), differs _ (by omega), differs _ (by omega), differs _ (by omega)⟩

theorem Sequence.plainNulls_append {bytes : List UInt8} {point : Nat}
    (sequence : Sequence bytes point) (rest : List UInt8) :
    plainNulls (bytes ++ rest) = pointBytes point ++ plainNulls rest := by
  have valid := sequence.point_lt
  rcases sequence.eq_pointBytes with rfl | ⟨rfl, rfl⟩
  · by_cases null : point = 0
    · subst null
      exact plainNulls_cons (by decide) rest
    · apply ModifiedUtf8.plainNulls_append
      exact fun lead => (byte_of_pointBytes valid null _ lead).1 rfl
  · rfl

theorem encode_cons (point : Nat) (points : Text) :
    encode (point :: points) .utf8 = pointBytes point ++ encode points .utf8 :=
  List.flatMap_cons

/-- Replacing `C0 80` turns well-formed sequences into the UTF-8 of their characters, and nothing
else into UTF-8. -/
theorem sequences_iff {bytes : List UInt8} {points : Text} :
    Sequences bytes points ↔
      (∀ point ∈ points, point < 0x110000) ∧ encode points .utf8 = plainNulls bytes := by
  constructor
  · intro sequences
    refine ⟨sequences.point_lt, ?_⟩
    induction sequences with
    | nil => rfl
    | cons first later ih => rw [first.plainNulls_append, ← ih, encode_cons]
  · rintro ⟨valid, same⟩
    induction points generalizing bytes with
    | nil =>
      obtain rfl := eq_nil_of_plainNulls same.symm
      exact .nil
    | cons point points ih =>
      obtain ⟨first, others⟩ := List.forall_mem_cons.mp valid
      rw [encode_cons] at same
      by_cases null : point = 0
      · subst null
        rcases plainNulls_eq_cons same.symm with ⟨rest, rfl, later⟩ | ⟨-, rest, rfl, later⟩
        · exact .cons (sequence_pointBytes first) (ih others later.symm)
        · exact .cons .null (ih others later.symm)
      · have absent : 0 ∉ pointBytes point :=
          fun zero => (byte_of_pointBytes first null _ zero).2 rfl
        obtain ⟨rest, rfl, later⟩ := exists_of_plainNulls_eq_append absent same.symm
        exact .cons (sequence_pointBytes first) (ih others later.symm)

/-- Reading in one go and in passes is the same. -/
theorem decode?_eq_some_iff_readInPasses {bytes : List UInt8} {text : Text} :
    decode? bytes = some text ↔ ReadInPasses bytes text := by
  rw [decode?_eq_some_iff]
  apply exists_congr
  intro points
  rw [sequences_iff, and_assoc]
  apply and_congr_right
  intro valid
  rw [joinPairs_units_eq valid]

/-- The bytes of any code units are read as the one text that has these code units and no pair of
surrogates apart: pairs are joined, lone halves are kept. -/
theorem decode?_codeUnits (codeUnits : List UInt16) :
    ∃ text, decode? ((codeUnits.map UInt16.toNat).flatMap unitBytes) = some text ∧
      text = joinPairs (codeUnits.map UInt16.toNat) ∧
      units text = codeUnits.map UInt16.toNat ∧ PairFree text ∧
      (∀ point ∈ text, point < 0x110000) ∧
      ReadInPasses ((codeUnits.map UInt16.toNat).flatMap unitBytes) text := by
  have valid : ∀ unit ∈ codeUnits.map UInt16.toNat, unit < 0x10000 := by
    rw [List.forall_mem_map]
    exact fun unit _ => unit.toNat_lt
  have read : decode? ((codeUnits.map UInt16.toNat).flatMap unitBytes) =
      some (joinPairs (codeUnits.map UInt16.toNat)) := by
    rw [decode?, points?_flatMap fun unit present => points?_unitBytes (valid unit present),
      Option.map_some]
  refine ⟨_, read, rfl, ?_, pairFree_joinPairs _, ?_, decode?_eq_some_iff_readInPasses.mp read⟩
  · rw [units_joinPairs, units_eq_self valid]
  · exact joinPairs_lt fun unit present => Nat.lt_trans (valid unit present) (by decide)

end ClassOutline.ModifiedUtf8
